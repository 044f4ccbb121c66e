import Playtime.Proofs.Ledger.Files
import Playtime.Proofs.Replication.Arrivals

namespace Playtime.Replication

variable {σ : Type} [Ledger σ]

/-- Something begins in these events and does not end afterwards. -/
def Lasts {α : Type} (begins ends : α) (events : List α) : Prop :=
  ∃ first later, events = first ++ begins :: later ∧ ends ∉ later

theorem not_lasts_nil {α : Type} (begins ends : α) : ¬ Lasts begins ends [] := by
  rintro ⟨first, later, split, -⟩
  simp at split

theorem lasts_cons {α : Type} (begins ends event : α) (later : List α) :
    Lasts begins ends (event :: later) ↔ Lasts begins ends later ∨ event = begins ∧ ends ∉ later := by
  constructor
  · rintro ⟨first, rest, split, stays⟩
    cases first with
    | nil =>
      cases split
      exact .inr ⟨rfl, stays⟩
    | cons head first =>
      cases split
      exact .inl ⟨first, rest, rfl, stays⟩
  · rintro (⟨first, rest, rfl, stays⟩ | ⟨rfl, stays⟩)
    · exact ⟨event :: first, rest, rfl, stays⟩
    · exact ⟨[], later, rfl, stays⟩

def Tracked.after (entry : Tracked) (arrivals : List Arrival) : Tracked :=
  match arrivals.getLast? with
  | some arrival => ⟨arrival.total, .known⟩
  | none => entry

def applied (arrivals : List Arrival) : List Int64 := (arrivals.filter Arrival.taken).map Arrival.total

theorem Tracked.after_append (entry : Tracked) (first second : List Arrival) :
    entry.after (first ++ second) = (entry.after first).after second := by
  unfold after
  rw [List.getLast?_append]
  cases second.getLast? <;> rfl

@[simp] theorem applied_append (first second : List Arrival) :
    applied (first ++ second) = applied first ++ applied second := by
  simp [applied]

theorem Dependent.tracked_join_self (dependent : Dependent) (id : PlayerId) :
    (dependent.join id).1.tracked[id]? = some (dependent.tracked[id]?.getD ⟨0, .pending⟩) := by
  show (dependent.tracked.insertIfNew id ⟨0, .pending⟩)[id]? = _
  rw [Std.ExtTreeMap.getElem?_insertIfNew]
  by_cases present : id ∈ dependent.tracked
  · rw [if_neg fun fresh => fresh.2 present]
    obtain ⟨entry, known⟩ := Option.isSome_iff_exists.mp (Std.ExtTreeMap.isSome_getElem?_iff_mem.mpr present)
    rw [known]
    rfl
  · rw [if_pos ⟨Std.ReflCmp.compare_self, present⟩, Std.ExtTreeMap.getElem?_eq_none present]
    rfl

theorem Link.tracked_turn (link : Link) (hub : Sessions × σ) (turn : Turn) (id : PlayerId) :
    (link.turn hub turn).1.dependent.tracked[id]? =
      if turn = .join id then some (link.dependent.tracked[id]?.getD ⟨0, .pending⟩)
      else if turn = .leave id then none
      else link.dependent.tracked[id]?.map fun entry => entry.after (link.arrival? id turn).toList := by
  cases turn with
  | join player =>
    by_cases same : player = id
    · subst same
      rw [if_pos rfl]
      exact link.dependent.tracked_join_self player
    · simp [turn, Link.join, send, Dependent.join, Std.ExtTreeMap.getElem?_insertIfNew, same, arrival?, Tracked.after]
  | leave player =>
    by_cases same : player = id
    · subst same
      simp [turn, Link.leave, Dependent.leave]
    · simp [turn, Link.leave, Dependent.leave, Std.ExtTreeMap.getElem?_erase, same, arrival?, Tracked.after]
  | add player delta => simp [turn, add, send, arrival?, Tracked.after]
  | poll => simp [turn, poll, send, arrival?, Tracked.after]
  | ask now =>
    cases waiting : link.upward <;> simp [turn, ask, waiting, arrival?, Tracked.after]
  | tell =>
    cases waiting : link.downward with
    | nil => simp [turn, tell, waiting, arrival?, Tracked.after]
    | cons frame rest =>
      cases read : Message.decode frame with
      | error fault => simp [turn, tell, waiting, arrival?, Tracked.after, read, receive_fault _ frame fault read]
      | ok message =>
        have applied := Dependent.tracked_apply link.dependent message id
        cases told : message.total? id <;>
          simp [turn, tell, waiting, arrival?, Tracked.after, read, receive_message _ frame message read, applied, told]

theorem Link.taken_of_arrival? {link : Link} {id : PlayerId} {turn : Turn} {arrival : Arrival}
    (arrived : link.arrival? id turn = some arrival) :
    arrival.taken = link.dependent.tracked[id]?.isSome := by
  unfold arrival? at arrived
  split at arrived
  · split at arrived
    · cases arrived
    · split at arrived
      · cases arrived
      · obtain ⟨total, -, rfl⟩ := Option.map_eq_some_iff.mp arrived
        exact Std.ExtTreeMap.contains_eq_isSome_getElem?
  · cases arrived

namespace Network

def shown? (network : Network σ) (number : Nat) (id : PlayerId) : Option Tracked :=
  network.links[number]?.bind fun link => link.dependent.tracked[id]?

omit [Ledger σ] in
theorem taken_of_arrival? {network : Network σ} {number : Nat} {id : PlayerId} {event : Event} {arrival : Arrival}
    (arrived : network.arrival? number id event = some arrival) :
    arrival.taken = (network.shown? number id).isSome := by
  cases event with
  | call call => cases arrived
  | turn other turn =>
    by_cases same : other = number
    · simp only [arrival?, same, if_true] at arrived
      obtain ⟨link, found, arrived⟩ := Option.bind_eq_some_iff.mp arrived
      simp [shown?, found, Link.taken_of_arrival? arrived]
    · simp [arrival?, same] at arrived

theorem shown?_step (network : Network σ) (number : Nat) (id : PlayerId) (event : Event)
    (linked : number < network.links.length) :
    (network.step event).shown? number id =
      if event = .turn number (.join id) then some ((network.shown? number id).getD ⟨0, .pending⟩)
      else if event = .turn number (.leave id) then none
      else (network.shown? number id).map fun entry => entry.after (network.arrival? number id event).toList := by
  have found := List.getElem?_eq_getElem linked
  cases event with
  | call call => simp [step, shown?, arrival?, Tracked.after]
  | turn other turn =>
    by_cases same : other = number
    · subst same
      have moved := links_step_same network other _ turn found
      simpa [shown?, moved, found, arrival?] using Link.tracked_turn network.links[other] network.hub turn id
    · have kept := links_step_other network number other turn same
      simp [shown?, kept, arrival?, same, Tracked.after]

/-- In these events the player joins the dependent of a link and does not leave it afterwards. -/
def JoinsToStay (number : Nat) (id : PlayerId) (events : List Event) : Prop :=
  ∃ first later, events = first ++ .turn number (.join id) :: later ∧ .turn number (.leave id) ∉ later

theorem shown?_run (network : Network σ) (number : Nat) (id : PlayerId) (entry : Tracked) (events : List Event)
    (linked : number < network.links.length) (known : network.shown? number id = some entry)
    (stays : .turn number (.leave id) ∉ events) :
    (network.run events).shown? number id = some (entry.after (network.arrivals number id events)) := by
  induction events generalizing network entry with
  | nil => exact known
  | cons event later ih =>
    rw [List.mem_cons, not_or] at stays
    obtain ⟨differs, stays⟩ := stays
    have next : (network.step event).shown? number id =
        some (entry.after (network.arrival? number id event).toList) := by
      rw [shown?_step network number id event linked, known, if_neg (Ne.symm differs)]
      split
      -- To join once more keeps the entry.
      · next joins =>
        subst joins
        simp [arrival?, Link.arrival?, Tracked.after]
      · rfl
    have rest := ih (network.step event) _ (by rwa [length_step]) next stays
    rw [arrivals, Tracked.after_append]
    exact rest

theorem not_joinsToStay_nil (number : Nat) (id : PlayerId) : ¬ JoinsToStay number id [] :=
  not_lasts_nil (Event.turn number (.join id)) (.turn number (.leave id))

theorem joinsToStay_cons (number : Nat) (id : PlayerId) (event : Event) (later : List Event) :
    JoinsToStay number id (event :: later) ↔
      JoinsToStay number id later ∨ event = .turn number (.join id) ∧ .turn number (.leave id) ∉ later :=
  lasts_cons (Event.turn number (.join id)) (.turn number (.leave id)) event later

theorem isSome_shown?_run (network : Network σ) (number : Nat) (id : PlayerId) (events : List Event)
    (linked : number < network.links.length) :
    ((network.run events).shown? number id).isSome = true ↔
      JoinsToStay number id events ∨
        (network.shown? number id).isSome = true ∧ .turn number (.leave id) ∉ events := by
  induction events generalizing network with
  | nil => simp [run, not_joinsToStay_nil]
  | cons event later ih =>
    have step := shown?_step network number id event linked
    rw [joinsToStay_cons]
    refine (ih (network.step event) (by rwa [length_step])).trans ?_
    rw [step]
    by_cases joins : event = .turn number (.join id)
    · simpa [joins] using fun _ stays => .inr stays
    · by_cases leaves : event = .turn number (.leave id)
      · simp [leaves]
      · simp [joins, leaves, Ne.symm leaves]

theorem applied_of_step (network : Network σ) (number : Nat) (id : PlayerId) (total : Int64) (event : Event)
    (linked : number < network.links.length)
    (known : (network.step event).shown? number id = some ⟨total, .known⟩) :
    applied (network.arrival? number id event).toList = [total] ∨
      applied (network.arrival? number id event).toList = [] ∧ network.shown? number id = some ⟨total, .known⟩ := by
  rw [shown?_step network number id event linked] at known
  by_cases joins : event = .turn number (.join id)
  · subst joins
    -- An entry made by a join is pending, so the known one was there before.
    right
    refine ⟨by simp [arrival?, Link.arrival?, applied], ?_⟩
    cases before : network.shown? number id with
    | none => simp [before] at known
    | some entry => simpa [before] using known
  · rw [if_neg joins] at known
    split at known
    · cases known
    · obtain ⟨entry, before, shown⟩ := Option.map_eq_some_iff.mp known
      cases arrived : network.arrival? number id event with
      | none =>
        rw [arrived] at shown
        exact .inr ⟨rfl, before.trans (congrArg some shown)⟩
      | some arrival =>
        rw [arrived] at shown
        have taken := taken_of_arrival? arrived
        have same : arrival.total = total := congrArg Tracked.seconds shown
        left
        simp [applied, taken, before, same]

theorem applied_of_known (network : Network σ) (number : Nat) (id : PlayerId) (total : Int64) (events : List Event)
    (linked : number < network.links.length)
    (known : (network.run events).shown? number id = some ⟨total, .known⟩) :
    (applied (network.arrivals number id events)).getLast? = some total ∨
      applied (network.arrivals number id events) = [] ∧ network.shown? number id = some ⟨total, .known⟩ := by
  induction events generalizing network with
  | nil => exact .inr ⟨rfl, known⟩
  | cons event later ih =>
    rw [arrivals, applied_append]
    rcases ih (network.step event) (by rwa [length_step]) known with last | ⟨nothing, shown⟩
    · left
      rw [List.getLast?_append, last]
      rfl
    · rw [nothing, List.append_nil]
      rcases applied_of_step network number id total event linked shown with taken | ⟨nothing, before⟩
      · exact .inl (by rw [taken]; rfl)
      · exact .inr ⟨nothing, before⟩

omit [Ledger σ] in
theorem shown?_opened (hub : Sessions × σ) (count number : Nat) (id : PlayerId) :
    (opened hub count).shown? number id = none := by
  unfold shown? opened
  rw [List.getElem?_replicate]
  split <;> rfl

theorem shown?_step_add (network : Network σ) (number other : Nat) (id player : PlayerId) (delta : Int64)
    (linked : number < network.links.length) :
    (network.step (.turn other (.add player delta))).shown? number id = network.shown? number id := by
  have nothing : network.arrival? number id (.turn other (.add player delta)) = none := by
    simp [arrival?, Link.arrival?]
  rw [shown?_step network number id _ linked, if_neg (by simp), if_neg (by simp), nothing]
  exact Option.map_id'

end Network

/--
However dependents, frames and calls on the hub take turns, a dependent that knows a total of a player has taken it in
last, and the hub has read it for a question of this dependent. An entry that has just been made is zero and pending,
and shows the last total that has arrived from then on. The dependent has an entry for the players who have joined and
not left since, and for no others, whatever arrives. The totals that have arrived and those on their way are those that
the hub has read, in the same order. A credit that any dependent passes on changes no entry.
-/
theorem shown_totals_were_read (hub : Sessions × σ) (count number : Nat) (events : List Event) (id : PlayerId)
    (link : Link) (reached : ((Network.opened hub count).run events).links[number]? = some link) :
    let network := Network.opened hub count
    let arrivals := network.arrivals number id events
    (∀ total, link.dependent.tracked[id]? = some ⟨total, .known⟩ →
      (applied arrivals).getLast? = some total ∧ network.Answered number id total events) ∧
    (∀ first later, events = first ++ .turn number (.join id) :: later → .turn number (.leave id) ∉ later →
      (network.run first).shown? number id = none →
      link.dependent.tracked[id]? = some (Tracked.after ⟨0, .pending⟩
        (((network.run first).step (.turn number (.join id))).arrivals number id later))) ∧
    (id ∈ link.dependent.tracked ↔ Network.JoinsToStay number id events) ∧
    network.answers number id events = arrivals.map Arrival.total ++ totalsOf id link.downward ∧
    ∀ other player delta, ((network.run events).step (.turn other (.add player delta))).shown? number id =
      link.dependent.tracked[id]? := by
  intro network arrivals
  have fresh : network.shown? number id = none := Network.shown?_opened hub count number id
  have shown : (network.run events).shown? number id = link.dependent.tracked[id]? := by
    simp [Network.shown?, network, reached]
  obtain ⟨inside, -⟩ := List.getElem?_eq_some_iff.mp reached
  have linked : number < network.links.length := by rwa [Network.length_run] at inside
  have start : network.links[number]? = some (Link.opened (some 0)) := by
    simp only [network, Network.opened, List.length_replicate] at linked ⊢
    exact List.getElem?_replicate_of_lt linked
  have order : network.answers number id events = arrivals.map Arrival.total ++ totalsOf id link.downward := by
    obtain ⟨after, found, order⟩ := network.totals_run number id events _ start
    rw [reached] at found
    cases found
    exact order
  refine ⟨fun total known => ?_, fun first later split stays absent => ?_, ?_, order, fun other player delta => ?_⟩
  · rw [← shown] at known
    rcases network.applied_of_known number id total events linked known with last | ⟨-, before⟩
    · refine ⟨last, network.answered_of_mem number id total events ?_⟩
      rw [order]
      apply List.mem_append_left
      obtain ⟨arrival, member, rfl⟩ := List.mem_map.mp (List.mem_of_getLast? last)
      exact List.mem_map_of_mem (List.mem_filter.mp member).1
    · rw [fresh] at before
      cases before
  · have below : number < (network.run first).links.length := by rwa [Network.length_run]
    have joined := (network.run first).shown?_step number id (.turn number (.join id)) below
    rw [if_pos rfl, absent] at joined
    rw [← shown, split, Network.run_append]
    exact Network.shown?_run _ number id _ later (by rwa [Network.length_step]) joined stays
  · rw [← Std.ExtTreeMap.isSome_getElem?_iff_mem, ← shown, network.isSome_shown?_run number id events linked]
    simp [fresh]
  · rw [Network.shown?_step_add _ number other id player delta (by rwa [Network.length_run]), shown]

/-- The first answer comes after the player has left; the player then joins again during a session at the hub. -/
theorem shown_totals_were_read_past_late_answer :
    let player : PlayerId := ⟨7⟩
    let network := Network.opened (Sessions.empty, TimeFile.inWorkingDirectory []) 1
    let events : List Event := [.call (.start player 0), .turn 0 (.join player), .turn 0 (.ask 5000),
      .turn 0 (.leave player), .turn 0 .tell, .turn 0 (.join player), .turn 0 (.add player 60), .turn 0 (.ask 9500),
      .turn 0 .tell]
    (network.run (events.take 5)).shown? 0 player = none ∧
      (network.run events).shown? 0 player = some ⟨9, .known⟩ ∧ network.Answered 0 player 9 events ∧
      network.answers 0 player events = [5, 9] := by
  intro player network events
  have early : ((network.run (events.take 5)).links[0]?).isSome = true := by decide +kernel
  have late : ((network.run events).links[0]?).isSome = true := by decide +kernel
  obtain ⟨left, reachedLeft⟩ := Option.isSome_iff_exists.mp early
  obtain ⟨last, reachedLast⟩ := Option.isSome_iff_exists.mp late
  have shown : (network.run events).shown? 0 player = some ⟨9, .known⟩ := by decide +kernel
  obtain ⟨-, -, tracks, -⟩ := shown_totals_were_read _ 1 0 (events.take 5) player left reachedLeft
  obtain ⟨known, -⟩ := shown_totals_were_read _ 1 0 events player last reachedLast
  have gone : ¬ Network.JoinsToStay 0 player (events.take 5) := by
    simp [events, Network.joinsToStay_cons, Network.not_joinsToStay_nil]
  refine ⟨?_, shown, (known 9 ?_).2, by decide +kernel⟩
  · have absent := Std.ExtTreeMap.getElem?_eq_none (mt tracks.mp gone)
    simpa [Network.shown?, reachedLeft] using absent
  · simpa [Network.shown?, reachedLast] using shown

end Playtime.Replication
