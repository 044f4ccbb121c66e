import Playtime.Proofs.Ledger.Files
import Playtime.Proofs.Replication.Runs
import Playtime.Proofs.Replication.Tendency

namespace Playtime.Replication

variable {σ : Type} [Ledger σ] {id : PlayerId} {total : Int64}

theorem Link.Tends.step {network : Network σ} {number : Nat} {link : Link}
    (tends : link.Tends id total) (found : network.links[number]? = some link) (event : Event)
    (onLink : event.OnLink) (steady : Steady id total network.hub) :
    ∃ after, (network.step event).links[number]? = some after ∧ after.Tends id total := by
  cases event with
  | call call => cases onLink
  | turn other turn =>
    by_cases same : other = number
    · subst same
      exact ⟨_, network.links_step_same other link turn found, tends.turn network.hub turn steady⟩
    · exact ⟨link, (network.links_step_other number other turn same).trans found, tends⟩

/-- The hub has acted on a question of this link for a player, and has credited nothing to the player since. -/
def AskedLast (number : Nat) (id : PlayerId) (deeds : List Deed) : Prop :=
  ∃ earlier deed later, deeds = earlier ++ deed :: later ∧ deed.link = number ∧ deed.message = ⟨id, .get⟩ ∧
    ∀ other ∈ later, other.credit id = 0

/-- The dependent of this link has asked for a player, and has passed on no credit for the player since. -/
def Network.AsksLast (network : Network σ) (number : Nat) (id : PlayerId) (events : List Event) : Prop :=
  ∃ first event second, events = first ++ event :: second ∧
    ⟨id, .get⟩ ∈ (network.run first).sent number [event] ∧ ∀ delta, .turn number (.add id delta) ∉ second

theorem credit_of_other (deed : Deed) (other : ∀ delta, deed.message ≠ ⟨id, .add delta⟩) : deed.credit id = 0 := by
  obtain ⟨link, ⟨player, command⟩, outcome⟩ := deed
  unfold Deed.credit
  cases command with
  | get => rfl
  | send seconds => rfl
  | add delta =>
    have differs : player ≠ id := by
      rintro rfl
      exact other delta rfl
    cases outcome <;> simp [differs]

theorem Network.AsksLast.asked {network : Network σ} {events : List Event} (asks : network.AsksLast 0 id events)
    (alone : network.links.length = 1) (all : network.sent 0 events = heardFrom 0 (network.deeds events)) :
    AskedLast 0 id (network.deeds events) := by
  obtain ⟨first, event, second, parts, question, silent⟩ := asks
  have zero : ∀ deed ∈ network.deeds events, deed.link = 0 := by
    intro deed member
    have below := network.links_deeds events deed member
    omega
  have everyone : heardFrom 0 (network.deeds events) = (network.deeds events).map Deed.message := by
    unfold heardFrom
    rw [List.filter_eq_self.mpr fun deed member => decide_eq_true (zero deed member)]
  have noCredit (delta : Int64) : ⟨id, .add delta⟩ ∉ (network.run first).sent 0 [event] :=
    (network.run first).sent_questions 0 event id id delta question
  obtain ⟨before, after, sends⟩ := List.append_of_mem question
  rw [everyone, parts, Network.sent_append, Network.sent_cons, sends, List.append_assoc, List.cons_append,
    ← List.append_assoc] at all
  rw [parts]
  obtain ⟨earlier, others, split, -, rest⟩ := List.map_eq_append_iff.mp all.symm
  obtain ⟨deed, later, rfl, message, tail⟩ := List.map_eq_cons_iff.mp rest
  refine ⟨earlier, deed, later, split, ?_, message, fun other member => credit_of_other other fun delta same => ?_⟩
  · apply zero
    rw [parts, split]
    simp
  · have inside : ⟨id, .add delta⟩ ∈ later.map Deed.message := List.mem_map.mpr ⟨other, member, same⟩
    rw [tail] at inside
    rcases List.mem_append.mp inside with near | far
    · apply noCredit delta
      rw [sends]
      simp [near]
    · exact silent delta (Network.mem_sent_add _ 0 second id delta far)

variable [LawfulLedger σ]

theorem Steady.step {network : Network σ} (steady : Steady id total network.hub) (idle : Idle id network.hub)
    (event : Event) (onLink : event.OnLink) (nothing : ∀ deed ∈ network.deed? event, deed.credit id = 0) :
    Steady id total (network.step event).hub := by
  cases event with
  | call call => cases onLink
  | turn number turn =>
    rcases network.step_cases number turn with ⟨same, -⟩ | ⟨now, message, done, after⟩
    · rwa [same]
    · rw [after]
      exact steady.answer idle number now message (nothing _ done)

theorem Link.Tends.run (network : Network σ) (number : Nat) (link : Link) (events : List Event)
    (tends : link.Tends id total) (found : network.links[number]? = some link)
    (onLinks : ∀ event ∈ events, event.OnLink) (idle : Idle id network.hub) (steady : Steady id total network.hub)
    (nothing : ∀ deed ∈ network.deeds events, deed.credit id = 0) :
    Steady id total (network.run events).hub ∧
      ∃ after, (network.run events).links[number]? = some after ∧ after.Tends id total := by
  induction events generalizing network link with
  | nil => exact ⟨steady, link, found, tends⟩
  | cons event later ih =>
    have onLink := onLinks event (by simp)
    obtain ⟨next, met, tending⟩ := tends.step found event onLink steady
    have first : ∀ deed ∈ network.deed? event, deed.credit id = 0 := by
      intro deed done
      exact nothing deed (List.mem_append_left _ (Option.mem_toList.mpr done))
    have rest : ∀ deed ∈ (network.step event).deeds later, deed.credit id = 0 := by
      intro deed done
      exact nothing deed (List.mem_append_right _ done)
    exact ih (network.step event) next tending met (fun other member => onLinks other (List.mem_cons_of_mem _ member))
      (network.idle_step event id onLink idle) (steady.step idle event onLink first) rest

theorem Link.Tends.of_deed (network : Network σ) (event : Event) (deed : Deed)
    (done : network.deed? event = some deed) (question : deed.message = ⟨id, .get⟩)
    (answered : deed.outcome.isOk = true)
    (heard : ∀ link ∈ network.links[deed.link]?, link.dependent.isHeard = true) (idle : Idle id network.hub) :
    ∃ total, Steady id total (network.step event).hub ∧
      ∃ after, (network.step event).links[deed.link]? = some after ∧ after.Tends id total := by
  cases event with
  | call call => cases done
  | turn number turn =>
    cases found : network.links[number]? with
    | none => simp [Network.deed?, found] at done
    | some link =>
      rw [network.deed?_turn number link turn found] at done
      rcases link.turn_cases number network.hub turn with
        ⟨-, nothing⟩ | ⟨now, frame, rest, message, rfl, waiting, read, happened, after⟩
      · rw [nothing] at done
        cases done
      · rw [happened] at done
        cases done
        have same : message = ⟨id, .get⟩ := question
        subst same
        have hub : (network.step (.turn number (.ask now))).hub = network.hub := by
          rw [network.step_turn number link _ found, after]
          rfl
        cases told : network.hub.1.seconds network.hub.2 id now with
        | error error => simp [deedOf, Hub.answer, told, Except.map, Except.isOk, Except.toBool] at answered
        | ok total =>
          refine ⟨total, ?_, _, network.links_step_same number link _ found, ?_⟩
          · rw [hub]
            exact idle.steady now told
          · exact Tends.answered (heard link found) network.hub now frame rest waiting read told

theorem AskedLast.known (hub : Sessions × σ) (count number : Nat) (events : List Event) (link : Link)
    (asked : AskedLast number id ((Network.opened hub count).deeds events))
    (answered : ∀ deed ∈ (Network.opened hub count).deeds events,
      deed.message = ⟨id, .get⟩ → deed.outcome.isOk = true)
    (onLinks : ∀ event ∈ events, event.OnLink) (idle : Idle id hub)
    (reached : ((Network.opened hub count).run events).links[number]? = some link)
    (up : link.upward = []) (down : link.downward = []) (tracks : id ∈ link.dependent.tracked) :
    ∃ total, link.dependent.tracked[id]? = some ⟨total, .known⟩ ∧
      Steady id total ((Network.opened hub count).run events).hub := by
  obtain ⟨earlier, deed, later, split, rfl, question, nothing⟩ := asked
  have ok := answered deed (by simp [split]) question
  obtain ⟨first, event, second, parts, done, others⟩ := Network.deeds_split _ events earlier later deed split
  have onFirst : ∀ event ∈ first, event.OnLink := fun event member => onLinks event (by simp [parts, member])
  have onEvent : event.OnLink := onLinks event (by simp [parts])
  have onSecond : ∀ event ∈ second, event.OnLink := fun event member => onLinks event (by simp [parts, member])
  have idle₁ := (Network.opened hub count).idle_run first id onFirst idle
  have heard : ∀ link ∈ ((Network.opened hub count).run first).links[deed.link]?, link.dependent.isHeard = true :=
    fun link found => (Network.sent_opened hub count deed.link first link found).1
  obtain ⟨total, steady, near, found, tends⟩ := Link.Tends.of_deed _ event deed done question ok heard idle₁
  have idle₂ := Network.idle_step _ event id onEvent idle₁
  rw [← others] at nothing
  obtain ⟨still, last, arrived, tending⟩ :=
    Link.Tends.run _ deed.link near second tends found onSecond idle₂ steady nothing
  have whole : (Network.opened hub count).run events =
      (((Network.opened hub count).run first).step event).run second := by
    rw [parts, Network.run_append]
    rfl
  rw [whole] at reached ⊢
  rw [reached] at arrived
  cases arrived
  exact ⟨total, tending.known up down tracks, still⟩

/--
However dependents and frames take turns, the total of a player without a session at the hub is what it was at first
and every credit that the hub has accepted, once, and the hub has acted on the messages of each dependent in order, on
each of them once. A dependent that tracks the player, with no frame on its way to it or from it, holds exactly the
hub's total if the hub has acted on a question of it since it last changed the total, and if it is the only one, as
soon as it has asked since it last passed on a credit.
-/
theorem replication_converges (hub : Sessions × σ) (count : Nat) (events : List Event) (id : PlayerId)
    (sound : LawfulLedger.Sound hub.2) (isOpen : LawfulLedger.IsOpen hub.2) (closed : hub.1.started[id]? = none)
    (onLinks : ∀ event ∈ events, event.OnLink)
    (answered : ∀ deed ∈ (Network.opened hub count).deeds events,
      deed.message = ⟨id, .get⟩ → deed.outcome.isOk = true) :
    let network := Network.opened hub count
    let reached := network.run events
    let deeds := network.deeds events
    Sessions.saved reached.hub id = Sessions.saved hub id + credited id deeds ∧
    (∀ now, Sessions.Readable reached.hub id now → ∃ total, reached.hub.1.seconds reached.hub.2 id now = .ok total ∧
      total.toInt = Sessions.saved hub id + credited id deeds) ∧
    ∀ number link, reached.links[number]? = some link →
      network.sent number events = heardFrom number deeds ++ messages link.upward ∧
      (link.upward = [] → link.downward = [] → id ∈ link.dependent.tracked →
        AskedLast number id deeds ∨ (count = 1 ∧ network.AsksLast number id events) →
        ∃ total, link.dependent.tracked[id]? = some ⟨total, .known⟩ ∧
          ∀ now, reached.hub.1.seconds reached.hub.2 id now = .ok total) := by
  intro network reached deeds
  have idle : Idle id hub := ⟨sound, isOpen, closed⟩
  have total : Sessions.saved reached.hub id = Sessions.saved hub id + credited id deeds :=
    network.saved_run events id onLinks idle
  have after := network.idle_run events id onLinks idle
  refine ⟨total, fun now readable => ?_, fun number link found => ?_⟩
  · obtain ⟨seconds, read, exact⟩ := Sessions.seconds_of_readable reached.hub id now after.isOpen readable
    have none := Sessions.live_of_none reached.hub.1 id now after.closed
    rw [none, total] at exact
    exact ⟨seconds, read, by simpa using exact⟩
  · have all := (Network.sent_opened hub count number events link found).2
    refine ⟨all, fun up down tracks asked => ?_⟩
    have last : AskedLast number id deeds := by
      rcases asked with asked | ⟨alone, asks⟩
      · exact asked
      · obtain ⟨inside, -⟩ := List.getElem?_eq_some_iff.mp found
        have single : network.links.length = 1 := by simp [network, Network.opened, alone]
        rw [network.length_run, single] at inside
        have first : number = 0 := by omega
        subst first
        rw [up, messages_nil, List.append_nil] at all
        exact asks.asked single all
    exact last.known hub count number events link answered onLinks idle found up down tracks

/--
The dependent leaves and joins again while an answer is on its way, and that answer arrives after the dependent has
passed on a credit.
-/
theorem replication_converges_past_stale_answer :
    let player : PlayerId := ⟨7⟩
    let hub := (Sessions.empty, TimeFile.inWorkingDirectory [])
    let events : List Event := [.turn 0 (.join player), .turn 0 (.ask 0), .turn 0 (.leave player),
      .turn 0 (.join player), .turn 0 (.add player 60), .turn 0 .tell, .turn 0 .poll, .turn 0 (.ask 1),
      .turn 0 (.ask 2), .turn 0 (.ask 3), .turn 0 .tell, .turn 0 .tell]
    let reached := (Network.opened hub 1).run events
    Sessions.saved reached.hub player = 60 ∧ ∃ link, reached.links[0]? = some link ∧
      link.dependent.tracked[player]? = some ⟨60, .known⟩ ∧
      ∀ now, reached.hub.1.seconds reached.hub.2 player now = .ok 60 := by
  intro player hub events
  have isOpen : LawfulLedger.IsOpen hub.2 := by
    show (TimeFile.inWorkingDirectory []).1.isOpen = true
    decide +kernel
  have onLinks : ∀ event ∈ events, event.OnLink := by simp [events, Event.OnLink]
  have answered : ∀ deed ∈ (Network.opened hub 1).deeds events,
      deed.message = ⟨player, .get⟩ → deed.outcome.isOk = true := by decide +kernel
  obtain ⟨total, -, links⟩ := replication_converges hub 1 events player trivial isOpen (by decide +kernel) onLinks
    answered
  have asks : (Network.opened hub 1).AsksLast 0 player events :=
    ⟨events.take 6, .turn 0 .poll, events.drop 7, rfl, by decide +kernel, by simp [events]⟩
  have linked : (((Network.opened hub 1).run events).links[0]?).isSome = true := by decide +kernel
  obtain ⟨link, found⟩ := Option.isSome_iff_exists.mp linked
  have idle : (((Network.opened hub 1).run events).links[0]?).all
      (fun link => link.upward = [] ∧ link.downward = [] ∧ link.dependent.tracked.contains player) = true := by
    decide +kernel
  have shown : (((Network.opened hub 1).run events).links[0]?).bind (·.dependent.seconds? player) = some 60 := by
    decide +kernel
  rw [found] at idle shown
  obtain ⟨up, down, tracks⟩ := of_decide_eq_true idle
  obtain ⟨seconds, known, reads⟩ := (links 0 link found).2 up down (Std.ExtTreeMap.contains_iff_mem.mp tracks)
    (.inr ⟨rfl, asks⟩)
  have sixty : seconds = 60 := by simpa [Dependent.seconds?, known] using shown
  subst sixty
  exact ⟨total.trans (by decide +kernel), link, found, known, reads⟩

end Playtime.Replication
