import Playtime.Proofs.Replication.Provenance

namespace Playtime.Replication

inductive Incident where
  | join (id : PlayerId)
  | leave (id : PlayerId)
  | add (id : PlayerId) (delta : Int64)
  | poll
  | arrive (frame : Frame)
  | hangUp
deriving DecidableEq, Repr

def Incident.frame? : Incident → Option Frame
  | .arrive frame => some frame
  | .join _ | .leave _ | .add _ _ | .poll | .hangUp => none

namespace Dependent

def meet (dependent : Dependent) : Incident → Dependent × List Frame
  | .join id => dependent.join id
  | .leave id => (dependent.leave id, [])
  | .add id delta => (dependent, dependent.add id delta)
  | .poll => (dependent, dependent.poll)
  | .arrive frame => (dependent.receive [frame], [])
  | .hangUp => (dependent.hangUp, [])

def after (dependent : Dependent) : List Incident → Dependent
  | [] => dependent
  | incident :: later => (dependent.meet incident).1.after later

def sends (dependent : Dependent) : List Incident → List Frame
  | [] => []
  | incident :: later => (dependent.meet incident).2 ++ (dependent.meet incident).1.sends later

end Dependent

def IsThere (id : PlayerId) (incidents : List Incident) : Prop := Lasts (.join id) (.leave id) incidents

/-- The incidents before and after the first join of a player since the player last left. -/
structure Began (id : PlayerId) (incidents before since : List Incident) : Prop where
  split : incidents = before ++ .join id :: since
  away : ¬ IsThere id before
  stays : .leave id ∉ since

def told (id : PlayerId) (incidents : List Incident) : List Int64 := totalsOf id (incidents.filterMap Incident.frame?)

/-- The messages that an incident calls for when others have come before it. -/
def CallsFor (before : List Incident) (messages : List Message) : Incident → Prop
  | .join id => messages = [⟨id, .get⟩]
  | .add id delta => messages = [⟨id, .add delta⟩]
  | .poll => ∃ ids : List PlayerId, messages = ids.map (⟨·, .get⟩) ∧ ids.Nodup ∧ ∀ id, id ∈ ids ↔ IsThere id before
  | .leave _ | .arrive _ | .hangUp => messages = []

/-- An entry after some totals of its player have arrived, the last of which it shows. -/
def Tracked.taking (entry : Tracked) (totals : List Int64) : Tracked :=
  match totals.getLast? with
  | some seconds => ⟨seconds, .known⟩
  | none => entry

theorem Tracked.taking_append (entry : Tracked) (first second : List Int64) :
    entry.taking (first ++ second) = (entry.taking first).taking second := by
  unfold taking
  rw [List.getLast?_append]
  cases second.getLast? <;> rfl

theorem told_cons (id : PlayerId) (incident : Incident) (later : List Incident) :
    told id (incident :: later) = told id [incident] ++ told id later := by
  unfold told
  rw [← totalsOf_append, ← List.filterMap_append]
  rfl

theorem told_of_silent (id : PlayerId) (incident : Incident) (silent : incident.frame? = none) :
    told id [incident] = [] := by
  unfold told
  rw [List.filterMap_cons_none silent]
  rfl

theorem told_of_message (id : PlayerId) (frame : Frame) (message : Message)
    (read : Message.decode frame = .ok message) : told id [.arrive frame] = (message.total? id).toList := by
  show totalsOf id [frame] = _
  rw [totalsOf, messages_of_message frame [] message read, List.filterMap_cons]
  cases message.total? id <;> rfl

theorem told_of_fault (id : PlayerId) (frame : Frame) (fault : FrameFault)
    (read : Message.decode frame = .error fault) : told id [.arrive frame] = [] := by
  show totalsOf id [frame] = _
  rw [totalsOf, messages_of_fault frame [] fault read]
  rfl

theorem exists_began (id : PlayerId) (incidents : List Incident) (there : IsThere id incidents) :
    ∃ before since, Began id incidents before since := by
  obtain ⟨before, since, rfl, stays⟩ := there
  -- An earlier join may be the first one; the incidents before the join at hand are fewer.
  by_cases earlier : IsThere id before
  · obtain ⟨first, rest, split, away, still⟩ := exists_began id before earlier
    refine ⟨first, rest ++ .join id :: since, by simp [split], away, ?_⟩
    simp [still, stays]
  · exact ⟨before, since, rfl, earlier, stays⟩
termination_by incidents.length

theorem total?_eq_some {id : PlayerId} {message : Message} {seconds : Int64} :
    message.total? id = some seconds ↔ message = ⟨id, .send seconds⟩ := by
  obtain ⟨player, command⟩ := message
  unfold Message.total?
  cases command <;> simp [and_comm]

namespace Dependent

theorem tracked_meet (dependent : Dependent) (incident : Incident) (id : PlayerId) :
    (dependent.meet incident).1.tracked[id]? =
      if incident = .join id then some (dependent.tracked[id]?.getD ⟨0, .pending⟩)
      else if incident = .leave id then none
      else dependent.tracked[id]?.map fun entry => entry.taking (told id [incident]) := by
  cases incident with
  | join player =>
    by_cases same : player = id
    · subst same
      rw [if_pos rfl]
      exact dependent.tracked_join_self player
    · simp [meet, join, Std.ExtTreeMap.getElem?_insertIfNew, same, told_of_silent id (.join player) rfl,
        Tracked.taking]
  | leave player =>
    by_cases same : player = id
    · subst same
      simp [meet, leave]
    · simp [meet, leave, Std.ExtTreeMap.getElem?_erase, same, told_of_silent id (.leave player) rfl,
        Tracked.taking]
  | add player delta => simp [meet, told_of_silent id (.add player delta) rfl, Tracked.taking]
  | poll => simp [meet, told_of_silent id .poll rfl, Tracked.taking]
  | hangUp => simp [meet, hangUp, told_of_silent id .hangUp rfl, Tracked.taking]
  | arrive frame =>
    cases read : Message.decode frame with
    | error fault =>
      simp [meet, receive_fault dependent frame fault read, told_of_fault id frame fault read, Tracked.taking]
    | ok message =>
      have applied := dependent.tracked_apply message id
      have arrived := told_of_message id frame message read
      cases total : message.total? id with
      | none =>
        simp [meet, receive_message dependent frame message read, applied, arrived, total, Tracked.taking]
      | some seconds =>
        simp [meet, receive_message dependent frame message read, applied, arrived, total, Tracked.taking]

theorem tracked_after_of_stays (dependent : Dependent) (id : PlayerId) (entry : Tracked) (incidents : List Incident)
    (known : dependent.tracked[id]? = some entry) (stays : .leave id ∉ incidents) :
    (dependent.after incidents).tracked[id]? = some (entry.taking (told id incidents)) := by
  induction incidents generalizing dependent entry with
  | nil => exact known
  | cons incident later ih =>
    rw [List.mem_cons, not_or] at stays
    obtain ⟨differs, stays⟩ := stays
    have next : (dependent.meet incident).1.tracked[id]? = some (entry.taking (told id [incident])) := by
      rw [tracked_meet, known, if_neg (Ne.symm differs)]
      split
      -- To join once more keeps the entry.
      · next joins =>
        subst joins
        rfl
      · rfl
    rw [told_cons, Tracked.taking_append]
    exact ih _ _ next stays

theorem isSome_tracked_after (dependent : Dependent) (id : PlayerId) (incidents : List Incident) :
    ((dependent.after incidents).tracked[id]?).isSome = true ↔
      IsThere id incidents ∨ (dependent.tracked[id]?).isSome = true ∧ .leave id ∉ incidents := by
  induction incidents generalizing dependent with
  | nil => simp [after, IsThere, not_lasts_nil]
  | cons incident later ih =>
    have step := dependent.tracked_meet incident id
    rw [IsThere, lasts_cons]
    refine (ih (dependent.meet incident).1).trans ?_
    rw [step]
    by_cases joins : incident = .join id
    · simpa [joins, IsThere] using fun _ stays => .inr stays
    · by_cases leaves : incident = .leave id
      · simp [leaves, IsThere]
      · simp [joins, leaves, Ne.symm leaves, IsThere]

theorem mem_tracked_after (id : PlayerId) (incidents : List Incident) :
    id ∈ (empty.after incidents).tracked ↔ IsThere id incidents := by
  rw [← Std.ExtTreeMap.isSome_getElem?_iff_mem, isSome_tracked_after]
  simp [empty]

theorem after_append (dependent : Dependent) (first second : List Incident) :
    dependent.after (first ++ second) = (dependent.after first).after second := by
  induction first generalizing dependent with
  | nil => rfl
  | cons incident first ih => exact ih _

theorem tracked_of_began (id : PlayerId) (incidents before since : List Incident)
    (began : Began id incidents before since) :
    (empty.after incidents).tracked[id]? = some (Tracked.taking ⟨0, .pending⟩ (told id since)) := by
  have absent : (empty.after before).tracked[id]? = none :=
    Std.ExtTreeMap.getElem?_eq_none (mt (mem_tracked_after id before).mp began.away)
  have joined := (empty.after before).tracked_meet (.join id) id
  rw [if_pos rfl, absent] at joined
  rw [began.split, after_append]
  exact tracked_after_of_stays _ id _ since joined began.stays

theorem tracked_receive_of_foreign (dependent : Dependent) (id : PlayerId) (frame : Frame)
    (foreign : ∀ seconds, Message.decode frame ≠ .ok ⟨id, .send seconds⟩) :
    (dependent.receive [frame]).tracked[id]? = dependent.tracked[id]? := by
  cases read : Message.decode frame with
  | error fault => rw [receive_fault dependent frame fault read]
  | ok message =>
    rw [receive_message dependent frame message read, tracked_apply]
    cases total : message.total? id with
    | none => rfl
    | some seconds => exact absurd (total?_eq_some.mp total ▸ read) (foreign seconds)

theorem tracked_rejoin (dependent : Dependent) (id : PlayerId) (known : id ∈ dependent.tracked) :
    (dependent.join id).1.tracked = dependent.tracked := by
  ext other entry
  show (dependent.tracked.insertIfNew id ⟨0, .pending⟩)[other]? = some entry ↔ _
  simp [Std.ExtTreeMap.getElem?_insertIfNew, known]

theorem isHeard_meet (dependent : Dependent) (incident : Incident) :
    (dependent.meet incident).1.isHeard = true ↔ incident ≠ .hangUp ∧ dependent.isHeard = true := by
  cases incident with
  | arrive frame => simpa [meet] using congrArg (· = true) (Link.isHeard_receive dependent frame)
  | join id => simp [meet, join]
  | leave id => simp [meet, leave]
  | add id delta => simp [meet]
  | poll => simp [meet]
  | hangUp => simp [meet, hangUp]

theorem isHeard_after (dependent : Dependent) (incidents : List Incident) :
    (dependent.after incidents).isHeard = true ↔ .hangUp ∉ incidents ∧ dependent.isHeard = true := by
  induction incidents generalizing dependent with
  | nil => simp [after]
  | cons incident later ih =>
    refine (ih _).trans ?_
    rw [isHeard_meet, List.mem_cons, not_or, Ne, eq_comm (a := Incident.hangUp)]
    exact ⟨fun ⟨quiet, other, heard⟩ => ⟨⟨other, quiet⟩, heard⟩, fun ⟨⟨other, quiet⟩, heard⟩ => ⟨quiet, other, heard⟩⟩

theorem sends_append (dependent : Dependent) (first second : List Incident) :
    dependent.sends (first ++ second) = dependent.sends first ++ (dependent.after first).sends second := by
  induction first generalizing dependent with
  | nil => rfl
  | cons incident first ih =>
    rw [List.cons_append, sends, ih, sends, List.append_assoc]
    rfl

theorem exists_callsFor (incidents : List Incident) (incident : Incident) :
    ∃ messages, CallsFor incidents messages incident ∧
      empty.sends (incidents ++ [incident]) = empty.sends incidents ++ (empty.after incidents).forward messages := by
  have silent (dependent : Dependent) : dependent.forward [] = [] := by simp [forward]
  have last : ((empty.after incidents).sends [incident]) = ((empty.after incidents).meet incident).2 :=
    List.append_nil _
  rw [sends_append, last]
  cases incident with
  | join id => exact ⟨[⟨id, .get⟩], rfl, rfl⟩
  | add id delta => exact ⟨[⟨id, .add delta⟩], rfl, rfl⟩
  | leave id => exact ⟨[], rfl, by rw [silent]; rfl⟩
  | arrive frame => exact ⟨[], rfl, by rw [silent]; rfl⟩
  | hangUp => exact ⟨[], rfl, by rw [silent]; rfl⟩
  | poll =>
    refine ⟨(empty.after incidents).tracked.keys.map (⟨·, .get⟩), ⟨_, rfl, ?_, fun id => ?_⟩, rfl⟩
    · exact Std.ExtTreeMap.nodup_keys
    · rw [Std.ExtTreeMap.mem_keys, mem_tracked_after]

theorem forward_after (incidents : List Incident) (messages : List Message) :
    (empty.after incidents).forward messages =
      if .hangUp ∈ incidents then [] else messages.map Message.encode := by
  have heard := isHeard_after empty incidents
  unfold forward
  by_cases gone : .hangUp ∈ incidents
  · rw [if_neg (by simp [heard, gone]), if_pos gone]
  · rw [if_pos (heard.mpr ⟨gone, rfl⟩), if_neg gone]

end Dependent

/--
A dependent tracks the players whose last join or leave is a join. Since the first join after the last leave, the entry
of such a player shows the last total that has arrived for the player, and is zero and pending before the first one; to
join again resets nothing, and bytes that hold no total of the player change nothing. Until the hub no longer takes
them, the frames sent are a question at each join, a credit at each credit, at each poll a question for each player who
is tracked just then, and nothing besides. As the incidents are any incidents, this tells every frame in order.
-/
theorem dependent_follows_history (incidents : List Incident) :
    let reached := Dependent.empty.after incidents
    (∀ id, id ∈ reached.tracked ↔ IsThere id incidents) ∧
    (∀ id, IsThere id incidents → ∃ before since, Began id incidents before since) ∧
    (∀ id before since, Began id incidents before since →
      reached.seconds? id = some ((told id since).getLast?.getD 0) ∧
      reached.freshness? id = some (if told id since = [] then .pending else .known)) ∧
    (∀ id, id ∈ reached.tracked → (reached.join id).1.tracked = reached.tracked) ∧
    (∀ id frame, (∀ seconds, Message.decode frame ≠ .ok ⟨id, .send seconds⟩) →
      (reached.receive [frame]).tracked[id]? = reached.tracked[id]?) ∧
    Dependent.empty.sends [] = [] ∧
    ∀ incident, ∃ messages, CallsFor incidents messages incident ∧
      Dependent.empty.sends (incidents ++ [incident]) =
        Dependent.empty.sends incidents ++ if .hangUp ∈ incidents then [] else messages.map Message.encode := by
  intro reached
  refine ⟨fun id => Dependent.mem_tracked_after id incidents, fun id => exists_began id incidents,
    fun id before since began => ?_, fun id => reached.tracked_rejoin id,
    fun id frame => reached.tracked_receive_of_foreign id frame, rfl, fun incident => ?_⟩
  · have entry := Dependent.tracked_of_began id incidents before since began
    unfold Dependent.seconds? Dependent.freshness?
    rw [show reached.tracked[id]? = _ from entry, Tracked.taking]
    cases last : (told id since).getLast? with
    | none => simp [List.getLast?_eq_none_iff.mp last]
    | some seconds =>
      have told : told id since ≠ [] := by
        intro nothing
        rw [nothing] at last
        cases last
      simp [told]
  · obtain ⟨messages, called, sent⟩ := Dependent.exists_callsFor incidents incident
    exact ⟨messages, called, by rw [sent, Dependent.forward_after]⟩

/-- A total that comes late is not for the entry that the player has after the next join. -/
theorem dependent_follows_history_past_late_total :
    let player : PlayerId := ⟨7⟩
    let before : List Incident := [.join player, .leave player, .arrive (Message.encode ⟨player, .send 6⟩)]
    let since : List Incident := [.arrive [1, 2, 3], .arrive (Message.encode ⟨⟨8⟩, .send 40⟩),
      .arrive (Message.encode ⟨player, .send 9⟩), .join player, .add player 60, .poll, .hangUp]
    let incidents := before ++ .join player :: since
    Began player incidents before since ∧ IsThere player incidents ∧
      (Dependent.empty.after incidents).seconds? player = some 9 ∧
      (Dependent.empty.after incidents).freshness? player = some .known ∧
      Dependent.empty.sends (incidents ++ [.poll]) = Dependent.empty.sends incidents := by
  intro player before since incidents
  have away : ¬ IsThere player before := by
    simp [before, IsThere, lasts_cons, not_lasts_nil]
  have began : Began player incidents before since := ⟨rfl, away, by decide⟩
  have heard : told player since = [9] := by decide +kernel
  obtain ⟨there, -, shown, -, -, -, sent⟩ := dependent_follows_history incidents
  obtain ⟨seconds, freshness⟩ := shown player before since began
  obtain ⟨messages, -, silent⟩ := sent .poll
  refine ⟨began, ⟨before, since, rfl, began.stays⟩, ?_, ?_, ?_⟩
  · rw [seconds, heard]
    rfl
  · rw [freshness, heard]
    rfl
  · rw [silent, if_pos (by decide), List.append_nil]

end Playtime.Replication
