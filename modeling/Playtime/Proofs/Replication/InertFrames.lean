import Playtime.Proofs.FlatFile.Drafts
import Playtime.Proofs.Ledger.Deployments
import Playtime.Proofs.Replication.Turns

namespace Playtime

def Host.meeting (host : Host) (clock : Int64) (faults : List Fault) : Host :=
  { host with disk := { host.disk with faults }, clock }

theorem Sql.Store.write_alike {store : Sql.Store} {host other : Host} (same : other.databases = host.databases)
    (change : Sql.Tables → Except StorageError Sql.Tables) :
    (store.write other change).1 = (store.write host change).1 ∧
      (store.write other change).2.databases = (store.write host change).2.databases := by
  unfold write Host.database? Host.setDatabase
  rw [same]
  split
  · split
    · exact ⟨rfl, same⟩
    · split
      · exact ⟨rfl, same⟩
      · split
        · exact ⟨rfl, same⟩
        · exact ⟨rfl, rfl⟩
  · exact ⟨rfl, same⟩

namespace Backend

structure SameStore (backend : Backend) (host other : Host) : Prop where
  databases : other.databases = host.databases
  disk : match backend with
    | .files _ times => Disk.AlikeBut (FlatFile.draftPath (FlatFile.path times)) host.disk other.disk
    | .relational _ | .mixed _ _ => other.disk.entries = host.disk.entries

variable {backend : Backend} {host other third : Host}

namespace SameStore

theorem refl (backend : Backend) (host : Host) : backend.SameStore host host := by
  refine ⟨rfl, ?_⟩
  cases backend with
  | files names times => exact .of_entries rfl
  | relational store => rfl
  | mixed names store => rfl

theorem symm (same : backend.SameStore host other) : backend.SameStore other host := by
  refine ⟨same.databases.symm, ?_⟩
  cases backend with
  | files names times => exact same.disk.symm
  | relational store => exact same.disk.symm
  | mixed names store => exact same.disk.symm

theorem trans (first : backend.SameStore host other) (second : backend.SameStore other third) :
    backend.SameStore host third := by
  refine ⟨second.databases.trans first.databases, ?_⟩
  cases backend with
  | files names times => exact first.disk.trans second.disk
  | relational store => exact second.disk.trans first.disk
  | mixed names store => exact second.disk.trans first.disk

theorem meeting (same : backend.SameStore host other) (clock : Int64) (faults : List Fault) :
    backend.SameStore (host.meeting clock faults) (other.meeting clock faults) := by
  refine ⟨same.databases, ?_⟩
  cases backend with
  | files names times =>
    have entries (host : Host) :
        Disk.AlikeBut (FlatFile.draftPath (FlatFile.path times)) host.disk (host.meeting clock faults).disk :=
      .of_entries rfl
    exact (entries host).symm.trans (same.disk.trans (entries other))
  | relational store => exact same.disk
  | mixed names store => exact same.disk

end SameStore

theorem sameStore_meeting (backend : Backend) (host : Host) (clock : Int64) (faults : List Fault) :
    backend.SameStore host (host.meeting clock faults) := by
  refine ⟨rfl, ?_⟩
  cases backend with
  | files names times => exact .of_entries rfl
  | relational store => rfl
  | mixed names store => rfl

theorem seconds?_of_sameStore (same : backend.SameStore host other) (id : PlayerId) :
    Ledger.seconds? (backend, other) id = Ledger.seconds? (backend, host) id := by
  have read (store : Sql.Store) : store.seconds? other id = store.seconds? host id := by
    unfold Sql.Store.seconds? Sql.Store.read Sql.Store.tables? Host.database?
    rw [same.databases]
  cases backend with
  | files names times => rfl
  | relational store => exact read store
  | mixed names store => exact read store

theorem credit_alike (same : backend.SameStore host other) (clock : other.clock = host.clock)
    (faults : other.disk.faults = host.disk.faults) (id : PlayerId) (delta : Int64) :
    (Ledger.credit (backend, other) id delta).1 = (Ledger.credit (backend, host) id delta).1 ∧
      (Ledger.credit (backend, other) id delta).2.1 = (Ledger.credit (backend, host) id delta).2.1 ∧
      (Ledger.credit (backend, host) id delta).2.1.SameStore (Ledger.credit (backend, host) id delta).2.2
        (Ledger.credit (backend, other) id delta).2.2 := by
  have recorded (store : Sql.Store) : (store.credit other id delta).1 = (store.credit host id delta).1 ∧
      (store.credit other id delta).2.databases = (store.credit host id delta).2.databases := by
    unfold Sql.Store.credit Sql.Store.creditAll Host.seconds
    rw [clock]
    exact Sql.Store.write_alike same.databases _
  cases backend with
  | files names times =>
    have written : (times.credit other.disk id delta).1 = (times.credit host.disk id delta).1 ∧
        (times.credit other.disk id delta).2.1 = (times.credit host.disk id delta).2.1 ∧
        Disk.AlikeBut (FlatFile.draftPath (FlatFile.path (times.credit host.disk id delta).2.1))
          (times.credit host.disk id delta).2.2 (times.credit other.disk id delta).2.2 := by
      unfold TimeFile.credit
      split
      · exact ⟨rfl, rfl, same.disk⟩
      · rw [FlatFile.path_write]
        exact FlatFile.write_alike same.disk faults
    exact ⟨written.1, congrArg (files names) written.2.1, same.databases, written.2.2⟩
  | relational store =>
    have disk (host : Host) : (store.credit host id delta).2.disk = host.disk := store.disk_write host _
    refine ⟨(recorded store).1, rfl, (recorded store).2, ?_⟩
    show (store.credit other id delta).2.disk.entries = (store.credit host id delta).2.disk.entries
    rw [disk, disk]
    exact same.disk
  | mixed names store =>
    have disk (host : Host) : (store.credit host id delta).2.disk = host.disk := store.disk_write host _
    refine ⟨(recorded store).1, rfl, (recorded store).2, ?_⟩
    show (store.credit other id delta).2.disk.entries = (store.credit host id delta).2.disk.entries
    rw [disk, disk]
    exact same.disk

theorem sameStore_of_refused {id : PlayerId} {delta : Int64} {error : StorageError}
    (refused : (Ledger.credit (backend, host) id delta).1 = .error error) :
    (Ledger.credit (backend, host) id delta).2.1 = backend ∧
      backend.SameStore host (Ledger.credit (backend, host) id delta).2.2 := by
  cases backend with
  | files names times =>
    have written : (times.credit host.disk id delta).2.1 = times ∧
        Disk.AlikeBut (FlatFile.draftPath (FlatFile.path times)) host.disk (times.credit host.disk id delta).2.2 := by
      change (times.credit host.disk id delta).1 = .error error at refused
      unfold TimeFile.credit at *
      split
      · exact ⟨rfl, .of_entries rfl⟩
      · next some =>
        rw [if_neg some] at refused
        exact ⟨FlatFile.write_refused times host.disk _ error refused, FlatFile.alike_of_write_refused refused⟩
    exact ⟨congrArg (files names) written.1, rfl, written.2⟩
  | relational store =>
    have unchanged : (store.credit host id delta).2 = host := store.creditAll_refused host _ error refused
    refine ⟨rfl, ?_⟩
    show (relational store).SameStore host (store.credit host id delta).2
    rw [unchanged]
    exact .refl _ host
  | mixed names store =>
    have unchanged : (store.credit host id delta).2 = host := store.creditAll_refused host _ error refused
    refine ⟨rfl, ?_⟩
    show (mixed names store).SameStore host (store.credit host id delta).2
    rw [unchanged]
    exact .refl _ host

theorem calm_credit (state : Backend × Host) (id : PlayerId) (delta : Int64) :
    (Ledger.credit state id delta).2.2.clock = state.2.clock ∧
      (state.2.disk.faults = [] → (Ledger.credit state id delta).2.2.disk.faults = []) := by
  obtain ⟨backend, host⟩ := state
  have recorded (store : Sql.Store) : (store.credit host id delta).2.clock = host.clock ∧
      (host.disk.faults = [] → (store.credit host id delta).2.disk.faults = []) := by
    have disk : (store.credit host id delta).2.disk = host.disk := store.disk_write host _
    rw [disk]
    exact ⟨store.clock_write host _, fun faultless => faultless⟩
  cases backend with
  | files names times =>
    refine ⟨rfl, fun faultless => ?_⟩
    show (times.credit host.disk id delta).2.2.faults = []
    unfold TimeFile.credit
    split
    · exact faultless
    · exact FlatFile.faultless_write faultless
  | relational store => exact recorded store
  | mixed names store => exact recorded store

end Backend

namespace Replication

/-- A frame that arrives at a hub, and what it meets with there. -/
structure Delivery where
  frame : Frame
  now : Int64
  isHeard : Bool
  faults : List Fault
deriving DecidableEq, Repr

def Delivery.unheard (delivery : Delivery) : Delivery := { delivery with isHeard := false }

abbrev HubState := Sessions × Backend × Host

namespace HubState

structure Same (state other : HubState) : Prop where
  sessions : other.1 = state.1
  backend : other.2.1 = state.2.1
  host : state.2.1.SameStore state.2.2 other.2.2

variable {state other third : HubState}

theorem Same.symm (same : Same state other) : Same other state :=
  ⟨same.sessions.symm, same.backend.symm, same.backend ▸ same.host.symm⟩

theorem Same.trans (first : Same state other) (second : Same other third) : Same state third :=
  ⟨second.sessions.trans first.sessions, second.backend.trans first.backend,
    first.host.trans (first.backend ▸ second.host)⟩

def meeting (state : HubState) (delivery : Delivery) : HubState :=
  (state.1, state.2.1, state.2.2.meeting delivery.now delivery.faults)

theorem same_meeting (state : HubState) (delivery : Delivery) : Same state (state.meeting delivery) :=
  ⟨rfl, rfl, state.2.1.sameStore_meeting state.2.2 delivery.now delivery.faults⟩

def handle (state : HubState) (delivery : Delivery) : Except HubError (List Frame) × HubState :=
  Hub.handle state.1 (state.meeting delivery).2 delivery.now delivery.frame

def tells (state : HubState) (delivery : Delivery) : List Frame :=
  if delivery.isHeard then (state.handle delivery).1.toOption.getD [] else []

def run (state : HubState) : List Delivery → List Frame × HubState
  | [] => ([], state)
  | delivery :: later =>
    match run (state.handle delivery).2 later with
    | (replies, after) => (state.tells delivery ++ replies, after)

/-- A frame without a message, one that a hub does not expect, or a credit that is refused. -/
def isInert (state : HubState) (delivery : Delivery) : Bool :=
  match Message.decode delivery.frame with
  | .error _ => true
  | .ok message =>
    match message.command with
    | .get => false
    | .add _ => !(state.handle delivery).1.isOk
    | .send _ => true

/-- The deliveries that are left when all inert frames are struck out, each judged where it arrives. -/
def effective (state : HubState) : List Delivery → List Delivery
  | [] => []
  | delivery :: later =>
    if state.isInert delivery then effective (state.handle delivery).2 later
    else delivery :: effective (state.handle delivery).2 later

def answerTo (state : HubState) (delivery : Delivery) : List Frame :=
  match Message.decode delivery.frame with
  | .ok ⟨id, .get⟩ =>
    match state.1.seconds state.2 id delivery.now with
    | .ok seconds => if delivery.isHeard then [Message.encode ⟨id, .send seconds⟩] else []
    | .error _ => []
  | _ => []

theorem seconds_same (same : Same state other) (id : PlayerId) (now : Int64) :
    other.1.seconds other.2 id now = state.1.seconds state.2 id now := by
  obtain ⟨sessions, backend, host⟩ := state
  obtain ⟨sessions', backend', host'⟩ := other
  obtain ⟨rfl, rfl, store⟩ := same
  unfold Sessions.seconds
  rw [Backend.seconds?_of_sameStore store]

theorem handle_fault {delivery : Delivery} {fault : FrameFault} (read : Message.decode delivery.frame = .error fault) :
    state.handle delivery = (.error (.frame fault), state.meeting delivery) := by
  unfold handle Hub.handle
  rw [read]
  rfl

theorem handle_get {delivery : Delivery} {id : PlayerId} (read : Message.decode delivery.frame = .ok ⟨id, .get⟩) :
    state.handle delivery =
      (match state.1.seconds state.2 id delivery.now with
        | .ok seconds => .ok [Message.encode ⟨id, .send seconds⟩]
        | .error error => .error (.storage error), state.meeting delivery) := by
  have found := seconds_same (state.same_meeting delivery) id delivery.now
  unfold handle Hub.handle Hub.answer
  rw [read]
  dsimp only
  rw [← found]
  unfold meeting
  cases state.1.seconds (state.2.1, state.2.2.meeting delivery.now delivery.faults) id delivery.now <;> rfl

theorem handle_send {delivery : Delivery} {id : PlayerId} {seconds : Int64}
    (read : Message.decode delivery.frame = .ok ⟨id, .send seconds⟩) :
    state.handle delivery = (.ok [], state.meeting delivery) := by
  unfold handle Hub.handle Hub.answer
  rw [read]
  rfl

theorem handle_add {delivery : Delivery} {id : PlayerId} {delta : Int64}
    (read : Message.decode delivery.frame = .ok ⟨id, .add delta⟩) :
    state.handle delivery =
      (((state.1.add (state.meeting delivery).2 id delta).1.map fun _ => []).mapError .storage,
        (state.1.add (state.meeting delivery).2 id delta).2) := by
  unfold handle Hub.handle Hub.answer
  rw [read]
  dsimp only
  obtain ⟨outcome, sessions, ledger⟩ := state.1.add (state.meeting delivery).2 id delta
  cases outcome <;> rfl

theorem add_same (same : Same state other) (delivery : Delivery) (id : PlayerId) (delta : Int64) :
    (other.1.add (other.meeting delivery).2 id delta).1 = (state.1.add (state.meeting delivery).2 id delta).1 ∧
      Same (state.1.add (state.meeting delivery).2 id delta).2 (other.1.add (other.meeting delivery).2 id delta).2 := by
  obtain ⟨sessions, backend, host⟩ := state
  obtain ⟨sessions', backend', host'⟩ := other
  obtain ⟨rfl, rfl, store⟩ := same
  have met := store.meeting delivery.now delivery.faults
  obtain ⟨outcome, backend, after⟩ := Backend.credit_alike met rfl rfl id delta
  unfold meeting Sessions.add
  dsimp only
  split
  · exact ⟨rfl, rfl, rfl, met⟩
  · exact ⟨rfl, rfl, rfl, met⟩
  · exact ⟨outcome, rfl, backend, after⟩

theorem same_of_refused {delivery : Delivery} {id : PlayerId} {delta : Int64} {error : StorageError}
    (refused : (state.1.add (state.meeting delivery).2 id delta).1 = .error error) :
    Same state (state.1.add (state.meeting delivery).2 id delta).2 := by
  have met := state.same_meeting delivery
  refine met.trans ?_
  unfold Sessions.add at *
  split at refused
  · exact ⟨rfl, rfl, .refl _ _⟩
  · cases refused
  · obtain ⟨backend, host⟩ := Backend.sameStore_of_refused refused
    exact ⟨rfl, backend, host⟩

theorem handle_same (same : Same state other) (delivery : Delivery) :
    (other.handle delivery).1 = (state.handle delivery).1 ∧
      Same (state.handle delivery).2 (other.handle delivery).2 := by
  have met : Same (state.meeting delivery) (other.meeting delivery) :=
    (state.same_meeting delivery).symm.trans (same.trans (other.same_meeting delivery))
  cases read : Message.decode delivery.frame with
  | error fault =>
    rw [handle_fault read, handle_fault read]
    exact ⟨rfl, met⟩
  | ok message =>
    obtain ⟨id, command⟩ := message
    cases command with
    | get =>
      rw [handle_get read, handle_get read, seconds_same same]
      exact ⟨rfl, met⟩
    | add delta =>
      obtain ⟨outcome, after⟩ := add_same same delivery id delta
      rw [handle_add read, handle_add read, outcome]
      exact ⟨rfl, after⟩
    | send seconds =>
      rw [handle_send read, handle_send read]
      exact ⟨rfl, met⟩

theorem handle_of_no_add {delivery : Delivery}
    (read : ∀ id delta, Message.decode delivery.frame ≠ .ok ⟨id, .add delta⟩) :
    (state.handle delivery).2 = state.meeting delivery := by
  cases found : Message.decode delivery.frame with
  | error fault => rw [handle_fault found]
  | ok message =>
    obtain ⟨id, command⟩ := message
    cases command with
    | get => rw [handle_get found]
    | add delta => exact absurd found (read id delta)
    | send seconds => rw [handle_send found]

theorem tells_eq (state : HubState) (delivery : Delivery) : state.tells delivery = state.answerTo delivery := by
  unfold tells answerTo
  cases read : Message.decode delivery.frame with
  | error fault =>
    rw [handle_fault read]
    exact ite_self _
  | ok message =>
    obtain ⟨id, command⟩ := message
    cases command with
    | get =>
      rw [handle_get read]
      dsimp only
      cases state.1.seconds state.2 id delivery.now with
      | ok seconds => rfl
      | error error => exact ite_self _
    | add delta =>
      rw [handle_add read]
      cases (state.1.add (state.meeting delivery).2 id delta).1 <;> exact ite_self _
    | send seconds =>
      rw [handle_send read]
      exact ite_self _

theorem same_of_inert {delivery : Delivery} (inert : state.isInert delivery = true) :
    state.tells delivery = [] ∧ Same state (state.handle delivery).2 := by
  unfold isInert at inert
  rw [tells_eq, answerTo]
  cases read : Message.decode delivery.frame with
  | error fault =>
    rw [handle_fault read]
    exact ⟨rfl, state.same_meeting delivery⟩
  | ok message =>
    obtain ⟨id, command⟩ := message
    rw [read] at inert
    cases command with
    | get => cases inert
    | add delta =>
      rw [handle_add read] at inert ⊢
      refine ⟨rfl, ?_⟩
      cases outcome : (state.1.add (state.meeting delivery).2 id delta).1 with
      | ok =>
        rw [outcome] at inert
        cases inert
      | error error => exact same_of_refused outcome
    | send seconds =>
      rw [handle_send read]
      exact ⟨rfl, state.same_meeting delivery⟩

theorem calm_handle (state : HubState) (delivery : Delivery) :
    (state.handle delivery).2.2.2.clock = delivery.now ∧
      (delivery.faults = [] → (state.handle delivery).2.2.2.disk.faults = []) := by
  have met : (state.meeting delivery).2.2.clock = delivery.now ∧
      (delivery.faults = [] → (state.meeting delivery).2.2.disk.faults = []) := ⟨rfl, id⟩
  by_cases credit : ∃ id delta, Message.decode delivery.frame = .ok ⟨id, .add delta⟩
  · obtain ⟨id, delta, read⟩ := credit
    obtain ⟨clock, faults⟩ := Backend.calm_credit (state.meeting delivery).2 id delta
    rw [handle_add read]
    unfold Sessions.add
    split
    · exact met
    · exact met
    · exact ⟨clock, faults⟩
  · rw [handle_of_no_add fun id delta read => credit ⟨id, delta, read⟩]
    exact met

theorem serve_eq_run (state : HubState) (frames : List Frame) (faultless : state.2.2.disk.faults = []) :
    Hub.serve state.1 state.2 state.2.2.clock frames =
      state.run (frames.map fun frame => ⟨frame, state.2.2.clock, true, []⟩) := by
  induction frames generalizing state with
  | nil => rfl
  | cons frame frames ih =>
    obtain ⟨clock, calm⟩ := state.calm_handle ⟨frame, state.2.2.clock, true, []⟩
    have met : state.meeting ⟨frame, state.2.2.clock, true, []⟩ = state := by
      rw [meeting, Host.meeting, ← faultless]
    have handled : Hub.handle state.1 state.2 state.2.2.clock frame =
        state.handle ⟨frame, state.2.2.clock, true, []⟩ := by rw [handle, met]
    have rest := ih _ (calm rfl)
    rw [clock] at rest
    rw [List.map_cons, run, ← rest, Hub.serve, handled]
    rfl

theorem run_append (state : HubState) (first second : List Delivery) :
    state.run (first ++ second) =
      ((state.run first).1 ++ ((state.run first).2.run second).1, ((state.run first).2.run second).2) := by
  induction first generalizing state with
  | nil => rfl
  | cons delivery first ih => simp only [List.cons_append, run, ih, List.append_assoc]

/-- The run without inert frames, from a state that may differ in a draft, keeps pace with the run itself. -/
theorem run_effective (same : Same state other) (deliveries : List Delivery) :
    (other.run (state.effective deliveries)).1 = (state.run deliveries).1 ∧
      Same (state.run deliveries).2 (other.run (state.effective deliveries)).2 := by
  induction deliveries generalizing state other with
  | nil => exact ⟨rfl, same⟩
  | cons delivery later ih =>
    unfold effective
    split
    · next inert =>
      -- What is struck out has done nothing, so the shorter run is still abreast of the longer one.
      obtain ⟨silent, still⟩ := same_of_inert inert
      obtain ⟨replies, after⟩ := ih (still.symm.trans same)
      refine ⟨?_, after⟩
      rw [replies, run, silent]
      rfl
    · obtain ⟨outcome, after⟩ := handle_same same delivery
      obtain ⟨replies, last⟩ := ih after
      have told : other.tells delivery = state.tells delivery := by rw [tells, tells, outcome]
      refine ⟨?_, last⟩
      simp only [run, told, replies]

theorem run_unheard (state : HubState) (deliveries others : List Delivery)
    (same : others.map Delivery.unheard = deliveries.map Delivery.unheard) :
    (state.run others).2 = (state.run deliveries).2 := by
  induction deliveries generalizing state others with
  | nil =>
    rw [List.map_nil, List.map_eq_nil_iff] at same
    rw [same]
  | cons delivery later ih =>
    obtain ⟨other, rest, rfl, first, same⟩ := List.map_eq_cons_iff.mp same
    have handled : state.handle other = state.handle delivery := by
      obtain ⟨frame, now, isHeard, faults⟩ := other
      obtain ⟨frame', now', isHeard', faults'⟩ := delivery
      cases first
      rfl
    rw [run, run, handled]
    exact ih _ rest same

end HubState

def isTotal (frame : Frame) : Bool :=
  match Message.decode frame with
  | .ok ⟨_, .send _⟩ => true
  | _ => false

theorem receive_append (dependent : Dependent) (first second : List Frame) :
    dependent.receive (first ++ second) = (dependent.receive first).receive second := List.foldl_append

theorem receive_filter (dependent : Dependent) (frames : List Frame) :
    dependent.receive (frames.filter isTotal) = dependent.receive frames := by
  induction frames generalizing dependent with
  | nil => rfl
  | cons frame frames ih =>
    rw [List.filter_cons, ← List.singleton_append (l := frames), receive_append, ← ih]
    split
    · rfl
    · next other =>
      have inert : dependent.receive [frame] = dependent := by
        unfold isTotal at other
        cases read : Message.decode frame with
        | error fault => exact receive_fault dependent frame fault read
        | ok message =>
          rw [receive_message dependent frame message read]
          obtain ⟨id, command⟩ := message
          rw [read] at other
          cases command with
          | get | add => rfl
          | send seconds => exact absurd rfl other
      rw [inert]

/--
A hub and a dependent act on every frame they are sent, one after the other; where nothing goes wrong and no time
passes, that is what a hub makes of all frames at once. Without the frames that hold no message, the ones that the
receiver does not expect and the credits that the store refuses, both end in the same state and the hub gives the same
answers. It answers each question that it can read a total for with the total at that point, and nothing else; only
credits change what it keeps, and that does not depend on anyone taking the answers.
-/
theorem inert_frames_pass (state : HubState) (deliveries : List Delivery) (dependent : Dependent)
    (frames : List Frame) :
    (∀ first second, state.run (first ++ second) =
      ((state.run first).1 ++ ((state.run first).2.run second).1, ((state.run first).2.run second).2)) ∧
    (state.2.2.disk.faults = [] → Hub.serve state.1 state.2 state.2.2.clock frames =
      state.run (frames.map fun frame => ⟨frame, state.2.2.clock, true, []⟩)) ∧
    (state.run (state.effective deliveries)).1 = (state.run deliveries).1 ∧
    HubState.Same (state.run deliveries).2 (state.run (state.effective deliveries)).2 ∧
    (∀ delivery, (state.run (deliveries ++ [delivery])).1 =
      (state.run deliveries).1 ++ (state.run deliveries).2.answerTo delivery) ∧
    (∀ delivery, (∀ id delta, Message.decode delivery.frame ≠ .ok ⟨id, .add delta⟩) →
      ((state.run deliveries).2.handle delivery).2 = (state.run deliveries).2.meeting delivery) ∧
    (∀ others, others.map Delivery.unheard = deliveries.map Delivery.unheard →
      (state.run others).2 = (state.run deliveries).2) ∧
    (∀ first second, dependent.receive (first ++ second) = (dependent.receive first).receive second) ∧
    dependent.receive (frames.filter isTotal) = dependent.receive frames := by
  have start : HubState.Same state state := ⟨rfl, rfl, .refl _ _⟩
  obtain ⟨replies, after⟩ := HubState.run_effective start deliveries
  refine ⟨state.run_append, state.serve_eq_run frames, replies, after, fun delivery => ?_,
    fun delivery read => HubState.handle_of_no_add read, state.run_unheard deliveries,
    receive_append dependent, receive_filter dependent frames⟩
  simp only [state.run_append, HubState.run, List.append_nil, HubState.tells_eq]

end Replication

end Playtime
