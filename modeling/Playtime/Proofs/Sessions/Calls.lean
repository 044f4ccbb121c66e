import Playtime.Proofs.Sessions.Settling

namespace Playtime.Sessions

variable {σ : Type} [Ledger σ]

inductive Call where
  | start (id : PlayerId) (now : Int64)
  | stop (id : PlayerId) (now : Int64)
  | flush (now : Int64)
  | add (id : PlayerId) (delta : Int64)
  | addAll (deltas : List (PlayerId × Int64))
deriving DecidableEq, Repr

def perform (state : Sessions × σ) : Call → Except StorageError Unit × Sessions × σ
  | .start id now => state.1.start state.2 id now
  | .stop id now => state.1.stop state.2 id now
  | .flush now => state.1.flush state.2 now
  | .add id delta => state.1.add state.2 id delta
  | .addAll deltas => state.1.addAll state.2 deltas

def run (state : Sessions × σ) : List Call → Sessions × σ
  | [] => state
  | call :: rest => run (perform state call).2 rest

def Throughout (property : Sessions × σ → Call → Prop) (state : Sessions × σ) : List Call → Prop
  | [] => True
  | call :: rest => property state call ∧ Throughout property (perform state call).2 rest

/-- The call reports no failure; in particular the ledger has refused no write of it. -/
def Accepted (state : Sessions × σ) (call : Call) : Prop := (perform state call).1 = .ok ()

theorem isOk_iff {outcome : Except StorageError Unit} : outcome.isOk = true ↔ outcome = .ok () := by
  cases outcome <;> simp [Except.isOk, Except.toBool]

instance (state : Sessions × σ) (call : Call) : Decidable (Accepted state call) :=
  decidable_of_iff _ isOk_iff

/-- The time from the start of an open session to an instant is not clipped. -/
def Measured (sessions : Sessions) (id : PlayerId) (now : Int64) : Prop :=
  ∀ started ∈ sessions.started[id]?, Fits (now.toInt - started.toInt)

instance (sessions : Sessions) (id : PlayerId) (now : Int64) : Decidable (sessions.Measured id now) :=
  @Option.decidableForallMem Int64 (fun started => Fits (now.toInt - started.toInt)) (fun _ => inferInstance)
    sessions.started[id]?

/--
No time and no sum that a call works out is clipped. A credit is added to what is pending only when it is refused, and
what a flush leaves out of a clipped time goes on accruing.
-/
def Unclipped (state : Sessions × σ) : Call → Prop
  | .start id now => state.1.Measured id now ∧
      (¬ Accepted state (.start id now) → Fits (state.1.parked id + (state.1.live id now).toInt))
  | .stop id now => state.1.Measured id now ∧
      (¬ Accepted state (.stop id now) → Fits (state.1.parked id + (state.1.live id now).toInt))
  | .flush now => ∀ entry ∈ state.1.started.toList,
      Fits ((owedSeconds entry.2 now).toInt + state.1.parked entry.1)
  | .add _ _ => True
  | .addAll _ => True

instance (state : Sessions × σ) (call : Call) : Decidable (Unclipped state call) :=
  match call with
  | .start _ _ => inferInstanceAs (Decidable (_ ∧ (_ → _)))
  | .stop _ _ => inferInstanceAs (Decidable (_ ∧ (_ → _)))
  | .flush _ => inferInstanceAs (Decidable (∀ _ ∈ _, _))
  | .add _ _ => .isTrue trivial
  | .addAll _ => .isTrue trivial

instance decidableThroughout (property : Sessions × σ → Call → Prop)
    [∀ state call, Decidable (property state call)] (state : Sessions × σ) (calls : List Call) :
    Decidable (Throughout property state calls) :=
  match calls with
  | [] => .isTrue trivial
  | call :: rest =>
    have := decidableThroughout property (perform state call).2 rest
    inferInstanceAs (Decidable (_ ∧ _))

theorem run_append (state : Sessions × σ) (first second : List Call) :
    run state (first ++ second) = run (run state first) second := by
  induction first generalizing state with
  | nil => rfl
  | cons call first ih => exact ih _

theorem throughout_append (property : Sessions × σ → Call → Prop) (state : Sessions × σ) (first second : List Call) :
    Throughout property state (first ++ second) ↔
      Throughout property state first ∧ Throughout property (run state first) second := by
  induction first generalizing state with
  | nil => simp [Throughout, run]
  | cons call first ih => simp only [List.cons_append, Throughout, run, ih, and_assoc]

theorem fits_due (sessions : Sessions) (ledger : σ) (now : Int64) (id : PlayerId)
    (unclipped : Unclipped (sessions, ledger) (.flush now)) :
    Fits ((sessions.live id now).toInt + sessions.parked id) := by
  unfold live
  cases known : sessions.started[id]? with
  | some started => exact unclipped (id, started) (Std.ExtTreeMap.mem_toList_iff_getElem?_eq_some.mpr known)
  | none => simpa [parked] using fits_toInt (sessions.pending.getD id 0)

theorem unclipped_flush (sessions : Sessions) (ledger : σ) (now : Int64) (nothing : sessions.pending = ∅) :
    Unclipped (sessions, ledger) (.flush now) := by
  intro entry member
  have fits := fits_toInt (owedSeconds entry.2 now)
  simpa [parked, nothing] using fits

theorem fits_live_of_settled (sessions : Sessions) (id : PlayerId) (now : Int64) (nothing : sessions.pending = ∅) :
    Fits ((sessions.live id now).toInt + sessions.parked id) := by
  have fits := fits_toInt (sessions.live id now)
  simpa [parked, nothing] using fits

theorem isAccumulating_eq (sessions : Sessions) (id : PlayerId) :
    sessions.isAccumulating id = (sessions.started[id]?).isSome := by
  unfold isAccumulating
  rw [Std.ExtTreeMap.isSome_getElem?_eq_contains]

theorem started_start (sessions : Sessions) (ledger : σ) (id : PlayerId) (now : Int64) :
    (sessions.start ledger id now).2.1.started = sessions.started.insert id now :=
  started_settle { sessions with started := sessions.started.insert id now } ledger id _

theorem started_stop (sessions : Sessions) (ledger : σ) (id : PlayerId) (now : Int64) :
    (sessions.stop ledger id now).2.1.started = sessions.started.erase id :=
  started_settle { sessions with started := sessions.started.erase id } ledger id _

theorem started_flush (sessions : Sessions) (ledger : σ) (now : Int64) :
    (sessions.flush ledger now).2.1.started = sessions.started.map fun _ started => advance started now :=
  started_settleAll _ ledger _

theorem pending_start (sessions : Sessions) (ledger : σ) (id : PlayerId) (now : Int64)
    (accepted : (sessions.start ledger id now).1 = .ok ()) :
    (sessions.start ledger id now).2.1.pending = sessions.pending := by
  unfold start at *
  rw [sessions_settle _ ledger id _ accepted]

theorem pending_stop (sessions : Sessions) (ledger : σ) (id : PlayerId) (now : Int64)
    (accepted : (sessions.stop ledger id now).1 = .ok ()) :
    (sessions.stop ledger id now).2.1.pending = sessions.pending := by
  unfold stop at *
  rw [sessions_settle _ ledger id _ accepted]

theorem pending_flush (sessions : Sessions) (ledger : σ) (now : Int64)
    (accepted : (sessions.flush ledger now).1 = .ok ()) : (sessions.flush ledger now).2.1.pending = ∅ := by
  unfold flush at *
  rw [sessions_settleAll _ ledger _ accepted]

theorem start_of_closed (sessions : Sessions) (ledger : σ) (id : PlayerId) (now : Int64)
    (closed : sessions.started[id]? = none) :
    sessions.start ledger id now = (.ok (), { sessions with started := sessions.started.insert id now }, ledger) := by
  unfold start live settle
  rw [closed]
  rfl

theorem add_of_closed (sessions : Sessions) (ledger : σ) (id : PlayerId) (delta : Int64)
    (closed : sessions.started[id]? = none) :
    sessions.add ledger id delta =
      ((Ledger.credit ledger id delta).1, sessions, (Ledger.credit ledger id delta).2) := by
  unfold add absorb
  rw [closed]

theorem add_of_open (sessions : Sessions) (ledger : σ) (id : PlayerId) (started delta : Int64)
    (session : sessions.started[id]? = some started) :
    sessions.add ledger id delta = match shift? started delta with
      | some moved => (.ok (), { sessions with started := sessions.started.insert id moved }, ledger)
      | none => (.error (.outOfRange id delta), sessions, ledger) := by
  unfold add absorb
  rw [session]
  dsimp only
  cases shift? started delta <;> rfl

theorem pending_add (sessions : Sessions) (ledger : σ) (id : PlayerId) (delta : Int64) :
    (sessions.add ledger id delta).2.1.pending = sessions.pending := by
  cases session : sessions.started[id]? with
  | none => rw [add_of_closed sessions ledger id delta session]
  | some started =>
    rw [add_of_open sessions ledger id started delta session]
    cases shift? started delta <;> rfl

theorem closed_add (sessions : Sessions) (ledger : σ) (player id : PlayerId) (delta : Int64)
    (closed : sessions.started[id]? = none) : (sessions.add ledger player delta).2.1.started[id]? = none := by
  cases session : sessions.started[player]? with
  | none => rwa [add_of_closed sessions ledger player delta session]
  | some started =>
    rw [add_of_open sessions ledger player started delta session]
    cases shift? started delta with
    | none => exact closed
    | some moved =>
      have differs : player ≠ id := by
        intro same
        rw [same, closed] at session
        cases session
      show (sessions.started.insert player moved)[id]? = none
      simpa [Std.ExtTreeMap.getElem?_insert, differs] using closed

theorem pending_absorb (sessions absorbed : Sessions) (id : PlayerId) (delta : Int64)
    (taken : sessions.absorb id delta = .ok (some absorbed)) : absorbed.pending = sessions.pending := by
  unfold absorb at taken
  split at taken
  · cases taken
  · split at taken
    · cases taken
    · cases taken
      rfl

theorem pending_absorbAll (sessions : Sessions) (deltas : List (PlayerId × Int64)) :
    (sessions.absorbAll deltas).2.pending = sessions.pending := by
  induction deltas generalizing sessions with
  | nil => rfl
  | cons entry deltas ih =>
    obtain ⟨id, delta⟩ := entry
    unfold absorbAll
    cases taken : sessions.absorb id delta with
    | error error => rfl
    | ok absorbed =>
      cases absorbed with
      | some absorbed => exact (ih absorbed).trans (pending_absorb sessions absorbed id delta taken)
      | none =>
        have rest := ih sessions
        dsimp only
        split
        · next left => simpa [left] using rest
        · next left => simpa [left] using rest

theorem pending_addAll (sessions : Sessions) (ledger : σ) (deltas : List (PlayerId × Int64)) :
    (sessions.addAll ledger deltas).2.1.pending = sessions.pending := by
  have taken := pending_absorbAll sessions deltas
  unfold addAll
  split
  · next left => simpa [left] using taken
  · next left => simpa [left] using taken
  · next left => simpa [left] using taken

theorem pending_perform (state : Sessions × σ) (call : Call) (nothing : state.1.pending = ∅)
    (accepted : Accepted state call) : (perform state call).2.1.pending = ∅ := by
  cases call with
  | start id now => exact (pending_start state.1 state.2 id now accepted).trans nothing
  | stop id now => exact (pending_stop state.1 state.2 id now accepted).trans nothing
  | flush now => exact pending_flush state.1 state.2 now accepted
  | add id delta => exact (pending_add state.1 state.2 id delta).trans nothing
  | addAll deltas => exact (pending_addAll state.1 state.2 deltas).trans nothing

variable [LawfulLedger σ]

theorem ledger_perform {property : σ → Prop} (kept : KeptByCredits property) (state : Sessions × σ) (call : Call)
    (holds : property state.2) : property (perform state call).2.2 := by
  cases call with
  | start id now => exact ledger_settle kept _ _ _ _ holds
  | stop id now => exact ledger_settle kept _ _ _ _ holds
  | flush now => exact ledger_settleAll kept _ _ _ holds
  | add id delta =>
    show property (state.1.add state.2 id delta).2.2
    unfold add
    split
    · exact holds
    · exact holds
    · dsimp only
      rw [LawfulLedger.credit_eq]
      exact kept _ _ holds
  | addAll deltas =>
    show property (state.1.addAll state.2 deltas).2.2
    unfold addAll
    split
    · exact holds
    · exact holds
    · exact kept _ _ holds

theorem ledger_run {property : σ → Prop} (kept : KeptByCredits property) (state : Sessions × σ) (calls : List Call)
    (holds : property state.2) : property (run state calls).2 := by
  induction calls generalizing state with
  | nil => exact holds
  | cons call calls ih => exact ih _ (ledger_perform kept state call holds)

theorem sound_kept : KeptByCredits (LawfulLedger.Sound (σ := σ)) := LawfulLedger.sound_creditAll

theorem isOpen_kept : KeptByCredits (LawfulLedger.IsOpen (σ := σ)) :=
  fun ledger deltas isOpen => (LawfulLedger.isOpen_creditAll ledger deltas).mpr isOpen

end Playtime.Sessions
