import Playtime.Proofs.Ledger.Files
import Playtime.Proofs.Sessions.Reading

namespace Playtime.Sessions

variable {σ τ : Type} [Ledger σ] [Ledger τ]

def Clocked : Call → Prop
  | .start _ _ | .stop _ _ | .flush _ => True
  | .add _ _ | .addAll _ => False

/-- The whole seconds that a call takes from the session of a player, wherever they end up. -/
def taken (sessions : Sessions) (id : PlayerId) : Call → Int
  | .start player now | .stop player now => if player = id then (sessions.live player now).toInt else 0
  | .flush now => (sessions.live id now).toInt
  | .add _ _ | .addAll _ => 0

theorem taken_congr (first second : Sessions) (id : PlayerId) (call : Call)
    (same : first.started = second.started) : first.taken id call = second.taken id call := by
  unfold taken
  simp only [live_congr first second _ _ same]

theorem sessions_close (sessions : Sessions) (ledger : σ) (now : Int64)
    (accepted : (sessions.close ledger now).1 = .ok ()) : (sessions.close ledger now).2.1 = empty :=
  sessions_settleAll empty ledger (sessions.due now) accepted

theorem started_perform (first : Sessions × σ) (second : Sessions × τ) (call : Call) (clocked : Clocked call)
    (same : first.1.started = second.1.started) :
    (perform first call).2.1.started = (perform second call).2.1.started := by
  unfold perform
  cases call with
  | start id now =>
    dsimp only
    rw [started_start, started_start, same]
  | stop id now =>
    dsimp only
    rw [started_stop, started_stop, same]
  | flush now =>
    dsimp only
    rw [started_flush, started_flush, same]
  | add id delta => cases clocked
  | addAll deltas => cases clocked

variable [LawfulLedger σ] [LawfulLedger τ]

theorem saved_perform (state : Sessions × σ) (call : Call) (id : PlayerId) (clocked : Clocked call)
    (sound : LawfulLedger.Sound state.2) (unclipped : Unclipped state call) :
    saved (perform state call).2 id = saved state id + state.1.taken id call := by
  cases call with
  | start player now => exact saved_start state.1 state.2 player id now sound unclipped
  | stop player now => exact saved_stop state.1 state.2 player id now sound unclipped
  | flush now => exact saved_flush state.1 state.2 now id sound unclipped
  | add player delta => cases clocked
  | addAll deltas => cases clocked

/-- What refusals leave alike of two runs: only where the seconds are that sessions no longer have. -/
structure Agree (granted : Sessions × σ) (refused : Sessions × τ) : Prop where
  started : granted.1.started = refused.1.started
  nothing : granted.1.pending = ∅
  saved (id : PlayerId) : Sessions.saved granted id = Sessions.saved refused id

variable {granted : Sessions × σ} {refused : Sessions × τ}

theorem Agree.unclipped (agree : Agree granted refused) (call : Call) (accepted : Accepted granted call)
    (unclipped : Unclipped refused call) : Unclipped granted call := by
  have measured (id : PlayerId) (now : Int64) (exact : refused.1.Measured id now) : granted.1.Measured id now := by
    unfold Measured at *
    rwa [agree.started]
  cases call with
  | start id now => exact ⟨measured id now unclipped.1, fun refusal => absurd accepted refusal⟩
  | stop id now => exact ⟨measured id now unclipped.1, fun refusal => absurd accepted refusal⟩
  | flush now => exact unclipped_flush granted.1 granted.2 now agree.nothing
  | add id delta => exact trivial
  | addAll deltas => exact trivial

theorem Agree.perform (agree : Agree granted refused) (call : Call) (clocked : Clocked call)
    (sound₁ : LawfulLedger.Sound granted.2) (sound₂ : LawfulLedger.Sound refused.2)
    (accepted : Accepted granted call) (unclipped : Unclipped refused call) :
    Agree (Sessions.perform granted call).2 (Sessions.perform refused call).2 := by
  refine ⟨started_perform granted refused call clocked agree.started,
    pending_perform granted call agree.nothing accepted, fun id => ?_⟩
  have step₁ := saved_perform granted call id clocked sound₁ (agree.unclipped call accepted unclipped)
  have step₂ := saved_perform refused call id clocked sound₂ unclipped
  rw [step₁, step₂, agree.saved id, taken_congr granted.1 refused.1 id call agree.started]

theorem Agree.run (calls : List Call) (clocked : ∀ call ∈ calls, Clocked call) (granted : Sessions × σ)
    (refused : Sessions × τ) (agree : Agree granted refused) (sound₁ : LawfulLedger.Sound granted.2)
    (sound₂ : LawfulLedger.Sound refused.2) (accepted : Throughout Accepted granted calls)
    (unclipped : Throughout Unclipped refused calls) :
    Agree (Sessions.run granted calls) (Sessions.run refused calls) := by
  induction calls generalizing granted refused with
  | nil => exact agree
  | cons call calls ih =>
    have step := agree.perform call (clocked call (by simp)) sound₁ sound₂ accepted.1 unclipped.1
    exact ih (fun other member => clocked other (List.mem_cons_of_mem _ member)) _ _ step
      (ledger_perform sound_kept granted call sound₁) (ledger_perform sound_kept refused call sound₂)
      accepted.2 unclipped.2

theorem Agree.flushed (agree : Agree granted refused) (now : Int64)
    (sound₁ : LawfulLedger.Sound granted.2) (sound₂ : LawfulLedger.Sound refused.2)
    (accepted₁ : Accepted granted (.flush now)) (accepted₂ : Accepted refused (.flush now))
    (unclipped : Unclipped refused (.flush now)) (id : PlayerId) :
    LawfulLedger.balance (Sessions.perform granted (.flush now)).2.2 id =
      LawfulLedger.balance (Sessions.perform refused (.flush now)).2.2 id := by
  have after := (agree.perform (.flush now) trivial sound₁ sound₂ accepted₁ unclipped).saved id
  have nothing₁ := pending_flush granted.1 granted.2 now accepted₁
  have nothing₂ := pending_flush refused.1 refused.2 now accepted₂
  unfold Sessions.perform Sessions.saved parked at *
  rw [nothing₁, nothing₂] at after
  simpa using after

theorem Agree.closed (agree : Agree granted refused) (now : Int64)
    (sound₁ : LawfulLedger.Sound granted.2) (sound₂ : LawfulLedger.Sound refused.2)
    (accepted₁ : (granted.1.close granted.2 now).1 = .ok ()) (accepted₂ : (refused.1.close refused.2 now).1 = .ok ())
    (id : PlayerId) (fits : Fits ((refused.1.live id now).toInt + refused.1.parked id)) :
    LawfulLedger.balance (granted.1.close granted.2 now).2.2 id =
      LawfulLedger.balance (refused.1.close refused.2 now).2.2 id := by
  have room := fits_live_of_settled granted.1 id now agree.nothing
  have live := live_congr granted.1 refused.1 id now agree.started
  rw [balance_closed granted.1 granted.2 now id sound₁ room accepted₁,
    balance_closed refused.1 refused.2 now id sound₂ fits accepted₂, agree.saved id, live]

/--
The same starts, stops and flushes on the same sessions, once with a ledger that takes every write and once with one
of the same seconds that refuses any of them, leave the same sessions open since the same instants and the same
readings. The next flush or close that the second ledger takes leaves nothing pending, and the same seconds in both.
As the calls are any calls, all this holds after each of them.
-/
theorem refusals_repaired (sessions : Sessions) (sure : σ) (unsure : τ) (calls : List Call)
    (nothing : sessions.pending = ∅) (clocked : ∀ call ∈ calls, Clocked call)
    (sound₁ : LawfulLedger.Sound sure) (sound₂ : LawfulLedger.Sound unsure)
    (open₁ : LawfulLedger.IsOpen sure) (open₂ : LawfulLedger.IsOpen unsure)
    (same : ∀ id, LawfulLedger.balance sure id = LawfulLedger.balance unsure id)
    (accepted : Throughout Accepted (sessions, sure) calls)
    (unclipped : Throughout Unclipped (sessions, unsure) calls) :
    let granted := run (sessions, sure) calls
    let refused := run (sessions, unsure) calls
    granted.1.started = refused.1.started ∧
    (∀ id now, Readable granted id now → Readable refused id now → ∃ seconds,
      granted.1.seconds granted.2 id now = .ok seconds ∧ refused.1.seconds refused.2 id now = .ok seconds) ∧
    (∀ now, Accepted granted (.flush now) → Accepted refused (.flush now) → Unclipped refused (.flush now) →
      (perform refused (.flush now)).2.1.pending = ∅ ∧
      ∀ id, LawfulLedger.balance (perform granted (.flush now)).2.2 id =
        LawfulLedger.balance (perform refused (.flush now)).2.2 id) ∧
    ∀ now, (granted.1.close granted.2 now).1 = .ok () → (refused.1.close refused.2 now).1 = .ok () →
      Unclipped refused (.flush now) →
      (refused.1.close refused.2 now).2.1.pending = ∅ ∧
      ∀ id, LawfulLedger.balance (granted.1.close granted.2 now).2.2 id =
        LawfulLedger.balance (refused.1.close refused.2 now).2.2 id := by
  intro granted refused
  have first : Agree (sessions, sure) (sessions, unsure) :=
    ⟨rfl, nothing, fun id => congrArg (· + sessions.parked id) (same id)⟩
  have agree : Agree granted refused := Agree.run calls clocked _ _ first sound₁ sound₂ accepted unclipped
  have sound₁ : LawfulLedger.Sound granted.2 := ledger_run sound_kept _ calls sound₁
  have sound₂ : LawfulLedger.Sound refused.2 := ledger_run sound_kept _ calls sound₂
  have open₁ : LawfulLedger.IsOpen granted.2 := ledger_run isOpen_kept _ calls open₁
  have open₂ : LawfulLedger.IsOpen refused.2 := ledger_run isOpen_kept _ calls open₂
  refine ⟨agree.started, fun id now readable₁ readable₂ => ?_, fun now accepted₁ accepted₂ room => ?_,
    fun now accepted₁ accepted₂ room => ?_⟩
  · have total : saved granted id + (granted.1.live id now).toInt =
        saved refused id + (refused.1.live id now).toInt := by
      rw [agree.saved id, live_congr granted.1 refused.1 id now agree.started]
    exact seconds_congr granted refused id now open₁ open₂ readable₁ readable₂ total
  · exact ⟨pending_flush refused.1 refused.2 now accepted₂,
      agree.flushed now sound₁ sound₂ accepted₁ accepted₂ room⟩
  · have closed := sessions_close refused.1 refused.2 now accepted₂
    refine ⟨by rw [closed]; rfl, fun id => ?_⟩
    exact agree.closed now sound₁ sound₂ accepted₁ accepted₂ id (fits_due refused.1 refused.2 now id room)

/-- A stop, a second start and a flush are refused; the flush after them credits the eleven seconds of all three. -/
theorem refusals_repaired_by_flush :
    let player : PlayerId := ⟨7⟩
    let sure := TimeFile.inWorkingDirectory []
    let unsure := TimeFile.inWorkingDirectory [.refused, .refused, .refused]
    let calls : List Call :=
      [.start player 0, .stop player 3900, .start player 4000, .start player 6500, .flush 10800]
    let granted := run (empty, sure) calls
    let refused := run (empty, unsure) calls
    LawfulLedger.balance granted.2 player = 9 ∧ LawfulLedger.balance refused.2 player = 0 ∧
      granted.1.seconds granted.2 player 12500 = refused.1.seconds refused.2 player 12500 ∧
      LawfulLedger.balance (perform refused (.flush 12500)).2.2 player = 11 ∧
      LawfulLedger.balance (perform granted (.flush 12500)).2.2 player =
        LawfulLedger.balance (perform refused (.flush 12500)).2.2 player := by
  intro player sure unsure calls
  have clocked : ∀ call ∈ calls, Clocked call := by simp [calls, Clocked]
  have open₁ : LawfulLedger.IsOpen sure := by
    show (TimeFile.inWorkingDirectory []).1.isOpen = true
    decide +kernel
  have open₂ : LawfulLedger.IsOpen unsure := by
    show (TimeFile.inWorkingDirectory [.refused, .refused, .refused]).1.isOpen = true
    decide +kernel
  obtain ⟨-, readings, flushes, -⟩ := refusals_repaired empty sure unsure calls rfl clocked trivial trivial open₁ open₂
    (fun id => rfl) (by decide +kernel) (by decide +kernel)
  have readable₁ : Readable (run (empty, sure) calls) player 12500 := by decide +kernel
  have readable₂ : Readable (run (empty, unsure) calls) player 12500 := by decide +kernel
  obtain ⟨seconds, read₁, read₂⟩ := readings player 12500 readable₁ readable₂
  have flushed := flushes 12500 (by decide +kernel) (by decide +kernel) (by decide +kernel)
  exact ⟨by decide +kernel, by decide +kernel, read₁.trans read₂.symm, by decide +kernel, flushed.2 player⟩

end Playtime.Sessions
