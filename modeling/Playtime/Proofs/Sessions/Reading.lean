import Playtime.Proofs.Sessions.Worth

namespace Playtime.Sessions

variable {σ : Type} [Ledger σ]

theorem live_of_some (sessions : Sessions) (id : PlayerId) (started now : Int64)
    (session : sessions.started[id]? = some started) : sessions.live id now = owedSeconds started now := by
  unfold live
  rw [session]

theorem live_of_none (sessions : Sessions) (id : PlayerId) (now : Int64) (none : sessions.started[id]? = none) :
    sessions.live id now = 0 := by
  unfold live
  rw [none]

theorem live_congr (first second : Sessions) (id : PlayerId) (now : Int64)
    (same : first.started = second.started) : first.live id now = second.live id now := by
  unfold live
  rw [same]

theorem seconds_of_closed (state : Sessions × σ) (id : PlayerId) (now : Int64)
    (closed : state.1.started[id]? = none) :
    state.1.seconds state.2 id now = (Ledger.seconds? state.2 id).map fun stored =>
      addSat (stored.getD 0) (state.1.pending.getD id 0) := by
  unfold Sessions.seconds
  rw [live_of_none state.1 id now closed]
  cases Ledger.seconds? state.2 id with
  | error error => rfl
  | ok stored => simp [Except.map, addSat_zero]

variable [LawfulLedger σ]

/-- A reading of a player at an instant clips nothing on the way. -/
def Readable (state : Sessions × σ) (id : PlayerId) (now : Int64) : Prop :=
  state.1.Measured id now ∧ Fits (LawfulLedger.balance state.2 id) ∧
    Fits (LawfulLedger.balance state.2 id + (state.1.live id now).toInt) ∧
    Fits (saved state id + (state.1.live id now).toInt)

instance (state : Sessions × σ) (id : PlayerId) (now : Int64) : Decidable (Readable state id now) :=
  inferInstanceAs (Decidable (_ ∧ _ ∧ _ ∧ _))

theorem toInt_of_seconds (state : Sessions × σ) (id : PlayerId) (now seconds : Int64)
    (readable : Readable state id now) (read : state.1.seconds state.2 id now = .ok seconds) :
    seconds.toInt = saved state id + (state.1.live id now).toInt := by
  unfold Sessions.seconds at read
  split at read
  · cases read
  · next stored known =>
    cases read
    have kept := LawfulLedger.balance_of_seconds? state.2 id stored known
    have opened : Fits ((stored.getD 0).toInt + (state.1.live id now).toInt) := by
      rw [kept]
      exact readable.2.2.1
    have first := opened.toInt_addSat
    have whole : Fits ((addSat (stored.getD 0) (state.1.live id now)).toInt +
        (state.1.pending.getD id 0).toInt) := by
      have total := readable.2.2.2
      rw [first, kept]
      rwa [saved, parked, Int.add_right_comm] at total
    rw [whole.toInt_addSat, first, kept, saved, parked]
    omega

theorem seconds_of_readable (state : Sessions × σ) (id : PlayerId) (now : Int64)
    (isOpen : LawfulLedger.IsOpen state.2) (readable : Readable state id now) :
    ∃ seconds, state.1.seconds state.2 id now = .ok seconds ∧
      seconds.toInt = saved state id + (state.1.live id now).toInt := by
  obtain ⟨stored, known⟩ := LawfulLedger.seconds?_of_isOpen state.2 id isOpen readable.2.1
  have read : state.1.seconds state.2 id now =
      .ok (addSat (addSat (stored.getD 0) (state.1.live id now)) (state.1.pending.getD id 0)) := by
    rw [Sessions.seconds, known]
  exact ⟨_, read, toInt_of_seconds state id now _ readable read⟩

theorem seconds_congr {τ : Type} [Ledger τ] [LawfulLedger τ] (first : Sessions × σ) (second : Sessions × τ)
    (id : PlayerId) (now : Int64)
    (open₁ : LawfulLedger.IsOpen first.2) (open₂ : LawfulLedger.IsOpen second.2)
    (readable₁ : Readable first id now) (readable₂ : Readable second id now)
    (total : saved first id + (first.1.live id now).toInt = saved second id + (second.1.live id now).toInt) :
    ∃ seconds, first.1.seconds first.2 id now = .ok seconds ∧ second.1.seconds second.2 id now = .ok seconds := by
  obtain ⟨seconds, read, exact⟩ := seconds_of_readable first id now open₁ readable₁
  obtain ⟨others, reread, again⟩ := seconds_of_readable second id now open₂ readable₂
  have same : seconds = others := Int64.toInt_inj.mp (by omega)
  exact ⟨seconds, read, same ▸ reread⟩

theorem seconds_kept (before after : Sessions × σ) (id : PlayerId) (total : Int64)
    (closed₁ : before.1.started[id]? = none) (closed₂ : after.1.started[id]? = none)
    (isOpen : LawfulLedger.IsOpen after.2) (pending : after.1.pending = before.1.pending)
    (balance : LawfulLedger.balance after.2 id = LawfulLedger.balance before.2 id)
    (read : ∀ now, before.1.seconds before.2 id now = .ok total) (now : Int64) :
    after.1.seconds after.2 id now = .ok total := by
  have first := read now
  rw [seconds_of_closed before id now closed₁] at first
  rw [seconds_of_closed after id now closed₂, pending]
  cases known : Ledger.seconds? before.2 id with
  | error error =>
    rw [known] at first
    cases first
  | ok stored =>
    rw [known] at first
    have kept := LawfulLedger.balance_of_seconds? before.2 id stored known
    have fits : Fits (LawfulLedger.balance after.2 id) := by
      rw [balance, ← kept]
      exact fits_toInt _
    obtain ⟨again, reread⟩ := LawfulLedger.seconds?_of_isOpen after.2 id isOpen fits
    have same := LawfulLedger.balance_of_seconds? after.2 id again reread
    have equal : again.getD 0 = stored.getD 0 := Int64.toInt_inj.mp (by omega)
    rw [reread]
    simp only [Except.map, equal] at *
    exact first

theorem balance_closed (sessions : Sessions) (ledger : σ) (now : Int64) (id : PlayerId)
    (sound : LawfulLedger.Sound ledger) (fits : Fits ((sessions.live id now).toInt + sessions.parked id))
    (accepted : (sessions.close ledger now).1 = .ok ()) :
    LawfulLedger.balance (sessions.close ledger now).2.2 id =
      saved (sessions, ledger) id + (sessions.live id now).toInt := by
  have settled := saved_settleAll ∅ ledger (sessions.due now) id sound
  have nothing : (settleAll ⟨∅, ∅⟩ ledger (sessions.due now)).2.1 = ⟨∅, ∅⟩ :=
    sessions_settleAll _ ledger (sessions.due now) accepted
  have shut := LawfulLedger.balance_close (settleAll ⟨∅, ∅⟩ ledger (sessions.due now)).2.2 id
  have none := parked_of_empty ∅ id
  rw [getD_due, fits.toInt_addSat] at settled
  change LawfulLedger.balance (sessions.close ledger now).2.2 id = _ at shut
  unfold saved at *
  rw [nothing] at settled
  change Fits ((sessions.live id now).toInt + sessions.parked id) at fits
  change _ = LawfulLedger.balance ledger id + (_ + sessions.parked id) at settled
  dsimp only
  omega

end Playtime.Sessions
