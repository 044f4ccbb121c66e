import Playtime.Proofs.Sessions.SameTimes

namespace Playtime

structure Logged (σ : Type) where
  ledger : σ
  /-- Every entry asked for so far, refused or not. -/
  asked : List (PlayerId × Int64)

namespace Logged

variable {σ : Type} [Ledger σ]

instance : Ledger (Logged σ) where
  seconds? logged := Ledger.seconds? logged.ledger
  totals logged := Ledger.totals logged.ledger
  credit logged id delta :=
    ((Ledger.credit logged.ledger id delta).1,
      ⟨(Ledger.credit logged.ledger id delta).2, logged.asked ++ [(id, delta)]⟩)
  creditAll logged deltas :=
    ((Ledger.creditAll logged.ledger deltas).1, ⟨(Ledger.creditAll logged.ledger deltas).2, logged.asked ++ deltas⟩)
  close logged := { logged with ledger := Ledger.close logged.ledger }

def under (at₁ : Int64 → σ → σ) (clock : Int64) (logged : Logged σ) : Logged σ :=
  { logged with ledger := at₁ clock logged.ledger }

variable [LawfulLedger σ]

instance : LawfulLedger (Logged σ) where
  Sound logged := LawfulLedger.Sound logged.ledger
  IsOpen logged := LawfulLedger.IsOpen logged.ledger
  balance logged := LawfulLedger.balance logged.ledger
  credit_eq logged id delta := by
    simp only [Ledger.credit, Ledger.creditAll, LawfulLedger.credit_eq]
  sound_creditAll logged := LawfulLedger.sound_creditAll logged.ledger
  sound_close logged := LawfulLedger.sound_close logged.ledger
  isOpen_creditAll logged := LawfulLedger.isOpen_creditAll logged.ledger
  balance_accepted logged := LawfulLedger.balance_accepted logged.ledger
  balance_refused logged := LawfulLedger.balance_refused logged.ledger
  balance_close logged := LawfulLedger.balance_close logged.ledger
  balance_of_seconds? logged := LawfulLedger.balance_of_seconds? logged.ledger
  seconds?_of_isOpen logged := LawfulLedger.seconds?_of_isOpen logged.ledger

end Logged

namespace Sessions

variable {σ : Type} [Ledger σ]

theorem addAll_eq (sessions : Sessions) (ledger : σ) (deltas : List (PlayerId × Int64)) :
    (sessions.addAll ledger deltas).2 = match sessions.absorbAll deltas with
      | (.error _, absorbed) => (absorbed, ledger)
      | (.ok left, absorbed) => (absorbed, credited ledger left) := by
  unfold addAll
  rcases sessions.absorbAll deltas with ⟨_ | left, absorbed⟩
  · rfl
  · cases left <;> rfl

variable [LawfulLedger σ]

theorem settle_eq (sessions after : Sessions) (ledger : σ) (id : PlayerId) (now : Int64) :
    (after.settle ledger id (sessions.live id now)).2.2 = credited ledger (sessions.liveBatch id now) := by
  unfold liveBatch
  rcases after.settle_cases ledger id (sessions.live id now) with
    ⟨nothing, settled⟩ | ⟨some, -, settled⟩ | ⟨error, some, -, settled⟩
  · rw [settled, if_pos nothing]
    rfl
  · rw [settled, if_neg some, LawfulLedger.credit_eq]
    rfl
  · rw [settled, if_neg some, LawfulLedger.credit_eq]
    rfl

/-- Whether or not it accepts it, the ledger is asked for what a call hands over, and for nothing else. -/
theorem ledger_eq (state : Sessions × σ) (call : Call) :
    (perform state call).2.2 = match (handOver state.1 call).1 with
      | .error _ => state.2
      | .ok batch => credited state.2 batch := by
  have batches (deltas : List (PlayerId × Int64)) : (state.1.addAll state.2 deltas).2.2 =
      match (state.1.absorbAll deltas).1 with
      | .error _ => state.2
      | .ok batch => credited state.2 batch := by
    rw [addAll_eq]
    rcases state.1.absorbAll deltas with ⟨_ | left, absorbed⟩ <;> rfl
  cases call with
  | start id now => exact settle_eq state.1 _ state.2 id now
  | stop id now => exact settle_eq state.1 _ state.2 id now
  | flush now => exact settleAll_eq _ state.2 _
  | add id delta =>
    show (state.1.add state.2 id delta).2.2 = _
    rw [add_eq_addAll]
    exact batches [(id, delta)]
  | addAll deltas => exact batches deltas

def asked (at₁ : Int64 → σ → σ) (state : Sessions × σ) (calls : List (Int64 × Call)) : List (PlayerId × Int64) :=
  (runAt (Logged.under at₁) (state.1, ⟨state.2, []⟩) calls).2.asked

end Sessions

end Playtime
