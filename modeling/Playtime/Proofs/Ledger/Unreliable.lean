import Playtime.Proofs.Ledger.Listed

namespace Playtime

structure Unreliable (σ : Type) where
  ledger : σ
  /-- The errors that the next writes end with before they reach the ledger, and which of them do reach it. -/
  fates : List (Option StorageError)

namespace Unreliable

variable {σ : Type}

def attempt (unreliable : Unreliable σ) (write : σ → Except StorageError Unit × σ) :
    Except StorageError Unit × Unreliable σ :=
  match unreliable.fates with
  | some error :: later => (.error error, ⟨unreliable.ledger, later⟩)
  | fates => ((write unreliable.ledger).1, ⟨(write unreliable.ledger).2, fates.tail⟩)

theorem attempt_cases (unreliable : Unreliable σ) (write : σ → Except StorageError Unit × σ) :
    (∃ error, (unreliable.attempt write).1 = .error error ∧
        (unreliable.attempt write).2.ledger = unreliable.ledger) ∨
      (unreliable.attempt write).1 = (write unreliable.ledger).1 ∧
        (unreliable.attempt write).2.ledger = (write unreliable.ledger).2 := by
  unfold attempt
  split
  · next error later _ => exact .inl ⟨error, rfl, rfl⟩
  · exact .inr ⟨rfl, rfl⟩

variable [Ledger σ]

instance : Ledger (Unreliable σ) where
  seconds? unreliable := Ledger.seconds? unreliable.ledger
  totals unreliable := Ledger.totals unreliable.ledger
  credit unreliable id delta := unreliable.attempt fun ledger => Ledger.credit ledger id delta
  creditAll unreliable deltas := unreliable.attempt fun ledger => Ledger.creditAll ledger deltas
  close unreliable := { unreliable with ledger := Ledger.close unreliable.ledger }

theorem creditAll_cases (unreliable : Unreliable σ) (deltas : List (PlayerId × Int64)) :
    (∃ error, (Ledger.creditAll unreliable deltas).1 = .error error ∧
        (Ledger.creditAll unreliable deltas).2.ledger = unreliable.ledger) ∨
      (Ledger.creditAll unreliable deltas).1 = (Ledger.creditAll unreliable.ledger deltas).1 ∧
        (Ledger.creditAll unreliable deltas).2.ledger = (Ledger.creditAll unreliable.ledger deltas).2 :=
  unreliable.attempt_cases fun ledger => Ledger.creditAll ledger deltas

variable [LawfulLedger σ]

instance : LawfulLedger (Unreliable σ) where
  Sound unreliable := LawfulLedger.Sound unreliable.ledger
  IsOpen unreliable := LawfulLedger.IsOpen unreliable.ledger
  balance unreliable := LawfulLedger.balance unreliable.ledger
  credit_eq unreliable id delta := by
    show unreliable.attempt _ = unreliable.attempt _
    simp only [LawfulLedger.credit_eq]
  sound_creditAll unreliable deltas sound := by
    rcases unreliable.creditAll_cases deltas with ⟨_, -, kept⟩ | ⟨-, after⟩
    · rwa [kept]
    · rw [after]
      exact LawfulLedger.sound_creditAll unreliable.ledger deltas sound
  sound_close unreliable sound := LawfulLedger.sound_close unreliable.ledger sound
  isOpen_creditAll unreliable deltas := by
    rcases unreliable.creditAll_cases deltas with ⟨_, -, kept⟩ | ⟨-, after⟩
    · rw [kept]
    · rw [after]
      exact LawfulLedger.isOpen_creditAll unreliable.ledger deltas
  balance_accepted unreliable deltas sound accepted id := by
    rcases unreliable.creditAll_cases deltas with ⟨_, failed, -⟩ | ⟨same, after⟩
    · cases accepted.symm.trans failed
    · rw [after]
      exact LawfulLedger.balance_accepted unreliable.ledger deltas sound (same.symm.trans accepted) id
  balance_refused unreliable deltas error refused id := by
    rcases unreliable.creditAll_cases deltas with ⟨_, -, kept⟩ | ⟨same, after⟩
    · rw [kept]
    · rw [after]
      exact LawfulLedger.balance_refused unreliable.ledger deltas error (same.symm.trans refused) id
  balance_close unreliable := LawfulLedger.balance_close unreliable.ledger
  balance_of_seconds? unreliable := LawfulLedger.balance_of_seconds? unreliable.ledger
  seconds?_of_isOpen unreliable := LawfulLedger.seconds?_of_isOpen unreliable.ledger

instance [ListedLedger σ] : ListedLedger (Unreliable σ) where
  Keyed unreliable := ListedLedger.Keyed unreliable.ledger
  keyed_creditAll unreliable deltas keyed := by
    rcases unreliable.creditAll_cases deltas with ⟨_, -, kept⟩ | ⟨-, after⟩
    · rwa [kept]
    · rw [after]
      exact ListedLedger.keyed_creditAll unreliable.ledger deltas keyed
  keyed_close unreliable := ListedLedger.keyed_close unreliable.ledger
  totals_of_fits unreliable := ListedLedger.totals_of_fits unreliable.ledger
  fails_of_misfit unreliable := ListedLedger.fails_of_misfit unreliable.ledger

end Unreliable

end Playtime
