import Playtime.Proofs.Ledger.Checked
import Playtime.Proofs.Sessions.Calls

namespace Playtime.Sessions

open LawfulLedger (balance)
open CheckedLedger (Ready)

variable {σ : Type} [Ledger σ]

/-- The seconds that a flush credits a player: those of the session and those pending. -/
def owing (sessions : Sessions) (now : Int64) (id : PlayerId) : Int64 :=
  addSat (sessions.live id now) (sessions.pending.getD id 0)

theorem owing_eq_getD_due (sessions : Sessions) (now : Int64) :
    sessions.owing now = fun id => (sessions.due now).getD id 0 := by
  funext id
  exact (getD_due sessions now id).symm

theorem mem_toList_of_getD (batch : Totals) (id : PlayerId) (due : batch.getD id 0 ≠ 0) :
    (id, batch.getD id 0) ∈ batch.toList := by
  rw [Std.ExtTreeMap.mem_toList_iff_getElem?_eq_some]
  rw [Std.ExtTreeMap.getD_eq_getD_getElem?] at *
  cases found : batch[id]? with
  | none => simp [found] at due
  | some seconds => rfl

theorem getD_of_mem_toList (batch : Totals) (entry : PlayerId × Int64) (member : entry ∈ batch.toList) :
    batch.getD entry.1 0 = entry.2 := by
  rw [Std.ExtTreeMap.getD_eq_getD_getElem?, Std.ExtTreeMap.mem_toList_iff_getElem?_eq_some.mp member]
  rfl

theorem settleAll_of_ok (sessions : Sessions) (ledger : σ) (batch : Totals)
    (accepted : (Ledger.creditAll ledger batch.toList).1 = .ok ()) :
    (sessions.settleAll ledger batch).1 = .ok () := by
  rcases sessions.settleAll_cases ledger batch with ⟨-, settled⟩ | ⟨-, -, settled⟩ | ⟨error, -, refused, -⟩
  · rw [settled]
  · rw [settled]
  · cases refused.symm.trans accepted

/-- The ledger would take the amount of each player alone. -/
def Creditable (ledger : σ) (amount : PlayerId → Int64) : Prop :=
  ∀ id, (Ledger.credit ledger id (amount id)).1 = .ok ()

variable [LawfulLedger σ]

/-- Every player has been credited an amount, and nothing is pending. -/
structure CreditsAll (ledger : σ) (amount : PlayerId → Int64) (result : Except StorageError Unit × Sessions × σ) :
    Prop where
  accepted : result.1 = .ok ()
  balances (id : PlayerId) : balance result.2.2 id = balance ledger id + (amount id).toInt
  nothing : result.2.1.pending = ∅

/-- A player's amount is out of the ledger's range, nobody has been credited, and all amounts are pending. -/
structure CreditsNone (ledger : σ) (amount : PlayerId → Int64) (result : Except StorageError Unit × Sessions × σ) :
    Prop where
  refused : ∃ id, (Ledger.credit ledger id (amount id)).1 ≠ .ok () ∧
    result.1 = .error (.outOfRange id (amount id))
  balances (id : PlayerId) : balance result.2.2 id = balance ledger id
  pending (id : PlayerId) : result.2.1.pending.getD id 0 = amount id

theorem CreditsAll.close {ledger : σ} {amount : PlayerId → Int64}
    {result : Except StorageError Unit × Sessions × σ} (all : CreditsAll ledger amount result) :
    CreditsAll ledger amount (result.1, result.2.1, Ledger.close result.2.2) :=
  ⟨all.accepted, fun id => (LawfulLedger.balance_close _ id).trans (all.balances id), all.nothing⟩

theorem CreditsNone.close {ledger : σ} {amount : PlayerId → Int64}
    {result : Except StorageError Unit × Sessions × σ} (none : CreditsNone ledger amount result) :
    CreditsNone ledger amount (result.1, result.2.1, Ledger.close result.2.2) :=
  ⟨none.refused, fun id => (LawfulLedger.balance_close _ id).trans (none.balances id), none.pending⟩

theorem creditsAll_of_ok (started : Std.ExtTreeMap PlayerId Int64 compare) (ledger : σ) (batch : Totals)
    (sound : LawfulLedger.Sound ledger) (accepted : (Ledger.creditAll ledger batch.toList).1 = .ok ()) :
    CreditsAll ledger (fun id => batch.getD id 0) (settleAll ⟨started, ∅⟩ ledger batch) := by
  have settled := settleAll_of_ok ⟨started, ∅⟩ ledger batch accepted
  have same : (settleAll ⟨started, ∅⟩ ledger batch).2.1 = ⟨started, ∅⟩ := sessions_settleAll _ ledger batch settled
  refine ⟨settled, fun id => ?_, by rw [same]⟩
  have sum := saved_settleAll started ledger batch id sound
  rw [saved, same, parked_of_empty, Int.add_zero] at sum
  exact sum

theorem creditsNone_of_error (started : Std.ExtTreeMap PlayerId Int64 compare) (ledger : σ) (batch : Totals)
    (entry : PlayerId × Int64) (member : entry ∈ batch.toList)
    (misfit : (Ledger.credit ledger entry.1 entry.2).1 ≠ .ok ())
    (refused : (Ledger.creditAll ledger batch.toList).1 = .error (.outOfRange entry.1 entry.2)) :
    CreditsNone ledger (fun id => batch.getD id 0) (settleAll ⟨started, ∅⟩ ledger batch) := by
  have unchanged := LawfulLedger.balance_refused ledger batch.toList _ refused
  rw [← getD_of_mem_toList batch entry member] at misfit refused
  rcases settleAll_cases ⟨started, ∅⟩ ledger batch with
    ⟨empty, -⟩ | ⟨-, accepted, -⟩ | ⟨error, -, failed, settled⟩
  · rw [empty] at member
    cases member
  · cases accepted.symm.trans refused
  · cases failed.symm.trans refused
    rw [settled]
    exact ⟨⟨entry.1, misfit, rfl⟩, unchanged, fun id => Int64.toInt_inj.mp (parked_parkAll started batch id)⟩

variable [CheckedLedger σ]

theorem settleAll_all_or_none (started : Std.ExtTreeMap PlayerId Int64 compare) (ledger : σ) (batch : Totals)
    (sound : LawfulLedger.Sound ledger) (ready : Ready ledger) :
    (Creditable ledger (fun id => batch.getD id 0) →
      CreditsAll ledger (fun id => batch.getD id 0) (settleAll ⟨started, ∅⟩ ledger batch)) ∧
    (¬ Creditable ledger (fun id => batch.getD id 0) →
      CreditsNone ledger (fun id => batch.getD id 0) (settleAll ⟨started, ∅⟩ ledger batch)) := by
  have distinct : (batch.toList.map Prod.fst).Nodup := by
    rw [Std.ExtTreeMap.map_fst_toList_eq_keys]
    exact Std.ExtTreeMap.nodup_keys
  rcases CheckedLedger.outcome ledger batch.toList ready distinct with ⟨admitted, accepted⟩ |
    ⟨entry, member, misfit, refused⟩
  · refine ⟨fun _ => creditsAll_of_ok started ledger batch sound accepted, fun misfit => absurd (fun id => ?_) misfit⟩
    apply (CheckedLedger.credit_eq_ok_iff ledger id _ ready).mpr
    dsimp only
    by_cases due : batch.getD id 0 = 0
    · rw [due]
      exact CheckedLedger.admits_zero ledger id
    · exact admitted _ (mem_toList_of_getD batch id due)
  · rw [← CheckedLedger.credit_eq_ok_iff ledger _ _ ready] at misfit
    refine ⟨fun creditable => ?_, fun _ => creditsNone_of_error started ledger batch entry member misfit refused⟩
    have taken : (Ledger.credit ledger entry.1 (batch.getD entry.1 0)).1 = .ok () := creditable entry.1
    rw [getD_of_mem_toList batch entry member] at taken
    exact absurd taken misfit

/--
While a ledger is ready to be written, a flush or a close credits every player what the session and the pending credits
of the player come to, and leaves nothing pending, if the ledger would take the seconds of each of them alone. If it
would not, then it fails with the seconds of such a player out of range, no player is credited, and what it was to
credit each player is pending.
-/
theorem flush_credits_all_or_none (sessions : Sessions) (ledger : σ) (now : Int64)
    (sound : LawfulLedger.Sound ledger) (ready : Ready ledger) :
    let amount := sessions.owing now
    (Creditable ledger amount →
      CreditsAll ledger amount (sessions.flush ledger now) ∧ CreditsAll ledger amount (sessions.close ledger now)) ∧
    (¬ Creditable ledger amount → CreditsNone ledger amount (sessions.flush ledger now) ∧
      CreditsNone ledger amount (sessions.close ledger now)) := by
  intro amount
  have same : amount = fun id => (sessions.due now).getD id 0 := owing_eq_getD_due sessions now
  rw [same]
  have flushed := settleAll_all_or_none (sessions.started.map fun _ started => advance started now) ledger
    (sessions.due now) sound ready
  have closed := settleAll_all_or_none ∅ ledger (sessions.due now) sound ready
  exact ⟨fun creditable => ⟨flushed.1 creditable, (closed.1 creditable).close⟩,
    fun misfit => ⟨flushed.2 misfit, (closed.2 misfit).close⟩⟩

/-- A stop of one player is refused by the disk; the flush credits its seconds with those of another. -/
theorem flush_credits_all_or_none_past_refusal :
    let player : PlayerId := ⟨7⟩
    let other : PlayerId := ⟨8⟩
    let calls : List Call := [.start player 0, .start other 500, .add other (-3), .stop player 4200]
    let state := run (empty, TimeFile.inWorkingDirectory [.refused]) calls
    let flushed := state.1.flush state.2 9000
    balance state.2 player = 0 ∧ flushed.1 = .ok () ∧ flushed.2.1.pending = ∅ ∧
      balance flushed.2.2 player = 4 ∧ balance flushed.2.2 other = 5 := by
  intro player other calls state flushed
  have ready : Ready state.2 := ⟨by decide +kernel, by decide +kernel,
    ⟨["time.json.tmp"], by decide +kernel, by decide +kernel⟩, ⟨["time.json"], by decide +kernel, by decide +kernel⟩⟩
  obtain ⟨all, none⟩ := flush_credits_all_or_none state.1 state.2 9000 trivial ready
  -- The ledger would refuse only sums that 64 bits do not hold, and its totals are still nothing.
  by_cases creditable : Creditable state.2 (state.1.owing 9000)
  · obtain ⟨done, balances, nothing⟩ : CreditsAll state.2 (state.1.owing 9000) flushed := (all creditable).1
    exact ⟨by decide +kernel, done, nothing, by rw [balances]; decide +kernel, by rw [balances]; decide +kernel⟩
  · obtain ⟨⟨id, -, refused⟩, -, -⟩ := (none creditable).1
    have taken : flushed.1.isOk = true := by decide +kernel
    rw [refused] at taken
    cases taken

/--
A flush keeps back thirty seconds that the ledger would take alone, as another player's total is at the end of the range
and that player owes as much. A close loses them.
-/
theorem full_total_holds_back_others :
    let full : PlayerId := ⟨1⟩
    let other : PlayerId := ⟨2⟩
    let calls : List Call := [.add full Int64.maxValue, .start full 0, .start other 0]
    let state := run (empty, TimeFile.inWorkingDirectory []) calls
    let flushed := state.1.flush state.2 30000
    let closed := state.1.close state.2 30000
    Ready state.2 ∧ state.1.owing 30000 other = 30 ∧ (Ledger.credit state.2 other 30).1 = .ok () ∧
      balance state.2 other = 0 ∧ balance flushed.2.2 other = 0 ∧ flushed.2.1.pending.getD other 0 = 30 ∧
      balance closed.2.2 other = 0 := by
  intro full other calls state flushed closed
  exact ⟨⟨by decide +kernel, by decide +kernel, ⟨["time.json.tmp"], by decide +kernel, by decide +kernel⟩,
    ⟨["time.json"], by decide +kernel, by decide +kernel⟩⟩, by decide +kernel, isOk_iff.mp (by decide +kernel),
    by decide +kernel, by decide +kernel, by decide +kernel, by decide +kernel⟩

end Playtime.Sessions
