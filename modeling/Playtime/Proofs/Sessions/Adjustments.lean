import Playtime.Proofs.Ledger.Files
import Playtime.Proofs.Sessions.Worth

namespace Playtime

def totalOf : List Int64 → Int
  | [] => 0
  | delta :: deltas => delta.toInt + totalOf deltas

theorem totalOf_append (first second : List Int64) : totalOf (first ++ second) = totalOf first + totalOf second := by
  induction first with
  | nil => simp [totalOf]
  | cons delta first ih =>
    simp only [List.cons_append, totalOf, ih]
    omega

theorem seconds_of_adjusted (span sum : Int) :
    (span + 1000 * sum).tdiv 1000 =
      span / 1000 + sum + if span + 1000 * sum < 0 ∧ span % 1000 ≠ 0 then 1 else 0 := by
  have split := seconds_and_rest (span + 1000 * sum)
  by_cases backward : span + 1000 * sum < 0
  · have rest := rest_of_nonpos _ (Int.le_of_lt backward)
    by_cases whole : span % 1000 = 0
    · simp only [whole, ne_eq, not_true_eq_false, and_false, if_false]
      omega
    · simp only [backward, whole, ne_eq, not_false_eq_true, and_self, if_true]
      omega
  · have rest := rest_of_nonneg _ (Int.not_lt.mp backward)
    simp only [backward, false_and, if_false]
    omega

namespace Sessions

variable {σ : Type} [Ledger σ]

def adds (id : PlayerId) (deltas : List Int64) : List Call := deltas.map (Call.add id)

theorem run_adds_cons (sessions : Sessions) (ledger : σ) (id : PlayerId) (delta : Int64) (deltas : List Int64) :
    run (sessions, ledger) (adds id (delta :: deltas)) = run (sessions.add ledger id delta).2 (adds id deltas) := rfl

theorem accepted_adds_cons (sessions : Sessions) (ledger : σ) (id : PlayerId) (delta : Int64) (deltas : List Int64) :
    Throughout Accepted (sessions, ledger) (adds id (delta :: deltas)) ↔
      (sessions.add ledger id delta).1 = .ok () ∧
        Throughout Accepted (sessions.add ledger id delta).2 (adds id deltas) := Iff.rfl

theorem run_adds_of_open (sessions : Sessions) (ledger : σ) (id : PlayerId) (started : Int64) (deltas : List Int64)
    (session : sessions.started[id]? = some started)
    (accepted : Throughout Accepted (sessions, ledger) (adds id deltas)) :
    ∃ moved adjusted, run (sessions, ledger) (adds id deltas) = (adjusted, ledger) ∧
      adjusted.started[id]? = some moved ∧ moved.toInt = started.toInt - 1000 * totalOf deltas := by
  induction deltas generalizing sessions started with
  | nil => exact ⟨started, sessions, rfl, session, by simp [totalOf]⟩
  | cons delta deltas ih =>
    rw [accepted_adds_cons, add_of_open sessions ledger id started delta session] at accepted
    rw [run_adds_cons, add_of_open sessions ledger id started delta session]
    cases shifted : shift? started delta with
    | none =>
      rw [shifted] at accepted
      cases accepted.1
    | some first =>
      rw [shifted] at accepted
      have earlier := shift?_eq_some started delta first shifted
      obtain ⟨moved, adjusted, ran, found, sum⟩ := ih _ first Std.ExtTreeMap.getElem?_insert_self accepted.2
      refine ⟨moved, adjusted, ran, found, ?_⟩
      rw [totalOf]
      omega

variable [LawfulLedger σ]

theorem run_adds_of_closed (sessions : Sessions) (ledger : σ) (id : PlayerId) (deltas : List Int64)
    (closed : sessions.started[id]? = none) (sound : LawfulLedger.Sound ledger)
    (accepted : Throughout Accepted (sessions, ledger) (adds id deltas)) :
    ∃ credited, run (sessions, ledger) (adds id deltas) = (sessions, credited) ∧ LawfulLedger.Sound credited ∧
      LawfulLedger.balance credited id = LawfulLedger.balance ledger id + totalOf deltas := by
  induction deltas generalizing ledger with
  | nil => exact ⟨ledger, rfl, sound, (Int.add_zero _).symm⟩
  | cons delta deltas ih =>
    rw [accepted_adds_cons, add_of_closed sessions ledger id delta closed, LawfulLedger.credit_eq] at accepted
    rw [run_adds_cons, add_of_closed sessions ledger id delta closed, LawfulLedger.credit_eq]
    obtain ⟨head, tail⟩ := accepted
    have first := LawfulLedger.balance_accepted ledger [(id, delta)] sound head id
    obtain ⟨credited, ran, sound, sum⟩ := ih _ (LawfulLedger.sound_creditAll ledger [(id, delta)] sound) tail
    refine ⟨credited, ran, sound, ?_⟩
    rw [secondsFor_singleton, if_pos rfl] at first
    rw [sum, first, totalOf]
    omega

theorem stop_of_open (sessions : Sessions) (ledger : σ) (id : PlayerId) (started now : Int64)
    (session : sessions.started[id]? = some started) (sound : LawfulLedger.Sound ledger)
    (accepted : (sessions.stop ledger id now).1 = .ok ()) :
    ∃ credited, (sessions.stop ledger id now).2 = ({ sessions with started := sessions.started.erase id }, credited) ∧
      LawfulLedger.Sound credited ∧
      LawfulLedger.balance credited id = LawfulLedger.balance ledger id + (owedSeconds started now).toInt := by
  have made : sessions.stop ledger id now =
      settle { sessions with started := sessions.started.erase id } ledger id (owedSeconds started now) := by
    unfold stop live
    rw [session]
  rw [made] at accepted ⊢
  have same := sessions_settle _ ledger id _ accepted
  have sum := saved_settle { sessions with started := sessions.started.erase id } ledger id id _ sound
    fun refused => absurd accepted refused
  have kept := ledger_settle sound_kept { sessions with started := sessions.started.erase id } ledger id
    (owedSeconds started now) sound
  rcases settled : settle { sessions with started := sessions.started.erase id } ledger id (owedSeconds started now)
    with ⟨outcome, left, credited⟩
  rw [settled] at same sum kept
  obtain rfl : left = _ := same
  refine ⟨credited, rfl, kept, ?_⟩
  dsimp only [saved] at sum
  rw [if_pos rfl] at sum
  omega

/--
Adjustments of a player who has no session, while one is open, and after it has been stopped. If all of them are taken,
the total has grown by their sum and by the whole seconds of the session, wherever they were made, and by one second
more if the session was stopped with a negative time that is not in whole seconds.
-/
theorem adjusted_total (sessions : Sessions) (ledger : σ) (id : PlayerId) (t₀ t₁ : Int64)
    (before during after : List Int64) (closed : sessions.isAccumulating id = false)
    (sound : LawfulLedger.Sound ledger)
    (accepted : Throughout Accepted (sessions, ledger)
      (adds id before ++ .start id t₀ :: adds id during ++ .stop id t₁ :: adds id after))
    (fits : Fits (t₁.toInt - t₀.toInt + 1000 * totalOf during)) :
    LawfulLedger.balance (run (sessions, ledger)
        (adds id before ++ .start id t₀ :: adds id during ++ .stop id t₁ :: adds id after)).2 id =
      LawfulLedger.balance ledger id + totalOf (before ++ during ++ after) + (t₁.toInt - t₀.toInt) / 1000 +
        if t₁.toInt - t₀.toInt + 1000 * totalOf during < 0 ∧ (t₁.toInt - t₀.toInt) % 1000 ≠ 0 then 1 else 0 := by
  rw [isAccumulating_eq, Option.isSome_eq_false_iff, Option.isNone_iff_eq_none] at closed
  rw [List.append_assoc, throughout_append] at accepted
  rw [List.append_assoc, run_append]
  obtain ⟨first, accepted⟩ := accepted
  obtain ⟨opening, ran, sound, earlier⟩ := run_adds_of_closed sessions ledger id before closed sound first
  rw [ran] at accepted ⊢
  simp only [List.cons_append, Throughout, Accepted, run, perform, start_of_closed sessions opening id t₀ closed,
    true_and, throughout_append, run_append] at accepted ⊢
  obtain ⟨second, stopped, third⟩ := accepted
  obtain ⟨moved, adjusted, ran, session, start⟩ :=
    run_adds_of_open _ opening id t₀ during Std.ExtTreeMap.getElem?_insert_self second
  rw [ran] at stopped third ⊢
  obtain ⟨closing, ended, sound, owed⟩ := stop_of_open adjusted opening id moved t₁ session sound stopped
  rw [ended] at third ⊢
  obtain ⟨final, ran, -, later⟩ := run_adds_of_closed _ closing id after Std.ExtTreeMap.getElem?_erase_self sound third
  rw [ran]
  have span : t₁.toInt - moved.toInt = t₁.toInt - t₀.toInt + 1000 * totalOf during := by omega
  have seconds := seconds_of_adjusted (t₁.toInt - t₀.toInt) (totalOf during)
  rw [← span] at fits seconds
  rw [fits.toInt_owedSeconds, seconds, span] at owed
  rw [later, owed, earlier, totalOf_append, totalOf_append]
  omega

/--
An offline and an online debit, and a credit after the stop. The session is stopped with 2.5 seconds less than nothing
and costs two of them.
-/
theorem adjusted_total_of_debit :
    let player : PlayerId := ⟨7⟩
    let ledger := TimeFile.inWorkingDirectory []
    let calls := adds player [100, -10] ++ .start player 0 :: adds player [3, -8] ++
      .stop player 2500 :: adds player [20]
    Throughout Accepted (empty, ledger) calls ∧ LawfulLedger.balance (run (empty, ledger) calls).2 player = 108 := by
  intro player ledger calls
  have accepted : Throughout Accepted (empty, ledger) calls := by decide +kernel
  have total := adjusted_total empty ledger player 0 2500 [100, -10] [3, -8] [20] (by decide +kernel) trivial accepted
    (by decide +kernel)
  refine ⟨accepted, ?_⟩
  dsimp only [calls]
  rw [total]
  decide +kernel

/--
One second taken from a player who has half a second: the session is stopped with nothing, where the same debit before
it or after it leaves the player a second less than nothing.
-/
theorem online_debit_waived :
    let player : PlayerId := ⟨7⟩
    let ledger := TimeFile.inWorkingDirectory []
    let before := run (empty, ledger) [.add player (-1), .start player 0, .stop player 500]
    let during := run (empty, ledger) [.start player 0, .add player (-1), .stop player 500]
    let after := run (empty, ledger) [.start player 0, .stop player 500, .add player (-1)]
    LawfulLedger.balance before.2 player = -1 ∧ LawfulLedger.balance during.2 player = 0 ∧
      LawfulLedger.balance after.2 player = -1 := by
  decide +kernel

end Sessions

end Playtime
