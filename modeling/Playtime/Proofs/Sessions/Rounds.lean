import Playtime.Proofs.Ledger.Files
import Playtime.Proofs.Sessions.Worth

namespace Playtime.Sessions

theorem owed_of_forward {started now : Int64} (forward : started.toInt ≤ now.toInt) :
    (owedSeconds started now).toInt = min (now.toInt - started.toInt) greatestInt64 / 1000 := by
  have clipped : (subSat now started).toInt = max leastInt64 (min greatestInt64 (now.toInt - started.toInt)) :=
    toInt_clip _
  unfold leastInt64 greatestInt64 at *
  rw [toInt_owedSeconds, seconds_of_nonneg _ (by omega), clipped]
  omega

theorem owed_of_backward {started now : Int64} (backward : now.toInt ≤ started.toInt) :
    (owedSeconds started now).toInt = -(min (started.toInt - now.toInt) greatestInt64 / 1000) := by
  have clipped : (subSat now started).toInt = max leastInt64 (min greatestInt64 (now.toInt - started.toInt)) :=
    toInt_clip _
  unfold leastInt64 greatestInt64 at *
  have mirrored := seconds_of_nonneg (-(subSat now started).toInt) (by omega)
  rw [Int.neg_tdiv] at mirrored
  rw [toInt_owedSeconds]
  omega

/-- A flush of a session moves the start toward now by the seconds that it credits, with nothing clipped. -/
structure Advances (started now : Int64) : Prop where
  product : Fits ((owedSeconds started now).toInt * 1000)
  scaled : (mulSat (owedSeconds started now) 1000).toInt = (owedSeconds started now).toInt * 1000
  sum : Fits (started.toInt + (owedSeconds started now).toInt * 1000)
  moved : (advance started now).toInt = started.toInt + (owedSeconds started now).toInt * 1000
  between : min started.toInt now.toInt ≤ (advance started now).toInt ∧
    (advance started now).toInt ≤ max started.toInt now.toInt
  near (measured : Fits (now.toInt - started.toInt)) : (now.toInt - (advance started now).toInt).natAbs < 1000

theorem advances (started now : Int64) : Advances started now := by
  have moved := toInt_advance started now
  have first := (fits_iff _).mp (fits_toInt started)
  have last := (fits_iff _).mp (fits_toInt now)
  have owed : (started.toInt ≤ now.toInt ∧
        (owedSeconds started now).toInt = min (now.toInt - started.toInt) greatestInt64 / 1000) ∨
      (now.toInt ≤ started.toInt ∧
        (owedSeconds started now).toInt = -(min (started.toInt - now.toInt) greatestInt64 / 1000)) :=
    (Int.le_total started.toInt now.toInt).imp (fun order => ⟨order, owed_of_forward order⟩)
      fun order => ⟨order, owed_of_backward order⟩
  unfold greatestInt64 at owed
  have product : Fits ((owedSeconds started now).toInt * 1000) := by
    rw [fits_iff]
    omega
  refine ⟨product, product.toInt_mulSat, ?_, by omega, by omega, fun measured => ?_⟩
  · rw [fits_iff]
    omega
  · rw [fits_iff] at measured
    omega

theorem seconds_advance (started now : Int64) :
    (now.toInt - started.toInt).tdiv 1000 =
      (owedSeconds started now).toInt + (now.toInt - (advance started now).toInt).tdiv 1000 := by
  have moved := toInt_advance started now
  rcases Int.le_total started.toInt now.toInt with forward | backward
  · have owed := owed_of_forward forward
    unfold greatestInt64 at owed
    rw [seconds_of_nonneg _ (by omega), seconds_of_nonneg _ (by omega)]
    omega
  · have owed := owed_of_backward backward
    unfold greatestInt64 at owed
    have whole := seconds_of_nonneg (-(now.toInt - started.toInt)) (by omega)
    have left := seconds_of_nonneg (-(now.toInt - (advance started now).toInt)) (by omega)
    rw [Int.neg_tdiv] at whole left
    omega

theorem distance_advance (started now : Int64) :
    (now.toInt - (advance started now).toInt).natAbs =
      (now.toInt - started.toInt).natAbs -
        min (now.toInt - started.toInt).natAbs 9223372036854775807 / 1000 * 1000 := by
  have moved := toInt_advance started now
  rcases Int.le_total started.toInt now.toInt with forward | backward
  · have owed := owed_of_forward forward
    unfold greatestInt64 at owed
    omega
  · have owed := owed_of_backward backward
    unfold greatestInt64 at owed
    omega

theorem owed_eq_zero_iff (started now : Int64) :
    owedSeconds started now = 0 ↔ (now.toInt - started.toInt).natAbs < 1000 := by
  rw [← Int64.toInt_inj, show (0 : Int64).toInt = 0 from rfl]
  rcases Int.le_total started.toInt now.toInt with forward | backward
  · have owed := owed_of_forward forward
    unfold greatestInt64 at owed
    omega
  · have owed := owed_of_backward backward
    unfold greatestInt64 at owed
    omega

theorem owedSeconds_advance {started now : Int64} (fits : Fits (now.toInt - started.toInt)) :
    owedSeconds (advance started now) now = 0 :=
  (owed_eq_zero_iff _ now).mpr ((advances started now).near fits)

def startAfter (now : Int64) : Nat → Int64 → Int64
  | 0, started => started
  | rounds + 1, started => startAfter now rounds (advance started now)

def creditedBy (now : Int64) : Nat → Int64 → Int
  | 0, _ => 0
  | rounds + 1, started => (owedSeconds started now).toInt + creditedBy now rounds (advance started now)

theorem creditedBy_add (now : Int64) (rounds : Nat) (started : Int64) :
    creditedBy now rounds started + (now.toInt - (startAfter now rounds started).toInt).tdiv 1000 =
      (now.toInt - started.toInt).tdiv 1000 := by
  induction rounds generalizing started with
  | zero => exact Int.zero_add _
  | succ rounds ih =>
    have first := seconds_advance started now
    have others := ih (advance started now)
    rw [creditedBy, startAfter]
    omega

theorem near_startAfter (now : Int64) (rounds : Nat) (started : Int64)
    (near : (now.toInt - started.toInt).natAbs < 1000) :
    (now.toInt - (startAfter now rounds started).toInt).natAbs < 1000 := by
  induction rounds generalizing started with
  | zero => exact near
  | succ rounds ih =>
    have distance := distance_advance started now
    exact ih _ (by omega)

/-- The first flush may leave nearly as much as 64 bits measure, and the second a little more than a second. -/
theorem near_of_three_rounds (now started : Int64) (rounds : Nat) (three : 3 ≤ rounds) :
    (now.toInt - (startAfter now rounds started).toInt).natAbs < 1000 := by
  obtain ⟨more, rfl⟩ := Nat.exists_eq_add_of_le' three
  have first := (fits_iff _).mp (fits_toInt started)
  have last := (fits_iff _).mp (fits_toInt now)
  have once := distance_advance started now
  have twice := distance_advance (advance started now) now
  have thrice := distance_advance (advance (advance started now) now) now
  exact near_startAfter now more _ (by omega)

theorem owed_between (started now : Int64) :
    min 0 ((now.toInt - started.toInt).tdiv 1000) ≤ (owedSeconds started now).toInt ∧
      (owedSeconds started now).toInt ≤ max 0 ((now.toInt - started.toInt).tdiv 1000) := by
  rcases Int.le_total started.toInt now.toInt with forward | backward
  · have owed := owed_of_forward forward
    unfold greatestInt64 at owed
    rw [seconds_of_nonneg _ (by omega)]
    omega
  · have owed := owed_of_backward backward
    unfold greatestInt64 at owed
    have whole := seconds_of_nonneg (-(now.toInt - started.toInt)) (by omega)
    rw [Int.neg_tdiv] at whole
    omega

theorem fits_seconds (started now : Int64) : Fits ((now.toInt - started.toInt).tdiv 1000) := by
  have first := (fits_iff _).mp (fits_toInt started)
  have last := (fits_iff _).mp (fits_toInt now)
  have quotient : ((now.toInt - started.toInt).tdiv 1000).natAbs = (now.toInt - started.toInt).natAbs / 1000 :=
    Int.natAbs_tdiv _ _
  rw [fits_iff]
  omega

variable {σ : Type} [Ledger σ]

theorem parked_flush (sessions : Sessions) (ledger : σ) (now : Int64) (id : PlayerId) :
    (sessions.flush ledger now).2.1.parked id = 0 ∨
      (sessions.flush ledger now).2.1.parked id =
        (addSat (sessions.live id now) (sessions.pending.getD id 0)).toInt := by
  unfold flush
  rcases settleAll_cases ⟨sessions.started.map fun _ started => advance started now, ∅⟩ ledger (sessions.due now) with
    ⟨-, settled⟩ | ⟨-, -, settled⟩ | ⟨error, -, -, settled⟩
  · rw [settled]
    exact .inl (parked_of_empty _ id)
  · rw [settled]
    exact .inl (parked_of_empty _ id)
  · rw [settled, parked_parkAll, getD_due]
    exact .inr rfl

variable [LawfulLedger σ]

theorem run_flushes (state : Sessions × σ) (now : Int64) (id : PlayerId) (started : Int64)
    (sound : LawfulLedger.Sound state.2) (session : state.1.started[id]? = some started)
    (fits : Fits (state.1.parked id + (now.toInt - started.toInt).tdiv 1000)) (rounds : Nat) :
    (run state (List.replicate rounds (.flush now))).1.started[id]? = some (startAfter now rounds started) ∧
      saved (run state (List.replicate rounds (.flush now))) id = saved state id + creditedBy now rounds started := by
  induction rounds generalizing state started with
  | zero => exact ⟨session, (Int.add_zero _).symm⟩
  | succ rounds ih =>
    have live : state.1.live id now = owedSeconds started now := by rw [Sessions.live, session]
    have split := seconds_advance started now
    have due : Fits ((state.1.live id now).toInt + state.1.parked id) := by
      have between := owed_between started now
      have parked := fits_toInt (state.1.pending.getD id 0)
      change Fits (state.1.parked id) at parked
      rw [fits_iff] at *
      rw [live]
      omega
    have credited := saved_flush_of_fits state.1 state.2 now id sound due
    have parked : (state.1.flush state.2 now).2.1.parked id = 0 ∨
        (state.1.flush state.2 now).2.1.parked id = (state.1.live id now).toInt + state.1.parked id :=
      due.toInt_addSat ▸ state.1.parked_flush state.2 now id
    have others := ih (state.1.flush state.2 now).2 (advance started now)
      (ledger_perform sound_kept state (.flush now) sound)
      (by rw [started_flush, Std.ExtTreeMap.getElem?_map, session]; rfl) (by
        rcases parked with nothing | all
        · rw [nothing, Int.zero_add]
          exact fits_seconds _ now
        · rw [all, live]
          rwa [show ∀ owed parked left : Int, owed + parked + left = parked + (owed + left) by omega, ← split])
    refine ⟨others.1, others.2.trans ?_⟩
    rw [credited, live, creditedBy]
    exact Int.add_assoc _ _ _

/--
For every start and every instant, a flush at the instant clips nothing and moves the start toward the instant, to
within a second of it if the time between them is representable. From the third flush at the instant on nothing is
owed, and the flushes have credited the whole seconds between the two, cut toward zero, exactly. So it goes for a
session over any ledger, whichever of the flushes it refuses, while the seconds of the player that wait for it are
representable.
-/
theorem repeated_flush_settles (started now : Int64) :
    Advances started now ∧
      (∀ rounds, 3 ≤ rounds → owedSeconds (startAfter now rounds started) now = 0 ∧
        creditedBy now rounds started = (now.toInt - started.toInt).tdiv 1000) ∧
      ∀ (state : Sessions × σ) (id : PlayerId), LawfulLedger.Sound state.2 → state.1.started[id]? = some started →
        Fits (state.1.parked id + (now.toInt - started.toInt).tdiv 1000) → ∀ rounds,
          let after := run state (List.replicate rounds (.flush now))
          after.1.started[id]? = some (startAfter now rounds started) ∧
            saved after id = saved state id + creditedBy now rounds started := by
  refine ⟨advances started now, fun rounds three => ?_, fun state id sound session fits rounds =>
    run_flushes state now id started sound session fits rounds⟩
  have near := near_of_three_rounds now started rounds three
  have whole := creditedBy_add now rounds started
  have nothing : (now.toInt - (startAfter now rounds started).toInt).tdiv 1000 = 0 := by
    rw [← Int.natAbs_eq_zero, Int.natAbs_tdiv]
    exact Nat.div_eq_of_lt near
  exact ⟨(owed_eq_zero_iff _ now).mpr near, by omega⟩

/-- The time between the two ends of the range takes three flushes, of which the ledger refuses the first. -/
theorem repeated_flush_settles_past_refusal :
    let player : PlayerId := ⟨7⟩
    let first := Int64.minValue
    let last := Int64.maxValue
    let state := (empty.start (TimeFile.inWorkingDirectory [.refused]) player first).2
    state.1.started[player]? = some first ∧ Fits (state.1.parked player + (last.toInt - first.toInt).tdiv 1000) ∧
      ((run state [.flush last]).1.parked player = 9223372036854775 ∧
        owedSeconds (startAfter last 2 first) last = 1) ∧
      owedSeconds (startAfter last 3 first) last = 0 ∧
      saved (run state (List.replicate 3 (.flush last))) player = 18446744073709551 := by
  intro player first last state
  have session : state.1.started[player]? = some first := by decide +kernel
  have fits : Fits (state.1.parked player + (last.toInt - first.toInt).tdiv 1000) := by decide +kernel
  obtain ⟨-, settled, rounds⟩ := @repeated_flush_settles (TimeFile × Disk) _ _ first last
  obtain ⟨nothing, whole⟩ := settled 3 (Nat.le_refl 3)
  obtain ⟨-, credited⟩ := rounds state player trivial session fits 3
  have before : saved state player = 0 := by decide +kernel
  refine ⟨session, fits, by decide +kernel, nothing, credited.trans ?_⟩
  rw [whole, before]
  decide

end Playtime.Sessions
