/-!
Arithmetic of times and durations. Instants are unix milliseconds and durations whole seconds, both in
64 signed bits. A result that leaves the range is either clipped to the nearer end (`addSat`, `subSat`,
`mulSat`) or refused (`add?`, `sub?`, `mul?`); nothing wraps.

Main statements: each operation is its exact counterpart on `Int`, clipped or refused at the two ends.
-/

namespace Playtime

def leastInt64 : Int := -9223372036854775808

def greatestInt64 : Int := 9223372036854775807

def int64? (exact : Int) : Option Int64 :=
  if leastInt64 ≤ exact ∧ exact ≤ greatestInt64 then some (Int64.ofInt exact) else none

def clip (exact : Int) : Int64 :=
  if exact < leastInt64 then Int64.minValue
  else if greatestInt64 < exact then Int64.maxValue
  else Int64.ofInt exact

def addSat (x y : Int64) : Int64 := clip (x.toInt + y.toInt)

def subSat (x y : Int64) : Int64 := clip (x.toInt - y.toInt)

def mulSat (x y : Int64) : Int64 := clip (x.toInt * y.toInt)

def add? (x y : Int64) : Option Int64 := int64? (x.toInt + y.toInt)

def sub? (x y : Int64) : Option Int64 := int64? (x.toInt - y.toInt)

def mul? (x y : Int64) : Option Int64 := int64? (x.toInt * y.toInt)

/-- Whole seconds of milliseconds, cut toward zero. -/
def wholeSeconds (millis : Int64) : Int64 := Int64.ofInt (millis.toInt.tdiv 1000)

/--
Whole seconds owed at `now` to a session that started at `started`. They are negative when a debit has
moved the start past `now`.
-/
def owedSeconds (started now : Int64) : Int64 := wholeSeconds (subSat now started)

theorem toInt_bounds (x : Int64) : leastInt64 ≤ x.toInt ∧ x.toInt ≤ greatestInt64 := by
  have low := x.le_toInt
  have high := x.toInt_lt
  unfold leastInt64 greatestInt64
  omega

theorem toInt_ofInt_of_bounds (exact : Int) (low : leastInt64 ≤ exact) (high : exact ≤ greatestInt64) :
    (Int64.ofInt exact).toInt = exact := by
  unfold leastInt64 at low
  unfold greatestInt64 at high
  exact Int64.toInt_ofInt_of_le (by omega) (by omega)

theorem toInt_clip (exact : Int) :
    (clip exact).toInt = max leastInt64 (min greatestInt64 exact) := by
  have ends : leastInt64 ≤ greatestInt64 := by decide
  unfold clip
  split
  · have : Int64.minValue.toInt = leastInt64 := by decide
    omega
  · split
    · have : Int64.maxValue.toInt = greatestInt64 := by decide
      omega
    · rw [toInt_ofInt_of_bounds exact (by omega) (by omega)]
      omega

theorem toInt_clip_of_bounds (exact : Int) (low : leastInt64 ≤ exact) (high : exact ≤ greatestInt64) :
    (clip exact).toInt = exact := by
  rw [toInt_clip]
  omega

theorem int64?_eq_some_iff (exact : Int) (x : Int64) : int64? exact = some x ↔ x.toInt = exact := by
  unfold int64?
  split
  · next fits =>
    rw [Option.some.injEq, ← Int64.toInt_inj, toInt_ofInt_of_bounds exact fits.1 fits.2]
    exact eq_comm
  · next misfit =>
    simp only [reduceCtorEq, false_iff]
    intro same
    exact misfit (same ▸ toInt_bounds x)

theorem int64?_eq_none_iff (exact : Int) :
    int64? exact = none ↔ exact < leastInt64 ∨ greatestInt64 < exact := by
  unfold int64?
  split <;> simp <;> omega

theorem toInt_wholeSeconds (millis : Int64) : (wholeSeconds millis).toInt = millis.toInt.tdiv 1000 := by
  have bounds := toInt_bounds millis
  have exact := Int.mul_tdiv_add_tmod millis.toInt 1000
  have rest : (millis.toInt.tmod 1000).natAbs = millis.toInt.natAbs % 1000 := Int.natAbs_tmod _ _
  unfold leastInt64 greatestInt64 at bounds
  apply toInt_ofInt_of_bounds
  · unfold leastInt64
    omega
  · unfold greatestInt64
    omega

theorem toInt_owedSeconds (started now : Int64) :
    (owedSeconds started now).toInt = (subSat now started).toInt.tdiv 1000 :=
  toInt_wholeSeconds _

end Playtime
