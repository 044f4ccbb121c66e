import Playtime.Sessions

namespace Playtime

def Fits (exact : Int) : Prop := leastInt64 ≤ exact ∧ exact ≤ greatestInt64

instance (exact : Int) : Decidable (Fits exact) := inferInstanceAs (Decidable (_ ∧ _))

theorem fits_toInt (x : Int64) : Fits x.toInt := toInt_bounds x

theorem fits_iff (exact : Int) :
    Fits exact ↔ -9223372036854775808 ≤ exact ∧ exact ≤ 9223372036854775807 := Iff.rfl

theorem Fits.between {low middle high : Int} (first : Fits low) (last : Fits high)
    (above : low ≤ middle) (below : middle ≤ high) : Fits middle := by
  rw [fits_iff] at *
  omega

theorem Fits.toInt_addSat {x y : Int64} (fits : Fits (x.toInt + y.toInt)) :
    (addSat x y).toInt = x.toInt + y.toInt := toInt_clip_of_bounds _ fits.1 fits.2

theorem Fits.toInt_subSat {x y : Int64} (fits : Fits (x.toInt - y.toInt)) :
    (subSat x y).toInt = x.toInt - y.toInt := toInt_clip_of_bounds _ fits.1 fits.2

theorem Fits.toInt_mulSat {x y : Int64} (fits : Fits (x.toInt * y.toInt)) :
    (mulSat x y).toInt = x.toInt * y.toInt := toInt_clip_of_bounds _ fits.1 fits.2

theorem addSat_zero (x : Int64) : addSat x 0 = x := by
  have fits : Fits (x.toInt + (0 : Int64).toInt) := by simpa using fits_toInt x
  apply Int64.toInt_inj.mp
  rw [fits.toInt_addSat]
  simp

theorem zero_addSat (x : Int64) : addSat 0 x = x := by
  have fits : Fits ((0 : Int64).toInt + x.toInt) := by simpa using fits_toInt x
  apply Int64.toInt_inj.mp
  rw [fits.toInt_addSat]
  simp

theorem seconds_and_rest (span : Int) : 1000 * span.tdiv 1000 + span.tmod 1000 = span :=
  Int.mul_tdiv_add_tmod span 1000

theorem rest_of_nonneg (span : Int) (forward : 0 ≤ span) :
    0 ≤ span.tmod 1000 ∧ span.tmod 1000 < 1000 := by
  rw [Int.tmod_eq_emod_of_nonneg forward]
  omega

theorem rest_of_nonpos (span : Int) (backward : span ≤ 0) :
    -1000 < span.tmod 1000 ∧ span.tmod 1000 ≤ 0 := by
  have mirrored := rest_of_nonneg (-span) (by omega)
  rw [Int.neg_tmod] at mirrored
  omega

theorem seconds_of_nonneg (span : Int) (forward : 0 ≤ span) : span.tdiv 1000 = span / 1000 :=
  Int.tdiv_eq_ediv_of_nonneg forward

theorem Fits.toInt_owedSeconds {started now : Int64} (fits : Fits (now.toInt - started.toInt)) :
    (owedSeconds started now).toInt = (now.toInt - started.toInt).tdiv 1000 := by
  rw [Playtime.toInt_owedSeconds, fits.toInt_subSat]

theorem toInt_advance (started now : Int64) :
    (Sessions.advance started now).toInt = started.toInt + 1000 * (owedSeconds started now).toInt := by
  have first := fits_toInt started
  have last := fits_toInt now
  have owed := toInt_owedSeconds started now
  have split := seconds_and_rest (subSat now started).toInt
  have clipped : (subSat now started).toInt = max leastInt64 (min greatestInt64 (now.toInt - started.toInt)) :=
    toInt_clip _
  have forward := rest_of_nonneg (subSat now started).toInt
  have backward := rest_of_nonpos (subSat now started).toInt
  have thousand : (1000 : Int64).toInt = 1000 := rfl
  have span := fits_toInt (subSat now started)
  simp only [fits_iff] at first last span
  unfold leastInt64 greatestInt64 at clipped
  have product : Fits ((owedSeconds started now).toInt * (1000 : Int64).toInt) := by
    rw [thousand, fits_iff]
    omega
  have moved : Fits (started.toInt + (mulSat (owedSeconds started now) 1000).toInt) := by
    rw [product.toInt_mulSat, thousand, fits_iff]
    omega
  rw [Sessions.advance, moved.toInt_addSat, product.toInt_mulSat, thousand]
  omega

end Playtime
