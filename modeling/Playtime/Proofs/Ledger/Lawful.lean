import Mathlib.Data.List.Nodup
import Playtime.Proofs.Arithmetic

namespace Playtime

def secondsFor (id : PlayerId) : List (PlayerId × Int64) → Int
  | [] => 0
  | (other, delta) :: rest => (if other = id then delta.toInt else 0) + secondsFor id rest

theorem secondsFor_singleton (id other : PlayerId) (delta : Int64) :
    secondsFor id [(other, delta)] = if other = id then delta.toInt else 0 := by
  simp [secondsFor]

theorem secondsFor_append (id : PlayerId) (first second : List (PlayerId × Int64)) :
    secondsFor id (first ++ second) = secondsFor id first + secondsFor id second := by
  induction first with
  | nil => simp [secondsFor]
  | cons entry first ih =>
    simp only [List.cons_append, secondsFor, ih]
    omega

theorem secondsFor_of_zeros (id : PlayerId) (batch : List (PlayerId × Int64))
    (zeros : ∀ entry ∈ batch, entry.1 = id → entry.2 = 0) : secondsFor id batch = 0 := by
  induction batch with
  | nil => rfl
  | cons entry batch ih =>
    have head := zeros entry (by simp)
    have tail := ih fun other member => zeros other (List.mem_cons_of_mem _ member)
    by_cases mine : entry.1 = id
    · simp [secondsFor, head mine, tail]
    · simp [secondsFor, mine, tail]

theorem secondsFor_of_absent (id : PlayerId) (batch : List (PlayerId × Int64))
    (absent : ∀ entry ∈ batch, entry.1 ≠ id) : secondsFor id batch = 0 :=
  secondsFor_of_zeros id batch fun entry member mine => absurd mine (absent entry member)

theorem secondsFor_eq_zero_iff (id : PlayerId) (batch : List (PlayerId × Int64))
    (distinct : (batch.map Prod.fst).Nodup) :
    secondsFor id batch = 0 ↔ ∀ entry ∈ batch, entry.1 = id → entry.2 = 0 := by
  refine ⟨fun none => ?_, secondsFor_of_zeros id batch⟩
  induction batch with
  | nil => simp
  | cons entry batch ih =>
    obtain ⟨apart, distinct⟩ := List.nodup_cons.mp distinct
    intro other member mine
    rcases List.mem_cons.mp member with rfl | member
    · have absent : ∀ later ∈ batch, later.1 ≠ id := by
        intro later inside same
        exact apart (List.mem_map.mpr ⟨later, inside, same.trans mine.symm⟩)
      rw [secondsFor, if_pos mine, secondsFor_of_absent id batch absent, Int.add_zero] at none
      exact Int64.toInt_inj.mp none
    · have differs : entry.1 ≠ id := by
        intro same
        exact apart (List.mem_map.mpr ⟨other, member, mine.trans same.symm⟩)
      rw [secondsFor, if_neg differs, Int.zero_add] at none
      exact ih distinct none other member mine

theorem secondsFor_of_mem (id : PlayerId) (seconds : Int64) (batch : List (PlayerId × Int64))
    (distinct : batch.Pairwise fun first second => ¬ compare first.1 second.1 = .eq)
    (member : (id, seconds) ∈ batch) : secondsFor id batch = seconds.toInt := by
  induction batch with
  | nil => cases member
  | cons entry batch ih =>
    obtain ⟨apart, distinct⟩ := List.pairwise_cons.mp distinct
    rcases List.mem_cons.mp member with rfl | member
    · have others : ∀ other ∈ batch, other.1 ≠ id := by
        intro other inside same
        exact apart other inside (by rw [same]; exact Std.ReflCmp.compare_self)
      simp [secondsFor, secondsFor_of_absent id batch others]
    · have differs : entry.1 ≠ id := by
        intro same
        exact apart _ member (by rw [same]; exact Std.ReflCmp.compare_self)
      simp [secondsFor, differs, ih distinct member]

theorem secondsFor_toList (id : PlayerId) (batch : Totals) :
    secondsFor id batch.toList = (batch.getD id 0).toInt := by
  rw [Std.ExtTreeMap.getD_eq_getD_getElem?]
  cases found : batch[id]? with
  | some seconds =>
    have member := Std.ExtTreeMap.mem_toList_iff_getElem?_eq_some.mpr found
    rw [secondsFor_of_mem id seconds _ Std.ExtTreeMap.distinct_keys_toList member]
    rfl
  | none =>
    apply secondsFor_of_absent
    intro entry member same
    have known := Std.ExtTreeMap.mem_toList_iff_getElem?_eq_some.mp member
    rw [same, found] at known
    cases known

theorem getElem?_insertMany_iff (credits : List (PlayerId × Int64)) (distinct : (credits.map Prod.fst).Nodup)
    (id : PlayerId) (seconds : Int64) :
    ((∅ : Totals).insertMany credits)[id]? = some seconds ↔ (id, seconds) ∈ credits := by
  have apart : credits.Pairwise fun first second => ¬ compare first.1 second.1 = .eq :=
    (List.pairwise_map.mp distinct).imp fun differs same => differs (Std.LawfulEqOrd.eq_of_compare same)
  constructor
  · intro found
    by_cases known : id ∈ credits.map Prod.fst
    · obtain ⟨⟨id, other⟩, member, rfl⟩ := List.mem_map.mp known
      have stored : ((∅ : Totals).insertMany credits)[id]? = some other :=
        Std.ExtTreeMap.getElem?_insertMany_list_of_mem Std.ReflCmp.compare_self apart member
      cases found.symm.trans stored
      exact member
    · have absent : (credits.map Prod.fst).contains id = false := by simpa using known
      rw [Std.ExtTreeMap.getElem?_insertMany_list_of_contains_eq_false absent] at found
      simp at found
  · exact Std.ExtTreeMap.getElem?_insertMany_list_of_mem Std.ReflCmp.compare_self apart

theorem toList_insertMany_perm (credits : List (PlayerId × Int64)) (distinct : (credits.map Prod.fst).Nodup) :
    ((∅ : Totals).insertMany credits).toList.Perm credits := by
  have keys : (((∅ : Totals).insertMany credits).toList.map Prod.fst).Nodup := by
    rw [Std.ExtTreeMap.map_fst_toList_eq_keys]
    exact Std.ExtTreeMap.nodup_keys
  rw [List.perm_ext_iff_of_nodup (.of_map _ keys) (.of_map _ distinct)]
  rintro ⟨id, seconds⟩
  rw [Std.ExtTreeMap.mem_toList_iff_getElem?_eq_some, getElem?_insertMany_iff credits distinct]

/-- A ledger that keeps the seconds of each player apart and changes them by credits alone. -/
class LawfulLedger (σ : Type) [Ledger σ] where
  /-- The states that the ledger's own operations lead to. -/
  Sound : σ → Prop
  IsOpen : σ → Prop
  balance : σ → PlayerId → Int
  credit_eq (ledger : σ) (id : PlayerId) (delta : Int64) :
    Ledger.credit ledger id delta = Ledger.creditAll ledger [(id, delta)]
  sound_creditAll (ledger : σ) (deltas : List (PlayerId × Int64)) (sound : Sound ledger) :
    Sound (Ledger.creditAll ledger deltas).2
  sound_close (ledger : σ) (sound : Sound ledger) : Sound (Ledger.close ledger)
  isOpen_creditAll (ledger : σ) (deltas : List (PlayerId × Int64)) :
    IsOpen (Ledger.creditAll ledger deltas).2 ↔ IsOpen ledger
  balance_accepted (ledger : σ) (deltas : List (PlayerId × Int64)) (sound : Sound ledger)
    (accepted : (Ledger.creditAll ledger deltas).1 = .ok ()) (id : PlayerId) :
    balance (Ledger.creditAll ledger deltas).2 id = balance ledger id + secondsFor id deltas
  balance_refused (ledger : σ) (deltas : List (PlayerId × Int64)) (error : StorageError)
    (refused : (Ledger.creditAll ledger deltas).1 = .error error) (id : PlayerId) :
    balance (Ledger.creditAll ledger deltas).2 id = balance ledger id
  balance_close (ledger : σ) (id : PlayerId) : balance (Ledger.close ledger) id = balance ledger id
  balance_of_seconds? (ledger : σ) (id : PlayerId) (stored : Option Int64)
    (read : Ledger.seconds? ledger id = .ok stored) : (stored.getD 0).toInt = balance ledger id
  seconds?_of_isOpen (ledger : σ) (id : PlayerId) (isOpen : IsOpen ledger) (fits : Fits (balance ledger id)) :
    ∃ stored, Ledger.seconds? ledger id = .ok stored

end Playtime
