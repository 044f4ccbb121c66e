import Mathlib.Data.List.Nodup
import Playtime.Proofs.Disk
import Playtime.Proofs.Ledger.Backends

namespace Playtime

/-- A ledger that checks the credits of a batch one by one. -/
class CheckedLedger (σ : Type) [Ledger σ] where
  Ready : σ → Prop
  Admits : σ → PlayerId → Int64 → Prop
  admits_zero (ledger : σ) (id : PlayerId) : Admits ledger id 0
  outcome (ledger : σ) (deltas : List (PlayerId × Int64)) (ready : Ready ledger)
    (distinct : (deltas.map Prod.fst).Nodup) :
    (∀ entry ∈ deltas, Admits ledger entry.1 entry.2) ∧ (Ledger.creditAll ledger deltas).1 = .ok () ∨
      ∃ entry ∈ deltas, ¬ Admits ledger entry.1 entry.2 ∧
        (Ledger.creditAll ledger deltas).1 = .error (.outOfRange entry.1 entry.2)

namespace CheckedLedger

variable {σ : Type} [Ledger σ] [LawfulLedger σ] [CheckedLedger σ]

theorem credit_eq_ok_iff (ledger : σ) (id : PlayerId) (delta : Int64) (ready : Ready ledger) :
    (Ledger.credit ledger id delta).1 = .ok () ↔ Admits ledger id delta := by
  rw [LawfulLedger.credit_eq]
  rcases outcome ledger [(id, delta)] ready (by simp) with ⟨admitted, accepted⟩ | ⟨entry, member, refused, outcome⟩
  · simp [accepted, admitted (id, delta) (by simp)]
  · rw [List.mem_singleton] at member
    subst member
    simp [outcome, refused]

end CheckedLedger

namespace TimeFile

theorem addTo_cases (times : FlatObject.Members Int64) (id : PlayerId) (delta : Int64) :
    (Fits (kept times id + delta.toInt) ∧ ∃ sum, addTo times id delta = .ok (times.insert id.toText sum)) ∨
      ¬ Fits (kept times id + delta.toInt) ∧ addTo times id delta = .error (.outOfRange id delta) := by
  unfold addTo
  cases added : add? (times.getD id.toText 0) delta with
  | some sum =>
    have exact := (int64?_eq_some_iff _ _).mp added
    exact .inl ⟨by rw [kept, ← exact]; exact fits_toInt _, sum, rfl⟩
  | none =>
    have misfit := (int64?_eq_none_iff _).mp added
    refine .inr ⟨fun fits => ?_, rfl⟩
    rcases misfit with low | high
    · exact absurd fits.1 (Int.not_le.mpr low)
    · exact absurd fits.2 (Int.not_le.mpr high)

theorem addAll_cases (times : FlatObject.Members Int64) (deltas : List (PlayerId × Int64))
    (distinct : (deltas.map Prod.fst).Nodup) :
    ((∀ entry ∈ deltas, Fits (kept times entry.1 + entry.2.toInt)) ∧ ∃ changed, addAll times deltas = .ok changed) ∨
      ∃ entry ∈ deltas, ¬ Fits (kept times entry.1 + entry.2.toInt) ∧
        addAll times deltas = .error (.outOfRange entry.1 entry.2) := by
  induction deltas generalizing times with
  | nil => exact .inl ⟨nofun, times, rfl⟩
  | cons entry rest ih =>
    obtain ⟨id, delta⟩ := entry
    obtain ⟨apart, distinct⟩ := List.nodup_cons.mp distinct
    unfold addAll
    rcases addTo_cases times id delta with ⟨fits, sum, added⟩ | ⟨misfit, refused⟩
    · -- The other players' seconds are as before, so the rest meets the same checks.
      have same : ∀ other ∈ rest, kept (times.insert id.toText sum) other.1 = kept times other.1 := by
        intro other member
        rw [kept_insert, if_neg]
        intro mine
        exact apart (List.mem_map.mpr ⟨other, member, mine.symm⟩)
      rw [added]
      dsimp only
      rcases ih (times.insert id.toText sum) distinct with ⟨admitted, changed, accepted⟩ |
        ⟨other, member, misfit, refused⟩
      · refine .inl ⟨fun other member => ?_, changed, accepted⟩
        rcases List.mem_cons.mp member with rfl | member
        · exact fits
        · rw [← same other member]
          exact admitted other member
      · rw [same other member] at misfit
        exact .inr ⟨other, List.mem_cons_of_mem _ member, misfit, refused⟩
    · rw [refused]
      exact .inr ⟨(id, delta), by simp, misfit, rfl⟩

instance : CheckedLedger (TimeFile × Disk) where
  Ready state := state.1.isOpen = true ∧ FlatFile.Recordable state.2 (FlatFile.path state.1)
  Admits state id delta := Fits (kept state.1.members id + delta.toInt)
  admits_zero state id := by
    rw [Int64.toInt_zero, Int.add_zero]
    exact fits_toInt _
  outcome state deltas ready distinct := by
    show _ ∧ (state.1.creditAll state.2 deltas).1 = .ok () ∨
      ∃ entry ∈ deltas, _ ∧ (state.1.creditAll state.2 deltas).1 = _
    have checked := addAll_cases state.1.members deltas distinct
    unfold creditAll
    split
    · next zeros =>
      refine .inl ⟨fun entry member => ?_, rfl⟩
      have zero : entry.2 = 0 := by simpa using List.all_eq_true.mp zeros entry member
      rw [zero, Int64.toInt_zero, Int.add_zero]
      exact fits_toInt _
    · rw [FlatFile.outcome_of_recordable ready.1 ready.2]
      rcases checked with ⟨admitted, changed, accepted⟩ | ⟨entry, member, misfit, refused⟩
      · exact .inl ⟨admitted, by rw [accepted]; rfl⟩
      · exact .inr ⟨entry, member, misfit, by rw [refused]; rfl⟩

end TimeFile

namespace Sql.Store

/-- The interval of some seconds that ends at a second begins in a year of four digits. -/
def InCalendar (left delta : Int64) : Prop :=
  yearZero ≤ left.toInt - delta.toInt ∧ left.toInt - delta.toInt ≤ lastSecond

instance (left delta : Int64) : Decidable (InCalendar left delta) := inferInstanceAs (Decidable (_ ∧ _))

theorem joined_cases (id : PlayerId) (delta left : Int64) :
    (InCalendar left delta ∧ ∃ time, joined id delta left = .ok time) ∨
      ¬ InCalendar left delta ∧ joined id delta left = .error (.outOfRange id delta) := by
  unfold joined InCalendar Timestamp.ofUnix?
  have first : firstSecond ≤ yearZero := by decide
  split
  · next none =>
    refine .inr ⟨fun inside => ?_, rfl⟩
    rw [dif_pos ⟨by omega, inside.2⟩] at none
    cases none
  · next time read =>
    split at read
    · next bounds =>
      cases read
      dsimp only
      split
      · exact .inr ⟨by omega, rfl⟩
      · exact .inl ⟨by omega, _, rfl⟩
    · cases read

theorem joinedAll_cases (left : Int64) (deltas : List (PlayerId × Int64)) :
    ((∀ entry ∈ deltas, entry.2 = 0 ∨ InCalendar left entry.2) ∧
      ∃ intervals, joinedAll left deltas = .ok intervals) ∨
      ∃ entry ∈ deltas, ¬ (entry.2 = 0 ∨ InCalendar left entry.2) ∧
        joinedAll left deltas = .error (.outOfRange entry.1 entry.2) := by
  induction deltas with
  | nil => exact .inl ⟨nofun, [], rfl⟩
  | cons entry rest ih =>
    obtain ⟨id, delta⟩ := entry
    unfold joinedAll
    by_cases zero : delta = 0
    · subst zero
      rw [if_pos rfl]
      rcases ih with ⟨admitted, accepted⟩ | ⟨other, member, refused⟩
      · exact .inl ⟨by simpa using admitted, accepted⟩
      · exact .inr ⟨other, List.mem_cons_of_mem _ member, refused⟩
    · rw [if_neg zero]
      rcases joined_cases id delta left with ⟨inside, time, begun⟩ | ⟨outside, refused⟩
      · rw [begun]
        rcases ih with ⟨admitted, intervals, accepted⟩ | ⟨other, member, misfit, refused⟩
        · exact .inl ⟨by simpa [inside] using admitted, (id, time) :: intervals, by rw [accepted]; rfl⟩
        · exact .inr ⟨other, List.mem_cons_of_mem _ member, misfit, by rw [refused]; rfl⟩
      · rw [refused]
        exact .inr ⟨(id, delta), by simp, by simp [zero, outside], rfl⟩

theorem write_of_known {store : Store} {host : Host} {tables : Tables} (isOpen : store.isOpen = true)
    (known : store.tables? host = some tables) (change : Tables → Except StorageError Tables) :
    (store.write host change).1 = (change tables).map fun _ => () := by
  obtain ⟨database, found, held⟩ := Option.bind_eq_some_iff.mp known
  unfold write
  rw [if_pos isOpen, found]
  dsimp only
  rw [held]
  dsimp only
  cases change tables <;> rfl

theorem creditAll_cases {store : Store} {host : Host} (isOpen : store.isOpen = true)
    (known : (store.tables? host).isSome = true) (timely : (Timestamp.ofUnix? host.seconds.toInt).isSome = true)
    (deltas : List (PlayerId × Int64)) :
    ((∀ entry ∈ deltas, entry.2 = 0 ∨ InCalendar host.seconds entry.2) ∧ (store.creditAll host deltas).1 = .ok ()) ∨
      ∃ entry ∈ deltas, ¬ (entry.2 = 0 ∨ InCalendar host.seconds entry.2) ∧
        (store.creditAll host deltas).1 = .error (.outOfRange entry.1 entry.2) := by
  obtain ⟨tables, held⟩ := Option.isSome_iff_exists.mp known
  obtain ⟨left, read⟩ := Option.isSome_iff_exists.mp timely
  unfold creditAll
  rw [write_of_known isOpen held, read]
  rcases joinedAll_cases host.seconds deltas with ⟨admitted, intervals, accepted⟩ | ⟨entry, member, misfit, refused⟩
  · rw [accepted]
    cases intervals <;> exact .inl ⟨admitted, rfl⟩
  · rw [refused]
    exact .inr ⟨entry, member, misfit, rfl⟩

instance : CheckedLedger (Store × Host) where
  Ready state := state.1.isOpen = true ∧ (state.1.tables? state.2).isSome = true ∧
    (Timestamp.ofUnix? state.2.seconds.toInt).isSome = true
  Admits state _ delta := delta = 0 ∨ InCalendar state.2.seconds delta
  admits_zero _ _ := .inl rfl
  outcome _ deltas ready _ := creditAll_cases ready.1 ready.2.1 ready.2.2 deltas

end Sql.Store

namespace Backend

open CheckedLedger (Ready Admits)

def TimesReady : Backend × Host → Prop
  | (files _ times, host) => Ready (times, host.disk)
  | (relational store, host) => Ready (store, host)
  | (mixed _ store, host) => Ready (store, host)

def AdmitsTime : Backend × Host → PlayerId → Int64 → Prop
  | (files _ times, host), id, delta => Admits (times, host.disk) id delta
  | (relational store, host), id, delta => Admits (store, host) id delta
  | (mixed _ store, host), id, delta => Admits (store, host) id delta

instance : CheckedLedger (Backend × Host) where
  Ready := TimesReady
  Admits := AdmitsTime
  admits_zero state id := by
    obtain ⟨backend, host⟩ := state
    cases backend with
    | files names times => exact CheckedLedger.admits_zero (times, host.disk) id
    | relational store => exact CheckedLedger.admits_zero (store, host) id
    | mixed names store => exact CheckedLedger.admits_zero (store, host) id
  outcome state deltas ready distinct := by
    obtain ⟨backend, host⟩ := state
    cases backend with
    | files names times => exact CheckedLedger.outcome (times, host.disk) deltas ready distinct
    | relational store => exact CheckedLedger.outcome (store, host) deltas ready distinct
    | mixed names store => exact CheckedLedger.outcome (store, host) deltas ready distinct

end Backend

end Playtime
