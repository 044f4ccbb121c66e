import Playtime.Proofs.Ledger.Lawful
import Playtime.TimeFile

namespace Playtime

namespace FlatFile

open FlatObject (Members Scalar)

variable {ν : Type} [Scalar ν]

theorem write_accepted (file : FlatFile ν) (disk : Disk)
    (change : Members ν → Except StorageError (Members ν)) (accepted : (file.write disk change).1 = .ok ()) :
    ∃ members, change file.members = .ok members ∧ (file.write disk change).2.1 = { file with members } := by
  unfold write at *
  split at accepted
  · split at accepted
    · cases accepted
    · next members changed =>
      split at accepted
      · exact ⟨members, changed, by simp [*]⟩
      · cases accepted
  · cases accepted

theorem write_refused (file : FlatFile ν) (disk : Disk)
    (change : Members ν → Except StorageError (Members ν)) (error : StorageError)
    (refused : (file.write disk change).1 = .error error) : (file.write disk change).2.1 = file := by
  unfold write at *
  split
  · split
    · rfl
    · split
      · simp [*] at refused
      · rfl
  · rfl

theorem isOpen_write (file : FlatFile ν) (disk : Disk)
    (change : Members ν → Except StorageError (Members ν)) :
    (file.write disk change).2.1.isOpen = file.isOpen := by
  unfold write
  split
  · split
    · rfl
    · split <;> rfl
  · rfl

end FlatFile

namespace TimeFile

def kept (times : FlatObject.Members Int64) (id : PlayerId) : Int := (times.getD id.toText 0).toInt

theorem kept_insert (times : FlatObject.Members Int64) (id other : PlayerId) (seconds : Int64) :
    kept (times.insert id.toText seconds) other = if id = other then seconds.toInt else kept times other := by
  unfold kept
  rw [Std.ExtTreeMap.getD_insert]
  by_cases same : id = other
  · simp [same]
  · have apart : ¬ compare id.toText other.toText = .eq := by
      rw [Std.LawfulEqOrd.compare_eq_iff_eq, PlayerId.toText_inj]
      exact same
    simp [same, apart]

theorem kept_addTo (times changed : FlatObject.Members Int64) (id other : PlayerId) (delta : Int64)
    (added : addTo times id delta = .ok changed) :
    kept changed other = kept times other + if id = other then delta.toInt else 0 := by
  unfold addTo at added
  split at added
  · next sum exact =>
    cases added
    rw [add?, int64?_eq_some_iff] at exact
    rw [kept_insert]
    by_cases same : id = other
    · subst same
      simp only [if_true, kept, exact]
    · simp [same]
  · cases added

theorem kept_addAll (times changed : FlatObject.Members Int64) (deltas : List (PlayerId × Int64)) (id : PlayerId)
    (added : addAll times deltas = .ok changed) : kept changed id = kept times id + secondsFor id deltas := by
  induction deltas generalizing times with
  | nil =>
    cases added
    simp [secondsFor]
  | cons entry rest ih =>
    obtain ⟨other, delta⟩ := entry
    unfold addAll at added
    split at added
    · cases added
    · next first step =>
      have head := kept_addTo times first other id delta step
      have tail := ih first added
      simp only [secondsFor]
      omega

theorem secondsFor_of_zeros (id : PlayerId) (deltas : List (PlayerId × Int64))
    (zeros : deltas.all fun entry => entry.2 = 0) : secondsFor id deltas = 0 := by
  induction deltas with
  | nil => rfl
  | cons entry deltas ih =>
    simp only [List.all_cons, Bool.and_eq_true, decide_eq_true_eq] at zeros
    have rest := ih zeros.2
    simp [secondsFor, zeros.1, rest]

theorem credit_eq_creditAll (file : TimeFile) (disk : Disk) (id : PlayerId) (delta : Int64) :
    file.credit disk id delta = file.creditAll disk [(id, delta)] := by
  have single : (fun times => addTo times id delta) = fun times => addAll times [(id, delta)] := by
    funext times
    simp only [addAll]
    cases addTo times id delta <;> rfl
  simp only [credit, creditAll, List.all_cons, List.all_nil, Bool.and_true, decide_eq_true_eq, single]

theorem creditAll_accepted (file : TimeFile) (disk : Disk) (deltas : List (PlayerId × Int64)) (id : PlayerId)
    (accepted : (file.creditAll disk deltas).1 = .ok ()) :
    kept (file.creditAll disk deltas).2.1.members id = kept file.members id + secondsFor id deltas := by
  unfold creditAll at *
  split
  · next zeros => simp [secondsFor_of_zeros id deltas zeros]
  · next some =>
    rw [if_neg some] at accepted
    obtain ⟨members, changed, after⟩ := FlatFile.write_accepted file disk _ accepted
    rw [after]
    exact kept_addAll _ _ _ _ changed

theorem creditAll_refused (file : TimeFile) (disk : Disk) (deltas : List (PlayerId × Int64)) (error : StorageError)
    (refused : (file.creditAll disk deltas).1 = .error error) : (file.creditAll disk deltas).2.1 = file := by
  unfold creditAll at *
  split
  · rfl
  · next some =>
    rw [if_neg some] at refused
    exact FlatFile.write_refused file disk _ error refused

theorem isOpen_creditAll (file : TimeFile) (disk : Disk) (deltas : List (PlayerId × Int64)) :
    (file.creditAll disk deltas).2.1.isOpen = file.isOpen := by
  unfold creditAll
  split
  · rfl
  · exact FlatFile.isOpen_write file disk _

instance : LawfulLedger (TimeFile × Disk) where
  Sound _ := True
  IsOpen state := state.1.isOpen = true
  balance state id := kept state.1.members id
  credit_eq state id delta := credit_eq_creditAll state.1 state.2 id delta
  sound_creditAll _ _ _ := trivial
  sound_close _ _ := trivial
  isOpen_creditAll state deltas := by
    show (state.1.creditAll state.2 deltas).2.1.isOpen = true ↔ state.1.isOpen = true
    rw [isOpen_creditAll]
  balance_accepted state deltas _ accepted id := creditAll_accepted state.1 state.2 deltas id accepted
  balance_refused state deltas error refused id := by
    show kept (state.1.creditAll state.2 deltas).2.1.members id = kept state.1.members id
    rw [creditAll_refused state.1 state.2 deltas error refused]
  balance_close _ _ := rfl
  balance_of_seconds? state id stored read := by
    change state.1.seconds? id = .ok stored at read
    unfold seconds? FlatFile.read at read
    split at read
    · cases read
      rw [kept, Std.ExtTreeMap.getD_eq_getD_getElem?]
    · cases read
  seconds?_of_isOpen _ _ isOpen _ := ⟨_, if_pos isOpen⟩

def inWorkingDirectory (faults : List Fault) : TimeFile × Disk := (⟨["time.json"], ∅, true⟩, ⟨∅, faults⟩)

end TimeFile

end Playtime
