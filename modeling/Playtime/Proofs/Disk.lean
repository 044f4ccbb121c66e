import Playtime.FlatFile

namespace Playtime

namespace Disk

def SameDirectories (disk other : Disk) : Prop :=
  ∀ place : Place, disk.entries[place]? = some .directory ↔ other.entries[place]? = some .directory

theorem SameDirectories.trans {disk other third : Disk} (first : SameDirectories disk other)
    (second : SameDirectories other third) : SameDirectories disk third :=
  fun place => (first place).trans (second place)

theorem SameDirectories.isDirectory {disk other : Disk} (same : SameDirectories disk other) (place : Place) :
    disk.isDirectory place = other.isDirectory place := by
  simp [Disk.isDirectory, same place]

theorem SameDirectories.enter {disk other : Disk} (same : SameDirectories disk other) {directory next : Place}
    {component : String} (reached : disk.enter directory component = .reached next) :
    other.enter directory component = .reached next := by
  unfold Disk.enter at *
  split
  · next up => rwa [if_pos up] at reached
  · next down =>
    rw [if_neg down] at reached
    split
    · next bad =>
      rw [if_pos bad] at reached
      cases reached
    · next good =>
      rw [if_neg good] at reached
      split at reached
      · next found =>
        cases reached
        rw [(same _).mp found]
      · cases reached
      · cases reached

theorem SameDirectories.walk {disk other : Disk} (same : SameDirectories disk other) {directory place : Place}
    {path : List String} (reached : disk.walk directory path = .reached place) :
    other.walk directory path = .reached place := by
  induction path generalizing directory with
  | nil => exact reached
  | cons component rest ih =>
    simp only [Disk.walk] at reached ⊢
    cases entered : disk.enter directory component with
    | reached next =>
      rw [entered] at reached
      rw [same.enter entered]
      exact ih reached
    | missing =>
      rw [entered] at reached
      cases reached
    | blocked =>
      rw [entered] at reached
      cases reached

theorem SameDirectories.locate {disk other : Disk} (same : SameDirectories disk other) {path : List String}
    {place : Place} (reached : disk.locate path = .reached place) : other.locate path = .reached place := by
  unfold Disk.locate at *
  split
  · next bad =>
    rw [if_pos bad] at reached
    cases reached
  · next good =>
    rw [if_neg good] at reached
    split at reached
    · exact reached
    · exact same.walk reached
    · next name =>
      cases parent : disk.walk [] path.dropLast with
      | reached directory =>
        rw [parent] at reached
        rw [same.walk parent]
        exact reached
      | missing =>
        rw [parent] at reached
        cases reached
      | blocked =>
        rw [parent] at reached
        cases reached

def Takes (disk : Disk) (path : List String) (place : Place) : Prop :=
  disk.locate path = .reached place ∧ disk.isDirectory place = false

theorem Takes.of_sameDirectories {disk other : Disk} {path : List String} {place : Place}
    (takes : disk.Takes path place) (same : SameDirectories disk other) : other.Takes path place :=
  ⟨same.locate takes.1, (same.isDirectory place).symm.trans takes.2⟩

theorem sameDirectories_of_one {disk other : Disk} {place : Place} (free : disk.isDirectory place = false)
    (still : other.entries[place]? ≠ some .directory)
    (others : ∀ elsewhere : Place, elsewhere ≠ place → other.entries[elsewhere]? = disk.entries[elsewhere]?) :
    SameDirectories disk other := by
  intro elsewhere
  by_cases same : elsewhere = place
  · subst same
    have absent : disk.entries[elsewhere]? ≠ some .directory := by
      intro found
      simp [isDirectory, found] at free
    exact ⟨fun found => absurd found absent, fun found => absurd found still⟩
  · rw [others elsewhere same]

theorem write_of_takes {disk : Disk} {path : List String} {place : Place} (faultless : disk.faults = [])
    (takes : disk.Takes path place) (bytes : List UInt8) :
    disk.write path bytes = (true, disk.put place (.file bytes)) := by
  simp [write, drawFault, faultless, takes.1, takes.2]

theorem sameDirectories_put {disk : Disk} {place : Place} (entry : Entry) (file : entry ≠ .directory)
    (free : disk.isDirectory place = false) : SameDirectories disk (disk.put place entry) := by
  apply sameDirectories_of_one free
  · simpa [put] using file
  · intro elsewhere differs
    simp [put, Std.ExtTreeMap.getElem?_insert, Ne.symm differs]

theorem sameDirectories_move {disk : Disk} {origin goal : Place} (entry : Entry) (file : entry ≠ .directory)
    (source : disk.isDirectory origin = false) (target : disk.isDirectory goal = false) :
    SameDirectories disk { disk with entries := (disk.entries.erase origin).insert goal entry } := by
  have erased : SameDirectories disk { disk with entries := disk.entries.erase origin } := by
    apply sameDirectories_of_one source
    · simp
    · intro elsewhere differs
      simp [Std.ExtTreeMap.getElem?_erase, Ne.symm differs]
  have free := (erased.isDirectory goal).symm.trans target
  exact erased.trans (sameDirectories_put entry file free)

theorem rename_of_takes {disk : Disk} {source target : List String} {origin goal : Place} {bytes : List UInt8}
    (faultless : disk.faults = []) (takesSource : disk.Takes source origin) (takesTarget : disk.Takes target goal)
    (found : disk.entries[origin]? = some (.file bytes)) :
    ∃ after, disk.rename source target = (true, after) ∧ after.faults = [] ∧ SameDirectories disk after := by
  refine ⟨{ disk with entries := (disk.entries.erase origin).insert goal (.file bytes) }, ?_, faultless,
    sameDirectories_move (.file bytes) nofun takesSource.2 takesTarget.2⟩
  simp [rename, drawFault, faultless, takesSource.1, takesTarget.1, takesSource.2, takesTarget.2, found]

end Disk

namespace FlatFile

variable {ν : Type} [FlatObject.Scalar ν]

/-- Nothing goes wrong on the disk, and both the object's file and its draft can be written. -/
structure Recordable (disk : Disk) (path : List String) : Prop where
  faultless : disk.faults = []
  draft : ∃ place, disk.Takes (draftPath path) place
  goal : ∃ place, disk.Takes path place

theorem persist_of_recordable {disk : Disk} {path : List String} (recordable : Recordable disk path)
    (members : FlatObject.Members ν) :
    ∃ after, persist disk path members = (true, after) ∧ Recordable after path := by
  obtain ⟨faultless, ⟨origin, draft⟩, ⟨place, goal⟩⟩ := recordable
  -- Neither step changes a directory, so both paths lead where they led before.
  have written := Disk.sameDirectories_put (.file (FlatObject.toBytes members)) nofun draft.2
  have found : (disk.put origin (.file (FlatObject.toBytes members))).entries[origin]? =
      some (.file (FlatObject.toBytes members)) := by simp [Disk.put]
  have still : (disk.put origin (.file (FlatObject.toBytes members))).faults = [] := faultless
  obtain ⟨after, moved, last, renamed⟩ := Disk.rename_of_takes still (draft.of_sameDirectories written)
    (goal.of_sameDirectories written) found
  refine ⟨after, ?_, last, ⟨origin, ?_⟩, ⟨place, ?_⟩⟩
  · rw [persist, Disk.write_of_takes faultless draft]
    exact moved
  · exact draft.of_sameDirectories (written.trans renamed)
  · exact goal.of_sameDirectories (written.trans renamed)

theorem recordable_write {file : FlatFile ν} {disk : Disk} (recordable : Recordable disk file.path)
    (change : FlatObject.Members ν → Except StorageError (FlatObject.Members ν)) :
    Recordable (file.write disk change).2.2 (file.write disk change).2.1.path := by
  unfold write
  split
  · split
    · exact recordable
    · next members _ =>
      obtain ⟨after, taken, still⟩ := persist_of_recordable recordable members
      rw [taken]
      exact still
  · exact recordable

theorem outcome_of_recordable {file : FlatFile ν} {disk : Disk} (isOpen : file.isOpen = true)
    (recordable : Recordable disk file.path)
    (change : FlatObject.Members ν → Except StorageError (FlatObject.Members ν)) :
    (file.write disk change).1 = (change file.members).map fun _ => () := by
  unfold write
  rw [if_pos isOpen]
  cases change file.members with
  | error error => rfl
  | ok members =>
    obtain ⟨after, taken, -⟩ := persist_of_recordable recordable members
    dsimp only
    rw [taken]
    rfl

end FlatFile

end Playtime
