import Playtime.Proofs.FlatFile.Mirroring

namespace Playtime

namespace Disk

theorem SameDirectories.symm {disk other : Disk} (same : SameDirectories disk other) : SameDirectories other disk :=
  fun place => (same place).symm

/-- Disks that differ at most in the file that a path leads to. -/
structure AlikeBut (scratch : List String) (disk other : Disk) : Prop where
  directories : SameDirectories disk other
  elsewhere (place : Place) (apart : disk.locate scratch ≠ .reached place) :
    other.entries[place]? = disk.entries[place]?

namespace AlikeBut

variable {scratch : List String} {disk other third : Disk}

theorem of_entries (same : other.entries = disk.entries) : AlikeBut scratch disk other :=
  ⟨sameDirectories_of_entries same, fun place _ => by rw [same]⟩

theorem symm (alike : AlikeBut scratch disk other) : AlikeBut scratch other disk :=
  ⟨alike.directories.symm, fun place apart =>
    (alike.elsewhere place fun reached => apart (alike.directories.locate reached)).symm⟩

theorem trans (first : AlikeBut scratch disk other) (second : AlikeBut scratch other third) :
    AlikeBut scratch disk third :=
  ⟨first.directories.trans second.directories, fun place apart =>
    (second.elsewhere place fun reached => apart (first.directories.symm.locate reached)).trans
      (first.elsewhere place apart)⟩

theorem entries_eq {place : Place} (alike : AlikeBut scratch disk other)
    (reached : disk.locate scratch = .reached place) (same : other.entries[place]? = disk.entries[place]?) :
    other.entries = disk.entries := by
  apply Std.ExtTreeMap.ext_getElem?
  intro elsewhere
  by_cases here : disk.locate scratch = .reached elsewhere
  · cases here.symm.trans reached
    exact same
  · exact alike.elsewhere elsewhere here

theorem put {place : Place} (takes : disk.Takes scratch place) (content : List UInt8) :
    AlikeBut scratch disk (disk.put place (.file content)) := by
  refine ⟨sameDirectories_put (.file content) nofun takes.2, fun elsewhere apart => ?_⟩
  have differs : place ≠ elsewhere := by
    rintro rfl
    exact apart takes.1
  rw [Disk.put, Std.ExtTreeMap.getElem?_insert, if_neg (by simpa using differs)]

end AlikeBut

variable {scratch : List String} {disk other : Disk}

theorem drawFault_alike (same : other.faults = disk.faults) :
    other.drawFault.1 = disk.drawFault.1 ∧ other.drawFault.2.faults = disk.drawFault.2.faults := by
  unfold drawFault
  rw [same]
  split
  · exact ⟨rfl, same⟩
  · exact ⟨rfl, rfl⟩

theorem AlikeBut.write (alike : AlikeBut scratch disk other) (same : other.faults = disk.faults)
    (bytes : List UInt8) :
    other.write scratch bytes = disk.write scratch bytes ∨
      (disk.write scratch bytes).1 = false ∧ (other.write scratch bytes).1 = false ∧
        AlikeBut scratch (disk.write scratch bytes).2 (other.write scratch bytes).2 := by
  have fate := drawFault_alike same
  have drawn : AlikeBut scratch disk.drawFault.2 other.drawFault.2 :=
    (of_entries (entries_drawFault disk)).symm.trans (alike.trans (of_entries (entries_drawFault other)))
  unfold Disk.write
  generalize disk.drawFault = result at *
  generalize other.drawFault = result' at *
  obtain ⟨fault, disk⟩ := result
  obtain ⟨fault', other⟩ := result'
  obtain ⟨rfl, left⟩ : fault' = fault ∧ other.faults = disk.faults := fate
  dsimp only at drawn ⊢
  cases way : disk.locate scratch with
  | reached place =>
    rw [drawn.directories.locate way]
    dsimp only
    rw [← drawn.directories.isDirectory place]
    split
    · exact .inr ⟨rfl, rfl, drawn⟩
    · next free =>
      have takes : disk.Takes scratch place := ⟨way, by simpa using free⟩
      have both (content : List UInt8) :
          AlikeBut scratch (disk.put place (.file content)) (other.put place (.file content)) :=
        (AlikeBut.put takes content).symm.trans
          (drawn.trans (AlikeBut.put (takes.of_sameDirectories drawn.directories) content))
      split
      · -- With the same draft on both, nothing else tells the disks apart.
        left
        have entries := (both bytes).entries_eq
          ((AlikeBut.put takes bytes).directories.locate way) (by simp [Disk.put])
        rw [Disk.put, Disk.put] at *
        simp only [Prod.mk.injEq, true_and, Disk.mk.injEq]
        exact ⟨entries, left⟩
      · exact .inr ⟨rfl, rfl, drawn⟩
      · next kept => exact .inr ⟨rfl, rfl, both (bytes.take kept)⟩
  | missing | blocked =>
    have astray (place : Place) : other.locate scratch ≠ .reached place := by
      intro reached
      cases way.symm.trans (drawn.directories.symm.locate reached)
    split
    · next place reached => exact absurd reached (astray place)
    · exact .inr ⟨rfl, rfl, drawn⟩

end Disk

namespace FlatFile

variable {ν : Type} [FlatObject.Scalar ν] {disk other : Disk}

theorem alike_of_refused (path : List String) (members : FlatObject.Members ν)
    (refused : (persist disk path members).1 = false) :
    Disk.AlikeBut (draftPath path) disk (persist disk path members).2 := by
  have drafted : Disk.AlikeBut (draftPath path) disk
      (disk.write (draftPath path) (FlatObject.toBytes members)).2 := by
    rcases disk.write_cases (draftPath path) (FlatObject.toBytes members) with
      ⟨-, same⟩ | ⟨place, written, takes, same, -⟩
    · exact .of_entries same
    · exact (Disk.AlikeBut.put takes written).trans (.of_entries same)
  unfold persist at *
  generalize disk.write (draftPath path) (FlatObject.toBytes members) = result at *
  obtain ⟨done, after⟩ := result
  cases done with
  | false => exact drafted
  | true =>
    rcases after.rename_cases (draftPath path) path with ⟨-, same⟩ | ⟨_, _, _, _, _, _, moved, _⟩
    · exact drafted.trans (.of_entries same)
    · cases moved.symm.trans refused

/-- Attempts with the same fates go the same way, whatever drafts they find. -/
theorem persist_alike {path : List String} (alike : Disk.AlikeBut (draftPath path) disk other)
    (same : other.faults = disk.faults) (members : FlatObject.Members ν) :
    (persist other path members).1 = (persist disk path members).1 ∧
      Disk.AlikeBut (draftPath path) (persist disk path members).2 (persist other path members).2 := by
  have written := alike.write same (FlatObject.toBytes members)
  unfold persist
  generalize disk.write (draftPath path) (FlatObject.toBytes members) = result at *
  generalize other.write (draftPath path) (FlatObject.toBytes members) = result' at *
  obtain ⟨done, after⟩ := result
  obtain ⟨done', after'⟩ := result'
  -- Once the draft is written it is the same on both disks, so that only a failure to write it tells them apart.
  rcases written with same | ⟨failed, failed', still⟩
  · cases same
    exact ⟨rfl, .of_entries rfl⟩
  · cases failed
    cases failed'
    exact ⟨rfl, still⟩

theorem faultless_persist (path : List String) (members : FlatObject.Members ν) (faultless : disk.faults = []) :
    (persist disk path members).2.faults = [] := by
  have drawn (disk : Disk) (faultless : disk.faults = []) : disk.drawFault = (.none, disk) := by
    rw [Disk.drawFault, faultless]
  have written (bytes : List UInt8) : (disk.write (draftPath path) bytes).2.faults = [] := by
    unfold Disk.write
    rw [drawn disk faultless]
    dsimp only
    split
    · split <;> exact faultless
    · exact faultless
  have renamed (disk : Disk) (faultless : disk.faults = []) : (disk.rename (draftPath path) path).2.faults = [] := by
    unfold Disk.rename
    rw [drawn disk faultless]
    dsimp only
    split
    · split
      · exact faultless
      · split <;> exact faultless
    · exact faultless
  unfold persist
  split
  · next after done => exact renamed after (by rw [← written (FlatObject.toBytes members), done])
  · next after failed => rw [← written (FlatObject.toBytes members), failed]

variable {file : FlatFile ν} {change : FlatObject.Members ν → Except StorageError (FlatObject.Members ν)}

theorem write_alike (alike : Disk.AlikeBut (draftPath file.path) disk other) (same : other.faults = disk.faults) :
    (file.write other change).1 = (file.write disk change).1 ∧
      (file.write other change).2.1 = (file.write disk change).2.1 ∧
      Disk.AlikeBut (draftPath file.path) (file.write disk change).2.2 (file.write other change).2.2 := by
  unfold write
  split
  · split
    · exact ⟨rfl, rfl, alike⟩
    · next members _ =>
      obtain ⟨outcome, after⟩ := persist_alike alike same members
      generalize persist disk file.path members = result at *
      generalize persist other file.path members = result' at *
      obtain ⟨done, left⟩ := result
      obtain ⟨done', left'⟩ := result'
      cases outcome
      cases done <;> exact ⟨rfl, rfl, after⟩
  · exact ⟨rfl, rfl, alike⟩

theorem faultless_write (faultless : disk.faults = []) : (file.write disk change).2.2.faults = [] := by
  unfold write
  split
  · split
    · exact faultless
    · next members _ =>
      have recorded := faultless_persist file.path members faultless
      split <;> next done => rwa [done] at recorded
  · exact faultless

theorem alike_of_write_refused {error : StorageError} (refused : (file.write disk change).1 = .error error) :
    Disk.AlikeBut (draftPath file.path) disk (file.write disk change).2.2 := by
  have unchanged : Disk.AlikeBut (draftPath file.path) disk disk := .of_entries rfl
  unfold write at *
  split
  · next isOpen =>
    rw [if_pos isOpen] at refused
    split
    · exact unchanged
    · next members changed =>
      rw [changed] at refused
      dsimp only at refused
      have drafted : (persist disk file.path members).1 = false →
          Disk.AlikeBut (draftPath file.path) disk (persist disk file.path members).2 :=
        alike_of_refused file.path members
      generalize persist disk file.path members = result at *
      obtain ⟨done, after⟩ := result
      cases done with
      | false => exact drafted rfl
      | true => cases refused
  · exact unchanged

end FlatFile

end Playtime
