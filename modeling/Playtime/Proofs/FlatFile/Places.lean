import Playtime.Proofs.Disk

namespace Playtime

theorem Path.append_ne_up (base : String) {tail : String} (long : 2 < tail.length) : base ++ tail ≠ ".." := by
  intro same
  have lengths := congrArg String.length same
  rw [String.length_append] at lengths
  change base.length + tail.length = 2 at lengths
  omega

namespace Disk

def fileAt? (disk : Disk) (path : List String) : Option Entry :=
  match disk.locate path with
  | .reached place => disk.entries[place]?
  | _ => none

structure Houses (disk : Disk) (path : List String) (parent : Place) (name : String) : Prop where
  clean : Path.isPath path = true
  last : path.getLast? = some name
  plain : name ≠ ".."
  fits : Path.isFileName name = true
  way : disk.walk [] path.dropLast = .reached parent

theorem isPath_of_locate {disk : Disk} {path : List String} (free : disk.locate path ≠ .blocked) :
    Path.isPath path = true := by
  cases good : Path.isPath path with
  | true => rfl
  | false => exact absurd (by rw [locate, if_pos (by simp [good])]) free

theorem locate_of_plain (disk : Disk) (path : List String) (name : String) (clean : Path.isPath path = true)
    (last : path.getLast? = some name) (plain : name ≠ "..") :
    disk.locate path = match disk.walk [] path.dropLast with
      | .reached parent => if Path.isFileName name then .reached (parent ++ [name]) else .blocked
      | stopped => stopped := by
  unfold locate
  rw [if_neg (by simp [clean]), last]
  split
  · next same => cases same
  · next same =>
    cases same
    exact absurd rfl plain
  · next same =>
    cases same
    rfl

namespace Houses

variable {disk other : Disk} {path : List String} {parent : Place} {name : String}

theorem locate (houses : disk.Houses path parent name) : disk.locate path = .reached (parent ++ [name]) := by
  rw [locate_of_plain disk path name houses.clean houses.last houses.plain, houses.way]
  exact if_pos houses.fits

theorem fileAt? (houses : disk.Houses path parent name) : disk.fileAt? path = disk.entries[parent ++ [name]]? := by
  rw [Disk.fileAt?, houses.locate]

theorem of_sameDirectories (houses : disk.Houses path parent name) (same : SameDirectories disk other) :
    other.Houses path parent name :=
  { houses with way := same.walk houses.way }

theorem of_locate {place : Place} (last : path.getLast? = some name) (plain : name ≠ "..")
    (reached : disk.locate path = .reached place) : ∃ parent, disk.Houses path parent name := by
  have clean := isPath_of_locate (by rw [reached]; nofun)
  rw [locate_of_plain disk path name clean last plain] at reached
  split at reached
  · next parent way =>
    split at reached
    · next fits => exact ⟨parent, clean, last, plain, fits, way⟩
    · cases reached
  · next stopped => exact absurd reached (stopped place)

theorem draft_place {place : Place} (houses : disk.Houses path parent name)
    (draft : disk.locate (FlatFile.draftPath path) = .reached place) : place = parent ++ [name ++ ".tmp"] := by
  have path' : FlatFile.draftPath path = path.dropLast ++ [name ++ ".tmp"] := by
    rw [FlatFile.draftPath, houses.last]
  rw [path'] at draft
  obtain ⟨directory, drafted⟩ := of_locate (by simp) (Path.append_ne_up name (show 2 < ".tmp".length by decide)) draft
  have way := drafted.way
  rw [List.dropLast_concat, houses.way] at way
  cases way
  cases draft.symm.trans drafted.locate
  rfl

theorem draft_ne {place : Place} (houses : disk.Houses path parent name)
    (draft : disk.locate (FlatFile.draftPath path) = .reached place) : place ≠ parent ++ [name] := by
  have longer : (name ++ ".tmp").length ≠ name.length := by simp [String.length_append]
  rw [houses.draft_place draft]
  intro same
  have names := List.append_cancel_left same
  simp only [List.cons.injEq, and_true] at names
  exact longer (by rw [names])

end Houses

theorem SameDirectories.takes {disk other : Disk} (same : SameDirectories disk other) {path : List String}
    {place : Place} (reached : disk.locate path = .reached place) (free : disk.isDirectory place = false) :
    other.Takes path place :=
  Takes.of_sameDirectories ⟨reached, free⟩ same

theorem entries_drawFault (disk : Disk) : disk.drawFault.2.entries = disk.entries := by
  unfold drawFault
  split <;> rfl

theorem sameDirectories_drawFault (disk : Disk) : SameDirectories disk.drawFault.2 disk := by
  intro place
  rw [entries_drawFault]

theorem write_cases (disk : Disk) (path : List String) (bytes : List UInt8) :
    ((disk.write path bytes).1 = false ∧ (disk.write path bytes).2.entries = disk.entries) ∨
      ∃ place written, disk.Takes path place ∧
        (disk.write path bytes).2.entries = disk.entries.insert place (.file written) ∧
        ((disk.write path bytes).1 = true → written = bytes) := by
  have same := entries_drawFault disk
  have directories := sameDirectories_drawFault disk
  unfold write
  dsimp only
  split
  · next place reached =>
    split
    · exact .inl ⟨rfl, same⟩
    · next free =>
      have takes : disk.Takes path place := directories.takes reached (by simpa using free)
      split
      · exact .inr ⟨place, bytes, takes, by rw [put, same], fun _ => rfl⟩
      · exact .inl ⟨rfl, same⟩
      · next kept _ => exact .inr ⟨place, bytes.take kept, takes, by rw [put, same],
          fun done => absurd done Bool.false_ne_true⟩
  · exact .inl ⟨rfl, same⟩

theorem rename_cases (disk : Disk) (source target : List String) :
    ((disk.rename source target).1 = false ∧ (disk.rename source target).2.entries = disk.entries) ∨
      ∃ origin goal entry, disk.Takes source origin ∧ disk.Takes target goal ∧ disk.entries[origin]? = some entry ∧
        (disk.rename source target).1 = true ∧
        (disk.rename source target).2.entries = (disk.entries.erase origin).insert goal entry := by
  have same := entries_drawFault disk
  have directories := sameDirectories_drawFault disk
  unfold rename
  dsimp only
  split
  · next origin goal _ reached reached' =>
    split
    · exact .inl ⟨rfl, same⟩
    · next free =>
      simp only [Bool.or_eq_true, not_or, Bool.not_eq_true] at free
      split
      · exact .inl ⟨rfl, same⟩
      · next entry found =>
        rw [same] at found
        exact .inr ⟨origin, goal, entry, directories.takes reached free.1, directories.takes reached' free.2, found,
          rfl, by rw [same]⟩
  · exact .inl ⟨rfl, same⟩

theorem sameDirectories_of_entries {disk other : Disk} (same : other.entries = disk.entries) :
    SameDirectories disk other := by
  intro place
  rw [same]

end Disk

namespace FlatFile

variable {ν : Type} [FlatObject.Scalar ν]

theorem write_draft {disk : Disk} {path : List String} {parent : Place} {name : String}
    (houses : disk.Houses path parent name) (bytes : List UInt8) :
    Disk.SameDirectories disk (disk.write (draftPath path) bytes).2 ∧
      (disk.write (draftPath path) bytes).2.entries[parent ++ [name]]? = disk.entries[parent ++ [name]]? ∧
      ((disk.write (draftPath path) bytes).1 = true → ∃ place,
        (disk.write (draftPath path) bytes).2.Takes (draftPath path) place ∧
          (disk.write (draftPath path) bytes).2.entries[place]? = some (.file bytes)) := by
  rcases disk.write_cases (draftPath path) bytes with ⟨failed, same⟩ | ⟨place, written, takes, changed, whole⟩
  · exact ⟨Disk.sameDirectories_of_entries same, by rw [same], fun done => nomatch failed.symm.trans done⟩
  · have apart := houses.draft_ne takes.1
    have directories : Disk.SameDirectories disk (disk.write (draftPath path) bytes).2 := by
      apply Disk.sameDirectories_of_one takes.2
      · simp [changed]
      · intro elsewhere differs
        rw [changed, Std.ExtTreeMap.getElem?_insert, if_neg (by simpa using Ne.symm differs)]
    refine ⟨directories, ?_, fun done => ⟨place, takes.of_sameDirectories directories, ?_⟩⟩
    · rw [changed, Std.ExtTreeMap.getElem?_insert, if_neg (by simpa using apart)]
    · rw [changed, Std.ExtTreeMap.getElem?_insert_self, whole done]

theorem rename_draft {disk : Disk} {path : List String} {parent place : Place} {name : String} {bytes : List UInt8}
    (houses : disk.Houses path parent name) (takes : disk.Takes (draftPath path) place)
    (found : disk.entries[place]? = some (.file bytes)) :
    Disk.SameDirectories disk (disk.rename (draftPath path) path).2 ∧
      ((disk.rename (draftPath path) path).1 = false ∧
          (disk.rename (draftPath path) path).2.entries[parent ++ [name]]? = disk.entries[parent ++ [name]]? ∨
        (disk.rename (draftPath path) path).1 = true ∧
          (disk.rename (draftPath path) path).2.entries[parent ++ [name]]? = some (.file bytes)) := by
  rcases disk.rename_cases (draftPath path) path with
    ⟨failed, same⟩ | ⟨origin, goal, entry, source, target, held, done, changed⟩
  · exact ⟨Disk.sameDirectories_of_entries same, .inl ⟨failed, by rw [same]⟩⟩
  · cases source.1.symm.trans takes.1
    cases target.1.symm.trans houses.locate
    cases held.symm.trans found
    have moved := Disk.sameDirectories_move (.file bytes) nofun source.2 target.2
    exact ⟨moved.trans (Disk.sameDirectories_of_entries changed),
      .inr ⟨done, by rw [changed, Std.ExtTreeMap.getElem?_insert_self]⟩⟩

/-- The file of an object has the new members once they are recorded, and is as it was if they could not be. -/
theorem persist_cases {disk : Disk} {path : List String} {parent : Place} {name : String}
    (houses : disk.Houses path parent name) (members : FlatObject.Members ν) :
    Disk.SameDirectories disk (persist disk path members).2 ∧
      ((persist disk path members).1 = false ∧
          (persist disk path members).2.entries[parent ++ [name]]? = disk.entries[parent ++ [name]]? ∨
        (persist disk path members).1 = true ∧
          (persist disk path members).2.entries[parent ++ [name]]? = some (.file (FlatObject.toBytes members))) := by
  obtain ⟨directories, untouched, drafted⟩ := write_draft houses (FlatObject.toBytes members)
  unfold persist
  generalize disk.write (draftPath path) (FlatObject.toBytes members) = result at *
  obtain ⟨done, after⟩ := result
  cases done with
  | false => exact ⟨directories, .inl ⟨rfl, untouched⟩⟩
  | true =>
    obtain ⟨place, takes, found⟩ := drafted rfl
    obtain ⟨moved, outcome⟩ := rename_draft (houses.of_sameDirectories directories) takes found
    refine ⟨directories.trans moved, ?_⟩
    rcases outcome with ⟨failed, same⟩ | ⟨done, recorded⟩
    · exact .inl ⟨failed, same.trans untouched⟩
    · exact .inr ⟨done, recorded⟩

end FlatFile

end Playtime
