import Playtime.Proofs.Deployments.Directories
import Playtime.Proofs.Deployments.Lockstep
import Playtime.Proofs.FlatFile.Drafts
import Playtime.Proofs.FlatFile.Neighbours

namespace Playtime

namespace Disk

/-- A disk changes at most in the files that some paths lead to. -/
structure Confined (paths : List (List String)) (disk other : Disk) : Prop where
  directories : SameDirectories disk other
  elsewhere (place : Place) (apart : ∀ path ∈ paths, disk.locate path ≠ .reached place) :
    other.entries[place]? = disk.entries[place]?

variable {paths : List (List String)} {disk other third : Disk}

theorem Confined.of_entries (same : other.entries = disk.entries) : Confined paths disk other :=
  ⟨sameDirectories_of_entries same, fun place _ => by rw [same]⟩

theorem Confined.trans (first : Confined paths disk other) (second : Confined paths other third) :
    Confined paths disk third := by
  refine ⟨first.directories.trans second.directories, fun place apart => ?_⟩
  rw [second.elsewhere place, first.elsewhere place apart]
  intro path member reached
  exact apart path member (first.directories.symm.locate reached)

theorem confined_write {path : List String} (member : path ∈ paths) (bytes : List UInt8) :
    Confined paths disk (disk.write path bytes).2 := by
  rcases disk.write_cases path bytes with ⟨-, same⟩ | ⟨place, written, takes, changed, -⟩
  · exact .of_entries same
  · have others (elsewhere : Place) (differs : elsewhere ≠ place) :
        (disk.write path bytes).2.entries[elsewhere]? = disk.entries[elsewhere]? := by
      rw [changed, Std.ExtTreeMap.getElem?_insert, if_neg (by simpa using Ne.symm differs)]
    refine ⟨sameDirectories_of_one takes.2 (by simp [changed]) others, fun elsewhere apart => others elsewhere ?_⟩
    rintro rfl
    exact apart path member takes.1

theorem confined_rename {source target : List String} (member : source ∈ paths) (memberToo : target ∈ paths) :
    Confined paths disk (disk.rename source target).2 := by
  rcases disk.rename_cases source target with ⟨-, same⟩ | ⟨origin, goal, entry, takes, takesToo, held, -, changed⟩
  · exact .of_entries same
  · have file : entry ≠ .directory := by
      rintro rfl
      simpa [isDirectory, held] using takes.2
    refine ⟨(sameDirectories_move entry file takes.2 takesToo.2).trans (sameDirectories_of_entries changed), ?_⟩
    intro place apart
    have left : origin ≠ place := fun same => apart source member (same ▸ takes.1)
    have right : goal ≠ place := fun same => apart target memberToo (same ▸ takesToo.1)
    rw [changed, Std.ExtTreeMap.getElem?_insert, if_neg (by simpa using right), Std.ExtTreeMap.getElem?_erase,
      if_neg (by simpa using left)]

end Disk

namespace FlatFile

open FlatObject (Members Scalar)

variable {ν : Type} [Scalar ν] {paths : List (List String)} {disk : Disk}

theorem confined_persist {path : List String} (member : path ∈ paths) (draft : draftPath path ∈ paths)
    (members : Members ν) : Disk.Confined paths disk (persist disk path members).2 := by
  have written : Disk.Confined paths disk (disk.write (draftPath path) (FlatObject.toBytes members)).2 :=
    Disk.confined_write draft _
  unfold persist
  split
  · next after done =>
    rw [done] at written
    exact written.trans (Disk.confined_rename draft member)
  · next after failed => rwa [failed] at written

theorem Recording.confined {κ : Type} {make : Calls κ ν} (recording : Recording make) (call : κ) {file : FlatFile ν}
    (member : file.path ∈ paths) (draft : draftPath file.path ∈ paths) :
    Disk.Confined paths disk (make call file disk).2.2 := by
  have unchanged : Disk.Confined paths disk disk := .of_entries rfl
  rcases recording call file disk with ⟨outcome, made⟩ | ⟨change, made⟩ | made
  · rwa [made]
  · rw [made, write]
    split
    · split
      · exact unchanged
      · next members _ =>
        have persisted : Disk.Confined paths disk (persist disk file.path members).2 :=
          confined_persist member draft members
        split <;> next done => rwa [done] at persisted
    · exact unchanged
  · rwa [made]

end FlatFile

namespace Disk

/-- Two disks with the same files of some names in a directory, on which the next attempts fare alike. -/
structure Level (above names : List String) (disk other : Disk) : Prop where
  faults : other.faults = disk.faults
  beside : ∃ parent, Beside above names disk other parent

variable {above : List String} {stem name : String} {disk other : Disk} {parent : Place}

theorem Leads.locate_file (leads : disk.Leads above parent) (plain : IsPlainStem stem)
    (member : name ∈ fileNames stem) :
    disk.locate (above ++ [name]) = if Path.isFileName name then .reached (parent ++ [name]) else .blocked :=
  leads.locate (fileNames_clean plain member).2 (fileNames_ne_up member)

theorem Beside.isDirectory {names : List String} (beside : Beside above names disk other parent)
    (member : name ∈ names) : other.isDirectory (parent ++ [name]) = disk.isDirectory (parent ++ [name]) := by
  rw [Disk.isDirectory, Disk.isDirectory, beside.entries name member]

theorem Beside.put {names : List String} (beside : Beside above names disk other parent)
    (member : name ∈ names) (free : disk.isDirectory (parent ++ [name]) = false) (content : List UInt8) :
    Beside above names (disk.put (parent ++ [name]) (.file content)) (other.put (parent ++ [name]) (.file content))
      parent := by
  have freeToo := (beside.isDirectory member).trans free
  refine ⟨beside.leads.of_sameDirectories (sameDirectories_put _ nofun free),
    beside.leadsToo.of_sameDirectories (sameDirectories_put _ nofun freeToo), fun name' memberToo => ?_⟩
  rw [Disk.put, Disk.put, Std.ExtTreeMap.getElem?_insert, Std.ExtTreeMap.getElem?_insert,
    beside.entries name' memberToo]

theorem Level.drawFault {names : List String} (level : Level above names disk other) :
    other.drawFault.1 = disk.drawFault.1 ∧ Level above names disk.drawFault.2 other.drawFault.2 := by
  obtain ⟨faults, parent, beside⟩ := level
  obtain ⟨fate, left⟩ := drawFault_alike faults
  refine ⟨fate, left, parent, beside.leads.of_sameDirectories (sameDirectories_drawFault disk).symm,
    beside.leadsToo.of_sameDirectories (sameDirectories_drawFault other).symm, ?_⟩
  rw [entries_drawFault, entries_drawFault]
  exact beside.entries

theorem Level.write (level : Level above (fileNames stem) disk other) (plain : IsPlainStem stem)
    (member : name ∈ fileNames stem) (bytes : List UInt8) :
    (other.write (above ++ [name]) bytes).1 = (disk.write (above ++ [name]) bytes).1 ∧
      Level above (fileNames stem) (disk.write (above ++ [name]) bytes).2 (other.write (above ++ [name]) bytes).2 := by
  have drawn := level.drawFault
  unfold Disk.write
  generalize disk.drawFault = result at *
  generalize other.drawFault = result' at *
  obtain ⟨fault, disk⟩ := result
  obtain ⟨fault', other⟩ := result'
  obtain ⟨rfl, level⟩ : fault' = fault ∧ Level above (fileNames stem) disk other := drawn
  obtain ⟨left, parent, beside⟩ := id level
  dsimp only
  rw [beside.leads.locate_file plain member, beside.leadsToo.locate_file plain member]
  split
  · next place reached =>
    split at reached
    · cases reached
      rw [beside.isDirectory member]
      split
      · exact ⟨rfl, level⟩
      · next free =>
        have put (content : List UInt8) := beside.put member (by simpa using free) content
        split
        · exact ⟨rfl, left, parent, put _⟩
        · exact ⟨rfl, level⟩
        · exact ⟨rfl, left, parent, put _⟩
    · cases reached
  · exact ⟨rfl, level⟩

theorem Beside.move {names : List String} (beside : Beside above names disk other parent) {draft : String}
    (member : draft ∈ names) (memberToo : name ∈ names) {entry : Entry}
    (held : disk.entries[parent ++ [draft]]? = some entry) (free : disk.isDirectory (parent ++ [draft]) = false)
    (freeToo : disk.isDirectory (parent ++ [name]) = false) :
    Beside above names
      { disk with entries := (disk.entries.erase (parent ++ [draft])).insert (parent ++ [name]) entry }
      { other with entries := (other.entries.erase (parent ++ [draft])).insert (parent ++ [name]) entry } parent := by
  have file : entry ≠ .directory := by
    rintro rfl
    simp [Disk.isDirectory, held] at free
  refine ⟨beside.leads.of_sameDirectories (sameDirectories_move entry file free freeToo),
    beside.leadsToo.of_sameDirectories (sameDirectories_move entry file ((beside.isDirectory member).trans free)
      ((beside.isDirectory memberToo).trans freeToo)), fun name' inside => ?_⟩
  simp only [Std.ExtTreeMap.getElem?_insert, Std.ExtTreeMap.getElem?_erase, beside.entries name' inside]

theorem Level.rename (level : Level above (fileNames stem) disk other) (plain : IsPlainStem stem) {draft : String}
    (member : draft ∈ fileNames stem) (memberToo : name ∈ fileNames stem) :
    (other.rename (above ++ [draft]) (above ++ [name])).1 = (disk.rename (above ++ [draft]) (above ++ [name])).1 ∧
      Level above (fileNames stem) (disk.rename (above ++ [draft]) (above ++ [name])).2
        (other.rename (above ++ [draft]) (above ++ [name])).2 := by
  have drawn := level.drawFault
  unfold Disk.rename
  generalize disk.drawFault = result at *
  generalize other.drawFault = result' at *
  obtain ⟨fault, disk⟩ := result
  obtain ⟨fault', other⟩ := result'
  obtain ⟨rfl, level⟩ : fault' = fault ∧ Level above (fileNames stem) disk other := drawn
  obtain ⟨left, parent, beside⟩ := id level
  dsimp only
  rw [beside.leads.locate_file plain member, beside.leadsToo.locate_file plain member,
    beside.leads.locate_file plain memberToo, beside.leadsToo.locate_file plain memberToo]
  split
  · next origin goal _ reached reachedToo =>
    split at reached
    · split at reachedToo
      · cases reached
        cases reachedToo
        rw [beside.isDirectory member, beside.isDirectory memberToo, beside.entries draft member]
        split
        · exact ⟨rfl, level⟩
        · next free =>
          simp only [Bool.or_eq_true, not_or, Bool.not_eq_true] at free
          split
          · exact ⟨rfl, level⟩
          · next entry held => exact ⟨rfl, left, parent, beside.move member memberToo held free.1 free.2⟩
      · cases reachedToo
    · cases reached
  · exact ⟨rfl, level⟩

end Disk

namespace FlatFile

open FlatObject (Members Scalar)

variable {ν : Type} [Scalar ν] {above : List String} {stem name : String} {disk other : Disk}

structure Drafted (stem name : String) : Prop where
  plain : IsPlainStem stem
  file : name ∈ fileNames stem
  draft : name ++ ".tmp" ∈ fileNames stem

theorem drafted_of_plain (plain : IsPlainStem stem) :
    Drafted stem (stem ++ "names.json") ∧ Drafted stem (stem ++ "time.json") := by
  obtain ⟨member, memberToo⟩ := mem_fileNames stem
  exact ⟨⟨plain, member, by simp [fileNames, fileEndings, String.append_assoc]⟩,
    plain, memberToo, by simp [fileNames, fileEndings, String.append_assoc]⟩

theorem persist_level (drafted : Drafted stem name) (level : Disk.Level above (fileNames stem) disk other)
    (members : Members ν) :
    (persist other (above ++ [name]) members).1 = (persist disk (above ++ [name]) members).1 ∧
      Disk.Level above (fileNames stem) (persist disk (above ++ [name]) members).2
        (persist other (above ++ [name]) members).2 := by
  have written := level.write drafted.plain drafted.draft (FlatObject.toBytes members)
  unfold persist
  rw [draftPath_below]
  generalize disk.write (above ++ [name ++ ".tmp"]) (FlatObject.toBytes members) = result at *
  generalize other.write (above ++ [name ++ ".tmp"]) (FlatObject.toBytes members) = result' at *
  obtain ⟨done', disk⟩ := result
  obtain ⟨done, other⟩ := result'
  obtain ⟨rfl, level⟩ : done = done' ∧ Disk.Level above (fileNames stem) disk other := written
  cases done with
  | true => exact level.rename drafted.plain drafted.draft drafted.file
  | false => exact ⟨rfl, level⟩

theorem write_level {file : FlatFile ν} (path : file.path = above ++ [name]) (drafted : Drafted stem name)
    (level : Disk.Level above (fileNames stem) disk other) (change : Members ν → Except StorageError (Members ν)) :
    (file.write other change).1 = (file.write disk change).1 ∧
      (file.write other change).2.1 = (file.write disk change).2.1 ∧
      Disk.Level above (fileNames stem) (file.write disk change).2.2 (file.write other change).2.2 := by
  unfold write
  split
  · split
    · exact ⟨rfl, rfl, level⟩
    · next members _ =>
      have persisted := persist_level drafted level members
      rw [← path] at persisted
      generalize persist disk file.path members = result at *
      generalize persist other file.path members = result' at *
      obtain ⟨done', disk⟩ := result
      obtain ⟨done, other⟩ := result'
      obtain ⟨rfl, level⟩ : done = done' ∧ Disk.Level above (fileNames stem) disk other := persisted
      cases done <;> exact ⟨rfl, rfl, level⟩
  · exact ⟨rfl, rfl, level⟩

end FlatFile

section

variable {above : List String} {stem name : String} {disk other : Disk}

theorem NameFile.make_level {names : NameFile} (path : FlatFile.path names = above ++ [name])
    (drafted : FlatFile.Drafted stem name) (level : Disk.Level above (fileNames stem) disk other) (call : Call) :
    (make call names other).2.1 = (make call names disk).2.1 ∧
      Disk.Level above (fileNames stem) (make call names disk).2.2 (make call names other).2.2 := by
  have written (change : FlatObject.Members String → Except StorageError (FlatObject.Members String)) :=
    FlatFile.write_level path drafted level change
  cases call with
  | setName id text override =>
    unfold make setName
    dsimp only
    split
    · exact ⟨rfl, level⟩
    · exact (written _).2
  | setNames entries =>
    unfold make setNames
    dsimp only
    split
    · exact ⟨rfl, level⟩
    · exact (written _).2
  | close => exact ⟨rfl, level⟩

theorem TimeFile.creditAll_level {times : TimeFile} (path : FlatFile.path times = above ++ [name])
    (drafted : FlatFile.Drafted stem name) (level : Disk.Level above (fileNames stem) disk other)
    (deltas : List (PlayerId × Int64)) :
    (creditAll times other deltas).1 = (creditAll times disk deltas).1 ∧
      (creditAll times other deltas).2.1 = (creditAll times disk deltas).2.1 ∧
      Disk.Level above (fileNames stem) (creditAll times disk deltas).2.2 (creditAll times other deltas).2.2 := by
  unfold creditAll
  split
  · exact ⟨rfl, rfl, level⟩
  · exact FlatFile.write_level path drafted level _

end

namespace Backend

variable {directory stem : String}

def FiledAs (directory stem : String) (backend : Backend) : Prop :=
  ∃ names times, backend = files names times ∧ FlatFile.path names = NameFile.path directory stem ∧
    FlatFile.path times = TimeFile.path directory stem

theorem mem_filePaths (directory stem : String) :
    (NameFile.path directory stem ∈ filePaths directory stem ∧
      FlatFile.draftPath (NameFile.path directory stem) ∈ filePaths directory stem) ∧
    TimeFile.path directory stem ∈ filePaths directory stem ∧
      FlatFile.draftPath (TimeFile.path directory stem) ∈ filePaths directory stem := by
  simp [filePaths]

theorem keeps_filed (directory stem : String) (disk : Disk) : Keeps fun state =>
    state.1.FiledAs directory stem ∧ Disk.Confined (filePaths directory stem) disk state.2.disk := by
  obtain ⟨⟨inside, draft⟩, insideToo, draftToo⟩ := mem_filePaths directory stem
  have named {host : Host} {names : NameFile} {times : TimeFile} (call : NameFile.Call)
      (path : FlatFile.path names = NameFile.path directory stem)
      (path' : FlatFile.path times = TimeFile.path directory stem)
      (confined : Disk.Confined (filePaths directory stem) disk host.disk) :
      (files (NameFile.make call names host.disk).2.1 times).FiledAs directory stem ∧
        Disk.Confined (filePaths directory stem) disk (NameFile.make call names host.disk).2.2 :=
    ⟨⟨_, times, rfl, (NameFile.recording_make.path call names host.disk).trans path, path'⟩,
      confined.trans (NameFile.recording_make.confined call (path ▸ inside) (path ▸ draft))⟩
  constructor
  · rintro ⟨_, host⟩ deltas ⟨⟨names, times, rfl, path, path'⟩, confined⟩
    exact ⟨⟨names, _, rfl, path, (TimeFile.recording_make.path (.creditAll deltas) times host.disk).trans path'⟩,
      confined.trans (TimeFile.recording_make.confined (.creditAll deltas) (path' ▸ insideToo) (path' ▸ draftToo))⟩
  · rintro ⟨_, host⟩ ⟨⟨names, times, rfl, paths⟩, confined⟩
    exact ⟨⟨names, FlatFile.close times, rfl, paths⟩, confined⟩
  · rintro ⟨_, host⟩ call ⟨⟨names, times, rfl, path, path'⟩, confined⟩
    have unchanged : FiledAs directory stem (files names times) := ⟨names, times, rfl, path, path'⟩
    cases call with
    | set id text override => exact named (.setName id text override) path path' confined
    | setAll entries => exact named (.setNames entries) path path' confined
    | holder name => exact ⟨unchanged, confined⟩
    | name id => exact ⟨unchanged, confined⟩
    | names => exact ⟨unchanged, confined⟩
  · rintro ⟨_, host⟩ ⟨⟨names, times, rfl, path, path'⟩, confined⟩
    exact named .close path path' confined
  · rintro ⟨_, host⟩ statistic ⟨⟨names, times, rfl, paths⟩, confined⟩
    exact ⟨⟨names, times, rfl, paths⟩, confined⟩

structure Even (directory stem : String) (state other : Backend × Host) : Prop where
  backend : other.1 = state.1
  filed : state.1.FiledAs directory stem
  level : Disk.Level (Path.ofText directory) (fileNames stem) state.2.disk other.2.disk

theorem parallel_filed (directory : String) {stem : String} (plain : IsPlainStem stem) :
    Parallel (Even directory stem) := by
  obtain ⟨draftedNames, draftedTimes⟩ := FlatFile.drafted_of_plain plain
  have keeps (host : Host) := keeps_filed directory stem host.disk
  constructor
  · rintro ⟨_, host⟩ ⟨_, host'⟩ deltas ⟨rfl, filed, level⟩
    have kept := (keeps host).credits (_, host) deltas ⟨filed, .of_entries rfl⟩
    obtain ⟨names, times, rfl, path, path'⟩ := id filed
    rw [TimeFile.path_of_plain plain] at path'
    have credited := TimeFile.creditAll_level path' draftedTimes level deltas
    exact ⟨credited.1, congrArg (files names) credited.2.1, kept.1, credited.2.2⟩
  · rintro ⟨_, host⟩ ⟨_, host'⟩ ⟨rfl, filed, level⟩
    have kept := (keeps host).closes (_, host) ⟨filed, .of_entries rfl⟩
    obtain ⟨names, times, rfl, -⟩ := id filed
    exact ⟨rfl, kept.1, level⟩
  · rintro ⟨_, host⟩ ⟨_, host'⟩ call ⟨rfl, filed, level⟩
    have kept := (keeps host).names (_, host) call ⟨filed, .of_entries rfl⟩
    obtain ⟨names, times, rfl, path, path'⟩ := id filed
    rw [NameFile.path_of_plain plain] at path
    cases call with
    | set id text override =>
      have named := NameFile.make_level path draftedNames level (.setName id text override)
      exact ⟨congrArg (files · times) named.1, kept.1, named.2⟩
    | setAll entries =>
      have named := NameFile.make_level path draftedNames level (.setNames entries)
      exact ⟨congrArg (files · times) named.1, kept.1, named.2⟩
    | holder name => exact ⟨rfl, filed, level⟩
    | name id => exact ⟨rfl, filed, level⟩
    | names => exact ⟨rfl, filed, level⟩
  · rintro ⟨_, host⟩ ⟨_, host'⟩ ⟨rfl, filed, level⟩
    have kept := (keeps host).closesNames (_, host) ⟨filed, .of_entries rfl⟩
    exact ⟨rfl, kept.1, level⟩
  · rintro ⟨_, host⟩ ⟨_, host'⟩ statistic ⟨rfl, filed, level⟩
    obtain ⟨names, times, rfl, -⟩ := id filed
    exact ⟨rfl, filed, level⟩

end Backend

end Playtime
