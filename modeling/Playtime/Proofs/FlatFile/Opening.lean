import Mathlib.Data.List.Basic
import Playtime.Proofs.FlatFile.Places

namespace Playtime

namespace Disk

def IsTree (disk : Disk) : Prop :=
  ∀ (place : Place) component, (disk.entries[place ++ [component]]?).isSome = true → disk.isDirectory place = true

theorem IsTree.isDirectory {disk : Disk} (tree : disk.IsTree) (above below : Place) (some : below ≠ [])
    (stands : (disk.entries[above ++ below]?).isSome = true) : disk.isDirectory above = true := by
  obtain ⟨below, last, rfl⟩ := List.eq_nil_or_concat below |>.resolve_left some
  have parent := tree (above ++ below) last (by simpa using stands)
  by_cases direct : below = []
  · simpa [direct] using parent
  · refine tree.isDirectory above below direct ?_
    have nested : above ++ below ≠ [] := by simp [direct]
    simp only [Disk.isDirectory, nested, decide_false, Bool.false_or, decide_eq_true_eq] at parent
    rw [parent]
    rfl
termination_by below.length

theorem enter_reached {disk : Disk} {directory next : Place} {component : String} (plain : component ≠ "..")
    (entered : disk.enter directory component = .reached next) :
    next = directory ++ [component] ∧ Path.isFileName component = true ∧ disk.entries[next]? = some .directory := by
  unfold enter at entered
  rw [if_neg plain] at entered
  split at entered
  · cases entered
  · next good =>
    split at entered
    · next found =>
      cases entered
      exact ⟨rfl, by simpa using good, found⟩
    · cases entered
    · cases entered

theorem enter_missing {disk : Disk} {directory : Place} {component : String}
    (missing : disk.enter directory component = .missing) :
    component ≠ ".." ∧ Path.isFileName component = true ∧ disk.entries[directory ++ [component]]? = none := by
  unfold enter at missing
  split at missing
  · cases missing
  · next plain =>
    split at missing
    · cases missing
    · next good =>
      split at missing
      · cases missing
      · cases missing
      · next absent => exact ⟨plain, by simpa using good, absent⟩

theorem enter_of_directory {disk : Disk} {directory : Place} {component : String} (plain : component ≠ "..")
    (good : Path.isFileName component = true) (found : disk.entries[directory ++ [component]]? = some .directory) :
    disk.enter directory component = .reached (directory ++ [component]) := by
  rw [enter, if_neg plain, if_neg (by simp [good]), found]

theorem exists_missing {disk : Disk} {directory : Place} {path : List String} (plain : ".." ∉ path)
    (missing : disk.walk directory path = .missing) :
    ∃ part, part ≠ [] ∧ part <+: path ∧ disk.entries[directory ++ part]? = none := by
  induction path generalizing directory with
  | nil => cases missing
  | cons component path ih =>
    rw [List.mem_cons, not_or] at plain
    rw [walk] at missing
    split at missing
    · next next entered =>
      obtain ⟨rfl, -⟩ := enter_reached (Ne.symm plain.1) entered
      obtain ⟨part, -, inside, absent⟩ := ih plain.2 missing
      exact ⟨component :: part, by simp, by simpa using inside, by simpa using absent⟩
    · next other => exact ⟨[component], by simp, by simp, (enter_missing missing).2.2⟩

theorem createBelow_of_walk {disk : Disk} {directory parent : Place} {path : List String}
    (reached : disk.walk directory path = .reached parent) : disk.createBelow directory path = (true, disk) := by
  induction path generalizing directory with
  | nil => rfl
  | cons component path ih =>
    rw [walk] at reached
    rw [createBelow]
    cases entered : disk.enter directory component with
    | reached next =>
      rw [entered] at reached
      exact ih reached
    | missing =>
      rw [entered] at reached
      cases reached
    | blocked =>
      rw [entered] at reached
      cases reached

theorem createBelow_plain {disk : Disk} {directory : Place} {path : List String} (plain : ".." ∉ path)
    (made : (disk.createBelow directory path).1 = true) :
    (disk.createBelow directory path).2.walk directory path = .reached (directory ++ path) ∧
      ∀ place : Place, (∀ part, part ≠ [] → part <+: path → place ≠ directory ++ part) →
        (disk.createBelow directory path).2.entries[place]? = disk.entries[place]? := by
  induction path generalizing disk directory with
  | nil => exact ⟨by simp [walk], fun _ _ => rfl⟩
  | cons component path ih =>
    rw [List.mem_cons, not_or] at plain
    -- The first directory of the path is there already, or it is put there; either way the rest is created in it.
    have below (start : Disk) (good : Path.isFileName component = true)
        (there : start.entries[directory ++ [component]]? = some .directory)
        (others : ∀ place : Place, place ≠ directory ++ [component] → start.entries[place]? = disk.entries[place]?)
        (made : (start.createBelow (directory ++ [component]) path).1 = true) :
        (start.createBelow (directory ++ [component]) path).2.walk directory (component :: path) =
            .reached (directory ++ component :: path) ∧
          ∀ place : Place, (∀ part, part ≠ [] → part <+: component :: path → place ≠ directory ++ part) →
            (start.createBelow (directory ++ [component]) path).2.entries[place]? = disk.entries[place]? := by
      obtain ⟨way, frame⟩ := ih plain.2 made
      have still := frame (directory ++ [component]) fun part some _ same => some (by simpa using same)
      have entered := enter_of_directory (Ne.symm plain.1) good (still.trans there)
      refine ⟨?_, fun place apart => ?_⟩
      · rw [walk, entered]
        simpa using way
      · rw [frame place fun part some inside => ?_, others place]
        · exact apart [component] (by simp) (by simp)
        · simpa using apart (component :: part) (by simp) (by simpa using inside)
    rw [createBelow] at made ⊢
    cases entered : disk.enter directory component with
    | reached next =>
      rw [entered] at made
      obtain ⟨rfl, good, there⟩ := enter_reached (Ne.symm plain.1) entered
      exact below disk good there (fun _ _ => rfl) made
    | missing =>
      rw [entered] at made
      obtain ⟨-, good, -⟩ := enter_missing entered
      refine below _ good (by simp [put]) (fun place differs => ?_) made
      rw [put, Std.ExtTreeMap.getElem?_insert, if_neg (by simpa using Ne.symm differs)]
    | blocked =>
      rw [entered] at made
      cases made

theorem read_content {disk : Disk} {path : List String} {bytes : List UInt8} (read : disk.read path = .content bytes) :
    ∃ place entry, disk.Takes path place ∧ disk.entries[place]? = some entry ∧ entry.content? = some bytes := by
  unfold Disk.read at read
  split at read
  · cases read
  · cases read
  · next place reached =>
    split at read
    · cases read
    · next free =>
      split at read
      · next bytes found =>
        cases read
        obtain ⟨entry, stands, content⟩ := Option.bind_eq_some_iff.mp found
        exact ⟨place, entry, ⟨reached, by simpa using free⟩, stands, content⟩
      · cases read

theorem read_absent {disk : Disk} {path : List String} (absent : disk.read path = .absent) :
    disk.locate path = .missing ∨ ∃ place, disk.Takes path place ∧ disk.entries[place]? = none := by
  unfold Disk.read at absent
  split at absent
  · next missing => exact .inl missing
  · cases absent
  · next place reached =>
    split at absent
    · cases absent
    · next free =>
      split at absent
      · cases absent
      · next nothing =>
        refine .inr ⟨place, ⟨reached, by simpa using free⟩, ?_⟩
        cases stands : disk.entries[place]? with
        | none => rfl
        | some entry =>
          rw [stands] at nothing
          -- Only a directory has no content.
          cases entry with
          | directory => simp [isDirectory, stands] at free
          | file content => cases nothing
          | database number => cases nothing

/-- A path leads to its file, or it will once the directories are there that it goes straight down through. -/
def Direct (disk : Disk) (path : List String) : Prop :=
  disk.locate path ≠ .missing ∨
    (disk.IsTree ∧ ".." ∉ path ∧ ∀ name ∈ path.getLast?, Path.isFileName name = true)

theorem isPath_dropLast {path : List String} (clean : Path.isPath path = true) : Path.isPath path.dropLast = true := by
  rw [Path.isPath, List.all_eq_true] at *
  exact fun component member => clean component ((List.dropLast_sublist path).subset member)

theorem Houses.createDirectories {disk : Disk} {path : List String} {parent : Place} {name : String}
    (houses : disk.Houses path parent name) : disk.createDirectories path.dropLast = (true, disk) := by
  rw [Disk.createDirectories, if_pos (isPath_dropLast houses.clean), createBelow_of_walk houses.way]

theorem absent_of_createDirectories {disk : Disk} {path : List String} {name : String} (direct : disk.Direct path)
    (last : path.getLast? = some name) (missing : disk.locate path = .missing)
    (made : (disk.createDirectories path.dropLast).1 = true) :
    (disk.createDirectories path.dropLast).2.Houses path path.dropLast name ∧
      (disk.createDirectories path.dropLast).2.entries[path.dropLast ++ [name]]? = none := by
  obtain ⟨tree, straight, fits⟩ := direct.resolve_left (absurd missing)
  have whole : path.dropLast ++ [name] = path := List.dropLast_append_getLast? name last
  have plain : name ≠ ".." := by
    rintro rfl
    exact straight (List.mem_of_getLast? last)
  have clean := isPath_of_locate (by rw [missing]; nofun)
  have above : ".." ∉ path.dropLast := fun member => straight ((List.dropLast_sublist path).subset member)
  have clean' := isPath_dropLast clean
  rw [locate_of_plain disk path name clean last plain] at missing
  have stopped : disk.walk [] path.dropLast = .missing := by
    split at missing
    · split at missing <;> cases missing
    · exact missing
  unfold createDirectories at *
  rw [if_pos clean'] at *
  obtain ⟨way, frame⟩ := createBelow_plain above made
  refine ⟨⟨clean, last, plain, fits name last, way⟩, ?_⟩
  rw [frame (path.dropLast ++ [name])]
  · -- Anything in the file's place would have a directory above it at every step of the way.
    obtain ⟨part, some, inside, absent⟩ := exists_missing above stopped
    obtain ⟨rest, split⟩ := inside
    cases stands : disk.entries[path.dropLast ++ [name]]? with
    | none => rfl
    | some entry =>
      have parent := tree.isDirectory part (rest ++ [name]) (by simp) (by rw [← List.append_assoc, split, stands]; rfl)
      rw [List.nil_append] at absent
      simp [isDirectory, some, absent] at parent
  · rintro part some ⟨rest, split⟩ same
    have lengths := congrArg List.length same
    rw [← split] at lengths
    simp at lengths

end Disk

namespace FlatFile

open FlatObject

variable {ν : Type} [Scalar ν]

/-- The file of a path holds members; an absent or a blank one holds none. -/
def Mirrors (disk : Disk) (path : List String) (members : Members ν) : Prop :=
  match disk.fileAt? path with
  | none => members = ∅
  | some entry => entry.content?.bind decode? = some members

theorem Mirrors.of_fileAt? {disk other : Disk} {path : List String} {members : Members ν}
    (mirrors : Mirrors disk path members) (same : other.fileAt? path = disk.fileAt? path) :
    Mirrors other path members := by
  unfold Mirrors at *
  rwa [same]

structure Kept (disk : Disk) (file : FlatFile ν) (parent : Place) (name : String) : Prop where
  houses : disk.Houses file.path parent name
  free : disk.isDirectory (parent ++ [name]) = false
  mirrors : Mirrors disk file.path file.members

theorem kept_of_load {disk after : Disk} {path : List String} {name : String} {file : FlatFile ν}
    (last : path.getLast? = some name) (plain : name ≠ "..") (direct : disk.Direct path)
    (loaded : load disk path = (.ok file, after)) :
    file.path = path ∧ ∃ parent, Kept after file parent name := by
  unfold load at loaded
  split at loaded
  · next bytes read =>
    split at loaded
    · next members decoded =>
      cases loaded
      obtain ⟨place, entry, ⟨reached, free⟩, stands, content⟩ := Disk.read_content read
      obtain ⟨parent, houses⟩ := Disk.Houses.of_locate last plain reached
      cases reached.symm.trans houses.locate
      refine ⟨rfl, parent, houses, free, ?_⟩
      rw [Mirrors, houses.fileAt?, stands]
      show entry.content?.bind decode? = some members
      rw [content, Option.bind_some, decoded]
    · cases loaded
  · next absent =>
    have empty {disk : Disk} {parent : Place} (houses : disk.Houses path parent name)
        (nothing : disk.entries[parent ++ [name]]? = none) :
        Kept disk (⟨path, ∅, true⟩ : FlatFile ν) parent name := by
      refine ⟨houses, by simp [Disk.isDirectory, nothing], ?_⟩
      rw [Mirrors, houses.fileAt?, nothing]
    rcases Disk.read_absent absent with missing | ⟨place, ⟨reached, -⟩, nothing⟩
    · have made := Disk.absent_of_createDirectories direct last missing
      generalize disk.createDirectories path.dropLast = result at made loaded
      obtain ⟨done, created⟩ := result
      cases done with
      | false => cases loaded
      | true =>
        cases loaded
        obtain ⟨houses, nothing⟩ := made rfl
        exact ⟨rfl, _, empty houses nothing⟩
    · obtain ⟨parent, houses⟩ := Disk.Houses.of_locate last plain reached
      cases reached.symm.trans houses.locate
      rw [houses.createDirectories] at loaded
      cases loaded
      exact ⟨rfl, parent, empty houses nothing⟩
  · cases loaded

theorem disk_load_of_path (disk : Disk) (path : List String) :
    (load (ν := ν) disk path).2 = disk ∨ (load (ν := ν) disk path).2 = (disk.createDirectories path.dropLast).2 := by
  unfold load
  split
  · split <;> exact .inl rfl
  · split <;> next created => exact .inr (by rw [created])
  · exact .inl rfl

/-- A flat file is opened again as it is. -/
theorem Kept.load {disk : Disk} {file : FlatFile ν} {parent : Place} {name : String}
    (kept : Kept disk file parent name) : load disk file.path = (.ok { file with isOpen := true }, disk) := by
  obtain ⟨houses, free, mirrors⟩ := kept
  rw [Mirrors, houses.fileAt?] at mirrors
  unfold FlatFile.load Disk.read
  rw [houses.locate]
  dsimp only
  rw [if_neg (by simp [free])]
  cases stands : disk.entries[parent ++ [name]]? with
  | none =>
    rw [stands] at mirrors
    dsimp only at *
    rw [Option.bind_none, houses.createDirectories]
    simp [← mirrors]
  | some entry =>
    rw [stands] at mirrors
    obtain ⟨bytes, content, decoded⟩ := Option.bind_eq_some_iff.mp mirrors
    rw [Option.bind_some, content]
    dsimp only
    rw [decoded]

end FlatFile

end Playtime
