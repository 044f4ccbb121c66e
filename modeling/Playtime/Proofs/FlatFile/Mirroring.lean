import Playtime.NameFile
import Playtime.Proofs.FlatFile.Opening
import Playtime.Proofs.FlatObject.RoundTrip
import Playtime.TimeFile

namespace Playtime

namespace Disk

structure Spares (disk other : Disk) (path : List String) : Prop where
  way : other.locate path = disk.locate path
  file : other.fileAt? path = disk.fileAt? path

end Disk

namespace FlatFile

open FlatObject

variable {ν : Type} [Scalar ν]

theorem Kept.spared {disk other : Disk} {file : FlatFile ν} {parent : Place} {name : String}
    (kept : Kept disk file parent name) (spares : disk.Spares other file.path) : Kept other file parent name := by
  obtain ⟨houses, free, mirrors⟩ := kept
  have way := spares.way
  rw [houses.locate] at way
  obtain ⟨directory, moved⟩ := Disk.Houses.of_locate houses.last houses.plain way
  have same := way.symm.trans moved.locate
  simp only [Walk.reached.injEq, List.append_cancel_right_eq] at same
  subst same
  have entry := spares.file
  rw [houses.fileAt?, moved.fileAt?] at entry
  refine ⟨moved, ?_, mirrors.of_fileAt? spares.file⟩
  rw [← free, Disk.isDirectory, Disk.isDirectory, entry]

abbrev Calls (κ ν : Type) := κ → FlatFile ν → Disk → Except StorageError Unit × FlatFile ν × Disk

/-- Each call is answered with nothing done, records a change, or closes the file. -/
def Recording {κ : Type} (make : Calls κ ν) : Prop :=
  ∀ call file disk, (∃ outcome, make call file disk = (outcome, file, disk)) ∨
    (∃ change, make call file disk = file.write disk change) ∨ make call file disk = (.ok (), file.close, disk)

theorem path_write (file : FlatFile ν) (disk : Disk) (change : Members ν → Except StorageError (Members ν)) :
    (file.write disk change).2.1.path = file.path := by
  unfold write
  split
  · split
    · rfl
    · split <;> rfl
  · rfl

theorem Recording.path {κ : Type} {make : Calls κ ν} (recording : Recording make) (call : κ) (file : FlatFile ν)
    (disk : Disk) : (make call file disk).2.1.path = file.path := by
  rcases recording call file disk with ⟨outcome, made⟩ | ⟨change, made⟩ | made
  · rw [made]
  · rw [made, path_write]
  · rw [made]
    rfl

variable [Legible ν]

theorem Kept.write {disk : Disk} {file : FlatFile ν} {parent : Place} {name : String}
    (kept : Kept disk file parent name) (change : Members ν → Except StorageError (Members ν)) :
    Kept (file.write disk change).2.2 (file.write disk change).2.1 parent name ∧
      ∀ error, (file.write disk change).1 = .error error →
        (file.write disk change).2.1 = file ∧
          (file.write disk change).2.2.fileAt? file.path = disk.fileAt? file.path := by
  obtain ⟨houses, free, mirrors⟩ := id kept
  unfold FlatFile.write
  split
  · split
    · exact ⟨kept, fun _ _ => ⟨rfl, rfl⟩⟩
    · next members _ =>
      obtain ⟨directories, outcome⟩ := persist_cases houses members
      have housed := houses.of_sameDirectories directories
      have free' := (directories.isDirectory (parent ++ [name])).symm.trans free
      generalize persist disk file.path members = result at *
      obtain ⟨done, after⟩ := result
      dsimp only at *
      rcases outcome with ⟨rfl, same⟩ | ⟨rfl, recorded⟩
      · have still : after.fileAt? file.path = disk.fileAt? file.path := by rw [housed.fileAt?, houses.fileAt?, same]
        exact ⟨⟨housed, free', mirrors.of_fileAt? still⟩, fun _ _ => ⟨rfl, still⟩⟩
      · refine ⟨⟨housed, free', ?_⟩, nofun⟩
        rw [Mirrors, housed.fileAt?, recorded]
        exact decode?_toBytes members
  · exact ⟨kept, fun _ _ => ⟨rfl, rfl⟩⟩

variable {κ : Type} {make : Calls κ ν}

theorem Kept.call {disk : Disk} {file : FlatFile ν} {parent : Place} {name : String}
    (kept : Kept disk file parent name) (recording : Recording make) (call : κ) :
    Kept (make call file disk).2.2 (make call file disk).2.1 parent name ∧
      ∀ error, (make call file disk).1 = .error error →
        (make call file disk).2.1 = file ∧ (make call file disk).2.2.fileAt? file.path = disk.fileAt? file.path := by
  rcases recording call file disk with ⟨outcome, made⟩ | ⟨change, made⟩ | made
  · rw [made]
    exact ⟨kept, fun _ _ => ⟨rfl, rfl⟩⟩
  · rw [made]
    exact kept.write change
  · rw [made]
    exact ⟨⟨kept.houses, kept.free, kept.mirrors⟩, nofun⟩

/-- What an opened file and its disk come to through calls, whatever else happens on the disk meanwhile. -/
inductive Reached (make : Calls κ ν) (path : List String) : FlatFile ν → Disk → Prop where
  | opened {disk after : Disk} {file : FlatFile ν} (direct : disk.Direct path)
    (loaded : load disk path = (.ok file, after)) : Reached make path file after
  | called {file : FlatFile ν} {disk : Disk} (reached : Reached make path file disk) (call : κ) :
    Reached make path (make call file disk).2.1 (make call file disk).2.2
  | elsewhere {file : FlatFile ν} {disk other : Disk} (reached : Reached make path file disk)
    (spares : disk.Spares other path) : Reached make path file other

/-- Memory and disk are of one mind, stay so when a call fails, and are found so by whoever opens the file again. -/
structure Faithful (make : Calls κ ν) (path : List String) (file : FlatFile ν) (disk : Disk) : Prop where
  mirrors : Mirrors disk path file.members
  refused (call : κ) (error : StorageError) (failed : (make call file disk).1 = .error error) :
    (make call file disk).2.1 = file ∧ (make call file disk).2.2.fileAt? path = disk.fileAt? path
  reopened : load disk path = (.ok { file with isOpen := true }, disk)

theorem Reached.kept {path : List String} {name : String} {file : FlatFile ν} {disk : Disk}
    (recording : Recording make) (last : path.getLast? = some name) (plain : name ≠ "..")
    (reached : Reached make path file disk) : file.path = path ∧ ∃ parent, Kept disk file parent name := by
  induction reached with
  | opened direct loaded => exact kept_of_load last plain direct loaded
  | @called file disk _ call ih =>
    obtain ⟨same, parent, kept⟩ := ih
    exact ⟨(recording.path call file disk).trans same, parent, (kept.call recording call).1⟩
  | elsewhere _ spares ih =>
    obtain ⟨same, parent, kept⟩ := ih
    exact ⟨same, parent, kept.spared (same ▸ spares)⟩

theorem Reached.faithful {path : List String} {name : String} {file : FlatFile ν} {disk : Disk}
    (recording : Recording make) (last : path.getLast? = some name) (plain : name ≠ "..")
    (reached : Reached make path file disk) : Faithful make path file disk := by
  obtain ⟨rfl, parent, kept⟩ := reached.kept recording last plain
  exact ⟨kept.mirrors, fun call => (kept.call recording call).2, kept.load⟩

end FlatFile

namespace Path

theorem split_of_not_mem {text : List Char} (plain : '/' ∉ text) : split text = [text] := by
  induction text with
  | nil => rfl
  | cons c rest ih =>
    rw [List.mem_cons, not_or] at plain
    simp [split, ih plain.2, Ne.symm plain.1]

theorem split_append (front : List Char) :
    ∃ before last, ∀ tail, '/' ∉ tail → split (front ++ tail) = before ++ [last ++ tail] := by
  induction front with
  | nil => exact ⟨[], [], fun _ plain => split_of_not_mem plain⟩
  | cons c rest ih =>
    obtain ⟨before, last, parts⟩ := ih
    cases before with
    | nil =>
      by_cases slash : c = '/'
      · exact ⟨[[]], last, fun tail plain => by rw [List.cons_append, split, parts tail plain]; simp [slash]⟩
      · exact ⟨[], c :: last, fun tail plain => by rw [List.cons_append, split, parts tail plain]; simp [slash]⟩
    | cons first others =>
      by_cases slash : c = '/'
      · refine ⟨[] :: first :: others, last, fun tail plain => ?_⟩
        rw [List.cons_append, split, parts tail plain]
        simp [slash]
      · refine ⟨(c :: first) :: others, last, fun tail plain => ?_⟩
        rw [List.cons_append, split, parts tail plain]
        simp [slash]

theorem exists_join_append (directory stem : String) :
    ∃ text : String, ∀ tail : String, '/' ∉ tail.toList → join directory (stem ++ tail) = text ++ tail := by
  by_cases absolute : stem.toList.head? = some '/'
  · refine ⟨stem, fun tail _ => if_pos ?_⟩
    rw [String.toList_append, List.head?_append, absolute, Option.some_or]
  · have relative (tail : String) (plain : '/' ∉ tail.toList) : (stem ++ tail).toList.head? ≠ some '/' := by
      rw [String.toList_append, List.head?_append]
      intro slash
      rcases Option.or_eq_some_iff.mp slash with first | ⟨-, first⟩
      · exact absolute first
      · exact plain (List.mem_of_head? first)
    by_cases closed : (directory = "" || directory.toList.getLast? = some '/') = true
    · refine ⟨directory ++ stem, fun tail plain => ?_⟩
      rw [join, if_neg (relative tail plain), if_pos closed, String.append_assoc]
    · refine ⟨directory ++ "/" ++ stem, fun tail plain => ?_⟩
      rw [join, if_neg (relative tail plain), if_neg closed, ← String.append_assoc]

theorem ofText_join (directory stem : String) :
    ∃ above base, ∀ tail : String, '/' ∉ tail.toList → 2 < tail.length →
      ofText (join directory (stem ++ tail)) = above ++ [base ++ tail] := by
  obtain ⟨text, joined⟩ := exists_join_append directory stem
  obtain ⟨before, last, parts⟩ := split_append text.toList
  refine ⟨(before.map String.ofList).filter fun component => component ≠ "" ∧ component ≠ ".", String.ofList last,
    fun tail plain long => ?_⟩
  have whole : String.ofList (last ++ tail.toList) = String.ofList last ++ tail := by simp
  have longer (short : String) (few : short.length ≤ 2) : String.ofList last ++ tail ≠ short := by
    intro same
    have lengths := congrArg String.length same
    rw [String.length_append] at lengths
    omega
  have stays : String.ofList last ++ tail ≠ "" ∧ String.ofList last ++ tail ≠ "." :=
    ⟨longer "" (by decide), longer "." (by decide)⟩
  have kept : [String.ofList last ++ tail].filter (fun component => component ≠ "" ∧ component ≠ ".") =
      [String.ofList last ++ tail] := List.filter_cons_of_pos (decide_eq_true stays)
  rw [ofText, joined tail plain, String.toList_append, parts tail.toList plain, List.map_append, List.filter_append,
    List.map_singleton, whole, kept]

theorem getLast?_join (directory stem : String) {tail : String} (plain : '/' ∉ tail.toList) (long : 2 < tail.length) :
    ∃ name, (ofText (join directory (stem ++ tail))).getLast? = some name ∧ name ≠ ".." := by
  obtain ⟨above, base, parts⟩ := ofText_join directory stem
  exact ⟨base ++ tail, by rw [parts tail plain long, List.getLast?_concat], append_ne_up base long⟩

end Path

namespace NameFile

inductive Call where
  | setName (id : PlayerId) (text : String) (override : Bool)
  | setNames (entries : List (PlayerId × String))
  | close
deriving DecidableEq, Repr

def make : FlatFile.Calls Call String
  | .setName id text override, file, disk => NameFile.setName file disk id text override
  | .setNames entries, file, disk => NameFile.setNames file disk entries
  | .close, file, disk => (.ok (), file.close, disk)

theorem recording_make : FlatFile.Recording make := by
  intro call file disk
  cases call with
  | setName id text override =>
    simp only [make, setName]
    cases PlayerName.ofText text with
    | error fault => exact .inl ⟨_, rfl⟩
    | ok name => exact .inr (.inl ⟨_, rfl⟩)
  | setNames entries =>
    simp only [make, setNames]
    cases PlayerName.acceptAll entries with
    | error fault => exact .inl ⟨_, rfl⟩
    | ok accepted => exact .inr (.inl ⟨_, rfl⟩)
  | close => exact .inr (.inr rfl)

end NameFile

namespace TimeFile

inductive Call where
  | credit (id : PlayerId) (delta : Int64)
  | creditAll (deltas : List (PlayerId × Int64))
  | close
deriving DecidableEq, Repr

def make : FlatFile.Calls Call Int64
  | .credit id delta, file, disk => TimeFile.credit file disk id delta
  | .creditAll deltas, file, disk => TimeFile.creditAll file disk deltas
  | .close, file, disk => (.ok (), file.close, disk)

theorem recording_make : FlatFile.Recording make := by
  intro call file disk
  cases call with
  | credit id delta =>
    unfold make credit
    dsimp only
    split
    · exact .inl ⟨_, rfl⟩
    · exact .inr (.inl ⟨_, rfl⟩)
  | creditAll deltas =>
    unfold make creditAll
    dsimp only
    split
    · exact .inl ⟨_, rfl⟩
    · exact .inr (.inl ⟨_, rfl⟩)
  | close => exact .inr (.inr rfl)

end TimeFile

/--
Where the way to a file is there or goes straight down, memory and disk never part: whatever calls are made and
whichever of their writes and renames fail, the file holds what memory holds, a refused call leaves both as they were,
and opening the file again gives the same.
-/
theorem files_mirror_memory (directory stem : String) :
    (∀ names disk, FlatFile.Reached NameFile.make (NameFile.path directory stem) names disk →
      FlatFile.Faithful NameFile.make (NameFile.path directory stem) names disk) ∧
    ∀ times disk, FlatFile.Reached TimeFile.make (TimeFile.path directory stem) times disk →
      FlatFile.Faithful TimeFile.make (TimeFile.path directory stem) times disk := by
  obtain ⟨name, last, plain⟩ := Path.getLast?_join directory stem
    (show '/' ∉ "names.json".toList by decide) (by decide)
  obtain ⟨name', last', plain'⟩ := Path.getLast?_join directory stem
    (show '/' ∉ "time.json".toList by decide) (by decide)
  exact ⟨fun names disk reached => reached.faithful NameFile.recording_make last plain,
    fun times disk reached => reached.faithful TimeFile.recording_make last' plain'⟩

theorem files_mirror_memory_past_cut_write :
    let start : Disk := { Disk.empty with faults := [.none, .none, .cutShort 9] }
    (∃ opened created, NameFile.load start "data" "" = (.ok opened, created) ∧
      let named := NameFile.make (.setName ⟨7⟩ "Ann" false) opened created
      let cut := NameFile.make (.setName ⟨8⟩ "Bob" false) named.2.1 named.2.2
      FlatFile.Faithful NameFile.make (NameFile.path "data" "") cut.2.1 cut.2.2 ∧
        cut.1 = .error .fileFailure ∧ NameFile.names cut.2.1 = .ok ["Ann"]) ∧
    ∃ opened created, TimeFile.load start "data" "" = (.ok opened, created) ∧
      let credited := TimeFile.make (.credit ⟨7⟩ 60) opened created
      let cut := TimeFile.make (.creditAll [(⟨7⟩, 1), (⟨8⟩, 5)]) credited.2.1 credited.2.2
      FlatFile.Faithful TimeFile.make (TimeFile.path "data" "") cut.2.1 cut.2.2 ∧
        cut.1 = .error .fileFailure ∧ TimeFile.seconds? cut.2.1 ⟨7⟩ = .ok (some 60) := by
  intro start
  have tree : start.IsTree := by
    intro place component stands
    simp [start, Disk.empty] at stands
  have direct (path : List String) (straight : ".." ∉ path)
      (fits : ∀ name ∈ path.getLast?, Path.isFileName name = true) : start.Direct path := .inr ⟨tree, straight, fits⟩
  have names : NameFile.path "data" "" = ["data", "names.json"] := by decide +kernel
  have times : TimeFile.path "data" "" = ["data", "time.json"] := by decide +kernel
  have named : NameFile.load start "data" "" =
      (.ok ⟨["data", "names.json"], ∅, true⟩, start.put ["data"] .directory) := by
    rw [NameFile.load, names]
    rfl
  have timed : TimeFile.load start "data" "" =
      (.ok ⟨["data", "time.json"], ∅, true⟩, start.put ["data"] .directory) := by
    rw [TimeFile.load, times]
    rfl
  refine ⟨⟨_, _, named, (files_mirror_memory "data" "").1 _ _ (.called (.called (.opened ?_ named) _) _), ?_⟩,
    _, _, timed, (files_mirror_memory "data" "").2 _ _ (.called (.called (.opened ?_ timed) _) _), ?_⟩
  · exact direct _ (by decide +kernel) (by decide +kernel)
  · decide +kernel
  · exact direct _ (by decide +kernel) (by decide +kernel)
  · decide +kernel

/-- Where the way to a file goes up again, creating what is missing of it brings to light a file that is not read. -/
theorem opening_overlooks_file :
    let held := FlatObject.toBytes (.ofList [("alice", (⟨1⟩ : PlayerId).toText)] compare)
    let start : Disk := ⟨.ofList [(["data"], .directory), (["data", "names.json"], .file held)] compare, []⟩
    ∃ opened created again, NameFile.load start "new/../data" "" = (.ok opened, created) ∧
      ¬ FlatFile.Mirrors created (NameFile.path "new/../data" "") opened.members ∧
      NameFile.holder? opened "alice" = .ok none ∧
      NameFile.load created "new/../data" "" = (.ok again, created) ∧
      NameFile.holder? again "alice" = .ok (some ⟨1⟩) := by
  intro held start
  have path : NameFile.path "new/../data" "" = ["new", "..", "data", "names.json"] := by decide +kernel
  let created := start.put ["new"] .directory
  have opened : NameFile.load start "new/../data" "" =
      (.ok ⟨["new", "..", "data", "names.json"], ∅, true⟩, created) := by
    rw [NameFile.load, path]
    rfl
  have stands : created.fileAt? ["new", "..", "data", "names.json"] = some (.file held) := by decide +kernel
  have legible : FlatFile.decode? held = some (.ofList [("alice", (⟨1⟩ : PlayerId).toText)] compare) :=
    FlatFile.decode?_toBytes _
  refine ⟨_, _, ⟨["new", "..", "data", "names.json"], .ofList [("alice", (⟨1⟩ : PlayerId).toText)] compare, true⟩,
    opened, ?_, by decide +kernel, ?_, by decide +kernel⟩
  · intro mirrors
    rw [path, FlatFile.Mirrors, stands] at mirrors
    have same := Option.some.inj (legible.symm.trans mirrors)
    have lists := congrArg Std.ExtTreeMap.toList same
    exact absurd lists (by decide +kernel)
  · have found : created.read ["new", "..", "data", "names.json"] = .content held := by decide +kernel
    rw [NameFile.load, path, FlatFile.load, found]
    dsimp only
    rw [legible]

end Playtime
