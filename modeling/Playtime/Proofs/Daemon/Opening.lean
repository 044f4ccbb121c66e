import Playtime.Proofs.Deployments.Opening
import Playtime.Proofs.FlatFile.Neighbours
import Playtime.Proofs.Ledger.Deployments
import Playtime.Settings

namespace Playtime

namespace FlatFile

open FlatObject (Members Scalar)

/-- A file is absent, blank, or an object with values of a type. -/
def Legible (ν : Type) [Scalar ν] (disk : Disk) (path : List String) : Prop :=
  disk.read path = .absent ∨ ∃ bytes, disk.read path = .content bytes ∧
    (bytes.all isBlankByte = true ∨ ∃ members : Members ν, FlatObject.ofBytes? bytes = some members)

end FlatFile

namespace Disk

variable {disk : Disk} {above : List String}

theorem createDirectories_of_locate {path : List String} {place : Place} {name : String}
    (last : path.getLast? = some name) (plain : name ≠ "..") (reached : disk.locate path = .reached place) :
    disk.createDirectories path.dropLast = (true, disk) := by
  obtain ⟨parent, houses⟩ := Houses.of_locate last plain reached
  exact houses.createDirectories

end Disk

namespace FlatFile

open FlatObject (Members Scalar)

variable {ν : Type} [Scalar ν] {disk : Disk} {path : List String} {name : String}

theorem legible_of_content {bytes : List UInt8} (read : disk.read path = .content bytes) :
    Legible ν disk path ↔ ∃ members : Members ν, decode? bytes = some members := by
  unfold decode?
  split
  · next blank => exact ⟨fun _ => ⟨∅, rfl⟩, fun _ => .inr ⟨bytes, read, .inl blank⟩⟩
  · next solid =>
    refine ⟨?_, fun known => .inr ⟨bytes, read, .inr known⟩⟩
    rintro (absent | ⟨other, read', legible⟩)
    · cases read.symm.trans absent
    · cases read.symm.trans read'
      exact legible.resolve_left solid

theorem exists_load_iff (last : path.getLast? = some name) (plain : name ≠ "..") :
    (∃ file : FlatFile ν, (load disk path).1 = .ok file) ↔
      (disk.createDirectories path.dropLast).1 = true ∧ Legible ν disk path := by
  unfold load
  cases read : disk.read path with
  | content bytes =>
    obtain ⟨place, entry, ⟨reached, -⟩, -⟩ := Disk.read_content read
    rw [Disk.createDirectories_of_locate last plain reached, legible_of_content read]
    cases decoded : decode? (ν := ν) bytes <;> simp [decoded]
  | absent =>
    generalize disk.createDirectories path.dropLast = result
    obtain ⟨_ | _, _⟩ := result <;> simp [Legible, read]
  | unreadable => simp [Legible, read]

theorem disk_load_of_legible (last : path.getLast? = some name) (plain : name ≠ "..") (legible : Legible ν disk path) :
    (load (ν := ν) disk path).2 = (disk.createDirectories path.dropLast).2 := by
  rcases legible with absent | ⟨bytes, read, -⟩
  · unfold load
    rw [absent]
    generalize disk.createDirectories path.dropLast = result
    obtain ⟨_ | _, _⟩ := result <;> rfl
  · obtain ⟨place, entry, ⟨reached, -⟩, -⟩ := Disk.read_content read
    rw [Disk.createDirectories_of_locate last plain reached]
    unfold load
    rw [read]
    dsimp only
    split <;> rfl

end FlatFile

namespace Backend

variable {directory stem : String}

theorem exists_loadFiles_iff_of_loads (host : Host) (directory stem : String) :
    (∃ backend, (loadFiles host directory stem).1 = .ok backend) ↔
      (∃ names, (NameFile.load host.disk directory stem).1 = .ok names) ∧
        ∃ times, (TimeFile.load (NameFile.load host.disk directory stem).2 directory stem).1 = .ok times := by
  unfold loadFiles
  generalize NameFile.load host.disk directory stem = result
  obtain ⟨error | names, disk⟩ := result
  · simp
  · dsimp only
    generalize TimeFile.load disk directory stem = result
    obtain ⟨error | times, after⟩ := result <;> simp

theorem exists_loadFiles_iff (host : Host) (directory stem : String) :
    let created := host.disk.createDirectories (NameFile.path directory stem).dropLast
    (∃ backend, (loadFiles host directory stem).1 = .ok backend) ↔
      created.1 = true ∧ FlatFile.Legible String host.disk (NameFile.path directory stem) ∧
        FlatFile.Legible Int64 created.2 (TimeFile.path directory stem) := by
  intro created
  obtain ⟨above, base, paths⟩ := Path.ofText_join directory stem
  have way : NameFile.path directory stem = above ++ [base ++ "names.json"] :=
    paths "names.json" (by decide) (by decide)
  have way' : TimeFile.path directory stem = above ++ [base ++ "time.json"] :=
    paths "time.json" (by decide) (by decide)
  have last : (NameFile.path directory stem).getLast? = some (base ++ "names.json") := by rw [way, List.getLast?_concat]
  have last' : (TimeFile.path directory stem).getLast? = some (base ++ "time.json") := by
    rw [way', List.getLast?_concat]
  have plain : base ++ "names.json" ≠ ".." := Path.append_ne_up base (by decide)
  have same : (TimeFile.path directory stem).dropLast = (NameFile.path directory stem).dropLast := by
    rw [way, way', List.dropLast_concat, List.dropLast_concat]
  rw [exists_loadFiles_iff_of_loads, NameFile.load, FlatFile.exists_load_iff last plain, and_assoc]
  refine and_congr_right fun made => and_congr_right fun legible => ?_
  rw [TimeFile.load, FlatFile.disk_load_of_legible last plain legible,
    FlatFile.exists_load_iff last' (Path.append_ne_up base (by decide)), same, Disk.createDirectories_again]
  exact and_iff_right made

end Backend

/--
Outside some places directories may have been added, and nothing else is changed. Nowhere has a file with content been
changed.
-/
structure Disk.Grows (aside : Place → Prop) (disk other : Disk) : Prop where
  elsewhere (place : Place) (apart : ¬ aside place) : other.entries[place]? = disk.entries[place]? ∨
    disk.entries[place]? = none ∧ other.entries[place]? = some .directory
  content (place : Place) (byte : UInt8) (bytes : List UInt8)
    (stands : disk.entries[place]? = some (.file (byte :: bytes))) :
    other.entries[place]? = some (.file (byte :: bytes))

theorem Disk.Extends.grows {disk other : Disk} (extended : disk.Extends other) (aside : Place → Prop) :
    disk.Grows aside other := by
  refine ⟨fun place _ => extended place, fun place byte bytes stands => ?_⟩
  rcases extended place with same | ⟨free, -⟩
  · rw [same, stands]
  · cases free.symm.trans stands

namespace Sql

end Sql

end Playtime
