import Playtime.Backend
import Playtime.Proofs.FlatFile.Mirroring

namespace Playtime

namespace FlatFile

open FlatObject (Members Scalar)

section Persisting

variable {ν : Type} [Scalar ν] {disk : Disk} {path : List String} {parent : Place} {name : String}

theorem persist_elsewhere (houses : disk.Houses path parent name) (members : Members ν) (place : Place)
    (file : place ≠ parent ++ [name]) (draft : place ≠ parent ++ [name ++ ".tmp"]) :
    (persist disk path members).2.entries[place]? = disk.entries[place]? := by
  have drafted : (disk.write (draftPath path) (FlatObject.toBytes members)).2.entries[place]? =
      disk.entries[place]? := by
    rcases disk.write_cases (draftPath path) (FlatObject.toBytes members) with ⟨-, same⟩ | ⟨_, _, takes, changed, -⟩
    · rw [same]
    · rw [changed, houses.draft_place takes.1, Std.ExtTreeMap.getElem?_insert, if_neg (by simpa using Ne.symm draft)]
  have housed := houses.of_sameDirectories (write_draft houses (FlatObject.toBytes members)).1
  unfold persist
  generalize disk.write (draftPath path) (FlatObject.toBytes members) = result at *
  obtain ⟨done, after⟩ := result
  cases done with
  | false => exact drafted
  | true =>
    rw [← drafted]
    rcases after.rename_cases (draftPath path) path with ⟨-, same⟩ | ⟨_, _, _, source, target, -, -, changed⟩
    · exact congrArg (fun entries : Std.ExtTreeMap Place Entry compare => entries[place]?) same
    · cases target.1.symm.trans housed.locate
      dsimp only
      rw [changed, housed.draft_place source.1, Std.ExtTreeMap.getElem?_insert, if_neg (by simpa using Ne.symm file),
        Std.ExtTreeMap.getElem?_erase, if_neg (by simpa using Ne.symm draft)]

variable {κ : Type} {file : FlatFile ν} {make : Calls κ ν}

theorem Recording.spares (recording : Recording make) (call : κ) (houses : disk.Houses file.path parent name)
    {other : List String} {beside : String} (housed : disk.Houses other parent beside) (apart : beside ≠ name)
    (undrafted : beside ≠ name ++ ".tmp") : disk.Spares (make call file disk).2.2 other := by
  have unchanged : disk.Spares disk other := ⟨rfl, rfl⟩
  have written (change : Members ν → Except StorageError (Members ν)) :
      disk.Spares (file.write disk change).2.2 other := by
    unfold FlatFile.write
    split
    · split
      · exact unchanged
      · next members _ =>
        have stays := houses.of_sameDirectories (persist_cases houses members).1
        have still := housed.of_sameDirectories (persist_cases houses members).1
        have same := persist_elsewhere houses members (parent ++ [beside]) (by simpa using apart)
          (by simpa using undrafted)
        generalize persist disk file.path members = result at *
        obtain ⟨done, after⟩ := result
        have spares : disk.Spares after other := ⟨by rw [still.locate, housed.locate], by
          rw [still.fileAt?, housed.fileAt?]
          exact same⟩
        cases done <;> exact spares
    · exact unchanged
  rcases recording call file disk with ⟨outcome, made⟩ | ⟨change, made⟩ | made
  · rw [made]
    exact unchanged
  · rw [made]
    exact written change
  · rw [made]
    exact unchanged

end Persisting

theorem disk_load {ν : Type} [Scalar ν] {disk : Disk} {path : List String} {parent : Place} {name : String}
    (houses : disk.Houses path parent name) : (load (ν := ν) disk path).2 = disk := by
  unfold load
  split
  · split <;> rfl
  · rw [houses.createDirectories]
  · rfl

theorem isOpen_load {ν : Type} [Scalar ν] {disk after : Disk} {path : List String} {file : FlatFile ν}
    (loaded : load disk path = (.ok file, after)) : file.isOpen = true := by
  unfold load at loaded
  split at loaded
  · split at loaded <;> cases loaded
    rfl
  · split at loaded <;> cases loaded
    rfl
  · cases loaded

end FlatFile

structure Deposited (disk : Disk) (directory stem : String) (names : NameFile) (times : TimeFile) : Prop where
  ways : FlatFile.path names = NameFile.path directory stem ∧ FlatFile.path times = TimeFile.path directory stem
  files : ∃ parent base, FlatFile.Kept disk names parent (base ++ "names.json") ∧
    FlatFile.Kept disk times parent (base ++ "time.json")

namespace Deposited

variable {disk other : Disk} {directory stem : String} {names : NameFile} {times : TimeFile}

theorem apart (base : String) : base ++ "time.json" ≠ base ++ "names.json" ∧
    base ++ "time.json" ≠ base ++ "names.json" ++ ".tmp" ∧ base ++ "names.json" ≠ base ++ "time.json" ++ ".tmp" := by
  have split (first second : String) (differs : first ≠ second) : base ++ first ≠ base ++ second := by
    intro same
    have texts := congrArg String.toList same
    rw [String.toList_append, String.toList_append] at texts
    exact differs (String.toList_injective (List.append_cancel_left texts))
  rw [String.append_assoc, String.append_assoc]
  exact ⟨split _ _ (by decide), split _ _ (by decide), split _ _ (by decide)⟩

theorem act (deposited : Deposited disk directory stem names times) (call : NameFile.Call) :
    Deposited (NameFile.make call names disk).2.2 directory stem (NameFile.make call names disk).2.1 times := by
  obtain ⟨ways, parent, base, kept, kept'⟩ := deposited
  have spares := NameFile.recording_make.spares call kept.houses kept'.houses (apart base).1 (apart base).2.1
  refine ⟨⟨(NameFile.recording_make.path call names disk).trans ways.1, ways.2⟩, parent, base, ?_, kept'.spared spares⟩
  exact (kept.call NameFile.recording_make call).1

theorem credit (deposited : Deposited disk directory stem names times) (call : TimeFile.Call) :
    Deposited (TimeFile.make call times disk).2.2 directory stem names (TimeFile.make call times disk).2.1 := by
  obtain ⟨ways, parent, base, kept, kept'⟩ := deposited
  have spares := TimeFile.recording_make.spares call kept'.houses kept.houses (Ne.symm (apart base).1) (apart base).2.2
  refine ⟨⟨ways.1, (TimeFile.recording_make.path call times disk).trans ways.2⟩, parent, base, kept.spared spares, ?_⟩
  exact (kept'.call TimeFile.recording_make call).1

theorem spared (deposited : Deposited disk directory stem names times)
    (names' : disk.Spares other (NameFile.path directory stem))
    (times' : disk.Spares other (TimeFile.path directory stem)) :
    Deposited other directory stem names times := by
  obtain ⟨ways, parent, base, kept, kept'⟩ := deposited
  exact ⟨ways, parent, base, kept.spared (ways.1 ▸ names'), kept'.spared (ways.2 ▸ times')⟩

theorem load (deposited : Deposited disk directory stem names times) :
    NameFile.load disk directory stem = (.ok { names with isOpen := true }, disk) ∧
      TimeFile.load disk directory stem = (.ok { times with isOpen := true }, disk) := by
  obtain ⟨ways, parent, base, kept, kept'⟩ := deposited
  unfold NameFile.load TimeFile.load
  rw [← ways.1, ← ways.2]
  exact ⟨kept.load, kept'.load⟩

end Deposited

theorem deposited_of_loadFiles {host after : Host} {directory stem : String} {backend : Backend}
    (direct : host.disk.Direct (NameFile.path directory stem))
    (loaded : Backend.loadFiles host directory stem = (.ok backend, after)) :
    ∃ names times, backend = .files names times ∧ Deposited after.disk directory stem names times ∧
      names.isOpen = true ∧ times.isOpen = true := by
  obtain ⟨above, base, paths⟩ := Path.ofText_join directory stem
  have way : NameFile.path directory stem = above ++ [base ++ "names.json"] :=
    paths "names.json" (by decide) (by decide)
  have way' : TimeFile.path directory stem = above ++ [base ++ "time.json"] :=
    paths "time.json" (by decide) (by decide)
  unfold Backend.loadFiles at loaded
  split at loaded
  · cases loaded
  · next names disk opened =>
    have last : (NameFile.path directory stem).getLast? = some (base ++ "names.json") := by
      rw [way, List.getLast?_concat]
    obtain ⟨path, parent, kept⟩ := FlatFile.kept_of_load last (Path.append_ne_up base (by decide)) direct opened
    have houses : disk.Houses (TimeFile.path directory stem) parent (base ++ "time.json") := by
      obtain ⟨clean, -, -, fits, reached⟩ := kept.houses
      rw [path, way] at clean reached
      rw [List.dropLast_concat] at reached
      refine ⟨?_, by rw [way', List.getLast?_concat], Path.append_ne_up base (by decide), ?_, ?_⟩
      · simpa [way', Path.isPath] using clean
      · simp only [Path.isFileName, String.utf8ByteSize_append, decide_eq_true_eq] at fits ⊢
        have shorter : "time.json".utf8ByteSize ≤ "names.json".utf8ByteSize := by decide
        omega
      · rwa [way', List.dropLast_concat]
    split at loaded
    · cases loaded
    · next times disk' opened' =>
      cases loaded
      have same := FlatFile.disk_load (ν := Int64) houses
      change (TimeFile.load disk directory stem).2 = disk at same
      rw [opened'] at same
      subst same
      obtain ⟨path', parent', kept'⟩ := FlatFile.kept_of_load houses.last houses.plain
        (.inl (by simp [houses.locate])) opened'
      have reached := kept'.houses.way
      rw [path'] at reached
      cases houses.way.symm.trans reached
      exact ⟨names, times, rfl, ⟨⟨path, path'⟩, parent, base, kept, kept'⟩, FlatFile.isOpen_load opened,
        FlatFile.isOpen_load opened'⟩

end Playtime
