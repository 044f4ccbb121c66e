import Playtime.Proofs.Deployments.Files

namespace Playtime

namespace FlatFile

open FlatObject (Members Scalar)

variable {ν : Type} [Scalar ν] {above : List String} {stem name : String} {disk other : Disk}

theorem load_beside {parent : Place} (drafted : Drafted stem name)
    (beside : Disk.Beside above (fileNames stem) disk other parent) :
    (load (ν := ν) other (above ++ [name])).1 = (load (ν := ν) disk (above ++ [name])).1 := by
  have read : other.read (above ++ [name]) = disk.read (above ++ [name]) := by
    unfold Disk.read
    rw [beside.leads.locate_file drafted.plain drafted.file, beside.leadsToo.locate_file drafted.plain drafted.file]
    by_cases fits : Path.isFileName name = true
    · rw [if_pos fits]
      dsimp only
      rw [beside.isDirectory drafted.file, beside.entries name drafted.file]
    · rw [if_neg fits]
  unfold load
  rw [read, List.dropLast_concat, beside.leads.createDirectories, beside.leadsToo.createDirectories]
  split
  · split <;> rfl
  · rfl
  · rfl

theorem disk_load_cases (disk : Disk) (above : List String) (name : String) :
    (load (ν := ν) disk (above ++ [name])).2 = disk ∨
      (load (ν := ν) disk (above ++ [name])).2 = (disk.createDirectories above).2 := by
  simpa using disk_load_of_path (ν := ν) disk (above ++ [name])

theorem outlook_load (disk : Disk) (above : List String) (name : String) (names : List String) :
    (load (ν := ν) disk (above ++ [name])).2.outlook above names = disk.outlook above names := by
  rcases disk_load_cases (ν := ν) disk above name with same | created
  · rw [same]
  · rw [created, Disk.outlook_createDirectories]

theorem path_load {path : List String} {file : FlatFile ν} (loaded : (load disk path).1 = .ok file) :
    file.path = path := by
  unfold load at loaded
  split at loaded
  · split at loaded <;> cases loaded
    rfl
  · split at loaded <;> cases loaded
    rfl
  · cases loaded

theorem leads_load {file : FlatFile ν} (plain : name ≠ "..")
    (loaded : (load disk (above ++ [name])).1 = .ok file) :
    ∃ parent, (load (ν := ν) disk (above ++ [name])).2.Leads above parent := by
  unfold load at *
  split
  · next bytes read =>
    obtain ⟨place, entry, ⟨reached, -⟩, -⟩ := Disk.read_content read
    obtain ⟨parent, houses⟩ := Disk.Houses.of_locate List.getLast?_concat plain reached
    have leads : disk.Leads above parent := by
      refine ⟨?_, by simpa using houses.way⟩
      simpa using Disk.isPath_dropLast houses.clean
    split <;> exact ⟨parent, leads⟩
  · next absent =>
    rw [absent] at loaded
    rw [List.dropLast_concat] at *
    dsimp only at loaded
    have leads : (disk.createDirectories above).1 = true → _ := Disk.leads_createDirectories
    generalize disk.createDirectories above = result at *
    obtain ⟨created, after⟩ := result
    cases created with
    | true => exact leads rfl
    | false => cases loaded
  · next unreadable =>
    rw [unreadable] at loaded
    cases loaded

/-- It makes no difference to opening a file whether what is missing of the way to it has been created before. -/
def Settled (ν : Type) [Scalar ν] (disk : Disk) (above : List String) (name : String) : Prop :=
  (load (ν := ν) (disk.createDirectories above).2 (above ++ [name])).1 = (load (ν := ν) disk (above ++ [name])).1

theorem Settled.of_entries (settled : Settled ν disk above name) (same : other.entries = disk.entries) :
    Settled ν other above name := by
  have load_of_entries {disk other : Disk} (same : other.entries = disk.entries) (path : List String) :
      (load (ν := ν) other path).1 = (load (ν := ν) disk path).1 := by
    have created := (Disk.createDirectories_of_entries same path.dropLast).1
    unfold load
    rw [Disk.read_of_entries same]
    generalize disk.createDirectories path.dropLast = result at *
    generalize other.createDirectories path.dropLast = result' at *
    obtain ⟨done', disk⟩ := result
    obtain ⟨done, other⟩ := result'
    obtain rfl : done = done' := created
    split
    · split <;> rfl
    · cases done <;> rfl
    · rfl
  rw [Settled, load_of_entries same, load_of_entries (Disk.createDirectories_of_entries same above).2]
  exact settled

theorem settled_of_leads {parent : Place} (leads : disk.Leads above parent) (name : String) :
    Settled ν disk above name := by
  rw [Settled, leads.createDirectories]

theorem settled_createDirectories (disk : Disk) (above : List String) (name : String) :
    Settled ν (disk.createDirectories above).2 above name := by
  rw [Settled, Disk.createDirectories_again]

theorem locate_of_uncreated (failed : (disk.createDirectories above).1 = false) (plain : name ≠ "..") :
    (disk.createDirectories above).2.locate (above ++ [name]) = .blocked := by
  by_cases clean : Path.isPath (above ++ [name]) = true
  · have above' : Path.isPath above = true := by simpa using Disk.isPath_dropLast clean
    rw [Disk.locate_of_plain _ _ name clean (by simp) plain, List.dropLast_concat]
    unfold Disk.createDirectories at *
    rw [if_pos above'] at *
    rcases disk.walk_createBelow [] above with ⟨done, -⟩ | ⟨-, blocked⟩
    · cases done.symm.trans failed
    · rw [blocked]
  · rw [Disk.locate, if_pos (by simpa using clean)]

theorem load_of_uncreated (failed : (disk.createDirectories above).1 = false) (plain : name ≠ "..") :
    (load (ν := ν) (disk.createDirectories above).2 (above ++ [name])).1 = .error .fileFailure := by
  rw [load, Disk.read, locate_of_uncreated failed plain]

theorem createDirectories_of_known (known : disk.locate (above ++ [name]) ≠ .missing)
    (clean : Path.isPath [name] = true) (plain : name ≠ "..") : (disk.createDirectories above).2 = disk := by
  unfold Disk.createDirectories
  split
  · next above' =>
    have whole : Path.isPath (above ++ [name]) = true := by simp_all [Path.isPath]
    rw [Disk.locate_of_plain _ _ name whole (by simp) plain, List.dropLast_concat] at known
    cases way : disk.walk [] above with
    | reached parent => rw [Disk.createBelow_of_walk way]
    | blocked => rw [Disk.createBelow_of_blocked way]
    | missing => simp [way] at known
  · rfl

theorem settled_of_direct (direct : disk.Direct (above ++ [name])) (clean : Path.isPath [name] = true)
    (plain : name ≠ "..") : Settled ν disk above name := by
  by_cases missing : disk.locate (above ++ [name]) = .missing
  · have read : disk.read (above ++ [name]) = .absent := by rw [Disk.read, missing]
    rw [Settled]
    cases created : (disk.createDirectories above).1 with
    | false =>
      rw [load_of_uncreated created plain, load, read, List.dropLast_concat]
      rw [← Prod.mk.eta (p := disk.createDirectories above), created]
    | true =>
      have loaded : load (ν := ν) disk (above ++ [name]) =
          (.ok ⟨above ++ [name], ∅, true⟩, (disk.createDirectories above).2) := by
        rw [load, read, List.dropLast_concat]
        rw [← Prod.mk.eta (p := disk.createDirectories above), created]
      obtain ⟨-, parent, kept⟩ := kept_of_load (by simp) plain direct loaded
      rw [loaded, kept.load]
  · rw [Settled, createDirectories_of_known missing clean plain]

theorem load_alike (drafted : Drafted stem name) (settled : Settled ν disk above name)
    (settledToo : Settled ν other above name)
    (same : other.outlook above (fileNames stem) = disk.outlook above (fileNames stem)) :
    (load (ν := ν) other (above ++ [name])).1 = (load (ν := ν) disk (above ++ [name])).1 := by
  have plain := fileNames_ne_up drafted.file
  have seen {disk : Disk} (created : (disk.createDirectories above).1 = true) :
      ∃ parent, (disk.createDirectories above).2.Leads above parent ∧
        (disk.outlook above (fileNames stem)).isSome = true := by
    obtain ⟨parent, leads⟩ := Disk.leads_createDirectories created
    exact ⟨parent, leads, by rw [← disk.outlook_createDirectories, leads.outlook]; rfl⟩
  rw [← settled, ← settledToo]
  cases created : (disk.createDirectories above).1 with
  | true =>
    obtain ⟨parent, leads, known⟩ := seen created
    cases created' : (other.createDirectories above).1 with
    | true =>
      obtain ⟨parent', leads', -⟩ := seen created'
      rw [← disk.outlook_createDirectories, ← other.outlook_createDirectories] at same
      exact load_beside drafted (leads.beside leads' same)
    | false =>
      rw [← same, Disk.outlook_eq_none created'] at known
      cases known
  | false =>
    cases created' : (other.createDirectories above).1 with
    | true =>
      obtain ⟨_, -, known⟩ := seen created'
      rw [same, Disk.outlook_eq_none created] at known
      cases known
    | false => rw [load_of_uncreated created plain, load_of_uncreated created' plain]

end FlatFile

namespace Backend

variable {directory stem : String} {host other : Host}

theorem loadFiles_cases (plain : IsPlainStem stem) (directory : String) (host : Host) :
    let first := FlatFile.load (ν := String) host.disk (Path.ofText directory ++ [stem ++ "names.json"])
    let second := FlatFile.load (ν := Int64) first.2 (Path.ofText directory ++ [stem ++ "time.json"])
    (∃ error, first.1 = .error error ∧
        loadFiles host directory stem = (.error error, { host with disk := first.2 })) ∨
      ∃ names, first.1 = .ok names ∧
        loadFiles host directory stem = (second.1.map (files names), { host with disk := second.2 }) := by
  unfold loadFiles NameFile.load TimeFile.load
  rw [NameFile.path_of_plain plain, TimeFile.path_of_plain plain]
  generalize FlatFile.load (ν := String) host.disk (Path.ofText directory ++ [stem ++ "names.json"]) = result
  obtain ⟨error | names, disk⟩ := result
  · exact .inl ⟨error, rfl, rfl⟩
  · refine .inr ⟨names, rfl, ?_⟩
    dsimp only
    generalize FlatFile.load (ν := Int64) disk (Path.ofText directory ++ [stem ++ "time.json"]) = result
    obtain ⟨error | times, after⟩ := result <;> rfl

theorem disk_loadFiles (plain : IsPlainStem stem) (directory : String) (host : Host) :
    (loadFiles host directory stem).2.disk = host.disk ∨
      (loadFiles host directory stem).2.disk = (host.disk.createDirectories (Path.ofText directory)).2 := by
  have first := FlatFile.disk_load_cases (ν := String) host.disk (Path.ofText directory) (stem ++ "names.json")
  rcases loadFiles_cases plain directory host with ⟨error, -, loaded⟩ | ⟨names, -, loaded⟩
  · rw [loaded]
    exact first
  · rw [loaded]
    dsimp only
    rcases FlatFile.disk_load_cases (ν := Int64) _ (Path.ofText directory) (stem ++ "time.json") with same | created
    · rw [same]
      exact first
    · apply Or.inr
      rw [created]
      rcases first with same | created
      · rw [same]
      · rw [created, Disk.createDirectories_again]

theorem outlook_loadFiles (plain : IsPlainStem stem) (directory : String) (host : Host) (names : List String) :
    (loadFiles host directory stem).2.disk.outlook (Path.ofText directory) names =
      host.disk.outlook (Path.ofText directory) names := by
  rcases disk_loadFiles plain directory host with same | created
  · rw [same]
  · rw [created, Disk.outlook_createDirectories]

theorem filed_loadFiles (plain : IsPlainStem stem) {backend : Backend}
    (loaded : (loadFiles host directory stem).1 = .ok backend) :
    backend.FiledAs directory stem ∧
      ∃ parent, (loadFiles host directory stem).2.disk.Leads (Path.ofText directory) parent := by
  rcases loadFiles_cases plain directory host with ⟨error, -, failed⟩ | ⟨names, opened, made⟩
  · rw [failed] at loaded
    cases loaded
  · rw [made] at loaded ⊢
    cases openedToo : (FlatFile.load (ν := Int64) (FlatFile.load (ν := String) host.disk
        (Path.ofText directory ++ [stem ++ "names.json"])).2 (Path.ofText directory ++ [stem ++ "time.json"])).1 with
    | error error =>
      rw [openedToo] at loaded
      cases loaded
    | ok times =>
      rw [openedToo] at loaded
      cases loaded
      refine ⟨⟨names, times, rfl, ?_, ?_⟩, FlatFile.leads_load (fileNames_ne_up (mem_fileNames stem).2) openedToo⟩
      · exact (FlatFile.path_load opened).trans (NameFile.path_of_plain plain directory).symm
      · exact (FlatFile.path_load openedToo).trans (TimeFile.path_of_plain plain directory).symm

theorem loadFiles_alike (plain : IsPlainStem stem)
    (settled : FlatFile.Settled String host.disk (Path.ofText directory) (stem ++ "names.json"))
    (settledToo : FlatFile.Settled String other.disk (Path.ofText directory) (stem ++ "names.json"))
    (same : other.disk.outlook (Path.ofText directory) (fileNames stem) =
      host.disk.outlook (Path.ofText directory) (fileNames stem)) :
    (loadFiles other directory stem).1 = (loadFiles host directory stem).1 := by
  obtain ⟨names, times⟩ := FlatFile.drafted_of_plain plain
  have first := FlatFile.load_alike names settled settledToo same
  rcases loadFiles_cases plain directory host with ⟨error, failed, made⟩ | ⟨file, opened, made⟩
  · rcases loadFiles_cases plain directory other with ⟨error', failed', made'⟩ | ⟨_, opened', -⟩
    · cases failed.symm.trans (first.symm.trans failed')
      rw [made, made']
    · cases failed.symm.trans (first.symm.trans opened')
  · rcases loadFiles_cases plain directory other with ⟨_, failed', -⟩ | ⟨file', opened', made'⟩
    · cases opened.symm.trans (first.symm.trans failed')
    · cases opened.symm.trans (first.symm.trans opened')
      obtain ⟨parent, leads⟩ := FlatFile.leads_load (fileNames_ne_up names.file) opened
      obtain ⟨parent', leads'⟩ := FlatFile.leads_load (fileNames_ne_up names.file) opened'
      rw [← FlatFile.outlook_load (ν := String) host.disk _ (stem ++ "names.json"),
        ← FlatFile.outlook_load (ν := String) other.disk _ (stem ++ "names.json")] at same
      rw [made, made', FlatFile.load_beside times (leads.beside leads' same)]

end Backend

end Playtime
