import Playtime.Proofs.Deployments.Opening
import Playtime.Proofs.Deployments.Tables

namespace Playtime

inductive Move where
  | load (server world : String)
  | deed (number : Nat) (deed : Deed)

/-- Something done under a stem, with what the clock shows then and what becomes of the attempts to write. -/
structure Event where
  stem : String
  clock : Int64
  faults : List Fault
  move : Move

namespace Event

/-- What an event makes of a site with the storages of its stem. -/
def act (configuration : Configuration) (event : Event) (site : Site) : Site :=
  let met : Site := { site with host := site.host.meeting event.clock event.faults }
  match event.move with
  | .load server world => (met.load { configuration with stem := event.stem, server, world }).2
  | .deed number deed => met.deed number deed

variable {configuration : Configuration} {site other : Site} {stem : String} {clock : Int64} {faults : List Fault}

theorem act_load (site : Site) (server world : String) :
    let opened := Backend.load (site.host.meeting clock faults) { configuration with stem, server, world }
    act configuration ⟨stem, clock, faults, .load server world⟩ site =
      ⟨opened.2, site.storages ++ (opened.1.toOption.map (Storages.mk · .empty)).toList⟩ := by
  unfold act Site.load
  dsimp only
  generalize Backend.load (site.host.meeting clock faults) { configuration with stem, server, world } = opened
  obtain ⟨_ | backend, host⟩ := opened
  · exact congrArg (Site.mk host) (List.append_nil _).symm
  · rfl

theorem act_deed_of_unknown {number : Nat} (unknown : site.storages[number]? = none) (deed : Deed) :
    act configuration ⟨stem, clock, faults, .deed number deed⟩ site =
      ⟨site.host.meeting clock faults, site.storages⟩ := by
  have met : (Site.mk (site.host.meeting clock faults) site.storages).storages[number]? = none := unknown
  exact Site.deed_of_unknown met deed

theorem act_deed_of_known {number : Nat} {storages : Storages} (known : site.storages[number]? = some storages)
    (deed : Deed) :
    let after := deed.act (storages.sessions, storages.backend, site.host.meeting clock faults)
    act configuration ⟨stem, clock, faults, .deed number deed⟩ site =
      ⟨after.2.2, site.storages.set number ⟨after.2.1, after.1⟩⟩ := by
  have met : (Site.mk (site.host.meeting clock faults) site.storages).storages[number]? = some storages := known
  exact Site.deed_of_known met deed

/-- All that an event can do: nothing, as nothing has been opened by that number, open something, or a deed. -/
theorem act_cases (configuration : Configuration) (event : Event) (site : Site) :
    let met := site.host.meeting event.clock event.faults
    event.act configuration site = ⟨met, site.storages⟩ ∨
      (∃ server world,
        let opened := Backend.load met { configuration with stem := event.stem, server, world }
        event.act configuration site =
          ⟨opened.2, site.storages ++ (opened.1.toOption.map (Storages.mk · .empty)).toList⟩) ∨
      ∃ number storages, ∃ deed : Deed,
        let after := deed.act (storages.sessions, storages.backend, met)
        site.storages[number]? = some storages ∧
          event.act configuration site = ⟨after.2.2, site.storages.set number ⟨after.2.1, after.1⟩⟩ := by
  obtain ⟨stem, clock, faults, move⟩ := event
  cases move with
  | load server world => exact .inr (.inl ⟨server, world, act_load site server world⟩)
  | deed number deed =>
    cases known : site.storages[number]? with
    | none => exact .inl (act_deed_of_unknown known deed)
    | some storages => exact .inr (.inr ⟨number, storages, deed, known, act_deed_of_known known deed⟩)

end Event

namespace Site

structure InFiles (directory stem : String) (site : Site) : Prop where
  filed (storages : Storages) (member : storages ∈ site.storages) : storages.backend.FiledAs directory stem
  there (opened : site.storages ≠ []) : ∃ parent, site.host.disk.Leads (Path.ofText directory) parent

end Site

namespace Event

variable {configuration : Configuration} {site other : Site} {event : Event}

theorem load_files (kind : configuration.kind = .file) (host : Host) (stem server world : String) :
    let opened := Backend.loadFiles host configuration.directory stem
    Backend.load host { configuration with stem, server, world } = (opened.1.mapError .storage, opened.2) := by
  unfold Backend.load
  dsimp only
  rw [kind]

theorem toOption_mapError {α β γ : Type} (f : α → β) (outcome : Except α γ) :
    (outcome.mapError f).toOption = outcome.toOption := by
  cases outcome <;> rfl

theorem eq_ok_of_toOption {α β : Type} {outcome : Except α β} {value : β} (found : outcome.toOption = some value) :
    outcome = .ok value := by
  cases outcome <;> cases found
  rfl

theorem disk_act (kind : configuration.kind = .file) (plain : IsPlainStem event.stem)
    (inFiles : site.InFiles configuration.directory event.stem) :
    let before := site.host.disk
    let after := (event.act configuration site).host.disk
    after.entries = before.entries ∨
      after.entries = (before.createDirectories (Path.ofText configuration.directory)).2.entries ∨
      (∃ parent, before.Leads (Path.ofText configuration.directory) parent) ∧
        Disk.Confined (filePaths configuration.directory event.stem) before after := by
  rcases act_cases configuration event site with idle | ⟨server, world, opened⟩ | ⟨number, storages, deed, known, done⟩
  · rw [idle]
    exact .inl rfl
  · rw [opened, load_files kind]
    have met : (site.host.meeting event.clock event.faults).disk.entries = site.host.disk.entries := rfl
    rcases Backend.disk_loadFiles plain configuration.directory (site.host.meeting event.clock event.faults) with
      same | created
    · exact .inl (by rw [same, met])
    · refine .inr (.inl ?_)
      rw [created]
      exact (Disk.createDirectories_of_entries met _).2
  · have member := List.mem_of_getElem? known
    rw [done]
    refine .inr (.inr ⟨inFiles.there (List.ne_nil_of_mem member), ?_⟩)
    exact (deed.act_keeps (Backend.keeps_filed configuration.directory event.stem site.host.disk) _
      ⟨inFiles.filed storages member, .of_entries rfl⟩).2

theorem leads_act (kind : configuration.kind = .file) (plain : IsPlainStem event.stem)
    (inFiles : site.InFiles configuration.directory event.stem) {parent : Place}
    (leads : site.host.disk.Leads (Path.ofText configuration.directory) parent) :
    (event.act configuration site).host.disk.Leads (Path.ofText configuration.directory) parent := by
  rcases disk_act kind plain inFiles with same | created | ⟨-, confined⟩
  · exact leads.of_sameDirectories (Disk.sameDirectories_of_entries same)
  · rw [leads.createDirectories] at created
    exact leads.of_sameDirectories (Disk.sameDirectories_of_entries created)
  · exact leads.of_sameDirectories confined.directories

theorem settled_act {name : String} (kind : configuration.kind = .file) (plain : IsPlainStem event.stem)
    (inFiles : site.InFiles configuration.directory event.stem)
    (settled : FlatFile.Settled String site.host.disk (Path.ofText configuration.directory) name) :
    FlatFile.Settled String (event.act configuration site).host.disk (Path.ofText configuration.directory) name := by
  rcases disk_act kind plain inFiles with same | created | ⟨⟨parent, leads⟩, -⟩
  · exact settled.of_entries same
  · exact (FlatFile.settled_createDirectories _ _ name).of_entries created
  · exact FlatFile.settled_of_leads (leads_act kind plain inFiles leads) name

theorem outlook_act {stem : String} (kind : configuration.kind = .file) (plain : IsPlainStem event.stem)
    (differs : event.stem ≠ stem)
    (inFiles : site.InFiles configuration.directory event.stem) :
    (event.act configuration site).host.disk.outlook (Path.ofText configuration.directory) (fileNames stem) =
      site.host.disk.outlook (Path.ofText configuration.directory) (fileNames stem) := by
  rcases disk_act kind plain inFiles with same | created | ⟨⟨parent, leads⟩, confined⟩
  · exact Disk.outlook_of_entries same _ _
  · rw [Disk.outlook_of_entries created, Disk.outlook_createDirectories]
  · apply Disk.Beside.outlook
    refine ⟨leads, leads_act kind plain inFiles leads, fun name member => confined.elsewhere _ ?_⟩
    intro path inside reached
    rw [filePaths_eq plain] at inside
    obtain ⟨name', own, rfl⟩ := List.mem_map.mp inside
    rw [leads.locate_file plain own] at reached
    split at reached
    · simp only [Walk.reached.injEq, List.append_cancel_left_eq, List.cons.injEq, and_true] at reached
      exact fileNames_disjoint differs own (reached ▸ member)
    · cases reached

theorem inFiles_act (kind : configuration.kind = .file) (plain : IsPlainStem event.stem)
    (inFiles : site.InFiles configuration.directory event.stem) :
    (event.act configuration site).InFiles configuration.directory event.stem := by
  have still (storages : Storages) (member : storages ∈ site.storages) :
      ∃ parent, (event.act configuration site).host.disk.Leads (Path.ofText configuration.directory) parent := by
    obtain ⟨parent, leads⟩ := inFiles.there (List.ne_nil_of_mem member)
    exact ⟨parent, leads_act kind plain inFiles leads⟩
  suffices both : ∀ storages ∈ (event.act configuration site).storages,
      storages.backend.FiledAs configuration.directory event.stem ∧
        ∃ parent, (event.act configuration site).host.disk.Leads (Path.ofText configuration.directory) parent by
    refine ⟨fun storages member => (both storages member).1, fun opened => ?_⟩
    obtain ⟨storages, member⟩ := List.exists_mem_of_ne_nil _ opened
    exact (both storages member).2
  intro storages member
  rcases act_cases configuration event site with idle | ⟨server, world, opened⟩ | ⟨number, before, deed, known, done⟩
  · rw [idle] at member
    exact ⟨inFiles.filed storages member, still storages member⟩
  · rw [opened, load_files kind] at member still ⊢
    rcases List.mem_append.mp member with inside | new
    · exact ⟨inFiles.filed storages inside, still storages inside⟩
    · rw [toOption_mapError, Option.mem_toList] at new
      obtain ⟨backend, opened, rfl⟩ := Option.map_eq_some_iff.mp new
      exact Backend.filed_loadFiles plain (eq_ok_of_toOption opened)
  · refine ⟨?_, still before (List.mem_of_getElem? known)⟩
    have filed := inFiles.filed before (List.mem_of_getElem? known)
    rw [done] at member
    rcases List.mem_or_eq_of_mem_set member with inside | rfl
    · exact inFiles.filed storages inside
    · exact (deed.act_keeps (Backend.keeps_filed configuration.directory event.stem site.host.disk) _
        ⟨filed, .of_entries rfl⟩).1

end Event

structure Site.FilesAlike (directory stem : String) (site other : Site) : Prop where
  storages : other.storages = site.storages
  inFiles : site.InFiles directory stem
  inFilesToo : other.InFiles directory stem
  settled : FlatFile.Settled String site.host.disk (Path.ofText directory) (stem ++ "names.json")
  settledToo : FlatFile.Settled String other.host.disk (Path.ofText directory) (stem ++ "names.json")
  outlook : other.host.disk.outlook (Path.ofText directory) (fileNames stem) =
    site.host.disk.outlook (Path.ofText directory) (fileNames stem)

namespace Event

variable {configuration : Configuration} {site other : Site} {event : Event}

theorem act_filesAlike (kind : configuration.kind = .file) (plain : IsPlainStem event.stem)
    (alike : site.FilesAlike configuration.directory event.stem other) :
    (event.act configuration site).FilesAlike configuration.directory event.stem (event.act configuration other) := by
  obtain ⟨same, inFiles, inFilesToo, settled, settledToo, outlook⟩ := alike
  suffices both : (event.act configuration other).storages = (event.act configuration site).storages ∧
      (event.act configuration other).host.disk.outlook (Path.ofText configuration.directory) (fileNames event.stem) =
        (event.act configuration site).host.disk.outlook (Path.ofText configuration.directory) (fileNames event.stem) by
    exact ⟨both.1, inFiles_act kind plain inFiles, inFiles_act kind plain inFilesToo,
      settled_act kind plain inFiles settled, settled_act kind plain inFilesToo settledToo, both.2⟩
  obtain ⟨stem, clock, faults, move⟩ := event
  have met (site : Site) : (site.host.meeting clock faults).disk.entries = site.host.disk.entries := rfl
  have seen : (other.host.meeting clock faults).disk.outlook (Path.ofText configuration.directory) (fileNames stem) =
      (site.host.meeting clock faults).disk.outlook (Path.ofText configuration.directory) (fileNames stem) := by
    rw [Disk.outlook_of_entries (met other), Disk.outlook_of_entries (met site), outlook]
  cases move with
  | load server world =>
    have opened :=
      Backend.loadFiles_alike plain (settled.of_entries (met site)) (settledToo.of_entries (met other)) seen
    rw [act_load, act_load, load_files kind, load_files kind]
    dsimp only
    rw [opened, same, Backend.outlook_loadFiles plain, Backend.outlook_loadFiles plain, seen]
    exact ⟨rfl, rfl⟩
  | deed number deed =>
    cases known : site.storages[number]? with
    | none =>
      rw [act_deed_of_unknown known, act_deed_of_unknown (same ▸ known)]
      exact ⟨same, seen⟩
    | some storages =>
      have member := List.mem_of_getElem? known
      obtain ⟨parent, leads⟩ := inFiles.there (List.ne_nil_of_mem member)
      obtain ⟨parent', leads'⟩ := inFilesToo.there (List.ne_nil_of_mem (same ▸ member))
      have there := leads.of_sameDirectories (Disk.sameDirectories_of_entries (met site))
      have thereToo := leads'.of_sameDirectories (Disk.sameDirectories_of_entries (met other))
      have even : Backend.Even configuration.directory stem (storages.backend, site.host.meeting clock faults)
          (storages.backend, other.host.meeting clock faults) :=
        ⟨rfl, inFiles.filed storages member, rfl, parent, there.beside thereToo seen⟩
      obtain ⟨sessions, after⟩ := deed.act_parallel (Backend.parallel_filed configuration.directory plain)
        storages.sessions even
      obtain ⟨place, beside⟩ := after.level.beside
      rw [act_deed_of_known known, act_deed_of_known (same ▸ known)]
      dsimp only
      rw [sessions, after.backend, same]
      exact ⟨rfl, beside.outlook⟩

end Event

def Site.InTables (stem : String) (site : Site) : Prop := ∀ storages ∈ site.storages, storages.backend.TabledAs stem

namespace Event

open Sql (SameTables opens)

variable {configuration : Configuration} {site other : Site} {event : Event} {path : List String}

theorem load_tables (kind : configuration.kind = .sql) (host : Host) (stem server world : String) :
    let opened := Sql.Store.load host configuration.database stem server world
    let result := Backend.load host { configuration with stem, server, world }
    if configuration.dialect = .sqlite then
      result.1.toOption = opened.1.toOption.map Backend.relational ∧ result.2 = opened.2
    else result.1.toOption = none ∧ result.2 = host := by
  intro opened result
  unfold result Backend.load
  dsimp only
  rw [kind]
  dsimp only
  split
  · refine ⟨?_, rfl⟩
    unfold Backend.loadRelational
    dsimp only
    rw [toOption_mapError]
    show (opened.1.map _).toOption = _
    cases opened.1 <;> rfl
  · exact ⟨rfl, rfl⟩

theorem opens_meeting (host : Host) (clock : Int64) (faults : List Fault) (path : List String) :
    opens (host.meeting clock faults) (.file path) = opens host (.file path) := by
  have entries : (host.meeting clock faults).disk.entries = host.disk.entries := rfl
  exact Sql.opens_of_same entries rfl path

theorem inTables_act (kind : configuration.kind = .sql) (plain : IsPlainStem event.stem)
    (inTables : site.InTables event.stem) : (event.act configuration site).InTables event.stem := by
  intro storages member
  rcases act_cases configuration event site with idle | ⟨server, world, opened⟩ | ⟨number, before, deed, known, done⟩
  · rw [idle] at member
    exact inTables storages member
  · rw [opened] at member
    rcases List.mem_append.mp member with inside | new
    · exact inTables storages inside
    · rw [Option.mem_toList] at new
      obtain ⟨backend, opened, rfl⟩ := Option.map_eq_some_iff.mp new
      have loaded := load_tables kind (site.host.meeting event.clock event.faults) event.stem server world
      split at loaded
      · obtain ⟨store, loaded, rfl⟩ := Option.map_eq_some_iff.mp (loaded.1.symm.trans opened)
        have named := (Sql.load_ok (eq_ok_of_toOption loaded)).2
        exact ⟨store, rfl, by rw [Sql.stem?_of_plain plain named, Sql.foldCase_of_plain plain]⟩
      · cases loaded.1.symm.trans opened
  · have tabled := inTables before (List.mem_of_getElem? known)
    rw [done] at member
    rcases List.mem_or_eq_of_mem_set member with inside | rfl
    · exact inTables storages inside
    · exact (deed.act_keeps (Backend.keeps_tabled event.stem (site.host.meeting event.clock event.faults)) _
        ⟨tabled, .refl event.stem _⟩).1

theorem within_act (kind : configuration.kind = .sql) (source : configuration.database = .file path)
    (plain : IsPlainStem event.stem) (inTables : site.InTables event.stem) :
    opens (event.act configuration site).host (.file path) = opens site.host (.file path) ∧
      ∀ stem, event.stem ≠ stem → SameTables stem site.host (event.act configuration site).host := by
  rcases act_cases configuration event site with idle | ⟨server, world, opened⟩ | ⟨number, before, deed, known, done⟩
  · rw [idle, opens_meeting]
    exact ⟨rfl, fun _ _ _ => rfl⟩
  · rw [opened]
    have loaded := load_tables kind (site.host.meeting event.clock event.faults) event.stem server world
    split at loaded
    · rw [loaded.2, source, Sql.opens_storeLoad, opens_meeting]
      exact ⟨rfl, fun _ differs => Sql.sameTables_storeLoad plain differs _ _ _ _⟩
    · rw [loaded.2, opens_meeting]
      exact ⟨rfl, fun _ _ _ => rfl⟩
  · have tabled := inTables before (List.mem_of_getElem? known)
    have within := (deed.act_keeps (Backend.keeps_tabled event.stem (site.host.meeting event.clock event.faults))
      (before.sessions, before.backend, site.host.meeting event.clock event.faults) ⟨tabled, .refl event.stem _⟩).2
    rw [done]
    refine ⟨?_, within.others⟩
    dsimp only
    rw [Sql.opens_of_same (congrArg Disk.entries within.disk) within.databases, opens_meeting]

end Event

structure Site.TablesAlike (path : List String) (stem : String) (site other : Site) : Prop where
  storages : other.storages = site.storages
  inTables : site.InTables stem
  tables : Sql.SameTables stem site.host other.host
  opens : Sql.opens other.host (.file path) = Sql.opens site.host (.file path)

namespace Event

open Sql (SameTables opens)

variable {configuration : Configuration} {site other : Site} {event : Event} {path : List String}

theorem act_tablesAlike (kind : configuration.kind = .sql) (source : configuration.database = .file path)
    (plain : IsPlainStem event.stem) (alike : site.TablesAlike path event.stem other) :
    (event.act configuration site).TablesAlike path event.stem (event.act configuration other) := by
  obtain ⟨same, inTables, tables, opened⟩ := alike
  have inTablesToo : other.InTables event.stem := fun storages member => inTables storages (same ▸ member)
  suffices both : (event.act configuration other).storages = (event.act configuration site).storages ∧
      SameTables event.stem (event.act configuration site).host (event.act configuration other).host by
    refine ⟨both.1, inTables_act kind plain inTables, both.2, ?_⟩
    rw [(within_act kind source plain inTables).1, (within_act kind source plain inTablesToo).1, opened]
  obtain ⟨stem, clock, faults, move⟩ := event
  cases move with
  | load server world =>
    have first := load_tables kind (site.host.meeting clock faults) stem server world
    have second := load_tables kind (other.host.meeting clock faults) stem server world
    rw [act_load, act_load]
    dsimp only
    split at first
    · next spoken =>
      rw [if_pos spoken] at second
      have met : opens (other.host.meeting clock faults) configuration.database =
          opens (site.host.meeting clock faults) configuration.database := by
        rw [source, opens_meeting, opens_meeting, opened]
      have still : SameTables stem (site.host.meeting clock faults) (other.host.meeting clock faults) := tables
      obtain ⟨outcome, after⟩ := Sql.storeLoad_alike plain still met server world
      rw [first.1, first.2, second.1, second.2, outcome, same]
      exact ⟨rfl, after⟩
    · next unspoken =>
      rw [if_neg unspoken] at second
      rw [first.1, first.2, second.1, second.2, same]
      exact ⟨rfl, tables⟩
  | deed number deed =>
    cases known : site.storages[number]? with
    | none =>
      rw [act_deed_of_unknown known, act_deed_of_unknown (same ▸ known)]
      exact ⟨same, tables⟩
    | some storages =>
      have equal : Backend.Equal stem (storages.backend, site.host.meeting clock faults)
          (storages.backend, other.host.meeting clock faults) :=
        ⟨rfl, inTables storages (List.mem_of_getElem? known), rfl, tables⟩
      obtain ⟨sessions, after⟩ := deed.act_parallel (Backend.parallel_tabled stem) storages.sessions equal
      rw [act_deed_of_known known, act_deed_of_known (same ▸ known)]
      dsimp only
      rw [sessions, after.backend, same]
      exact ⟨rfl, after.tables⟩

end Event

end Playtime
