import Playtime.Proofs.Deployments.Events

namespace Playtime

structure Storages.ReadsAlike (storages : Storages) (host other : Host) : Prop where
  holder (name : String) : storages.backend.holder? other name = storages.backend.holder? host name
  nameOf (id : PlayerId) : storages.backend.nameOf? other id = storages.backend.nameOf? host id
  names : storages.backend.names other = storages.backend.names host
  stored (id : PlayerId) : Ledger.seconds? (storages.backend, other) id = Ledger.seconds? (storages.backend, host) id
  allStored : Ledger.totals (storages.backend, other) = Ledger.totals (storages.backend, host)
  seconds (id : PlayerId) (now : Int64) :
    storages.sessions.seconds (storages.backend, other) id now =
      storages.sessions.seconds (storages.backend, host) id now
  totals (now : Int64) :
    storages.sessions.totals (storages.backend, other) now = storages.sessions.totals (storages.backend, host) now
  grandTotal (store : Sql.Store) (timed : storages.backend.timeStore? = some store) :
    store.grandTotal other = store.grandTotal host
  statistic (store : Sql.Store) (timed : storages.backend.timeStore? = some store) (name : String) :
    store.latestStatistic? other name = store.latestStatistic? host name

namespace Storages

variable {storages : Storages} {directory stem : String} {host other : Host}

theorem readsAlike_of_filed (filed : storages.backend.FiledAs directory stem) (host other : Host) :
    storages.ReadsAlike host other := by
  obtain ⟨backend, sessions⟩ := storages
  obtain ⟨names, times, rfl, -⟩ := filed
  constructor <;> first | intros; rfl | nofun

theorem readsAlike_of_tabled (tabled : storages.backend.TabledAs stem) (same : Sql.SameTables stem host other) :
    storages.ReadsAlike host other := by
  obtain ⟨backend, sessions⟩ := storages
  obtain ⟨store, rfl, mine⟩ := tabled
  have read {α : Type} (f : Sql.Tables → Except StorageError α) : store.read other f = store.read host f := by
    rw [Sql.Store.read, Sql.Store.read, Sql.Store.tables?_eq, Sql.Store.tables?_eq, Sql.Store.place, mine,
      same store.database]
  have stored (id : PlayerId) :
      Ledger.seconds? (Backend.relational store, other) id = Ledger.seconds? (Backend.relational store, host) id :=
    read _
  have allStored : Ledger.totals (Backend.relational store, other) = Ledger.totals (Backend.relational store, host) :=
    read _
  constructor
  · exact fun name => read _
  · exact fun id => read _
  · exact read _
  · exact stored
  · exact allStored
  · intro id now
    rw [Sessions.seconds, Sessions.seconds, stored]
  · intro now
    rw [Sessions.totals, Sessions.totals, allStored]
  · rintro _ ⟨⟩
    exact read _
  · rintro _ ⟨⟩ name
    exact read _

end Storages

/-- Deployments on one host, each with the storages that have been opened under its stem. -/
structure Deployments where
  host : Host
  storages : String → List Storages

namespace Deployments

variable {configuration : Configuration} {all alone : Deployments} {stem : String} {path : List String}

def untouched (host : Host) : Deployments := ⟨host, fun _ => []⟩

def site (all : Deployments) (stem : String) : Site := ⟨all.host, all.storages stem⟩

def step (configuration : Configuration) (all : Deployments) (event : Event) : Deployments :=
  let after := event.act configuration (all.site event.stem)
  ⟨after.host, fun stem => if stem = event.stem then after.storages else all.storages stem⟩

def after (configuration : Configuration) (all : Deployments) (events : List Event) : Deployments :=
  events.foldl (step configuration) all

theorem site_step_own (configuration : Configuration) (all : Deployments) (event : Event) :
    (all.step configuration event).site event.stem = event.act configuration (all.site event.stem) := by
  simp [step, site]

theorem site_step_other {event : Event} (differs : stem ≠ event.stem) :
    (all.step configuration event).site stem =
      ⟨(event.act configuration (all.site event.stem)).host, all.storages stem⟩ := by
  simp [step, site, differs]

/-- Two runs stay related when the one goes through all events and the other through those of a stem only. -/
theorem related_after {related : Deployments → Deployments → Prop}
    (own : ∀ {all alone} event, event.stem = stem → related all alone →
      related (all.step configuration event) (alone.step configuration event))
    (foreign : ∀ {all alone} event, IsPlainStem event.stem → event.stem ≠ stem → related all alone →
      related (all.step configuration event) alone)
    {events : List Event} (plain : ∀ event ∈ events, IsPlainStem event.stem) (start : related all alone) :
    related (all.after configuration events)
      (alone.after configuration (events.filter fun event => event.stem = stem)) := by
  induction events generalizing all alone with
  | nil => exact start
  | cons event events ih =>
    have later : ∀ event ∈ events, IsPlainStem event.stem := fun event inside =>
      plain event (List.mem_cons_of_mem _ inside)
    by_cases mine : event.stem = stem
    · rw [List.filter_cons_of_pos (by simpa using mine)]
      exact ih later (own event mine start)
    · rw [List.filter_cons_of_neg (by simpa using mine)]
      exact ih later (foreign event (plain event List.mem_cons_self) mine start)

def InFiles (directory : String) (all : Deployments) : Prop := ∀ stem, (all.site stem).InFiles directory stem

theorem inFiles_step (kind : configuration.kind = .file) (inFiles : all.InFiles configuration.directory) (event : Event)
    (plain : IsPlainStem event.stem) : (all.step configuration event).InFiles configuration.directory := by
  intro stem
  by_cases mine : stem = event.stem
  · subst mine
    rw [site_step_own]
    exact Event.inFiles_act kind plain (inFiles event.stem)
  · rw [site_step_other mine]
    refine ⟨(inFiles stem).filed, fun opened => ?_⟩
    obtain ⟨parent, leads⟩ := (inFiles stem).there opened
    exact ⟨parent, Event.leads_act kind plain (inFiles event.stem) leads⟩

theorem inFiles_after (kind : configuration.kind = .file) (host : Host) {events : List Event}
    (plain : ∀ event ∈ events, IsPlainStem event.stem) :
    ((untouched host).after configuration events).InFiles configuration.directory := by
  have start : (untouched host).InFiles configuration.directory := fun stem => ⟨nofun, fun opened => absurd rfl opened⟩
  unfold after
  generalize untouched host = all at start
  induction events generalizing all with
  | nil => exact start
  | cons event events ih =>
    exact ih (fun event inside => plain event (List.mem_cons_of_mem _ inside)) _
      (inFiles_step kind start event (plain event List.mem_cons_self))

structure FilesAlike (directory stem : String) (all alone : Deployments) : Prop where
  inFiles : all.InFiles directory
  alike : (all.site stem).FilesAlike directory stem (alone.site stem)

theorem filesAlike_after (kind : configuration.kind = .file) (plain : IsPlainStem stem) {events : List Event}
    (plainly : ∀ event ∈ events, IsPlainStem event.stem) (start : FilesAlike configuration.directory stem all alone) :
    FilesAlike configuration.directory stem (all.after configuration events)
      (alone.after configuration (events.filter fun event => event.stem = stem)) := by
  apply related_after _ _ plainly start
  · rintro all alone event rfl ⟨inFiles, alike⟩
    refine ⟨inFiles_step kind inFiles event plain, ?_⟩
    rw [site_step_own, site_step_own]
    exact Event.act_filesAlike kind plain alike
  · rintro all alone event other differs ⟨inFiles, alike⟩
    have after := inFiles_step kind inFiles event other
    refine ⟨after, alike.storages.trans ?_, after stem, alike.inFilesToo, ?_, alike.settledToo, ?_⟩
    · rw [site_step_other (Ne.symm differs)]
      rfl
    · rw [site_step_other (Ne.symm differs)]
      exact Event.settled_act kind other (inFiles event.stem) alike.settled
    · rw [site_step_other (Ne.symm differs)]
      exact alike.outlook.trans (Event.outlook_act kind other differs (inFiles event.stem)).symm

def InTables (all : Deployments) : Prop := ∀ stem, (all.site stem).InTables stem

theorem inTables_step (kind : configuration.kind = .sql) (inTables : all.InTables) (event : Event)
    (plain : IsPlainStem event.stem) : (all.step configuration event).InTables := by
  intro stem
  by_cases mine : stem = event.stem
  · subst mine
    rw [site_step_own]
    exact Event.inTables_act kind plain (inTables event.stem)
  · rw [site_step_other mine]
    exact inTables stem

theorem inTables_after (kind : configuration.kind = .sql) (host : Host) {events : List Event}
    (plain : ∀ event ∈ events, IsPlainStem event.stem) : ((untouched host).after configuration events).InTables := by
  have start : (untouched host).InTables := nofun
  unfold after
  generalize untouched host = all at start
  induction events generalizing all with
  | nil => exact start
  | cons event events ih =>
    exact ih (fun event inside => plain event (List.mem_cons_of_mem _ inside)) _
      (inTables_step kind start event (plain event List.mem_cons_self))

structure TablesAlike (path : List String) (stem : String) (all alone : Deployments) : Prop where
  inTables : all.InTables
  alike : (all.site stem).TablesAlike path stem (alone.site stem)

theorem tablesAlike_after (kind : configuration.kind = .sql) (source : configuration.database = .file path)
    (plain : IsPlainStem stem) {events : List Event} (plainly : ∀ event ∈ events, IsPlainStem event.stem)
    (start : TablesAlike path stem all alone) :
    TablesAlike path stem (all.after configuration events)
      (alone.after configuration (events.filter fun event => event.stem = stem)) := by
  apply related_after _ _ plainly start
  · rintro all alone event rfl ⟨inTables, alike⟩
    refine ⟨inTables_step kind inTables event plain, ?_⟩
    rw [site_step_own, site_step_own]
    exact Event.act_tablesAlike kind source plain alike
  · rintro all alone event other differs ⟨inTables, alike⟩
    have after := inTables_step kind inTables event other
    obtain ⟨opened, within⟩ := Event.within_act kind source other (inTables event.stem)
    refine ⟨after, alike.storages.trans ?_, after stem, ?_, ?_⟩
    · rw [site_step_other (Ne.symm differs)]
      rfl
    · rw [site_step_other (Ne.symm differs)]
      intro number
      exact (alike.tables number).trans (within stem differs number).symm
    · rw [site_step_other (Ne.symm differs)]
      exact alike.opens.trans opened.symm

/-- Two runs have opened the same under a stem, and everything that can be read of it reads the same. -/
structure SameAnswers (stem : String) (all alone : Deployments) : Prop where
  storages : alone.storages stem = all.storages stem
  reads (storages : Storages) (member : storages ∈ all.storages stem) : storages.ReadsAlike all.host alone.host

def Keeps (configuration : Configuration) (stem : String) (all : Deployments) : Prop :=
  ∀ storages ∈ all.storages stem,
    match configuration.kind with
    | .file => storages.backend.FiledAs configuration.directory stem
    | .sql => storages.backend.TabledAs stem

/-- Neither a file nor a table of one stem is one of the other, of whatever kind they are. -/
structure Apart (directory stem other : String) : Prop where
  files {path path' : List String} (member : path ∈ filePaths directory stem)
    (memberToo : path' ∈ filePaths directory other) {disk : Disk} {place : Place}
    (reached : disk.locate path = .reached place) : disk.locate path' ≠ .reached place
  tables (noun noun' : Sql.Noun) : Sql.foldCase (noun.tableName stem) ≠ Sql.foldCase (noun'.tableName other)

theorem apart_of_plain {other : String} (plain : IsPlainStem stem) (plainToo : IsPlainStem other)
    (differs : stem ≠ other) (directory : String) : Apart directory stem other :=
  ⟨filePaths_apart plain plainToo differs, Sql.tableNames_apart plain plainToo differs⟩

theorem settled_of_way (plain : IsPlainStem stem) (inFiles : all.InFiles configuration.directory)
    (way : all.storages stem ≠ [] ∨ all.host.disk.Direct (NameFile.path configuration.directory stem)) :
    FlatFile.Settled String all.host.disk (Path.ofText configuration.directory) (stem ++ "names.json") := by
  rcases way with opened | direct
  · obtain ⟨parent, leads⟩ := (inFiles stem).there opened
    exact FlatFile.settled_of_leads leads _
  · have member := (mem_fileNames stem).1
    rw [NameFile.path_of_plain plain] at direct
    exact FlatFile.settled_of_direct direct (fileNames_clean plain member).2 (fileNames_ne_up member)

theorem sameAnswers_of_files (kind : configuration.kind = .file) (plain : IsPlainStem stem) {events : List Event}
    (plainly : ∀ event ∈ events, IsPlainStem event.stem) (inFiles : all.InFiles configuration.directory)
    (way : all.storages stem ≠ [] ∨ all.host.disk.Direct (NameFile.path configuration.directory stem)) :
    let ended := all.after configuration events
    SameAnswers stem ended (all.after configuration (events.filter fun event => event.stem = stem)) ∧
      ended.Keeps configuration stem := by
  intro ended
  have settled := settled_of_way plain inFiles way
  have start : FilesAlike configuration.directory stem all all :=
    ⟨inFiles, rfl, inFiles stem, inFiles stem, settled, settled, rfl⟩
  have after := filesAlike_after kind plain plainly start
  have filed := (after.inFiles stem).filed
  refine ⟨⟨after.alike.storages, fun storages member => ?_⟩, fun storages member => ?_⟩
  · exact Storages.readsAlike_of_filed (filed storages member) _ _
  · rw [kind]
    exact filed storages member

theorem sameAnswers_of_tables (kind : configuration.kind = .sql) (source : configuration.database = .file path)
    (plain : IsPlainStem stem) {events : List Event} (plainly : ∀ event ∈ events, IsPlainStem event.stem)
    (inTables : all.InTables) :
    let ended := all.after configuration events
    SameAnswers stem ended (all.after configuration (events.filter fun event => event.stem = stem)) ∧
      ended.Keeps configuration stem := by
  intro ended
  have start : TablesAlike path stem all all := ⟨inTables, rfl, inTables stem, fun _ => rfl, rfl⟩
  have after := tablesAlike_after kind source plain plainly start
  have tabled := after.inTables stem
  refine ⟨⟨after.alike.storages, fun storages member => ?_⟩, fun storages member => ?_⟩
  · exact Storages.readsAlike_of_tabled (tabled storages member) after.alike.tables
  · rw [kind]
    exact tabled storages member

/-- Whatever is opened, done, closed and opened again under other stems, all that is read under one reads as if nothing
of it had happened. In a directory, this is from where something has been opened under that stem, or from where the way
to its files is there or goes straight down. -/
theorem stems_isolate (configuration : Configuration) (host : Host) (earlier later : List Event) {stem : String}
    (plain : IsPlainStem stem) (plainly : ∀ event ∈ earlier ++ later, IsPlainStem event.stem)
    (source : configuration.kind = .sql → ∃ path, configuration.database = .file path)
    (way : configuration.kind = .file →
      let start := (untouched host).after configuration earlier
      start.storages stem ≠ [] ∨ start.host.disk.Direct (NameFile.path configuration.directory stem)) :
    let start := (untouched host).after configuration earlier
    let ended := start.after configuration later
    let alone := start.after configuration (later.filter fun event => event.stem = stem)
    (SameAnswers stem ended alone ∧ ended.Keeps configuration stem) ∧
      ∀ other, IsPlainStem other → stem ≠ other → Apart configuration.directory stem other := by
  intro start ended alone
  have before : ∀ event ∈ earlier, IsPlainStem event.stem := fun event inside =>
    plainly event (List.mem_append_left later inside)
  have after : ∀ event ∈ later, IsPlainStem event.stem := fun event inside =>
    plainly event (List.mem_append_right earlier inside)
  refine ⟨?_, fun other plainToo differs => apart_of_plain plain plainToo differs configuration.directory⟩
  cases kind : configuration.kind with
  | file => exact sameAnswers_of_files kind plain after (inFiles_after kind host before) (way kind)
  | sql =>
    obtain ⟨path, source⟩ := source kind
    exact sameAnswers_of_tables kind source plain after (inTables_after kind host before)

/-- Also past a write that was cut short, under a stem that begins like the other. -/
theorem stems_isolate_past_cut_write :
    let configuration (kind : StorageKind) : Configuration :=
      ⟨kind, "data", "", .sqlite, .file ["online.db"], "default", "world"⟩
    let earlier : List Event := [⟨"p_", 0, [], .load "lobby" "world"⟩, ⟨"p_time_", 0, [], .load "lobby" "world"⟩]
    let later : List Event := [⟨"p_time_", 1, [], .deed 0 (.name (.set ⟨7⟩ "Ann" false))⟩,
      ⟨"p_", 2, [], .deed 0 (.name (.set ⟨8⟩ "Ann" false))⟩,
      ⟨"p_time_", 3, [.cutShort 3], .deed 0 (.use (.credit ⟨8⟩ 5))⟩, ⟨"p_", 4, [], .deed 0 (.use (.credit ⟨8⟩ 60))⟩,
      ⟨"p_time_", 5, [], .deed 0 .closeNames⟩, ⟨"p_", 6, [], .load "lobby" "world"⟩]
    let start (kind : StorageKind) := (untouched ⟨Disk.empty, [], 0⟩).after (configuration kind) earlier
    let ended (kind : StorageKind) := (start kind).after (configuration kind) later
    let holders (all : Deployments) := (all.storages "p_").map fun storages => storages.backend.holder? all.host "Ann"
    holders (ended .file) = [.ok (some ⟨8⟩), .ok (some ⟨8⟩)] ∧ holders (ended .sql) = [.ok (some ⟨8⟩), .ok (some ⟨8⟩)] ∧
      Apart "data" "p_" "p_time_" := by
  intro configuration earlier later start ended holders
  let alone (kind : StorageKind) :=
    (start kind).after (configuration kind) (later.filter fun event => event.stem = "p_")
  have plain : IsPlainStem "p_" := by decide
  have plainly : ∀ event ∈ earlier ++ later, IsPlainStem event.stem := by decide
  have opened : (start .file).storages "p_" ≠ [] := by decide +kernel
  have ⟨⟨files, _⟩, apart⟩ := stems_isolate (configuration .file) ⟨Disk.empty, [], 0⟩ earlier later plain plainly nofun
    fun _ => .inl opened
  have ⟨⟨tables, _⟩, _⟩ := stems_isolate (configuration .sql) ⟨Disk.empty, [], 0⟩ earlier later plain plainly
    (fun _ => ⟨_, rfl⟩) nofun
  have told {all alone : Deployments} (same : SameAnswers "p_" all alone) : holders all = holders alone := by
    unfold holders
    rw [same.storages]
    exact List.map_congr_left fun storages member => ((same.reads storages member).holder "Ann").symm
  have read : holders (alone .file) = [.ok (some ⟨8⟩), .ok (some ⟨8⟩)] ∧
      holders (alone .sql) = [.ok (some ⟨8⟩), .ok (some ⟨8⟩)] := by decide +kernel
  exact ⟨(told files).trans read.1, (told tables).trans read.2, apart "p_time_" (by decide) (by decide)⟩

/-- Where the way to its file goes up again, a name is found only because something has been opened under another stem
before. -/
theorem opening_brings_names_to_light_elsewhere :
    let held := FlatObject.toBytes (.ofList [("alice", (⟨1⟩ : PlayerId).toText)] compare)
    let host : Host := ⟨⟨.ofList [(["data"], .directory), (["data", "q_names.json"], .file held)] compare, []⟩, [], 0⟩
    let configuration : Configuration := ⟨.file, "new/../data", "", .sqlite, .memory, "default", "world"⟩
    let events : List Event := [⟨"p_", 0, [], .load "default" "world"⟩, ⟨"q_", 0, [], .load "default" "world"⟩]
    let ended := (untouched host).after configuration events
    let alone := (untouched host).after configuration (events.filter fun event => event.stem = "q_")
    let holders (all : Deployments) := (all.storages "q_").map fun storages => storages.backend.holder? all.host "alice"
    (∀ event ∈ events, IsPlainStem event.stem) ∧ (ended.storages "p_").length = 1 ∧
      holders ended = [.ok (some ⟨1⟩)] ∧ holders alone = [.ok none] := by
  decide +kernel

end Deployments

end Playtime
