import Playtime.Proofs.FlatFile.Neighbours
import Playtime.Proofs.Site.Deeds

namespace Playtime

namespace Sql

namespace Tables

structure SameNames (tables changed : Tables) : Prop where
  keyOfName? (name : String) : changed.keyOfName? name = tables.keyOfName? name
  nameOfKey? (key : Key) : changed.nameOfKey? key = tables.nameOfKey? key
  names : changed.names = tables.names

variable {tables changed third : Tables}

theorem SameNames.of_players (same : changed.players = tables.players) : tables.SameNames changed := by
  constructor
  · intro name
    rw [Tables.keyOfName?, Tables.keyOfName?, same]
  · intro key
    rw [Tables.nameOfKey?, Tables.nameOfKey?, same]
  · rw [Tables.names, Tables.names, same]

theorem SameNames.trans (first : tables.SameNames changed) (second : changed.SameNames third) :
    tables.SameNames third :=
  ⟨fun name => (second.keyOfName? name).trans (first.keyOfName? name),
    fun key => (second.nameOfKey? key).trans (first.nameOfKey? key), second.names.trans first.names⟩

theorem sameNames_ensurePlayer (tables : Tables) (key : Key) : tables.SameNames (tables.ensurePlayer key) := by
  unfold ensurePlayer
  split
  · exact .of_players rfl
  · constructor
    · intro name
      simp [Tables.keyOfName?, List.find?_append]
    · intro other
      rw [Tables.nameOfKey?, Tables.nameOfKey?, List.find?_append]
      cases tables.players.find? fun row => row.key = other with
      | some row => rfl
      | none =>
        rw [Option.none_or, List.find?_singleton]
        split <;> rfl
    · simp [Tables.names, List.filterMap_append]

theorem sameNames_record (tables : Tables) (world : Nat) (left : Timestamp) (intervals : List (PlayerId × Timestamp)) :
    tables.SameNames (Store.record tables world left intervals) := by
  induction intervals generalizing tables with
  | nil => exact .of_players rfl
  | cons entry rest ih =>
    have inserted : (tables.ensurePlayer entry.1.toBytes).SameNames
        ((tables.ensurePlayer entry.1.toBytes).insertInterval entry.1.toBytes world entry.2 left) := by
      apply SameNames.of_players
      unfold insertInterval
      split <;> rfl
    exact ((tables.sameNames_ensurePlayer entry.1.toBytes).trans inserted).trans (ih _)

theorem intervals_register (tables : Tables) (server world : String) :
    (tables.register server world).1.intervals = tables.intervals := by
  unfold register ensureWorld ensureServer
  dsimp only
  split <;> split <;> rfl

end Tables

theorem Store.sameNames_creditAll {store : Store} {host : Host} {tables : Tables} (deltas : List (PlayerId × Int64))
    (held : store.tables? host = some tables) :
    ∃ changed, store.tables? (store.creditAll host deltas).2 = some changed ∧ tables.SameNames changed := by
  cases outcome : (store.creditAll host deltas).1 with
  | error error =>
    rw [store.creditAll_refused host deltas error outcome]
    exact ⟨tables, held, .of_players rfl⟩
  | ok =>
    obtain ⟨before, changed, known, step, after⟩ := store.write_accepted host _ outcome
    cases known.symm.trans held
    refine ⟨changed, after, ?_⟩
    split at step
    · cases step
    · cases step
      exact .of_players rfl
    · cases step
    · cases step
      exact tables.sameNames_record _ _ _

end Sql

namespace Backend

open Sql (Tables Store StatisticRow tablesAt?)

def IsOpen : Backend → Prop
  | files names times => names.isOpen = true ∧ times.isOpen = true
  | relational store => store.isOpen = true
  | mixed names store => names.isOpen = true ∧ store.isOpen = true

instance (backend : Backend) : Decidable backend.IsOpen :=
  match backend with
  | files _ _ | mixed _ _ => inferInstanceAs (Decidable (_ = true ∧ _ = true))
  | relational _ => inferInstanceAs (Decidable (_ = true))

def namesOpen : Backend → Bool
  | files names _ | mixed names _ => names.isOpen
  | relational store => store.isOpen

def timesOpen : Backend → Bool
  | files _ times => times.isOpen
  | relational store | mixed _ store => store.isOpen

def IsShut : Backend → Prop
  | files names times => names.isOpen = false ∧ times.isOpen = false
  | relational store => store.isOpen = false
  | mixed names store => names.isOpen = false ∧ store.isOpen = false

def reopened : Backend → Backend
  | files names times => files { names with isOpen := true } { times with isOpen := true }
  | relational store => relational { store with isOpen := true }
  | mixed names store => mixed { names with isOpen := true } { store with isOpen := true }

theorem reopened_of_isOpen {backend : Backend} (isOpen : backend.IsOpen) : backend.reopened = backend := by
  cases backend with
  | files names times =>
    obtain ⟨path, members, opened⟩ := names
    obtain ⟨path', members', opened'⟩ := times
    obtain ⟨rfl, rfl⟩ := isOpen
    rfl
  | relational store =>
    obtain ⟨database, stem, world, opened⟩ := store
    cases isOpen
    rfl
  | mixed names store =>
    obtain ⟨path, members, opened⟩ := names
    obtain ⟨database, stem, world, opened'⟩ := store
    obtain ⟨rfl, rfl⟩ := isOpen
    rfl

structure SameNames (state after : Backend × Host) : Prop where
  holder (name : String) : after.1.reopened.holder? after.2 name = state.1.reopened.holder? state.2 name
  nameOf (id : PlayerId) : after.1.reopened.nameOf? after.2 id = state.1.reopened.nameOf? state.2 id
  names : after.1.reopened.names after.2 = state.1.reopened.names state.2

namespace SameNames

variable {state after third : Backend × Host}

theorem trans (first : SameNames state after) (second : SameNames after third) : SameNames state third :=
  ⟨fun name => (second.holder name).trans (first.holder name), fun id => (second.nameOf id).trans (first.nameOf id),
    second.names.trans first.names⟩

theorem of_tables {host later : Host} {store other : Store} {tables changed : Tables}
    (held : store.tables? host = some tables) (held' : other.tables? later = some changed)
    (same : tables.SameNames changed) : SameNames (relational store, host) (relational other, later) := by
  have read {α : Type} (f : Tables → Except StorageError α) :
      Store.read { store with isOpen := true } host f = f tables := by
    rw [Store.read, if_pos rfl, show Store.tables? { store with isOpen := true } host = some tables from held]
  have read' {α : Type} (f : Tables → Except StorageError α) :
      Store.read { other with isOpen := true } later f = f changed := by
    rw [Store.read, if_pos rfl, show Store.tables? { other with isOpen := true } later = some changed from held']
  constructor
  · intro name
    show Store.holder? _ later name = Store.holder? _ host name
    rw [Store.holder?, Store.holder?, read, read', same.keyOfName?]
  · intro id
    show Store.nameOf? _ later id = Store.nameOf? _ host id
    rw [Store.nameOf?, Store.nameOf?, read, read', same.nameOfKey?]
  · show Store.names _ later = Store.names _ host
    rw [Store.names, Store.names, read, read', same.names]

end SameNames

def Spares (configuration : Configuration) (host other : Host) : Prop :=
  match configuration.kind with
  | .file => host.disk.Spares other.disk (NameFile.path configuration.directory configuration.stem) ∧
      host.disk.Spares other.disk (TimeFile.path configuration.directory configuration.stem)
  | .sql => ∀ path number, configuration.database = .file path → Sql.Linked host.disk path number →
      Sql.Linked other.disk path number ∧ other.database? number = host.database? number

/-- Names and times are where a configuration leads, as they are in memory. -/
def Housed (configuration : Configuration) (host : Host) : Backend → Prop
  | files names times => configuration.kind = .file ∧
      Deposited host.disk configuration.directory configuration.stem names times
  | relational store => configuration.kind = .sql ∧ configuration.dialect = .sqlite ∧
      Sql.stem? configuration.stem = some store.stem ∧
      (∃ path, configuration.database = .file path ∧ Sql.Linked host.disk path store.database) ∧
      ∃ tables, store.tables? host = some tables ∧ tables.Owned
  | mixed _ _ => False

variable {configuration : Configuration}

theorem Housed.of_altered {store : Store} {host after : Host} {permitted : StatisticRow → Prop}
    (housed : Housed configuration host (relational store)) (disk : after.disk = host.disk)
    (altered : Host.Altered permitted host after) : Housed configuration after (relational store) := by
  obtain ⟨kind, dialect, stem, ⟨path, source, linked⟩, tables, held, owned⟩ := housed
  refine ⟨kind, dialect, stem, ⟨path, source, disk ▸ linked⟩, ?_⟩
  rcases altered store.place with ⟨none, -⟩ | ⟨before, changed, known, found, step⟩
  · cases none.symm.trans held
  · cases known.symm.trans held
    exact ⟨changed, found, step.owned owned⟩

theorem housed_creditAll :
    Sessions.KeptByCredits fun state : Backend × Host => state.1.Housed configuration state.2 := by
  rintro ⟨backend, host⟩ deltas housed
  cases backend with
  | files names times => exact ⟨housed.1, housed.2.credit (.creditAll deltas)⟩
  | relational store =>
    exact housed.of_altered (Sql.disk_creditAll store host deltas)
      (Backend.altered_creditAll (fun _ => True) (.relational store, host) deltas)
  | mixed names store => exact housed.elim

theorem housed_close (state : Backend × Host) (housed : state.1.Housed configuration state.2) :
    (Ledger.close state).1.Housed configuration (Ledger.close state).2 := by
  obtain ⟨backend, host⟩ := state
  cases backend with
  | files names times => exact ⟨housed.1, housed.2.credit .close⟩
  | relational store => exact housed
  | mixed names store => exact housed.elim

theorem housed_closeNames {backend : Backend} {host : Host} (housed : backend.Housed configuration host) :
    backend.closeNames.Housed configuration host := by
  cases backend with
  | files names times => exact ⟨housed.1, housed.2.act .close⟩
  | relational store => exact housed
  | mixed names store => exact housed.elim

theorem housed_act (state : Backend × Host) (call : NameCall) (housed : state.1.Housed configuration state.2) :
    (act state call).2.1.Housed configuration (act state call).2.2 := by
  have altered := altered_act (fun _ => True) state call
  obtain ⟨backend, host⟩ := state
  cases backend with
  | mixed names store => exact housed.elim
  | files names times =>
    cases call with
    | set id text override => exact ⟨housed.1, housed.2.act (.setName id text override)⟩
    | setAll entries => exact ⟨housed.1, housed.2.act (.setNames entries)⟩
    | holder name => exact housed
    | name id => exact housed
    | names => exact housed
  | relational store =>
    cases call with
    | set id text override => exact housed.of_altered (store.disk_write host _) altered
    | setAll entries => exact housed.of_altered (store.disk_write host _) altered
    | holder name => exact housed
    | name id => exact housed
    | names => exact housed

theorem Housed.sound {backend : Backend} {host : Host} (housed : backend.Housed configuration host) :
    LawfulLedger.Sound (backend, host) := by
  cases backend with
  | files names times => trivial
  | mixed names store => exact housed.elim
  | relational store =>
    obtain ⟨-, -, -, -, tables, held, owned⟩ := housed
    intro others found
    cases found.symm.trans held
    exact owned

theorem Housed.timesOpen {backend : Backend} {host : Host} (housed : backend.Housed configuration host)
    (isOpen : backend.IsOpen) : LawfulLedger.IsOpen (backend, host) := by
  cases backend with
  | files names times => exact isOpen.2
  | mixed names store => exact housed.elim
  | relational store =>
    obtain ⟨-, -, -, -, tables, held, -⟩ := housed
    exact ⟨isOpen, Option.isSome_iff_exists.mpr ⟨tables, held⟩⟩

end Backend

theorem Deed.housed {configuration : Configuration} (state : Sessions × Backend × Host) (deed : Deed)
    (housed : state.2.1.Housed configuration state.2.2) :
    (deed.act state).2.1.Housed configuration (deed.act state).2.2 := by
  cases deed with
  | use what => exact Sessions.ledger_use Backend.housed_creditAll Backend.housed_close state what housed
  | name call => exact Backend.housed_act state.2 call housed
  | closeNames => exact Backend.housed_closeNames housed
  | record statistic =>
    obtain ⟨sessions, backend, host⟩ := state
    cases backend with
    | files names times => exact housed
    | mixed names store => exact housed.elim
    | relational store =>
      have altered : Host.Altered (fun _ => True) host (store.storeStatistic host statistic).2 :=
        Host.altered_storeStatistic store host statistic fun _ _ => trivial
      exact housed.of_altered (store.disk_write host _) altered

namespace FlatFile

open FlatObject (Members Scalar)

variable {ν : Type} {file : FlatFile ν}

theorem write_of_shut [Scalar ν] (shut : file.isOpen = false) (disk : Disk)
    (change : Members ν → Except StorageError (Members ν)) : (file.write disk change).2 = (file, disk) := by
  unfold write
  rw [if_neg (by simp [shut])]

theorem close_of_shut (shut : file.isOpen = false) : file.close = file := by
  obtain ⟨path, members, isOpen⟩ := file
  cases shut
  rfl

theorem Recording.of_shut [Scalar ν] {κ : Type} {make : Calls κ ν} (recording : Recording make) (call : κ)
    (shut : file.isOpen = false) (disk : Disk) : (make call file disk).2 = (file, disk) := by
  rcases recording call file disk with ⟨outcome, made⟩ | ⟨change, made⟩ | made
  · rw [made]
  · rw [made, write_of_shut shut]
  · rw [made, close_of_shut shut]

end FlatFile

namespace Sql.Store

variable {store : Store}

theorem write_of_shut (shut : store.isOpen = false) (host : Host) (change : Tables → Except StorageError Tables) :
    (store.write host change).2 = host := by
  unfold write
  rw [if_neg (by simp [shut])]

theorem close_of_shut (shut : store.isOpen = false) : store.close = store := by
  obtain ⟨database, stem, world, isOpen⟩ := store
  cases shut
  rfl

end Sql.Store

namespace Backend

variable {backend : Backend} {host : Host}

theorem creditAll_of_timesShut (shut : backend.timesOpen = false) (deltas : List (PlayerId × Int64)) :
    (Ledger.creditAll (backend, host) deltas).2 = (backend, host) := by
  cases backend with
  | files names times =>
    have still : (TimeFile.creditAll times host.disk deltas).2 = (times, host.disk) :=
      TimeFile.recording_make.of_shut (.creditAll deltas) shut host.disk
    exact congrArg (fun after : TimeFile × Disk => (files names after.1, { host with disk := after.2 })) still
  | relational store => exact congrArg (relational store, ·) (Sql.Store.write_of_shut shut host _)
  | mixed names store => exact congrArg (mixed names store, ·) (Sql.Store.write_of_shut shut host _)

theorem close_of_timesShut (shut : backend.timesOpen = false) : Ledger.close (backend, host) = (backend, host) := by
  cases backend with
  | files names times => exact congrArg (fun times => (files names times, host)) (FlatFile.close_of_shut shut)
  | relational store => exact congrArg (fun store => (relational store, host)) (Sql.Store.close_of_shut shut)
  | mixed names store => exact congrArg (fun store => (mixed names store, host)) (Sql.Store.close_of_shut shut)

theorem closeNames_of_shut (shut : backend.IsShut) : backend.closeNames = backend := by
  cases backend with
  | files names times => rw [closeNames, FlatFile.close_of_shut shut.1]
  | relational store => rw [closeNames, Sql.Store.close_of_shut shut]
  | mixed names store => rw [closeNames, FlatFile.close_of_shut shut.1]

theorem IsShut.names (shut : backend.IsShut) : backend.namesOpen = false := by
  cases backend with
  | files names times => exact shut.1
  | relational store => exact shut
  | mixed names store => exact shut.1

theorem IsShut.times (shut : backend.IsShut) : backend.timesOpen = false := by
  cases backend with
  | files names times => exact shut.2
  | relational store => exact shut
  | mixed names store => exact shut.2

theorem act_of_shut (shut : backend.namesOpen = false) (call : NameCall) :
    (act (backend, host) call).2 = (backend, host) := by
  have file (names : NameFile) (closed : names.isOpen = false) (call : NameFile.Call) :
      (NameFile.make call names host.disk).2 = (names, host.disk) :=
    NameFile.recording_make.of_shut call closed host.disk
  cases call with
  | holder name => rfl
  | name id => rfl
  | names => rfl
  | set id text override =>
    cases backend with
    | files names times =>
      have still := file names shut (.setName id text override)
      exact congrArg (fun after : NameFile × Disk => (files after.1 times, { host with disk := after.2 })) still
    | relational store => exact congrArg (relational store, ·) (Sql.Store.write_of_shut shut host _)
    | mixed names store =>
      have still := file names shut (.setName id text override)
      exact congrArg (fun after : NameFile × Disk => (mixed after.1 store, { host with disk := after.2 })) still
  | setAll entries =>
    cases backend with
    | files names times =>
      have still := file names shut (.setNames entries)
      exact congrArg (fun after : NameFile × Disk => (files after.1 times, { host with disk := after.2 })) still
    | relational store => exact congrArg (relational store, ·) (Sql.Store.write_of_shut shut host _)
    | mixed names store =>
      have still := file names shut (.setNames entries)
      exact congrArg (fun after : NameFile × Disk => (mixed after.1 store, { host with disk := after.2 })) still

structure Refusing (state : Backend × Host) : Prop where
  seconds (id : PlayerId) : Ledger.seconds? state id = .error .closed
  totals : Ledger.totals state = .error .closed
  holder (name : String) : state.1.holder? state.2 name = .error .closed
  nameOf (id : PlayerId) : state.1.nameOf? state.2 id = .error .closed
  names : state.1.names state.2 = .error .closed

theorem refusing_of_shut (shut : backend.IsShut) (host : Host) : Refusing (backend, host) := by
  have file {ν α : Type} (file : FlatFile ν) (closed : file.isOpen = false) (f : FlatObject.Members ν → α) :
      file.read f = .error .closed := if_neg (by simp [closed])
  have table {α : Type} (store : Sql.Store) (closed : store.isOpen = false)
      (f : Sql.Tables → Except StorageError α) : store.read host f = .error .closed := if_neg (by simp [closed])
  have listed (names : NameFile) (closed : names.isOpen = false) (name : String) :
      names.holder? name = .error .closed := by rw [NameFile.holder?, file names closed]
  have named (names : NameFile) (closed : names.isOpen = false) (id : PlayerId) :
      names.nameOf? id = .error .closed := file names closed _
  have all (names : NameFile) (closed : names.isOpen = false) : names.names = .error .closed := file names closed _
  cases backend with
  | files names times =>
    have timed (id : PlayerId) : times.seconds? id = .error .closed := file times shut.2 _
    have totals : times.totals = .error .closed := by rw [TimeFile.totals, file times shut.2]
    exact ⟨timed, totals, listed names shut.1, named names shut.1, all names shut.1⟩
  | relational store =>
    exact ⟨fun _ => table store shut _, table store shut _, fun _ => table store shut _,
      fun _ => table store shut _, table store shut _⟩
  | mixed names store =>
    exact ⟨fun _ => table store shut.2 _, table store shut.2 _, listed names shut.1, named names shut.1,
      all names shut.1⟩

end Backend

theorem Sessions.use_of_timesShut {backend : Backend} (shut : backend.timesOpen = false) (sessions : Sessions)
    (host : Host) (what : Sessions.Use) : (Sessions.use (sessions, backend, host) what).2 = (backend, host) := by
  have credits : Sessions.KeptByCredits fun state : Backend × Host => state = (backend, host) := by
    rintro _ deltas rfl
    exact Backend.creditAll_of_timesShut shut deltas
  refine Sessions.ledger_use credits ?_ (sessions, backend, host) what rfl
  rintro _ rfl
  exact Backend.close_of_timesShut shut

theorem Deed.record_of_timesShut {backend : Backend} (shut : backend.timesOpen = false) (sessions : Sessions)
    (host : Host) (statistic : Sql.Statistic) :
    (Deed.act (sessions, backend, host) (.record statistic)).2 = (backend, host) := by
  cases backend with
  | files names times => rfl
  | relational store => exact congrArg (_, ·) (Sql.Store.write_of_shut shut host _)
  | mixed names store => exact congrArg (_, ·) (Sql.Store.write_of_shut shut host _)

theorem Deed.act_of_shut {backend : Backend} (shut : backend.IsShut) (sessions : Sessions) (host : Host)
    (deed : Deed) : (deed.act (sessions, backend, host)).2 = (backend, host) := by
  cases deed with
  | use what => exact Sessions.use_of_timesShut shut.times sessions host what
  | name call => exact Backend.act_of_shut shut.names call
  | closeNames => exact congrArg (·, host) (Backend.closeNames_of_shut shut)
  | record statistic => exact Deed.record_of_timesShut shut.times sessions host statistic

namespace Backend

open Sql (Tables Store tablesAt?)

variable {configuration : Configuration} {backend : Backend} {host other : Host}

theorem sameNames_creditAll (state : Backend × Host) (deltas : List (PlayerId × Int64))
    (housed : state.1.Housed configuration state.2) : SameNames state (Ledger.creditAll state deltas).2 := by
  obtain ⟨backend, host⟩ := state
  cases backend with
  | files names times => exact ⟨fun _ => rfl, fun _ => rfl, rfl⟩
  | relational store =>
    obtain ⟨-, -, -, -, tables, held, -⟩ := housed
    obtain ⟨changed, held', same⟩ := store.sameNames_creditAll deltas held
    exact .of_tables held held' same
  | mixed names store => exact housed.elim

theorem sameNames_close (state : Backend × Host) : SameNames state (Ledger.close state) := by
  obtain ⟨backend, host⟩ := state
  cases backend <;> exact ⟨fun _ => rfl, fun _ => rfl, rfl⟩

theorem sameNames_closeNames (backend : Backend) (host : Host) :
    SameNames (backend, host) (backend.closeNames, host) := by
  cases backend <;> exact ⟨fun _ => rfl, fun _ => rfl, rfl⟩

theorem balance_closeNames (backend : Backend) (host : Host) (id : PlayerId) :
    LawfulLedger.balance (backend.closeNames, host) id = LawfulLedger.balance (backend, host) id := by
  cases backend <;> rfl

structure SameContent (state after : Backend × Host) : Prop where
  names : SameNames state after
  balance (id : PlayerId) : LawfulLedger.balance after id = LawfulLedger.balance state id

theorem SameContent.refl (state : Backend × Host) : SameContent state state :=
  ⟨⟨fun _ => rfl, fun _ => rfl, rfl⟩, fun _ => rfl⟩

theorem SameContent.trans {state after third : Backend × Host} (first : SameContent state after)
    (second : SameContent after third) : SameContent state third :=
  ⟨first.names.trans second.names, fun id => (second.balance id).trans (first.balance id)⟩

theorem SameContent.of_tables {store other : Store} {host after : Host} {tables changed : Tables}
    (held : store.tables? host = some tables) (held' : other.tables? after = some changed)
    (players : changed.players = tables.players) (intervals : changed.intervals = tables.intervals) :
    SameContent (relational store, host) (relational other, after) := by
  refine ⟨.of_tables held held' (.of_players players), fun id => ?_⟩
  show other.kept after id = store.kept host id
  unfold Store.kept Tables.kept Tables.secondsOf? Tables.intervalsOf
  rw [held, held']
  dsimp only
  rw [players, intervals]

theorem Housed.spared (housed : backend.Housed configuration host) (spares : Spares configuration host other) :
    backend.Housed configuration other ∧ SameContent (backend, host) (backend, other) := by
  cases backend with
  | mixed names store => exact housed.elim
  | files names times =>
    obtain ⟨kind, deposited⟩ := housed
    unfold Spares at spares
    rw [kind] at spares
    exact ⟨⟨kind, deposited.spared spares.1 spares.2⟩, ⟨fun _ => rfl, fun _ => rfl, rfl⟩, fun _ => rfl⟩
  | relational store =>
    obtain ⟨kind, dialect, stem, ⟨path, source, linked⟩, tables, held, owned⟩ := housed
    unfold Spares at spares
    rw [kind] at spares
    obtain ⟨linked', same⟩ := spares path store.database source linked
    have held' : store.tables? other = some tables := by
      rw [Store.tables?, same]
      exact held
    exact ⟨⟨kind, dialect, stem, ⟨path, source, linked'⟩, tables, held', owned⟩, .of_tables held held' rfl rfl⟩

/-- What a configuration opens on a host for the first time will be found there by whoever opens it again. -/
def Findable (configuration : Configuration) (host : Host) : Prop :=
  match configuration.kind with
  | .file => host.disk.Direct (NameFile.path configuration.directory configuration.stem)
  | .sql => (∃ path, configuration.database = .file path) ∧
      ∀ place tables, tablesAt? host place = some tables → tables.Owned

theorem owned_register {tables : Tables} (owned : tables.Owned) (server world : String) :
    (tables.register server world).1.Owned := by
  unfold Tables.Owned at *
  rwa [players_register, Tables.intervals_register]

theorem housed_of_storeLoad {after : Host} {store : Store} {path : List String} (kind : configuration.kind = .sql)
    (dialect : configuration.dialect = .sqlite) (source : configuration.database = .file path)
    (owned : ∀ place tables, tablesAt? host place = some tables → tables.Owned)
    (loaded : Store.load host (.file path) configuration.stem configuration.server configuration.world =
      (.ok store, after)) : Housed configuration after (relational store) ∧ store.isOpen = true := by
  have cases := Sql.load_cases host (.file path) configuration.stem configuration.server configuration.world
  have disk := Sql.disk_storeLoad host (.file path) configuration.stem configuration.server configuration.world
  rw [loaded] at cases disk
  rcases cases with ⟨error, failed, -⟩ | ⟨made, same, isOpen, number, stem, -, tables⟩
  · cases failed
  · cases same
    have linked := Sql.linked_of_connect number
    rw [← disk] at linked
    have held := tables store.place
    rw [if_pos rfl] at held
    refine ⟨⟨kind, dialect, stem, ⟨path, source, linked⟩, _, held, ?_⟩, isOpen⟩
    apply owned_register
    cases known : tablesAt? host store.place with
    | none => exact fun row member => absurd member (List.not_mem_nil)
    | some tables => exact owned store.place tables known

theorem housed_of_load {after : Host} (findable : Findable configuration host)
    (loaded : load host configuration = (.ok backend, after)) :
    backend.Housed configuration after ∧ backend.IsOpen := by
  unfold Findable at findable
  unfold load at loaded
  cases kind : configuration.kind with
  | file =>
    rw [kind] at findable loaded
    dsimp only at findable loaded
    cases opened : loadFiles host configuration.directory configuration.stem with
    | mk outcome reached =>
      rw [opened] at loaded
      cases outcome with
      | error error => cases loaded
      | ok made =>
        cases loaded
        obtain ⟨names, times, rfl, deposited, openNames, openTimes⟩ := deposited_of_loadFiles findable opened
        exact ⟨⟨kind, deposited⟩, openNames, openTimes⟩
  | sql =>
    rw [kind] at findable loaded
    dsimp only at findable loaded
    obtain ⟨⟨path, source⟩, owned⟩ := findable
    split at loaded
    · next dialect =>
      unfold loadRelational at loaded
      rw [source] at loaded
      cases opened : Store.load host (.file path) configuration.stem configuration.server configuration.world with
      | mk outcome reached =>
        rw [opened] at loaded
        cases outcome with
        | error error => cases loaded
        | ok store =>
          cases loaded
          exact housed_of_storeLoad kind dialect source owned opened
    · cases loaded

theorem storeLoad_of_known {store : Store} {path : List String} {tables : Tables} {opening : String}
    (linked : Sql.Linked host.disk path store.database) (stem : Sql.stem? opening = some store.stem)
    (held : store.tables? host = some tables) (server world : String) :
    ∃ again after, Store.load host (.file path) opening server world = (.ok again, after) ∧
      again.isOpen = true ∧ again.database = store.database ∧ again.stem = store.stem ∧ after.disk = host.disk ∧
      again.tables? after = some (tables.register server world).1 := by
  have connected := Sql.connect_of_linked linked
  have opened : ∃ again, (Store.load host (.file path) opening server world).1 = .ok again := by
    obtain ⟨database, found, present⟩ := Option.bind_eq_some_iff.mp held
    have created : (database.createTables store.stem).tables? store.stem = some tables := by
      rw [Sql.Database.tables?, Sql.tables_createTables, if_pos rfl]
      exact congrArg (fun known : Option Tables => some (known.getD .empty)) present
    unfold Store.load
    rw [connected, stem]
    dsimp only
    rw [found]
    dsimp only
    rw [created]
    exact ⟨_, rfl⟩
  obtain ⟨again, made⟩ := opened
  have disk := Sql.disk_storeLoad host (.file path) opening server world
  rw [connected] at disk
  rcases Sql.load_cases host (.file path) opening server world with
    ⟨error, failed, -⟩ | ⟨other, same, isOpen, number, stem', -, places⟩
  · cases made.symm.trans failed
  · cases made.symm.trans same
    rw [connected] at number
    have database : again.database = store.database := (Except.ok.inj number).symm
    have spelling : again.stem = store.stem := Option.some.inj (stem'.symm.trans stem)
    have place : again.place = store.place := by rw [Store.place, Store.place, database, spelling]
    have registered := places again.place
    rw [if_pos rfl, place, show tablesAt? host store.place = some tables from held] at registered
    exact ⟨again, _, Prod.ext made rfl, isOpen, database, spelling, disk,
      by rw [Store.tables?_eq, place, registered]; rfl⟩

/-- Opened again, a backend holds what it held, and can be used whether or not it was closed. -/
theorem load_of_housed (housed : backend.Housed configuration host) :
    ∃ again after, load host configuration = (.ok again, after) ∧ again.Housed configuration after ∧ again.IsOpen ∧
      SameContent (backend, host) (again, after) := by
  unfold load
  cases backend with
  | mixed names store => exact housed.elim
  | files names times =>
    obtain ⟨kind, deposited⟩ := housed
    obtain ⟨named, timed⟩ := deposited.load
    refine ⟨files { names with isOpen := true } { times with isOpen := true }, host, ?_, ⟨kind, ?_⟩, ⟨rfl, rfl⟩, ?_⟩
    · rw [kind]
      dsimp only
      rw [loadFiles, named]
      dsimp only
      rw [timed]
      rfl
    · exact ⟨deposited.ways, deposited.files.imp fun _ both => both.imp fun _ both =>
        ⟨⟨both.1.houses, both.1.free, both.1.mirrors⟩, ⟨both.2.houses, both.2.free, both.2.mirrors⟩⟩⟩
    · exact ⟨⟨fun _ => rfl, fun _ => rfl, rfl⟩, fun _ => rfl⟩
  | relational store =>
    obtain ⟨kind, dialect, stem, ⟨path, source, linked⟩, tables, held, owned⟩ := housed
    obtain ⟨again, after, loaded, isOpen, database, spelling, disk, held'⟩ :=
      storeLoad_of_known linked stem held configuration.server configuration.world
    refine ⟨relational again, after, ?_, ⟨kind, dialect, spelling ▸ stem, ⟨path, source, ?_⟩, _, held',
      owned_register owned _ _⟩, isOpen, .of_tables held held' (players_register _ _ _)
      (Tables.intervals_register _ _ _)⟩
    · rw [kind]
      dsimp only
      rw [if_pos dialect, loadRelational, source, loaded]
      rfl
    · rw [database, disk]
      exact linked

end Backend

end Playtime
