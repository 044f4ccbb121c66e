import Playtime.Proofs.Deployments.Directories
import Playtime.Proofs.Deployments.Lockstep
import Playtime.Proofs.Replication.InertFrames
import Playtime.Proofs.Tables.Apart

namespace Playtime

namespace Sql

variable {host other : Host} {path : List String} {stem : String}

/-- What opening a database comes to, and whether the database is there then. -/
def opens (host : Host) (source : Source) : Except StorageError Nat × Bool :=
  ((connect host source).1, ((connect host source).1.toOption.bind (connect host source).2.database?).isSome)

theorem isSome_database? (host : Host) (number : Nat) :
    (host.database? number).isSome = decide (number < host.databases.length) := by
  unfold Host.database?
  rw [Bool.eq_iff_iff]
  simp

theorem opens_of_same (entries : other.disk.entries = host.disk.entries)
    (databases : other.databases.length = host.databases.length) (path : List String) :
    opens other (.file path) = opens host (.file path) := by
  have known (number : Nat) : (other.database? number).isSome = (host.database? number).isSome := by
    rw [isSome_database?, isSome_database?, databases]
  unfold opens connect
  dsimp only
  rw [Disk.locate_of_entries entries]
  cases host.disk.locate (stepBack path) with
  | missing | blocked => rfl
  | reached place =>
    dsimp only
    rw [Disk.isDirectory_of_entries entries, entries]
    split
    · rfl
    · split
      · next number _ => exact Prod.ext rfl (known number)
      · rfl
      · simp [Host.newDatabase, Host.database?, databases, Except.toOption]

theorem length_storeLoad (host : Host) (source : Source) (opening server world : String) :
    (Store.load host source opening server world).2.databases.length = (connect host source).2.databases.length := by
  unfold Store.load
  split
  · next opened => rw [opened]
  · next opened =>
    rw [opened]
    dsimp only
    split
    · split
      · rfl
      · exact List.length_set
    · rfl

theorem host_connect_refused {error : StorageError} {source : Source}
    (refused : (connect host source).1 = .error error) : (connect host source).2 = host := by
  unfold connect at *
  cases source with
  | memory => cases refused
  | refused error => rfl
  | file path =>
    dsimp only at *
    split
    · next place reached =>
      rw [reached] at refused
      split
      · rfl
      · next free =>
        dsimp only at refused
        rw [if_neg free] at refused
        split
        · rfl
        · rfl
        · next none filled =>
          split at refused
          · cases refused
          · next held => exact absurd held (filled _ _)
          · cases refused
    · rfl

theorem opens_storeLoad (host : Host) (path : List String) (opening server world : String) :
    opens (Store.load host (.file path) opening server world).2 (.file path) = opens host (.file path) := by
  cases opened : (connect host (.file path)).1 with
  | error error =>
    have unchanged := host_connect_refused opened
    have refused : Store.load host (.file path) opening server world = (.error error, host) := by
      rw [Store.load, ← Prod.mk.eta (p := connect host (.file path)), opened, unchanged]
    rw [refused]
  | ok number =>
    have linked := linked_of_connect opened
    rw [← disk_storeLoad host (.file path) opening server world] at linked
    unfold opens
    rw [connect_of_linked linked, opened]
    refine Prod.ext rfl ?_
    show (Host.database? _ number).isSome = (Host.database? _ number).isSome
    rw [isSome_database?, isSome_database?, length_storeLoad]

theorem outcome_storeLoad (host : Host) (source : Source) (opening server world : String) :
    (Store.load host source opening server world).1 =
      match opens host source, stem? opening with
      | (.error error, _), _ => .error error
      | (.ok number, true), some stem =>
        .ok ⟨number, stem, (((tablesAt? host (number, foldCase stem)).getD .empty).register server world).2, true⟩
      | (.ok _, _), _ => .error .databaseFailure := by
  have connected := tablesAt?_connect host source
  unfold opens Store.load
  generalize connect host source = connection at *
  obtain ⟨outcome, opened⟩ := connection
  cases outcome with
  | error error => rfl
  | ok number =>
    dsimp only [Except.toOption, Option.bind_some] at *
    cases stem? opening with
    | none => cases (opened.database? number).isSome <;> rfl
    | some stem =>
      cases known : opened.database? number with
      | none => rfl
      | some database =>
        have created : (database.createTables stem).tables? stem =
            some ((tablesAt? host (number, foldCase stem)).getD .empty) := by
          rw [Database.tables?, tables_createTables, if_pos rfl, ← connected, tablesAt?, known]
          rfl
        dsimp only
        rw [created]
        rfl

def SameTables (stem : String) (host other : Host) : Prop :=
  ∀ number, tablesAt? other (number, stem) = tablesAt? host (number, stem)

theorem storeLoad_alike {source : Source} (plain : IsPlainStem stem) (same : SameTables stem host other)
    (opened : opens other source = opens host source) (server world : String) :
    (Store.load other source stem server world).1 = (Store.load host source stem server world).1 ∧
      SameTables stem (Store.load host source stem server world).2 (Store.load other source stem server world).2 := by
  have outcome : (Store.load other source stem server world).1 = (Store.load host source stem server world).1 := by
    rw [outcome_storeLoad, outcome_storeLoad, opened]
    split
    · rfl
    · next number found _ opens =>
      rw [stem?_of_plain plain opens, foldCase_of_plain plain, same number]
    · rfl
  refine ⟨outcome, fun number => ?_⟩
  rcases load_cases host source stem server world with ⟨error, failed, unchanged⟩ | ⟨store, made, -, -, -, -, changed⟩
  · rcases load_cases other source stem server world with ⟨-, -, unchanged'⟩ | ⟨_, made', -⟩
    · rw [unchanged, unchanged', same number]
    · cases made'.symm.trans (outcome.trans failed)
  · rcases load_cases other source stem server world with ⟨_, failed', -⟩ | ⟨store', made', -, -, -, -, changed'⟩
    · cases failed'.symm.trans (outcome.trans made)
    · cases made'.symm.trans (outcome.trans made)
      rw [changed, changed', same number]

theorem sameTables_storeLoad {opening : String} (plain : IsPlainStem opening) (differs : opening ≠ stem) (host : Host)
    (source : Source) (server world : String) :
    SameTables stem host (Store.load host source opening server world).2 := by
  intro number
  rcases load_cases host source opening server world with ⟨error, -, unchanged⟩ | ⟨store, -, -, -, opens, -, changed⟩
  · exact unchanged _
  · rw [changed, if_neg]
    intro same
    have stems : foldCase store.stem = stem := congrArg Prod.snd same
    rw [stem?_of_plain plain opens, foldCase_of_plain plain] at stems
    exact differs stems

namespace Store

variable {store : Store}

theorem write_eq (store : Store) (host : Host) (change : Tables → Except StorageError Tables) :
    (store.write host change).1 =
      if store.isOpen then
        match store.tables? host with
        | none => .error .databaseFailure
        | some tables => (change tables).map fun _ => ()
      else .error .closed := by
  unfold write tables?
  split
  · cases host.database? store.database with
    | none => rfl
    | some database =>
      dsimp only [Option.bind_some]
      cases database.tables? store.stem with
      | none => rfl
      | some tables =>
        dsimp only
        cases change tables <;> rfl
  · rfl

theorem write_even (mine : foldCase store.stem = stem) (same : SameTables stem host other)
    (change : Tables → Except StorageError Tables) :
    (store.write other change).1 = (store.write host change).1 ∧
      SameTables stem (store.write host change).2 (store.write other change).2 := by
  have held : store.tables? other = store.tables? host := by
    rw [tables?_eq, tables?_eq, place, mine]
    exact same store.database
  refine ⟨by rw [write_eq, write_eq, held], fun number => ?_⟩
  by_cases here : store.place = (number, stem)
  · rw [← here, ← tables?_eq, ← tables?_eq]
    by_cases isOpen : store.isOpen = true
    · rw [tables?_write isOpen, tables?_write isOpen, held]
    · have shut : store.isOpen = false := by simpa using isOpen
      rw [write_of_shut shut, write_of_shut shut, held]
  · rw [store.write_other _ _ _ here, store.write_other _ _ _ here]
    exact same number

theorem length_write (store : Store) (host : Host) (change : Tables → Except StorageError Tables) :
    (store.write host change).2.databases.length = host.databases.length := by
  rcases store.host_write host change with same | ⟨database, same⟩
  · rw [same]
  · rw [same, Host.setDatabase, List.length_set]

end Store

end Sql

namespace Backend

open Sql (SameTables foldCase)

variable {stem : String}

def TabledAs (stem : String) (backend : Backend) : Prop :=
  ∃ store, backend = relational store ∧ foldCase store.stem = stem

/-- The database is where it was, and no tables but those of a stem have changed. -/
structure Within (stem : String) (host other : Host) : Prop where
  disk : other.disk = host.disk
  databases : other.databases.length = host.databases.length
  others (another : String) (differs : stem ≠ another) : SameTables another host other

theorem Within.refl (stem : String) (host : Host) : Within stem host host := ⟨rfl, rfl, fun _ _ _ => rfl⟩

theorem Within.write {store : Sql.Store} {host other : Host} (within : Within stem host other)
    (mine : foldCase store.stem = stem) (change : Sql.Tables → Except StorageError Sql.Tables) :
    Within stem host (store.write other change).2 := by
  refine ⟨(store.disk_write other change).trans within.disk, (store.length_write other change).trans within.databases,
    fun another differs number => ?_⟩
  rw [store.write_other, within.others another differs number]
  intro same
  exact differs (mine.symm.trans (congrArg Prod.snd same))

theorem keeps_tabled (stem : String) (host : Host) : Keeps fun state =>
    state.1.TabledAs stem ∧ Within stem host state.2 := by
  constructor
  · rintro ⟨_, after⟩ deltas ⟨⟨store, rfl, mine⟩, within⟩
    exact ⟨⟨store, rfl, mine⟩, within.write mine _⟩
  · rintro ⟨_, after⟩ ⟨⟨store, rfl, mine⟩, within⟩
    exact ⟨⟨store.close, rfl, mine⟩, within⟩
  · rintro ⟨_, after⟩ call ⟨⟨store, rfl, mine⟩, within⟩
    cases call with
    | set id text override => exact ⟨⟨store, rfl, mine⟩, within.write mine _⟩
    | setAll entries => exact ⟨⟨store, rfl, mine⟩, within.write mine _⟩
    | holder name => exact ⟨⟨store, rfl, mine⟩, within⟩
    | name id => exact ⟨⟨store, rfl, mine⟩, within⟩
    | names => exact ⟨⟨store, rfl, mine⟩, within⟩
  · rintro ⟨_, after⟩ ⟨⟨store, rfl, mine⟩, within⟩
    exact ⟨⟨store.close, rfl, mine⟩, within⟩
  · rintro ⟨_, after⟩ statistic ⟨⟨store, rfl, mine⟩, within⟩
    exact ⟨⟨store, rfl, mine⟩, within.write mine _⟩

structure Equal (stem : String) (state other : Backend × Host) : Prop where
  backend : other.1 = state.1
  tabled : state.1.TabledAs stem
  clock : other.2.clock = state.2.clock
  tables : SameTables stem state.2 other.2

theorem parallel_tabled (stem : String) : Parallel (Equal stem) := by
  have written {store : Sql.Store} {host host' : Host} (mine : foldCase store.stem = stem)
      (clock : host'.clock = host.clock) (same : SameTables stem host host')
      (change : Sql.Tables → Except StorageError Sql.Tables) :
      Equal stem (relational store, (store.write host change).2) (relational store, (store.write host' change).2) := by
    refine ⟨rfl, ⟨store, rfl, mine⟩, ?_, (Sql.Store.write_even mine same change).2⟩
    rw [Sql.Store.clock_write, Sql.Store.clock_write, clock]
  constructor
  · rintro ⟨_, host⟩ ⟨_, host'⟩ deltas ⟨rfl, ⟨store, rfl, mine⟩, clock, same⟩
    have credited : (store.creditAll host' deltas).1 = (store.creditAll host deltas).1 ∧
        Equal stem (relational store, (store.creditAll host deltas).2)
          (relational store, (store.creditAll host' deltas).2) := by
      unfold Sql.Store.creditAll Host.seconds
      rw [clock]
      exact ⟨(Sql.Store.write_even mine same _).1, written mine clock same _⟩
    exact credited
  · rintro ⟨_, host⟩ ⟨_, host'⟩ ⟨rfl, ⟨store, rfl, mine⟩, clock, same⟩
    exact ⟨rfl, ⟨store.close, rfl, mine⟩, clock, same⟩
  · rintro ⟨_, host⟩ ⟨_, host'⟩ call ⟨rfl, ⟨store, rfl, mine⟩, clock, same⟩
    cases call with
    | set id text override => exact written mine clock same _
    | setAll entries => exact written mine clock same _
    | holder name => exact ⟨rfl, ⟨store, rfl, mine⟩, clock, same⟩
    | name id => exact ⟨rfl, ⟨store, rfl, mine⟩, clock, same⟩
    | names => exact ⟨rfl, ⟨store, rfl, mine⟩, clock, same⟩
  · rintro ⟨_, host⟩ ⟨_, host'⟩ ⟨rfl, ⟨store, rfl, mine⟩, clock, same⟩
    exact ⟨rfl, ⟨store.close, rfl, mine⟩, clock, same⟩
  · rintro ⟨_, host⟩ ⟨_, host'⟩ statistic ⟨rfl, ⟨store, rfl, mine⟩, clock, same⟩
    exact written mine clock same _

end Backend

end Playtime
