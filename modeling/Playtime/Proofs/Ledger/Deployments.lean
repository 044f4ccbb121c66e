import Playtime.Proofs.Ledger.Intervals

namespace Playtime

namespace Sql

abbrev TablePlace := Nat × String

def Store.place (store : Store) : TablePlace := (store.database, foldCase store.stem)

def tablesAt? (host : Host) (place : TablePlace) : Option Tables :=
  (host.database? place.1).bind fun database => (database[place.2]?).map Deployment.tables

theorem Store.tables?_eq (store : Store) (host : Host) : store.tables? host = tablesAt? host store.place := rfl

theorem tablesAt?_setDatabase (host : Host) (number : Nat) (before after : Database) (place : TablePlace)
    (known : host.database? number = some before) :
    tablesAt? (host.setDatabase number after) place =
      if number = place.1 then (after[place.2]?).map Deployment.tables else tablesAt? host place := by
  obtain ⟨inside, -⟩ := List.getElem?_eq_some_iff.mp known
  unfold tablesAt? Host.database? Host.setDatabase
  by_cases same : number = place.1
  · subst same
    simp [inside]
  · simp [same]

theorem tablesAt?_newDatabase (host : Host) (place : TablePlace) :
    tablesAt? host.newDatabase.2 place = tablesAt? host place := by
  unfold tablesAt? Host.database? Host.newDatabase
  dsimp only
  rcases Nat.lt_trichotomy place.1 host.databases.length with inside | last | outside
  · rw [List.getElem?_append_left inside]
  · rw [last, List.getElem?_append_right (Nat.le_refl _), List.getElem?_eq_none (Nat.le_refl _), Nat.sub_self]
    simp
  · rw [List.getElem?_eq_none (by simp; omega), List.getElem?_eq_none (by omega)]

theorem tablesAt?_connect (host : Host) (source : Source) (place : TablePlace) :
    tablesAt? (connect host source).2 place = tablesAt? host place := by
  have new := tablesAt?_newDatabase host place
  unfold connect
  cases source with
  | memory => exact new
  | refused error => rfl
  | file path =>
    dsimp only
    split
    · split
      · rfl
      · split
        · rfl
        · rfl
        · exact new
    · rfl

theorem tables_setTables (database : Database) (stem key : String) (tables : Tables) :
    ((database.setTables stem tables)[key]?).map Deployment.tables =
      (database[key]?).map fun deployment => if foldCase stem = key then tables else deployment.tables := by
  unfold Database.setTables
  rw [Std.ExtTreeMap.getElem?_modify]
  by_cases same : foldCase stem = key
  · simp [same, Option.map_map, Function.comp_def]
  · simp [same]

theorem tables_createTables (database : Database) (stem key : String) :
    ((database.createTables stem)[key]?).map Deployment.tables =
      if foldCase stem = key then some (((database[key]?).map Deployment.tables).getD .empty)
      else (database[key]?).map Deployment.tables := by
  unfold Database.createTables
  rw [Std.ExtTreeMap.getElem?_insertIfNew]
  by_cases same : foldCase stem = key
  · subst same
    cases known : database[foldCase stem]? with
    | none => simp [Std.ExtTreeMap.mem_iff_isSome_getElem?, known]
    | some deployment => simp [Std.ExtTreeMap.mem_iff_isSome_getElem?, known]
  · simp [same]

theorem Tables.Accounts.register {tables : Tables} {batch : List (PlayerId × Int64)} (accounts : tables.Accounts batch)
    (server world : String) : (tables.register server world).1.Accounts batch := by
  have players : (tables.register server world).1.players = tables.players := by
    unfold Tables.register Tables.ensureWorld Tables.ensureServer
    dsimp only
    split <;> split <;> rfl
  have intervals : (tables.register server world).1.intervals = tables.intervals := by
    unfold Tables.register Tables.ensureWorld Tables.ensureServer
    dsimp only
    split <;> split <;> rfl
  obtain ⟨keyed, owned, seconds⟩ := accounts
  refine ⟨keyed.of_keys (by rw [players]), ?_, fun id => ?_⟩
  · unfold Tables.Owned at *
    rwa [players, intervals]
  · rw [← seconds id]
    unfold Tables.secondsOf? Tables.intervalsOf
    rw [players, intervals]

theorem Store.creditAll_accounts (store : Store) (host : Host) (deltas batch : List (PlayerId × Int64))
    (timely : (Timestamp.ofUnix? host.seconds.toInt).isSome = true)
    (accounts : ((store.tables? host).getD .empty).Accounts batch)
    (accepted : (store.creditAll host deltas).1 = .ok ()) :
    ∃ changed, store.tables? (store.creditAll host deltas).2 = some changed ∧ changed.Accounts (batch ++ deltas) := by
  obtain ⟨tables, changed, before, step, after⟩ := store.write_accepted host _ accepted
  obtain ⟨left, read⟩ := Option.isSome_iff_exists.mp timely
  rw [before, Option.getD_some] at accounts
  rw [read] at step
  cases joined : joinedAll host.seconds deltas with
  | error error =>
    rw [joined] at step
    cases step
  | ok intervals =>
    have recorded := accounts.record store.world host.seconds left deltas intervals read joined
    rw [joined] at step
    refine ⟨changed, after, ?_⟩
    cases intervals <;> cases step <;> exact recorded

theorem Store.write_other (store : Store) (host : Host) (change : Tables → Except StorageError Tables)
    (place : TablePlace) (elsewhere : store.place ≠ place) :
    tablesAt? (store.write host change).2 place = tablesAt? host place := by
  unfold Store.write
  split
  · split
    · rfl
    · next database known =>
      split
      · rfl
      · split
        · rfl
        · rw [tablesAt?_setDatabase host _ database _ place known]
          split
          · next same =>
            have apart : foldCase store.stem ≠ place.2 := fun stem => elsewhere (Prod.ext same stem)
            rw [tables_setTables, tablesAt?, ← same, known]
            simp [apart]
          · rfl
  · rfl

theorem load_cases (host : Host) (source : Source) (opening server world : String) :
    let result := Store.load host source opening server world
    (∃ error, result.1 = .error error ∧ ∀ place, tablesAt? result.2 place = tablesAt? host place) ∨
      ∃ store, result.1 = .ok store ∧ store.isOpen = true ∧ (connect host source).1 = .ok store.database ∧
        stem? opening = some store.stem ∧
        store.world = (((tablesAt? host store.place).getD .empty).register server world).2 ∧
        ∀ place, tablesAt? result.2 place =
          if store.place = place then some (((tablesAt? host place).getD .empty).register server world).1
          else tablesAt? host place := by
  have connected := tablesAt?_connect host source
  intro result
  unfold result Store.load
  generalize connect host source = connection at *
  obtain ⟨outcome, opened⟩ := connection
  cases outcome with
  | error error => exact .inl ⟨error, rfl, connected⟩
  | ok number =>
    dsimp only at *
    cases stem? opening with
    | none => exact .inl ⟨.databaseFailure, rfl, connected⟩
    | some stem =>
      cases known : opened.database? number with
      | none => exact .inl ⟨.databaseFailure, rfl, connected⟩
      | some database =>
        have created : (database.createTables stem).tables? stem =
            some ((tablesAt? host (number, foldCase stem)).getD .empty) := by
          rw [Database.tables?, tables_createTables, if_pos rfl, ← connected, tablesAt?, known]
          rfl
        dsimp only
        rw [created]
        refine .inr ⟨_, rfl, rfl, rfl, rfl, rfl, fun place => ?_⟩
        obtain ⟨other, key⟩ := place
        have made := tables_createTables database stem key
        dsimp only [Store.place]
        rw [tablesAt?_setDatabase opened number database _ _ known, tables_setTables]
        simp only [Prod.mk.injEq, ← connected]
        by_cases same : number = other
        · subst same
          by_cases ours : foldCase stem = key
          · subst ours
            rw [if_pos rfl] at made
            obtain ⟨deployment, found, -⟩ := Option.map_eq_some_iff.mp made
            simp [found]
          · rw [if_neg ours] at made
            simp [ours, made, tablesAt?, known]
        · simp [same]

theorem load_ok {host : Host} {source : Source} {opening server world : String} {store : Store}
    (loaded : (Store.load host source opening server world).1 = .ok store) :
    (connect host source).1 = .ok store.database ∧ stem? opening = some store.stem := by
  rcases load_cases host source opening server world with ⟨error, failed, -⟩ | ⟨_, made, -, number, stem, -⟩
  · cases loaded.symm.trans failed
  · cases loaded.symm.trans made
    exact ⟨number, stem⟩

def Linked (disk : Disk) (path : List String) (number : Nat) : Prop :=
  ∃ place, disk.Takes (stepBack path) place ∧ disk.entries[place]? = some (.database number)

theorem connect_of_linked {host : Host} {path : List String} {number : Nat} (linked : Linked host.disk path number) :
    connect host (.file path) = (.ok number, host) := by
  obtain ⟨place, ⟨reached, free⟩, found⟩ := linked
  simp [connect, reached, free, found]

theorem connect_cases (host : Host) (source : Source) :
    (connect host source).2.disk = host.disk ∧
        (∀ path, source = .file path → ∀ number, (connect host source).1 = .ok number → Linked host.disk path number) ∨
      ∃ path place number, source = .file path ∧ host.disk.Takes (stepBack path) place ∧
        (∀ other, host.disk.entries[place]? ≠ some (.database other)) ∧ (connect host source).1 = .ok number ∧
        (connect host source).2.disk = host.disk.put place (.database number) := by
  cases source with
  | memory => exact .inl ⟨rfl, nofun⟩
  | refused error => exact .inl ⟨rfl, nofun⟩
  | file path =>
    unfold connect
    dsimp only
    split
    · next place reached =>
      split
      · exact .inl ⟨rfl, nofun⟩
      · next free =>
        have takes : host.disk.Takes (stepBack path) place := ⟨reached, by simpa using free⟩
        split
        · next number found =>
          refine .inl ⟨rfl, fun other same number' read => ?_⟩
          cases same
          cases read
          exact ⟨place, takes, found⟩
        · exact .inl ⟨rfl, nofun⟩
        · next none _ =>
          exact .inr ⟨path, place, host.databases.length, rfl, takes, fun other found => none other found, rfl, rfl⟩
    · exact .inl ⟨rfl, nofun⟩

theorem Linked.put {disk : Disk} {path : List String} {number : Nat} (linked : Linked disk path number)
    (place : Place) (other : Nat) (free : disk.isDirectory place = false)
    (apart : ∀ number, disk.entries[place]? ≠ some (.database number)) :
    Linked (disk.put place (.database other)) path number := by
  obtain ⟨home, takes, found⟩ := linked
  have differs : place ≠ home := by
    rintro rfl
    exact apart number found
  refine ⟨home, takes.of_sameDirectories (Disk.sameDirectories_put (.database other) nofun free), ?_⟩
  rw [Disk.put, Std.ExtTreeMap.getElem?_insert, if_neg (by simpa using differs)]
  exact found

theorem Linked.connect {host : Host} {path : List String} {number : Nat} (linked : Linked host.disk path number)
    (source : Source) : Linked (connect host source).2.disk path number := by
  rcases connect_cases host source with ⟨same, -⟩ | ⟨_, place, other, -, takes, apart, -, written⟩
  · rwa [same]
  · rw [written]
    exact linked.put place other takes.2 apart

theorem linked_of_connect {host : Host} {path : List String} {number : Nat}
    (opened : (connect host (.file path)).1 = .ok number) : Linked (connect host (.file path)).2.disk path number := by
  rcases connect_cases host (.file path) with ⟨same, links⟩ | ⟨_, place, other, this, takes, -, made, written⟩
  · rw [same]
    exact links path rfl number opened
  · cases this
    cases made.symm.trans opened
    rw [written]
    refine ⟨place, takes.of_sameDirectories (Disk.sameDirectories_put (.database number) nofun takes.2), ?_⟩
    rw [Disk.put, Std.ExtTreeMap.getElem?_insert_self]

theorem disk_storeLoad (host : Host) (source : Source) (opening server world : String) :
    (Store.load host source opening server world).2.disk = (connect host source).2.disk := by
  unfold Store.load
  split
  · next opened => rw [opened]
  · next opened =>
    rw [opened]
    dsimp only
    split
    · split <;> rfl
    · rfl

theorem Store.host_write (store : Store) (host : Host) (change : Tables → Except StorageError Tables) :
    (store.write host change).2 = host ∨
      ∃ database, (store.write host change).2 = host.setDatabase store.database database := by
  unfold Store.write
  split
  · split
    · exact .inl rfl
    · split
      · exact .inl rfl
      · split
        · exact .inl rfl
        · exact .inr ⟨_, rfl⟩
  · exact .inl rfl

theorem Store.disk_write (store : Store) (host : Host) (change : Tables → Except StorageError Tables) :
    (store.write host change).2.disk = host.disk := by
  rcases store.host_write host change with same | ⟨database, same⟩
  · rw [same]
  · rw [same, Host.setDatabase]

theorem Store.clock_write (store : Store) (host : Host) (change : Tables → Except StorageError Tables) :
    (store.write host change).2.clock = host.clock := by
  rcases store.host_write host change with same | ⟨database, same⟩
  · rw [same]
  · rw [same, Host.setDatabase]

theorem disk_creditAll (store : Store) (host : Host) (deltas : List (PlayerId × Int64)) :
    (store.creditAll host deltas).2.disk = host.disk := store.disk_write host _

end Sql

end Playtime
