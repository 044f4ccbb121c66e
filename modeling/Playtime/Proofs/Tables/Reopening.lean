import Playtime.Proofs.Tables.Registry

namespace Playtime.Sql

structure Tenant where
  store : Store
  server : String
  world : String

namespace Tenant

def registration (tenant : Tenant) : Registration := ⟨tenant.store.world, tenant.server, tenant.world⟩

def close (tenant : Tenant) : Tenant := { tenant with store := tenant.store.close }

end Tenant

inductive Visit where
  | load (server world : String)
  | act (number : Nat) (act : Act)
  | close (number : Nat)
deriving DecidableEq, Repr

/-- A host and all the stores that have been opened on it, closed ones among them. -/
abbrev Fleet := Host × List Tenant

namespace Fleet

def load (path : List String) (opening : String) (fleet : Fleet) (server world : String) : Fleet :=
  match Store.load fleet.1 (.file path) opening server world with
  | (.error _, host) => (host, fleet.2)
  | (.ok store, host) => (host, fleet.2 ++ [⟨store, server, world⟩])

def act (fleet : Fleet) (number : Nat) (act : Act) : Except StorageError Unit × Fleet :=
  match fleet.2[number]? with
  | none => (.error .closed, fleet) -- There is no such store.
  | some tenant =>
    match tenant.store.perform fleet.1 act with
    | (outcome, host) => (outcome, host, fleet.2)

def close (fleet : Fleet) (number : Nat) : Fleet := (fleet.1, fleet.2.modify number Tenant.close)

def visit (path : List String) (opening : String) (fleet : Fleet) : Visit → Fleet
  | .load server world => fleet.load path opening server world
  | .act number act => (fleet.act number act).2
  | .close number => fleet.close number

def run (path : List String) (opening : String) (fleet : Fleet) : List Visit → Fleet
  | [] => fleet
  | visit :: later => run path opening (fleet.visit path opening visit) later

def recorded (fleet : Fleet) : Visit → List (PlayerId × String × String)
  | .act number act =>
    match fleet.2[number]? with
    | none => []
    | some tenant =>
      if (fleet.act number act).1.isOk = true then act.credited.map fun id => (id, tenant.server, tenant.world) else []
  | .load _ _ | .close _ => []

def history (path : List String) (opening : String) (fleet : Fleet) : List Visit → List (PlayerId × String × String)
  | [] => []
  | visit :: later => fleet.recorded visit ++ history path opening (fleet.visit path opening visit) later

end Fleet

theorem connect_refused {host : Host} {path : List String} {error : StorageError}
    (refused : (connect host (.file path)).1 = .error error) : (connect host (.file path)).2 = host := by
  unfold connect at *
  dsimp only at *
  split
  · next place reached =>
    split
    · rfl
    · next free =>
      rw [reached] at refused
      dsimp only at refused
      rw [if_neg free] at refused
      split
      · rfl
      · rfl
      · next noDatabase noContent =>
        split at refused
        · next number found => exact absurd found (noDatabase number)
        · next byte bytes found => exact absurd found (noContent byte bytes)
        · cases refused
  · rfl

theorem connect_storeLoad (host : Host) (path : List String) (opening server world : String) :
    (connect (Store.load host (.file path) opening server world).2 (.file path)).1 = (connect host (.file path)).1 := by
  have disk := disk_storeLoad host (.file path) opening server world
  cases outcome : (connect host (.file path)).1 with
  | ok number =>
    have linked := linked_of_connect outcome
    rw [← disk] at linked
    rw [connect_of_linked linked]
  | error error =>
    have same : (Store.load host (.file path) opening server world).2 = host := by
      have unchanged := connect_refused outcome
      unfold Store.load
      generalize connect host (.file path) = connection at *
      obtain ⟨_, opened⟩ := connection
      cases outcome
      exact unchanged
    rw [same, outcome]

namespace Fleet

variable {path : List String} {opening : String} {place : TablePlace} {fleet : Fleet}
  {history : List (PlayerId × String × String)}

/-- All stores share the tables at a place, which hold what has been registered and recorded through them. -/
structure Kept (path : List String) (opening : String) (place : TablePlace) (fleet : Fleet)
    (history : List (PlayerId × String × String)) : Prop where
  way (number : Nat) (stem : String) (opened : (connect fleet.1 (.file path)).1 = .ok number)
    (named : stem? opening = some stem) : (number, foldCase stem) = place
  home (tenant : Tenant) (member : tenant ∈ fleet.2) : tenant.store.place = place ∧
    stem? opening = some tenant.store.stem ∧ Linked fleet.1.disk path place.1 ∧
    (tablesAt? fleet.1 place).isSome = true
  registers : ((tablesAt? fleet.1 place).getD .empty).Registers (fleet.2.map Tenant.registration) history

theorem Kept.load (kept : Kept path opening place fleet history) (server world : String) :
    Kept path opening place (fleet.load path opening server world) history := by
  have again := connect_storeLoad fleet.1 path opening server world
  have disk := disk_storeLoad fleet.1 (.file path) opening server world
  unfold Fleet.load
  rcases load_cases fleet.1 (.file path) opening server world with
    ⟨error, failed, tables⟩ | ⟨store, loaded, -, number, stem, row, tables⟩
  · generalize Store.load fleet.1 (.file path) opening server world = result at *
    obtain ⟨outcome, host⟩ := result
    cases failed
    dsimp only at *
    refine ⟨fun number stem opened => kept.way number stem (again ▸ opened), fun tenant member => ?_, ?_⟩
    · obtain ⟨same, named, linked, known⟩ := kept.home tenant member
      exact ⟨same, named, disk ▸ linked.connect (.file path), tables place ▸ known⟩
    · rw [tables]
      exact kept.registers
  · generalize Store.load fleet.1 (.file path) opening server world = result at *
    obtain ⟨outcome, host⟩ := result
    cases loaded
    dsimp only at *
    have here : store.place = place := kept.way store.database store.stem number stem
    have linked := linked_of_connect number
    rw [← disk] at linked
    have held := tables place
    rw [if_pos here] at held
    refine ⟨fun number stem opened => kept.way number stem (again ▸ opened), fun tenant member => ?_, ?_⟩
    · rw [held, ← here]
      rcases List.mem_append.mp member with old | new
      · obtain ⟨same, named, -, -⟩ := kept.home tenant old
        exact ⟨same.trans here.symm, named, linked, rfl⟩
      · rw [List.mem_singleton.mp new]
        exact ⟨rfl, stem, linked, rfl⟩
    · rw [held, Option.getD_some, List.map_append, List.map_singleton, Tenant.registration, row, here]
      exact kept.registers.register server world

theorem act_of_none {number : Nat} (none : fleet.2[number]? = .none) (act : Act) :
    fleet.act number act = (.error .closed, fleet) ∧ fleet.recorded (.act number act) = [] := by
  unfold recorded Fleet.act
  dsimp only
  rw [none]
  exact ⟨rfl, rfl⟩

theorem act_of_some {number : Nat} {tenant : Tenant} (found : fleet.2[number]? = some tenant) (act : Act) :
    fleet.act number act = ((tenant.store.perform fleet.1 act).1, (tenant.store.perform fleet.1 act).2, fleet.2) ∧
      fleet.recorded (.act number act) = if (tenant.store.perform fleet.1 act).1.isOk = true then
        act.credited.map fun id => (id, tenant.server, tenant.world) else [] := by
  unfold recorded Fleet.act
  dsimp only
  rw [found]
  exact ⟨rfl, rfl⟩

theorem Kept.of_disk (kept : Kept path opening place fleet history) {tenant : Tenant} (member : tenant ∈ fleet.2)
    {host : Host} (disk : host.disk = fleet.1.disk) (known : (tablesAt? host place).isSome = true)
    {history' : List (PlayerId × String × String)}
    (registers : ((tablesAt? host place).getD .empty).Registers (fleet.2.map Tenant.registration) history') :
    Kept path opening place (host, fleet.2) history' := by
  obtain ⟨here, named, linked, -⟩ := kept.home tenant member
  rw [← disk] at linked
  refine ⟨fun number stem opened named' => ?_, fun other inside => ?_, registers⟩
  · rw [connect_of_linked linked] at opened
    cases opened
    cases named'.symm.trans named
    rw [← here]
    rfl
  · obtain ⟨same, named, -, -⟩ := kept.home other inside
    exact ⟨same, named, linked, known⟩

theorem Kept.act (kept : Kept path opening place fleet history) (number : Nat) (act : Act) :
    Kept path opening place (fleet.act number act).2 (history ++ fleet.recorded (.act number act)) := by
  cases found : fleet.2[number]? with
  | none =>
    rw [(act_of_none found act).1, (act_of_none found act).2, List.append_nil]
    exact kept
  | some tenant =>
    have member := List.mem_of_getElem? found
    obtain ⟨here, -, -, known⟩ := kept.home tenant member
    have disk : (tenant.store.perform fleet.1 act).2.disk = fleet.1.disk := by
      rw [Store.perform_eq, Store.disk_write]
      cases act <;> rfl
    have met : tenant.store.tables? (act.meets fleet.1) = tablesAt? fleet.1 place := by
      rw [← here, ← Store.tables?_eq]
      cases act <;> rfl
    rw [(act_of_some found act).1, (act_of_some found act).2]
    cases outcome : (tenant.store.perform fleet.1 act).1 with
    | error error =>
      have same : tablesAt? (tenant.store.perform fleet.1 act).2 place = tablesAt? fleet.1 place := by
        rw [Store.perform_eq] at outcome ⊢
        rw [tenant.store.write_refused _ _ error outcome, ← met, ← here]
        rfl
      rw [if_neg (by simp [Except.isOk, Except.toBool]), List.append_nil]
      exact kept.of_disk member disk (same ▸ known) (same ▸ kept.registers)
    | ok =>
      rw [Store.perform_eq] at outcome
      obtain ⟨tables, changed, before, made, after⟩ := tenant.store.write_accepted _ _ outcome
      rw [← Store.perform_eq, Store.tables?_eq, here] at after
      have registers := kept.registers
      rw [← met, before, Option.getD_some] at registers
      rw [if_pos (by rfl)]
      refine kept.of_disk member disk (by rw [after]; rfl) ?_
      rw [after]
      exact registers.act (List.mem_map_of_mem member) made

theorem Kept.close (kept : Kept path opening place fleet history) (number : Nat) :
    Kept path opening place (fleet.close number) history := by
  have registrations :
      (fleet.2.modify number Tenant.close).map Tenant.registration = fleet.2.map Tenant.registration := by
    apply List.ext_getElem?
    intro other
    rw [List.getElem?_map, List.getElem?_map, List.getElem?_modify]
    cases fleet.2[other]? with
    | none => rfl
    | some tenant =>
      show some (Tenant.registration (if number = other then tenant.close else tenant)) = some tenant.registration
      split <;> rfl
  refine ⟨kept.way, fun tenant member => ?_, registrations ▸ kept.registers⟩
  change tenant ∈ fleet.2.modify number Tenant.close at member
  obtain ⟨other, found⟩ := List.getElem?_of_mem member
  rw [List.getElem?_modify] at found
  obtain ⟨before, inside, same⟩ := Option.map_eq_some_iff.mp found
  have home := kept.home before (List.mem_of_getElem? inside)
  rw [← same]
  split <;> exact home

theorem Kept.run (kept : Kept path opening place fleet history) (visits : List Visit) :
    Kept path opening place (fleet.run path opening visits) (history ++ fleet.history path opening visits) := by
  induction visits generalizing fleet history with
  | nil =>
    rw [Fleet.history, List.append_nil]
    exact kept
  | cons visit later ih =>
    rw [Fleet.history, ← List.append_assoc]
    apply ih
    cases visit with
    | load server world =>
      show Kept path opening place _ (history ++ [])
      rw [List.append_nil]
      exact kept.load server world
    | act number act => exact kept.act number act
    | close number =>
      show Kept path opening place _ (history ++ [])
      rw [List.append_nil]
      exact kept.close number

end Fleet

structure Store.ReadsSame (store : Store) (host other : Host) : Prop where
  holder (name : String) : store.holder? other name = store.holder? host name
  name (id : PlayerId) : store.nameOf? other id = store.nameOf? host id
  names : store.names other = store.names host
  seconds (id : PlayerId) : store.seconds? other id = store.seconds? host id
  totals : store.totals other = store.totals host
  grandTotal : store.grandTotal other = store.grandTotal host
  statistic (name : String) : store.latestStatistic? other name = store.latestStatistic? host name

theorem Tables.register_eq (tables : Tables) (server world : String) :
    ∃ servers worlds, (tables.register server world).1 = { tables with servers, worlds } := by
  unfold register ensureWorld ensureServer
  dsimp only
  split <;> split <;> exact ⟨_, _, rfl⟩

theorem Store.readsSame_load {store : Store} {host : Host} (known : (store.tables? host).isSome = true)
    (source : Source) (opening server world : String) :
    store.ReadsSame host (Store.load host source opening server world).2 := by
  obtain ⟨tables, held⟩ := Option.isSome_iff_exists.mp known
  have registered : ∃ servers worlds,
      store.tables? (Store.load host source opening server world).2 = some { tables with servers, worlds } := by
    rw [Store.tables?_eq] at held ⊢
    rcases load_cases host source opening server world with ⟨error, -, same⟩ | ⟨other, -, -, -, -, -, same⟩
    · rw [same, held]
      exact ⟨_, _, rfl⟩
    · rw [same, held]
      split
      · obtain ⟨servers, worlds, made⟩ := tables.register_eq server world
        exact ⟨servers, worlds, congrArg some made⟩
      · exact ⟨_, _, rfl⟩
  obtain ⟨servers, worlds, held'⟩ := registered
  have read {α : Type} (f : Tables → Except StorageError α) (same : f { tables with servers, worlds } = f tables) :
      store.read (Store.load host source opening server world).2 f = store.read host f := by
    rw [Store.read, Store.read, held, held']
    split
    · exact same
    · rfl
  exact ⟨fun _ => read _ rfl, fun _ => read _ rfl, read _ rfl, fun _ => read _ rfl, read _ rfl, read _ rfl,
    fun _ => read _ rfl⟩

namespace Fleet

theorem kept_of_fresh (host : Host) (path : List String) (opening : String)
    (fresh : ∀ number stem, (connect host (.file path)).1 = .ok number → stem? opening = some stem →
      tablesAt? host (number, foldCase stem) = none) : ∃ place, Kept path opening place (host, []) [] := by
  have empty (place : TablePlace) (none : tablesAt? host place = none)
      (way : ∀ number stem, (connect host (.file path)).1 = .ok number → stem? opening = some stem →
        (number, foldCase stem) = place) : Kept path opening place (host, []) [] :=
    ⟨way, nofun, by rw [none]; exact Tables.registers_empty⟩
  by_cases opens : ∃ number stem, (connect host (.file path)).1 = .ok number ∧ stem? opening = some stem
  · obtain ⟨number, stem, opened, named⟩ := opens
    refine ⟨_, empty (number, foldCase stem) (fresh number stem opened named) fun number' stem' opened' named' => ?_⟩
    cases opened.symm.trans opened'
    cases named.symm.trans named'
    rfl
  · -- Nothing is ever opened then, and any place without tables will do.
    refine ⟨_, empty (host.databases.length, "") ?_ fun number stem opened named => ?_⟩
    · rw [tablesAt?, Host.database?, List.getElem?_eq_none (Nat.le_refl _)]
      rfl
    · exact absurd ⟨number, stem, opened, named⟩ opens

/--
Stores of any servers and worlds are opened on one file under one opening, used and closed, in any order. Their tables
hold one row for each server and one for each world of a server among them, and every interval under its player at the
world of the store that recorded it. Stores have the same world number just when they are of the same world, and once
one has been opened every other is. To open one more changes no answer of those that are there.
-/
theorem reopening_keeps (host : Host) (path : List String) (opening : String) (visits : List Visit)
    (fresh : ∀ number stem, (connect host (.file path)).1 = .ok number → stem? opening = some stem →
      tablesAt? host (number, foldCase stem) = none) :
    let fleet := run path opening (host, []) visits
    (∀ tenant ∈ fleet.2, ∃ tables, tenant.store.tables? fleet.1 = some tables ∧
      tables.Registers (fleet.2.map Tenant.registration) (history path opening (host, []) visits)) ∧
    (∀ first ∈ fleet.2, ∀ second ∈ fleet.2,
      first.store.world = second.store.world ↔ first.server = second.server ∧ first.world = second.world) ∧
    (∀ tenant ∈ fleet.2, ∀ server world,
      ∃ store, (Store.load fleet.1 (.file path) opening server world).1 = .ok store) ∧
    ∀ tenant ∈ fleet.2, ∀ source opening server world,
      tenant.store.ReadsSame fleet.1 (Store.load fleet.1 source opening server world).2 := by
  intro fleet
  obtain ⟨place, start⟩ := kept_of_fresh host path opening fresh
  have kept : Kept path opening place fleet (history path opening (host, []) visits) := start.run visits
  have held (tenant : Tenant) (member : tenant ∈ fleet.2) : ∃ tables, tenant.store.tables? fleet.1 = some tables ∧
      tables.Registers (fleet.2.map Tenant.registration) (history path opening (host, []) visits) := by
    obtain ⟨here, -, -, known⟩ := kept.home tenant member
    obtain ⟨tables, found⟩ := Option.isSome_iff_exists.mp known
    have registers := kept.registers
    rw [found, Option.getD_some] at registers
    exact ⟨tables, by rw [Store.tables?_eq, here, found], registers⟩
  refine ⟨held, fun first member second memberToo => ?_, fun tenant member server world => ?_,
    fun tenant member source opening server world => ?_⟩
  · obtain ⟨tables, -, registers⟩ := held first member
    exact registers.number_eq_iff (List.mem_map_of_mem member) (List.mem_map_of_mem memberToo)
  · obtain ⟨here, named, linked, known⟩ := kept.home tenant member
    obtain ⟨tables, found, -⟩ := held tenant member
    rw [← here] at linked
    obtain ⟨again, after, loaded, -⟩ := Backend.storeLoad_of_known linked named found server world
    exact ⟨again, by rw [loaded]⟩
  · obtain ⟨tables, found, -⟩ := held tenant member
    exact Store.readsSame_load (by rw [found]; rfl) source opening server world

/--
Four stores of three worlds, two of a server and two of one name. The first is closed and its world opened again, and
the player is credited through both.
-/
theorem reopening_keeps_three_worlds :
    let player : PlayerId := ⟨7⟩
    let visits : List Visit := [.load "lobby" "world", .act 0 (.credit 3600000 player 60), .load "arena" "world",
      .act 1 (.setName player "Alice" false), .load "lobby" "nether", .close 0, .load "lobby" "world",
      .act 0 (.credit 3600000 player 5), .act 3 (.creditAll 7200000 [(player, -10), (⟨8⟩, 0)])]
    let fleet := run ["data.db"] "ot_" (⟨.empty, [], 0⟩, []) visits
    fleet.2.length = 4 ∧ ∀ tenant ∈ fleet.2,
      (∃ tables, tenant.store.tables? fleet.1 = some tables ∧ tables.Registers
        [⟨0, "lobby", "world"⟩, ⟨1, "arena", "world"⟩, ⟨2, "lobby", "nether"⟩, ⟨0, "lobby", "world"⟩]
        [(player, "lobby", "world"), (player, "lobby", "world")]) ∧
      tenant.store.ReadsSame fleet.1 (Store.load fleet.1 (.file ["data.db"]) "ot_" "arena" "desert").2 := by
  intro player visits fleet
  obtain ⟨held, -, -, reads⟩ := reopening_keeps ⟨.empty, [], 0⟩ ["data.db"] "ot_" visits fun _ _ _ _ => rfl
  have registrations : fleet.2.map Tenant.registration =
      [⟨0, "lobby", "world"⟩, ⟨1, "arena", "world"⟩, ⟨2, "lobby", "nether"⟩, ⟨0, "lobby", "world"⟩] := by
    decide +kernel
  have recorded : history ["data.db"] "ot_" (⟨.empty, [], 0⟩, []) visits =
      [(player, "lobby", "world"), (player, "lobby", "world")] := by decide +kernel
  rw [recorded] at held
  exact ⟨by decide +kernel, fun tenant member => ⟨registrations ▸ held tenant member, reads tenant member _ _ _ _⟩⟩

end Fleet

end Playtime.Sql
