import Playtime.Proofs.Tables.Acts

namespace Playtime.Sql

structure Registration where
  number : Nat
  server : String
  world : String
deriving DecidableEq, Repr

namespace Tables

variable {tables changed : Tables}

def places (tables : Tables) : List (Option String × String) :=
  tables.worlds.map fun row => (tables.servers[row.server]?, row.name)

/-- Tables that stores with these registrations have registered in, with these intervals by player and place. -/
structure Registers (tables : Tables) (registrations : List Registration)
    (history : List (PlayerId × String × String)) : Prop where
  regular : tables.Regular
  servers : tables.servers.Nodup
  mem_servers (name : String) : name ∈ tables.servers ↔ ∃ registration ∈ registrations, registration.server = name
  places : tables.places.Nodup
  mem_places (place : Option String × String) :
    place ∈ tables.places ↔ ∃ registration ∈ registrations, place = (some registration.server, registration.world)
  world (registration : Registration) (member : registration ∈ registrations) :
    tables.places[registration.number]? = some (some registration.server, registration.world)
  intervals : (tables.stays.map fun stay => (stay.player, tables.places[stay.world]?)) =
    history.map fun entry => (some entry.1.toBytes, some (some entry.2.1, entry.2.2))

theorem registers_empty : Registers .empty [] [] where
  regular := regular_of_nobody rfl rfl
  servers := List.nodup_nil
  mem_servers := by simp [Tables.empty]
  places := List.nodup_nil
  mem_places := by simp [Tables.empty, Tables.places]
  world := nofun
  intervals := rfl

structure Registered (tables : Tables) (server world : String) (changed : Tables) (number : Nat) : Prop where
  players : changed.players = tables.players
  intervals : changed.intervals = tables.intervals
  statistics : changed.statistics = tables.statistics
  servers : changed.servers = if server ∈ tables.servers then tables.servers else tables.servers ++ [server]
  places : changed.places =
    if (some server, world) ∈ tables.places then tables.places else tables.places ++ [(some server, world)]
  number : changed.places[number]? = some (some server, world)

def Placed (tables : Tables) : Prop := ∀ row ∈ tables.worlds, (tables.servers[row.server]?).isSome = true

theorem servers_ensureServer (tables : Tables) (server : String) :
    (tables.ensureServer server).servers =
      if server ∈ tables.servers then tables.servers else tables.servers ++ [server] := by
  unfold ensureServer
  split <;> rfl

theorem mem_ensureServer (tables : Tables) (server : String) : server ∈ (tables.ensureServer server).servers := by
  rw [servers_ensureServer]
  split
  · assumption
  · simp

theorem nodup_ensureServer (nodup : tables.servers.Nodup) (server : String) :
    (tables.ensureServer server).servers.Nodup := by
  rw [servers_ensureServer]
  split
  · exact nodup
  · next new => exact List.concat_eq_append ▸ nodup.concat new

theorem places_ensureServer (placed : tables.Placed) (server : String) :
    (tables.ensureServer server).places = tables.places := by
  have worlds : (tables.ensureServer server).worlds = tables.worlds := by
    unfold ensureServer
    split <;> rfl
  unfold Tables.places
  rw [worlds]
  refine List.map_congr_left fun row member => ?_
  obtain ⟨name, found⟩ := Option.isSome_iff_exists.mp (placed row member)
  obtain ⟨inside, -⟩ := List.getElem?_eq_some_iff.mp found
  rw [servers_ensureServer]
  split
  · rfl
  · rw [List.getElem?_append_left inside]

theorem row_mem_worlds_iff (nodup : tables.servers.Nodup) {number : Nat} {server : String}
    (found : tables.servers[number]? = some server) (world : String) :
    (⟨number, world⟩ : WorldRow) ∈ tables.worlds ↔ (some server, world) ∈ tables.places := by
  unfold Tables.places
  rw [List.mem_map]
  constructor
  · intro member
    exact ⟨_, member, by rw [found]⟩
  · rintro ⟨⟨other, name⟩, member, same⟩
    obtain ⟨at_, rfl⟩ := Prod.mk.inj same
    obtain ⟨inside, -⟩ := List.getElem?_eq_some_iff.mp found
    rwa [(List.getElem?_inj inside nodup).mp (found.trans at_.symm)]

theorem registered_register (nodup : tables.servers.Nodup) (placed : tables.Placed) (server world : String) :
    tables.Registered server world (tables.register server world).1 (tables.register server world).2 := by
  have found : (tables.ensureServer server).servers[(tables.ensureServer server).servers.idxOf server]? = some server :=
    List.getElem?_idxOf (tables.mem_ensureServer server)
  have known := row_mem_worlds_iff (nodup_ensureServer nodup server) found world
  have places := places_ensureServer placed server
  have servers := tables.servers_ensureServer server
  have others : (tables.ensureServer server).players = tables.players ∧
      (tables.ensureServer server).intervals = tables.intervals ∧
      (tables.ensureServer server).statistics = tables.statistics := by
    unfold ensureServer
    split <;> exact ⟨rfl, rfl, rfl⟩
  unfold register
  generalize tables.ensureServer server = ensured at *
  dsimp only
  generalize rowed : (⟨ensured.servers.idxOf server, world⟩ : WorldRow) = row at *
  have resolved : (ensured.servers[row.server]?, row.name) = (some server, world) := by
    rw [← rowed]
    exact congrArg (·, world) found
  rw [places] at known
  unfold ensureWorld
  split
  · next old =>
    refine ⟨others.1, others.2.1, others.2.2, servers, ?_, ?_⟩
    · rw [if_pos (known.mp old), places]
    · rw [Tables.places, List.getElem?_map, List.getElem?_idxOf old, Option.map_some, resolved]
  · next new =>
    refine ⟨others.1, others.2.1, others.2.2, servers, ?_, ?_⟩
    · rw [if_neg fun old => new (known.mpr old), ← places, ← resolved]
      exact List.map_append
    · have last : row ∈ ensured.worlds ++ [row] := by simp
      rw [Tables.places, List.getElem?_map, List.getElem?_idxOf last, Option.map_some]
      exact congrArg some resolved

theorem Registered.mem_servers {server world : String} {number : Nat}
    (registered : tables.Registered server world changed number) (name : String) :
    name ∈ changed.servers ↔ name ∈ tables.servers ∨ server = name := by
  rw [registered.servers]
  split
  · next old =>
    refine ⟨.inl, ?_⟩
    rintro (inside | rfl)
    · exact inside
    · exact old
  · rw [List.mem_append, List.mem_singleton, eq_comm (a := name)]

theorem Registered.mem_places {server world : String} {number : Nat}
    (registered : tables.Registered server world changed number) (place : Option String × String) :
    place ∈ changed.places ↔ place ∈ tables.places ∨ place = (some server, world) := by
  rw [registered.places]
  split
  · next old =>
    refine ⟨.inl, ?_⟩
    rintro (inside | rfl)
    · exact inside
    · exact old
  · rw [List.mem_append, List.mem_singleton]

theorem Registered.place_of_old {server world : String} {number : Nat}
    (registered : tables.Registered server world changed number) {old : Nat} {place : Option String × String}
    (found : tables.places[old]? = some place) : changed.places[old]? = some place := by
  obtain ⟨inside, -⟩ := List.getElem?_eq_some_iff.mp found
  rw [registered.places]
  split
  · exact found
  · rwa [List.getElem?_append_left inside]

theorem Regular.of_fields (regular : tables.Regular) (players : changed.players = tables.players)
    (intervals : changed.intervals = tables.intervals) : changed.Regular where
  keyed := regular.keyed.of_keys (by rw [players])
  owned := by
    unfold Owned
    rw [players, intervals]
    exact regular.owned
  single held heldToo := by
    rw [players] at held heldToo
    exact regular.single held heldToo

variable {registrations : List Registration} {history : List (PlayerId × String × String)}

theorem Registers.placed (registers : tables.Registers registrations history) : tables.Placed := by
  intro row member
  obtain ⟨registration, -, same⟩ := (registers.mem_places _).mp (List.mem_map_of_mem member)
  rw [(Prod.mk.inj same).1]
  rfl

theorem Registers.number_eq_iff (registers : tables.Registers registrations history) {first second : Registration}
    (member : first ∈ registrations) (memberToo : second ∈ registrations) :
    first.number = second.number ↔ first.server = second.server ∧ first.world = second.world := by
  have place := registers.world first member
  have placeToo := registers.world second memberToo
  constructor
  · intro same
    rw [same, placeToo] at place
    obtain ⟨server, world⟩ := Prod.mk.inj (Option.some.inj place)
    exact ⟨(Option.some.inj server).symm, world.symm⟩
  · rintro ⟨server, world⟩
    obtain ⟨inside, -⟩ := List.getElem?_eq_some_iff.mp place
    rw [← server, ← world] at placeToo
    exact (List.getElem?_inj inside registers.places).mp (place.trans placeToo.symm)

theorem Registers.place_of_stay (registers : tables.Registers registrations history) {stay : Stay}
    (member : stay ∈ tables.stays) : ∃ place, tables.places[stay.world]? = some place := by
  have inside := List.mem_map_of_mem (f := fun stay => (stay.player, tables.places[stay.world]?)) member
  rw [registers.intervals] at inside
  obtain ⟨entry, -, same⟩ := List.mem_map.mp inside
  exact ⟨_, (Prod.mk.inj same).2.symm⟩

/-- A store that is opened registers the world that it is opened for, and takes nothing from the others. -/
theorem Registers.register (registers : tables.Registers registrations history) (server world : String) :
    (tables.register server world).1.Registers (registrations ++ [⟨(tables.register server world).2, server, world⟩])
      history := by
  have registered := registered_register registers.servers registers.placed server world
  generalize tables.register server world = result at *
  obtain ⟨changed, number⟩ := result
  dsimp only at registered ⊢
  have stays : changed.stays = tables.stays := by
    unfold Tables.stays Tables.stayOf
    rw [registered.players, registered.intervals]
  refine ⟨registers.regular.of_fields registered.players registered.intervals, ?_, fun name => ?_, ?_, fun place => ?_,
    fun registration member => ?_, ?_⟩
  · rw [registered.servers]
    split
    · exact registers.servers
    · next new => exact List.concat_eq_append ▸ registers.servers.concat new
  · simp [registered.mem_servers, registers.mem_servers, or_and_right, exists_or]
  · rw [registered.places]
    split
    · exact registers.places
    · next new => exact List.concat_eq_append ▸ registers.places.concat new
  · simp [registered.mem_places, registers.mem_places, or_and_right, exists_or]
  · rcases List.mem_append.mp member with old | new
    · exact registered.place_of_old (registers.world registration old)
    · rw [List.mem_singleton.mp new]
      exact registered.number
  · rw [stays, ← registers.intervals]
    refine List.map_congr_left fun stay member => ?_
    obtain ⟨place, found⟩ := registers.place_of_stay member
    rw [found, registered.place_of_old found]

theorem registry_assignName {key : Key} {name : String} {override : Bool}
    (assigned : tables.assignName key name override = .ok changed) :
    changed.servers = tables.servers ∧ changed.worlds = tables.worlds := by
  have upsert (freed : Tables) (same : freed.servers = tables.servers ∧ freed.worlds = tables.worlds)
      (named : freed.upsertName? key name = some changed) :
      changed.servers = tables.servers ∧ changed.worlds = tables.worlds := by
    unfold upsertName? at named
    split at named
    · cases named
    · split at named <;> cases named <;> exact same
  unfold assignName at assigned
  dsimp only at assigned
  split at assigned
  · cases assigned
  · next freed outcome =>
    split at assigned
    · cases assigned
    · next named =>
      cases assigned
      refine upsert freed ?_ named
      split at outcome
      · cases outcome
        exact ⟨rfl, rfl⟩
      · split at outcome
        · cases outcome
          exact ⟨rfl, rfl⟩
        · split at outcome <;> cases outcome
          exact ⟨rfl, rfl⟩

theorem Altered.registry {permitted : StatisticRow → Prop} (altered : Altered permitted tables changed) :
    changed.servers = tables.servers ∧ changed.worlds = tables.worlds := by
  induction altered with
  | refl => exact ⟨rfl, rfl⟩
  | record tables world left intervals =>
    induction intervals generalizing tables with
    | nil => exact ⟨rfl, rfl⟩
    | cons entry rest ih =>
      rw [Store.record, (ih _).1, (ih _).2]
      unfold insertInterval ensurePlayer
      split <;> split <;> exact ⟨rfl, rfl⟩
  | name id text override assigned => exact registry_assignName assigned
  | compute tables row allowed =>
    unfold storeStatistic
    dsimp only
    split <;> exact ⟨rfl, rfl⟩
  | trans _ _ first second => exact ⟨second.1.trans first.1, second.2.trans first.2⟩

theorem Registers.act (registers : tables.Registers registrations history) {registration : Registration}
    (member : registration ∈ registrations) {act : Act} (made : act.change registration.number tables = .ok changed) :
    changed.Registers registrations
      (history ++ act.credited.map fun id => (id, registration.server, registration.world)) := by
  obtain ⟨servers, worlds⟩ := (Act.altered made).registry
  have places : changed.places = tables.places := by rw [Tables.places, Tables.places, servers, worlds]
  have stays : changed.stays.map (fun stay => (stay.player, tables.places[stay.world]?)) =
      tables.stays.map (fun stay => (stay.player, tables.places[stay.world]?)) ++
        act.credited.map fun id => (some id.toBytes, some (some registration.server, registration.world)) := by
    by_cases apart : act.concern ≠ .times
    · rw [Act.stays_of_apart registers.regular.owned apart made, Act.credited_of_apart apart, List.map_nil,
        List.append_nil]
    · rcases Act.change_cases made with ⟨concern, -⟩ | ⟨-, batch, left, players, rfl⟩ | ⟨concern, -⟩
      · exact absurd (concern ▸ nofun) apart
      · rw [stays_record registers.regular.owned, List.map_append, List.map_map, ← players, List.map_map]
        congr 1
        refine List.map_congr_left fun entry _ => ?_
        simp [registers.world registration member]
      · exact absurd (concern ▸ nofun) apart
  refine ⟨(Act.altered made).regular registers.regular, ?_, ?_, ?_, ?_, ?_, ?_⟩
  · rw [servers]
    exact registers.servers
  · rw [servers]
    exact registers.mem_servers
  · rw [places]
    exact registers.places
  · rw [places]
    exact registers.mem_places
  · rw [places]
    exact registers.world
  · rw [places, stays, registers.intervals, List.map_append, List.map_map]
    rfl

end Tables

end Playtime.Sql
