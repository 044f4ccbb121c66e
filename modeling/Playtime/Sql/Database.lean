import Std.Data.ExtTreeMap
import Playtime.Arithmetic
import Playtime.Sql.Calendar
import Playtime.Sql.TableName
import Playtime.StorageError

/-!
The tables of a deployment and what each statement does to them. Rows are never deleted, so a row's number is
its place in its table.

A player row is a player known by name or by time; the interval rows carry the time, and the seconds of a player
are the sum of the lengths of the player's intervals.
-/

namespace Playtime.Sql

/-- Bytes under which a player row is kept; nothing but the program's own writes makes them sixteen. -/
abbrev Key := List UInt8

structure PlayerRow where
  key : Key
  name : Option String
deriving DecidableEq, Repr

structure WorldRow where
  server : Nat
  name : String
deriving DecidableEq, Repr

structure IntervalRow where
  player : Nat
  world : Nat
  joined : Timestamp
  left : Timestamp
deriving DecidableEq, Repr

namespace IntervalRow

def seconds (row : IntervalRow) : Int := row.left.seconds - row.joined.seconds

def sum : List IntervalRow → Int
  | [] => 0
  | row :: rest => row.seconds + sum rest

end IntervalRow

structure StatisticRow where
  name : String
  calculated : Timestamp
  result : Int64
deriving DecidableEq, Repr

structure Tables where
  players : List PlayerRow
  servers : List String
  worlds : List WorldRow
  intervals : List IntervalRow
  statistics : List StatisticRow
deriving DecidableEq, Repr

namespace Tables

def empty : Tables := ⟨[], [], [], [], []⟩

def keyOfName? (tables : Tables) (name : String) : Option Key :=
  (tables.players.find? fun row => row.name = some name).map (·.key)

def nameOfKey? (tables : Tables) (key : Key) : Option String :=
  (tables.players.find? fun row => row.key = key).bind (·.name)

def names (tables : Tables) : List String := tables.players.filterMap (·.name)

def revoke (tables : Tables) (name : String) : Tables :=
  { tables with
    players := tables.players.map fun row => if row.name = some name then { row with name := none } else row }

/-- Names the player of a key, adding the row if there is none; refused while another row holds the name. -/
def upsertName? (tables : Tables) (key : Key) (name : String) : Option Tables :=
  if tables.players.any fun row => row.key ≠ key && row.name = some name then none
  else if tables.players.any fun row => row.key = key then
    some { tables with
      players := tables.players.map fun row => if row.key = key then { row with name := some name } else row }
  else some { tables with players := tables.players ++ [⟨key, some name⟩] }

/-- Gives a name to a player. Another holder loses it first when `override` is set, and refuses it otherwise. -/
def assignName (tables : Tables) (key : Key) (name : String) (override : Bool) :
    Except StorageError Tables :=
  let freed : Except StorageError Tables :=
    match tables.keyOfName? name with
    | none => .ok tables
    | some holder =>
      if holder = key then .ok tables
      else if override then .ok (tables.revoke name)
      else .error .nameTaken
  match freed with
  | .error error => .error error
  | .ok freed =>
    match freed.upsertName? key name with
    | none => .error .databaseFailure
    | some named => .ok named

def assignNames (tables : Tables) : List (Key × String) → Except StorageError Tables
  | [] => .ok tables
  | (key, name) :: rest =>
    match tables.assignName key name true with
    | .error error => .error error
    | .ok named => named.assignNames rest

def ensurePlayer (tables : Tables) (key : Key) : Tables :=
  if tables.players.any fun row => row.key = key then tables
  else { tables with players := tables.players ++ [⟨key, none⟩] }

/-- Adds an interval for the player of a key; nothing is added for a key without a row. -/
def insertInterval (tables : Tables) (key : Key) (world : Nat) (joined left : Timestamp) : Tables :=
  match tables.players.findIdx? fun row => row.key = key with
  | none => tables
  | some player => { tables with intervals := tables.intervals ++ [⟨player, world, joined, left⟩] }

def intervalsOf (tables : Tables) (player : Nat) : List IntervalRow :=
  tables.intervals.filter fun row => row.player = player

def sum? (rows : List IntervalRow) : Option Int :=
  if rows.isEmpty then none else some (IntervalRow.sum rows)

def secondsOf? (tables : Tables) (key : Key) : Option Int :=
  match tables.players.findIdx? fun row => row.key = key with
  | none => none
  | some player => sum? (tables.intervalsOf player)

def totals (tables : Tables) : List (Key × Int) :=
  tables.players.zipIdx.filterMap fun (row, player) =>
    (sum? (tables.intervalsOf player)).map fun seconds => (row.key, seconds)

def grandTotal (tables : Tables) : Int := IntervalRow.sum tables.intervals

def ensureServer (tables : Tables) (name : String) : Tables :=
  if name ∈ tables.servers then tables else { tables with servers := tables.servers ++ [name] }

def ensureWorld (tables : Tables) (row : WorldRow) : Tables :=
  if row ∈ tables.worlds then tables else { tables with worlds := tables.worlds ++ [row] }

def register (tables : Tables) (server world : String) : Tables × Nat :=
  let known := tables.ensureServer server
  let row : WorldRow := ⟨known.servers.idxOf server, world⟩
  let placed := known.ensureWorld row
  (placed, placed.worlds.idxOf row)

def storeStatistic (tables : Tables) (row : StatisticRow) : Tables :=
  let same := fun other : StatisticRow => other.name = row.name && other.calculated = row.calculated
  if tables.statistics.any same then
    { tables with statistics := tables.statistics.map fun other => if same other then row else other }
  else { tables with statistics := tables.statistics ++ [row] }

/-- Of two statistics the one whose time has the greater text. -/
def later (best : Option StatisticRow) (row : StatisticRow) : Option StatisticRow :=
  match best with
  | none => some row
  | some kept => if kept.calculated.rank < row.calculated.rank then some row else some kept

def latestStatistic? (tables : Tables) (name : String) : Option StatisticRow :=
  (tables.statistics.filter fun row => row.name = name).foldl later none

end Tables

structure Deployment where
  /-- The stem as its tables were created under it; stems that differ in case only are one. -/
  spelling : String
  tables : Tables
deriving DecidableEq, Repr

abbrev Database := Std.ExtTreeMap String Deployment compare

namespace Database

def tables? (database : Database) (stem : String) : Option Tables := (database[foldCase stem]?).map (·.tables)

def setTables (database : Database) (stem : String) (tables : Tables) : Database :=
  database.modify (foldCase stem) fun deployment => { deployment with tables }

def createTables (database : Database) (stem : String) : Database :=
  database.insertIfNew (foldCase stem) ⟨stem, .empty⟩

end Database

end Playtime.Sql
