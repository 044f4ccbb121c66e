import Playtime.Host
import Playtime.Ledger
import Playtime.Sql.Database

namespace Playtime.Sql

inductive Source where
  | file (path : List String)
  /-- A new database that no one else can open. -/
  | memory
  /-- One that is not opened, for a reason of its own. -/
  | refused (error : StorageError)

/--
The source that a text names in a working directory. Without a text, or under a name of its own, a database is kept in
memory. What a URI names is for the library that opens databases to say.
-/
def Source.ofText (home : String) (uris : String → Source) (text : String) : Source :=
  if text = "" || text = ":memory:" then .memory
  else if "file:".toList.isPrefixOf text.toList then uris text
  else .file (Path.ofText (Path.join home text))

structure Store where
  database : Nat
  stem : String
  world : Nat
  isOpen : Bool
deriving DecidableEq, Repr

structure Statistic where
  name : String
  calculated : Int64
  result : Int64
deriving DecidableEq, Repr

/-- Drops each component that a double dot takes back, whether or not it exists. -/
def stepBack (path : List String) : List String :=
  path.foldl (fun taken component => if component = ".." then taken.dropLast else taken ++ [component]) []

/-- Opens a database. A file without content becomes one; a file with other content is none. -/
def connect (host : Host) : Source → Except StorageError Nat × Host
  | .memory =>
    match host.newDatabase with
    | (number, host) => (.ok number, host)
  | .refused error => (.error error, host)
  | .file path =>
    match host.disk.locate (stepBack path) with
    | .reached place =>
      if host.disk.isDirectory place then (.error .databaseUnopened, host)
      else
        match host.disk.entries[place]? with
        | some (.database number) => (.ok number, host)
        | some (.file (_ :: _)) => (.error .databaseFailure, host)
        | _ =>
          match host.newDatabase with
          | (number, host) => (.ok number, { host with disk := host.disk.put place (.database number) })
    | _ => (.error .databaseUnopened, host)

namespace Store

def load (host : Host) (source : Source) (opening server world : String) : Except StorageError Store × Host :=
  match connect host source with
  | (.error error, host) => (.error error, host)
  | (.ok number, host) =>
    match stem? opening, host.database? number with
    | some stem, some database =>
      let created := database.createTables stem
      match created.tables? stem with
      | none => (.error .databaseFailure, host)
      | some tables =>
        match tables.register server world with
        | (registered, row) =>
          (.ok ⟨number, stem, row, true⟩, host.setDatabase number (created.setTables stem registered))
    | _, _ => (.error .databaseFailure, host)

def close (store : Store) : Store := { store with isOpen := false }

def tables? (store : Store) (host : Host) : Option Tables :=
  (host.database? store.database).bind fun database => database.tables? store.stem

def read {α : Type} (store : Store) (host : Host) (f : Tables → Except StorageError α) :
    Except StorageError α :=
  if store.isOpen then
    match store.tables? host with
    | none => .error .databaseFailure
    | some tables => f tables
  else .error .closed

def write (store : Store) (host : Host) (change : Tables → Except StorageError Tables) :
    Except StorageError Unit × Host :=
  if store.isOpen then
    match host.database? store.database with
    | none => (.error .databaseFailure, host)
    | some database =>
      match database.tables? store.stem with
      | none => (.error .databaseFailure, host)
      | some tables =>
        match change tables with
        | .error error => (.error error, host)
        | .ok changed => (.ok (), host.setDatabase store.database (database.setTables store.stem changed))
  else (.error .closed, host)

def identifier (key : Key) : Except StorageError PlayerId :=
  match PlayerId.ofBytes? key with
  | some id => .ok id
  | none => .error .malformedIdentifier

def holder? (store : Store) (host : Host) (name : String) : Except StorageError (Option PlayerId) :=
  store.read host fun tables =>
    match tables.keyOfName? name with
    | none => .ok none
    | some key => (identifier key).map some

def nameOf? (store : Store) (host : Host) (id : PlayerId) : Except StorageError (Option String) :=
  store.read host fun tables => .ok (tables.nameOfKey? id.toBytes)

def setName (store : Store) (host : Host) (id : PlayerId) (text : String) (override : Bool) :
    Except StorageError Unit × Host :=
  store.write host fun tables =>
    match PlayerName.ofText text with
    | .error fault => .error (.invalidName fault)
    | .ok name => tables.assignName id.toBytes name.text override

def setNames (store : Store) (host : Host) (entries : List (PlayerId × String)) :
    Except StorageError Unit × Host :=
  store.write host fun tables =>
    match PlayerName.acceptAll entries with
    | .error fault => .error (.invalidName fault)
    | .ok accepted => tables.assignNames (accepted.map fun entry => (entry.1.toBytes, entry.2.text))

def names (store : Store) (host : Host) : Except StorageError (List String) :=
  store.read host fun tables => .ok tables.names

def sum (exact : Int) : Except StorageError Int64 :=
  match int64? exact with
  | some seconds => .ok seconds
  | none => .error .databaseFailure

def seconds? (store : Store) (host : Host) (id : PlayerId) : Except StorageError (Option Int64) :=
  store.read host fun tables =>
    match tables.secondsOf? id.toBytes with
    | none => .ok none
    | some exact => (sum exact).map some

/-- The join time of an interval of some seconds that ends at a second. It lies in a year of four digits. -/
def joined (id : PlayerId) (delta left : Int64) : Except StorageError Timestamp :=
  match Timestamp.ofUnix? (left.toInt - delta.toInt) with
  | none => .error (.outOfRange id delta)
  | some joined => if joined.seconds < yearZero then .error (.outOfRange id delta) else .ok joined

/-- The intervals of a batch that end at a second, one for every delta but zero. -/
def joinedAll (left : Int64) : List (PlayerId × Int64) → Except StorageError (List (PlayerId × Timestamp))
  | [] => .ok []
  | (id, delta) :: rest =>
    if delta = 0 then joinedAll left rest
    else
      match joined id delta left with
      | .error error => .error error
      | .ok first => (joinedAll left rest).map fun others => (id, first) :: others

def record (tables : Tables) (world : Nat) (left : Timestamp) : List (PlayerId × Timestamp) → Tables
  | [] => tables
  | (id, joined) :: rest =>
    record ((tables.ensurePlayer id.toBytes).insertInterval id.toBytes world joined left) world left rest

def creditAll (store : Store) (host : Host) (deltas : List (PlayerId × Int64)) :
    Except StorageError Unit × Host :=
  store.write host fun tables =>
    match joinedAll host.seconds deltas, Timestamp.ofUnix? host.seconds.toInt with
    | .error error, _ => .error error
    | .ok [], _ => .ok tables
    | .ok (_ :: _), none => .error .databaseFailure
    | .ok intervals, some left => .ok (record tables store.world left intervals)

def credit (store : Store) (host : Host) (id : PlayerId) (delta : Int64) : Except StorageError Unit × Host :=
  store.creditAll host [(id, delta)]

def sums : List (Key × Int) → Except StorageError (List (Key × Int64))
  | [] => .ok []
  | (key, exact) :: rest =>
    match sum exact with
    | .error error => .error error
    | .ok seconds => (sums rest).map fun others => (key, seconds) :: others

def collect (totals : Totals) : List (Key × Int64) → Except StorageError Totals
  | [] => .ok totals
  | (key, seconds) :: rest =>
    match identifier key with
    | .error error => .error error
    | .ok id => collect (totals.insert id seconds) rest

def totals (store : Store) (host : Host) : Except StorageError Totals :=
  store.read host fun tables =>
    match sums tables.totals with
    | .error error => .error error
    | .ok entries => collect ∅ entries

def grandTotal (store : Store) (host : Host) : Except StorageError Int64 :=
  store.read host fun tables => sum tables.grandTotal

instance : Ledger (Store × Host) where
  seconds? state id := state.1.seconds? state.2 id
  totals state := state.1.totals state.2
  credit state id delta :=
    match state.1.credit state.2 id delta with
    | (outcome, host) => (outcome, state.1, host)
  creditAll state deltas :=
    match state.1.creditAll state.2 deltas with
    | (outcome, host) => (outcome, state.1, host)
  close state := (state.1.close, state.2)

def storeStatistic (store : Store) (host : Host) (statistic : Statistic) : Except StorageError Unit × Host :=
  store.write host fun tables =>
    match Timestamp.ofUnix? statistic.calculated.toInt with
    | none => .error .databaseFailure
    | some calculated => .ok (tables.storeStatistic ⟨statistic.name, calculated, statistic.result⟩)

def latestStatistic? (store : Store) (host : Host) (name : String) : Except StorageError (Option Statistic) :=
  store.read host fun tables =>
    .ok ((tables.latestStatistic? name).map fun row =>
      ⟨row.name, Int64.ofInt row.calculated.seconds, row.result⟩)

end Store

end Playtime.Sql
