import Playtime.Configuration
import Playtime.Environment.Variables

/-!
The settings of a node, each from a variable of its own or from a default. A variable that is no text, or no number
where a number is called for, counts as absent. Variables may also come from a file in the working directory or above.
-/

namespace Playtime

inductive Role where
  | hub
  | dependent
deriving DecidableEq, Repr

structure UnknownRole where
  word : String
deriving DecidableEq, Repr

namespace UnknownRole

def message (fault : UnknownRole) : String :=
  "unknown node role '" ++ fault.word ++ "' (expected 'master' or 'slave')"

end UnknownRole

namespace Role

def ofWord? : String → Option Role
  | "master" => some hub
  | "slave" => some dependent
  | _ => none

def ofText (text : String) : Except UnknownRole Role :=
  match ofWord? (Text.word text) with
  | some role => .ok role
  | none => .error ⟨Text.word text⟩

end Role

def natural? (text : String) : Option UInt64 :=
  let digits :=
    match text.toList with
    | '+' :: rest => rest
    | cs => cs
  if digits.isEmpty || !digits.all Char.isDigit then none
  else
    let number := Nat.ofDigitChars 10 digits 0
    if number < UInt64.size then some (UInt64.ofNat number) else none

/-- What a program finds around it beside its variables and the disk. -/
structure Surroundings where
  home : String
  /-- The databases that URIs name. -/
  uris : String → Sql.Source

structure Settings where
  role : String
  storageKind : String
  dataDirectory : String
  stem : String
  dialect : String
  databasePath : String
  server : String
  world : String
  /-- Seconds between two flushes. -/
  flushInterval : UInt64
  pollInterval : UInt64
deriving DecidableEq, Repr

namespace Settings

def default : Settings where
  role := "master"
  storageKind := "file"
  dataDirectory := "data"
  stem := "onlinetime_"
  dialect := "sqlite"
  databasePath := "onlinetime.db"
  server := "default"
  world := "world"
  flushInterval := 300
  pollInterval := 30

def variableNames : List String :=
  ["NODE_ROLE", "STORAGE_KIND", "DATA_DIR", "TABLE_PREFIX", "SQL_DIALECT", "SQL_DATABASE_PATH", "SERVER_NAME",
    "WORLD_NAME", "FLUSH_INTERVAL_SECS", "SYNC_POLL_INTERVAL_SECS"]

def ofVariables (environment : Variables) : Settings :=
  let text := fun name value => (environment.text? name).getD value
  let number := fun name value => ((environment.text? name).bind natural?).getD value
  { role := text "NODE_ROLE" default.role
    storageKind := text "STORAGE_KIND" default.storageKind
    dataDirectory := text "DATA_DIR" default.dataDirectory
    stem := text "TABLE_PREFIX" default.stem
    dialect := text "SQL_DIALECT" default.dialect
    databasePath := text "SQL_DATABASE_PATH" default.databasePath
    server := text "SERVER_NAME" default.server
    world := text "WORLD_NAME" default.world
    flushInterval := number "FLUSH_INTERVAL_SECS" default.flushInterval
    pollInterval := number "SYNC_POLL_INTERVAL_SECS" default.pollInterval }

def load (surroundings : Surroundings) (environment : Variables) (disk : Disk) : Settings :=
  match disk.readFirst ((Path.upward (Path.ofText surroundings.home)).map (· ++ [".env"])) with
  | .content bytes => ofVariables (Environment.load environment bytes)
  | _ => ofVariables environment

def directory (settings : Settings) (surroundings : Surroundings) : String :=
  Path.join surroundings.home settings.dataDirectory

def database (settings : Settings) (surroundings : Surroundings) : Sql.Source :=
  .ofText surroundings.home surroundings.uris settings.databasePath

/-- The configuration of the storages. A dialect must be known even if no database is used. -/
def configuration (settings : Settings) (surroundings : Surroundings) : Except ConfigurationFault Configuration :=
  match StorageKind.ofText settings.storageKind with
  | .error fault => .error fault
  | .ok kind =>
    match Sql.Dialect.ofText settings.dialect with
    | .error fault => .error fault
    | .ok dialect =>
      .ok ⟨kind, settings.directory surroundings, settings.stem, dialect, settings.database surroundings,
        settings.server, settings.world⟩

end Settings

end Playtime
