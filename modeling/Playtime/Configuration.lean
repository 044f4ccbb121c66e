import Playtime.Sql.Dialect
import Playtime.Sql.Store
import Playtime.StorageError
import Playtime.Text.Blank

namespace Playtime

inductive StorageKind where
  | file
  | sql
deriving DecidableEq, Repr

namespace StorageKind

def ofWord? : String → Option StorageKind
  | "file" => some file
  | "yaml" => some file
  | "json" => some file
  | "sql" => some sql
  | "mysql" => some sql
  | "sqlite" => some sql
  | _ => none

end StorageKind

inductive ConfigurationFault where
  | unknownKind (word : String)
  | unknownDialect (word : String)
  /-- The dialect is known, but nothing here speaks it to a server. -/
  | driverUnavailable (dialect : Sql.Dialect)
deriving DecidableEq, Repr

namespace ConfigurationFault

def message : ConfigurationFault → String
  | unknownKind word => "unknown storage kind '" ++ word ++ "' (expected 'file' or 'sql')"
  | unknownDialect word => "unknown sql dialect '" ++ word ++ "' (expected 'sqlite' or 'mysql')"
  | driverUnavailable dialect => "no driver available for the " ++ dialect.name ++ " dialect"

end ConfigurationFault

namespace StorageKind

def ofText (text : String) : Except ConfigurationFault StorageKind :=
  match ofWord? (Text.word text) with
  | some kind => .ok kind
  | none => .error (.unknownKind (Text.word text))

end StorageKind

namespace Sql.Dialect

def ofText (text : String) : Except ConfigurationFault Dialect :=
  match ofWord? (Text.word text) with
  | some dialect => .ok dialect
  | none => .error (.unknownDialect (Text.word text))

end Sql.Dialect

structure Configuration where
  kind : StorageKind
  directory : String
  stem : String
  dialect : Sql.Dialect
  database : Sql.Source
  server : String
  world : String

inductive LoadError where
  | configuration (fault : ConfigurationFault)
  | storage (error : StorageError)
deriving DecidableEq, Repr

namespace LoadError

def message : LoadError → String
  | configuration fault => fault.message
  | storage error => error.message

end LoadError

end Playtime
