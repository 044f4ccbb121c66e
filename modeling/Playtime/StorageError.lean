import Playtime.Player.Identifier
import Playtime.Player.Name

namespace Playtime

inductive StorageError where
  | closed
  | nameTaken
  | invalidName (fault : NameFault)
  | outOfRange (id : PlayerId) (delta : Int64)
  | malformedIdentifier
  | malformedFile
  | fileFailure
  | databaseUnopened
  | databaseFailure
deriving DecidableEq, Repr

namespace StorageError

def message : StorageError → String
  | closed => "storage has been closed"
  | nameTaken => "name is already held by another player"
  | invalidName fault => "invalid player name: " ++ fault.message
  | outOfRange id delta =>
    "time delta " ++ toString delta.toInt ++ "s for " ++ id.toText ++ " is out of range"
  | malformedIdentifier => "malformed stored identifier"
  | malformedFile => "malformed storage file"
  | fileFailure => "storage file error"
  | databaseUnopened => "database error"
  | databaseFailure => "database connection error"

end StorageError

end Playtime
