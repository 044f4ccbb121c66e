import Playtime.Disk
import Playtime.FlatObject.Basic
import Playtime.StorageError

/-!
A flat object kept in memory and written out as a whole on every change. A change is first made to a copy, the copy is
written to a file beside the object's own and that file is moved over it; only then does memory follow, so that a
failure at any point leaves memory and the object's file as they were.
-/

namespace Playtime

structure FlatFile (ν : Type) where
  path : List String
  members : FlatObject.Members ν
  isOpen : Bool

namespace FlatFile

open FlatObject (Members Scalar)

variable {ν : Type} [Scalar ν]

def isBlankByte (byte : UInt8) : Bool :=
  byte = 32 || byte = 9 || byte = 10 || byte = 12 || byte = 13

def decode? (bytes : List UInt8) : Option (Members ν) :=
  if bytes.all isBlankByte then some ∅ else FlatObject.ofBytes? bytes

/-- Opens the object at a path. An absent file is an empty object; its directory is created at once. -/
def load (disk : Disk) (path : List String) : Except StorageError (FlatFile ν) × Disk :=
  match disk.read path with
  | .content bytes =>
    match decode? bytes with
    | some members => (.ok ⟨path, members, true⟩, disk)
    | none => (.error .malformedFile, disk)
  | .absent =>
    match disk.createDirectories path.dropLast with
    | (true, disk) => (.ok ⟨path, ∅, true⟩, disk)
    | (false, disk) => (.error .fileFailure, disk)
  | .unreadable => (.error .fileFailure, disk)

def read {α : Type} (file : FlatFile ν) (f : Members ν → α) : Except StorageError α :=
  if file.isOpen then .ok (f file.members) else .error .closed

/-- The path of the file that is written before it replaces the object's own. -/
def draftPath (path : List String) : List String :=
  match path.getLast? with
  | none => path
  | some name => path.dropLast ++ [name ++ ".tmp"]

/-- Writes members over the object's file; says whether that went through. -/
def persist (disk : Disk) (path : List String) (members : Members ν) : Bool × Disk :=
  match disk.write (draftPath path) (FlatObject.toBytes members) with
  | (true, disk) => disk.rename (draftPath path) path
  | (false, disk) => (false, disk)

def write (file : FlatFile ν) (disk : Disk) (change : Members ν → Except StorageError (Members ν)) :
    Except StorageError Unit × FlatFile ν × Disk :=
  if file.isOpen then
    match change file.members with
    | .error error => (.error error, file, disk)
    | .ok members =>
      match persist disk file.path members with
      | (true, disk) => (.ok (), { file with members }, disk)
      | (false, disk) => (.error .fileFailure, file, disk)
  else (.error .closed, file, disk)

def close (file : FlatFile ν) : FlatFile ν := { file with isOpen := false }

end FlatFile

end Playtime
