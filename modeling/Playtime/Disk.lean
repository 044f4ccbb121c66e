import Std.Data.ExtTreeMap
import Playtime.Text.Utf8

/-!
A file tree. A path is walked from the root component by component, and every component but the last must lead to a
directory.

An attempt to write or rename may also fail for a reason that the tree does not show, such as a full device;
`faults` says what becomes of the next attempts.
-/

namespace Playtime

/-- The components that lead from the root to a file or directory. -/
abbrev Place := List String

inductive Entry where
  | directory
  | file (content : List UInt8)
  /-- The file of a database, known by the database's number. -/
  | database (number : Nat)
deriving DecidableEq, Repr

namespace Entry

def databaseOpening : List UInt8 := Text.toUtf8 "SQLite format 3\x00"

def content? : Entry → Option (List UInt8)
  | directory => none
  | file content => some content
  | database _ => some databaseOpening

end Entry

inductive Fault where
  | none
  /-- The attempt fails and leaves nothing behind. -/
  | refused
  /-- A write fails after so many bytes; a rename fails and leaves nothing behind. -/
  | cutShort (kept : Nat)
deriving DecidableEq, Repr

structure Disk where
  entries : Std.ExtTreeMap Place Entry compare
  /-- The fates of the next attempts; past the end nothing goes wrong. -/
  faults : List Fault

inductive Walk where
  | reached (place : Place)
  | missing
  /-- A file stands in the way, or a component is no file name. -/
  | blocked
deriving DecidableEq, Repr

inductive Reading where
  | content (bytes : List UInt8)
  | absent
  | unreadable
deriving DecidableEq, Repr

namespace Path

def split : List Char → List (List Char)
  | [] => [[]]
  | c :: rest =>
    match split rest with
    | [] => [[c]]
    | first :: others => if c = '/' then [] :: first :: others else (c :: first) :: others

/-- A path below a directory, unless it is absolute: then it stands for itself. -/
def join (directory path : String) : String :=
  if path.toList.head? = some '/' then path
  else if directory = "" || directory.toList.getLast? = some '/' then directory ++ path
  else directory ++ "/" ++ path

/-- The components of a path; empty ones and single dots lead nowhere. -/
def ofText (text : String) : List String :=
  ((split text.toList).map String.ofList).filter fun component => component ≠ "" ∧ component ≠ "."

/-- A directory, the one above it, and so on up to the root. -/
def upward : List String → List (List String)
  | [] => [[]]
  | component :: rest => (upward rest).map (component :: ·) ++ [[]]

def isFileName (component : String) : Bool := component.utf8ByteSize ≤ 255

def isPath (path : List String) : Bool := path.all fun component => !component.toList.contains '\x00'

end Path

namespace Disk

def empty : Disk := ⟨∅, []⟩

def drawFault (disk : Disk) : Fault × Disk :=
  match disk.faults with
  | [] => (.none, disk)
  | fault :: later => (fault, { disk with faults := later })

def put (disk : Disk) (place : Place) (entry : Entry) : Disk :=
  { disk with entries := disk.entries.insert place entry }

def enter (disk : Disk) (directory : Place) (component : String) : Walk :=
  if component = ".." then .reached directory.dropLast
  else if !Path.isFileName component then .blocked
  else
    match disk.entries[directory ++ [component]]? with
    | some .directory => .reached (directory ++ [component])
    | some _ => .blocked
    | none => .missing

def walk (disk : Disk) (directory : Place) : List String → Walk
  | [] => .reached directory
  | component :: rest =>
    match disk.enter directory component with
    | .reached next => disk.walk next rest
    | stopped => stopped

/-- The place a path names, whether or not anything stands there yet. -/
def locate (disk : Disk) (path : List String) : Walk :=
  if !Path.isPath path then .blocked
  else
    match path.getLast? with
    | none => .reached []
    | some ".." => disk.walk [] path
    | some name =>
      match disk.walk [] path.dropLast with
      | .reached parent => if Path.isFileName name then .reached (parent ++ [name]) else .blocked
      | stopped => stopped

def isDirectory (disk : Disk) (place : Place) : Bool :=
  place = [] || disk.entries[place]? = some .directory

def read (disk : Disk) (path : List String) : Reading :=
  match disk.locate path with
  | .missing => .absent
  | .blocked => .unreadable
  | .reached place =>
    if disk.isDirectory place then .unreadable
    else
      match disk.entries[place]?.bind Entry.content? with
      | some bytes => .content bytes
      | none => .absent

/-- Reads the first file that there is among some paths; one that cannot be looked up ends the search. -/
def readFirst (disk : Disk) : List (List String) → Reading
  | [] => .absent
  | path :: rest =>
    match disk.locate path with
    | .missing => disk.readFirst rest
    | .blocked => .unreadable
    | .reached place =>
      match disk.entries[place]?.bind Entry.content? with
      | some bytes => .content bytes
      | none => disk.readFirst rest

/-- Creates every missing directory of a path below a directory; says whether the path is one now. -/
def createBelow (disk : Disk) (directory : Place) : List String → Bool × Disk
  | [] => (true, disk)
  | component :: rest =>
    match disk.enter directory component with
    | .reached next => disk.createBelow next rest
    | .blocked => (false, disk)
    | .missing =>
      (disk.put (directory ++ [component]) .directory).createBelow (directory ++ [component]) rest

def createDirectories (disk : Disk) (path : List String) : Bool × Disk :=
  if Path.isPath path then disk.createBelow [] path else (false, disk)

def write (disk : Disk) (path : List String) (bytes : List UInt8) : Bool × Disk :=
  let (fault, disk) := disk.drawFault
  match disk.locate path with
  | .reached place =>
    if disk.isDirectory place then (false, disk)
    else
      match fault with
      | .none => (true, disk.put place (.file bytes))
      | .refused => (false, disk)
      | .cutShort kept => (false, disk.put place (.file (bytes.take kept)))
  | _ => (false, disk)

def rename (disk : Disk) (source target : List String) : Bool × Disk :=
  let (fault, disk) := disk.drawFault
  match fault, disk.locate source, disk.locate target with
  | .none, .reached origin, .reached goal =>
    if disk.isDirectory origin || disk.isDirectory goal then (false, disk)
    else
      match disk.entries[origin]? with
      | none => (false, disk)
      | some entry =>
        (true, { disk with entries := (disk.entries.erase origin).insert goal entry })
  | _, _, _ => (false, disk)

end Disk

end Playtime
