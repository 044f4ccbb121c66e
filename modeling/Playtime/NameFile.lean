import Playtime.FlatFile

namespace Playtime

abbrev NameFile := FlatFile String

namespace NameFile

def path (directory stem : String) : List String := Path.ofText (Path.join directory (stem ++ "names.json"))

def load (disk : Disk) (directory stem : String) : Except StorageError NameFile × Disk :=
  FlatFile.load disk (path directory stem)

def holder? (file : NameFile) (name : String) : Except StorageError (Option PlayerId) :=
  match file.read fun names => names[name]? with
  | .error error => .error error
  | .ok none => .ok none
  | .ok (some text) =>
    match PlayerId.ofText? text with
    | some id => .ok (some id)
    | none => .error .malformedIdentifier

/-- The first name, in the order of names, under which the player's own text stands. -/
def nameOf? (file : NameFile) (id : PlayerId) : Except StorageError (Option String) :=
  file.read fun names => (names.toList.find? fun entry => entry.2 = id.toText).map (·.1)

/--
Gives a name to a player, taking it from another holder when `override` is set; every other name of the player is
dropped. A player that holds the name already keeps all names.
-/
def assign (names : FlatObject.Members String) (id : PlayerId) (name : String) (override : Bool) :
    Except StorageError (FlatObject.Members String) :=
  let granted := (names.filter fun _ holder => holder ≠ id.toText).insert name id.toText
  match names[name]? with
  | none => .ok granted
  | some holder =>
    if holder = id.toText then .ok names
    else if override then .ok granted
    else .error .nameTaken

def assignAll (names : FlatObject.Members String) :
    List (PlayerId × PlayerName) → Except StorageError (FlatObject.Members String)
  | [] => .ok names
  | (id, name) :: rest =>
    match assign names id name.text true with
    | .error error => .error error
    | .ok names => assignAll names rest

def setName (file : NameFile) (disk : Disk) (id : PlayerId) (text : String) (override : Bool) :
    Except StorageError Unit × NameFile × Disk :=
  match PlayerName.ofText text with
  | .error fault => (.error (.invalidName fault), file, disk)
  | .ok name => file.write disk fun names => assign names id name.text override

def setNames (file : NameFile) (disk : Disk) (entries : List (PlayerId × String)) :
    Except StorageError Unit × NameFile × Disk :=
  match PlayerName.acceptAll entries with
  | .error fault => (.error (.invalidName fault), file, disk)
  | .ok accepted => file.write disk fun names => assignAll names accepted

def names (file : NameFile) : Except StorageError (List String) := file.read fun names => names.keys

end NameFile

end Playtime
