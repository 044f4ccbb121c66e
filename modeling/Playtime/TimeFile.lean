import Playtime.FlatFile
import Playtime.Ledger

namespace Playtime

abbrev TimeFile := FlatFile Int64

namespace TimeFile

def path (directory stem : String) : List String := Path.ofText (Path.join directory (stem ++ "time.json"))

def load (disk : Disk) (directory stem : String) : Except StorageError TimeFile × Disk :=
  FlatFile.load disk (path directory stem)

def seconds? (file : TimeFile) (id : PlayerId) : Except StorageError (Option Int64) :=
  file.read fun times => times[id.toText]?

def addTo (times : FlatObject.Members Int64) (id : PlayerId) (delta : Int64) :
    Except StorageError (FlatObject.Members Int64) :=
  match add? (times.getD id.toText 0) delta with
  | some sum => .ok (times.insert id.toText sum)
  | none => .error (.outOfRange id delta)

def addAll (times : FlatObject.Members Int64) :
    List (PlayerId × Int64) → Except StorageError (FlatObject.Members Int64)
  | [] => .ok times
  | (id, delta) :: rest =>
    match addTo times id delta with
    | .error error => .error error
    | .ok times => addAll times rest

/-- Credits seconds; nothing at all happens for zero. -/
def credit (file : TimeFile) (disk : Disk) (id : PlayerId) (delta : Int64) :
    Except StorageError Unit × TimeFile × Disk :=
  if delta = 0 then (.ok (), file, disk) else file.write disk fun times => addTo times id delta

/-- Credits a batch; nothing at all happens when every delta is zero. -/
def creditAll (file : TimeFile) (disk : Disk) (deltas : List (PlayerId × Int64)) :
    Except StorageError Unit × TimeFile × Disk :=
  if deltas.all fun entry => entry.2 = 0 then (.ok (), file, disk)
  else file.write disk fun times => addAll times deltas

/-- Reads every key as an identifier; of several spellings of one player the last key counts. -/
def collect (totals : Totals) : List (String × Int64) → Except StorageError Totals
  | [] => .ok totals
  | (text, seconds) :: rest =>
    match PlayerId.ofText? text with
    | none => .error .malformedIdentifier
    | some id => collect (totals.insert id seconds) rest

def totals (file : TimeFile) : Except StorageError Totals :=
  match file.read fun times => times.toList with
  | .error error => .error error
  | .ok entries => collect ∅ entries

instance : Ledger (TimeFile × Disk) where
  seconds? state id := state.1.seconds? id
  totals state := state.1.totals
  credit state id delta := state.1.credit state.2 id delta
  creditAll state deltas := state.1.creditAll state.2 deltas
  close state := (state.1.close, state.2)

end TimeFile

end Playtime
