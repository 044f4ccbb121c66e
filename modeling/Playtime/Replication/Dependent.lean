import Std.Data.ExtTreeMap
import Playtime.Replication.Message

namespace Playtime.Replication

inductive Freshness where
  | pending
  | known
deriving DecidableEq, Repr

structure Tracked where
  seconds : Int64
  freshness : Freshness
deriving DecidableEq, Repr

structure Dependent where
  tracked : Std.ExtTreeMap PlayerId Tracked compare
  /-- Whether anyone takes what is sent to the hub. -/
  isHeard : Bool

namespace Dependent

def empty : Dependent := ⟨∅, true⟩

def forward (dependent : Dependent) (messages : List Message) : List Frame :=
  if dependent.isHeard then messages.map Message.encode else []

def join (dependent : Dependent) (id : PlayerId) : Dependent × List Frame :=
  ({ dependent with tracked := dependent.tracked.insertIfNew id ⟨0, .pending⟩ },
    dependent.forward [⟨id, .get⟩])

def leave (dependent : Dependent) (id : PlayerId) : Dependent :=
  { dependent with tracked := dependent.tracked.erase id }

def add (dependent : Dependent) (id : PlayerId) (delta : Int64) : List Frame :=
  dependent.forward [⟨id, .add delta⟩]

def poll (dependent : Dependent) : List Frame :=
  dependent.forward (dependent.tracked.keys.map fun id => ⟨id, .get⟩)

/-- Takes in a total for a tracked player; any other message changes nothing. -/
def apply (dependent : Dependent) (message : Message) : Dependent :=
  match message.command with
  | .send seconds =>
    { dependent with tracked := dependent.tracked.modify message.id fun _ => ⟨seconds, .known⟩ }
  | _ => dependent

def handle (dependent : Dependent) (frame : Frame) : Except FrameFault Dependent :=
  (Message.decode frame).map dependent.apply

def receive (dependent : Dependent) (frames : List Frame) : Dependent :=
  frames.foldl (fun dependent frame => (dependent.handle frame).toOption.getD dependent) dependent

def hangUp (dependent : Dependent) : Dependent := { dependent with isHeard := false }

def seconds? (dependent : Dependent) (id : PlayerId) : Option Int64 := (dependent.tracked[id]?).map (·.seconds)

def freshness? (dependent : Dependent) (id : PlayerId) : Option Freshness :=
  (dependent.tracked[id]?).map (·.freshness)

end Dependent

end Playtime.Replication
