import Playtime.Replication.Message
import Playtime.Sessions

namespace Playtime.Replication

inductive HubError where
  | frame (fault : FrameFault)
  | storage (error : StorageError)
deriving DecidableEq, Repr

namespace HubError

def message : HubError → String
  | frame fault => fault.message
  | storage error => error.message

end HubError

namespace Hub

variable {σ : Type} [Ledger σ]

/-- Acts on a message and gives the reply it calls for; a total sent to a hub is passed over. -/
def answer (sessions : Sessions) (ledger : σ) (now : Int64) (message : Message) :
    Except StorageError (Option Message) × Sessions × σ :=
  match message.command with
  | .get =>
    ((sessions.seconds ledger message.id now).map fun seconds => some ⟨message.id, .send seconds⟩,
      sessions, ledger)
  | .add delta =>
    match sessions.add ledger message.id delta with
    | (outcome, sessions, ledger) => (outcome.map fun _ => none, sessions, ledger)
  | .send _ => (.ok none, sessions, ledger)

def handle (sessions : Sessions) (ledger : σ) (now : Int64) (frame : Frame) :
    Except HubError (List Frame) × Sessions × σ :=
  match Message.decode frame with
  | .error fault => (.error (.frame fault), sessions, ledger)
  | .ok message =>
    match answer sessions ledger now message with
    | (.error error, sessions, ledger) => (.error (.storage error), sessions, ledger)
    | (.ok reply, sessions, ledger) => (.ok (reply.toList.map Message.encode), sessions, ledger)

/-- Acts on frames in order and gives the replies; a frame that cannot be acted on is dropped. -/
def serve (sessions : Sessions) (ledger : σ) (now : Int64) : List Frame → List Frame × Sessions × σ
  | [] => ([], sessions, ledger)
  | frame :: rest =>
    match handle sessions ledger now frame with
    | (outcome, sessions, ledger) =>
      match serve sessions ledger now rest with
      | (replies, sessions, ledger) =>
        (outcome.toOption.getD [] ++ replies, sessions, ledger)

end Hub

end Playtime.Replication
