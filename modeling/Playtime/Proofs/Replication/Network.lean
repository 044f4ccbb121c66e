import Playtime.Proofs.Replication.Frames
import Playtime.Proofs.Sessions.Calls
import Playtime.Replication.Link

namespace Playtime.Replication

/-- What a hub has done about a message from one of its links. -/
structure Deed where
  link : Nat
  message : Message
  outcome : Except StorageError (Option Message)

inductive Turn where
  | join (id : PlayerId)
  | leave (id : PlayerId)
  | add (id : PlayerId) (delta : Int64)
  | poll
  | ask (now : Int64)
  | tell
deriving DecidableEq, Repr

inductive Event where
  | turn (link : Nat) (turn : Turn)
  | call (call : Sessions.Call)
deriving DecidableEq, Repr

def heardFrom (number : Nat) (deeds : List Deed) : List Message :=
  (deeds.filter fun deed => deed.link = number).map Deed.message

def messages (frames : List Frame) : List Message := frames.filterMap fun frame => (Message.decode frame).toOption

def Turn.sends (dependent : Dependent) : Turn → List Message
  | .join id => [⟨id, .get⟩]
  | .add id delta => [⟨id, .add delta⟩]
  | .poll => dependent.tracked.keys.map fun id => ⟨id, .get⟩
  | .leave _ | .ask _ | .tell => []

def deedOf {σ : Type} [Ledger σ] (number : Nat) (hub : Sessions × σ) (now : Int64) (message : Message) : Deed :=
  ⟨number, message, (Hub.answer hub.1 hub.2 now message).1⟩

namespace Link

variable {σ : Type} [Ledger σ]

def tell (link : Link) : Link :=
  match link.downward with
  | [] => link
  | frame :: rest => { link with dependent := link.dependent.receive [frame], downward := rest }

def ask (link : Link) (hub : Sessions × σ) (now : Int64) : Link × Sessions × σ :=
  match link.upward with
  | [] => (link, hub)
  | frame :: rest =>
    match Hub.serve hub.1 hub.2 now [frame] with
    | (replies, hub) => ({ link with upward := rest, downward := link.downward ++ replies }, hub)

def turn (link : Link) (hub : Sessions × σ) : Turn → Link × Sessions × σ
  | .join id => (link.join id, hub)
  | .leave id => (link.leave id, hub)
  | .add id delta => (link.add id delta, hub)
  | .poll => (link.poll, hub)
  | .ask now => link.ask hub now
  | .tell => (link.tell, hub)

def deed? (link : Link) (number : Nat) (hub : Sessions × σ) : Turn → Option Deed
  | .ask now =>
    match link.upward with
    | [] => none
    | frame :: _ =>
      match Message.decode frame with
      | .error _ => none
      | .ok message => some (deedOf number hub now message)
  | _ => none

end Link

structure Network (σ : Type) where
  hub : Sessions × σ
  links : List Link

namespace Network

variable {σ : Type} [Ledger σ]

def opened (hub : Sessions × σ) (count : Nat) : Network σ := ⟨hub, List.replicate count (Link.opened (some 0))⟩

def step (network : Network σ) : Event → Network σ
  | .turn number turn =>
    match network.links[number]? with
    | none => network
    | some link =>
      match link.turn network.hub turn with
      | (link, hub) => ⟨hub, network.links.set number link⟩
  | .call call => { network with hub := (Sessions.perform network.hub call).2 }

def run (network : Network σ) : List Event → Network σ
  | [] => network
  | event :: later => (network.step event).run later

def deed? (network : Network σ) : Event → Option Deed
  | .turn number turn =>
    match network.links[number]? with
    | none => none
    | some link => link.deed? number network.hub turn
  | .call _ => none

def deeds (network : Network σ) : List Event → List Deed
  | [] => []
  | event :: later => (network.deed? event).toList ++ (network.step event).deeds later

def sent (network : Network σ) (number : Nat) : List Event → List Message
  | [] => []
  | event :: later =>
    (match event, network.links[number]? with
      | .turn other turn, some link => if other = number then turn.sends link.dependent else []
      | _, _ => []) ++ (network.step event).sent number later

end Network

end Playtime.Replication
