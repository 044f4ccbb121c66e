import Playtime.Replication.Dependent
import Playtime.Replication.Hub
import Playtime.Site

namespace Playtime.Replication

structure Link where
  dependent : Dependent
  /-- The number of the storages that the hub serves. Without a hub the frames for it pile up. -/
  hub : Option Nat
  isRunning : Bool
  upward : List Frame
  downward : List Frame

namespace Link

def opened (hub : Option Nat) : Link := ⟨.empty, hub, true, [], []⟩

def send (link : Link) (frames : List Frame) : Link := { link with upward := link.upward ++ frames }

def join (link : Link) (id : PlayerId) : Link :=
  match link.dependent.join id with
  | (dependent, frames) => { link with dependent }.send frames

def leave (link : Link) (id : PlayerId) : Link := { link with dependent := link.dependent.leave id }

def add (link : Link) (id : PlayerId) (delta : Int64) : Link := link.send (link.dependent.add id delta)

def poll (link : Link) : Link := link.send link.dependent.poll

def deliverDownward (link : Link) : Link :=
  { link with dependent := link.dependent.receive link.downward, downward := [] }

def deliverUpward (link : Link) (site : Site) : Link × Site :=
  match link.hub with
  | none => (link, site)
  | some number =>
    let served := site.onSessions number fun sessions ledger =>
      match Hub.serve sessions ledger site.host.now link.upward with
      | (replies, sessions, ledger) => (.ok replies, sessions, ledger)
    ({ link with upward := [], downward := link.downward ++ served.1.toOption.getD [] }, served.2)

/-- Delivers until nothing is on its way. A dependent answers no frame, so each direction takes one turn. -/
def settle (link : Link) (site : Site) : Link × Site :=
  if link.isRunning then
    match link.deliverUpward site with
    | (link, site) => (link.deliverDownward, site)
  else (link, site)

/-- Ends delivery; frames under way are lost, but those that pile up for no hub are kept. -/
def stop (link : Link) : Link :=
  if link.hub.isSome then ⟨link.dependent.hangUp, link.hub, false, [], []⟩
  else { link with isRunning := false, downward := [] }

end Link

end Playtime.Replication
