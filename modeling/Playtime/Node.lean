import Playtime.Manager
import Playtime.Replication.Link
import Playtime.Timers

/-!
The background work of a node: flushing the sessions of managers, polling hubs for dependents, and delivering frames.
Time passes only in `advance`; at every tick, what is on its way is delivered first.
-/

namespace Playtime

open Replication (Frame Link)

inductive Duty where
  | flush (manager : Nat)
  | poll (link : Nat)
deriving DecidableEq, Repr

structure Node where
  clock : Nat
  links : List Link
  timers : List (Timer Duty)

namespace Node

def empty : Node := ⟨0, [], []⟩

/-- Sets a timer; a period that no timer can have leaves the duty undone. -/
def schedule (node : Node) (duty : Duty) (period : Nat) : Node :=
  { node with timers := node.timers ++ (Timer.set? duty period node.clock).toList }

def connect (node : Node) (hub : Option Nat) (period : Nat) : Node :=
  { node with links := node.links ++ [Link.opened hub] }.schedule (.poll node.links.length) period

def flushEvery (node : Node) (manager period : Nat) : Node := node.schedule (.flush manager) period

def settle : List Link → Site → List Link × Site
  | [], site => ([], site)
  | link :: rest, site =>
    match link.settle site with
    | (link, site) =>
      match settle rest site with
      | (rest, site) => (link :: rest, site)

/-- Flushes the sessions of a manager; a failure shows in what stays pending. -/
def flush (managers : List Manager) (manager : Nat) (site : Site) : Site :=
  match managers[manager]? with
  | some manager => (manager.flush site site.host.now).2
  | none => site

def perform (managers : List Manager) (duty : Duty) (state : List Link × Site) : List Link × Site :=
  match duty with
  | .flush manager => (state.1, flush managers manager state.2)
  | .poll link => (state.1.modify link Link.poll, state.2)

def advance (node : Node) (managers : List Manager) (site : Site) (millis : Nat) : Node × Site :=
  let goal := node.clock + millis
  let tick := fun duty (state : List Link × Site) => perform managers duty (settle state.1 state.2)
  match Timers.run tick goal node.timers (node.links, site) with
  | (timers, links, site) =>
    match settle links site with
    | (links, site) => (⟨goal, links, timers⟩, site)

def flushLast (managers : List Manager) : List (Timer Duty) → Site → Site
  | [], site => site
  | timer :: rest, site =>
    match timer.duty with
    | .flush manager => flushLast managers rest (flush managers manager site)
    | .poll _ => flushLast managers rest site

def shutdown (node : Node) (managers : List Manager) (site : Site) : Node × Site :=
  (⟨node.clock, node.links.map Link.stop, []⟩, flushLast managers node.timers site)

def toHub (node : Node) (link : Nat) (frame : Frame) : Bool × Node :=
  match node.links[link]? with
  | some known =>
    if known.isRunning && known.hub.isSome then
      (true, { node with links := node.links.modify link fun link => link.send [frame] })
    else (false, node)
  | none => (false, node)

def toDependent (node : Node) (link : Nat) (frame : Frame) : Bool × Node :=
  match node.links[link]? with
  | some known =>
    if known.isRunning then
      (true, { node with
        links := node.links.modify link fun link => { link with downward := link.downward ++ [frame] } })
    else (false, node)
  | none => (false, node)

end Node

end Playtime
