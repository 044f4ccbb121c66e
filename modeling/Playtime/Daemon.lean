import Playtime.Node
import Playtime.Settings

namespace Playtime

inductive StartError where
  | role (fault : UnknownRole)
  /-- A dependent node has no ledger of its own to serve. -/
  | dependentRole
  | configuration (fault : ConfigurationFault)
  | load (error : LoadError)
deriving DecidableEq, Repr

namespace StartError

def causedBy (what cause : String) : String := what ++ "\n\nCaused by:\n    " ++ cause

def message : StartError → String
  | role fault => fault.message
  | dependentRole => "dependent nodes have no ledger to serve; embed one with Node::start_slave"
  | configuration fault => causedBy "invalid storage configuration" fault.message
  | load error => causedBy "failed to load storages" error.message

def report (error : StartError) : String := "Error: " ++ error.message ++ "\n"

end StartError

structure Daemon where
  settings : Settings
  manager : Manager
  site : Site
  node : Node
  /-- The total that was recorded when it came up, if it could be computed. -/
  total : Except StorageError Int64

namespace Daemon

def start (surroundings : Surroundings) (orders : Traversals) (environment : Variables) (host : Host) :
    Except StartError Daemon × Host :=
  let settings := Settings.load surroundings environment host.disk
  match Role.ofText settings.role with
  | .error fault => (.error (.role fault), host)
  | .ok .dependent => (.error .dependentRole, host)
  | .ok .hub =>
    match settings.configuration surroundings with
    | .error fault => (.error (.configuration fault), host)
    | .ok configuration =>
      match (Manager.configured configuration).load ⟨host, []⟩ with
      | (.error error, _, site) => (.error (.load error), site.host)
      | (.ok (), manager, site) =>
        match manager.total site orders settings.flushInterval site.host.now with
        | (total, site) =>
          let node := Node.empty.flushEvery 0 (settings.flushInterval.toNat * 1000)
          (.ok ⟨settings, manager, site, node, total⟩, site.host)

def advance (daemon : Daemon) (millis : Nat) : Daemon :=
  match daemon.node.advance [daemon.manager] daemon.site millis with
  | (node, site) => { daemon with node, site }

def stop (daemon : Daemon) : Host :=
  match daemon.node.shutdown [daemon.manager] daemon.site with
  | (_, site) => (daemon.manager.close site site.host.now).2.host

end Daemon

end Playtime
