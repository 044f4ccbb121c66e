import Playtime.Backend
import Playtime.Sessions

/-!
The storages that have been opened on a host. Each keeps its number, so that whoever has taken hold of one goes on
meeting the same one, closed or not, whatever is opened later.
-/

namespace Playtime

structure Storages where
  backend : Backend
  sessions : Sessions

structure Site where
  host : Host
  storages : List Storages

namespace Site

def insert (site : Site) (backend : Backend) : Nat × Site :=
  (site.storages.length, { site with storages := site.storages ++ [⟨backend, .empty⟩] })

def load (site : Site) (configuration : Configuration) : Except LoadError Nat × Site :=
  match Backend.load site.host configuration with
  | (.error error, host) => (.error error, { site with host })
  | (.ok backend, host) =>
    match insert { site with host } backend with
    | (number, site) => (.ok number, site)

def read {α : Type} (site : Site) (number : Nat) (f : Storages → Except StorageError α) :
    Except StorageError α :=
  match site.storages[number]? with
  | some storages => f storages
  | none => .error .closed

def readSessions {α : Type} (site : Site) (number : Nat)
    (f : Sessions → Backend × Host → Except StorageError α) : Except StorageError α :=
  site.read number fun storages => f storages.sessions (storages.backend, site.host)

def onBackend {α : Type} (site : Site) (number : Nat)
    (act : Backend → Host → Except StorageError α × Backend × Host) : Except StorageError α × Site :=
  match site.storages[number]? with
  | some storages =>
    match act storages.backend site.host with
    | (outcome, backend, host) =>
      (outcome, ⟨host, site.storages.set number { storages with backend }⟩)
  | none => (.error .closed, site)

def onSessions {α : Type} (site : Site) (number : Nat)
    (act : Sessions → Backend × Host → Except StorageError α × Sessions × Backend × Host) :
    Except StorageError α × Site :=
  match site.storages[number]? with
  | some storages =>
    match act storages.sessions (storages.backend, site.host) with
    | (outcome, sessions, backend, host) =>
      (outcome, ⟨host, site.storages.set number ⟨backend, sessions⟩⟩)
  | none => (.error .closed, site)

/-- Credits and ends the sessions of storages, then closes ledger and names, whether or not the credit went through. -/
def close (site : Site) (number : Nat) (now : Int64) : Site :=
  let ended := (site.onSessions number fun sessions ledger => sessions.close ledger now).2
  (ended.onBackend number fun backend host => (.ok (), backend.closeNames, host)).2

end Site

end Playtime
