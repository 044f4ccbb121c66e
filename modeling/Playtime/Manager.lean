import Playtime.Site

namespace Playtime

structure Manager where
  /-- What storages are opened from; none for a manager of storages handed in. -/
  configuration : Option Configuration
  current : Option Nat

structure Standing where
  id : PlayerId
  name : Option String
  seconds : Int64
deriving DecidableEq, Repr

namespace Manager

def configured (configuration : Configuration) : Manager := ⟨some configuration, none⟩

def around (number : Nat) : Manager := ⟨none, some number⟩

def isExternal (manager : Manager) : Bool := manager.configuration.isNone

def storages (manager : Manager) : Except StorageError Nat :=
  match manager.current with
  | some number => .ok number
  | none => .error .closed

def load (manager : Manager) (site : Site) : Except LoadError Unit × Manager × Site :=
  match manager.configuration, manager.current with
  | some configuration, none =>
    match site.load configuration with
    | (.ok number, site) => (.ok (), { manager with current := some number }, site)
    | (.error error, site) => (.error error, manager, site)
  | _, _ => (.ok (), manager, site)

/-- Credits what is owed and closes the storages; a credit that fails is lost. -/
def close (manager : Manager) (site : Site) (now : Int64) : Manager × Site :=
  match manager.current with
  | some number => ({ manager with current := none }, site.close number now)
  | none => (manager, site)

/-- Closes the storages and opens them anew; those handed in are left alone. -/
def reload (manager : Manager) (site : Site) (now : Int64) : Except LoadError Unit × Manager × Site :=
  if manager.isExternal then (.ok (), manager, site)
  else
    match manager.close site now with
    | (manager, site) => manager.load site

def flush (manager : Manager) (site : Site) (now : Int64) : Except StorageError Unit × Site :=
  match manager.storages with
  | .error error => (.error error, site)
  | .ok number => site.onSessions number fun sessions ledger => sessions.flush ledger now

def ranksBefore (first second : PlayerId × Int64) : Bool :=
  second.2 < first.2 || (first.2 = second.2 && (compare first.1 second.1).isLE)

def named (backend : Backend) (host : Host) : List (PlayerId × Int64) → Except StorageError (List Standing)
  | [] => .ok []
  | (id, seconds) :: rest =>
    match backend.nameOf? host id with
    | .error error => .error error
    | .ok name => (named backend host rest).map fun others => ⟨id, name, seconds⟩ :: others

def top (manager : Manager) (site : Site) (limit : Nat) (now : Int64) : Except StorageError (List Standing) :=
  match manager.storages with
  | .error error => .error error
  | .ok number =>
    site.read number fun storages =>
      match storages.sessions.totals (storages.backend, site.host) now with
      | .error error => .error error
      | .ok totals =>
        named storages.backend site.host ((totals.toList.mergeSort ranksBefore).take limit)

def totalStatistic : String := "total_online_time"

def isFresh (recorded now : Int64) (maxAge : UInt64) : Bool :=
  now.toInt - recorded.toInt < maxAge.toInt64.toInt

/-- The total of a store: the recorded one if it is fresh, else a new one, which is recorded. -/
def recordedTotal (store : Sql.Store) (host : Host) (maxAge : UInt64) (now : Int64) :
    Except StorageError Int64 × Host :=
  let renewed : Except StorageError Int64 × Host :=
    match store.grandTotal host with
    | .error error => (.error error, host)
    | .ok total =>
      match store.storeStatistic host ⟨totalStatistic, wholeSeconds now, total⟩ with
      | (.ok (), host) => (.ok total, host)
      | (.error error, host) => (.error error, host)
  match store.latestStatistic? host totalStatistic with
  | .error error => (.error error, host)
  | .ok none => renewed
  | .ok (some statistic) =>
    if isFresh statistic.calculated (wholeSeconds now) maxAge then (.ok statistic.result, host) else renewed

def ledgerTotal (backend : Backend) (host : Host) (order : Traversal) (maxAge : UInt64) (now : Int64) :
    Except StorageError Int64 × Host :=
  match backend.timeStore? with
  | some store => recordedTotal store host maxAge now
  | none => ((Ledger.totals (backend, host)).map fun totals => sumSat 0 (order.arrange totals.values), host)

def total (manager : Manager) (site : Site) (orders : Traversals) (maxAge : UInt64) (now : Int64) :
    Except StorageError Int64 × Site :=
  match manager.storages with
  | .error error => (.error error, site)
  | .ok number =>
    match site.storages[number]? with
    | none => (.error .closed, site)
    | some storages =>
      match ledgerTotal storages.backend site.host orders.stored maxAge now with
      | (outcome, host) =>
        (outcome.map fun stored => addSat stored (storages.sessions.unsaved orders now), { site with host })

end Manager

end Playtime
