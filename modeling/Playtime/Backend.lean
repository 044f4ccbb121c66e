import Playtime.Configuration
import Playtime.NameFile
import Playtime.Sql.Store
import Playtime.TimeFile

namespace Playtime

inductive Backend where
  | files (names : NameFile) (times : TimeFile)
  /-- One store holds both; closing it for either closes it for both. -/
  | relational (store : Sql.Store)
  | mixed (names : NameFile) (store : Sql.Store)

namespace Backend

def loadFiles (host : Host) (directory stem : String) : Except StorageError Backend × Host :=
  match NameFile.load host.disk directory stem with
  | (.error error, disk) => (.error error, { host with disk })
  | (.ok names, disk) =>
    match TimeFile.load disk directory stem with
    | (.error error, disk) => (.error error, { host with disk })
    | (.ok times, disk) => (.ok (.files names times), { host with disk })

def loadRelational (host : Host) (database : Sql.Source) (stem server world : String) :
    Except StorageError Backend × Host :=
  match Sql.Store.load host database stem server world with
  | (outcome, host) => (outcome.map relational, host)

def loadMixed (host : Host) (directory stem server world : String) : Except StorageError Backend × Host :=
  match NameFile.load host.disk directory stem with
  | (.error error, disk) => (.error error, { host with disk })
  | (.ok names, disk) =>
    match Sql.Store.load { host with disk } .memory stem server world with
    | (outcome, host) => (outcome.map (mixed names), host)

def load (host : Host) (configuration : Configuration) : Except LoadError Backend × Host :=
  match configuration.kind with
  | .file =>
    match loadFiles host configuration.directory configuration.stem with
    | (outcome, host) => (outcome.mapError .storage, host)
  | .sql =>
    if configuration.dialect = .sqlite then
      match loadRelational host configuration.database configuration.stem configuration.server
        configuration.world with
      | (outcome, host) => (outcome.mapError .storage, host)
    else (.error (.configuration (.driverUnavailable configuration.dialect)), host)

def holder? (backend : Backend) (host : Host) (name : String) : Except StorageError (Option PlayerId) :=
  match backend with
  | files names _ => names.holder? name
  | relational store => store.holder? host name
  | mixed names _ => names.holder? name

def nameOf? (backend : Backend) (host : Host) (id : PlayerId) : Except StorageError (Option String) :=
  match backend with
  | files names _ => names.nameOf? id
  | relational store => store.nameOf? host id
  | mixed names _ => names.nameOf? id

def names (backend : Backend) (host : Host) : Except StorageError (List String) :=
  match backend with
  | files names _ => names.names
  | relational store => store.names host
  | mixed names _ => names.names

def setName (backend : Backend) (host : Host) (id : PlayerId) (text : String) (override : Bool) :
    Except StorageError Unit × Backend × Host :=
  match backend with
  | files names times =>
    match names.setName host.disk id text override with
    | (outcome, names, disk) => (outcome, files names times, { host with disk })
  | relational store =>
    match store.setName host id text override with
    | (outcome, host) => (outcome, backend, host)
  | mixed names store =>
    match names.setName host.disk id text override with
    | (outcome, names, disk) => (outcome, mixed names store, { host with disk })

def setNames (backend : Backend) (host : Host) (entries : List (PlayerId × String)) :
    Except StorageError Unit × Backend × Host :=
  match backend with
  | files names times =>
    match names.setNames host.disk entries with
    | (outcome, names, disk) => (outcome, files names times, { host with disk })
  | relational store =>
    match store.setNames host entries with
    | (outcome, host) => (outcome, backend, host)
  | mixed names store =>
    match names.setNames host.disk entries with
    | (outcome, names, disk) => (outcome, mixed names store, { host with disk })

def closeNames : Backend → Backend
  | files names times => files names.close times
  | relational store => relational store.close
  | mixed names store => mixed names.close store

def timeStore? : Backend → Option Sql.Store
  | files _ _ => none
  | relational store => some store
  | mixed _ store => some store

instance : Ledger (Backend × Host) where
  seconds?
    | (files _ times, host), id => Ledger.seconds? (times, host.disk) id
    | (relational store, host), id => Ledger.seconds? (store, host) id
    | (mixed _ store, host), id => Ledger.seconds? (store, host) id
  totals
    | (files _ times, host) => Ledger.totals (times, host.disk)
    | (relational store, host) => Ledger.totals (store, host)
    | (mixed _ store, host) => Ledger.totals (store, host)
  credit
    | (files names times, host), id, delta =>
      match Ledger.credit (times, host.disk) id delta with
      | (outcome, times, disk) => (outcome, files names times, { host with disk })
    | (relational store, host), id, delta =>
      match Ledger.credit (store, host) id delta with
      | (outcome, store, host) => (outcome, relational store, host)
    | (mixed names store, host), id, delta =>
      match Ledger.credit (store, host) id delta with
      | (outcome, store, host) => (outcome, mixed names store, host)
  creditAll
    | (files names times, host), deltas =>
      match Ledger.creditAll (times, host.disk) deltas with
      | (outcome, times, disk) => (outcome, files names times, { host with disk })
    | (relational store, host), deltas =>
      match Ledger.creditAll (store, host) deltas with
      | (outcome, store, host) => (outcome, relational store, host)
    | (mixed names store, host), deltas =>
      match Ledger.creditAll (store, host) deltas with
      | (outcome, store, host) => (outcome, mixed names store, host)
  close
    | (files names times, host) => (files names times.close, host)
    | (relational store, host) => (relational store.close, host)
    | (mixed names store, host) => (mixed names store.close, host)

end Backend

end Playtime
