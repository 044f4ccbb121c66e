import Playtime.Arithmetic
import Playtime.Ledger

/-!
Open sessions over a ledger. A session is kept as the instant it started and owes the whole seconds since then. What
it owes is credited when it stops, on every flush, which leaves it open, and on close. Seconds whose credit was refused
wait in `pending` for the next flush.

Every operation takes the ledger and gives it back beside the sessions.
-/

namespace Playtime

def Totals.merge (totals others : Totals) : Totals :=
  others.toList.foldl (fun sum entry => sum.insert entry.1 (addSat (sum.getD entry.1 0) entry.2)) totals

def sumSat (first : Int64) (seconds : List Int64) : Int64 := seconds.foldl addSat first

/-- An order to go through the values of a table in. -/
structure Traversal where
  arrange : List Int64 → List Int64
  perm (values : List Int64) : (arrange values).Perm values

/-- A table promises no order, so whoever sums one up meets its values in some order or other. -/
structure Traversals where
  stored : Traversal
  live : Traversal
  pending : Traversal

def Traversal.ascending : Traversal := ⟨id, .refl⟩

def Traversals.ascending : Traversals := ⟨.ascending, .ascending, .ascending⟩

structure Sessions where
  started : Std.ExtTreeMap PlayerId Int64 compare
  /-- Seconds whose credit was refused. -/
  pending : Totals

namespace Sessions

variable {σ : Type} [Ledger σ]

def empty : Sessions := ⟨∅, ∅⟩

def isAccumulating (sessions : Sessions) (id : PlayerId) : Bool := sessions.started.contains id

def openCount (sessions : Sessions) : Nat := sessions.started.size

def owed (sessions : Sessions) (now : Int64) : Totals :=
  sessions.started.map fun _ started => owedSeconds started now

def live (sessions : Sessions) (id : PlayerId) (now : Int64) : Int64 :=
  match sessions.started[id]? with
  | some started => owedSeconds started now
  | none => 0

def seconds (sessions : Sessions) (ledger : σ) (id : PlayerId) (now : Int64) : Except StorageError Int64 :=
  match Ledger.seconds? ledger id with
  | .error error => .error error
  | .ok stored =>
    .ok (addSat (addSat (stored.getD 0) (sessions.live id now)) (sessions.pending.getD id 0))

def totals (sessions : Sessions) (ledger : σ) (now : Int64) : Except StorageError Totals :=
  match Ledger.totals ledger with
  | .error error => .error error
  | .ok stored => .ok ((stored.merge (sessions.owed now)).merge sessions.pending)

def unsaved (sessions : Sessions) (orders : Traversals) (now : Int64) : Int64 :=
  sumSat (sumSat 0 (orders.live.arrange (sessions.owed now).values)) (orders.pending.arrange sessions.pending.values)

def park (sessions : Sessions) (id : PlayerId) (seconds : Int64) : Sessions :=
  { sessions with pending := sessions.pending.insert id (addSat (sessions.pending.getD id 0) seconds) }

def parkAll (sessions : Sessions) (batch : List (PlayerId × Int64)) : Sessions :=
  batch.foldl (fun sessions entry => sessions.park entry.1 entry.2) sessions

/-- Credits what one session owes; the ledger is not asked about nothing. -/
def settle (sessions : Sessions) (ledger : σ) (id : PlayerId) (seconds : Int64) :
    Except StorageError Unit × Sessions × σ :=
  if seconds = 0 then (.ok (), sessions, ledger)
  else
    match Ledger.credit ledger id seconds with
    | (.ok (), ledger) => (.ok (), sessions, ledger)
    | (.error error, ledger) => (.error error, sessions.park id seconds, ledger)

def settleAll (sessions : Sessions) (ledger : σ) (batch : Totals) : Except StorageError Unit × Sessions × σ :=
  if batch.isEmpty then (.ok (), sessions, ledger)
  else
    match Ledger.creditAll ledger batch.toList with
    | (.ok (), ledger) => (.ok (), sessions, ledger)
    | (.error error, ledger) => (.error error, sessions.parkAll batch.toList, ledger)

/-- Opens a session. One that is open already is credited up to now and goes on from there. -/
def start (sessions : Sessions) (ledger : σ) (id : PlayerId) (now : Int64) :
    Except StorageError Unit × Sessions × σ :=
  { sessions with started := sessions.started.insert id now }.settle ledger id (sessions.live id now)

def stop (sessions : Sessions) (ledger : σ) (id : PlayerId) (now : Int64) :
    Except StorageError Unit × Sessions × σ :=
  { sessions with started := sessions.started.erase id }.settle ledger id (sessions.live id now)

/-- What a flush credits: the sessions that owe anything, and all that is pending. -/
def due (sessions : Sessions) (now : Int64) : Totals :=
  Totals.merge ((sessions.owed now).filter fun _ owed => owed ≠ 0) sessions.pending

/-- The start of a session that has been credited its whole seconds; the rest of a second goes on accruing. -/
def advance (started now : Int64) : Int64 := addSat started (mulSat (owedSeconds started now) 1000)

def flush (sessions : Sessions) (ledger : σ) (now : Int64) : Except StorageError Unit × Sessions × σ :=
  let advanced : Sessions := ⟨sessions.started.map fun _ started => advance started now, ∅⟩
  advanced.settleAll ledger (sessions.due now)

def close (sessions : Sessions) (ledger : σ) (now : Int64) : Except StorageError Unit × Sessions × σ :=
  match empty.settleAll ledger (sessions.due now) with
  | (outcome, sessions, ledger) => (outcome, sessions, Ledger.close ledger)

def shift? (started delta : Int64) : Option Int64 := (mul? delta 1000).bind fun millis => sub? started millis

def absorb (sessions : Sessions) (id : PlayerId) (delta : Int64) : Except StorageError (Option Sessions) :=
  match sessions.started[id]? with
  | none => .ok none
  | some started =>
    match shift? started delta with
    | none => .error (.outOfRange id delta)
    | some moved => .ok (some { sessions with started := sessions.started.insert id moved })

def add (sessions : Sessions) (ledger : σ) (id : PlayerId) (delta : Int64) :
    Except StorageError Unit × Sessions × σ :=
  match sessions.absorb id delta with
  | .error error => (.error error, sessions, ledger)
  | .ok (some absorbed) => (.ok (), absorbed, ledger)
  | .ok none =>
    match Ledger.credit ledger id delta with
    | (outcome, ledger) => (outcome, sessions, ledger)

/--
Lets open sessions take their part of a batch, one after the other, and gives the part that is left. A fault ends
it where it stands.
-/
def absorbAll (sessions : Sessions) :
    List (PlayerId × Int64) → Except StorageError (List (PlayerId × Int64)) × Sessions
  | [] => (.ok [], sessions)
  | (id, delta) :: rest =>
    match sessions.absorb id delta with
    | .error error => (.error error, sessions)
    | .ok (some absorbed) => absorbed.absorbAll rest
    | .ok none =>
      match sessions.absorbAll rest with
      | (.error error, absorbed) => (.error error, absorbed)
      | (.ok left, absorbed) => (.ok ((id, delta) :: left), absorbed)

/-- Counts a batch. What sessions have absorbed stays with them even if the rest is refused. -/
def addAll (sessions : Sessions) (ledger : σ) (deltas : List (PlayerId × Int64)) :
    Except StorageError Unit × Sessions × σ :=
  match sessions.absorbAll deltas with
  | (.error error, absorbed) => (.error error, absorbed, ledger)
  | (.ok [], absorbed) => (.ok (), absorbed, ledger)
  | (.ok direct, absorbed) =>
    match Ledger.creditAll ledger direct with
    | (outcome, ledger) => (outcome, absorbed, ledger)

end Sessions

end Playtime
