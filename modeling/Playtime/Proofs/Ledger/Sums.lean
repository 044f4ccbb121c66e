import Playtime.Proofs.Sessions.Logging
import Playtime.Proofs.Sessions.Reads

namespace Playtime

def secondsOf (batch : List (PlayerId × Int64)) : Int := (batch.map fun entry => entry.2.toInt).sum

theorem secondsOf_toList (batch : Totals) : secondsOf batch.toList = batch.sum := by
  rw [Totals.sum, values_eq_map_toList, List.map_map]
  rfl

namespace Sql

namespace Store

def lengthOf (left : Int) (intervals : List (PlayerId × Timestamp)) : Int :=
  (intervals.map fun entry => left - entry.2.seconds).sum

theorem grandTotal_record (tables : Tables) (world : Nat) (left : Timestamp)
    (intervals : List (PlayerId × Timestamp)) :
    (record tables world left intervals).grandTotal = tables.grandTotal + lengthOf left.seconds intervals := by
  induction intervals generalizing tables with
  | nil => simp [record, lengthOf]
  | cons entry rest ih =>
    obtain ⟨id, joined⟩ := entry
    obtain ⟨player, known⟩ := tables.row_of_ensurePlayer id.toBytes
    have players : (tables.ensurePlayer id.toBytes).intervals = tables.intervals := by
      unfold Tables.ensurePlayer
      split <;> rfl
    have step : ((tables.ensurePlayer id.toBytes).insertInterval id.toBytes world joined left).grandTotal =
        tables.grandTotal + (left.seconds - joined.seconds) := by
      unfold Tables.grandTotal Tables.insertInterval
      rw [known]
      dsimp only
      rw [players, sum_append]
      simp [IntervalRow.sum, IntervalRow.seconds]
    rw [record, ih, step, lengthOf, lengthOf, List.map_cons, List.sum_cons, Int.add_assoc]

theorem statistics_record (tables : Tables) (world : Nat) (left : Timestamp) (intervals : List (PlayerId × Timestamp)) :
    (record tables world left intervals).statistics = tables.statistics := by
  induction intervals generalizing tables with
  | nil => rfl
  | cons entry rest ih =>
    rw [record, ih]
    unfold Tables.insertInterval Tables.ensurePlayer
    split <;> split <;> rfl

theorem lengthOf_joinedAll (left : Int64) (deltas : List (PlayerId × Int64))
    (intervals : List (PlayerId × Timestamp)) (accepted : joinedAll left deltas = .ok intervals) :
    lengthOf left.toInt intervals = secondsOf deltas := by
  induction deltas generalizing intervals with
  | nil =>
    cases accepted
    rfl
  | cons entry rest ih =>
    obtain ⟨id, delta⟩ := entry
    unfold joinedAll at accepted
    split at accepted
    · next zero =>
      have tail := ih intervals accepted
      simpa [secondsOf, zero] using tail
    · split at accepted
      · cases accepted
      · next first step =>
        cases others : joinedAll left rest with
        | error error =>
          rw [others] at accepted
          cases accepted
        | ok later =>
          rw [others] at accepted
          cases accepted
          have head := seconds_joined step
          have tail := ih later others
          unfold lengthOf secondsOf at *
          simp only [List.map_cons, List.sum_cons]
          omega

theorem sums_creditAll {store : Store} {host : Host} {deltas : List (PlayerId × Int64)}
    (accepted : (store.creditAll host deltas).1 = .ok ()) :
    ∃ tables changed, store.tables? host = some tables ∧
      store.tables? (store.creditAll host deltas).2 = some changed ∧
      changed.grandTotal = tables.grandTotal + secondsOf deltas ∧ changed.statistics = tables.statistics := by
  obtain ⟨tables, changed, before, step, after⟩ := store.write_accepted host _ accepted
  refine ⟨tables, changed, before, after, ?_⟩
  split at step
  · cases step
  · next empty =>
    cases step
    have none := lengthOf_joinedAll host.seconds deltas [] empty
    refine ⟨?_, rfl⟩
    rw [← none]
    simp [lengthOf]
  · cases step
  · next intervals left _ joined read =>
    cases step
    refine ⟨?_, statistics_record tables store.world left intervals⟩
    rw [grandTotal_record, seconds_ofUnix? read, lengthOf_joinedAll host.seconds deltas intervals joined]

theorem grandTotal_eq_ok {store : Store} {host : Host} {total : Int64} (read : store.grandTotal host = .ok total) :
    store.isOpen = true ∧ ∃ tables, store.tables? host = some tables ∧ total.toInt = tables.grandTotal := by
  unfold grandTotal Store.read at read
  split at read
  · next isOpen =>
    split at read
    · cases read
    · next tables held =>
      unfold sum at read
      dsimp only at read
      split at read
      · next seconds fits =>
        cases read
        exact ⟨isOpen, tables, held, (int64?_eq_some_iff _ _).mp fits⟩
      · cases read
  · cases read

end Store

end Sql

namespace Sessions

variable {σ : Type} [Ledger σ]

variable [LawfulLedger σ] [ListedLedger σ]

theorem sum_credited {ledger : σ} {batch before : Totals} (keyed : ListedLedger.Keyed ledger)
    (sound : LawfulLedger.Sound ledger) (isOpen : LawfulLedger.IsOpen ledger)
    (fits : ∀ id, Fits (LawfulLedger.balance ledger id))
    (room : ∀ id, Fits (LawfulLedger.balance (credited ledger batch.toList) id))
    (listed : Ledger.totals ledger = .ok before) (taken : Takes ledger batch.toList) :
    ∃ after, Ledger.totals (credited ledger batch.toList) = .ok after ∧ after.sum = before.sum + batch.sum := by
  have keyed' : ListedLedger.Keyed (credited ledger batch.toList) := by
    cases batch.toList with
    | nil => exact keyed
    | cons entry rest => exact ListedLedger.keyed_creditAll ledger _ keyed
  have isOpen' : LawfulLedger.IsOpen (credited ledger batch.toList) := by
    cases batch.toList with
    | nil => exact isOpen
    | cons entry rest => exact (LawfulLedger.isOpen_creditAll ledger _).mpr isOpen
  obtain ⟨totals, read, entries⟩ := ListedLedger.totals_of_fits ledger isOpen keyed fits
  obtain ⟨after, reread, entries'⟩ := ListedLedger.totals_of_fits _ isOpen' keyed' room
  cases read.symm.trans listed
  refine ⟨after, reread, ?_⟩
  have balance (id : PlayerId) : (before.getD id 0).toInt = LawfulLedger.balance ledger id := by
    rw [Std.ExtTreeMap.getD_eq_getD_getElem?]
    exact LawfulLedger.balance_of_seconds? ledger id _ (entries id)
  refine sum_of_getD fun id => ?_
  rw [Std.ExtTreeMap.getD_eq_getD_getElem?, LawfulLedger.balance_of_seconds? _ id _ (entries' id),
    balance_credited ledger batch.toList sound taken, secondsFor_toList, balance]

end Sessions

/-- The seconds of all players in a ledger, exactly; a database may have more than it can read out. -/
def Backend.ledgerSum? (state : Backend × Host) : Option Int :=
  match state.1.timeStore? with
  | some store => (store.tables? state.2).map fun tables => (tables.totals.map Prod.snd).sum
  | none => (Ledger.totals state).toOption.map Totals.sum

end Playtime
