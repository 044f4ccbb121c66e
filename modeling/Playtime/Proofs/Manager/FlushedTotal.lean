import Playtime.Proofs.Manager.Rollup
import Playtime.Proofs.Sessions.Rounds

namespace Playtime

open Sql (Tables Store StatisticRow Statistic tablesAt?)

namespace Sessions

theorem unsaved_of_settled (sessions : Sessions) (orders : Traversals) (now : Int64) (nothing : sessions.pending = ∅)
    (settled : ∀ (id : PlayerId) started, sessions.started[id]? = some started → owedSeconds started now = 0) :
    sessions.unsaved orders now = 0 := by
  refine unsaved_of_zeros (fun second member => ?_) (fun second member => ?_)
  · rw [values_eq_map_toList] at member
    obtain ⟨⟨id, seconds⟩, inside, rfl⟩ := List.mem_map.mp member
    have found := Std.ExtTreeMap.mem_toList_iff_getElem?_eq_some.mp inside
    rw [getElem?_owed] at found
    obtain ⟨started, session, rfl⟩ := Option.map_eq_some_iff.mp found
    exact settled id started session
  · rw [nothing] at member
    exact absurd member List.not_mem_nil

theorem sum_due (sessions : Sessions) (now : Int64)
    (fits : ∀ id, Fits ((sessions.live id now).toInt + sessions.parked id)) :
    (sessions.due now).sum = (sessions.owed now).sum + sessions.pending.sum := by
  refine sum_of_getD fun id => ?_
  rw [getD_due, getD_owed]
  exact (fits id).toInt_addSat

variable {sessions : Sessions} {orders : Traversals} {now : Int64}

theorem Unclamped.toInt_unsaved_due (unclamped : sessions.Unclamped orders ∅ now) :
    (sessions.unsaved orders now).toInt = (sessions.due now).sum := by
  rw [sum_due sessions now fun id => by simpa [parked] using unclamped.pending id]
  exact toInt_unsaved unclamped.unsaved

theorem unsaved_flush {σ : Type} [Ledger σ] (orders : Traversals) (measured : ∀ id, sessions.Measured id now)
    (ledger : σ) (accepted : (sessions.flush ledger now).1 = .ok ()) :
    (sessions.flush ledger now).2.1.unsaved orders now = 0 := by
  apply unsaved_of_settled _ orders now (pending_flush sessions ledger now accepted)
  intro id started session
  rw [started_flush, Std.ExtTreeMap.getElem?_map] at session
  obtain ⟨earlier, known, rfl⟩ := Option.map_eq_some_iff.mp session
  exact owedSeconds_advance (measured id earlier known)

end Sessions

namespace Sql

def StatisticRow.replacedBy (row other : StatisticRow) : StatisticRow :=
  if (other.name = row.name && other.calculated = row.calculated) = true then row else other

namespace StatisticRow

theorem name_replacedBy (row other : StatisticRow) : (row.replacedBy other).name = other.name := by
  unfold replacedBy
  split
  · next same =>
    simp only [Bool.and_eq_true, decide_eq_true_eq] at same
    exact same.1.symm
  · rfl

theorem calculated_replacedBy (row other : StatisticRow) : (row.replacedBy other).calculated = other.calculated := by
  unfold replacedBy
  split
  · next same =>
    simp only [Bool.and_eq_true, decide_eq_true_eq] at same
    exact same.2.symm
  · rfl

theorem later_replacedBy (row : StatisticRow) (best : Option StatisticRow) (other : StatisticRow) :
    Tables.later (best.map row.replacedBy) (row.replacedBy other) = (Tables.later best other).map row.replacedBy := by
  cases best with
  | none => rfl
  | some kept =>
    unfold Tables.later
    dsimp only [Option.map_some]
    rw [calculated_replacedBy, calculated_replacedBy]
    split <;> rfl

theorem foldl_replacedBy (row : StatisticRow) (rows : List StatisticRow) (best : Option StatisticRow) :
    (rows.map row.replacedBy).foldl Tables.later (best.map row.replacedBy) =
      (rows.foldl Tables.later best).map row.replacedBy := by
  induction rows generalizing best with
  | nil => rfl
  | cons first rows ih => rw [List.map_cons, List.foldl_cons, List.foldl_cons, later_replacedBy, ih]

end StatisticRow

theorem Tables.latestStatistic?_storeStatistic (tables : Tables) (row : StatisticRow) :
    (tables.storeStatistic row).latestStatistic? row.name = some row ∨
      (tables.storeStatistic row).latestStatistic? row.name = tables.latestStatistic? row.name := by
  unfold storeStatistic
  dsimp only
  split
  · have filtered : (tables.statistics.map row.replacedBy).filter (fun other => other.name = row.name) =
        (tables.statistics.filter fun other => other.name = row.name).map row.replacedBy := by
      rw [List.filter_map]
      simp [Function.comp_def, StatisticRow.name_replacedBy]
    have latest : latestStatistic? { tables with statistics := tables.statistics.map row.replacedBy } row.name =
        (tables.latestStatistic? row.name).map row.replacedBy := by
      unfold latestStatistic?
      dsimp only
      rw [filtered]
      exact row.foldl_replacedBy _ none
    change latestStatistic? { tables with statistics := tables.statistics.map row.replacedBy } row.name = _ ∨
      latestStatistic? { tables with statistics := tables.statistics.map row.replacedBy } row.name = _
    rw [latest]
    cases tables.latestStatistic? row.name with
    | none => exact .inr rfl
    | some kept =>
      rw [Option.map_some, StatisticRow.replacedBy]
      split
      · exact .inl rfl
      · exact .inr rfl
  · unfold latestStatistic?
    dsimp only
    rw [List.filter_append, List.foldl_append, List.filter_cons_of_pos (by simp), List.filter_nil, List.foldl_cons,
      List.foldl_nil]
    generalize (tables.statistics.filter fun other => other.name = row.name).foldl later none = best
    cases best with
    | none => exact .inl rfl
    | some kept =>
      unfold later
      dsimp only
      split
      · exact .inl rfl
      · exact .inr rfl

theorem Tables.latestStatistic?_congr {tables others : Tables} (same : tables.statistics = others.statistics)
    (name : String) : tables.latestStatistic? name = others.latestStatistic? name := by
  unfold latestStatistic?
  rw [same]

theorem Store.latestStatistic?_of_known {store : Store} {host : Host} {tables : Tables}
    (isOpen : store.isOpen = true) (held : store.tables? host = some tables) (name : String) :
    store.latestStatistic? host name = .ok ((tables.latestStatistic? name).map fun row =>
      ⟨row.name, Int64.ofInt row.calculated.seconds, row.result⟩) := by
  unfold latestStatistic? Store.read
  rw [if_pos isOpen, held]

end Sql

namespace Backend

theorem sums_credited {backend : Backend} {store : Store} {host : Host} {tables : Tables}
    {batch : List (PlayerId × Int64)} (timed : backend.timeStore? = some store)
    (held : store.tables? host = some tables) (taken : Sessions.Takes (backend, host) batch) :
    (Sessions.credited (backend, host) batch).1 = backend ∧
      ∃ changed, store.tables? (Sessions.credited (backend, host) batch).2 = some changed ∧
        changed.grandTotal = tables.grandTotal + secondsOf batch ∧ changed.statistics = tables.statistics := by
  cases batch with
  | nil => exact ⟨rfl, tables, held, by simp [secondsOf], rfl⟩
  | cons entry batch =>
    have written : (store.creditAll host (entry :: batch)).1 = .ok () ∧
        Ledger.creditAll (backend, host) (entry :: batch) =
          (.ok (), backend, (store.creditAll host (entry :: batch)).2) := by
      cases backend with
      | files names times => cases timed
      | relational other =>
        cases timed
        exact ⟨taken, Prod.ext taken rfl⟩
      | mixed names other =>
        cases timed
        exact ⟨taken, Prod.ext taken rfl⟩
    obtain ⟨before, changed, known, found, longer, same⟩ := Sql.Store.sums_creditAll written.1
    cases held.symm.trans known
    rw [Sessions.credited, written.2]
    exact ⟨rfl, changed, found, longer, same⟩

theorem listed_credited {backend : Backend} {host : Host} {batch before : Totals}
    (filed : backend.timeStore? = none) (canonical : backend.Canonical)
    (listed : Ledger.totals (backend, host) = .ok before) (taken : Sessions.Takes (backend, host) batch.toList) :
    (Sessions.credited (backend, host) batch.toList).1.timeStore? = none ∧
      ∃ after, Ledger.totals (Sessions.credited (backend, host) batch.toList) = .ok after ∧
        after.sum = before.sum + batch.sum := by
  cases backend with
  | relational store => cases filed
  | mixed names store => cases filed
  | files names times =>
    have isOpen : times.isOpen = true := by
      by_contra closed
      change TimeFile.totals times = _ at listed
      unfold TimeFile.totals FlatFile.read at listed
      rw [if_neg closed] at listed
      cases listed
    refine ⟨by cases batch.toList <;> rfl, ?_⟩
    exact Sessions.sum_credited canonical trivial isOpen (fun _ => fits_toInt _)
      (fun _ => by cases batch.toList <;> exact fits_toInt _) listed taken

end Backend

namespace Manager

/-- The recorded total that is served to whoever takes one that is not older than so many seconds. -/
def served? (backend : Backend) (host : Host) (maxAge : UInt64) (now : Int64) : Option Int64 :=
  backend.timeStore?.bind fun store =>
    match store.latestStatistic? host totalStatistic with
    | .ok (some statistic) =>
      if isFresh statistic.calculated (wholeSeconds now) maxAge then some statistic.result else none
    | _ => none

theorem served?_of_known {backend : Backend} {store : Store} {host : Host} {tables : Tables}
    (timed : backend.timeStore? = some store) (isOpen : store.isOpen = true)
    (held : store.tables? host = some tables) (maxAge : UInt64) (now : Int64) :
    served? backend host maxAge now = (tables.latestStatistic? totalStatistic).bind fun row =>
      if isFresh (Int64.ofInt row.calculated.seconds) (wholeSeconds now) maxAge then some row.result else none := by
  unfold served?
  rw [timed, Option.bind_some, Store.latestStatistic?_of_known isOpen held]
  cases tables.latestStatistic? totalStatistic <;> rfl

/-- A total that is told is served from then on, or it is that of the tables and none is served. -/
theorem recordedTotal_told {backend : Backend} {store : Store} {host after : Host} {maxAge : UInt64}
    {now stored : Int64} (timed : backend.timeStore? = some store)
    (told : recordedTotal store host maxAge now = (.ok stored, after)) :
    store.isOpen = true ∧ ∃ tables, store.tables? after = some tables ∧
      (served? backend after maxAge now = some stored ∨
        served? backend after maxAge now = none ∧ stored.toInt = tables.grandTotal ∧
          (Sql.Timestamp.ofUnix? (wholeSeconds now).toInt).isSome = true) := by
  rcases recordedTotal_cases store host maxAge now with
    ⟨error, failed⟩ | ⟨statistic, latest, fresh, served⟩ |
    ⟨total, renewed, latest, known, stale, ⟨summed, stored'⟩, again⟩
  · cases failed.symm.trans told
  · cases served.symm.trans told
    obtain ⟨isOpen, tables, -, held, -, -⟩ := Store.latestStatistic?_eq_some latest
    refine ⟨isOpen, tables, held, .inl ?_⟩
    unfold served?
    rw [timed, Option.bind_some, latest]
    exact if_pos fresh
  · cases again.symm.trans told
    obtain ⟨isOpen, tables, held, exact⟩ := Store.grandTotal_eq_ok summed
    obtain ⟨before, calculated, found, second, written⟩ := Store.storeStatistic_eq_ok stored'
    cases found.symm.trans held
    have recorded : store.tables? after = some (tables.storeStatistic ⟨totalStatistic, calculated, stored⟩) := written
    have same : (tables.storeStatistic ⟨totalStatistic, calculated, stored⟩).grandTotal = tables.grandTotal := by
      unfold Tables.grandTotal
      rw [(Tables.fields_storeStatistic _).2]
    have timely : (Sql.Timestamp.ofUnix? (wholeSeconds now).toInt).isSome = true := by
      rw [← second]
      exact Option.isSome_iff_exists.mpr ⟨calculated, dif_pos calculated.bounds⟩
    refine ⟨isOpen, _, recorded, ?_⟩
    -- What was recorded is served, or an older row is, which is stale as it was before.
    rw [served?_of_known timed isOpen recorded, same]
    rcases tables.latestStatistic?_storeStatistic ⟨totalStatistic, calculated, stored⟩ with newest | older
    · rw [newest, Option.bind_some]
      split
      · exact .inl rfl
      · exact .inr ⟨rfl, exact, timely⟩
    · have none : served? backend host maxAge now = none := by
        unfold served?
        rw [timed, Option.bind_some, known]
        cases latest with
        | none => rfl
        | some statistic => exact if_neg (by simp [stale statistic rfl])
      rw [served?_of_known timed isOpen held] at none
      rw [older]
      exact .inr ⟨none, exact, timely⟩

theorem recordedTotal_of_served {backend : Backend} {store : Store} {host : Host} {maxAge : UInt64}
    {now stored : Int64} (timed : backend.timeStore? = some store)
    (served : served? backend host maxAge now = some stored) :
    recordedTotal store host maxAge now = (.ok stored, host) := by
  unfold served? at served
  rw [timed, Option.bind_some] at served
  unfold recordedTotal
  split at served
  · next statistic latest =>
    rw [latest]
    split at served
    · next fresh =>
      cases served
      exact if_pos fresh
    · cases served
  · cases served

theorem recordedTotal_of_unserved {backend : Backend} {store : Store} {host : Host} {tables : Tables}
    {maxAge : UInt64} {now : Int64} (timed : backend.timeStore? = some store) (isOpen : store.isOpen = true)
    (held : store.tables? host = some tables) (unserved : served? backend host maxAge now = none)
    (timely : (Sql.Timestamp.ofUnix? (wholeSeconds now).toInt).isSome = true) (fits : Fits tables.grandTotal) :
    (recordedTotal store host maxAge now).1 = .ok (Int64.ofInt tables.grandTotal) := by
  obtain ⟨calculated, read⟩ := Option.isSome_iff_exists.mp timely
  have summed : store.grandTotal host = .ok (Int64.ofInt tables.grandTotal) := by
    unfold Store.grandTotal Store.read
    rw [if_pos isOpen, held]
    exact Store.sum_of_fits fits
  have stored (total : Int64) : (store.storeStatistic host ⟨totalStatistic, wholeSeconds now, total⟩).1 = .ok () := by
    unfold Store.storeStatistic
    rw [Store.write_of_known isOpen held, read]
    rfl
  have stale : ∀ statistic ∈ (tables.latestStatistic? totalStatistic).map fun row =>
      (⟨row.name, Int64.ofInt row.calculated.seconds, row.result⟩ : Sql.Statistic),
      isFresh statistic.calculated (wholeSeconds now) maxAge = false := by
    intro statistic member
    obtain ⟨row, recorded, rfl⟩ := Option.map_eq_some_iff.mp member
    rw [served?_of_known timed isOpen held, recorded, Option.bind_some, ite_eq_right_iff] at unserved
    exact Bool.eq_false_iff.mpr fun fresh => Option.some_ne_none _ (unserved fresh)
  have taken := stored (Int64.ofInt tables.grandTotal)
  rw [recordedTotal_of_stale (Store.latestStatistic?_of_known isOpen held totalStatistic) stale, renewedTotal, summed]
  dsimp only
  split
  · rfl
  · next failed =>
    rw [failed] at taken
    cases taken

theorem flush_of_known {manager : Manager} {number : Nat} (site : Site) {storages : Storages}
    (current : manager.current = some number) (known : site.storages[number]? = some storages) (now : Int64) :
    let after := storages.sessions.flush (storages.backend, site.host) now
    (manager.flush site now).1 = after.1 ∧ (manager.flush site now).2.host = after.2.2.2 ∧
      (manager.flush site now).2.storages[number]? = some ⟨after.2.2.1, after.2.1⟩ := by
  intro after
  obtain ⟨inside, -⟩ := List.getElem?_eq_some_iff.mp known
  have step : manager.flush site now = (after.1, ⟨after.2.2.2, site.storages.set number ⟨after.2.2.1, after.2.1⟩⟩) := by
    unfold Manager.flush Manager.storages Site.onSessions
    rw [current]
    dsimp only
    rw [known]
  rw [step]
  exact ⟨rfl, rfl, List.getElem?_set_self inside⟩

/-- Nothing is clipped when the sum of a ledger and what is not saved are put together. -/
structure Spacious (storages : Storages) (host : Host) (orders : Traversals) (maxAge : UInt64) (now : Int64) :
    Prop where
  listed (totals : Totals) (filed : storages.backend.timeStore? = none)
    (read : Ledger.totals (storages.backend, host) = .ok totals) : AddUp (orders.stored.arrange totals.values)
  whole (stored : Int64) (told : (ledgerTotal storages.backend host orders.stored maxAge now).1 = .ok stored) :
    Fits (stored.toInt + (storages.sessions.unsaved orders now).toInt)

theorem ledgerTotal_of_file {backend : Backend} {host : Host} (filed : backend.timeStore? = none) (order : Traversal)
    (maxAge : UInt64) (now : Int64) : ledgerTotal backend host order maxAge now =
      ((Ledger.totals (backend, host)).map fun totals => sumSat 0 (order.arrange totals.values), host) := by
  unfold ledgerTotal
  rw [filed]

section Flushed

variable {storages : Storages} {host recorded : Host} {orders orders' : Traversals} {maxAge : UInt64}
  {now stored : Int64}

theorem ledgerTotal_flushed_of_file (filed : storages.backend.timeStore? = none)
    (canonical : storages.backend.Canonical) (unclamped : storages.sessions.Unclamped orders ∅ now)
    (spacious : Spacious storages host orders maxAge now)
    (told : ledgerTotal storages.backend host orders.stored maxAge now = (.ok stored, recorded)) :
    let flushed := storages.sessions.flush (storages.backend, recorded) now
    flushed.1 = .ok () → Spacious ⟨flushed.2.2.1, flushed.2.1⟩ flushed.2.2.2 orders' maxAge now →
      ∃ after, (ledgerTotal flushed.2.2.1 flushed.2.2.2 orders'.stored maxAge now).1 = .ok after ∧
        after.toInt = stored.toInt + (storages.sessions.unsaved orders now).toInt := by
  intro flushed accepted spacious'
  have ledger : flushed.2.2 = Sessions.credited (storages.backend, recorded) (storages.sessions.due now).toList :=
    Sessions.settleAll_eq _ _ _
  rw [ledgerTotal_of_file filed] at told
  cases listed : Ledger.totals (storages.backend, host) with
  | error error =>
    rw [listed] at told
    cases told
  | ok totals =>
    rw [listed] at told
    cases told
    obtain ⟨filed', totals', listed', sum⟩ := Backend.listed_credited filed canonical listed
      ((Sessions.settleAll_eq_ok_iff _ _ _).mp accepted)
    rw [← ledger] at filed' listed'
    refine ⟨sumSat 0 (orders'.stored.arrange totals'.values), ?_, ?_⟩
    · rw [ledgerTotal_of_file filed']
      dsimp only
      rw [listed']
      rfl
    · rw [Traversal.toInt_sumSat _ _ (spacious.listed totals filed listed),
        Traversal.toInt_sumSat _ _ (spacious'.listed totals' filed' listed'), unclamped.toInt_unsaved_due]
      exact sum

theorem ledgerTotal_flushed_of_store {store : Store} (timed : storages.backend.timeStore? = some store)
    (unclamped : storages.sessions.Unclamped orders ∅ now) (spacious : Spacious storages host orders maxAge now)
    (told : ledgerTotal storages.backend host orders.stored maxAge now = (.ok stored, recorded)) :
    let flushed := storages.sessions.flush (storages.backend, recorded) now
    flushed.1 = .ok () →
      ∃ after, (ledgerTotal flushed.2.2.1 flushed.2.2.2 orders'.stored maxAge now).1 = .ok after ∧
        (served? storages.backend recorded maxAge now = none →
          after.toInt = stored.toInt + (storages.sessions.unsaved orders now).toInt) ∧
        (served? storages.backend recorded maxAge now ≠ none → after = stored) := by
  intro flushed accepted
  have ledger : flushed.2.2 = Sessions.credited (storages.backend, recorded) (storages.sessions.due now).toList :=
    Sessions.settleAll_eq _ _ _
  have room := spacious.whole stored (congrArg Prod.fst told)
  rw [ledgerTotal_of_store timed] at told
  obtain ⟨isOpen, tables, held, either⟩ := recordedTotal_told timed told
  obtain ⟨kept, changed, held', longer, same⟩ := Backend.sums_credited timed held
    ((Sessions.settleAll_eq_ok_iff _ _ _).mp accepted)
  rw [← ledger] at kept held'
  rw [secondsOf_toList, ← unclamped.toInt_unsaved_due] at longer
  have again : served? storages.backend flushed.2.2.2 maxAge now = served? storages.backend recorded maxAge now := by
    rw [served?_of_known timed isOpen held', served?_of_known timed isOpen held, Tables.latestStatistic?_congr same]
  rw [kept, ledgerTotal_of_store timed]
  rcases either with served | ⟨unserved, exact, timely⟩
  · refine ⟨stored, ?_, fun none => ?_, fun _ => rfl⟩
    · rw [recordedTotal_of_served timed (again.trans served)]
    · cases none.symm.trans served
  · have fits : Fits changed.grandTotal := by rwa [longer, ← exact]
    refine ⟨Int64.ofInt changed.grandTotal, ?_, fun _ => ?_, fun some => absurd unserved some⟩
    · exact recordedTotal_of_unserved timed isOpen held' (again.trans unserved) timely fits
    · rw [toInt_ofInt_of_bounds _ fits.1 fits.2, longer, exact]

theorem served?_of_file (filed : storages.backend.timeStore? = none) :
    served? storages.backend host maxAge now = none := by
  unfold served?
  rw [filed, Option.bind_none]

theorem ledgerTotal_flushed (canonical : storages.backend.Canonical)
    (unclamped : storages.sessions.Unclamped orders ∅ now) (spacious : Spacious storages host orders maxAge now)
    (told : ledgerTotal storages.backend host orders.stored maxAge now = (.ok stored, recorded)) :
    let flushed := storages.sessions.flush (storages.backend, recorded) now
    flushed.1 = .ok () → Spacious ⟨flushed.2.2.1, flushed.2.1⟩ flushed.2.2.2 orders' maxAge now →
      ∃ after, (ledgerTotal flushed.2.2.1 flushed.2.2.2 orders'.stored maxAge now).1 = .ok after ∧
        (served? storages.backend recorded maxAge now = none →
          after.toInt = stored.toInt + (storages.sessions.unsaved orders now).toInt) ∧
        (served? storages.backend recorded maxAge now ≠ none → after = stored) := by
  intro flushed accepted spacious'
  cases timed : storages.backend.timeStore? with
  | some store => exact ledgerTotal_flushed_of_store timed unclamped spacious told accepted
  | none =>
    obtain ⟨after, read, sum⟩ := ledgerTotal_flushed_of_file timed canonical unclamped spacious told accepted
      spacious'
    exact ⟨after, read, fun _ => sum, fun some => absurd (served?_of_file timed) some⟩

end Flushed

/--
A flush changes the total if the total was one that a recorded sum is served for, and then by what it credits. It does
not change the total of a file, or of a database that has no recorded sum to serve. The two totals may be summed up in
orders of their own.
-/
theorem total_around_flush (manager : Manager) (number : Nat) (site reached recorded flushed : Site)
    (occasions : List (Int64 × Occasion)) (orders orders' : Traversals) (maxAge : UInt64) (now total : Int64)
    (current : manager.current = some number) (orderly : site.Orderly)
    (run : manager.after site occasions = reached)
    (told : manager.total reached orders maxAge now = (.ok total, recorded))
    (accepted : manager.flush recorded now = (.ok (), flushed))
    (measured : ∀ storages ∈ reached.storages[number]?, ∀ id, storages.sessions.Measured id now)
    (unclamped : ∀ storages ∈ reached.storages[number]?, storages.sessions.Unclamped orders ∅ now)
    (before : ∀ storages ∈ reached.storages[number]?, Spacious storages reached.host orders maxAge now)
    (after : ∀ storages ∈ flushed.storages[number]?, Spacious storages flushed.host orders' maxAge now) :
    ∃ storages again, reached.storages[number]? = some storages ∧
      (manager.total flushed orders' maxAge now).1 = .ok again ∧
      (storages.backend.timeStore? = none → again = total) ∧
      (served? storages.backend recorded.host maxAge now = none → again = total) ∧
      (served? storages.backend recorded.host maxAge now ≠ none →
        again.toInt = total.toInt - (storages.sessions.unsaved orders now).toInt) := by
  have ordered := (manager.orderly_after orderly occasions).files
  rw [run] at ordered
  cases known : reached.storages[number]? with
  | none =>
    unfold Manager.total Manager.storages at told
    rw [current] at told
    dsimp only at told
    rw [known] at told
    cases told
  | some storages =>
    rw [total_of_known current known] at told
    cases outcome : ledgerTotal storages.backend reached.host orders.stored maxAge now with
    | mk first host =>
      rw [outcome] at told
      cases first with
      | error error => cases told
      | ok stored =>
        cases told
        have unclamped := unclamped storages known
        have spacious := before storages known
        obtain ⟨accepted', host', known'⟩ := flush_of_known { reached with host } current known now
        rw [accepted] at accepted' host' known'
        dsimp only at accepted' host' known'
        have spacious' := after _ known'
        rw [host'] at spacious'
        obtain ⟨again, read, moved, kept⟩ := ledgerTotal_flushed (ordered storages (List.mem_of_getElem? known))
          unclamped spacious outcome accepted'.symm spacious'
        have room := (spacious.whole stored (congrArg Prod.fst outcome)).toInt_addSat
        have nothing := Sessions.unsaved_flush orders' (measured storages known) (storages.backend, host) accepted'.symm
        have same (unserved : served? storages.backend host maxAge now = none) :
            again = addSat stored (storages.sessions.unsaved orders now) := by
          rw [← Int64.toInt_inj, room, moved unserved]
        refine ⟨storages, again, rfl, ?_, fun filed => same (served?_of_file filed), same, fun served => ?_⟩
        · rw [total_of_known current known', host']
          dsimp only
          rw [read, nothing, Except.map, addSat_zero]
        · dsimp only
          rw [room, kept served]
          omega

/-- A session and a pending credit go to the ledger, and with no age allowed the sum is worked out anew. -/
theorem total_around_flush_of_session :
    let manager := around 0
    let sessions : Sessions := ⟨(∅ : Totals).insert ⟨7⟩ 0, (∅ : Totals).insert ⟨8⟩ 3⟩
    let store : Store := ⟨0, "ot_", 0, true⟩
    let site : Site := ⟨⟨.empty, [(∅ : Sql.Database).createTables "ot_"], 0⟩, [⟨.relational store, sessions⟩]⟩
    let occasions : List (Int64 × Occasion) := [(100000, .deed 0 (.use (.credit ⟨9⟩ 60)))]
    let backward : Traversal := ⟨List.reverse, List.reverse_perm⟩
    let orders : Traversals := ⟨.ascending, backward, .ascending⟩
    ∃ reached recorded flushed, manager.after site occasions = reached ∧
      manager.total reached orders 0 120500 = (.ok 183, recorded) ∧
      manager.flush recorded 120500 = (.ok (), flushed) ∧
      sessions.Unclamped orders ∅ 120500 ∧ sessions.unsaved orders 120500 = 123 ∧
      (manager.total flushed .ascending 0 120500).1 = .ok 183 := by
  intro manager sessions store site occasions backward orders
  let figures (site : Site) (orders : Traversals) := (site.storages[0]?).map fun storages =>
    (storages.backend.timeStore?.isSome, (ledgerTotal storages.backend site.host orders.stored 0 120500).1,
      storages.sessions.unsaved orders 120500)
  have spacious (site : Site) (orders : Traversals) (stored unsaved : Int64)
      (read : figures site orders = some (true, .ok stored, unsaved)) (fits : Fits (stored.toInt + unsaved.toInt)) :
      ∀ storages ∈ site.storages[0]?, Spacious storages site.host orders 0 120500 := by
    intro storages found
    dsimp only [figures] at read
    rw [Option.mem_def.mp found, Option.map_some] at read
    simp only [Option.some.injEq, Prod.mk.injEq] at read
    obtain ⟨timed, told, same⟩ := read
    refine ⟨fun totals filed => by simp [filed] at timed, fun other told' => ?_⟩
    cases told'.symm.trans told
    rwa [same]
  have started (id : PlayerId) : sessions.started[id]? = if ⟨7⟩ = id then some 0 else none := by
    simp [sessions, Std.ExtTreeMap.getElem?_insert]
  have measured (id : PlayerId) : sessions.Measured id 120500 := by
    intro earlier session
    rw [started] at session
    split at session
    · cases session
      decide
    · cases session
  have unclamped : sessions.Unclamped orders ∅ 120500 := by
    have parked (id : PlayerId) : sessions.pending.getD id 0 = if ⟨8⟩ = id then 3 else 0 := by
      simp only [sessions, Std.ExtTreeMap.getD_insert, Std.LawfulEqOrd.compare_eq_iff_eq]
      split <;> rfl
    refine ⟨fun id => ?_, fun id => ?_, by decide +kernel⟩
    · rw [Std.ExtTreeMap.getD_empty, Sessions.live, started]
      split_ifs <;> decide
    · rw [Std.ExtTreeMap.getD_empty, Sessions.live, started, parked]
      split_ifs <;> decide
  -- The run is evaluated once, by the kernel, before anything is read off it.
  have known : (manager.after site occasions).storages[0]? = some ⟨.relational store, sessions⟩ := rfl
  have read : (fun reached : Site => figures reached orders = some (true, .ok 60, 123) ∧
      (manager.total reached orders 0 120500).1 = .ok 183 ∧
      served? (.relational store) (manager.total reached orders 0 120500).2.host 0 120500 = none ∧
      (manager.flush (manager.total reached orders 0 120500).2 120500).1 = .ok () ∧
      figures (manager.flush (manager.total reached orders 0 120500).2 120500).2 .ascending = some (true, .ok 183, 0))
        (manager.after site occasions) := by decide +kernel
  generalize run : manager.after site occasions = reached at read known
  generalize first : manager.total reached orders 0 120500 = told at read
  obtain ⟨total, recorded⟩ := told
  generalize second : manager.flush recorded 120500 = moved at read
  obtain ⟨outcome, flushed⟩ := moved
  obtain ⟨start, rfl, unserved, rfl, last⟩ := read
  have only : ∀ storages ∈ reached.storages[0]?, storages.sessions = sessions := by
    intro storages found
    obtain rfl := Option.some.inj (found.symm.trans known)
    rfl
  obtain ⟨storages, again, found, told, -, same, -⟩ := total_around_flush manager 0 site reached recorded flushed
    occasions orders .ascending 0 120500 183 rfl (Site.orderly_of_new .empty "ot_" 0 0) run first second
    (fun storages found => only storages found ▸ measured) (fun storages found => only storages found ▸ unclamped)
    (spacious reached orders 60 123 start (by decide +kernel))
    (spacious flushed .ascending 183 0 last (by decide +kernel))
  obtain rfl := Option.some.inj (found.symm.trans known)
  rw [same unserved] at told
  exact ⟨reached, recorded, flushed, rfl, first, second, unclamped, by decide +kernel, told⟩

/-- A sum that was recorded before a flush is served after it, when what it moved is not counted any more. -/
theorem total_drops_after_flush :
    let manager := around 0
    let host : Host := ⟨.empty, [(∅ : Sql.Database).createTables "ot_"], 0⟩
    let site : Site := ⟨host, [⟨.relational ⟨0, "ot_", 0, true⟩, .empty⟩]⟩
    let reached := manager.after site [(0, .deed 0 (.use (.call (.start ⟨1⟩ 0))))]
    let recorded := (manager.total reached .ascending 600 120000).2
    let flushed := (manager.flush recorded 120000).2
    (manager.total reached .ascending 600 120000).1 = .ok 120 ∧ (manager.flush recorded 120000).1 = .ok () ∧
      manager.ledgerSum? flushed = some 120 ∧ (manager.total flushed .ascending 600 120000).1 = .ok 0 := by
  decide +kernel

end Manager

end Playtime
