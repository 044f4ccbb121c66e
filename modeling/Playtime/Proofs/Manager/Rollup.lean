import Playtime.Manager
import Playtime.Proofs.Site.Deeds

namespace Playtime

open Sql (Tables Store StatisticRow Statistic TablePlace tablesAt?)

namespace Sql

theorem Tables.mem_of_latestStatistic? {tables : Tables} {name : String} {row : StatisticRow}
    (latest : tables.latestStatistic? name = some row) : row ∈ tables.statistics ∧ row.name = name := by
  have picks (rows : List StatisticRow) (best : Option StatisticRow) (row : StatisticRow)
      (found : rows.foldl later best = some row) : best = some row ∨ row ∈ rows := by
    induction rows generalizing best with
    | nil => exact .inl found
    | cons first rows ih =>
      rcases ih (later best first) found with step | inside
      · unfold later at step
        split at step
        · cases step
          exact .inr (by simp)
        · split at step
          · cases step
            exact .inr (by simp)
          · exact .inl step
      · exact .inr (List.mem_cons_of_mem _ inside)
  rcases picks _ none row latest with none | inside
  · cases none
  · simpa using List.mem_filter.mp inside

theorem Store.latestStatistic?_eq_some {store : Store} {host : Host} {name : String} {statistic : Statistic}
    (read : store.latestStatistic? host name = .ok (some statistic)) :
    store.isOpen = true ∧ ∃ tables row, store.tables? host = some tables ∧
      tables.latestStatistic? name = some row ∧
      statistic = ⟨row.name, Int64.ofInt row.calculated.seconds, row.result⟩ := by
  unfold latestStatistic? Store.read at read
  split at read
  · next isOpen =>
    split at read
    · cases read
    · next tables held =>
      obtain ⟨row, latest, same⟩ := Option.map_eq_some_iff.mp (Except.ok.inj read)
      exact ⟨isOpen, tables, row, held, latest, same.symm⟩
  · cases read

theorem Store.storeStatistic_eq_ok {store : Store} {host after : Host} {statistic : Statistic}
    (stored : store.storeStatistic host statistic = (.ok (), after)) :
    ∃ tables calculated, store.tables? host = some tables ∧ calculated.seconds = statistic.calculated.toInt ∧
      store.tables? after = some (tables.storeStatistic ⟨statistic.name, calculated, statistic.result⟩) := by
  obtain ⟨tables, changed, held, step, written⟩ := store.write_accepted host _ (congrArg Prod.fst stored)
  split at step
  · cases step
  · next calculated read =>
    cases step
    refine ⟨tables, calculated, held, Store.seconds_ofUnix? read, ?_⟩
    rw [← written]
    exact congrArg (fun result => store.tables? result.2) stored.symm

end Sql

namespace Manager

def Renews (store : Store) (host : Host) (now : Int64) (total : Int64) (after : Host) : Prop :=
  store.grandTotal host = .ok total ∧
    store.storeStatistic host ⟨totalStatistic, wholeSeconds now, total⟩ = (.ok (), after)

def renewedTotal (store : Store) (host : Host) (now : Int64) : Except StorageError Int64 × Host :=
  match store.grandTotal host with
  | .error error => (.error error, host)
  | .ok total =>
    match store.storeStatistic host ⟨totalStatistic, wholeSeconds now, total⟩ with
    | (.ok (), host) => (.ok total, host)
    | (.error error, host) => (.error error, host)

theorem recordedTotal_of_stale {store : Store} {host : Host} {maxAge : UInt64} {now : Int64}
    {latest : Option Statistic} (known : store.latestStatistic? host totalStatistic = .ok latest)
    (stale : ∀ statistic ∈ latest, isFresh statistic.calculated (wholeSeconds now) maxAge = false) :
    recordedTotal store host maxAge now = renewedTotal store host now := by
  unfold recordedTotal
  rw [known]
  cases latest with
  | none => rfl
  | some statistic => exact if_neg (by simp [stale statistic rfl])

theorem renewedTotal_cases (store : Store) (host : Host) (now : Int64) :
    (∃ error, renewedTotal store host now = (.error error, host)) ∨
      ∃ total after, Renews store host now total after ∧ renewedTotal store host now = (.ok total, after) := by
  unfold renewedTotal
  cases summed : store.grandTotal host with
  | error error => exact .inl ⟨error, rfl⟩
  | ok total =>
    dsimp only
    cases stored : store.storeStatistic host ⟨totalStatistic, wholeSeconds now, total⟩ with
    | mk outcome after =>
      cases outcome with
      | ok => exact .inr ⟨total, after, ⟨summed, stored⟩, rfl⟩
      | error error =>
        have kept := store.write_refused host _ error (congrArg Prod.fst stored)
        change (store.storeStatistic host _).2 = host at kept
        rw [stored] at kept
        exact .inl ⟨error, by rw [← kept]⟩

/-- The sum is not told, or it is served as it was recorded, or it is worked out and recorded. -/
theorem recordedTotal_cases (store : Store) (host : Host) (maxAge : UInt64) (now : Int64) :
    (∃ error, recordedTotal store host maxAge now = (.error error, host)) ∨
    (∃ statistic, store.latestStatistic? host totalStatistic = .ok (some statistic) ∧
      isFresh statistic.calculated (wholeSeconds now) maxAge = true ∧
      recordedTotal store host maxAge now = (.ok statistic.result, host)) ∨
    ∃ total after latest, store.latestStatistic? host totalStatistic = .ok latest ∧
      (∀ statistic ∈ latest, isFresh statistic.calculated (wholeSeconds now) maxAge = false) ∧
      Renews store host now total after ∧ recordedTotal store host maxAge now = (.ok total, after) := by
  cases known : store.latestStatistic? host totalStatistic with
  | error error => exact .inl ⟨error, by rw [recordedTotal, known]⟩
  | ok latest =>
    by_cases fresh : ∃ statistic ∈ latest, isFresh statistic.calculated (wholeSeconds now) maxAge = true
    · obtain ⟨statistic, rfl, young⟩ := fresh
      exact .inr (.inl ⟨statistic, rfl, young, by rw [recordedTotal, known]; exact if_pos young⟩)
    · have stale : ∀ statistic ∈ latest, isFresh statistic.calculated (wholeSeconds now) maxAge = false := by
        intro statistic member
        exact Bool.eq_false_iff.mpr fun young => fresh ⟨statistic, member, young⟩
      rw [recordedTotal_of_stale known stale]
      rcases renewedTotal_cases store host now with failed | ⟨total, after, renews, told⟩
      · exact .inl failed
      · exact .inr (.inr ⟨total, after, latest, rfl, stale, renews, told⟩)

/-- What happens around a manager: its total is asked for, or something is done through some storages. -/
inductive Occasion where
  | total (orders : Traversals) (maxAge : UInt64) (now : Int64)
  | deed (number : Nat) (deed : Deed)

def meet (manager : Manager) (site : Site) : Occasion → Site
  | .total orders maxAge now => (manager.total site orders maxAge now).2
  | .deed number deed => site.deed number deed

def after (manager : Manager) (site : Site) : List (Int64 × Occasion) → Site
  | [] => site
  | (clock, occasion) :: later => manager.after (manager.meet (site.showing clock) occasion) later

def ledgerSum? (manager : Manager) (site : Site) : Option Int :=
  (manager.current.bind fun number => site.storages[number]?).bind fun storages =>
    Backend.ledgerSum? (storages.backend, site.host)

/-- When the total was asked for in a run, and the seconds in the ledger at that moment. -/
def tallies (manager : Manager) (site : Site) : List (Int64 × Occasion) → List (Int64 × Option Int)
  | [] => []
  | (clock, .total orders maxAge now) :: later => (now, manager.ledgerSum? (site.showing clock)) ::
    manager.tallies (manager.meet (site.showing clock) (.total orders maxAge now)) later
  | (clock, .deed number deed) :: later => manager.tallies (manager.meet (site.showing clock) (.deed number deed)) later

/-- Nothing but the total is recorded under its name. -/
def Occasion.Plain : Occasion → Prop
  | .deed _ (.record statistic) => statistic.name ≠ totalStatistic
  | .deed _ _ | .total _ _ _ => True

instance (occasion : Occasion) : Decidable occasion.Plain :=
  match occasion with
  | .deed _ (.record statistic) => inferInstanceAs (Decidable (statistic.name ≠ totalStatistic))
  | .deed _ (.use _) | .deed _ (.name _) | .deed _ .closeNames | .total _ _ _ => .isTrue trivial

structure Traced (place : TablePlace) (known : List (Int64 × Option Int)) (site : Site) : Prop where
  orderly : site.Orderly
  rows (tables : Tables) (held : tablesAt? site.host place = some tables) (row : StatisticRow)
    (member : row ∈ tables.statistics) (named : row.name = totalStatistic) :
    ∃ now, (now, some row.result.toInt) ∈ known ∧ row.calculated.seconds = (wholeSeconds now).toInt

variable {place : TablePlace} {known : List (Int64 × Option Int)} {site : Site}

theorem Traced.more (traced : Traced place known site) (tally : Int64 × Option Int) :
    Traced place (known ++ [tally]) site := by
  refine ⟨traced.orderly, fun tables held row member named => ?_⟩
  obtain ⟨now, tallied, second⟩ := traced.rows tables held row member named
  exact ⟨now, List.mem_append_left _ tallied, second⟩

theorem Traced.deed (traced : Traced place known site) (number : Nat) (deed : Deed)
    (plain : (Occasion.deed number deed).Plain) : Traced place known (site.deed number deed) := by
  refine ⟨traced.orderly.deed number deed, fun tables held row member named => ?_⟩
  rcases site.altered_deed number deed place with ⟨-, none⟩ | ⟨before, changed, there, found, altered⟩
  · cases none.symm.trans held
  · cases found.symm.trans held
    rcases altered.statistics row member with inside | allowed
    · exact traced.rows before there row inside named
    · cases deed with
      | record statistic => exact absurd (allowed.symm.trans named) plain
      | use what => exact allowed.elim
      | name call => exact allowed.elim
      | closeNames => exact allowed.elim

theorem total_of_known {manager : Manager} {number : Nat} {site : Site} {storages : Storages}
    (current : manager.current = some number) (known : site.storages[number]? = some storages) (orders : Traversals)
    (maxAge : UInt64) (now : Int64) : manager.total site orders maxAge now =
      ((ledgerTotal storages.backend site.host orders.stored maxAge now).1.map fun stored =>
          addSat stored (storages.sessions.unsaved orders now),
        { site with host := (ledgerTotal storages.backend site.host orders.stored maxAge now).2 }) := by
  unfold Manager.total Manager.storages
  rw [current]
  dsimp only
  rw [known]

theorem ledgerTotal_of_store {backend : Backend} {store : Store} (timed : backend.timeStore? = some store)
    (host : Host) (order : Traversal) (maxAge : UInt64) (now : Int64) :
    ledgerTotal backend host order maxAge now = recordedTotal store host maxAge now := by
  unfold ledgerTotal
  rw [timed]

theorem storages_of_timePlace? {number : Nat} (placed : site.timePlace? number = some place) :
    ∃ storages store, site.storages[number]? = some storages ∧ storages.backend.timeStore? = some store ∧
      store.place = place := by
  obtain ⟨storages, known, at'⟩ := Option.bind_eq_some_iff.mp placed
  obtain ⟨store, timed, here⟩ := Option.map_eq_some_iff.mp at'
  exact ⟨storages, store, known, timed, here⟩

theorem ledgerSum?_of_grandTotal {manager : Manager} {number : Nat} {storages : Storages} {store : Store}
    {total : Int64} (orderly : site.Orderly) (current : manager.current = some number)
    (known : site.storages[number]? = some storages) (timed : storages.backend.timeStore? = some store)
    (summed : store.grandTotal site.host = .ok total) : manager.ledgerSum? site = some total.toInt := by
  obtain ⟨-, tables, held, exact⟩ := Store.grandTotal_eq_ok summed
  have owned := (orderly.tables store.place tables held).1
  unfold ledgerSum? Backend.ledgerSum?
  rw [current, Option.bind_some, known, Option.bind_some]
  dsimp only
  rw [timed]
  dsimp only
  rw [held, Option.map_some, Tables.sum_totals tables owned, exact]

theorem site_total (manager : Manager) (site : Site) (orders : Traversals) (maxAge : UInt64) (now : Int64) :
    (manager.total site orders maxAge now).2 = site ∨
      ∃ number statistic, (manager.total site orders maxAge now).2 = site.deed number (.record statistic) := by
  cases current : manager.current with
  | none =>
    unfold Manager.total Manager.storages
    rw [current]
    exact .inl rfl
  | some number =>
    cases known : site.storages[number]? with
    | none =>
      unfold Manager.total Manager.storages
      rw [current]
      dsimp only
      rw [known]
      exact .inl rfl
    | some storages =>
      rw [total_of_known current known]
      cases timed : storages.backend.timeStore? with
      | none =>
        unfold ledgerTotal
        rw [timed]
        exact .inl rfl
      | some store =>
        rw [ledgerTotal_of_store timed]
        rcases recordedTotal_cases store site.host maxAge now with
          ⟨error, told⟩ | ⟨statistic, -, -, told⟩ | ⟨total, after, -, -, -, ⟨-, stored⟩, told⟩
        · exact .inl (by rw [told])
        · exact .inl (by rw [told])
        · refine .inr ⟨number, ⟨totalStatistic, wholeSeconds now, total⟩, ?_⟩
          obtain ⟨inside, same⟩ := List.getElem?_eq_some_iff.mp known
          rw [Site.deed_of_known known, told, Deed.act]
          dsimp only
          rw [timed]
          dsimp only
          rw [stored, ← same, List.set_getElem_self]

theorem orderly_total (manager : Manager) {site : Site} (orderly : site.Orderly) (orders : Traversals)
    (maxAge : UInt64) (now : Int64) : (manager.total site orders maxAge now).2.Orderly := by
  rcases manager.site_total site orders maxAge now with same | ⟨number, statistic, same⟩
  · rwa [same]
  · rw [same]
    exact orderly.deed number (.record statistic)

theorem orderly_after (manager : Manager) {site : Site} (orderly : site.Orderly)
    (occasions : List (Int64 × Occasion)) : (manager.after site occasions).Orderly := by
  induction occasions generalizing site with
  | nil => exact orderly
  | cons entry occasions ih =>
    obtain ⟨clock, occasion⟩ := entry
    have start := orderly.showing clock
    cases occasion with
    | deed number deed => exact ih (start.deed number deed)
    | total orders maxAge now => exact ih (manager.orderly_total start orders maxAge now)

theorem Traced.total {manager : Manager} {number : Nat} (traced : Traced place known site)
    (current : manager.current = some number) (placed : site.timePlace? number = some place) (orders : Traversals)
    (maxAge : UInt64) (now : Int64) :
    Traced place (known ++ [(now, manager.ledgerSum? site)]) (manager.total site orders maxAge now).2 := by
  obtain ⟨storages, store, found, timed, rfl⟩ := storages_of_timePlace? placed
  have more := traced.more (now, manager.ledgerSum? site)
  have orderly := manager.orderly_total traced.orderly orders maxAge now
  rw [total_of_known current found, ledgerTotal_of_store timed] at orderly ⊢
  rcases recordedTotal_cases store site.host maxAge now with
    ⟨error, told⟩ | ⟨statistic, -, -, told⟩ | ⟨total, after, -, -, -, ⟨summed, stored⟩, told⟩
  · rw [told]
    exact more
  · rw [told]
    exact more
  · rw [told]
    have sum := ledgerSum?_of_grandTotal traced.orderly current found timed summed
    obtain ⟨tables, calculated, held, second, written⟩ := Store.storeStatistic_eq_ok stored
    rw [told] at orderly
    refine ⟨orderly, fun others held' row member named => ?_⟩
    cases written.symm.trans held'
    rcases Tables.mem_storeStatistic member with rfl | inside
    · exact ⟨now, by simp [sum], second⟩
    · exact more.rows tables held row inside named

theorem storages_total (manager : Manager) (site : Site) (orders : Traversals) (maxAge : UInt64) (now : Int64) :
    (manager.total site orders maxAge now).2.storages = site.storages := by
  unfold Manager.total
  split
  · rfl
  · split <;> rfl

theorem timePlace?_meet (manager : Manager) (site : Site) (number : Nat) (occasion : Occasion) :
    (manager.meet site occasion).timePlace? number = site.timePlace? number := by
  cases occasion with
  | deed other deed => exact site.timePlace?_deed number other deed
  | total orders maxAge now =>
    unfold Site.timePlace? meet
    dsimp only
    rw [storages_total]

theorem timePlace?_after (manager : Manager) (site : Site) (number : Nat) (occasions : List (Int64 × Occasion)) :
    (manager.after site occasions).timePlace? number = site.timePlace? number := by
  induction occasions generalizing site with
  | nil => rfl
  | cons entry occasions ih =>
    obtain ⟨clock, occasion⟩ := entry
    exact (ih _).trans (timePlace?_meet manager (site.showing clock) number occasion)

theorem Traced.after {manager : Manager} {number : Nat} (traced : Traced place known site)
    (current : manager.current = some number) (placed : site.timePlace? number = some place)
    (occasions : List (Int64 × Occasion)) (plain : ∀ entry ∈ occasions, entry.2.Plain) :
    Traced place (known ++ manager.tallies site occasions) (manager.after site occasions) := by
  induction occasions generalizing site known with
  | nil =>
    rw [tallies, List.append_nil]
    exact traced
  | cons entry occasions ih =>
    obtain ⟨clock, occasion⟩ := entry
    have later := fun entry member => plain entry (List.mem_cons_of_mem _ member)
    have start : Traced place known (site.showing clock) := ⟨traced.orderly.showing clock, traced.rows⟩
    have here := (timePlace?_meet manager (site.showing clock) number occasion).trans placed
    cases occasion with
    | deed other deed => exact ih (start.deed other deed (plain (clock, .deed other deed) (by simp))) here later
    | total orders maxAge now =>
      have step := ih (start.total current placed orders maxAge now) here later
      rwa [List.append_assoc] at step

theorem toInt_toInt64_le (maxAge : UInt64) : maxAge.toInt64.toInt ≤ maxAge.toNat := by
  have bits : maxAge.toInt64.toInt = (maxAge.toNat : Int).bmod (2 ^ 64) := BitVec.toInt_eq_toNat_bmod maxAge.toBitVec
  rw [bits, Int.bmod_def]
  split <;> omega

theorem wholeSeconds_mono {earlier now : Int64} (order : earlier.toInt ≤ now.toInt) :
    (wholeSeconds earlier).toInt ≤ (wholeSeconds now).toInt := by
  rw [toInt_wholeSeconds, toInt_wholeSeconds]
  exact Int.tdiv_le_tdiv (by decide) order

/-- What a ledger in a database is told to have: the sum now, or one recorded less than so many seconds ago. -/
theorem Traced.recent {manager : Manager} {number : Nat} {storages : Storages} {store : Store} {maxAge : UInt64}
    {now stored : Int64} (traced : Traced store.place known site) (current : manager.current = some number)
    (found : site.storages[number]? = some storages) (timed : storages.backend.timeStore? = some store)
    (told : (recordedTotal store site.host maxAge now).1 = .ok stored) :
    manager.ledgerSum? site = some stored.toInt ∨ ∃ earlier, (earlier, some stored.toInt) ∈ known ∧
      (wholeSeconds now).toInt - (wholeSeconds earlier).toInt < maxAge.toInt64.toInt := by
  rcases recordedTotal_cases store site.host maxAge now with
    ⟨error, failed⟩ | ⟨statistic, latest, fresh, served⟩ | ⟨sum, after, -, -, -, ⟨summed, -⟩, renewed⟩
  · rw [failed] at told
    cases told
  · rw [served] at told
    cases told
    obtain ⟨-, tables, row, held, newest, rfl⟩ := Store.latestStatistic?_eq_some latest
    obtain ⟨member, named⟩ := Tables.mem_of_latestStatistic? newest
    obtain ⟨earlier, tallied, second⟩ := traced.rows tables held row member named
    have young := of_decide_eq_true fresh
    dsimp only at young
    rw [second, Int64.ofInt_toInt] at young
    exact .inr ⟨earlier, tallied, young⟩
  · rw [renewed] at told
    cases told
    exact .inl (ledgerSum?_of_grandTotal traced.orderly current found timed summed)

/--
The total is that of the sessions and of a sum of the ledger: with a file the sum at that moment, each addition clipped
in whatever order they are made, and with a database the exact sum at that moment or at an earlier call that is not as
old as was allowed.
-/
theorem total_of_recent_ledger (manager : Manager) (number : Nat) (site : Site)
    (occasions : List (Int64 × Occasion)) (orders : Traversals) (maxAge : UInt64) (now total : Int64)
    (current : manager.current = some number) (orderly : site.Orderly)
    (unrecorded : ∀ place ∈ site.timePlace? number, ∀ tables ∈ tablesAt? site.host place,
      ∀ row ∈ tables.statistics, row.name ≠ totalStatistic)
    (plain : ∀ entry ∈ occasions, entry.2.Plain)
    (forward : ∀ tally ∈ manager.tallies site occasions, tally.1.toInt ≤ now.toInt)
    (told : (manager.total (manager.after site occasions) orders maxAge now).1 = .ok total) :
    let reached := manager.after site occasions
    ∃ storages stored, reached.storages[number]? = some storages ∧
      total = addSat stored (storages.sessions.unsaved orders now) ∧
      ((storages.backend.timeStore?).isSome = true →
        (manager.ledgerSum? reached = some stored.toInt ∨
          ∃ earlier, (earlier, some stored.toInt) ∈ manager.tallies site occasions ∧
            (wholeSeconds now).toInt - (wholeSeconds earlier).toInt < maxAge.toNat) ∧
        (maxAge = 0 → manager.ledgerSum? reached = some stored.toInt)) ∧
      (storages.backend.timeStore? = none →
        ∃ totals, Ledger.totals (storages.backend, reached.host) = .ok totals ∧
          stored = sumSat 0 (orders.stored.arrange totals.values) ∧ manager.ledgerSum? reached = some totals.sum ∧
          (AddUp (orders.stored.arrange totals.values) → stored.toInt = totals.sum)) := by
  intro reached
  cases known : reached.storages[number]? with
  | none =>
    unfold Manager.total Manager.storages at told
    rw [current] at told
    dsimp only at told
    rw [known] at told
    cases told
  | some storages =>
    rw [total_of_known current known] at told
    cases outcome : (ledgerTotal storages.backend reached.host orders.stored maxAge now).1 with
    | error error =>
      rw [outcome] at told
      cases told
    | ok stored =>
      rw [outcome] at told
      refine ⟨storages, stored, rfl, (Except.ok.inj told).symm, fun timed => ?_, fun filed => ?_⟩
      · obtain ⟨store, timed⟩ := Option.isSome_iff_exists.mp timed
        have here : reached.timePlace? number = some store.place := by
          rw [Site.timePlace?, known, Option.bind_some, Backend.timePlace?, timed, Option.map_some]
        have placed := (timePlace?_after manager site number occasions).symm.trans here
        have fresh : Traced store.place [] site :=
          ⟨orderly, fun tables held row member named => absurd named (unrecorded _ placed tables held row member)⟩
        have traced := fresh.after current placed occasions plain
        rw [List.nil_append] at traced
        rw [ledgerTotal_of_store timed] at outcome
        rcases traced.recent current known timed outcome with exact | ⟨earlier, tallied, young⟩
        · exact ⟨.inl exact, fun _ => exact⟩
        · have limit := toInt_toInt64_le maxAge
          refine ⟨.inr ⟨earlier, tallied, by omega⟩, fun none => ?_⟩
          -- A call that allows no age has no earlier call to be served from.
          have order := wholeSeconds_mono (forward _ tallied)
          subst none
          change _ < 0 at young
          dsimp only at order
          omega
      · unfold ledgerTotal at outcome
        rw [filed] at outcome
        cases listed : Ledger.totals (storages.backend, reached.host) with
        | error error =>
          dsimp only at outcome
          rw [listed] at outcome
          cases outcome
        | ok totals =>
          dsimp only at outcome
          rw [listed] at outcome
          cases outcome
          refine ⟨totals, rfl, rfl, ?_, orders.stored.toInt_sumSat totals.values⟩
          rw [ledgerSum?, current, Option.bind_some, known, Option.bind_some, Backend.ledgerSum?]
          dsimp only
          rw [filed]
          dsimp only
          rw [listed]
          rfl

/-- The first call records a sum that the second one is served; to allow no age is to work it out anew. -/
theorem total_of_recent_ledger_before_credit :
    let player : PlayerId := ⟨7⟩
    let manager := around 0
    let store : Store := ⟨0, "ot_", 0, true⟩
    let site : Site := ⟨⟨.empty, [(∅ : Sql.Database).createTables "ot_"], 0⟩, [⟨.relational store, .empty⟩]⟩
    let occasions : List (Int64 × Occasion) := [(100000, .deed 0 (.use (.credit player 60))),
      (100000, .deed 0 (.use (.call (.start ⟨8⟩ 90000)))), (100000, .total .ascending 600 100000),
      (200000, .deed 0 (.use (.credit player 5))), (200000, .deed 0 (.record ⟨"mean", 100, 3⟩))]
    let reached := manager.after site occasions
    manager.tallies site occasions = [(100000, some 60)] ∧ manager.ledgerSum? reached = some 65 ∧
      (manager.total reached .ascending 600 200000).1 = .ok 170 ∧
      (manager.total reached .ascending 0 200000).1 = .ok 175 ∧
      ∃ stored : Int64, (175 : Int64) = addSat stored 110 ∧ manager.ledgerSum? reached = some stored.toInt := by
  intro player manager store site occasions reached
  have told : (manager.total reached .ascending 0 200000).1 = .ok 175 := by decide +kernel
  have unrecorded : ∀ place ∈ site.timePlace? 0, ∀ tables ∈ tablesAt? site.host place,
      ∀ row ∈ tables.statistics, row.name ≠ totalStatistic := by decide +kernel
  obtain ⟨storages, stored, known, sum, served, -⟩ := total_of_recent_ledger manager 0 site occasions
    .ascending 0 200000 175
    rfl (Site.orderly_of_new .empty "ot_" 0 0) unrecorded (by decide +kernel) (by decide +kernel) told
  have unsaved :
      (reached.storages[0]?).map (fun storages => storages.sessions.unsaved .ascending 200000) = some 110 := by
    decide +kernel
  have timed : (reached.storages[0]?).map (fun storages => storages.backend.timeStore?.isSome) = some true := by
    decide +kernel
  rw [known] at unsaved timed
  have exact := (served (Option.some.inj timed)).2 rfl
  have same : storages.sessions.unsaved .ascending 200000 = 110 := Option.some.inj unsaved
  rw [same] at sum
  exact ⟨by decide +kernel, by decide +kernel, by decide +kernel, told, stored, sum, exact⟩

/-- The sum that a file is told to have is clipped on the way: with the exact sum the total would be another. -/
theorem total_of_file_clips_sum :
    let manager := around 0
    let times := TimeFile.inWorkingDirectory []
    let site : Site := ⟨⟨times.2, [], 0⟩, [⟨.files ⟨["names.json"], ∅, true⟩ times.1, .empty⟩]⟩
    let occasions : List (Int64 × Occasion) := [(0, .deed 0 (.use (.credit ⟨1⟩ 9223372036854775807))),
      (0, .deed 0 (.use (.credit ⟨2⟩ 1))), (0, .deed 0 (.use (.call (.start ⟨3⟩ 0)))),
      (0, .deed 0 (.use (.call (.add ⟨3⟩ (-5)))))]
    let reached := manager.after site occasions
    (reached.storages[0]?).map (fun storages : Storages => (storages.sessions.unsaved .ascending 0).toInt) = some (-5) ∧
      manager.ledgerSum? reached = some 9223372036854775808 ∧
      (manager.total reached .ascending 0 0).1 = .ok 9223372036854775802 ∧
      (manager.total reached .ascending 0 0).1 ≠ .ok (clip (9223372036854775808 + -5)) := by
  decide +kernel

end Manager

end Playtime
