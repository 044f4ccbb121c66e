import Playtime.Proofs.Manager.FlushedTotal
import Playtime.Proofs.Site.Errands
import Playtime.Proofs.Tables.Reopening

namespace Playtime

namespace Sql

namespace Statistic

def Replaces (new old : Statistic) : Prop := old.name = new.name ∧ old.calculated = new.calculated

def StandsIn (statistic : Statistic) (history : List Statistic) : Prop :=
  ∃ earlier later, history = earlier ++ statistic :: later ∧ ∀ other ∈ later, ¬ other.Replaces statistic

/-- The one that stands for the greatest second recorded under its name. -/
structure NewestIn (statistic : Statistic) (history : List Statistic) : Prop where
  stands : statistic.StandsIn history
  newest (other : Statistic) (member : other ∈ history) (same : other.name = statistic.name) :
    other.calculated.toInt ≤ statistic.calculated.toInt

variable {statistic new : Statistic} {history : List Statistic}

theorem StandsIn.mem (stands : statistic.StandsIn history) : statistic ∈ history := by
  obtain ⟨earlier, later, rfl, -⟩ := stands
  simp

theorem standsIn_append : statistic.StandsIn (history ++ [new]) ↔
    statistic = new ∨ statistic.StandsIn history ∧ ¬ new.Replaces statistic := by
  constructor
  · rintro ⟨earlier, later, split, kept⟩
    rcases List.eq_nil_or_concat later with rfl | ⟨between, last, rfl⟩
    · exact .inl (List.singleton_inj.mp (List.append_inj_right' split rfl)).symm
    · rw [List.concat_eq_append] at split kept
      rw [← List.cons_append, ← List.append_assoc] at split
      obtain ⟨rfl, same⟩ := List.append_inj' split rfl
      obtain rfl := List.singleton_inj.mp same
      exact .inr ⟨⟨earlier, between, rfl, fun other inside => kept other (List.mem_append_left _ inside)⟩,
        kept _ (by simp)⟩
  · rintro (rfl | ⟨⟨earlier, later, rfl, kept⟩, unreplaced⟩)
    · exact ⟨history, [], rfl, nofun⟩
    · refine ⟨earlier, later ++ [new], by simp, fun other member => ?_⟩
      rcases List.mem_append.mp member with inside | last
      · exact kept other inside
      · rwa [List.mem_singleton.mp last]

theorem exists_standsIn (member : statistic ∈ history) : ∃ kept : Statistic,
    kept.StandsIn history ∧ kept.name = statistic.name ∧ kept.calculated = statistic.calculated := by
  induction history using List.reverseRecOn with
  | nil => cases member
  | append_singleton history new ih =>
    by_cases replaced : new.Replaces statistic
    · exact ⟨new, standsIn_append.mpr (.inl rfl), replaced.1.symm, replaced.2.symm⟩
    · rcases List.mem_append.mp member with inside | last
      · obtain ⟨kept, stands, name, calculated⟩ := ih inside
        refine ⟨kept, standsIn_append.mpr (.inr ⟨stands, ?_⟩), name, calculated⟩
        unfold Replaces
        rwa [name, calculated]
      · exact absurd ⟨congrArg _ (List.mem_singleton.mp last), congrArg _ (List.mem_singleton.mp last)⟩ replaced

end Statistic

namespace StatisticRow

def statistic (row : StatisticRow) : Statistic := ⟨row.name, Int64.ofInt row.calculated.seconds, row.result⟩

theorem toInt_calculated (row : StatisticRow) : row.statistic.calculated.toInt = row.calculated.seconds := by
  obtain ⟨low, high⟩ := row.calculated.bounds
  refine toInt_ofInt_of_bounds _ (Int.le_trans ?_ low) (Int.le_trans high ?_)
  · decide
  · decide

theorem calculated_inj {row other : StatisticRow} :
    row.statistic.calculated = other.statistic.calculated ↔ row.calculated = other.calculated := by
  rw [← Int64.toInt_inj, toInt_calculated, toInt_calculated]
  obtain ⟨first, -⟩ := row.calculated
  obtain ⟨second, -⟩ := other.calculated
  exact (Timestamp.mk.injEq ..).to_iff.symm

theorem statistic_inj {row other : StatisticRow} (same : row.statistic = other.statistic) : row = other := by
  have calculated := calculated_inj.mp (congrArg Statistic.calculated same)
  obtain ⟨name, first, result⟩ := row
  obtain ⟨name', second, result'⟩ := other
  cases calculated
  cases congrArg Statistic.name same
  cases congrArg Statistic.result same
  rfl

theorem replaces_iff {row other : StatisticRow} :
    row.statistic.Replaces other.statistic ↔ other.name = row.name ∧ other.calculated = row.calculated :=
  and_congr Iff.rfl calculated_inj

end StatisticRow

namespace Tables

variable {tables : Tables} {history : List Statistic} {name : String}

theorem mem_storeStatistic_iff {row other : StatisticRow} : other ∈ (tables.storeStatistic row).statistics ↔
    other = row ∨ other ∈ tables.statistics ∧ ¬ (other.name = row.name ∧ other.calculated = row.calculated) := by
  unfold storeStatistic
  dsimp only
  split
  · next found =>
    obtain ⟨old, inside, same⟩ := List.any_eq_true.mp found
    simp only [List.mem_map]
    constructor
    · rintro ⟨kept, member, rfl⟩
      split
      · exact .inl rfl
      · next differs => exact .inr ⟨member, by simpa using differs⟩
    · rintro (rfl | ⟨member, differs⟩)
      · exact ⟨old, inside, if_pos same⟩
      · exact ⟨other, member, if_neg (by simpa using differs)⟩
  · next absent =>
    simp only [List.mem_append, List.mem_singleton]
    constructor
    · rintro (member | rfl)
      · exact .inr ⟨member, fun same => absent (List.any_eq_true.mpr ⟨other, member, by simpa using same⟩)⟩
      · exact .inl rfl
    · rintro (rfl | ⟨member, -⟩)
      · exact .inr rfl
      · exact .inl member

/-- The rows are what stands of what has been recorded. -/
structure Tells (tables : Tables) (history : List Statistic) : Prop where
  mem_iff (row : StatisticRow) : row ∈ tables.statistics ↔ row.statistic.StandsIn history
  timed (statistic : Statistic) (member : statistic ∈ history) : ∃ row : StatisticRow, row.statistic = statistic

theorem tells_nil (none : tables.statistics = []) : tables.Tells [] := by
  refine ⟨fun row => ?_, nofun⟩
  rw [none]
  exact ⟨nofun, fun stands => nomatch stands.mem⟩

theorem Tells.of_same {changed : Tables} (tells : tables.Tells history)
    (same : changed.statistics = tables.statistics) : changed.Tells history :=
  ⟨fun row => same ▸ tells.mem_iff row, tells.timed⟩

theorem Tells.storeStatistic (tells : tables.Tells history) (row : StatisticRow) :
    (tables.storeStatistic row).Tells (history ++ [row.statistic]) := by
  refine ⟨fun other => ?_, fun statistic member => ?_⟩
  · rw [mem_storeStatistic_iff, Statistic.standsIn_append, tells.mem_iff, StatisticRow.replaces_iff]
    exact or_congr_left ⟨congrArg _, StatisticRow.statistic_inj⟩
  · rcases List.mem_append.mp member with inside | last
    · exact tells.timed statistic inside
    · exact ⟨row, (List.mem_singleton.mp last).symm⟩

theorem foldl_later (rows : List StatisticRow) (best : StatisticRow) : ∃ row, rows.foldl later (some best) = some row ∧
    ∀ other ∈ best :: rows, other.calculated.rank ≤ row.calculated.rank := by
  induction rows generalizing best with
  | nil => exact ⟨best, rfl, by simp⟩
  | cons first rows ih =>
    rw [List.foldl_cons, later]
    split
    · next less =>
      obtain ⟨row, found, greatest⟩ := ih first
      have above := greatest first (List.mem_cons_self ..)
      exact ⟨row, found, List.forall_mem_cons.mpr ⟨by omega, greatest⟩⟩
    · next most =>
      obtain ⟨row, found, greatest⟩ := ih best
      obtain ⟨above, others⟩ := List.forall_mem_cons.mp greatest
      exact ⟨row, found, List.forall_mem_cons.mpr ⟨above, List.forall_mem_cons.mpr ⟨by omega, others⟩⟩⟩

theorem latestStatistic?_cases (tables : Tables) (name : String) :
    (tables.latestStatistic? name = none ∧ ∀ row ∈ tables.statistics, row.name ≠ name) ∨
      ∃ row ∈ tables.statistics, row.name = name ∧ tables.latestStatistic? name = some row ∧
        ∀ other ∈ tables.statistics, other.name = name → other.calculated.rank ≤ row.calculated.rank := by
  have filtered (row : StatisticRow) (member : row ∈ tables.statistics) (same : row.name = name) :
      row ∈ tables.statistics.filter fun row => row.name = name := List.mem_filter.mpr ⟨member, by simpa using same⟩
  cases rows : tables.statistics.filter fun row => row.name = name with
  | nil =>
    refine .inl ⟨by rw [latestStatistic?, rows]; rfl, fun row member same => ?_⟩
    have inside := filtered row member same
    rw [rows] at inside
    cases inside
  | cons first rest =>
    obtain ⟨row, found, greatest⟩ := foldl_later rest first
    have latest : tables.latestStatistic? name = some row := by rwa [latestStatistic?, rows]
    obtain ⟨member, same⟩ := mem_of_latestStatistic? latest
    refine .inr ⟨row, member, same, latest, fun other inside same' => greatest other ?_⟩
    exact rows ▸ filtered other inside same'

/-- From year 0 on the text that sorts last is the newest time, and what is told of a name is what stands for it. -/
theorem Tells.latest (tells : tables.Tells history)
    (late : ∀ statistic ∈ history, statistic.name = name → yearZero ≤ statistic.calculated.toInt) :
    ((tables.latestStatistic? name).map StatisticRow.statistic = none ↔ ∀ statistic ∈ history, statistic.name ≠ name) ∧
      ∀ statistic ∈ (tables.latestStatistic? name).map StatisticRow.statistic,
        statistic.name = name ∧ statistic.NewestIn history := by
  have rank (row : StatisticRow) (member : row ∈ tables.statistics) (same : row.name = name) :
      row.calculated.rank = row.statistic.calculated.toInt := by
    rw [row.toInt_calculated]
    apply Timestamp.rank_of_yearZero_le
    rw [← row.toInt_calculated]
    exact late _ ((tells.mem_iff row).mp member).mem same
  have kept (statistic : Statistic) (member : statistic ∈ history) : ∃ row ∈ tables.statistics,
      row.name = statistic.name ∧ row.statistic.calculated = statistic.calculated := by
    obtain ⟨stands, standing, same, second⟩ := Statistic.exists_standsIn member
    obtain ⟨row, rfl⟩ := tells.timed stands standing.mem
    exact ⟨row, (tells.mem_iff row).mpr standing, same, second⟩
  rcases tables.latestStatistic?_cases name with ⟨none, absent⟩ | ⟨row, member, same, latest, greatest⟩
  · rw [none]
    refine ⟨⟨fun _ statistic inside named => ?_, fun _ => rfl⟩, nofun⟩
    obtain ⟨row, member, same, -⟩ := kept statistic inside
    exact absent row member (same.trans named)
  · have stands := (tells.mem_iff row).mp member
    rw [latest]
    refine ⟨⟨nofun, fun never => absurd same (never row.statistic stands.mem)⟩, fun statistic told => ?_⟩
    obtain rfl := Option.some.inj told
    refine ⟨same, stands, fun other inside named => ?_⟩
    obtain ⟨row', member', same', second⟩ := kept other inside
    have mine := same'.trans (named.trans same)
    rw [← second, ← rank row' member' mine, ← rank row member same]
    exact greatest row' member' mine

end Tables

theorem Store.storeStatistic_accepted {store : Store} {host : Host} {tables : Tables} (isOpen : store.isOpen = true)
    (held : store.tables? host = some tables) {statistic : Statistic}
    (within : firstSecond ≤ statistic.calculated.toInt ∧ statistic.calculated.toInt ≤ lastSecond) :
    (store.storeStatistic host statistic).1 = .ok () := by
  obtain ⟨database, known, found⟩ := Option.bind_eq_some_iff.mp held
  unfold storeStatistic Store.write
  rw [if_pos isOpen, known]
  dsimp only
  rw [found, Timestamp.ofUnix?, dif_pos within]

theorem Tables.Altered.statistics_eq {permitted : StatisticRow → Prop} {tables changed : Tables}
    (altered : Tables.Altered permitted tables changed) (none : ∀ row, ¬ permitted row) :
    changed.statistics = tables.statistics := by
  induction altered with
  | refl => rfl
  | record tables world left intervals => exact Store.statistics_record tables world left intervals
  | name id text override assigned => exact (Tables.assignName_cases assigned).2.1
  | compute tables row allowed => exact absurd allowed (none row)
  | trans _ _ first second => exact second.trans first

end Sql

namespace Host

open Sql (Store Source StatisticRow TablePlace tablesAt?)

structure KeepsStatistics (host after : Host) : Prop where
  there (place : TablePlace) (present : (tablesAt? host place).isSome = true) : (tablesAt? after place).isSome = true
  same (place : TablePlace) :
    ((tablesAt? after place).getD .empty).statistics = ((tablesAt? host place).getD .empty).statistics

variable {host middle after : Host}

theorem KeepsStatistics.of_tables (same : ∀ place, tablesAt? after place = tablesAt? host place) :
    KeepsStatistics host after :=
  ⟨fun place present => same place ▸ present, fun place => by rw [same]⟩

theorem KeepsStatistics.trans (first : KeepsStatistics host middle) (second : KeepsStatistics middle after) :
    KeepsStatistics host after :=
  ⟨fun place present => second.there place (first.there place present),
    fun place => (second.same place).trans (first.same place)⟩

theorem KeepsStatistics.of_databases (same : after.databases = host.databases) : KeepsStatistics host after := by
  refine .of_tables fun place => ?_
  unfold tablesAt? Host.database?
  rw [same]

theorem Altered.there {permitted : StatisticRow → Prop} (altered : Altered permitted host after) (place : TablePlace)
    (present : (tablesAt? host place).isSome = true) : (tablesAt? after place).isSome = true := by
  rcases altered place with ⟨missing, -⟩ | ⟨tables, changed, -, found, -⟩
  · rw [missing] at present
    cases present
  · rw [found]
    rfl

theorem KeepsStatistics.of_altered {permitted : StatisticRow → Prop} (altered : Altered permitted host after)
    (none : ∀ row, ¬ permitted row) : KeepsStatistics host after := by
  refine ⟨altered.there, fun place => ?_⟩
  rcases altered place with ⟨missing, gone⟩ | ⟨tables, changed, held, found, step⟩
  · rw [missing, gone]
  · rw [held, found]
    exact step.statistics_eq none

theorem keepsStatistics_storeLoad (host : Host) (source : Source) (opening server world : String) :
    let opened := Store.load host source opening server world
    KeepsStatistics host opened.2 ∧ ∀ store, opened.1 = .ok store → (tablesAt? opened.2 store.place).isSome = true := by
  rcases Sql.load_cases host source opening server world with
    ⟨error, failed, tables⟩ | ⟨store, loaded, -, -, -, -, tables⟩
  · exact ⟨.of_tables tables, fun store loaded => nomatch failed.symm.trans loaded⟩
  · refine ⟨⟨fun place present => ?_, fun place => ?_⟩, fun other same => ?_⟩
    · rw [tables]
      split
      · rfl
      · exact present
    · rw [tables]
      split
      · obtain ⟨servers, worlds, registered⟩ := ((tablesAt? host place).getD .empty).register_eq server world
        rw [Option.getD_some, registered]
      · rfl
    · cases loaded.symm.trans same
      rw [tables, if_pos rfl]
      rfl

end Host

namespace Backend

open Sql (TablePlace tablesAt?)

def Placed (backend : Backend) (host : Host) : Prop :=
  ∀ place, backend.timePlace? = some place → (tablesAt? host place).isSome = true

variable {host : Host}

theorem Opened.keepsStatistics {ε : Type} {opened : Except ε Backend × Host} (made : Opened host opened) :
    host.KeepsStatistics opened.2 ∧ ∀ backend, opened.1 = .ok backend → backend.Placed opened.2 := by
  rcases made with ⟨same, storeless⟩ | ⟨met, source, stem, server, world, same, reached, stored⟩
  · refine ⟨.of_databases same, fun backend opened place timed => ?_⟩
    rw [timePlace?, storeless backend opened] at timed
    cases timed
  · obtain ⟨keeps, placed⟩ := met.keepsStatistics_storeLoad source stem server world
    rw [reached]
    refine ⟨(Host.KeepsStatistics.of_databases same).trans keeps, fun backend opened place timed => ?_⟩
    obtain ⟨store, found, loaded⟩ := stored backend opened
    rw [timePlace?, found] at timed
    cases timed
    exact placed store loaded

end Backend

namespace Site

open Sql (Tables Store Statistic TablePlace tablesAt?)

def recorded (site : Site) (place : TablePlace) : Errand → List Statistic
  | .deed number (.record statistic) =>
    match (site.storages[number]?).bind fun storages => storages.backend.timeStore? with
    | some store =>
      if store.place = place ∧ (store.storeStatistic site.host statistic).1 = .ok () then [statistic] else []
    | none => []
  | _ => []

def history (site : Site) (place : TablePlace) : List Errand → List Statistic
  | [] => []
  | errand :: later => site.recorded place errand ++ history (site.perform errand) place later

/-- The tables of all storages are there, and those at a place tell what has been recorded. -/
structure Chronicles (site : Site) (place : TablePlace) (history : List Statistic) : Prop where
  placed (storages : Storages) (member : storages ∈ site.storages) : storages.backend.Placed site.host
  tells : ((tablesAt? site.host place).getD .empty).Tells history

variable {site : Site} {host : Host} {place : TablePlace} {history : List Statistic}

theorem Chronicles.of_keeps (chronicles : site.Chronicles place history) {after : Site}
    (keeps : site.host.KeepsStatistics after.host)
    (placed : ∀ storages ∈ after.storages, storages.backend.Placed after.host ∨
      ∃ before ∈ site.storages, storages.backend.timePlace? = before.backend.timePlace?) :
    after.Chronicles place history := by
  refine ⟨fun storages member => ?_, chronicles.tells.of_same (keeps.same place)⟩
  rcases placed storages member with new | ⟨before, inside, same⟩
  · exact new
  · intro place timed
    exact keeps.there place (chronicles.placed before inside place (same ▸ timed))

theorem Chronicles.adopt {ε : Type} (chronicles : site.Chronicles place history)
    {opened : Except ε Backend × Host} (made : Backend.Opened site.host opened) :
    (site.adopt opened).Chronicles place history := by
  obtain ⟨keeps, placed⟩ := made.keepsStatistics
  obtain ⟨_ | backend, host⟩ := opened
  · exact chronicles.of_keeps keeps fun storages member => .inr ⟨storages, member, rfl⟩
  · refine chronicles.of_keeps keeps fun storages member => ?_
    rcases List.mem_append.mp member with inside | new
    · exact .inr ⟨storages, inside, rfl⟩
    · rw [List.mem_singleton.mp new]
      exact .inl (placed backend rfl)

theorem tells_storeStatistic (tells : ((tablesAt? host place).getD .empty).Tells history) (store : Store)
    (statistic : Statistic) :
    ((tablesAt? (store.storeStatistic host statistic).2 place).getD .empty).Tells (history ++
      if store.place = place ∧ (store.storeStatistic host statistic).1 = .ok () then [statistic] else []) := by
  cases outcome : (store.storeStatistic host statistic).1 with
  | error error =>
    have same : (store.storeStatistic host statistic).2 = host := store.write_refused _ _ error outcome
    rw [if_neg (by simp), List.append_nil, same]
    exact tells
  | ok =>
    by_cases mine : store.place = place
    · obtain ⟨tables, calculated, held, second, after⟩ := Store.storeStatistic_eq_ok (Prod.ext outcome rfl)
      have row : (Sql.StatisticRow.mk statistic.name calculated statistic.result).statistic = statistic := by
        unfold Sql.StatisticRow.statistic
        rw [second, Int64.ofInt_toInt]
      subst mine
      rw [Store.tables?_eq] at held after
      rw [held] at tells
      rw [after, if_pos ⟨rfl, rfl⟩]
      have told := tells.storeStatistic ⟨statistic.name, calculated, statistic.result⟩
      rwa [row] at told
    · have same : tablesAt? (store.storeStatistic host statistic).2 place = tablesAt? host place :=
        store.write_other _ _ place mine
      rw [if_neg fun both => mine both.1, List.append_nil, same]
      exact tells

theorem tells_record (tells : ((tablesAt? site.host place).getD .empty).Tells history) (number : Nat)
    (statistic : Statistic) :
    ((tablesAt? (site.deed number (.record statistic)).host place).getD .empty).Tells
      (history ++ site.recorded place (.deed number (.record statistic))) := by
  cases known : site.storages[number]? with
  | none =>
    rw [deed_of_unknown known, recorded, known, Option.bind_none, List.append_nil]
    exact tells
  | some storages =>
    rw [deed_of_known known, Deed.act, recorded, known, Option.bind_some]
    cases storages.backend.timeStore? with
    | none =>
      rw [List.append_nil]
      exact tells
    | some store => exact tells_storeStatistic tells store statistic

theorem tells_deed (tells : ((tablesAt? site.host place).getD .empty).Tells history) (number : Nat) (deed : Deed) :
    ((tablesAt? (site.deed number deed).host place).getD .empty).Tells
      (history ++ site.recorded place (.deed number deed)) := by
  have altered := site.altered_deed number deed
  cases deed with
  | record statistic => exact tells_record tells number statistic
  | use | name | closeNames =>
    show Tables.Tells _ (history ++ [])
    rw [List.append_nil]
    exact tells.of_same ((Host.KeepsStatistics.of_altered altered fun _ => id).same place)

theorem Chronicles.deed (chronicles : site.Chronicles place history) (number : Nat) (deed : Deed) :
    (site.deed number deed).Chronicles place (history ++ site.recorded place (.deed number deed)) := by
  refine ⟨fun storages member => ?_, tells_deed chronicles.tells number deed⟩
  have before : ∃ before ∈ site.storages, storages.backend.timePlace? = before.backend.timePlace? := by
    cases known : site.storages[number]? with
    | none =>
      rw [deed_of_unknown known] at member
      exact ⟨storages, member, rfl⟩
    | some before =>
      rw [deed_of_known known] at member
      rcases List.mem_or_eq_of_mem_set member with inside | rfl
      · exact ⟨storages, inside, rfl⟩
      · exact ⟨before, List.mem_of_getElem? known, deed.timePlace?_act _⟩
  obtain ⟨before, inside, same⟩ := before
  intro place timed
  exact (site.altered_deed number deed).there place (chronicles.placed before inside place (same ▸ timed))

theorem Chronicles.perform (chronicles : site.Chronicles place history) (errand : Errand) :
    (site.perform errand).Chronicles place (history ++ site.recorded place errand) := by
  cases errand with
  | deed number deed => exact chronicles.deed number deed
  | load configuration =>
    show Chronicles (site.load configuration).2 place (history ++ [])
    rw [List.append_nil, load_eq_adopt]
    exact chronicles.adopt (Backend.opened_load site.host configuration)
  | loadMixed directory stem server world =>
    show Chronicles _ place (history ++ [])
    rw [List.append_nil]
    exact chronicles.adopt (Backend.opened_loadMixed site.host directory stem server world)
  | meet clock faults =>
    show Chronicles _ place (history ++ [])
    rw [List.append_nil]
    exact chronicles.of_keeps (.of_databases rfl) fun storages member => .inr ⟨storages, member, rfl⟩

theorem Chronicles.run (chronicles : site.Chronicles place history) (errands : List Errand) :
    (site.run errands).Chronicles place (history ++ site.history place errands) := by
  induction errands generalizing site history with
  | nil =>
    rw [Site.history, List.append_nil]
    exact chronicles
  | cons errand later ih =>
    rw [Site.history, ← List.append_assoc]
    exact ih (chronicles.perform errand)

/--
Statistics are recorded in any order of their times, and other things are done between: through these or other storages,
which are opened, closed and opened again. What is told of a name is then nothing, if none was recorded, or the newest
second of it with the result recorded last for that second; a store told so tells it until it is closed, and so does
one that is opened on the same tables then. Through an open store every statistic from year 0 to year 9999 is accepted.
-/
theorem newest_statistic_told (host : Host) (errands : List Errand) (number : Nat) (store : Store) (name : String)
    (held : (((run ⟨host, []⟩ errands).storages[number]?).bind fun storages => storages.backend.timeStore?) =
      some store)
    (unrecorded : ∀ tables, tablesAt? host store.place = some tables → tables.statistics = [])
    (late : ∀ statistic ∈ Site.history ⟨host, []⟩ store.place errands,
      statistic.name = name → Sql.yearZero ≤ statistic.calculated.toInt) :
    let stored := Site.history ⟨host, []⟩ store.place errands
    let reached := (run ⟨host, []⟩ errands).host
    ∃ answer : Option Statistic,
      ((answer = none ↔ ∀ statistic ∈ stored, statistic.name ≠ name) ∧
        ∀ statistic ∈ answer, statistic.name = name ∧ statistic.NewestIn stored) ∧
      store.latestStatistic? reached name = (if store.isOpen then .ok answer else .error .closed) ∧
      (∀ path opening server world, Sql.Linked reached.disk path store.database → Sql.stem? opening = some store.stem →
        ∃ again after, Store.load reached (.file path) opening server world = (.ok again, after) ∧
          again.latestStatistic? after name = .ok answer) ∧
      (store.isOpen = true → ∀ statistic : Statistic, Sql.yearZero ≤ statistic.calculated.toInt →
        statistic.calculated.toInt ≤ Sql.lastSecond → (store.storeStatistic reached statistic).1 = .ok ()) := by
  intro stored reached
  have empty : ((tablesAt? host store.place).getD .empty).Tells [] := by
    cases found : tablesAt? host store.place with
    | none => exact Sql.Tables.tells_nil rfl
    | some tables => exact Sql.Tables.tells_nil (unrecorded tables found)
  have start : Chronicles ⟨host, []⟩ store.place [] := ⟨nofun, empty⟩
  have ended : (run ⟨host, []⟩ errands).Chronicles store.place stored := start.run errands
  obtain ⟨storages, known, timed⟩ := Option.bind_eq_some_iff.mp held
  have present := ended.placed storages (List.mem_of_getElem? known) store.place
    (by rw [Backend.timePlace?, timed, Option.map_some])
  obtain ⟨tables, found⟩ := Option.isSome_iff_exists.mp present
  have tells := ended.tells
  rw [found, Option.getD_some] at tells
  refine ⟨_, tells.latest late, ?_, fun path opening server world linked named => ?_,
    fun isOpen statistic first last => ?_⟩
  · split
    · next isOpen => exact Store.latestStatistic?_of_known isOpen found name
    · next shut => exact if_neg shut
  · obtain ⟨again, after, loaded, isOpen, -, -, -, registered⟩ :=
      Backend.storeLoad_of_known linked named found server world
    obtain ⟨servers, worlds, same⟩ := tables.register_eq server world
    refine ⟨again, after, loaded, ?_⟩
    rw [Store.latestStatistic?_of_known isOpen registered,
      Tables.latestStatistic?_congr (show _ = tables.statistics by rw [same])]
    rfl
  · exact Store.storeStatistic_accepted isOpen found
      ⟨Int.le_trans (by decide) first, last⟩

/-- The newest second is recorded first, and again with another result once the store has been opened anew. -/
theorem newest_statistic_told_after_reopening :
    let configuration : Configuration := ⟨.sql, "data", "ot_", .sqlite, .file ["online.db"], "lobby", "world"⟩
    let errands : List Errand := [.load configuration, .deed 0 (.record ⟨"total", 200, 1⟩),
      .deed 0 (.record ⟨"total", 100, 2⟩), .deed 0 (.use (.credit ⟨7⟩ 60)), .deed 0 (.use .closeLedger),
      .deed 0 (.record ⟨"total", 300, 9⟩), .meet 5000 [.refused], .load configuration,
      .deed 1 (.record ⟨"total", 200, 3⟩), .deed 1 (.record ⟨"peak", -62167219200, 4⟩)]
    let stored : List Statistic := [⟨"total", 200, 1⟩, ⟨"total", 100, 2⟩, ⟨"total", 200, 3⟩, ⟨"peak", -62167219200, 4⟩]
    let newest : Statistic := ⟨"total", 200, 3⟩
    let store : Store := ⟨0, "ot_", 0, true⟩
    let reached := (run ⟨⟨.empty, [], 0⟩, []⟩ errands).host
    newest.NewestIn stored ∧ store.latestStatistic? reached "total" = .ok (some newest) := by
  intro configuration errands stored newest store reached
  have held : (((run ⟨⟨.empty, [], 0⟩, []⟩ errands).storages[1]?).bind fun storages => storages.backend.timeStore?) =
      some store := by decide +kernel
  have noted : Site.history ⟨⟨.empty, [], 0⟩, []⟩ store.place errands = stored := by decide +kernel
  have told : store.latestStatistic? reached "total" = .ok (some newest) := by decide +kernel
  obtain ⟨answer, ⟨-, stands⟩, read, -, -⟩ := newest_statistic_told ⟨.empty, [], 0⟩ errands 1 store "total" held
    (by decide +kernel) (by rw [noted]; decide +kernel)
  obtain rfl : answer = some newest := Except.ok.inj (read.symm.trans told)
  rw [noted] at stands
  exact ⟨(stands newest rfl).2, told⟩

end Site

end Playtime
