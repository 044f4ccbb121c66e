import Playtime.Proofs.Ledger.Sums
import Playtime.Proofs.Names.Calls
import Playtime.Site

namespace Playtime

namespace Sql.Tables

/-- What calls through stores make of tables, with the statistics that they may record. -/
inductive Altered (permitted : StatisticRow → Prop) : Tables → Tables → Prop where
  | refl (tables : Tables) : Altered permitted tables tables
  | record (tables : Tables) (world : Nat) (left : Timestamp) (intervals : List (PlayerId × Timestamp)) :
    Altered permitted tables (Store.record tables world left intervals)
  | name {tables changed : Tables} (id : PlayerId) (text : String) (override : Bool)
    (assigned : tables.assignName id.toBytes text override = .ok changed) : Altered permitted tables changed
  | compute (tables : Tables) (row : StatisticRow) (allowed : permitted row) :
    Altered permitted tables (tables.storeStatistic row)
  | trans {tables middle changed : Tables} (first : Altered permitted tables middle)
    (second : Altered permitted middle changed) : Altered permitted tables changed

variable {permitted : StatisticRow → Prop} {tables changed : Tables}

theorem assignName_cases {id : PlayerId} {text : String} {override : Bool}
    (assigned : tables.assignName id.toBytes text override = .ok changed) :
    changed.intervals = tables.intervals ∧ changed.statistics = tables.statistics ∧
      (changed.players.map PlayerRow.key = tables.players.map PlayerRow.key ∨
        changed.players.map PlayerRow.key = tables.players.map PlayerRow.key ++ [id.toBytes] ∧
          ∀ row ∈ tables.players, row.key ≠ id.toBytes) := by
  have upsert (freed : Tables) (keys : freed.players.map PlayerRow.key = tables.players.map PlayerRow.key)
      (named : freed.upsertName? id.toBytes text = some changed) :
      changed.intervals = freed.intervals ∧ changed.statistics = freed.statistics ∧
        (changed.players.map PlayerRow.key = tables.players.map PlayerRow.key ∨
          changed.players.map PlayerRow.key = tables.players.map PlayerRow.key ++ [id.toBytes] ∧
            ∀ row ∈ tables.players, row.key ≠ id.toBytes) := by
    unfold upsertName? at named
    split at named
    · cases named
    · split at named
      · cases named
        refine ⟨rfl, rfl, .inl ?_⟩
        rw [← keys, List.map_map]
        apply List.map_congr_left
        intro row member
        simp only [Function.comp_apply]
        split <;> rfl
      · next absent =>
        cases named
        refine ⟨rfl, rfl, .inr ⟨by simp [keys], fun row member same => absent ?_⟩⟩
        have inside : row.key ∈ freed.players.map PlayerRow.key := keys ▸ List.mem_map_of_mem member
        obtain ⟨other, found, key⟩ := List.mem_map.mp inside
        exact List.any_eq_true.mpr ⟨other, found, by simpa [key] using same⟩
  have revoked : (tables.revoke text).players.map PlayerRow.key = tables.players.map PlayerRow.key := by
    rw [revoke, List.map_map]
    apply List.map_congr_left
    intro row member
    simp only [Function.comp_apply]
    split <;> rfl
  unfold assignName at assigned
  dsimp only at assigned
  split at assigned
  · cases assigned
  · next freed outcome =>
    split at assigned
    · cases assigned
    · next named =>
      cases assigned
      split at outcome
      · cases outcome
        exact upsert tables rfl named
      · split at outcome
        · cases outcome
          exact upsert tables rfl named
        · split at outcome
          · cases outcome
            exact upsert (tables.revoke text) revoked named
          · cases outcome

theorem mem_storeStatistic {row other : StatisticRow} (member : other ∈ (tables.storeStatistic row).statistics) :
    other = row ∨ other ∈ tables.statistics := by
  unfold storeStatistic at member
  dsimp only at member
  split at member
  · obtain ⟨kept, inside, rfl⟩ := List.mem_map.mp member
    split
    · exact .inl rfl
    · exact .inr inside
  · rcases List.mem_append.mp member with inside | last
    · exact .inr inside
    · exact .inl (List.mem_singleton.mp last)

theorem fields_storeStatistic (row : StatisticRow) :
    (tables.storeStatistic row).players = tables.players ∧
      (tables.storeStatistic row).intervals = tables.intervals := by
  unfold storeStatistic
  dsimp only
  split <;> exact ⟨rfl, rfl⟩

namespace Altered

theorem owned (altered : Altered permitted tables changed) (owned : tables.Owned) : changed.Owned := by
  induction altered with
  | refl => exact owned
  | record tables world left intervals => exact Store.owned_record tables world left intervals owned
  | @name tables changed id text override assigned =>
    obtain ⟨intervals, -, keys⟩ := assignName_cases assigned
    have longer : tables.players.length ≤ changed.players.length := by
      rcases keys with same | ⟨same, -⟩
      · simpa using (congrArg List.length same).ge
      · have lengths := congrArg List.length same
        simp only [List.length_map, List.length_append, List.length_singleton] at lengths
        omega
    intro row member
    rw [intervals] at member
    exact (owned row member).trans_le longer
  | compute tables row allowed =>
    unfold Owned
    rwa [(fields_storeStatistic row).1, (fields_storeStatistic row).2]
  | trans _ _ first second => exact second (first owned)

theorem keyed (altered : Altered permitted tables changed) (keyed : tables.Keyed) : changed.Keyed := by
  induction altered with
  | refl => exact keyed
  | record tables world left intervals => exact keyed.record world left intervals
  | @name tables changed id text override assigned =>
    rcases (assignName_cases assigned).2.2 with same | ⟨same, absent⟩
    · exact keyed.of_keys same
    · exact (keyed.append id none absent).of_keys (by rw [same, List.map_append, List.map_singleton])
  | compute tables row allowed => exact keyed.of_keys (by rw [(fields_storeStatistic row).1])
  | trans _ _ first second => exact second (first keyed)

theorem statistics (altered : Altered permitted tables changed) (row : StatisticRow)
    (member : row ∈ changed.statistics) : row ∈ tables.statistics ∨ permitted row := by
  induction altered with
  | refl => exact .inl member
  | record tables world left intervals =>
    rw [Store.statistics_record] at member
    exact .inl member
  | name id text override assigned =>
    rw [(assignName_cases assigned).2.1] at member
    exact .inl member
  | compute tables new allowed =>
    rcases mem_storeStatistic member with rfl | inside
    · exact .inr allowed
    · exact .inl inside
  | trans _ _ first second =>
    rcases second member with inside | allowed
    · exact first inside
    · exact .inr allowed

end Altered

theorem altered_assignNames (permitted : StatisticRow → Prop) (entries : List (PlayerId × PlayerName))
    {tables changed : Tables}
    (assigned : assignNames tables (entries.map fun entry => (entry.1.toBytes, entry.2.text)) = .ok changed) :
    Altered permitted tables changed := by
  induction entries generalizing tables with
  | nil =>
    cases assigned
    exact .refl _
  | cons entry entries ih =>
    rw [List.map_cons, assignNames] at assigned
    split at assigned
    · cases assigned
    · next named step => exact (Altered.name entry.1 entry.2.text true step).trans (ih assigned)

end Sql.Tables

namespace Host

open Sql (Tables Store StatisticRow tablesAt?)

/-- All tables are still there, and what calls through stores have made of them. -/
def Altered (permitted : StatisticRow → Prop) (host after : Host) : Prop :=
  ∀ place, (tablesAt? host place = none ∧ tablesAt? after place = none) ∨
    ∃ tables changed, tablesAt? host place = some tables ∧ tablesAt? after place = some changed ∧
      Tables.Altered permitted tables changed

variable {permitted : StatisticRow → Prop} {host middle after : Host}

theorem altered_of_same (same : after.databases = host.databases) : Altered permitted host after := by
  intro place
  have stays : tablesAt? after place = tablesAt? host place := by
    unfold tablesAt? Host.database?
    rw [same]
  cases held : tablesAt? host place with
  | none => exact .inl ⟨rfl, stays.trans held⟩
  | some tables => exact .inr ⟨tables, tables, rfl, stays.trans held, .refl tables⟩

theorem Altered.trans (first : Altered permitted host middle) (second : Altered permitted middle after) :
    Altered permitted host after := by
  intro place
  rcases first place with ⟨none, gone⟩ | ⟨tables, between, held, kept, step⟩
  · rcases second place with ⟨-, last⟩ | ⟨others, -, found, -⟩
    · exact .inl ⟨none, last⟩
    · cases gone.symm.trans found
  · rcases second place with ⟨gone, -⟩ | ⟨others, changed, found, last, next⟩
    · cases gone.symm.trans kept
    · cases found.symm.trans kept
      exact .inr ⟨tables, changed, held, last, step.trans next⟩

theorem altered_write (store : Store) (host : Host) (change : Tables → Except StorageError Tables)
    (changes : ∀ tables changed, change tables = .ok changed → Tables.Altered permitted tables changed) :
    Altered permitted host (store.write host change).2 := by
  cases outcome : (store.write host change).1 with
  | error error =>
    rw [store.write_refused host change error outcome]
    exact altered_of_same rfl
  | ok =>
    obtain ⟨tables, changed, before, step, written⟩ := store.write_accepted host change outcome
    intro place
    by_cases mine : store.place = place
    · subst mine
      exact .inr ⟨tables, changed, before, written, changes tables changed step⟩
    · rw [store.write_other host change place mine]
      exact altered_of_same rfl place

theorem altered_storeStatistic (store : Store) (host : Host) (statistic : Sql.Statistic)
    (allowed : ∀ row : StatisticRow, row.name = statistic.name → permitted row) :
    Altered permitted host (store.storeStatistic host statistic).2 := by
  apply altered_write
  intro tables changed step
  split at step
  · cases step
  · cases step
    exact .compute tables _ (allowed _ rfl)

theorem altered_creditAll (store : Store) (host : Host) (deltas : List (PlayerId × Int64)) :
    Altered permitted host (store.creditAll host deltas).2 := by
  apply altered_write
  intro tables changed step
  split at step
  · cases step
  · cases step
    exact .refl tables
  · cases step
  · cases step
    exact .record tables _ _ _

end Host

namespace Backend

open Sql (StatisticRow)

theorem altered_creditAll (permitted : StatisticRow → Prop) (state : Backend × Host)
    (deltas : List (PlayerId × Int64)) : Host.Altered permitted state.2 (Ledger.creditAll state deltas).2.2 := by
  obtain ⟨backend, host⟩ := state
  cases backend with
  | files names times => exact Host.altered_of_same rfl
  | relational store => exact Host.altered_creditAll store host deltas
  | mixed names store => exact Host.altered_creditAll store host deltas

theorem altered_act (permitted : StatisticRow → Prop) (state : Backend × Host) (call : NameCall) :
    Host.Altered permitted state.2 (act state call).2.2 := by
  obtain ⟨backend, host⟩ := state
  cases call with
  | set id text override =>
    cases backend with
    | files names times => exact Host.altered_of_same rfl
    | mixed names store => exact Host.altered_of_same rfl
    | relational store =>
      apply Host.altered_write store host
      intro tables changed step
      split at step
      · cases step
      · exact .name id _ override step
  | setAll entries =>
    cases backend with
    | files names times => exact Host.altered_of_same rfl
    | mixed names store => exact Host.altered_of_same rfl
    | relational store =>
      apply Host.altered_write store host
      intro tables changed step
      split at step
      · cases step
      · exact Sql.Tables.altered_assignNames permitted _ step
  | holder name => exact Host.altered_of_same rfl
  | name id => exact Host.altered_of_same rfl
  | names => exact Host.altered_of_same rfl

end Backend

/-- What is done through storages that someone holds. -/
inductive Deed where
  | use (what : Sessions.Use)
  | name (call : Backend.NameCall)
  | closeNames
  | record (statistic : Sql.Statistic)
deriving DecidableEq, Repr

namespace Deed

def act (state : Sessions × Backend × Host) : Deed → Sessions × Backend × Host
  | .use what => Sessions.use state what
  | .name call => (state.1, (Backend.act state.2 call).2)
  | .closeNames => (state.1, state.2.1.closeNames, state.2.2)
  | .record statistic =>
    match state.2.1.timeStore? with
    | some store => (state.1, state.2.1, (store.storeStatistic state.2.2 statistic).2)
    | none => state

def Permits (deed : Deed) (row : Sql.StatisticRow) : Prop :=
  match deed with
  | .record statistic => row.name = statistic.name
  | .use _ | .name _ | .closeNames => False

end Deed

namespace Sessions

variable {σ : Type} [Ledger σ] [LawfulLedger σ]

theorem ledger_use {property : σ → Prop} (credits : KeptByCredits property)
    (closes : ∀ ledger, property ledger → property (Ledger.close ledger)) (state : Sessions × σ) (what : Use)
    (holds : property state.2) : property (use state what).2 := by
  have untimed (clock : Int64) (ledger : σ) (holds : property ledger) : property ((fun _ kept => kept) clock ledger) :=
    holds
  exact ledger_useAt credits closes untimed state [(0, what)] holds

end Sessions

namespace Backend

def Canonical : Backend → Prop
  | files _ times => TimeFile.Canonical times.members
  | relational _ | mixed _ _ => True

def timePlace? (backend : Backend) : Option Sql.TablePlace := backend.timeStore?.map Sql.Store.place

theorem canonical_creditAll : Sessions.KeptByCredits fun state : Backend × Host => state.1.Canonical := by
  rintro ⟨backend, host⟩ deltas canonical
  cases backend with
  | files names times => exact TimeFile.Canonical.creditAll canonical host.disk deltas
  | relational store => trivial
  | mixed names store => trivial

theorem timePlace?_creditAll (place : Option Sql.TablePlace) :
    Sessions.KeptByCredits fun state : Backend × Host => state.1.timePlace? = place := by
  rintro ⟨backend, host⟩ deltas same
  cases backend <;> exact same

theorem canonical_close (state : Backend × Host) (canonical : state.1.Canonical) :
    (Ledger.close state).1.Canonical := by
  obtain ⟨backend, host⟩ := state
  cases backend <;> exact canonical

theorem timePlace?_close (state : Backend × Host) : (Ledger.close state).1.timePlace? = state.1.timePlace? := by
  obtain ⟨backend, host⟩ := state
  cases backend <;> rfl

theorem host_close (state : Backend × Host) : (Ledger.close state).2 = state.2 := by
  obtain ⟨backend, host⟩ := state
  cases backend <;> rfl

theorem times_act (state : Backend × Host) (call : NameCall) :
    (act state call).2.1.timePlace? = state.1.timePlace? ∧ (state.1.Canonical → (act state call).2.1.Canonical) := by
  obtain ⟨backend, host⟩ := state
  cases call <;> cases backend <;> exact ⟨rfl, id⟩

end Backend

namespace Deed

variable (state : Sessions × Backend × Host) (deed : Deed)

theorem altered : Host.Altered deed.Permits state.2.2 (deed.act state).2.2 := by
  have start : Host.Altered deed.Permits state.2.2 state.2.2 := Host.altered_of_same rfl
  cases deed with
  | use what =>
    have credits : Sessions.KeptByCredits fun ledger : Backend × Host =>
        Host.Altered (Deed.use what).Permits state.2.2 ledger.2 :=
      fun ledger deltas so => so.trans (Backend.altered_creditAll _ ledger deltas)
    exact Sessions.ledger_use credits (fun ledger so => by rwa [Backend.host_close]) state what start
  | name call => exact Backend.altered_act _ state.2 call
  | closeNames => exact start
  | record statistic =>
    unfold act
    dsimp only
    split
    · next store _ => exact Host.altered_storeStatistic store state.2.2 statistic fun _ same => same
    · exact start

theorem timePlace?_act : (deed.act state).2.1.timePlace? = state.2.1.timePlace? := by
  cases deed with
  | use what =>
    exact Sessions.ledger_use (Backend.timePlace?_creditAll state.2.1.timePlace?)
      (fun ledger same => (Backend.timePlace?_close ledger).trans same) state what rfl
  | name call => exact (Backend.times_act state.2 call).1
  | closeNames =>
    obtain ⟨sessions, backend, host⟩ := state
    cases backend <;> rfl
  | record statistic =>
    unfold act
    dsimp only
    split <;> rfl

theorem canonical_act (canonical : state.2.1.Canonical) : (deed.act state).2.1.Canonical := by
  cases deed with
  | use what => exact Sessions.ledger_use Backend.canonical_creditAll Backend.canonical_close state what canonical
  | name call => exact (Backend.times_act state.2 call).2 canonical
  | closeNames =>
    obtain ⟨sessions, backend, host⟩ := state
    cases backend <;> exact canonical
  | record statistic =>
    unfold act
    dsimp only
    split <;> exact canonical

end Deed

namespace Site

def deed (site : Site) (number : Nat) (deed : Deed) : Site :=
  (site.onSessions number fun sessions ledger => (.ok (), deed.act (sessions, ledger))).2

def showing (site : Site) (clock : Int64) : Site := { site with host := site.host.showing clock }

theorem deed_of_known {site : Site} {number : Nat} {storages : Storages}
    (known : site.storages[number]? = some storages) (deed : Deed) :
    let after := deed.act (storages.sessions, storages.backend, site.host)
    site.deed number deed = ⟨after.2.2, site.storages.set number ⟨after.2.1, after.1⟩⟩ := by
  intro after
  unfold Site.deed onSessions
  rw [known]

theorem known_deed {site : Site} {number : Nat} {storages : Storages}
    (known : site.storages[number]? = some storages) (deed : Deed) :
    let after := deed.act (storages.sessions, storages.backend, site.host)
    (site.deed number deed).storages[number]? = some ⟨after.2.1, after.1⟩ := by
  obtain ⟨inside, -⟩ := List.getElem?_eq_some_iff.mp known
  rw [deed_of_known known]
  exact List.getElem?_set_self inside

theorem deed_of_unknown {site : Site} {number : Nat} (unknown : site.storages[number]? = none) (deed : Deed) :
    site.deed number deed = site := by
  unfold Site.deed onSessions
  rw [unknown]

theorem onSessions_eq_deed {α : Type} (site : Site) (number : Nat) (deed : Deed)
    {act : Sessions → Backend × Host → Except StorageError α × Sessions × Backend × Host}
    (same : ∀ state, (act state.1 state.2).2 = deed.act state) :
    (site.onSessions number act).2 = site.deed number deed := by
  unfold Site.deed onSessions
  cases site.storages[number]? with
  | none => rfl
  | some storages => simp only [← same]

theorem onSessions_of_still {α : Type} {site : Site} {number : Nat} {storages : Storages}
    (known : site.storages[number]? = some storages)
    {act : Sessions → Backend × Host → Except StorageError α × Sessions × Backend × Host}
    (still : (act storages.sessions (storages.backend, site.host)).2 =
      (storages.sessions, storages.backend, site.host)) :
    (site.onSessions number act).2 = site := by
  obtain ⟨inside, rfl⟩ := List.getElem?_eq_some_iff.mp known
  unfold onSessions
  rw [known]
  simp only [still]
  show (⟨site.host, site.storages.set number site.storages[number]⟩ : Site) = site
  rw [List.set_getElem_self]

theorem close_eq (site : Site) (number : Nat) (now : Int64) :
    site.close number now = (site.deed number (.use (.close now))).deed number .closeNames := by
  unfold Site.close Site.deed onBackend onSessions
  cases known : site.storages[number]? with
  | none => simp [known]
  | some storages =>
    obtain ⟨inside, -⟩ := List.getElem?_eq_some_iff.mp known
    simp [inside, Deed.act, Sessions.use]

theorem altered_deed (site : Site) (number : Nat) (deed : Deed) :
    Host.Altered deed.Permits site.host (site.deed number deed).host := by
  cases known : site.storages[number]? with
  | none =>
    rw [deed_of_unknown known]
    exact Host.altered_of_same rfl
  | some storages =>
    rw [deed_of_known known]
    exact deed.altered (storages.sessions, storages.backend, site.host)

def timePlace? (site : Site) (number : Nat) : Option Sql.TablePlace :=
  (site.storages[number]?).bind fun storages => storages.backend.timePlace?

theorem timePlace?_deed (site : Site) (number other : Nat) (deed : Deed) :
    (site.deed other deed).timePlace? number = site.timePlace? number := by
  cases known : site.storages[other]? with
  | none => rw [deed_of_unknown known]
  | some storages =>
    rw [deed_of_known known]
    unfold timePlace?
    by_cases same : other = number
    · subst same
      obtain ⟨inside, -⟩ := List.getElem?_eq_some_iff.mp known
      have kept := deed.timePlace?_act (storages.sessions, storages.backend, site.host)
      rw [known, List.getElem?_set_self inside]
      exact kept
    · rw [List.getElem?_set_ne same]

/-- Every interval belongs to a player and every player has one row, or one key in a file. -/
structure Orderly (site : Site) : Prop where
  tables (place : Sql.TablePlace) (tables : Sql.Tables) (held : Sql.tablesAt? site.host place = some tables) :
    tables.Owned ∧ tables.Keyed
  files (storages : Storages) (member : storages ∈ site.storages) : storages.backend.Canonical

theorem orderly_of_new (disk : Disk) (stem : String) (world : Nat) (clock : Int64) {sessions : Sessions} :
    Orderly ⟨⟨disk, [(∅ : Sql.Database).createTables stem], clock⟩,
      [⟨.relational ⟨0, stem, world, true⟩, sessions⟩]⟩ := by
  refine ⟨fun place tables held => ?_, fun storages member => ?_⟩
  · obtain ⟨database, found, read⟩ := Option.bind_eq_some_iff.mp held
    obtain rfl := List.mem_singleton.mp (List.mem_of_getElem? found)
    rw [Sql.tables_createTables] at read
    split at read
    · simp at read
      subst read
      refine ⟨by simp [Sql.Tables.Owned, Sql.Tables.empty], ?_⟩
      constructor <;> simp [Sql.Tables.empty]
    · simp at read
  · obtain rfl := List.mem_singleton.mp member
    trivial

theorem Orderly.of_altered {permitted : Sql.StatisticRow → Prop} {site after : Site} (orderly : site.Orderly)
    (altered : Host.Altered permitted site.host after.host)
    (files : ∀ storages ∈ after.storages, storages.backend.Canonical) : after.Orderly := by
  refine ⟨fun place tables held => ?_, files⟩
  rcases altered place with ⟨-, none⟩ | ⟨before, changed, known, found, step⟩
  · cases none.symm.trans held
  · cases found.symm.trans held
    have kept := orderly.tables place before known
    exact ⟨step.owned kept.1, step.keyed kept.2⟩

theorem Orderly.deed {site : Site} (orderly : site.Orderly) (number : Nat) (deed : Deed) :
    (site.deed number deed).Orderly := by
  apply orderly.of_altered (site.altered_deed number deed)
  cases known : site.storages[number]? with
  | none =>
    rw [deed_of_unknown known]
    exact orderly.files
  | some storages =>
    rw [deed_of_known known]
    intro other member
    rcases List.mem_or_eq_of_mem_set member with inside | rfl
    · exact orderly.files other inside
    · exact deed.canonical_act _ (orderly.files storages (List.mem_of_getElem? known))

theorem Orderly.showing {site : Site} (orderly : site.Orderly) (clock : Int64) : (site.showing clock).Orderly :=
  ⟨orderly.tables, orderly.files⟩

theorem Orderly.keyed {site : Site} (orderly : site.Orderly) {storages : Storages}
    (member : storages ∈ site.storages) : ListedLedger.Keyed (storages.backend, site.host) := by
  obtain ⟨backend, sessions⟩ := storages
  cases backend with
  | files names times => exact orderly.files _ member
  | relational store => exact fun tables held => (orderly.tables store.place tables held).2
  | mixed names store => exact fun tables held => (orderly.tables store.place tables held).2

end Site

end Playtime
