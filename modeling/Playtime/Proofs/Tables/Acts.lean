import Playtime.Proofs.Ledger.SharedStores
import Playtime.Proofs.Site.Durability
import Playtime.Proofs.Tables.Stays

namespace Playtime.Sql

inductive Concern where
  | names
  | times
  | statistics
deriving DecidableEq, Repr

/-- Something that is done through a store. Credits come with what the wall clock shows then. -/
inductive Act where
  | setName (id : PlayerId) (text : String) (override : Bool)
  | setNames (entries : List (PlayerId × String))
  | credit (clock : Int64) (id : PlayerId) (delta : Int64)
  | creditAll (clock : Int64) (deltas : List (PlayerId × Int64))
  | storeStatistic (statistic : Statistic)
deriving DecidableEq, Repr

namespace Act

def concern : Act → Concern
  | setName _ _ _ | setNames _ => .names
  | credit _ _ _ | creditAll _ _ => .times
  | storeStatistic _ => .statistics

def deltas : Act → List (PlayerId × Int64)
  | credit _ id delta => [(id, delta)]
  | creditAll _ deltas => deltas
  | setName _ _ _ | setNames _ | storeStatistic _ => []

def credited (act : Act) : List PlayerId := (act.deltas.filter fun entry => entry.2 ≠ 0).map Prod.fst

def recordAll (world : Nat) (clock : Int64) (deltas : List (PlayerId × Int64)) (tables : Tables) :
    Except StorageError Tables :=
  match Store.joinedAll (unixSeconds clock) deltas, Timestamp.ofUnix? (unixSeconds clock).toInt with
  | .error error, _ => .error error
  | .ok [], _ => .ok tables
  | .ok (_ :: _), none => .error .databaseFailure
  | .ok intervals, some left => .ok (Store.record tables world left intervals)

/-- What an act through a store of a world makes of the tables. -/
def change (world : Nat) (act : Act) (tables : Tables) : Except StorageError Tables :=
  match act with
  | setName id text override =>
    match PlayerName.ofText text with
    | .error fault => .error (.invalidName fault)
    | .ok name => tables.assignName id.toBytes name.text override
  | setNames entries =>
    match PlayerName.acceptAll entries with
    | .error fault => .error (.invalidName fault)
    | .ok accepted => tables.assignNames (accepted.map fun entry => (entry.1.toBytes, entry.2.text))
  | credit clock id delta => recordAll world clock [(id, delta)] tables
  | creditAll clock deltas => recordAll world clock deltas tables
  | storeStatistic statistic =>
    match Timestamp.ofUnix? statistic.calculated.toInt with
    | none => .error .databaseFailure
    | some calculated => .ok (tables.storeStatistic ⟨statistic.name, calculated, statistic.result⟩)

def meets (host : Host) : Act → Host
  | credit clock _ _ | creditAll clock _ => host.showing clock
  | setName _ _ _ | setNames _ | storeStatistic _ => host

end Act

namespace Store

def perform (store : Store) (host : Host) : Act → Except StorageError Unit × Host
  | .setName id text override => store.setName host id text override
  | .setNames entries => store.setNames host entries
  | .credit clock id delta => store.credit (host.showing clock) id delta
  | .creditAll clock deltas => store.creditAll (host.showing clock) deltas
  | .storeStatistic statistic => store.storeStatistic host statistic

theorem perform_eq (store : Store) (host : Host) (act : Act) :
    store.perform host act = store.write (act.meets host) (act.change store.world) := by
  cases act <;> rfl

end Store

namespace Tables

variable {tables changed : Tables}

theorem Regular.keyOfName?_iff (regular : tables.Regular) {key : Key} {name : String} :
    tables.keyOfName? name = some key ↔ tables.nameOfKey? key = some name := by
  rw [regular.keyed.nameOfKey?_iff, Tables.keyOfName?, Option.map_eq_some_iff]
  constructor
  · rintro ⟨⟨other, held⟩, found, rfl⟩
    have same : held = some name := by simpa using List.find?_some found
    subst same
    exact List.mem_of_find?_eq_some found
  · intro member
    cases found : tables.players.find? fun row => row.name = some name with
    | none => simpa using List.find?_eq_none.mp found _ member
    | some row =>
      obtain ⟨other, held⟩ := row
      have same : held = some name := by simpa using List.find?_some found
      subst same
      exact ⟨_, rfl, regular.single (List.mem_of_find?_eq_some found) member⟩

theorem Keyed.mem_names (keyed : tables.Keyed) {name : String} :
    name ∈ tables.names ↔ ∃ key, tables.nameOfKey? key = some name := by
  simp only [keyed.nameOfKey?_iff, names, List.mem_filterMap]
  constructor
  · rintro ⟨⟨key, held⟩, member, rfl⟩
    exact ⟨key, member⟩
  · rintro ⟨key, member⟩
    exact ⟨_, member, rfl⟩

def Taken (tables : Tables) (key : Key) (name : String) (override : Bool) : Prop :=
  override = false ∧ ∃ other, other ≠ key ∧ tables.nameOfKey? other = some name

def renamed (tables : Tables) (given : Key) (name : String) (key : Key) : Option String :=
  if key = given then some name else if tables.nameOfKey? key = some name then none else tables.nameOfKey? key

theorem renamed_eq_some {given key : Key} {name text : String} :
    tables.renamed given name key = some text ↔
      key = given ∧ text = name ∨ key ≠ given ∧ text ≠ name ∧ tables.nameOfKey? key = some text := by
  unfold renamed
  by_cases mine : key = given
  · simp [mine, eq_comm]
  · by_cases held : tables.nameOfKey? key = some name
    · simp [mine, held, eq_comm]
    · have differs : tables.nameOfKey? key = some text → text ≠ name := fun found same => held (same ▸ found)
      simpa [mine, held] using differs

theorem Keyed.rename {freed : Tables} (keyed : freed.Keyed) (tables : Tables) (id : PlayerId) (name : String)
    (others : ∀ key, key ≠ id.toBytes → ∀ text,
      freed.nameOfKey? key = some text ↔ text ≠ name ∧ tables.nameOfKey? key = some text) :
    ∃ named, freed.upsertName? id.toBytes name = some named ∧
      ∀ key, named.nameOfKey? key = tables.renamed id.toBytes name key := by
  have free : ∀ row ∈ freed.players, row.key ≠ id.toBytes → row.name ≠ some name := by
    rintro ⟨key, held⟩ member differs rfl
    exact ((others key differs name).mp (keyed.nameOfKey?_iff.mpr member)).1 rfl
  obtain ⟨named, done, still, members⟩ := keyed.upsertName? id name free
  refine ⟨named, done, fun key => Option.ext fun text => ?_⟩
  rw [still.nameOfKey?_iff, members, renamed_eq_some, ← keyed.nameOfKey?_iff]
  by_cases mine : key = id.toBytes
  · simp [mine]
  · simp [mine, others key mine text]

theorem Regular.assignName_cases (regular : tables.Regular) (id : PlayerId) (name : String) (override : Bool) :
    (tables.Taken id.toBytes name override ∧ tables.assignName id.toBytes name override = .error .nameTaken) ∨
      ¬ tables.Taken id.toBytes name override ∧ ∃ named, tables.assignName id.toBytes name override = .ok named ∧
        ∀ key, named.nameOfKey? key = tables.renamed id.toBytes name key := by
  have unheld (free : ∀ key, key ≠ id.toBytes → tables.nameOfKey? key ≠ some name) :=
    regular.keyed.rename tables id name fun key differs text => by
      refine ⟨fun found => ⟨?_, found⟩, And.right⟩
      rintro rfl
      exact free key differs found
  unfold assignName
  cases holder : tables.keyOfName? name with
  | none =>
    have free (key : Key) : tables.nameOfKey? key ≠ some name := by
      rw [Ne, ← regular.keyOfName?_iff, holder]
      nofun
    obtain ⟨named, done, after⟩ := unheld fun key _ => free key
    refine .inr ⟨fun taken => ?_, named, by simp [done], after⟩
    obtain ⟨-, other, -, held⟩ := taken
    exact free other held
  | some other =>
    have held := regular.keyOfName?_iff.mp holder
    have only (key : Key) (found : tables.nameOfKey? key = some name) : key = other :=
      Option.some.inj ((regular.keyOfName?_iff.mpr found).symm.trans holder)
    by_cases mine : other = id.toBytes
    · obtain ⟨named, done, after⟩ := unheld fun key differs found => differs ((only key found).trans mine)
      refine .inr ⟨fun taken => ?_, named, by simp [mine, done], after⟩
      obtain ⟨-, key, differs, found⟩ := taken
      exact differs ((only key found).trans mine)
    · cases override with
      | false => exact .inl ⟨⟨rfl, other, mine, held⟩, by simp [mine]⟩
      | true =>
        -- The row of the other holder is nameless by now, so the name is free again.
        have revoked := regular.keyed.revoke name
        obtain ⟨named, done, after⟩ := revoked.rename tables id name fun key _ text => by
          rw [revoked.nameOfKey?_iff, mem_revoke, regular.keyed.nameOfKey?_iff]
        exact .inr ⟨fun taken => (nomatch taken.1), named, by simp [mine, done], after⟩

theorem Regular.single_name (regular : tables.Regular) {key other : Key} {name : String}
    (held : tables.nameOfKey? key = some name) (heldToo : tables.nameOfKey? other = some name) : key = other :=
  regular.single (regular.keyed.nameOfKey?_iff.mp held) (regular.keyed.nameOfKey?_iff.mp heldToo)

theorem Altered.regular_of_names {permitted : StatisticRow → Prop} (altered : Altered permitted tables changed)
    (regular : tables.Regular) (single : ∀ {key other name}, changed.nameOfKey? key = some name →
      changed.nameOfKey? other = some name → key = other) : changed.Regular := by
  have keyed := altered.keyed regular.keyed
  refine ⟨keyed, altered.owned regular.owned, fun {key other name} held heldToo => ?_⟩
  exact single (keyed.nameOfKey?_iff.mpr held) (keyed.nameOfKey?_iff.mpr heldToo)

theorem Altered.regular_of_same {permitted : StatisticRow → Prop} (altered : Altered permitted tables changed)
    (regular : tables.Regular) (same : tables.SameNames changed) : changed.Regular :=
  altered.regular_of_names regular fun held heldToo => by
    rw [same.nameOfKey?] at held heldToo
    exact regular.single_name held heldToo

theorem Regular.assignName (regular : tables.Regular) {id : PlayerId} {text : String} {override : Bool}
    (assigned : tables.assignName id.toBytes text override = .ok changed) : changed.Regular := by
  have altered : Altered (fun _ => True) tables changed := .name id text override assigned
  refine altered.regular_of_names regular fun {key other name} held heldToo => ?_
  rcases regular.assignName_cases id text override with ⟨-, refused⟩ | ⟨-, named, done, names⟩
  · cases refused.symm.trans assigned
  · cases done.symm.trans assigned
    rw [names, renamed_eq_some] at held heldToo
    rcases held with ⟨rfl, rfl⟩ | ⟨-, differs, held⟩
    · rcases heldToo with ⟨rfl, -⟩ | ⟨-, differs, -⟩
      · rfl
      · exact absurd rfl differs
    · rcases heldToo with ⟨-, same⟩ | ⟨-, -, heldToo⟩
      · exact absurd same differs
      · exact regular.single_name held heldToo

theorem Altered.regular {permitted : StatisticRow → Prop} (altered : Altered permitted tables changed)
    (regular : tables.Regular) : changed.Regular := by
  induction altered with
  | refl => exact regular
  | record tables world left intervals =>
    have altered : Altered permitted tables (Store.record tables world left intervals) :=
      .record tables world left intervals
    exact altered.regular_of_same regular (tables.sameNames_record world left intervals)
  | name id text override assigned => exact regular.assignName assigned
  | compute tables row allowed =>
    exact Altered.regular_of_same (.compute tables row allowed) regular (.of_players (fields_storeStatistic row).1)
  | trans _ _ first second => exact second (first regular)

theorem Altered.keys {permitted : StatisticRow → Prop} (altered : Altered permitted tables changed) :
    tables.players.map PlayerRow.key <+: changed.players.map PlayerRow.key := by
  induction altered with
  | refl => exact List.prefix_refl _
  | record tables world left intervals =>
    induction intervals generalizing tables with
    | nil => exact List.prefix_refl _
    | cons entry rest ih =>
      have inserted := fields_insertInterval (tables.ensurePlayer entry.1.toBytes) entry.1.toBytes world entry.2 left
      have first := tables.keys_ensurePlayer entry.1.toBytes
      rw [← inserted] at first
      exact first.trans (ih _)
  | name id text override assigned =>
    rcases (Tables.assignName_cases assigned).2.2 with same | ⟨same, -⟩
    · rw [same]
    · rw [same]
      exact List.prefix_append _ _
  | compute tables row allowed => rw [(fields_storeStatistic row).1]
  | trans _ _ first second => exact first.trans second

theorem fields_assignNames (entries : List (PlayerId × PlayerName))
    (assigned : tables.assignNames (entries.map fun entry => (entry.1.toBytes, entry.2.text)) = .ok changed) :
    changed.intervals = tables.intervals ∧ changed.statistics = tables.statistics := by
  induction entries generalizing tables with
  | nil =>
    cases assigned
    exact ⟨rfl, rfl⟩
  | cons entry entries ih =>
    rw [List.map_cons, assignNames] at assigned
    split at assigned
    · cases assigned
    · next named step =>
      obtain ⟨intervals, statistics, -⟩ := Tables.assignName_cases step
      obtain ⟨intervals', statistics'⟩ := ih assigned
      exact ⟨intervals'.trans intervals, statistics'.trans statistics⟩

end Tables

namespace Act

variable {world : Nat} {act : Act} {tables changed : Tables}

theorem recordAll_cases (world : Nat) (clock : Int64) (deltas : List (PlayerId × Int64)) :
    (∃ error, ∀ tables, recordAll world clock deltas tables = .error error) ∨
      ∃ batch left, Store.joinedAll (unixSeconds clock) deltas = .ok batch ∧
        ∀ tables, recordAll world clock deltas tables = .ok (Store.record tables world left batch) := by
  unfold recordAll
  split
  · next error _ => exact .inl ⟨error, fun _ => rfl⟩
  · next joined => exact .inr ⟨[], ⟨0, by decide⟩, joined, fun _ => rfl⟩
  · exact .inl ⟨.databaseFailure, fun _ => rfl⟩
  · next batch left _ joined _ => exact .inr ⟨batch, left, joined, fun _ => rfl⟩

theorem players_joinedAll {left : Int64} {deltas : List (PlayerId × Int64)} {batch : List (PlayerId × Timestamp)}
    (joined : Store.joinedAll left deltas = .ok batch) :
    batch.map Prod.fst = (deltas.filter fun entry => entry.2 ≠ 0).map Prod.fst := by
  induction deltas generalizing batch with
  | nil =>
    cases joined
    rfl
  | cons entry rest ih =>
    obtain ⟨id, delta⟩ := entry
    unfold Store.joinedAll at joined
    split at joined
    · next zero =>
      rw [ih joined]
      simp [zero]
    · next some =>
      split at joined
      · cases joined
      · next first _ =>
        cases others : Store.joinedAll left rest with
        | error error =>
          rw [others] at joined
          cases joined
        | ok later =>
          rw [others] at joined
          cases joined
          rw [List.map_cons, ih others]
          simp [some]

/-- What an act can do to tables that it is not refused on. -/
theorem change_cases (made : act.change world tables = .ok changed) :
    (act.concern = .names ∧ changed.intervals = tables.intervals ∧ changed.statistics = tables.statistics ∧
        Tables.Altered (fun _ => True) tables changed) ∨
      (act.concern = .times ∧ ∃ batch left, batch.map Prod.fst = act.credited ∧
        changed = Store.record tables world left batch) ∨
      act.concern = .statistics ∧ ∃ row, changed = tables.storeStatistic row := by
  have recorded (clock : Int64) (deltas : List (PlayerId × Int64))
      (made : recordAll world clock deltas tables = .ok changed) :
      ∃ batch left, batch.map Prod.fst = (deltas.filter fun entry => entry.2 ≠ 0).map Prod.fst ∧
        changed = Store.record tables world left batch := by
    rcases recordAll_cases world clock deltas with ⟨error, refused⟩ | ⟨batch, left, joined, recorded⟩
    · cases (refused tables).symm.trans made
    · exact ⟨batch, left, players_joinedAll joined, Except.ok.inj (made.symm.trans (recorded tables))⟩
  cases act with
  | credit clock id delta => exact .inr (.inl ⟨rfl, recorded clock [(id, delta)] made⟩)
  | creditAll clock deltas => exact .inr (.inl ⟨rfl, recorded clock deltas made⟩)
  | setName id text override =>
    dsimp only [change] at made
    split at made
    · cases made
    · obtain ⟨intervals, statistics, -⟩ := Tables.assignName_cases made
      exact .inl ⟨rfl, intervals, statistics, .name id _ override made⟩
  | setNames entries =>
    dsimp only [change] at made
    split at made
    · cases made
    · obtain ⟨intervals, statistics⟩ := Tables.fields_assignNames _ made
      exact .inl ⟨rfl, intervals, statistics, Tables.altered_assignNames _ _ made⟩
  | storeStatistic statistic =>
    dsimp only [change] at made
    split at made
    · cases made
    · cases made
      exact .inr (.inr ⟨rfl, _, rfl⟩)

theorem credited_of_apart (apart : act.concern ≠ .times) : act.credited = [] := by
  cases act with
  | credit | creditAll => exact absurd rfl apart
  | setName | setNames | storeStatistic => rfl

theorem altered (made : act.change world tables = .ok changed) : Tables.Altered (fun _ => True) tables changed := by
  rcases change_cases made with ⟨-, -, -, named⟩ | ⟨-, batch, left, -, rfl⟩ | ⟨-, row, rfl⟩
  · exact named
  · exact .record tables world left batch
  · exact .compute tables row trivial

theorem names_of_apart (apart : act.concern ≠ .names) (made : act.change world tables = .ok changed) :
    tables.SameNames changed := by
  rcases change_cases made with ⟨concern, -⟩ | ⟨-, batch, left, -, rfl⟩ | ⟨-, row, rfl⟩
  · exact absurd concern apart
  · exact tables.sameNames_record world left batch
  · exact .of_players (Tables.fields_storeStatistic row).1

theorem stays_of_apart (owned : tables.Owned) (apart : act.concern ≠ .times)
    (made : act.change world tables = .ok changed) : changed.stays = tables.stays := by
  refine Tables.stays_of_keys owned ?_ (altered made).keys
  rcases change_cases made with ⟨-, intervals, -⟩ | ⟨concern, -⟩ | ⟨-, row, rfl⟩
  · exact intervals
  · exact absurd concern apart
  · exact (Tables.fields_storeStatistic row).2

theorem statistics_of_apart (apart : act.concern ≠ .statistics) (made : act.change world tables = .ok changed) :
    changed.statistics = tables.statistics := by
  rcases change_cases made with ⟨-, -, statistics, -⟩ | ⟨-, batch, left, -, rfl⟩ | ⟨concern, -⟩
  · exact statistics
  · exact Store.statistics_record tables world left batch
  · exact absurd concern apart

end Act

end Playtime.Sql
