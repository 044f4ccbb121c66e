import Playtime.Proofs.Ledger.Listed
import Playtime.Proofs.Tables.Acts

namespace Playtime.Sql

/-- Tables in which one thing is the same. Names and intervals go by the keys of players, whatever rows these are in. -/
def Concern.Same (concern : Concern) (tables other : Tables) : Prop :=
  match concern with
  | .names => ∀ key, other.nameOfKey? key = tables.nameOfKey? key
  | .times => other.stays = tables.stays
  | .statistics => other.statistics = tables.statistics

namespace Concern.Same

variable {concern : Concern} {tables other third : Tables}

theorem refl (concern : Concern) (tables : Tables) : concern.Same tables tables := by
  cases concern with
  | names => exact fun _ => rfl
  | times => rfl
  | statistics => rfl

theorem symm (same : concern.Same tables other) : concern.Same other tables := by
  cases concern with
  | names => exact fun key => (same key).symm
  | times => exact Eq.symm same
  | statistics => exact Eq.symm same

theorem trans (first : concern.Same tables other) (second : concern.Same other third) : concern.Same tables third := by
  cases concern with
  | names => exact fun key => (second key).trans (first key)
  | times => exact Eq.trans second first
  | statistics => exact Eq.trans second first

end Concern.Same

namespace Act

def next (world : Nat) (tables : Tables) (act : Act) : Tables := (act.change world tables).toOption.getD tables

def run (world : Nat) (tables : Tables) (acts : List Act) : Tables := acts.foldl (next world) tables

variable {world : Nat} {act : Act} {concern : Concern} {tables other : Tables}

theorem next_of_ok {changed : Tables} (made : act.change world tables = .ok changed) :
    next world tables act = changed := by rw [next, made]; rfl

theorem next_of_error {error : StorageError} (refused : act.change world tables = .error error) :
    next world tables act = tables := by rw [next, refused]; rfl

theorem next_cases (world : Nat) (tables : Tables) (act : Act) :
    next world tables act = tables ∨ act.change world tables = .ok (next world tables act) := by
  cases made : act.change world tables with
  | error error => exact .inl (next_of_error made)
  | ok changed => exact .inr (by rw [next_of_ok made])

theorem regular_next (regular : tables.Regular) (act : Act) : (next world tables act).Regular := by
  rcases next_cases world tables act with same | made
  · rwa [same]
  · exact (altered made).regular regular

theorem regular_run (regular : tables.Regular) (acts : List Act) : (run world tables acts).Regular := by
  induction acts generalizing tables with
  | nil => exact regular
  | cons act acts ih => exact ih (regular_next regular act)

theorem same_of_apart (regular : tables.Regular) (apart : act.concern ≠ concern) :
    concern.Same tables (next world tables act) := by
  rcases next_cases world tables act with same | made
  · rw [same]
    exact .refl concern tables
  · cases concern with
    | names => exact (names_of_apart apart made).nameOfKey?
    | times => exact stays_of_apart regular.owned apart made
    | statistics => exact statistics_of_apart apart made

theorem assignName_alike (regular : tables.Regular) (regular' : other.Regular)
    (same : ∀ key, other.nameOfKey? key = tables.nameOfKey? key) (id : PlayerId) (name : String) (override : Bool) :
    (∃ error, tables.assignName id.toBytes name override = .error error ∧
        other.assignName id.toBytes name override = .error error) ∨
      ∃ named named', tables.assignName id.toBytes name override = .ok named ∧
        other.assignName id.toBytes name override = .ok named' ∧
        ∀ key, named'.nameOfKey? key = named.nameOfKey? key := by
  have taken : other.Taken id.toBytes name override ↔ tables.Taken id.toBytes name override := by
    unfold Tables.Taken
    simp only [same]
  rcases regular.assignName_cases id name override with ⟨held, refused⟩ | ⟨free, named, done, names⟩
  · rcases regular'.assignName_cases id name override with ⟨-, refused'⟩ | ⟨free', -⟩
    · exact .inl ⟨.nameTaken, refused, refused'⟩
    · exact absurd (taken.mpr held) free'
  · rcases regular'.assignName_cases id name override with ⟨held', -⟩ | ⟨-, named', done', names'⟩
    · exact absurd (taken.mp held') free
    · refine .inr ⟨named, named', done, done', fun key => ?_⟩
      rw [names, names', Tables.renamed, Tables.renamed, same]

theorem assignNames_alike (regular : tables.Regular) (regular' : other.Regular)
    (same : ∀ key, other.nameOfKey? key = tables.nameOfKey? key) (entries : List (PlayerId × PlayerName)) :
    let rows := entries.map fun entry => (entry.1.toBytes, entry.2.text)
    (∃ error, tables.assignNames rows = .error error ∧ other.assignNames rows = .error error) ∨
      ∃ named named', tables.assignNames rows = .ok named ∧ other.assignNames rows = .ok named' ∧
        ∀ key, named'.nameOfKey? key = named.nameOfKey? key := by
  induction entries generalizing tables other with
  | nil => exact .inr ⟨tables, other, rfl, rfl, same⟩
  | cons entry entries ih =>
    simp only [List.map_cons, Tables.assignNames]
    rcases assignName_alike regular regular' same entry.1 entry.2.text true with
      ⟨error, refused, refused'⟩ | ⟨named, named', done, done', same⟩
    · rw [refused, refused']
      exact .inl ⟨error, rfl, rfl⟩
    · rw [done, done']
      exact ih (regular.assignName done) (regular'.assignName done') same

theorem storeStatistic_alike (same : other.statistics = tables.statistics) (row : StatisticRow) :
    (other.storeStatistic row).statistics = (tables.storeStatistic row).statistics := by
  unfold Tables.storeStatistic
  rw [same]
  dsimp only
  split <;> rfl

theorem recordAll_alike (regular : tables.Regular) (regular' : other.Regular) (same : other.stays = tables.stays)
    (world : Nat) (clock : Int64) (deltas : List (PlayerId × Int64)) :
    (∃ error, recordAll world clock deltas tables = .error error ∧ recordAll world clock deltas other = .error error) ∨
      ∃ changed changed', recordAll world clock deltas tables = .ok changed ∧
        recordAll world clock deltas other = .ok changed' ∧ changed'.stays = changed.stays := by
  rcases recordAll_cases world clock deltas with ⟨error, refused⟩ | ⟨batch, left, -, recorded⟩
  · exact .inl ⟨error, refused tables, refused other⟩
  · refine .inr ⟨_, _, recorded tables, recorded other, ?_⟩
    rw [Tables.stays_record regular.owned, Tables.stays_record regular'.owned, same]

/-- An act is judged alike on tables that are the same in what it is about, and leaves them the same in it. -/
theorem change_alike (world : Nat) (act : Act) (regular : tables.Regular) (regular' : other.Regular)
    (same : act.concern.Same tables other) :
    (∃ error, act.change world tables = .error error ∧ act.change world other = .error error) ∨
      ∃ changed changed', act.change world tables = .ok changed ∧ act.change world other = .ok changed' ∧
        act.concern.Same changed changed' := by
  cases act with
  | setName id text override =>
    dsimp only [change]
    cases PlayerName.ofText text with
    | error fault => exact .inl ⟨.invalidName fault, rfl, rfl⟩
    | ok name => exact assignName_alike regular regular' same id name.text override
  | setNames entries =>
    dsimp only [change]
    cases PlayerName.acceptAll entries with
    | error fault => exact .inl ⟨.invalidName fault, rfl, rfl⟩
    | ok accepted => exact assignNames_alike regular regular' same accepted
  | credit clock id delta => exact recordAll_alike regular regular' same world clock [(id, delta)]
  | creditAll clock deltas => exact recordAll_alike regular regular' same world clock deltas
  | storeStatistic statistic =>
    dsimp only [change]
    cases Timestamp.ofUnix? statistic.calculated.toInt with
    | none => exact .inl ⟨.databaseFailure, rfl, rfl⟩
    | some calculated => exact .inr ⟨_, _, rfl, rfl, storeStatistic_alike same _⟩

theorem same_of_along (regular : tables.Regular) (regular' : other.Regular) (along : act.concern = concern)
    (same : concern.Same tables other) : concern.Same (next world tables act) (next world other act) := by
  subst along
  rcases change_alike world act regular regular' same with
    ⟨error, refused, refused'⟩ | ⟨changed, changed', made, made', after⟩
  · rwa [next_of_error refused, next_of_error refused']
  · rwa [next_of_ok made, next_of_ok made']

theorem same_run (world : Nat) (acts : List Act) (regular : tables.Regular) (regular' : other.Regular)
    (same : concern.Same tables other) :
    concern.Same (run world tables acts) (run world other (acts.filter fun act => act.concern = concern)) := by
  induction acts generalizing tables other with
  | nil => exact same
  | cons act acts ih =>
    rw [List.filter_cons]
    split
    · next along =>
      exact ih (regular_next regular act) (regular_next regular' act)
        (same_of_along regular regular' (of_decide_eq_true along) same)
    · next apart =>
      -- The run of all acts goes on alone, past an act that leaves what is compared as it was.
      have still : concern.Same tables (next world tables act) := same_of_apart regular (by simpa using apart)
      exact ih (regular_next regular act) regular' (still.symm.trans same)

end Act

namespace Tables

variable {tables other : Tables}

theorem keyOfName?_same (regular : tables.Regular) (regular' : other.Regular) (same : Concern.names.Same tables other)
    (name : String) : other.keyOfName? name = tables.keyOfName? name :=
  Option.ext fun key => by rw [regular.keyOfName?_iff, regular'.keyOfName?_iff, same key]

theorem mem_names_same (regular : tables.Regular) (regular' : other.Regular) (same : Concern.names.Same tables other)
    (name : String) : name ∈ other.names ↔ name ∈ tables.names := by
  rw [regular.keyed.mem_names, regular'.keyed.mem_names]
  exact exists_congr fun key => by rw [same key]

theorem secondsOf?_same (regular : tables.Regular) (regular' : other.Regular) (same : Concern.times.Same tables other)
    (key : Key) : other.secondsOf? key = tables.secondsOf? key := by
  rw [regular.keyed.secondsOf?_eq, regular'.keyed.secondsOf?_eq, same]

theorem grandTotal_same (same : Concern.times.Same tables other) : other.grandTotal = tables.grandTotal := by
  rw [grandTotal_eq, grandTotal_eq, same]

theorem latestStatistic?_same (same : Concern.statistics.Same tables other) (name : String) :
    other.latestStatistic? name = tables.latestStatistic? name := by
  rw [latestStatistic?, latestStatistic?, same]

end Tables

namespace Store

variable {store : Store} {host other : Host} {tables changed : Tables}

theorem read_of_held {α : Type} (isOpen : store.isOpen = true) (held : store.tables? host = some tables)
    (f : Tables → Except StorageError α) : store.read host f = f tables := by
  rw [Store.read, if_pos isOpen, held]

theorem read_of_stuck {α : Type} (stuck : store.isOpen = true → store.tables? host = none)
    (f : Tables → Except StorageError α) :
    store.read host f = .error (if store.isOpen = true then .databaseFailure else .closed) := by
  unfold Store.read
  split
  · next isOpen => rw [stuck isOpen]
  · rfl

theorem tables?_write (isOpen : store.isOpen = true) (host : Host) (change : Tables → Except StorageError Tables) :
    store.tables? (store.write host change).2 =
      (store.tables? host).map fun tables => (change tables).toOption.getD tables := by
  cases outcome : (store.write host change).1 with
  | ok =>
    obtain ⟨tables, changed, before, step, after⟩ := store.write_accepted host change outcome
    rw [before, after, Option.map_some, step]
    rfl
  | error error =>
    rw [store.write_refused host change error outcome]
    cases held : store.tables? host with
    | none => rfl
    | some tables =>
      obtain ⟨database, known, present⟩ := Option.bind_eq_some_iff.mp held
      unfold Store.write at outcome
      rw [if_pos isOpen, known] at outcome
      dsimp only at outcome
      rw [present] at outcome
      dsimp only at outcome
      cases step : change tables with
      | error other => simp [step, Except.toOption]
      | ok changed =>
        rw [step] at outcome
        cases outcome

theorem tables?_perform (isOpen : store.isOpen = true) (host : Host) (act : Act) :
    store.tables? (store.perform host act).2 = (store.tables? host).map fun tables => act.next store.world tables := by
  rw [perform_eq, tables?_write isOpen]
  cases act <;> rfl

theorem tables?_perform_closed (isClosed : store.isOpen = false) (host : Host) (act : Act) :
    store.tables? (store.perform host act).2 = store.tables? host := by
  rw [perform_eq, write, if_neg (by simp [isClosed])]
  cases act <;> rfl

def after (store : Store) (host : Host) (acts : List Act) : Host :=
  acts.foldl (fun host act => (store.perform host act).2) host

theorem tables?_after (isOpen : store.isOpen = true) (host : Host) (acts : List Act) :
    store.tables? (store.after host acts) = (store.tables? host).map fun tables => Act.run store.world tables acts := by
  induction acts generalizing host with
  | nil => exact Option.map_id'.symm
  | cons act acts ih =>
    show store.tables? (store.after (store.perform host act).2 acts) = _
    rw [ih, tables?_perform isOpen, Option.map_map]
    rfl

theorem tables?_after_closed (isClosed : store.isOpen = false) (host : Host) (acts : List Act) :
    store.tables? (store.after host acts) = store.tables? host := by
  induction acts generalizing host with
  | nil => rfl
  | cons act acts ih => exact (ih _).trans (tables?_perform_closed isClosed host act)

theorem after_of_unusable (unusable : ¬ (store.isOpen = true ∧ (store.tables? host).isSome = true))
    (acts others : List Act) :
    store.tables? (store.after host acts) = store.tables? (store.after host others) ∧
      ∀ {α : Type} (f : Tables → Except StorageError α),
        store.read (store.after host acts) f = store.read (store.after host others) f := by
  have lost (acts : List Act) (isOpen : store.isOpen = true) : store.tables? (store.after host acts) = none := by
    rw [tables?_after isOpen, Option.map_eq_none_iff]
    cases held : store.tables? host with
    | none => rfl
    | some tables => exact absurd ⟨isOpen, by rw [held]; rfl⟩ unusable
  refine ⟨?_, fun f => (read_of_stuck (lost acts) f).trans (read_of_stuck (lost others) f).symm⟩
  cases isOpen : store.isOpen with
  | true => exact (lost acts isOpen).trans (lost others isOpen).symm
  | false => exact (tables?_after_closed isOpen host acts).trans (tables?_after_closed isOpen host others).symm

def afterOnly (store : Store) (host : Host) (concern : Concern) (acts : List Act) : Host :=
  store.after host (acts.filter fun act => act.concern = concern)

/--
Whatever is done through a store, in whatever order and whether it is accepted or not, names read as if only names had
been given, times as if only credits had been made and statistics as if only statistics had been stored. Every interval
is still that of its player then, with its world and its times.
-/
theorem concerns_apart (store : Store) (host : Host) (acts : List Act)
    (regular : ∀ tables, store.tables? host = some tables → tables.Regular) :
    let all := store.after host acts
    let only := fun concern => store.afterOnly host concern acts
    (∀ name, store.holder? all name = store.holder? (only .names) name) ∧
    (∀ id, store.nameOf? all id = store.nameOf? (only .names) id) ∧
    (store.names all).map (Std.ExtTreeSet.ofList · compare) =
      (store.names (only .names)).map (Std.ExtTreeSet.ofList · compare) ∧
    (∀ id, store.seconds? all id = store.seconds? (only .times) id) ∧
    store.totals all = store.totals (only .times) ∧
    store.grandTotal all = store.grandTotal (only .times) ∧
    (store.tables? all).map Tables.stays = (store.tables? (only .times)).map Tables.stays ∧
    ∀ name, store.latestStatistic? all name = store.latestStatistic? (only .statistics) name := by
  intro all only
  by_cases usable : store.isOpen = true ∧ (store.tables? host).isSome = true
  · obtain ⟨isOpen, known⟩ := usable
    obtain ⟨tables, held⟩ := Option.isSome_iff_exists.mp known
    have start := regular tables held
    have reached (acts : List Act) :
        store.tables? (store.after host acts) = some (Act.run store.world tables acts) := by
      rw [tables?_after isOpen, held, Option.map_some]
    have whole : store.tables? all = some (Act.run store.world tables acts) := reached acts
    have part (concern : Concern) : store.tables? (only concern) =
        some (Act.run store.world tables (acts.filter fun act => act.concern = concern)) := reached _
    have ends (acts : List Act) : (Act.run store.world tables acts).Regular := Act.regular_run start acts
    have same (concern : Concern) :
        concern.Same (Act.run store.world tables (acts.filter fun act => act.concern = concern))
          (Act.run store.world tables acts) :=
      (Act.same_run store.world acts start start (.refl concern tables)).symm
    refine ⟨fun name => ?_, fun id => ?_, ?_, fun id => ?_, ?_, ?_, ?_, fun name => ?_⟩
    · rw [holder?, holder?, read_of_held isOpen whole, read_of_held isOpen (part .names),
        Tables.keyOfName?_same (ends _) (ends _) (same .names)]
    · rw [nameOf?, nameOf?, read_of_held isOpen whole, read_of_held isOpen (part .names), same .names]
    · rw [names, names, read_of_held isOpen whole, read_of_held isOpen (part .names)]
      refine congrArg Except.ok (Std.ExtTreeSet.ext_mem fun name => ?_)
      simpa using Tables.mem_names_same (ends _) (ends _) (same .names) name
    · rw [seconds?, seconds?, read_of_held isOpen whole, read_of_held isOpen (part .times),
        Tables.secondsOf?_same (ends _) (ends _) (same .times)]
    · exact totals_of_same isOpen isOpen (part .times) whole (ends _).keyed (ends _).keyed
        fun id => Tables.secondsOf?_same (ends _) (ends _) (same .times) id.toBytes
    · rw [grandTotal, grandTotal, read_of_held isOpen whole, read_of_held isOpen (part .times),
        Tables.grandTotal_same (same .times)]
    · rw [whole, part, Option.map_some, Option.map_some, same .times]
    · rw [latestStatistic?, latestStatistic?, read_of_held isOpen whole, read_of_held isOpen (part .statistics),
        Tables.latestStatistic?_same (same .statistics)]
  · obtain ⟨kept, -⟩ := after_of_unusable usable acts (acts.filter fun act => act.concern = .times)
    have stuck {α : Type} (concern : Concern) (f : Tables → Except StorageError α) :
        store.read all f = store.read (only concern) f := (after_of_unusable usable acts _).2 f
    exact ⟨fun _ => stuck _ _, fun _ => stuck _ _, congrArg _ (stuck _ _), fun _ => stuck _ _, stuck _ _, stuck _ _,
      congrArg _ kept, fun _ => stuck _ _⟩

/--
A player who has been credited gets a name and loses it to another, who gets a credit too; the first attempt to take the
name is refused, and a statistic is stored between.
-/
theorem concerns_apart_of_two_players :
    let first : PlayerId := ⟨7⟩
    let second : PlayerId := ⟨8⟩
    let store : Store := ⟨0, "ot_", 0, true⟩
    let host := (Store.load ⟨.empty, [], 0⟩ .memory "ot_" "lobby" "world").2
    let acts : List Act := [.credit 3600000 first 60, .setName first "Alice" false, .setName second "Alice" false,
      .storeStatistic ⟨"total", 3600, 60⟩, .setName second "Alice" true, .creditAll 7200000 [(second, 30), (first, -5)]]
    let all := store.after host acts
    (Store.load ⟨.empty, [], 0⟩ .memory "ot_" "lobby" "world").1 = .ok store ∧
      store.holder? all "Alice" = .ok (some second) ∧ store.nameOf? all first = .ok none ∧
      store.seconds? all first = .ok (some 55) ∧ store.seconds? all second = .ok (some 30) ∧
      store.grandTotal all = .ok 85 ∧ store.latestStatistic? all "total" = .ok (some ⟨"total", 3600, 60⟩) := by
  intro first second store host acts all
  have held : store.tables? host = some ⟨[], ["lobby"], [⟨0, "world"⟩], [], []⟩ := by decide +kernel
  have regular : ∀ tables, store.tables? host = some tables → tables.Regular := by
    intro tables found
    cases found.symm.trans held
    exact Tables.regular_of_nobody rfl rfl
  obtain ⟨holders, names, -, seconds, -, total, -, statistics⟩ := concerns_apart store host acts regular
  exact ⟨by decide +kernel, (holders "Alice").trans (by decide +kernel), (names first).trans (by decide +kernel),
    (seconds first).trans (by decide +kernel), (seconds second).trans (by decide +kernel),
    total.trans (by decide +kernel), (statistics "total").trans (by decide +kernel)⟩

end Store

end Playtime.Sql
