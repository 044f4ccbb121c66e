import Playtime.Proofs.Site.Durability

namespace Playtime

theorem PlayerName.acceptAll_cases {α : Type} (entries : List (α × String)) :
    (∃ fault, (∃ entry ∈ entries, ¬ IsPlayerName entry.2) ∧ acceptAll entries = .error fault) ∨
      ∃ accepted, acceptAll entries = .ok accepted ∧
        accepted.map (fun entry => (entry.1, entry.2.text)) = entries := by
  induction entries with
  | nil => exact .inr ⟨[], rfl, rfl⟩
  | cons entry rest ih =>
    obtain ⟨key, text⟩ := entry
    unfold acceptAll
    cases outcome : ofText text with
    | error fault =>
      refine .inl ⟨fault, ⟨(key, text), List.mem_cons_self, fun valid => ?_⟩, rfl⟩
      obtain ⟨name, same⟩ := (isPlayerName_iff text).mp valid
      cases outcome.symm.trans same
    | ok name =>
      have same := (ofText_eq_ok_iff text name).mp outcome
      rcases ih with ⟨fault, ⟨other, member, misfit⟩, refused⟩ | ⟨accepted, taken, texts⟩
      · exact .inl ⟨fault, ⟨other, List.mem_cons_of_mem _ member, misfit⟩, by rw [refused]; rfl⟩
      · exact .inr ⟨(key, name) :: accepted, by rw [taken]; rfl, by rw [List.map_cons, texts, same]⟩

namespace Register

def lastToAsk? (name : String) : List (PlayerId × PlayerName) → Option PlayerId
  | [] => none
  | (id, given) :: rest => (lastToAsk? name rest).or (if given.text = name then some id else none)

theorem lastToAsk?_eq_none_iff {name : String} {entries : List (PlayerId × PlayerName)} :
    lastToAsk? name entries = none ↔ ∀ entry ∈ entries, entry.2.text ≠ name := by
  induction entries with
  | nil => simp [lastToAsk?]
  | cons entry rest ih =>
    rw [lastToAsk?, Option.or_eq_none_iff, ih]
    simp [and_comm]

theorem mem_of_lastToAsk? {name : String} {entries : List (PlayerId × PlayerName)} {id : PlayerId}
    (last : lastToAsk? name entries = some id) : ∃ entry ∈ entries, entry.1 = id ∧ entry.2.text = name := by
  induction entries with
  | nil => cases last
  | cons entry rest ih =>
    rw [lastToAsk?, Option.or_eq_some_iff] at last
    rcases last with later | ⟨-, first⟩
    · obtain ⟨other, member, same⟩ := ih later
      exact ⟨other, List.mem_cons_of_mem _ member, same⟩
    · split at first
      · next asked => exact ⟨entry, List.mem_cons_self, Option.some.inj first, asked⟩
      · cases first

/--
A name goes to the last player to ask for it. One that nobody asks for is kept, unless its holder has been given
another.
-/
theorem holder_grantAll (register : Register) (entries : List (PlayerId × PlayerName))
    (distinct : (entries.map Prod.fst).Nodup) (name : String) (id : PlayerId) :
    (register.grantAll entries).holder name = some id ↔ lastToAsk? name entries = some id ∨
      lastToAsk? name entries = none ∧ id ∉ entries.map Prod.fst ∧ register.holder name = some id := by
  induction entries generalizing register with
  | nil => simp [grantAll, lastToAsk?]
  | cons entry rest ih =>
    obtain ⟨first, given⟩ := entry
    obtain ⟨once, others⟩ := List.nodup_cons.mp distinct
    have step : ((register.grant first given).grantAll rest).holder name = some id ↔ _ := ih _ others
    have granted : (register.grant first given).holder name = some id ↔ _ := granted_eq_some
    show ((register.grant first given).grantAll rest).holder name = some id ↔ _
    rw [step, granted, lastToAsk?, List.map_cons, List.mem_cons]
    cases lastToAsk? name rest with
    | some last => simp
    -- Nobody asks later, and the first player does not ask again.
    | none => by_cases asked : given.text = name <;> grind

end Register

theorem Sql.Tables.Lists.of_same {tables changed : Sql.Tables} {register : Register} (lists : tables.Lists register)
    (keyed : changed.Keyed) (same : tables.SameNames changed) : changed.Lists register := by
  refine ⟨keyed, fun id name => ?_⟩
  rw [← keyed.nameOfKey?_iff, same.nameOfKey?, lists.nameOfKey?]

theorem Sql.Tables.Lists.of_players {tables changed : Sql.Tables} {register : Register} (lists : tables.Lists register)
    (same : changed.players = tables.players) : changed.Lists register :=
  lists.of_same (lists.keyed.of_keys (by rw [same])) (.of_players same)

namespace Backend

def nameTables? : Backend × Host → Option Sql.Tables
  | (relational store, host) => store.tables? host
  | (files _ _, _) | (mixed _ _, _) => none

/--
Name directories that start empty, with whatever is done through the storages that they belong to. They can be opened
again at any time, also while they are open; others may use the host at the same time, and stores in one database may
share their tables.
-/
inductive NamesReached : Backend × Host → Prop where
  | vacant {state : Backend × Host} (vacant : Vacant state) : NamesReached state
  | deed {state : Backend × Host} (reached : NamesReached state) (sessions : Sessions) (deed : Deed) :
    NamesReached (deed.act (sessions, state)).2
  | amid {backend : Backend} {host other : Host} (reached : NamesReached (backend, host))
    (spared : nameTables? (backend, other) = nameTables? (backend, host)) : NamesReached (backend, other)
  | shared {store other : Sql.Store} {host : Host} (reached : NamesReached (relational store, host))
    (same : other.tables? host = store.tables? host) : NamesReached (relational other, host)
  | reopened {backend again : Backend} {host after : Host} {configuration : Configuration}
    (reached : NamesReached (backend, host)) (housed : backend.Housed configuration host)
    (loaded : load host configuration = (.ok again, after)) : NamesReached (again, after)

variable {state : Backend × Host} {backend : Backend} {host : Host} {register : Register}

def Registered (state : Backend × Host) : Prop := ∃ register, KeepsNames (state.1.reopened, state.2) register

theorem KeepsNames.registered (keeps : KeepsNames state register) : Registered state := by
  obtain ⟨backend, host⟩ := state
  cases backend with
  | files names times => exact ⟨register, rfl, keeps.lists⟩
  | relational store => exact ⟨register, rfl, keeps.lists⟩
  | mixed names store => exact ⟨register, rfl, keeps.lists⟩

theorem Registered.keepsNames (registered : Registered state) (isOpen : state.1.namesOpen = true) :
    ∃ register, KeepsNames state register := by
  obtain ⟨backend, host⟩ := state
  obtain ⟨register, keeps⟩ := registered
  cases backend with
  | files names times => exact ⟨register, isOpen, keeps.lists⟩
  | relational store => exact ⟨register, isOpen, keeps.lists⟩
  | mixed names store => exact ⟨register, isOpen, keeps.lists⟩

theorem registered_write {store : Sql.Store} {host : Host} {change : Sql.Tables → Except StorageError Sql.Tables}
    (registered : Registered (relational store, host))
    (spares : ∀ tables changed register, tables.Lists register → change tables = .ok changed → changed.Lists register) :
    Registered (relational store, (store.write host change).2) := by
  cases outcome : (store.write host change).1 with
  | error error => rwa [store.write_refused host _ error outcome]
  | ok =>
    obtain ⟨register, -, tables, held, lists⟩ := registered
    obtain ⟨before, changed, known, step, held'⟩ := store.write_accepted host _ outcome
    cases known.symm.trans held
    exact ⟨register, rfl, changed, held', spares tables changed register lists step⟩

theorem registered_creditAll : Sessions.KeptByCredits fun state : Backend × Host => Registered state := by
  rintro ⟨backend, host⟩ deltas registered
  cases backend with
  | files names times => exact registered
  | mixed names store => exact registered
  | relational store =>
    refine registered_write registered fun tables changed register lists step => ?_
    split at step
    · cases step
    · cases step
      exact lists
    · cases step
    · cases step
      exact lists.of_same (lists.keyed.record _ _ _) (tables.sameNames_record _ _ _)

theorem registered_deed (registered : Registered state) (sessions : Sessions) (deed : Deed) :
    Registered (deed.act (sessions, state)).2 := by
  cases deed with
  | use what =>
    refine Sessions.ledger_use registered_creditAll ?_ (sessions, state) what registered
    rintro ⟨backend, host⟩ registered
    cases backend <;> exact registered
  | name call =>
    cases isOpen : state.1.namesOpen with
    | false =>
      show Registered (act (state.1, state.2) call).2
      rwa [act_of_shut isOpen]
    | true =>
      obtain ⟨register, keeps⟩ := registered.keepsNames isOpen
      obtain ⟨next, kept⟩ := keepsNames_act keeps call
      exact kept.registered
  | closeNames =>
    obtain ⟨backend, host⟩ := state
    cases backend <;> exact registered
  | record statistic =>
    obtain ⟨backend, host⟩ := state
    cases backend with
    | files names times => exact registered
    | mixed names store => exact registered
    | relational store =>
      refine registered_write registered fun tables changed register lists step => ?_
      split at step
      · cases step
      · cases step
        exact lists.of_players (Sql.Tables.fields_storeStatistic _).1

theorem registered_load {configuration : Configuration} {again : Backend} {after : Host}
    (registered : Registered (backend, host)) (housed : backend.Housed configuration host)
    (loaded : load host configuration = (.ok again, after)) : Registered (again, after) := by
  unfold load at loaded
  cases backend with
  | mixed names store => exact housed.elim
  | files names times =>
    obtain ⟨kind, deposited⟩ := housed
    obtain ⟨named, timed⟩ := deposited.load
    rw [kind] at loaded
    dsimp only at loaded
    rw [loadFiles, named] at loaded
    dsimp only at loaded
    rw [timed] at loaded
    cases loaded
    exact registered
  | relational store =>
    obtain ⟨kind, dialect, stem, ⟨path, source, linked⟩, -⟩ := housed
    obtain ⟨register, -, tables, held, lists⟩ := registered
    obtain ⟨other, next, found, -, -, -, -, held'⟩ :=
      storeLoad_of_known linked stem held configuration.server configuration.world
    rw [kind] at loaded
    dsimp only at loaded
    rw [if_pos dialect, loadRelational, source, found] at loaded
    cases loaded
    exact ⟨register, rfl, _, held', lists.of_players (players_register _ _ _)⟩

theorem NamesReached.registered (reached : NamesReached state) : Registered state := by
  induction reached with
  | vacant vacant => exact vacant.keepsNames.registered
  | deed _ sessions deed ih => exact registered_deed ih sessions deed
  | @amid backend host other _ spared ih =>
    cases backend with
    | files names times => exact ih
    | mixed names store => exact ih
    | relational store =>
      obtain ⟨register, -, tables, held, lists⟩ := ih
      exact ⟨register, rfl, tables, Eq.trans spared held, lists⟩
  | shared _ same ih =>
    obtain ⟨register, -, tables, held, lists⟩ := ih
    exact ⟨register, rfl, tables, same.trans held, lists⟩
  | reopened _ housed loaded ih => exact registered_load ih housed loaded

/-- A name directory answers what a set of pairs has. -/
structure Tells (state : Backend × Host) (pair : PlayerId → String → Prop) : Prop where
  holder (name : String) : ∃ held, state.1.holder? state.2 name = .ok held ∧ ∀ id, held = some id ↔ pair id name
  name (id : PlayerId) : ∃ held, state.1.nameOf? state.2 id = .ok held ∧ ∀ name, held = some name ↔ pair id name
  names : ∃ listed, state.1.names state.2 = .ok listed ∧ ∀ name, name ∈ listed ↔ ∃ id, pair id name

theorem KeepsNames.tells (keeps : KeepsNames state register) {pair : PlayerId → String → Prop}
    (same : ∀ id name, register.holder name = some id ↔ pair id name) : Tells state pair := by
  obtain ⟨holder, name, listed, read, members⟩ := readOut keeps
  refine ⟨fun name => ⟨_, holder name, fun id => same id name⟩, fun id => ?_, listed, read, fun name => ?_⟩
  · obtain ⟨held, found, alike⟩ := name id
    exact ⟨held, found, fun name => (alike name).trans (same id name)⟩
  · rw [members, Option.isSome_iff_exists]
    exact exists_congr fun id => same id name

theorem setNames_of_misfit {entries : List (PlayerId × String)} {fault : NameFault}
    (refused : (state.1.setNames state.2 entries).1 = .error (.invalidName fault))
    (misfit : PlayerName.acceptAll entries = .error fault) : (state.1.setNames state.2 entries).2 = state := by
  have file (names : NameFile) (disk : Disk) : (names.setNames disk entries).2 = (names, disk) := by
    rw [NameFile.setNames, misfit]
  obtain ⟨backend, host⟩ := state
  cases backend with
  | files names times =>
    exact congrArg (fun after : NameFile × Disk => (files after.1 times, { host with disk := after.2 }))
      (file names host.disk)
  | relational store => exact congrArg (relational store, ·) (store.write_refused host _ _ refused)
  | mixed names store =>
    exact congrArg (fun after : NameFile × Disk => (mixed after.1 store, { host with disk := after.2 }))
      (file names host.disk)

theorem Tells.nameOf?_eq {pair : PlayerId → String → Prop} (tells : Tells state pair) {id : PlayerId}
    {held : Option String} (same : ∀ name, held = some name ↔ pair id name) :
    state.1.nameOf? state.2 id = .ok held := by
  obtain ⟨found, read, alike⟩ := tells.name id
  rw [read]
  exact congrArg _ (Option.ext fun name => (alike name).trans (same name).symm)

theorem Tells.congr {pair other : PlayerId → String → Prop} (tells : Tells state pair)
    (same : ∀ id name, pair id name ↔ other id name) : Tells state other := by
  have equal : pair = other := funext fun id => funext fun name => propext (same id name)
  exact equal ▸ tells

def Untouched (state : Backend × Host) (entries : List (PlayerId × String)) (id : PlayerId) (name : String) : Prop :=
  id ∉ entries.map Prod.fst ∧ name ∉ entries.map Prod.snd ∧ Holds state id name

/-- Each name that a batch asks for has gone to one player who asks for it. -/
structure Settles (entries : List (PlayerId × String)) (state after : Backend × Host)
    (winner : String → Option PlayerId) : Prop where
  settled (name : String) : (winner name).isSome = true ↔ name ∈ entries.map Prod.snd
  asked {name : String} {id : PlayerId} (won : winner name = some id) : (id, name) ∈ entries
  tells : Tells after fun id name => winner name = some id ∨ Untouched state entries id name

theorem settles_of_grantAll {after : Backend × Host} {entries order : List (PlayerId × String)}
    {accepted : List (PlayerId × PlayerName)} (keeps : KeepsNames state register)
    (kept : KeepsNames after (register.grantAll accepted))
    (texts : accepted.map (fun entry => (entry.1, entry.2.text)) = order) (perm : order.Perm entries)
    (distinct : (entries.map Prod.fst).Nodup) :
    Settles entries state after fun name => Register.lastToAsk? name accepted := by
  have players : (accepted.map Prod.fst).Perm (entries.map Prod.fst) := by
    refine List.Perm.trans (.of_eq ?_) (perm.map Prod.fst)
    rw [← texts, List.map_map]
    rfl
  have member (id : PlayerId) (name : String) :
      (id, name) ∈ entries ↔ ∃ entry ∈ accepted, entry.1 = id ∧ entry.2.text = name := by
    rw [← perm.mem_iff, ← texts, List.mem_map]
    simp only [Prod.mk.injEq]
  have asked (name : String) : name ∈ entries.map Prod.snd ↔ ∃ entry ∈ accepted, entry.2.text = name := by
    rw [List.mem_map]
    constructor
    · rintro ⟨⟨id, _⟩, inside, rfl⟩
      obtain ⟨entry, found, -, same⟩ := (member id _).mp inside
      exact ⟨entry, found, same⟩
    · rintro ⟨entry, found, same⟩
      exact ⟨(entry.1, name), (member _ _).mpr ⟨entry, found, rfl, same⟩, rfl⟩
  have unasked (name : String) : Register.lastToAsk? name accepted = none ↔ name ∉ entries.map Prod.snd := by
    rw [Register.lastToAsk?_eq_none_iff, asked, not_exists]
    simp only [not_and, ne_eq]
  refine ⟨fun name => ?_, fun won => ?_, kept.tells fun id name => ?_⟩
  · rw [Option.isSome_iff_ne_none, Ne, unasked, not_not]
  · exact (member _ _).mpr (Register.mem_of_lastToAsk? won)
  · rw [register.holder_grantAll accepted (players.nodup_iff.mpr distinct), unasked, players.mem_iff, Untouched,
      holds_iff keeps, and_left_comm]

theorem Settles.nameOf? {entries : List (PlayerId × String)} {after : Backend × Host}
    {winner : String → Option PlayerId} (settles : Settles entries state after winner)
    (distinct : (entries.map Prod.fst).Nodup) {id : PlayerId} {name : String} (member : (id, name) ∈ entries) :
    after.1.nameOf? after.2 id = .ok (if winner name = some id then some name else none) := by
  refine settles.tells.nameOf?_eq fun other => ?_
  have mine : winner other = some id → other = name := fun won =>
    congrArg Prod.snd (List.inj_on_of_nodup_map distinct (settles.asked won) member rfl)
  have inside : id ∈ entries.map Prod.fst := List.mem_map_of_mem member
  simp only [Untouched, inside, not_true, false_and, or_false]
  constructor
  · intro same
    split at same
    · next won => exact Option.some.inj same ▸ won
    · cases same
  · intro won
    rw [← mine won, if_pos won]

theorem Settles.of_distinct {entries : List (PlayerId × String)} {after : Backend × Host}
    {winner : String → Option PlayerId} (settles : Settles entries state after winner)
    (distinct : (entries.map Prod.snd).Nodup) :
    Tells after fun id name => (id, name) ∈ entries ∨ Untouched state entries id name := by
  refine settles.tells.congr fun id name => or_congr_left ⟨settles.asked, fun member => ?_⟩
  obtain ⟨other, won⟩ := Option.isSome_iff_exists.mp ((settles.settled name).mpr (List.mem_map_of_mem member))
  rw [won]
  exact congrArg (fun entry => some entry.1)
    (List.inj_on_of_nodup_map distinct (settles.asked won) member rfl)

/--
A batch of names can be worked off in any order. Each name that it asks for goes to one of the players that ask for it
and the others get none; a player that it does not mention keeps the name unless the batch asks for it. When no two ask
for one name, all get theirs, even where they swap names or hand them on in a circle. A text that is no name refuses the
batch as a whole, and nothing else does but a disk that cannot record it; then all names are as they were.
-/
theorem batch_in_any_order (state : Backend × Host) (entries order : List (PlayerId × String))
    (reached : NamesReached state) (isOpen : state.1.namesOpen = true) (distinct : (entries.map Prod.fst).Nodup)
    (perm : order.Perm entries) :
    let result := state.1.setNames state.2 order
    ((∃ entry ∈ entries, ¬ IsPlayerName entry.2) →
      (∃ fault, result.1 = .error (.invalidName fault)) ∧ result.2 = state) ∧
    ((∀ entry ∈ entries, IsPlayerName entry.2) →
      result.1 = .ok () ∨ result.1 = .error .fileFailure ∧ ¬ NamesRecordable state ∧ Tells result.2 (Holds state)) ∧
    (result.1 = .ok () → ∃ winner, Settles entries state result.2 winner ∧ ∀ id name, (id, name) ∈ entries →
      result.2.1.nameOf? result.2.2 id = .ok (if winner name = some id then some name else none)) ∧
    (result.1 = .ok () → (entries.map Prod.snd).Nodup →
      Tells result.2 fun id name => (id, name) ∈ entries ∨ Untouched state entries id name) := by
  intro result
  obtain ⟨register, keeps⟩ := reached.registered.keepsNames isOpen
  have follows : Register.Follows KeepsNames register (register.assignTexts order) (NamesRecordable state) result :=
    follows_setNames keeps order
  unfold Register.assignTexts at follows
  rcases PlayerName.acceptAll_cases order with ⟨fault, ⟨entry, member, misfit⟩, refused⟩ | ⟨accepted, taken, texts⟩
  · rw [refused] at follows
    have failed : result.1 = .error (.invalidName fault) := follows.1
    refine ⟨fun _ => ⟨⟨fault, failed⟩, setNames_of_misfit failed refused⟩, fun valid => ?_, fun done => ?_,
      fun done => ?_⟩
    · exact absurd (valid entry (perm.mem_iff.mp member)) misfit
    · cases failed.symm.trans done
    · cases failed.symm.trans done
  · rw [taken] at follows
    have valid : ∀ entry ∈ entries, IsPlayerName entry.2 := by
      intro entry member
      rw [← perm.mem_iff, ← texts] at member
      obtain ⟨granted, -, rfl⟩ := List.mem_map.mp member
      exact granted.2.valid
    have settles (done : result.1 = .ok ()) : ∃ winner, Settles entries state result.2 winner := by
      rcases follows with ⟨-, kept⟩ | ⟨failed, -, -⟩
      · exact ⟨_, settles_of_grantAll keeps kept texts perm distinct⟩
      · cases failed.symm.trans done
    refine ⟨fun ⟨entry, member, misfit⟩ => absurd (valid entry member) misfit, fun _ => ?_, fun done => ?_,
      fun done single => ?_⟩
    · rcases follows with ⟨done, -⟩ | ⟨failed, misfit, kept⟩
      · exact .inl done
      · exact .inr ⟨failed, misfit, kept.tells fun id name => (holds_iff keeps id name).symm⟩
    · obtain ⟨winner, settles⟩ := settles done
      exact ⟨winner, settles, fun id name member => settles.nameOf? distinct member⟩
    · obtain ⟨winner, settles⟩ := settles done
      exact settles.of_distinct single

/-- Two players swap names while two others ask for one name, and somebody who is not asked keeps hers. -/
theorem batch_in_any_order_of_swap :
    let ann : PlayerId := ⟨1⟩
    let ben : PlayerId := ⟨2⟩
    let cid : PlayerId := ⟨3⟩
    let dot : PlayerId := ⟨4⟩
    let eve : PlayerId := ⟨5⟩
    let entries := [(ann, "Ben"), (ben, "Ann"), (cid, "Dan"), (dot, "Dan")]
    ∃ backend host, loadRelational ⟨.empty, [], 0⟩ .memory "" "hub" "world" = (.ok backend, host) ∧
      let state := after (backend, host) [.set ann "Ann" false, .set ben "Ben" false, .set eve "Eve" false]
      let result := state.1.setNames state.2 entries.reverse
      result.1 = .ok () ∧ Holds result.2 ann "Ben" ∧ Holds result.2 ben "Ann" ∧ Holds result.2 eve "Eve" ∧
        ∃ winner, Settles entries state result.2 winner ∧ (winner "Dan" = some cid ∨ winner "Dan" = some dot) := by
  intro ann ben cid dot eve entries
  obtain ⟨host, loaded⟩ : ∃ host, loadRelational ⟨.empty, [], 0⟩ .memory "" "hub" "world" =
      (.ok (relational ⟨0, "", 0, true⟩), host) := ⟨_, rfl⟩
  refine ⟨_, host, loaded, ?_⟩
  have start : NamesReached (relational ⟨0, "", 0, true⟩, host) := .vacant (vacant_of_loadRelational rfl rfl loaded)
  have reached := ((start.deed .empty (.name (.set ann "Ann" false))).deed .empty (.name (.set ben "Ben" false))).deed
    .empty (.name (.set eve "Eve" false))
  obtain ⟨-, total, settled, -⟩ := batch_in_any_order _ entries entries.reverse reached
    (by cases loaded; decide +kernel) (by decide) (List.reverse_perm _)
  have done := (total (by decide +kernel)).resolve_right fun lost => lost.2.1 trivial
  obtain ⟨winner, settles, -⟩ := settled done
  refine ⟨done, ?_, ?_, ?_, winner, settles, ?_⟩
  · cases loaded
    decide +kernel
  · cases loaded
    decide +kernel
  · cases loaded
    decide +kernel
  · obtain ⟨id, won⟩ := Option.isSome_iff_exists.mp ((settles.settled "Dan").mpr (by decide))
    have asked : id = cid ∨ id = dot := by simpa [entries] using settles.asked won
    rw [won]
    exact asked.imp (congrArg some) (congrArg some)

end Backend

end Playtime
