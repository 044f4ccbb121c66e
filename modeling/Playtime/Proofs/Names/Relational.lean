import Mathlib.Data.List.Nodup
import Playtime.Proofs.Ledger.Relational
import Playtime.Proofs.Names.Register

namespace Playtime.Sql

namespace Tables

structure Keyed (tables : Tables) : Prop where
  distinct : (tables.players.map PlayerRow.key).Nodup
  keys : ∀ row ∈ tables.players, ∃ id : PlayerId, row.key = id.toBytes

structure Lists (tables : Tables) (register : Register) : Prop where
  keyed : tables.Keyed
  names : ∀ (id : PlayerId) name, ⟨id.toBytes, some name⟩ ∈ tables.players ↔ register.holder name = some id

theorem Lists.keyOfName? {tables : Tables} {register : Register} (lists : tables.Lists register) (name : String) :
    tables.keyOfName? name = (register.holder name).map PlayerId.toBytes := by
  unfold Tables.keyOfName?
  cases found : tables.players.find? fun row => row.name = some name with
  | none =>
    cases held : register.holder name with
    | none => rfl
    | some id => simpa using List.find?_eq_none.mp found _ ((lists.names id name).mpr held)
  | some row =>
    have member := List.mem_of_find?_eq_some found
    have named : row.name = some name := by simpa using List.find?_some found
    obtain ⟨id, key⟩ := lists.keyed.keys row member
    obtain ⟨key', name'⟩ := row
    subst key named
    rw [(lists.names id name).mp member]
    rfl

theorem Keyed.nameOfKey?_iff {tables : Tables} (keyed : tables.Keyed) {key : Key} {name : String} :
    tables.nameOfKey? key = some name ↔ ⟨key, some name⟩ ∈ tables.players := by
  rw [Tables.nameOfKey?, Option.bind_eq_some_iff]
  constructor
  · rintro ⟨⟨other, held⟩, found, rfl⟩
    have same : other = key := by simpa using List.find?_some found
    subst same
    exact List.mem_of_find?_eq_some found
  · intro member
    cases found : tables.players.find? fun row => row.key = key with
    | none => simpa using List.find?_eq_none.mp found _ member
    | some row =>
      have same : row.key = key := by simpa using List.find?_some found
      have one := List.inj_on_of_nodup_map keyed.distinct (List.mem_of_find?_eq_some found) member same
      exact ⟨row, rfl, congrArg PlayerRow.name one⟩

theorem Lists.nameOfKey? {tables : Tables} {register : Register} (lists : tables.Lists register) (id : PlayerId)
    (name : String) : tables.nameOfKey? id.toBytes = some name ↔ register.holder name = some id := by
  rw [lists.keyed.nameOfKey?_iff, lists.names id name]

theorem Lists.mem_names {tables : Tables} {register : Register} (lists : tables.Lists register) (name : String) :
    name ∈ tables.names ↔ (register.holder name).isSome = true := by
  rw [Tables.names, List.mem_filterMap, Option.isSome_iff_exists]
  constructor
  · rintro ⟨⟨key, held⟩, member, rfl⟩
    obtain ⟨id, same⟩ := lists.keyed.keys _ member
    subst same
    exact ⟨id, (lists.names id name).mp member⟩
  · rintro ⟨id, held⟩
    exact ⟨_, (lists.names id name).mpr held, rfl⟩

theorem Keyed.of_keys {tables changed : Tables} (keyed : tables.Keyed)
    (same : changed.players.map PlayerRow.key = tables.players.map PlayerRow.key) : changed.Keyed where
  distinct := same ▸ keyed.distinct
  keys row member := by
    have inside : row.key ∈ tables.players.map PlayerRow.key := same ▸ List.mem_map_of_mem member
    obtain ⟨other, found, key⟩ := List.mem_map.mp inside
    rw [← key]
    exact keyed.keys other found

theorem Keyed.append {tables : Tables} (keyed : tables.Keyed) (id : PlayerId) (name : Option String)
    (absent : ∀ row ∈ tables.players, row.key ≠ id.toBytes) :
    Keyed { tables with players := tables.players ++ [⟨id.toBytes, name⟩] } where
  distinct := by
    rw [List.map_append, List.nodup_append]
    refine ⟨keyed.distinct, List.nodup_singleton _, ?_⟩
    rintro key inside _ last rfl
    obtain ⟨row, member, rfl⟩ := List.mem_map.mp inside
    exact absent row member (List.mem_singleton.mp last)
  keys row member := by
    rcases List.mem_append.mp member with inside | last
    · exact keyed.keys row inside
    · exact ⟨id, by rw [List.mem_singleton.mp last]⟩

theorem Keyed.revoke {tables : Tables} (keyed : tables.Keyed) (name : String) : (tables.revoke name).Keyed := by
  apply keyed.of_keys
  rw [Tables.revoke, List.map_map]
  apply List.map_congr_left
  intro row member
  simp only [Function.comp_apply]
  split <;> rfl

theorem mem_revoke (tables : Tables) (name : String) (key : Key) (text : String) :
    ⟨key, some text⟩ ∈ (tables.revoke name).players ↔ text ≠ name ∧ ⟨key, some text⟩ ∈ tables.players := by
  rw [Tables.revoke, List.mem_map]
  constructor
  · rintro ⟨row, member, same⟩
    split at same
    · cases same
    · next other =>
      subst same
      exact ⟨fun named => other (congrArg some named), member⟩
  · rintro ⟨differs, member⟩
    exact ⟨_, member, if_neg fun same => differs (Option.some.inj same)⟩

theorem Keyed.upsertName? {tables : Tables} (keyed : tables.Keyed) (id : PlayerId) (name : String)
    (free : ∀ row ∈ tables.players, row.key ≠ id.toBytes → row.name ≠ some name) :
    ∃ changed, tables.upsertName? id.toBytes name = some changed ∧ changed.Keyed ∧
      ∀ key text, ⟨key, some text⟩ ∈ changed.players ↔
        key = id.toBytes ∧ text = name ∨ key ≠ id.toBytes ∧ ⟨key, some text⟩ ∈ tables.players := by
  have unheld : ¬ (tables.players.any fun row => row.key ≠ id.toBytes && row.name = some name) = true := by
    simpa using free
  unfold Tables.upsertName?
  rw [if_neg unheld]
  split
  · next present =>
    refine ⟨_, rfl, ?_, fun key text => ?_⟩
    · apply keyed.of_keys
      rw [List.map_map]
      apply List.map_congr_left
      intro row member
      simp only [Function.comp_apply]
      split <;> rfl
    · obtain ⟨row, member, mine⟩ : ∃ row ∈ tables.players, row.key = id.toBytes := by simpa using present
      rw [List.mem_map]
      constructor
      · rintro ⟨other, inside, same⟩
        split at same
        · next key =>
          cases same
          exact .inl ⟨key, rfl⟩
        · next differs =>
          subst same
          exact .inr ⟨differs, inside⟩
      · rintro (⟨rfl, rfl⟩ | ⟨differs, inside⟩)
        · exact ⟨row, member, by rw [if_pos mine, ← mine]⟩
        · exact ⟨_, inside, if_neg differs⟩
  · next absent =>
    have others : ∀ row ∈ tables.players, row.key ≠ id.toBytes := by simpa using absent
    refine ⟨_, rfl, keyed.append id (some name) others, fun key text => ?_⟩
    rw [List.mem_append, List.mem_singleton]
    constructor
    · rintro (inside | last)
      · exact .inr ⟨others _ inside, inside⟩
      · cases last
        exact .inl ⟨rfl, rfl⟩
    · rintro (⟨rfl, rfl⟩ | ⟨-, inside⟩)
      · exact .inr rfl
      · exact .inl inside

theorem Keyed.grant {freed : Tables} {register : Register} (keyed : freed.Keyed) (id : PlayerId) (name : PlayerName)
    (others : ∀ other : PlayerId, other ≠ id → ∀ text,
      ⟨other.toBytes, some text⟩ ∈ freed.players ↔ text ≠ name.text ∧ register.holder text = some other) :
    ∃ changed, freed.upsertName? id.toBytes name.text = some changed ∧ changed.Lists (register.grant id name) := by
  have free : ∀ row ∈ freed.players, row.key ≠ id.toBytes → row.name ≠ some name.text := by
    rintro ⟨key, held⟩ member differs rfl
    obtain ⟨other, rfl⟩ := keyed.keys _ member
    have apart : other ≠ id := fun same => differs (congrArg PlayerId.toBytes same)
    exact ((others other apart name.text).mp member).1 rfl
  obtain ⟨changed, done, still, members⟩ := keyed.upsertName? id name.text free
  refine ⟨changed, done, still, fun other text => ?_⟩
  show _ ↔ Register.granted register.holder id name.text text = some other
  rw [members, Register.granted_eq_some, PlayerId.toBytes_inj]
  by_cases mine : other = id
  · simp [mine]
  · have differs : other.toBytes ≠ id.toBytes := fun same => mine (PlayerId.toBytes_inj.mp same)
    simp [mine, differs, others other mine text]

theorem Lists.assignName {tables : Tables} {register : Register} (lists : tables.Lists register) (id : PlayerId)
    (name : PlayerName) (override : Bool) :
    Register.Matches Lists (tables.assignName id.toBytes name.text override) (register.assign id name override) := by
  have unheld (free : ∀ other, register.holder name.text = some other → other = id) :
      ∃ changed, tables.upsertName? id.toBytes name.text = some changed ∧ changed.Lists (register.grant id name) := by
    apply lists.keyed.grant id name
    intro other apart text
    rw [lists.names other text]
    refine ⟨fun held => ⟨?_, held⟩, And.right⟩
    rintro rfl
    exact apart (free other held)
  unfold Tables.assignName Register.assign
  dsimp only
  rw [lists.keyOfName? name.text]
  cases held : register.holder name.text with
  | none =>
    obtain ⟨changed, done, after⟩ := unheld (by simp [held])
    simpa [done, Register.Matches] using after
  | some holder =>
    by_cases mine : holder = id
    · subst mine
      obtain ⟨changed, done, after⟩ := unheld (by simp [held, eq_comm])
      simpa [done, Register.Matches] using after
    · cases override
      · simp [Register.Matches, PlayerId.toBytes_inj, mine]
      · -- The row of the other holder is nameless by now, so the name is free again.
        have others (other : PlayerId) (_ : other ≠ id) (text : String) :
            ⟨other.toBytes, some text⟩ ∈ (tables.revoke name.text).players ↔
              text ≠ name.text ∧ register.holder text = some other := by
          rw [mem_revoke, lists.names]
        obtain ⟨changed, done, after⟩ := (lists.keyed.revoke name.text).grant id name others
        simpa [done, Register.Matches, PlayerId.toBytes_inj, mine] using after

theorem Lists.assignNames {tables : Tables} {register : Register} (lists : tables.Lists register)
    (entries : List (PlayerId × PlayerName)) :
    Register.Matches Lists (tables.assignNames (entries.map fun entry => (entry.1.toBytes, entry.2.text)))
      (.ok (register.grantAll entries)) := by
  induction entries generalizing tables register with
  | nil => exact lists
  | cons entry rest ih =>
    have first := lists.assignName entry.1 entry.2 true
    rw [Register.assign_override] at first
    obtain ⟨changed, step, after⟩ := first.of_ok
    unfold Tables.assignNames
    rw [List.map_cons]
    dsimp only
    rw [step]
    exact ih after

end Tables

namespace Store

structure Keeps (store : Store) (host : Host) (register : Register) : Prop where
  isOpen : store.isOpen = true
  lists : ∃ tables, store.tables? host = some tables ∧ tables.Lists register

theorem Keeps.readOut {store : Store} {host : Host} {register : Register} (keeps : store.Keeps host register) :
    register.ReadOut (store.holder? host) (store.nameOf? host) (store.names host) := by
  obtain ⟨isOpen, tables, held, lists⟩ := keeps
  have read {α : Type} (f : Tables → Except StorageError α) : store.read host f = f tables := by
    rw [Store.read, if_pos isOpen, held]
  refine ⟨fun name => ?_, fun id => ⟨_, read _, lists.nameOfKey? id⟩, ⟨_, read _, lists.mem_names⟩⟩
  rw [Store.holder?, read, lists.keyOfName? name]
  cases register.holder name with
  | none => rfl
  | some id =>
    simp only [Option.map_some, identifier, PlayerId.ofBytes?_toBytes]
    rfl

theorem Keeps.write {store : Store} {host : Host} {register : Register} (keeps : store.Keeps host register)
    {change : Tables → Except StorageError Tables} {expected : Except StorageError Register}
    (alike : ∀ tables : Tables, tables.Lists register → Register.Matches Tables.Lists (change tables) expected) :
    Register.Follows store.Keeps register expected True (store.write host change) := by
  obtain ⟨tables, held, lists⟩ := keeps.lists
  obtain ⟨database, known, present⟩ := Option.bind_eq_some_iff.mp held
  have alike := alike tables lists
  unfold Store.write
  rw [if_pos keeps.isOpen, known]
  dsimp only
  rw [present]
  dsimp only
  cases expected with
  | error error =>
    rw [alike.of_error]
    exact ⟨rfl, keeps⟩
  | ok changed =>
    obtain ⟨after, made, still⟩ := alike.of_ok
    rw [made]
    exact .inl ⟨rfl, keeps.isOpen, after, tables?_setDatabase store host database tables after known present, still⟩

theorem Keeps.setName {store : Store} {host : Host} {register : Register} (keeps : store.Keeps host register)
    (id : PlayerId) (text : String) (override : Bool) :
    Register.Follows store.Keeps register (register.assignText id text override) True
      (store.setName host id text override) := by
  apply keeps.write
  intro tables lists
  unfold Register.assignText
  cases PlayerName.ofText text with
  | error fault => rfl
  | ok name => exact lists.assignName id name override

theorem Keeps.setNames {store : Store} {host : Host} {register : Register} (keeps : store.Keeps host register)
    (entries : List (PlayerId × String)) :
    Register.Follows store.Keeps register (register.assignTexts entries) True (store.setNames host entries) := by
  apply keeps.write
  intro tables lists
  unfold Register.assignTexts
  cases PlayerName.acceptAll entries with
  | error fault => rfl
  | ok accepted => exact lists.assignNames accepted

end Store

end Playtime.Sql
