import Playtime.NameFile
import Playtime.Proofs.Disk
import Playtime.Proofs.Names.Register

namespace Playtime

namespace NameFile

def Lists (names : FlatObject.Members String) (register : Register) : Prop :=
  ∀ name, names[name]? = (register.holder name).map PlayerId.toText

theorem Lists.eq_some {names : FlatObject.Members String} {register : Register} (lists : Lists names register)
    (name : String) (id : PlayerId) : names[name]? = some id.toText ↔ register.holder name = some id := by
  rw [lists name, Option.map_eq_some_iff]
  constructor
  · rintro ⟨other, held, same⟩
    rwa [← PlayerId.toText_inj.mp same]
  · intro held
    exact ⟨id, held, rfl⟩

theorem Lists.grant {names : FlatObject.Members String} {register : Register} (lists : Lists names register)
    (id : PlayerId) (name : PlayerName) :
    Lists ((names.filter fun _ holder => holder ≠ id.toText).insert name.text id.toText) (register.grant id name) := by
  intro text
  show _ = (Register.granted register.holder id name.text text).map PlayerId.toText
  rw [Std.ExtTreeMap.getElem?_insert, Std.ExtTreeMap.getElem?_filter', lists text, Register.granted]
  by_cases same : text = name.text
  · simp [same]
  · rw [if_neg (by simpa using Ne.symm same), if_neg same]
    cases held : register.holder text with
    | none => rfl
    | some other => by_cases mine : other = id <;> simp [mine, PlayerId.toText_inj]

theorem Lists.assign {names : FlatObject.Members String} {register : Register} (lists : Lists names register)
    (id : PlayerId) (name : PlayerName) (override : Bool) :
    Register.Matches Lists (assign names id name.text override) (register.assign id name override) := by
  have granted := lists.grant id name
  unfold NameFile.assign Register.assign
  dsimp only
  rw [lists name.text]
  cases held : register.holder name.text with
  | none => simpa [Register.Matches] using granted
  | some other =>
    by_cases mine : other = id
    · subst mine
      simpa [Register.Matches, Register.grant_of_holder held] using lists
    · cases override
      · simp [Register.Matches, PlayerId.toText_inj, mine]
      · simpa [Register.Matches, PlayerId.toText_inj, mine] using granted

theorem Lists.assignAll {names : FlatObject.Members String} {register : Register} (lists : Lists names register)
    (entries : List (PlayerId × PlayerName)) :
    Register.Matches Lists (assignAll names entries) (.ok (register.grantAll entries)) := by
  induction entries generalizing names register with
  | nil => exact lists
  | cons entry rest ih =>
    have first := lists.assign entry.1 entry.2 true
    rw [Register.assign_override] at first
    obtain ⟨changed, step, after⟩ := first.of_ok
    unfold NameFile.assignAll
    rw [step]
    exact ih after

theorem nameOf?_cases {file : NameFile} (isOpen : file.isOpen = true) (id : PlayerId) :
    (∃ name, file.nameOf? id = .ok (some name) ∧ file.members[name]? = some id.toText) ∨
      file.nameOf? id = .ok none ∧ ∀ name : String, file.members[name]? ≠ some id.toText := by
  unfold nameOf? FlatFile.read
  rw [if_pos isOpen]
  dsimp only
  cases first : file.members.toList.find? fun entry => entry.2 = id.toText with
  | none =>
    refine .inr ⟨rfl, fun name stored => ?_⟩
    simpa using List.find?_eq_none.mp first _ (Std.ExtTreeMap.mem_toList_iff_getElem?_eq_some.mpr stored)
  | some entry =>
    obtain ⟨name, text⟩ := entry
    have same : text = id.toText := by simpa using List.find?_some first
    subst same
    exact .inl ⟨name, rfl, Std.ExtTreeMap.mem_toList_iff_getElem?_eq_some.mp (List.mem_of_find?_eq_some first)⟩

structure Keeps (file : NameFile) (register : Register) : Prop where
  isOpen : file.isOpen = true
  lists : Lists file.members register

def Kept (state : NameFile × Disk) (register : Register) : Prop := state.1.Keeps register

theorem Keeps.readOut {file : NameFile} {register : Register} (keeps : file.Keeps register) :
    register.ReadOut file.holder? file.nameOf? file.names where
  holder name := by
    unfold NameFile.holder? FlatFile.read
    rw [if_pos keeps.isOpen]
    dsimp only
    rw [keeps.lists name]
    cases register.holder name with
    | none => rfl
    | some id => simp [PlayerId.ofText?_toText]
  -- The search stops at the first name of the player, who has no other in a register.
  name id := by
    rcases nameOf?_cases keeps.isOpen id with ⟨name, found, stored⟩ | ⟨none, free⟩
    · have held := (keeps.lists.eq_some name id).mp stored
      refine ⟨_, found, fun other => ⟨fun same => ?_, fun too => congrArg some (register.single held too)⟩⟩
      exact Option.some.inj same ▸ held
    · exact ⟨_, none, fun name => ⟨nofun, fun held => absurd ((keeps.lists.eq_some name id).mpr held) (free name)⟩⟩
  names := by
    refine ⟨_, if_pos keeps.isOpen, fun name => ?_⟩
    rw [Std.ExtTreeMap.mem_keys, ← Std.ExtTreeMap.isSome_getElem?_iff_mem, keeps.lists name, Option.isSome_map]

theorem Keeps.write {file : NameFile} {register : Register} (keeps : file.Keeps register) (disk : Disk)
    {change : FlatObject.Members String → Except StorageError (FlatObject.Members String)}
    {expected : Except StorageError Register} (alike : Register.Matches Lists (change file.members) expected) :
    Register.Follows Kept register expected
      (FlatFile.Recordable disk (FlatFile.path file)) (file.write disk change) := by
  unfold FlatFile.write
  rw [if_pos keeps.isOpen]
  cases expected with
  | error error =>
    rw [alike.of_error]
    exact ⟨rfl, keeps⟩
  | ok changed =>
    obtain ⟨members, made, lists⟩ := alike.of_ok
    rw [made]
    dsimp only
    split
    · exact .inl ⟨rfl, keeps.isOpen, lists⟩
    · next failed =>
      refine .inr ⟨rfl, fun recordable => ?_, keeps⟩
      obtain ⟨_, taken, -⟩ := FlatFile.persist_of_recordable recordable members
      rw [taken] at failed
      cases failed

theorem Keeps.setName {file : NameFile} {register : Register} (keeps : file.Keeps register) (disk : Disk)
    (id : PlayerId) (text : String) (override : Bool) :
    Register.Follows Kept register (register.assignText id text override)
      (FlatFile.Recordable disk (FlatFile.path file)) (file.setName disk id text override) := by
  unfold NameFile.setName Register.assignText
  cases PlayerName.ofText text with
  | error fault => exact ⟨rfl, keeps⟩
  | ok name => exact keeps.write disk (keeps.lists.assign id name override)

theorem Keeps.setNames {file : NameFile} {register : Register} (keeps : file.Keeps register) (disk : Disk)
    (entries : List (PlayerId × String)) :
    Register.Follows Kept register (register.assignTexts entries)
      (FlatFile.Recordable disk (FlatFile.path file)) (file.setNames disk entries) := by
  unfold NameFile.setNames Register.assignTexts
  cases PlayerName.acceptAll entries with
  | error fault => exact ⟨rfl, keeps⟩
  | ok accepted => exact keeps.write disk (keeps.lists.assignAll accepted)

end NameFile

end Playtime
