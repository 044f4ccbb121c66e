import Playtime.Backend
import Playtime.Proofs.Names.Files
import Playtime.Proofs.Names.Relational

namespace Playtime

namespace NameFile

theorem recordable_setName {file : NameFile} {disk : Disk} (recordable : FlatFile.Recordable disk (FlatFile.path file))
    (id : PlayerId) (text : String) (override : Bool) :
    FlatFile.Recordable (file.setName disk id text override).2.2
      (FlatFile.path (file.setName disk id text override).2.1) := by
  unfold NameFile.setName
  split
  · exact recordable
  · exact FlatFile.recordable_write recordable _

theorem recordable_setNames {file : NameFile} {disk : Disk}
    (recordable : FlatFile.Recordable disk (FlatFile.path file)) (entries : List (PlayerId × String)) :
    FlatFile.Recordable (file.setNames disk entries).2.2 (FlatFile.path (file.setNames disk entries).2.1) := by
  unfold NameFile.setNames
  split
  · exact recordable
  · exact FlatFile.recordable_write recordable _

end NameFile

namespace Register

variable {α β : Type} {keeps : α → Register → Prop} {keepsToo : β → Register → Prop} {register : Register}
  {expected : Except StorageError Register} {recordable : Prop} {outcome : Except StorageError Unit}

theorem Follows.imp {state : α} {other : β} (carried : ∀ register, keeps state register → keepsToo other register)
    (follows : Follows keeps register expected recordable (outcome, state)) :
    Follows keepsToo register expected recordable (outcome, other) := by
  cases expected with
  | error error => exact ⟨follows.1, carried register follows.2⟩
  | ok changed =>
    rcases follows with ⟨done, after⟩ | ⟨failed, misfit, before⟩
    · exact .inl ⟨done, carried changed after⟩
    · exact .inr ⟨failed, misfit, carried register before⟩

end Register

namespace Backend

def KeepsNames : Backend × Host → Register → Prop
  | (files names _, _), register => names.Keeps register
  | (relational store, host), register => store.Keeps host register
  | (mixed names _, _), register => names.Keeps register

def NamesRecordable : Backend × Host → Prop
  | (files names _, host) => FlatFile.Recordable host.disk (FlatFile.path names)
  | (relational _, _) => True
  | (mixed names _, host) => FlatFile.Recordable host.disk (FlatFile.path names)

variable {state : Backend × Host} {register : Register}

theorem readOut (keeps : KeepsNames state register) :
    register.ReadOut (state.1.holder? state.2) (state.1.nameOf? state.2) (state.1.names state.2) := by
  obtain ⟨backend, host⟩ := state
  cases backend with
  | files names times => exact NameFile.Keeps.readOut keeps
  | relational store => exact Sql.Store.Keeps.readOut keeps
  | mixed names store => exact NameFile.Keeps.readOut keeps

def Holds (state : Backend × Host) (id : PlayerId) (name : String) : Prop :=
  state.1.holder? state.2 name = .ok (some id)

instance (state : Backend × Host) (id : PlayerId) (name : String) : Decidable (Holds state id name) :=
  decidable_of_iff ((state.1.holder? state.2 name).toOption = some (some id)) <| by
    unfold Holds
    cases state.1.holder? state.2 name <;> simp [Except.toOption]

theorem holds_iff (keeps : KeepsNames state register) (id : PlayerId) (name : String) :
    Holds state id name ↔ register.holder name = some id := by
  rw [Holds, (readOut keeps).holder name]
  simp

theorem follows_setName (keeps : KeepsNames state register) (id : PlayerId) (text : String) (override : Bool) :
    Register.Follows KeepsNames register (register.assignText id text override) (NamesRecordable state)
      (state.1.setName state.2 id text override) := by
  obtain ⟨backend, host⟩ := state
  cases backend with
  | files names times => exact (NameFile.Keeps.setName keeps host.disk id text override).imp fun _ kept => kept
  | relational store => exact (Sql.Store.Keeps.setName keeps id text override).imp fun _ kept => kept
  | mixed names store => exact (NameFile.Keeps.setName keeps host.disk id text override).imp fun _ kept => kept

theorem follows_setNames (keeps : KeepsNames state register) (entries : List (PlayerId × String)) :
    Register.Follows KeepsNames register (register.assignTexts entries) (NamesRecordable state)
      (state.1.setNames state.2 entries) := by
  obtain ⟨backend, host⟩ := state
  cases backend with
  | files names times => exact (NameFile.Keeps.setNames keeps host.disk entries).imp fun _ kept => kept
  | relational store => exact (Sql.Store.Keeps.setNames keeps entries).imp fun _ kept => kept
  | mixed names store => exact (NameFile.Keeps.setNames keeps host.disk entries).imp fun _ kept => kept

theorem recordable_setName (recordable : NamesRecordable state) (id : PlayerId) (text : String) (override : Bool) :
    NamesRecordable (state.1.setName state.2 id text override).2 := by
  obtain ⟨backend, host⟩ := state
  cases backend with
  | files names times => exact NameFile.recordable_setName recordable id text override
  | relational store => exact trivial
  | mixed names store => exact NameFile.recordable_setName recordable id text override

theorem recordable_setNames (recordable : NamesRecordable state) (entries : List (PlayerId × String)) :
    NamesRecordable (state.1.setNames state.2 entries).2 := by
  obtain ⟨backend, host⟩ := state
  cases backend with
  | files names times => exact NameFile.recordable_setNames recordable entries
  | relational store => exact trivial
  | mixed names store => exact NameFile.recordable_setNames recordable entries

/-- The directory is open and holds no name. Player rows without a name may be there from recorded times. -/
def Vacant : Backend × Host → Prop
  | (files names _, _) => names.isOpen = true ∧ names.members = ∅
  | (relational store, host) => store.isOpen = true ∧ ∃ tables, store.tables? host = some tables ∧ tables.Keyed ∧
      ∀ row ∈ tables.players, row.name = none
  | (mixed names _, _) => names.isOpen = true ∧ names.members = ∅

theorem Vacant.keepsNames (vacant : Vacant state) : KeepsNames state .empty := by
  have file (names : NameFile) (isOpen : names.isOpen = true) (empty : names.members = ∅) : names.Keeps .empty := by
    refine ⟨isOpen, fun name => ?_⟩
    rw [empty]
    rfl
  obtain ⟨backend, host⟩ := state
  cases backend with
  | files names times => exact file names vacant.1 vacant.2
  | relational store =>
    obtain ⟨isOpen, tables, held, keyed, nameless⟩ := vacant
    refine ⟨isOpen, tables, held, keyed, fun id name => ⟨fun member => ?_, nofun⟩⟩
    cases nameless _ member
  | mixed names store => exact file names vacant.1 vacant.2

theorem vacant_of_loadFiles {host after : Host} {backend : Backend} {directory stem : String}
    (absent : host.disk.read (NameFile.path directory stem) = .absent)
    (loaded : loadFiles host directory stem = (.ok backend, after)) : Vacant (backend, after) := by
  have fresh {file : NameFile} {disk : Disk} (opened : NameFile.load host.disk directory stem = (.ok file, disk)) :
      file.isOpen = true ∧ file.members = ∅ := by
    unfold NameFile.load FlatFile.load at opened
    rw [absent] at opened
    dsimp only at opened
    split at opened
    · cases opened
      exact ⟨rfl, rfl⟩
    · cases opened
  unfold loadFiles at loaded
  split at loaded
  · cases loaded
  · next names disk opened =>
    split at loaded
    · cases loaded
    · cases loaded
      exact fresh opened

theorem players_register (tables : Sql.Tables) (server world : String) :
    (tables.register server world).1.players = tables.players := by
  unfold Sql.Tables.register Sql.Tables.ensureWorld Sql.Tables.ensureServer
  dsimp only
  split <;> split <;> rfl

theorem vacant_of_loadRelational {host next after : Host} {backend : Backend} {source : Sql.Source} {number : Nat}
    {opening server world : String} (connected : Sql.connect host source = (.ok number, next))
    (fresh : next.database? number = some ∅)
    (loaded : loadRelational host source opening server world = (.ok backend, after)) : Vacant (backend, after) := by
  unfold loadRelational Sql.Store.load at loaded
  rw [connected] at loaded
  cases named : Sql.stem? opening with
  | none => simp [named, Except.map] at loaded
  | some stem =>
    have created : ((∅ : Sql.Database).createTables stem).tables? stem = some .empty := by
      simp [Sql.Database.createTables, Sql.Database.tables?, Std.ExtTreeMap.getElem_insertIfNew]
    have inside : number < next.databases.length := (List.getElem?_eq_some_iff.mp fresh).1
    simp only [named, fresh, created, Except.map] at loaded
    cases loaded
    -- Opening adds a server and a world, and no player.
    refine ⟨rfl, (Sql.Tables.empty.register server world).1, ?_, ?_, ?_⟩
    · simp [Sql.Store.tables?, Host.database?, Host.setDatabase, Sql.Database.tables?, Sql.Database.setTables,
        Sql.Database.createTables, inside]
    · constructor <;> simp [players_register, Sql.Tables.empty]
    · simp [players_register, Sql.Tables.empty]

end Backend

end Playtime
