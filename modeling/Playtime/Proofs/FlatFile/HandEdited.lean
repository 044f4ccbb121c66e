import Playtime.Proofs.FlatFile.Neighbours
import Playtime.Proofs.Ledger.Listed
import Playtime.Proofs.Names.Files

namespace Playtime

namespace NameFile

variable {file : NameFile} {disk : Disk} {id : PlayerId} {name : String}

/-- Every identifier can be read, however it is spelled. -/
def Readable (names : FlatObject.Members String) : Prop :=
  ∀ (name text : String), names[name]? = some text → (PlayerId.ofText? text).isSome = true

instance (names : FlatObject.Members String) : Decidable (Readable names) :=
  decidable_of_iff (∀ entry ∈ names.toList, (PlayerId.ofText? entry.2).isSome = true)
    ⟨fun texts name text stored => texts (name, text) (Std.ExtTreeMap.mem_toList_iff_getElem?_eq_some.mpr stored),
      fun readable entry member => readable entry.1 entry.2 (Std.ExtTreeMap.mem_toList_iff_getElem?_eq_some.mp member)⟩

theorem exists_holder? (isOpen : FlatFile.isOpen file = true) (readable : Readable (FlatFile.members file))
    (name : String) : ∃ holder, file.holder? name = .ok holder := by
  unfold holder? FlatFile.read
  rw [if_pos isOpen]
  dsimp only
  cases stored : (FlatFile.members file)[name]? with
  | none => exact ⟨none, rfl⟩
  | some text =>
    obtain ⟨id, read⟩ := Option.isSome_iff_exists.mp (readable name text stored)
    exact ⟨some id, by dsimp only; rw [read]⟩

theorem holder?_eq_some_iff (isOpen : FlatFile.isOpen file = true) :
    file.holder? name = .ok (some id) ↔
      ∃ text, (FlatFile.members file)[name]? = some text ∧ PlayerId.ofText? text = some id := by
  unfold holder? FlatFile.read
  rw [if_pos isOpen]
  dsimp only
  cases (FlatFile.members file)[name]? with
  | none => simp
  | some text => cases read : PlayerId.ofText? text <;> simp [read]

theorem exists_nameOf?_iff (isOpen : FlatFile.isOpen file = true) :
    (∃ other, file.nameOf? id = .ok (some other)) ↔
      ∃ other : String, (FlatFile.members file)[other]? = some id.toText := by
  rcases nameOf?_cases isOpen id with ⟨name, found, stored⟩ | ⟨none, free⟩
  · exact ⟨fun _ => ⟨name, stored⟩, fun _ => ⟨name, found⟩⟩
  · rw [none]
    exact ⟨nofun, fun ⟨other, stored⟩ => absurd stored (free other)⟩

theorem holder?_of_nameOf? (isOpen : FlatFile.isOpen file = true) (found : file.nameOf? id = .ok (some name)) :
    file.holder? name = .ok (some id) := by
  rcases nameOf?_cases isOpen id with ⟨other, found', stored⟩ | ⟨none, -⟩
  · cases found.symm.trans found'
    exact (holder?_eq_some_iff isOpen).mpr ⟨id.toText, stored, PlayerId.ofText?_toText id⟩
  · cases found.symm.trans none

theorem assign_of_stored {names : FlatObject.Members String} {text : String} (stored : names[name]? = some text) :
    assign names id name false = if text = id.toText then .ok names else .error .nameTaken := by
  unfold assign
  rw [stored]
  rfl

theorem setName_of_own (isOpen : FlatFile.isOpen file = true) (valid : IsPlayerName name)
    (recordable : FlatFile.Recordable disk (FlatFile.path file))
    (stored : (FlatFile.members file)[name]? = some id.toText) :
    (file.setName disk id name false).1 = .ok () ∧ (file.setName disk id name false).2.1 = file := by
  obtain ⟨accepted, read⟩ := (PlayerName.isPlayerName_iff name).mp valid
  have same := (PlayerName.ofText_eq_ok_iff name accepted).mp read
  subst same
  have kept := (assign_of_stored stored).trans (if_pos rfl)
  have outcome := FlatFile.outcome_of_recordable isOpen recordable fun names => assign names id accepted.text false
  rw [kept] at outcome
  obtain ⟨members, made, after⟩ := FlatFile.write_accepted file disk _ outcome
  cases kept.symm.trans made
  unfold setName
  rw [read]
  exact ⟨outcome, after⟩

theorem setName_of_other (isOpen : FlatFile.isOpen file = true) (valid : IsPlayerName name) (disk : Disk)
    {text : String} (stored : (FlatFile.members file)[name]? = some text) (other : text ≠ id.toText) :
    file.setName disk id name false = (.error .nameTaken, file, disk) := by
  obtain ⟨accepted, read⟩ := (PlayerName.isPlayerName_iff name).mp valid
  have same := (PlayerName.ofText_eq_ok_iff name accepted).mp read
  subst same
  have refused := (assign_of_stored stored).trans (if_neg other)
  unfold setName FlatFile.write
  rw [read]
  dsimp only
  rw [if_pos isOpen, refused]

theorem setName_of_invalid (invalid : ¬ IsPlayerName name) (file : NameFile) (disk : Disk) (id : PlayerId) :
    ∃ fault, file.setName disk id name false = (.error (.invalidName fault), file, disk) := by
  unfold setName
  cases read : PlayerName.ofText name with
  | error fault => exact ⟨fault, rfl⟩
  | ok accepted => exact absurd ((PlayerName.isPlayerName_iff name).mpr ⟨accepted, read⟩) invalid

end NameFile

/--
What has just been opened tells, whatever somebody wrote into it. A player is found by the own name, and may take that
name again, where the name stands under the player's own text; under another spelling of the identifier the player is
its holder all the same, but the name counts as taken by someone else. A text that is no name is never given. Of the
seconds of a player those under the own text are told, while the enumeration takes the last of all spellings; the two
agree unless there is another spelling.
-/
theorem hand_edited_files_read {disk created disk' created' : Disk} {directory stem directory' stem' : String}
    {names : NameFile} {times : TimeFile} (namesOpened : NameFile.load disk directory stem = (.ok names, created))
    (timesOpened : TimeFile.load disk' directory' stem' = (.ok times, created'))
    (namesReadable : NameFile.Readable (FlatFile.members names))
    (timesReadable : TimeFile.Readable (FlatFile.members times)) :
    (∀ name, ∃ holder, names.holder? name = .ok holder) ∧
    (∀ name id, names.holder? name = .ok (some id) →
      ((FlatFile.members names)[name]? = some id.toText →
        (∃ other, names.nameOf? id = .ok (some other) ∧ names.holder? other = .ok (some id)) ∧
        ∀ disk, IsPlayerName name → FlatFile.Recordable disk (FlatFile.path names) →
          (names.setName disk id name false).1 = .ok () ∧ (names.setName disk id name false).2.1 = names) ∧
      ((FlatFile.members names)[name]? ≠ some id.toText →
        ∀ disk, IsPlayerName name → names.setName disk id name false = (.error .nameTaken, names, disk)) ∧
      (¬ IsPlayerName name → ∀ disk, ∃ fault,
        names.setName disk id name false = (.error (.invalidName fault), names, disk))) ∧
    (∀ id, ((∃ name, names.nameOf? id = .ok (some name)) ↔
        ∃ name : String, (FlatFile.members names)[name]? = some id.toText) ∧
      ∀ name, names.nameOf? id = .ok (some name) → names.holder? name = .ok (some id)) ∧
    ∃ totals, times.totals = .ok totals ∧ ∀ id,
      times.seconds? id = .ok (FlatFile.members times)[id.toText]? ∧
      totals[id]? = TimeFile.listed? (FlatFile.members times) id ∧
      (totals[id]?.isSome = true ↔ ∃ text ∈ FlatFile.members times, PlayerId.ofText? text = some id) ∧
      ((∀ text ∈ FlatFile.members times, PlayerId.ofText? text = some id → text = id.toText) →
        times.seconds? id = .ok totals[id]?) := by
  have namesOpen := FlatFile.isOpen_load namesOpened
  have timesOpen := FlatFile.isOpen_load timesOpened
  obtain ⟨totals, read, listed⟩ := TimeFile.totals_of_readable timesOpen timesReadable
  refine ⟨NameFile.exists_holder? namesOpen namesReadable, fun name id holds => ⟨fun stored => ⟨?_, ?_⟩, ?_, ?_⟩,
    fun id => ⟨NameFile.exists_nameOf?_iff namesOpen, fun name => NameFile.holder?_of_nameOf? namesOpen⟩,
    totals, read, fun id => ⟨TimeFile.seconds?_of_isOpen timesOpen id, listed id, ?_, fun own => ?_⟩⟩
  · obtain ⟨other, found⟩ := (NameFile.exists_nameOf?_iff namesOpen).mpr ⟨name, stored⟩
    exact ⟨other, found, NameFile.holder?_of_nameOf? namesOpen found⟩
  · intro disk valid recordable
    exact NameFile.setName_of_own namesOpen valid recordable stored
  · intro foreign disk valid
    obtain ⟨text, stored, -⟩ := (NameFile.holder?_eq_some_iff namesOpen).mp holds
    exact NameFile.setName_of_other namesOpen valid disk stored fun same =>
      foreign (stored.trans (congrArg some same))
  · exact fun invalid disk => NameFile.setName_of_invalid invalid names disk id
  · rw [listed, TimeFile.isSome_listed?_iff]
  · rw [TimeFile.seconds?_of_isOpen timesOpen, listed, TimeFile.listed?_of_own own]

/-- Somebody has written names and times into the data directory. -/
def written (names : FlatObject.Members String) (times : FlatObject.Members Int64) : Disk where
  entries := .ofList [(["data"], .directory), (["data", "names.json"], .file (FlatObject.toBytes names)),
    (["data", "time.json"], .file (FlatObject.toBytes times))] compare
  faults := []

theorem FlatFile.load_of_content {ν : Type} [FlatObject.Scalar ν] [FlatObject.Legible ν] {disk : Disk}
    {path : List String} {members : FlatObject.Members ν}
    (found : disk.read path = .content (FlatObject.toBytes members)) :
    FlatFile.load disk path = (.ok ⟨path, members, true⟩, disk) := by
  unfold FlatFile.load
  rw [found]
  dsimp only
  rw [FlatFile.decode?_toBytes]

theorem load_written (names : FlatObject.Members String) (times : FlatObject.Members Int64) :
    NameFile.load (written names times) "data" "" =
        (.ok ⟨["data", "names.json"], names, true⟩, written names times) ∧
      TimeFile.load (written names times) "data" "" =
        (.ok ⟨["data", "time.json"], times, true⟩, written names times) ∧
      FlatFile.Recordable (written names times) ["data", "names.json"] := by
  have namesPath : NameFile.path "data" "" = ["data", "names.json"] := by decide +kernel
  have timesPath : TimeFile.path "data" "" = ["data", "time.json"] := by decide +kernel
  refine ⟨?_, ?_, rfl, ⟨["data", "names.json.tmp"], ?_⟩, ⟨["data", "names.json"], ?_⟩⟩
  · rw [NameFile.load, namesPath]
    exact FlatFile.load_of_content rfl
  · rw [TimeFile.load, timesPath]
    exact FlatFile.load_of_content rfl
  · exact ⟨rfl, rfl⟩
  · exact ⟨rfl, rfl⟩

/-- Ann's entries have the own spelling beside another one, Ben's name has only another one. -/
theorem hand_edited_files_read_of_two_spellings :
    let ann : PlayerId := ⟨10⟩
    let ben : PlayerId := ⟨11⟩
    let disk := written (.ofList [("Ann", ann.toText), ("Ben", "00000000-0000-0000-0000-00000000000B")] compare)
      (.ofList [(ann.toText, 5), ("0000000000000000000000000000000a", 7), (ben.toText, 9)] compare)
    ∃ names times totals, NameFile.load disk "data" "" = (.ok names, disk) ∧
      TimeFile.load disk "data" "" = (.ok times, disk) ∧
      (∃ name, names.nameOf? ann = .ok (some name) ∧ names.holder? name = .ok (some ann)) ∧
      (names.setName disk ann "Ann" false).1 = .ok () ∧
      names.setName disk ben "Ben" false = (.error .nameTaken, names, disk) ∧
      times.totals = .ok totals ∧ times.seconds? ann = .ok (some 5) ∧ totals[ann]? = some 7 ∧
      times.seconds? ben = .ok totals[ben]? := by
  intro ann ben disk
  obtain ⟨namesOpened, timesOpened, recordable⟩ := load_written
    (.ofList [("Ann", ann.toText), ("Ben", "00000000-0000-0000-0000-00000000000B")] compare)
    (.ofList [(ann.toText, 5), ("0000000000000000000000000000000a", 7), (ben.toText, 9)] compare)
  obtain ⟨-, holds, -, totals, read, told⟩ := hand_edited_files_read namesOpened timesOpened
    (by decide +kernel) (by decide +kernel)
  obtain ⟨found, again⟩ := (holds "Ann" ann (by decide +kernel)).1 (by decide +kernel)
  obtain ⟨seconds, last, -⟩ := told ann
  obtain ⟨-, -, -, own⟩ := told ben
  refine ⟨_, _, totals, namesOpened, timesOpened, found, (again disk (by decide) recordable).1,
    (holds "Ben" ben (by decide +kernel)).2.1 (by decide +kernel) disk (by decide), read, ?_, ?_, own ?_⟩
  · rw [seconds]
    decide +kernel
  · rw [last]
    decide +kernel
  · simp only [← Std.ExtTreeMap.mem_keys]
    decide +kernel

/-- A player whose identifier somebody wrote in capitals holds a name, yet has none and may not take it again. -/
theorem capitals_hide_player :
    let alice : PlayerId := ⟨10⟩
    let disk := written (.ofList [("alice", "00000000-0000-0000-0000-00000000000A")] compare)
      (.ofList [("00000000-0000-0000-0000-00000000000A", 5)] compare)
    ∃ names times totals, NameFile.load disk "data" "" = (.ok names, disk) ∧
      TimeFile.load disk "data" "" = (.ok times, disk) ∧
      NameFile.Readable (FlatFile.members names) ∧ TimeFile.Readable (FlatFile.members times) ∧
      FlatFile.Recordable disk (FlatFile.path names) ∧
      names.holder? "alice" = .ok (some alice) ∧ names.nameOf? alice = .ok none ∧
      (names.setName disk alice "alice" false).1 = .error .nameTaken ∧
      times.totals = .ok totals ∧ totals[alice]? = some 5 ∧ times.seconds? alice = .ok none := by
  intro alice disk
  obtain ⟨namesOpened, timesOpened, recordable⟩ := load_written
    (.ofList [("alice", "00000000-0000-0000-0000-00000000000A")] compare)
    (.ofList [("00000000-0000-0000-0000-00000000000A", 5)] compare)
  have timesReadable : TimeFile.Readable (.ofList [("00000000-0000-0000-0000-00000000000A", 5)] compare) := by
    decide +kernel
  have capitals : "00000000-0000-0000-0000-00000000000A" ≠ alice.toText := by decide +kernel
  obtain ⟨totals, read, listed⟩ := TimeFile.totals_of_readable (FlatFile.isOpen_load timesOpened) timesReadable
  refine ⟨_, _, totals, namesOpened, timesOpened, by decide +kernel, timesReadable,
    recordable, by decide +kernel, by decide +kernel, ?_, read, ?_, by decide +kernel⟩
  · rw [NameFile.setName_of_other rfl (by decide) disk (by decide +kernel) capitals]
  · rw [listed]
    decide +kernel

end Playtime
