import Playtime.StorageError

namespace Playtime

theorem PlayerName.isPlayerName_iff (text : String) : IsPlayerName text ↔ ∃ name, ofText text = .ok name := by
  constructor
  · intro valid
    exact ⟨⟨text, valid⟩, (ofText_eq_ok_iff text ⟨text, valid⟩).mpr rfl⟩
  · rintro ⟨name, accepted⟩
    rw [← (ofText_eq_ok_iff text name).mp accepted]
    exact name.valid

@[ext] structure Register where
  holder : String → Option PlayerId
  named : ∀ {name id}, holder name = some id → IsPlayerName name
  single : ∀ {name other id}, holder name = some id → holder other = some id → name = other

namespace Register

def empty : Register := ⟨fun _ => none, nofun, nofun⟩

def granted (holder : String → Option PlayerId) (id : PlayerId) (name : String) (other : String) : Option PlayerId :=
  if other = name then some id else if holder other = some id then none else holder other

theorem granted_eq_some {holder : String → Option PlayerId} {id other : PlayerId} {name text : String} :
    granted holder id name text = some other ↔
      text = name ∧ other = id ∨ text ≠ name ∧ other ≠ id ∧ holder text = some other := by
  unfold granted
  by_cases same : text = name
  · simp [same, eq_comm]
  · by_cases held : holder text = some id
    · simp [same, held, eq_comm]
    · have differs : holder text = some other → other ≠ id := fun found same => held (same ▸ found)
      simpa [same, held] using differs

def grant (register : Register) (id : PlayerId) (name : PlayerName) : Register where
  holder := granted register.holder id name.text
  named found := by
    rcases granted_eq_some.mp found with ⟨rfl, -⟩ | ⟨-, -, found⟩
    · exact name.valid
    · exact register.named found
  -- Both names are the given one, or neither is and both were held before.
  single first second := by
    rcases granted_eq_some.mp first with ⟨rfl, rfl⟩ | ⟨-, differs, first⟩
    · rcases granted_eq_some.mp second with ⟨rfl, -⟩ | ⟨-, differs, -⟩
      · rfl
      · exact absurd rfl differs
    · rcases granted_eq_some.mp second with ⟨-, same⟩ | ⟨-, -, second⟩
      · exact absurd same differs
      · exact register.single first second

theorem grant_of_holder {register : Register} {id : PlayerId} {name : PlayerName}
    (held : register.holder name.text = some id) : register.grant id name = register := by
  ext text other
  show granted register.holder id name.text text = some other ↔ register.holder text = some other
  rw [granted_eq_some]
  constructor
  · rintro (⟨rfl, rfl⟩ | ⟨-, -, found⟩)
    · exact held
    · exact found
  · intro found
    by_cases same : other = id
    · subst same
      exact .inl ⟨register.single found held, rfl⟩
    · refine .inr ⟨?_, same, found⟩
      rintro rfl
      rw [held] at found
      exact same (Option.some.inj found).symm

def assign (register : Register) (id : PlayerId) (name : PlayerName) (override : Bool) :
    Except StorageError Register :=
  if !override && (register.holder name.text).any (· ≠ id) then .error .nameTaken else .ok (register.grant id name)

theorem assign_override (register : Register) (id : PlayerId) (name : PlayerName) :
    register.assign id name true = .ok (register.grant id name) := rfl

def assignText (register : Register) (id : PlayerId) (text : String) (override : Bool) :
    Except StorageError Register :=
  match PlayerName.ofText text with
  | .error fault => .error (.invalidName fault)
  | .ok name => register.assign id name override

def grantAll (register : Register) (entries : List (PlayerId × PlayerName)) : Register :=
  entries.foldl (fun register entry => register.grant entry.1 entry.2) register

def assignTexts (register : Register) (entries : List (PlayerId × String)) : Except StorageError Register :=
  match PlayerName.acceptAll entries with
  | .error fault => .error (.invalidName fault)
  | .ok accepted => .ok (register.grantAll accepted)

def Taken (register : Register) (id : PlayerId) (text : String) (override : Bool) : Prop :=
  override = false ∧ ∃ other, other ≠ id ∧ register.holder text = some other

theorem any_holder_iff {register : Register} {id : PlayerId} {text : String} {override : Bool} :
    (!override && (register.holder text).any (· ≠ id)) = true ↔ register.Taken id text override := by
  unfold Taken
  cases register.holder text <;> simp

theorem assignText_cases (register : Register) (id : PlayerId) (text : String) (override : Bool) :
    (∃ fault, ¬ IsPlayerName text ∧ register.assignText id text override = .error (.invalidName fault)) ∨
    (IsPlayerName text ∧ register.Taken id text override ∧
      register.assignText id text override = .error .nameTaken) ∨
    ∃ name : PlayerName, name.text = text ∧ ¬ register.Taken id text override ∧
      register.assignText id text override = .ok (register.grant id name) := by
  unfold assignText
  cases accepted : PlayerName.ofText text with
  | error fault =>
    refine .inl ⟨fault, fun valid => ?_, rfl⟩
    obtain ⟨name, same⟩ := (PlayerName.isPlayerName_iff text).mp valid
    rw [accepted] at same
    cases same
  | ok name =>
    have same := (PlayerName.ofText_eq_ok_iff text name).mp accepted
    subst same
    unfold assign
    by_cases taken : register.Taken id name.text override
    · exact .inr (.inl ⟨name.valid, taken, if_pos (any_holder_iff.mpr taken)⟩)
    · exact .inr (.inr ⟨name, rfl, taken, if_neg (mt any_holder_iff.mp taken)⟩)

def Matches {α : Type} (lists : α → Register → Prop) : Except StorageError α → Except StorageError Register → Prop
  | .ok kept, .ok register => lists kept register
  | .error error, .error other => error = other
  | .ok _, .error _ | .error _, .ok _ => False

theorem Matches.of_ok {α : Type} {lists : α → Register → Prop} {outcome : Except StorageError α} {register : Register}
    (alike : Matches lists outcome (.ok register)) : ∃ kept, outcome = .ok kept ∧ lists kept register := by
  cases outcome with
  | error error => exact alike.elim
  | ok kept => exact ⟨kept, rfl, alike⟩

theorem Matches.of_error {α : Type} {lists : α → Register → Prop} {outcome : Except StorageError α}
    {error : StorageError} (alike : Matches lists outcome (.error error)) : outcome = .error error := by
  cases outcome with
  | error other => exact congrArg _ alike
  | ok kept => exact alike.elim

/-- A change to a directory comes out as the change to its register does, unless it cannot be recorded. -/
def Follows {α : Type} (keeps : α → Register → Prop) (register : Register)
    (expected : Except StorageError Register) (recordable : Prop) (result : Except StorageError Unit × α) : Prop :=
  match expected with
  | .error error => result.1 = .error error ∧ keeps result.2 register
  | .ok changed => result.1 = .ok () ∧ keeps result.2 changed ∨
      result.1 = .error .fileFailure ∧ ¬ recordable ∧ keeps result.2 register

theorem Follows.exists_keeps {α : Type} {keeps : α → Register → Prop} {register : Register}
    {expected : Except StorageError Register} {recordable : Prop} {result : Except StorageError Unit × α}
    (follows : Follows keeps register expected recordable result) : ∃ after, keeps result.2 after := by
  cases expected with
  | error error => exact ⟨register, follows.2⟩
  | ok changed =>
    rcases follows with ⟨-, after⟩ | ⟨-, -, before⟩
    · exact ⟨changed, after⟩
    · exact ⟨register, before⟩

theorem Follows.of_recordable {α : Type} {keeps : α → Register → Prop} {register : Register}
    {expected : Except StorageError Register} {recordable : Prop} {result : Except StorageError Unit × α}
    (follows : Follows keeps register expected recordable result) (holds : recordable) :
    result.1 = expected.map (fun _ => ()) ∧ keeps result.2 (expected.toOption.getD register) := by
  cases expected with
  | error error => exact follows
  | ok changed =>
    rcases follows with after | ⟨-, misfit, -⟩
    · exact after
    · exact absurd holds misfit

theorem Follows.agree {α β : Type} {keeps : α → Register → Prop} {keepsToo : β → Register → Prop}
    {register : Register} {expected : Except StorageError Register} {recordable recordableToo : Prop}
    {result : Except StorageError Unit × α} {resultToo : Except StorageError Unit × β}
    (follows : Follows keeps register expected recordable result)
    (followsToo : Follows keepsToo register expected recordableToo resultToo) (holds : recordable)
    (holdsToo : recordableToo) :
    result.1 = resultToo.1 ∧ ∃ next, keeps result.2 next ∧ keepsToo resultToo.2 next := by
  obtain ⟨outcome, kept⟩ := follows.of_recordable holds
  obtain ⟨outcomeToo, keptToo⟩ := followsToo.of_recordable holdsToo
  exact ⟨outcome.trans outcomeToo.symm, _, kept, keptToo⟩

theorem Follows.expected_eq_error {α : Type} {keeps : α → Register → Prop} {register : Register}
    {expected : Except StorageError Register} {recordable : Prop} {result : Except StorageError Unit × α}
    {error : StorageError} (follows : Follows keeps register expected recordable result) (holds : recordable)
    (refused : result.1 = .error error) : expected = .error error := by
  have outcome := (follows.of_recordable holds).1
  rw [refused] at outcome
  cases expected with
  | error other => exact congrArg _ (Except.error.inj outcome).symm
  | ok changed => cases outcome

def Refusal (error : StorageError) : Prop := error = .nameTaken ∨ ∃ fault, error = .invalidName fault

theorem refusal_of_assignText {register : Register} {id : PlayerId} {text : String} {override : Bool}
    {error : StorageError} (refused : register.assignText id text override = .error error) : Refusal error := by
  rcases register.assignText_cases id text override with ⟨fault, -, same⟩ | ⟨-, -, same⟩ | ⟨name, -, -, same⟩
  · rw [same] at refused
    exact .inr ⟨fault, (Except.error.inj refused).symm⟩
  · rw [same] at refused
    exact .inl (Except.error.inj refused).symm
  · rw [same] at refused
    cases refused

theorem refusal_of_assignTexts {register : Register} {entries : List (PlayerId × String)} {error : StorageError}
    (refused : register.assignTexts entries = .error error) : Refusal error := by
  unfold assignTexts at refused
  split at refused
  · next fault _ => exact .inr ⟨fault, (Except.error.inj refused).symm⟩
  · cases refused

structure ReadOut (register : Register) (holder? : String → Except StorageError (Option PlayerId))
    (nameOf? : PlayerId → Except StorageError (Option String)) (names : Except StorageError (List String)) : Prop where
  holder (name : String) : holder? name = .ok (register.holder name)
  name (id : PlayerId) : ∃ held, nameOf? id = .ok held ∧ ∀ name, held = some name ↔ register.holder name = some id
  names : ∃ listed, names = .ok listed ∧ ∀ name, name ∈ listed ↔ (register.holder name).isSome = true

theorem ReadOut.name_eq {register : Register} {holder? holderToo? : String → Except StorageError (Option PlayerId)}
    {nameOf? nameToo? : PlayerId → Except StorageError (Option String)}
    {names namesToo : Except StorageError (List String)} (first : register.ReadOut holder? nameOf? names)
    (second : register.ReadOut holderToo? nameToo? namesToo) (id : PlayerId) : nameOf? id = nameToo? id := by
  obtain ⟨held, read, same⟩ := first.name id
  obtain ⟨heldToo, readToo, sameToo⟩ := second.name id
  rw [read, readToo]
  exact congrArg _ (Option.ext fun name => (same name).trans (sameToo name).symm)

end Register

end Playtime
