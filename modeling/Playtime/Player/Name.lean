namespace Playtime

inductive NameFault where
  | empty
  | foreignCharacter (text : String)
  | tooLong (text : String)
deriving DecidableEq, Repr

namespace NameFault

def message : NameFault → String
  | empty => "name cannot be empty"
  | foreignCharacter text =>
    "'" ++ text ++ "' contains characters other than letters, digits and underscore"
  | tooLong text => "'" ++ text ++ "' is longer than 16 characters"

end NameFault

def nameLimit : Nat := 16

def isNameCharacter (c : Char) : Bool := c.isAlphanum || c = '_'

def IsPlayerName (text : String) : Prop :=
  text ≠ "" ∧ text.toList.all isNameCharacter ∧ text.length ≤ nameLimit

instance (text : String) : Decidable (IsPlayerName text) := by
  unfold IsPlayerName
  infer_instance

structure PlayerName where
  text : String
  valid : IsPlayerName text

namespace PlayerName

/-- Accepts a player name; of several faults the empty text comes first and the length last. -/
def ofText (text : String) : Except NameFault PlayerName :=
  if filled : text = "" then .error .empty
  else if plain : text.toList.all isNameCharacter then
    if short : text.length ≤ nameLimit then .ok ⟨text, filled, plain, short⟩
    else .error (.tooLong text)
  else .error (.foreignCharacter text)

theorem ofText_eq_ok_iff (text : String) (name : PlayerName) :
    ofText text = .ok name ↔ name.text = text := by
  unfold ofText
  obtain ⟨stored, filled, plain, short⟩ := name
  constructor
  · intro accepted
    split at accepted
    · cases accepted
    · split at accepted
      · split at accepted
        · cases accepted
          rfl
        · cases accepted
      · cases accepted
  · rintro rfl
    simp [filled, plain, short]

def acceptAll {α : Type} : List (α × String) → Except NameFault (List (α × PlayerName))
  | [] => .ok []
  | (key, text) :: rest =>
    match ofText text with
    | .error fault => .error fault
    | .ok name => (acceptAll rest).map fun others => (key, name) :: others

end PlayerName

end Playtime
