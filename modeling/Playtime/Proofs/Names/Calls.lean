import Playtime.Proofs.Names.Backends

namespace Playtime.Backend

/-- A batch lists its entries in the order in which they are processed. -/
inductive NameCall where
  | set (id : PlayerId) (text : String) (override : Bool)
  | setAll (entries : List (PlayerId × String))
  | holder (name : String)
  | name (id : PlayerId)
  | names
deriving DecidableEq, Repr

inductive NameAnswer where
  | done
  | holder (id : Option PlayerId)
  | name (text : Option String)
  | names (listed : Std.ExtTreeSet String compare)

def act (state : Backend × Host) : NameCall → Except StorageError NameAnswer × Backend × Host
  | .set id text override =>
    match state.1.setName state.2 id text override with
    | (outcome, after) => (outcome.map fun _ => .done, after)
  | .setAll entries =>
    match state.1.setNames state.2 entries with
    | (outcome, after) => (outcome.map fun _ => .done, after)
  | .holder name => ((state.1.holder? state.2 name).map .holder, state)
  | .name id => ((state.1.nameOf? state.2 id).map .name, state)
  | .names => ((state.1.names state.2).map fun listed => .names (.ofList listed), state)

def after (state : Backend × Host) : List NameCall → Backend × Host
  | [] => state
  | call :: later => after (act state call).2 later

def answers (state : Backend × Host) : List NameCall → List (Except StorageError NameAnswer)
  | [] => []
  | call :: later => (act state call).1 :: answers (act state call).2 later

theorem keepsNames_act {state : Backend × Host} {register : Register} (keeps : KeepsNames state register)
    (call : NameCall) : ∃ next, KeepsNames (act state call).2 next := by
  cases call with
  | set id text override => exact (follows_setName keeps id text override).exists_keeps
  | setAll entries => exact (follows_setNames keeps entries).exists_keeps
  | holder name => exact ⟨register, keeps⟩
  | name id => exact ⟨register, keeps⟩
  | names => exact ⟨register, keeps⟩

theorem keepsNames_after {state : Backend × Host} {register : Register} (keeps : KeepsNames state register)
    (calls : List NameCall) : ∃ next, KeepsNames (after state calls) next := by
  induction calls generalizing state register with
  | nil => exact ⟨register, keeps⟩
  | cons call later ih =>
    obtain ⟨next, kept⟩ := keepsNames_act keeps call
    exact ih kept

end Playtime.Backend
