import Playtime.Proofs.Names.Calls
import Playtime.Proofs.Sessions.Calls

namespace Playtime.Backend

variable {state : Backend × Host} {register : Register}

theorem setName_cases (keeps : KeepsNames state register) (id : PlayerId) (text : String) (override : Bool) :
    let result := state.1.setName state.2 id text override
    (∃ fault, ¬ IsPlayerName text ∧ result.1 = .error (.invalidName fault) ∧ KeepsNames result.2 register) ∨
    (IsPlayerName text ∧ register.Taken id text override ∧ result.1 = .error .nameTaken ∧
      KeepsNames result.2 register) ∨
    ∃ name : PlayerName, name.text = text ∧ ¬ register.Taken id text override ∧
      (result.1 = .ok () ∧ KeepsNames result.2 (register.grant id name) ∨
        result.1 = .error .fileFailure ∧ ¬ NamesRecordable state ∧ KeepsNames result.2 register) := by
  intro result
  have follows : Register.Follows KeepsNames register (register.assignText id text override) (NamesRecordable state)
      result := follows_setName keeps id text override
  rcases register.assignText_cases id text override with ⟨fault, misfit, expected⟩ | ⟨valid, taken, expected⟩ |
    ⟨name, same, free, expected⟩
  · rw [expected] at follows
    exact .inl ⟨fault, misfit, follows⟩
  · rw [expected] at follows
    exact .inr (.inl ⟨valid, taken, follows⟩)
  · rw [expected] at follows
    exact .inr (.inr ⟨name, same, free, follows⟩)

/--
After any changes of an empty directory, refused ones and lost ones among them, every lookup succeeds, a player holds a
name exactly if it is the player's name, the names listed are those that someone holds, and they are player names. A
text that is no player name cannot be given, and without override neither can a name that another player holds; any
other name is given if the change can be recorded. Then the player and the name belong to each other alone and all other
pairs are as before, and if the name is not given, all pairs are.
-/
theorem directory_is_bijection (start : Backend × Host) (calls : List NameCall) (vacant : Vacant start) :
    let reached := after start calls
    (∀ name, ∃ held, reached.1.holder? reached.2 name = .ok held) ∧
    (∀ id, ∃ held, reached.1.nameOf? reached.2 id = .ok held) ∧
    (∀ id name, Holds reached id name ↔ reached.1.nameOf? reached.2 id = .ok (some name)) ∧
    (∃ listed, reached.1.names reached.2 = .ok listed ∧ ∀ name, name ∈ listed ↔ ∃ id, Holds reached id name) ∧
    (∀ id name, Holds reached id name → IsPlayerName name) ∧
    ∀ id text override,
      let result := reached.1.setName reached.2 id text override
      let taken := override = false ∧ ∃ other, other ≠ id ∧ Holds reached other text
      ((∃ fault, result.1 = .error (.invalidName fault)) ↔ ¬ IsPlayerName text) ∧
      (result.1 = .error .nameTaken ↔ IsPlayerName text ∧ taken) ∧
      (IsPlayerName text → ¬ taken →
        result.1 = .ok () ∨ result.1 = .error .fileFailure ∧ ¬ NamesRecordable reached) ∧
      (result.1 = .ok () → ∀ other name, Holds result.2 other name ↔
        other = id ∧ name = text ∨ other ≠ id ∧ name ≠ text ∧ Holds reached other name) ∧
      (result.1 ≠ .ok () → ∀ other name, Holds result.2 other name ↔ Holds reached other name) := by
  intro reached
  obtain ⟨register, keeps⟩ : ∃ register, KeepsNames reached register := keepsNames_after vacant.keepsNames calls
  have reads := readOut keeps
  have held := holds_iff keeps
  refine ⟨fun name => ⟨_, reads.holder name⟩, fun id => ?_, fun id name => ?_, ?_, fun id name pair => ?_, ?_⟩
  · obtain ⟨name, found, -⟩ := reads.name id
    exact ⟨name, found⟩
  · obtain ⟨found, read, same⟩ := reads.name id
    rw [held, read, ← same, Except.ok.injEq]
  · obtain ⟨listed, read, members⟩ := reads.names
    refine ⟨listed, read, fun name => ?_⟩
    simp only [members, held, Option.isSome_iff_exists]
  · exact register.named ((held id name).mp pair)
  · intro id text override result taken
    have same : taken ↔ register.Taken id text override := by simp only [taken, Register.Taken, held]
    rw [same]
    have unchanged (kept : KeepsNames result.2 register) (other : PlayerId) (name : String) :
        Holds result.2 other name ↔ Holds reached other name := (holds_iff kept other name).trans (held other name).symm
    rcases setName_cases keeps id text override with ⟨fault, misfit, refused, kept⟩ | ⟨valid, busy, refused, kept⟩ |
      ⟨name, rfl, free, ⟨done, kept⟩ | ⟨lost, misfit, kept⟩⟩
    · change result.1 = _ at refused
      simp [refused, misfit, unchanged kept]
    · change result.1 = _ at refused
      simp [refused, valid, busy, unchanged kept]
    · change result.1 = _ at done
      have granted (other : PlayerId) (text : String) : Holds result.2 other text ↔
          other = id ∧ text = name.text ∨ other ≠ id ∧ text ≠ name.text ∧ Holds reached other text := by
        refine (holds_iff kept other text).trans (Register.granted_eq_some.trans ?_)
        rw [held, and_comm, and_left_comm]
      simp [done, name.valid, free, granted]
    · change result.1 = _ at lost
      simp [lost, name.valid, free, misfit, unchanged kept]

/-- A rename is lost as the disk refuses the new file; the old name then goes to another player. -/
theorem directory_is_bijection_past_lost_rename :
    let ann : PlayerId := ⟨1⟩
    let ben : PlayerId := ⟨2⟩
    let start : Backend × Host := (files ⟨["names.json"], ∅, true⟩ ⟨["time.json"], ∅, true⟩,
      ⟨⟨∅, [.none, .none, .refused]⟩, [], 0⟩)
    let reached := after start [.set ann "Ann" false, .set ann "Ben" false]
    let result := reached.1.setName reached.2 ben "Ann" true
    reached.1.nameOf? reached.2 ann = .ok (some "Ann") ∧ result.1 = .ok () ∧ Holds result.2 ben "Ann" ∧
      ∀ name, ¬ Holds result.2 ann name := by
  intro ann ben start reached result
  obtain ⟨-, -, inverse, -, -, changes⟩ :=
    directory_is_bijection start [.set ann "Ann" false, .set ann "Ben" false] ⟨rfl, rfl⟩
  have held : Holds reached ann "Ann" := by decide +kernel
  have done : result.1 = .ok () := Sessions.isOk_iff.mp (by decide +kernel)
  obtain ⟨-, -, -, granted, -⟩ := changes ben "Ann" true
  refine ⟨(inverse ann "Ann").mp held, done, (granted done ben "Ann").mpr (.inl ⟨rfl, rfl⟩), fun name still => ?_⟩
  rcases (granted done ann name).mp still with ⟨same, -⟩ | ⟨-, differs, before⟩
  · exact absurd same (by decide)
  · have first := (inverse ann name).mp before
    rw [(inverse ann "Ann").mp held] at first
    exact differs (Option.some.inj (Except.ok.inj first)).symm

end Playtime.Backend
