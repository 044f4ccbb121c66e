import Playtime.FlatFile
import Playtime.Proofs.FlatObject.Spelling

namespace Playtime

namespace FlatObject

theorem ofList_toList {ν : Type} (members : Members ν) : Std.ExtTreeMap.ofList members.toList compare = members := by
  apply Std.ExtTreeMap.ext_getElem?
  intro key
  cases found : members[key]? with
  | some value =>
    have member := Std.ExtTreeMap.mem_toList_iff_getElem?_eq_some.mpr found
    exact Std.ExtTreeMap.getElem?_ofList_of_mem Std.ReflCmp.compare_self Std.ExtTreeMap.distinct_keys_toList member
  | none =>
    apply Std.ExtTreeMap.getElem?_ofList_of_contains_eq_false
    rw [Std.ExtTreeMap.map_fst_toList_eq_keys, Std.ExtTreeMap.contains_keys,
      ← Std.ExtTreeMap.isSome_getElem?_eq_contains, found]
    rfl

/-- Values that are written as one token each and read back from it. -/
class Legible (ν : Type) [Scalar ν] where
  token : ν → Token
  ofToken?_token (value : ν) : Scalar.ofToken? (token value) = some value
  scan_render (value : ν) (rest : List Char) (ended : rest.head?.any Char.isDigit = false) :
    scan none (Scalar.render value ++ rest) = (scan none rest).map (token value :: ·)

instance : Legible String where
  token value := .text value.toList
  ofToken?_token _ := congrArg some String.ofList_toList
  scan_render value rest _ := scan_quote value rest

instance : Legible Int64 where
  token value := .number (decimal value.toInt)
  ofToken?_token value := integer?_decimal value
  scan_render value := scan_decimal value.toInt

variable {ν : Type} [Scalar ν] [Legible ν]

def memberTokens (member : String × ν) : List Token := [.text member.1.toList, .colon, Legible.token member.2]

def membersTokens : List (String × ν) → List Token
  | [] => []
  | [member] => memberTokens member
  | member :: rest => memberTokens member ++ .comma :: membersTokens rest

theorem scan_renderMember (member : String × ν) (rest : List Char) (ended : rest.head?.any Char.isDigit = false) :
    scan none (renderMember member ++ rest) = (scan none rest).map (memberTokens member ++ ·) := by
  have whole : renderMember member ++ rest =
      ' ' :: ' ' :: (quote member.1 ++ ':' :: ' ' :: (Scalar.render member.2 ++ rest)) := by simp [renderMember]
  have value : scan none (':' :: ' ' :: (Scalar.render member.2 ++ rest)) =
      (scan none rest).map ([.colon, Legible.token member.2] ++ ·) := by
    have blank : scan none (' ' :: (Scalar.render member.2 ++ rest)) = scan none (Scalar.render member.2 ++ rest) := by
      rw [scan.eq_7]
      rfl
    rw [scan.eq_7, blank, Legible.scan_render member.2 rest ended]
    cases scan none rest <;> rfl
  have blanks : scan none (renderMember member ++ rest) =
      scan none (quote member.1 ++ ':' :: ' ' :: (Scalar.render member.2 ++ rest)) := by
    rw [whole, scan.eq_7, scan.eq_7]
    rfl
  rw [blanks, scan_quote, value]
  cases scan none rest <;> rfl

theorem scan_renderMembers (members : List (String × ν)) (rest : List Char)
    (ended : rest.head?.any Char.isDigit = false) :
    scan none (renderMembers members ++ rest) = (scan none rest).map (membersTokens members ++ ·) := by
  induction members with
  | nil => simp [renderMembers, membersTokens]
  | cons member others ih =>
    cases others with
    | nil => exact scan_renderMember member rest ended
    | cons next others =>
      have separated : scan none (',' :: '\n' :: (renderMembers (next :: others) ++ rest)) =
          (scan none rest).map (.comma :: membersTokens (next :: others) ++ ·) := by
        have blank : scan none ('\n' :: (renderMembers (next :: others) ++ rest)) =
            scan none (renderMembers (next :: others) ++ rest) := by
          rw [scan.eq_7]
          rfl
        rw [scan.eq_7, blank, ih]
        cases scan none rest <;> rfl
      have whole : renderMembers (member :: next :: others) ++ rest =
          renderMember member ++ ',' :: '\n' :: (renderMembers (next :: others) ++ rest) := by simp [renderMembers]
      rw [whole, scan_renderMember member _ rfl, separated]
      cases scan none rest <;> simp [membersTokens]

theorem tokens?_render (members : List (String × ν)) :
    tokens? (render members) = some (.opening :: membersTokens members ++ [.closing]) := by
  unfold render
  cases members with
  | nil => rfl
  | cons member others =>
    have filled : ¬(member :: others).isEmpty = true := Bool.false_ne_true
    have ending : scan none ['\n', '\x7d'] = some [.closing] := rfl
    have newline (rest : List Char) : scan none ('\n' :: rest) = scan none rest := by
      rw [scan.eq_7]
      rfl
    rw [if_neg filled, tokens?, List.cons_append, List.cons_append, scan.eq_7, newline, scan_renderMembers _ _ rfl,
      ending]
    rfl

theorem members?_membersTokens (members : List (String × ν)) (some : members ≠ []) :
    members? (membersTokens members ++ [.closing]) = .some members := by
  induction members with
  | nil => exact absurd rfl some
  | cons member others ih =>
    have key : String.ofList member.1.toList = member.1 := String.ofList_toList
    have value := Legible.ofToken?_token member.2
    cases others with
    | nil => simp [membersTokens, memberTokens, members?, key, value]
    | cons next others => simp [membersTokens, memberTokens, members?, key, value, ih]

theorem object?_render (members : List (String × ν)) :
    (tokens? (render members)).bind object? = some members := by
  rw [tokens?_render]
  cases members with
  | nil => rfl
  | cons member others =>
    have read := members?_membersTokens (member :: others) nofun
    have first : ∃ later, membersTokens (member :: others) = .text member.1.toList :: later := by
      cases others <;> exact ⟨_, rfl⟩
    obtain ⟨later, begins⟩ := first
    rw [begins] at read ⊢
    exact read

theorem ofText?_toText (members : Members ν) : ofText? (toText members) = some members := by
  have characters : (toText members).toList = render members.toList := String.toList_ofList
  rw [ofText?, characters, object?_render, Option.map_some, ofList_toList]

theorem ofBytes?_toBytes (members : Members ν) : ofBytes? (toBytes members) = some members := by
  rw [ofBytes?, toBytes, Text.ofUtf8?_toUtf8, Option.bind_some, ofText?_toText]

end FlatObject

namespace FlatFile

open FlatObject

variable {ν : Type} [Scalar ν] [Legible ν]

theorem decode?_toBytes (members : Members ν) : decode? (toBytes members) = some members := by
  have opening : 123 ∈ toBytes members := by
    have begins : ∃ later, render members.toList = '\x7b' :: later := by
      unfold render
      split <;> exact ⟨_, rfl⟩
    obtain ⟨later, begins⟩ := begins
    show 123 ∈ (String.ofList (render members.toList)).toByteArray.data.toList
    have brace : 123 ∈ String.utf8EncodeChar '\x7b' := by decide
    rw [begins, String.toByteArray_ofList, List.utf8Encode_cons, ByteArray.data_append]
    simp [List.utf8Encode, brace]
  have solid : ¬ (toBytes members).all isBlankByte = true := by
    intro blank
    have byte := List.all_eq_true.mp blank 123 opening
    cases byte
  rw [decode?, if_neg solid, ofBytes?_toBytes]

end FlatFile

end Playtime
