import Mathlib.Data.List.Forall2
import Playtime.FlatObject.Basic

namespace Playtime.FlatObject

theorem controlEscape_eq (c : Char) (control : c < ' ') :
    ∃ high low, controlEscape c = ['\\', 'u', '0', '0', high, low] ∧ unit? '0' '0' high low = some c.toNat := by
  have all : ∀ code : Fin 32, controlEscape (Char.ofNat code) =
      ['\\', 'u', '0', '0', Nat.digitChar (code / 16), Nat.digitChar (code % 16)] ∧
        unit? '0' '0' (Nat.digitChar (code / 16)) (Nat.digitChar (code % 16)) = some code.val := by decide
  have found := all ⟨c.toNat, control⟩
  rw [Char.ofNat_toNat] at found
  exact ⟨_, _, found⟩

theorem escape_cases (c : Char) :
    (∃ letter, letter ≠ 'u' ∧ escape c = ['\\', letter] ∧ escaped? letter = some c) ∨
      (c < ' ' ∧ escape c = controlEscape c) ∨ (¬ c < ' ' ∧ c ≠ '"' ∧ c ≠ '\\' ∧ escape c = [c]) := by
  unfold escape
  split
  · exact .inl ⟨'"', by decide, rfl, rfl⟩
  · exact .inl ⟨'\\', by decide, rfl, rfl⟩
  · exact .inl ⟨'b', by decide, rfl, rfl⟩
  · exact .inl ⟨'f', by decide, rfl, rfl⟩
  · exact .inl ⟨'n', by decide, rfl, rfl⟩
  · exact .inl ⟨'r', by decide, rfl, rfl⟩
  · exact .inl ⟨'t', by decide, rfl, rfl⟩
  · next quote backslash _ _ _ _ _ =>
    by_cases control : c < ' '
    · exact .inr (.inl ⟨control, if_pos control⟩)
    · exact .inr (.inr ⟨control, quote, backslash, if_neg control⟩)

inductive Stands : Piece → Char → Prop where
  | char (c : Char) : Stands (.char c) c
  | unit (c : Char) (control : c < ' ') : Stands (.unit c.toNat) c

theorem exists_stands (c : Char) :
    ∃ piece, Stands piece c ∧
      ∀ pieces rest, scan (some pieces) (escape c ++ rest) = scan (some (piece :: pieces)) rest := by
  rcases escape_cases c with ⟨letter, other, short, read⟩ | ⟨control, long⟩ | ⟨visible, quote, backslash, plain⟩
  · refine ⟨.char c, .char c, fun pieces rest => ?_⟩
    rw [short, List.cons_append, List.cons_append, List.nil_append, scan.eq_5 _ _ _ fun _ _ _ _ _ same _ => other same,
      read]
  · obtain ⟨high, low, written, read⟩ := controlEscape_eq c control
    refine ⟨.unit c.toNat, .unit c control, fun pieces rest => ?_⟩
    rw [long, written]
    show scan (some pieces) ('\\' :: 'u' :: '0' :: '0' :: high :: low :: rest) = _
    rw [scan.eq_4, read]
  · refine ⟨.char c, .char c, fun pieces rest => ?_⟩
    rw [plain, List.singleton_append, scan.eq_6 _ _ _ quote (fun _ _ _ _ _ same _ => backslash same)
      (fun _ _ same _ => backslash same), if_neg visible]

theorem exists_pieces (value : List Char) :
    ∃ spelled, List.Forall₂ Stands spelled value ∧ ∀ pieces rest,
      scan (some pieces) (value.flatMap escape ++ rest) = scan (some (spelled.reverse ++ pieces)) rest := by
  induction value with
  | nil => exact ⟨[], .nil, fun _ _ => rfl⟩
  | cons c value ih =>
    obtain ⟨piece, stands, first⟩ := exists_stands c
    obtain ⟨spelled, others, later⟩ := ih
    refine ⟨piece :: spelled, .cons stands others, fun pieces rest => ?_⟩
    rw [List.flatMap_cons, List.append_assoc, first, later, List.reverse_cons, List.append_assoc, List.singleton_append]

theorem join?_of_stands (pieces : List Piece) (value : List Char) (stands : List.Forall₂ Stands pieces value) :
    join? pieces = some value := by
  induction stands with
  | nil => rfl
  | @cons piece c pieces value first others ih =>
    cases first with
    | char => rw [join?.eq_2, ih, Option.map_some]
    | unit _ control =>
      -- A control character is no half of a pair, so it does not matter whether another unit follows.
      have code : c.toNat < 32 := control
      have high : isHighHalf c.toNat = false := by simp [isHighHalf]; omega
      have low : isLowHalf c.toNat = false := by simp [isLowHalf]; omega
      have alone : join? (.unit c.toNat :: pieces) = (join? pieces).map (Char.ofNat c.toNat :: ·) := by
        cases pieces with
        | nil => simp [join?, high, low]
        | cons piece pieces => cases piece <;> simp [join?, high, low]
      rw [alone, ih, Option.map_some, Char.ofNat_toNat]

theorem scan_quote (text : String) (rest : List Char) :
    scan none (quote text ++ rest) = (scan none rest).map (.text text.toList :: ·) := by
  obtain ⟨spelled, stands, read⟩ := exists_pieces text.toList
  have whole : quote text ++ rest = '"' :: (text.toList.flatMap escape ++ '"' :: rest) := by simp [quote]
  have opened : scan none (quote text ++ rest) = scan (some []) (text.toList.flatMap escape ++ '"' :: rest) := by
    rw [whole, scan.eq_7]
    rfl
  rw [opened, read, List.append_nil, scan.eq_3, List.reverse_reverse, join?_of_stands _ _ stands]
  cases scan none rest <;> rfl

theorem joinNumber?_digit (c : Char) (digit : c.isDigit = true) (tokens : List Token) :
    joinNumber? c false tokens = some (.number [c] :: tokens) := by
  have sign : c ≠ '-' := by
    rintro rfl
    cases digit
  unfold joinNumber?
  split
  · rw [if_neg nofun, if_neg sign]
  · rw [if_neg sign]

theorem scan_numeral (c : Char) (numeral : (c.isDigit || decide (c = '-')) = true) (rest : List Char) :
    scan none (c :: rest) = (scan none rest).bind (joinNumber? c (rest.head?.any Char.isDigit)) := by
  have other (d : Char) (plain : (d.isDigit || decide (d = '-')) = false) : c ≠ d := by
    rintro rfl
    cases numeral.symm.trans plain
  have space : isSpace c = false := by
    simp [isSpace, other ' ' rfl, other '\n' rfl, other '\r' rfl, other '\t' rfl]
  rw [scan.eq_7, if_neg (by simp [space]), if_neg (other '"' rfl), if_pos numeral]

theorem scan_digits (digits : List Char) (some : digits ≠ []) (all : ∀ c ∈ digits, c.isDigit = true) (rest : List Char)
    (ended : rest.head?.any Char.isDigit = false) :
    scan none (digits ++ rest) = (scan none rest).map (.number digits :: ·) := by
  induction digits with
  | nil => exact absurd rfl some
  | cons c digits ih =>
    have digit := all c (by simp)
    rw [List.cons_append, scan_numeral c (by simp [digit])]
    cases digits with
    | nil =>
      rw [List.nil_append, ended]
      cases scan none rest with
      | none => rfl
      | some tokens => exact joinNumber?_digit c digit tokens
    | cons next digits =>
      have follows : next.isDigit = true := all next (by simp)
      rw [ih nofun fun other member => all other (List.mem_cons_of_mem c member)]
      cases scan none rest with
      | none => rfl
      | some tokens => simp [joinNumber?, follows]

theorem head?_toDigits (n : Nat) (positive : n ≠ 0) : (Nat.toDigits 10 n).head? ≠ some '0' := by
  induction n using Nat.strongRecOn with
  | _ n ih =>
    by_cases small : n < 10
    · have all : ∀ digit : Fin 10, digit.val ≠ 0 → Nat.digitChar digit ≠ '0' := by decide
      rw [Nat.toDigits_of_lt_base small]
      simpa using all ⟨n, small⟩ positive
    · have tenth : n / 10 ≠ 0 := by omega
      rw [Nat.toDigits_of_base_le (by decide) (by omega), List.head?_append_of_ne_nil _ Nat.toDigits_ne_nil]
      exact ih (n / 10) (by omega) tenth

theorem plainDigits_toDigits (n : Nat) : plainDigits (Nat.toDigits 10 n) = true := by
  unfold plainDigits
  by_cases zero : n = 0
  · subst zero
    rfl
  · simp [head?_toDigits n zero]

theorem integer?_unsigned (digits : List Char) (unsigned : digits.head? ≠ some '-') :
    integer? digits = if plainDigits digits then int64? (Nat.ofDigitChars 10 digits 0 : Int) else none := by
  unfold integer?
  split
  · exact absurd rfl unsigned
  · rfl

theorem head?_toDigits_isDigit (n : Nat) : ∃ c, (Nat.toDigits 10 n).head? = some c ∧ c.isDigit = true := by
  have first := List.head?_eq_some_head (Nat.toDigits_ne_nil (b := 10) (n := n))
  exact ⟨_, first, Nat.isDigit_of_mem_toDigits (by decide) (by decide) (List.mem_of_head? first)⟩

theorem integer?_decimal (value : Int64) : integer? (decimal value.toInt) = some value := by
  have plain := plainDigits_toDigits value.toInt.natAbs
  have read : Nat.ofDigitChars 10 (Nat.toDigits 10 value.toInt.natAbs) 0 = value.toInt.natAbs :=
    Nat.ofDigitChars_toDigits (by decide) (by decide)
  unfold decimal
  split
  · next negative =>
    have nonzero : Nat.toDigits 10 value.toInt.natAbs ≠ ['0'] := by
      intro zero
      exact head?_toDigits value.toInt.natAbs (by omega) (by rw [zero]; rfl)
    show (if _ then _ else _) = _
    rw [if_pos (by simp [plain, nonzero]), read, int64?_eq_some_iff]
    omega
  · next nonnegative =>
    obtain ⟨c, first, digit⟩ := head?_toDigits_isDigit value.toInt.natAbs
    have unsigned : (Nat.toDigits 10 value.toInt.natAbs).head? ≠ some '-' := by
      rw [first]
      rintro same
      cases same
      cases digit
    rw [integer?_unsigned _ unsigned, if_pos plain, read, int64?_eq_some_iff]
    omega

theorem scan_decimal (number : Int) (rest : List Char) (ended : rest.head?.any Char.isDigit = false) :
    scan none (decimal number ++ rest) = (scan none rest).map (.number (decimal number) :: ·) := by
  have digits := scan_digits (Nat.toDigits 10 number.natAbs) Nat.toDigits_ne_nil
    (fun c member => Nat.isDigit_of_mem_toDigits (by decide) (by decide) member) rest ended
  unfold decimal
  split
  · obtain ⟨c, first, digit⟩ := head?_toDigits_isDigit number.natAbs
    have follows : (Nat.toDigits 10 number.natAbs ++ rest).head?.any Char.isDigit = true := by
      rw [List.head?_append, first]
      exact digit
    rw [List.cons_append, scan_numeral '-' rfl, digits, follows]
    cases scan none rest <;> rfl
  · exact digits

end Playtime.FlatObject
