import Playtime.Bytes.BigEndian
import Playtime.Bytes.Hex

namespace Playtime

structure PlayerId where
  bits : BitVec 128
deriving DecidableEq, Repr, Inhabited

namespace PlayerId

instance : Ord PlayerId := ⟨compareOn PlayerId.bits⟩

instance : Std.TransOrd PlayerId := inferInstanceAs (Std.TransCmp (compareOn PlayerId.bits))

instance : Std.LawfulEqOrd PlayerId where
  eq_of_compare {x y} same := by
    cases x
    cases y
    exact congrArg PlayerId.mk (Std.LawfulEqOrd.eq_of_compare (α := BitVec 128) same)

def toBytes (id : PlayerId) : List UInt8 := BigEndian.digits 16 id.bits.toNat

def ofBytes? (bytes : List UInt8) : Option PlayerId :=
  if bytes.length = 16 then some ⟨BitVec.ofNat 128 (BigEndian.value bytes)⟩ else none

def hyphenate (digits : List Char) : List Char :=
  digits.take 8 ++ '-' :: (digits.drop 8).take 4 ++ '-' :: (digits.drop 12).take 4 ++
    '-' :: (digits.drop 16).take 4 ++ '-' :: digits.drop 20

def toText (id : PlayerId) : String := String.ofList (hyphenate (Hex.encode id.toBytes))

def ofDigits? (digits : List Char) : Option PlayerId := (Hex.decode? digits).bind ofBytes?

/-- Reads a hyphenated text: one that grouping its own 32 digits gives back. -/
def ofHyphenated? (text : List Char) : Option PlayerId :=
  let digits := text.filter (· ≠ '-')
  if digits.length = 32 ∧ hyphenate digits = text then ofDigits? digits else none

def resourceNameOpening : List Char := "urn:uuid:".toList

/--
Reads any of the four spellings of an identifier: 32 digits, the hyphenated text, the hyphenated text in
braces, and the hyphenated text as a resource name. Digits may have either case.
-/
def ofText? (text : String) : Option PlayerId :=
  let cs := text.toList
  if cs.length = 32 then ofDigits? cs
  else if cs.length = 36 then ofHyphenated? cs
  else if cs.length = 38 then
    if cs.head? = some '\x7b' ∧ cs.getLast? = some '\x7d' then ofHyphenated? cs.tail.dropLast else none
  else if cs.length = 45 then
    if cs.take 9 = resourceNameOpening then ofHyphenated? (cs.drop 9) else none
  else none

@[simp] theorem length_toBytes (id : PlayerId) : id.toBytes.length = 16 := by simp [toBytes]

theorem ofBytes?_toBytes (id : PlayerId) : ofBytes? id.toBytes = some id := by
  obtain ⟨bits⟩ := id
  have fits : bits.toNat < BigEndian.weight 16 := bits.isLt
  rw [ofBytes?, if_pos (length_toBytes _), toBytes, BigEndian.value_digits 16 _ fits, BitVec.ofNat_toNat,
    BitVec.setWidth_eq]

theorem toBytes_of_ofBytes? {bytes : List UInt8} {id : PlayerId} (read : ofBytes? bytes = some id) :
    id.toBytes = bytes := by
  unfold ofBytes? at read
  split at read
  · next sixteen =>
    cases read
    have fits := BigEndian.value_lt bytes
    rw [sixteen] at fits
    have same : (BitVec.ofNat 128 (BigEndian.value bytes)).toNat = BigEndian.value bytes := by
      rw [BitVec.toNat_ofNat]
      exact Nat.mod_eq_of_lt fits
    rw [toBytes, same, ← sixteen, BigEndian.digits_value]
  · cases read

theorem toBytes_inj {x y : PlayerId} : x.toBytes = y.toBytes ↔ x = y := by
  refine ⟨fun same => ?_, congrArg toBytes⟩
  have read := ofBytes?_toBytes x
  rw [same, ofBytes?_toBytes] at read
  exact (Option.some.inj read).symm

theorem join_groups (digits : List Char) :
    digits.take 8 ++ ((digits.drop 8).take 4 ++ ((digits.drop 12).take 4 ++
      ((digits.drop 16).take 4 ++ digits.drop 20))) = digits := by
  rw [show digits.drop 20 = (digits.drop 16).drop 4 by rw [List.drop_drop], List.take_append_drop,
    show digits.drop 16 = (digits.drop 12).drop 4 by rw [List.drop_drop], List.take_append_drop,
    show digits.drop 12 = (digits.drop 8).drop 4 by rw [List.drop_drop], List.take_append_drop,
    List.take_append_drop]

theorem filter_hyphenate (digits : List Char) (plain : ∀ c ∈ digits, c ≠ '-') :
    (hyphenate digits).filter (· ≠ '-') = digits := by
  have group : ∀ part : List Char, part ⊆ digits → part.filter (· ≠ '-') = part := by
    intro part inside
    rw [List.filter_eq_self]
    intro c member
    exact decide_eq_true (plain c (inside member))
  have hyphen : decide ('-' ≠ '-') = false := by decide
  simp only [hyphenate, List.filter_append, List.filter_cons, hyphen, Bool.false_eq_true, if_false]
  rw [group _ (List.take_subset _ _), group _ (List.drop_subset _ _),
    group _ (fun c member => List.drop_subset _ _ (List.take_subset _ _ member)),
    group _ (fun c member => List.drop_subset _ _ (List.take_subset _ _ member)),
    group _ (fun c member => List.drop_subset _ _ (List.take_subset _ _ member))]
  simp only [List.append_assoc]
  exact join_groups digits

theorem length_hyphenate (digits : List Char) (full : digits.length = 32) :
    (hyphenate digits).length = 36 := by
  simp only [hyphenate, List.length_append, List.length_cons, List.length_take, List.length_drop]
  omega

theorem ofText?_toText (id : PlayerId) : ofText? id.toText = some id := by
  have full : (Hex.encode id.toBytes).length = 32 := by simp
  have plain := filter_hyphenate (Hex.encode id.toBytes) (fun c member => Hex.ne_hyphen_of_mem_encode member)
  have length := length_hyphenate _ full
  simp only [ofText?, toText, String.toList_ofList, length, Nat.reduceEqDiff, if_false, if_true]
  rw [ofHyphenated?, plain, if_pos ⟨full, rfl⟩, ofDigits?, Hex.decode?_encode]
  exact ofBytes?_toBytes id

theorem toText_inj {x y : PlayerId} : x.toText = y.toText ↔ x = y := by
  refine ⟨fun same => ?_, congrArg toText⟩
  have read := ofText?_toText x
  rw [same, ofText?_toText] at read
  exact (Option.some.inj read).symm

end PlayerId

end Playtime
