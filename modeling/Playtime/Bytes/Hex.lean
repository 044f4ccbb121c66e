namespace Playtime.Hex

def digit (nibble : Nat) : Char :=
  if nibble < 10 then Char.ofNat (nibble + 48) else Char.ofNat (nibble + 87)

def digitValue? (c : Char) : Option Nat :=
  if '0' ≤ c ∧ c ≤ '9' then some (c.toNat - 48)
  else if 'a' ≤ c ∧ c ≤ 'f' then some (c.toNat - 87)
  else if 'A' ≤ c ∧ c ≤ 'F' then some (c.toNat - 55)
  else none

def encode : List UInt8 → List Char
  | [] => []
  | byte :: rest => digit (byte.toNat / 16) :: digit (byte.toNat % 16) :: encode rest

def decode? : List Char → Option (List UInt8)
  | [] => some []
  | [_] => none
  | high :: low :: rest =>
    match digitValue? high, digitValue? low, decode? rest with
    | some h, some l, some bytes => some (UInt8.ofNat (16 * h + l) :: bytes)
    | _, _, _ => none

theorem digitValue?_digit (nibble : Nat) (small : nibble < 16) :
    digitValue? (digit nibble) = some nibble := by
  have table : ∀ n : Fin 16, digitValue? (digit n.val) = some n.val := by decide
  exact table ⟨nibble, small⟩

@[simp] theorem length_encode (bytes : List UInt8) : (encode bytes).length = 2 * bytes.length := by
  induction bytes with
  | nil => rfl
  | cons byte rest ih =>
    simp only [encode, List.length_cons, ih]
    omega

theorem ne_hyphen_of_mem_encode {bytes : List UInt8} {c : Char} (member : c ∈ encode bytes) : c ≠ '-' := by
  have table : ∀ n : Fin 16, digit n.val ≠ '-' := by decide
  induction bytes with
  | nil => cases member
  | cons byte rest ih =>
    have byte_lt := byte.toNat_lt
    simp only [encode, List.mem_cons] at member
    rcases member with rfl | rfl | member
    · exact table ⟨byte.toNat / 16, by omega⟩
    · exact table ⟨byte.toNat % 16, by omega⟩
    · exact ih member

theorem decode?_encode (bytes : List UInt8) : decode? (encode bytes) = some bytes := by
  induction bytes with
  | nil => rfl
  | cons byte rest ih =>
    have byte_lt := byte.toNat_lt
    rw [encode, decode?, digitValue?_digit _ (by omega), digitValue?_digit _ (by omega), ih]
    simp only [Nat.div_add_mod, UInt8.ofNat_toNat]

end Playtime.Hex
