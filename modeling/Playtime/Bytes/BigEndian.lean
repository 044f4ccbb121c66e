namespace Playtime.BigEndian

def weight : Nat → Nat
  | 0 => 1
  | count + 1 => 256 * weight count

theorem weight_pos (count : Nat) : 0 < weight count := by
  induction count with
  | zero => decide
  | succ count ih => exact Nat.mul_pos (by decide) ih

def digits : (count : Nat) → (number : Nat) → List UInt8
  | 0, _ => []
  | count + 1, number => UInt8.ofNat (number / weight count) :: digits count (number % weight count)

def value : List UInt8 → Nat
  | [] => 0
  | digit :: rest => digit.toNat * weight rest.length + value rest

@[simp] theorem length_digits (count number : Nat) : (digits count number).length = count := by
  induction count generalizing number with
  | zero => rfl
  | succ count ih => simp [digits, ih]

theorem value_lt (bytes : List UInt8) : value bytes < weight bytes.length := by
  induction bytes with
  | nil => decide
  | cons digit rest ih =>
    have digit_lt := digit.toNat_lt
    have step : (digit.toNat + 1) * weight rest.length ≤ 256 * weight rest.length :=
      Nat.mul_le_mul_right _ (by omega)
    simp only [value, List.length_cons, weight]
    rw [Nat.add_mul] at step
    omega

theorem value_digits (count number : Nat) (fits : number < weight count) :
    value (digits count number) = number := by
  induction count generalizing number with
  | zero =>
    simp only [weight] at fits
    simp only [digits, value]
    omega
  | succ count ih =>
    have positive : 0 < weight count := weight_pos _
    have head : number / weight count < 256 := by
      rw [Nat.div_lt_iff_lt_mul positive]
      rw [weight] at fits
      omega
    simp only [digits, value, length_digits, UInt8.toNat_ofNat']
    rw [ih _ (Nat.mod_lt _ positive), Nat.mod_eq_of_lt (by omega)]
    rw [Nat.mul_comm]
    exact Nat.div_add_mod number (weight count)

theorem digits_value (bytes : List UInt8) : digits bytes.length (value bytes) = bytes := by
  induction bytes with
  | nil => rfl
  | cons digit rest ih =>
    have rest_lt := value_lt rest
    have positive : 0 < weight rest.length := weight_pos _
    have head : (digit.toNat * weight rest.length + value rest) / weight rest.length = digit.toNat := by
      rw [Nat.add_comm, Nat.add_mul_div_right _ _ positive, Nat.div_eq_of_lt rest_lt, Nat.zero_add]
    have tail : (digit.toNat * weight rest.length + value rest) % weight rest.length = value rest := by
      rw [Nat.add_comm, Nat.add_mul_mod_self_right, Nat.mod_eq_of_lt rest_lt]
    simp only [value, List.length_cons, digits, head, tail, ih, UInt8.ofNat_toNat]

end Playtime.BigEndian
