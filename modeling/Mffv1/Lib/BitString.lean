import Mffv1.Lib.ByteValue

/-!
# Byte strings as bit strings

The bits of a byte string, most significant first, and bit strings as numbers.
-/
namespace BitString

def byteBits (byte : UInt8) : List Bool :=
  [7, 6, 5, 4, 3, 2, 1, 0].map byte.toNat.testBit

def bits (bytes : List UInt8) : List Bool := bytes.flatMap byteBits

def number (bs : List Bool) : Nat := bs.foldl (fun v b => 2 * v + b.toNat) 0

/-- The `count` low bits of a number, most significant first. -/
def ofNumber (v : Nat) : (count : Nat) → List Bool
  | 0 => []
  | count + 1 => v.testBit count :: ofNumber v count

@[simp] theorem number_nil : number [] = 0 := rfl

@[simp] theorem number_append_singleton (bs : List Bool) (b : Bool) :
    number (bs ++ [b]) = 2 * number bs + b.toNat := by
  simp [number]

theorem number_append (xs ys : List Bool) :
    number (xs ++ ys) = number xs * 2 ^ ys.length + number ys := by
  induction ys using List.reverseRecOn with
  | nil => simp
  | append_singleton ys b ih =>
    rw [← List.append_assoc, number_append_singleton, number_append_singleton, ih,
      List.length_append, List.length_singleton, pow_succ]
    ring

theorem number_cons (b : Bool) (bs : List Bool) :
    number (b :: bs) = b.toNat * 2 ^ bs.length + number bs := by
  rw [show b :: bs = [b] ++ bs from rfl, number_append]
  simp [number]

@[simp] theorem ofNumber_length (v count : Nat) : (ofNumber v count).length = count := by
  induction count with
  | zero => rfl
  | succ count ih => rw [ofNumber, List.length_cons, ih]

theorem number_ofNumber (v count : Nat) : number (ofNumber v count) = v % 2 ^ count := by
  induction count with
  | zero => simp [ofNumber, Nat.mod_one]
  | succ count ih =>
    rw [ofNumber, number_cons, ofNumber_length, ih, Nat.mod_pow_succ, Nat.toNat_testBit]
    ring

@[simp] theorem byteBits_length (byte : UInt8) : (byteBits byte).length = 8 := rfl

theorem byteBits_eq (byte : UInt8) : byteBits byte = ofNumber byte.toNat 8 := rfl

theorem number_byteBits (byte : UInt8) : number (byteBits byte) = byte.toNat := by
  rw [byteBits_eq, number_ofNumber, Nat.mod_eq_of_lt byte.toNat_lt]

@[simp] theorem bits_nil : bits [] = [] := rfl

theorem bits_append (xs ys : List UInt8) : bits (xs ++ ys) = bits xs ++ bits ys := by
  simp [bits]

theorem bits_cons (byte : UInt8) (bytes : List UInt8) :
    bits (byte :: bytes) = byteBits byte ++ bits bytes := rfl

@[simp] theorem bits_length (bytes : List UInt8) : (bits bytes).length = 8 * bytes.length := by
  induction bytes with
  | nil => rfl
  | cons byte bytes ih =>
    rw [bits_cons, List.length_append, ih, byteBits_length, List.length_cons]
    omega

theorem number_bits (bytes : List UInt8) : number (bits bytes) = ByteValue.value bytes := by
  induction bytes with
  | nil => rfl
  | cons byte bytes ih =>
    rw [bits_cons, number_append, ih, number_byteBits, ByteValue.value_cons, bits_length, pow_mul]
    norm_num

theorem bits_take (bytes : List UInt8) (n : Nat) : bits (bytes.take n) = (bits bytes).take (8 * n) := by
  induction bytes generalizing n with
  | nil => simp
  | cons byte bytes ih =>
    cases n with
    | zero => simp
    | succ n =>
      have hlen : 8 * (n + 1) = (byteBits byte).length + 8 * n := by
        rw [byteBits_length]
        omega
      rw [List.take_succ_cons, bits_cons, bits_cons, ih, hlen, List.take_length_add_append]

theorem bits_drop (bytes : List UInt8) (n : Nat) : bits (bytes.drop n) = (bits bytes).drop (8 * n) := by
  induction bytes generalizing n with
  | nil => simp
  | cons byte bytes ih =>
    cases n with
    | zero => simp
    | succ n =>
      have hlen : 8 * (n + 1) = (byteBits byte).length + 8 * n := by
        rw [byteBits_length]
        omega
      rw [List.drop_succ_cons, bits_cons, ih, hlen, List.drop_length_add_append]

/-- The bit at a position, from its byte. -/
theorem bits_getElem? (bytes : List UInt8) (i : Nat) :
    (bits bytes)[i]? = bytes[i / 8]?.map fun byte => byte.toNat.testBit (7 - i % 8) := by
  induction bytes generalizing i with
  | nil => simp
  | cons byte bytes ih =>
    rw [bits_cons]
    by_cases h : i < 8
    · rw [List.getElem?_append_left (by simpa using h), Nat.div_eq_of_lt h, Nat.mod_eq_of_lt h]
      match i, h with
      | 0, _ | 1, _ | 2, _ | 3, _ | 4, _ | 5, _ | 6, _ | 7, _ => rfl
    · rw [List.getElem?_append_right (by simp; omega), byteBits_length, ih]
      have hdiv : i / 8 = (i - 8) / 8 + 1 := by omega
      have hmod : (i - 8) % 8 = i % 8 := by omega
      rw [hdiv, hmod, List.getElem?_cons_succ]

end BitString
