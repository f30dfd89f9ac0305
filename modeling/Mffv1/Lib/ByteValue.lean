import Mathlib.Data.List.GetD
import Mathlib.Data.List.Induction
import Mathlib.Tactic.Linarith
import Mathlib.Tactic.Ring

/-!
# Byte strings as big-endian numbers

`value` reads a byte string as a number, `prefixValue` reads its first `n`
bytes, continued by zeros past the end. A carry that ripples through the string
from its last byte is addition on values.
-/
namespace ByteValue

def value (bytes : List UInt8) : Nat :=
  bytes.foldl (fun v b => 256 * v + b.toNat) 0

@[simp] theorem value_nil : value [] = 0 := rfl

@[simp] theorem value_append_singleton (bytes : List UInt8) (b : UInt8) :
    value (bytes ++ [b]) = 256 * value bytes + b.toNat := by
  simp [value]

theorem value_append (xs ys : List UInt8) :
    value (xs ++ ys) = value xs * 256 ^ ys.length + value ys := by
  induction ys using List.reverseRecOn with
  | nil => simp
  | append_singleton ys b ih =>
    rw [← List.append_assoc, value_append_singleton, value_append_singleton, ih,
      List.length_append, List.length_singleton, pow_succ]
    ring

theorem value_cons (b : UInt8) (bytes : List UInt8) :
    value (b :: bytes) = b.toNat * 256 ^ bytes.length + value bytes := by
  rw [show b :: bytes = [b] ++ bytes from rfl, value_append]
  simp [value]

theorem value_lt (bytes : List UInt8) : value bytes < 256 ^ bytes.length := by
  induction bytes using List.reverseRecOn with
  | nil => simp
  | append_singleton bytes b ih =>
    have hb := b.toNat_lt
    rw [value_append_singleton, List.length_append, List.length_singleton, pow_succ]
    omega

theorem value_singleton_at {bytes : List UInt8} {i : Nat} (h : i < bytes.length) :
    value ((bytes.drop i).take 1) = (bytes.getD i 0).toNat := by
  rw [List.drop_eq_getElem_cons h, List.take_succ_cons, List.take_zero, List.getD_eq_getElem _ _ h]
  simp [value]

/-- Strings of one length are determined by their values. -/
theorem value_injective {xs ys : List UInt8} (hl : xs.length = ys.length)
    (hv : value xs = value ys) : xs = ys := by
  induction xs generalizing ys with
  | nil => exact (List.length_eq_zero_iff.mp hl.symm).symm
  | cons x xs ih =>
    cases ys with
    | nil => simp at hl
    | cons y ys =>
      have hl' : xs.length = ys.length := by simpa using hl
      rw [value_cons, value_cons, hl'] at hv
      have hx := hl' ▸ value_lt xs
      have hy := value_lt ys
      have hp : 0 < 256 ^ ys.length := by positivity
      have hxy : x.toNat = y.toNat := by
        have h₁ := congrArg (· / 256 ^ ys.length) hv
        simpa only [Nat.mul_comm _ (256 ^ ys.length), Nat.mul_add_div hp, Nat.div_eq_of_lt hx,
          Nat.div_eq_of_lt hy, Nat.add_zero] using h₁
      rw [hxy] at hv
      rw [UInt8.toNat_inj.mp hxy, ih hl' (by omega)]

/-- The first `n` bytes of `bytes`, continued by zeros. -/
def prefixValue (bytes : List UInt8) : Nat → Nat
  | 0 => 0
  | n + 1 => 256 * prefixValue bytes n + (bytes.getD n 0).toNat

@[simp] theorem prefixValue_zero (bytes : List UInt8) : prefixValue bytes 0 = 0 := rfl

theorem prefixValue_succ (bytes : List UInt8) (n : Nat) :
    prefixValue bytes (n + 1) = 256 * prefixValue bytes n + (bytes.getD n 0).toNat := rfl

theorem prefixValue_congr {xs ys : List UInt8} {n : Nat}
    (h : ∀ i < n, xs.getD i 0 = ys.getD i 0) : prefixValue xs n = prefixValue ys n := by
  induction n with
  | zero => rfl
  | succ n ih =>
    rw [prefixValue_succ, prefixValue_succ, ih (fun i hi => h i (by omega)), h n (by omega)]

theorem prefixValue_append (xs ys : List UInt8) {n : Nat} (h : n ≤ xs.length) :
    prefixValue (xs ++ ys) n = prefixValue xs n :=
  prefixValue_congr fun i hi => by
    rw [List.getD_append _ _ _ _ (by omega)]

theorem prefixValue_length (bytes : List UInt8) :
    prefixValue bytes bytes.length = value bytes := by
  induction bytes using List.reverseRecOn with
  | nil => rfl
  | append_singleton bytes b ih =>
    rw [List.length_append, List.length_singleton, prefixValue_succ,
      prefixValue_append _ _ (Nat.le_refl _), ih, value_append_singleton]
    simp

/-- Zeros at the end are not seen by `prefixValue`. -/
theorem prefixValue_dropZero (bytes : List UInt8) (n : Nat) :
    prefixValue (bytes ++ [0]) n = prefixValue bytes n :=
  prefixValue_congr fun i _ => by
    by_cases hlt : i < bytes.length
    · rw [List.getD_append _ _ _ _ hlt]
    · rw [List.getD_append_right _ _ _ _ (by omega), List.getD_eq_default bytes 0 (by omega)]
      cases i - bytes.length <;> rfl

/-- Adds `carry` into the last byte and ripples what overflows to the front;
the second component is what is left over at the front. -/
def addCarry : List UInt8 → Nat → List UInt8 × Nat
  | [], carry => ([], carry)
  | b :: bytes, carry =>
    let rest := addCarry bytes carry
    ((b.toNat + rest.2 % 256).toUInt8 :: rest.1, rest.2 / 256 + (b.toNat + rest.2 % 256) / 256)

@[simp] theorem addCarry_length (bytes : List UInt8) (carry : Nat) :
    (addCarry bytes carry).1.length = bytes.length := by
  induction bytes with
  | nil => rfl
  | cons b bytes ih => simp [addCarry, ih]

theorem addCarry_value (bytes : List UInt8) (carry : Nat) :
    value (addCarry bytes carry).1 + (addCarry bytes carry).2 * 256 ^ bytes.length =
      value bytes + carry := by
  induction bytes with
  | nil => simp [addCarry]
  | cons b bytes ih =>
    simp only [addCarry, value_cons, addCarry_length, List.length_cons, pow_succ]
    have hb : ((b.toNat + (addCarry bytes carry).2 % 256).toUInt8).toNat =
        (b.toNat + (addCarry bytes carry).2 % 256) % 256 := by simp
    rw [hb]
    have hsplit : (b.toNat + (addCarry bytes carry).2 % 256) % 256 +
        ((addCarry bytes carry).2 / 256 + (b.toNat + (addCarry bytes carry).2 % 256) / 256) * 256 =
          b.toNat + (addCarry bytes carry).2 := by omega
    calc (b.toNat + (addCarry bytes carry).2 % 256) % 256 * 256 ^ bytes.length +
          value (addCarry bytes carry).1 +
          ((addCarry bytes carry).2 / 256 + (b.toNat + (addCarry bytes carry).2 % 256) / 256) *
            (256 ^ bytes.length * 256)
        = ((b.toNat + (addCarry bytes carry).2 % 256) % 256 +
            ((addCarry bytes carry).2 / 256 + (b.toNat + (addCarry bytes carry).2 % 256) / 256) *
              256) * 256 ^ bytes.length + value (addCarry bytes carry).1 := by ring
      _ = b.toNat * 256 ^ bytes.length +
            (value (addCarry bytes carry).1 + (addCarry bytes carry).2 * 256 ^ bytes.length) := by
          rw [hsplit]; ring
      _ = b.toNat * 256 ^ bytes.length + value bytes + carry := by rw [ih]; ring

/-- A sum that fits leaves nothing over. -/
theorem addCarry_fits {bytes : List UInt8} {carry : Nat}
    (h : value bytes + carry < 256 ^ bytes.length) : (addCarry bytes carry).2 = 0 := by
  have hv := addCarry_value bytes carry
  by_contra hne
  have hpos : 256 ^ bytes.length ≤ (addCarry bytes carry).2 * 256 ^ bytes.length :=
    Nat.le_mul_of_pos_left _ (Nat.pos_of_ne_zero hne)
  omega

end ByteValue
