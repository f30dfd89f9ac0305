import Mathlib.Tactic.Linarith
import Mathlib.Tactic.Ring

/-!
# Nested intervals and digit expansions

A range encoder holds an interval of fractions with `digits` digits in base `b`;
a decoder holds the offset of a digit expansion from the interval's lower end.
Narrowing keeps the precision, shifting adds one digit to it.
-/
namespace RangeCoding

/-- The values of the digit prefixes of one infinite expansion. -/
structure Expansion (b : Nat) where
  head : Nat → Nat
  step : ∀ n, b * head n ≤ head (n + 1) ∧ head (n + 1) < b * head n + b

@[ext] structure Interval where
  low : Nat
  range : Nat
  digits : Nat
  deriving DecidableEq

variable {b : Nat} (x : Expansion b) (I : Interval)

/-- The expansion's prefix of the interval's precision lies in the interval. -/
def Interval.Holds : Prop :=
  I.low ≤ x.head I.digits ∧ x.head I.digits < I.low + I.range

instance : Decidable (I.Holds x) := inferInstanceAs (Decidable (_ ∧ _))

/-- The prefix stays below the upper end with `slack` added to it. -/
def Interval.Room (slack : Nat) : Prop := x.head I.digits + slack < I.low + I.range

instance (slack : Nat) : Decidable (I.Room x slack) := inferInstanceAs (Decidable (_ < _))

def Interval.narrow (offset range : Nat) : Interval :=
  { I with low := I.low + offset, range }

def Interval.shift (b : Nat) : Interval where
  low := b * I.low
  range := b * I.range
  digits := I.digits + 1

@[simp] theorem Interval.narrow_digits (offset range : Nat) :
    (I.narrow offset range).digits = I.digits := rfl
@[simp] theorem Interval.narrow_low (offset range : Nat) :
    (I.narrow offset range).low = I.low + offset := rfl
@[simp] theorem Interval.narrow_range (offset range : Nat) :
    (I.narrow offset range).range = range := rfl
@[simp] theorem Interval.shift_digits : (I.shift b).digits = I.digits + 1 := rfl
@[simp] theorem Interval.shift_low : (I.shift b).low = b * I.low := rfl
@[simp] theorem Interval.shift_range : (I.shift b).range = b * I.range := rfl

variable {x I}

theorem Interval.Holds.of_narrow {offset range : Nat} (h : (I.narrow offset range).Holds x)
    (hle : offset + range ≤ I.range) : I.Holds x := by
  simp only [Holds, narrow_digits, narrow_low, narrow_range] at h ⊢
  omega

/-- Shifting neither loses nor gains expansions. -/
theorem Interval.Holds.of_shift (h : (I.shift b).Holds x) : I.Holds x := by
  simp only [Holds, shift_digits, shift_low, shift_range] at h ⊢
  have hs := x.step I.digits
  constructor
  · by_contra hlt
    have : b * (x.head I.digits + 1) ≤ b * I.low := Nat.mul_le_mul_left b (by omega)
    rw [Nat.mul_add, Nat.mul_one] at this
    omega
  · by_contra hge
    have : b * (I.low + I.range) ≤ b * x.head I.digits := Nat.mul_le_mul_left b (by omega)
    rw [Nat.mul_add] at this
    omega

theorem Interval.Room.of_narrow {slack offset range : Nat} (h : (I.narrow offset range).Room x slack)
    (hle : offset + range ≤ I.range) : I.Room x slack := by
  simp only [Room, narrow_digits, narrow_low, narrow_range] at h ⊢
  omega

/-- What is added counts once more for every digit. -/
theorem Interval.Room.of_shift {slack : Nat} (h : (I.shift b).Room x (b * slack)) :
    I.Room x slack := by
  simp only [Room, shift_digits, shift_low, shift_range] at h ⊢
  refine Nat.lt_of_mul_lt_mul_left (a := b) ?_
  calc b * (x.head I.digits + slack)
      = b * x.head I.digits + b * slack := Nat.mul_add ..
    _ ≤ x.head (I.digits + 1) + b * slack := Nat.add_le_add_right (x.step I.digits).1 _
    _ < b * I.low + b * I.range := h
    _ = b * (I.low + I.range) := (Nat.mul_add ..).symm

/-- The lower part of a split interval is chosen exactly when the offset is below the cut. -/
theorem Interval.Holds.offset_lt {cut offset : Nat} (h : (I.narrow 0 cut).Holds x)
    (ho : offset + I.low = x.head I.digits) : offset < cut := by
  simp only [Holds, narrow_digits, narrow_low, narrow_range] at h
  omega

theorem Interval.Holds.offset_ge {cut range offset : Nat} (h : (I.narrow cut range).Holds x)
    (ho : offset + I.low = x.head I.digits) : cut ≤ offset := by
  simp only [Holds, narrow_digits, narrow_low, narrow_range] at h
  omega

end RangeCoding
