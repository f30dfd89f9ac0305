import Mathlib.Algebra.BigOperators.Group.List.Basic
import Mathlib.Algebra.Order.Ring.Abs
import Mathlib.Tactic.Linarith
import Mathlib.Tactic.Ring

/-!
# Balanced mixed-radix numerals

A digit of half-width `half` lies in `-half`, …, `half`; its place is worth
`2 * half + 1` times the place before it. A numeral is the list of its scaled
digits, so that its value is their sum.
-/
namespace BalancedRadix

/-- Scaled digits from the place worth `scale` on. -/
inductive Numeral : (scale : Nat) → (halves : List Nat) → List Int → Prop
  | nil {scale : Nat} : Numeral scale [] []
  | cons {scale half : Nat} {halves : List Nat} {entries : List Int} (digit : Int)
      (hdigit : -(half : Int) ≤ digit ∧ digit ≤ half)
      (rest : Numeral (scale * (2 * half + 1)) halves entries) :
      Numeral scale (half :: halves) (scale * digit :: entries)

/-- What the place behind the last one is worth. -/
def span : (scale : Nat) → (halves : List Nat) → Nat
  | scale, [] => scale
  | scale, half :: halves => span (scale * (2 * half + 1)) halves

variable {scale : Nat} {halves : List Nat} {xs ys : List Int}

theorem Numeral.dvd_sum (h : Numeral scale halves xs) : (scale : Int) ∣ xs.sum := by
  induction h with
  | nil => exact Int.dvd_zero _
  | @cons scale half _ _ digit hdigit rest ih =>
    rw [List.sum_cons]
    refine Int.dvd_add (Int.dvd_mul_right _ _) (Int.dvd_trans ?_ ih)
    exact ⟨2 * half + 1, by push_cast; ring⟩

/-- Twice the value, on either side of zero, stays below the span. -/
theorem Numeral.sum_lt (h : Numeral scale halves xs) :
    2 * |xs.sum| + scale ≤ span scale halves := by
  induction h with
  | nil => simp [span]
  | @cons scale half halves entries digit hdigit rest ih =>
    have hentry : |(scale : Int) * digit| ≤ scale * half := by
      rw [abs_mul, abs_of_nonneg (Int.natCast_nonneg scale)]
      exact mul_le_mul_of_nonneg_left (abs_le.mpr hdigit) (Int.natCast_nonneg scale)
    have hsum := abs_add_le ((scale : Int) * digit) entries.sum
    rw [List.sum_cons, span]
    push_cast at ih
    linarith

theorem Numeral.neg (h : Numeral scale halves xs) : Numeral scale halves (xs.map (- ·)) := by
  induction h with
  | nil => exact Numeral.nil
  | cons digit hdigit rest ih =>
    rw [List.map_cons, ← Int.mul_neg]
    exact Numeral.cons (-digit) (by omega) ih

/-- A value has one numeral. -/
theorem Numeral.eq_of_sum (hscale : 0 < scale) (hx : Numeral scale halves xs)
    (hy : Numeral scale halves ys) (hsum : xs.sum = ys.sum) : xs = ys := by
  induction hx generalizing ys with
  | nil =>
    cases hy
    rfl
  | @cons scale half halves entries digit hdigit rest ih =>
    cases hy with
    | @cons _ _ _ others other hother rest' =>
      rw [List.sum_cons, List.sum_cons] at hsum
      obtain ⟨a, ha⟩ := rest.dvd_sum
      obtain ⟨b, hb⟩ := rest'.dvd_sum
      have hscale' : (scale : Int) ≠ 0 := by exact_mod_cast hscale.ne'
      -- the digits agree modulo the radix, and both lie in one period
      have hdiff : digit - other = (2 * half + 1) * (b - a) := by
        refine Int.eq_of_mul_eq_mul_left hscale' ?_
        rw [ha, hb] at hsum
        push_cast at hsum
        linarith
      have hsame : b - a = 0 := by
        by_contra hne
        rcases lt_or_gt_of_ne hne with hlt | hgt
        · nlinarith
        · nlinarith
      have hdigits : digit = other := by
        rw [hsame, Int.mul_zero] at hdiff
        omega
      subst hdigits
      rw [ih (Nat.mul_pos hscale (Nat.succ_pos _)) rest' (by omega)]

theorem Numeral.sum_eq_iff (hscale : 0 < scale) (hx : Numeral scale halves xs)
    (hy : Numeral scale halves ys) : xs.sum = ys.sum ↔ xs = ys := by
  constructor
  · exact hx.eq_of_sum hscale hy
  · rintro rfl
    rfl

theorem Numeral.sum_eq_neg_iff (hscale : 0 < scale) (hx : Numeral scale halves xs)
    (hy : Numeral scale halves ys) : xs.sum = -ys.sum ↔ xs = ys.map (- ·) := by
  rw [List.sum_neg]
  exact hx.sum_eq_iff hscale hy.neg

theorem numeral_zero (scale : Nat) (halves : List Nat) :
    Numeral scale halves (List.replicate halves.length 0) := by
  induction halves generalizing scale with
  | nil => exact Numeral.nil
  | cons half halves ih =>
    have h := Numeral.cons 0 (show -(half : Int) ≤ 0 ∧ (0 : Int) ≤ half by omega)
      (ih (scale * (2 * half + 1)))
    rwa [Int.mul_zero] at h

theorem Numeral.sum_eq_zero_iff (hscale : 0 < scale) (hx : Numeral scale halves xs) :
    xs.sum = 0 ↔ xs = List.replicate halves.length 0 := by
  have h := hx.sum_eq_iff hscale (numeral_zero scale halves)
  simpa using h

end BalancedRadix
