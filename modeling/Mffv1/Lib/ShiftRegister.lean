import Mathlib.Data.Nat.Bitwise
import Mathlib.Logic.Function.Iterate

/-!
# Linear feedback shift registers

A register divides a bit string by a polynomial over the two-element field. What it
leaves is linear in the string, and a burst no longer than the register leaves
something.
-/
namespace ShiftRegister

variable {w : Nat} (polynomial : BitVec w)

/-- One position up; the bit that falls out is fed back. -/
def shift (r : BitVec w) : BitVec w :=
  if r.msb then (r <<< 1) ^^^ polynomial else r <<< 1

/-- A bit at the top of the register. -/
def incoming (w : Nat) (b : Bool) : BitVec w := if b then BitVec.twoPow w (w - 1) else 0#w

def feed (r : BitVec w) (b : Bool) : BitVec w := shift polynomial (r ^^^ incoming w b)

def run (r : BitVec w) (bits : List Bool) : BitVec w := bits.foldl (feed polynomial) r

def remainder (bits : List Bool) : BitVec w := run polynomial 0#w bits

theorem shift_xor (a b : BitVec w) :
    shift polynomial (a ^^^ b) = shift polynomial a ^^^ shift polynomial b := by
  unfold shift
  rw [BitVec.msb_xor, BitVec.shiftLeft_xor_distrib]
  cases a.msb <;> cases b.msb <;>
    simp only [Bool.xor_false, Bool.xor_true, Bool.not_true, Bool.not_false, Bool.false_eq_true,
      if_true, if_false]
  · rw [BitVec.xor_assoc]
  · ac_rfl
  · rw [BitVec.xor_assoc, BitVec.xor_comm polynomial, BitVec.xor_assoc, BitVec.xor_self,
      BitVec.xor_zero]

theorem incoming_xor (a b : Bool) : incoming w (a ^^ b) = incoming w a ^^^ incoming w b := by
  cases a <;> cases b <;> simp [incoming]

theorem feed_xor (r s : BitVec w) (a b : Bool) :
    feed polynomial (r ^^^ s) (a ^^ b) = feed polynomial r a ^^^ feed polynomial s b := by
  unfold feed
  rw [← shift_xor, incoming_xor]
  congr 1
  ac_rfl

theorem run_xor {xs ys : List Bool} (hlen : xs.length = ys.length) (r s : BitVec w) :
    run polynomial (r ^^^ s) (xs.zipWith Bool.xor ys) =
      run polynomial r xs ^^^ run polynomial s ys := by
  induction xs generalizing ys r s with
  | nil =>
    rw [List.length_eq_zero_iff.mp hlen.symm]
    rfl
  | cons x xs ih =>
    cases ys with
    | nil => cases hlen
    | cons y ys =>
      have hrest : xs.length = ys.length := by simpa using hlen
      change run polynomial (feed polynomial (r ^^^ s) (x ^^ y)) (xs.zipWith Bool.xor ys) = _
      rw [feed_xor, ih hrest]
      rfl

/-- A change of a bit string changes its remainder by the remainder of the change. -/
theorem remainder_xor {xs ys : List Bool} (hlen : xs.length = ys.length) :
    remainder polynomial (xs.zipWith Bool.xor ys) =
      remainder polynomial xs ^^^ remainder polynomial ys := by
  have h := run_xor polynomial hlen 0#w 0#w
  rwa [BitVec.xor_self] at h

section Invertible

variable {polynomial}

theorem shift_zero : shift polynomial 0#w = 0#w := by
  simp [shift]

/-- The polynomial has a constant term, so nothing is lost. -/
theorem shift_eq_zero (hp : polynomial.getLsbD 0 = true) {r : BitVec w}
    (h : shift polynomial r = 0#w) : r = 0#w := by
  unfold shift at h
  have hbit (i : Nat) := congrArg (BitVec.getLsbD · i) h
  by_cases hmsb : r.msb = true
  · rw [if_pos hmsb] at hbit
    have hlow := hbit 0
    simp [hp] at hlow
  · rw [if_neg hmsb] at hbit
    apply BitVec.eq_of_getLsbD_eq
    intro i hi
    rw [BitVec.getLsbD_zero]
    by_cases htop : i + 1 < w
    · have hnext := hbit (i + 1)
      simpa [htop, BitVec.getLsbD_eq_getElem hi] using hnext
    · have hlast : i = w - 1 := by omega
      rw [hlast, ← BitVec.msb_eq_getLsbD_last]
      exact Bool.eq_false_iff.mpr hmsb

theorem iterate_shift_eq_zero (hp : polynomial.getLsbD 0 = true) {n : Nat} {r : BitVec w}
    (h : (shift polynomial)^[n] r = 0#w) : r = 0#w := by
  induction n generalizing r with
  | zero => exact h
  | succ n ih => exact shift_eq_zero hp (ih h)

end Invertible

/-- A bit string placed at the top of the register. -/
def placed (w : Nat) : List Bool → BitVec w
  | [] => 0#w
  | b :: bits => incoming w b ^^^ (placed w bits >>> 1)

theorem incoming_getMsbD (b : Bool) {i : Nat} (hi : i < w) :
    (incoming w b).getMsbD i = (decide (i = 0) && b) := by
  cases b with
  | false => simp [incoming]
  | true =>
    simp only [incoming, if_true, BitVec.getMsbD_twoPow, Bool.and_true]
    rw [Bool.eq_iff_iff]
    simp only [Bool.and_eq_true, decide_eq_true_eq]
    omega

theorem placed_getMsbD (bits : List Bool) {i : Nat} (hi : i < w) :
    (placed w bits).getMsbD i = bits.getD i false := by
  induction bits generalizing i with
  | nil => simp [placed]
  | cons b bits ih =>
    rw [placed, BitVec.getMsbD_xor, incoming_getMsbD b hi, BitVec.getMsbD_ushiftRight]
    cases i with
    | zero => simp
    | succ i =>
      rw [Nat.add_sub_cancel, ih (by omega)]
      simp [hi]

/-- What has not reached the top yet only moves. -/
theorem shift_placed {bits : List Bool} (h : bits.length < w) :
    shift polynomial (placed w bits >>> 1) = placed w bits := by
  have hmsb : (placed w bits >>> 1).msb = false := by
    rw [BitVec.msb_eq_getMsbD_zero, BitVec.getMsbD_ushiftRight]
    simp
  unfold shift
  rw [hmsb, if_neg Bool.false_ne_true]
  apply BitVec.eq_of_getMsbD_eq
  intro i hi
  rw [BitVec.getMsbD_shiftLeft, BitVec.getMsbD_ushiftRight, Nat.add_sub_cancel]
  by_cases hlast : i + 1 < w
  · simp [hlast]
  · have hout : bits.length ≤ i := by omega
    rw [placed_getMsbD bits hi, List.getD_eq_default _ _ hout]
    simp [hlast]

/-- Bits that fit the register may be fed all at once. -/
theorem run_eq_iterate {bits : List Bool} (h : bits.length ≤ w) (r : BitVec w) :
    run polynomial r bits = (shift polynomial)^[bits.length] (r ^^^ placed w bits) := by
  induction bits generalizing r with
  | nil => simp [run, placed]
  | cons b bits ih =>
    rw [List.length_cons] at h
    change run polynomial (feed polynomial r b) bits = _
    rw [ih (by omega), List.length_cons, Function.iterate_succ_apply, placed, ← BitVec.xor_assoc,
      shift_xor polynomial (r ^^^ incoming w b), shift_placed polynomial (by omega)]
    rfl

theorem run_append (r : BitVec w) (xs ys : List Bool) :
    run polynomial r (xs ++ ys) = run polynomial (run polynomial r xs) ys := List.foldl_append

theorem run_false (r : BitVec w) (n : Nat) :
    run polynomial r (List.replicate n false) = (shift polynomial)^[n] r := by
  induction n generalizing r with
  | zero => rfl
  | succ n ih =>
    change run polynomial (feed polynomial r false) (List.replicate n false) = _
    rw [ih, Function.iterate_succ_apply]
    simp [feed, incoming]

/-- `bits` is not all clear, and its set bits lie within `w` consecutive positions. -/
def Burst (w : Nat) (bits : List Bool) : Prop :=
  true ∈ bits ∧ ∃ start, ∀ i : Nat, bits[i]? = some true → start ≤ i ∧ i < start + w

/-- The part before a window and the part behind it are clear. -/
theorem Burst.of_clear {bits : List Bool} (start : Nat) (hset : true ∈ bits)
    (hbefore : true ∉ bits.take start) (hbehind : true ∉ bits.drop (start + w)) :
    Burst w bits := by
  refine ⟨hset, start, fun i hi => ⟨?_, ?_⟩⟩
  · by_contra hlt
    refine hbefore (List.mem_iff_getElem?.mpr ⟨i, ?_⟩)
    rw [List.getElem?_take, if_pos (by omega), hi]
  · by_contra hge
    refine hbehind (List.mem_iff_getElem?.mpr ⟨i - (start + w), ?_⟩)
    rw [List.getElem?_drop, Nat.add_sub_cancel' (by omega), hi]

theorem eq_replicate_of_clear {bits : List Bool} (h : ∀ i : Nat, bits[i]? ≠ some true) :
    bits = List.replicate bits.length false := by
  refine List.eq_replicate_of_mem fun b hb => ?_
  obtain ⟨i, hi⟩ := List.mem_iff_getElem?.mp hb
  cases b with
  | false => rfl
  | true => exact absurd hi (h i)

/-- A burst is detected wherever it lies. -/
theorem remainder_burst_ne_zero (hp : polynomial.getLsbD 0 = true) {bits : List Bool}
    (h : Burst w bits) : remainder polynomial bits ≠ 0#w := by
  obtain ⟨hset, start, hwindow⟩ := h
  intro hzero
  have hsplit : bits = bits.take start ++ ((bits.drop start).take w ++ bits.drop (start + w)) := by
    rw [← List.drop_drop, List.take_append_drop, List.take_append_drop]
  -- Before the window and behind it every bit is clear.
  have hbefore : bits.take start = List.replicate (bits.take start).length false := by
    refine eq_replicate_of_clear fun i hi => ?_
    rw [List.getElem?_take] at hi
    split at hi
    · have := hwindow i hi
      omega
    · cases hi
  have hbehind : bits.drop (start + w) = List.replicate (bits.drop (start + w)).length false := by
    refine eq_replicate_of_clear fun i hi => ?_
    rw [List.getElem?_drop] at hi
    have := hwindow _ hi
    omega
  have hlen : ((bits.drop start).take w).length ≤ w := List.length_take_le _ _
  have hclear (n : Nat) : (shift polynomial)^[n] 0#w = 0#w := Function.iterate_fixed shift_zero n
  rw [remainder, hsplit, run_append, run_append, hbefore, run_false, hclear,
    run_eq_iterate polynomial hlen, BitVec.zero_xor, hbehind, run_false] at hzero
  have hplaced := iterate_shift_eq_zero hp (iterate_shift_eq_zero hp hzero)
  -- So every bit within the window is clear, too.
  obtain ⟨i, hi⟩ := List.mem_iff_getElem?.mp hset
  obtain ⟨hge, hlt⟩ := hwindow i hi
  have hbit := placed_getMsbD ((bits.drop start).take w) (show i - start < w by omega)
  rw [hplaced, List.getD_eq_getElem?_getD, List.getElem?_take, if_pos (by omega),
    List.getElem?_drop, Nat.add_sub_cancel' hge, hi] at hbit
  simp at hbit

end ShiftRegister
