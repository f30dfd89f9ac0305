import Mathlib.Algebra.BigOperators.Group.Finset.Basic
import Mathlib.Data.Finset.Prod
import Mathlib.Data.Fintype.Basic
import Mathlib.Order.Interval.Finset.Nat
import Mathlib.Algebra.Order.BigOperators.Group.Finset

/-!
# Tilings by rectangles

A family of rectangles in a grid that do not overlap and have the area of the
grid covers every cell once. Monotone grid lines carry such a cover over to any
other extent.
-/
namespace Tiling

structure Rect where
  x : Nat
  y : Nat
  width : Nat
  height : Nat
  deriving DecidableEq

namespace Rect

def Contains (r : Rect) (i j : Nat) : Prop :=
  (r.x ≤ i ∧ i < r.x + r.width) ∧ r.y ≤ j ∧ j < r.y + r.height

instance (r : Rect) (i j : Nat) : Decidable (r.Contains i j) := inferInstanceAs (Decidable (_ ∧ _))

def Inside (r : Rect) (width height : Nat) : Prop :=
  r.x + r.width ≤ width ∧ r.y + r.height ≤ height

def area (r : Rect) : Nat := r.width * r.height

def cells (r : Rect) : Finset (Nat × Nat) :=
  Finset.Ico r.x (r.x + r.width) ×ˢ Finset.Ico r.y (r.y + r.height)

theorem mem_cells {r : Rect} {i j : Nat} : (i, j) ∈ r.cells ↔ r.Contains i j := by
  simp [cells, Contains]

theorem card_cells (r : Rect) : r.cells.card = r.area := by
  simp [cells, area]

/-- The rectangle between the images of its grid lines. -/
def scaled (r : Rect) (f g : Nat → Nat) : Rect where
  x := f r.x
  y := g r.y
  width := f (r.x + r.width) - f r.x
  height := g (r.y + r.height) - g r.y

end Rect

variable {ι : Type} {width height : Nat}

/-- Every cell of the grid is in one rectangle of the family and no more. -/
def ExactCover (rects : ι → Rect) (width height : Nat) : Prop :=
  ∀ i < width, ∀ j < height, ∃! k, (rects k).Contains i j

section Area

variable [Fintype ι] {rects : ι → Rect}

/-- The cells of all rectangles of the family. -/
def coveredCells (rects : ι → Rect) : Finset (Nat × Nat) :=
  Finset.univ.biUnion fun k => (rects k).cells

theorem mem_coveredCells {i j : Nat} : (i, j) ∈ coveredCells rects ↔ ∃ k, (rects k).Contains i j := by
  simp [coveredCells, Rect.mem_cells]

theorem coveredCells_subset (hinside : ∀ k, (rects k).Inside width height) :
    coveredCells rects ⊆ Finset.range width ×ˢ Finset.range height := by
  intro cell hcell
  obtain ⟨i, j⟩ := cell
  obtain ⟨k, hcontains⟩ := mem_coveredCells.mp hcell
  have hk := hinside k
  unfold Rect.Contains at hcontains
  unfold Rect.Inside at hk
  rw [Finset.mem_product, Finset.mem_range, Finset.mem_range]
  omega

theorem card_coveredCells
    (hdisjoint : ∀ k l, k ≠ l → ∀ i j, (rects k).Contains i j → ¬(rects l).Contains i j) :
    (coveredCells rects).card = ∑ k, (rects k).area := by
  unfold coveredCells
  rw [Finset.card_biUnion]
  · exact Finset.sum_congr rfl fun k _ => (rects k).card_cells
  · intro k _ l _ hne
    refine Finset.disjoint_left.mpr ?_
    rintro ⟨i, j⟩ hk hl
    exact hdisjoint k l hne i j (Rect.mem_cells.mp hk) (Rect.mem_cells.mp hl)

/-- Rectangles without overlap that have the area of the grid cover it. -/
theorem exactCover_of_area (hinside : ∀ k, (rects k).Inside width height)
    (hdisjoint : ∀ k l, k ≠ l → ∀ i j, (rects k).Contains i j → ¬(rects l).Contains i j)
    (harea : ∑ k, (rects k).area = width * height) : ExactCover rects width height := by
  have heq := Finset.eq_of_subset_of_card_le (coveredCells_subset hinside)
    (by simp [card_coveredCells hdisjoint, harea])
  intro i hi j hj
  have hmem : (i, j) ∈ coveredCells rects := by
    rw [heq, Finset.mem_product, Finset.mem_range, Finset.mem_range]
    exact ⟨hi, hj⟩
  obtain ⟨k, hk⟩ := mem_coveredCells.mp hmem
  refine ⟨k, hk, fun l hl => ?_⟩
  by_contra hne
  exact hdisjoint l k hne i j hl hk

omit [Fintype ι] in
theorem ExactCover.disjoint (h : ExactCover rects width height)
    (hinside : ∀ k, (rects k).Inside width height) (k l : ι) (hne : k ≠ l) (i j : Nat)
    (hk : (rects k).Contains i j) : ¬(rects l).Contains i j := by
  intro hl
  have hin := hinside k
  unfold Rect.Inside at hin
  have hcell := hk
  unfold Rect.Contains at hcell
  exact hne ((h i (by omega) j (by omega)).unique hk hl)

/-- An exact cover has the area of the grid. -/
theorem ExactCover.area (h : ExactCover rects width height)
    (hinside : ∀ k, (rects k).Inside width height) :
    ∑ k, (rects k).area = width * height := by
  have heq : coveredCells rects = Finset.range width ×ˢ Finset.range height := by
    refine Finset.Subset.antisymm (coveredCells_subset hinside) ?_
    rintro ⟨i, j⟩ hcell
    rw [Finset.mem_product, Finset.mem_range, Finset.mem_range] at hcell
    exact mem_coveredCells.mpr (h i hcell.1 j hcell.2).exists
  rw [← card_coveredCells (h.disjoint hinside), heq, Finset.card_product, Finset.card_range,
    Finset.card_range]

/-- Rectangles without overlap that miss a cell have less area than the grid. -/
theorem area_lt_of_uncovered (hinside : ∀ k, (rects k).Inside width height)
    (hdisjoint : ∀ k l, k ≠ l → ∀ i j, (rects k).Contains i j → ¬(rects l).Contains i j)
    {i j : Nat} (hi : i < width) (hj : j < height) (hmiss : ∀ k, ¬(rects k).Contains i j) :
    ∑ k, (rects k).area < width * height := by
  have hssub : coveredCells rects ⊂ Finset.range width ×ˢ Finset.range height := by
    refine Finset.ssubset_iff_subset_ne.mpr ⟨coveredCells_subset hinside, fun heq => ?_⟩
    have hmem : (i, j) ∈ coveredCells rects := by
      rw [heq, Finset.mem_product, Finset.mem_range, Finset.mem_range]
      exact ⟨hi, hj⟩
    obtain ⟨k, hk⟩ := mem_coveredCells.mp hmem
    exact hmiss k hk
  have hcard := Finset.card_lt_card hssub
  rwa [card_coveredCells hdisjoint, Finset.card_product, Finset.card_range, Finset.card_range]
    at hcard

end Area

section GridLines

variable {f g : Nat → Nat}

/-- Every position before the last line lies between two neighbouring lines. -/
theorem exists_between (hzero : f 0 = 0) {n s : Nat} (hs : s < f n) :
    ∃ c < n, f c ≤ s ∧ s < f (c + 1) := by
  induction n with
  | zero => omega
  | succ n ih =>
    by_cases hn : s < f n
    · obtain ⟨c, hc, hbetween⟩ := ih hn
      exact ⟨c, by omega, hbetween⟩
    · exact ⟨n, by omega, by omega, hs⟩

theorem between_iff (hf : Monotone f) {a b c s : Nat} (hlo : f c ≤ s) (hhi : s < f (c + 1)) :
    f a ≤ s ∧ s < f b ↔ a ≤ c ∧ c < b := by
  constructor
  · rintro ⟨ha, hb⟩
    refine ⟨Nat.le_of_not_lt fun h => ?_, Nat.lt_of_not_le fun h => ?_⟩
    · exact absurd (hf (show c + 1 ≤ a by omega)) (by omega)
    · exact absurd (hf h) (by omega)
  · rintro ⟨ha, hb⟩
    have h₁ := hf ha
    have h₂ := hf (show c + 1 ≤ b by omega)
    omega

/-- A position is in a scaled rectangle when its cell is in the rectangle. -/
theorem Rect.scaled_contains (hf : Monotone f) (hg : Monotone g) (r : Rect) {c d s t : Nat}
    (hc : f c ≤ s ∧ s < f (c + 1)) (hd : g d ≤ t ∧ t < g (d + 1)) :
    (r.scaled f g).Contains s t ↔ r.Contains c d := by
  have hx := between_iff (a := r.x) (b := r.x + r.width) hf hc.1 hc.2
  have hy := between_iff (a := r.y) (b := r.y + r.height) hg hd.1 hd.2
  have hfx := hf (Nat.le_add_right r.x r.width)
  have hgy := hg (Nat.le_add_right r.y r.height)
  unfold Contains scaled
  rw [← hx, ← hy, Nat.add_sub_cancel' hfx, Nat.add_sub_cancel' hgy]

theorem ExactCover.scaled {rects : ι → Rect} (h : ExactCover rects width height)
    (hf : Monotone f) (hg : Monotone g) (hf₀ : f 0 = 0) (hg₀ : g 0 = 0) :
    ExactCover (fun k => (rects k).scaled f g) (f width) (g height) := by
  intro s hs t ht
  obtain ⟨c, hc, hcell⟩ := exists_between hf₀ hs
  obtain ⟨d, hd, hcell'⟩ := exists_between hg₀ ht
  obtain ⟨k, hk, hunique⟩ := h c hc d hd
  refine ⟨k, (Rect.scaled_contains hf hg _ hcell hcell').mpr hk, fun l hl => ?_⟩
  exact hunique l ((Rect.scaled_contains hf hg _ hcell hcell').mp hl)

theorem Rect.Inside.scaled {r : Rect} (h : r.Inside width height) (hf : Monotone f)
    (hg : Monotone g) : (r.scaled f g).Inside (f width) (g height) := by
  obtain ⟨hx, hy⟩ := h
  have hfx := hf (Nat.le_add_right r.x r.width)
  have hgy := hg (Nat.le_add_right r.y r.height)
  unfold Inside Rect.scaled
  rw [Nat.add_sub_cancel' hfx, Nat.add_sub_cancel' hgy]
  exact ⟨hf hx, hg hy⟩

end GridLines

end Tiling
