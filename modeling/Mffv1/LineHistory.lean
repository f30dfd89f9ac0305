import Mathlib.Data.List.GetD
import Mathlib.Tactic.Ring
import Mffv1.LineState

/-!
# Line states as a window of an image

An image of any height is written row by row into a line state. The neighbours of a
sample are then those of the image with its borders, which has no lines.
-/
namespace Mffv1

section Bordered

variable (width : Nat) (border : Int) (image : (x y : Nat) → Int)

/-- A sample of a column of the image; the rows before the first are the border. -/
def borderedRow (x : Nat) (y : Int) : Int := if y < 0 then border else image x y.toNat

/-- The last column is repeated to the right, the first column of the row before stands to
the left, and the border before that. -/
def borderedSample (x y : Int) : Int :=
  if x < -1 then border
  else if x = -1 then borderedRow border image 0 (y - 1)
  else borderedRow border image (min x.toNat (width - 1)) y

/-- The neighbours of a sample in the image with its borders. -/
def borderedNeighbors (x y : Nat) : NeighborSamples :=
  let sample := borderedSample width border image
  { farLeft := sample (x - 2) y
    left := sample (x - 1) y
    top := sample x (y - 1)
    topLeft := sample (x - 1) (y - 1)
    topRight := sample (x + 1) (y - 1)
    topTop := sample x (y - 2) }

end Bordered

namespace LineState

section Writing

variable (image : (x y : Nat) → Int)

/-- The first `count` samples of a row, from left to right. -/
def writeSamples (row : Nat → Int) (line : LineState) : (count : Nat) → LineState
  | 0 => line
  | count + 1 => (line.writeSamples row count).store count (row count)

/-- Whole rows, with `swap_lines` behind each of them. -/
def writeRows (width : Nat) (start : LineState) : (rows : Nat) → LineState
  | 0 => start
  | rows + 1 =>
    ((writeRows width start rows).writeSamples (fun x => image x rows) width).swapLines

/-- The line state inside row `y`, behind its first `count` samples. -/
def writing (width : Nat) (start : LineState) (y count : Nat) : LineState :=
  (writeRows image width start y).writeSamples (fun x => image x y) count

end Writing

section Window

variable {width : Nat} {border : Int} {image : (x y : Nat) → Int} {line : LineState}

/-- The two lines above row `y`, and as much of the row as is written. -/
structure ShowsRow (width : Nat) (border : Int) (image : (x y : Nat) → Int) (y count : Nat)
    (line : LineState) : Prop where
  borderValue : line.borderValue = border
  previous : line.previous = (List.range width).map fun x => borderedRow border image x (y - 1)
  secondPrevious : line.secondPrevious =
    (List.range width).map fun x => borderedRow border image x (y - 2)
  current_length : line.current.length = width
  current : ∀ x < count, line.current.getD x 0 = borderedRow border image x y

theorem bordered_shows (width : Nat) (border : Int) (image : (x y : Nat) → Int) :
    ShowsRow width border image 0 0 (bordered width border) := by
  have habove (k : Int) (hk : 0 < k) :
      ((List.range width).map fun x => borderedRow border image x ((0 : Nat) - k)) =
        List.replicate width border := by
    have hborder (x : Nat) : borderedRow border image x ((0 : Nat) - k) = border :=
      if_pos (by push_cast; omega)
    rw [List.map_eq_replicate_iff.mpr fun x _ => hborder x, List.length_range]
  constructor
  · rfl
  · exact (habove 1 (by decide)).symm
  · exact (habove 2 (by decide)).symm
  · exact List.length_replicate
  · exact fun x hx => absurd hx (Nat.not_lt_zero x)

/-- The next sample of the row. -/
theorem ShowsRow.store {y count : Nat} (h : ShowsRow width border image y count line)
    (hcount : count < width) :
    ShowsRow width border image y (count + 1) (line.store count (image count y)) := by
  constructor
  · exact h.borderValue
  · exact h.previous
  · exact h.secondPrevious
  · rw [store_current, List.length_set, h.current_length]
  · intro x hx
    rw [store_current, List.getD_eq_getElem?_getD, List.getElem?_set]
    by_cases heq : count = x
    · subst heq
      rw [if_pos rfl, if_pos (h.current_length ▸ hcount)]
      exact (if_neg (by omega)).symm
    · rw [if_neg heq, ← List.getD_eq_getElem?_getD]
      exact h.current x (by omega)

theorem ShowsRow.writeSamples {y : Nat} (h : ShowsRow width border image y 0 line) {count : Nat}
    (hcount : count ≤ width) :
    ShowsRow width border image y count (line.writeSamples (fun x => image x y) count) := by
  induction count with
  | zero => exact h
  | succ count ih => exact (ih (Nat.le_of_succ_le hcount)).store hcount

/-- A complete row becomes the line above the next one. -/
theorem ShowsRow.swapLines {y : Nat} (h : ShowsRow width border image y width line) :
    ShowsRow width border image (y + 1) 0 line.swapLines := by
  have hcurrent : line.current =
      (List.range width).map fun x => borderedRow border image x y := by
    refine List.ext_getElem (by simp [h.current_length]) fun x hx _ => ?_
    have hsample := h.current x (h.current_length ▸ hx)
    rw [List.getD_eq_getElem _ _ hx] at hsample
    simpa using hsample
  constructor
  · exact h.borderValue
  · rw [swapLines_previous, hcurrent]
    simp
  · change line.previous = _
    rw [h.previous]
    congr 1
    funext x
    congr 1
    push_cast
    ring
  · simp [h.previous]
  · exact fun x hx => absurd hx (Nat.not_lt_zero x)

theorem writeRows_shows (width : Nat) (border : Int) (image : (x y : Nat) → Int) (rows : Nat) :
    ShowsRow width border image rows 0 (writeRows image width (bordered width border) rows) := by
  induction rows with
  | zero => exact bordered_shows width border image
  | succ rows ih => exact (ih.writeSamples (Nat.le_refl width)).swapLines

theorem ShowsRow.previous_getD {y count : Nat} (h : ShowsRow width border image y count line)
    {x : Nat} (hx : x < width) :
    line.previous.getD x 0 = borderedRow border image x (y - 1) := by
  rw [h.previous, List.getD_eq_getElem _ _ (by simpa using hx)]
  simp

theorem ShowsRow.secondPrevious_getD {y count : Nat}
    (h : ShowsRow width border image y count line) {x : Nat} (hx : x < width) :
    line.secondPrevious.getD x 0 = borderedRow border image x (y - 2) := by
  rw [h.secondPrevious, List.getD_eq_getElem _ _ (by simpa using hx)]
  simp

/-- A column of the image itself. -/
theorem borderedSample_inside {x : Nat} (hx : x < width) (y : Int) :
    borderedSample width border image x y = borderedRow border image x y := by
  have hmin : min (x : Int).toNat (width - 1) = x := by omega
  rw [borderedSample, if_neg (by omega), if_neg (by omega), hmin]

theorem borderedSample_left {x : Nat} (hx : x ≤ width) (y : Int) :
    borderedSample width border image ((x : Int) - 1) y =
      if 0 < x then borderedRow border image (x - 1) y else borderedRow border image 0 (y - 1) := by
  cases x with
  | zero =>
    rw [borderedSample, if_neg (by omega), if_pos (by simp), if_neg (Nat.lt_irrefl 0)]
  | succ x =>
    have hcast : ((x + 1 : Nat) : Int) - 1 = x := by
      push_cast
      ring
    rw [hcast, borderedSample_inside hx, if_pos (Nat.succ_pos x)]
    rfl

theorem borderedSample_farLeft {x : Nat} (hx : x < width) (y : Int) :
    borderedSample width border image ((x : Int) - 2) y =
      if 1 < x then borderedRow border image (x - 2) y
      else if x = 1 then borderedRow border image 0 (y - 1) else border := by
  cases x with
  | zero => rw [borderedSample, if_pos (by omega), if_neg (by omega), if_neg (by omega)]
  | succ x =>
    have hcast : ((x + 1 : Nat) : Int) - 2 = (x : Int) - 1 := by
      push_cast
      ring
    rw [hcast, borderedSample_left (by omega)]
    cases x with
    | zero => rfl
    | succ x => rw [if_pos (Nat.succ_pos x), if_pos (by omega)]; rfl

theorem borderedSample_right {x : Nat} (hx : x < width) (y : Int) :
    borderedSample width border image ((x : Int) + 1) y =
      borderedRow border image (if x + 1 < width then x + 1 else x) y := by
  have hmin : min ((x : Int) + 1).toNat (width - 1) = if x + 1 < width then x + 1 else x := by
    split <;> omega
  rw [borderedSample, if_neg (by omega), if_neg (by omega), hmin]

theorem ShowsRow.neighbors {x y count : Nat} (h : ShowsRow width border image y count line)
    (hx : x < width) (hcount : x ≤ count) :
    line.neighbors x = borderedNeighbors width border image x y := by
  have hwidth : 0 < width := Nat.lt_of_le_of_lt (Nat.zero_le x) hx
  have hfarLeft : (line.neighbors x).farLeft =
      borderedSample width border image ((x : Int) - 2) y := by
    rw [borderedSample_farLeft hx]
    refine ite_congr rfl (fun hgt => h.current _ (by omega)) fun _ =>
      ite_congr rfl (fun _ => h.previous_getD hwidth) fun _ => h.borderValue
  have hleft : (line.neighbors x).left = borderedSample width border image ((x : Int) - 1) y := by
    rw [borderedSample_left hx.le]
    exact ite_congr rfl (fun hpos => h.current _ (by omega)) fun _ => h.previous_getD hwidth
  have htop : (line.neighbors x).top = borderedSample width border image x ((y : Int) - 1) := by
    rw [borderedSample_inside hx]
    exact h.previous_getD hx
  have htopLeft : (line.neighbors x).topLeft =
      borderedSample width border image ((x : Int) - 1) ((y : Int) - 1) := by
    have habove : (y : Int) - 1 - 1 = y - 2 := by ring
    rw [borderedSample_left hx.le, habove]
    exact ite_congr rfl (fun _ => h.previous_getD (by omega)) fun _ =>
      h.secondPrevious_getD hwidth
  have htopRight : (line.neighbors x).topRight =
      borderedSample width border image ((x : Int) + 1) ((y : Int) - 1) := by
    have hright : (line.neighbors x).topRight =
        line.previous.getD (if x + 1 < width then x + 1 else x) 0 := by
      unfold LineState.neighbors
      rw [h.current_length, apply_ite (fun k => line.previous.getD k 0)]
    rw [borderedSample_right hx, hright]
    exact h.previous_getD (by split <;> omega)
  have htopTop : (line.neighbors x).topTop =
      borderedSample width border image x ((y : Int) - 2) := by
    rw [borderedSample_inside hx]
    exact h.secondPrevious_getD hx
  unfold borderedNeighbors
  dsimp only
  rw [← hfarLeft, ← hleft, ← htop, ← htopLeft, ← htopRight, ← htopTop]

/-- A line state that is reset and written row by row shows the neighbours in the image,
from when the samples left of a position are written until the row is. -/
theorem neighbors_of_image {width : UInt32} (hwidth : width ≠ 0) (border : Int) :
    ∃ start, LineState.reset width border = .ok start ∧
      ∀ (image : (x y : Nat) → Int) (x y count : Nat), x < width.toNat → x ≤ count →
        count ≤ width.toNat → (writing image width.toNat start y count).neighbors x =
          borderedNeighbors width.toNat border image x y := by
  refine ⟨bordered width.toNat border, ?_, fun image x y count hx hle hcount => ?_⟩
  · unfold LineState.reset
    rw [failIf_of_not hwidth]
    rfl
  · exact ((writeRows_shows width.toNat border image y).writeSamples hcount).neighbors hx hle

theorem neighbors_of_image_narrow :
    ∃ start, LineState.reset 1 7 = .ok start ∧
      ∀ (image : (x y : Nat) → Int) (x y count : Nat), x < (1 : UInt32).toNat → x ≤ count →
        count ≤ (1 : UInt32).toNat → (writing image (1 : UInt32).toNat start y count).neighbors x =
          borderedNeighbors (1 : UInt32).toNat 7 image x y :=
  @neighbors_of_image 1 (by decide) 7

end Window

end LineState

end Mffv1
