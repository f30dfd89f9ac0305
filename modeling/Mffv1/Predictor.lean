import Mathlib.Data.Int.ModEq
import Mathlib.Order.MinMax
import Mathlib.Tactic.Positivity
import Mathlib.Tactic.Ring

/-!
# Prediction and colour transform

A sample is coded as its difference from a median of its neighbours, wrapped to
the coded depth. RGB samples go through a reversible transform with one more bit.
The 32-bit and 64-bit integers of the source are unbounded here.
-/
namespace Mffv1

def arithmeticRightShift (value : Int) (shift : Nat) : Int :=
  if shift = 0 then value
  else if 63 ≤ shift then if value < 0 then -1 else 0
  else
    let divisor : Int := 2 ^ shift
    if 0 ≤ value then value / divisor else -((-value + divisor - 1) / divisor)

def median3 (a b c : Int) : Int := max (min a b) (min (max a b) c)

/-- The remainder of the source truncates towards zero. -/
def wrapSampleDifference (value : Int) (bitsPerRawSample : Nat) : Int :=
  if bitsPerRawSample = 0 ∨ 31 ≤ bitsPerRawSample then value
  else
    let range : Int := 2 ^ bitsPerRawSample
    let halfRange : Int := 2 ^ (bitsPerRawSample - 1)
    let remainder := value.tmod range
    if remainder < -halfRange then remainder + range
    else if halfRange ≤ remainder then remainder - range
    else remainder

namespace Predictor

def asSigned16bit (sample : Int) : Int := if 32768 ≤ sample then sample - 65536 else sample

def medianPredict (left top topLeft : Int) : Int := median3 left top (left + top - topLeft)

def medianPredictSigned16bit (left top topLeft : Int) : Int :=
  medianPredict (asSigned16bit left) (asSigned16bit top) (asSigned16bit topLeft)

def reconstruct (prediction difference : Int) (bitsPerRawSample : Nat) : Int :=
  let reconstructed := prediction + difference
  if bitsPerRawSample = 0 ∨ 31 ≤ bitsPerRawSample then reconstructed
  else
    let range : Int := 2 ^ bitsPerRawSample
    let wrapped := reconstructed.tmod range
    if wrapped < 0 then wrapped + range else wrapped

def difference (sample prediction : Int) (bitsPerRawSample : Nat) : Int :=
  let rawDifference := sample - prediction
  if bitsPerRawSample = 0 ∨ 31 ≤ bitsPerRawSample then rawDifference
  else wrapSampleDifference rawDifference bitsPerRawSample

end Predictor

structure RgbSample where
  r : UInt16 := 0
  g : UInt16 := 0
  b : UInt16 := 0
  deriving DecidableEq

structure RgbCode where
  y : Int := 0
  cb : Int := 0
  cr : Int := 0
  deriving DecidableEq

/-- Nine to fifteen bits without an extra plane are coded with green and blue exchanged. -/
def usesCompatibilityLayout (bitsPerRawSample : Nat) (hasExtraPlane : Bool) : Bool :=
  decide (9 ≤ bitsPerRawSample) && decide (bitsPerRawSample ≤ 15) && !hasExtraPlane

/-- A mask of the two's complement is a remainder by a power of two. -/
def forwardJpeg2000Rct (r g b : UInt16) (bitsPerRawSample : Nat) (hasExtraPlane : Bool) :
    RgbCode :=
  if bitsPerRawSample = 0 ∨ 16 < bitsPerRawSample then {}
  else
    let r : Int := r.toNat
    let g : Int := g.toNat
    let b : Int := b.toNat
    let offset : Int := 2 ^ bitsPerRawSample
    if usesCompatibilityLayout bitsPerRawSample hasExtraPlane then
      let signedCb := g - b
      let signedCr := r - b
      let correction := arithmeticRightShift (signedCb + signedCr) 2
      { y := (b + correction) % (2 * offset), cb := signedCb + offset, cr := signedCr + offset }
    else
      let signedCb := b - g
      let signedCr := r - g
      let correction := arithmeticRightShift (signedCb + signedCr) 2
      { y := (g + correction) % (2 * offset), cb := signedCb + offset, cr := signedCr + offset }

/-- `static_cast<std::uint16_t>(value & mask)` -/
def maskedSample (value offset : Int) : UInt16 := (value % offset).toNat.toUInt16

def inverseJpeg2000Rct (y cb cr : Int) (bitsPerRawSample : Nat) (hasExtraPlane : Bool) :
    RgbSample :=
  if bitsPerRawSample = 0 ∨ 16 < bitsPerRawSample then {}
  else
    let offset : Int := 2 ^ bitsPerRawSample
    let signedCb := cb - offset
    let signedCr := cr - offset
    let correction := arithmeticRightShift (signedCb + signedCr) 2
    let base := y - correction
    if usesCompatibilityLayout bitsPerRawSample hasExtraPlane then
      { r := maskedSample (signedCr + base) offset
        g := maskedSample (signedCb + base) offset
        b := maskedSample base offset }
    else
      { r := maskedSample (signedCr + base) offset
        g := maskedSample base offset
        b := maskedSample (signedCb + base) offset }

def forwardColorTransformRow (r g b : List UInt16) (count bitsPerRawSample : Nat)
    (hasExtraPlane : Bool) : List RgbCode :=
  (List.range count).map fun index =>
    forwardJpeg2000Rct (r.getD index 0) (g.getD index 0) (b.getD index 0) bitsPerRawSample
      hasExtraPlane

def inverseColorTransformRow (y cb cr : List Int) (count bitsPerRawSample : Nat)
    (hasExtraPlane : Bool) : List RgbSample :=
  (List.range count).map fun index =>
    inverseJpeg2000Rct (y.getD index 0) (cb.getD index 0) (cr.getD index 0) bitsPerRawSample
      hasExtraPlane

section Wrapping

variable {bits : Nat}

theorem tmod_modEq (value range : Int) : value.tmod range ≡ value [ZMOD range] :=
  (Int.modEq_iff_dvd.mpr Int.dvd_tmod_sub_self).symm

theorem tmod_add_eq_emod (value : Int) {range : Int} (h : 0 < range) :
    (if value.tmod range < 0 then value.tmod range + range else value.tmod range) =
      value % range := by
  have hlt := Int.tmod_lt_of_pos value h
  have hgt := Int.lt_tmod_of_pos value h
  rw [← tmod_modEq value range]
  by_cases hneg : value.tmod range < 0
  · rw [if_pos hneg, ← Int.add_emod_right, Int.emod_eq_of_lt (by omega) (by omega)]
  · rw [if_neg hneg, Int.emod_eq_of_lt (by omega) hlt]

theorem reconstruct_eq_emod (h : ¬(bits = 0 ∨ 31 ≤ bits)) (prediction difference : Int) :
    Predictor.reconstruct prediction difference bits = (prediction + difference) % 2 ^ bits := by
  unfold Predictor.reconstruct
  simp only [if_neg h]
  exact tmod_add_eq_emod _ (by positivity)

/-- A wrapped difference is congruent to the difference and fits the depth. -/
theorem wrapSampleDifference_spec (h : ¬(bits = 0 ∨ 31 ≤ bits)) (value : Int) :
    wrapSampleDifference value bits ≡ value [ZMOD 2 ^ bits] ∧
      -2 ^ (bits - 1) ≤ wrapSampleDifference value bits ∧
      wrapSampleDifference value bits < 2 ^ (bits - 1) := by
  obtain ⟨n, rfl⟩ := Nat.exists_eq_succ_of_ne_zero fun hz => h (.inl hz)
  have hrange : (2 : Int) ^ (n + 1) = 2 * 2 ^ n := by ring
  have hpos : (0 : Int) < 2 ^ n := by positivity
  have hlt := Int.tmod_lt_of_pos value (show (0 : Int) < 2 ^ (n + 1) by positivity)
  have hgt := Int.lt_tmod_of_pos value (show (0 : Int) < 2 ^ (n + 1) by positivity)
  have hcongr := tmod_modEq value (2 ^ (n + 1))
  unfold wrapSampleDifference
  simp only [if_neg h, Nat.succ_eq_add_one, Nat.add_sub_cancel]
  by_cases hlow : value.tmod (2 ^ (n + 1)) < -2 ^ n
  · rw [if_pos hlow]
    exact ⟨(Int.add_modEq_right).trans hcongr, by omega, by omega⟩
  · rw [if_neg hlow]
    by_cases hhigh : 2 ^ n ≤ value.tmod (2 ^ (n + 1))
    · rw [if_pos hhigh]
      exact ⟨(Int.sub_modulus_modEq_iff.mpr rfl).trans hcongr, by omega, by omega⟩
    · rw [if_neg hhigh]
      exact ⟨hcongr, by omega, by omega⟩

/-- Decoding undoes the prediction of a sample that fits the depth. -/
theorem reconstruct_difference (h : ¬(bits = 0 ∨ 31 ≤ bits)) {sample : Int} (hlo : 0 ≤ sample)
    (hhi : sample < 2 ^ bits) (prediction : Int) :
    Predictor.reconstruct prediction (Predictor.difference sample prediction bits) bits =
      sample := by
  have hwrap := (wrapSampleDifference_spec h (sample - prediction)).1
  rw [reconstruct_eq_emod h]
  unfold Predictor.difference
  simp only [if_neg h]
  have hsum : prediction + wrapSampleDifference (sample - prediction) bits ≡ sample
      [ZMOD 2 ^ bits] := by
    have hadd := hwrap.add_left prediction
    rwa [add_sub_cancel] at hadd
  rw [hsum, Int.emod_eq_of_lt hlo hhi]

end Wrapping

section ColourTransform

variable {bits : Nat} {r g b : UInt16}

theorem maskedSample_eq {sample : UInt16} {value offset : Int} (hfits : (sample.toNat : Int) < offset)
    (h : value ≡ sample.toNat [ZMOD offset]) : maskedSample value offset = sample := by
  unfold maskedSample
  rw [h, Int.emod_eq_of_lt (by omega) hfits, Int.toNat_natCast]
  exact UInt16.ofNat_toNat

/-- The low bits of the coded luma are those of the sum it was masked from. -/
theorem masked_base (value correction offset : Int) :
    value % (2 * offset) - correction ≡ value - correction [ZMOD offset] :=
  ((Int.mod_modEq value (2 * offset)).of_mul_left 2).sub_right correction

/-- The inverse transform restores samples that fit the depth. -/
theorem inverseJpeg2000Rct_forward (h : ¬(bits = 0 ∨ 16 < bits)) (hr : r.toNat < 2 ^ bits)
    (hg : g.toNat < 2 ^ bits) (hb : b.toNat < 2 ^ bits) (hasExtraPlane : Bool) :
    inverseJpeg2000Rct (forwardJpeg2000Rct r g b bits hasExtraPlane).y
      (forwardJpeg2000Rct r g b bits hasExtraPlane).cb
      (forwardJpeg2000Rct r g b bits hasExtraPlane).cr bits hasExtraPlane = ⟨r, g, b⟩ := by
  have hr' : (r.toNat : Int) < 2 ^ bits := by exact_mod_cast hr
  have hg' : (g.toNat : Int) < 2 ^ bits := by exact_mod_cast hg
  have hb' : (b.toNat : Int) < 2 ^ bits := by exact_mod_cast hb
  unfold forwardJpeg2000Rct inverseJpeg2000Rct
  simp only [if_neg h]
  cases hlayout : usesCompatibilityLayout bits hasExtraPlane with
  | true =>
    simp only [if_true, add_sub_cancel_right, RgbSample.mk.injEq]
    set correction := arithmeticRightShift ((g.toNat : Int) - b.toNat + (r.toNat - b.toNat)) 2
    have hbase := masked_base (b.toNat + correction) correction (2 ^ bits)
    rw [add_sub_cancel_right] at hbase
    refine ⟨maskedSample_eq hr' ?_, maskedSample_eq hg' ?_, maskedSample_eq hb' hbase⟩
    · simpa using hbase.add_left (r.toNat - b.toNat)
    · simpa using hbase.add_left (g.toNat - b.toNat)
  | false =>
    simp only [Bool.false_eq_true, if_false, add_sub_cancel_right, RgbSample.mk.injEq]
    set correction := arithmeticRightShift ((b.toNat : Int) - g.toNat + (r.toNat - g.toNat)) 2
    have hbase := masked_base (g.toNat + correction) correction (2 ^ bits)
    rw [add_sub_cancel_right] at hbase
    refine ⟨maskedSample_eq hr' ?_, maskedSample_eq hg' hbase, maskedSample_eq hb' ?_⟩
    · simpa using hbase.add_left (r.toNat - g.toNat)
    · simpa using hbase.add_left (b.toNat - g.toNat)

/-- `value` is a sample of the given depth. -/
def FitsDepth (value : Int) (bits : Nat) : Prop := 0 ≤ value ∧ value < 2 ^ bits

/-- The coded components fit one more bit than the samples. -/
theorem forwardJpeg2000Rct_fits (h : ¬(bits = 0 ∨ 16 < bits)) (hr : r.toNat < 2 ^ bits)
    (hg : g.toNat < 2 ^ bits) (hb : b.toNat < 2 ^ bits) (hasExtraPlane : Bool) :
    FitsDepth (forwardJpeg2000Rct r g b bits hasExtraPlane).y (bits + 1) ∧
      FitsDepth (forwardJpeg2000Rct r g b bits hasExtraPlane).cb (bits + 1) ∧
      FitsDepth (forwardJpeg2000Rct r g b bits hasExtraPlane).cr (bits + 1) := by
  have hr' : (r.toNat : Int) < 2 ^ bits := by exact_mod_cast hr
  have hg' : (g.toNat : Int) < 2 ^ bits := by exact_mod_cast hg
  have hb' : (b.toNat : Int) < 2 ^ bits := by exact_mod_cast hb
  have hdouble : (2 : Int) ^ (bits + 1) = 2 * 2 ^ bits := by ring
  have hpos : (0 : Int) < 2 * 2 ^ bits := by positivity
  unfold forwardJpeg2000Rct FitsDepth
  simp only [if_neg h, hdouble]
  cases usesCompatibilityLayout bits hasExtraPlane with
  | true =>
    simp only [if_true]
    exact ⟨⟨Int.emod_nonneg _ hpos.ne', Int.emod_lt_of_pos _ hpos⟩, by omega, by omega⟩
  | false =>
    simp only [Bool.false_eq_true, if_false]
    exact ⟨⟨Int.emod_nonneg _ hpos.ne', Int.emod_lt_of_pos _ hpos⟩, by omega, by omega⟩

end ColourTransform

end Mffv1
