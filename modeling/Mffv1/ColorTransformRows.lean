import Mffv1.Predictor
import Mffv1.Lib.Lanes

/-!
# Colour transform rows

The SSE2 and AVX2 kernels transform four and eight samples a round and leave the
rest of a row to the scalar kernel. A row is written from front to back, so the
samples of a round follow those before it.
-/
namespace Mffv1

open Lanes

/-- The transform restores what fits the depth, and its components fit one more bit. -/
theorem jpeg2000Rct_reversible {bits : Nat} (hbits : 1 ≤ bits ∧ bits ≤ 16) (hasExtraPlane : Bool)
    {r g b : UInt16} (hr : r.toNat < 2 ^ bits) (hg : g.toNat < 2 ^ bits) (hb : b.toNat < 2 ^ bits) :
    let code := forwardJpeg2000Rct r g b bits hasExtraPlane
    (0 ≤ code.y ∧ code.y < 2 ^ (bits + 1)) ∧ (0 ≤ code.cb ∧ code.cb < 2 ^ (bits + 1)) ∧
      (0 ≤ code.cr ∧ code.cr < 2 ^ (bits + 1)) ∧
      inverseJpeg2000Rct code.y code.cb code.cr bits hasExtraPlane = { r, g, b } := by
  have hdepth : ¬(bits = 0 ∨ 16 < bits) := by omega
  obtain ⟨hy, hcb, hcr⟩ := forwardJpeg2000Rct_fits hdepth hr hg hb hasExtraPlane
  exact ⟨hy, hcb, hcr, inverseJpeg2000Rct_forward hdepth hr hg hb hasExtraPlane⟩

theorem jpeg2000Rct_reversible_column :
    let code := forwardJpeg2000Rct 1023 0 512 10 false
    (0 ≤ code.y ∧ code.y < 2 ^ 11) ∧ (0 ≤ code.cb ∧ code.cb < 2 ^ 11) ∧
      (0 ≤ code.cr ∧ code.cr < 2 ^ 11) ∧
      inverseJpeg2000Rct code.y code.cb code.cr 10 false = { r := 1023, g := 0, b := 512 } :=
  jpeg2000Rct_reversible (by decide) false (by decide) (by decide) (by decide)

/-- Blocks of `lanes` samples while so many are left, then the tail; every round
advances `index`, so that `count` rounds reach the tail. -/
def rowLoop {β : Type} (lanes count : Nat) (block tail : Nat → List β) :
    (fuel index : Nat) → List β
  | 0, index => tail index
  | fuel + 1, index =>
    if index + lanes ≤ count then
      block index ++ rowLoop lanes count block tail fuel (index + lanes)
    else tail index

/-- What the pointer `samples + index` points to. -/
def samplesFrom (samples : List UInt16) (index : Nat) : List (BitVec 16) :=
  (samples.drop index).map UInt16.toBitVec

def valuesFrom (values : List Int) (index : Nat) : List (BitVec 32) :=
  (values.drop index).map (BitVec.ofInt 32)

structure CodeLanes (n : Nat) where
  y : BitVec n
  cb : BitVec n
  cr : BitVec n

structure SampleLanes (n : Nat) where
  r : BitVec n
  g : BitVec n
  b : BitVec n

section Lanes

variable {n : Nat}

/-- The body of the loop of both forward kernels, between its loads and its stores. -/
def forwardLanes (rv gv bv : BitVec n) (bitsPerRawSample : Nat) (hasExtraPlane : Bool) :
    CodeLanes n :=
  let offsetValue := 1#32 <<< bitsPerRawSample
  let codedMaskValue := (offsetValue <<< 1) - 1#32
  let offset := set1Epi32 n offsetValue
  let codedMask := set1Epi32 n codedMaskValue
  let compatibilityLayout := usesCompatibilityLayout bitsPerRawSample hasExtraPlane
  let base := if compatibilityLayout then bv else gv
  let signedCb := if compatibilityLayout then subEpi32 gv bv else subEpi32 bv gv
  let signedCr := if compatibilityLayout then subEpi32 rv bv else subEpi32 rv gv
  let correction := sraiEpi32 (addEpi32 signedCb signedCr) 2
  { y := addEpi32 base correction &&& codedMask
    cb := addEpi32 signedCb offset
    cr := addEpi32 signedCr offset }

/-- The body of the loop of both inverse kernels, between its loads and its stores. -/
def inverseLanes (yv cbv crv : BitVec n) (bitsPerRawSample : Nat) (hasExtraPlane : Bool) :
    SampleLanes n :=
  let offset := set1Epi32 n (1#32 <<< bitsPerRawSample)
  let compatibilityLayout := usesCompatibilityLayout bitsPerRawSample hasExtraPlane
  let signedCb := subEpi32 cbv offset
  let signedCr := subEpi32 crv offset
  let correction := sraiEpi32 (addEpi32 signedCb signedCr) 2
  let base := subEpi32 yv correction
  { r := addEpi32 signedCr base
    g := if compatibilityLayout then addEpi32 signedCb base else base
    b := if compatibilityLayout then base else addEpi32 signedCb base }

/-- The codes that the three stores leave. -/
def storeCodes (code : CodeLanes n) : List RgbCode :=
  (List.range (n / 32)).map fun i =>
    { y := (lane 32 code.y i).toInt
      cb := (lane 32 code.cb i).toInt
      cr := (lane 32 code.cr i).toInt }

/-- The masked values, below the bias that packing takes away from them. -/
def adjustedLanes (values : BitVec n) (bitsPerRawSample : Nat) : BitVec n :=
  subEpi32 (values &&& set1Epi32 n (1#32 <<< bitsPerRawSample - 1#32)) (set1Epi32 n 0x8000#32)

end Lanes

def storeSamplesSse2 (bitsPerRawSample : Nat) (values : BitVec 128) : List (BitVec 16) :=
  let adjusted := adjustedLanes values bitsPerRawSample
  let packed := packsEpi32 adjusted (setzero 128) ^^^ set1Epi16 128 0x8000#16
  storelEpi64 packed

def storeSamplesAvx2 (bitsPerRawSample : Nat) (values : BitVec 256) : List (BitVec 16) :=
  let adjusted := adjustedLanes values bitsPerRawSample
  let low := castsi256Si128 adjusted
  let high := extracti128Si256 adjusted 1
  let packed := packsEpi32 low high ^^^ set1Epi16 128 0x8000#16
  storeu 16 packed

/-- The samples that the stores of the three channels leave. -/
def storedSamples {n : Nat} (store : BitVec n → List (BitVec 16)) (values : SampleLanes n) :
    List RgbSample :=
  List.zipWith3 (fun r g b => { r := ⟨r⟩, g := ⟨g⟩, b := ⟨b⟩ }) (store values.r) (store values.g)
    (store values.b)

def forwardColorTransformRowSse2 (r g b : List UInt16) (count bitsPerRawSample : Nat)
    (hasExtraPlane : Bool) : List RgbCode :=
  if count = 0 then []
  else if bitsPerRawSample = 0 ∨ 16 < bitsPerRawSample then
    forwardColorTransformRow r g b count bitsPerRawSample hasExtraPlane
  else
    rowLoop 4 count
      (fun index =>
        let rv := unpackloEpi16 (loadlEpi64 (samplesFrom r index)) (setzero 128)
        let gv := unpackloEpi16 (loadlEpi64 (samplesFrom g index)) (setzero 128)
        let bv := unpackloEpi16 (loadlEpi64 (samplesFrom b index)) (setzero 128)
        storeCodes (forwardLanes rv gv bv bitsPerRawSample hasExtraPlane))
      (fun index => forwardColorTransformRow (r.drop index) (g.drop index) (b.drop index)
        (count - index) bitsPerRawSample hasExtraPlane) count 0

def inverseColorTransformRowSse2 (y cb cr : List Int) (count bitsPerRawSample : Nat)
    (hasExtraPlane : Bool) : List RgbSample :=
  if count = 0 then []
  else if bitsPerRawSample = 0 ∨ 16 < bitsPerRawSample then
    inverseColorTransformRow y cb cr count bitsPerRawSample hasExtraPlane
  else
    rowLoop 4 count
      (fun index =>
        let yv := loadu 128 32 (valuesFrom y index)
        let cbv := loadu 128 32 (valuesFrom cb index)
        let crv := loadu 128 32 (valuesFrom cr index)
        storedSamples (storeSamplesSse2 bitsPerRawSample)
          (inverseLanes yv cbv crv bitsPerRawSample hasExtraPlane))
      (fun index => inverseColorTransformRow (y.drop index) (cb.drop index) (cr.drop index)
        (count - index) bitsPerRawSample hasExtraPlane) count 0

def forwardColorTransformRowAvx2 (r g b : List UInt16) (count bitsPerRawSample : Nat)
    (hasExtraPlane : Bool) : List RgbCode :=
  if count = 0 then []
  else if bitsPerRawSample = 0 ∨ 16 < bitsPerRawSample then
    forwardColorTransformRow r g b count bitsPerRawSample hasExtraPlane
  else
    rowLoop 8 count
      (fun index =>
        let rv := cvtepu16Epi32 (loadu 128 16 (samplesFrom r index))
        let gv := cvtepu16Epi32 (loadu 128 16 (samplesFrom g index))
        let bv := cvtepu16Epi32 (loadu 128 16 (samplesFrom b index))
        storeCodes (forwardLanes rv gv bv bitsPerRawSample hasExtraPlane))
      (fun index => forwardColorTransformRow (r.drop index) (g.drop index) (b.drop index)
        (count - index) bitsPerRawSample hasExtraPlane) count 0

def inverseColorTransformRowAvx2 (y cb cr : List Int) (count bitsPerRawSample : Nat)
    (hasExtraPlane : Bool) : List RgbSample :=
  if count = 0 then []
  else if bitsPerRawSample = 0 ∨ 16 < bitsPerRawSample then
    inverseColorTransformRow y cb cr count bitsPerRawSample hasExtraPlane
  else
    rowLoop 8 count
      (fun index =>
        let yv := loadu 256 32 (valuesFrom y index)
        let cbv := loadu 256 32 (valuesFrom cb index)
        let crv := loadu 256 32 (valuesFrom cr index)
        storedSamples (storeSamplesAvx2 bitsPerRawSample)
          (inverseLanes yv cbv crv bitsPerRawSample hasExtraPlane))
      (fun index => inverseColorTransformRow (y.drop index) (cb.drop index) (cr.drop index)
        (count - index) bitsPerRawSample hasExtraPlane) count 0

/-- Where every round and the tail compute `f` of each index, so does the loop. -/
theorem rowLoop_eq {β : Type} {lanes count : Nat} {block tail : Nat → List β} {f : Nat → β}
    (hlanes : 0 < lanes)
    (hblock : ∀ index, index + lanes ≤ count → block index = (List.range' index lanes).map f)
    (htail : ∀ index ≤ count, tail index = (List.range' index (count - index)).map f)
    {fuel index : Nat} (hindex : index ≤ count) (hfuel : count - index ≤ fuel) :
    rowLoop lanes count block tail fuel index = (List.range' index (count - index)).map f := by
  induction fuel generalizing index with
  | zero => exact htail index hindex
  | succ fuel ih =>
    unfold rowLoop
    by_cases hround : index + lanes ≤ count
    · rw [if_pos hround, hblock index hround, ih hround (by omega), ← List.map_append,
        show count - index = lanes + (count - (index + lanes)) by omega,
        ← List.range'_append_1]
    · rw [if_neg hround]
      exact htail index hindex

theorem forwardTail_eq (r g b : List UInt16) (bits : Nat) (hasExtraPlane : Bool) (index count : Nat) :
    forwardColorTransformRow (r.drop index) (g.drop index) (b.drop index) count bits hasExtraPlane =
      (List.range' index count).map fun x =>
        forwardJpeg2000Rct (r.getD x 0) (g.getD x 0) (b.getD x 0) bits hasExtraPlane := by
  rw [List.range'_eq_map_range, List.map_map]
  refine List.map_congr_left fun i _ => ?_
  simp only [Function.comp_apply, List.getD_eq_getElem?_getD, List.getElem?_drop]

theorem inverseTail_eq (y cb cr : List Int) (bits : Nat) (hasExtraPlane : Bool) (index count : Nat) :
    inverseColorTransformRow (y.drop index) (cb.drop index) (cr.drop index) count bits
        hasExtraPlane =
      (List.range' index count).map fun x =>
        inverseJpeg2000Rct (y.getD x 0) (cb.getD x 0) (cr.getD x 0) bits hasExtraPlane := by
  rw [List.range'_eq_map_range, List.map_map]
  refine List.map_congr_left fun i _ => ?_
  simp only [Function.comp_apply, List.getD_eq_getElem?_getD, List.getElem?_drop]

theorem offset_toInt : ∀ bits ≤ 16, (1#32 <<< bits).toInt = 2 ^ bits := by decide

theorem mask_toNat : ∀ bits ≤ 16, (1#32 <<< bits - 1#32).toNat = 2 ^ bits - 1 := by decide

theorem codedMask_toNat :
    ∀ bits : Nat, bits ≤ 16 → ((1#32 <<< bits) <<< 1 - 1#32).toNat = 2 ^ (bits + 1) - 1 := by
  decide

theorem arithmeticRightShift_two (value : Int) : arithmeticRightShift value 2 = value / 4 := by
  unfold arithmeticRightShift
  norm_num
  omega

theorem toInt_sshiftRight_two (a : BitVec 32) : (a.sshiftRight 2).toInt = a.toInt / 4 := by
  rw [BitVec.toInt_sshiftRight, Int.shiftRight_eq_div_pow]
  rfl

section Transform

variable {bits : Nat} {base v w : BitVec 32}

/-- The chroma difference of two samples, in a lane. -/
theorem toInt_difference (hbase : 0 ≤ base.toInt ∧ base.toInt < 2 ^ 16)
    (hv : 0 ≤ v.toInt ∧ v.toInt < 2 ^ 16) : (v - base).toInt = v.toInt - base.toInt :=
  toInt_sub_of_fits (by omega)

theorem toInt_codedChroma (hbits : bits ≤ 16) (hbase : 0 ≤ base.toInt ∧ base.toInt < 2 ^ 16)
    (hv : 0 ≤ v.toInt ∧ v.toInt < 2 ^ 16) :
    (v - base + 1#32 <<< bits).toInt = v.toInt - base.toInt + 2 ^ bits := by
  have hpow : (2 : Int) ^ bits ≤ 2 ^ 16 := pow_le_pow_right₀ (by decide) hbits
  have hpos : (0 : Int) < 2 ^ bits := by positivity
  have hdifference := toInt_difference hbase hv
  have hoffset := offset_toInt bits hbits
  rw [toInt_add_of_fits (by omega), hdifference, hoffset]

theorem toInt_codedLuma (hbits : bits ≤ 16) (hbase : 0 ≤ base.toInt ∧ base.toInt < 2 ^ 16)
    (hv : 0 ≤ v.toInt ∧ v.toInt < 2 ^ 16) (hw : 0 ≤ w.toInt ∧ w.toInt < 2 ^ 16) :
    ((base + ((v - base) + (w - base)).sshiftRight 2) &&&
        ((1#32 <<< bits) <<< 1 - 1#32)).toInt =
      (base.toInt + (v.toInt - base.toInt + (w.toInt - base.toInt)) / 4) % (2 * 2 ^ bits) := by
  have hsum : ((v - base) + (w - base)).toInt =
      v.toInt - base.toInt + (w.toInt - base.toInt) := by
    rw [toInt_add_of_fits, toInt_difference hbase hv, toInt_difference hbase hw]
    rw [toInt_difference hbase hv, toInt_difference hbase hw]
    omega
  have hshift := toInt_sshiftRight_two ((v - base) + (w - base))
  rw [hsum] at hshift
  rw [toInt_and_mask _ (by omega) (codedMask_toNat bits hbits), toInt_add_of_fits (by omega),
    hshift, pow_succ, Int.mul_comm (2 ^ bits) 2]

/-- What packing makes of a lane is the masked sample. -/
theorem saturate_adjusted (hbits : bits ≤ 16) (a : BitVec 32) :
    saturateInt16 ((a &&& (1#32 <<< bits - 1#32)) - 0x8000#32) ^^^ 0x8000#16 =
      (maskedSample a.toInt (2 ^ bits)).toBitVec := by
  have hpow : (2 : Int) ^ bits ≤ 2 ^ 16 := pow_le_pow_right₀ (by decide) hbits
  have hpos : (0 : Int) < 2 ^ bits := by positivity
  have hmask := toInt_and_mask a (show bits < 32 by omega) (mask_toNat bits hbits)
  have hnonneg := Int.emod_nonneg a.toInt hpos.ne'
  have hlt := Int.emod_lt_of_pos a.toInt hpos
  have hbias : (0x8000#32).toInt = 32768 := by decide
  have hadjusted : ((a &&& (1#32 <<< bits - 1#32)) - 0x8000#32).toInt =
      ((a.toInt % 2 ^ bits).toNat : Int) - 32768 := by
    rw [toInt_sub_of_fits (by omega), hmask, hbias]
    omega
  exact saturate_bias (by omega) hadjusted

end Transform

section Rounds

variable {n i : Nat} {bits : Nat}

/-- A lane of a forward round is the scalar transform of its three samples. -/
theorem forwardLanes_lane (hbits : 1 ≤ bits ∧ bits ≤ 16) (hi : 32 * i + 32 ≤ n)
    {rv gv bv : BitVec n} {r g b : UInt16} (hr : lane 32 rv i = r.toBitVec.setWidth 32)
    (hg : lane 32 gv i = g.toBitVec.setWidth 32) (hb : lane 32 bv i = b.toBitVec.setWidth 32)
    (hasExtraPlane : Bool) :
    { y := (lane 32 (forwardLanes rv gv bv bits hasExtraPlane).y i).toInt
      cb := (lane 32 (forwardLanes rv gv bv bits hasExtraPlane).cb i).toInt
      cr := (lane 32 (forwardLanes rv gv bv bits hasExtraPlane).cr i).toInt : RgbCode } =
      forwardJpeg2000Rct r g b bits hasExtraPlane := by
  have hsample : ∀ sample : UInt16,
      0 ≤ (sample.toBitVec.setWidth 32).toInt ∧ (sample.toBitVec.setWidth 32).toInt < 2 ^ 16 := by
    intro sample
    have hlt := sample.toBitVec.isLt
    rw [toInt_setWidth]
    omega
  have hdepth : ¬(bits = 0 ∨ 16 < bits) := by omega
  cases hlayout : usesCompatibilityLayout bits hasExtraPlane with
  | true =>
    simp only [forwardLanes, forwardJpeg2000Rct, if_neg hdepth, hlayout, if_true, lane_and,
      lane_addEpi32 _ _ hi, lane_subEpi32 _ _ hi, lane_sraiEpi32 _ _ hi, lane_set1Epi32 _ hi,
      hr, hg, hb, toInt_codedLuma hbits.2 (hsample b) (hsample g) (hsample r),
      toInt_codedChroma hbits.2 (hsample b) (hsample g),
      toInt_codedChroma hbits.2 (hsample b) (hsample r), toInt_setWidth, arithmeticRightShift_two]
    rfl
  | false =>
    simp only [forwardLanes, forwardJpeg2000Rct, if_neg hdepth, hlayout, Bool.false_eq_true,
      if_false, lane_and,
      lane_addEpi32 _ _ hi, lane_subEpi32 _ _ hi, lane_sraiEpi32 _ _ hi, lane_set1Epi32 _ hi,
      hr, hg, hb, toInt_codedLuma hbits.2 (hsample g) (hsample b) (hsample r),
      toInt_codedChroma hbits.2 (hsample g) (hsample b),
      toInt_codedChroma hbits.2 (hsample g) (hsample r), toInt_setWidth, arithmeticRightShift_two]
    rfl

/-- A lane of an inverse round is the scalar transform of its three values, up to the mask. -/
theorem inverseLanes_lane (hbits : 1 ≤ bits ∧ bits ≤ 16) (hi : 32 * i + 32 ≤ n)
    {yv cbv crv : BitVec n} {y cb cr : Int} (hy : FitsDepth y (bits + 1))
    (hcb : FitsDepth cb (bits + 1)) (hcr : FitsDepth cr (bits + 1))
    (hyv : lane 32 yv i = BitVec.ofInt 32 y) (hcbv : lane 32 cbv i = BitVec.ofInt 32 cb)
    (hcrv : lane 32 crv i = BitVec.ofInt 32 cr) (hasExtraPlane : Bool) :
    let values := inverseLanes yv cbv crv bits hasExtraPlane
    { r := maskedSample (lane 32 values.r i).toInt (2 ^ bits)
      g := maskedSample (lane 32 values.g i).toInt (2 ^ bits)
      b := maskedSample (lane 32 values.b i).toInt (2 ^ bits) : RgbSample } =
      inverseJpeg2000Rct y cb cr bits hasExtraPlane := by
  have hpow : (2 : Int) ^ (bits + 1) ≤ 2 ^ 17 := pow_le_pow_right₀ (by decide) (by omega)
  have hoffset := offset_toInt bits hbits.2
  have hoffsetFits : (0 : Int) < 2 ^ bits ∧ (2 : Int) ^ bits ≤ 2 ^ 16 :=
    ⟨by positivity, pow_le_pow_right₀ (by decide) hbits.2⟩
  have hword : ∀ {value : Int}, FitsDepth value (bits + 1) →
      (BitVec.ofInt 32 value).toInt = value := by
    rintro value ⟨hnonneg, hlt⟩
    rw [BitVec.toInt_ofInt, Int.bmod_eq_of_le (by omega) (by omega)]
  -- No operation of the round leaves the lane.
  have hsignedCb : (BitVec.ofInt 32 cb - 1#32 <<< bits).toInt = cb - 2 ^ bits := by
    rw [toInt_sub_of_fits (by rw [hword hcb, hoffset]; unfold FitsDepth at hcb; omega), hword hcb,
      hoffset]
  have hsignedCr : (BitVec.ofInt 32 cr - 1#32 <<< bits).toInt = cr - 2 ^ bits := by
    rw [toInt_sub_of_fits (by rw [hword hcr, hoffset]; unfold FitsDepth at hcr; omega), hword hcr,
      hoffset]
  obtain ⟨hy0, hylt⟩ := hy
  obtain ⟨hcb0, hcblt⟩ := hcb
  obtain ⟨hcr0, hcrlt⟩ := hcr
  set signedCb := BitVec.ofInt 32 cb - 1#32 <<< bits with hsignedCbDef
  set signedCr := BitVec.ofInt 32 cr - 1#32 <<< bits with hsignedCrDef
  have hsum : (signedCb + signedCr).toInt = cb - 2 ^ bits + (cr - 2 ^ bits) := by
    rw [toInt_add_of_fits (by omega), hsignedCb, hsignedCr]
  have hcorrection := toInt_sshiftRight_two (signedCb + signedCr)
  rw [hsum] at hcorrection
  have hyWord := hword ⟨hy0, hylt⟩
  set base := BitVec.ofInt 32 y - (signedCb + signedCr).sshiftRight 2 with hbaseDef
  have hbase : base.toInt = y - (cb - 2 ^ bits + (cr - 2 ^ bits)) / 4 := by
    rw [toInt_sub_of_fits (by omega), hyWord, hcorrection]
  have hcrBase : (signedCr + base).toInt =
      cr - 2 ^ bits + (y - (cb - 2 ^ bits + (cr - 2 ^ bits)) / 4) := by
    rw [toInt_add_of_fits (by omega), hsignedCr, hbase]
  have hcbBase : (signedCb + base).toInt =
      cb - 2 ^ bits + (y - (cb - 2 ^ bits + (cr - 2 ^ bits)) / 4) := by
    rw [toInt_add_of_fits (by omega), hsignedCb, hbase]
  have hdepth : ¬(bits = 0 ∨ 16 < bits) := by omega
  cases hlayout : usesCompatibilityLayout bits hasExtraPlane with
  | true =>
    simp only [inverseLanes, inverseJpeg2000Rct, if_neg hdepth, hlayout, if_true,
      lane_addEpi32 _ _ hi, lane_subEpi32 _ _ hi, lane_sraiEpi32 _ _ hi, lane_set1Epi32 _ hi,
      hyv, hcbv, hcrv, ← hsignedCbDef, ← hsignedCrDef, ← hbaseDef, hbase, hcrBase, hcbBase,
      arithmeticRightShift_two]
  | false =>
    simp only [inverseLanes, inverseJpeg2000Rct, if_neg hdepth, hlayout, Bool.false_eq_true,
      if_false, lane_addEpi32 _ _ hi, lane_subEpi32 _ _ hi, lane_sraiEpi32 _ _ hi,
      lane_set1Epi32 _ hi, hyv, hcbv, hcrv, ← hsignedCbDef, ← hsignedCrDef, ← hbaseDef, hbase,
      hcrBase, hcbBase, arithmeticRightShift_two]

end Rounds

theorem lane_adjustedLanes {n i : Nat} (h : 32 * i + 32 ≤ n) (values : BitVec n) (bits : Nat) :
    lane 32 (adjustedLanes values bits) i =
      (lane 32 values i &&& (1#32 <<< bits - 1#32)) - 0x8000#32 := by
  rw [adjustedLanes, lane_subEpi32 _ _ h, lane_and, lane_set1Epi32 _ h, lane_set1Epi32 _ h]

theorem storeSamplesSse2_eq {bits : Nat} (hbits : bits ≤ 16) (values : BitVec 128) :
    storeSamplesSse2 bits values =
      (List.range 4).map fun i => (maskedSample (lane 32 values i).toInt (2 ^ bits)).toBitVec := by
  refine List.map_congr_left fun i hi => ?_
  have hlane : i < 4 := List.mem_range.mp hi
  rw [lane_xor, lane_set1Epi16 _ (by omega), lane_packsEpi32_low _ _ hlane,
    lane_adjustedLanes (by omega)]
  exact saturate_adjusted hbits _

theorem storeSamplesAvx2_eq {bits : Nat} (hbits : bits ≤ 16) (values : BitVec 256) :
    storeSamplesAvx2 bits values =
      (List.range 8).map fun i => (maskedSample (lane 32 values i).toInt (2 ^ bits)).toBitVec := by
  refine List.map_congr_left fun i hi => ?_
  have hlane : i < 8 := List.mem_range.mp hi
  rw [lane_xor, lane_set1Epi16 _ (by omega)]
  by_cases hlow : i < 4
  · rw [lane_packsEpi32_low _ _ hlow, lane_castsi256Si128 _ hlow, lane_adjustedLanes (by omega)]
    exact saturate_adjusted hbits _
  · obtain ⟨j, rfl⟩ : ∃ j, i = 4 + j := ⟨i - 4, by omega⟩
    rw [lane_packsEpi32_high _ _ (by omega), lane_extracti128Si256 _ (by omega),
      lane_adjustedLanes (by omega)]
    exact saturate_adjusted hbits _

theorem zipWith3_map {α β γ δ ε : Type} (f : β → γ → δ → ε) (a : α → β) (b : α → γ) (c : α → δ)
    (l : List α) :
    List.zipWith3 f (l.map a) (l.map b) (l.map c) = l.map fun x => f (a x) (b x) (c x) := by
  induction l with
  | nil => rfl
  | cons x l ih =>
    simp only [List.map_cons, List.zipWith3]
    rw [ih]

/-- The three channels of a round, stored. -/
theorem storedSamples_eq {n lanes bits : Nat} {store : BitVec n → List (BitVec 16)}
    (hstore : ∀ values, store values = (List.range lanes).map fun i =>
      (maskedSample (lane 32 values i).toInt (2 ^ bits)).toBitVec) (values : SampleLanes n) :
    storedSamples store values = (List.range lanes).map fun i =>
      { r := maskedSample (lane 32 values.r i).toInt (2 ^ bits)
        g := maskedSample (lane 32 values.g i).toInt (2 ^ bits)
        b := maskedSample (lane 32 values.b i).toInt (2 ^ bits) } := by
  unfold storedSamples
  rw [hstore, hstore, hstore, zipWith3_map]

theorem samplesFrom_getD (samples : List UInt16) (index i : Nat) :
    (samplesFrom samples index).getD i 0 = (samples.getD (index + i) 0).toBitVec := by
  simp only [samplesFrom, List.getD_eq_getElem?_getD, List.getElem?_map, List.getElem?_drop]
  cases samples[index + i]? with
  | none => rfl
  | some sample => rfl

theorem valuesFrom_getD (values : List Int) (index i : Nat) :
    (valuesFrom values index).getD i 0 = BitVec.ofInt 32 (values.getD (index + i) 0) := by
  simp only [valuesFrom, List.getD_eq_getElem?_getD, List.getElem?_map, List.getElem?_drop]
  cases values[index + i]? with
  | none => rfl
  | some value => rfl

theorem lane_samplesSse2 (samples : List UInt16) (index : Nat) {i : Nat} (hi : i < 4) :
    lane 32 (unpackloEpi16 (loadlEpi64 (samplesFrom samples index)) (setzero 128)) i =
      (samples.getD (index + i) 0).toBitVec.setWidth 32 := by
  rw [lane_unpacklo_zero _ hi, lane_loadlEpi64 _ hi, samplesFrom_getD]

theorem lane_samplesAvx2 (samples : List UInt16) (index : Nat) {i : Nat} (hi : i < 8) :
    lane 32 (cvtepu16Epi32 (loadu 128 16 (samplesFrom samples index))) i =
      (samples.getD (index + i) 0).toBitVec.setWidth 32 := by
  rw [lane_cvtepu16Epi32 _ hi, lane_loadu _ (by omega), samplesFrom_getD]

theorem lane_values {n i : Nat} (values : List Int) (index : Nat) (h : 32 * i + 32 ≤ n) :
    lane 32 (loadu n 32 (valuesFrom values index)) i =
      BitVec.ofInt 32 (values.getD (index + i) 0) := by
  rw [lane_loadu _ h, valuesFrom_getD]

section Rows

variable {n lanes bits count : Nat} (hbits : 1 ≤ bits ∧ bits ≤ 16) (hn : n = 32 * lanes)
include hbits hn

/-- A forward round leaves the codes of its samples. -/
theorem forwardRound_eq {rv gv bv : BitVec n} {r g b : List UInt16} {index : Nat}
    (hr : ∀ i < lanes, lane 32 rv i = (r.getD (index + i) 0).toBitVec.setWidth 32)
    (hg : ∀ i < lanes, lane 32 gv i = (g.getD (index + i) 0).toBitVec.setWidth 32)
    (hb : ∀ i < lanes, lane 32 bv i = (b.getD (index + i) 0).toBitVec.setWidth 32)
    (hasExtraPlane : Bool) :
    storeCodes (forwardLanes rv gv bv bits hasExtraPlane) =
      (List.range' index lanes).map fun x =>
        forwardJpeg2000Rct (r.getD x 0) (g.getD x 0) (b.getD x 0) bits hasExtraPlane := by
  have hlanes : n / 32 = lanes := by omega
  rw [storeCodes, hlanes, List.range'_eq_map_range, List.map_map]
  refine List.map_congr_left fun i hi => ?_
  have hlane : i < lanes := List.mem_range.mp hi
  exact forwardLanes_lane hbits (by omega) (hr i hlane) (hg i hlane) (hb i hlane) hasExtraPlane

/-- An inverse round leaves the samples of its codes. -/
theorem inverseRound_eq {store : BitVec n → List (BitVec 16)}
    (hstore : ∀ values, store values = (List.range lanes).map fun i =>
      (maskedSample (lane 32 values i).toInt (2 ^ bits)).toBitVec)
    {y cb cr : List Int} {index : Nat}
    (hfits : ∀ i < lanes, FitsDepth (y.getD (index + i) 0) (bits + 1) ∧
      FitsDepth (cb.getD (index + i) 0) (bits + 1) ∧ FitsDepth (cr.getD (index + i) 0) (bits + 1))
    (hasExtraPlane : Bool) :
    storedSamples store (inverseLanes (loadu n 32 (valuesFrom y index))
        (loadu n 32 (valuesFrom cb index)) (loadu n 32 (valuesFrom cr index)) bits hasExtraPlane) =
      (List.range' index lanes).map fun x =>
        inverseJpeg2000Rct (y.getD x 0) (cb.getD x 0) (cr.getD x 0) bits hasExtraPlane := by
  rw [storedSamples_eq hstore, List.range'_eq_map_range, List.map_map]
  refine List.map_congr_left fun i hi => ?_
  have hlane : i < lanes := List.mem_range.mp hi
  obtain ⟨hy, hcb, hcr⟩ := hfits i hlane
  exact inverseLanes_lane hbits (by omega) hy hcb hcr (lane_values y index (by omega))
    (lane_values cb index (by omega)) (lane_values cr index (by omega)) hasExtraPlane

end Rows

/-- The vector kernels compute what the scalar kernels compute. -/
theorem vectorRows_eq_scalarRows {bits : Nat} (hbits : 1 ≤ bits ∧ bits ≤ 16)
    (hasExtraPlane : Bool) (count : Nat) :
    (∀ r g b : List UInt16,
      forwardColorTransformRowSse2 r g b count bits hasExtraPlane =
          forwardColorTransformRow r g b count bits hasExtraPlane ∧
        forwardColorTransformRowAvx2 r g b count bits hasExtraPlane =
          forwardColorTransformRow r g b count bits hasExtraPlane) ∧
    ∀ y cb cr : List Int,
      (∀ index < count, FitsDepth (y.getD index 0) (bits + 1) ∧
        FitsDepth (cb.getD index 0) (bits + 1) ∧ FitsDepth (cr.getD index 0) (bits + 1)) →
      inverseColorTransformRowSse2 y cb cr count bits hasExtraPlane =
          inverseColorTransformRow y cb cr count bits hasExtraPlane ∧
        inverseColorTransformRowAvx2 y cb cr count bits hasExtraPlane =
          inverseColorTransformRow y cb cr count bits hasExtraPlane := by
  have hdepth : ¬(bits = 0 ∨ 16 < bits) := by omega
  by_cases hcount : count = 0
  · subst hcount
    exact ⟨fun r g b => ⟨rfl, rfl⟩, fun y cb cr _ => ⟨rfl, rfl⟩⟩
  constructor
  · intro r g b
    have hrow := forwardTail_eq r g b bits hasExtraPlane 0 count
    simp only [List.drop_zero] at hrow
    constructor
    · rw [forwardColorTransformRowSse2, if_neg hcount, if_neg hdepth, hrow]
      refine rowLoop_eq (by decide) (fun index _ => ?_)
        (fun index _ => forwardTail_eq r g b bits hasExtraPlane index (count - index))
        (Nat.zero_le count) (by omega)
      exact forwardRound_eq hbits rfl (fun i hi => lane_samplesSse2 r index hi)
        (fun i hi => lane_samplesSse2 g index hi) (fun i hi => lane_samplesSse2 b index hi)
        hasExtraPlane
    · rw [forwardColorTransformRowAvx2, if_neg hcount, if_neg hdepth, hrow]
      refine rowLoop_eq (by decide) (fun index _ => ?_)
        (fun index _ => forwardTail_eq r g b bits hasExtraPlane index (count - index))
        (Nat.zero_le count) (by omega)
      exact forwardRound_eq hbits rfl (fun i hi => lane_samplesAvx2 r index hi)
        (fun i hi => lane_samplesAvx2 g index hi) (fun i hi => lane_samplesAvx2 b index hi)
        hasExtraPlane
  · intro y cb cr hfits
    have hrow := inverseTail_eq y cb cr bits hasExtraPlane 0 count
    simp only [List.drop_zero] at hrow
    constructor
    · rw [inverseColorTransformRowSse2, if_neg hcount, if_neg hdepth, hrow]
      refine rowLoop_eq (by decide) (fun index hround => ?_)
        (fun index _ => inverseTail_eq y cb cr bits hasExtraPlane index (count - index))
        (Nat.zero_le count) (by omega)
      exact inverseRound_eq hbits (show 128 = 32 * 4 from rfl) (storeSamplesSse2_eq hbits.2)
        (fun i hi => hfits (index + i) (by omega)) hasExtraPlane
    · rw [inverseColorTransformRowAvx2, if_neg hcount, if_neg hdepth, hrow]
      refine rowLoop_eq (by decide) (fun index hround => ?_)
        (fun index _ => inverseTail_eq y cb cr bits hasExtraPlane index (count - index))
        (Nat.zero_le count) (by omega)
      exact inverseRound_eq hbits (show 256 = 32 * 8 from rfl) (storeSamplesAvx2_eq hbits.2)
        (fun i hi => hfits (index + i) (by omega)) hasExtraPlane

theorem vectorRows_eq_scalarRows_nine :
    let y : List Int := [0, 2047, 5, 1, 1024, 900, 7, 0, 2047]
    let cb : List Int := [1024, 0, 2047, 3, 2, 1, 0, 2047, 2047]
    let cr : List Int := [2047, 1, 3, 2047, 0, 0, 1024, 2047, 2047]
    (∀ r g b : List UInt16,
      forwardColorTransformRowSse2 r g b 9 10 false = forwardColorTransformRow r g b 9 10 false ∧
        forwardColorTransformRowAvx2 r g b 9 10 false =
          forwardColorTransformRow r g b 9 10 false) ∧
    inverseColorTransformRowSse2 y cb cr 9 10 false =
        inverseColorTransformRow y cb cr 9 10 false ∧
      inverseColorTransformRowAvx2 y cb cr 9 10 false =
        inverseColorTransformRow y cb cr 9 10 false :=
  ⟨(vectorRows_eq_scalarRows (by decide) false 9).1,
    (vectorRows_eq_scalarRows (by decide) false 9).2 _ _ _ (by unfold FitsDepth; decide)⟩

end Mffv1
