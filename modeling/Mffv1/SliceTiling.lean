import Mathlib.Order.Monotone.Basic
import Mffv1.SliceCoverage
import Mffv1.SliceWindow

/-!
# Slice windows tile every plane

In every plane a slice is its raster rectangle, scaled by the grid lines of that
plane. The grid lines are exact in machine arithmetic, so the cover of the raster
carries over to the samples of the plane.
-/
namespace Mffv1

/-- A grid line of a plane in natural numbers. -/
def gridLine (extent count position : Nat) : Nat := position * extent / count

theorem gridLine_monotone (extent count : Nat) : Monotone (gridLine extent count) :=
  fun _ _ h => Nat.div_le_div_right (Nat.mul_le_mul_right extent h)

theorem gridLine_zero (extent count : Nat) : gridLine extent count 0 = 0 := by
  simp [gridLine]

theorem gridLine_count (extent : Nat) {count : Nat} (h : 0 < count) :
    gridLine extent count count = extent :=
  Nat.mul_div_cancel_left extent h

/-- The ceiling of a quotient by a power of two, in natural numbers. -/
def exactSubsampledExtent (value log2Subsample : Nat) : Nat :=
  (value + 2 ^ log2Subsample - 1) / 2 ^ log2Subsample

theorem gridProduct_toNat {extent count : UInt32} {position : UInt64}
    (h : position.toNat ≤ count.toNat) :
    (position * extent.toUInt64).toNat = position.toNat * extent.toNat := by
  have hlt := Nat.mul_lt_mul'' (Nat.lt_of_le_of_lt h count.toNat_lt) extent.toNat_lt
  rw [UInt64.toNat_mul, UInt32.toNat_toUInt64]
  exact Nat.mod_eq_of_lt (by omega)

theorem scaledGridPosition_toNat {extent count : UInt32} {position : UInt64}
    (hcount : 0 < count.toNat) (h : position.toNat ≤ count.toNat) :
    (scaledGridPosition extent count position).toNat =
      gridLine extent.toNat count.toNat position.toNat := by
  have hne : count ≠ 0 := fun hz => by
    rw [hz] at hcount
    exact absurd hcount (by decide)
  have hle : gridLine extent.toNat count.toNat position.toNat ≤ extent.toNat := by
    have hmono := gridLine_monotone extent.toNat count.toNat h
    rwa [gridLine_count _ hcount] at hmono
  have hlt := extent.toNat_lt
  unfold scaledGridPosition
  rw [if_neg hne, UInt64.toNat_toUInt32, UInt64.toNat_div, gridProduct_toNat h,
    UInt32.toNat_toUInt64]
  exact Nat.mod_eq_of_lt (by unfold gridLine at hle; omega)

theorem gridEnd_toNat (position length : UInt32) :
    (position.toUInt64 + length.toUInt64).toNat = position.toNat + length.toNat := by
  have h₁ := position.toNat_lt
  have h₂ := length.toNat_lt
  rw [UInt64.toNat_add, UInt32.toNat_toUInt64, UInt32.toNat_toUInt64]
  exact Nat.mod_eq_of_lt (by omega)

theorem gridExtent_toNat {extent count position length : UInt32}
    (hcount : 0 < count.toNat) (h : position.toNat + length.toNat ≤ count.toNat) :
    (scaledGridPosition extent count (position.toUInt64 + length.toUInt64) -
      scaledGridPosition extent count position.toUInt64).toNat =
        gridLine extent.toNat count.toNat (position.toNat + length.toNat) -
          gridLine extent.toNat count.toNat position.toNat := by
  have hend := gridEnd_toNat position length
  have hstop : (scaledGridPosition extent count (position.toUInt64 + length.toUInt64)).toNat = _ :=
    scaledGridPosition_toNat hcount (by omega)
  have hstart : (scaledGridPosition extent count position.toUInt64).toNat = _ :=
    scaledGridPosition_toNat hcount (by rw [UInt32.toNat_toUInt64]; omega)
  rw [hend] at hstop
  rw [UInt32.toNat_toUInt64] at hstart
  have hmono := gridLine_monotone extent.toNat count.toNat
    (Nat.le_add_right position.toNat length.toNat)
  rw [UInt32.toNat_sub_of_le _ _ (by rw [UInt32.le_iff_toNat_le, hstop, hstart]; exact hmono),
    hstop, hstart]

theorem subsampledExtent_toNat (value : UInt32) (log2Subsample : UInt8) :
    (subsampledExtent value log2Subsample).toNat =
      exactSubsampledExtent value.toNat log2Subsample.toNat := by
  have hvalue := value.toNat_lt
  unfold subsampledExtent exactSubsampledExtent
  by_cases hzero : log2Subsample = 0
  · simp [hzero]
  rw [if_neg hzero]
  by_cases hlarge : 32 ≤ log2Subsample
  · have hlog : 32 ≤ log2Subsample.toNat := UInt8.le_iff_toNat_le.mp hlarge
    have hpow : 2 ^ 32 ≤ 2 ^ log2Subsample.toNat := Nat.pow_le_pow_right (by omega) hlog
    rw [if_pos hlarge]
    by_cases hv : value = 0
    · rw [if_pos hv, hv, Nat.div_eq_of_lt (by simp)]
      rfl
    · have hpos : 0 < value.toNat := Nat.pos_of_ne_zero fun h => hv (UInt32.toNat_inj.mp h)
      rw [if_neg hv, show value.toNat + 2 ^ log2Subsample.toNat - 1 =
        2 ^ log2Subsample.toNat + (value.toNat - 1) by omega,
        Nat.add_div_left _ (by omega), Nat.div_eq_of_lt (by omega)]
      rfl
  · have hlog : log2Subsample.toNat < 32 :=
      Nat.lt_of_not_le fun h => hlarge (UInt8.le_iff_toNat_le.mpr h)
    have hpow : 2 ^ log2Subsample.toNat ≤ 2 ^ 31 := Nat.pow_le_pow_right (by omega) (by omega)
    have hpow' : 0 < 2 ^ log2Subsample.toNat := by positivity
    have hdivisor : ((1 : UInt64) <<< log2Subsample.toUInt64).toNat = 2 ^ log2Subsample.toNat := by
      have hshift : log2Subsample.toUInt64.toNat % 64 = log2Subsample.toNat := by
        rw [UInt8.toNat_toUInt64]
        exact Nat.mod_eq_of_lt (by omega)
      rw [UInt64.toNat_shiftLeft, hshift, Nat.shiftLeft_eq, UInt64.toNat_one, one_mul]
      exact Nat.mod_eq_of_lt (by omega)
    have hsum : (value.toUInt64 + (1 : UInt64) <<< log2Subsample.toUInt64).toNat =
        value.toNat + 2 ^ log2Subsample.toNat := by
      rw [UInt64.toNat_add, hdivisor, UInt32.toNat_toUInt64]
      exact Nat.mod_eq_of_lt (by omega)
    have hquotient : (value.toNat + 2 ^ log2Subsample.toNat - 1) / 2 ^ log2Subsample.toNat < 2 ^ 32 := by
      rw [Nat.div_lt_iff_lt_mul hpow']
      obtain ⟨d, hd⟩ := Nat.exists_eq_succ_of_ne_zero hpow'.ne'
      rw [hd]
      omega
    rw [if_neg hlarge]
    simp only
    rw [UInt64.toNat_toUInt32, UInt64.toNat_div, UInt64.toNat_sub_of_le, hsum, hdivisor,
      UInt64.toNat_one]
    · exact Nat.mod_eq_of_lt hquotient
    · rw [UInt64.le_iff_toNat_le, hsum, UInt64.toNat_one]
      omega

section Rectangles

variable {stream : StreamParameters} {slice : SliceDescriptor}

/-- The rectangle that `SliceOutputWindow` computes for a slice in a plane. -/
def outputRect (stream : StreamParameters) (slice : SliceDescriptor) (planeIndex : Nat) :
    Tiling.Rect where
  x := (SliceOutputWindow.planeX stream slice planeIndex).toNat
  y := (SliceOutputWindow.planeY stream slice planeIndex).toNat
  width := (SliceOutputWindow.slicePlaneWidth stream slice planeIndex).toNat
  height := (SliceOutputWindow.slicePlaneHeight stream slice planeIndex).toNat

/-- The rectangle that `SliceInputWindow` computes for a slice in a plane. -/
def inputRect (stream : StreamParameters) (slice : SliceDescriptor) (planeIndex : Nat) :
    Tiling.Rect where
  x := (SliceInputWindow.planeX stream slice planeIndex).toNat
  y := (SliceInputWindow.planeY stream slice planeIndex).toNat
  width := (SliceInputWindow.slicePlaneWidth stream slice planeIndex).toNat
  height := (SliceInputWindow.slicePlaneHeight stream slice planeIndex).toNat

/-- The grid lines of a plane, across and down. -/
def columnLine (stream : StreamParameters) (planeIndex : Nat) : Nat → Nat :=
  gridLine (stream.planeWidth planeIndex).toNat stream.numHSlices.toNat

def rowLine (stream : StreamParameters) (planeIndex : Nat) : Nat → Nat :=
  gridLine (stream.planeHeight planeIndex).toNat stream.numVSlices.toNat

theorem planeWidth_of_luma {planeIndex : Nat} (h : stream.isChromaPlane planeIndex = false) :
    stream.planeWidth planeIndex = stream.width := by
  simp [StreamParameters.planeWidth, h]

theorem planeHeight_of_luma {planeIndex : Nat} (h : stream.isChromaPlane planeIndex = false) :
    stream.planeHeight planeIndex = stream.height := by
  simp [StreamParameters.planeHeight, h]

theorem Placed.grid_pos (h : Placed stream slice) :
    0 < stream.numHSlices.toNat ∧ 0 < stream.numVSlices.toNat := by
  have hwidth : 0 < slice.rasterWidth.toNat :=
    Nat.pos_of_ne_zero fun hz => h.raster_width (UInt32.toNat_inj.mp hz)
  have hheight : 0 < slice.rasterHeight.toNat :=
    Nat.pos_of_ne_zero fun hz => h.raster_height (UInt32.toNat_inj.mp hz)
  have hx := h.x_le
  have hy := h.y_le
  omega

/-- In every plane the window is the raster rectangle between the grid lines. -/
theorem outputRect_eq (h : Placed stream slice) (planeIndex : Nat) :
    outputRect stream slice planeIndex =
      slice.rasterRect.scaled (columnLine stream planeIndex) (rowLine stream planeIndex) := by
  obtain ⟨hh, hv⟩ := h.grid_pos
  have hx := h.x_le
  have hy := h.y_le
  have hX (extent : UInt32) := @scaledGridPosition_toNat extent _ _ hh
    (show slice.rasterX.toUInt64.toNat ≤ _ by rw [UInt32.toNat_toUInt64]; omega)
  have hY (extent : UInt32) := @scaledGridPosition_toNat extent _ _ hv
    (show slice.rasterY.toUInt64.toNat ≤ _ by rw [UInt32.toNat_toUInt64]; omega)
  have hW (extent : UInt32) := @gridExtent_toNat extent _ _ _ hh hx
  have hH (extent : UInt32) := @gridExtent_toNat extent _ _ _ hv hy
  cases hchroma : stream.isChromaPlane planeIndex with
  | true =>
    simp only [outputRect, SliceOutputWindow.planeX, SliceOutputWindow.planeY,
      SliceOutputWindow.slicePlaneWidth, SliceOutputWindow.slicePlaneHeight, hchroma, if_true,
      h.raster_width, h.raster_height, ne_eq, not_false_eq_true, hX, hY, hW, hH,
      UInt32.toNat_toUInt64]
    rfl
  | false =>
    simp only [outputRect, SliceOutputWindow.planeX, SliceOutputWindow.planeY,
      SliceOutputWindow.slicePlaneWidth, SliceOutputWindow.slicePlaneHeight, hchroma,
      Bool.false_eq_true, if_false, h.x, h.y, h.width, h.height, StreamParameters.slicePixelX,
      StreamParameters.slicePixelY, StreamParameters.slicePixelWidth,
      StreamParameters.slicePixelHeight, hX, hY, hW, hH, UInt32.toNat_toUInt64]
    unfold columnLine rowLine
    rw [planeWidth_of_luma hchroma, planeHeight_of_luma hchroma]
    rfl

theorem inputRect_eq_outputRect (h : Placed stream slice) (planeIndex : Nat) :
    inputRect stream slice planeIndex = outputRect stream slice planeIndex := by
  unfold inputRect outputRect SliceInputWindow.planeX SliceInputWindow.planeY
    SliceInputWindow.slicePlaneWidth SliceInputWindow.slicePlaneHeight SliceInputWindow.planeExtent
    SliceOutputWindow.planeX SliceOutputWindow.planeY SliceOutputWindow.slicePlaneWidth
    SliceOutputWindow.slicePlaneHeight
  simp only [h.raster_width, h.raster_height, ne_eq, not_false_eq_true, if_true]

end Rectangles

section Offsets

variable {info : PlaneInfo} {x y width height : UInt32} {messages : WindowMessages}

theorem sampleBytes_toNat (format : SampleFormat) :
    (sampleBytes format).toNat = bytesPerSample format := by
  cases format <;> rfl

theorem bytesPerSample_le (format : SampleFormat) : bytesPerSample format ≤ 2 := by
  cases format <;> decide

theorem maximumOffset_toNat : maximumOffset.toNat = 2 ^ 63 - 1 := by decide

theorem mul_le_of_not_div_lt {a b : UInt64} (h : ¬(b ≠ 0 ∧ maximumOffset / b < a)) :
    a.toNat * b.toNat ≤ 2 ^ 63 - 1 := by
  by_cases hb : b = 0
  · simp [hb]
  · have hpos : 0 < b.toNat := Nat.pos_of_ne_zero fun hz => hb (UInt64.toNat_inj.mp hz)
    have hle : ¬maximumOffset / b < a := fun hlt => h ⟨hb, hlt⟩
    rw [UInt64.lt_iff_toNat_lt, UInt64.toNat_div, Nat.not_lt, Nat.le_div_iff_mul_le hpos,
      maximumOffset_toNat] at hle
    exact hle

/-- An accepted window begins where exact arithmetic puts it. -/
theorem checkedPlaneWindowOffset_ok {offset : UInt64}
    (h : checkedPlaneWindowOffset info x y width height messages = .ok offset) :
    offset.toNat = info.strideBytes.toUInt64.toNat * y.toNat +
      x.toNat * bytesPerSample info.sampleFormat ∧ offset.toNat ≤ 2 ^ 63 - 1 := by
  simp only [checkedPlaneWindowOffset, except_bind_ok, exists_unit, failIf_ok_iff] at h
  obtain ⟨hrow, hcolumn, -, -, hoffset⟩ := h
  obtain rfl := Except.ok.inj hoffset
  have hy : y.toUInt64 = 0 ↔ y = 0 := by
    rw [← UInt64.toNat_inj, ← UInt32.toNat_inj, UInt32.toNat_toUInt64]
    rfl
  have hproduct := mul_le_of_not_div_lt (show ¬(y.toUInt64 ≠ 0 ∧ _) by rw [ne_eq, hy]; exact hrow)
  rw [UInt32.toNat_toUInt64] at hproduct
  have hrowNat : (info.strideBytes.toUInt64 * y.toUInt64).toNat =
      info.strideBytes.toUInt64.toNat * y.toNat := by
    rw [UInt64.toNat_mul, UInt32.toNat_toUInt64]
    exact Nat.mod_eq_of_lt (by omega)
  have hcolumnNat : (x.toUInt64 * sampleBytes info.sampleFormat).toNat =
      x.toNat * bytesPerSample info.sampleFormat := by
    have hx := x.toNat_lt
    have hbytes := bytesPerSample_le info.sampleFormat
    rw [UInt64.toNat_mul, UInt32.toNat_toUInt64, sampleBytes_toNat]
    exact Nat.mod_eq_of_lt (by nlinarith)
  have hmax := maximumOffset_toNat
  have hfits : ¬(maximumOffset - info.strideBytes.toUInt64 * y.toUInt64 <
      x.toUInt64 * sampleBytes info.sampleFormat) := hcolumn
  rw [UInt64.lt_iff_toNat_lt, UInt64.toNat_sub_of_le _ _
    (by rw [UInt64.le_iff_toNat_le, hrowNat, hmax]; exact hproduct), hrowNat, hcolumnNat, hmax] at hfits
  rw [UInt64.toNat_add, hrowNat, hcolumnNat, Nat.mod_eq_of_lt (by omega)]
  omega

theorem rowBytes_toNat (info : PlaneInfo) :
    (info.width.toUInt64 * sampleBytes info.sampleFormat).toNat =
      info.width.toNat * bytesPerSample info.sampleFormat := by
  have hwidth := info.width.toNat_lt
  have hbytes := bytesPerSample_le info.sampleFormat
  rw [UInt64.toNat_mul, UInt32.toNat_toUInt64, sampleBytes_toNat]
  exact Nat.mod_eq_of_lt (by nlinarith)

theorem row_toInt64 {row : UInt64} (hmax : row.toNat ≤ 2 ^ 63 - 1) :
    row.toInt64.toInt = row.toNat := by
  have hbits : row.toInt64.toInt = row.toBitVec.toInt := rfl
  rw [hbits, BitVec.toInt_eq_toNat_of_lt]
  · rfl
  · change 2 * row.toNat < 2 ^ 64
    omega

/-- A stride that is not smaller than a row is not negative. -/
theorem stride_of_row {stride : Int64} {row : UInt64} (hmax : row.toNat ≤ 2 ^ 63 - 1)
    (h : ¬stride < row.toInt64) :
    (row.toNat : Int) ≤ stride.toInt ∧ stride.toUInt64.toNat = stride.toInt.toNat := by
  rw [Int64.lt_iff_toInt_lt, row_toInt64 hmax] at h
  have hstride : 0 ≤ stride := by
    rw [Int64.le_iff_toInt_le]
    change 0 ≤ stride.toInt
    omega
  exact ⟨by omega, by rw [Int64.toNat_toUInt64_of_le hstride]; rfl⟩

theorem stride_not_lt_row {stride : Int64} {row : UInt64} (hmax : ¬maximumOffset < row)
    (hnonneg : ¬stride < 0) (h : ¬stride.toUInt64 < row) : ¬stride < row.toInt64 := by
  rw [UInt64.lt_iff_toNat_lt, Nat.not_lt, maximumOffset_toNat] at hmax
  rw [Int64.lt_iff_toInt_lt] at hnonneg ⊢
  rw [row_toInt64 hmax]
  rw [UInt64.lt_iff_toNat_lt, Int64.toNat_toUInt64_of_le (by
    rw [Int64.le_iff_toInt_le]
    exact Int.not_lt.mp hnonneg)] at h
  have hstride : stride.toInt = stride.toNatClampNeg :=
    (Int.toNat_of_nonneg (Int.not_lt.mp hnonneg)).symm
  omega

/-- The address of a rectangle in a plane, in exact arithmetic. -/
def windowOffset (info : PlaneInfo) (rect : Tiling.Rect) : Int :=
  info.strideBytes.toInt * rect.y + rect.x * bytesPerSample info.sampleFormat

/-- The window is the rectangle, and every row of the plane fits the stride. -/
structure AddressesRect (plane : PlaneView) (rect : Tiling.Rect) (window : PlaneWindow) :
    Prop where
  buffer : window.buffer = plane.buffer
  start : window.start = plane.start
  offset : (window.offset : Int) = windowOffset plane.info rect
  stride : window.strideBytes = plane.info.strideBytes.toInt
  row_le : (plane.info.width.toNat * bytesPerSample plane.info.sampleFormat : Int) ≤
    plane.info.strideBytes.toInt
  width : window.width.toNat = rect.width
  height : window.height.toNat = rect.height
  sampleFormat : window.sampleFormat = plane.info.sampleFormat
  x_le : rect.x + rect.width ≤ plane.info.width.toNat
  y_le : rect.y + rect.height ≤ plane.info.height.toNat

theorem windowOffset_eq {offset : UInt64} {width height : UInt32} (hrow : ¬maximumOffset <
      info.width.toUInt64 * sampleBytes info.sampleFormat)
    (hstride : ¬info.strideBytes < (info.width.toUInt64 * sampleBytes info.sampleFormat).toInt64)
    (hoffset : checkedPlaneWindowOffset info x y width height messages = .ok offset) :
    (offset.toNat : Int) = windowOffset info ⟨x.toNat, y.toNat, width.toNat, height.toNat⟩ ∧
      (info.width.toNat * bytesPerSample info.sampleFormat : Int) ≤ info.strideBytes.toInt := by
  obtain ⟨hoffsetNat, -⟩ := checkedPlaneWindowOffset_ok hoffset
  rw [UInt64.lt_iff_toNat_lt, Nat.not_lt, maximumOffset_toNat] at hrow
  obtain ⟨hle, hstrideNat⟩ := stride_of_row hrow hstride
  rw [rowBytes_toNat] at hle
  have hnonneg : 0 ≤ info.strideBytes.toInt := by omega
  rw [hstrideNat] at hoffsetNat
  zify at hoffsetNat
  rw [Int.toNat_of_nonneg hnonneg] at hoffsetNat
  exact ⟨hoffsetNat, by exact_mod_cast hle⟩

variable {stream : StreamParameters} {frame : FrameView} {slice : SliceDescriptor}
  {planeIndex : Nat} {window : PlaneWindow}

theorem SliceOutputWindow.validatePlane_ok
    (h : SliceOutputWindow.validatePlane stream frame slice planeIndex = .ok window) :
    AddressesRect (frame.plane planeIndex) (outputRect stream slice planeIndex) window := by
  simp only [SliceOutputWindow.validatePlane, checkedPlaneRowBytes, except_bind_ok, exists_unit,
    failIf_ok_iff] at h
  obtain ⟨-, -, -, hrect, minimumStride, ⟨hrow, hminimum⟩, hstride, offset, hoffset, hwindow⟩ := h
  obtain rfl := Except.ok.inj hwindow
  obtain rfl := Except.ok.inj hminimum
  obtain ⟨haddress, hle⟩ := windowOffset_eq hrow hstride hoffset
  exact ⟨rfl, rfl, haddress, rfl, hle, rfl, rfl, rfl,
    add_le_of_not_sub_lt (fun h => hrect (.inl h)) (fun h => hrect (.inr (.inr (.inl h)))),
    add_le_of_not_sub_lt (fun h => hrect (.inr (.inl h))) (fun h => hrect (.inr (.inr (.inr h))))⟩

theorem SliceInputWindow.validatePlane_ok
    (h : SliceInputWindow.validatePlane stream frame slice planeIndex = .ok window) :
    AddressesRect (frame.plane planeIndex) (inputRect stream slice planeIndex) window := by
  simp only [SliceInputWindow.validatePlane, checkedPlaneRowBytes, except_bind_ok, exists_unit,
    failIf_ok_iff] at h
  obtain ⟨hplane, hgeometry, hrect, rowBytes, ⟨hrow, hrowBytes⟩, hstride, offset, hoffset,
    hwindow⟩ := h
  obtain rfl := Except.ok.inj hwindow
  obtain rfl := Except.ok.inj hrowBytes
  rw [not_or, not_or, not_not, not_not] at hplane hgeometry
  obtain ⟨hwidth, hheight, hnonneg⟩ := hgeometry
  have hsigned := stride_not_lt_row hrow hnonneg hstride
  obtain ⟨haddress, hle⟩ := windowOffset_eq hrow hsigned hoffset
  refine ⟨rfl, rfl, haddress, rfl, hle, rfl, rfl, hplane.2.2.symm, ?_, ?_⟩
  · rw [hwidth]
    exact add_le_of_not_sub_lt (fun h => hrect (.inr (.inr (.inl h))))
      (fun h => hrect (.inr (.inr (.inr (.inr (.inl h))))))
  · rw [hheight]
    exact add_le_of_not_sub_lt (fun h => hrect (.inr (.inr (.inr (.inl h)))))
      (fun h => hrect (.inr (.inr (.inr (.inr (.inr h))))))

end Offsets

/-- What the machine computes for a slice in a plane is the exact value. -/
structure ExactGeometry (stream : StreamParameters) (slice : SliceDescriptor)
    (planeIndex : Nat) : Prop where
  subsampled_width : (subsampledExtent stream.width stream.log2HChromaSubsample).toNat =
    exactSubsampledExtent stream.width.toNat stream.log2HChromaSubsample.toNat
  subsampled_height : (subsampledExtent stream.height stream.log2VChromaSubsample).toNat =
    exactSubsampledExtent stream.height.toNat stream.log2VChromaSubsample.toNat
  x_end : (slice.rasterX.toUInt64 + slice.rasterWidth.toUInt64).toNat =
    slice.rasterX.toNat + slice.rasterWidth.toNat
  y_end : (slice.rasterY.toUInt64 + slice.rasterHeight.toUInt64).toNat =
    slice.rasterY.toNat + slice.rasterHeight.toNat
  sweep_x_end : (slice.rasterX + slice.rasterWidth).toNat =
    slice.rasterX.toNat + slice.rasterWidth.toNat
  sweep_y_end : (slice.rasterY + slice.rasterHeight).toNat =
    slice.rasterY.toNat + slice.rasterHeight.toNat
  column_product (position : UInt64) : position.toNat ≤ stream.numHSlices.toNat →
    (position * (stream.planeWidth planeIndex).toUInt64).toNat =
      position.toNat * (stream.planeWidth planeIndex).toNat
  row_product (position : UInt64) : position.toNat ≤ stream.numVSlices.toNat →
    (position * (stream.planeHeight planeIndex).toUInt64).toNat =
      position.toNat * (stream.planeHeight planeIndex).toNat
  column_line (position : UInt64) : position.toNat ≤ stream.numHSlices.toNat →
    (scaledGridPosition (stream.planeWidth planeIndex) stream.numHSlices position).toNat =
      columnLine stream planeIndex position.toNat
  row_line (position : UInt64) : position.toNat ≤ stream.numVSlices.toNat →
    (scaledGridPosition (stream.planeHeight planeIndex) stream.numVSlices position).toNat =
      rowLine stream planeIndex position.toNat
  rect : outputRect stream slice planeIndex =
    slice.rasterRect.scaled (columnLine stream planeIndex) (rowLine stream planeIndex)
  cell_count : (cellCount64 stream).toNat = stream.numHSlices.toNat * stream.numVSlices.toNat
  area : (sliceArea slice).toNat = slice.rasterWidth.toNat * slice.rasterHeight.toNat

section Tiled

variable {stream : StreamParameters} {slice : SliceDescriptor}

theorem Placed.exactGeometry (h : Placed stream slice) (planeIndex : Nat) :
    ExactGeometry stream slice planeIndex where
  subsampled_width := subsampledExtent_toNat _ _
  subsampled_height := subsampledExtent_toNat _ _
  x_end := gridEnd_toNat _ _
  y_end := gridEnd_toNat _ _
  sweep_x_end := by
    have hx := h.x_le
    have hlt := stream.numHSlices.toNat_lt
    rw [UInt32.toNat_add]
    exact Nat.mod_eq_of_lt (by omega)
  sweep_y_end := by
    have hy := h.y_le
    have hlt := stream.numVSlices.toNat_lt
    rw [UInt32.toNat_add]
    exact Nat.mod_eq_of_lt (by omega)
  column_product _ := gridProduct_toNat
  row_product _ := gridProduct_toNat
  column_line _ := scaledGridPosition_toNat h.grid_pos.1
  row_line _ := scaledGridPosition_toNat h.grid_pos.2
  rect := outputRect_eq h planeIndex
  cell_count := cellCount64_toNat stream
  area := sliceArea_toNat slice

theorem columnLine_count (h : Placed stream slice) (planeIndex : Nat) :
    columnLine stream planeIndex stream.numHSlices.toNat = (stream.planeWidth planeIndex).toNat :=
  gridLine_count _ h.grid_pos.1

theorem rowLine_count (h : Placed stream slice) (planeIndex : Nat) :
    rowLine stream planeIndex stream.numVSlices.toNat = (stream.planeHeight planeIndex).toNat :=
  gridLine_count _ h.grid_pos.2

theorem Placed.outputRect_inside (h : Placed stream slice) (planeIndex : Nat) :
    (outputRect stream slice planeIndex).Inside (stream.planeWidth planeIndex).toNat
      (stream.planeHeight planeIndex).toNat := by
  have hraster : slice.rasterRect.Inside stream.numHSlices.toNat stream.numVSlices.toNat :=
    ⟨h.x_le, h.y_le⟩
  have hscaled := hraster.scaled (f := columnLine stream planeIndex)
    (g := rowLine stream planeIndex) (gridLine_monotone _ _) (gridLine_monotone _ _)
  rwa [columnLine_count h, rowLine_count h, ← outputRect_eq h] at hscaled

/-- Placed slices that pass the coverage check cover every sample of a plane once. -/
theorem outputRects_exactCover {slices : List SliceDescriptor}
    (hplaced : ∀ slice ∈ slices, Placed stream slice)
    (hcoverage : validateSliceRasterCoverage stream slices = .ok ()) (planeIndex : Nat) :
    Tiling.ExactCover (fun k : Fin slices.length => outputRect stream (slices.get k) planeIndex)
      (stream.planeWidth planeIndex).toNat (stream.planeHeight planeIndex).toNat := by
  obtain ⟨-, hcover⟩ := validated_exactCover hcoverage
  have hscaled := hcover.scaled (gridLine_monotone (stream.planeWidth planeIndex).toNat
      stream.numHSlices.toNat) (gridLine_monotone (stream.planeHeight planeIndex).toNat
      stream.numVSlices.toNat) (gridLine_zero _ _) (gridLine_zero _ _)
  have hgrid : stream.numHSlices ≠ 0 ∧ stream.numVSlices ≠ 0 := by
    simp only [validateSliceRasterCoverage, except_bind_ok, exists_unit, failIf_ok_iff] at hcoverage
    exact not_or.mp hcoverage.1
  have hh : 0 < stream.numHSlices.toNat :=
    Nat.pos_of_ne_zero fun hz => hgrid.1 (UInt32.toNat_inj.mp hz)
  have hv : 0 < stream.numVSlices.toNat :=
    Nat.pos_of_ne_zero fun hz => hgrid.2 (UInt32.toNat_inj.mp hz)
  rw [gridLine_count _ hh, gridLine_count _ hv] at hscaled
  have hrects : (fun k : Fin slices.length => outputRect stream (slices.get k) planeIndex) =
      fun k => ((slices.get k).rasterRect).scaled (columnLine stream planeIndex)
        (rowLine stream planeIndex) := by
    funext k
    exact outputRect_eq (hplaced _ (List.get_mem slices k)) planeIndex
  rw [hrects]
  exact hscaled

/-- Slice windows tile every plane: each sample is in the rectangle of one slice,
the rectangles are inside the plane, no computation of them wraps, and the
encoder's rectangles are the decoder's. -/
theorem slice_windows_tile {slices : List SliceDescriptor}
    (hslices : ∀ slice ∈ slices, ∃ values descriptor,
      SliceHeaderParser.applyRaster stream values descriptor = .ok slice)
    (hcoverage : validateSliceRasterCoverage stream slices = .ok ()) (planeIndex : Nat) :
    Tiling.ExactCover (fun k : Fin slices.length => outputRect stream (slices.get k) planeIndex)
      (stream.planeWidth planeIndex).toNat (stream.planeHeight planeIndex).toNat ∧
    ∀ slice ∈ slices,
      (outputRect stream slice planeIndex).Inside (stream.planeWidth planeIndex).toNat
        (stream.planeHeight planeIndex).toNat ∧
      inputRect stream slice planeIndex = outputRect stream slice planeIndex ∧
      ExactGeometry stream slice planeIndex ∧
      (∀ frame windows window, SliceOutputWindow.validate stream frame slice = .ok windows →
        windows[planeIndex]? = some window →
        AddressesRect (frame.plane planeIndex) (outputRect stream slice planeIndex) window) ∧
      (∀ frame windows window, SliceInputWindow.validate stream frame slice = .ok windows →
        windows[planeIndex]? = some window →
        AddressesRect (frame.plane planeIndex) (outputRect stream slice planeIndex) window) := by
  have hplaced : ∀ slice ∈ slices, Placed stream slice := by
    intro slice hslice
    obtain ⟨values, descriptor, happly⟩ := hslices slice hslice
    exact applyRaster_placed happly
  refine ⟨outputRects_exactCover hplaced hcoverage planeIndex, fun slice hslice => ?_⟩
  have hslice := hplaced slice hslice
  have hinput := inputRect_eq_outputRect hslice planeIndex
  refine ⟨hslice.outputRect_inside planeIndex, hinput, hslice.exactGeometry planeIndex,
    fun frame windows window hwindows hget => ?_, fun frame windows window hwindows hget => ?_⟩
  · exact SliceOutputWindow.validatePlane_ok (SliceOutputWindow.validate_get hwindows hget)
  · rw [← hinput]
    exact SliceInputWindow.validatePlane_ok (SliceInputWindow.validate_get hwindows hget)

end Tiled

/-- Two slices of a stream with an odd width: a column of the chroma planes falls
to the second one. -/
def oddStream : StreamParameters :=
  { width := 5, height := 1, numHSlices := 2, log2HChromaSubsample := 1,
    quantTableSets := [makeZeroQuantTableSet] }

def oddSlice (x : UInt32) : SliceDescriptor :=
  { x := oddStream.slicePixelX x, y := 0, width := oddStream.slicePixelWidth x 1, height := 1,
    rasterX := x, rasterY := 0, rasterWidth := 1, rasterHeight := 1, quantTableSetIndexes := [0] }

theorem oddSlice_applyRaster (x : UInt32) (hx : x = 0 ∨ x = 1) :
    SliceHeaderParser.applyRaster oddStream
      { x := x, y := 0, width := 1, height := 1, quantTableSetIndexes := [0] } {} =
        .ok (oddSlice x) := by
  rcases hx with rfl | rfl
  · decide
  · decide

theorem slice_windows_tile_odd :
    Tiling.ExactCover
      (fun k : Fin 2 => outputRect oddStream ([oddSlice 0, oddSlice 1].get k) 1) 3 1 := by
  have hslices : ∀ slice ∈ [oddSlice 0, oddSlice 1], ∃ values descriptor,
      SliceHeaderParser.applyRaster oddStream values descriptor = .ok slice := by
    intro slice hslice
    rcases List.mem_pair.mp hslice with rfl | rfl
    · exact ⟨_, _, oddSlice_applyRaster 0 (.inl rfl)⟩
    · exact ⟨_, _, oddSlice_applyRaster 1 (.inr rfl)⟩
  have hcoverage : validateSliceRasterCoverage oddStream [oddSlice 0, oddSlice 1] = .ok () := by
    decide
  exact (slice_windows_tile hslices hcoverage 1).1

end Mffv1
