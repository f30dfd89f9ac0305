import Mffv1.SliceShape

/-!
# Addresses in a window

A window that is accepted is addressed with offsets that no 64-bit operation wraps, its
samples lie between the ends of the plane, and no two of them share a byte.
-/
namespace Mffv1

/-- The machine computes the exact value, which is an offset of `std::ptrdiff_t`. -/
def ExactOffset (machine : UInt64) (exact : Nat) : Prop :=
  machine.toNat = exact ∧ exact ≤ 2 ^ 63 - 1

/-- Every value that the checks of a window compute, in the order of the code. -/
structure ExactOffsets (info : PlaneInfo) (x y width height : UInt32) : Prop where
  stride_nonneg : 0 ≤ info.strideBytes.toInt
  row_bytes : ExactOffset (info.width.toUInt64 * sampleBytes info.sampleFormat)
    (info.width.toNat * bytesPerSample info.sampleFormat)
  stride : ExactOffset info.strideBytes.toUInt64 info.strideBytes.toInt.toNat
  row_offset : ExactOffset (info.strideBytes.toUInt64 * y.toUInt64)
    (info.strideBytes.toInt.toNat * y.toNat)
  column_offset : ExactOffset (x.toUInt64 * sampleBytes info.sampleFormat)
    (x.toNat * bytesPerSample info.sampleFormat)
  offset : ExactOffset
    (info.strideBytes.toUInt64 * y.toUInt64 + x.toUInt64 * sampleBytes info.sampleFormat)
    (info.strideBytes.toInt.toNat * y.toNat + x.toNat * bytesPerSample info.sampleFormat)
  last_y : width ≠ 0 → height ≠ 0 → ExactOffset (y.toUInt64 + height.toUInt64 - 1)
    (y.toNat + height.toNat - 1)
  last_row_offset : width ≠ 0 → height ≠ 0 →
    ExactOffset (info.strideBytes.toUInt64 * (y.toUInt64 + height.toUInt64 - 1))
      (info.strideBytes.toInt.toNat * (y.toNat + height.toNat - 1))
  last_sample_extent : width ≠ 0 → height ≠ 0 →
    ExactOffset ((x.toUInt64 + width.toUInt64) * sampleBytes info.sampleFormat)
      ((x.toNat + width.toNat) * bytesPerSample info.sampleFormat)
  last_sample : width ≠ 0 → height ≠ 0 →
    info.strideBytes.toInt.toNat * (y.toNat + height.toNat - 1) +
      (x.toNat + width.toNat) * bytesPerSample info.sampleFormat ≤ 2 ^ 63 - 1

section Offsets

variable {info : PlaneInfo} {x y width height : UInt32} {messages : WindowMessages}

theorem columnBytes_exact (x width : UInt32) (format : SampleFormat) :
    ExactOffset ((x.toUInt64 + width.toUInt64) * sampleBytes format)
      ((x.toNat + width.toNat) * bytesPerSample format) := by
  have hx := x.toNat_lt
  have hwidth := width.toNat_lt
  have hbytes := bytesPerSample_le format
  have hbound : (x.toNat + width.toNat) * bytesPerSample format ≤ 2 ^ 33 * 2 :=
    Nat.mul_le_mul (by omega) hbytes
  constructor
  · rw [UInt64.toNat_mul, UInt64.toNat_add, UInt32.toNat_toUInt64, UInt32.toNat_toUInt64,
      sampleBytes_toNat, Nat.mod_eq_of_lt (show x.toNat + width.toNat < 2 ^ 64 by omega)]
    exact Nat.mod_eq_of_lt (by omega)
  · omega

theorem columnOffset_exact (x : UInt32) (format : SampleFormat) :
    ExactOffset (x.toUInt64 * sampleBytes format) (x.toNat * bytesPerSample format) := by
  have h := columnBytes_exact x 0 format
  rw [show x.toUInt64 + (0 : UInt32).toUInt64 = x.toUInt64 from UInt64.add_zero _] at h
  exact h

theorem lastRow_toNat (hheight : height ≠ 0) :
    (y.toUInt64 + height.toUInt64 - 1).toNat = y.toNat + height.toNat - 1 := by
  have hy := y.toNat_lt
  have hlt := height.toNat_lt
  have hpos : 0 < height.toNat :=
    Nat.pos_of_ne_zero fun h => hheight (UInt32.toNat_inj.mp h)
  have hsum : (y.toUInt64 + height.toUInt64).toNat = y.toNat + height.toNat := by
    rw [UInt64.toNat_add, UInt32.toNat_toUInt64, UInt32.toNat_toUInt64]
    exact Nat.mod_eq_of_lt (by omega)
  have hone : (1 : UInt64).toNat = 1 := rfl
  rw [UInt64.toNat_sub_of_le _ _ (by rw [UInt64.le_iff_toNat_le, hsum]; omega), hsum, hone]

/-- A product whose second factor was checked against the first one. -/
theorem product_exact {stride count : UInt64} {exactStride exactCount : Nat}
    (hstride : stride.toNat = exactStride) (hcount : count.toNat = exactCount)
    (h : ¬(count ≠ 0 ∧ maximumOffset / count < stride)) :
    ExactOffset (stride * count) (exactStride * exactCount) := by
  have hle := mul_le_of_not_div_lt h
  rw [hstride, hcount] at hle
  constructor
  · rw [UInt64.toNat_mul, hstride, hcount]
    exact Nat.mod_eq_of_lt (by omega)
  · exact hle

/-- A sum whose second term was checked against what is left above the first one. -/
theorem sum_le {first second : UInt64} {exactFirst exactSecond : Nat}
    (hfirst : ExactOffset first exactFirst) (hsecond : ExactOffset second exactSecond)
    (h : ¬maximumOffset - first < second) : exactFirst + exactSecond ≤ 2 ^ 63 - 1 := by
  have hmax := maximumOffset_toNat
  rw [UInt64.lt_iff_toNat_lt, UInt64.toNat_sub_of_le _ _
    (by rw [UInt64.le_iff_toNat_le, hfirst.1, hmax]; exact hfirst.2), hmax, hfirst.1,
    hsecond.1] at h
  have hle := hfirst.2
  omega

theorem sum_exact {first second : UInt64} {exactFirst exactSecond : Nat}
    (hfirst : ExactOffset first exactFirst) (hsecond : ExactOffset second exactSecond)
    (h : ¬maximumOffset - first < second) :
    ExactOffset (first + second) (exactFirst + exactSecond) := by
  have hle := sum_le hfirst hsecond h
  constructor
  · rw [UInt64.toNat_add, hfirst.1, hsecond.1]
    exact Nat.mod_eq_of_lt (by omega)
  · exact hle

/-- The checks of a window leave nothing to wrap around. -/
theorem exactOffsets_of_checks {offset : UInt64}
    (hrow : ¬maximumOffset < info.width.toUInt64 * sampleBytes info.sampleFormat)
    (hstride : ¬info.strideBytes < (info.width.toUInt64 * sampleBytes info.sampleFormat).toInt64)
    (hoffset : checkedPlaneWindowOffset info x y width height messages = .ok offset) :
    ExactOffsets info x y width height ∧ offset =
      info.strideBytes.toUInt64 * y.toUInt64 + x.toUInt64 * sampleBytes info.sampleFormat := by
  have hrowBytes : ExactOffset (info.width.toUInt64 * sampleBytes info.sampleFormat)
      (info.width.toNat * bytesPerSample info.sampleFormat) := columnOffset_exact _ _
  have hmax : (info.width.toUInt64 * sampleBytes info.sampleFormat).toNat ≤ 2 ^ 63 - 1 := by
    rw [UInt64.lt_iff_toNat_lt, Nat.not_lt, maximumOffset_toNat] at hrow
    exact hrow
  obtain ⟨hle, hstrideNat⟩ := stride_of_row hmax hstride
  have hnonneg : 0 ≤ info.strideBytes.toInt := by omega
  have hstrideLt := info.strideBytes.toInt_lt
  simp only [checkedPlaneWindowOffset, except_bind_ok, exists_unit, failIf_ok_iff] at hoffset
  obtain ⟨hy, hcolumn, hlast, hextent, hresult⟩ := hoffset
  have hyZero : y.toUInt64 = 0 ↔ y = 0 := by
    rw [← UInt64.toNat_inj, ← UInt32.toNat_inj, UInt32.toNat_toUInt64]
    rfl
  have hrowOffset : ExactOffset (info.strideBytes.toUInt64 * y.toUInt64)
      (info.strideBytes.toInt.toNat * y.toNat) :=
    product_exact hstrideNat (UInt32.toNat_toUInt64 y) (by rw [ne_eq, hyZero]; exact hy)
  have hcolumnOffset := columnOffset_exact x info.sampleFormat
  have hlastRow (hwidth : width ≠ 0) (hheight : height ≠ 0) :
      ExactOffset (info.strideBytes.toUInt64 * (y.toUInt64 + height.toUInt64 - 1))
        (info.strideBytes.toInt.toNat * (y.toNat + height.toNat - 1)) :=
    product_exact hstrideNat (lastRow_toNat hheight)
      fun h => hlast ⟨hwidth, hheight, h.1, h.2⟩
  constructor
  · constructor
    · exact hnonneg
    · exact hrowBytes
    · exact ⟨hstrideNat, by omega⟩
    · exact hrowOffset
    · exact hcolumnOffset
    · exact sum_exact hrowOffset hcolumnOffset hcolumn
    · intro _ hheight
      have hyLt := y.toNat_lt
      have hheightLt := height.toNat_lt
      exact ⟨lastRow_toNat hheight, by omega⟩
    · exact hlastRow
    · exact fun _ _ => columnBytes_exact x width info.sampleFormat
    · intro hwidth hheight
      exact sum_le (hlastRow hwidth hheight) (columnBytes_exact x width info.sampleFormat)
        fun h => hextent ⟨hwidth, hheight, h⟩
  · exact (Except.ok.inj hresult).symm

/-- A product below the largest offset passes its check. -/
theorem product_fits {stride count : UInt64} {exactStride exactCount : Nat}
    (hstride : stride.toNat = exactStride) (hcount : count.toNat = exactCount)
    (hle : exactStride * exactCount ≤ 2 ^ 63 - 1) :
    ¬(count ≠ 0 ∧ maximumOffset / count < stride) ∧
      ExactOffset (stride * count) (exactStride * exactCount) := by
  have hcheck : ¬(count ≠ 0 ∧ maximumOffset / count < stride) := by
    rintro ⟨hne, hlt⟩
    have hpos : 0 < exactCount := by
      rw [← hcount]
      exact Nat.pos_of_ne_zero fun hzero => hne (UInt64.toNat_inj.mp hzero)
    rw [UInt64.lt_iff_toNat_lt, UInt64.toNat_div, hcount, hstride, Nat.div_lt_iff_lt_mul hpos,
      maximumOffset_toNat] at hlt
    exact Nat.not_lt.mpr hle hlt
  exact ⟨hcheck, product_exact hstride hcount hcheck⟩

theorem sum_fits {first second : UInt64} {exactFirst exactSecond : Nat}
    (hfirst : ExactOffset first exactFirst) (hsecond : ExactOffset second exactSecond)
    (hle : exactFirst + exactSecond ≤ 2 ^ 63 - 1) : ¬maximumOffset - first < second := by
  rw [UInt64.lt_iff_toNat_lt, UInt64.toNat_sub_of_le _ _ (by
    rw [UInt64.le_iff_toNat_le, hfirst.1, maximumOffset_toNat]
    exact hfirst.2), hfirst.1, hsecond.1, maximumOffset_toNat]
  omega

/-- A window is addressed where its last row ends in the address space. -/
theorem windowOffset_of_last {stride : Nat} (hstride : info.strideBytes.toUInt64.toNat = stride)
    (hheight : height ≠ 0) (hlast : stride * (y.toNat + height.toNat - 1) +
      (x.toNat + width.toNat) * bytesPerSample info.sampleFormat ≤ 2 ^ 63 - 1) :
    ∃ offset, checkedPlaneWindowOffset info x y width height messages = .ok offset := by
  have hpos : 0 < height.toNat := Nat.pos_of_ne_zero fun hzero => hheight (UInt32.toNat_inj.mp hzero)
  have hx := Nat.mul_le_mul_right (bytesPerSample info.sampleFormat)
    (Nat.le_add_right x.toNat width.toNat)
  have hbefore : stride * y.toNat ≤ stride * (y.toNat + height.toNat - 1) :=
    Nat.mul_le_mul_left _ (by omega)
  obtain ⟨hrow, hrowOffset⟩ := product_fits hstride (UInt32.toNat_toUInt64 y) (by omega)
  have hlastRow := @lastRow_toNat y height hheight
  obtain ⟨hrows, hrowsOffset⟩ := product_fits hstride hlastRow (by omega)
  have hyZero : y.toUInt64 = 0 ↔ y = 0 := by
    rw [← UInt64.toNat_inj, ← UInt32.toNat_inj, UInt32.toNat_toUInt64]
    rfl
  rw [ne_eq, hyZero] at hrow
  unfold checkedPlaneWindowOffset
  dsimp only
  rw [failIf_of_not hrow,
    failIf_of_not (sum_fits hrowOffset (columnOffset_exact x info.sampleFormat) (by omega)),
    failIf_of_not fun hbad => hrows hbad.2.2,
    failIf_of_not fun hbad => sum_fits hrowsOffset (columnBytes_exact x width info.sampleFormat)
      (by omega) hbad.2.2]
  exact ⟨_, rfl⟩

/-- A window is addressed where its rows fit the stride and the address space. -/
theorem windowOffset_of_fits {stride : Nat} (hstride : info.strideBytes.toUInt64.toNat = stride)
    (hcolumns : (x.toNat + width.toNat) * bytesPerSample info.sampleFormat ≤ stride)
    (hheight : height ≠ 0) (hrows : stride * (y.toNat + height.toNat) ≤ 2 ^ 63 - 1) :
    ∃ offset, checkedPlaneWindowOffset info x y width height messages = .ok offset := by
  have hpos : 0 < height.toNat := Nat.pos_of_ne_zero fun hzero => hheight (UInt32.toNat_inj.mp hzero)
  have hsplit : stride * (y.toNat + height.toNat - 1) + stride =
      stride * (y.toNat + height.toNat) := by
    rw [← Nat.mul_succ, Nat.succ_eq_add_one, Nat.sub_add_cancel (by omega)]
  exact windowOffset_of_last hstride hheight (by omega)

end Offsets

theorem validatePlanes_made {validatePlane : Nat → Except Error PlaneWindow} {count first : Nat}
    (h : ∀ k < count, ∃ window, validatePlane (first + k) = .ok window) :
    ∃ windows, validatePlanes validatePlane count first = .ok windows := by
  induction count generalizing first with
  | zero => exact ⟨[], rfl⟩
  | succ count ih =>
    obtain ⟨window, hwindow⟩ := h 0 (Nat.zero_lt_succ _)
    obtain ⟨rest, hrest⟩ := @ih (first + 1) fun k hk => by
      rw [Nat.add_assoc, Nat.add_comm 1 k]
      exact h (k + 1) (Nat.succ_lt_succ hk)
    rw [Nat.add_zero] at hwindow
    unfold validatePlanes
    rw [hwindow, hrest]
    exact ⟨_, rfl⟩

/-- The bytes of a sample that is reached through a row of its window. -/
structure SampleInPlane (plane : PlaneView) (windows : List PlaneWindow) (planeIndex x y : Nat) :
    Prop where
  row : rowOfFormat plane.info.sampleFormat windows planeIndex y =
    some ((planeWindow windows planeIndex).rowAddress y)
  row_nonneg : 0 ≤ (y * (planeWindow windows planeIndex).strideBytes : Int)
  row_fits : (y * (planeWindow windows planeIndex).strideBytes : Int) ≤ 2 ^ 63 - 1
  buffer : (planeWindow windows planeIndex).buffer = plane.buffer
  start_le : plane.start ≤ (planeWindow windows planeIndex).sampleAddress x y
  inside : (planeWindow windows planeIndex).sampleAddress x y +
      bytesPerSample plane.info.sampleFormat ≤
    plane.start + (plane.info.strideBytes.toInt * (plane.info.height.toNat - 1) +
      plane.info.width.toNat * bytesPerSample plane.info.sampleFormat)
  fits : (planeWindow windows planeIndex).sampleAddress x y +
    bytesPerSample plane.info.sampleFormat ≤ plane.start + (2 ^ 63 - 1)

section Samples

variable {plane : PlaneView} {rect : Tiling.Rect} {window : PlaneWindow} {x y : Nat}

theorem AddressesRect.sampleAddress_eq (h : AddressesRect plane rect window) (x y : Nat) :
    window.sampleAddress x y = plane.start + plane.info.strideBytes.toInt * (rect.y + y) +
      (rect.x + x) * bytesPerSample plane.info.sampleFormat := by
  unfold PlaneWindow.sampleAddress PlaneWindow.rowAddress
  rw [h.start, h.offset, h.stride, h.sampleFormat]
  unfold windowOffset
  ring

theorem AddressesRect.stride_nonneg (h : AddressesRect plane rect window) :
    0 ≤ plane.info.strideBytes.toInt :=
  le_trans (by positivity) h.row_le

/-- A sample of the rectangle lies in its row of the plane. -/
theorem AddressesRect.sampleAddress_le (h : AddressesRect plane rect window)
    (hx : x < window.width.toNat) (y : Nat) :
    window.sampleAddress x y + bytesPerSample plane.info.sampleFormat ≤
      plane.start + plane.info.strideBytes.toInt * (rect.y + y) +
        (rect.x + rect.width : Nat) * bytesPerSample plane.info.sampleFormat := by
  rw [h.width] at hx
  have hcolumn : ((rect.x + x + 1 : Nat) : Int) * bytesPerSample plane.info.sampleFormat ≤
      (rect.x + rect.width : Nat) * bytesPerSample plane.info.sampleFormat := by
    exact_mod_cast Nat.mul_le_mul_right _ (by omega)
  rw [h.sampleAddress_eq]
  push_cast at hcolumn ⊢
  linarith

theorem AddressesRect.start_le (h : AddressesRect plane rect window) (x y : Nat) :
    plane.start ≤ window.sampleAddress x y := by
  have hstride := h.stride_nonneg
  rw [h.sampleAddress_eq, add_assoc]
  exact le_add_of_nonneg_right (by positivity)

theorem AddressesRect.sampleAddress_inside (h : AddressesRect plane rect window)
    (hx : x < window.width.toNat) (hy : y < window.height.toNat) :
    window.sampleAddress x y + bytesPerSample plane.info.sampleFormat ≤
      plane.start + (plane.info.strideBytes.toInt * (plane.info.height.toNat - 1) +
        plane.info.width.toNat * bytesPerSample plane.info.sampleFormat) := by
  rw [h.height] at hy
  have hrow : plane.info.strideBytes.toInt * (rect.y + y) ≤
      plane.info.strideBytes.toInt * (plane.info.height.toNat - 1) := by
    refine mul_le_mul_of_nonneg_left ?_ h.stride_nonneg
    have hle := h.y_le
    omega
  have hcolumn : ((rect.x + rect.width : Nat) : Int) * bytesPerSample plane.info.sampleFormat ≤
      plane.info.width.toNat * bytesPerSample plane.info.sampleFormat := by
    exact_mod_cast Nat.mul_le_mul_right _ h.x_le
  have hsample := h.sampleAddress_le hx y
  linarith

/-- Two samples of a window do not share a byte. -/
theorem AddressesRect.samples_disjoint (h : AddressesRect plane rect window) {x' y' : Nat}
    (hx : x < window.width.toNat) (hx' : x' < window.width.toNat) (hne : (x, y) ≠ (x', y')) :
    window.sampleAddress x y + bytesPerSample plane.info.sampleFormat ≤ window.sampleAddress x' y' ∨
      window.sampleAddress x' y' + bytesPerSample plane.info.sampleFormat ≤
        window.sampleAddress x y := by
  have hcolumns {a b : Nat} (hab : a < b) :
      ((a : Int) + 1) * bytesPerSample plane.info.sampleFormat ≤
        b * bytesPerSample plane.info.sampleFormat := by
    exact_mod_cast Nat.mul_le_mul_right _ hab
  have hrows {a b row row' : Nat} (ha : a < window.width.toNat) (hrow : row < row') :
      window.sampleAddress a row + bytesPerSample plane.info.sampleFormat ≤
        window.sampleAddress b row' := by
    have hnext := rowAddress_add_le h.rowsSeparate hrow
    have hcolumn := hcolumns ha
    have hstart : 0 ≤ (b : Int) * bytesPerSample plane.info.sampleFormat := by positivity
    rw [h.sampleFormat] at hnext
    unfold PlaneWindow.sampleAddress
    rw [h.sampleFormat]
    linarith
  have hsame {a b : Nat} (hab : a < b) (row : Nat) :
      window.sampleAddress a row + bytesPerSample plane.info.sampleFormat ≤
        window.sampleAddress b row := by
    have hcolumn := hcolumns hab
    unfold PlaneWindow.sampleAddress
    rw [h.sampleFormat]
    linarith
  rcases Nat.lt_trichotomy y y' with hlt | rfl | hgt
  · exact .inl (hrows hx hlt)
  · rcases Nat.lt_trichotomy x x' with hlt | rfl | hgt
    · exact .inl (hsame hlt y)
    · exact absurd rfl hne
    · exact .inr (hsame hgt y)
  · exact .inr (hrows hx' hgt)

end Samples

/-- The two classes of windows. -/
inductive SliceWindowKind where
  | output
  | input

namespace SliceWindowKind

def validate (kind : SliceWindowKind) (stream : StreamParameters) (frame : FrameView)
    (slice : SliceDescriptor) : Except Error (List PlaneWindow) :=
  match kind with
  | .output => SliceOutputWindow.validate stream frame slice
  | .input => SliceInputWindow.validate stream frame slice

section Geometry

variable (kind : SliceWindowKind) (stream : StreamParameters) (slice : SliceDescriptor)
  (planeIndex : Nat)

def planeX : UInt32 :=
  match kind with
  | .output => SliceOutputWindow.planeX stream slice planeIndex
  | .input => SliceInputWindow.planeX stream slice planeIndex

def planeY : UInt32 :=
  match kind with
  | .output => SliceOutputWindow.planeY stream slice planeIndex
  | .input => SliceInputWindow.planeY stream slice planeIndex

def slicePlaneWidth : UInt32 :=
  match kind with
  | .output => SliceOutputWindow.slicePlaneWidth stream slice planeIndex
  | .input => SliceInputWindow.slicePlaneWidth stream slice planeIndex

def slicePlaneHeight : UInt32 :=
  match kind with
  | .output => SliceOutputWindow.slicePlaneHeight stream slice planeIndex
  | .input => SliceInputWindow.slicePlaneHeight stream slice planeIndex

/-- The rectangle of the slice in the plane. -/
def rect : Tiling.Rect where
  x := (kind.planeX stream slice planeIndex).toNat
  y := (kind.planeY stream slice planeIndex).toNat
  width := (kind.slicePlaneWidth stream slice planeIndex).toNat
  height := (kind.slicePlaneHeight stream slice planeIndex).toNat

end Geometry

section Accepted

variable {kind : SliceWindowKind} {stream : StreamParameters} {frame : FrameView}
  {slice : SliceDescriptor} {windows : List PlaneWindow} {planeIndex : Nat}

theorem validate_addresses (h : kind.validate stream frame slice = .ok windows)
    (hplane : planeIndex < windows.length) :
    AddressesRect (frame.plane planeIndex) (kind.rect stream slice planeIndex)
      (planeWindow windows planeIndex) := by
  cases kind with
  | output =>
    exact SliceOutputWindow.validate_addresses h (SliceOutputWindow.validate_length h ▸ hplane)
  | input =>
    exact SliceInputWindow.validate_addresses h (SliceInputWindow.validate_length h ▸ hplane)

theorem validate_exact (h : kind.validate stream frame slice = .ok windows)
    (hplane : planeIndex < windows.length) :
    ExactOffsets (frame.plane planeIndex).info (kind.planeX stream slice planeIndex)
      (kind.planeY stream slice planeIndex) (kind.slicePlaneWidth stream slice planeIndex)
      (kind.slicePlaneHeight stream slice planeIndex) := by
  cases kind with
  | output =>
    have hwindow := SliceOutputWindow.validate_get h (planeWindow_get hplane)
    simp only [SliceOutputWindow.validatePlane, checkedPlaneRowBytes, except_bind_ok, exists_unit,
      failIf_ok_iff] at hwindow
    obtain ⟨-, -, -, -, _, ⟨hrow, hminimum⟩, hstride, offset, hoffset, -⟩ := hwindow
    obtain rfl := Except.ok.inj hminimum
    exact (exactOffsets_of_checks hrow hstride hoffset).1
  | input =>
    have hwindow := SliceInputWindow.validate_get h (planeWindow_get hplane)
    simp only [SliceInputWindow.validatePlane, checkedPlaneRowBytes, except_bind_ok, exists_unit,
      failIf_ok_iff] at hwindow
    obtain ⟨-, hgeometry, -, _, ⟨hrow, hrowBytes⟩, hstride, offset, hoffset, -⟩ := hwindow
    obtain rfl := Except.ok.inj hrowBytes
    rw [not_or, not_or] at hgeometry
    exact (exactOffsets_of_checks hrow (stride_not_lt_row hrow hgeometry.2.2 hstride) hoffset).1

theorem sample_inPlane (h : kind.validate stream frame slice = .ok windows)
    (hplane : planeIndex < windows.length) {x y : Nat}
    (hx : x < (planeWindow windows planeIndex).width.toNat)
    (hy : y < (planeWindow windows planeIndex).height.toNat) :
    SampleInPlane (frame.plane planeIndex) windows planeIndex x y := by
  have haddress := validate_addresses h hplane
  have hexact := validate_exact h hplane
  have hrect := haddress.width
  have hrect' := haddress.height
  have hwidth : kind.slicePlaneWidth stream slice planeIndex ≠ 0 := by
    rintro hzero
    have hnone : (kind.rect stream slice planeIndex).width = 0 := congrArg UInt32.toNat hzero
    omega
  have hheight : kind.slicePlaneHeight stream slice planeIndex ≠ 0 := by
    rintro hzero
    have hnone : (kind.rect stream slice planeIndex).height = 0 := congrArg UInt32.toNat hzero
    omega
  have hstride := haddress.stride_nonneg
  -- the last sample of the window is the one that the checks are about
  have hlast := hexact.last_sample hwidth hheight
  zify at hlast
  rw [Int.toNat_of_nonneg hstride] at hlast
  have hrow : (frame.plane planeIndex).info.strideBytes.toInt *
      ((kind.rect stream slice planeIndex).y + y) ≤
      (frame.plane planeIndex).info.strideBytes.toInt *
        ((kind.planeY stream slice planeIndex).toNat +
          (kind.slicePlaneHeight stream slice planeIndex).toNat - 1 : Nat) := by
    refine mul_le_mul_of_nonneg_left ?_ hstride
    have hlt : y < (kind.slicePlaneHeight stream slice planeIndex).toNat :=
      lt_of_lt_of_eq hy hrect'
    have hcolumn : (kind.rect stream slice planeIndex).y =
        (kind.planeY stream slice planeIndex).toNat := rfl
    omega
  have hsample := haddress.sampleAddress_le hx y
  have hfits : (planeWindow windows planeIndex).sampleAddress x y +
      bytesPerSample (frame.plane planeIndex).info.sampleFormat ≤
        (frame.plane planeIndex).start + (2 ^ 63 - 1) := by
    have hend : (frame.plane planeIndex).info.strideBytes.toInt *
        ((kind.planeY stream slice planeIndex).toNat +
          (kind.slicePlaneHeight stream slice planeIndex).toNat - 1 : Nat) +
        (((kind.rect stream slice planeIndex).x + (kind.rect stream slice planeIndex).width : Nat) *
          bytesPerSample (frame.plane planeIndex).info.sampleFormat : Int) ≤ 2 ^ 63 - 1 := by
      exact_mod_cast hlast
    linarith
  constructor
  · unfold rowOfFormat
    exact if_neg (by simp [hplane, hy, haddress.sampleFormat])
  · rw [haddress.stride]
    positivity
  · have hstart := haddress.sampleAddress_eq x y
    rw [haddress.stride]
    have hrectRow : 0 ≤ (frame.plane planeIndex).info.strideBytes.toInt *
        ((kind.rect stream slice planeIndex).y : Int) := by positivity
    have hcolumn : 0 ≤ (((kind.rect stream slice planeIndex).x : Int) + x) *
        bytesPerSample (frame.plane planeIndex).info.sampleFormat := by positivity
    have hbytes : 0 ≤ (bytesPerSample (frame.plane planeIndex).info.sampleFormat : Int) := by
      positivity
    rw [mul_add] at hstart
    linarith
  · exact haddress.buffer
  · exact haddress.start_le x y
  · exact haddress.sampleAddress_inside hx hy
  · exact hfits

end Accepted

end SliceWindowKind

/-- In a window that is accepted, for the output of a decoder or the input of an encoder, no
offset wraps around, every sample lies in its plane, and no two samples share a byte. -/
theorem window_addressing {kind : SliceWindowKind} {stream : StreamParameters}
    {frame : FrameView} {slice : SliceDescriptor} {windows : List PlaneWindow}
    (h : kind.validate stream frame slice = .ok windows) {planeIndex : Nat}
    (hplane : planeIndex < windows.length) :
    ExactOffsets (frame.plane planeIndex).info (kind.planeX stream slice planeIndex)
        (kind.planeY stream slice planeIndex) (kind.slicePlaneWidth stream slice planeIndex)
        (kind.slicePlaneHeight stream slice planeIndex) ∧
      ∀ x y, x < (planeWindow windows planeIndex).width.toNat →
        y < (planeWindow windows planeIndex).height.toNat →
        SampleInPlane (frame.plane planeIndex) windows planeIndex x y ∧
        ∀ x' y', x' < (planeWindow windows planeIndex).width.toNat →
          y' < (planeWindow windows planeIndex).height.toNat → (x, y) ≠ (x', y') →
          (planeWindow windows planeIndex).sampleAddress x y +
              bytesPerSample (frame.plane planeIndex).info.sampleFormat ≤
            (planeWindow windows planeIndex).sampleAddress x' y' ∨
          (planeWindow windows planeIndex).sampleAddress x' y' +
              bytesPerSample (frame.plane planeIndex).info.sampleFormat ≤
            (planeWindow windows planeIndex).sampleAddress x y := by
  refine ⟨SliceWindowKind.validate_exact h hplane, fun x y hx hy =>
    ⟨SliceWindowKind.sample_inPlane h hplane hx hy, fun x' y' hx' _ hne => ?_⟩⟩
  exact (SliceWindowKind.validate_addresses h hplane).samples_disjoint hx hx' hne

/-- Two slices beside each other, in rows with room for one more sample. -/
def paddedStream : StreamParameters where
  version := 3
  chromaPlanes := false
  bitsPerRawSample := 16
  width := 3
  height := 2
  numHSlices := 2
  numVSlices := 1

def paddedFrame : FrameView where
  planes := some [{
    hasData := true
    info := { sampleFormat := .uint16, width := 3, height := 2, strideBytes := 8 } }]
  planeCount := 1

def paddedSlice : SliceDescriptor where
  rasterX := 1
  rasterWidth := 1
  rasterHeight := 1
  x := 1
  width := 2
  height := 2

def paddedWindows : List PlaneWindow :=
  [{ offset := 2, strideBytes := 8, width := 2, height := 2, sampleFormat := .uint16 }]

theorem window_addressing_padded :
    ExactOffsets (paddedFrame.plane 0).info (SliceWindowKind.output.planeX paddedStream paddedSlice 0)
        (SliceWindowKind.output.planeY paddedStream paddedSlice 0)
        (SliceWindowKind.output.slicePlaneWidth paddedStream paddedSlice 0)
        (SliceWindowKind.output.slicePlaneHeight paddedStream paddedSlice 0) ∧
      ∀ x y, x < (planeWindow paddedWindows 0).width.toNat →
        y < (planeWindow paddedWindows 0).height.toNat →
        SampleInPlane (paddedFrame.plane 0) paddedWindows 0 x y ∧
        ∀ x' y', x' < (planeWindow paddedWindows 0).width.toNat →
          y' < (planeWindow paddedWindows 0).height.toNat → (x, y) ≠ (x', y') →
          (planeWindow paddedWindows 0).sampleAddress x y +
              bytesPerSample (paddedFrame.plane 0).info.sampleFormat ≤
            (planeWindow paddedWindows 0).sampleAddress x' y' ∨
          (planeWindow paddedWindows 0).sampleAddress x' y' +
              bytesPerSample (paddedFrame.plane 0).info.sampleFormat ≤
            (planeWindow paddedWindows 0).sampleAddress x y :=
  @window_addressing .output paddedStream paddedFrame paddedSlice paddedWindows (by rfl) 0
    (by decide)

end Mffv1
