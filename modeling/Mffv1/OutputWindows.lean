import Mffv1.CellWindows
import Mffv1.PlaneSamples
import Mffv1.TemporaryFrames

/-!
# The windows of an output

An output may be larger than the frame. Where its rows fit their stride and its planes the
address space, every cell has a window in every plane, and the samples of the windows are
the samples of the planes.
-/
namespace Mffv1

/-- An accepted output with room for the rows of its planes, which share no byte. -/
structure OutputReady (stream : StreamParameters) (output : FrameView) : Prop where
  accepted : FrameValidator.validateOutput stream output = .ok ()
  apart : PlanesApart stream output
  rows : ∀ planeIndex < stream.codedPlaneCount,
    ((output.plane planeIndex).info.width.toNat *
      bytesPerSample (output.plane planeIndex).info.sampleFormat : Int) ≤
        (output.plane planeIndex).info.strideBytes.toInt
  addressed : ∀ planeIndex < stream.codedPlaneCount,
    (output.plane planeIndex).info.strideBytes.toInt *
      (output.plane planeIndex).info.height.toNat ≤ 2 ^ 63 - 1

/-- What `validate_output` accepts of a plane. -/
structure OutputPlane (stream : StreamParameters) (plane : PlaneView) (planeIndex : Nat) : Prop where
  data : plane.hasData = true
  role : plane.info.role = stream.expectedPlaneRole planeIndex
  width : stream.planeWidth planeIndex ≤ plane.info.width
  height : stream.planeHeight planeIndex ≤ plane.info.height

section Outputs

variable {stream : StreamParameters} {output : FrameView} {slice : SliceDescriptor}
  {windows : List PlaneWindow} {planeIndex : Nat}

theorem validateOutput_plane (h : FrameValidator.validateOutput stream output = .ok ())
    (hplane : planeIndex < stream.codedPlaneCount) :
    OutputPlane stream (output.plane planeIndex) planeIndex := by
  simp only [FrameValidator.validateOutput, except_bind_ok, exists_unit, failIf_ok_iff] at h
  have hdata := validatePlanes_data h.2.2.2 planeIndex hplane
  have hinfo := FrameValidator.validatePlanes_get h.2.2.2 planeIndex hplane
  rw [Nat.zero_add] at hdata hinfo
  simp only [FrameValidator.validatePlaneInfo, except_bind_ok, exists_unit, failIf_ok_iff] at hinfo
  obtain ⟨hrole, -, hsize, -⟩ := hinfo
  rw [not_or, UInt32.not_lt, UInt32.not_lt] at hsize
  exact ⟨hdata, not_not.mp hrole, hsize.1, hsize.2⟩

/-- The rectangle of a placed slice in a plane. -/
theorem outputRect_room (hplaced : Placed stream slice)
    (hplane : OutputPlane stream (output.plane planeIndex) planeIndex) :
    (outputRect stream slice planeIndex).x + (outputRect stream slice planeIndex).width ≤
        (output.plane planeIndex).info.width.toNat ∧
      (outputRect stream slice planeIndex).y + (outputRect stream slice planeIndex).height ≤
        (output.plane planeIndex).info.height.toNat := by
  obtain ⟨hx, hy⟩ := hplaced.outputRect_inside planeIndex
  have hwidth := UInt32.le_iff_toNat_le.mp hplane.width
  have hheight := UInt32.le_iff_toNat_le.mp hplane.height
  exact ⟨by omega, by omega⟩

/-- The window of a slice with rows in a plane. -/
theorem outputPlaneWindow_made (h : OutputReady stream output)
    (hplane : planeIndex < stream.codedPlaneCount) (hplaced : Placed stream slice)
    (hrows : 0 < sliceHeight stream slice planeIndex) :
    ∃ window, SliceOutputWindow.validatePlane stream output slice planeIndex = .ok window := by
  have haccepted := validateOutput_plane h.accepted hplane
  obtain ⟨hx, hy⟩ := outputRect_room hplaced haccepted
  obtain ⟨hxLe, hxRoom⟩ := not_sub_lt hx
  obtain ⟨hyLe, hyRoom⟩ := not_sub_lt hy
  obtain ⟨hrow, hrowMax⟩ := columnOffset_exact (output.plane planeIndex).info.width
    (output.plane planeIndex).info.sampleFormat
  have hfits := h.rows planeIndex hplane
  have haddressed := h.addressed planeIndex hplane
  have hnonneg : 0 ≤ (output.plane planeIndex).info.strideBytes.toInt :=
    le_trans (by positivity) hfits
  obtain ⟨stride, hstride⟩ := Int.eq_ofNat_of_zero_le hnonneg
  rw [hstride] at hfits haddressed
  have hstrideNat : (output.plane planeIndex).info.strideBytes.toUInt64.toNat = stride := by
    rw [Int64.toNat_toUInt64_of_le (Int64.le_iff_toInt_le.mpr hnonneg)]
    exact congrArg Int.toNat hstride
  have hfitsNat : (output.plane planeIndex).info.width.toNat *
      bytesPerSample (output.plane planeIndex).info.sampleFormat ≤ stride := by exact_mod_cast hfits
  have hplaneBytes : stride * (output.plane planeIndex).info.height.toNat ≤ 2 ^ 63 - 1 := by
    have hcast : ((stride * (output.plane planeIndex).info.height.toNat : Nat) : Int) ≤
        2 ^ 63 - 1 := by exact_mod_cast haddressed
    omega
  have hheight : SliceOutputWindow.slicePlaneHeight stream slice planeIndex ≠ 0 := by
    intro hzero
    unfold sliceHeight outputRect at hrows
    rw [hzero] at hrows
    exact Nat.lt_irrefl 0 hrows
  obtain ⟨offset, hoffset⟩ := @windowOffset_of_fits (output.plane planeIndex).info
    (SliceOutputWindow.planeX stream slice planeIndex)
    (SliceOutputWindow.planeY stream slice planeIndex)
    (SliceOutputWindow.slicePlaneWidth stream slice planeIndex)
    (SliceOutputWindow.slicePlaneHeight stream slice planeIndex)
    SliceOutputWindow.windowMessages stride hstrideNat
    (le_trans (Nat.mul_le_mul_right _ hx) hfitsNat) hheight
    (le_trans (Nat.mul_le_mul_left _ hy) hplaneBytes)
  have hminimum : ¬(output.plane planeIndex).info.strideBytes <
      ((output.plane planeIndex).info.width.toUInt64 *
        sampleBytes (output.plane planeIndex).info.sampleFormat).toInt64 := by
    rw [Int64.lt_iff_toInt_lt, row_toInt64 (by omega), hrow, hstride]
    exact Int.not_lt.mpr hfits
  simp only [SliceOutputWindow.validatePlane, checkedPlaneRowBytes, except_bind_ok, exists_unit,
    failIf_ok_iff]
  refine ⟨_, ne_false_of_eq_true haccepted.data, not_not.mpr haccepted.role,
    not_or.mpr ⟨UInt32.not_lt.mpr haccepted.width, UInt32.not_lt.mpr haccepted.height⟩, ?_, _,
    ⟨?_, rfl⟩, hminimum, offset, hoffset, rfl⟩
  · rw [not_or, not_or, not_or]
    exact ⟨hxLe, hyLe, hxRoom, hyRoom⟩
  · rw [UInt64.lt_iff_toNat_lt, hrow]
    exact Nat.not_lt.mpr hrowMax

/-- The windows of a cell. -/
theorem outputWindows_made (h : OutputReady stream output) (hsets : stream.quantTableSets ≠ [])
    (hregions : ¬hasEmptyPlaneRegion stream) {sliceIndex : Nat}
    (hcell : sliceIndex < cellCount stream) :
    ∃ windows, SliceOutputWindow.validate stream output (cellSlice stream sliceIndex) =
      .ok windows := by
  have hplaced := cell_placed hsets hcell
  have hluma : stream.isChromaPlane 0 = false := by
    unfold StreamParameters.isChromaPlane
    exact Bool.and_false _
  obtain ⟨hx, hy⟩ := hplaced.outputRect_inside 0
  rw [planeWidth_of_luma hluma] at hx
  rw [planeHeight_of_luma hluma] at hy
  simp only [outputRect, SliceOutputWindow.planeX, SliceOutputWindow.planeY,
    SliceOutputWindow.slicePlaneWidth, SliceOutputWindow.slicePlaneHeight, hluma,
    Bool.false_eq_true, if_false] at hx hy
  obtain ⟨hxLe, hxRoom⟩ := not_sub_lt hx
  obtain ⟨hyLe, hyRoom⟩ := not_sub_lt hy
  obtain ⟨hwidth, hheight⟩ := cell_size hsets hregions hcell
  have haccepted := h.accepted
  simp only [FrameValidator.validateOutput, except_bind_ok, exists_unit, failIf_ok_iff] at haccepted
  obtain ⟨-, hcount, hplanes, -⟩ := haccepted
  obtain ⟨windows, hwindows⟩ := @validatePlanes_made
    (SliceOutputWindow.validatePlane stream output (cellSlice stream sliceIndex))
    stream.codedPlaneCount 0 fun planeIndex hplane => by
      rw [Nat.zero_add]
      exact outputPlaneWindow_made h hplane hplaced (cell_nonempty hsets hregions hcell hplane).2
  refine ⟨windows, ?_⟩
  simp only [SliceOutputWindow.validate, except_bind_ok, exists_unit, failIf_ok_iff]
  refine ⟨not_or.mpr ⟨hwidth, hheight⟩, ?_, hcount, hplanes, hwindows⟩
  rw [not_or, not_or, not_or]
  exact ⟨hxLe, hyLe, hxRoom, hyRoom⟩

/-- A sample of a window is the sample of the plane at the place of the window. -/
theorem outputSample_eq_frameSample
    (hwindows : SliceOutputWindow.validate stream output slice = .ok windows)
    (hplane : planeIndex < stream.codedPlaneCount) (memory : FrameMemory) (x y : Nat) :
    memory.sampleAt (planeWindow windows planeIndex) x y =
      frameSample output memory planeIndex ((outputRect stream slice planeIndex).x + x)
        ((outputRect stream slice planeIndex).y + y) := by
  have haddress := SliceOutputWindow.validate_addresses hwindows hplane
  unfold FrameMemory.sampleAt frameSample
  dsimp only
  rw [haddress.sampleAddress_eq, haddress.sampleFormat, haddress.buffer]
  push_cast
  rfl

end Outputs

end Mffv1
