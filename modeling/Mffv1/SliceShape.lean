import Mffv1.FrameValidator
import Mffv1.SampleRoundTrip

/-!
# The shape of a slice

The windows of one placed slice, in an input frame and in an output frame, have the
same sizes in every plane, and the line states of both sides have their widths.
-/
namespace Mffv1

section Shapes

variable {stream : StreamParameters} {slice : SliceDescriptor} {frame : FrameView}
  {windows : List PlaneWindow} {planeIndex : Nat}

def sliceWidth (stream : StreamParameters) (slice : SliceDescriptor) (planeIndex : Nat) : Nat :=
  (outputRect stream slice planeIndex).width

def sliceHeight (stream : StreamParameters) (slice : SliceDescriptor) (planeIndex : Nat) : Nat :=
  (outputRect stream slice planeIndex).height

theorem planeWindow_get (h : planeIndex < windows.length) :
    windows[planeIndex]? = some (planeWindow windows planeIndex) := by
  simp [planeWindow, List.getD_eq_getElem?_getD, h]

theorem SliceInputWindow.validate_length
    (h : SliceInputWindow.validate stream frame slice = .ok windows) :
    windows.length = stream.codedPlaneCount := by
  simp only [SliceInputWindow.validate, except_bind_ok, exists_unit, failIf_ok_iff] at h
  exact (validatePlanes_ok h.2.2).1

theorem SliceOutputWindow.validate_length
    (h : SliceOutputWindow.validate stream frame slice = .ok windows) :
    windows.length = stream.codedPlaneCount := by
  simp only [SliceOutputWindow.validate, except_bind_ok, exists_unit, failIf_ok_iff] at h
  exact (validatePlanes_ok h.2.2.2.2).1

theorem SliceInputWindow.validate_addresses
    (h : SliceInputWindow.validate stream frame slice = .ok windows)
    (hplane : planeIndex < stream.codedPlaneCount) :
    AddressesRect (frame.plane planeIndex) (inputRect stream slice planeIndex)
      (planeWindow windows planeIndex) :=
  SliceInputWindow.validatePlane_ok
    (validate_get h (planeWindow_get (validate_length h ▸ hplane)))

theorem SliceOutputWindow.validate_addresses
    (h : SliceOutputWindow.validate stream frame slice = .ok windows)
    (hplane : planeIndex < stream.codedPlaneCount) :
    AddressesRect (frame.plane planeIndex) (outputRect stream slice planeIndex)
      (planeWindow windows planeIndex) :=
  SliceOutputWindow.validatePlane_ok
    (validate_get h (planeWindow_get (validate_length h ▸ hplane)))

/-- The rows of an addressed rectangle do not overlap. -/
theorem AddressesRect.rowsSeparate {plane : PlaneView} {rect : Tiling.Rect}
    {window : PlaneWindow} (h : AddressesRect plane rect window) : RowsSeparate window := by
  have hwidth : rect.width * bytesPerSample plane.info.sampleFormat ≤
      plane.info.width.toNat * bytesPerSample plane.info.sampleFormat :=
    Nat.mul_le_mul_right _ (by have hx := h.x_le; omega)
  have hrow := h.row_le
  unfold RowsSeparate
  rw [h.width, h.sampleFormat, h.stride]
  zify at hwidth
  omega

theorem SliceInputWindow.validate_format
    (h : SliceInputWindow.validate stream frame slice = .ok windows)
    (hplane : planeIndex < stream.codedPlaneCount) :
    (planeWindow windows planeIndex).sampleFormat =
      sampleFormatForBitDepth stream.bitsPerRawSample := by
  have hwindow := validate_get h (planeWindow_get (validate_length h ▸ hplane))
  simp only [SliceInputWindow.validatePlane, except_bind_ok, exists_unit, failIf_ok_iff] at hwindow
  obtain ⟨-, -, -, _, -, -, _, -, hwindow⟩ := hwindow
  rw [← Except.ok.inj hwindow]

theorem inputShape (hplaced : Placed stream slice)
    (h : SliceInputWindow.validate stream frame slice = .ok windows) :
    WindowShape stream windows (sliceWidth stream slice) (sliceHeight stream slice) where
  planes := SliceInputWindow.validate_length h
  width planeIndex hplane := by
    rw [(SliceInputWindow.validate_addresses h hplane).width, inputRect_eq_outputRect hplaced]
    rfl
  height planeIndex hplane := by
    rw [(SliceInputWindow.validate_addresses h hplane).height, inputRect_eq_outputRect hplaced]
    rfl
  sampleFormat _ hplane := SliceInputWindow.validate_format h hplane

/-- The planes of the frame are in the format of the stream. -/
def FormatMatches (stream : StreamParameters) (frame : FrameView) : Prop :=
  ∀ planeIndex < stream.codedPlaneCount, (frame.plane planeIndex).info.sampleFormat =
    sampleFormatForBitDepth stream.bitsPerRawSample

theorem outputShape (hformat : FormatMatches stream frame)
    (h : SliceOutputWindow.validate stream frame slice = .ok windows) :
    WindowShape stream windows (sliceWidth stream slice) (sliceHeight stream slice) where
  planes := SliceOutputWindow.validate_length h
  width _ hplane := (SliceOutputWindow.validate_addresses h hplane).width
  height _ hplane := (SliceOutputWindow.validate_addresses h hplane).height
  sampleFormat planeIndex hplane := by
    rw [(SliceOutputWindow.validate_addresses h hplane).sampleFormat]
    exact hformat planeIndex hplane

theorem FrameValidator.validatePlanes_get {message : String}
    {validateInfo : Nat → PlaneInfo → Status} {count first : Nat}
    (h : FrameValidator.validatePlanes frame message validateInfo count first = .ok ()) :
    ∀ k < count, validateInfo (first + k) (frame.plane (first + k)).info = .ok () := by
  induction count generalizing first with
  | zero => exact fun k hk => absurd hk (Nat.not_lt_zero k)
  | succ count ih =>
    simp only [FrameValidator.validatePlanes, except_bind_ok, exists_unit, failIf_ok_iff] at h
    obtain ⟨-, hinfo, hrest⟩ := h
    intro k hk
    cases k with
    | zero => exact hinfo
    | succ k =>
      rw [Nat.add_comm k 1, ← Nat.add_assoc]
      exact ih hrest k (Nat.lt_of_succ_lt_succ hk)

/-- An output frame that is accepted is in the format of the stream. -/
theorem FrameValidator.validateOutput_format
    (h : FrameValidator.validateOutput stream frame = .ok ()) : FormatMatches stream frame := by
  simp only [FrameValidator.validateOutput, except_bind_ok, exists_unit, failIf_ok_iff] at h
  intro planeIndex hplane
  have hinfo := FrameValidator.validatePlanes_get h.2.2.2 planeIndex hplane
  rw [Nat.zero_add] at hinfo
  simp only [FrameValidator.validatePlaneInfo, except_bind_ok, exists_unit, failIf_ok_iff] at hinfo
  exact not_not.mp hinfo.2.1

/-- No plane of an RGB stream is subsampled. -/
theorem planeSize_rgb (hrgb : stream.colorspaceType = 1) (planeIndex : Nat) :
    stream.planeWidth planeIndex = stream.planeWidth 0 ∧
      stream.planeHeight planeIndex = stream.planeHeight 0 := by
  simp [StreamParameters.planeWidth, StreamParameters.planeHeight, hrgb]

/-- A slice has the same part of planes of one size. -/
theorem sliceSize_congr (hplaced : Placed stream slice) {planeIndex other : Nat}
    (hsize : stream.planeWidth planeIndex = stream.planeWidth other ∧
      stream.planeHeight planeIndex = stream.planeHeight other) :
    sliceWidth stream slice planeIndex = sliceWidth stream slice other ∧
      sliceHeight stream slice planeIndex = sliceHeight stream slice other := by
  unfold sliceWidth sliceHeight
  rw [outputRect_eq hplaced, outputRect_eq hplaced, columnLine, columnLine, rowLine, rowLine,
    hsize.1, hsize.2]
  exact ⟨rfl, rfl⟩

theorem sliceSize_rgb (hrgb : stream.colorspaceType = 1) (hplaced : Placed stream slice)
    (planeIndex : Nat) : sliceWidth stream slice planeIndex = sliceWidth stream slice 0 ∧
      sliceHeight stream slice planeIndex = sliceHeight stream slice 0 :=
  sliceSize_congr hplaced (planeSize_rgb hrgb planeIndex)

end Shapes

section Reset

variable {stream : StreamParameters} {windows : List PlaneWindow}

theorem resetLines_get {first : Nat} {lines : List LineState}
    (h : SliceState.resetLines stream first windows = .ok lines) :
    lines.length = windows.length ∧ ∀ k < windows.length,
      lines.getD k {} = LineState.bordered (planeWindow windows k).width.toNat
        (planeBorderValue stream (first + k)) := by
  induction windows generalizing first lines with
  | nil =>
    obtain rfl := Except.ok.inj h
    exact ⟨rfl, fun k hk => absurd hk (Nat.not_lt_zero k)⟩
  | cons window windows ih =>
    simp only [SliceState.resetLines, LineState.reset, except_bind_ok, exists_unit,
      failIf_ok_iff] at h
    obtain ⟨line, ⟨-, hline⟩, rest, hrest, hlines⟩ := h
    obtain rfl := Except.ok.inj hline
    obtain rfl := Except.ok.inj hlines
    obtain ⟨hlength, hget⟩ := ih hrest
    constructor
    · rw [List.length_cons, List.length_cons, hlength]
    · intro k hk
      cases k with
      | zero => rfl
      | succ k =>
        rw [Nat.add_comm k 1, ← Nat.add_assoc, Nat.add_comm 1 k]
        exact hget k (Nat.lt_of_succ_lt_succ hk)

/-- Both sides of a slice start from the same lines. -/
theorem reset_eq {inputs outputs : List PlaneWindow}
    (h : inputs.map PlaneWindow.width = outputs.map PlaneWindow.width) (state : SliceState) :
    state.reset stream inputs = state.reset stream outputs := by
  have hlines (first : Nat) : SliceState.resetLines stream first inputs =
      SliceState.resetLines stream first outputs := by
    induction inputs generalizing outputs first with
    | nil =>
      obtain rfl := List.map_eq_nil_iff.mp h.symm
      rfl
    | cons input inputs ih =>
      cases outputs with
      | nil => cases h
      | cons output outputs =>
        obtain ⟨hwidth, hrest⟩ := List.cons.inj h
        rw [SliceState.resetLines, SliceState.resetLines, hwidth, ih hrest (first + 1)]
  unfold SliceState.reset
  rw [hlines]

theorem reset_sized {width height : Nat → Nat} (hshape : WindowShape stream windows width height)
    {before state : SliceState} (h : before.reset stream windows = .ok state) :
    state.LinesSized stream.codedPlaneCount width := by
  simp only [SliceState.reset, except_bind_ok] at h
  obtain ⟨lines, hlines, hstate⟩ := h
  obtain rfl := Except.ok.inj hstate
  obtain ⟨hlength, hget⟩ := resetLines_get hlines
  constructor
  · exact hlength.trans hshape.planes
  · intro planeIndex hplane
    have hline := hget planeIndex (hshape.planes ▸ hplane)
    unfold SliceState.lineState
    rw [hline, ← hshape.width planeIndex hplane]
    exact LineState.bordered_sized _ _

theorem widths_eq {inputs outputs : List PlaneWindow} {width height : Nat → Nat}
    (hinput : WindowShape stream inputs width height)
    (houtput : WindowShape stream outputs width height) :
    inputs.map PlaneWindow.width = outputs.map PlaneWindow.width := by
  refine List.ext_getElem (by simp [hinput.planes, houtput.planes]) fun planeIndex hi ho => ?_
  rw [List.length_map] at hi ho
  have hplane : planeIndex < stream.codedPlaneCount := hinput.planes ▸ hi
  have hwidth : (planeWindow inputs planeIndex).width = (planeWindow outputs planeIndex).width :=
    UInt32.toNat_inj.mp (by rw [hinput.width planeIndex hplane, houtput.width planeIndex hplane])
  unfold planeWindow at hwidth
  rw [List.getD_eq_getElem _ _ hi, List.getD_eq_getElem _ _ ho] at hwidth
  rw [List.getElem_map, List.getElem_map, hwidth]

end Reset

end Mffv1
