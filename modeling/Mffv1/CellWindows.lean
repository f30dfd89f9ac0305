import Mffv1.EncoderProfile
import Mffv1.RangeSpace
import Mffv1.WindowAddressing

/-!
# The cells of an accepted grid

The encoder makes one slice of every cell of its grid. No plane has fewer columns or rows
than the grid, so that no window of a cell is empty; it lies inside the plane, and the
samples in it are samples of the input.
-/
namespace Mffv1

open SliceEncodeExecutor (cellHeader)

/-- The streams that an encoder is configured with. -/
structure ProfileStream (stream : StreamParameters) : Prop where
  profile : ValidProfile stream
  model : stream.quantTableSets = [makeZeroQuantTableSet]
  initialStates : stream.initialStates = []
  transition : stream.stateTransition = defaultStateTransition
  regions : ¬hasEmptyPlaneRegion stream
  parallel : requiresVersion3ParallelSliceLimit stream.version stream.width stream.height = true →
    4 ≤ cellCount64 stream

theorem AcceptedProfile.profileStream {options : EncoderOptions} {info : StreamInfo}
    (h : AcceptedProfile options info) : ProfileStream (encoderStream options info) :=
  ⟨h.validProfile, rfl, rfl, rfl, h.regions, h.parallel⟩

namespace ProfileStream

variable {stream : StreamParameters}

theorem sets_ne (h : ProfileStream stream) : stream.quantTableSets ≠ [] := by
  rw [h.model]
  exact List.cons_ne_nil _ _

theorem chroma (h : ProfileStream stream) (hcolor : stream.colorspaceType = 1) :
    stream.chromaPlanes = true := by
  have hgeometry := h.profile.rgbGeometry
  cases hchroma : stream.chromaPlanes with
  | true => rfl
  | false => simp [hasInvalidRgbGeometry, hcolor, hchroma] at hgeometry

theorem validStream (h : ProfileStream stream) : SliceEncoder.validateStream stream = .ok () := by
  have hsupported : ¬(isSupportedSyntaxColorspace stream.colorspaceType = false ∨
      isSupportedBitDepth stream.bitsPerRawSample = false) := by
    rw [h.profile.colorspace, h.profile.bitDepth]
    decide
  have hstates : ¬(stream.initialStates ≠ [] ∧
      stream.initialStates.length ≠ stream.quantTableSets.length) :=
    fun hbad => hbad.1 h.initialStates
  have hcount : (stream.quantTableSets.getD 0 {}).contextCount ≠ 0 := by
    rw [h.model]
    exact (by decide : (1 : UInt32) ≠ 0)
  unfold SliceEncoder.validateStream
  rw [failIf_of_not hsupported, failIf_of_not (fun hbad => hsupported (.inr hbad.2)),
    failIf_of_not (ne_true_of_eq_false h.profile.rgbGeometry),
    failIf_of_not (ne_true_of_eq_false h.profile.subsamplingChroma),
    failIf_of_not (ne_false_of_eq_true h.profile.subsampling),
    failIf_of_not (by rw [h.model]; decide), failIf_of_not hstates]
  dsimp only
  rw [failIf_of_not hcount, failIf_of_not fun hbad => hbad.1 h.initialStates]
  rfl

end ProfileStream

/-- The slice of a cell, as the raster places it. -/
def cellSlice (stream : StreamParameters) (sliceIndex : Nat) : SliceDescriptor :=
  let x := (sliceIndex % stream.numHSlices.toNat).toUInt32
  let y := (sliceIndex / stream.numHSlices.toNat).toUInt32
  { x := stream.slicePixelX x
    y := stream.slicePixelY y
    width := stream.slicePixelWidth x 1
    height := stream.slicePixelHeight y 1
    rasterX := x
    rasterY := y
    rasterWidth := 1
    rasterHeight := 1
    quantTableSetIndexes := List.replicate stream.quantTableSetIndexCount 0 }

/-- The number of cells. -/
def cellCount (stream : StreamParameters) : Nat :=
  stream.numHSlices.toNat * stream.numVSlices.toNat

section Cells

variable {stream : StreamParameters} {sliceIndex : Nat}

theorem cellColumn_lt (h : sliceIndex < cellCount stream) :
    sliceIndex % stream.numHSlices.toNat < stream.numHSlices.toNat := by
  refine Nat.mod_lt _ (Nat.pos_of_ne_zero fun hzero => ?_)
  rw [cellCount, hzero, Nat.zero_mul] at h
  exact Nat.not_lt_zero _ h

theorem cellRow_lt (h : sliceIndex < cellCount stream) :
    sliceIndex / stream.numHSlices.toNat < stream.numVSlices.toNat :=
  Nat.div_lt_of_lt_mul h

theorem toUInt32_toNat {value : Nat} {bound : UInt32} (h : value < bound.toNat) :
    value.toUInt32.toNat = value := by
  have hbound := bound.toNat_lt
  exact Nat.mod_eq_of_lt (by omega)

theorem quantTableSetIndexCount_pos (stream : StreamParameters) :
    0 < stream.quantTableSetIndexCount := by
  unfold StreamParameters.quantTableSetIndexCount
  omega

/-- The header of a cell is accepted. -/
theorem applyRaster_cell (hsets : stream.quantTableSets ≠ []) (h : sliceIndex < cellCount stream) :
    SliceHeaderParser.applyRaster stream (cellHeader stream sliceIndex) {} =
      .ok (cellSlice stream sliceIndex) := by
  have hx := toUInt32_toNat (cellColumn_lt h)
  have hy := toUInt32_toNat (cellRow_lt h)
  have hcolumn := cellColumn_lt h
  have hrow := cellRow_lt h
  have hcount := quantTableSetIndexCount_pos stream
  have hinside {total position : UInt32} (hlt : position.toNat < total.toNat) :
      ¬total < position ∧ ¬total - position < 1 := by
    refine ⟨fun hgt => ?_, fun hgt => ?_⟩
    · rw [UInt32.lt_iff_toNat_lt] at hgt
      omega
    · have hone : (1 : UInt32).toNat = 1 := rfl
      rw [UInt32.lt_iff_toNat_lt, UInt32.toNat_sub_of_le _ _ (by
        rw [UInt32.le_iff_toNat_le]
        omega), hone] at hgt
      omega
  obtain ⟨hxLe, hxRoom⟩ := hinside (hx ▸ hcolumn)
  obtain ⟨hyLe, hyRoom⟩ := hinside (hy ▸ hrow)
  have hindexes : ¬∃ index ∈ List.replicate stream.quantTableSetIndexCount 0,
      stream.quantTableSets.length ≤ index := by
    rintro ⟨index, hmem, hle⟩
    rw [List.eq_of_mem_replicate hmem, Nat.le_zero, List.length_eq_zero_iff] at hle
    exact hsets hle
  have hnonempty : List.replicate stream.quantTableSetIndexCount 0 ≠ [] := by
    rw [ne_eq, List.replicate_eq_nil_iff]
    omega
  unfold SliceHeaderParser.applyRaster SliceHeaderParser.validatePictureStructure cellHeader
  dsimp only
  rw [failIf_of_not (by decide), failIf_of_not (by
      rw [not_or, not_or, not_or]
      exact ⟨hxLe, hyLe, hxRoom, hyRoom⟩), failIf_of_not hnonempty, failIf_of_not hindexes,
    failIf_of_not (by decide)]
  rfl

theorem cell_placed (hsets : stream.quantTableSets ≠ []) (h : sliceIndex < cellCount stream) :
    Placed stream (cellSlice stream sliceIndex) :=
  applyRaster_placed (applyRaster_cell hsets h)

/-- The cells of the grid are the cells of the raster. -/
theorem cells_exactCover (stream : StreamParameters) : Tiling.ExactCover
    (fun cell : Fin (cellCount stream) => (cellSlice stream cell).rasterRect)
    stream.numHSlices.toNat stream.numVSlices.toNat := by
  have hcontains {cell column row : Nat} (hcell : cell < cellCount stream) :
      (cellSlice stream cell).rasterRect.Contains column row ↔
        column = cell % stream.numHSlices.toNat ∧ row = cell / stream.numHSlices.toNat := by
    have hx : (cellSlice stream cell).rasterX.toNat = cell % stream.numHSlices.toNat :=
      toUInt32_toNat (cellColumn_lt hcell)
    have hy : (cellSlice stream cell).rasterY.toNat = cell / stream.numHSlices.toNat :=
      toUInt32_toNat (cellRow_lt hcell)
    have hone : (1 : UInt32).toNat = 1 := rfl
    unfold Tiling.Rect.Contains SliceDescriptor.rasterRect
    dsimp only
    rw [hx, hy, show (cellSlice stream cell).rasterWidth.toNat = 1 from hone,
      show (cellSlice stream cell).rasterHeight.toNat = 1 from hone]
    omega
  intro column hcolumn row hrow
  have hpos : 0 < stream.numHSlices.toNat := by omega
  have hcell : column + stream.numHSlices.toNat * row < cellCount stream := by
    unfold cellCount
    calc column + stream.numHSlices.toNat * row
        < stream.numHSlices.toNat + stream.numHSlices.toNat * row := by omega
      _ = stream.numHSlices.toNat * (row + 1) := by rw [Nat.mul_succ, Nat.add_comm]
      _ ≤ stream.numHSlices.toNat * stream.numVSlices.toNat := Nat.mul_le_mul_left _ hrow
  refine ⟨⟨column + stream.numHSlices.toNat * row, hcell⟩, (hcontains hcell).mpr ?_,
    fun cell h => Fin.ext ?_⟩
  · rw [Nat.add_mul_mod_self_left, Nat.mod_eq_of_lt hcolumn, Nat.add_mul_div_left _ _ hpos,
      Nat.div_eq_of_lt hcolumn, Nat.zero_add]
    exact ⟨rfl, rfl⟩
  · obtain ⟨rfl, rfl⟩ := (hcontains cell.isLt).mp h
    exact (Nat.mod_add_div _ _).symm

/-- Every sample of a plane is in the window of one cell. -/
theorem cellRects_exactCover (hsets : stream.quantTableSets ≠ [])
    (hcells : 0 < cellCount stream) (planeIndex : Nat) : Tiling.ExactCover
      (fun cell : Fin (cellCount stream) => outputRect stream (cellSlice stream cell) planeIndex)
      (stream.planeWidth planeIndex).toNat (stream.planeHeight planeIndex).toNat := by
  have hgrid := (cell_placed hsets hcells).grid_pos
  have hscaled := (cells_exactCover stream).scaled
    (gridLine_monotone (stream.planeWidth planeIndex).toNat stream.numHSlices.toNat)
    (gridLine_monotone (stream.planeHeight planeIndex).toNat stream.numVSlices.toNat)
    (gridLine_zero _ _) (gridLine_zero _ _)
  rw [gridLine_count _ hgrid.1, gridLine_count _ hgrid.2] at hscaled
  have hrects : (fun cell : Fin (cellCount stream) =>
      outputRect stream (cellSlice stream cell) planeIndex) =
        fun cell : Fin (cellCount stream) => (cellSlice stream cell).rasterRect.scaled
          (columnLine stream planeIndex) (rowLine stream planeIndex) := by
    funext cell
    exact outputRect_eq (cell_placed hsets cell.isLt) planeIndex
  rw [hrects]
  exact hscaled

/-- Every step between two lines of a grid is positive where there is a column for each cell. -/
theorem gridLine_step {extent count position : Nat} (hcount : 0 < count) (h : count ≤ extent) :
    gridLine extent count position < gridLine extent count (position + 1) := by
  unfold gridLine
  calc position * extent / count < position * extent / count + 1 := Nat.lt_succ_self _
    _ = (position * extent + count) / count := (Nat.add_div_right _ hcount).symm
    _ ≤ (position + 1) * extent / count := by
      refine Nat.div_le_div_right ?_
      rw [Nat.succ_mul]
      omega

/-- No plane has an empty part in a cell. -/
theorem cell_nonempty (hsets : stream.quantTableSets ≠ []) (hregions : ¬hasEmptyPlaneRegion stream)
    (h : sliceIndex < cellCount stream) {planeIndex : Nat}
    (hplane : planeIndex < stream.codedPlaneCount) :
    0 < sliceWidth stream (cellSlice stream sliceIndex) planeIndex ∧
      0 < sliceHeight stream (cellSlice stream sliceIndex) planeIndex := by
  have hplaced := cell_placed hsets h
  have hgrid := hplaced.grid_pos
  have hextent : stream.numHSlices.toNat ≤ (stream.planeWidth planeIndex).toNat ∧
      stream.numVSlices.toNat ≤ (stream.planeHeight planeIndex).toNat := by
    constructor
    · rw [← UInt32.le_iff_toNat_le, ← UInt32.not_lt]
      exact fun hlt => hregions ⟨planeIndex, hplane, .inl hlt⟩
    · rw [← UInt32.le_iff_toNat_le, ← UInt32.not_lt]
      exact fun hlt => hregions ⟨planeIndex, hplane, .inr hlt⟩
  unfold sliceWidth sliceHeight
  rw [outputRect_eq hplaced]
  exact ⟨Nat.sub_pos_of_lt (gridLine_step hgrid.1 hextent.1),
    Nat.sub_pos_of_lt (gridLine_step hgrid.2 hextent.2)⟩

theorem cell_size (hsets : stream.quantTableSets ≠ []) (hregions : ¬hasEmptyPlaneRegion stream)
    (h : sliceIndex < cellCount stream) :
    (cellSlice stream sliceIndex).width ≠ 0 ∧ (cellSlice stream sliceIndex).height ≠ 0 := by
  have hplanes : 0 < stream.codedPlaneCount := stream.codedPlaneCount_pos
  have hluma : stream.isChromaPlane 0 = false := by
    unfold StreamParameters.isChromaPlane
    exact Bool.and_false _
  obtain ⟨hwidth, hheight⟩ := cell_nonempty hsets hregions h hplanes
  simp only [sliceWidth, outputRect, SliceOutputWindow.slicePlaneWidth, hluma, Bool.false_eq_true,
    if_false] at hwidth
  simp only [sliceHeight, outputRect, SliceOutputWindow.slicePlaneHeight, hluma,
    Bool.false_eq_true, if_false] at hheight
  constructor
  · intro hzero
    rw [hzero] at hwidth
    exact Nat.lt_irrefl 0 hwidth
  · intro hzero
    rw [hzero] at hheight
    exact Nat.lt_irrefl 0 hheight

end Cells

/-- What `validate_input` accepts of a plane. -/
structure InputPlane (stream : StreamParameters) (plane : PlaneView) (planeIndex : Nat) : Prop where
  data : plane.hasData = true
  role : plane.info.role = stream.expectedPlaneRole planeIndex
  format : plane.info.sampleFormat = sampleFormatForBitDepth stream.bitsPerRawSample
  width : plane.info.width = stream.planeWidth planeIndex
  height : plane.info.height = stream.planeHeight planeIndex
  stride : ¬plane.info.strideBytes < 0

section Inputs

variable {stream : StreamParameters} {input : FrameView} {slice : SliceDescriptor}
  {planeIndex : Nat}

theorem validatePlanes_data {message : String} {validateInfo : Nat → PlaneInfo → Status}
    {count first : Nat}
    (h : FrameValidator.validatePlanes input message validateInfo count first = .ok ()) :
    ∀ k < count, (input.plane (first + k)).hasData = true := by
  induction count generalizing first with
  | zero => exact fun k hk => absurd hk (Nat.not_lt_zero k)
  | succ count ih =>
    simp only [FrameValidator.validatePlanes, except_bind_ok, exists_unit, failIf_ok_iff] at h
    obtain ⟨hdata, -, hrest⟩ := h
    intro k hk
    cases k with
    | zero => exact eq_true_of_ne_false hdata
    | succ k =>
      rw [Nat.add_comm k 1, ← Nat.add_assoc]
      exact ih hrest k (Nat.lt_of_succ_lt_succ hk)

theorem validateInput_plane (h : FrameValidator.validateInput stream input = .ok ())
    (hplane : planeIndex < stream.codedPlaneCount) :
    InputPlane stream (input.plane planeIndex) planeIndex := by
  simp only [FrameValidator.validateInput, except_bind_ok, exists_unit, failIf_ok_iff] at h
  have hdata := validatePlanes_data h.2.2.2 planeIndex hplane
  have hinfo := FrameValidator.validatePlanes_get h.2.2.2 planeIndex hplane
  rw [Nat.zero_add] at hdata hinfo
  simp only [FrameValidator.validateInputPlaneInfo, except_bind_ok, exists_unit,
    failIf_ok_iff] at hinfo
  obtain ⟨hrole, hformat, hsize, hstride, -⟩ := hinfo
  rw [not_or, not_not, not_not] at hsize
  exact ⟨hdata, not_not.mp hrole, not_not.mp hformat, hsize.1, hsize.2, hstride⟩

theorem validateInput_planes (h : FrameValidator.validateInput stream input = .ok ()) :
    ¬(input.planeCount ≠ stream.codedPlaneCount ∨
      (stream.codedPlaneCount ≠ 0 ∧ input.planes = none)) := by
  simp only [FrameValidator.validateInput, except_bind_ok, exists_unit, failIf_ok_iff] at h
  exact not_or.mpr ⟨h.2.1, h.2.2.1⟩

theorem not_sub_lt {total position extent : UInt32}
    (h : position.toNat + extent.toNat ≤ total.toNat) :
    ¬total < position ∧ ¬total - position < extent := by
  have hle : position ≤ total := UInt32.le_iff_toNat_le.mpr (by omega)
  rw [UInt32.lt_iff_toNat_lt, UInt32.lt_iff_toNat_lt, UInt32.toNat_sub_of_le _ _ hle]
  omega

theorem yields_pure {α : Type} {φ : α → Prop} {a : α} (h : φ a) :
    Yields φ (pure a : Except Error α) := h

/-- No plane is too wide for the bytes of a row. -/
theorem makePlaneInfo_stride (stream : StreamParameters) (planeIndex : Nat) :
    (makePlaneInfo stream planeIndex).strideBytes.toInt =
      ((stream.planeWidth planeIndex).toNat *
        bytesPerSample (sampleFormatForBitDepth stream.bitsPerRawSample) : Nat) := by
  have hwidth := (stream.planeWidth planeIndex).toNat_lt
  have hbytes := bytesPerSample_le (sampleFormatForBitDepth stream.bitsPerRawSample)
  have hrow := Nat.mul_le_mul hwidth.le hbytes
  unfold makePlaneInfo
  dsimp only
  exact Int64.toInt_ofNat_of_lt (by omega)

/-- The rows of an accepted input fit its stride, and the last one ends in the address space. -/
theorem inputPlane_last (hinput : FrameValidator.validateInput stream input = .ok ())
    (hplane : planeIndex < stream.codedPlaneCount) (hwidth : stream.planeWidth planeIndex ≠ 0)
    (hheight : stream.planeHeight planeIndex ≠ 0) :
    let row := (stream.planeWidth planeIndex).toNat *
      bytesPerSample (sampleFormatForBitDepth stream.bitsPerRawSample)
    (row : Int) ≤ (input.plane planeIndex).info.strideBytes.toInt ∧
      (input.plane planeIndex).info.strideBytes.toInt.toNat *
        ((stream.planeHeight planeIndex).toNat - 1) + row ≤ 2 ^ 63 - 1 := by
  have haccepted := validateInput_plane hinput hplane
  simp only [FrameValidator.validateInput, except_bind_ok, exists_unit, failIf_ok_iff] at hinput
  have hinfo := FrameValidator.validatePlanes_get hinput.2.2.2 planeIndex hplane
  rw [Nat.zero_add] at hinfo
  simp only [FrameValidator.validateInputPlaneInfo, except_bind_ok, exists_unit,
    failIf_ok_iff] at hinfo
  obtain ⟨-, -, -, -, hminimum, offset, hoffset, -⟩ := hinfo
  have hrow := columnOffset_exact (input.plane planeIndex).info.width
    (input.plane planeIndex).info.sampleFormat
  have hmachine : (((input.plane planeIndex).info.width.toUInt64 *
      sampleBytes (input.plane planeIndex).info.sampleFormat).toInt64).toInt =
        ((stream.planeWidth planeIndex).toNat *
          bytesPerSample (sampleFormatForBitDepth stream.bitsPerRawSample) : Nat) := by
    rw [row_toInt64 (hrow.1 ▸ hrow.2), hrow.1, haccepted.width, haccepted.format]
  have hstride : ((stream.planeWidth planeIndex).toNat *
      bytesPerSample (sampleFormatForBitDepth stream.bitsPerRawSample) : Nat) ≤
        (input.plane planeIndex).info.strideBytes.toInt := by
    rw [← makePlaneInfo_stride]
    exact Int64.le_iff_toInt_le.mp (Int64.not_lt.mp hminimum)
  have hexact := (exactOffsets_of_checks
    (by
      rw [UInt64.not_lt, UInt64.le_iff_toNat_le, hrow.1]
      exact hrow.2)
    (by
      rw [Int64.not_lt, Int64.le_iff_toInt_le, hmachine]
      exact hstride) hoffset).1
  have hlast := hexact.last_sample hwidth hheight
  change (input.plane planeIndex).info.strideBytes.toInt.toNat *
    (0 + (stream.planeHeight planeIndex).toNat - 1) + (0 + (stream.planeWidth planeIndex).toNat) *
      bytesPerSample (input.plane planeIndex).info.sampleFormat ≤ 2 ^ 63 - 1 at hlast
  rw [haccepted.format, Nat.zero_add, Nat.zero_add] at hlast
  exact ⟨hstride, hlast⟩

/-- A window with samples that lies in its plane. -/
theorem inputPlaneWindow_made (hinput : FrameValidator.validateInput stream input = .ok ())
    (hplane : planeIndex < stream.codedPlaneCount) (hplaced : Placed stream slice)
    (hnonempty : 0 < sliceWidth stream slice planeIndex ∧ 0 < sliceHeight stream slice planeIndex) :
    ∃ window, SliceInputWindow.validatePlane stream input slice planeIndex = .ok window := by
  have haccepted := validateInput_plane hinput hplane
  have hinside := hplaced.outputRect_inside planeIndex
  unfold sliceWidth sliceHeight at hnonempty
  rw [← inputRect_eq_outputRect hplaced] at hinside hnonempty
  obtain ⟨hx, hy⟩ := hinside
  obtain ⟨hxLe, hxRoom⟩ := not_sub_lt hx
  obtain ⟨hyLe, hyRoom⟩ := not_sub_lt hy
  have hne {value : UInt32} (hpos : 0 < value.toNat) : value ≠ 0 := by
    rintro rfl
    exact Nat.lt_irrefl 0 hpos
  change _ + (SliceInputWindow.slicePlaneWidth stream slice planeIndex).toNat ≤ _ at hx
  change _ + (SliceInputWindow.slicePlaneHeight stream slice planeIndex).toNat ≤ _ at hy
  obtain ⟨hwidth, hheight⟩ := hnonempty
  change 0 < (SliceInputWindow.slicePlaneWidth stream slice planeIndex).toNat at hwidth
  change 0 < (SliceInputWindow.slicePlaneHeight stream slice planeIndex).toNat at hheight
  obtain ⟨hstride, hlast⟩ := inputPlane_last hinput hplane (hne (by omega)) (hne (by omega))
  rw [← haccepted.format] at hstride hlast
  have hstrideNat : (input.plane planeIndex).info.strideBytes.toUInt64.toNat =
      (input.plane planeIndex).info.strideBytes.toInt.toNat :=
    Int64.toNat_toUInt64_of_le (Int64.not_lt.mp haccepted.stride)
  have hrow := columnOffset_exact (input.plane planeIndex).info.width
    (input.plane planeIndex).info.sampleFormat
  have hcolumns := Nat.mul_le_mul_right
    (bytesPerSample (input.plane planeIndex).info.sampleFormat) hx
  have hrows := Nat.mul_le_mul_left (input.plane planeIndex).info.strideBytes.toInt.toNat
    (Nat.sub_le_sub_right hy 1)
  obtain ⟨offset, hoffset⟩ := @windowOffset_of_last (input.plane planeIndex).info
    (SliceInputWindow.planeX stream slice planeIndex)
    (SliceInputWindow.planeY stream slice planeIndex)
    (SliceInputWindow.slicePlaneWidth stream slice planeIndex)
    (SliceInputWindow.slicePlaneHeight stream slice planeIndex)
    SliceInputWindow.windowMessages _ hstrideNat (hne hheight)
    (le_trans (Nat.add_le_add hrows hcolumns) hlast)
  simp only [SliceInputWindow.validatePlane, checkedPlaneRowBytes, except_bind_ok, exists_unit,
    failIf_ok_iff]
  refine ⟨_, ?_, ?_, ?_, _, ⟨?_, rfl⟩, ?_, offset, hoffset, rfl⟩
  · simp only [haccepted.data, haccepted.role, haccepted.format, Bool.true_eq_false, ne_eq,
      not_true_eq_false, or_self, not_false_iff]
  · simp only [haccepted.width, haccepted.height, haccepted.stride, ne_eq, not_true_eq_false,
      or_self, not_false_iff]
  · rw [not_or, not_or, not_or, not_or, not_or]
    exact ⟨hne hwidth, hne hheight, hxLe, hyLe, hxRoom, hyRoom⟩
  · rw [UInt64.lt_iff_toNat_lt, hrow.1]
    exact Nat.not_lt.mpr hrow.2
  · rw [UInt64.lt_iff_toNat_lt, hrow.1, hstrideNat, haccepted.width]
    omega

/-- The windows of a placed slice of an accepted input. -/
theorem inputWindows_made (hinput : FrameValidator.validateInput stream input = .ok ())
    (hplaced : Placed stream slice) (hnonempty : ∀ planeIndex < stream.codedPlaneCount,
      0 < sliceWidth stream slice planeIndex ∧ 0 < sliceHeight stream slice planeIndex)
    (hsize : slice.width ≠ 0 ∧ slice.height ≠ 0) :
    ∃ windows, SliceInputWindow.validate stream input slice = .ok windows := by
  obtain ⟨windows, hwindows⟩ := @validatePlanes_made
    (SliceInputWindow.validatePlane stream input slice) stream.codedPlaneCount 0
    fun planeIndex hplane => by
      rw [Nat.zero_add]
      exact inputPlaneWindow_made hinput hplane hplaced (hnonempty planeIndex hplane)
  refine ⟨windows, ?_⟩
  simp only [SliceInputWindow.validate, except_bind_ok, exists_unit, failIf_ok_iff]
  refine ⟨?_, validateInput_planes hinput, hwindows⟩
  rw [not_or, not_or, not_or]
  exact ⟨hsize.1, hsize.2, hplaced.raster_width, hplaced.raster_height⟩

end Inputs

/-- A sample of a plane, where its caller has stored it. -/
def frameSample (input : FrameView) (memory : FrameMemory) (planeIndex x y : Nat) : UInt16 :=
  let plane := input.plane planeIndex
  memory.loadSample plane.info.sampleFormat plane.buffer
    (plane.start + plane.info.strideBytes.toInt * y + x * bytesPerSample plane.info.sampleFormat)

/-- Every sample of the coded planes is below two to the bit depth. -/
def SamplesInDepth (stream : StreamParameters) (input : FrameView) (memory : FrameMemory) : Prop :=
  ∀ planeIndex < stream.codedPlaneCount, ∀ x < (stream.planeWidth planeIndex).toNat,
    ∀ y < (stream.planeHeight planeIndex).toNat,
      (frameSample input memory planeIndex x y).toNat < 2 ^ stream.bitsPerRawSample.toNat

section Samples

variable {stream : StreamParameters} {input : FrameView} {memory : FrameMemory}
  {slice : SliceDescriptor} {windows : List PlaneWindow} {planeIndex x y : Nat}

/-- A sample of a window is the sample of the plane at the place of the window. -/
theorem inputSample_eq_frameSample (hplaced : Placed stream slice)
    (hwindows : SliceInputWindow.validate stream input slice = .ok windows)
    (hplane : planeIndex < stream.codedPlaneCount) :
    inputSample stream memory windows planeIndex x y = frameSample input memory planeIndex
      ((outputRect stream slice planeIndex).x + x) ((outputRect stream slice planeIndex).y + y) := by
  have haddress := SliceInputWindow.validate_addresses hwindows hplane
  rw [inputRect_eq_outputRect hplaced] at haddress
  rw [inputSample_eq_sampleAt (inputShape hplaced hwindows) hplane]
  unfold FrameMemory.sampleAt frameSample
  dsimp only
  rw [haddress.sampleAddress_eq, haddress.sampleFormat, haddress.buffer]
  push_cast
  rfl

theorem maximumSample_eq (stream : StreamParameters) :
    maximumSample stream = 2 ^ stream.bitsPerRawSample.toNat - 1 := by
  unfold maximumSample
  split
  · rename_i hdepth
    rw [hdepth]
    rfl
  · rfl

/-- The window of a slice of an input whose samples are in the depth. -/
theorem inputFits_of_samples (hmodel : stream.quantTableSets = [makeZeroQuantTableSet])
    (hdepth : isSupportedBitDepth stream.bitsPerRawSample = true)
    (hchroma : stream.colorspaceType = 1 → stream.chromaPlanes = true)
    (hplaced : Placed stream slice)
    (hwindows : SliceInputWindow.validate stream input slice = .ok windows)
    (hsamples : SamplesInDepth stream input memory) :
    InputFits stream memory windows (sliceWidth stream slice) (sliceHeight stream slice) := by
  refine ⟨hmodel, hdepth, hchroma, inputShape hplaced hwindows,
    fun hcolor planeIndex _ => sliceSize_rgb hcolor hplaced planeIndex,
    fun planeIndex hplane x hx y hy => ?_⟩
  obtain ⟨hright, hbottom⟩ := hplaced.outputRect_inside planeIndex
  unfold sliceWidth at hx
  unfold sliceHeight at hy
  rw [inputSample_eq_frameSample hplaced hwindows hplane, maximumSample_eq]
  have hlt := hsamples planeIndex hplane ((outputRect stream slice planeIndex).x + x) (by omega)
    ((outputRect stream slice planeIndex).y + y) (by omega)
  omega

end Samples

end Mffv1
