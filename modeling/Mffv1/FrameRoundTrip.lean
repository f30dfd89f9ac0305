import Mffv1.CodeLengths
import Mffv1.FrameReordering
import Mffv1.GolombRiceSlices
import Mffv1.OutputWindows
import Mffv1.SliceLocation

/-!
# Frames are read back

The decoder parses what the encoder has made of the cells of a frame. It refuses the frame
where the code of a cell ends within its header, as the content would begin behind the
footer; otherwise it comes to the samples of the input, and keeps the states that the
encoder keeps.
-/
namespace Mffv1

open SliceEncodeExecutor (cellHeader cellLayout)

/-- The part of a plane that a cell covers holds the samples of the input. -/
def CellSame (stream : StreamParameters) (input output : FrameView) (memory : FrameMemory)
    (sliceIndex : Nat) (decoded : FrameMemory) : Prop :=
  ∀ planeIndex < stream.codedPlaneCount, ∀ x y,
    (outputRect stream (cellSlice stream sliceIndex) planeIndex).Contains x y →
      frameSample output decoded planeIndex x y = frameSample input memory planeIndex x y

/-- The error of a slice whose content would begin behind its footer. -/
def contentError (slice : SliceDescriptor) : Error :=
  setSliceLocationIfMissing (makeByteError .syntaxError "slice footer offset is before content"
    slice.footerByteOffset) slice.index

/-- What the decoder makes of the slice of a cell. -/
structure CellRead (stream : StreamParameters) (input output : FrameView) (memory : FrameMemory)
    (sliceIndex : Nat) (keyframe : Bool) (state after : SliceState) (slice : SliceDescriptor) :
    Prop where
  placed : Placed stream slice
  layout : sliceLayout slice = cellLayout stream sliceIndex
  reaches : stream.entropyMode = .golombRice → slice.contentByteOffset ≤ slice.footerByteOffset
  refused : slice.footerByteOffset < slice.contentByteOffset →
    SliceExecutor.validateSlice stream output slice = .error (contentError slice)
  accepted : slice.contentByteOffset ≤ slice.footerByteOffset →
    SliceExecutor.validateSlice stream output slice = .ok ()
  decoded : shouldPreferGolombRiceReadAheadBoundary stream = false →
    slice.contentByteOffset ≤ slice.footerByteOffset → ∀ before, ∃ decoded,
    SliceExecutor.decodeSlice stream output slice { memory := before, state } =
      .ok () { memory := decoded, state := after } ∧
    CellSame stream input output memory sliceIndex decoded
  boundary : stream.entropyMode = .golombRice →
    shouldPreferGolombRiceReadAheadBoundary stream = false →
    BoundaryKept stream output sliceIndex keyframe state slice

/-- A block that the parser takes for a cell. -/
structure BlockRead (stream : StreamParameters) (input output : FrameView) (memory : FrameMemory)
    (sliceIndex : Nat) (keyframe : Bool) (state after : SliceState) (block : Bytes) : Prop where
  isBlock : IsSliceBlock stream block
  crc : CrcValid stream block
  parsed : ∀ (offset : Nat) (flag : Bool), (sliceIndex ≠ 0 → flag = keyframe) →
    ∃ slice reader, FrameParser.parseLocatedSlice stream sliceIndex flag
        { blockDescriptor stream offset block with index := sliceIndex } {} =
          .ok (keyframe, slice) reader ∧
      CellRead stream input output memory sliceIndex keyframe state after slice

section Cells

variable {stream : StreamParameters} {input output : FrameView} {memory : FrameMemory}
  {sliceIndex : Nat} {keyframe : Bool} {state after started : SliceState} {code block : Bytes}
  {inputs outputs : List PlaneWindow} {decoded : FrameMemory} {slice : SliceDescriptor}

/-- The samples of the windows of a cell are the samples of its part of the planes. -/
theorem cellSame_of_windows (hplaced : Placed stream (cellSlice stream sliceIndex))
    (hinput : SliceInputWindow.validate stream input (cellSlice stream sliceIndex) = .ok inputs)
    (houtput : SliceOutputWindow.validate stream output (cellSlice stream sliceIndex) = .ok outputs)
    (hsame : ∀ planeIndex < stream.codedPlaneCount,
      ∀ x < sliceWidth stream (cellSlice stream sliceIndex) planeIndex,
      ∀ y < sliceHeight stream (cellSlice stream sliceIndex) planeIndex,
        decoded.sampleAt (planeWindow outputs planeIndex) x y =
          memory.sampleAt (planeWindow inputs planeIndex) x y) :
    CellSame stream input output memory sliceIndex decoded := by
  intro planeIndex hplane x y hcontains
  obtain ⟨⟨hleft, hright⟩, htop, hbottom⟩ := hcontains
  have hsample := hsame planeIndex hplane
    (x - (outputRect stream (cellSlice stream sliceIndex) planeIndex).x) (by
      unfold sliceWidth
      omega)
    (y - (outputRect stream (cellSlice stream sliceIndex) planeIndex).y) (by
      unfold sliceHeight
      omega)
  rw [outputSample_eq_frameSample houtput hplane,
    ← inputSample_eq_sampleAt (inputShape hplaced hinput) hplane,
    inputSample_eq_frameSample hplaced hinput hplane, Nat.add_sub_cancel' hleft,
    Nat.add_sub_cancel' htop] at hsample
  exact hsample

/-- A slice whose windows and content are accepted. -/
theorem validateSlice_of_valid
    (houtput : SliceOutputWindow.validate stream output slice = .ok outputs)
    (hvalid : SliceDecoder.validate stream slice outputs = .ok ()) :
    SliceExecutor.validateSlice stream output slice = .ok () := by
  have hcheck : (SliceOutputWindow.validate stream output slice >>= fun windows =>
      SliceDecoder.validate stream slice windows) = .ok () := by
    rw [houtput]
    exact hvalid
  unfold SliceExecutor.validateSlice
  dsimp only
  rw [hcheck]

/-- A range-coded slice without content. -/
theorem validateSlice_short (hmode : stream.entropyMode = .range)
    (houtput : SliceOutputWindow.validate stream output slice = .ok outputs)
    (hcontent : SliceDecoder.resolveContentPayload stream slice = .error
      (makeByteError .syntaxError "slice footer offset is before content"
        slice.footerByteOffset)) :
    SliceExecutor.validateSlice stream output slice = .error (contentError slice) := by
  have hcandidates : makeGolombRiceContentCandidates stream slice = [slice] := by
    unfold makeGolombRiceContentCandidates canTryGolombRiceReadAheadBoundary
    rw [hmode]
    rfl
  have hcheck : (SliceOutputWindow.validate stream output slice >>= fun windows =>
      SliceDecoder.validate stream slice windows) = .error
      (makeByteError .syntaxError "slice footer offset is before content"
        slice.footerByteOffset) := by
    rw [houtput]
    unfold SliceDecoder.validate
    rw [hcontent]
    rfl
  unfold SliceExecutor.validateSlice
  rw [hcandidates]
  dsimp only
  rw [List.any_cons, List.any_nil, hcheck]
  rfl

end Cells

section Blocks

variable {stream : StreamParameters} {input output : FrameView} {memory : FrameMemory}
  {sliceIndex : Nat} {keyframe : Bool} {state after started : SliceState} {code block : Bytes}
  {inputs : List PlaneWindow} {written : RangeEncoder}

variable (h : WrittenStream stream) (hregions : ¬hasEmptyPlaneRegion stream)
  (hcell : sliceIndex < cellCount stream) (houtput : OutputReady stream output)
  (hinput : SliceInputWindow.validate stream input (cellSlice stream sliceIndex) = .ok inputs)
  (hreset : state.reset stream inputs = .ok started)
  (hfooter : SliceFooterWriter.append stream 0 code = .ok block)
  (hintra : sliceIndex = 0 → keyframe = false → stream.intraOnly = false)
include h hregions hcell houtput hinput hreset hfooter hintra

theorem blockRead_range (hmode : stream.entropyMode = .range) {configured : RangeEncoder}
    {banks : List ContextStateBank} {encoding : Encoding RangeEncoder}
    (coding : RangeCoding stream memory inputs sliceIndex keyframe started after code written
      configured banks encoding) :
    BlockRead stream input output memory sliceIndex keyframe state after block := by
  have hplaced := cell_placed h.sets_ne hcell
  obtain ⟨outputs, hwindows⟩ := outputWindows_made houtput h.sets_ne hregions hcell
  have hin := inputShape hplaced hinput
  have hout := outputShape (FrameValidator.validateOutput_format houtput.accepted) hwindows
  have hrgb (hcolor : stream.colorspaceType = 1) (planeIndex : Nat)
      (_ : planeIndex < stream.codedPlaneCount) := sliceSize_rgb hcolor hplaced planeIndex
  have hfits := (coding.reads_back h hplaced hin hout (reset_sized hin hreset)).1
  obtain ⟨hblockFits, hblockLength⟩ := coding.fits_block hfits hfooter
  have hready := (writeHeader_checked (cellHeader_indexes stream sliceIndex) coding.header).2
  have hne : code ≠ [] := by
    rw [coding.code]
    exact List.ne_nil_of_length_pos
      (Nat.lt_of_lt_of_le Nat.zero_lt_two (RangeEncoder.closedBytes_length coding.bounded.ready))
  obtain ⟨hblock, hcrc⟩ := append_isSliceBlock hfooter
  refine ⟨hblock, hcrc, fun offset flag hflag => ?_⟩
  have hlocated := locatedCode_of_append hfooter hne offset sliceIndex
  obtain ⟨start, middle, reader, hbytes, hstart, htracks⟩ := cellStart_read coding.header hblockFits
    (Nat.le_trans hready.length_ge hblockLength)
  have hposition : contentPosition stream reader = written.lowBytes.length := by
    unfold contentPosition
    rw [hmode, if_neg (by decide), htracks.window.position]
    exact Nat.min_eq_left hblockLength
  have hparse := @parseLocatedSlice_cell stream
    { blockDescriptor stream offset block with index := sliceIndex } sliceIndex keyframe flag start
    middle reader h.sets_ne hcell hbytes hstart hintra hflag (by
      rw [hposition]
      exact hblockLength)
  rw [hposition] at hparse
  refine ⟨_, reader, hparse, locatedCell_placed h.sets_ne hcell, rfl, fun hother => ?_,
    fun hbehind => ?_, fun hreach => ?_, fun _ hreach before => ?_, fun hother => ?_⟩
  · rw [hmode] at hother
    cases hother
  · have hshort : code.length < written.lowBytes.length := by
      rw [← Nat.not_le]
      exact fun hcode => Nat.not_le.mpr hbehind (hlocated.reaches_iff.mpr hcode)
    exact validateSlice_short hmode hwindows
      (hlocated.cell.resolveContentPayload_short rfl hblockLength hshort)
  · exact validateSlice_of_valid hwindows (validate_cell h (hlocated.cell.resolveContentPayload_eq
      rfl (hlocated.reaches_iff.mp hreach) (.inr ⟨hmode, h.version⟩)) hout.planes)
  · refine ⟨_, decodeSlice_range h hcell hmode hlocated rfl hintra hinput hreset coding
      (hlocated.reaches_iff.mp hreach) houtput.accepted hwindows before, ?_⟩
    exact cellSame_of_windows hplaced hinput hwindows fun planeIndex hplane x hx y hy =>
      sampleAt_sliceStores hin hout hrgb (houtput.apart.windowsApart hplaced hwindows) hplane
        (SliceOutputWindow.validate_addresses hwindows hplane).rowsSeparate hx hy before
  · rw [hmode] at hother
    cases hother

theorem blockRead_golombRice (hmode : stream.entropyMode = .golombRice) {content : Bytes}
    (coding : GolombRiceCoding stream memory inputs sliceIndex keyframe started after code written
      content) :
    BlockRead stream input output memory sliceIndex keyframe state after block := by
  have hplaced := cell_placed h.sets_ne hcell
  obtain ⟨outputs, hwindows⟩ := outputWindows_made houtput h.sets_ne hregions hcell
  have hin := inputShape hplaced hinput
  have hout := outputShape (FrameValidator.validateOutput_format houtput.accepted) hwindows
  have hnonempty (planeIndex : Nat) (hplane : planeIndex < stream.codedPlaneCount) :=
    cell_nonempty h.sets_ne hregions hcell hplane
  have hcoded : 0 < stream.codedPlaneCount := stream.codedPlaneCount_pos
  obtain ⟨encoding, hencoded⟩ := coding.encoded
  have hsome := (golombRiceContent_reads h hplaced rfl hin hout (reset_sized hin hreset)
    (hnonempty 0 hcoded) hencoded true).1
  have hready := (writeHeader_checked (cellHeader_indexes stream sliceIndex) coding.header).2
  have hlength : code.length = written.lowBytes.length + content.length := by
    rw [coding.code, List.length_append]
  have hcontentLength := List.length_pos_iff.mpr hsome
  have hne : code ≠ [] := List.ne_nil_of_length_pos (by omega)
  obtain ⟨hblock, hcrc⟩ := append_isSliceBlock hfooter
  obtain ⟨-, -, footer, hblockEq, -⟩ := append_ok hfooter
  have hsplit : block = written.lowBytes ++ (content ++ footer) := by
    rw [hblockEq, coding.code, List.append_assoc]
  refine ⟨hblock, hcrc, fun offset flag hflag => ?_⟩
  have hlocated := locatedCode_of_append hfooter hne offset sliceIndex
  have hblockLength : written.lowBytes.length ≤ block.length := by
    rw [hsplit, List.length_append]
    exact Nat.le_add_right _ _
  obtain ⟨start, middle, reader, hbytes, hstart, htracks⟩ := cellStart_read coding.header
    (hsplit ▸ finalize_fits hready _) (Nat.le_trans hready.length_ge hblockLength)
  have hposition : contentPosition stream reader = written.lowBytes.length := by
    obtain ⟨hbytePosition, hlow⟩ := tracks_finalized (hsplit ▸ htracks)
    unfold contentPosition
    rw [if_pos hmode, golombRiceContentBytePosition_of_low hlow, hbytePosition]
  have hparse := @parseLocatedSlice_cell stream
    { blockDescriptor stream offset block with index := sliceIndex } sliceIndex keyframe flag start
    middle reader h.sets_ne hcell hbytes hstart hintra hflag (by
      rw [hposition]
      exact hblockLength)
  rw [hposition] at hparse
  refine ⟨_, reader, hparse, locatedCell_placed h.sets_ne hcell, rfl, fun _ => ?_,
    fun hbehind => ?_, fun _ => ?_, fun hprefer _ before => ?_, fun _ hprefer => ?_⟩
  · exact hlocated.reaches_iff.mpr (by omega)
  · exact absurd (hlocated.reaches_iff.mpr (by omega)) (Nat.not_le.mpr hbehind)
  · exact validateSlice_of_valid hwindows (validate_cell h
      (hlocated.cell.resolveContentPayload_eq rfl (by omega) (.inl (by omega))) hout.planes)
  · obtain ⟨-, decoded, hdecode, hsame⟩ := decodeSlice_golombRice h hcell hmode hprefer hlocated
      hnonempty hinput hreset coding houtput.accepted houtput.apart hwindows before
    exact ⟨decoded, hdecode, cellSame_of_windows hplaced hinput hwindows hsame⟩
  · exact (decodeSlice_golombRice h hcell hmode hprefer hlocated hnonempty hinput hreset coding
      houtput.accepted houtput.apart hwindows SliceExecutor.emptyMemory).1

end Blocks

section Encoded

variable {stream : StreamParameters} {input output : FrameView} {memory : FrameMemory}
  {sliceIndex : Nat} {keyframe : Bool} {state after : SliceState} {block : Bytes}

/-- The decoder reads the blocks of the encoder. -/
theorem encodeCell_read (h : ProfileStream stream) (hcell : sliceIndex < cellCount stream)
    (houtput : OutputReady stream.readBack output) (hfresh : keyframe = true → state = {})
    (hencode : SliceEncodeExecutor.encodeSlice stream input memory keyframe sliceIndex state =
      .ok (after, block)) :
    BlockRead stream.readBack input output memory sliceIndex keyframe state after block := by
  obtain ⟨inputs, started, code, coding⟩ := encodeCell_coding h hcell hfresh hencode
  have hreset := (reset_readBack inputs state).trans coding.reset
  have hcontent := coding.content
  unfold encodeContent at hcontent
  cases hmode : stream.entropyMode with
  | range =>
    rw [hmode] at hcontent
    obtain ⟨written, configured, banks, encoding, range⟩ := encodeRangeSlice_coding h hcell hcontent
    exact blockRead_range h.readBack h.regions hcell houtput coding.windows hreset coding.footer
      coding.intra hmode (range.readBack h)
  | golombRice =>
    rw [hmode] at hcontent
    obtain ⟨written, content, golombRice⟩ := encodeGolombRiceSlice_coding hcontent
    exact blockRead_golombRice h.readBack h.regions hcell houtput coding.windows hreset
      coding.footer coding.intra hmode golombRice.readBack

end Encoded

section Parsing

variable {stream : StreamParameters} {input output : FrameView} {memory : FrameMemory}
  {keyframe : Bool} {state after : Nat → SliceState} {payload : Bytes}

/-- The slices of the cells from `first` on. -/
def SlicesRead (stream : StreamParameters) (input output : FrameView) (memory : FrameMemory)
    (keyframe : Bool) (state after : Nat → SliceState) (first : Nat) (slices : List SliceDescriptor) : Prop :=
  ∀ (k : Nat) (slice : SliceDescriptor), slices[k]? = some slice →
    CellRead stream input output memory (first + k) keyframe (state (first + k))
      (after (first + k)) slice

/-- The blocks of consecutive cells are parsed one after another. -/
theorem parseLocatedSlices_read {blocks : List Bytes} {first offset : Nat} {flag : Bool}
    (hread : ∀ (k : Nat) (block : Bytes), blocks[k]? = some block →
      BlockRead stream input output memory (first + k) keyframe (state (first + k))
        (after (first + k)) block)
    (hflag : first ≠ 0 → flag = keyframe) (hsome : first ≠ 0 ∨ blocks ≠ []) :
    ∃ slices, FrameParser.parseLocatedSlices stream (blockDescriptors stream first offset blocks)
        first flag = .ok (keyframe, slices) ∧ slices.length = blocks.length ∧
      SlicesRead stream input output memory keyframe state after first slices := by
  induction blocks generalizing first offset flag with
  | nil =>
    obtain rfl := hflag (hsome.resolve_right fun hne => hne rfl)
    exact ⟨[], rfl, rfl, fun k slice hslice => by cases hslice⟩
  | cons block blocks ih =>
    obtain ⟨slice, reader, hparse, hcell⟩ := (hread 0 block rfl).parsed offset flag hflag
    obtain ⟨slices, hrest, hlength, hslices⟩ := @ih (first + 1) (offset + block.length) keyframe
      (fun k other hother => by
        rw [Nat.add_assoc, Nat.add_comm 1 k]
        exact hread (k + 1) other hother) (fun _ => rfl) (.inl (Nat.succ_ne_zero first))
    refine ⟨slice :: slices, ?_, congrArg (· + 1) hlength, fun k other hother => ?_⟩
    · have hfirst : FrameParser.parseLocatedSlice stream first flag
          { blockDescriptor stream offset block with index := first } {} =
            .ok (keyframe, slice) reader := hparse
      unfold blockDescriptors FrameParser.parseLocatedSlices Call.valueOn
      rw [hfirst]
      change (FrameParser.parseLocatedSlices _ _ _ _ >>= _) = _
      rw [hrest]
      rfl
    · cases k with
      | zero =>
        obtain rfl := Option.some.inj hother
        exact hcell
      | succ k =>
        have hnext := hslices k other hother
        rw [Nat.add_assoc, Nat.add_comm 1 k] at hnext
        exact hnext

variable {slices : List SliceDescriptor}

theorem SlicesRead.get (hread : SlicesRead stream input output memory keyframe state after 0 slices)
    (k : Fin slices.length) :
    CellRead stream input output memory k keyframe (state k) (after k) (slices.get k) := by
  have hcell := hread k (slices.get k) (List.getElem?_eq_getElem k.isLt)
  rwa [Nat.zero_add] at hcell

/-- Slices of all cells cover the raster. -/
theorem covers_of_cells (hplaced : ∀ slice ∈ slices, Placed stream slice)
    (hlayout : ∀ k : Fin slices.length, sliceLayout (slices.get k) = cellLayout stream k)
    (hlength : slices.length = cellCount stream) (hcells : 0 < cellCount stream)
    (hcount : cellCount stream < 2 ^ 32)
    (hparallel : requiresVersion3ParallelSliceLimit stream.version stream.width stream.height = true →
      4 ≤ cellCount64 stream) : SliceExecutor.Covers stream slices := by
  have hgrid : stream.numHSlices ≠ 0 ∧ stream.numVSlices ≠ 0 := by
    obtain ⟨hcolumns, hrows⟩ :=
      (hplaced _ (List.get_mem slices ⟨0, hlength ▸ hcells⟩)).grid_pos
    constructor
    · intro hzero
      rw [hzero] at hcolumns
      exact Nat.lt_irrefl 0 hcolumns
    · intro hzero
      rw [hzero] at hrows
      exact Nat.lt_irrefl 0 hrows
  have hrect (k : Fin slices.length) :
      (slices.get k).rasterRect = (cellSlice stream k).rasterRect := by
    obtain ⟨hx, hy, hwidth, hheight⟩ := SliceLayout.mk.inj (hlayout k)
    unfold SliceDescriptor.rasterRect
    rw [hx, hy, hwidth, hheight]
    rfl
  have hcover := cells_exactCover stream
  rw [← hlength] at hcover
  simp only [← hrect] at hcover
  have hinside (k : Fin slices.length) : (slices.get k).rasterRect.Inside stream.numHSlices.toNat
      stream.numVSlices.toNat := by
    have hcell := hplaced _ (List.get_mem slices k)
    exact ⟨hcell.x_le, hcell.y_le⟩
  have hchecked : ∀ slice ∈ slices, InRaster stream slice ∧ WithinAreaLimit stream slice := by
    intro slice hmem
    obtain ⟨k, hk, rfl⟩ := List.mem_iff_getElem.mp hmem
    have hcell : (slices[k]).rasterRect = (cellSlice stream k).rasterRect := hrect ⟨k, hk⟩
    have hone : (1 : UInt32).toNat = 1 := rfl
    refine ⟨⟨?_, ?_, hinside ⟨k, hk⟩⟩, fun hversion hcif => ?_⟩
    · rw [hcell]
      exact Nat.zero_lt_one
    · rw [hcell]
      exact Nat.zero_lt_one
    · have hfour := UInt64.le_iff_toNat_le.mp (hparallel
        ((requiresLimit_iff stream.version stream.width stream.height).mpr ⟨hversion, hcif⟩))
      rw [cellCount64_toNat] at hfour
      rw [hcell]
      exact (Nat.le_div_iff_mul_le (by decide)).mpr hfour
  refine ⟨hplaced, ?_⟩
  have hsweep : slices.length ≤ maxSweepEvents / 2 := by
    have hlarge : 2 ^ 32 ≤ maxSweepEvents / 2 := by decide
    omega
  rw [validate_of_disjoint hgrid hsweep hchecked (hcover.disjoint hinside),
    if_pos (hcover.area hinside)]

theorem SlicesRead.covers (hread : SlicesRead stream input output memory keyframe state after 0 slices)
    (hlength : slices.length = cellCount stream) (hcells : 0 < cellCount stream)
    (hcount : cellCount stream < 2 ^ 32)
    (hparallel : requiresVersion3ParallelSliceLimit stream.version stream.width stream.height = true →
      4 ≤ cellCount64 stream) : SliceExecutor.Covers stream slices := by
  refine covers_of_cells (fun slice hmem => ?_) (fun k => (hread.get k).layout) hlength hcells hcount
    hparallel
  obtain ⟨k, hk, rfl⟩ := List.mem_iff_getElem.mp hmem
  exact (hread.get ⟨k, hk⟩).placed

/-- The frame of an encoder. -/
def parsedFrame (stream : StreamParameters) (keyframe : Bool) (slices : List SliceDescriptor) :
    FrameDecodeContext :=
  FrameParser.finalizeFrameMetadata { slices, frameInfo := makeFrameInfo stream } keyframe

/-- Located blocks of all cells are parsed as a frame of them. -/
theorem parseWithRangeHeader_read {blocks : List Bytes}
    (hshape : FrameValidator.validateStreamShape stream = .ok ())
    (hparallel : requiresVersion3ParallelSliceLimit stream.version stream.width stream.height = true →
      4 ≤ cellCount64 stream)
    (hlength : blocks.length = cellCount stream) (hcells : 0 < cellCount stream)
    (hcount : cellCount stream < 2 ^ 32)
    (hread : ∀ (k : Nat) (block : Bytes), blocks[k]? = some block →
      BlockRead stream input output memory k keyframe (state k) (after k) block)
    (verifyCrc : Bool) :
    ∃ slices, FrameParser.parseWithRangeHeader stream verifyCrc blocks.flatten =
        .ok (parsedFrame stream keyframe slices) ∧ slices.length = cellCount stream ∧
      SlicesRead stream input output memory keyframe state after 0 slices ∧
      SliceExecutor.Covers stream slices := by
  have hne : blocks ≠ [] := List.ne_nil_of_length_pos (by omega)
  obtain ⟨slices, hparse, hslices, hcellsRead⟩ := @parseLocatedSlices_read stream input output memory
    keyframe state after blocks 0 0 false (fun k block hblock => by
      rw [Nat.zero_add]
      exact hread k block hblock) (fun hzero => absurd rfl hzero) (.inr hne)
  rw [hlength] at hslices
  have hcovers := hcellsRead.covers hslices hcells hcount hparallel
  refine ⟨slices, ?_, hslices, hcellsRead, hcovers⟩
  have hblock (block : Bytes) (hmem : block ∈ blocks) :
      IsSliceBlock stream block ∧ CrcValid stream block := by
    obtain ⟨k, hk, rfl⟩ := List.mem_iff_getElem.mp hmem
    have hcell := hread k _ (List.getElem?_eq_getElem hk)
    exact ⟨hcell.isBlock, hcell.crc⟩
  have hpayload : blocks.flatten ≠ [] := by
    cases blocks with
    | nil => exact absurd rfl hne
    | cons block blocks =>
      have hpos := (hblock block List.mem_cons_self).1.pos
      rw [List.flatten_cons]
      exact fun hnil => List.ne_nil_of_length_pos hpos (List.append_eq_nil_iff.mp hnil).1
  simp only [FrameValidator.validateStreamShape, except_bind_ok, exists_unit, failIf_ok_iff] at hshape
  obtain ⟨hextent, -, -, -, hgrid⟩ := hshape
  have hstart : FrameParser.initializeFrame stream blocks.flatten =
      .ok { frameInfo := makeFrameInfo stream } := by
    unfold FrameParser.initializeFrame
    rw [failIf_of_not hpayload, failIf_of_not hextent, failIf_of_not hgrid]
    rfl
  have hmaximum : FrameParser.maximumSliceCount stream = cellCount stream := cellCount64_toNat stream
  have hlocate : SlicePayloadLocator.locateSlices blocks.flatten stream
      (FrameParser.maximumSliceCount stream) verifyCrc = .ok (blockDescriptors stream 0 0 blocks) := by
    rw [hmaximum, locateSlices_ok_iff hcells hcount]
    exact ⟨blocks, ⟨rfl, fun block hmem => (hblock block hmem).1⟩, hlength.le,
      fun _ block hmem => (hblock block hmem).2, rfl⟩
  unfold FrameParser.parseWithRangeHeader FrameParser.parseLocatedRangeSlices
  rw [hstart]
  change (SlicePayloadLocator.locateSlices _ _ _ _ >>= fun located => _) = _
  rw [hlocate]
  change (FrameParser.parseLocatedSlices _ _ _ _ >>= fun parsed => _) = _
  rw [hparse]
  change (validateSliceRasterCoverage stream slices >>= fun _ => _) = _
  rw [hcovers.covered]
  rfl

end Parsing

/-- The samples of the coded planes are those of the input. -/
def FrameSame (stream : StreamParameters) (input output : FrameView)
    (memory decoded : FrameMemory) : Prop :=
  ∀ planeIndex < stream.codedPlaneCount, ∀ x < (stream.planeWidth planeIndex).toNat,
    ∀ y < (stream.planeHeight planeIndex).toNat,
      frameSample output decoded planeIndex x y = frameSample input memory planeIndex x y

/-- No slice has its content behind its footer. -/
def ContentsReached (slices : List SliceDescriptor) : Prop :=
  ∀ slice ∈ slices, slice.contentByteOffset ≤ slice.footerByteOffset

instance (slices : List SliceDescriptor) : Decidable (ContentsReached slices) :=
  inferInstanceAs (Decidable (∀ slice ∈ slices, slice.contentByteOffset ≤ slice.footerByteOffset))

section Decoding

open SliceExecutor

variable {stream : StreamParameters} {input output : FrameView} {memory : FrameMemory}
  {keyframe : Bool} {state after : Nat → SliceState} {slices : List SliceDescriptor}
  {executor : SliceExecutor} {held : SliceDescriptor → SliceState}

/-- The first slice whose content is cut off is reported. -/
theorem validateEach_refused {first : Nat}
    (hread : SlicesRead stream input output memory keyframe state after first slices)
    (hbehind : ¬ContentsReached slices) :
    ∃ slice ∈ slices, slice.footerByteOffset < slice.contentByteOffset ∧
      validateEach stream output slices = .error (contentError slice) := by
  induction slices generalizing first with
  | nil => exact absurd (fun slice hmem => absurd hmem List.not_mem_nil) hbehind
  | cons slice slices ih =>
    have hcell := hread 0 slice rfl
    by_cases hreach : slice.contentByteOffset ≤ slice.footerByteOffset
    · obtain ⟨other, hmem, hother, hvalidate⟩ := @ih (first + 1) (fun k other hother => by
        rw [Nat.add_assoc, Nat.add_comm 1 k]
        exact hread (k + 1) other hother) fun hrest =>
          hbehind (List.forall_mem_cons.mpr ⟨hreach, hrest⟩)
      refine ⟨other, List.mem_cons_of_mem _ hmem, hother, ?_⟩
      unfold validateEach
      rw [hcell.accepted hreach]
      exact hvalidate
    · refine ⟨slice, List.mem_cons_self, Nat.not_le.mp hreach, ?_⟩
      unfold validateEach
      rw [hcell.refused (Nat.not_le.mp hreach)]
      rfl

/-- The outcome of a slice that is decoded. -/
theorem outcomeOf_read {sliceIndex : Nat} {slice : SliceDescriptor} {next : SliceState}
    (hprefer : shouldPreferGolombRiceReadAheadBoundary stream = false)
    (hcell : CellRead stream input output memory sliceIndex keyframe (held slice) next slice)
    (hreach : slice.contentByteOffset ≤ slice.footerByteOffset) :
    Succeeds stream output held slice ∧ (outcomeOf stream output held slice).state = next ∧
      ∀ before, CellSame stream input output memory sliceIndex
        ((outcomeOf stream output held slice).patch.apply before) := by
  have hcomes := sliceOutcome_comesTo stream output slice (held slice)
  unfold Succeeds outcomeOf
  cases houtcome : sliceOutcome stream output slice (held slice) with
  | error status =>
    rw [houtcome] at hcomes
    obtain ⟨decoded, hdecode, -⟩ := hcell.decoded hprefer hreach emptyMemory
    obtain ⟨task, htask⟩ := hcomes emptyMemory
    rw [hdecode] at htask
    cases htask
  | ok outcome =>
    rw [houtcome] at hcomes
    have hsame (before : FrameMemory) : outcome.state = next ∧
        CellSame stream input output memory sliceIndex (outcome.patch.apply before) := by
      obtain ⟨decoded, hdecode, hdecoded⟩ := hcell.decoded hprefer hreach before
      rw [hcomes before] at hdecode
      obtain ⟨hmemory, hstate⟩ := SliceTask.mk.inj (EStateM.Result.ok.inj hdecode).2
      rw [hmemory]
      exact ⟨hstate, hdecoded⟩
    exact ⟨⟨outcome, rfl⟩, (hsame emptyMemory).1, fun before => (hsame before).2⟩

variable (hread : SlicesRead stream input output memory keyframe state after 0 slices)
  (hcovers : Covers stream slices)
include hread hcovers

/-- A frame of which a slice is refused is refused as it is. -/
theorem decode_refused (hbehind : ¬ContentsReached slices) (threadCount : Nat) (order : List Nat)
    (before : FrameMemory) :
    ∃ slice ∈ slices, slice.footerByteOffset < slice.contentByteOffset ∧
      decode stream threadCount order output slices keyframe { executor, memory := before } =
        .error (contentError slice) { executor, memory := before } := by
  obtain ⟨slice, hmem, hshort, hvalidate⟩ := validateEach_refused hread hbehind
  refine ⟨slice, hmem, hshort, ?_⟩
  rw [decode_eq, validateSlices_of_covered hcovers.covered, hvalidate]

/-- The decoder comes to the samples of a frame and to the states behind its cells, in
whichever order the tasks complete. -/
theorem decode_read (hlength : slices.length = cellCount stream) (houtput : OutputReady stream output)
    (hsets : stream.quantTableSets ≠ [])
    (hprefer : shouldPreferGolombRiceReadAheadBoundary stream = false)
    (hreached : ContentsReached slices)
    (hstates : executor.workingStates slices keyframe = .ok (slices.map held))
    (hheld : ∀ k : Fin slices.length, held (slices.get k) = state k) {threadCount : Nat}
    {order : List Nat}
    (horder : 1 < threadCount →
      CompletionOrder (workerCountFor threadCount slices.length) 0 slices.length order)
    (before : FrameMemory) :
    ∃ decoded, decode stream threadCount order output slices keyframe
        { executor, memory := before } = .ok ()
          { executor := {
              sliceStates := (List.range slices.length).map after
              sliceLayouts := slices.map sliceLayout }
            memory := decoded } ∧
      FrameSame stream input output memory decoded := by
  have hcell (k : Fin slices.length) := by
    have h := hread.get k
    rw [← hheld k] at h
    exact outcomeOf_read hprefer h (hreached _ (List.get_mem slices k))
  have hvalidate : validateEach stream output slices = .ok () := by
    rw [validateEach_ok_iff]
    intro slice hmem
    obtain ⟨k, hk, rfl⟩ := List.mem_iff_getElem.mp hmem
    exact (hread.get ⟨k, hk⟩).accepted (hreached _ hmem)
  have hsucceeds : ∀ slice ∈ slices, Succeeds stream output held slice := by
    intro slice hmem
    obtain ⟨k, hk, rfl⟩ := List.mem_iff_getElem.mp hmem
    exact (hcell ⟨k, hk⟩).1
  have hafter : (slices.map fun slice => (outcomeOf stream output held slice).state) =
      (List.range slices.length).map after := by
    refine List.ext_getElem (by simp) fun k hk _ => ?_
    rw [List.length_map] at hk
    rw [List.getElem_map, List.getElem_map, List.getElem_range]
    exact (hcell ⟨k, hk⟩).2.1
  have hdisjoint : (slices.map fun slice =>
      (outcomeOf stream output held slice).patch).Pairwise Patch.Disjoint := by
    rw [← map_patchAt held]
    exact patches_disjoint hcovers houtput.accepted houtput.apart
  rcases decode_of_held hcovers houtput.accepted hvalidate hstates horder before with
    ⟨-, decoded, hdecode, hdecoded⟩ | ⟨hfails, -⟩
  · rw [hafter, hdecoded houtput.apart] at hdecode
    refine ⟨_, hdecode, fun planeIndex hplane x hx y hy => ?_⟩
    have hcells : 0 < cellCount stream := by
      rw [← hlength]
      exact List.length_pos_iff.mpr hcovers.ne_nil
    obtain ⟨⟨k, hk⟩, hcontains, -⟩ := cellRects_exactCover hsets hcells planeIndex x hx y hy
    rw [← hlength] at hk
    obtain ⟨earlier, hlast⟩ := Patch.applyAll_mem hdisjoint
      (List.mem_map_of_mem (List.get_mem slices ⟨k, hk⟩)) before
    rw [hlast]
    exact (hcell ⟨k, hk⟩).2.2 earlier planeIndex hplane x y hcontains
  · exact absurd hsucceeds hfails

end Decoding

end Mffv1
