import Mffv1.CandidateIsolation
import Mffv1.GolombRiceContent
import Mffv1.SliceRoundTrip

/-!
# Golomb-Rice coded slices are read back

The content of a cell begins behind its closed header. It is tried there first, in a
temporary frame, and comes out as it was put in.
-/
namespace Mffv1

open SliceEncodeExecutor (cellHeader)

section Starved

variable {decoding : Decoding BitReader} {payloadOffset : Nat}

/-- A decoder without bytes and without runs that are left over. -/
structure Starved (decoding : Decoding BitReader) : Prop where
  data : decoding.reader.data = []
  pending : ∀ planeIndex, (decoding.state.golombRiceRunState planeIndex).pendingCount = 0

theorem starvedSegment_fails {setup : GolombRiceLine} (h : Starved decoding) (x : Nat) :
    ∃ status left, readSegment payloadOffset setup x decoding = .error status left := by
  have hbit : ∃ status, BitReader.readBit decoding.reader = .error status decoding.reader := by
    have hempty : decoding.reader.remainingBits = 0 := by
      unfold BitReader.remainingBits
      rw [h.data]
      exact Nat.zero_sub _
    unfold BitReader.readBit
    rw [Mirror.get_bind, failIf_of hempty]
    exact ⟨_, rfl⟩
  obtain ⟨status, hbit⟩ := hbit
  have hread : ∃ status, (decoding.state.golombRiceRunState setup.runStatePlane).readRunSegment x
      setup.width decoding.reader = .error status decoding.reader := by
    unfold GolombRiceRunState.readRunSegment
    by_cases hindex : GolombRiceRunState.log2Run.length ≤
        (decoding.state.golombRiceRunState setup.runStatePlane).runIndex
    · rw [failIf_of hindex]
      exact ⟨_, rfl⟩
    · rw [failIf_of_not hindex, pure_bind]
      by_cases hposition : setup.width < x
      · rw [failIf_of hposition]
        exact ⟨_, rfl⟩
      · rw [failIf_of_not hposition, pure_bind]
        dsimp only
        rw [if_neg (not_not.mpr (h.pending _)), Mirror.bind_error hbit]
        exact ⟨status, rfl⟩
  obtain ⟨status, hread⟩ := hread
  have hbits : ∃ status left, onBits payloadOffset
      ((decoding.state.golombRiceRunState setup.runStatePlane).readRunSegment x setup.width)
        decoding = .error status left := by
    unfold onBits onReader withReaderOffset
    rw [hread]
    exact ⟨_, _, rfl⟩
  obtain ⟨status, left, hbits⟩ := hbits
  refine ⟨status, left, ?_⟩
  unfold readSegment
  rw [Mirror.get_bind, Mirror.bind_error hbits]

/-- The first sample of a line begins a run, whose first bit is missing. -/
theorem starvedLine_fails {setup : GolombRiceLine} (h : Starved decoding)
    (hmodel : setup.contextModel = makeZeroQuantTableSet) (hwidth : 0 < setup.width) :
    ∃ status left, decodeGolombRiceLine payloadOffset setup decoding = .error status left := by
  obtain ⟨width, hsucc⟩ := Nat.exists_eq_succ_of_ne_zero (Nat.ne_of_gt hwidth)
  obtain ⟨status, left, hsegment⟩ := @starvedSegment_fails _ payloadOffset setup h 0
  have hstep : ∃ status, decodeGolombRiceStep payloadOffset setup 0 decoding =
      .error status left := by
    refine ⟨tellRunSegment setup ((decoding.state.lineState setup.planeIndex).neighbors 0)
      { context := 0, invertDifference := false } 0 decoding left status, ?_⟩
    unfold decodeGolombRiceStep
    rw [Mirror.get_bind, if_neg (not_not.mpr (h.pending _)), hmodel,
      ContextModel.deriveContext_zero, Mirror.bind_ok (Mirror.ofExcept_ok_iff.mpr ⟨rfl, rfl⟩),
      if_pos rfl, Nat.sub_zero, hsucc]
    unfold decodeRunSegments
    exact Mirror.bind_error (Mirror.bind_error (Mirror.telling_error hsegment))
  obtain ⟨status, hstep⟩ := hstep
  refine ⟨status, left, ?_⟩
  unfold decodeGolombRiceLine
  rw [hsucc]
  unfold decodeGolombRiceRounds
  rw [if_neg (by omega), Mirror.bind_error hstep]

end Starved

section StarvedSlices

variable {stream : StreamParameters} {windows : List PlaneWindow} {setup : GolombRiceSliceSetup}
  {width height : Nat → Nat}

/-- A slice with samples cannot be decoded from nothing. -/
theorem starvedLoops_fail {decoding : Decoding BitReader} (h : Starved decoding)
    (hmodel : stream.quantTableSets = [makeZeroQuantTableSet])
    (hsetup : GolombRiceMatches stream setup) (hshape : WindowShape stream windows width height)
    (hwidth : 0 < width 0) (hheight : 0 < height 0) :
    ∃ status left, (if stream.colorspaceType = 1 then decodeGolombRiceRgbRows stream setup windows
      else Mirror.forLoop 0 windows.length (decodeGolombRicePlane stream setup windows)) decoding =
        .error status left := by
  have hcoded : 0 < stream.codedPlaneCount := stream.codedPlaneCount_pos
  have hplanes := hshape.planes
  obtain ⟨planes, hlength⟩ := Nat.exists_eq_succ_of_ne_zero (Nat.ne_of_gt (hplanes ▸ hcoded))
  have hrows : 0 < (planeWindow windows 0).height.toNat := by rwa [hshape.height 0 hcoded]
  obtain ⟨rows, hrows⟩ := Nat.exists_eq_succ_of_ne_zero (Nat.ne_of_gt hrows)
  have hline (bits : Nat) : ∃ status left,
      decodeGolombRiceRow setup windows 0 0 0 0 bits decoding = .error status left := by
    have hzero : setup.contextModels.getD 0 {} = makeZeroQuantTableSet := by
      rw [(hsetup 0 hcoded).1, hmodel]
      rfl
    have hcolumns : 0 < (planeWindow windows 0).width.toNat := by rwa [hshape.width 0 hcoded]
    obtain ⟨status, left, hline⟩ := @starvedLine_fails decoding setup.payloadOffset
      (golombRiceLine setup windows 0 0 0 0 bits) h hzero hcolumns
    exact ⟨_, left, Mirror.telling_error hline⟩
  by_cases hcolor : stream.colorspaceType = 1
  · obtain ⟨status, left, hline⟩ := hline (stream.bitsPerRawSample.toNat + 1)
    refine ⟨status, left, ?_⟩
    rw [if_pos hcolor]
    unfold decodeGolombRiceRgbRows
    rw [hrows, hlength, Mirror.forLoop_succ]
    refine Mirror.bind_error (Mirror.bind_error (Mirror.bind_error ?_))
    rw [Mirror.forLoop_succ]
    exact Mirror.bind_error hline
  · obtain ⟨status, left, hline⟩ := hline stream.bitsPerRawSample.toNat
    refine ⟨status, left, ?_⟩
    rw [if_neg hcolor, hlength, Mirror.forLoop_succ]
    unfold decodeGolombRicePlane
    rw [hrows, Mirror.forLoop_succ]
    exact Mirror.bind_error (Mirror.bind_error (Mirror.bind_error (Mirror.bind_error hline)))

end StarvedSlices

section Reading

variable {stream : StreamParameters} {slice : SliceDescriptor} {memory : FrameMemory}
  {inputs outputs : List PlaneWindow} {started after : SliceState} {content : Bytes}
  {encoding : Encoding BitWriter}

/-- The content of a cell is read back into windows of its size, to its last bit. -/
theorem golombRiceContent_reads (h : WrittenStream stream) (hplaced : Placed stream slice)
    (hbit : slice.contentBitOffset = 0)
    (hinput : WindowShape stream inputs (sliceWidth stream slice) (sliceHeight stream slice))
    (houtput : WindowShape stream outputs (sliceWidth stream slice) (sliceHeight stream slice))
    (hsized : started.LinesSized stream.codedPlaneCount (sliceWidth stream slice))
    (hnonempty : 0 < sliceWidth stream slice 0 ∧ 0 < sliceHeight stream slice 0)
    (hencode : SliceEncoder.encodeGolombRiceContent stream memory inputs
      { writer := {}, state := started } = .ok (after, content) encoding)
    (allowReadAheadTrailingBytes : Bool) :
    content ≠ [] ∧
      decodeGolombRiceSlice stream (SliceDecoder.golombRiceSetup stream slice outputs.length
        allowReadAheadTrailingBytes) outputs { reader := { data := content }, state := started } =
        .ok () {
          reader := { data := content, bitPosition := 8 * content.length }
          state := after
          stores := sliceStores stream memory inputs (sliceWidth stream slice)
            (sliceHeight stream slice) } := by
  have hmatches := golombRiceSetup_matches (validateStream_ok h.valid).2.2 h.version hplaced
    houtput.planes allowReadAheadTrailingBytes
  obtain ⟨prepared, decoding, hready, hrun, hdecode⟩ := golombRiceContent_read h.valid h.version
    hplaced hbit hinput houtput hsized hencode allowReadAheadTrailingBytes
  refine ⟨fun hempty => ?_, hdecode⟩
  have hstarved : Starved { reader := { data := content }, state := prepared } :=
    ⟨hempty, hready.2.pending⟩
  obtain ⟨status, left, hfails⟩ :=
    starvedLoops_fail hstarved h.model hmatches houtput hnonempty.1 hnonempty.2
  rw [hfails] at hrun
  cases hrun

end Reading

section GolombRiceSlices

variable {stream : StreamParameters} {memory : FrameMemory} {inputs outputs : List PlaneWindow}
  {located : SliceDescriptor} {sliceIndex headerOffset : Nat} {keyframe : Bool}
  {state started after : SliceState} {code content : Bytes} {written : RangeEncoder}
  {input output : FrameView}

/-- The header of a Golomb-Rice coded cell, which is closed in front of its content. -/
structure GolombRiceCoding (stream : StreamParameters) (memory : FrameMemory)
    (inputs : List PlaneWindow) (sliceIndex : Nat) (keyframe : Bool) (started after : SliceState)
    (code : Bytes) (written : RangeEncoder) (content : Bytes) : Prop where
  header : SliceEncoder.writeHeader stream (cellHeader stream sliceIndex)
    (decide (sliceIndex = 0)) keyframe {} = .ok () written
  encoded : ∃ encoding, SliceEncoder.encodeGolombRiceContent stream memory inputs
    { writer := {}, state := started } = .ok (after, content) encoding
  code : code = written.lowBytes ++ content

theorem encodeGolombRiceSlice_coding (hencode : SliceEncoder.encodeGolombRiceSlice stream memory
    inputs (cellHeader stream sliceIndex) (decide (sliceIndex = 0)) keyframe started =
      .ok (after, code)) :
    ∃ written content, GolombRiceCoding stream memory inputs sliceIndex keyframe started after code
      written content := by
  simp only [SliceEncoder.encodeGolombRiceSlice, except_bind_ok, exists_unit, failIf_ok_iff]
    at hencode
  obtain ⟨header, hheader, ⟨state, content⟩, hcontent, -, hresult⟩ := hencode
  obtain ⟨rfl, rfl⟩ := Prod.mk.inj (Except.ok.inj hresult)
  obtain ⟨closed, hheader⟩ := valueOn_ok hheader
  obtain ⟨_, written, hwritten, hfinalize⟩ := Mirror.bind_ok_iff.mp hheader
  obtain ⟨rfl, -⟩ := finalize_ok hfinalize
  exact ⟨written, content, hwritten, valueOn_ok hcontent, rfl⟩

theorem GolombRiceCoding.readBack (coding : GolombRiceCoding stream memory inputs sliceIndex keyframe
    started after code written content) :
    GolombRiceCoding stream.readBack memory inputs sliceIndex keyframe started after code written
      content where
  header := coding.header
  encoded := coding.encoded
  code := coding.code

/-- The candidate behind the whole header comes first, unless the stream asks for the other
one. -/
theorem candidates_cell (h : WrittenStream stream) (hmode : stream.entropyMode = .golombRice)
    (hprefer : shouldPreferGolombRiceReadAheadBoundary stream = false)
    (hlocated : LocatedCode located code) {contentOffset : Nat} (hpos : 0 < contentOffset)
    (hreach : contentOffset ≤ code.length) :
    canTryGolombRiceReadAheadBoundary stream
        (locatedCell stream sliceIndex located headerOffset contentOffset) = true ∧
      makeGolombRiceContentCandidates stream
          (locatedCell stream sliceIndex located headerOffset contentOffset) =
        [locatedCell stream sliceIndex located headerOffset contentOffset,
          makeGolombRiceReadAheadBoundary
            (locatedCell stream sliceIndex located headerOffset contentOffset)] := by
  have hversion : (3 : Int) ≤ stream.version := by rw [h.version]
  have htry : canTryGolombRiceReadAheadBoundary stream
      (locatedCell stream sliceIndex located headerOffset contentOffset) = true := by
    have hfooter := hlocated.footer
    unfold canTryGolombRiceReadAheadBoundary
    rw [if_neg, if_neg, if_pos hversion]
    · rintro ⟨-, hle⟩
      change located.footerByteOffset ≤ contentOffset + located.payloadByteOffset - 1 at hle
      omega
    · rintro (hother | hle)
      · exact hother hmode
      · change contentOffset + located.payloadByteOffset ≤ located.payloadByteOffset at hle
        omega
  refine ⟨htry, ?_⟩
  unfold makeGolombRiceContentCandidates
  rw [if_pos htry, hprefer]
  rfl

/-- The decoder takes the content of a cell from the byte behind the header that the encoder has
written: that candidate comes first, and it is decoded. -/
structure BoundaryKept (stream : StreamParameters) (output : FrameView) (sliceIndex : Nat)
    (keyframe : Bool) (state : SliceState) (slice : SliceDescriptor) : Prop where
  written : ∃ header, SliceEncoder.writeHeader stream (cellHeader stream sliceIndex)
      (decide (sliceIndex = 0)) keyframe {} = .ok () header ∧
    slice.contentByteOffset = slice.payloadByteOffset + header.lowBytes.length
  first : ∃ others, makeGolombRiceContentCandidates stream slice = slice :: others
  accepted : ∀ before, ∃ task,
    SliceExecutor.decodeAlone stream output slice slice { memory := before, state } = .ok () task

theorem hasSamples_of_shape {width height : Nat → Nat} (hshape : WindowShape stream outputs width height)
    (hnonempty : ∀ planeIndex < stream.codedPlaneCount, 0 < width planeIndex ∧ 0 < height planeIndex) :
    HasSamples outputs := by
  intro planeIndex hplane
  rw [hshape.planes] at hplane
  obtain ⟨hwidth, hheight⟩ := hnonempty planeIndex hplane
  rw [← hshape.width planeIndex hplane] at hwidth
  rw [← hshape.height planeIndex hplane] at hheight
  exact ⟨fun hzero => absurd (hzero ▸ hwidth) (lt_irrefl 0),
    fun hzero => absurd (hzero ▸ hheight) (lt_irrefl 0)⟩

theorem linesSized_of_shape {width height : Nat → Nat} (hshape : WindowShape stream outputs width height)
    (hsized : started.LinesSized stream.codedPlaneCount width) :
    started.LinesSized outputs.length (windowWidth outputs) := by
  refine ⟨hsized.planes.trans hshape.planes.symm, fun planeIndex hplane => ?_⟩
  rw [hshape.planes] at hplane
  unfold windowWidth
  rw [hshape.width planeIndex hplane]
  exact hsized.sized planeIndex hplane

/-- Behind its header a cell is decoded to what was encoded. -/
theorem GolombRiceCoding.content_decoded (coding : GolombRiceCoding stream memory inputs sliceIndex
      keyframe started after code written content) (headerOffset : Nat) (h : WrittenStream stream)
    (hcell : sliceIndex < cellCount stream) (hmode : stream.entropyMode = .golombRice)
    (hlocated : LocatedCode located code)
    (hnonempty : 0 < sliceWidth stream (cellSlice stream sliceIndex) 0 ∧
      0 < sliceHeight stream (cellSlice stream sliceIndex) 0)
    (hinput : WindowShape stream inputs (sliceWidth stream (cellSlice stream sliceIndex))
      (sliceHeight stream (cellSlice stream sliceIndex)))
    (houtput : WindowShape stream outputs (sliceWidth stream (cellSlice stream sliceIndex))
      (sliceHeight stream (cellSlice stream sliceIndex)))
    (hsized : started.LinesSized stream.codedPlaneCount
      (sliceWidth stream (cellSlice stream sliceIndex))) :
    written.lowBytes.length < code.length ∧
      SliceDecoder.decode stream true (locatedCell stream sliceIndex located headerOffset
        written.lowBytes.length) outputs { state := started } = .ok () {
          state := after
          stores := sliceStores stream memory inputs
            (sliceWidth stream (cellSlice stream sliceIndex))
            (sliceHeight stream (cellSlice stream sliceIndex)) } := by
  have hplaced : Placed stream (locatedCell stream sliceIndex located headerOffset
      written.lowBytes.length) := locatedCell_placed h.sets_ne hcell
  obtain ⟨encoding, hencode⟩ := coding.encoded
  obtain ⟨hsome, hdecode⟩ :=
    golombRiceContent_reads h hplaced rfl hinput houtput hsized hnonempty hencode true
  have hlength : code.length = written.lowBytes.length + content.length := by
    rw [coding.code, List.length_append]
  have hcontentLength := List.length_pos_iff.mpr hsome
  have hcontent : SliceDecoder.resolveContentPayload stream (locatedCell stream sliceIndex located
      headerOffset written.lowBytes.length) = .ok content := by
    have hdrop : code.drop written.lowBytes.length = content := by
      rw [coding.code, List.drop_left]
    rw [← hdrop]
    exact hlocated.cell.resolveContentPayload_eq rfl (by omega) (.inl (by omega))
  refine ⟨by omega, ?_⟩
  unfold SliceDecoder.decode
  rw [validate_cell h hcontent houtput.planes,
    Mirror.bind_ok (Mirror.ofExcept_ok_iff.mpr ⟨rfl, rfl⟩), Mirror.get_bind,
    lineGeometry_cell houtput hsized, Mirror.bind_ok (Mirror.ofExcept_ok_iff.mpr ⟨rfl, rfl⟩),
    hcontent, Mirror.bind_ok (Mirror.ofExcept_ok_iff.mpr ⟨rfl, rfl⟩), hmode]
  change SliceProgress.withReader _ _ _ = _
  unfold SliceProgress.withReader
  rw [hdecode]
  rfl

/-- The decoder comes to the samples of a Golomb-Rice coded cell, and to the state that the
encoder keeps of it. -/
theorem decodeSlice_golombRice (h : WrittenStream stream) (hcell : sliceIndex < cellCount stream)
    (hmode : stream.entropyMode = .golombRice)
    (hprefer : shouldPreferGolombRiceReadAheadBoundary stream = false)
    (hlocated : LocatedCode located code)
    (hnonempty : ∀ planeIndex < stream.codedPlaneCount,
      0 < sliceWidth stream (cellSlice stream sliceIndex) planeIndex ∧
        0 < sliceHeight stream (cellSlice stream sliceIndex) planeIndex)
    (hinput : SliceInputWindow.validate stream input (cellSlice stream sliceIndex) = .ok inputs)
    (hreset : state.reset stream inputs = .ok started)
    (coding : GolombRiceCoding stream memory inputs sliceIndex keyframe started after code written
      content)
    (hframe : FrameValidator.validateOutput stream output = .ok ())
    (hapart : PlanesApart stream output)
    (houtput : SliceOutputWindow.validate stream output (locatedCell stream sliceIndex located
      headerOffset written.lowBytes.length) = .ok outputs) (before : FrameMemory) :
    BoundaryKept stream output sliceIndex keyframe state (locatedCell stream sliceIndex located
      headerOffset written.lowBytes.length) ∧
    ∃ memory', SliceExecutor.decodeSlice stream output (locatedCell stream sliceIndex located
        headerOffset written.lowBytes.length) { memory := before, state } =
      .ok () { memory := memory', state := after } ∧
      ∀ planeIndex < stream.codedPlaneCount,
        ∀ x < sliceWidth stream (cellSlice stream sliceIndex) planeIndex,
        ∀ y < sliceHeight stream (cellSlice stream sliceIndex) planeIndex,
          memory'.sampleAt (planeWindow outputs planeIndex) x y =
            memory.sampleAt (planeWindow inputs planeIndex) x y := by
  have hplaced : Placed stream (locatedCell stream sliceIndex located headerOffset
      written.lowBytes.length) := locatedCell_placed h.sets_ne hcell
  have hin := inputShape (cell_placed h.sets_ne hcell) hinput
  have hout : WindowShape stream outputs (sliceWidth stream (cellSlice stream sliceIndex))
      (sliceHeight stream (cellSlice stream sliceIndex)) :=
    outputShape (FrameValidator.validateOutput_format hframe) houtput
  have hsized := reset_sized hin hreset
  have hrgb (hcolor : stream.colorspaceType = 1) (planeIndex : Nat)
      (_ : planeIndex < stream.codedPlaneCount) := sliceSize_rgb hcolor hplaced planeIndex
  have hready := (writeHeader_checked (cellHeader_indexes stream sliceIndex) coding.header).2
  obtain ⟨hreach, hdecoded⟩ := coding.content_decoded headerOffset h hcell hmode hlocated
    (hnonempty 0 stream.codedPlaneCount_pos) hin hout hsized
  obtain ⟨htry, hcandidates⟩ := @candidates_cell stream located sliceIndex headerOffset code h
    hmode hprefer hlocated written.lowBytes.length (Nat.lt_of_lt_of_le Nat.zero_lt_two
      hready.length_ge) (Nat.le_of_lt hreach)
  have hstate : state.reset stream outputs = .ok started := by
    rw [← hreset, reset_eq (widths_eq hin hout)]
  obtain ⟨memory', hrun, hstored⟩ := SliceExecutor.decodeWithCandidates_first hmode houtput
    (hasSamples_of_shape hout hnonempty) (linesSized_of_shape hout hsized) hcandidates hdecoded before
  have hopen (memory : FrameMemory) : SliceExecutor.openSlice stream output (locatedCell stream
      sliceIndex located headerOffset written.lowBytes.length) { memory, state } =
        .ok outputs { memory, state := started } := by
    unfold SliceExecutor.openSlice
    rw [houtput, Mirror.bind_ok (Mirror.ofExcept_ok_iff.mpr ⟨rfl, rfl⟩), Mirror.get_bind, hstate,
      Mirror.bind_ok (Mirror.ofExcept_ok_iff.mpr ⟨rfl, rfl⟩), Mirror.set_bind]
    rfl
  refine ⟨⟨⟨written, coding.header, Nat.add_comm _ _⟩, ⟨_, hcandidates⟩, fun other =>
      ⟨_, SliceExecutor.decodeAlone_decoded (hopen other) hdecoded⟩⟩,
    memory', ?_, fun planeIndex hplane x hx y hy => ?_⟩
  · rw [SliceExecutor.decodeSlice_eq htry, Mirror.bind_ok (hopen before)]
    exact hrun
  · rw [hstored hframe hplaced hapart]
    exact sampleAt_sliceStores hin hout hrgb (hapart.windowsApart hplaced houtput) hplane
      (SliceOutputWindow.validate_addresses houtput hplane).rowsSeparate hx hy _

end GolombRiceSlices

end Mffv1
