import Mffv1.LegacyHeader

/-!
# The slice of a legacy keyframe is read back

The coder goes on behind the parameters with the contexts of the stream, and carries from
there on. Where the carries leave the code alone, its samples are those that were coded.
-/
namespace Mffv1

/-- The slice that the parser makes of a keyframe. -/
def keyframeSlice (stream : StreamParameters) (payload : Bytes) (contentByteOffset : Nat) :
    SliceDescriptor :=
  { cellSlice stream 0 with
    quantTableSetIndexes := [0]
    payload
    contentByteOffset
    continuesFrameRangeState := true }

section Starting

variable {payload : Bytes} {stream : StreamParameters} {written configured : RangeEncoder}
  {coded reader : RangeCoder} {counts : List Nat} {banks : List ContextStateBank}

/-- A coder that is resumed behind the parameters. -/
theorem HeaderRead.resumed (hread : HeaderRead payload stream written coded reader)
    (htable : stream.stateTransition = defaultStateTransition)
    (hcontexts : RangeEncoder.reconfigureContexts counts banks written = .ok () configured) :
    ∃ resumed, RangeCoder.resetFromArithmeticState payload counts banks stream.stateTransition
        reader.arithmeticState coded = .ok () resumed ∧
      resumed.initialized = true ∧
      Carried payload coded.scalarContextSnapshots { encoder := configured }
        { resumed with legacyZeroSymbolCarry := true } := by
  have htracks := hread.tracks
  obtain ⟨contexts, hinit, rfl⟩ := reconfigureContexts_ok hcontexts
  have hrange : reader.range ≠ 0 := by
    intro hzero
    have hge := hread.ready.range_ge
    have hwindow : reader.range.toNat = written.range.toNat := htracks.window.range
    rw [← hwindow, hzero] at hge
    exact absurd hge (by decide)
  have hposition := htracks.window.position
  refine ⟨{ coded with
    payload
    range := reader.range
    low := reader.low
    bytePosition := reader.bytePosition
    ended := reader.ended || decide (payload.length ≤ reader.bytePosition)
    initialized := true
    scalarContexts := contexts
    stateTransition := stream.stateTransition }, ?_, rfl, ?_⟩
  · unfold RangeCoder.resetFromArithmeticState RangeCoder.arithmeticState
      RangeCoder.assignContexts
    dsimp only
    rw [failIf_of_not (by rw [htracks.initialized]; decide), failIf_of_not hrange,
      failIf_of_not (by omega), RangeCoder.initializeContexts_of_encoder hinit]
    rfl
  · have hplain := htracks.withContexts contexts written.scalarContextSnapshots
    rw [← htracks.snapshots] at hplain
    refine ⟨{ reader with scalarContexts := contexts }, hplain, ?_⟩
    have hended : (reader.ended || decide (payload.length ≤ reader.bytePosition)) =
        reader.ended := by
      rw [htracks.window.ended, hposition]
      by_cases hend : payload.length ≤ written.interval.digits
      · simp [hend]
      · simp [hend]
    unfold RangeCoder.lifted
    simp only [hended, hread.arithmetic, htracks.arithmetic, htracks.window.bytes,
      htracks.initialized, htracks.table, hread.table, htable,
      show UInt32.ofNat 0 = 0 from rfl, UInt32.add_zero]

/-- The coder of the slice reads the flag, finds the parameters, and is resumed behind them. -/
theorem HeaderRead.started (hread : HeaderRead payload stream written coded reader)
    (h : LegacyStream stream)
    (hcontexts : RangeEncoder.reconfigureContexts counts banks written = .ok () configured)
    {slice : SliceDescriptor} (hpayload : slice.payload = payload)
    (hcontent : slice.contentByteOffset - slice.payloadByteOffset = reader.bytePosition)
    (harithmetic : slice.usesLegacyV0Arithmetic = false) :
    ∃ started, SliceDecoder.startBehindLegacyHeader stream slice counts banks {} = .ok () started ∧
      Carried payload coded.scalarContextSnapshots { encoder := configured } started := by
  obtain ⟨_, start, hstart, hflag⟩ := Mirror.bind_ok_iff.mp hread.flag
  obtain ⟨resumed, hresumed, hopen, hcarried⟩ := hread.resumed h.table hcontexts
  have hkeyframe : SliceDecoder.readKeyframe stream slice start = .ok true coded := by
    unfold SliceDecoder.readKeyframe
    rw [Mirror.bind_ok (inPayload_ok hflag), failIf_of_not fun hbad => by cases hbad.1]
    rfl
  have hbootstrap : SliceDecoder.matchingBootstrap stream slice =
      some (keyframeBootstrap stream stream.width stream.height coded reader) := by
    unfold SliceDecoder.matchingBootstrap
    rw [hpayload, hread.bootstrap]
    exact if_pos ⟨rfl, hcontent.symm, decide_eq_true rfl⟩
  have hmodes : SliceDecoder.setLegacyModes stream slice resumed =
      .ok () { resumed with legacyZeroSymbolCarry := true } := by
    have hlegacy : stream.version ≤ 1 ∧ stream.entropyMode = .range ∧ stream.colorspaceType = 0 :=
      ⟨h.version_range.2, h.mode, h.colorspace⟩
    unfold SliceDecoder.setLegacyModes RangeCoder.setLegacyZeroSymbolCarry
    rw [if_pos hlegacy, harithmetic, if_neg (by decide), Mirror.pure_bind, Mirror.get_bind,
      failIf_of_not (by rw [hopen]; decide)]
    rfl
  refine ⟨_, ?_, hcarried⟩
  unfold SliceDecoder.startBehindLegacyHeader
  rw [hpayload, Mirror.bind_ok (inPayload_ok hstart), Mirror.bind_ok hkeyframe]
  simp only [if_true, hbootstrap]
  exact Mirror.bind_ok_iff.mpr ⟨(), resumed, inPayload_ok hresumed, inPayload_ok hmodes⟩

end Starting

section Samples

variable {stream : StreamParameters} {memory : FrameMemory} {inputs outputs : List PlaneWindow}
  {width height : Nat → Nat}

/-- The row `y` of a plane that has so many. -/
def interleavedRowStore (stream : StreamParameters) (memory : FrameMemory)
    (inputs : List PlaneWindow) (width height : Nat → Nat) (y planeIndex : Nat) : List RowStore :=
  if height planeIndex ≤ y then [] else [inputRowStore stream memory inputs width planeIndex y]

/-- The rows of a keyframe, in the order in which they are stored. -/
def keyframeStores (stream : StreamParameters) (memory : FrameMemory) (inputs : List PlaneWindow)
    (width height : Nat → Nat) : List RowStore :=
  if usesLegacyRangeYcbcrRowOrder stream then
    (List.range (height 0)).flatMap fun y => (List.range stream.codedPlaneCount).flatMap
      (interleavedRowStore stream memory inputs width height y)
  else planarStores stream memory inputs width height stream.codedPlaneCount

theorem mem_keyframeStores
    (hrows : usesLegacyRangeYcbcrRowOrder stream = true →
      ∀ planeIndex < stream.codedPlaneCount, height planeIndex = height 0) {store : RowStore} :
    store ∈ keyframeStores stream memory inputs width height ↔
      ∃ planeIndex < stream.codedPlaneCount, ∃ y < height planeIndex,
        store = inputRowStore stream memory inputs width planeIndex y := by
  unfold keyframeStores
  split
  · rename_i horder
    have hsize := hrows horder
    simp only [List.mem_flatMap, List.mem_range, interleavedRowStore]
    constructor
    · rintro ⟨y, hy, planeIndex, hplane, hmem⟩
      rw [if_neg (by rw [hsize planeIndex hplane]; omega), List.mem_singleton] at hmem
      exact ⟨planeIndex, hplane, y, hsize planeIndex hplane ▸ hy, hmem⟩
    · rintro ⟨planeIndex, hplane, y, hy, rfl⟩
      refine ⟨y, hsize planeIndex hplane ▸ hy, planeIndex, hplane, ?_⟩
      rw [if_neg (Nat.not_le.mpr hy), List.mem_singleton]
  · exact mem_planarStores

variable {W R : Type} [SymbolSink W] [SymbolSource R] {C : Mirror.Channel W} {F : Prop}
  {P : W → R → Prop} {stores : List RowStore} {setup : RangeSliceSetup}

/-- The samples of a keyframe, in both of its orders. -/
theorem keyframeSamples_mirrors (hcopies : SymbolCopies C F P)
    (hdepth : isSupportedBitDepth stream.bitsPerRawSample = true)
    (hcolor : stream.colorspaceType = 0) (hsetup : SetupMatches stream setup)
    (hinput : WindowShape stream inputs width height)
    (houtput : WindowShape stream outputs width height) (memory : FrameMemory) :
    Mirror.Mirrors (encodingChannel C) F
      (InStep P (fun state => state.LinesSized stream.codedPlaneCount width) stores)
      (LegacyKeyframe.encodeSamples stream memory inputs : Call (Encoding W) Unit)
      (decodeRangeSamples stream setup outputs : Call (Decoding R) Unit)
      (fun _ _ => InStep P (fun state => state.LinesSized stream.codedPlaneCount width)
        (stores ++ keyframeStores stream memory inputs width height)) := by
  have hplanar : ¬stream.colorspaceType = 1 := by
    rw [hcolor]
    decide
  unfold LegacyKeyframe.encodeSamples decodeRangeSamples keyframeStores
  rw [if_neg hplanar]
  by_cases horder : usesLegacyRangeYcbcrRowOrder stream = true
  · have hluma := stream.codedPlaneCount_pos
    simp only [if_pos horder]
    unfold LegacyKeyframe.encodeRowsInterleaved decodeRowsInterleaved
    rw [hinput.height 0 hluma, houtput.height 0 hluma, houtput.planes]
    refine storing_mirrors (height 0) fun y _ _ =>
      storing_mirrors stream.codedPlaneCount fun planeIndex hplane _ => ?_
    unfold LegacyKeyframe.encodeInterleavedRow interleavedRowStore
    rw [hinput.height planeIndex hplane, houtput.height planeIndex hplane]
    by_cases hbelow : height planeIndex ≤ y
    · simp only [if_pos hbelow, List.append_nil]
      exact Mirror.Mirrors.pure fun _ _ hd => hd
    · simp only [if_neg hbelow]
      exact planarRow_mirrors hcopies hdepth hsetup hinput houtput hplane (Nat.not_le.mp hbelow)
        memory
  · simp only [if_neg horder]
    exact planes_mirrors hcopies hdepth hsetup hinput houtput memory

/-- What a writer writes of a keyframe is what the writer in it writes. -/
theorem keyframeSamples_projects {V : Type} [SymbolSink V] {π : V → W} (hπ : SymbolProjects π)
    (stream : StreamParameters) (memory : FrameMemory) (inputs : List PlaneWindow) :
    Mirror.Projects (Encoding.mapWriter π) (LegacyKeyframe.encodeSamples stream memory inputs)
      (LegacyKeyframe.encodeSamples stream memory inputs) := by
  unfold LegacyKeyframe.encodeSamples
  split
  · refine Mirror.Projects.forLoop _ _ fun y => Mirror.Projects.forLoop _ _ fun planeIndex => ?_
    unfold LegacyKeyframe.encodeInterleavedRow
    split
    · exact Mirror.Projects.pure _
    · exact encodePlaneRow_projects hπ stream memory inputs planeIndex y
  · exact encodePlanes_projects hπ stream memory inputs

end Samples

section Slices

variable {stream : StreamParameters} {payload : Bytes} {offset planeCount : Nat}

namespace LegacyStream

variable (h : LegacyStream stream)
include h

theorem sets_ne : stream.quantTableSets ≠ [] :=
  List.ne_nil_of_length_pos (h.sets ▸ Nat.one_pos)

theorem not_third : ¬(3 : Int) ≤ stream.version := by
  have hrange := h.version_range
  omega

theorem cellCount : cellCount stream = 1 := by
  unfold Mffv1.cellCount
  rw [h.columns, h.rows]
  rfl

/-- The only cell of the grid. -/
theorem cell : 0 < Mffv1.cellCount stream := by
  rw [h.cellCount]
  exact Nat.one_pos

theorem slice_placed : Placed stream (keyframeSlice stream payload offset) :=
  { cell_placed h.sets_ne h.cell with
    indexes_ne := List.cons_ne_nil _ _
    indexes_lt := fun index hmem => by
      rw [List.mem_singleton.mp hmem, h.sets]
      exact Nat.one_pos }

/-- Every plane has the tables of the stream, and a bank of its own. -/
theorem setup_matches (hplanes : planeCount = stream.codedPlaneCount) :
    SetupMatches stream
      (SliceDecoder.rangeSetup stream (keyframeSlice stream payload offset) planeCount) := by
  intro planeIndex hplane
  rw [hplanes]
  refine ⟨contextModels_getD h.sets h.slice_placed hplane, ?_⟩
  have hcolor : ¬stream.colorspaceType = 1 := by
    rw [h.colorspace]
    decide
  simp [SliceDecoder.rangeSetup, SliceDecoder.rangeContextBankIndexes, encoderContextBank,
    List.getD_eq_getElem?_getD, hplane, h.not_third, hcolor]

/-- The banks of the decoder are those of the encoder. -/
theorem range_contexts (hplanes : planeCount = stream.codedPlaneCount) {state : SliceState}
    (hfresh : state.hasRangeContexts = false) :
    SliceDecoder.rangeContextCounts stream (keyframeSlice stream payload offset) planeCount =
        LegacyKeyframe.contextCounts stream ∧
      SliceDecoder.rangeInitialStateBanks stream (keyframeSlice stream payload offset) planeCount
        state = .ok (List.replicate stream.codedPlaneCount []) := by
  have hindexes : SliceDecoder.rangeTableSetIndexes stream (keyframeSlice stream payload offset)
      planeCount = List.replicate stream.codedPlaneCount 0 := by
    unfold SliceDecoder.rangeTableSetIndexes
    rw [if_neg h.not_third, hplanes, List.eq_replicate_iff]
    refine ⟨by simp, fun index hmem => ?_⟩
    obtain ⟨planeIndex, -, rfl⟩ := List.mem_map.mp hmem
    exact tableSetIndex_zero h.sets h.slice_placed _
  constructor
  · unfold SliceDecoder.rangeContextCounts LegacyKeyframe.contextCounts
    rw [hindexes, List.map_replicate]
    rfl
  · unfold SliceDecoder.rangeInitialStateBanks SliceDecoder.initialStatesOf
    rw [hindexes, List.map_replicate, h.states, hfresh]
    rfl

/-- The content of the slice is all that follows. -/
theorem content (hoffset : offset ≤ payload.length) :
    SliceDecoder.resolveContentPayload stream (keyframeSlice stream payload offset) =
      .ok ((payload.drop offset).take (payload.length - offset)) := by
  have hcontinuous : SliceDecoder.hasContinuousRangeState stream
      (keyframeSlice stream payload offset) = true := by
    unfold SliceDecoder.hasContinuousRangeState
    rw [h.mode]
    exact Bool.or_true _
  have hend : SliceDecoder.contentEnd (keyframeSlice stream payload offset) offset =
      .ok payload.length := rfl
  simp only [SliceDecoder.resolveContentPayload, except_bind_ok, exists_unit, failIf_ok_iff]
  refine ⟨Nat.not_lt_zero _, Nat.not_lt.mpr hoffset, _, hend, fun hbad => ?_, rfl⟩
  rw [hcontinuous] at hbad
  cases hbad.2

/-- The decoder accepts the slice. -/
theorem slice_valid (hoffset : offset ≤ payload.length) {windows : List PlaneWindow}
    (hplanes : windows.length = stream.codedPlaneCount) :
    SliceDecoder.validate stream (keyframeSlice stream payload offset) windows = .ok () := by
  have hindex : SliceDecoder.validateTableSetIndexes stream [0] = .ok () := by
    unfold SliceDecoder.validateTableSetIndexes SliceDecoder.validateTableSetIndex
    rw [h.sets, failIf_of_not (by decide), if_neg fun hbad => hbad.2 h.states]
    rfl
  have hindexes : (keyframeSlice stream payload offset).quantTableSetIndexes = [0] := rfl
  have hbits : (keyframeSlice stream payload offset).contentBitOffset = 0 := rfl
  simp only [SliceDecoder.validate, except_bind_ok, exists_unit, failIf_ok_iff, hindexes, hbits]
  refine ⟨_, h.content hoffset, by decide, fun hbad => hbad.2 rfl, fun hbad => hbad hplanes,
    ne_false_of_eq_true h.supportedDepth, h.sets_ne, List.cons_ne_nil _ _, ?_, hindex⟩
  rw [if_neg h.not_third]
  exact fun hbad => hbad rfl

end LegacyStream

end Slices

section Decoding

variable {stream : StreamParameters} {output : FrameView} {payload : Bytes} {offset : Nat}
  {outputs : List PlaneWindow} {started : SliceState} {last : RangeCoder}
  {decoding : Decoding RangeCoder}

/-- A keyframe is decoded as its samples are, once the coder has been started. -/
theorem LegacyStream.decodeSlice_of_samples (h : LegacyStream stream)
    (hframe : FrameValidator.validateOutput stream output = .ok ())
    (houtput : SliceOutputWindow.validate stream output (cellSlice stream 0) = .ok outputs)
    (hoffset : offset ≤ payload.length)
    (hreset : ({} : SliceState).reset stream outputs = .ok started)
    (hstart : SliceDecoder.startBehindLegacyHeader stream (keyframeSlice stream payload offset)
      (LegacyKeyframe.contextCounts stream) (List.replicate stream.codedPlaneCount []) {} =
        .ok () last)
    (hrun : decodeRangeSamples stream (SliceDecoder.rangeSetup stream
        (keyframeSlice stream payload offset) outputs.length) outputs
      { reader := last, state := started } = .ok () decoding)
    (hinit : decoding.reader.initialized = true) :
    ∃ after, ∀ before, SliceExecutor.decodeSlice stream output
        (keyframeSlice stream payload offset) { memory := before, state := {} } =
      .ok () { memory := applyStores outputs decoding.stores before, state := after } := by
  have hout := outputShape (FrameValidator.validateOutput_format hframe) houtput
  obtain ⟨slice, hslice⟩ : ∃ slice, slice = keyframeSlice stream payload offset := ⟨_, rfl⟩
  have hwindows : SliceOutputWindow.validate stream output slice = .ok outputs := by
    rw [hslice]
    exact houtput
  have hcaptured : SliceDecoder.captureContexts decoding = .ok () { decoding with
      state := { decoding.state with rangeContexts := decoding.reader.scalarContexts } } := by
    unfold SliceDecoder.captureContexts SliceState.captureRangeContexts RangeCoder.copyContexts
    rw [Mirror.get_bind, hinit]
    rfl
  have hfresh : started.hasRangeContexts = false := by
    have hlines := hreset
    simp only [SliceState.reset, except_bind_ok] at hlines
    obtain ⟨lines, -, hlines⟩ := hlines
    rw [← Except.ok.inj hlines]
    rfl
  obtain ⟨hcounts, hbanks⟩ := @LegacyStream.range_contexts stream payload offset
    outputs.length h hout.planes started hfresh
  have hcontent := h.content hoffset
  have hvalid := h.slice_valid hoffset hout.planes
  have hbehind : slice.continuesFrameRangeState = true := by
    rw [hslice]
    rfl
  rw [← hslice] at hcounts hbanks hcontent hvalid hstart hrun
  have hreader : SliceDecoder.startReader stream slice
      ((payload.drop offset).take (payload.length - offset))
      (SliceDecoder.rangeContextCounts stream slice outputs.length)
      (List.replicate stream.codedPlaneCount []) {} = .ok () last := by
    unfold SliceDecoder.startReader SliceDecoder.continuesFromSliceHeader
    rw [hcounts, decide_eq_false h.not_third, hbehind]
    exact hstart
  have hdecoded := decode_of_reader h.mode hvalid
    (lineGeometry_cell hout (reset_sized hout hreset)) hcontent hbanks hreader
    ((Mirror.bind_ok hrun).trans hcaptured)
  refine ⟨{ decoding.state with rangeContexts := decoding.reader.scalarContexts }, fun before => ?_⟩
  rw [← hslice, decodeSlice_of_decoded h.mode hwindows hreset hdecoded]

end Decoding

/-- The carries are counted beside what is written. -/
theorem carrying_projects : SymbolProjects CarryingEncoder.encoder := by
  intro bank context value coder
  change _ = Mirror.mapState CarryingEncoder.encoder (CarryingEncoder.writeSigned bank context value
    coder)
  unfold CarryingEncoder.writeSigned
  change RangeEncoder.writeSigned bank context value coder.encoder = _
  cases RangeEncoder.writeSigned bank context value coder.encoder with
  | ok u encoder =>
    change _ = EStateM.Result.ok () (coder.follow value encoder).encoder
    unfold CarryingEncoder.follow
    dsimp only
    split <;> rfl
  | error status encoder => rfl

section Coding

variable {stream : StreamParameters} {input output : FrameView} {memory before : FrameMemory}
  {payload : Bytes} {coder : CarryingEncoder} {closeInterval : Bool}
  {inputs outputs : List PlaneWindow} {started : SliceState} {written configured : RangeEncoder}
  {encoding : Encoding CarryingEncoder}

/-- The writer behind the parameters of a keyframe, with the contexts of the stream, and behind
its samples. -/
structure KeyframeCoding (stream : StreamParameters) (input : FrameView) (memory : FrameMemory)
    (payload : Bytes) (inputs : List PlaneWindow) (started : SliceState)
    (written configured : RangeEncoder) (encoding : Encoding CarryingEncoder) : Prop where
  windows : SliceInputWindow.validate stream input (cellSlice stream 0) = .ok inputs
  reset : ({} : SliceState).reset stream inputs = .ok started
  header : LegacyKeyframe.writeHeader stream {} = .ok () written
  contexts : RangeEncoder.reconfigureContexts (LegacyKeyframe.contextCounts stream)
    (List.replicate stream.codedPlaneCount []) written = .ok () configured
  samples : LegacyKeyframe.encodeSamples stream memory inputs
    { writer := { encoder := configured }, state := started } = .ok () encoding
  closed : encoding.writer.encoder.Ready →
    encoding.writer.encoder.Fits payload ∧ 2 ≤ payload.length

theorem encode_coding
    (hencode : LegacyKeyframe.encode stream input memory closeInterval = .ok payload)
    (hcarrying : LegacyKeyframe.carrying stream input memory = .ok coder) :
    ∃ inputs started written configured encoding, encoding.writer = coder ∧
      KeyframeCoding stream input memory payload inputs started written configured encoding := by
  simp only [LegacyKeyframe.encode, except_bind_ok] at hencode
  obtain ⟨inputs, hwindows, started, hreset, configured, hstart, hencode⟩ := hencode
  simp only [LegacyKeyframe.carrying, except_bind_ok] at hcarrying
  obtain ⟨_, hinputs, _, hstate, _, hwriter, hcarrying⟩ := hcarrying
  obtain rfl := Except.ok.inj (hwindows.symm.trans hinputs)
  obtain rfl := Except.ok.inj (hreset.symm.trans hstate)
  obtain rfl := Except.ok.inj (hstart.symm.trans hwriter)
  obtain ⟨_, hcarrying⟩ := valueOn_ok hcarrying
  obtain ⟨_, encoding, hsamples, hcoder⟩ := Mirror.bind_ok_iff.mp hcarrying
  obtain ⟨_, hstart⟩ := valueOn_ok hstart
  simp only [Mirror.bind_ok_iff] at hstart
  obtain ⟨_, written, hheader, _, start, hcontexts, hget⟩ := hstart
  obtain ⟨rfl, rfl⟩ := EStateM.Result.ok.inj hget
  refine ⟨inputs, started, written, _, encoding, (EStateM.Result.ok.inj hcoder).1,
    hwindows, hreset, hheader, hcontexts, hsamples, fun hready => ?_⟩
  obtain ⟨_, hencode⟩ := valueOn_ok hencode
  obtain ⟨_, plain, hplain, hclose⟩ := Mirror.bind_ok_iff.mp hencode
  have hprojects := keyframeSamples_projects carrying_projects stream memory inputs
    { writer := { encoder := start }, state := started }
  rw [hsamples] at hprojects
  obtain rfl := (EStateM.Result.ok.inj (hprojects.symm.trans hplain)).2
  obtain ⟨last, hfinal, -⟩ := onWriter_ok_iff.mp hclose
  exact RangeEncoder.finalizeImpl_fits hready hfinal

variable (h : LegacyStream stream)
  (coding : KeyframeCoding stream input memory payload inputs started written configured encoding)
  (hkept : encoding.writer.Kept payload)
  (hframe : FrameValidator.validateOutput stream output = .ok ())
  (houtput : SliceOutputWindow.validate stream output (cellSlice stream 0) = .ok outputs)
include h coding hkept hframe houtput

/-- Where the carries leave the code alone, the samples are read behind the parameters. -/
theorem KeyframeCoding.reads_back : ∃ coded reader last decoding,
    HeaderRead payload stream written coded reader ∧ reader.bytePosition ≤ payload.length ∧
      SliceDecoder.startBehindLegacyHeader stream (keyframeSlice stream payload reader.bytePosition)
        (LegacyKeyframe.contextCounts stream) (List.replicate stream.codedPlaneCount []) {} =
          .ok () last ∧
      decodeRangeSamples stream (SliceDecoder.rangeSetup stream
          (keyframeSlice stream payload reader.bytePosition) outputs.length) outputs
        { reader := last, state := started } = .ok () decoding ∧
      decoding.reader.initialized = true ∧
      decoding.stores = keyframeStores stream memory inputs
        (sliceWidth stream (cellSlice stream 0)) (sliceHeight stream (cellSlice stream 0)) := by
  have hplaced := cell_placed h.sets_ne h.cell
  have hin := inputShape hplaced coding.windows
  have hout := outputShape (FrameValidator.validateOutput_format hframe) houtput
  obtain ⟨hwritten, hheader⟩ := header_read h coding.header
  have hcontexts : Reads payload [] False _ _ _ := reconfigureContexts_reads
    (LegacyKeyframe.contextCounts stream) (List.replicate stream.codedPlaneCount [])
  obtain ⟨hconfigured, hconfigure⟩ := hcontexts written () configured hwritten coding.contexts
  have hmirror (scopes : List ContextStateBanks) (offset : Nat) : Mirror.Mirrors
      (encodingChannel (legacyChannel payload)) False (InStep (Carried payload scopes) _ [])
      (LegacyKeyframe.encodeSamples stream memory inputs)
      (decodeRangeSamples stream (SliceDecoder.rangeSetup stream
        (keyframeSlice stream payload offset) outputs.length) outputs) _ :=
    keyframeSamples_mirrors legacy_copies h.supportedDepth h.colorspace
      (h.setup_matches hout.planes) hin hout memory
  have hfirst : (encodingChannel (legacyChannel payload)).inv
      { writer := { encoder := configured }, state := started } := ⟨hconfigured, le_refl _⟩
  obtain ⟨⟨hready, -⟩, hback⟩ := hmirror [] 0 _ () encoding hfirst coding.samples
  obtain ⟨hfits, hlength⟩ := coding.closed hready
  obtain ⟨⟨hconfiguredFits, -⟩, -⟩ := hback ⟨hfits, hkept⟩
  obtain ⟨coded, reader, hread⟩ := hheader (hconfigure hconfiguredFits).1 hlength
  obtain ⟨last, hstart, hcarried⟩ := @HeaderRead.started _ _ _ _ _ _ _ _ hread h coding.contexts
    (keyframeSlice stream payload reader.bytePosition) rfl rfl rfl
  obtain ⟨-, hdecode⟩ := hmirror coded.scalarContextSnapshots reader.bytePosition _ () encoding
    hfirst coding.samples
  obtain ⟨_, decoding, hrun, hend⟩ := ((hdecode ⟨hfits, hkept⟩).2 { reader := last, state := started }
    ⟨hcarried, rfl, reset_sized hin coding.reset, rfl⟩).result
  refine ⟨coded, reader, last, decoding, hread, ?_, hstart, hrun, ?_, hend.stored⟩
  · rw [hread.tracks.window.position]
    exact Nat.min_le_right _ _
  · obtain ⟨plain, htracks, hlifted⟩ := hend.symbols
    rw [hlifted]
    exact htracks.initialized

/-- The decoder comes to the rows of the input. -/
theorem KeyframeCoding.decoded : ∃ coded reader, HeaderRead payload stream written coded reader ∧
    reader.bytePosition ≤ payload.length ∧ ∃ after, ∀ before,
      SliceExecutor.decodeSlice stream output
          (keyframeSlice stream payload reader.bytePosition) { memory := before, state := {} } =
        .ok () {
          memory := applyStores outputs (keyframeStores stream memory inputs
            (sliceWidth stream (cellSlice stream 0)) (sliceHeight stream (cellSlice stream 0)))
            before
          state := after } := by
  have hin := inputShape (cell_placed h.sets_ne h.cell) coding.windows
  have hout := outputShape (FrameValidator.validateOutput_format hframe) houtput
  obtain ⟨coded, reader, last, decoding, hread, hoffset, hstart, hrun, hinit, hstores⟩ :=
    coding.reads_back h hkept hframe houtput
  have hreset : ({} : SliceState).reset stream outputs = .ok started := by
    rw [← coding.reset, reset_eq (widths_eq hin hout)]
  obtain ⟨after, hdecode⟩ := h.decodeSlice_of_samples hframe houtput hoffset hreset hstart hrun hinit
  rw [hstores] at hdecode
  exact ⟨coded, reader, hread, hoffset, after, hdecode⟩

end Coding

end Mffv1
