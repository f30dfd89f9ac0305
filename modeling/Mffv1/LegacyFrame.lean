import Mffv1.LegacySlice
import Mffv1.Lossless
import Mffv1.WriteConfinement

/-!
# Legacy keyframes come out

A keyframe of the first versions configures a decoder, and is parsed as one slice. Where the
carries of its zeros leave the code alone, the decoder comes to its samples.
-/
namespace Mffv1

open SliceEncodeExecutor (cellHeader)

section Parsing

variable {stream : StreamParameters} {payload : Bytes} {written : RangeEncoder}
  {coded reader : RangeCoder} {offset : Nat}

namespace LegacyStream

variable (h : LegacyStream stream)
include h

theorem extent : ¬(stream.width = 0 ∨ stream.height = 0) := by
  have hshape := h.shape
  simp only [FrameValidator.validateStreamShape, except_bind_ok, exists_unit, failIf_ok_iff]
    at hshape
  exact hshape.1

/-- No plane is empty. -/
theorem regions : ¬hasEmptyPlaneRegion stream := by
  have hextent := not_or.mp h.extent
  have hpositive {value : UInt32} (hne : value ≠ 0) : ¬value < 1 := fun hlt =>
    hne (UInt32.toNat_inj.mp (Nat.lt_one_iff.mp (UInt32.lt_iff_toNat_lt.mp hlt)))
  have hsubsampled {value : UInt32} (hne : value ≠ 0) (log2Subsample : UInt8) :
      ¬subsampledExtent value log2Subsample < 1 := by
    refine hpositive fun hzero => ?_
    have hexact := subsampledExtent_toNat value log2Subsample
    have hvalue : 0 < value.toNat := Nat.pos_of_ne_zero fun h => hne (UInt32.toNat_inj.mp h)
    have hpower : 0 < 2 ^ log2Subsample.toNat := Nat.two_pow_pos _
    have hone : 0 < exactSubsampledExtent value.toNat log2Subsample.toNat :=
      Nat.div_pos (by omega) hpower
    rw [hzero] at hexact
    exact absurd (hexact ▸ hone) (by decide)
  rintro ⟨planeIndex, -, hwidth | hheight⟩
  · rw [h.columns] at hwidth
    unfold StreamParameters.planeWidth at hwidth
    split at hwidth
    · exact hsubsampled hextent.1 _ hwidth
    · exact hpositive hextent.1 hwidth
  · rw [h.rows] at hheight
    unfold StreamParameters.planeHeight at hheight
    split at hheight
    · exact hsubsampled hextent.2 _ hheight
    · exact hpositive hextent.2 hheight

/-- The parser places the only slice. -/
theorem applyRaster_single : SliceHeaderParser.applyRaster stream
    { width := 1, height := 1, quantTableSetIndexes := [0] } {} =
      .ok { cellSlice stream 0 with quantTableSetIndexes := [0] } := by
  have hcell := applyRaster_cell h.sets_ne h.cell
  have hheader : cellHeader stream 0 =
      { width := 1
        height := 1
        quantTableSetIndexes := List.replicate stream.quantTableSetIndexCount 0 } := by
    simp [cellHeader]
  have hindexes : ¬∃ index ∈ [0], stream.quantTableSets.length ≤ index := by
    rw [h.sets]
    decide
  rw [hheader] at hcell
  simp only [SliceHeaderParser.applyRaster, except_bind_ok, exists_unit, failIf_ok_iff] at hcell ⊢
  obtain ⟨hdims, hrect, -, -, hpicture, -⟩ := hcell
  refine ⟨hdims, hrect, List.cons_ne_nil _ _, hindexes, hpicture, ?_⟩
  simp only [cellSlice, Nat.zero_mod, Nat.zero_div]
  rfl

/-- The slice covers the raster. -/
theorem covers : SliceExecutor.Covers stream [keyframeSlice stream payload offset] := by
  refine covers_of_cells (fun slice hmem => ?_) (fun k => ?_) h.cellCount.symm h.cell
    (by rw [h.cellCount]; decide) fun hlimit => ?_
  · rw [List.mem_singleton.mp hmem]
    exact h.slice_placed
  · obtain ⟨_ | k, hk⟩ := k
    · rfl
    · exact absurd (Nat.lt_of_succ_lt_succ hk) (Nat.not_lt_zero _)
  · unfold requiresVersion3ParallelSliceLimit at hlimit
    rw [decide_eq_false h.not_third] at hlimit
    cases hlimit

end LegacyStream

/-- The keyframe is parsed as one slice. -/
theorem HeaderRead.parsed (hread : HeaderRead payload stream written coded reader)
    (h : LegacyStream stream) (verifyCrc : Bool) :
    FrameParser.parse stream verifyCrc payload =
      .ok (parsedFrame stream true [keyframeSlice stream payload reader.bytePosition]) := by
  have hstart : FrameParser.initializeFrame stream payload =
      .ok { frameInfo := makeFrameInfo stream } := by
    unfold FrameParser.initializeFrame
    rw [failIf_of_not hread.payload_ne, failIf_of_not h.extent,
      failIf_of_not (by rw [h.columns, h.rows]; decide)]
    rfl
  have hsingle : decide (stream.numHSlices ≠ 1 ∨ stream.numVSlices ≠ 1) = false := by
    rw [h.columns, h.rows]
    decide
  have hcontent : FrameParser.legacyContent stream payload = .ok (true, reader.bytePosition, 0) := by
    unfold FrameParser.legacyContent
    rw [if_pos h.version_range.2, h.mode]
    exact hread.content
  have hcontinues : (decide (stream.version ≤ 1) && decide (stream.entropyMode = .range)) = true := by
    rw [h.mode, decide_eq_true h.version_range.2]
    rfl
  have hcovered : validateSliceRasterCoverage stream
      [keyframeSlice stream payload reader.bytePosition] = .ok () := h.covers.covered
  have hslice : FrameParser.parseLegacySingleSlice stream payload =
      .ok (parsedFrame stream true [keyframeSlice stream payload reader.bytePosition]) := by
    unfold FrameParser.parseLegacySingleSlice
    rw [hstart, hcontent, h.applyRaster_single, hcontinues]
    change ((validateSliceRasterCoverage stream
      [keyframeSlice stream payload reader.bytePosition]).mapError _ >>= fun _ => _) = _
    rw [hcovered]
    rfl
  unfold FrameParser.parse
  rw [hstart, hsingle]
  change (if 3 ≤ stream.version then _ else _) = _
  rw [if_neg h.not_third, if_neg (fun hbad => by cases hbad.1), failIf_of_not (by decide)]
  exact hslice

/-- A decoder that the keyframe configures, or that was configured for its stream. -/
theorem HeaderRead.configures (hread : HeaderRead payload stream written coded reader)
    {decoder : Decoder} (hstream : decoder.stream = none ∨ decoder.stream = some stream)
    (hdims : decoder.options.frameWidth = stream.width ∧
      decoder.options.frameHeight = stream.height) :
    ∃ info configured, Decoder.bootstrapLegacyFrame payload decoder = .ok info configured ∧
      configured.stream = some stream ∧ configured.options = decoder.options := by
  have hbootstrap : LegacyFrameBootstrapParser.parse payload decoder.options.frameWidth
      decoder.options.frameHeight =
        .ok (keyframeBootstrap stream stream.width stream.height coded reader) := by
    rw [hdims.1, hdims.2]
    exact hread.bootstrap _ _
  unfold Decoder.bootstrapLegacyFrame
  rw [failIf_of_not hread.payload_ne, Mirror.pure_bind, Mirror.get_bind, hbootstrap,
    Mirror.bind_ok (Mirror.ofExcept_ok_iff.mpr ⟨rfl, rfl⟩)]
  simp only [keyframeBootstrap, Bool.true_eq_false]
  rcases hstream with hfresh | hconfigured
  · rw [hfresh]
    exact ⟨_, _, rfl, rfl, rfl⟩
  · rw [hconfigured]
    exact ⟨_, decoder, rfl, hconfigured, rfl⟩

/-- What the decoder makes of the keyframe. -/
theorem HeaderRead.readFrame (hread : HeaderRead payload stream written coded reader)
    (h : LegacyStream stream) {decoder : Decoder} (hstream : decoder.stream = some stream) :
    decoder.readFrame payload =
      .ok (stream, parsedFrame stream true [keyframeSlice stream payload reader.bytePosition]) := by
  have hframe : Decoder.parseFrame decoder.options stream payload =
      .ok (parsedFrame stream true [keyframeSlice stream payload reader.bytePosition]) := by
    unfold Decoder.parseFrame
    rw [if_neg h.not_third, hread.parsed h]
  unfold Decoder.readFrame
  rw [hstream]
  dsimp only
  rw [failIf_of_not h.extent, failIf_of_not hread.payload_ne, hframe]
  rfl

end Parsing

/-- A keyframe of one slice. -/
theorem SliceExecutor.decode_single {stream : StreamParameters} {output : FrameView}
    {slice : SliceDescriptor} {before after : FrameMemory} {next : SliceState}
    (hvalid : validateSlice stream output slice = .ok ())
    (hdecode : decodeSlice stream output slice { memory := before, state := {} } =
      .ok () { memory := after, state := next })
    (threadCount : Nat) (order : List Nat) (executor : SliceExecutor) :
    decode stream threadCount order output [slice] true { executor, memory := before } =
      .ok () {
        executor := { sliceStates := [next], sliceLayouts := [sliceLayout slice] }
        memory := after } := by
  have hserial : ¬(1 < threadCount ∧ 2 ≤ [slice].length) := fun hbad =>
    absurd hbad.2 (Nat.lt_irrefl 1)
  have hvalidate : validateSlices stream threadCount output [slice] = .ok () := by
    unfold validateSlices validateEach
    rw [if_neg hserial, hvalid]
    rfl
  have hparallel : isParallel stream threadCount [slice] = false := by
    unfold isParallel
    rw [decide_eq_false (show ¬2 ≤ [slice].length from Nat.lt_irrefl 1), Bool.and_false,
      Bool.false_and]
  have hslices : decodeSlices stream threadCount order output [slice]
      { memory := before, states := [{}] } = .ok () { memory := after, states := [next] } := by
    have hfirst : decodeAt stream output [slice] 0 { memory := before, states := [{}] } =
        .ok () { memory := after, states := [next] } := by
      have htask : decodeSlice stream output (sliceAt [slice] 0)
          { memory := before, state := [({} : SliceState)].getD 0 {} } =
            .ok () { memory := after, state := next } := hdecode
      unfold decodeAt
      dsimp only
      rw [htask]
      rfl
    unfold decodeSlices
    rw [hparallel]
    change (decodeAt stream output [slice] 0 >>= fun _ => _) _ = _
    rw [Mirror.bind_ok hfirst]
    rfl
  unfold decode
  rw [hvalidate, Mirror.bind_ok (Mirror.ofExcept_ok_iff.mpr ⟨rfl, rfl⟩), Mirror.get_bind]
  change ((MonadExcept.ofExcept (Except.ok [({} : SliceState)]) : Call Execution (List SliceState))
    >>= fun states => _) _ = _
  rw [Mirror.bind_ok (Mirror.ofExcept_ok_iff.mpr ⟨rfl, rfl⟩)]
  dsimp only
  rw [hslices]
  rfl

section Frames

variable {stream : StreamParameters} {input output : FrameView} {memory decoded : FrameMemory}

/-- Planes whose rows are interleaved have one size. -/
theorem planeSize_interleaved (horder : usesLegacyRangeYcbcrRowOrder stream = true)
    (planeIndex : Nat) : stream.planeWidth planeIndex = stream.planeWidth 0 ∧
      stream.planeHeight planeIndex = stream.planeHeight 0 := by
  simp only [usesLegacyRangeYcbcrRowOrder, Bool.and_eq_true, decide_eq_true_iff] at horder
  obtain ⟨⟨-, hhorizontal⟩, hvertical⟩ := horder
  simp [StreamParameters.planeWidth, StreamParameters.planeHeight, hhorizontal, hvertical,
    subsampledExtent]

/-- The samples of the only slice are those of the frame. -/
theorem LegacyStream.frameSame (h : LegacyStream stream)
    (hcell : CellSame stream input output memory 0 decoded) :
    FrameSame stream input output memory decoded := by
  intro planeIndex hplane x hx y hy
  obtain ⟨⟨cell, hlt⟩, hcontains, -⟩ := cellRects_exactCover h.sets_ne h.cell planeIndex x hx y hy
  obtain rfl : cell = 0 := Nat.lt_one_iff.mp (h.cellCount ▸ hlt)
  exact hcell planeIndex hplane x y hcontains

/-- The stores of a keyframe leave its samples. -/
theorem LegacyStream.stores_same (h : LegacyStream stream) {inputs outputs : List PlaneWindow}
    (houtput : OutputReady stream output)
    (hinputs : SliceInputWindow.validate stream input (cellSlice stream 0) = .ok inputs)
    (houtputs : SliceOutputWindow.validate stream output (cellSlice stream 0) = .ok outputs)
    (before : FrameMemory) :
    FrameSame stream input output memory (applyStores outputs (keyframeStores stream memory inputs
      (sliceWidth stream (cellSlice stream 0)) (sliceHeight stream (cellSlice stream 0))) before) := by
  have hplaced := cell_placed h.sets_ne h.cell
  have hin := inputShape hplaced hinputs
  have hout := outputShape (FrameValidator.validateOutput_format houtput.accepted) houtputs
  refine h.frameSame (cellSame_of_windows hplaced hinputs houtputs
    fun planeIndex hplane x hx y hy => ?_)
  refine sampleAt_inputStores hin hout (fun store => mem_keyframeStores fun horder planeIndex _ => ?_)
    (houtput.apart.windowsApart hplaced houtputs) hplane
    (SliceOutputWindow.validate_addresses houtputs (hout.planes ▸ hplane)).rowsSeparate hx hy before
  exact (sliceSize_congr hplaced (planeSize_interleaved horder planeIndex)).2

end Frames

section Keyframes

variable {stream : StreamParameters} {input : FrameView} {memory : FrameMemory}
  {closeInterval : Bool} {payload : Bytes} {coder : CarryingEncoder} {decoder : Decoder}
  {delivery : Delivery} {written : RangeEncoder} {coded reader : RangeCoder}

/-- A decoder is configured by a keyframe of its dimensions, and writes what its slice comes to. -/
theorem HeaderRead.delivered (hread : HeaderRead payload stream written coded reader)
    (h : LegacyStream stream) (hoffset : reader.bytePosition ≤ payload.length)
    (hstream : decoder.stream = none ∨ decoder.stream = some stream)
    (hdims : decoder.options.frameWidth = stream.width ∧
      decoder.options.frameHeight = stream.height)
    (hready : delivery.Ready decoder.options stream) {decoded : FrameMemory} {after : SliceState}
    (hdecode : SliceExecutor.decodeSlice stream delivery.output
        (keyframeSlice stream payload reader.bytePosition)
        { memory := delivery.memory, state := {} } = .ok () { memory := decoded, state := after }) :
    ∃ info configured run, Decoder.bootstrapLegacyFrame payload decoder = .ok info configured ∧
      configured.stream = some stream ∧ delivery.decode payload configured = .ok () run ∧
      run.memory = decoded ∧
      Patch.SameOutside (SampleBytes stream delivery.output) delivery.memory decoded := by
  obtain ⟨info, configured, hbootstrap, hconfigured, hoptions⟩ := hread.configures hstream hdims
  have hordered : delivery.Ready configured.options stream := hoptions ▸ hready
  have hframe := hread.readFrame h hconfigured
  have hplaced := (@LegacyStream.covers _ payload reader.bytePosition h).placed
  obtain ⟨outputs, houtputs⟩ := outputWindows_made hready.output h.sets_ne h.regions h.cell
  have hvalid : SliceExecutor.validateSlice stream delivery.output
      (keyframeSlice stream payload reader.bytePosition) = .ok () :=
    validateSlice_of_valid houtputs
      (h.slice_valid hoffset (SliceOutputWindow.validate_length houtputs))
  have hsingle := SliceExecutor.decode_single hvalid hdecode
    (normalizeThreadCount delivery.hardwareConcurrency configured.options.threadCount)
    delivery.order configured.executor
  have hconfined := SliceExecutor.decode_confined hready.output.accepted hplaced
    (h.cellCount ▸ hordered.order) true
    { executor := configured.executor, memory := delivery.memory } (Patch.SameOutside.refl _ _)
  rw [hsingle] at hconfined
  exact ⟨info, configured, _, hbootstrap, hconfigured,
    decodeFrame_of_decoded hready.output hframe hsingle, rfl, hconfined⟩

end Keyframes

open ConfigurationRecordWriter (writeU writeQuantTableSets writeZeroTables writeQuantTableSet_zero)

/-- Four samples of one plane. -/
def fadedStream : StreamParameters :=
  { version := 0, microVersion := 0, width := 4, height := 1, chromaPlanes := false,
    quantTableSets := [makeZeroQuantTableSet] }

def fadedFrame : FrameView where
  planes := some [{ hasData := true, info := makePlaneInfo fadedStream 0 }]
  planeCount := 1

def fadedSamples (samples : List UInt8) : FrameMemory := fun _ place => samples.getD place.toNat 0

def fadedDelivery : Delivery where
  output := fadedFrame
  memory := SliceExecutor.emptyMemory
  hardwareConcurrency := 1
  order := []

def fadedDecoder : Decoder := { options := { frameWidth := 4, frameHeight := 1 } }

theorem fadedStream_legacy : LegacyStream fadedStream where
  version := .inl rfl
  microVersion := rfl
  mode := rfl
  shape := by decide
  colorspace := rfl
  depth _ := rfl
  columns := rfl
  rows := rfl
  sets := rfl
  contexts := by decide
  states := rfl
  table := rfl
  errorStatus := rfl
  intra := rfl

theorem fadedDelivery_ready : fadedDelivery.Ready fadedDecoder.options fadedStream where
  output := {
    accepted := by decide
    apart := PlanesApart.of_single rfl
    rows := fun planeIndex h => by
      obtain rfl : planeIndex = 0 := Nat.lt_one_iff.mp h
      decide
    addressed := fun planeIndex h => by
      obtain rfl : planeIndex = 0 := Nat.lt_one_iff.mp h
      decide }
  order := fun hthreads => absurd hthreads (by decide)

/-- The parameters of the stream, whose tables are zero. -/
def fadedParameters : Call RangeEncoder Unit := do
  writeU 0
  writeU 1
  writeU 0
  LegacyKeyframe.writePlanes fadedStream
  let scale ← writeZeroTables 5 1
  failIf (makeZeroQuantTableSet.contextCount ≠ ((scale + 1) / 2).toUInt32) (makeError .invalidState
    "configuration quantization table context count does not match encoded tables")

theorem writeParameters_faded : LegacyKeyframe.writeParameters fadedStream = fadedParameters := by
  have hsets : fadedStream.quantTableSets = [makeZeroQuantTableSet] := rfl
  have hfirst : fadedStream.version < 1 := by decide
  unfold LegacyKeyframe.writeParameters fadedParameters
  rw [fadedStream_legacy.coderType, fadedStream_legacy.not_custom, hsets]
  simp only [writeQuantTableSets, writeQuantTableSet_zero, hfirst, if_true, Bool.false_eq_true,
    if_false, pure_bind, bind_assoc, bind_pure_unit]
  rfl

def fadedKeyframe : Bytes := [201, 208, 129, 167, 78, 157, 58, 116, 233, 211, 124, 146]

/-- The decoder that stands where an encoder stands, in front of its final bytes. -/
def RangeEncoder.reader (payload : Bytes) (encoder : RangeEncoder) : RangeCoder where
  payload
  range := encoder.range
  low := .ofNat (ByteValue.prefixValue payload encoder.interval.digits - encoder.interval.low)
  bytePosition := min encoder.interval.digits payload.length
  ended := decide (payload.length ≤ encoder.interval.digits)
  initialized := true
  stateTransition := encoder.stateTransition
  scalarContexts := encoder.scalarContexts
  scalarContextSnapshots := encoder.scalarContextSnapshots

theorem Tracks.eq_reader {payload : Bytes} {e : RangeEncoder} {d : RangeCoder}
    (h : Tracks payload [] e d) : d = e.reader payload := by
  have hrange : d.range = e.range := UInt32.toNat_inj.mp h.window.range
  have hlow : d.low = .ofNat (ByteValue.prefixValue payload e.interval.digits - e.interval.low) := by
    rw [← h.window.low, Nat.add_sub_cancel, UInt32.ofNat_toNat]
  have hsnapshots := h.snapshots
  rw [List.append_nil] at hsnapshots
  cases d
  simp only [RangeEncoder.reader, RangeCoder.mk.injEq]
  exact ⟨h.window.bytes, hrange, hlow, h.window.position, h.window.ended, h.initialized,
    h.arithmetic, h.carry, h.table, h.contexts, hsnapshots⟩

/-- The encoder behind the parameters. -/
def fadedWritten : RangeEncoder := Mirror.finalState ((do
  RangeEncoder.resetSingle defaultStateTransition
  RangeEncoder.writeBool true
  RangeEncoder.reconfigureContexts [1] []
  fadedParameters : Call RangeEncoder Unit) {})

def fadedConfigured : RangeEncoder := Mirror.finalState (RangeEncoder.reconfigureContexts
  (LegacyKeyframe.contextCounts fadedStream) (List.replicate fadedStream.codedPlaneCount [])
  fadedWritten)

def disturbedKeyframe : Bytes :=
  [201, 208, 129, 167, 78, 157, 58, 116, 233, 212, 65, 227, 119, 167]

def fadedWindows : List PlaneWindow := [{ strideBytes := 4, width := 4, height := 1 }]

def fadedStarted : SliceState := (({} : SliceState).reset fadedStream fadedWindows).toOption.getD {}

def disturbedDecoding : Decoding RangeCoder := Mirror.finalState
  (decodeRangeSamples fadedStream (SliceDecoder.rangeSetup fadedStream
    (keyframeSlice fadedStream disturbedKeyframe 11) 1) fadedWindows
    { reader := (fadedConfigured.reader disturbedKeyframe).lifted [] 0, state := fadedStarted })

theorem disturbed_header : ∃ coded reader,
    HeaderRead disturbedKeyframe fadedStream fadedWritten coded reader ∧
      coded.scalarContextSnapshots = [] ∧ reader.bytePosition = 11 := by
  have hheader : LegacyKeyframe.writeHeader fadedStream {} = .ok () fadedWritten := by
    unfold LegacyKeyframe.writeHeader
    rw [writeParameters_faded]
    exact Mirror.eq_ok_of_succeeded (by decide +kernel)
  have hfits : fadedWritten.Fits disturbedKeyframe := by decide +kernel
  obtain ⟨coded, reader, hread⟩ := (header_read fadedStream_legacy hheader).2 hfits (by decide)
  refine ⟨coded, reader, hread, ?_, ?_⟩
  · have hcoded : coded = Mirror.finalState ((do
        RangeCoder.resetSingle disturbedKeyframe defaultStateTransition
        RangeCoder.readBool : Call RangeCoder Bool) {}) := by
      rw [hread.flag]
      rfl
    rw [hcoded]
    decide +kernel
  · rw [hread.tracks.window.position]
    decide +kernel

/-- The coder starts where the encoder stood, and comes to other samples. -/
theorem disturbed_decoded : ∃ coded reader,
    HeaderRead disturbedKeyframe fadedStream fadedWritten coded reader ∧
      reader.bytePosition = 11 ∧ ∃ after, SliceExecutor.decodeSlice fadedStream fadedFrame
          (keyframeSlice fadedStream disturbedKeyframe 11)
          { memory := SliceExecutor.emptyMemory, state := {} } =
        .ok () {
          memory := applyStores fadedWindows disturbedDecoding.stores SliceExecutor.emptyMemory
          state := after } := by
  obtain ⟨coded, reader, hread, hscopes, hposition⟩ := disturbed_header
  have hcontexts : RangeEncoder.reconfigureContexts (LegacyKeyframe.contextCounts fadedStream)
      (List.replicate fadedStream.codedPlaneCount []) fadedWritten = .ok () fadedConfigured :=
    Mirror.eq_ok_of_succeeded (by decide +kernel)
  obtain ⟨last, hstart, plain, htracks, hlast⟩ := @HeaderRead.started _ _ _ _ _ _ _ _ hread
    fadedStream_legacy hcontexts (keyframeSlice fadedStream disturbedKeyframe reader.bytePosition)
    rfl rfl rfl
  dsimp only at htracks hlast
  rw [hscopes, htracks.eq_reader] at hlast
  rw [hposition] at hstart
  have hrun : decodeRangeSamples fadedStream (SliceDecoder.rangeSetup fadedStream
      (keyframeSlice fadedStream disturbedKeyframe 11) 1) fadedWindows
      { reader := last, state := fadedStarted } = .ok () disturbedDecoding := by
    rw [hlast]
    exact Mirror.eq_ok_of_succeeded (by decide +kernel)
  have houtput : SliceOutputWindow.validate fadedStream fadedFrame (cellSlice fadedStream 0) =
      .ok fadedWindows := by decide +kernel
  have hreset : ({} : SliceState).reset fadedStream fadedWindows = .ok fadedStarted := by
    decide +kernel
  have hinit : disturbedDecoding.reader.initialized = true := by decide +kernel
  obtain ⟨after, hdecode⟩ := fadedStream_legacy.decodeSlice_of_samples
    fadedDelivery_ready.output.accepted houtput (by decide) hreset hstart hrun hinit
  exact ⟨coded, reader, hread, hposition, after, hdecode _⟩

end Mffv1
