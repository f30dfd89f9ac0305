import Mffv1.SliceRoundTrip

/-!
# Range-coded slices are read back

The coder that has read the header of a cell once more stands where the encoder stood
behind its header. From there both go through the same samples, to the same contexts.
-/
namespace Mffv1

open SliceEncodeExecutor (cellHeader)

section Keeping

open Mirror (Keeps)

variable {W : Type} {I : W → Prop}

theorem onWriter_keeps {α : Type} {call : Call W α} (h : Keeps I call) :
    Keeps (fun encoding : Encoding W => I encoding.writer) (onWriter call) := by
  intro encoding a encoding' hinv hcall
  obtain ⟨writer, hwriter, rfl⟩ := onWriter_ok_iff.mp hcall
  exact h _ _ _ hinv hwriter

variable [SymbolSink W]
  (hwrite : ∀ bank context value, Keeps I (SymbolSink.writeSigned (W := W) bank context value))
include hwrite

theorem encodeSample_keeps (model : QuantTableSet) (bank : Nat) (sample : Int) (bits : Nat)
    (signed16bit : Bool) (planeIndex x : Nat) :
    Keeps (fun encoding : Encoding W => I encoding.writer)
      (encodeSample model bank sample bits signed16bit planeIndex x) :=
  Keeps.view fun _ _ => Keeps.bind (Keeps.ofExcept _) fun _ =>
    Keeps.bind (onWriter_keeps (hwrite _ _ _)) fun _ => Keeps.update fun _ h => h

theorem encodeRgbPlaneRow_keeps (stream : StreamParameters) (memory : FrameMemory)
    (windows : List PlaneWindow) (transformed : List RgbCode) (width y planeIndex : Nat) :
    Keeps (fun encoding : Encoding W => I encoding.writer)
      (encodeRgbPlaneRow stream memory windows transformed width y planeIndex) := by
  refine Keeps.forLoop _ _ fun x _ _ => ?_
  split
  · exact Keeps.bind Keeps.pure fun _ => encodeSample_keeps hwrite _ _ _ _ _ _ _
  · exact Keeps.bind (Keeps.ofExcept _) fun _ => Keeps.bind Keeps.pure fun _ =>
      encodeSample_keeps hwrite _ _ _ _ _ _ _

/-- What the symbols keep, a content keeps. -/
theorem encodeSamples_keeps (stream : StreamParameters) (memory : FrameMemory)
    (windows : List PlaneWindow) : Keeps (fun encoding : Encoding W => I encoding.writer)
      (encodeSamples stream memory windows) := by
  unfold encodeSamples
  split
  · refine Keeps.forLoop _ _ fun y _ _ => Keeps.bind (Keeps.ofExcept _) fun samples => ?_
    refine Keeps.bind (Keeps.forLoop _ _ fun planeIndex _ _ => ?_) fun _ =>
      Keeps.update fun _ h => h
    exact encodeRgbPlaneRow_keeps hwrite stream memory windows _ _ y planeIndex
  · refine Keeps.forLoop _ _ fun planeIndex _ _ => Keeps.forLoop _ _ fun y _ _ => ?_
    refine Keeps.bind (Keeps.forLoop _ _ fun x _ _ => ?_) fun _ => Keeps.update fun _ h => h
    exact Keeps.bind (Keeps.ofExcept _) fun _ => encodeSample_keeps hwrite _ _ _ _ _ _ _

omit hwrite

theorem writeSigned_bounded (bank context : Nat) (value : Int) :
    Keeps RangeEncoder.Bounded (RangeEncoder.writeSigned bank context value) :=
  Keeps.bind RangeEncoder.checkOpen_keeps fun _ => Keeps.bind RangeEncoder.failIf_keeps fun _ =>
    RangeEncoder.writeSymbol_keeps RangeEncoder.Bounded.withContexts
      RangeEncoder.writeRac_bounded bank context true _ _

end Keeping

section RangeCoding

variable {stream : StreamParameters} {memory : FrameMemory} {inputs : List PlaneWindow}
  {sliceIndex : Nat} {keyframe : Bool} {started after : SliceState} {code : Bytes}

/-- The writer behind the header of a range-coded cell, with its contexts, and behind its
content; the code is closed there. -/
structure RangeCoding (stream : StreamParameters) (memory : FrameMemory) (inputs : List PlaneWindow)
    (sliceIndex : Nat) (keyframe : Bool) (started after : SliceState) (code : Bytes)
    (written configured : RangeEncoder) (banks : List ContextStateBank)
    (encoding : Encoding RangeEncoder) : Prop where
  header : SliceEncoder.writeHeader stream (cellHeader stream sliceIndex)
    (decide (sliceIndex = 0)) keyframe {} = .ok () written
  initial : SliceEncoder.rangeInitialStateBanks stream (cellHeader stream sliceIndex) started =
    .ok banks
  contexts : RangeEncoder.reconfigureContexts (SliceEncoder.rangeContextCounts stream
    (cellHeader stream sliceIndex)) banks written = .ok () configured
  samples : encodeSamples stream memory inputs { writer := configured, state := started } =
    .ok () encoding
  bounded : encoding.writer.Bounded
  after : after = { encoding.state with rangeContexts := encoding.writer.scalarContexts }
  code : code = encoding.writer.closedBytes

theorem encodeRangeSlice_coding (h : ProfileStream stream) (hcell : sliceIndex < cellCount stream)
    (hencode : SliceEncoder.encodeRangeSlice stream memory inputs (cellHeader stream sliceIndex)
      (decide (sliceIndex = 0)) keyframe started = .ok (after, code)) :
    ∃ written configured banks encoding, RangeCoding stream memory inputs sliceIndex keyframe
      started after code written configured banks encoding := by
  have hget {σ : Type} {call : Call σ Unit} {object writer : σ}
      (hvalue : (call >>= fun _ => get : Call σ σ).valueOn object = .ok writer) :
      call object = .ok () writer := by
    obtain ⟨_, hboth⟩ := valueOn_ok hvalue
    obtain ⟨_, _, hcall, hstate⟩ := Mirror.bind_ok_iff.mp hboth
    obtain ⟨rfl, rfl⟩ := EStateM.Result.ok.inj hstate
    exact hcall
  simp only [SliceEncoder.encodeRangeSlice, except_bind_ok] at hencode
  obtain ⟨written, hwritten, banks, hbanks, configured, hconfigured, hcontent⟩ := hencode
  have hheader := hget hwritten
  have hcontexts := hget hconfigured
  have hprogress := writeHeader_progresses h hcell (decide (sliceIndex = 0)) keyframe
  have hlively := Hoare.Triple.ok hprogress trivial hheader
  have hbounded := RangeEncoder.perform_keeps RangeEncoder.Bounded.withContexts
    RangeEncoder.writeRac_bounded (.reconfigureContexts _ banks) written () configured
    hlively.roomy.bounded hcontexts
  obtain ⟨_, hcontent⟩ := valueOn_ok hcontent
  simp only [SliceEncoder.encodeRangeContent, SliceEncoder.captureContexts, Mirror.bind_ok_iff,
    Mirror.get_bind, Mirror.ofExcept_ok_iff, Mirror.set_apply, onWriter_ok_iff, Mirror.pure_apply,
    EStateM.Result.ok.injEq, Prod.mk.injEq] at hcontent
  obtain ⟨_, coded, hsamples, _, middle, ⟨captured, encoding, ⟨hcapture, hcoded⟩, -, hmiddle⟩,
    payload, last, ⟨closed, hclose, hlast⟩, ⟨hafter, hcode⟩, -⟩ := hcontent
  subst hcoded hmiddle hlast hafter hcode
  have hend := encodeSamples_keeps writeSigned_bounded stream memory inputs
    { writer := configured, state := started } () encoding hbounded hsamples
  rw [RangeEncoder.finalizeClosed_of_bounded hend] at hclose
  refine ⟨written, configured, banks, encoding, hheader, hbanks, hcontexts, hsamples, hend, ?_,
    ((EStateM.Result.ok.inj hclose).1).symm⟩
  unfold SliceState.captureRangeContexts RangeEncoder.copyContexts at hcapture
  rw [hend.ready.initialized] at hcapture
  exact (Except.ok.inj hcapture).symm

end RangeCoding

section RangeReading

variable {stream : StreamParameters} {memory : FrameMemory} {inputs outputs : List PlaneWindow}
  {sliceIndex : Nat} {keyframe : Bool} {started after : SliceState} {code : Bytes}
  {written configured : RangeEncoder} {banks : List ContextStateBank}
  {encoding : Encoding RangeEncoder} {slice : SliceDescriptor}

theorem RangeCoding.readBack (h : ProfileStream stream)
    (coding : RangeCoding stream memory inputs sliceIndex keyframe started after code written
      configured banks encoding) :
    RangeCoding stream.readBack memory inputs sliceIndex keyframe started after code written
      configured banks encoding where
  header := coding.header
  initial := by
    have hinitial := coding.initial
    unfold SliceEncoder.rangeInitialStateBanks at hinitial ⊢
    split at hinitial
    · rename_i hsaved
      rw [if_pos hsaved]
      exact hinitial
    · rename_i hsaved
      rw [if_neg hsaved]
      rw [h.initialStates] at hinitial
      rw [← hinitial]
      refine congrArg _ (List.map_congr_left fun index _ => ?_)
      cases index <;> rfl
  contexts := coding.contexts
  samples := coding.samples
  bounded := coding.bounded
  after := coding.after
  code := coding.code

variable (h : WrittenStream stream) (hplaced : Placed stream slice)
  (hinput : WindowShape stream inputs (sliceWidth stream slice) (sliceHeight stream slice))
  (houtput : WindowShape stream outputs (sliceWidth stream slice) (sliceHeight stream slice))
  (hsized : started.LinesSized stream.codedPlaneCount (sliceWidth stream slice))
  (coding : RangeCoding stream memory inputs sliceIndex keyframe started after code written
    configured banks encoding)
include h hplaced hinput houtput hsized coding

/-- The code continues the header, and a coder behind the header reads the content. -/
theorem RangeCoding.reads_back :
    written.Fits code ∧ ∀ reader, Tracks code [] written reader → ∃ start decoding,
      RangeCoder.reconfigureContexts (SliceEncoder.rangeContextCounts stream
        (cellHeader stream sliceIndex)) banks reader = .ok () start ∧
      decodeRangeSamples stream (SliceDecoder.rangeSetup stream slice outputs.length) outputs
        { reader := start, state := started } = .ok () decoding ∧
      InStep (Tracks code [])
        (fun state => state.LinesSized stream.codedPlaneCount (sliceWidth stream slice))
        (sliceStores stream memory inputs (sliceWidth stream slice) (sliceHeight stream slice))
        encoding decoding := by
  have hready := (writeHeader_checked (cellHeader_indexes stream sliceIndex) coding.header).2
  have hsets := (validateStream_ok h.valid).2.2
  have hrgb (hcolor : stream.colorspaceType = 1) (planeIndex : Nat)
      (_ : planeIndex < stream.codedPlaneCount) := sliceSize_rgb hcolor hplaced planeIndex
  have hcontexts : Reads code [] False _ _ _ := reconfigureContexts_reads
    (SliceEncoder.rangeContextCounts stream (cellHeader stream sliceIndex)) banks
  obtain ⟨hconfigured, hconfigure⟩ := hcontexts written () configured hready coding.contexts
  have hmirror : Mirror.Mirrors (encodingChannel (rangeChannel code)) False (InStep _ _ []) _ _ _ :=
    encodeSamples_mirrors (P := Tracks code []) (fun bank context value =>
      signed_reads bank context value) h.valid h.version
      (rangeSetup_matches hsets h.version hplaced houtput.planes) hinput houtput hrgb memory
  obtain ⟨-, hsamples⟩ := hmirror { writer := configured, state := started } () encoding hconfigured
    coding.samples
  obtain ⟨hfits, hdecode⟩ := hsamples (by
    change encoding.writer.Fits code
    rw [coding.code]
    exact RangeEncoder.closedBytes_fits coding.bounded)
  obtain ⟨hstart, hread⟩ := hconfigure hfits
  refine ⟨hstart, fun reader htracks => ?_⟩
  obtain ⟨_, start, hrun, -, hbehind⟩ := (hread reader htracks).result
  obtain ⟨_, decoding, hdecoded, hend⟩ :=
    (hdecode { reader := start, state := started } ⟨hbehind, rfl, hsized, rfl⟩).result
  exact ⟨start, decoding, hrun, hdecoded, hend⟩

/-- The slice ends with the contexts that the encoder keeps. -/
theorem RangeCoding.content_decoded {reader : RangeCoder} (htracks : Tracks code [] written reader) :
    ∃ start decoding, RangeCoder.reconfigureContexts (SliceEncoder.rangeContextCounts stream
        (cellHeader stream sliceIndex)) banks reader = .ok () start ∧
      SliceDecoder.decodeRangeContent stream slice outputs { reader := start, state := started } =
        .ok () decoding ∧ decoding.state = after ∧
      decoding.stores =
        sliceStores stream memory inputs (sliceWidth stream slice) (sliceHeight stream slice) := by
  obtain ⟨-, hreads⟩ := coding.reads_back h hplaced hinput houtput hsized
  obtain ⟨start, decoding, hstart, hdecode, hend⟩ := hreads reader htracks
  refine ⟨start, { decoding with state := after }, hstart, ?_, rfl, hend.stored⟩
  have hcopy : decoding.reader.copyContexts = .ok encoding.writer.scalarContexts := by
    unfold RangeCoder.copyContexts
    rw [hend.symbols.initialized, hend.symbols.contexts]
    rfl
  have hcapture : decoding.state.captureRangeContexts decoding.reader.copyContexts = .ok after := by
    rw [coding.after, hcopy, ← hend.same]
    rfl
  unfold SliceDecoder.decodeRangeContent SliceDecoder.captureContexts
  rw [Mirror.bind_ok hdecode, Mirror.get_bind, hcapture]
  rfl

end RangeReading

section RangeSlices

variable {stream : StreamParameters} {memory : FrameMemory} {inputs outputs : List PlaneWindow}
  {located : SliceDescriptor} {sliceIndex headerOffset contentOffset : Nat} {keyframe : Bool}
  {started after : SliceState} {code : Bytes} {written configured : RangeEncoder}
  {banks : List ContextStateBank} {encoding : Encoding RangeEncoder}
  {start middle reader last : RangeCoder} {counts : List Nat}

theorem inPayload_ok {α : Type} {slice : SliceDescriptor} {call : Call RangeCoder α} {a : α}
    (h : call start = .ok a reader) :
    SliceDecoder.inPayload slice call start = .ok a reader :=
  Mirror.adaptExcept_ok_iff.mpr h

/-- The coder that reads the header once more ends where the content begins. -/
theorem startBehindHeader_cell (hsets : stream.quantTableSets ≠ [])
    (hcell : sliceIndex < cellCount stream) (hmode : stream.entropyMode = .range)
    (hlocated : LocatedCode located code) (hindex : located.index = sliceIndex)
    (hintra : sliceIndex = 0 → keyframe = false → stream.intraOnly = false)
    (hreset : RangeCoder.resetSingle code stream.stateTransition {} = .ok () start)
    (hstart : StartRead stream sliceIndex keyframe start middle reader)
    (hposition : reader.bytePosition = contentOffset)
    (hcontexts : RangeCoder.reconfigureContexts counts banks reader = .ok () last) :
    SliceDecoder.startBehindHeader stream
        (locatedCell stream sliceIndex located headerOffset contentOffset) counts banks {} =
      .ok () last := by
  obtain ⟨slice, hslice⟩ : ∃ slice,
      slice = locatedCell stream sliceIndex located headerOffset contentOffset := ⟨_, rfl⟩
  have hcontent : slice.contentByteOffset - slice.payloadByteOffset = contentOffset := by
    rw [hslice]
    exact Nat.add_sub_cancel _ _
  have hsliceIndex : slice.index = sliceIndex := by rw [hslice]; exact hindex
  have htake : slice.payload.take (slice.footerByteOffset - slice.payloadByteOffset) = code := by
    rw [hslice]
    exact hlocated.take_payload
  have hsame : SliceDecoder.sameHeader { cellSlice stream sliceIndex with
      headerByteOffset := middle.bytePosition
      contentByteOffset := reader.bytePosition
      payloadByteOffset := middle.bytePosition } slice := by
    rw [hslice]
    exact ⟨rfl, rfl, rfl, rfl, rfl, rfl, rfl, rfl⟩
  have hdescriptor := readDescriptor_of_read hstart.values (applyRaster_cell hsets hcell)
  have hflag {β : Type} (f : Unit → Call RangeCoder β) :
      ((if slice.index = 0 then do
          let _ ← SliceDecoder.readKeyframe stream slice
          SliceDecoder.inPayload slice (RangeCoder.reconfigureContexts [1] [])
        else pure ()) >>= f) start = f () middle := by
    rw [hsliceIndex]
    by_cases hfirst : sliceIndex = 0
    · obtain ⟨coded, hbool, hinitial⟩ := hstart.flag hfirst
      have hkeyframe : SliceDecoder.readKeyframe stream slice start = .ok keyframe coded := by
        unfold SliceDecoder.readKeyframe
        rw [Mirror.bind_ok (inPayload_ok hbool), failIf_of_not]
        · rfl
        · intro hbad
          have honly := hintra hfirst hbad.1
          rw [hbad.2] at honly
          cases honly
      rw [if_pos hfirst]
      exact Mirror.bind_ok (Mirror.bind_ok_iff.mpr ⟨keyframe, coded, hkeyframe,
        inPayload_ok hinitial⟩)
    · rw [if_neg hfirst, hstart.later hfirst]
      rfl
  rw [← hslice]
  unfold SliceDecoder.startBehindHeader
  simp only [htake]
  rw [Mirror.bind_ok (inPayload_ok hreset)]
  refine (hflag _).trans ?_
  rw [Mirror.bind_ok (inPayload_ok hdescriptor), Mirror.get_bind, failIf_of_not]
  · exact inPayload_ok hcontexts
  · rintro (hother | hoffset)
    · exact hother hsame
    · rw [hmode, if_neg (by decide), hposition, hcontent] at hoffset
      exact hoffset rfl

/-- The encoder and the decoder start a cell from the same contexts. -/
theorem rangeContexts_cell (h : WrittenStream stream) (planeCount : Nat) (state : SliceState) :
    SliceDecoder.rangeContextCounts stream
        (locatedCell stream sliceIndex located headerOffset contentOffset) planeCount =
      SliceEncoder.rangeContextCounts stream (cellHeader stream sliceIndex) ∧
    (SliceEncoder.rangeInitialStateBanks stream (cellHeader stream sliceIndex) state = .ok banks →
      SliceDecoder.rangeInitialStateBanks stream
          (locatedCell stream sliceIndex located headerOffset contentOffset) planeCount state =
        .ok banks) := by
  have hversion : (3 : Int) ≤ stream.version := by rw [h.version]
  have hindexes : SliceDecoder.rangeTableSetIndexes stream
      (locatedCell stream sliceIndex located headerOffset contentOffset) planeCount =
        SliceEncoder.rangeTableSetIndexes stream (cellHeader stream sliceIndex) := by
    unfold SliceDecoder.rangeTableSetIndexes SliceEncoder.rangeTableSetIndexes
    rw [if_pos hversion, if_pos hversion]
    rfl
  have hcounts : SliceDecoder.rangeContextCounts stream
      (locatedCell stream sliceIndex located headerOffset contentOffset) planeCount =
        SliceEncoder.rangeContextCounts stream (cellHeader stream sliceIndex) := by
    unfold SliceDecoder.rangeContextCounts SliceEncoder.rangeContextCounts
    rw [hindexes]
    rfl
  refine ⟨hcounts, fun hbanks => ?_⟩
  unfold SliceEncoder.rangeInitialStateBanks at hbanks
  unfold SliceDecoder.rangeInitialStateBanks
  split at hbanks
  · rename_i hsaved
    simp only [except_bind_ok, exists_unit, failIf_ok_iff] at hbanks
    simp only [if_pos hsaved, except_bind_ok, exists_unit, failIf_ok_iff, hcounts]
    exact hbanks
  · rename_i hsaved
    rw [if_neg hsaved, hindexes]
    exact hbanks

/-- A range-coded slice is decoded by the coder that is started for it. -/
theorem decode_of_reader {slice : SliceDescriptor} {content : Bytes}
    {decoding : Decoding RangeCoder} (hmode : stream.entropyMode = .range)
    (hvalid : SliceDecoder.validate stream slice outputs = .ok ())
    (hgeometry : SliceDecoder.validateStateLineGeometry outputs started = .ok ())
    (hcontent : SliceDecoder.resolveContentPayload stream slice = .ok content)
    (hbanks : SliceDecoder.rangeInitialStateBanks stream slice outputs.length started = .ok banks)
    (hstart : SliceDecoder.startReader stream slice content
      (SliceDecoder.rangeContextCounts stream slice outputs.length) banks {} = .ok () last)
    (hdecode : SliceDecoder.decodeRangeContent stream slice outputs
      { reader := last, state := started } = .ok () decoding) :
    SliceDecoder.decode stream false slice outputs { state := started } =
      .ok () { state := decoding.state, stores := decoding.stores } := by
  have hreader : (do
      SliceDecoder.startReader stream slice content
        (SliceDecoder.rangeContextCounts stream slice outputs.length) banks
      get : Call RangeCoder RangeCoder).valueOn {} = .ok last := by
    unfold Call.valueOn
    rw [Mirror.bind_ok hstart]
    rfl
  have hrange : SliceDecoder.decodeRange stream slice content outputs { state := started } =
      .ok () { state := decoding.state, stores := decoding.stores } := by
    unfold SliceDecoder.decodeRange
    rw [Mirror.get_bind, hbanks, Mirror.bind_ok (Mirror.ofExcept_ok_iff.mpr ⟨rfl, rfl⟩)]
    rw [hreader, Mirror.bind_ok (Mirror.ofExcept_ok_iff.mpr ⟨rfl, rfl⟩)]
    unfold SliceProgress.withReader
    rw [hdecode]
  unfold SliceDecoder.decode
  rw [hvalid, Mirror.bind_ok (Mirror.ofExcept_ok_iff.mpr ⟨rfl, rfl⟩), Mirror.get_bind, hgeometry,
    Mirror.bind_ok (Mirror.ofExcept_ok_iff.mpr ⟨rfl, rfl⟩), hcontent,
    Mirror.bind_ok (Mirror.ofExcept_ok_iff.mpr ⟨rfl, rfl⟩), hmode]
  exact hrange

/-- The rows of a slice that is decoded where it lies. -/
theorem decodeSlice_of_decoded {slice : SliceDescriptor} {output : FrameView}
    {before : FrameMemory} {state : SliceState} {progress : SliceProgress}
    (hmode : stream.entropyMode = .range)
    (houtput : SliceOutputWindow.validate stream output slice = .ok outputs)
    (hstate : state.reset stream outputs = .ok started)
    (hdecoded : SliceDecoder.decode stream false slice outputs { state := started } =
      .ok () progress) :
    SliceExecutor.decodeSlice stream output slice { memory := before, state } =
      .ok () { memory := applyStores outputs progress.stores before, state := progress.state } := by
  have hdirect : canTryGolombRiceReadAheadBoundary stream slice = false := by
    unfold canTryGolombRiceReadAheadBoundary
    rw [hmode]
    rfl
  unfold SliceExecutor.decodeSlice
  rw [houtput, Mirror.bind_ok (Mirror.ofExcept_ok_iff.mpr ⟨rfl, rfl⟩), Mirror.get_bind, hstate,
    Mirror.bind_ok (Mirror.ofExcept_ok_iff.mpr ⟨rfl, rfl⟩), Mirror.set_bind, hdirect]
  change SliceExecutor.decodeDirectly stream outputs _ _ = _
  unfold SliceExecutor.decodeDirectly
  rw [hdecoded]

variable {input output : FrameView} {state : SliceState}

/-- The decoder comes to the rows of a range-coded cell, and to the state that the encoder
keeps of it. -/
theorem decodeSlice_range (h : WrittenStream stream) (hcell : sliceIndex < cellCount stream)
    (hmode : stream.entropyMode = .range) (hlocated : LocatedCode located code)
    (hindex : located.index = sliceIndex)
    (hintra : sliceIndex = 0 → keyframe = false → stream.intraOnly = false)
    (hinput : SliceInputWindow.validate stream input (cellSlice stream sliceIndex) = .ok inputs)
    (hreset : state.reset stream inputs = .ok started)
    (coding : RangeCoding stream memory inputs sliceIndex keyframe started after code written
      configured banks encoding)
    (hreach : written.lowBytes.length ≤ code.length)
    (hframe : FrameValidator.validateOutput stream output = .ok ())
    (houtput : SliceOutputWindow.validate stream output (locatedCell stream sliceIndex located
      headerOffset written.lowBytes.length) = .ok outputs) (before : FrameMemory) :
    SliceExecutor.decodeSlice stream output (locatedCell stream sliceIndex located headerOffset
        written.lowBytes.length) { memory := before, state } =
      .ok () {
        memory := applyStores outputs (sliceStores stream memory inputs
          (sliceWidth stream (cellSlice stream sliceIndex))
          (sliceHeight stream (cellSlice stream sliceIndex))) before
        state := after } := by
  have hplaced : Placed stream (locatedCell stream sliceIndex located headerOffset
      written.lowBytes.length) := locatedCell_placed h.sets_ne hcell
  have hcellShape := inputShape (cell_placed h.sets_ne hcell) hinput
  have hin : WindowShape stream inputs
      (sliceWidth stream (locatedCell stream sliceIndex located headerOffset
        written.lowBytes.length))
      (sliceHeight stream (locatedCell stream sliceIndex located headerOffset
        written.lowBytes.length)) := hcellShape
  have hout := outputShape (FrameValidator.validateOutput_format hframe) houtput
  have hsized := reset_sized hin hreset
  have hlength : 2 ≤ code.length := by
    rw [coding.code]
    exact RangeEncoder.closedBytes_length coding.bounded.ready
  have hcontent : SliceDecoder.resolveContentPayload stream (locatedCell stream sliceIndex located
      headerOffset written.lowBytes.length) = .ok (code.drop written.lowBytes.length) :=
    hlocated.cell.resolveContentPayload_eq rfl hreach (.inr ⟨hmode, h.version⟩)
  have hfits := (coding.reads_back h hplaced hin hout hsized).1
  obtain ⟨start, middle, reader, hbytes, hstart, htracks⟩ :=
    cellStart_read coding.header hfits hlength
  obtain ⟨last, decoding, hcontexts, hdecode, rfl, hstores⟩ :=
    coding.content_decoded h hplaced hin hout hsized htracks
  have hposition : reader.bytePosition = written.lowBytes.length := by
    rw [htracks.window.position]
    exact Nat.min_eq_left hreach
  have hbehind := @startBehindHeader_cell stream located sliceIndex headerOffset _ keyframe code
    banks start middle reader last _ h.sets_ne hcell hmode hlocated hindex hintra hbytes hstart
    hposition hcontexts
  obtain ⟨hcounts, hbanks⟩ := @rangeContexts_cell stream located sliceIndex headerOffset
    written.lowBytes.length banks h outputs.length started
  have hcontinues : SliceDecoder.continuesFromSliceHeader stream (locatedCell stream sliceIndex
      located headerOffset written.lowBytes.length) = true := by
    unfold SliceDecoder.continuesFromSliceHeader
    rw [h.version]
    exact decide_eq_true hlocated.size_ne
  rw [← hcounts] at hbehind
  have hdecoded := @decode_of_reader stream outputs started banks last
    (locatedCell stream sliceIndex located headerOffset written.lowBytes.length) _ decoding hmode
    (validate_cell h hcontent hout.planes) (lineGeometry_cell hout hsized) hcontent
    (hbanks coding.initial) ((congrFun (if_pos hcontinues) _).trans hbehind) hdecode
  have hstate : state.reset stream outputs = .ok started := by
    rw [← hreset, reset_eq (widths_eq hin hout)]
  rw [decodeSlice_of_decoded hmode houtput hstate hdecoded, hstores]
  rfl

end RangeSlices

end Mffv1
