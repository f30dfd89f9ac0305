import Mffv1.EncoderRuns
import Mffv1.FrameRoundTrip

/-!
# A frame that comes out

A frame of the encoder is parsed as its cells. Where no slice is cut off, a decoder with the
states that the encoder had comes to the samples of the input and to the states behind them.
-/
namespace Mffv1

open SliceEncodeExecutor (cellLayout)

/-- The reference states of an encoder, as a decoder holds them. -/
def SliceEncodeExecutor.toSliceExecutor (executor : SliceEncodeExecutor) : SliceExecutor where
  sliceStates := executor.sliceStates
  sliceLayouts := executor.sliceLayouts

section Frames

variable {stream : StreamParameters} {input output : FrameView} {memory : FrameMemory}
  {keyframe : Bool} {states : List SliceState} {slices : List SliceDescriptor}
  {executor next : SliceEncodeExecutor} {decoder : SliceExecutor} {payload : Bytes}

theorem parse_payload_ne {verifyCrc : Bool} {frame : FrameDecodeContext}
    (h : FrameParser.parseWithRangeHeader stream verifyCrc payload = .ok frame) : payload ≠ [] := by
  simp only [FrameParser.parseWithRangeHeader, FrameParser.parseLocatedRangeSlices,
    FrameParser.initializeFrame, except_bind_ok, exists_unit, failIf_ok_iff] at h
  obtain ⟨_, ⟨hpayload, -⟩, -⟩ := h
  exact hpayload

/-- The slices of a frame have the layouts of its cells. -/
theorem layouts_read {state after : Nat → SliceState}
    (hread : SlicesRead stream input output memory keyframe state after 0 slices)
    (hlength : slices.length = cellCount stream) :
    slices.map sliceLayout = SliceEncodeExecutor.cellLayouts stream (cellCount stream) := by
  unfold SliceEncodeExecutor.cellLayouts
  refine List.ext_getElem (by simp [hlength]) fun k hk _ => ?_
  rw [List.length_map] at hk
  rw [List.getElem_map, List.getElem_map, List.getElem_range]
  exact (hread.get ⟨k, hk⟩).layout

/-- The decoder hands the slices the states that the encoder hands its cells. -/
theorem workingStates_read {after : Nat → SliceState}
    (hread : SlicesRead stream.readBack input output memory keyframe (fun k => states.getD k {}) after 0
      slices)
    (hcovers : SliceExecutor.Covers stream.readBack slices)
    (hlength : slices.length = cellCount stream)
    (hstates : executor.workingStates stream keyframe (cellCount stream) = .ok states)
    (hsame : keyframe = false → decoder = executor.toSliceExecutor) :
    decoder.workingStates slices keyframe = .ok (slices.map (decoder.heldOf keyframe)) ∧
      ∀ k : Fin slices.length, decoder.heldOf keyframe (slices.get k) = states.getD k {} := by
  cases keyframe with
  | true =>
    obtain rfl := Except.ok.inj hstates
    refine ⟨congrArg Except.ok (SliceExecutor.replicate_heldOf decoder slices), fun k => ?_⟩
    have hcell : (k : Nat) < cellCount stream := by
      rw [← hlength]
      exact k.isLt
    rw [List.getD_replicate _ hcell]
    rfl
  | false =>
    obtain rfl := hsame rfl
    have hlayouts := layouts_read hread hlength
    simp only [SliceEncodeExecutor.workingStates, except_bind_ok, exists_unit, failIf_ok_iff,
      Bool.false_eq_true, if_false, not_or, not_not] at hstates
    obtain ⟨-, hsome, ⟨hcount, hlengths⟩, hreference, hworking⟩ := hstates
    obtain rfl := Except.ok.inj hworking
    have hkept : slices.map sliceLayout = executor.toSliceExecutor.sliceLayouts :=
      hlayouts.trans hreference.symm
    have hnodup : executor.toSliceExecutor.sliceLayouts.Nodup := hkept ▸ hcovers.nodup
    refine ⟨SliceExecutor.referenceStates_of_perm hsome hlengths hnodup (hkept ▸ List.Perm.refl _),
      fun k => ?_⟩
    have hposition : (k : Nat) < executor.toSliceExecutor.sliceLayouts.length := by
      rw [← hkept, List.length_map]
      exact k.isLt
    have hlayout : sliceLayout (slices.get k) = executor.toSliceExecutor.sliceLayouts[(k : Nat)] := by
      simp only [← hkept, List.getElem_map, List.get_eq_getElem]
    change executor.toSliceExecutor.heldState (sliceLayout (slices.get k)) = _
    unfold SliceExecutor.heldState
    rw [hlayout, hnodup.idxOf_getElem]
    rfl

/-- The streams whose frames the decoder parses: it has no room for the slices of a finer
grid. -/
structure ReadableStream (stream : StreamParameters) : Prop where
  profile : ProfileStream stream
  count : cellCount stream < 2 ^ 32

/-- What the decoder makes of a frame of the encoder. -/
structure FrameRead (stream : StreamParameters) (input output : FrameView) (memory : FrameMemory)
    (keyframe : Bool) (executor next : SliceEncodeExecutor) (slices : List SliceDescriptor) :
    Prop where
  reaches : stream.entropyMode = .golombRice → ContentsReached slices
  refused : ¬ContentsReached slices → ∀ (decoder : SliceExecutor) (threadCount : Nat)
    (order : List Nat) (before : FrameMemory),
      ∃ slice ∈ slices, slice.footerByteOffset < slice.contentByteOffset ∧
        SliceExecutor.decode stream.readBack threadCount order output slices keyframe
          { executor := decoder, memory := before } =
            .error (contentError slice) { executor := decoder, memory := before }
  decoded : shouldPreferGolombRiceReadAheadBoundary stream = false → ContentsReached slices →
    ∀ (decoder : SliceExecutor) (threadCount : Nat) (order : List Nat) (before : FrameMemory),
      (keyframe = false → decoder = executor.toSliceExecutor) →
      (1 < threadCount → SliceExecutor.CompletionOrder
        (SliceExecutor.workerCountFor threadCount (cellCount stream)) 0 (cellCount stream) order) →
      ∃ decoded, SliceExecutor.decode stream.readBack threadCount order output slices keyframe
          { executor := decoder, memory := before } =
            .ok () { executor := next.toSliceExecutor, memory := decoded } ∧
        FrameSame stream input output memory decoded
  boundary : stream.entropyMode = .golombRice →
    shouldPreferGolombRiceReadAheadBoundary stream = false → ∀ decoder : SliceExecutor,
      (keyframe = false → decoder = executor.toSliceExecutor) → ∀ k : Fin slices.length,
        BoundaryKept stream.readBack output k keyframe (decoder.heldOf keyframe (slices.get k))
          (slices.get k)

/-- A frame of the encoder is parsed as its cells. -/
theorem encode_read (h : ReadableStream stream)
    (houtput : OutputReady stream.readBack output)
    (hencode : SliceEncodeExecutor.encode stream input memory keyframe executor =
      .ok (next, payload)) (verifyCrc : Bool) :
    payload ≠ [] ∧ ∃ slices, FrameParser.parseWithRangeHeader stream.readBack verifyCrc payload =
        .ok (parsedFrame stream.readBack keyframe slices) ∧ slices.length = cellCount stream ∧
      FrameRead stream input output memory keyframe executor next slices := by
  have hdims := houtput.accepted
  simp only [FrameValidator.validateOutput, except_bind_ok, exists_unit] at hdims
  simp only [SliceEncodeExecutor.encode, except_bind_ok, exists_unit] at hencode
  obtain ⟨-, count, hcount, states, hstates, encoded, hencoded, frame, happend, hresult⟩ := hencode
  obtain ⟨rfl, hcells⟩ := checkedSliceCount_ok hcount
  obtain ⟨rfl, rfl⟩ := Prod.mk.inj (Except.ok.inj hresult)
  have hstatesLength := SliceEncodeExecutor.workingStates_length hstates
  obtain ⟨hlength, hget⟩ := encodeSlices_get hencoded
  have hpayload : frame = (encoded.map Prod.snd).flatten := by
    simp only [SliceEncodeExecutor.appendSlices, except_bind_ok, exists_unit] at happend
    exact (Except.ok.inj happend.2.2).symm
  have hblocks (k : Nat) (block : Bytes) (hblock : (encoded.map Prod.snd)[k]? = some block) :
      BlockRead stream.readBack input output memory k keyframe (states.getD k {})
        ((encoded.map Prod.fst).getD k {}) block := by
    rw [List.getElem?_map, Option.map_eq_some_iff] at hblock
    obtain ⟨result, hresult, rfl⟩ := hblock
    have hk : k < states.length := hlength ▸ (List.getElem?_eq_some_iff.mp hresult).1
    obtain ⟨other, hother, hcell⟩ := hget k _ (List.getElem?_eq_getElem hk)
    obtain rfl := Option.some.inj (hresult.symm.trans hother)
    rw [Nat.zero_add] at hcell
    have hafter : (encoded.map Prod.fst).getD k {} = result.1 := by
      rw [List.getD_eq_getElem?_getD, List.getElem?_map, hresult]
      rfl
    rw [hafter, List.getD_eq_getElem _ _ hk]
    refine encodeCell_read h.profile (by omega) houtput (fun hkey => ?_) hcell
    rw [hkey] at hstates
    obtain rfl := Except.ok.inj hstates
    exact List.getElem_replicate ..
  obtain ⟨slices, hparse, hslices, hread, hcovers⟩ := parseWithRangeHeader_read hdims.1
    h.profile.parallel (by rw [List.length_map, hlength, hstatesLength]; rfl) hcells h.count hblocks
    verifyCrc
  rw [← hpayload] at hparse
  have hafter : (List.range slices.length).map (fun k => (encoded.map Prod.fst).getD k {}) =
      encoded.map Prod.fst := by
    refine List.ext_getElem (by simp [hslices, hlength, hstatesLength]; rfl) fun k _ hk => ?_
    rw [List.getElem_map, List.getElem_range, List.getD_eq_getElem _ _ hk]
  have hnext : ({
      sliceStates := encoded.map Prod.fst
      sliceLayouts := slices.map sliceLayout } : SliceExecutor) =
        SliceEncodeExecutor.toSliceExecutor {
          sliceStates := encoded.map Prod.fst
          sliceLayouts := SliceEncodeExecutor.cellLayouts stream (cellCount stream) } := by
    rw [layouts_read hread hslices]
    rfl
  refine ⟨parse_payload_ne hparse, slices, hparse, hslices, ?_, ?_, ?_, ?_⟩
  · intro hmode slice hmem
    obtain ⟨k, hk, rfl⟩ := List.mem_iff_getElem.mp hmem
    exact (hread.get ⟨k, hk⟩).reaches hmode
  · intro hbehind decoder threadCount order before
    exact decode_refused hread hcovers hbehind threadCount order before
  · intro hprefer hreached decoder threadCount order before hsame horder
    obtain ⟨hworking, hheld⟩ := workingStates_read hread hcovers hslices hstates hsame
    obtain ⟨decoded, hdecode, hframe⟩ := decode_read hread hcovers hslices houtput
      h.profile.readBack.sets_ne hprefer hreached hworking hheld (hslices ▸ horder) before
    rw [hafter, hnext] at hdecode
    exact ⟨decoded, hdecode, hframe⟩
  · intro hmode hprefer decoder hsame k
    obtain ⟨-, hheld⟩ := workingStates_read hread hcovers hslices hstates hsame
    rw [hheld k]
    exact (hread.get k).boundary hmode hprefer

end Frames

/-- Where a frame is decoded to, and how its slice tasks are run. -/
structure Delivery where
  output : FrameView
  memory : FrameMemory
  hardwareConcurrency : Nat
  order : List Nat

def Delivery.decode (delivery : Delivery) (payload : Bytes) (decoder : Decoder) :
    EStateM.Result Error Decoder.Run Unit :=
  Decoder.decodeFrame delivery.hardwareConcurrency delivery.order payload delivery.output
    { decoder, memory := delivery.memory }

/-- The output has room for the frame, and the tasks complete in a possible order. -/
structure Delivery.Ready (delivery : Delivery) (options : DecoderOptions)
    (stream : StreamParameters) : Prop where
  output : OutputReady stream delivery.output
  order : 1 < normalizeThreadCount delivery.hardwareConcurrency options.threadCount →
    SliceExecutor.CompletionOrder (SliceExecutor.workerCountFor
      (normalizeThreadCount delivery.hardwareConcurrency options.threadCount) (cellCount stream))
      0 (cellCount stream) delivery.order

/-- No slice of the frame has its content behind its footer. -/
def Decoder.Reaches (decoder : Decoder) (payload : Bytes) : Prop :=
  ∀ stream frame, decoder.readFrame payload = .ok (stream, frame) → ContentsReached frame.slices

instance (decoder : Decoder) (payload : Bytes) : Decidable (decoder.Reaches payload) :=
  decidable_of_iff (∀ parsed ∈ (decoder.readFrame payload).toOption, ContentsReached parsed.2.slices)
    ⟨fun h stream frame hread => h (stream, frame) (by rw [hread]; rfl), fun h parsed hparsed => by
      cases hread : decoder.readFrame payload with
      | error status =>
        rw [hread] at hparsed
        cases hparsed
      | ok read =>
        rw [hread] at hparsed
        obtain rfl := Option.some.inj hparsed
        exact h _ _ hread⟩

/-- The decoder takes the content of every slice of a frame from where the encoder has begun
it. -/
def Decoder.KeepsBoundaries (decoder : Decoder) (output : FrameView) (payload : Bytes) : Prop :=
  ∃ stream frame, decoder.readFrame payload = .ok (stream, frame) ∧
    ∀ k : Fin frame.slices.length, BoundaryKept stream output k frame.keyframe
      (decoder.executor.heldOf frame.keyframe (frame.slices.get k)) (frame.slices.get k)

section Decoders

variable {stream : StreamParameters} {input : FrameView} {memory : FrameMemory} {keyframe : Bool}
  {executor next : SliceEncodeExecutor} {decoder : Decoder} {payload : Bytes}
  {delivery : Delivery}

theorem readFrame_read (hstream : decoder.stream = some stream)
    (hextent : stream.width ≠ 0 ∧ stream.height ≠ 0) (hversion : 3 ≤ stream.version)
    (hpayload : payload ≠ []) {frame : FrameDecodeContext}
    (hparse : FrameParser.parseWithRangeHeader stream decoder.options.verifyCrc payload =
      .ok frame) : decoder.readFrame payload = .ok (stream, frame) := by
  have hframe : Decoder.parseFrame decoder.options stream payload = .ok frame := by
    unfold Decoder.parseFrame
    rw [if_pos hversion, hparse]
  unfold Decoder.readFrame
  rw [hstream]
  dsimp only
  rw [failIf_of_not (not_or.mpr hextent), failIf_of_not hpayload, hframe]
  rfl

/-- Behind the parser, a frame is that of its slices. -/
theorem decodeFrame_of_parsed (houtput : OutputReady stream delivery.output)
    {frame : FrameDecodeContext} (hread : decoder.readFrame payload = .ok (stream, frame)) :
    delivery.decode payload decoder =
      match SliceExecutor.decode stream
          (normalizeThreadCount delivery.hardwareConcurrency decoder.options.threadCount)
          delivery.order delivery.output frame.slices frame.keyframe
          { executor := decoder.executor, memory := delivery.memory } with
      | .ok _ execution => .ok ()
          { decoder := { decoder with executor := execution.executor }, memory := execution.memory }
      | .error status execution => .error status
          { decoder := { decoder with executor := execution.executor }
            memory := execution.memory } := by
  unfold Delivery.decode Decoder.decodeFrame
  rw [Mirror.get_bind, hread, Mirror.bind_ok (Mirror.ofExcept_ok_iff.mpr ⟨rfl, rfl⟩)]
  dsimp only
  rw [houtput.accepted, Mirror.bind_ok (Mirror.ofExcept_ok_iff.mpr ⟨rfl, rfl⟩)]
  cases SliceExecutor.decode stream
      (normalizeThreadCount delivery.hardwareConcurrency decoder.options.threadCount)
      delivery.order delivery.output frame.slices frame.keyframe
      { executor := decoder.executor, memory := delivery.memory } with
  | ok _ execution => rfl
  | error status execution => rfl

theorem decodeFrame_of_decoded (houtput : OutputReady stream delivery.output)
    {frame : FrameDecodeContext} (hread : decoder.readFrame payload = .ok (stream, frame))
    {execution : SliceExecutor.Execution}
    (hdecode : SliceExecutor.decode stream
      (normalizeThreadCount delivery.hardwareConcurrency decoder.options.threadCount)
      delivery.order delivery.output frame.slices frame.keyframe
      { executor := decoder.executor, memory := delivery.memory } = .ok () execution) :
    delivery.decode payload decoder = .ok ()
      { decoder := { decoder with executor := execution.executor }, memory := execution.memory } := by
  rw [decodeFrame_of_parsed houtput hread, hdecode]

/-- A frame of the encoder, given to a decoder of its stream: a frame that is not refused
for a slice that is cut off has the samples of the input, and leaves the states of the
encoder behind. -/
theorem decodeFrame_read (h : ReadableStream stream)
    (hstream : decoder.stream = some stream.readBack)
    (hready : delivery.Ready decoder.options stream.readBack)
    (hencode : SliceEncodeExecutor.encode stream input memory keyframe executor =
      .ok (next, payload)) :
    (stream.entropyMode = .golombRice → decoder.Reaches payload) ∧
    (¬decoder.Reaches payload → ∃ stream' frame, decoder.readFrame payload = .ok (stream', frame) ∧
      ∃ slice ∈ frame.slices, slice.footerByteOffset < slice.contentByteOffset ∧
        delivery.decode payload decoder =
          .error (contentError slice) { decoder, memory := delivery.memory }) ∧
    (shouldPreferGolombRiceReadAheadBoundary stream = false → decoder.Reaches payload →
      (keyframe = false → decoder.executor = executor.toSliceExecutor) →
      ∃ decoded, delivery.decode payload decoder = .ok ()
          { decoder := { decoder with executor := next.toSliceExecutor }, memory := decoded } ∧
        FrameSame stream input delivery.output memory decoded ∧
        (stream.entropyMode = .golombRice → decoder.KeepsBoundaries delivery.output payload)) := by
  obtain ⟨hpayload, slices, hparse, -, hread⟩ :=
    encode_read h hready.output hencode decoder.options.verifyCrc
  have hextent : stream.width ≠ 0 ∧ stream.height ≠ 0 := by
    have hdims := hready.output.accepted
    simp only [FrameValidator.validateOutput, FrameValidator.validateStreamShape, except_bind_ok,
      exists_unit, failIf_ok_iff, not_or] at hdims
    exact hdims.1.1
  have hframe := readFrame_read hstream hextent (le_of_eq h.profile.profile.version.symm) hpayload
    hparse
  have hreaches : decoder.Reaches payload ↔ ContentsReached slices := by
    constructor
    · intro hreached
      exact hreached _ _ hframe
    · intro hreached stream' frame hother
      rw [hframe] at hother
      obtain ⟨rfl, rfl⟩ := Prod.mk.inj (Except.ok.inj hother)
      exact hreached
  refine ⟨fun hmode => hreaches.mpr (hread.reaches hmode), fun hbehind => ?_,
    fun hprefer hreached hsame => ?_⟩
  · obtain ⟨slice, hmem, hshort, hdecode⟩ := hread.refused (fun hreached =>
      hbehind (hreaches.mpr hreached)) decoder.executor
      (normalizeThreadCount delivery.hardwareConcurrency decoder.options.threadCount)
      delivery.order delivery.memory
    refine ⟨_, _, hframe, slice, hmem, hshort, ?_⟩
    rw [decodeFrame_of_parsed hready.output hframe]
    change (match SliceExecutor.decode _ _ _ _ slices keyframe _ with
      | .ok _ execution => _
      | .error status execution => _) = _
    rw [hdecode]
  · obtain ⟨decoded, hdecode, hsamples⟩ := hread.decoded hprefer (hreaches.mp hreached) decoder.executor
      (normalizeThreadCount delivery.hardwareConcurrency decoder.options.threadCount)
      delivery.order delivery.memory hsame hready.order
    exact ⟨decoded, decodeFrame_of_decoded hready.output hframe hdecode, hsamples, fun hmode =>
      ⟨_, _, hframe, hread.boundary hmode hprefer decoder.executor hsame⟩⟩

end Decoders

end Mffv1
