import Mffv1.EncodeSchedule
import Mffv1.FrameInspection

/-!
# Runs without loss

A decoder that is configured with the record of an encoder and is given its frames in their
order puts out what went in, but for two kinds of frames: a range-coded slice may end within
its header, and a Golomb-Rice slice with an extra plane may be read from the byte before.
-/
namespace Mffv1

/-- Frames that `encode_frame` makes one after another, in whichever order the slice tasks of
each of them complete. -/
inductive Encodes (hardwareConcurrency : Nat) : Encoder → List EncodedFrame → Encoder → Prop
  | done (encoder : Encoder) : Encodes hardwareConcurrency encoder [] encoder
  | frame {encoder next last : Encoder} {frame : EncodedFrame} {frames : List EncodedFrame}
      {order : List Nat}
      (completes : ∀ stream, encoder.stream = some stream →
        SliceEncodeExecutor.MayComplete stream
          (normalizeThreadCount hardwareConcurrency encoder.options.threadCount) order)
      (encodes : Encoder.encodeFrameScheduled hardwareConcurrency order frame.input frame.memory
        encoder = .ok frame.bytes next)
      (later : Encodes hardwareConcurrency next frames last) :
      Encodes hardwareConcurrency encoder (frame :: frames) last

section Encodes

variable {stream : StreamParameters} {encoder last : Encoder} {frames : List EncodedFrame}
  {hardwareConcurrency : Nat}

theorem Encodes.encodedFrom (h : Encodes hardwareConcurrency encoder frames last)
    (hstream : encoder.stream = some stream) : EncodedFrom stream encoder frames last := by
  induction h with
  | done encoder => exact .done encoder
  | @frame encoder next last frame frames order completes encodes _ ih =>
    rw [Encoder.encodeFrameScheduled_eq completes, Encoder.encodeFrame_eq hstream] at encodes
    cases hencode : SliceEncodeExecutor.encode stream frame.input frame.memory encoder.atKeyframe
        encoder.executor with
    | error status =>
      rw [hencode] at encodes
      cases encodes
    | ok encoded =>
      rw [hencode] at encodes
      obtain ⟨hbytes, rfl⟩ := EStateM.Result.ok.inj encodes
      have hframe : SliceEncodeExecutor.encode stream frame.input frame.memory encoder.atKeyframe
          encoder.executor = .ok (encoded.1, frame.bytes) := by rw [hencode, ← hbytes]
      exact .frame hframe (ih hstream)

end Encodes

/-- No frame is refused, and each has the samples that were encoded. -/
def Reception.Lossless (reception : Reception) (stream : StreamParameters)
    (sent : List (EncodedFrame × Delivery)) : Prop :=
  reception.refusal = none ∧ List.Forall₂ (fun frame decoded =>
    FrameSame stream frame.1.input frame.2.output frame.1.memory decoded) sent reception.decoded

section Receptions

variable {stream : StreamParameters} {encoder : Encoder} {decoder : Decoder}
  {sent : List (EncodedFrame × Delivery)} {reception : Reception}

/-- The decoder has no numbers for the slices of a finer grid. -/
theorem readFrame_exceeded (hstream : decoder.stream = some stream) (hversion : 3 ≤ stream.version)
    (hcount : 2 ^ 32 ≤ cellCount stream) (payload : Bytes) :
    ∃ status, decoder.readFrame payload = .error status := by
  cases hread : decoder.readFrame payload with
  | error status => exact ⟨status, rfl⟩
  | ok parsed =>
    have hmaximum : FrameParser.maximumSliceCount stream = cellCount stream := cellCount64_toNat stream
    unfold Decoder.readFrame at hread
    rw [hstream] at hread
    simp only [Decoder.parseFrame, if_pos hversion, FrameParser.parseWithRangeHeader,
      FrameParser.parseLocatedRangeSlices, SlicePayloadLocator.locateSlices, except_bind_ok,
      exists_unit, failIf_ok_iff, hmaximum] at hread
    obtain ⟨-, -, _, ⟨_, -, _, ⟨-, hlimit, -⟩, -⟩, -⟩ := hread
    omega

/-- A frame that cannot be parsed is refused. -/
theorem decode_unread {delivery : Delivery} {payload : Bytes} {status : Error}
    (hread : decoder.readFrame payload = .error status) :
    delivery.decode payload decoder = .error status { decoder, memory := delivery.memory } := by
  unfold Delivery.decode Decoder.decodeFrame
  rw [Mirror.get_bind, hread]
  rfl

/-- Every frame comes out exactly if no slice is cut off. -/
theorem Received.lossless_iff (h : Received stream encoder decoder sent reception) :
    reception.Lossless stream sent ↔ ∀ frame ∈ sent, decoder.Reaches frame.1.bytes := by
  constructor
  · rintro ⟨hrefusal, -⟩
    induction h with
    | done encoder decoder => exact fun _ hmem => absurd hmem List.not_mem_nil
    | refused read sliced short => cases hrefusal
    | decoded reached encodes same boundaries _ ih =>
      exact List.forall_mem_cons.mpr ⟨reached, ih hrefusal⟩
  · intro hreaches
    have hrefusal := h.unrefused hreaches
    exact ⟨hrefusal, h.all hrefusal⟩

end Receptions

/-- Two samples, in a slice each. -/
def pairInfo : StreamInfo := { width := 2, height := 1, hasChromaPlanes := false, numHSlices := 2 }

def pairDecoder : DecoderOptions := { frameWidth := 2, frameHeight := 1 }

section Flat

variable (options : EncoderOptions) (info : StreamInfo) (value : UInt8)

/-- A frame of one value. -/
def flatFrame : EncodedFrame where
  input := contiguousView (encoderStream options info)
  memory := fun _ _ => value
  executor := {}
  bytes := ((SliceEncodeExecutor.encode (encoderStream options info)
    (contiguousView (encoderStream options info)) (fun _ _ => value) true {}).toOption.getD
      ({}, [])).2

def flatDelivery : Delivery where
  output := contiguousView (encoderStream options info)
  memory := SliceExecutor.emptyMemory
  hardwareConcurrency := 1
  order := []

def flatDecoding : Decoder :=
  { options := pairDecoder, stream := some (encoderStream options info).readBack }

/-- What comes out of it. -/
def flatReception : Reception :=
  receive [((flatFrame options info value).bytes, flatDelivery options info)]
    (flatDecoding options info)

end Flat

section Configured

variable {options : EncoderOptions} {info : StreamInfo} {encoder configured last : Encoder}
  {record : Bytes} {hardwareConcurrency : Nat} {frames : List EncodedFrame}
  {decoderOptions : DecoderOptions} {decoder : Decoder}

/-- What an encoder and a decoder of its record begin with. -/
theorem configured_pair (hcreate : createEncoder options = .ok encoder)
    (hconfigure : Encoder.configure info encoder = .ok record configured)
    (hdecoder : createDecoder decoderOptions = .ok decoder)
    (hdims : decoderOptions.frameWidth = info.width ∧ decoderOptions.frameHeight = info.height) :
    ProfileStream (encoderStream options info) ∧
      configured = { options, stream := some (encoderStream options info) } ∧
      Decoder.configure record decoder = .ok () {
        options := decoderOptions, stream := some (encoderStream options info).readBack } := by
  simp only [createEncoder, except_bind_ok, exists_unit, failIf_ok_iff] at hcreate
  obtain ⟨-, -, hencoder⟩ := hcreate
  obtain rfl := Except.ok.inj hencoder
  simp only [createDecoder, except_bind_ok, exists_unit, failIf_ok_iff] at hdecoder
  obtain ⟨-, -, -, hdecoder⟩ := hdecoder
  obtain rfl := Except.ok.inj hdecoder
  have hperform : (EncoderCall.configure info).perform { encoder := { options } } =
      .ok () { encoder := configured, record } := by
    unfold EncoderCall.perform
    dsimp only
    rw [hconfigure]
    rfl
  obtain ⟨haccepted, hconfigured, hrecord⟩ := EncoderCall.configured hperform
  refine ⟨haccepted.profileStream, hconfigured, ?_⟩
  exact configure_written haccepted.profileStream hrecord
    ⟨hdims.1, hdims.2, haccepted.extent⟩

theorem flat_received {value : UInt8} :
    receive ([(flatFrame options info value, flatDelivery options info)].map
      (Prod.map EncodedFrame.bytes id)) (flatDecoding options info) =
        flatReception options info value := by
  rw [List.map_singleton, Prod.map_apply, flatReception, id_eq]

/-- A frame of one value, on the way from an encoder to a decoder. -/
theorem flat_encoded {value : UInt8}
    (hprofile : normalizeEncoderProfile options info = .ok (encoderStream options info))
    (hcreate : createEncoder options = .ok { options })
    (hthreads : normalizeThreadCount 1 options.threadCount = 1)
    (hinput : FrameValidator.validateInput (encoderStream options info)
      (contiguousView (encoderStream options info)) = .ok ())
    (hencodes : (SliceEncodeExecutor.encode (encoderStream options info)
      (contiguousView (encoderStream options info)) (fun _ _ => value) true {}).isOk = true)
    (hdims : pairDecoder.frameWidth = info.width ∧ pairDecoder.frameHeight = info.height) :
    ∃ record configured last, Encoder.configure info { options } = .ok record configured ∧
      Encodes 1 configured [flatFrame options info value] last ∧
      Decoder.configure record { options := pairDecoder } = .ok () (flatDecoding options info) ∧
      (flatDelivery options info).Ready pairDecoder (encoderStream options info).readBack := by
  obtain ⟨haccepted, -⟩ := (normalizeEncoderProfile_ok_iff _ _ _).mp hprofile
  obtain ⟨record, hperform⟩ := EncoderCall.perform_accepted { encoder := { options } } haccepted
  have hconfigure : Encoder.configure info { options } =
      .ok record { options, stream := some (encoderStream options info) } := by
    unfold EncoderCall.perform at hperform
    dsimp only at hperform
    cases hconfigured : Encoder.configure info { options } with
    | error status left =>
      rw [hconfigured] at hperform
      cases hperform
    | ok written left =>
      rw [hconfigured] at hperform
      have hrun := (EStateM.Result.ok.inj hperform).2
      obtain rfl : written = record := congrArg EncoderRun.record hrun
      obtain rfl : left = _ := congrArg EncoderRun.encoder hrun
      rfl
  obtain ⟨-, -, hdecoding⟩ := configured_pair hcreate hconfigure rfl hdims
  have hcompletes (stream : StreamParameters) : SliceEncodeExecutor.MayComplete stream
      (normalizeThreadCount 1 options.threadCount) [] :=
    SliceEncodeExecutor.mayComplete_single (le_of_eq hthreads) stream []
  have hkeyframe : ({ options, stream := some (encoderStream options info) } : Encoder).atKeyframe =
      true := decide_eq_true (UInt64.zero_mod)
  cases hencode : SliceEncodeExecutor.encode (encoderStream options info)
      (contiguousView (encoderStream options info)) (fun _ _ => value) true {} with
  | error status =>
    rw [hencode] at hencodes
    cases hencodes
  | ok encoded =>
    have hframe : Encoder.encodeFrameScheduled 1 [] (flatFrame options info value).input
        (flatFrame options info value).memory
        { options, stream := some (encoderStream options info) } =
          .ok (flatFrame options info value).bytes {
            options, stream := some (encoderStream options info)
            executor := encoded.1, nextFrameIndex := 0 + 1 } := by
      rw [Encoder.encodeFrameScheduled_eq fun stream _ => hcompletes stream,
        Encoder.encodeFrame_eq rfl, hkeyframe]
      unfold flatFrame
      dsimp only
      rw [hencode]
      rfl
    refine ⟨record, _, _, hconfigure, .frame (fun stream _ => hcompletes stream) hframe (.done _),
      hdecoding, contiguousView_ready hinput, fun hparallel => ?_⟩
    exact absurd hparallel (show ¬1 < normalizeThreadCount 1 pairDecoder.threadCount by decide)

/-- Range-coded frames come out as they went in, exactly if none of them has a slice whose
code ends within its header and the decoder has numbers for all slices of the grid. -/
theorem range_run_lossless (hcreate : createEncoder options = .ok encoder)
    (hmode : options.entropyMode = .range)
    (hconfigure : Encoder.configure info encoder = .ok record configured)
    (hencodes : Encodes hardwareConcurrency configured frames last)
    (hdecoder : createDecoder decoderOptions = .ok decoder)
    (hdims : decoderOptions.frameWidth = info.width ∧ decoderOptions.frameHeight = info.height) :
    ∃ decoding, Decoder.configure record decoder = .ok () decoding ∧
      ∀ sent reception, sent.map Prod.fst = frames →
        (∀ frame ∈ sent, frame.2.Ready decoderOptions (encoderStream options info).readBack) →
        receive (sent.map (Prod.map EncodedFrame.bytes id)) decoding = reception →
        (reception.Lossless (encoderStream options info) sent ↔
          sent = [] ∨ cellCount (encoderStream options info) < 2 ^ 32 ∧
            ∀ frame ∈ sent, decoding.Reaches frame.1.bytes) := by
  obtain ⟨hprofile, rfl, hdecoding⟩ := configured_pair hcreate hconfigure hdecoder hdims
  refine ⟨_, hdecoding, fun sent reception hsent hready hreception => ?_⟩
  subst hreception
  cases sent with
  | nil => exact ⟨fun _ => .inl rfl, fun _ => ⟨rfl, .nil⟩⟩
  | cons first sent =>
    by_cases hcount : cellCount (encoderStream options info) < 2 ^ 32
    · have hreceived := @EncodedFrom.received _ _ _ _ { options := decoderOptions, stream := _ } _
        (hencodes.encodedFrom rfl) ⟨hprofile, hcount⟩ (boundary_of_range hmode) rfl
        (fun hinter => by cases hinter) hsent hready
      rw [hreceived.lossless_iff]
      exact ⟨fun hreaches => .inr ⟨hcount, hreaches⟩, fun h =>
        (h.resolve_left (List.cons_ne_nil _ _)).2⟩
    · obtain ⟨status, hread⟩ := @readFrame_exceeded (encoderStream options info).readBack
        { options := decoderOptions, stream := _ } rfl (le_of_eq hprofile.profile.version.symm)
        (Nat.not_lt.mp hcount) first.1.bytes
      have hrefused := receive_refused (@decode_unread _ first.2 _ _ hread)
        (sent.map (Prod.map EncodedFrame.bytes id))
      constructor
      · rintro ⟨hrefusal, -⟩
        rw [List.map_cons] at hrefusal
        change (receive ((first.1.bytes, first.2) :: _) _).refusal = none at hrefusal
        rw [hrefused] at hrefusal
        cases hrefusal
      · rintro (hnone | ⟨hfew, -⟩)
        · cases hnone
        · exact absurd hfew hcount

/-- Two samples of eight. -/
theorem range_run_lossless_pair :
    (flatReception {} pairInfo 8).Lossless (encoderStream {} pairInfo)
      [(flatFrame {} pairInfo 8, flatDelivery {} pairInfo)] := by
  obtain ⟨record, configured, last, hconfigure, hencodes, hdecoding, hready⟩ := @flat_encoded {}
    pairInfo 8 rfl rfl rfl (by decide) (by decide +kernel) ⟨rfl, rfl⟩
  obtain ⟨decoding, hdecoding', hlossless⟩ := @range_run_lossless {} pairInfo _ _ _ _ _ _
    pairDecoder _ rfl rfl hconfigure hencodes rfl ⟨rfl, rfl⟩
  obtain ⟨-, rfl⟩ := EStateM.Result.ok.inj (hdecoding.symm.trans hdecoding')
  have hlossless := hlossless [(flatFrame {} pairInfo 8, flatDelivery {} pairInfo)]
    (flatReception {} pairInfo 8) rfl
  refine (hlossless (fun frame hmem => ?_) flat_received).mpr
    (.inr ⟨by decide, fun frame hmem => ?_⟩)
  · rw [List.mem_singleton.mp hmem]
    exact hready
  · rw [List.mem_singleton.mp hmem]
    decide +kernel

/-- Two black samples: the encoder closes the second slice before the byte that the decoder has
read ahead. -/
theorem black_pair_refused :
    ∃ record configured last decoding,
      createEncoder {} = .ok { options := {} } ∧
      Encoder.configure pairInfo { options := {} } = .ok record configured ∧
      Encodes 1 configured [flatFrame {} pairInfo 0] last ∧
      createDecoder pairDecoder = .ok { options := pairDecoder } ∧
      Decoder.configure record { options := pairDecoder } = .ok () decoding ∧
      (flatDelivery {} pairInfo).Ready pairDecoder (encoderStream {} pairInfo).readBack ∧
      (receive [((flatFrame {} pairInfo 0).bytes, flatDelivery {} pairInfo)] decoding).refusal =
        some (contentError { index := 1, footerByteOffset := 7 }) := by
  obtain ⟨record, configured, last, hconfigure, hencodes, hdecoding, hready⟩ := @flat_encoded {}
    pairInfo 0 rfl rfl rfl (by decide) (by decide +kernel) ⟨rfl, rfl⟩
  exact ⟨record, configured, last, _, rfl, hconfigure, hencodes, rfl, hdecoding, hready,
    show (flatReception {} pairInfo 0).refusal = _ by decide +kernel⟩

/-- Golomb-Rice frames come out as they went in, from the boundaries that the encoder has
set, where the decoder tries these first. -/
theorem golombRice_run_lossless (hcreate : createEncoder options = .ok encoder)
    (hmode : options.entropyMode = .golombRice)
    (hboundary : shouldPreferGolombRiceReadAheadBoundary (encoderStream options info) = false)
    (hcount : cellCount (encoderStream options info) < 2 ^ 32)
    (hconfigure : Encoder.configure info encoder = .ok record configured)
    (hencodes : Encodes hardwareConcurrency configured frames last)
    (hdecoder : createDecoder decoderOptions = .ok decoder)
    (hdims : decoderOptions.frameWidth = info.width ∧ decoderOptions.frameHeight = info.height) :
    ∃ decoding, Decoder.configure record decoder = .ok () decoding ∧
      ∀ sent reception, sent.map Prod.fst = frames →
        (∀ frame ∈ sent, frame.2.Ready decoderOptions (encoderStream options info).readBack) →
        receive (sent.map (Prod.map EncodedFrame.bytes id)) decoding = reception →
        reception.Lossless (encoderStream options info) sent ∧
          Received (encoderStream options info) configured decoding sent reception := by
  obtain ⟨hprofile, rfl, hdecoding⟩ := configured_pair hcreate hconfigure hdecoder hdims
  refine ⟨_, hdecoding, fun sent reception hsent hready hreception => ?_⟩
  subst hreception
  have hframes := hencodes.encodedFrom rfl
  have hreceived := @EncodedFrom.received _ _ _ _ { options := decoderOptions, stream := _ } _
    hframes ⟨hprofile, hcount⟩ hboundary rfl (fun hinter => by cases hinter) hsent hready
  exact ⟨hreceived.lossless_iff.mpr (hframes.reaches ⟨hprofile, hcount⟩ hmode rfl hsent hready),
    hreceived⟩

def golombRicePair : EncoderOptions := { entropyMode := .golombRice }

theorem golombRice_run_lossless_pair :
    (flatReception golombRicePair pairInfo 1).Lossless (encoderStream golombRicePair pairInfo)
      [(flatFrame golombRicePair pairInfo 1, flatDelivery golombRicePair pairInfo)] := by
  obtain ⟨record, configured, last, hconfigure, hencodes, hdecoding, hready⟩ := @flat_encoded
    golombRicePair pairInfo 1 rfl rfl rfl (by decide) (by decide +kernel) ⟨rfl, rfl⟩
  obtain ⟨decoding, hdecoding', hlossless⟩ := @golombRice_run_lossless golombRicePair pairInfo _ _ _
    _ _ _ pairDecoder _ rfl rfl (by decide) (by decide) hconfigure hencodes rfl ⟨rfl, rfl⟩
  obtain ⟨-, rfl⟩ := EStateM.Result.ok.inj (hdecoding.symm.trans hdecoding')
  have hlossless := hlossless [(flatFrame golombRicePair pairInfo 1,
    flatDelivery golombRicePair pairInfo)] (flatReception golombRicePair pairInfo 1) rfl
  refine (hlossless (fun frame hmem => ?_) flat_received).1
  rw [List.mem_singleton.mp hmem]
  exact hready

/-- The two samples with an extra plane. -/
def alphaPair : StreamInfo := { pairInfo with hasExtraPlane := true }

/-- Samples of one: the decoder accepts the slices from the byte before their contents. -/
theorem alpha_pair_differs :
    ∃ record configured last decoding,
      createEncoder golombRicePair = .ok { options := golombRicePair } ∧
      Encoder.configure alphaPair { options := golombRicePair } = .ok record configured ∧
      Encodes 1 configured [flatFrame golombRicePair alphaPair 1] last ∧
      createDecoder pairDecoder = .ok { options := pairDecoder } ∧
      Decoder.configure record { options := pairDecoder } = .ok () decoding ∧
      (flatDelivery golombRicePair alphaPair).Ready pairDecoder
        (encoderStream golombRicePair alphaPair).readBack ∧
      let reception := receive [((flatFrame golombRicePair alphaPair 1).bytes,
        flatDelivery golombRicePair alphaPair)] decoding
      reception.refusal = none ∧ reception.decoded.map (fun memory =>
        frameSample (flatDelivery golombRicePair alphaPair).output memory 0 0 0) = [17] := by
  obtain ⟨record, configured, last, hconfigure, hencodes, hdecoding, hready⟩ := @flat_encoded
    golombRicePair alphaPair 1 rfl rfl rfl (by decide) (by decide +kernel) ⟨rfl, rfl⟩
  have hreception : (flatReception golombRicePair alphaPair 1).refusal = none ∧
      (flatReception golombRicePair alphaPair 1).decoded.map (fun memory =>
        frameSample (flatDelivery golombRicePair alphaPair).output memory 0 0 0) = [17] := by
    decide +kernel
  exact ⟨record, configured, last, _, rfl, hconfigure, hencodes, rfl, hdecoding, hready, hreception⟩

end Configured

end Mffv1
