import Mffv1.Lossless

/-!
# The decoder follows the encoder

A decoder that is configured with the record of an encoder, and that is given its frames in
their order from a keyframe on, stays in step with it: it holds the states that the encoder
holds, and every frame that it decodes has the samples that were encoded.
-/
namespace Mffv1

/-- Frames that an encoder puts out one after another, and what is left of it. -/
inductive EncodedFrom (stream : StreamParameters) :
    Encoder → List EncodedFrame → Encoder → Prop
  | done (encoder : Encoder) : EncodedFrom stream encoder [] encoder
  | frame {encoder last : Encoder} {next : SliceEncodeExecutor} {frame : EncodedFrame}
      {frames : List EncodedFrame}
      (encodes : SliceEncodeExecutor.encode stream frame.input frame.memory encoder.atKeyframe
        encoder.executor = .ok (next, frame.bytes))
      (later : EncodedFrom stream { encoder with
        executor := next, nextFrameIndex := encoder.nextFrameIndex + 1 } frames last) :
      EncodedFrom stream encoder (frame :: frames) last

/-- The calls of a run put out frames one after another, also where some of them fail. -/
theorem EncoderRun.frames_encodedFrom {stream : StreamParameters} {calls : List EncoderCall}
    {run : EncoderRun} (hrun : run.encoder.stream = some stream)
    (hcalls : ∀ info, .configure info ∈ calls → run.encoder.options.Rejects info) :
    EncodedFrom stream run.encoder (EncoderRun.frames calls run)
      (Observer.after EncoderCall.perform calls run).encoder := by
  induction calls generalizing run with
  | nil => exact .done run.encoder
  | cons call calls ih =>
    have hrest : ∀ info, .configure info ∈ calls → run.encoder.options.Rejects info :=
      fun info hmem => hcalls info (List.mem_cons_of_mem _ hmem)
    rw [Observer.after_cons]
    cases call with
    | configure info =>
      obtain ⟨status, hfailed⟩ := EncoderCall.perform_rejected (hcalls info List.mem_cons_self)
      rw [EncoderRun.frames_failed hfailed, hfailed]
      exact ih hrun hrest
    | encodeFrame input memory =>
      have hperform := EncoderCall.perform_encodeFrame hrun input memory
      cases hencode : SliceEncodeExecutor.encode stream input memory run.encoder.atKeyframe
          run.encoder.executor with
      | error status =>
        rw [hencode] at hperform
        rw [EncoderRun.frames_failed hperform, hperform]
        exact ih hrun hrest
      | ok encoded =>
        rw [hencode] at hperform
        rw [EncoderRun.frames_encoded hperform, hperform]
        exact .frame hencode (@ih { run with
          encoder := { run.encoder with
            executor := encoded.1, nextFrameIndex := run.encoder.nextFrameIndex + 1 }
          frame := encoded.2 } hrun hrest)

/-- Every one of them is encoded from some states. -/
theorem EncodedFrom.encodes {stream : StreamParameters} {encoder last : Encoder}
    {frames : List EncodedFrame} (h : EncodedFrom stream encoder frames last) :
    ∀ frame ∈ frames, ∃ keyframe executor next, SliceEncodeExecutor.encode stream frame.input
      frame.memory keyframe executor = .ok (next, frame.bytes) := by
  induction h with
  | done encoder => exact fun _ hmem => absurd hmem List.not_mem_nil
  | frame encodes _ ih => exact List.forall_mem_cons.mpr ⟨⟨_, _, _, encodes⟩, ih⟩

/-- What a decoder makes of frames that it is handed in their order, up to the first that
it refuses. -/
structure Reception where
  decoded : List FrameMemory := []
  refusal : Option Error := none
  decoder : Decoder

def receive : List (Bytes × Delivery) → Decoder → Reception
  | [], decoder => { decoder }
  | (payload, delivery) :: frames, decoder =>
    match delivery.decode payload decoder with
    | .ok _ run =>
      { receive frames run.decoder with
        decoded := run.memory :: (receive frames run.decoder).decoded }
    | .error status run => { refusal := some status, decoder := run.decoder }

theorem receive_decoded {payload : Bytes} {delivery : Delivery} {decoder : Decoder} {u : Unit}
    {run : Decoder.Run} (h : delivery.decode payload decoder = .ok u run)
    (frames : List (Bytes × Delivery)) :
    receive ((payload, delivery) :: frames) decoder = { receive frames run.decoder with
      decoded := run.memory :: (receive frames run.decoder).decoded } := by
  rw [receive, h]

theorem receive_refused {payload : Bytes} {delivery : Delivery} {decoder : Decoder}
    {status : Error} {run : Decoder.Run} (h : delivery.decode payload decoder = .error status run)
    (frames : List (Bytes × Delivery)) :
    receive ((payload, delivery) :: frames) decoder =
      { refusal := some status, decoder := run.decoder } := by
  rw [receive, h]

/-- A decoder in step with an encoder: the frames have the samples that were encoded and leave
the states of the encoder behind, up to the first with a slice that is cut off. That frame is
refused, and leaves the decoder as it was. A Golomb-Rice slice is read from where the encoder
has begun its content. -/
inductive Received (stream : StreamParameters) :
    Encoder → Decoder → List (EncodedFrame × Delivery) → Reception → Prop
  | done (encoder : Encoder) (decoder : Decoder) : Received stream encoder decoder [] { decoder }
  | refused {encoder : Encoder} {decoder : Decoder} {frame : EncodedFrame} {delivery : Delivery}
      {rest : List (EncodedFrame × Delivery)} {parsed : StreamParameters × FrameDecodeContext}
      {slice : SliceDescriptor} (read : decoder.readFrame frame.bytes = .ok parsed)
      (sliced : slice ∈ parsed.2.slices)
      (short : slice.footerByteOffset < slice.contentByteOffset) :
      Received stream encoder decoder ((frame, delivery) :: rest)
        { refusal := some (contentError slice), decoder }
  | decoded {encoder : Encoder} {decoder : Decoder} {frame : EncodedFrame} {delivery : Delivery}
      {rest : List (EncodedFrame × Delivery)} {next : SliceEncodeExecutor} {memory : FrameMemory}
      {reception : Reception} (reached : decoder.Reaches frame.bytes)
      (encodes : SliceEncodeExecutor.encode stream frame.input frame.memory encoder.atKeyframe
        encoder.executor = .ok (next, frame.bytes))
      (same : FrameSame stream frame.input delivery.output frame.memory memory)
      (boundaries : stream.entropyMode = .golombRice →
        decoder.KeepsBoundaries delivery.output frame.bytes)
      (later : Received stream
        { encoder with executor := next, nextFrameIndex := encoder.nextFrameIndex + 1 }
        { decoder with executor := next.toSliceExecutor } rest reception) :
      Received stream encoder decoder ((frame, delivery) :: rest)
        { reception with decoded := memory :: reception.decoded }

section Received

variable {stream : StreamParameters} {encoder last : Encoder} {decoder : Decoder}
  {sent : List (EncodedFrame × Delivery)} {reception : Reception}

/-- Where no slice is cut off, no frame is refused. -/
theorem Received.unrefused (h : Received stream encoder decoder sent reception)
    (hreaches : ∀ frame ∈ sent, decoder.Reaches frame.1.bytes) : reception.refusal = none := by
  induction h with
  | done encoder decoder => rfl
  | refused read sliced short =>
    exact absurd (hreaches _ List.mem_cons_self _ _ read _ sliced) (Nat.not_le.mpr short)
  | decoded reached encodes same boundaries _ ih =>
    exact ih fun frame hmem => hreaches frame (List.mem_cons_of_mem _ hmem)

/-- Where no frame is refused, every frame comes out. -/
theorem Received.all (h : Received stream encoder decoder sent reception)
    (hrefusal : reception.refusal = none) : List.Forall₂ (fun frame decoded =>
      FrameSame stream frame.1.input frame.2.output frame.1.memory decoded)
      sent reception.decoded := by
  induction h with
  | done encoder decoder => exact .nil
  | refused read sliced short => cases hrefusal
  | decoded reached encodes same boundaries _ ih => exact .cons same (ih hrefusal)

/-- Where no frame is refused, the decoder ends with the states of the encoder. -/
theorem Received.follows (h : Received stream encoder decoder sent reception)
    (hframes : EncodedFrom stream encoder (sent.map Prod.fst) last)
    (hrefusal : reception.refusal = none)
    (hstates : sent = [] → decoder.executor = encoder.executor.toSliceExecutor) :
    reception.decoder.executor = last.executor.toSliceExecutor := by
  induction h with
  | done encoder decoder =>
    cases hframes
    exact hstates rfl
  | refused read sliced short => cases hrefusal
  | decoded reached encodes same boundaries _ ih =>
    cases hframes with
    | frame encodes' later =>
      obtain ⟨rfl, -⟩ := Prod.mk.inj (Except.ok.inj (encodes.symm.trans encodes'))
      exact ih later hrefusal fun _ => rfl

end Received

/-- What the caller of an encoder holds describes its stream. -/
def EncoderRun.Recorded (run : EncoderRun) : Prop :=
  ∀ stream, run.encoder.stream = some stream →
    ConfigurationRecordWriter.write stream = .ok run.record

theorem EncoderCall.perform_recorded (call : EncoderCall) {run : EncoderRun}
    (h : run.Recorded) : (Mirror.finalState (call.perform run)).Recorded := by
  cases hcall : call.perform run with
  | error status next =>
    obtain rfl := EncoderCall.perform_error hcall
    exact h
  | ok u next =>
    intro stream hstream
    change next.encoder.stream = some stream at hstream
    change ConfigurationRecordWriter.write stream = .ok next.record
    cases call with
    | configure info =>
      rw [EncoderCall.perform_configure] at hcall
      split at hcall
      · cases hcall
      · split at hcall
        · cases hcall
        · next hwrite =>
          obtain rfl := (EStateM.Result.ok.inj hcall).2
          obtain rfl := Option.some.inj hstream
          exact hwrite
    | encodeFrame input memory =>
      cases hbefore : run.encoder.stream with
      | none =>
        unfold EncoderCall.perform at hcall
        dsimp only at hcall
        rw [Encoder.encodeFrame_unconfigured hbefore] at hcall
        cases hcall
      | some configured =>
        rw [EncoderCall.perform_encodeFrame hbefore] at hcall
        split at hcall
        · cases hcall
        · obtain rfl := (EStateM.Result.ok.inj hcall).2
          exact h stream hstream

/-- Calls do not change the options. -/
theorem EncoderCall.perform_options (call : EncoderCall) (run : EncoderRun) :
    (Mirror.finalState (call.perform run)).encoder.options = run.encoder.options := by
  cases call with
  | configure info =>
    rw [EncoderCall.perform_configure]
    split
    · rfl
    · split
      · rfl
      · rfl
  | encodeFrame input memory =>
    cases hbefore : run.encoder.stream with
    | none =>
      unfold EncoderCall.perform
      dsimp only
      rw [Encoder.encodeFrame_unconfigured hbefore]
      rfl
    | some configured =>
      rw [EncoderCall.perform_encodeFrame hbefore]
      split
      · rfl
      · rfl

section Sequences

variable {stream : StreamParameters} {encoder last : Encoder} {frames : List EncodedFrame}
  {decoder : Decoder} {sent : List (EncodedFrame × Delivery)}

/-- From a keyframe on, or from a state in which it holds what the encoder holds, a decoder
follows the encoder. -/
theorem EncodedFrom.received (hframes : EncodedFrom stream encoder frames last)
    (h : ReadableStream stream)
    (hboundary : shouldPreferGolombRiceReadAheadBoundary stream = false)
    (hstream : decoder.stream = some stream.readBack)
    (hsame : encoder.atKeyframe = false → decoder.executor = encoder.executor.toSliceExecutor)
    (hsent : sent.map Prod.fst = frames)
    (hready : ∀ frame ∈ sent, frame.2.Ready decoder.options stream.readBack) :
    Received stream encoder decoder sent
      (receive (sent.map (Prod.map EncodedFrame.bytes id)) decoder) := by
  induction hframes generalizing decoder sent with
  | done encoder =>
    obtain rfl := List.map_eq_nil_iff.mp hsent
    exact .done encoder decoder
  | @frame encoder last next frame frames encodes _ ih =>
    cases sent with
    | nil => cases hsent
    | cons first sent =>
      obtain ⟨sentFrame, delivery⟩ := first
      obtain ⟨hfirst, htail⟩ := List.cons.inj hsent
      obtain rfl : sentFrame = frame := hfirst
      have hdelivery : delivery.Ready decoder.options stream.readBack := hready _ List.mem_cons_self
      obtain ⟨-, hrefused, hdecoded⟩ := decodeFrame_read h hstream hdelivery encodes
      change Received stream encoder decoder _ (receive ((sentFrame.bytes, delivery) :: _) decoder)
      by_cases hreached : decoder.Reaches sentFrame.bytes
      · obtain ⟨decoded, hdecode, hframe, hkept⟩ := hdecoded hboundary hreached hsame
        have hlater := @ih { decoder with executor := next.toSliceExecutor } sent hstream
          (fun _ => rfl) htail fun frame hmem => hready frame (List.mem_cons_of_mem _ hmem)
        rw [receive_decoded hdecode]
        exact .decoded hreached encodes hframe hkept hlater
      · obtain ⟨_, _, hread, slice, hmem, hshort, hdecode⟩ := hrefused hreached
        rw [receive_refused hdecode]
        exact .refused hread hmem hshort

/-- A frame of a Golomb-Rice encoder has no slice whose content is cut off. -/
theorem EncodedFrom.reaches (hframes : EncodedFrom stream encoder frames last)
    (h : ReadableStream stream) (hmode : stream.entropyMode = .golombRice)
    (hstream : decoder.stream = some stream.readBack) (hsent : sent.map Prod.fst = frames)
    (hready : ∀ frame ∈ sent, frame.2.Ready decoder.options stream.readBack) :
    ∀ frame ∈ sent, decoder.Reaches frame.1.bytes := by
  intro frame hmem
  obtain ⟨_, _, _, hencode⟩ := hframes.encodes frame.1 (hsent ▸ List.mem_map_of_mem hmem)
  exact (decodeFrame_read h hstream (hready frame hmem) hencode).1 hmode

end Sequences

/-- The encoder of a run that begins with its creation. -/
theorem EncoderRun.after_created {options : EncoderOptions} {encoder : Encoder}
    (hcreate : createEncoder options = .ok encoder) (calls : List EncoderCall) :
    (Observer.after EncoderCall.perform calls { encoder }).Prepared ∧
      (Observer.after EncoderCall.perform calls { encoder }).Recorded ∧
      (Observer.after EncoderCall.perform calls { encoder }).encoder.options = options := by
  refine ⟨EncoderRun.prepared_created hcreate calls, ?_, ?_⟩
  all_goals
    simp only [createEncoder, except_bind_ok, exists_unit, failIf_ok_iff] at hcreate
    obtain ⟨-, -, hencoder⟩ := hcreate
    obtain rfl := Except.ok.inj hencoder
  · refine Observer.after_maintains (I := EncoderRun.Recorded)
      (fun call _ hrun => EncoderCall.perform_recorded call hrun) (fun stream hstream => ?_) calls
    cases hstream
  · refine Observer.after_maintains (I := fun run : EncoderRun => run.encoder.options = options)
      (fun call run hrun => (EncoderCall.perform_options call run).trans hrun) rfl calls

/-- What a configuration leaves behind. -/
theorem EncoderCall.configured {info : StreamInfo} {run start : EncoderRun}
    (h : (EncoderCall.configure info).perform run = .ok () start) :
    AcceptedProfile run.encoder.options info ∧
      start.encoder = {
        options := run.encoder.options
        stream := some (encoderStream run.encoder.options info) } ∧
      ConfigurationRecordWriter.write (encoderStream run.encoder.options info) =
        .ok start.record := by
  rw [EncoderCall.perform_configure] at h
  cases hnormalize : normalizeEncoderProfile run.encoder.options info with
  | error status =>
    rw [hnormalize] at h
    cases h
  | ok stream =>
    obtain ⟨haccepted, rfl⟩ := (normalizeEncoderProfile_ok_iff _ _ _).mp hnormalize
    rw [hnormalize] at h
    cases hwrite : ConfigurationRecordWriter.write (encoderStream run.encoder.options info) with
    | error status =>
      dsimp only at h
      rw [hwrite] at h
      cases h
    | ok record =>
      dsimp only at h
      rw [hwrite] at h
      obtain rfl := (EStateM.Result.ok.inj h).2
      exact ⟨haccepted, rfl, rfl⟩

section Following

variable {options : EncoderOptions} {encoder : Encoder} {earlier later : List EncoderCall}
  {start : EncoderRun} {stream : StreamParameters} {decoder : Decoder}
  {sent : List (EncodedFrame × Delivery)}

/-- A decoder that is configured with the record of an encoder follows it from any keyframe
on, whatever was encoded and decoded before. -/
theorem configured_follows (hcreate : createEncoder options = .ok encoder)
    (hstart : Observer.after EncoderCall.perform earlier { encoder } = start)
    (hstream : start.encoder.stream = some stream)
    (hboundary : shouldPreferGolombRiceReadAheadBoundary stream = false)
    (hkeyframe : start.encoder.atKeyframe = true) (hcount : cellCount stream < 2 ^ 32)
    (hlater : ∀ info, .configure info ∈ later → options.Rejects info)
    (hrepeats : decoder.options.Repeats stream)
    (hsent : sent.map Prod.fst = EncoderRun.frames later start)
    (hready : ∀ frame ∈ sent, frame.2.Ready decoder.options stream.readBack) :
    ∃ configured, Decoder.configure start.record decoder = .ok () configured ∧
      (stream.entropyMode = .golombRice →
        ∀ frame ∈ sent, configured.Reaches frame.1.bytes) ∧
      ∀ executor reception, receive (sent.map (Prod.map EncodedFrame.bytes id))
          { configured with executor } = reception →
        Received stream start.encoder { configured with executor } sent reception ∧
        (reception.refusal = none → sent ≠ [] → reception.decoder.executor =
          (Observer.after EncoderCall.perform later start).encoder.executor.toSliceExecutor) := by
  obtain ⟨hprepared, hrecorded, hoptions⟩ := EncoderRun.after_created hcreate earlier
  rw [hstart] at hprepared hrecorded hoptions
  have hprofile := (hprepared stream hstream).profile
  have hcalls : ∀ info, .configure info ∈ later → start.encoder.options.Rejects info := by
    rw [hoptions]
    exact hlater
  have hframes := EncoderRun.frames_encodedFrom hstream hcalls
  refine ⟨_, configure_written hprofile (hrecorded stream hstream) hrepeats,
    fun hmode => hframes.reaches ⟨hprofile, hcount⟩ hmode rfl hsent hready, ?_⟩
  rintro executor _ rfl
  have hreceived := @EncodedFrom.received _ _ _ _
    { decoder with stream := some stream.readBack, executor } _ hframes ⟨hprofile, hcount⟩
    hboundary rfl (fun hinter => by rw [hkeyframe] at hinter; cases hinter) hsent hready
  exact ⟨hreceived, fun hrefusal hsome =>
    hreceived.follows (hsent ▸ hframes) hrefusal fun hnone => absurd hnone hsome⟩

/-- The read-ahead boundary is for Golomb-Rice streams. -/
theorem boundary_of_range (hmode : stream.entropyMode = .range) :
    shouldPreferGolombRiceReadAheadBoundary stream = false := by
  simp [shouldPreferGolombRiceReadAheadBoundary, hmode]

/-- A decoder that is configured with the record of a range encoder follows it from any
keyframe on, whatever was encoded and decoded before, whichever calls fail in between and in
whichever order the slice tasks complete: every frame comes out with the samples that went
in and leaves the states of the encoder, up to a frame with a slice whose content is cut
off, which is refused. -/
theorem decoder_follows_encoder (hcreate : createEncoder options = .ok encoder)
    (hstart : Observer.after EncoderCall.perform earlier { encoder } = start)
    (hstream : start.encoder.stream = some stream) (hmode : stream.entropyMode = .range)
    (hkeyframe : start.encoder.atKeyframe = true) (hcount : cellCount stream < 2 ^ 32)
    (hlater : ∀ info, .configure info ∈ later → options.Rejects info)
    (hrepeats : decoder.options.Repeats stream)
    (hsent : sent.map Prod.fst = EncoderRun.frames later start)
    (hready : ∀ frame ∈ sent, frame.2.Ready decoder.options stream.readBack) :
    ∃ configured, Decoder.configure start.record decoder = .ok () configured ∧
      ∀ executor reception, receive (sent.map (Prod.map EncodedFrame.bytes id))
          { configured with executor } = reception →
        Received stream start.encoder { configured with executor } sent reception ∧
        (reception.refusal = none → sent ≠ [] → reception.decoder.executor =
          (Observer.after EncoderCall.perform later start).encoder.executor.toSliceExecutor) := by
  obtain ⟨configured, hconfigure, -, hfollows⟩ := configured_follows hcreate hstart hstream
    (boundary_of_range hmode) hkeyframe hcount hlater hrepeats hsent hready
  exact ⟨configured, hconfigure, hfollows⟩

end Following

/-- The wave is decoded to where it was read, by two threads. -/
def waveDelivery : Delivery where
  output := waveInput
  memory := SliceExecutor.emptyMemory
  hardwareConcurrency := 2
  order := [0]

def waveDecoder : Decoder := { options := { frameWidth := 1, frameHeight := 1 } }

theorem waveDelivery_ready (entropyMode : EntropyMode) :
    waveDelivery.Ready waveDecoder.options
      (encoderStream { waveOptions with entropyMode } waveInfo).readBack where
  output := {
    accepted := by cases entropyMode <;> decide
    apart := PlanesApart.of_single (by cases entropyMode <;> rfl)
    rows := fun planeIndex h => by
      obtain rfl : planeIndex = 0 := Nat.lt_one_iff.mp h
      decide
    addressed := fun planeIndex h => by
      obtain rfl : planeIndex = 0 := Nat.lt_one_iff.mp h
      decide }
  order := fun _ => @SliceExecutor.CompletionOrder.batch 1 0 1 [0] [] Nat.one_pos
    (List.Perm.refl _) (.done 1)

/-- A run of the wave goes on from wherever it stands. -/
theorem wave_after (count : Nat) {n : Nat} {run : EncoderRun}
    (h : run.At (encoderStream waveOptions waveInfo) waveOptions n)
    (hexecutor : run.encoder.executor = waveExecutor n) :
    (Observer.after EncoderCall.perform (List.replicate count waveCall) run).At
        (encoderStream waveOptions waveInfo) waveOptions (n + count) ∧
      (Observer.after EncoderCall.perform (List.replicate count waveCall) run).encoder.executor =
        waveExecutor (n + count) := by
  induction count generalizing n run with
  | zero => exact ⟨h, hexecutor⟩
  | succ count ih =>
    have hflag : run.encoder.atKeyframe = decide (3 ∣ n % 2 ^ 64) := h.atKeyframe
    have hencodes := waveExecutor_encodes n
    unfold WaveEncodes at hencodes
    rw [← hflag, ← hexecutor] at hencodes
    have hperform : waveCall.perform run = _ := EncoderCall.perform_encoded h.stream hencodes
    have hnext : (waveEncoded run.encoder.atKeyframe run.encoder.executor).1 =
        waveExecutor (n + 1) := by rw [waveExecutor, hflag, hexecutor]
    rw [List.replicate_succ, Observer.after_cons, hperform, Mirror.finalState,
      show n + (count + 1) = n + 1 + count by omega]
    exact ih (h.next _ _) hnext

theorem decoder_follows_encoder_wave :
    ∃ start sent configured, Observer.after EncoderCall.perform
        (.configure waveInfo :: List.replicate 3 waveCall)
        { encoder := { options := waveOptions } } = start ∧
      sent.map Prod.fst = EncoderRun.frames (List.replicate 2 waveCall) start ∧
      sent ≠ [] ∧ Decoder.configure start.record waveDecoder = .ok () configured ∧
      ∀ executor reception, receive (sent.map (Prod.map EncodedFrame.bytes id))
          { configured with executor } = reception →
        Received (encoderStream waveOptions waveInfo) start.encoder { configured with executor }
          sent reception ∧
        (reception.refusal = none → sent ≠ [] → reception.decoder.executor =
          (Observer.after EncoderCall.perform (List.replicate 2 waveCall)
            start).encoder.executor.toSliceExecutor) := by
  obtain ⟨record, hconfigured⟩ := wave_configured
  have hstart : (waveRun record).At (encoderStream waveOptions waveInfo) waveOptions 0 :=
    ⟨rfl, rfl, rfl⟩
  obtain ⟨hat, hexecutor⟩ := wave_after 3 hstart rfl
  have hafter : Observer.after EncoderCall.perform
      (.configure waveInfo :: List.replicate 3 waveCall) { encoder := { options := waveOptions } } =
        Observer.after EncoderCall.perform (List.replicate 3 waveCall) (waveRun record) := by
    rw [Observer.after_cons, hconfigured, Mirror.finalState]
  have hframe := wave_frames 2 hat hexecutor Nat.zero_lt_two
  generalize Observer.after EncoderCall.perform (List.replicate 3 waveCall) (waveRun record) =
    start at hafter hat hframe
  have hsent : ((EncoderRun.frames (List.replicate 2 waveCall) start).map
      fun frame => (frame, waveDelivery)).map Prod.fst =
        EncoderRun.frames (List.replicate 2 waveCall) start := by
    rw [List.map_map]
    exact List.map_id _
  obtain ⟨configured, hconfigure, hreceived⟩ := @decoder_follows_encoder waveOptions
    { options := waveOptions } _ (List.replicate 2 waveCall) start _ waveDecoder _ rfl hafter
    hat.stream rfl (by rw [hat.atKeyframe]; decide) (by decide)
    (fun info hmem => by cases (List.mem_replicate.mp hmem).2)
    ⟨rfl, rfl, by decide⟩ hsent fun frame hmem => by
      obtain ⟨encoded, -, rfl⟩ := List.mem_map.mp hmem
      exact waveDelivery_ready .range
  refine ⟨start, _, configured, hafter, hsent, fun hnone => ?_, hconfigure, hreceived⟩
  rw [List.map_eq_nil_iff.mp hnone] at hframe
  cases hframe

/-- From a Golomb-Rice encoder every frame comes out, and the decoder ends with its states,
where the decoder tries the boundary of the encoder first: without an extra plane, or with a
single slice. -/
theorem golombRice_decoder_follows_encoder {options : EncoderOptions} {encoder : Encoder}
    (hcreate : createEncoder options = .ok encoder) {earlier later : List EncoderCall}
    {start : EncoderRun} (hstart : Observer.after EncoderCall.perform earlier { encoder } = start)
    {stream : StreamParameters} (hstream : start.encoder.stream = some stream)
    (hmode : stream.entropyMode = .golombRice)
    (hboundary : shouldPreferGolombRiceReadAheadBoundary stream = false)
    (hkeyframe : start.encoder.atKeyframe = true) (hcount : cellCount stream < 2 ^ 32)
    (hlater : ∀ info, .configure info ∈ later → options.Rejects info)
    {decoder : Decoder} (hrepeats : decoder.options.Repeats stream)
    {sent : List (EncodedFrame × Delivery)}
    (hsent : sent.map Prod.fst = EncoderRun.frames later start)
    (hready : ∀ frame ∈ sent, frame.2.Ready decoder.options stream.readBack) :
    ∃ configured, Decoder.configure start.record decoder = .ok () configured ∧
      ∀ executor reception, receive (sent.map (Prod.map EncodedFrame.bytes id))
          { configured with executor } = reception →
        reception.refusal = none ∧
        List.Forall₂ (fun frame decoded =>
          FrameSame stream frame.1.input frame.2.output frame.1.memory decoded)
          sent reception.decoded ∧
        (sent ≠ [] → reception.decoder.executor =
          (Observer.after EncoderCall.perform later start).encoder.executor.toSliceExecutor) := by
  obtain ⟨configured, hconfigure, hreaches, hfollows⟩ := configured_follows hcreate hstart hstream
    hboundary hkeyframe hcount hlater hrepeats hsent hready
  refine ⟨configured, hconfigure, fun executor reception hreception => ?_⟩
  obtain ⟨hreceived, hstates⟩ := hfollows executor reception hreception
  have hrefusal := hreceived.unrefused (hreaches hmode)
  exact ⟨hrefusal, hreceived.all hrefusal, hstates hrefusal⟩

def golombRiceWave : EncoderOptions := { waveOptions with entropyMode := .golombRice }

theorem golombRice_decoder_follows_encoder_wave :
    ∃ start sent configured, Observer.after EncoderCall.perform [.configure waveInfo]
        { encoder := { options := golombRiceWave } } = start ∧
      sent.map Prod.fst = EncoderRun.frames [waveCall, waveCall] start ∧ sent ≠ [] ∧
      Decoder.configure start.record waveDecoder = .ok () configured ∧
      ∀ executor reception, receive (sent.map (Prod.map EncodedFrame.bytes id))
          { configured with executor } = reception →
        reception.refusal = none ∧
        List.Forall₂ (fun frame decoded =>
          FrameSame (encoderStream golombRiceWave waveInfo) frame.1.input frame.2.output
            frame.1.memory decoded) sent reception.decoded ∧
        (sent ≠ [] → reception.decoder.executor = (Observer.after EncoderCall.perform
          [waveCall, waveCall] start).encoder.executor.toSliceExecutor) := by
  have haccepted : AcceptedProfile golombRiceWave waveInfo :=
    { extent := by decide, version := by decide, bitDepth := by decide, rgbGeometry := by decide
      subsamplingChroma := by decide, subsampling := by decide, grid := by decide
      parallel := by decide, regions := by decide }
  obtain ⟨record, hconfigured⟩ := EncoderCall.perform_accepted
    { encoder := { options := golombRiceWave } } haccepted
  generalize hstart : ({ encoder := {
      options := golombRiceWave
      stream := some (encoderStream golombRiceWave waveInfo) }, record } : EncoderRun) = start
  have hstream : start.encoder.stream = some (encoderStream golombRiceWave waveInfo) := by
    rw [← hstart]
  have hkeyframe : start.encoder.atKeyframe = true := by
    rw [← hstart]
    rfl
  have hafter : Observer.after EncoderCall.perform [.configure waveInfo]
      { encoder := { options := golombRiceWave } } = start := by
    rw [Observer.after_cons, hconfigured, ← hstart]
    rfl
  have hencodes : (SliceEncodeExecutor.encode (encoderStream golombRiceWave waveInfo) waveInput
      SliceExecutor.emptyMemory true {}).isOk = true := by decide +kernel
  have hsent : ((EncoderRun.frames [waveCall, waveCall] start).map
      fun frame => (frame, waveDelivery)).map Prod.fst =
        EncoderRun.frames [waveCall, waveCall] start := by
    rw [List.map_map]
    exact List.map_id _
  obtain ⟨configured, hconfigure, hreceived⟩ := @golombRice_decoder_follows_encoder golombRiceWave
    { options := golombRiceWave } rfl _ [waveCall, waveCall] start hafter _ hstream rfl
    (by decide) hkeyframe (by decide) (fun info hmem => by
      cases hmem with
      | tail _ hmem =>
        cases hmem with
        | tail _ hmem => cases hmem) waveDecoder
    ⟨rfl, rfl, by decide⟩ _ hsent fun frame hmem => by
      obtain ⟨encoded, -, rfl⟩ := List.mem_map.mp hmem
      exact waveDelivery_ready .golombRice
  refine ⟨start, _, configured, hafter, hsent, fun hnone => ?_, hconfigure, hreceived⟩
  have hperform := EncoderCall.perform_encodeFrame hstream waveInput SliceExecutor.emptyMemory
  rw [hkeyframe, SliceEncodeExecutor.encode_keyframe] at hperform
  cases hencode : SliceEncodeExecutor.encode (encoderStream golombRiceWave waveInfo) waveInput
      SliceExecutor.emptyMemory true {} with
  | error status =>
    rw [hencode] at hencodes
    cases hencodes
  | ok encoded =>
    rw [hencode] at hperform
    have hframes : EncoderRun.frames [waveCall, waveCall] start = _ :=
      EncoderRun.frames_encoded hperform _
    rw [List.map_eq_nil_iff.mp hnone] at hframes
    cases hframes

end Mffv1
