import Mffv1.DecoderFollows

/-!
# Frames that are inspected

A decoder tells of every frame of an encoder what it is: the format of the stream, the number
of its slices and whether it is a keyframe. It needs no output for that and no states, so that
it does not matter what was decoded before, or whether the frame can be decoded at all.
-/
namespace Mffv1

/-- A view of planes as large as those of the stream, each in a buffer of its own, one row
behind the other. -/
def contiguousView (stream : StreamParameters) : FrameView where
  planes := some ((List.range stream.codedPlaneCount).map fun planeIndex =>
    { hasData := true, buffer := planeIndex, info := makePlaneInfo stream planeIndex })
  planeCount := stream.codedPlaneCount

section Views

variable {stream : StreamParameters} {input : FrameView} {planeIndex : Nat}

theorem contiguousView_plane (hplane : planeIndex < stream.codedPlaneCount) :
    (contiguousView stream).plane planeIndex =
      { hasData := true, buffer := planeIndex, info := makePlaneInfo stream planeIndex } := by
  unfold FrameView.plane contiguousView
  simp [List.getD_eq_getElem?_getD, hplane]

theorem validatePlanes_accepts {view : FrameView} {message : String}
    {validateInfo : Nat → PlaneInfo → Status} {count first : Nat}
    (h : ∀ k < count, (view.plane (first + k)).hasData = true ∧
      validateInfo (first + k) (view.plane (first + k)).info = .ok ()) :
    FrameValidator.validatePlanes view message validateInfo count first = .ok () := by
  induction count generalizing first with
  | zero => rfl
  | succ count ih =>
    obtain ⟨hdata, hinfo⟩ := h 0 (Nat.succ_pos count)
    rw [Nat.add_zero] at hdata hinfo
    simp only [FrameValidator.validatePlanes, except_bind_ok, exists_unit, failIf_ok_iff]
    refine ⟨by rw [hdata]; exact Bool.noConfusion, hinfo, ih fun k hk => ?_⟩
    rw [Nat.add_assoc, Nat.add_comm 1 k]
    exact h (k + 1) (Nat.succ_lt_succ hk)

/-- The last row of an input plane ends in the address space, and so does a contiguous plane. -/
theorem contiguousPlane_addressed (hinput : FrameValidator.validateInput stream input = .ok ())
    (hplane : planeIndex < stream.codedPlaneCount) :
    (stream.planeWidth planeIndex).toNat *
        bytesPerSample (sampleFormatForBitDepth stream.bitsPerRawSample) *
      (stream.planeHeight planeIndex).toNat ≤ 2 ^ 63 - 1 := by
  by_cases hwidth : stream.planeWidth planeIndex = 0
  · rw [hwidth]
    simp
  by_cases hheight : stream.planeHeight planeIndex = 0
  · rw [hheight]
    simp
  obtain ⟨hstride, hlast⟩ := inputPlane_last hinput hplane hwidth hheight
  have hrows : 0 < (stream.planeHeight planeIndex).toNat :=
    Nat.pos_of_ne_zero fun hzero => hheight (UInt32.toNat_inj.mp hzero)
  have hrowLe := Int.toNat_le_toNat hstride
  rw [Int.toNat_natCast] at hrowLe
  generalize (stream.planeWidth planeIndex).toNat *
    bytesPerSample (sampleFormatForBitDepth stream.bitsPerRawSample) = row at *
  calc row * (stream.planeHeight planeIndex).toNat
      = row * ((stream.planeHeight planeIndex).toNat - 1) + row := by
        rw [← Nat.mul_succ, Nat.succ_eq_add_one, Nat.sub_add_cancel hrows]
    _ ≤ (input.plane planeIndex).info.strideBytes.toInt.toNat *
          ((stream.planeHeight planeIndex).toNat - 1) + row :=
        Nat.add_le_add_right (Nat.mul_le_mul_right _ hrowLe) _
    _ ≤ 2 ^ 63 - 1 := hlast

/-- An input that is accepted has room for the frame, also where its rows lie close together. -/
theorem contiguousView_ready (hinput : FrameValidator.validateInput stream input = .ok ()) :
    OutputReady stream (contiguousView stream) := by
  have hshape : FrameValidator.validateStreamShape stream = .ok () := by
    simp only [FrameValidator.validateInput, except_bind_ok, exists_unit] at hinput
    exact hinput.1
  refine ⟨?_, .of_buffers fun p hp q hq hne => ?_, fun planeIndex hplane => ?_,
    fun planeIndex hplane => ?_⟩
  · simp only [FrameValidator.validateOutput, except_bind_ok, exists_unit, failIf_ok_iff]
    refine ⟨hshape, Nat.lt_irrefl _, fun h => (by cases h.2), validatePlanes_accepts fun k hk => ?_⟩
    rw [Nat.zero_add, contiguousView_plane hk]
    refine ⟨rfl, ?_⟩
    simp only [FrameValidator.validatePlaneInfo, except_bind_ok, exists_unit, failIf_ok_iff]
    exact ⟨fun h => h rfl, fun h => h rfl, not_or.mpr ⟨UInt32.lt_irrefl _, UInt32.lt_irrefl _⟩,
      Int64.lt_irrefl⟩
  · rw [contiguousView_plane hp, contiguousView_plane hq]
    exact hne
  · rw [contiguousView_plane hplane]
    exact (makePlaneInfo_stride stream planeIndex).ge
  · rw [contiguousView_plane hplane]
    have hheight : (makePlaneInfo stream planeIndex).height = stream.planeHeight planeIndex := rfl
    have haddressed := Int.ofNat_le.mpr (contiguousPlane_addressed hinput hplane)
    dsimp only
    rw [makePlaneInfo_stride, hheight, ← Int.natCast_mul]
    exact le_trans haddressed (by decide)

end Views

/-- What a decoder tells of a frame. -/
def encodedFrameInfo (stream : StreamParameters) (keyframe : Bool) : FrameInfo :=
  { makeFrameInfo stream with keyframe, sliceCount := (cellCount stream).toUInt32 }

section Frames

variable {stream : StreamParameters} {decoder : Decoder}

theorem inspectFrame_encoded (h : ReadableStream stream)
    (hdecoder : decoder.stream = some stream.readBack) {input : FrameView} {memory : FrameMemory}
    {keyframe : Bool} {executor next : SliceEncodeExecutor} {payload : Bytes}
    (hencode : SliceEncodeExecutor.encode stream input memory keyframe executor =
      .ok (next, payload)) :
    decoder.inspectFrame payload = .ok (encodedFrameInfo stream keyframe) := by
  have hinput : FrameValidator.validateInput stream.readBack input = .ok () := by
    simp only [SliceEncodeExecutor.encode, except_bind_ok, exists_unit] at hencode
    exact hencode.1
  have hready := contiguousView_ready hinput
  obtain ⟨hpayload, slices, hparse, hcount, -⟩ :=
    encode_read h hready hencode decoder.options.verifyCrc
  have hextent : stream.width ≠ 0 ∧ stream.height ≠ 0 := by
    simp only [FrameValidator.validateInput, FrameValidator.validateStreamShape, except_bind_ok,
      exists_unit, failIf_ok_iff, not_or] at hinput
    exact hinput.1.1
  have hread := readFrame_read hdecoder hextent (le_of_eq h.profile.profile.version.symm) hpayload
    hparse
  unfold Decoder.inspectFrame
  rw [hread]
  change Except.ok { makeFrameInfo stream with
    keyframe, sliceCount := slices.length.toUInt32 } = _
  rw [hcount]
  rfl

/-- Whatever was encoded before, the frames come at the times of their counter. -/
theorem EncodedFrom.inspects {encoder last : Encoder} {frames : List EncodedFrame}
    (hfrom : EncodedFrom stream encoder frames last) (h : ReadableStream stream)
    (hdecoder : decoder.stream = some stream.readBack) {j : Nat} {frame : EncodedFrame}
    (hget : frames[j]? = some frame) :
    decoder.inspectFrame frame.bytes = .ok (encodedFrameInfo stream
      (decide ((encoder.nextFrameIndex + UInt64.ofNat j) %
        encoder.options.keyframeInterval.toUInt64 = 0))) := by
  induction hfrom generalizing j with
  | done encoder => cases hget
  | @frame encoder last next first frames encodes _ ih =>
    cases j with
    | zero =>
      obtain rfl := Option.some.inj hget
      have hzero : encoder.nextFrameIndex + UInt64.ofNat 0 = encoder.nextFrameIndex :=
        UInt64.add_zero _
      rw [hzero]
      exact inspectFrame_encoded h hdecoder encodes
    | succ j =>
      have hlater := ih hget
      dsimp only at hlater
      rw [UInt64.add_assoc] at hlater
      have hindex : (1 : UInt64) + UInt64.ofNat j = UInt64.ofNat (j + 1) := by
        rw [UInt64.ofNat_add, UInt64.add_comm]
        rfl
      rw [hindex] at hlater
      exact hlater

end Frames

/-- A decoder that is configured with the record of an encoder inspects every frame of it as
what it is, also a frame that it does not decode: the keyframes are those whose place is a
multiple of the interval, counted by the encoder from its configuration on. -/
theorem encoded_frames_inspected {options : EncoderOptions} {encoder : Encoder}
    (hcreate : createEncoder options = .ok encoder) {earlier later : List EncoderCall}
    {start : EncoderRun} (hstart : Observer.after EncoderCall.perform earlier { encoder } = start)
    {stream : StreamParameters} (hstream : start.encoder.stream = some stream)
    (hcount : cellCount stream < 2 ^ 32)
    (hlater : ∀ info, .configure info ∈ later → options.Rejects info)
    {decoder : Decoder} (hrepeats : decoder.options.Repeats stream) :
    ∃ configured, Decoder.configure start.record decoder = .ok () configured ∧
      ∀ (executor : SliceExecutor) (j : Nat) (frame : EncodedFrame),
        (EncoderRun.frames later start)[j]? = some frame →
          Decoder.inspectFrame { configured with executor } frame.bytes =
            .ok (encodedFrameInfo stream (decide ((start.encoder.nextFrameIndex + UInt64.ofNat j) %
              options.keyframeInterval.toUInt64 = 0))) := by
  obtain ⟨hprepared, hrecorded, hoptions⟩ := EncoderRun.after_created hcreate earlier
  rw [hstart] at hprepared hrecorded hoptions
  have hprofile := (hprepared stream hstream).profile
  refine ⟨_, configure_written hprofile (hrecorded stream hstream) hrepeats,
    fun executor j frame hget => ?_⟩
  have hcalls : ∀ info, .configure info ∈ later → start.encoder.options.Rejects info := by
    rw [hoptions]
    exact hlater
  rw [← hoptions]
  exact (EncoderRun.frames_encodedFrom hstream hcalls).inspects ⟨hprofile, hcount⟩ rfl hget

/-- The fourth frame of the wave is a keyframe, and the fifth is none. -/
theorem encoded_frames_inspected_wave :
    ∃ start configured first second, Observer.after EncoderCall.perform
        (.configure waveInfo :: List.replicate 3 waveCall)
        { encoder := { options := waveOptions } } = start ∧
      Decoder.configure start.record waveDecoder = .ok () configured ∧
      (EncoderRun.frames (List.replicate 2 waveCall) start)[0]? = some first ∧
      (EncoderRun.frames (List.replicate 2 waveCall) start)[1]? = some second ∧
      configured.inspectFrame first.bytes =
        .ok (encodedFrameInfo (encoderStream waveOptions waveInfo) true) ∧
      configured.inspectFrame second.bytes =
        .ok (encodedFrameInfo (encoderStream waveOptions waveInfo) false) := by
  obtain ⟨record, hconfigured⟩ := wave_configured
  have hstart : (waveRun record).At (encoderStream waveOptions waveInfo) waveOptions 0 :=
    ⟨rfl, rfl, rfl⟩
  obtain ⟨hat, hexecutor⟩ := wave_after 3 hstart rfl
  have hafter : Observer.after EncoderCall.perform
      (.configure waveInfo :: List.replicate 3 waveCall) { encoder := { options := waveOptions } } =
        Observer.after EncoderCall.perform (List.replicate 3 waveCall) (waveRun record) := by
    rw [Observer.after_cons, hconfigured, Mirror.finalState]
  have hfirst := wave_frames 2 hat hexecutor Nat.zero_lt_two
  have hsecond := wave_frames 2 hat hexecutor Nat.one_lt_two
  generalize Observer.after EncoderCall.perform (List.replicate 3 waveCall) (waveRun record) =
    start at hafter hat hfirst hsecond
  obtain ⟨configured, hconfigure, hinspect⟩ := @encoded_frames_inspected waveOptions
    { options := waveOptions } rfl _ (List.replicate 2 waveCall) start hafter _ hat.stream
    (by decide) (fun info hmem => by cases (List.mem_replicate.mp hmem).2) waveDecoder
    ⟨rfl, rfl, by decide⟩
  have hkeyframe := hinspect configured.executor 0 _ hfirst
  have hinter := hinspect configured.executor 1 _ hsecond
  rw [hat.count] at hkeyframe hinter
  exact ⟨start, configured, _, _, hafter, hconfigure, hfirst, hsecond, hkeyframe, hinter⟩

end Mffv1
