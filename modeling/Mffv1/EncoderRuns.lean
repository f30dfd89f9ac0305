import Mffv1.EncoderProfile
import Mffv1.Lib.Observer

/-!
# Runs of the encoder

An encoder is called in any order, and any of the calls may fail. A failed call changes
nothing, so that a run is that of its successful calls; the counter of these decides which
frames are keyframes.
-/
namespace Mffv1

inductive EncoderCall where
  | configure (info : StreamInfo)
  | encodeFrame (input : FrameView) (memory : FrameMemory)

/-- An encoder with the record and the frame that its caller holds. -/
structure EncoderRun where
  encoder : Encoder
  record : Bytes := []
  frame : Bytes := []

/-- The caller keeps what a successful call puts out. -/
def EncoderRun.receive (run : EncoderRun) (keep : Bytes → EncoderRun → EncoderRun) :
    EStateM.Result Error Encoder Bytes → EStateM.Result Error EncoderRun Unit
  | .ok bytes encoder => .ok () (keep bytes { run with encoder })
  | .error status encoder => .error status { run with encoder }

def EncoderCall.perform : EncoderCall → Call EncoderRun Unit
  | configure info => fun run =>
    run.receive (fun record run => { run with record }) (Encoder.configure info run.encoder)
  | encodeFrame input memory => fun run =>
    run.receive (fun frame run => { run with frame }) (Encoder.encodeFrame input memory run.encoder)

/-- A frame of a run, with what it was encoded from. -/
structure EncodedFrame where
  input : FrameView
  memory : FrameMemory
  executor : SliceEncodeExecutor
  bytes : Bytes

namespace EncoderRun

/-- The frames that the calls put out, in their order. -/
def frames : List EncoderCall → EncoderRun → List EncodedFrame
  | [], _ => []
  | .configure info :: calls, run =>
    frames calls (Mirror.finalState ((EncoderCall.configure info).perform run))
  | .encodeFrame input memory :: calls, run =>
    match (EncoderCall.encodeFrame input memory).perform run with
    | .ok _ next => ⟨input, memory, run.encoder.executor, next.frame⟩ :: frames calls next
    | .error _ next => frames calls next

/-- The calls that succeed where they stand. -/
def succeeding : List EncoderCall → EncoderRun → List EncoderCall
  | [], _ => []
  | call :: calls, run =>
    match call.perform run with
    | .ok _ next => call :: succeeding calls next
    | .error _ next => succeeding calls next

end EncoderRun

section Calls

variable {info : StreamInfo} {encoder encoder' : Encoder} {run run' : EncoderRun}
  {input : FrameView} {memory : FrameMemory}

/-- Whether the next frame is a keyframe. -/
def Encoder.atKeyframe (encoder : Encoder) : Bool :=
  decide (encoder.nextFrameIndex % encoder.options.keyframeInterval.toUInt64 = 0)

theorem Encoder.encodeFrame_eq {stream : StreamParameters} (hstream : encoder.stream = some stream)
    (input : FrameView) (memory : FrameMemory) :
    Encoder.encodeFrame input memory encoder =
      match SliceEncodeExecutor.encode stream input memory encoder.atKeyframe encoder.executor with
      | .error status => .error status encoder
      | .ok (executor, frame) => .ok frame
          { encoder with executor, nextFrameIndex := encoder.nextFrameIndex + 1 } := by
  unfold Encoder.encodeFrame
  rw [Mirror.get_bind, hstream]
  dsimp only
  cases hencode : SliceEncodeExecutor.encode stream input memory encoder.atKeyframe
      encoder.executor with
  | error status =>
    unfold Encoder.atKeyframe at hencode
    rw [hencode]
    rfl
  | ok encoded =>
    unfold Encoder.atKeyframe at hencode
    rw [hencode]
    rfl

theorem Encoder.encodeFrame_unconfigured (hstream : encoder.stream = none) (input : FrameView)
    (memory : FrameMemory) : Encoder.encodeFrame input memory encoder =
      .error (makeError .invalidState "encoder is not configured") encoder := by
  unfold Encoder.encodeFrame
  rw [Mirror.get_bind, hstream]
  rfl

/-- Keyframes start from fresh states. -/
theorem SliceEncodeExecutor.encode_keyframe (stream : StreamParameters) (input : FrameView)
    (memory : FrameMemory) (executor : SliceEncodeExecutor) :
    SliceEncodeExecutor.encode stream input memory true executor =
      SliceEncodeExecutor.encode stream input memory true {} := by
  have hstates (count : Nat) : SliceEncodeExecutor.workingStates stream true count executor =
      SliceEncodeExecutor.workingStates stream true count {} := by
    unfold SliceEncodeExecutor.workingStates
    rfl
  unfold SliceEncodeExecutor.encode
  simp only [hstates]

theorem EncoderCall.perform_configure (info : StreamInfo) (run : EncoderRun) :
    (EncoderCall.configure info).perform run =
      match normalizeEncoderProfile run.encoder.options info with
      | .error status => .error status run
      | .ok stream => match ConfigurationRecordWriter.write stream with
        | .error status => .error status run
        | .ok record => .ok () { run with
            encoder := { run.encoder with
              stream := some stream, executor := {}, nextFrameIndex := 0 }
            record } := by
  unfold EncoderCall.perform
  dsimp only
  rw [Encoder.configure_eq]
  cases normalizeEncoderProfile run.encoder.options info with
  | error status => rfl
  | ok stream =>
    dsimp only
    cases ConfigurationRecordWriter.write stream with
    | error status => rfl
    | ok record => rfl

theorem EncoderCall.perform_accepted (run : EncoderRun)
    (h : AcceptedProfile run.encoder.options info) :
    ∃ record, (EncoderCall.configure info).perform run = .ok () { run with
      encoder := { run.encoder with
        stream := some (encoderStream run.encoder.options info), executor := {}, nextFrameIndex := 0 }
      record } := by
  obtain ⟨record, hrecord⟩ := @AcceptedProfile.configured info run.encoder h
  refine ⟨record, ?_⟩
  unfold EncoderCall.perform
  dsimp only
  rw [hrecord]
  rfl

theorem EncoderCall.perform_encodeFrame {stream : StreamParameters}
    (hstream : run.encoder.stream = some stream) (input : FrameView) (memory : FrameMemory) :
    (EncoderCall.encodeFrame input memory).perform run =
      match SliceEncodeExecutor.encode stream input memory run.encoder.atKeyframe
          run.encoder.executor with
      | .error status => .error status run
      | .ok (executor, frame) => .ok () { run with
          encoder := { run.encoder with
            executor, nextFrameIndex := run.encoder.nextFrameIndex + 1 }
          frame } := by
  unfold EncoderCall.perform
  dsimp only
  rw [Encoder.encodeFrame_eq hstream]
  cases SliceEncodeExecutor.encode stream input memory run.encoder.atKeyframe
      run.encoder.executor with
  | error status => rfl
  | ok encoded => rfl

theorem EncoderCall.perform_encoded {stream : StreamParameters}
    (hstream : run.encoder.stream = some stream) {encoded : SliceEncodeExecutor × Bytes}
    (hencode : SliceEncodeExecutor.encode stream input memory run.encoder.atKeyframe
      run.encoder.executor = .ok encoded) :
    (EncoderCall.encodeFrame input memory).perform run = .ok () { run with
      encoder := { run.encoder with
        executor := encoded.1, nextFrameIndex := run.encoder.nextFrameIndex + 1 }
      frame := encoded.2 } := by
  rw [EncoderCall.perform_encodeFrame hstream, hencode]

/-- A failed call leaves the encoder and what its caller holds as they are. -/
theorem EncoderCall.perform_error {call : EncoderCall} {status : Error}
    (h : call.perform run = .error status run') : run' = run := by
  cases call with
  | configure info =>
    rw [EncoderCall.perform_configure] at h
    split at h
    · exact (EStateM.Result.error.inj h).2.symm
    · split at h
      · exact (EStateM.Result.error.inj h).2.symm
      · cases h
  | encodeFrame input memory =>
    cases hstream : run.encoder.stream with
    | none =>
      have hfail : (EncoderCall.encodeFrame input memory).perform run =
          .error (makeError .invalidState "encoder is not configured") run := by
        unfold EncoderCall.perform
        dsimp only
        rw [Encoder.encodeFrame_unconfigured hstream]
        rfl
      rw [hfail] at h
      exact (EStateM.Result.error.inj h).2.symm
    | some stream =>
      rw [EncoderCall.perform_encodeFrame hstream] at h
      split at h
      · exact (EStateM.Result.error.inj h).2.symm
      · cases h

/-- The configurations that an encoder refuses. -/
def EncoderOptions.Rejects (options : EncoderOptions) (info : StreamInfo) : Prop :=
  ∃ status, (normalizeEncoderProfile options info >>= ConfigurationRecordWriter.write) = .error status

theorem EncoderCall.perform_rejected (h : run.encoder.options.Rejects info) :
    ∃ status, (EncoderCall.configure info).perform run = .error status run := by
  obtain ⟨status, hstatus⟩ := h
  rw [EncoderCall.perform_configure]
  cases hnormalize : normalizeEncoderProfile run.encoder.options info with
  | error other => exact ⟨other, rfl⟩
  | ok stream =>
    rw [hnormalize] at hstatus
    cases hwrite : ConfigurationRecordWriter.write stream with
    | error other =>
      refine ⟨other, ?_⟩
      dsimp only
      rw [hwrite]
    | ok record =>
      have hok : ConfigurationRecordWriter.write stream = .error status := hstatus
      rw [hwrite] at hok
      cases hok

end Calls

namespace EncoderRun

variable {run : EncoderRun} {calls : List EncoderCall}

theorem frames_configure (info : StreamInfo) (calls : List EncoderCall) (run : EncoderRun) :
    frames (.configure info :: calls) run =
      frames calls (Mirror.finalState ((EncoderCall.configure info).perform run)) := rfl

theorem frames_encoded {input : FrameView} {memory : FrameMemory} {u : Unit} {next : EncoderRun}
    (h : (EncoderCall.encodeFrame input memory).perform run = .ok u next)
    (calls : List EncoderCall) :
    frames (.encodeFrame input memory :: calls) run =
      ⟨input, memory, run.encoder.executor, next.frame⟩ :: frames calls next := by
  rw [frames, h]

theorem frames_failed {call : EncoderCall} {status : Error} {next : EncoderRun}
    (h : call.perform run = .error status next) (calls : List EncoderCall) :
    frames (call :: calls) run = frames calls run := by
  have hsame := EncoderCall.perform_error h
  cases call with
  | configure info => rw [frames_configure, h, Mirror.finalState, hsame]
  | encodeFrame input memory => rw [frames, h, hsame]

theorem succeeding_ok {call : EncoderCall} {u : Unit} {next : EncoderRun}
    (h : call.perform run = .ok u next) (calls : List EncoderCall) :
    succeeding (call :: calls) run = call :: succeeding calls next := by
  rw [succeeding, h]

theorem succeeding_failed {call : EncoderCall} {status : Error} {next : EncoderRun}
    (h : call.perform run = .error status next) (calls : List EncoderCall) :
    succeeding (call :: calls) run = succeeding calls run := by
  rw [succeeding, h, EncoderCall.perform_error h]

/-- The run of the successful calls puts out the same frames and ends in the same state. -/
theorem run_of_succeeding (calls : List EncoderCall) (run : EncoderRun) :
    frames (succeeding calls run) run = frames calls run ∧
      Observer.after EncoderCall.perform (succeeding calls run) run =
        Observer.after EncoderCall.perform calls run := by
  induction calls generalizing run with
  | nil => exact ⟨rfl, rfl⟩
  | cons call calls ih =>
    cases hcall : call.perform run with
    | error status next =>
      obtain ⟨hframes, hafter⟩ := ih run
      have hstay : Mirror.finalState (call.perform run) = run := by
        rw [hcall]
        exact EncoderCall.perform_error hcall
      rw [succeeding_failed hcall, frames_failed hcall, Observer.after_cons, hstay]
      exact ⟨hframes, hafter⟩
    | ok u next =>
      obtain ⟨hframes, hafter⟩ := ih next
      have hnext : Mirror.finalState (call.perform run) = next := by rw [hcall]; rfl
      rw [succeeding_ok hcall, Observer.after_cons, Observer.after_cons, hnext]
      refine ⟨?_, hafter⟩
      cases call with
      | configure info => rw [frames_configure, frames_configure, hnext, hframes]
      | encodeFrame input memory =>
        rw [frames_encoded hcall, frames_encoded hcall, hframes]

/-- The encoder of a stream whose counter is at `count`, in 64 bits. -/
structure At (stream : StreamParameters) (options : EncoderOptions) (count : Nat)
    (run : EncoderRun) : Prop where
  stream : run.encoder.stream = some stream
  options : run.encoder.options = options
  count : run.encoder.nextFrameIndex = UInt64.ofNat count

variable {stream : StreamParameters} {options : EncoderOptions} {count : Nat}

/-- The counter is a residue of the number of frames. -/
theorem At.atKeyframe (h : run.At stream options count) :
    run.encoder.atKeyframe =
      decide (options.keyframeInterval.toNat ∣ count % 2 ^ 64) := by
  unfold Encoder.atKeyframe
  rw [h.count, h.options, decide_eq_decide, ← UInt64.toNat_inj, UInt64.toNat_mod,
    UInt64.toNat_ofNat', UInt32.toNat_toUInt64]
  exact (Nat.dvd_iff_mod_eq_zero).symm

theorem At.next (h : run.At stream options count) (executor : SliceEncodeExecutor)
    (frame : Bytes) : At stream options (count + 1) { run with
      encoder := { run.encoder with executor, nextFrameIndex := run.encoder.nextFrameIndex + 1 }
      frame } := by
  refine ⟨h.stream, h.options, ?_⟩
  change run.encoder.nextFrameIndex + 1 = _
  rw [h.count, UInt64.ofNat_add]
  rfl

/-- A configuration starts the counter. -/
theorem At.of_configure {info : StreamInfo} {before : EncoderRun}
    (h : (EncoderCall.configure info).perform before = .ok () run) :
    ∃ stream, run.At stream before.encoder.options 0 := by
  rw [EncoderCall.perform_configure] at h
  cases hnormalize : normalizeEncoderProfile before.encoder.options info with
  | error status =>
    rw [hnormalize] at h
    cases h
  | ok stream =>
    rw [hnormalize] at h
    cases hwrite : ConfigurationRecordWriter.write stream with
    | error status =>
      dsimp only at h
      rw [hwrite] at h
      cases h
    | ok record =>
      dsimp only at h
      rw [hwrite] at h
      obtain rfl := (EStateM.Result.ok.inj h).2
      exact ⟨stream, rfl, rfl, rfl⟩

theorem frames_cadence (h : run.At stream options count)
    (hcalls : ∀ info, .configure info ∈ calls → options.Rejects info) {j : Nat}
    {frame : EncodedFrame} (hframe : (frames calls run)[j]? = some frame) :
    ∃ executor, SliceEncodeExecutor.encode stream frame.input frame.memory
        (decide (options.keyframeInterval.toNat ∣ (count + j) % 2 ^ 64)) frame.executor =
      .ok (executor, frame.bytes) := by
  induction calls generalizing run count j with
  | nil => cases hframe
  | cons call calls ih =>
    have hrest : ∀ info, .configure info ∈ calls → options.Rejects info :=
      fun info hmem => hcalls info (List.mem_cons_of_mem _ hmem)
    cases call with
    | configure info =>
      have hrejects : run.encoder.options.Rejects info := by
        rw [h.options]
        exact hcalls info List.mem_cons_self
      obtain ⟨status, hfailed⟩ := EncoderCall.perform_rejected hrejects
      rw [frames_failed hfailed] at hframe
      exact ih h hrest hframe
    | encodeFrame input memory =>
      have hperform := EncoderCall.perform_encodeFrame h.stream input memory
      cases hencode : SliceEncodeExecutor.encode stream input memory run.encoder.atKeyframe
          run.encoder.executor with
      | error status =>
        rw [hencode] at hperform
        rw [frames_failed hperform] at hframe
        exact ih h hrest hframe
      | ok encoded =>
        rw [hencode] at hperform
        rw [frames_encoded hperform] at hframe
        cases j with
        | zero =>
          obtain rfl := Option.some.inj hframe
          refine ⟨encoded.1, ?_⟩
          rw [Nat.add_zero, ← h.atKeyframe]
          exact hencode
        | succ j =>
          obtain ⟨executor, hencoded⟩ := ih (h.next _ _) hrest hframe
          refine ⟨executor, ?_⟩
          rw [show count + (j + 1) = count + 1 + j by omega]
          exact hencoded

end EncoderRun

/-- From a configuration on: a failed call changes nothing, the run is that of its
successful calls, and the frames that these put out are keyframes at the interval of
the options, by a counter of 64 bits. -/
theorem encoder_calls_transactional {before start : EncoderRun} {info : StreamInfo}
    (hconfigure : (EncoderCall.configure info).perform before = .ok () start)
    {calls : List EncoderCall}
    (hrejected : ∀ other, .configure other ∈ calls → before.encoder.options.Rejects other) :
    (∀ (call : EncoderCall) (run run' : EncoderRun) (status : Error),
      call.perform run = .error status run' → run' = run) ∧
    (EncoderRun.frames (EncoderRun.succeeding calls start) start =
        EncoderRun.frames calls start ∧
      Observer.after EncoderCall.perform (EncoderRun.succeeding calls start) start =
        Observer.after EncoderCall.perform calls start) ∧
    ∃ stream, start.encoder.stream = some stream ∧
      ∀ (j : Nat) (frame : EncodedFrame), (EncoderRun.frames calls start)[j]? = some frame →
        ∃ executor, SliceEncodeExecutor.encode stream frame.input frame.memory
            (decide (before.encoder.options.keyframeInterval.toNat ∣ j % 2 ^ 64))
            frame.executor = .ok (executor, frame.bytes) := by
  refine ⟨fun call run run' status h => EncoderCall.perform_error h,
    EncoderRun.run_of_succeeding calls start, ?_⟩
  obtain ⟨stream, hstart⟩ := EncoderRun.At.of_configure hconfigure
  refine ⟨stream, hstart.stream, fun j frame hframe => ?_⟩
  obtain ⟨executor, hencoded⟩ := EncoderRun.frames_cadence hstart hrejected hframe
  rw [Nat.zero_add] at hencoded
  exact ⟨executor, hencoded⟩

/-- Every third frame of one sample is a keyframe. -/
def waveOptions : EncoderOptions := { keyframeInterval := 3 }

def waveInfo : StreamInfo := { width := 1, height := 1, hasChromaPlanes := false }

def waveInput : FrameView where
  planes := some [{ hasData := true, info := makePlaneInfo (encoderStream waveOptions waveInfo) 0 }]
  planeCount := 1

def waveCall : EncoderCall := .encodeFrame waveInput SliceExecutor.emptyMemory

theorem waveInfo_accepted : AcceptedProfile waveOptions waveInfo where
  extent := by decide
  version := by decide
  bitDepth := by decide
  rgbGeometry := by decide
  subsamplingChroma := by decide
  subsampling := by decide
  grid := by decide
  parallel := by decide
  regions := by decide

def waveRun (record : Bytes) : EncoderRun where
  encoder := { options := waveOptions, stream := some (encoderStream waveOptions waveInfo) }
  record := record

theorem wave_configured : ∃ record, (EncoderCall.configure waveInfo).perform
    { encoder := { options := waveOptions } } = .ok () (waveRun record) :=
  EncoderCall.perform_accepted { encoder := { options := waveOptions } } waveInfo_accepted

theorem waveOptions_rejects : waveOptions.Rejects {} := by
  refine ⟨makeError .invalidArgument "stream dimensions must be non-zero", ?_⟩
  unfold normalizeEncoderProfile
  rw [failIf_of (by decide)]
  rfl

theorem encoder_calls_transactional_wave :
    ∃ start, (EncoderCall.configure waveInfo).perform { encoder := { options := waveOptions } } =
        .ok () start ∧
      waveOptions.Rejects {} ∧
      ∃ stream, start.encoder.stream = some stream ∧
        ∀ (j : Nat) (frame : EncodedFrame),
          (EncoderRun.frames [waveCall, .configure {}, waveCall] start)[j]? = some frame →
          ∃ executor, SliceEncodeExecutor.encode stream frame.input frame.memory
            (decide (3 ∣ j % 2 ^ 64)) frame.executor = .ok (executor, frame.bytes) := by
  obtain ⟨record, hconfigure⟩ := wave_configured
  refine ⟨waveRun record, hconfigure, waveOptions_rejects,
    (encoder_calls_transactional hconfigure fun other hmem => ?_).2.2⟩
  cases hmem with
  | tail _ hmem =>
    cases hmem with
    | head => exact waveOptions_rejects
    | tail _ hmem =>
      cases hmem with
      | tail _ hmem => cases hmem

/-- A frame of the wave, with the executor after it. -/
def waveEncoded (keyframe : Bool) (executor : SliceEncodeExecutor) : SliceEncodeExecutor × Bytes :=
  (SliceEncodeExecutor.encode (encoderStream waveOptions waveInfo) waveInput
    SliceExecutor.emptyMemory keyframe executor).toOption.getD ({}, [])

/-- The executor after `n` frames. -/
def waveExecutor : (n : Nat) → SliceEncodeExecutor
  | 0 => {}
  | n + 1 => (waveEncoded (decide (3 ∣ n % 2 ^ 64)) (waveExecutor n)).1

def WaveEncodes (keyframe : Bool) (executor : SliceEncodeExecutor) : Prop :=
  SliceEncodeExecutor.encode (encoderStream waveOptions waveInfo) waveInput
    SliceExecutor.emptyMemory keyframe executor = .ok (waveEncoded keyframe executor)

theorem waveEncodes_of {keyframe : Bool} {executor : SliceEncodeExecutor}
    (h : (SliceEncodeExecutor.encode (encoderStream waveOptions waveInfo) waveInput
      SliceExecutor.emptyMemory keyframe executor).isOk = true) :
    WaveEncodes keyframe executor := by
  unfold WaveEncodes waveEncoded
  cases hencode : SliceEncodeExecutor.encode (encoderStream waveOptions waveInfo) waveInput
      SliceExecutor.emptyMemory keyframe executor with
  | error status =>
    rw [hencode] at h
    cases h
  | ok encoded => rfl

theorem waveEncodes_key : WaveEncodes true {} := waveEncodes_of (by decide +kernel)

theorem waveEncodes_first : WaveEncodes false (waveEncoded true {}).1 :=
  waveEncodes_of (by decide +kernel)

theorem waveEncodes_second : WaveEncodes false (waveEncoded false (waveEncoded true {}).1).1 :=
  waveEncodes_of (by decide +kernel)

theorem waveEncoded_ne :
    (waveEncoded false (waveEncoded true {}).1).2 ≠ (waveEncoded true {}).2 := by
  decide +kernel

theorem waveEncoded_key (executor : SliceEncodeExecutor) :
    waveEncoded true executor = waveEncoded true {} := by
  unfold waveEncoded
  rw [SliceEncodeExecutor.encode_keyframe]

/-- The counter tells which states the frame before has left. -/
theorem waveExecutor_phase (n : Nat) :
    (n % 2 ^ 64 % 3 = 1 → waveExecutor n = (waveEncoded true {}).1) ∧
    (n % 2 ^ 64 % 3 = 2 → waveExecutor n = (waveEncoded false (waveEncoded true {}).1).1) := by
  induction n with
  | zero => exact ⟨fun h => by omega, fun h => by omega⟩
  | succ n ih =>
    have hcount : (n + 1) % 2 ^ 64 = 0 ∨ (n + 1) % 2 ^ 64 = n % 2 ^ 64 + 1 := by omega
    rw [waveExecutor]
    generalize (n + 1) % 2 ^ 64 = next at hcount
    generalize n % 2 ^ 64 = count at ih hcount
    refine ⟨fun h => ?_, fun h => ?_⟩
    · have hkey : 3 ∣ count := by omega
      rw [decide_eq_true hkey, waveEncoded_key]
    · have hinter : ¬3 ∣ count := by omega
      rw [decide_eq_false hinter, ih.1 (by omega)]

theorem waveExecutor_encodes (n : Nat) :
    WaveEncodes (decide (3 ∣ n % 2 ^ 64)) (waveExecutor n) := by
  obtain ⟨hfirst, hsecond⟩ := waveExecutor_phase n
  by_cases hkey : 3 ∣ n % 2 ^ 64
  · rw [decide_eq_true hkey]
    exact waveEncodes_key
  · rw [decide_eq_false hkey]
    by_cases hone : n % 2 ^ 64 % 3 = 1
    · rw [hfirst hone]
      exact waveEncodes_first
    · rw [hsecond (by omega)]
      exact waveEncodes_second

/-- A run of `count` frames, after `n` others. -/
theorem wave_frames (count : Nat) {n : Nat} {run : EncoderRun}
    (h : run.At (encoderStream waveOptions waveInfo) waveOptions n)
    (hexecutor : run.encoder.executor = waveExecutor n) {j : Nat} (hj : j < count) :
    (EncoderRun.frames (List.replicate count waveCall) run)[j]? =
      some ⟨waveInput, SliceExecutor.emptyMemory, waveExecutor (n + j),
        (waveEncoded (decide (3 ∣ (n + j) % 2 ^ 64)) (waveExecutor (n + j))).2⟩ := by
  induction count generalizing n run j with
  | zero => cases hj
  | succ count ih =>
    have hflag : run.encoder.atKeyframe = decide (3 ∣ n % 2 ^ 64) := h.atKeyframe
    have hencodes := waveExecutor_encodes n
    unfold WaveEncodes at hencodes
    rw [← hflag, ← hexecutor] at hencodes
    have hperform := EncoderCall.perform_encoded h.stream hencodes
    have hframes : EncoderRun.frames (waveCall :: List.replicate count waveCall) run = _ :=
      EncoderRun.frames_encoded hperform _
    rw [List.replicate_succ, hframes]
    cases j with
    | zero => rw [List.getElem?_cons_zero, hexecutor, Nat.add_zero, hflag]
    | succ j =>
      have hnext : (waveEncoded run.encoder.atKeyframe run.encoder.executor).1 =
          waveExecutor (n + 1) := by rw [waveExecutor, hflag, hexecutor]
      rw [List.getElem?_cons_succ, ih (h.next _ _) hnext (Nat.lt_of_succ_lt_succ hj),
        show n + 1 + j = n + (j + 1) by omega]

/-- After 2^64 frames the counter is at 0 again: a keyframe follows, though 3 does not
divide their number. -/
theorem wave_wraps :
    ¬∀ (info : StreamInfo) (before start : EncoderRun) (calls : List EncoderCall),
      (EncoderCall.configure info).perform before = .ok () start →
      (∀ other, .configure other ∈ calls → before.encoder.options.Rejects other) →
      ∃ stream, start.encoder.stream = some stream ∧
        ∀ (j : Nat) (frame : EncodedFrame), (EncoderRun.frames calls start)[j]? = some frame →
          ∃ executor, SliceEncodeExecutor.encode stream frame.input frame.memory
              (decide (before.encoder.options.keyframeInterval.toNat ∣ j))
              frame.executor = .ok (executor, frame.bytes) := by
  intro hclaim
  obtain ⟨record, hconfigure⟩ := wave_configured
  obtain ⟨last, hlast⟩ : ∃ last, last = 2 ^ 64 - 1 := ⟨_, rfl⟩
  obtain ⟨stream, hstream, hframes⟩ := hclaim waveInfo { encoder := { options := waveOptions } }
    (waveRun record) (List.replicate (last + 2) waveCall) hconfigure fun other hmem => by
      cases (List.mem_replicate.mp hmem).2
  obtain rfl := Option.some.inj hstream
  have hstart : (waveRun record).At (encoderStream waveOptions waveInfo) waveOptions 0 :=
    ⟨rfl, rfl, rfl⟩
  have hframe := wave_frames (last + 2) hstart rfl (Nat.lt_succ_self (last + 1))
  rw [Nat.zero_add] at hframe
  obtain ⟨executor, hencoded⟩ := hframes (last + 1) _ hframe
  have hflag : decide (waveOptions.keyframeInterval.toNat ∣ last + 1) = false := by
    rw [hlast]
    decide +kernel
  have hwraps : decide (3 ∣ (last + 1) % 2 ^ 64) = true := by
    rw [hlast]
    decide +kernel
  have hbefore : decide (3 ∣ last % 2 ^ 64) = true := by
    rw [hlast]
    decide +kernel
  dsimp only at hencoded
  rw [hflag, hwraps, waveExecutor, hbefore, waveEncoded_key (waveExecutor last),
    waveEncoded_key (waveEncoded true {}).1, waveEncodes_first, Except.ok.injEq,
    Prod.ext_iff] at hencoded
  dsimp only at hencoded
  exact waveEncoded_ne hencoded.2

end Mffv1
