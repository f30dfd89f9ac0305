import Mffv1.EncoderProgress
import Mffv1.FrameSchedule
import Mffv1.Lib.Workers
import Mffv1.SampleChecks

/-!
# Schedules of the encoder

The slices of a frame are encoded in the order of the grid or in batches of parallel
tasks, each with a state, a payload and a status of its own. Neither the number of the
workers nor the order in which their tasks complete is seen in the bytes.
-/
namespace Mffv1

namespace SliceEncodeExecutor

open SliceExecutor (CompletionOrder workerCountFor)

/-- The elements of `statuses`, `working_states` and `slices` at one index. -/
structure SliceJob where
  status : Status := .ok ()
  state : SliceState
  slice : Bytes := []

section Jobs

variable (stream : StreamParameters) (input : FrameView) (memory : FrameMemory) (keyframe : Bool)

/-- The task of one slice; a failed one leaves its state and its slice. -/
def encodeJob (sliceIndex : Nat) (job : SliceJob) : SliceJob :=
  match encodeSlice stream input memory keyframe sliceIndex job.state with
  | .ok (state, slice) => { status := .ok (), state, slice }
  | .error status => { job with status := .error status }

/-- The scan of the statuses from `sliceIndex` on. -/
def firstStatus : (sliceIndex : Nat) → List SliceJob → Status
  | _, [] => .ok ()
  | sliceIndex, job :: jobs =>
    match job.status with
    | .ok _ => firstStatus (sliceIndex + 1) jobs
    | .error status => .error (setSliceLocationIfMissing status sliceIndex)

/-- `encode`, where `order` is the order of completion of parallel tasks. -/
def encodeScheduled (threadCount : Nat) (order : List Nat) (executor : SliceEncodeExecutor) :
    Except Error (SliceEncodeExecutor × Bytes) := do
  FrameValidator.validateInput stream input
  let sliceCount ← checkedSliceCount stream
  let states ← executor.workingStates stream keyframe sliceCount
  let order :=
    if workerCountFor threadCount sliceCount ≤ 1 then List.range sliceCount else order
  let jobs := Workers.run (encodeJob stream input memory keyframe) order
    (states.map fun state => { state })
  firstStatus 0 jobs
  let frame ← appendSlices (jobs.map SliceJob.slice)
  return ({ sliceStates := jobs.map SliceJob.state, sliceLayouts := cellLayouts stream sliceCount },
    frame)

/-- An order in which the tasks of a frame can complete. -/
def MayComplete (threadCount : Nat) (order : List Nat) : Prop :=
  ∀ sliceCount, checkedSliceCount stream = .ok sliceCount →
    1 < workerCountFor threadCount sliceCount →
      CompletionOrder (workerCountFor threadCount sliceCount) 0 sliceCount order

variable {stream input memory keyframe}

/-- The jobs of a frame, once every task has run. -/
def jobsDone (stream : StreamParameters) (input : FrameView) (memory : FrameMemory)
    (keyframe : Bool) (sliceIndex : Nat) (states : List SliceState) : List SliceJob :=
  (states.map fun state => ({ state } : SliceJob)).mapIdx fun position =>
    encodeJob stream input memory keyframe (sliceIndex + position)

theorem jobsDone_cons (sliceIndex : Nat) (state : SliceState) (states : List SliceState) :
    jobsDone stream input memory keyframe sliceIndex (state :: states) =
      encodeJob stream input memory keyframe sliceIndex { state } ::
        jobsDone stream input memory keyframe (sliceIndex + 1) states := by
  have hnext : (fun position => encodeJob stream input memory keyframe
      (sliceIndex + (position + 1))) =
        fun position => encodeJob stream input memory keyframe (sliceIndex + 1 + position) := by
    funext position
    rw [Nat.add_right_comm, Nat.add_assoc]
  unfold jobsDone
  rw [List.map_cons, List.mapIdx_cons, hnext]
  rfl

/-- The scan finds the first failure, and without one the jobs hold what was encoded. -/
theorem encodeSlices_jobs (sliceIndex : Nat) (states : List SliceState) :
    encodeSlices stream input memory keyframe sliceIndex states =
      (firstStatus sliceIndex (jobsDone stream input memory keyframe sliceIndex states)).map
        fun _ => (jobsDone stream input memory keyframe sliceIndex states).map
          fun job => (job.state, job.slice) := by
  induction states generalizing sliceIndex with
  | nil => rfl
  | cons state states ih =>
    rw [jobsDone_cons, encodeSlices, firstStatus, ih]
    unfold encodeJob
    dsimp only
    cases encodeSlice stream input memory keyframe sliceIndex state with
    | error status => rfl
    | ok encoded =>
      dsimp only
      cases firstStatus (sliceIndex + 1)
          (jobsDone stream input memory keyframe (sliceIndex + 1) states) with
      | error status => rfl
      | ok _ => rfl

/-- Any number of workers encodes what one does, in any order of completion. -/
theorem encodeScheduled_eq {threadCount : Nat} {order : List Nat}
    (horder : MayComplete stream threadCount order) (executor : SliceEncodeExecutor) :
    encodeScheduled stream input memory keyframe threadCount order executor =
      encode stream input memory keyframe executor := by
  unfold encodeScheduled encode
  refine except_bind_congr fun _ _ => except_bind_congr fun sliceCount hcount =>
    except_bind_congr fun states hstates => ?_
  have hlength : (states.map fun state => ({ state } : SliceJob)).length = sliceCount := by
    rw [List.length_map]
    exact workingStates_length hstates
  have hperm : (if workerCountFor threadCount sliceCount ≤ 1 then List.range sliceCount
      else order).Perm (List.range (states.map fun state => ({ state } : SliceJob)).length) := by
    rw [hlength]
    by_cases hworkers : workerCountFor threadCount sliceCount ≤ 1
    · rw [if_pos hworkers]
    · rw [if_neg hworkers, List.range_eq_range']
      exact (horder sliceCount hcount (Nat.not_le.mp hworkers)).perm
  have hjobs := Workers.run_perm (encodeJob stream input memory keyframe) hperm
  have hdone : (states.map fun state => ({ state } : SliceJob)).mapIdx
      (encodeJob stream input memory keyframe) =
        jobsDone stream input memory keyframe 0 states := by
    unfold jobsDone
    simp only [Nat.zero_add]
  simp only [hjobs, hdone, encodeSlices_jobs]
  cases firstStatus 0 (jobsDone stream input memory keyframe 0 states) with
  | error status => rfl
  | ok _ =>
    have hstates : ((jobsDone stream input memory keyframe 0 states).map fun job =>
        (job.state, job.slice)).map Prod.fst =
          (jobsDone stream input memory keyframe 0 states).map SliceJob.state := List.map_map
    have hslices : ((jobsDone stream input memory keyframe 0 states).map fun job =>
        (job.state, job.slice)).map Prod.snd =
          (jobsDone stream input memory keyframe 0 states).map SliceJob.slice := List.map_map
    rw [← hstates, ← hslices]
    rfl

end Jobs

/-- A single worker takes the tasks in their order. -/
theorem mayComplete_single {threadCount : Nat} (h : threadCount ≤ 1) (stream : StreamParameters)
    (order : List Nat) : MayComplete stream threadCount order := by
  intro sliceCount _ hworkers
  unfold workerCountFor at hworkers
  split at hworkers <;> omega

end SliceEncodeExecutor

/-- `encode_frame`, by the workers that the options ask for. -/
def Encoder.encodeFrameScheduled (hardwareConcurrency : Nat) (order : List Nat) (input : FrameView)
    (memory : FrameMemory) : Call Encoder Bytes := do
  let encoder ← get
  match encoder.stream with
  | none => throw (makeError .invalidState "encoder is not configured")
  | some stream =>
    let keyframe := decide (encoder.nextFrameIndex % encoder.options.keyframeInterval.toUInt64 = 0)
    let threadCount := normalizeThreadCount hardwareConcurrency encoder.options.threadCount
    let (executor, frame) ← MonadExcept.ofExcept (SliceEncodeExecutor.encodeScheduled stream input
      memory keyframe threadCount order encoder.executor)
    set { encoder with executor, nextFrameIndex := encoder.nextFrameIndex + 1 }
    return frame

theorem Encoder.encodeFrameScheduled_eq {hardwareConcurrency : Nat} {order : List Nat}
    {encoder : Encoder} (h : ∀ stream, encoder.stream = some stream →
      SliceEncodeExecutor.MayComplete stream
        (normalizeThreadCount hardwareConcurrency encoder.options.threadCount) order)
    (input : FrameView) (memory : FrameMemory) :
    Encoder.encodeFrameScheduled hardwareConcurrency order input memory encoder =
      Encoder.encodeFrame input memory encoder := by
  unfold Encoder.encodeFrameScheduled Encoder.encodeFrame
  rw [Mirror.get_bind, Mirror.get_bind]
  cases hstream : encoder.stream with
  | none => rfl
  | some stream =>
    dsimp only
    rw [SliceEncodeExecutor.encodeScheduled_eq (h stream hstream)]

/-- A call with the order in which its slice tasks complete. -/
structure ScheduledCall where
  call : EncoderCall
  order : List Nat := []

def EncoderRun.withThreads (run : EncoderRun) (threadCount : Int) : EncoderRun :=
  { run with
    encoder := { run.encoder with options := { run.encoder.options with threadCount } } }

namespace ScheduledCall

variable (hardwareConcurrency : Nat)

def perform (scheduled : ScheduledCall) : Call EncoderRun Unit :=
  match scheduled.call with
  | .configure info => (EncoderCall.configure info).perform
  | .encodeFrame input memory => fun run =>
    run.receive (fun frame run => { run with frame })
      (Encoder.encodeFrameScheduled hardwareConcurrency scheduled.order input memory run.encoder)

def MayComplete (run : EncoderRun) (scheduled : ScheduledCall) : Prop :=
  ∀ stream, run.encoder.stream = some stream → SliceEncodeExecutor.MayComplete stream
    (normalizeThreadCount hardwareConcurrency run.encoder.options.threadCount) scheduled.order

variable {hardwareConcurrency} {run : EncoderRun}

theorem perform_eq {scheduled : ScheduledCall}
    (h : scheduled.MayComplete hardwareConcurrency run) :
    scheduled.perform hardwareConcurrency run = scheduled.call.perform run := by
  obtain ⟨call, order⟩ := scheduled
  cases call with
  | configure info => rfl
  | encodeFrame input memory =>
    unfold perform EncoderCall.perform
    dsimp only
    rw [Encoder.encodeFrameScheduled_eq h]

end ScheduledCall

/-- The run of scheduled calls is that of the calls. -/
theorem ScheduledCall.after_eq {hardwareConcurrency : Nat} {start : EncoderRun}
    {calls : List ScheduledCall}
    (hcalls : ∀ earlier scheduled later, calls = earlier ++ scheduled :: later →
      scheduled.MayComplete hardwareConcurrency
        (Observer.after (ScheduledCall.perform hardwareConcurrency) earlier start)) :
    Observer.after (ScheduledCall.perform hardwareConcurrency) calls start =
      Observer.after EncoderCall.perform (calls.map ScheduledCall.call) start := by
  induction calls generalizing start with
  | nil => rfl
  | cons scheduled calls ih =>
    have hperform := ScheduledCall.perform_eq (hcalls [] scheduled calls rfl)
    rw [Observer.after, List.foldl_nil] at hperform
    rw [List.map_cons, Observer.after_cons, Observer.after_cons, ← hperform]
    exact ih fun earlier next later heq => by
      have hmay := hcalls (scheduled :: earlier) next later (congrArg (scheduled :: ·) heq)
      rw [Observer.after_cons] at hmay
      exact hmay

/-- The number of threads is not looked at elsewhere. -/
theorem EncoderCall.perform_withThreads (call : EncoderCall) (run : EncoderRun) (threadCount : Int) :
    call.perform (run.withThreads threadCount) =
      Mirror.mapState (fun run => run.withThreads threadCount) (call.perform run) := by
  cases call with
  | configure info =>
    have hprofile : normalizeEncoderProfile (run.withThreads threadCount).encoder.options info =
        normalizeEncoderProfile run.encoder.options info := rfl
    rw [perform_configure, perform_configure, hprofile]
    cases normalizeEncoderProfile run.encoder.options info with
    | error status => rfl
    | ok stream =>
      dsimp only
      cases ConfigurationRecordWriter.write stream with
      | error status => rfl
      | ok record => rfl
  | encodeFrame input memory =>
    cases hstream : run.encoder.stream with
    | none =>
      unfold perform
      dsimp only
      have hunconfigured : (run.withThreads threadCount).encoder.stream = none := hstream
      rw [Encoder.encodeFrame_unconfigured hstream, Encoder.encodeFrame_unconfigured hunconfigured]
      rfl
    | some stream =>
      unfold perform
      dsimp only
      have hconfigured : (run.withThreads threadCount).encoder.stream = some stream := hstream
      rw [Encoder.encodeFrame_eq hstream, Encoder.encodeFrame_eq hconfigured]
      have hkeyframe : (run.withThreads threadCount).encoder.atKeyframe = run.encoder.atKeyframe :=
        rfl
      have hexecutor : (run.withThreads threadCount).encoder.executor = run.encoder.executor := rfl
      rw [hkeyframe, hexecutor]
      cases SliceEncodeExecutor.encode stream input memory run.encoder.atKeyframe
          run.encoder.executor with
      | error status => rfl
      | ok encoded => rfl

theorem EncoderCall.finalState_withThreads (call : EncoderCall) (run : EncoderRun)
    (threadCount : Int) : Mirror.finalState (call.perform (run.withThreads threadCount)) =
      (Mirror.finalState (call.perform run)).withThreads threadCount := by
  rw [perform_withThreads]
  cases call.perform run <;> rfl

theorem EncoderCall.perform_threadCount (call : EncoderCall) (run : EncoderRun) :
    (Mirror.finalState (call.perform run)).encoder.options.threadCount =
      run.encoder.options.threadCount := by
  have hsame := finalState_withThreads call run run.encoder.options.threadCount
  rw [show run.withThreads run.encoder.options.threadCount = run from rfl] at hsame
  rw [hsame]
  rfl

/-- The records and the frames of a run, and the errors of its failed calls, are those of one
thread, for any number of threads and in whatever order the tasks of each frame complete. -/
theorem encode_independent_of_schedule {hardwareConcurrency : Nat} {start : EncoderRun}
    {calls : List ScheduledCall}
    (hcalls : ∀ earlier scheduled later, calls = earlier ++ scheduled :: later →
      scheduled.MayComplete hardwareConcurrency
        (Observer.after (ScheduledCall.perform hardwareConcurrency) earlier start)) :
    let single := start.withThreads 1
    let plain := calls.map ScheduledCall.call
    Observer.results (ScheduledCall.perform hardwareConcurrency) calls start =
        Observer.results EncoderCall.perform plain single ∧
      Observer.after (ScheduledCall.perform hardwareConcurrency) calls start =
        (Observer.after EncoderCall.perform plain single).withThreads
          start.encoder.options.threadCount := by
  induction calls generalizing start with
  | nil => exact ⟨rfl, rfl⟩
  | cons scheduled calls ih =>
    have hperform := ScheduledCall.perform_eq (hcalls [] scheduled calls rfl)
    rw [Observer.after, List.foldl_nil] at hperform
    have hnext := scheduled.call.finalState_withThreads start 1
    have houtcome : Observer.outcome (scheduled.call.perform (start.withThreads 1)) =
        Observer.outcome (scheduled.call.perform start) := by
      rw [EncoderCall.perform_withThreads]
      cases scheduled.call.perform start <;> rfl
    have hthreads := scheduled.call.perform_threadCount start
    obtain ⟨hresults, hafter⟩ := @ih (Mirror.finalState (scheduled.call.perform start))
      fun earlier next later heq => by
        have hmay := hcalls (scheduled :: earlier) next later (congrArg (scheduled :: ·) heq)
        rw [Observer.after_cons, hperform] at hmay
        exact hmay
    dsimp only
    rw [List.map_cons, Observer.results_cons, Observer.results_cons, Observer.after_cons,
      Observer.after_cons, hperform, hnext, houtcome, hresults, hafter, hthreads]
    exact ⟨rfl, rfl⟩

/-- After any calls, an accepted frame with samples in depth is encoded unless a capacity is
exceeded: by any number of workers, from windows that are not empty and lie in their planes. -/
theorem encodeFrame_progresses {options : EncoderOptions} {encoder : Encoder}
    (hcreate : createEncoder options = .ok encoder) {hardwareConcurrency : Nat}
    {calls : List ScheduledCall}
    (hcalls : ∀ earlier scheduled later, calls = earlier ++ scheduled :: later →
      scheduled.MayComplete hardwareConcurrency
        (Observer.after (ScheduledCall.perform hardwareConcurrency) earlier { encoder }))
    {run : EncoderRun}
    (hrun : Observer.after (ScheduledCall.perform hardwareConcurrency) calls { encoder } = run)
    {stream : StreamParameters} (hstream : run.encoder.stream = some stream) {order : List Nat}
    (horder : SliceEncodeExecutor.MayComplete stream
      (normalizeThreadCount hardwareConcurrency run.encoder.options.threadCount) order)
    {input : FrameView} {memory : FrameMemory}
    (hinput : FrameValidator.validateInput stream input = .ok ())
    (hsamples : SamplesInDepth stream input memory) :
    (∀ sliceIndex < cellCount stream,
      (∃ windows, SliceInputWindow.validate stream input (cellSlice stream sliceIndex) =
        .ok windows) ∧
      ∀ planeIndex < stream.codedPlaneCount,
        let rect := inputRect stream (cellSlice stream sliceIndex) planeIndex
        0 < rect.width ∧ 0 < rect.height ∧
          rect.x + rect.width ≤ (stream.planeWidth planeIndex).toNat ∧
          rect.y + rect.height ≤ (stream.planeHeight planeIndex).toNat) ∧
    ((∃ frame next, Encoder.encodeFrameScheduled hardwareConcurrency order input memory
        run.encoder = .ok frame next) ∨
      ∃ status, Encoder.encodeFrameScheduled hardwareConcurrency order input memory
        run.encoder = .error status run.encoder ∧ status.Exhausted) := by
  have hprepared : run.encoder.Prepared stream := by
    rw [← hrun, ScheduledCall.after_eq hcalls] at hstream ⊢
    exact EncoderRun.prepared_created hcreate _ stream hstream
  refine ⟨fun sliceIndex hcell => ?_, ?_⟩
  · have h := hprepared.profile
    have hplaced := cell_placed h.sets_ne hcell
    have hnonempty (planeIndex : Nat) (hplane : planeIndex < stream.codedPlaneCount) :=
      cell_nonempty h.sets_ne h.regions hcell hplane
    refine ⟨inputWindows_made hinput hplaced hnonempty (cell_size h.sets_ne h.regions hcell),
      fun planeIndex hplane => ?_⟩
    rw [inputRect_eq_outputRect hplaced]
    obtain ⟨hwidth, hheight⟩ := hnonempty planeIndex hplane
    obtain ⟨hright, hbottom⟩ := hplaced.outputRect_inside planeIndex
    exact ⟨hwidth, hheight, hright, hbottom⟩
  · rw [Encoder.encodeFrameScheduled_eq fun other hother => by
      obtain rfl := Option.some.inj (hstream.symm.trans hother)
      exact horder, Encoder.encodeFrame_eq hstream]
    have hyields := hprepared.encodes hinput hsamples
    cases hencode : SliceEncodeExecutor.encode stream input memory run.encoder.atKeyframe
        run.encoder.executor with
    | ok encoded => exact .inl ⟨_, _, rfl⟩
    | error status =>
      rw [hencode] at hyields
      exact .inr ⟨_, rfl, hyields⟩

/-- The second frame of the wave. -/
theorem encodeFrame_progresses_wave :
    ∃ run, Observer.after (ScheduledCall.perform 1)
        [{ call := .configure waveInfo }, { call := waveCall }]
        { encoder := { options := waveOptions } } = run ∧
      ((∃ frame next, Encoder.encodeFrameScheduled 1 [] waveInput SliceExecutor.emptyMemory
          run.encoder = .ok frame next) ∨
        ∃ status, Encoder.encodeFrameScheduled 1 [] waveInput SliceExecutor.emptyMemory
          run.encoder = .error status run.encoder ∧ status.Exhausted) := by
  obtain ⟨record, hconfigured⟩ := wave_configured
  have hencoded : waveCall.perform (waveRun record) = .ok () { waveRun record with
      encoder := { (waveRun record).encoder with
        executor := (waveEncoded true {}).1, nextFrameIndex := 0 + 1 }
      frame := (waveEncoded true {}).2 } :=
    EncoderCall.perform_encoded rfl waveEncodes_key
  have hsingle : normalizeThreadCount 1 waveOptions.threadCount ≤ 1 := by decide
  have hmay (stream : StreamParameters) := SliceEncodeExecutor.mayComplete_single hsingle stream []
  have hfirst : ScheduledCall.perform 1 { call := .configure waveInfo }
      { encoder := { options := waveOptions } } = .ok () (waveRun record) := hconfigured
  have hsecond := (@ScheduledCall.perform_eq 1 (waveRun record) { call := waveCall }
    fun stream _ => hmay stream).trans hencoded
  have hrun : Observer.after (ScheduledCall.perform 1)
      [{ call := .configure waveInfo }, { call := waveCall }]
      { encoder := { options := waveOptions } } = { waveRun record with
        encoder := { (waveRun record).encoder with
          executor := (waveEncoded true {}).1, nextFrameIndex := 0 + 1 }
        frame := (waveEncoded true {}).2 } := by
    rw [Observer.after_cons, hfirst, Observer.after_cons, Mirror.finalState, hsecond]
    rfl
  refine ⟨_, hrun, (@encodeFrame_progresses waveOptions { options := waveOptions } rfl 1
    [{ call := .configure waveInfo }, { call := waveCall }] (fun earlier scheduled later heq => ?_) _
    hrun (encoderStream waveOptions waveInfo) rfl [] (hmay _) waveInput SliceExecutor.emptyMemory
    (by decide) fun planeIndex hplane x hx y hy => ?_).2⟩
  · cases earlier with
    | nil =>
      obtain ⟨rfl, -⟩ := List.cons.inj heq
      exact fun stream _ => hmay stream
    | cons first earlier =>
      obtain ⟨rfl, hrest⟩ := List.cons.inj heq
      cases earlier with
      | nil =>
        obtain ⟨rfl, -⟩ := List.cons.inj hrest
        rw [Observer.after_cons, hfirst]
        exact fun stream _ => hmay stream
      | cons second earlier =>
        cases earlier <;> cases (List.cons.inj hrest).2
  · obtain rfl : planeIndex = 0 := Nat.lt_one_iff.mp hplane
    obtain rfl : x = 0 := Nat.lt_one_iff.mp hx
    obtain rfl : y = 0 := Nat.lt_one_iff.mp hy
    decide

/-- Two slices, the right one of which is done first. -/
def halvesEncoder : EncoderRun where
  encoder := { options := { threadCount := 2 }, stream := some halvesStream }

def halvesCall : EncoderCall := .encodeFrame halvesOutput SliceExecutor.emptyMemory

theorem encode_independent_of_schedule_halves :
    let calls : List ScheduledCall :=
      [{ call := halvesCall, order := [1, 0] }]
    let single := halvesEncoder.withThreads 1
    let plain := calls.map ScheduledCall.call
    Observer.results (ScheduledCall.perform 8) calls halvesEncoder =
        Observer.results EncoderCall.perform plain single ∧
      Observer.after (ScheduledCall.perform 8) calls halvesEncoder =
        (Observer.after EncoderCall.perform plain single).withThreads 2 := by
  refine encode_independent_of_schedule fun earlier scheduled later heq => ?_
  obtain ⟨rfl, rfl⟩ : earlier = [] ∧ scheduled = { call := halvesCall, order := [1, 0] } := by
    cases earlier with
    | nil => exact ⟨rfl, (List.cons.inj heq).1.symm⟩
    | cons first rest => cases rest <;> cases (List.cons.inj heq).2
  intro stream hstream sliceCount hcount hworkers
  obtain rfl := Option.some.inj hstream
  obtain rfl : 2 = sliceCount := Except.ok.inj hcount
  exact halves_completion

end Mffv1
