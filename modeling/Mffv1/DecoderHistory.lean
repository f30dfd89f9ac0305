import Mffv1.Decoder
import Mffv1.FrameSchedule
import Mffv1.Lib.Observer

/-!
# Histories of a decoder

What a frame comes to depends on the configuration and the states that the frames before
have left, and a keyframe does not depend on these. Nothing else of a history is seen:
neither failed frames, nor frames before the last keyframe, nor calls that inspect.
-/
namespace Mffv1

theorem FrameParser.parseWithRangeHeader_covers {stream : StreamParameters} {verifyCrc : Bool}
    {payload : Bytes} {frame : FrameDecodeContext}
    (h : parseWithRangeHeader stream verifyCrc payload = .ok frame) :
    SliceExecutor.Covers stream frame.slices :=
  parseLocatedRangeSlices_covers h

/-- What the slices of a frame come to. -/
noncomputable def SliceExecutor.comesTo (executor : SliceExecutor) (stream : StreamParameters)
    (output : FrameView) (frame : FrameDecodeContext) : Except Error SliceExecutor :=
  match validateEach stream output frame.slices with
  | .error status => .error status
  | .ok _ =>
    match executor.workingStates frame.slices frame.keyframe with
    | .error status => .error status
    | .ok states =>
      match (List.range frame.slices.length).findSome?
          (failureAt stream output frame.slices states) with
      | some status => .error status
      | none => .ok
          { sliceStates := (List.range frame.slices.length).map
              (stateAt stream output frame.slices states)
            sliceLayouts := frame.slices.map sliceLayout }

/-- What the slices of a frame write, task after task. -/
noncomputable def SliceExecutor.writes (executor : SliceExecutor) (stream : StreamParameters)
    (output : FrameView) (frame : FrameDecodeContext) (threadCount : Nat) (order : List Nat) :
    Patch Nat Int UInt8 :=
  match executor.workingStates frame.slices frame.keyframe with
  | .error _ => Patch.nothing
  | .ok states => Patch.sequence ((taskOrder stream threadCount order frame.slices).map
      (patchAt stream output frame.slices states))

namespace Decoder

section Frames

variable {decoder : Decoder} {payload : Bytes} {output : FrameView} {stream : StreamParameters}
  {frame : FrameDecodeContext}

theorem readFrame_covers (h : decoder.readFrame payload = .ok (stream, frame)) :
    SliceExecutor.Covers stream frame.slices := by
  unfold readFrame at h
  cases hstream : decoder.stream with
  | none =>
    rw [hstream] at h
    cases h
  | some configured =>
    rw [hstream] at h
    simp only [except_bind_ok, exists_unit] at h
    obtain ⟨-, -, parsed, hparsed, hpair⟩ := h
    obtain ⟨rfl, rfl⟩ := Prod.mk.inj (Except.ok.inj hpair)
    unfold parseFrame at hparsed
    split at hparsed
    · exact FrameParser.parseWithRangeHeader_covers hparsed
    · exact FrameParser.parse_covers hparsed

theorem readFrame_stream {configured : StreamParameters} (hstream : decoder.stream = some stream)
    (h : decoder.readFrame payload = .ok (configured, frame)) : configured = stream := by
  unfold readFrame at h
  rw [hstream] at h
  simp only [except_bind_ok, exists_unit] at h
  obtain ⟨-, -, parsed, -, hpair⟩ := h
  exact (Prod.mk.inj (Except.ok.inj hpair)).1.symm

/-- What a frame comes to, whatever the schedule of its slices and wherever it is written
to: the states behind it. -/
noncomputable def comesTo (decoder : Decoder) (payload : Bytes) (output : FrameView) :
    Except Error SliceExecutor :=
  match decoder.readFrame payload with
  | .error status => .error status
  | .ok (stream, frame) =>
    match FrameValidator.validateOutput stream output with
    | .error status => .error status
    | .ok _ => decoder.executor.comesTo stream output frame

/-- What a frame writes, its slices completed in some order. -/
noncomputable def writes (hardwareConcurrency : Nat) (decoder : Decoder) (payload : Bytes)
    (output : FrameView) (order : List Nat) : Patch Nat Int UInt8 :=
  match decoder.readFrame payload with
  | .error _ => Patch.nothing
  | .ok (stream, frame) => decoder.executor.writes stream output frame
      (normalizeThreadCount hardwareConcurrency decoder.options.threadCount) order

theorem comesTo_valid (hstream : decoder.stream = some stream) {executor : SliceExecutor}
    (h : decoder.comesTo payload output = .ok executor) :
    FrameValidator.validateOutput stream output = .ok () := by
  unfold comesTo at h
  cases hread : decoder.readFrame payload with
  | error status =>
    rw [hread] at h
    cases h
  | ok read =>
    rw [hread] at h
    obtain ⟨configured, frame⟩ := read
    obtain rfl := readFrame_stream hstream hread
    cases hvalid : FrameValidator.validateOutput configured output with
    | error status =>
      simp only [hvalid] at h
      cases h
    | ok _ => rfl

/-- An order in which the slice tasks of a frame can complete. -/
def MayComplete (hardwareConcurrency : Nat) (decoder : Decoder) (payload : Bytes)
    (order : List Nat) : Prop :=
  ∀ stream frame, decoder.readFrame payload = .ok (stream, frame) →
    1 < normalizeThreadCount hardwareConcurrency decoder.options.threadCount →
    SliceExecutor.CompletionOrder (SliceExecutor.workerCountFor
      (normalizeThreadCount hardwareConcurrency decoder.options.threadCount) frame.slices.length)
      0 frame.slices.length order

/-- A result that a frame comes to in some schedule, with what it writes. -/
inductive Delivers (decoder : Decoder) (memory : FrameMemory) (writes : Patch Nat Int UInt8) :
    Except Error SliceExecutor → EStateM.Result Error Run Unit → Prop
  | refused (status : Error) (left : FrameMemory) :
      Delivers decoder memory writes (.error status) (.error status { decoder, memory := left })
  | decoded (executor : SliceExecutor) :
      Delivers decoder memory writes (.ok executor)
        (.ok () { decoder := { decoder with executor }, memory := writes.apply memory })

/-- The states behind a frame: a failed one keeps those before it. -/
def behind (executor : SliceExecutor) (outcome : Except Error SliceExecutor) : SliceExecutor :=
  match outcome with
  | .ok next => next
  | .error _ => executor

section Delivers

variable {memory : FrameMemory} {writes : Patch Nat Int UInt8}
  {outcome : Except Error SliceExecutor}

theorem Delivers.state {result : EStateM.Result Error Run Unit}
    (h : Delivers decoder memory writes outcome result) :
    (Mirror.finalState result).decoder =
      { decoder with executor := behind decoder.executor outcome } := by
  cases h with
  | refused status left => rfl
  | decoded executor => rfl

theorem Delivers.of_ok {u : Unit} {next : Run}
    (h : Delivers decoder memory writes outcome (.ok u next)) :
    ∃ executor, outcome = .ok executor := by
  cases h with
  | decoded executor => exact ⟨executor, rfl⟩

theorem Delivers.refusal {result : EStateM.Result Error Run Unit} {status : Error}
    (h : Delivers decoder memory writes (.error status) result) (writes' : Patch Nat Int UInt8) :
    Delivers decoder memory writes' (.error status) result := by
  cases h with
  | refused status left => exact .refused status left

theorem Delivers.of_error {status : Error} {next : Run}
    (h : Delivers decoder memory writes outcome (.error status next)) :
    outcome = .error status := by
  cases h with
  | refused status left => rfl

end Delivers

/-- Where no planes share a byte, the order of completion does not show. -/
theorem writes_of_order {hardwareConcurrency : Nat} {order order' : List Nat}
    (hstream : decoder.stream = some stream)
    (horder : decoder.MayComplete hardwareConcurrency payload order)
    (horder' : decoder.MayComplete hardwareConcurrency payload order')
    (hvalid : FrameValidator.validateOutput stream output = .ok ())
    (hplanes : PlanesApart stream output) (memory : FrameMemory) :
    (decoder.writes hardwareConcurrency payload output order).apply memory =
      (decoder.writes hardwareConcurrency payload output order').apply memory := by
  unfold writes
  cases hread : decoder.readFrame payload with
  | error status => rfl
  | ok read =>
    obtain ⟨configured, frame⟩ := read
    have hcovers := readFrame_covers hread
    have hconfigured : configured = stream := readFrame_stream hstream hread
    subst hconfigured
    dsimp only
    unfold SliceExecutor.writes
    cases decoder.executor.workingStates frame.slices frame.keyframe with
    | error status => rfl
    | ok states =>
      dsimp only
      rw [Patch.sequence_apply, Patch.sequence_apply,
        SliceExecutor.writes_of_order hcovers hvalid hplanes (horder configured frame hread),
        SliceExecutor.writes_of_order hcovers hvalid hplanes (horder' configured frame hread)]

theorem decodeFrame_delivers (hardwareConcurrency : Nat) {order : List Nat}
    (horder : decoder.MayComplete hardwareConcurrency payload order) (output : FrameView)
    (memory : FrameMemory) :
    Delivers decoder memory (decoder.writes hardwareConcurrency payload output order)
      (decoder.comesTo payload output)
      (decodeFrame hardwareConcurrency order payload output { decoder, memory }) := by
  unfold decodeFrame comesTo writes
  rw [Mirror.get_bind]
  cases hread : decoder.readFrame payload with
  | error status => exact .refused status memory
  | ok read =>
    obtain ⟨stream, frame⟩ := read
    have hcovers := readFrame_covers hread
    rw [Mirror.bind_ok (Mirror.ofExcept_ok_iff.mpr ⟨rfl, rfl⟩)]
    dsimp only
    cases hvalid : FrameValidator.validateOutput stream output with
    | error status => exact .refused status memory
    | ok _ =>
      rw [Mirror.bind_ok (Mirror.ofExcept_ok_iff.mpr ⟨rfl, rfl⟩), SliceExecutor.decode_eq,
        SliceExecutor.validateSlices_of_covered hcovers.covered]
      unfold SliceExecutor.comesTo SliceExecutor.writes
      cases SliceExecutor.validateEach stream output frame.slices with
      | error status => exact .refused status memory
      | ok _ =>
        cases hstates : decoder.executor.workingStates frame.slices frame.keyframe with
        | error status => exact .refused status memory
        | ok states =>
          have hslices := @SliceExecutor.decodeSlices_of_order stream output frame.slices states
            (normalizeThreadCount hardwareConcurrency decoder.options.threadCount) order
            (SliceExecutor.workingStates_length hstates)
            (SliceExecutor.CompletionOrder.tasks (horder stream frame hread)) memory
          cases hfailure : (List.range frame.slices.length).findSome?
              (SliceExecutor.failureAt stream output frame.slices states) with
          | some status =>
            rw [hfailure] at hslices
            obtain ⟨progress, hslices⟩ := hslices
            simp only [hfailure, hslices]
            exact .refused status progress.memory
          | none =>
            rw [hfailure, ← Patch.sequence_apply] at hslices
            simp only [hfailure, hslices]
            exact .decoded _

/-- Whether a payload is read as a keyframe. -/
def isKeyframe (decoder : Decoder) (payload : Bytes) : Bool :=
  match decoder.readFrame payload with
  | .ok (_, frame) => frame.keyframe
  | .error _ => false

/-- A keyframe does not depend on the states before it. -/
theorem comesTo_keyframe (h : decoder.isKeyframe payload = true) (output : FrameView)
    (executor : SliceExecutor) :
    ({ decoder with executor }).comesTo payload output = decoder.comesTo payload output := by
  have hread : ({ decoder with executor }).readFrame payload = decoder.readFrame payload := rfl
  unfold isKeyframe at h
  unfold comesTo
  rw [hread]
  cases hframe : decoder.readFrame payload with
  | error status => rfl
  | ok read =>
    rw [hframe] at h
    obtain ⟨stream, frame⟩ := read
    have hkeyframe : frame.keyframe = true := h
    have hstates (executor : SliceExecutor) : executor.comesTo stream output frame =
        decoder.executor.comesTo stream output frame := by
      unfold SliceExecutor.comesTo SliceExecutor.workingStates
      simp only [hkeyframe, if_true]
    simp only [hstates]

end Frames

end Decoder

inductive HistoryCall where
  | decodeFrame (payload : Bytes) (output : FrameView) (order : List Nat)
  | inspectFrame (payload : Bytes)
  | configure (record : Bytes)
  | bootstrapLegacyFrame (payload : Bytes)
  deriving DecidableEq

namespace HistoryCall

variable (hardwareConcurrency : Nat)

def perform : HistoryCall → Call Decoder.Run Unit
  | decodeFrame payload output order => Decoder.decodeFrame hardwareConcurrency order payload output
  | inspectFrame payload => do
    let run ← get
    let _ ← MonadExcept.ofExcept (run.decoder.inspectFrame payload)
  | configure record => fun run =>
    match Decoder.configure record run.decoder with
    | .ok _ decoder => .ok () { run with decoder }
    | .error status decoder => .error status { run with decoder }
  | bootstrapLegacyFrame payload => fun run =>
    match Decoder.bootstrapLegacyFrame payload run.decoder with
    | .ok _ decoder => .ok () { run with decoder }
    | .error status decoder => .error status { run with decoder }

/-- The calls of a history: a frame completes in a possible order, and a configuration
fails. -/
def Permitted (decoder : Decoder) : HistoryCall → Prop
  | decodeFrame payload _ order => decoder.MayComplete hardwareConcurrency payload order
  | configure record => ∃ status, ConfigurationRecordParser.parse record = .error status
  | _ => True

/-- The states behind a call. -/
noncomputable def follow (decoder : Decoder) (executor : SliceExecutor) : HistoryCall → SliceExecutor
  | decodeFrame payload output _ =>
    Decoder.behind executor (({ decoder with executor }).comesTo payload output)
  | _ => executor

/-- The same frame, completed in any order. -/
inductive SameFrame : HistoryCall → HistoryCall → Prop
  | same (payload : Bytes) (output : FrameView) (order order' : List Nat) :
      SameFrame (decodeFrame payload output order) (decodeFrame payload output order')

/-- The frames that were decoded, from the last keyframe on; `kept` are those so far. -/
def retained : (calls : List HistoryCall) → Decoder.Run → (kept : List HistoryCall) →
    List HistoryCall
  | [], _, kept => kept
  | decodeFrame payload output order :: calls, run, kept =>
    let call := decodeFrame payload output order
    match call.perform hardwareConcurrency run with
    | .ok _ next =>
      retained calls next (if run.decoder.isKeyframe payload then [call] else kept ++ [call])
    | .error _ next => retained calls next kept
  | call :: calls, run, kept =>
    retained calls (Mirror.finalState (call.perform hardwareConcurrency run)) kept

section Calls

variable {hardwareConcurrency} {decoder : Decoder} {stream : StreamParameters}

/-- A configured decoder is not configured by a frame. -/
theorem bootstrap_kept (hstream : decoder.stream = some stream) (payload : Bytes) :
    Mirror.finalState (Decoder.bootstrapLegacyFrame payload decoder) = decoder := by
  have hmaintains : Hoare.Maintains (fun other => other = decoder)
      (Decoder.bootstrapLegacyFrame payload) := by
    refine failIf_maintains.bind fun _ => Hoare.Maintains.view fun other hother => ?_
    refine (Hoare.Maintains.ofExcept _).bind fun bootstrap => ?_
    rw [hother, hstream]
    by_cases hembedded : bootstrap.hasEmbeddedParameters = false
    · rw [if_pos hembedded]
      exact Hoare.Maintains.pure
    · rw [if_neg hembedded]
      exact Hoare.Maintains.pure
  exact hmaintains.finalState rfl

theorem perform_delivers {payload : Bytes} {order : List Nat}
    (horder : decoder.MayComplete hardwareConcurrency payload order) {run : Decoder.Run}
    {executor : SliceExecutor} (hrun : run.decoder = { decoder with executor })
    (output : FrameView) :
    Decoder.Delivers { decoder with executor } run.memory
      (({ decoder with executor }).writes hardwareConcurrency payload output order)
      (({ decoder with executor }).comesTo payload output)
      ((decodeFrame payload output order).perform hardwareConcurrency run) := by
  obtain ⟨_, memory⟩ := run
  obtain rfl := hrun
  exact @Decoder.decodeFrame_delivers { decoder with executor } payload hardwareConcurrency order
    horder output memory

theorem configure_refused {record : Bytes} {status : Error}
    (h : ConfigurationRecordParser.parse record = .error status) (run : Decoder.Run) :
    (configure record).perform hardwareConcurrency run = .error status run := by
  have hfailed : Decoder.configure record run.decoder = .error status run.decoder := by
    unfold Decoder.configure
    rw [h]
    rfl
  unfold perform
  dsimp only
  rw [hfailed]

theorem perform_state (hstream : decoder.stream = some stream) {call : HistoryCall}
    (hcall : call.Permitted hardwareConcurrency decoder) {run : Decoder.Run}
    {executor : SliceExecutor} (hrun : run.decoder = { decoder with executor }) :
    (Mirror.finalState (call.perform hardwareConcurrency run)).decoder =
      { decoder with executor := follow decoder executor call } := by
  cases call with
  | decodeFrame payload output order => exact (perform_delivers hcall hrun output).state
  | inspectFrame payload =>
    have hmaintains : Hoare.Maintains
        (fun run : Decoder.Run => run.decoder = { decoder with executor })
        ((inspectFrame payload).perform hardwareConcurrency) :=
      Hoare.Maintains.view fun _ _ => (Hoare.Maintains.ofExcept _).bind fun _ => Hoare.Maintains.pure
    exact hmaintains.finalState hrun
  | configure record =>
    obtain ⟨status, hstatus⟩ := hcall
    rw [configure_refused hstatus]
    exact hrun
  | bootstrapLegacyFrame payload =>
    have hkept := @bootstrap_kept { decoder with executor } stream hstream payload
    unfold perform
    dsimp only
    rw [hrun]
    cases hbootstrap : Decoder.bootstrapLegacyFrame payload { decoder with executor } with
    | error status next =>
      rw [hbootstrap] at hkept
      exact hkept
    | ok info next =>
      rw [hbootstrap] at hkept
      exact hkept

theorem retained_decoded {payload : Bytes} {output : FrameView} {order : List Nat}
    {run next : Decoder.Run} {u : Unit}
    (h : (decodeFrame payload output order).perform hardwareConcurrency run = .ok u next)
    (calls kept : List HistoryCall) :
    retained hardwareConcurrency (decodeFrame payload output order :: calls) run kept =
      retained hardwareConcurrency calls next
        (if run.decoder.isKeyframe payload then [decodeFrame payload output order]
          else kept ++ [decodeFrame payload output order]) := by
  rw [retained, h]

theorem retained_refused {payload : Bytes} {output : FrameView} {order : List Nat}
    {run next : Decoder.Run} {status : Error}
    (h : (decodeFrame payload output order).perform hardwareConcurrency run = .error status next)
    (calls kept : List HistoryCall) :
    retained hardwareConcurrency (decodeFrame payload output order :: calls) run kept =
      retained hardwareConcurrency calls next kept := by
  rw [retained, h]

theorem after_state (hstream : decoder.stream = some stream) {calls : List HistoryCall}
    (hcalls : ∀ call ∈ calls, call.Permitted hardwareConcurrency decoder) {run : Decoder.Run}
    {executor : SliceExecutor} (hrun : run.decoder = { decoder with executor }) :
    (Observer.after (perform hardwareConcurrency) calls run).decoder =
      { decoder with executor := calls.foldl (follow decoder) executor } := by
  induction calls generalizing run executor with
  | nil => exact hrun
  | cons call calls ih =>
    obtain ⟨hcall, hrest⟩ := List.forall_mem_cons.mp hcalls
    exact ih hrest (perform_state hstream hcall hrun)

/-- A keyframe leaves the same states behind any states before it. -/
theorem follow_keyframe {payload : Bytes} (h : decoder.isKeyframe payload = true)
    {output : FrameView} {order : List Nat} {executor executor' : SliceExecutor}
    (hsuccess : ∃ outcome, ({ decoder with executor }).comesTo payload output = .ok outcome) :
    follow decoder executor' (decodeFrame payload output order) =
      follow decoder executor (decodeFrame payload output order) := by
  obtain ⟨outcome, houtcome⟩ := hsuccess
  have hsame : ({ decoder with executor := executor' }).comesTo payload output = .ok outcome :=
    (Decoder.comesTo_keyframe h output executor').trans
      ((Decoder.comesTo_keyframe h output executor).symm.trans houtcome)
  unfold follow
  dsimp only
  rw [hsame, houtcome]
  rfl

theorem retained_state (hstream : decoder.stream = some stream) {calls kept : List HistoryCall}
    (hcalls : ∀ call ∈ calls, call.Permitted hardwareConcurrency decoder) {run : Decoder.Run}
    (hrun : run.decoder = { decoder with executor := kept.foldl (follow decoder) decoder.executor }) :
    (retained hardwareConcurrency calls run kept).foldl (follow decoder) decoder.executor =
      (Observer.after (perform hardwareConcurrency) calls run).decoder.executor := by
  induction calls generalizing run kept with
  | nil =>
    rw [retained]
    exact (congrArg Decoder.executor hrun).symm
  | cons call calls ih =>
    obtain ⟨hcall, hrest⟩ := List.forall_mem_cons.mp hcalls
    have hnext := perform_state hstream hcall hrun
    cases call with
    | decodeFrame payload output order =>
      have hdelivers := perform_delivers hcall hrun output
      cases hperform : (decodeFrame payload output order).perform hardwareConcurrency run with
      | error status next =>
        rw [hperform] at hnext hdelivers
        rw [follow, hdelivers.of_error] at hnext
        rw [retained_refused hperform, Observer.after_cons, hperform]
        exact ih hrest hnext
      | ok u next =>
        rw [hperform] at hnext hdelivers
        rw [retained_decoded hperform, Observer.after_cons, hperform]
        refine ih hrest (hnext.trans ?_)
        by_cases hkeyframe : run.decoder.isKeyframe payload = true
        · rw [if_pos hkeyframe, List.foldl_cons, List.foldl_nil]
          have hkey : decoder.isKeyframe payload = true := by
            rw [hrun] at hkeyframe
            exact hkeyframe
          have hsame : follow decoder (kept.foldl (follow decoder) decoder.executor)
              (decodeFrame payload output order) =
                follow decoder decoder.executor (decodeFrame payload output order) :=
            (follow_keyframe hkey hdelivers.of_ok).symm
          rw [hsame]
        · rw [if_neg hkeyframe, List.foldl_append]
          rfl
    | inspectFrame payload => exact ih hrest hnext
    | configure record => exact ih hrest hnext
    | bootstrapLegacyFrame payload => exact ih hrest hnext

theorem follow_same {call call' : HistoryCall} (h : SameFrame call call')
    (executor : SliceExecutor) : follow decoder executor call = follow decoder executor call' := by
  cases h with
  | same payload output order order' => rfl

theorem foldl_follow_same {calls replay : List HistoryCall}
    (h : List.Forall₂ SameFrame calls replay) (executor : SliceExecutor) :
    calls.foldl (follow decoder) executor = replay.foldl (follow decoder) executor := by
  induction h generalizing executor with
  | nil => rfl
  | cons hsame _ ih => rw [List.foldl_cons, List.foldl_cons, follow_same hsame, ih]

end Calls

end HistoryCall

/-- A frame comes to the same status and the same writes behind a history and behind a
replay of what is retained of it: its frames that were decoded, from the last keyframe on,
in any schedule and on any memory. Only bytes that planes share may show the schedule of the
frame itself. -/
theorem decoder_history_law {hardwareConcurrency : Nat} {start : Decoder.Run}
    {stream : StreamParameters} (hstream : start.decoder.stream = some stream)
    {calls replay : List HistoryCall}
    (hcalls : ∀ call ∈ calls, call.Permitted hardwareConcurrency start.decoder)
    (hsame : List.Forall₂ HistoryCall.SameFrame
      (HistoryCall.retained hardwareConcurrency calls start []) replay)
    (hreplay : ∀ call ∈ replay, call.Permitted hardwareConcurrency start.decoder)
    {payload : Bytes} {order order' : List Nat}
    (horder : start.decoder.MayComplete hardwareConcurrency payload order)
    (horder' : start.decoder.MayComplete hardwareConcurrency payload order')
    (output : FrameView) (memory : FrameMemory) :
    let behind := Observer.after (HistoryCall.perform hardwareConcurrency) calls start
    let replayed := Observer.after (HistoryCall.perform hardwareConcurrency) replay
      { start with memory }
    replayed.decoder = behind.decoder ∧
      ∃ outcome writes writes',
        Decoder.Delivers behind.decoder behind.memory writes outcome
          (Decoder.decodeFrame hardwareConcurrency order payload output behind) ∧
        Decoder.Delivers behind.decoder replayed.memory writes' outcome
          (Decoder.decodeFrame hardwareConcurrency order' payload output replayed) ∧
        (order' = order ∨ PlanesApart stream output →
          ∀ frame, writes'.apply frame = writes.apply frame) := by
  intro behind replayed
  have hbehind : behind.decoder = { start.decoder with
      executor := calls.foldl (HistoryCall.follow start.decoder) start.decoder.executor } :=
    HistoryCall.after_state hstream hcalls rfl
  have hreplayed : replayed.decoder = { start.decoder with
      executor := replay.foldl (HistoryCall.follow start.decoder) start.decoder.executor } :=
    HistoryCall.after_state hstream hreplay rfl
  have hretained : (HistoryCall.retained hardwareConcurrency calls start []).foldl
      (HistoryCall.follow start.decoder) start.decoder.executor = behind.decoder.executor :=
    HistoryCall.retained_state hstream hcalls rfl
  rw [HistoryCall.foldl_follow_same hsame] at hretained
  have hdecoder : replayed.decoder = behind.decoder := by
    rw [hreplayed, hretained, hbehind]
  have hconfigured : behind.decoder.stream = some stream := by
    rw [hbehind]
    exact hstream
  have hmay {tasks : List Nat}
      (htasks : start.decoder.MayComplete hardwareConcurrency payload tasks) :
      behind.decoder.MayComplete hardwareConcurrency payload tasks := by
    rw [hbehind]
    exact htasks
  have hdelivers := Decoder.decodeFrame_delivers hardwareConcurrency (hmay horder) output
    behind.memory
  have hdelivers' := Decoder.decodeFrame_delivers hardwareConcurrency (hmay horder') output
    replayed.memory
  have hrun : replayed = { decoder := behind.decoder, memory := replayed.memory } := by
    rw [← hdecoder]
  rw [← hrun] at hdelivers'
  refine ⟨hdecoder, behind.decoder.comesTo payload output, ?_⟩
  cases houtcome : behind.decoder.comesTo payload output with
  | error status =>
    rw [houtcome] at hdelivers hdelivers'
    exact ⟨Patch.nothing, Patch.nothing, hdelivers.refusal _, hdelivers'.refusal _,
      fun _ _ => rfl⟩
  | ok executor =>
    rw [houtcome] at hdelivers hdelivers'
    refine ⟨_, _, hdelivers, hdelivers', fun hschedule frame => ?_⟩
    rcases hschedule with rfl | hplanes
    · rfl
    · exact Decoder.writes_of_order hconfigured (hmay horder') (hmay horder)
        (Decoder.comesTo_valid hconfigured houtcome) hplanes frame

def halvesDecoder : Decoder := { options := { threadCount := 2 }, stream := some halvesStream }

def halvesStart : Decoder.Run := { decoder := halvesDecoder, memory := SliceExecutor.emptyMemory }

/-- The keyframe of two slices with the bit of an inter frame. -/
def halvesInterFrame : Bytes := [126, 120, 115, 0, 0, 3, 63, 116, 29, 0, 0, 3]

/-- The left half alone. -/
def halfKeyframe : Bytes := [254, 120, 115, 0, 0, 3]

def decodeHalves (payload : Bytes) (order : List Nat) : HistoryCall :=
  .decodeFrame payload halvesOutput order

/-- A keyframe and an inter frame among calls that leave nothing. -/
def halvesHistory : List HistoryCall :=
  [.configure [], decodeHalves halvesKeyframe [1, 0], decodeHalves halfKeyframe [0],
    .inspectFrame halvesKeyframe, decodeHalves halvesInterFrame [0, 1], .bootstrapLegacyFrame []]

theorem halvesDecoder_read {payload : Bytes} {frame : FrameDecodeContext} (hnonempty : payload ≠ [])
    (hparse : Decoder.parseFrame halvesDecoder.options halvesStream payload = .ok frame) :
    halvesDecoder.readFrame payload = .ok (halvesStream, frame) := by
  have hstream : halvesDecoder.stream = some halvesStream := rfl
  unfold Decoder.readFrame
  rw [hstream]
  dsimp only
  rw [failIf_of_not hnonempty, failIf_of_not (by decide), hparse]
  rfl

/-- The tasks of both slices run at once. -/
theorem halvesDecoder_mayComplete {payload : Bytes} {frame : FrameDecodeContext}
    (hread : halvesDecoder.readFrame payload = .ok (halvesStream, frame))
    (hcount : frame.slices.length = 2) {order : List Nat} (horder : order.Perm [0, 1]) :
    halvesDecoder.MayComplete 8 payload order := by
  intro stream frame' hframe hparallel
  rw [hread] at hframe
  obtain ⟨-, rfl⟩ := Prod.mk.inj (Except.ok.inj hframe)
  rw [hcount]
  have hbatch : order.Perm (List.range' 0 (min 2 2)) := horder
  rw [← List.append_nil order]
  exact .batch Nat.two_pos hbatch (.done 2)

theorem halvesKeyframe_mayComplete {order : List Nat} (horder : order.Perm [0, 1]) :
    halvesDecoder.MayComplete 8 halvesKeyframe order :=
  @halvesDecoder_mayComplete _ halvesFrame
    (halvesDecoder_read (by decide) (by decide +kernel)) (by decide +kernel) _ horder

def halvesInterParsed : FrameDecodeContext :=
  (Decoder.parseFrame halvesDecoder.options halvesStream halvesInterFrame).toOption.getD {}

theorem halvesInterFrame_mayComplete {order : List Nat} (horder : order.Perm [0, 1]) :
    halvesDecoder.MayComplete 8 halvesInterFrame order :=
  @halvesDecoder_mayComplete _ halvesInterParsed
    (halvesDecoder_read (by decide) (by decide +kernel)) (by decide +kernel) _ horder

theorem halfKeyframe_mayComplete (order : List Nat) :
    halvesDecoder.MayComplete 8 halfKeyframe order := by
  intro stream frame hframe _
  have hrefused : (halvesDecoder.readFrame halfKeyframe).isOk = false := by decide +kernel
  rw [hframe] at hrefused
  cases hrefused

theorem halvesHistory_retained : HistoryCall.retained 8 halvesHistory halvesStart [] =
    [decodeHalves halvesKeyframe [1, 0], decodeHalves halvesInterFrame [0, 1]] := by
  decide +kernel

theorem decoder_history_law_halves :
    let behind := Observer.after (HistoryCall.perform 8) halvesHistory halvesStart
    let replayed := Observer.after (HistoryCall.perform 8)
      [decodeHalves halvesKeyframe [0, 1], decodeHalves halvesInterFrame [1, 0]] halvesStart
    replayed.decoder = behind.decoder ∧
      ∃ outcome writes writes',
        Decoder.Delivers behind.decoder behind.memory writes outcome
          (Decoder.decodeFrame 8 [0, 1] halvesInterFrame halvesOutput behind) ∧
        Decoder.Delivers behind.decoder replayed.memory writes' outcome
          (Decoder.decodeFrame 8 [1, 0] halvesInterFrame halvesOutput replayed) ∧
        ∀ frame, writes'.apply frame = writes.apply frame := by
  have hswapped : [1, 0].Perm [0, 1] := List.Perm.swap 0 1 []
  have hsame : [0, 1].Perm [0, 1] := List.Perm.refl _
  have hlaw := @decoder_history_law 8 halvesStart halvesStream rfl halvesHistory
    [decodeHalves halvesKeyframe [0, 1], decodeHalves halvesInterFrame [1, 0]] ?_ ?_ ?_
    halvesInterFrame [0, 1] [1, 0] (halvesInterFrame_mayComplete hsame)
    (halvesInterFrame_mayComplete hswapped) halvesOutput SliceExecutor.emptyMemory
  · obtain ⟨hdecoder, outcome, writes, writes', hbehind, hreplayed, hwrites⟩ := hlaw
    exact ⟨hdecoder, outcome, writes, writes', hbehind, hreplayed,
      hwrites (.inr (PlanesApart.of_single rfl))⟩
  · unfold halvesHistory
    refine List.forall_mem_cons.mpr ⟨⟨_, rfl⟩, List.forall_mem_cons.mpr
      ⟨halvesKeyframe_mayComplete hswapped, List.forall_mem_cons.mpr
        ⟨halfKeyframe_mayComplete [0], List.forall_mem_cons.mpr ⟨trivial, List.forall_mem_cons.mpr
          ⟨halvesInterFrame_mayComplete hsame, ?_⟩⟩⟩⟩⟩
    exact List.forall_mem_singleton.mpr trivial
  · rw [halvesHistory_retained]
    exact .cons (.same _ _ _ _) (.cons (.same _ _ _ _) .nil)
  · refine List.forall_mem_cons.mpr ⟨halvesKeyframe_mayComplete hsame, ?_⟩
    exact List.forall_mem_singleton.mpr (halvesInterFrame_mayComplete hswapped)

end Mffv1
