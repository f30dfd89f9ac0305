import Mffv1.DecoderHistory

/-!
# Where a decoder writes

A frame is decoded from any bytes, and its decoding may fail in the middle of a slice. In
either case nothing is written but the samples of the coded planes: neither the padding of
the rows nor anything before, between or behind the planes.
-/
namespace Mffv1

open Hoare (Maintains Triple)

section Stores

variable {R : Type} {stream : StreamParameters} {windows : List PlaneWindow}
  {width height : Nat → Nat} {planeIndex y : Nat}

theorem onReader_stores {α : Type} (call : Call R α) :
    Maintains (StoresInside stream width height) (onReader call) := by
  intro decoding hinside
  unfold onReader
  cases call decoding.reader with
  | ok value reader => exact ⟨hinside.sized, hinside.stores⟩
  | error status reader => exact ⟨hinside.sized, hinside.stores⟩

theorem modifyState_stores {f : SliceState → SliceState}
    (hf : ∀ state, state.LinesSized stream.codedPlaneCount width →
      (f state).LinesSized stream.codedPlaneCount width) :
    Maintains (StoresInside stream width height)
      (modify (Decoding.modifyState f) : Call (Decoding R) Unit) :=
  Maintains.update fun _ hinside => hinside.modifyState hf

/-- A call that fails only for a check at its start. -/
theorem maintains_of_keeps {α : Type} {I : Decoding R → Prop} {check : Status}
    {rest : Unit → Call (Decoding R) α}
    (hkeeps : Mirror.Keeps I (MonadExcept.ofExcept check >>= rest))
    (hends : ∀ decoding, ∃ a decoding', rest () decoding = .ok a decoding') :
    Maintains I (MonadExcept.ofExcept check >>= rest) := by
  intro decoding hdecoding
  cases check with
  | error status => exact hdecoding
  | ok _ =>
    obtain ⟨a, decoding', hrest⟩ := hends decoding
    have hcall : (MonadExcept.ofExcept (.ok () : Status) >>= rest) decoding = .ok a decoding' := hrest
    rw [hcall]
    exact hkeeps decoding a decoding' hdecoding hcall

theorem storePlanarLine_stores (hshape : WindowShape stream windows width height)
    (hplane : planeIndex < stream.codedPlaneCount) (hy : y < height planeIndex) :
    Maintains (StoresInside stream width height)
      (storePlanarLine stream windows planeIndex y : Call (Decoding R) Unit) :=
  maintains_of_keeps (storePlanarLine_inside hshape hplane hy) fun _ => ⟨_, _, rfl⟩

theorem storeRgbLine_stores (hshape : WindowShape stream windows width height)
    (hrgb : RgbAlike stream width height) (hy : y < height 0) :
    Maintains (StoresInside stream width height)
      (storeRgbLine stream windows y : Call (Decoding R) Unit) :=
  maintains_of_keeps (storeRgbLine_inside hshape hrgb hy) fun _ => ⟨_, _, rfl⟩

theorem decodePlaneLine_stores [SymbolSource R] {setup : RangeSliceSetup} (bits : Nat)
    (signed16bit : Bool) (planeIndex widthPlane : Nat) :
    Maintains (StoresInside stream width height)
      (decodePlaneLine setup windows bits signed16bit planeIndex widthPlane :
        Call (Decoding R) Unit) :=
  Maintains.forLoop _ _ fun _ _ _ => Maintains.view fun _ _ => (Maintains.ofExcept _).bind fun _ =>
    (onReader_stores _).bind fun _ => failIf_maintains.bind fun _ =>
      modifyState_stores fun _ hsized => hsized.store _ _

/-- The range loops store rows of their windows, also where they fail. -/
theorem decodeRangeSamples_stores [SymbolSource R] {setup : RangeSliceSetup}
    (hshape : WindowShape stream windows width height)
    (hrgb : stream.colorspaceType = 1 → RgbAlike stream width height) :
    Maintains (StoresInside stream width height)
      (decodeRangeSamples stream setup windows : Call (Decoding R) Unit) := by
  have hplanar (planeIndex y : Nat) (hplane : planeIndex < stream.codedPlaneCount)
      (hy : y < height planeIndex) : Maintains (StoresInside stream width height)
        (decodePlanarLine stream setup windows planeIndex y : Call (Decoding R) Unit) :=
    (decodePlaneLine_stores _ _ _ _).bind fun _ => storePlanarLine_stores hshape hplane hy
  unfold decodeRangeSamples
  split
  · rename_i hcolor
    refine Maintains.forLoop _ _ fun y _ hy => ?_
    rw [hshape.height 0 stream.codedPlaneCount_pos, Nat.zero_add] at hy
    exact (Maintains.forLoop _ _ fun _ _ _ => decodePlaneLine_stores _ _ _ _).bind fun _ =>
      storeRgbLine_stores hshape (hrgb hcolor) hy
  · split
    · refine Maintains.forLoop _ _ fun y _ _ => Maintains.forLoop _ _ fun planeIndex _ hplane => ?_
      rw [hshape.planes, Nat.zero_add] at hplane
      split
      · exact Maintains.pure
      · rename_i hy
        exact hplanar planeIndex y hplane (hshape.height planeIndex hplane ▸ Nat.not_le.mp hy)
    · refine Maintains.forLoop _ _ fun planeIndex _ hplane => Maintains.forLoop _ _ fun y _ hy => ?_
      rw [hshape.planes, Nat.zero_add] at hplane
      rw [hshape.height planeIndex hplane, Nat.zero_add] at hy
      exact hplanar planeIndex y hplane hy

end Stores

section GolombRiceStores

variable {stream : StreamParameters} {windows : List PlaneWindow} {width height : Nat → Nat}

theorem decodeGolombRiceLine_stores {payloadOffset : Nat} {setup : GolombRiceLine} :
    Maintains (StoresInside stream width height) (decodeGolombRiceLine payloadOffset setup) := by
  intro decoding hinside
  have hkept (decoding' : Decoding BitReader)
      (h : LinesKept stream.codedPlaneCount width decoding.stores decoding') :
      StoresInside stream width height decoding' :=
    ⟨h.sized, h.stores_eq ▸ hinside.stores⟩
  exact (decodeGolombRiceLine_maintains.consequence (fun _ h => h) (fun _ => hkept)
    fun _ => hkept) decoding ⟨hinside.sized, rfl⟩

theorem decodeGolombRiceRow_stores {setup : GolombRiceSliceSetup}
    (planeIndex runStatePlane widthPlane y bits : Nat) :
    Maintains (StoresInside stream width height)
      (decodeGolombRiceRow setup windows planeIndex runStatePlane widthPlane y bits) :=
  decodeGolombRiceLine_stores.telling _

theorem decodeGolombRiceSlice_stores {setup : GolombRiceSliceSetup}
    (hshape : WindowShape stream windows width height)
    (hrgb : stream.colorspaceType = 1 → RgbAlike stream width height) :
    Maintains (StoresInside stream width height)
      (decodeGolombRiceSlice stream setup windows) := by
  refine failIf_maintains.bind fun _ => Maintains.view fun decoding hinside => ?_
  cases hprepare : decoding.state.prepareGolombRice setup.contextBankCounts windows.length with
  | error status => exact Maintains.throws status
  | ok prepared =>
    have hlines := SliceState.prepareGolombRice_lines hprepare
    have hsized : prepared.LinesSized stream.codedPlaneCount width := by
      have h := hinside.sized
      constructor
      · rw [← h.planes, SliceState.planeCount, SliceState.planeCount, hlines]
      · intro planeIndex hplane
        rw [SliceState.lineState, hlines]
        exact h.sized planeIndex hplane
    have hreset : StoresInside stream width height
        { decoding with state := prepared.resetRunStates } :=
      ⟨⟨hsized.planes, hsized.sized⟩, hinside.stores⟩
    refine Triple.computes rfl ((Maintains.replace hreset).bind fun _ =>
      (onReader_stores _).bind fun _ => Maintains.view fun _ _ => Maintains.bind ?_ fun _ =>
        Maintains.view fun _ _ => onReader_stores _)
    split
    · rename_i hcolor
      refine (Maintains.forLoop _ _ fun y _ hy => ?_).bind fun _ =>
        modifyState_stores fun _ hsized => ⟨hsized.planes, hsized.sized⟩
      rw [hshape.height 0 stream.codedPlaneCount_pos, Nat.zero_add] at hy
      exact (Maintains.forLoop _ _ fun _ _ _ => decodeGolombRiceRow_stores _ _ _ _ _).bind fun _ =>
        storeRgbLine_stores hshape (hrgb hcolor) hy
    · refine Maintains.forLoop _ _ fun planeIndex _ hplane =>
        (Maintains.forLoop _ _ fun y _ hy => ?_).bind fun _ =>
          modifyState_stores fun _ hsized => ⟨hsized.planes, hsized.sized⟩
      rw [hshape.planes, Nat.zero_add] at hplane
      rw [hshape.height planeIndex hplane, Nat.zero_add] at hy
      exact (decodeGolombRiceRow_stores _ _ _ _ _).bind fun _ =>
        storePlanarLine_stores hshape hplane hy

end GolombRiceStores

section Slices

variable {stream : StreamParameters} {windows : List PlaneWindow} {width height : Nat → Nat}

def ProgressInside (stream : StreamParameters) (width height : Nat → Nat)
    (progress : SliceProgress) : Prop :=
  progress.state.LinesSized stream.codedPlaneCount width ∧
    ∀ store ∈ progress.stores, store.Inside stream width height

theorem withReader_progress {R : Type} {reader : R} {call : Call (Decoding R) Unit}
    (h : Maintains (StoresInside stream width height) call) :
    Maintains (ProgressInside stream width height) (SliceProgress.withReader reader call) := by
  intro progress hprogress
  have hends := h { reader, state := progress.state, stores := progress.stores }
    ⟨hprogress.1, hprogress.2⟩
  unfold SliceProgress.withReader
  cases hcall : call { reader, state := progress.state, stores := progress.stores } with
  | ok value decoding =>
    rw [hcall] at hends
    exact ⟨hends.sized, hends.stores⟩
  | error status decoding =>
    rw [hcall] at hends
    exact ⟨hends.sized, hends.stores⟩

theorem captureContexts_stores :
    Maintains (StoresInside stream width height) SliceDecoder.captureContexts := by
  refine Maintains.view fun decoding hinside => ?_
  cases hcontexts : decoding.reader.copyContexts with
  | error status => exact Maintains.throws status
  | ok contexts => exact Maintains.replace ⟨⟨hinside.sized.planes, hinside.sized.sized⟩, hinside.stores⟩

/-- A slice stores rows of its windows, also where it fails. -/
theorem SliceDecoder.decode_stores (slice : SliceDescriptor)
    (hshape : WindowShape stream windows width height)
    (hrgb : stream.colorspaceType = 1 → RgbAlike stream width height) (allowReadAhead : Bool) :
    Maintains (ProgressInside stream width height)
      (decode stream allowReadAhead slice windows) := by
  refine (Maintains.ofExcept _).bind fun _ => Maintains.view fun _ _ =>
    (Maintains.ofExcept _).bind fun _ => (Maintains.ofExcept _).bind fun content => ?_
  cases hmode : stream.entropyMode with
  | golombRice => exact withReader_progress (decodeGolombRiceSlice_stores hshape hrgb)
  | range =>
    exact Maintains.view fun _ _ => (Maintains.ofExcept _).bind fun _ =>
      (Maintains.ofExcept _).bind fun _ => withReader_progress
        ((decodeRangeSamples_stores hshape hrgb).bind fun _ => captureContexts_stores)

end Slices

section Copying

variable (temporary : FrameMemory) (source destination : List PlaneWindow) (before : FrameMemory)

theorem copySamples_confined {format : SampleFormat} {planeIndex y : Nat} (from_ : Int) {to_ : Int}
    (hrow : rowOfFormat format destination planeIndex y = some to_)
    (hwidth : (planeWindow source planeIndex).width = (planeWindow destination planeIndex).width) :
    Maintains (Patch.SameOutside (windowBytes destination) before)
      (modify (copySamples temporary source destination format planeIndex
        (planeWindow source planeIndex).width.toNat from_ to_) : Call FrameMemory Unit) := by
  obtain ⟨hplane, hy, rfl, rfl⟩ := rowOfFormat_some hrow
  refine Maintains.update fun memory hmemory => ?_
  unfold copySamples
  rw [FrameMemory.storeSamples_apply]
  refine hmemory.write (rowPatch_window hplane hy ?_)
  rw [List.length_map, List.length_range, hwidth]

theorem copyRow_confined {planeIndex : Nat} (y : Nat)
    (hwidth : (planeWindow source planeIndex).width = (planeWindow destination planeIndex).width) :
    Maintains (Patch.SameOutside (windowBytes destination) before)
      (copyRow temporary source destination planeIndex y) := by
  unfold copyRow
  cases rowOfFormat .uint8 source planeIndex y with
  | some src =>
    cases hrow : rowOfFormat .uint8 destination planeIndex y with
    | some dst => exact copySamples_confined temporary source destination before src hrow hwidth
    | none => exact Maintains.throws _
  | none =>
    cases rowOfFormat .uint16 source planeIndex y with
    | some src =>
      cases hrow : rowOfFormat .uint16 destination planeIndex y with
      | some dst => exact copySamples_confined temporary source destination before src hrow hwidth
      | none => exact Maintains.throws _
    | none => exact Maintains.throws _

/-- A copy of a slice writes to its windows, also where it fails. -/
theorem copyDecodedSlice_confined :
    Maintains (Patch.SameOutside (windowBytes destination) before)
      (copyDecodedSlice temporary source destination) := by
  refine failIf_maintains.bind fun _ => Maintains.forLoop _ _ fun planeIndex _ _ => ?_
  by_cases hsizes : (planeWindow source planeIndex).width ≠ (planeWindow destination planeIndex).width ∨
      (planeWindow source planeIndex).height ≠ (planeWindow destination planeIndex).height
  · unfold copyPlane
    rw [failIf_of hsizes]
    exact Maintains.throws _
  · unfold copyPlane
    rw [failIf_of_not hsizes]
    rw [not_or, not_not] at hsizes
    exact Maintains.forLoop _ _ fun y _ _ =>
      copyRow_confined temporary source destination before y hsizes.1

end Copying

namespace SliceExecutor

variable {stream : StreamParameters} {output : FrameView} {slice : SliceDescriptor}
  {windows : List PlaneWindow} {before : FrameMemory}

/-- The windows of a placed slice lie in the samples of its planes. -/
theorem windowBytes_samples (hplaced : Placed stream slice)
    (hwindows : SliceOutputWindow.validate stream output slice = .ok windows) {buffer : Nat}
    {a : Int} (h : windowBytes windows buffer a) : SampleBytes stream output buffer a := by
  obtain ⟨planeIndex, hlength, hbytes⟩ := h
  have hplane := SliceOutputWindow.validate_length hwindows ▸ hlength
  exact ⟨planeIndex, hplane, windowBytes_inPlane hplaced hwindows hplane hbytes⟩

theorem decodeDirectly_confined {state : SliceState} {memory : FrameMemory}
    (hvalid : FrameValidator.validateOutput stream output = .ok ()) (hplaced : Placed stream slice)
    (hwindows : SliceOutputWindow.validate stream output slice = .ok windows)
    (hsized : state.LinesSized stream.codedPlaneCount (sliceWidth stream slice)) :
    Patch.SameOutside (windowBytes windows) memory
      (Mirror.finalState (decodeDirectly stream windows slice { memory, state })).memory := by
  have hshape := outputShape (FrameValidator.validateOutput_format hvalid) hwindows
  have hstores := SliceDecoder.decode_stores slice hshape (rgbAlike hvalid hplaced) false
    { state } ⟨hsized, fun _ hmem => absurd hmem List.not_mem_nil⟩
  have hwrites (progress : SliceProgress)
      (h : ProgressInside stream (sliceWidth stream slice) (sliceHeight stream slice) progress) :
      Patch.SameOutside (windowBytes windows) memory
        (applyStores windows progress.stores memory) := by
    rw [applyStores_eq]
    exact (Patch.SameOutside.refl _ memory).write (storesPatch_within hshape h.2)
  unfold decodeDirectly
  cases hdecode : SliceDecoder.decode stream false slice windows { state } with
  | ok u progress =>
    rw [hdecode] at hstores
    exact hwrites progress hstores
  | error status progress =>
    rw [hdecode] at hstores
    exact hwrites progress hstores

theorem decodeWithCandidates_confined {state : SliceState} {memory : FrameMemory} :
    Patch.SameOutside (windowBytes windows) memory
      (Mirror.finalState (decodeWithCandidates stream output windows slice
        { memory, state })).memory := by
  have hmaintains : Maintains
      (fun task : SliceTask => Patch.SameOutside (windowBytes windows) memory task.memory)
      (decodeWithCandidates stream output windows slice) := by
    refine (Maintains.ofExcept _).bind fun _ => (Maintains.ofExcept _).bind fun temporaryWindows => ?_
    cases makeGolombRiceContentCandidates stream slice with
    | nil => exact Maintains.pure
    | cons candidate others =>
      refine Maintains.view fun task htask => (Maintains.ofExcept _).bind fun decoded => ?_
      have hcopy := copyDecodedSlice_confined decoded.2 temporaryWindows windows memory
        task.memory htask
      dsimp only
      cases hcopied : copyDecodedSlice decoded.2 temporaryWindows windows task.memory with
      | ok u memory' =>
        rw [hcopied] at hcopy
        exact Maintains.replace hcopy
      | error status memory' =>
        rw [hcopied] at hcopy
        refine Maintains.bind (Maintains.replace ?_) fun _ => Maintains.throws status
        exact hcopy
  exact hmaintains.finalState (Patch.SameOutside.refl _ memory)

/-- A slice writes to its windows, also where it fails. -/
theorem decodeSlice_confined {state : SliceState} {memory : FrameMemory}
    (hvalid : FrameValidator.validateOutput stream output = .ok ())
    (hplaced : Placed stream slice) :
    Patch.SameOutside (SampleBytes stream output) memory
      (Mirror.finalState (decodeSlice stream output slice { memory, state })).memory := by
  unfold decodeSlice
  cases hwindows : SliceOutputWindow.validate stream output slice with
  | error status => exact Patch.SameOutside.refl _ memory
  | ok windows =>
    rw [Mirror.bind_ok (Mirror.ofExcept_ok_iff.mpr ⟨rfl, rfl⟩), Mirror.get_bind]
    cases hreset : state.reset stream windows with
    | error status => exact Patch.SameOutside.refl _ memory
    | ok reset =>
      have hsized := reset_sized
        (outputShape (FrameValidator.validateOutput_format hvalid) hwindows) hreset
      refine Patch.SameOutside.mono ?_ fun _ _ => windowBytes_samples hplaced hwindows
      by_cases htry : canTryGolombRiceReadAheadBoundary stream slice = true
      · simp only [htry]
        exact decodeWithCandidates_confined
      · simp only [htry]
        exact decodeDirectly_confined hvalid hplaced hwindows hsized

section Frame

variable {slices : List SliceDescriptor} {memory : FrameMemory}

theorem decodeAt_confined (hvalid : FrameValidator.validateOutput stream output = .ok ())
    (hplaced : ∀ slice ∈ slices, Placed stream slice) {position : Nat}
    (hposition : position < slices.length) :
    Maintains (fun progress => Patch.SameOutside (SampleBytes stream output) memory progress.memory)
      (decodeAt stream output slices position) := by
  intro progress hprogress
  have hslice := @decodeSlice_confined stream output (sliceAt slices position)
    (progress.states.getD position {}) progress.memory hvalid
    (hplaced _ (sliceAt_mem hposition))
  unfold decodeAt
  cases hdecode : decodeSlice stream output (sliceAt slices position)
      { memory := progress.memory, state := progress.states.getD position {} } with
  | ok u task =>
    rw [hdecode] at hslice
    simp only [hdecode]
    exact Patch.SameOutside.trans hprogress hslice
  | error status task =>
    rw [hdecode] at hslice
    simp only [hdecode]
    exact Patch.SameOutside.trans hprogress hslice

/-- Every task keeps to the samples, in whatever order they complete. -/
theorem runTasks_confined (hvalid : FrameValidator.validateOutput stream output = .ok ())
    (hplaced : ∀ slice ∈ slices, Placed stream slice) {order : List Nat}
    (horder : ∀ position ∈ order, position < slices.length) {progress : FrameProgress}
    (hprogress : Patch.SameOutside (SampleBytes stream output) memory progress.memory) :
    Patch.SameOutside (SampleBytes stream output) memory
      (runTasks stream output slices order progress).2.memory := by
  induction order generalizing progress with
  | nil => exact hprogress
  | cons position order ih =>
    obtain ⟨hposition, hrest⟩ := List.forall_mem_cons.mp horder
    have hends := decodeAt_confined hvalid hplaced hposition progress hprogress
    unfold runTasks
    cases hdecode : decodeAt stream output slices position progress with
    | ok u next =>
      rw [hdecode] at hends
      exact ih hrest hends
    | error status next =>
      rw [hdecode] at hends
      exact ih hrest hends

theorem decodeSlices_confined (hvalid : FrameValidator.validateOutput stream output = .ok ())
    (hplaced : ∀ slice ∈ slices, Placed stream slice) {threadCount : Nat} {order : List Nat}
    (horder : 1 < threadCount →
      CompletionOrder (workerCountFor threadCount slices.length) 0 slices.length order) :
    Maintains (fun progress => Patch.SameOutside (SampleBytes stream output) memory progress.memory)
      (decodeSlices stream threadCount order output slices) := by
  unfold decodeSlices
  by_cases hparallel : isParallel stream threadCount slices = true
  · rw [if_pos hparallel]
    intro progress hprogress
    have hthreads : 1 < threadCount := by
      simp only [isParallel, Bool.and_eq_true, decide_eq_true_eq] at hparallel
      exact hparallel.1.1
    have hbelow : ∀ position ∈ order, position < slices.length := by
      intro position hmem
      have hrange := (horder hthreads).perm.mem_iff.mp hmem
      rw [List.mem_range'_1] at hrange
      omega
    have htasks := runTasks_confined hvalid hplaced hbelow hprogress
    unfold decodeParallel
    dsimp only
    cases firstError slices.length (runTasks stream output slices order progress).1 with
    | some status => exact htasks
    | none => exact htasks
  · rw [if_neg hparallel]
    refine Maintains.forLoop _ _ fun position _ hposition => ?_
    rw [Nat.zero_add] at hposition
    exact decodeAt_confined hvalid hplaced hposition

theorem decode_confined (hvalid : FrameValidator.validateOutput stream output = .ok ())
    (hplaced : ∀ slice ∈ slices, Placed stream slice) {threadCount : Nat} {order : List Nat}
    (horder : 1 < threadCount →
      CompletionOrder (workerCountFor threadCount slices.length) 0 slices.length order)
    (keyframe : Bool) :
    Maintains
      (fun execution => Patch.SameOutside (SampleBytes stream output) memory execution.memory)
      (decode stream threadCount order output slices keyframe) := by
  refine (Maintains.ofExcept _).bind fun _ => Maintains.view fun execution hexecution =>
    (Maintains.ofExcept _).bind fun states => ?_
  have hends := decodeSlices_confined hvalid hplaced horder
    { memory := execution.memory, states } hexecution
  cases hslices : decodeSlices stream threadCount order output slices
      { memory := execution.memory, states } with
  | ok u progress =>
    rw [hslices] at hends
    exact Maintains.replace hends
  | error status progress =>
    rw [hslices] at hends
    exact Maintains.bind (Maintains.replace hends) fun _ => Maintains.throws status

end Frame

end SliceExecutor

namespace HistoryCall

variable (hardwareConcurrency : Nat)

/-- The slice tasks of a frame complete in a possible order. -/
def Completes (run : Decoder.Run) : HistoryCall → Prop
  | decodeFrame payload _ order => run.decoder.MayComplete hardwareConcurrency payload order
  | _ => True

/-- The bytes that a call may write: the samples of the output of a frame, as the stream has
them that the decoder is configured for at that time. -/
def MayWrite (run : Decoder.Run) (call : HistoryCall) (buffer : Nat) (a : Int) : Prop :=
  match call with
  | decodeFrame _ output _ =>
    ∃ stream, run.decoder.stream = some stream ∧ SampleBytes stream output buffer a
  | _ => False

variable {hardwareConcurrency} {run : Decoder.Run}

theorem readFrame_stream {decoder : Decoder} {payload : Bytes} {stream : StreamParameters}
    {frame : FrameDecodeContext} (h : decoder.readFrame payload = .ok (stream, frame)) :
    decoder.stream = some stream := by
  unfold Decoder.readFrame at h
  cases hstream : decoder.stream with
  | none =>
    rw [hstream] at h
    cases h
  | some configured =>
    rw [hstream] at h
    simp only [except_bind_ok, exists_unit] at h
    obtain ⟨-, -, parsed, -, hpair⟩ := h
    rw [(Prod.mk.inj (Except.ok.inj hpair)).1]

theorem decodeFrame_confined {payload : Bytes} {output : FrameView} {order : List Nat}
    (horder : run.decoder.MayComplete hardwareConcurrency payload order) :
    Patch.SameOutside ((decodeFrame payload output order).MayWrite run) run.memory
      (Mirror.finalState (Decoder.decodeFrame hardwareConcurrency order payload output run)).memory := by
  unfold Decoder.decodeFrame
  rw [Mirror.get_bind]
  cases hread : run.decoder.readFrame payload with
  | error status => exact Patch.SameOutside.refl _ _
  | ok read =>
    obtain ⟨stream, frame⟩ := read
    rw [Mirror.bind_ok (Mirror.ofExcept_ok_iff.mpr ⟨rfl, rfl⟩)]
    dsimp only
    cases hvalid : FrameValidator.validateOutput stream output with
    | error status => exact Patch.SameOutside.refl _ _
    | ok _ =>
      rw [Mirror.bind_ok (Mirror.ofExcept_ok_iff.mpr ⟨rfl, rfl⟩)]
      have hsame : Patch.SameOutside (SampleBytes stream output) run.memory run.memory :=
        Patch.SameOutside.refl _ _
      have hends := SliceExecutor.decode_confined hvalid (Decoder.readFrame_covers hread).placed
        (horder stream frame hread) frame.keyframe
        { executor := run.decoder.executor, memory := run.memory } hsame
      have hregion (buffer : Nat) (a : Int) (h : SampleBytes stream output buffer a) :
          (decodeFrame payload output order).MayWrite run buffer a :=
        ⟨stream, readFrame_stream hread, h⟩
      cases hdecode : SliceExecutor.decode stream
          (normalizeThreadCount hardwareConcurrency run.decoder.options.threadCount) order output
          frame.slices frame.keyframe
          { executor := run.decoder.executor, memory := run.memory } with
      | ok u execution =>
        rw [hdecode] at hends
        exact Patch.SameOutside.mono hends hregion
      | error status execution =>
        rw [hdecode] at hends
        exact Patch.SameOutside.mono hends hregion

/-- What one call leaves as it is. -/
theorem perform_confined {call : HistoryCall} (hcall : call.Completes hardwareConcurrency run) :
    Patch.SameOutside (call.MayWrite run) run.memory
      (Mirror.finalState (call.perform hardwareConcurrency run)).memory := by
  cases call with
  | decodeFrame payload output order => exact decodeFrame_confined hcall
  | inspectFrame payload =>
    have hmaintains : Maintains (fun other : Decoder.Run => other.memory = run.memory)
        ((inspectFrame payload).perform hardwareConcurrency) :=
      Maintains.view fun _ _ => (Maintains.ofExcept _).bind fun _ => Maintains.pure
    have hmemory := hmaintains.finalState (e := run) rfl
    exact fun buffer a _ => congrFun (congrFun hmemory buffer) a
  | configure record =>
    unfold perform
    dsimp only
    cases Decoder.configure record run.decoder <;> exact Patch.SameOutside.refl _ _
  | bootstrapLegacyFrame payload =>
    unfold perform
    dsimp only
    cases Decoder.bootstrapLegacyFrame payload run.decoder <;> exact Patch.SameOutside.refl _ _

end HistoryCall

/-- Calls in any number, with any payloads and records, write nothing but the samples of the
outputs they are given, whether they succeed or fail. -/
theorem decoder_writes_samples {hardwareConcurrency : Nat} {start : Decoder.Run}
    {calls : List HistoryCall}
    (hcalls : ∀ earlier call later, calls = earlier ++ call :: later → call.Completes
      hardwareConcurrency (Observer.after (HistoryCall.perform hardwareConcurrency) earlier start))
    {buffer : Nat} {a : Int}
    (houtside : ∀ earlier call later, calls = earlier ++ call :: later → ¬call.MayWrite
      (Observer.after (HistoryCall.perform hardwareConcurrency) earlier start) buffer a) :
    (Observer.after (HistoryCall.perform hardwareConcurrency) calls start).memory buffer a =
      start.memory buffer a := by
  induction calls generalizing start with
  | nil => rfl
  | cons call calls ih =>
    have hfirst : (Mirror.finalState (call.perform hardwareConcurrency start)).memory buffer a =
        start.memory buffer a := HistoryCall.perform_confined (hcalls [] call calls rfl) buffer a
      (houtside [] call calls rfl)
    rw [Observer.after_cons, ← hfirst]
    refine ih (fun earlier next later heq => ?_) fun earlier next later heq => ?_
    · exact hcalls (call :: earlier) next later (congrArg (call :: ·) heq)
    · exact houtside (call :: earlier) next later (congrArg (call :: ·) heq)

/-- The halves with room for two more samples in the row. -/
def paddedHalves : FrameView where
  planes := some [{
    hasData := true
    info := { makePlaneInfo halvesStream 0 with strideBytes := 4 } }]
  planeCount := 1

/-- A frame that is cut off, and the whole frame. -/
def halvesAgain : List HistoryCall :=
  [.decodeFrame (halvesKeyframe.take 11) paddedHalves [], .decodeFrame halvesKeyframe paddedHalves []]

def serialStart : Decoder.Run where
  decoder := { options := { threadCount := 1 }, stream := some halvesStream }
  memory := SliceExecutor.emptyMemory

theorem serialStart_mayComplete (payload : Bytes) :
    serialStart.decoder.MayComplete 8 payload [] :=
  fun _ _ _ hparallel => absurd hparallel (by decide)

/-- One thread decodes both frames, for one stream. -/
theorem halvesAgain_at {earlier later : List HistoryCall} {call : HistoryCall}
    (h : halvesAgain = earlier ++ call :: later) :
    (∃ payload, call = .decodeFrame payload paddedHalves []) ∧ ∃ executor,
      (Observer.after (HistoryCall.perform 8) earlier serialStart).decoder =
        { serialStart.decoder with executor } := by
  have hframes (other : HistoryCall) (hmem : other ∈ halvesAgain) :
      ∃ payload, other = .decodeFrame payload paddedHalves [] := by
    simp only [halvesAgain, List.mem_cons, List.not_mem_nil, or_false] at hmem
    rcases hmem with rfl | rfl
    · exact ⟨_, rfl⟩
    · exact ⟨_, rfl⟩
  rw [h] at hframes
  refine ⟨hframes call (List.mem_append_right _ List.mem_cons_self), _,
    @HistoryCall.after_state 8 serialStart.decoder halvesStream rfl _ (fun other hother => ?_) _ _
      rfl⟩
  obtain ⟨payload, rfl⟩ := hframes other (List.mem_append_left _ hother)
  exact serialStart_mayComplete payload

/-- The byte behind the row is never written. -/
theorem decoder_writes_samples_padded :
    (Observer.after (HistoryCall.perform 8) halvesAgain serialStart).memory 0 2 = 0 := by
  refine decoder_writes_samples (fun earlier call later hcalls => ?_)
    fun earlier call later hcalls => ?_
  · obtain ⟨⟨payload, rfl⟩, executor, hdecoder⟩ := halvesAgain_at hcalls
    unfold HistoryCall.Completes
    dsimp only
    rw [hdecoder]
    exact serialStart_mayComplete payload
  · obtain ⟨⟨payload, rfl⟩, executor, hdecoder⟩ := halvesAgain_at hcalls
    rintro ⟨stream, hstream, planeIndex, hplane, -, x, hx, y, hy, -, hhigh⟩
    rw [hdecoder] at hstream
    obtain rfl : halvesStream = stream := Option.some.inj hstream
    have hcount : halvesStream.codedPlaneCount = 1 := by decide
    obtain rfl : planeIndex = 0 := by omega
    have hwidth : (halvesStream.planeWidth 0).toNat = 2 := by decide
    have hheight : (halvesStream.planeHeight 0).toNat = 1 := by decide
    have hbytes : bytesPerSample (paddedHalves.plane 0).info.sampleFormat = 1 := by decide
    have hstride : (paddedHalves.plane 0).info.strideBytes.toInt = 4 := by decide
    have hstart : (paddedHalves.plane 0).start = 0 := by decide
    rw [hbytes, hstride, hstart] at hhigh
    dsimp only at hhigh
    omega

end Mffv1
