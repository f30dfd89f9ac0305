import Mffv1.SliceReference
import Mffv1.SliceSchedule

/-!
# Frames in any schedule

The slices of a parsed frame cover the raster, so that the executor decodes them to the
same frame and the same states with any number of threads.
-/
namespace Mffv1

section Parsing

variable {stream : StreamParameters} {payload : Bytes} {frame : FrameDecodeContext}

theorem SliceHeaderParser.readDescriptor_placed (descriptor : SliceDescriptor) :
    Mirror.Returns (readDescriptor stream descriptor) (Placed stream) := by
  intro reader slice after h
  simp only [readDescriptor, Mirror.get_bind, Mirror.bind_ok_iff] at h
  obtain ⟨values, middle, -, h⟩ := h
  cases hraster : applyRaster stream values descriptor with
  | error status =>
    rw [hraster] at h
    cases h
  | ok placed =>
    rw [hraster] at h
    obtain ⟨rfl, -⟩ := EStateM.Result.ok.inj h
    exact { applyRaster_placed hraster with }

namespace FrameParser

theorem parseLocatedSlice_placed {sliceIndex : Nat} {keyframe : Bool} {located : SliceDescriptor}
    {parsed : Bool × SliceDescriptor}
    (h : (parseLocatedSlice stream sliceIndex keyframe located).valueOn {} = .ok parsed) :
    Placed stream parsed.2 := by
  obtain ⟨reader, hrun⟩ := valueOn_ok h
  obtain ⟨-, start, -, hrun⟩ := Mirror.bind_ok_iff.mp hrun
  split at hrun
  all_goals
    simp only [Mirror.bind_ok_iff, Mirror.adaptExcept_ok_iff, Mirror.get_bind,
      failIf_call_ok_iff, Mirror.pure_apply, EStateM.Result.ok.injEq] at hrun
    obtain ⟨_, _, -, slice, _, hslice, _, _, -, rfl, -⟩ := hrun
    exact { SliceHeaderParser.readDescriptor_placed _ _ _ _ hslice with }

theorem parseLocatedSlices_placed {located : List SliceDescriptor} {sliceIndex : Nat}
    {keyframe : Bool} {parsed : Bool × List SliceDescriptor}
    (h : parseLocatedSlices stream located sliceIndex keyframe = .ok parsed) :
    ∀ slice ∈ parsed.2, Placed stream slice := by
  induction located generalizing sliceIndex keyframe parsed with
  | nil =>
    obtain rfl := Except.ok.inj h
    exact fun slice hslice => absurd hslice List.not_mem_nil
  | cons first located ih =>
    simp only [parseLocatedSlices, except_bind_ok] at h
    obtain ⟨slice, hslice, rest, hrest, hparsed⟩ := h
    obtain rfl := Except.ok.inj hparsed
    exact List.forall_mem_cons.mpr ⟨parseLocatedSlice_placed hslice, ih hrest⟩

theorem parseLocatedRangeSlices_covers {verifyCrc : Bool}
    (h : parseLocatedRangeSlices stream verifyCrc payload = .ok frame) :
    SliceExecutor.Covers stream frame.slices := by
  simp only [parseLocatedRangeSlices, except_bind_ok, exists_unit] at h
  obtain ⟨_, -, _, -, _, hslices, hcoverage, hframe⟩ := h
  obtain rfl := Except.ok.inj hframe
  exact ⟨parseLocatedSlices_placed hslices, hcoverage⟩

theorem readLegacySlices_covers {usesLegacyV0Arithmetic : Bool} {fuel : Nat}
    {slices : List SliceDescriptor} (hplaced : ∀ slice ∈ slices, Placed stream slice) :
    Mirror.Returns (readLegacySlices stream payload usesLegacyV0Arithmetic fuel slices)
      (SliceExecutor.Covers stream) := by
  induction fuel generalizing slices with
  | zero =>
    intro reader covered after h
    simp only [readLegacySlices, Mirror.bind_ok_iff, Mirror.ofExcept_ok_iff, Mirror.pure_apply,
      EStateM.Result.ok.injEq] at h
    obtain ⟨_, _, ⟨hcoverage, -⟩, rfl, -⟩ := h
    exact ⟨hplaced, hcoverage⟩
  | succ fuel ih =>
    intro reader covered after h
    simp only [readLegacySlices, Mirror.bind_ok_iff] at h
    obtain ⟨slice, middle, hslice, h⟩ := h
    have hplaced' : ∀ other ∈ slices ++ [slice], Placed stream other := by
      simp only [readLegacySlice, Mirror.bind_ok_iff, Mirror.adaptExcept_ok_iff,
        failIf_call_ok_iff, Mirror.pure_apply, EStateM.Result.ok.injEq] at hslice
      obtain ⟨read, _, hread, _, _, -, rfl, -⟩ := hslice
      intro other hother
      rcases List.mem_append.mp hother with hother | hother
      · exact hplaced other hother
      · obtain rfl := List.mem_singleton.mp hother
        exact { SliceHeaderParser.readDescriptor_placed _ _ _ _ hread with }
    cases hcoverage : validateSliceRasterCoverage stream (slices ++ [slice]) with
    | ok _ =>
      rw [hcoverage] at h
      obtain ⟨rfl, -⟩ := EStateM.Result.ok.inj h
      exact ⟨hplaced', hcoverage⟩
    | error status =>
      rw [hcoverage] at h
      simp only [Mirror.bind_ok_iff, failIf_call_ok_iff] at h
      obtain ⟨_, _, -, h⟩ := h
      exact ih hplaced' _ _ _ h

theorem parseLegacyRangeSlicesAfterKeyframe_covers {reader : RangeCoder}
    {keyframe usesLegacyV0Arithmetic : Bool}
    (h : parseLegacyRangeSlicesAfterKeyframe stream payload reader keyframe
      usesLegacyV0Arithmetic = .ok frame) : SliceExecutor.Covers stream frame.slices := by
  simp only [parseLegacyRangeSlicesAfterKeyframe, except_bind_ok] at h
  obtain ⟨_, -, slices, hslices, hframe⟩ := h
  obtain rfl := Except.ok.inj hframe
  obtain ⟨_, hrun⟩ := valueOn_ok hslices
  exact readLegacySlices_covers (fun _ hslice => absurd hslice List.not_mem_nil) _ _ _ hrun

theorem mapError_ok_iff {α : Type} {x : Except Error α} {f : Error → Error} {a : α} :
    x.mapError f = .ok a ↔ x = .ok a := by
  cases x <;> simp [Except.mapError]

/-- The slices of a parsed frame cover its raster. -/
theorem parse_covers {verifyCrc : Bool} (h : parse stream verifyCrc payload = .ok frame) :
    SliceExecutor.Covers stream frame.slices := by
  simp only [parse, except_bind_ok] at h
  obtain ⟨-, -, h⟩ := h
  split at h
  · exact parseLocatedRangeSlices_covers h
  · split at h
    · simp only [parseLegacySlices, except_bind_ok] at h
      obtain ⟨_, -, h⟩ := h
      split at h
      · exact parseLegacyRangeSlicesAfterKeyframe_covers h
      · exact parseLegacyRangeSlicesAfterKeyframe_covers h
    · simp only [parseLegacySingleSlice, except_bind_ok, mapError_ok_iff] at h
      obtain ⟨-, -, _, -, _, -, placed, hplaced, _, hcoverage, hframe⟩ := h
      obtain rfl := Except.ok.inj hframe
      refine ⟨fun slice hslice => ?_, hcoverage⟩
      obtain rfl := List.mem_singleton.mp hslice
      exact { applyRaster_placed hplaced with }

end FrameParser

end Parsing

namespace SliceExecutor

section Executions

variable {stream : StreamParameters} {output : FrameView} {slices : List SliceDescriptor}
  {executor : SliceExecutor} {keyframe : Bool} {states : List SliceState}

/-- A frame that covers its raster passes the check of parallel decoding. -/
theorem validateSlices_of_covered (hcovered : validateSliceRasterCoverage stream slices = .ok ())
    (threadCount : Nat) :
    validateSlices stream threadCount output slices = validateEach stream output slices := by
  have hlayout : validateParallelSliceLayout stream slices = .ok () := by
    unfold validateParallelSliceLayout
    split
    · rfl
    · exact hcovered
  unfold validateSlices
  rw [hlayout]
  split
  · rfl
  · rfl

theorem matchRanks_length {ranks : List (Nat × Nat)} {before : List SliceState}
    (h : matchRanks executor slices ranks before = .ok states) : states.length = before.length := by
  by_cases hmatches : ∀ rank ∈ ranks, RankMatches executor slices rank
  · rw [matchRanks_of_matches before hmatches] at h
    rw [← Except.ok.inj h, Ranks.foldl_set_length]
  · obtain ⟨status, hstatus, -⟩ := matchRanks_of_mismatch before hmatches
    rw [hstatus] at h
    cases h

theorem workingStates_length (h : executor.workingStates slices keyframe = .ok states) :
    states.length = slices.length := by
  unfold workingStates at h
  split at h
  · rw [← Except.ok.inj h, List.length_replicate]
  · simp only [referenceStates, except_bind_ok, exists_unit, failIf_ok_iff] at h
    rw [matchRanks_length h.2.2.2, List.length_replicate]

theorem CompletionOrder.tasks {threadCount : Nat} {order : List Nat}
    (horder : 1 < threadCount →
      CompletionOrder (workerCountFor threadCount slices.length) 0 slices.length order)
    (hparallel : isParallel stream threadCount slices = true) :
    order.Perm (List.range slices.length) := by
  simp only [isParallel, Bool.and_eq_true, decide_eq_true_iff] at hparallel
  rw [List.range_eq_range']
  exact (horder hparallel.1.1).perm

/-- Where the planes do not share bytes, the slices can be written one by one in payload order. -/
theorem writes_of_order (hcovers : Covers stream slices)
    (hvalid : FrameValidator.validateOutput stream output = .ok ())
    (hplanes : PlanesApart stream output) {threadCount : Nat} {order : List Nat}
    (horder : 1 < threadCount →
      CompletionOrder (workerCountFor threadCount slices.length) 0 slices.length order)
    (states : List SliceState) (memory : FrameMemory) :
    Patch.applyAll ((taskOrder stream threadCount order slices).map
        (patchAt stream output slices states)) memory =
      Patch.applyAll ((List.range slices.length).map (patchAt stream output slices states))
        memory :=
  (Patch.applyAll_perm (((taskOrder_perm (CompletionOrder.tasks horder)).symm).map _)
    (patches_disjoint hcovers hvalid hplanes) memory).symm

/-- An execution by its validation, its working states and the slices. -/
theorem decode_eq (threadCount : Nat) (order : List Nat) (memory : FrameMemory) :
    decode stream threadCount order output slices keyframe { executor, memory } =
      match validateSlices stream threadCount output slices with
      | .error status => .error status { executor, memory }
      | .ok _ => match executor.workingStates slices keyframe with
        | .error status => .error status { executor, memory }
        | .ok states =>
          match decodeSlices stream threadCount order output slices { memory, states } with
          | .ok _ progress => .ok ()
            { executor := { sliceStates := progress.states, sliceLayouts := slices.map sliceLayout }
              memory := progress.memory }
          | .error status progress => .error status { executor, memory := progress.memory } := by
  unfold decode
  cases validateSlices stream threadCount output slices with
  | error status => rfl
  | ok _ =>
    cases hstates : executor.workingStates slices keyframe with
    | error status =>
      simp only [Mirror.bind_ok (Mirror.ofExcept_ok_iff.mpr ⟨rfl, rfl⟩), Mirror.get_bind, hstates]
      rfl
    | ok states =>
      simp only [Mirror.bind_ok (Mirror.ofExcept_ok_iff.mpr ⟨rfl, rfl⟩), Mirror.get_bind, hstates]
      cases decodeSlices stream threadCount order output slices { memory, states } with
      | ok value progress => rfl
      | error status progress => rfl

end Executions

end SliceExecutor

/-- The same status, and the same states where it is Ok, with the same output if the planes
are apart; what a failed frame leaves in the output depends on the schedule. -/
def SliceExecutor.Agrees (stream : StreamParameters) (output : FrameView)
    (serial other : EStateM.Result Error SliceExecutor.Execution Unit) : Prop :=
  match serial with
  | .ok _ execution => ∃ memory, other = .ok () { execution with memory } ∧
      (PlanesApart stream output → memory = execution.memory)
  | .error status execution => ∃ memory, other = .error status { execution with memory }

/-- Decoding does not depend on the schedule of the slices: with any number of threads and
in any order of completion a parsed frame comes to what serial decoding comes to, but for
the bytes that planes share. -/
theorem decode_independent_of_schedule {stream : StreamParameters} {verifyCrc : Bool}
    {payload : Bytes} {frame : FrameDecodeContext} {output : FrameView}
    (hparse : FrameParser.parse stream verifyCrc payload = .ok frame)
    (hvalid : FrameValidator.validateOutput stream output = .ok ()) {threadCount : Nat}
    {order : List Nat}
    (horder : SliceExecutor.CompletionOrder
      (SliceExecutor.workerCountFor threadCount frame.slices.length) 0 frame.slices.length order)
    (execution : SliceExecutor.Execution) :
    SliceExecutor.Agrees stream output
      (SliceExecutor.decode stream 1 [] output frame.slices frame.keyframe execution)
      (SliceExecutor.decode stream threadCount order output frame.slices frame.keyframe
        execution) := by
  have hcovers := FrameParser.parse_covers hparse
  obtain ⟨executor, memory⟩ := execution
  rw [SliceExecutor.decode_eq, SliceExecutor.decode_eq,
    SliceExecutor.validateSlices_of_covered hcovers.covered,
    SliceExecutor.validateSlices_of_covered hcovers.covered]
  cases SliceExecutor.validateEach stream output frame.slices with
  | error status => exact ⟨memory, rfl⟩
  | ok _ =>
    cases hstates : executor.workingStates frame.slices frame.keyframe with
    | error status => exact ⟨memory, rfl⟩
    | ok states =>
      have hlength := SliceExecutor.workingStates_length hstates
      have hone (h : 1 < 1) : SliceExecutor.CompletionOrder
          (SliceExecutor.workerCountFor 1 frame.slices.length) 0 frame.slices.length [] :=
        absurd h (Nat.lt_irrefl 1)
      have hserial := @SliceExecutor.decodeSlices_of_order stream output frame.slices states 1 []
        hlength (SliceExecutor.CompletionOrder.tasks hone) memory
      have hany := @SliceExecutor.decodeSlices_of_order stream output frame.slices states threadCount
        order hlength (SliceExecutor.CompletionOrder.tasks fun _ => horder) memory
      cases hfailure : (List.range frame.slices.length).findSome?
          (SliceExecutor.failureAt stream output frame.slices states) with
      | none =>
        rw [hfailure] at hserial hany
        simp only [hserial, hany]
        refine ⟨_, rfl, fun hplanes => ?_⟩
        rw [SliceExecutor.writes_of_order hcovers hvalid hplanes (fun _ => horder),
          SliceExecutor.writes_of_order hcovers hvalid hplanes hone]
      | some status =>
        rw [hfailure] at hserial hany
        obtain ⟨_, hserial⟩ := hserial
        obtain ⟨progress, hany⟩ := hany
        simp only [hserial, hany]
        exact ⟨progress.memory, rfl⟩

/-- A frame of two slices, side by side. -/
def halvesStream : StreamParameters :=
  { width := 2, height := 1, numHSlices := 2, chromaPlanes := false,
    quantTableSets := [makeZeroQuantTableSet] }

def halvesKeyframe : Bytes := [254, 120, 115, 0, 0, 3, 63, 116, 29, 0, 0, 3]

def halvesOutput : FrameView :=
  { planes := some [{ hasData := true, info := makePlaneInfo halvesStream 0 }], planeCount := 1 }

def halvesFrame : FrameDecodeContext :=
  (FrameParser.parse halvesStream true halvesKeyframe).toOption.getD {}

/-- The right slice completes first. -/
theorem halves_completion :
    SliceExecutor.CompletionOrder (SliceExecutor.workerCountFor 2 2) 0 2 [1, 0] := by
  have horder : [1, 0].Perm (List.range' 0 (min 2 2)) := List.Perm.swap 0 1 []
  exact .batch Nat.two_pos horder (.done 2)

theorem halves_decoded : ∃ frame, FrameParser.parse halvesStream true halvesKeyframe = .ok frame ∧
    frame.slices.length = 2 ∧
    Mirror.succeeded (SliceExecutor.decode halvesStream 1 [] halvesOutput frame.slices frame.keyframe
      { memory := SliceExecutor.emptyMemory }) = true :=
  ⟨halvesFrame, by decide +kernel, by decide +kernel, by decide +kernel⟩

theorem decode_independent_of_schedule_halves : ∃ frame execution,
    FrameParser.parse halvesStream true halvesKeyframe = .ok frame ∧
      SliceExecutor.decode halvesStream 1 [] halvesOutput frame.slices frame.keyframe
        { memory := SliceExecutor.emptyMemory } = .ok () execution ∧
      SliceExecutor.decode halvesStream 2 [1, 0] halvesOutput frame.slices frame.keyframe
        { memory := SliceExecutor.emptyMemory } = .ok () execution := by
  obtain ⟨frame, hparse, hcount, hsucceeded⟩ := halves_decoded
  have hvalid : FrameValidator.validateOutput halvesStream halvesOutput = .ok () := by decide
  have horder : SliceExecutor.CompletionOrder
      (SliceExecutor.workerCountFor 2 frame.slices.length) 0 frame.slices.length [1, 0] := by
    rw [hcount]
    exact halves_completion
  have hserial := Mirror.eq_ok_of_succeeded hsucceeded
  have hany := decode_independent_of_schedule hparse hvalid horder
    { memory := SliceExecutor.emptyMemory }
  rw [hserial] at hany
  obtain ⟨memory, hany, hmemory⟩ := hany
  have hsame := hmemory (PlanesApart.of_single rfl)
  subst hsame
  exact ⟨frame, _, hparse, hserial, hany⟩

/-- Three planes in one buffer: the second sample of the first plane is the first sample of the
second one. -/
def sharedStream : StreamParameters :=
  { width := 2, height := 1, numHSlices := 2, quantTableSets := [makeZeroQuantTableSet] }

def sharedOutput : FrameView where
  planes := some ([0, 1, 3].mapIdx fun planeIndex start =>
    { hasData := true, start, info := makePlaneInfo sharedStream planeIndex })
  planeCount := 3

def sharedFrame : FrameDecodeContext :=
  (FrameParser.parse sharedStream true halvesKeyframe).toOption.getD {}

/-- A byte behind a frame that is decoded. -/
def SliceExecutor.byteBehind (result : EStateM.Result Error SliceExecutor.Execution Unit)
    (buffer : Nat) (address : Int) : Option UInt8 :=
  match result with
  | .ok _ execution => some (execution.memory buffer address)
  | .error _ _ => none

theorem SliceExecutor.byteBehind_some
    {result : EStateM.Result Error SliceExecutor.Execution Unit} {buffer : Nat} {address : Int}
    {byte : UInt8} (h : SliceExecutor.byteBehind result buffer address = some byte) :
    ∃ execution, result = .ok () execution ∧ execution.memory buffer address = byte := by
  cases result with
  | ok u execution => exact ⟨execution, rfl, Option.some.inj h⟩
  | error status execution => cases h

/-- Where planes share a byte, it is left by the slice that completes last. -/
theorem shared_byte_follows_order : ∃ frame execution execution',
    FrameParser.parse sharedStream true halvesKeyframe = .ok frame ∧
      FrameValidator.validateOutput sharedStream sharedOutput = .ok () ∧
      SliceExecutor.CompletionOrder (SliceExecutor.workerCountFor 2 frame.slices.length) 0
        frame.slices.length [1, 0] ∧
      SliceExecutor.decode sharedStream 1 [] sharedOutput frame.slices frame.keyframe
        { memory := SliceExecutor.emptyMemory } = .ok () execution ∧
      SliceExecutor.decode sharedStream 2 [1, 0] sharedOutput frame.slices frame.keyframe
        { memory := SliceExecutor.emptyMemory } = .ok () execution' ∧
      execution.memory 0 1 ≠ execution'.memory 0 1 := by
  have hcount : sharedFrame.slices.length = 2 := by decide +kernel
  have hright : SliceExecutor.byteBehind (SliceExecutor.decode sharedStream 1 [] sharedOutput
      sharedFrame.slices sharedFrame.keyframe { memory := SliceExecutor.emptyMemory }) 0 1 =
        some 93 := by decide +kernel
  have hleft : SliceExecutor.byteBehind (SliceExecutor.decode sharedStream 2 [1, 0] sharedOutput
      sharedFrame.slices sharedFrame.keyframe { memory := SliceExecutor.emptyMemory }) 0 1 =
        some 247 := by decide +kernel
  obtain ⟨execution, hserial, hright⟩ := SliceExecutor.byteBehind_some hright
  obtain ⟨execution', hexchanged, hleft⟩ := SliceExecutor.byteBehind_some hleft
  refine ⟨sharedFrame, execution, execution', by decide +kernel, by decide, ?_, hserial, hexchanged,
    ?_⟩
  · rw [hcount]
    exact halves_completion
  · rw [hright, hleft]
    decide

end Mffv1
