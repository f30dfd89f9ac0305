import Mffv1.FrameSchedule
import Mffv1.SliceSweep

/-!
# Frames in any payload order

The slices of a frame may come in any order, and in another one in every frame: a slice
continues the state of its rectangle, and what the executor keeps is a map from
rectangles to states.
-/
namespace Mffv1

namespace SliceExecutor

/-- The map from rectangles to states that an executor keeps. -/
def kept (executor : SliceExecutor) : List (SliceLayout × SliceState) :=
  executor.sliceLayouts.zip executor.sliceStates

/-- The executor keeps one state for every slice of a reference frame. -/
structure References (stream : StreamParameters) (executor : SliceExecutor)
    (reference : List SliceDescriptor) : Prop where
  covers : Covers stream reference
  layouts : executor.sliceLayouts = reference.map sliceLayout
  states : executor.sliceStates.length = reference.length

section Permutation

variable {stream : StreamParameters} {slices slices' : List SliceDescriptor}

def RectsApart (left right : SliceDescriptor) : Prop :=
  ∀ i j, left.rasterRect.Contains i j → ¬right.rasterRect.Contains i j

theorem RectsApart.symm {left right : SliceDescriptor} (h : RectsApart left right) :
    RectsApart right left :=
  fun i j hright hleft => h i j hleft hright

theorem Covers.apart (h : Covers stream slices) : slices.Pairwise RectsApart := by
  obtain ⟨hraster, hcover⟩ := validated_exactCover h.covered
  rw [List.pairwise_iff_get]
  intro k l hlt i j
  exact hcover.disjoint (fun k => (hraster _ (List.get_mem slices k)).inside) k l hlt.ne i j

theorem Covers.nodup (h : Covers stream slices) : (slices.map sliceLayout).Nodup := by
  rw [List.Nodup, List.pairwise_map]
  refine h.apart.imp_of_mem ?_
  intro left right hleft _ hapart heq
  obtain ⟨hwidth, hheight, -⟩ := (validated_exactCover h.covered).1 left hleft
  have hsame : left.rasterRect = right.rasterRect := by
    obtain ⟨hx, hy, hw, hh⟩ := SliceLayout.mk.inj heq
    unfold SliceDescriptor.rasterRect
    rw [hx, hy, hw, hh]
  have hcorner : left.rasterRect.Contains left.rasterRect.x left.rasterRect.y :=
    ⟨⟨Nat.le_refl _, by omega⟩, Nat.le_refl _, by omega⟩
  exact hapart _ _ hcorner (hsame ▸ hcorner)

theorem Covers.ne_nil (h : Covers stream slices) : slices ≠ [] := by
  rintro rfl
  have hcover := (validated_exactCover h.covered).2
  have hgrid := h.covered
  simp only [validateSliceRasterCoverage, except_bind_ok, exists_unit, failIf_ok_iff] at hgrid
  obtain ⟨hh, hv⟩ := not_or.mp hgrid.1
  obtain ⟨k, -⟩ := (hcover 0 (Nat.pos_of_ne_zero fun hz => hh (UInt32.toNat_inj.mp hz)) 0
    (Nat.pos_of_ne_zero fun hz => hv (UInt32.toNat_inj.mp hz))).exists
  exact k.elim0

/-- The coverage of a frame does not depend on the order of its slices. -/
theorem Covers.perm (h : Covers stream slices) (hperm : slices'.Perm slices) :
    Covers stream slices' := by
  have hplaced : ∀ slice ∈ slices', Placed stream slice :=
    fun slice hslice => h.placed slice (hperm.mem_iff.mp hslice)
  have hcovered := h.covered
  have hcover := validated_exactCover hcovered
  simp only [validateSliceRasterCoverage, except_bind_ok, exists_unit, failIf_ok_iff] at hcovered
  obtain ⟨hgrid, hlength, _, hscan, -⟩ := hcovered
  have hchecked : ∀ slice ∈ slices', InRaster stream slice ∧ WithinAreaLimit stream slice :=
    fun slice hslice => scanSlices_checked hscan slice (hperm.mem_iff.mp hslice)
  have hapart : slices'.Pairwise RectsApart := h.apart.perm hperm.symm fun hab => hab.symm
  have hdisjoint : ∀ k l : Fin slices'.length, k ≠ l → ∀ i j,
      (slices'.get k).rasterRect.Contains i j → ¬(slices'.get l).rasterRect.Contains i j := by
    rw [List.pairwise_iff_get] at hapart
    intro k l hne
    rcases lt_or_gt_of_ne hne with hlt | hgt
    · exact hapart k l hlt
    · exact (hapart l k hgt).symm
  have harea := hcover.2.area fun k => (hcover.1 _ (List.get_mem slices k)).inside
  rw [sum_rect_area] at harea
  refine ⟨hplaced, ?_⟩
  rw [validate_of_disjoint (not_or.mp hgrid) (by rw [hperm.length_eq]; omega) hchecked hdisjoint,
    sum_rect_area, (hperm.map _).sum_eq, if_pos harea]

end Permutation

section Kept

variable {executor executor' : SliceExecutor} {layout : SliceLayout}

theorem heldState_of_mem (hnodup : executor.sliceLayouts.Nodup) {state : SliceState}
    (hmem : (layout, state) ∈ executor.kept) : executor.heldState layout = state := by
  obtain ⟨k, hk, hget⟩ := List.mem_iff_getElem.mp hmem
  unfold kept at hk hget
  rw [List.length_zip] at hk
  rw [List.getElem_zip] at hget
  obtain ⟨rfl, rfl⟩ := Prod.mk.inj hget
  unfold heldState
  rw [hnodup.idxOf_getElem k (by omega), List.getD_eq_getElem _ _ (by omega)]

theorem mem_kept (hstates : executor.sliceLayouts.length = executor.sliceStates.length)
    (hlayout : layout ∈ executor.sliceLayouts) : ∃ state, (layout, state) ∈ executor.kept := by
  obtain ⟨k, hk, rfl⟩ := List.mem_iff_getElem.mp hlayout
  refine ⟨executor.sliceStates[k], ?_⟩
  unfold kept
  rw [← List.getElem_zip (h := by simp [← hstates, hk])]
  exact List.getElem_mem _

/-- Executors that keep one map hold the same state for a rectangle. -/
theorem heldState_perm (hstates : executor.sliceLayouts.length = executor.sliceStates.length)
    (hnodup : executor.sliceLayouts.Nodup) (hnodup' : executor'.sliceLayouts.Nodup)
    (hkept : executor'.kept.Perm executor.kept) (hlayout : layout ∈ executor.sliceLayouts) :
    executor'.heldState layout = executor.heldState layout := by
  obtain ⟨state, hmem⟩ := mem_kept hstates hlayout
  rw [heldState_of_mem hnodup hmem, heldState_of_mem hnodup' (hkept.mem_iff.mpr hmem)]

end Kept

section Slices

variable {stream : StreamParameters} {output : FrameView} {slices : List SliceDescriptor}
  {executor : SliceExecutor} {keyframe : Bool} (held : SliceDescriptor → SliceState)

/-- The state of a slice behind a frame, and what it wrote. -/
noncomputable def outcomeOf (stream : StreamParameters) (output : FrameView)
    (held : SliceDescriptor → SliceState) (slice : SliceDescriptor) : SliceOutcome :=
  match sliceOutcome stream output slice (held slice) with
  | .ok outcome => outcome
  | .error _ => { state := {}, patch := Patch.nothing }

def Succeeds (stream : StreamParameters) (output : FrameView) (held : SliceDescriptor → SliceState)
    (slice : SliceDescriptor) : Prop :=
  ∃ outcome, sliceOutcome stream output slice (held slice) = .ok outcome

theorem map_range_slices {α : Type} (f : SliceDescriptor → SliceState → α) :
    ((List.range slices.length).map fun position =>
      f (sliceAt slices position) ((slices.map held).getD position {})) =
        slices.map fun slice => f slice (held slice) := by
  refine List.ext_getElem (by simp) fun position hlt hlt' => ?_
  rw [List.length_map] at hlt'
  simp [sliceAt, hlt']

theorem map_patchAt :
    (List.range slices.length).map (patchAt stream output slices (slices.map held)) =
      slices.map fun slice => (outcomeOf stream output held slice).patch := by
  have h := @map_range_slices slices held _ fun slice state =>
    match sliceOutcome stream output slice state with
    | .ok outcome => outcome.patch
    | .error _ => Patch.nothing
  refine h.trans (List.map_congr_left fun slice _ => ?_)
  unfold outcomeOf
  cases sliceOutcome stream output slice (held slice) <;> rfl

theorem map_stateAt :
    (List.range slices.length).map (stateAt stream output slices (slices.map held)) =
      slices.map fun slice => (outcomeOf stream output held slice).state := by
  have h := @map_range_slices slices held _ fun slice state =>
    match sliceOutcome stream output slice state with
    | .ok outcome => outcome.state
    | .error _ => {}
  refine h.trans (List.map_congr_left fun slice _ => ?_)
  unfold outcomeOf
  cases sliceOutcome stream output slice (held slice) <;> rfl

theorem failures_none_iff :
    (List.range slices.length).findSome? (failureAt stream output slices (slices.map held)) = none ↔
      ∀ slice ∈ slices, Succeeds stream output held slice := by
  have hfailure (position : Nat) (hlt : position < slices.length) :
      failureAt stream output slices (slices.map held) position = none ↔
        Succeeds stream output held slices[position] := by
    have hslice : sliceAt slices position = slices[position] := by simp [sliceAt, hlt]
    have hstate : (slices.map held).getD position {} = held slices[position] := by simp [hlt]
    unfold failureAt outcomeAt Succeeds
    rw [hslice, hstate]
    cases sliceOutcome stream output slices[position] (held slices[position]) with
    | ok outcome => exact ⟨fun _ => ⟨outcome, rfl⟩, fun _ => rfl⟩
    | error status =>
      constructor
      · intro hnone
        cases hnone
      · rintro ⟨outcome, hok⟩
        cases hok
  rw [List.findSome?_eq_none_iff]
  constructor
  · intro h slice hslice
    obtain ⟨position, hlt, rfl⟩ := List.mem_iff_getElem.mp hslice
    exact (hfailure position hlt).mp (h position (List.mem_range.mpr hlt))
  · intro h position hposition
    have hlt := List.mem_range.mp hposition
    exact (hfailure position hlt).mpr (h _ (List.getElem_mem hlt))

variable {held}

/-- A frame whose slices hold their states: it is decoded if all of its slices are. -/
theorem decode_of_held (hcovers : Covers stream slices)
    (hvalid : FrameValidator.validateOutput stream output = .ok ())
    (hslices : validateEach stream output slices = .ok ())
    (hstates : executor.workingStates slices keyframe = .ok (slices.map held)) {threadCount : Nat}
    {order : List Nat}
    (horder : 1 < threadCount →
      CompletionOrder (workerCountFor threadCount slices.length) 0 slices.length order)
    (memory : FrameMemory) :
    ((∀ slice ∈ slices, Succeeds stream output held slice) ∧ ∃ memory',
      decode stream threadCount order output slices keyframe { executor, memory } = .ok ()
        { executor := {
            sliceStates := slices.map fun slice => (outcomeOf stream output held slice).state
            sliceLayouts := slices.map sliceLayout }
          memory := memory' } ∧
      (PlanesApart stream output → memory' = Patch.applyAll
        (slices.map fun slice => (outcomeOf stream output held slice).patch) memory)) ∨
    ((¬∀ slice ∈ slices, Succeeds stream output held slice) ∧ ∃ position < slices.length,
      ∃ status memory', failureAt stream output slices (slices.map held) position = some status ∧
        decode stream threadCount order output slices keyframe { executor, memory } =
          .error status { executor, memory := memory' }) := by
  have hrun := @decodeSlices_of_order stream output slices (slices.map held) threadCount order
    (List.length_map held) (CompletionOrder.tasks horder) memory
  rw [decode_eq, validateSlices_of_covered hcovers.covered, hslices, hstates]
  cases hfailure : (List.range slices.length).findSome?
      (failureAt stream output slices (slices.map held)) with
  | none =>
    rw [hfailure, map_stateAt] at hrun
    simp only [hrun]
    refine .inl ⟨(failures_none_iff held).mp hfailure, _, rfl, fun hplanes => ?_⟩
    rw [writes_of_order hcovers hvalid hplanes horder, map_patchAt]
  | some status =>
    rw [hfailure] at hrun
    obtain ⟨progress, hrun⟩ := hrun
    obtain ⟨position, hposition, hfails⟩ := List.exists_of_findSome?_eq_some hfailure
    simp only [hrun]
    refine .inr ⟨fun hall => ?_, position, List.mem_range.mp hposition, status, progress.memory,
      hfails, rfl⟩
    rw [(failures_none_iff held).mpr hall] at hfailure
    cases hfailure

theorem validateEach_ok_iff :
    validateEach stream output slices = .ok () ↔
      ∀ slice ∈ slices, validateSlice stream output slice = .ok () := by
  induction slices with
  | nil => exact ⟨fun _ _ h => absurd h List.not_mem_nil, fun _ => rfl⟩
  | cons slice slices ih =>
    rw [List.forall_mem_cons, ← ih, validateEach, except_bind_ok]
    exact exists_unit

/-- What the slices of a frame hold: nothing for a keyframe. -/
def heldOf (executor : SliceExecutor) (keyframe : Bool) (slice : SliceDescriptor) : SliceState :=
  if keyframe then {} else executor.heldState (sliceLayout slice)

theorem replicate_heldOf (executor : SliceExecutor) (slices : List SliceDescriptor) :
    List.replicate slices.length {} = slices.map (executor.heldOf true) := by
  unfold heldOf
  simp [List.map_const']

variable {reference : List SliceDescriptor}

/-- The slices have the rectangles of the reference. -/
def SameRectangles (slices reference : List SliceDescriptor) : Prop :=
  ∀ layout, layout ∈ slices.map sliceLayout ↔ layout ∈ reference.map sliceLayout

theorem References.perm_iff (hreference : References stream executor reference)
    (hcovers : Covers stream slices) :
    (slices.map sliceLayout).Perm executor.sliceLayouts ↔ SameRectangles slices reference := by
  rw [hreference.layouts]
  exact List.perm_ext_iff_of_nodup hcovers.nodup hreference.covers.nodup

theorem References.states_ne (hreference : References stream executor reference) :
    executor.sliceStates ≠ [] := by
  intro hnil
  have hstates := hreference.states
  rw [hnil] at hstates
  exact hreference.covers.ne_nil (List.eq_nil_of_length_eq_zero hstates.symm)

theorem References.lengths (hreference : References stream executor reference) :
    executor.sliceLayouts.length = executor.sliceStates.length := by
  rw [hreference.layouts, hreference.states, List.length_map]

theorem References.nodup (hreference : References stream executor reference) :
    executor.sliceLayouts.Nodup := by
  rw [hreference.layouts]
  exact hreference.covers.nodup

/-- A keyframe, or a frame with the rectangles of the reference, has its states. -/
theorem References.workingStates_same (hreference : References stream executor reference)
    (hcovers : Covers stream slices) (hsame : keyframe = false → SameRectangles slices reference) :
    executor.workingStates slices keyframe = .ok (slices.map (executor.heldOf keyframe)) := by
  cases keyframe with
  | true => exact congrArg Except.ok (replicate_heldOf executor slices)
  | false =>
    exact referenceStates_of_perm hreference.states_ne hreference.lengths hreference.nodup
      ((hreference.perm_iff hcovers).mpr (hsame rfl))

theorem References.workingStates_different (hreference : References stream executor reference)
    (hcovers : Covers stream slices) (hdifferent : ¬SameRectangles slices reference) :
    ∃ status, executor.workingStates slices false = .error status ∧ status.code = .syntaxError :=
  referenceStates_of_not_perm hreference.states_ne hreference.lengths
    fun hperm => hdifferent ((hreference.perm_iff hcovers).mp hperm)

end Slices

section Reordering

variable {stream : StreamParameters} {output : FrameView} {slices slices' : List SliceDescriptor}
  {executor executor' : SliceExecutor} {reference reference' : List SliceDescriptor}
  {keyframe : Bool}

/-- Executors that keep one map, of a frame and of a permutation of it. -/
structure KeepSame (stream : StreamParameters) (executor executor' : SliceExecutor)
    (reference reference' : List SliceDescriptor) : Prop where
  references : References stream executor reference
  references' : References stream executor' reference'
  perm : reference'.Perm reference
  kept : executor'.kept.Perm executor.kept

/-- One map of kept states and, where the planes are apart, one output, or two frames that
both fail and keep what was kept before. -/
def SameFrame (stream : StreamParameters) (output : FrameView)
    (reference reference' slices slices' : List SliceDescriptor)
    (result result' : EStateM.Result Error Execution Unit) : Prop :=
  match result, result' with
  | .ok _ execution, .ok _ execution' =>
      (PlanesApart stream output → execution'.memory = execution.memory) ∧
        KeepSame stream execution.executor execution'.executor slices slices'
  | .error _ execution, .error _ execution' =>
      KeepSame stream execution.executor execution'.executor reference reference'
  | _, _ => False

theorem KeepSame.heldOf_eq (h : KeepSame stream executor executor' reference reference')
    (hsame : keyframe = false → SameRectangles slices reference) {slice : SliceDescriptor}
    (hslice : slice ∈ slices) : executor'.heldOf keyframe slice = executor.heldOf keyframe slice := by
  cases keyframe with
  | true => rfl
  | false =>
    refine heldState_perm h.references.lengths h.references.nodup h.references'.nodup h.kept ?_
    rw [h.references.layouts]
    exact (hsame rfl _).mp (List.mem_map_of_mem hslice)

/-- The kept map behind a frame is the one of its slices. -/
theorem kept_map (f : SliceDescriptor → SliceState) :
    kept { sliceStates := slices.map f, sliceLayouts := slices.map sliceLayout } =
      slices.map fun slice => (sliceLayout slice, f slice) :=
  List.zip_map'

theorem references_map (hcovers : Covers stream slices) (f : SliceDescriptor → SliceState) :
    References stream { sliceStates := slices.map f, sliceLayouts := slices.map sliceLayout }
      slices where
  covers := hcovers
  layouts := rfl
  states := List.length_map f

theorem SameRectangles.perm (h : SameRectangles slices reference) (hperm : slices'.Perm slices)
    (hreference : reference'.Perm reference) : SameRectangles slices' reference' := by
  intro layout
  rw [(hperm.map sliceLayout).mem_iff, (hreference.map sliceLayout).mem_iff]
  exact h layout

/-- A frame with an invalid slice is refused as it is. -/
theorem decode_of_invalid (hcovers : Covers stream slices) {status : Error}
    (hslices : validateEach stream output slices = .error status) (threadCount : Nat)
    (order : List Nat) (memory : FrameMemory) :
    decode stream threadCount order output slices keyframe { executor, memory } =
      .error status { executor, memory } := by
  rw [decode_eq, validateSlices_of_covered hcovers.covered, hslices]

/-- A frame with other rectangles than the reference is refused as it is. -/
theorem References.decode_different (hreference : References stream executor reference)
    (hcovers : Covers stream slices) (hslices : validateEach stream output slices = .ok ())
    (hdifferent : ¬SameRectangles slices reference) (threadCount : Nat) (order : List Nat)
    (memory : FrameMemory) : ∃ status,
      decode stream threadCount order output slices false { executor, memory } =
        .error status { executor, memory } ∧ status.code = .syntaxError := by
  obtain ⟨status, hstates, hcode⟩ := hreference.workingStates_different hcovers hdifferent
  rw [decode_eq, validateSlices_of_covered hcovers.covered, hslices, hstates]
  exact ⟨status, rfl, hcode⟩

/-- A reordered frame on one kept map comes to one output and one kept map. -/
theorem KeepSame.decode (h : KeepSame stream executor executor' reference reference')
    (hcovers : Covers stream slices) (hperm : slices'.Perm slices)
    (hvalid : FrameValidator.validateOutput stream output = .ok ())
    {threadCount threadCount' : Nat} {order order' : List Nat}
    (horder : 1 < threadCount →
      CompletionOrder (workerCountFor threadCount slices.length) 0 slices.length order)
    (horder' : 1 < threadCount' →
      CompletionOrder (workerCountFor threadCount' slices'.length) 0 slices'.length order')
    (memory : FrameMemory) :
    SameFrame stream output reference reference' slices slices'
      (SliceExecutor.decode stream threadCount order output slices keyframe { executor, memory })
      (SliceExecutor.decode stream threadCount' order' output slices' keyframe
        { executor := executor', memory }) := by
  have hcovers' := hcovers.perm hperm
  have hvalidate : validateEach stream output slices' = .ok () ↔
      validateEach stream output slices = .ok () := by
    simp only [validateEach_ok_iff, hperm.mem_iff]
  by_cases hslices : validateEach stream output slices = .ok ()
  · by_cases hsame : keyframe = false → SameRectangles slices reference
    · have hheld := fun slice (hslice : slice ∈ slices) => h.heldOf_eq hsame hslice
      have hstates := h.references.workingStates_same hcovers hsame
      have hstates' := h.references'.workingStates_same hcovers'
        fun hinter => (hsame hinter).perm hperm h.perm
      have hmap : slices'.map (executor'.heldOf keyframe) = slices'.map (executor.heldOf keyframe) :=
        List.map_congr_left fun slice hslice => hheld slice (hperm.mem_iff.mp hslice)
      rw [hmap] at hstates'
      have hrun := decode_of_held hcovers hvalid hslices hstates horder memory
      have hrun' := decode_of_held hcovers' hvalid (hvalidate.mpr hslices) hstates' horder' memory
      simp only [hperm.mem_iff] at hrun'
      rcases hrun with ⟨hall, memory₁, hrun, hmemory⟩ | ⟨hfails, -, -, status, memory₁, -, hrun⟩
      · rcases hrun' with ⟨-, memory₂, hrun', hmemory'⟩ | ⟨hfails, -⟩
        · rw [hrun, hrun']
          refine ⟨fun hplanes => ?_, references_map hcovers _, references_map hcovers' _, hperm, ?_⟩
          · rw [hmemory hplanes, hmemory' hplanes]
            refine Patch.applyAll_perm (hperm.map _) ?_ memory
            rw [← map_patchAt]
            exact patches_disjoint hcovers' hvalid hplanes
          · rw [kept_map, kept_map]
            exact hperm.map _
        · exact absurd hall hfails
      · rcases hrun' with ⟨hall, -⟩ | ⟨-, -, -, status', memory₂, -, hrun'⟩
        · exact absurd hall hfails
        · rw [hrun, hrun']
          exact h
    · obtain ⟨rfl, hdifferent⟩ := Classical.not_imp.mp hsame
      have hdifferent' : ¬SameRectangles slices' reference' :=
        fun hsame' => hdifferent (hsame'.perm hperm.symm h.perm.symm)
      obtain ⟨status, hrun, -⟩ := h.references.decode_different hcovers hslices hdifferent threadCount
        order memory
      obtain ⟨status', hrun', -⟩ := h.references'.decode_different hcovers'
        (hvalidate.mpr hslices) hdifferent' threadCount' order' memory
      rw [hrun, hrun']
      exact h
  · have hslices' : validateEach stream output slices' ≠ .ok () :=
      fun hok => hslices (hvalidate.mp hok)
    cases hstatus : validateEach stream output slices with
    | ok _ => exact absurd hstatus hslices
    | error status =>
      cases hstatus' : validateEach stream output slices' with
      | ok _ => exact absurd hstatus' hslices'
      | error status' =>
        rw [decode_of_invalid hcovers hstatus, decode_of_invalid hcovers' hstatus']
        exact h

end Reordering

/-- A frame to decode, with the output that it is decoded to and the schedule. -/
structure FrameTask where
  slices : List SliceDescriptor
  keyframe : Bool
  output : FrameView
  memory : FrameMemory
  threadCount : Nat
  order : List Nat

/-- Frame after frame on one executor: the outputs of those that are decoded. -/
def decodeFrames (stream : StreamParameters) :
    List FrameTask → SliceExecutor → List (Option FrameMemory) × SliceExecutor
  | [], executor => ([], executor)
  | task :: tasks, executor =>
    match decode stream task.threadCount task.order task.output task.slices task.keyframe
        { executor, memory := task.memory } with
    | .ok _ execution =>
      let (outputs, executor) := decodeFrames stream tasks execution.executor
      (some execution.memory :: outputs, executor)
    | .error _ execution =>
      let (outputs, executor) := decodeFrames stream tasks execution.executor
      (none :: outputs, executor)

/-- One frame in another payload order, on any schedule. -/
structure Reorders (stream : StreamParameters) (task task' : FrameTask) : Prop where
  covers : Covers stream task.slices
  perm : task'.slices.Perm task.slices
  keyframe : task'.keyframe = task.keyframe
  output : task'.output = task.output
  memory : task'.memory = task.memory
  valid : FrameValidator.validateOutput stream task.output = .ok ()
  order : 1 < task.threadCount → CompletionOrder
    (workerCountFor task.threadCount task.slices.length) 0 task.slices.length task.order
  order' : 1 < task'.threadCount → CompletionOrder
    (workerCountFor task'.threadCount task'.slices.length) 0 task'.slices.length task'.order

/-- A frame that is refused in both runs, or decoded in both, to one output if its planes are
apart. -/
def SameOutput (stream : StreamParameters) (task : FrameTask) (left right : Option FrameMemory) :
    Prop :=
  match left, right with
  | some memory, some memory' => PlanesApart stream task.output → memory' = memory
  | none, none => True
  | _, _ => False

def SameOutputs (stream : StreamParameters) :
    List FrameTask → List (Option FrameMemory) → List (Option FrameMemory) → Prop
  | [], [], [] => True
  | task :: tasks, left :: lefts, right :: rights =>
    SameOutput stream task left right ∧ SameOutputs stream tasks lefts rights
  | _, _, _ => False

/-- Reordering every frame of a run changes none of its outputs. -/
theorem decodeFrames_reordered {stream : StreamParameters} {tasks tasks' : List FrameTask}
    (htasks : List.Forall₂ (Reorders stream) tasks tasks') {executor executor' : SliceExecutor}
    {reference reference' : List SliceDescriptor}
    (h : KeepSame stream executor executor' reference reference') :
    SameOutputs stream tasks (decodeFrames stream tasks executor).1
        (decodeFrames stream tasks' executor').1 ∧
      ∃ last last', KeepSame stream (decodeFrames stream tasks executor).2
        (decodeFrames stream tasks' executor').2 last last' := by
  induction htasks generalizing executor executor' reference reference' with
  | nil => exact ⟨trivial, reference, reference', h⟩
  | @cons task task' tasks tasks' htask _ ih =>
    obtain ⟨slices, keyframe, output, memory, threadCount, order⟩ := task
    obtain ⟨slices', keyframe', output', memory', threadCount', order'⟩ := task'
    obtain ⟨hcovers, hperm, hkeyframe, houtput, hmemory, hvalid, horder, horder'⟩ := htask
    dsimp only at hcovers hperm hkeyframe houtput hmemory hvalid horder horder'
    subst hkeyframe houtput hmemory
    have hframe : SameFrame stream output' reference reference' slices slices'
        (decode stream threadCount order output' slices keyframe' _) _ :=
      h.decode hcovers hperm hvalid horder horder' memory'
    rw [decodeFrames, decodeFrames]
    dsimp only
    cases hrun : decode stream threadCount order output' slices keyframe'
        { executor, memory := memory' } with
    | ok value execution =>
      cases hrun' : decode stream threadCount' order' output' slices' keyframe'
          { executor := executor', memory := memory' } with
      | ok value' execution' =>
        rw [hrun, hrun'] at hframe
        obtain ⟨houtputs, hkeeps⟩ := ih hframe.2
        exact ⟨⟨hframe.1, houtputs⟩, hkeeps⟩
      | error status' execution' =>
        rw [hrun, hrun'] at hframe
        exact hframe.elim
    | error status execution =>
      cases hrun' : decode stream threadCount' order' output' slices' keyframe'
          { executor := executor', memory := memory' } with
      | ok value' execution' =>
        rw [hrun, hrun'] at hframe
        exact hframe.elim
      | error status' execution' =>
        rw [hrun, hrun'] at hframe
        obtain ⟨houtputs, hkeeps⟩ := ih hframe
        exact ⟨⟨trivial, houtputs⟩, hkeeps⟩

section Inter

variable {stream : StreamParameters} {output : FrameView} {executor : SliceExecutor}
  {reference slices : List SliceDescriptor}

/-- The state that the reference slice with the rectangle of a slice has left. -/
theorem References.origin (hreference : References stream executor reference)
    (hsame : SameRectangles slices reference) {position : Nat} (hposition : position < slices.length) :
    ∃ origin < reference.length,
      sliceLayout (sliceAt reference origin) = sliceLayout (sliceAt slices position) ∧
        executor.heldOf false (sliceAt slices position) = executor.sliceStates.getD origin {} := by
  have hslice : sliceAt slices position = slices[position] := by simp [sliceAt, hposition]
  have hlayout : sliceLayout slices[position] ∈ executor.sliceLayouts := by
    rw [hreference.layouts]
    exact (hsame _).mp (List.mem_map_of_mem (List.getElem_mem hposition))
  obtain ⟨origin, horigin, hget⟩ := List.mem_iff_getElem.mp hlayout
  have hlength : origin < reference.length := by simpa [hreference.layouts] using horigin
  refine ⟨origin, hlength, ?_, ?_⟩
  · simp only [hreference.layouts, List.getElem_map] at hget
    simpa [sliceAt, hlength, hposition] using hget
  · unfold heldOf heldState
    rw [if_neg Bool.false_ne_true, hslice, ← hget, hreference.nodup.idxOf_getElem origin horigin]

/-- Slices decoded from the states that the reference keeps for their rectangles: behind the
frame are the state and the samples that each of them leaves, or the error of one of them. -/
structure FollowsRectangles (stream : StreamParameters) (output : FrameView)
    (executor : SliceExecutor) (reference slices : List SliceDescriptor)
    (result : EStateM.Result Error Execution Unit) : Prop where
  decoded : ∀ u execution, result = .ok u execution →
    execution.executor.sliceLayouts = slices.map sliceLayout ∧
    ∀ position < slices.length, ∃ origin < reference.length,
      sliceLayout (sliceAt reference origin) = sliceLayout (sliceAt slices position) ∧
      ∃ earlier left,
        decodeSlice stream output (sliceAt slices position)
          { memory := earlier, state := executor.sliceStates.getD origin {} } =
            .ok () { memory := left, state := execution.executor.sliceStates.getD position {} } ∧
        (PlanesApart stream output → left = execution.memory)
  failed : ∀ status execution, result = .error status execution →
    execution.executor = executor ∧
    ∃ position < slices.length, ∃ origin < reference.length,
      sliceLayout (sliceAt reference origin) = sliceLayout (sliceAt slices position) ∧
      ∃ failure, status = setSliceLocationIfMissing failure (sliceAt slices position).index ∧
        ∀ memory, ∃ task, decodeSlice stream output (sliceAt slices position)
          { memory, state := executor.sliceStates.getD origin {} } = .error failure task

theorem References.follows (hreference : References stream executor reference)
    (hcovers : Covers stream slices) (hvalid : FrameValidator.validateOutput stream output = .ok ())
    (hslices : validateEach stream output slices = .ok ()) (hsame : SameRectangles slices reference)
    {threadCount : Nat} {order : List Nat}
    (horder : 1 < threadCount →
      CompletionOrder (workerCountFor threadCount slices.length) 0 slices.length order)
    (memory : FrameMemory) :
    FollowsRectangles stream output executor reference slices
      (decode stream threadCount order output slices false { executor, memory }) := by
  have hstates : executor.workingStates slices false = .ok (slices.map (executor.heldOf false)) :=
    hreference.workingStates_same hcovers fun _ => hsame
  rcases decode_of_held hcovers hvalid hslices hstates horder memory with
    ⟨hall, memory', hrun, hmemory⟩ | ⟨-, position, hposition, status, memory', hfails, hrun⟩
  · rw [hrun]
    refine ⟨fun u execution hok => ?_, fun _ _ herror => by cases herror⟩
    obtain ⟨-, rfl⟩ := EStateM.Result.ok.inj hok
    refine ⟨rfl, fun position hposition => ?_⟩
    obtain ⟨origin, horigin, hlayout, hheld⟩ := hreference.origin hsame hposition
    refine ⟨origin, horigin, hlayout, ?_⟩
    obtain ⟨outcome, houtcome⟩ := hall _ (sliceAt_mem hposition)
    have hcomes := sliceOutcome_comesTo stream output (sliceAt slices position)
      (executor.heldOf false (sliceAt slices position))
    have houtcomeOf : outcomeOf stream output (executor.heldOf false) (sliceAt slices position) =
        outcome := by
      unfold outcomeOf
      rw [houtcome]
    have hstate : (slices.map fun slice =>
        (outcomeOf stream output (executor.heldOf false) slice).state).getD position {} =
          outcome.state := by
      rw [← houtcomeOf]
      simp [sliceAt, hposition]
    rw [houtcome, hheld] at hcomes
    rw [hstate]
    by_cases hplanes : PlanesApart stream output
    · have hdisjoint : (slices.map fun slice =>
          (outcomeOf stream output (executor.heldOf false) slice).patch).Pairwise Patch.Disjoint := by
        rw [← map_patchAt]
        exact patches_disjoint hcovers hvalid hplanes
      obtain ⟨earlier, hlast⟩ := Patch.applyAll_mem hdisjoint
        (List.mem_map_of_mem (sliceAt_mem hposition)) memory
      rw [houtcomeOf] at hlast
      exact ⟨earlier, _, hcomes earlier, fun _ => (hmemory hplanes).symm ▸ hlast.symm⟩
    · exact ⟨emptyMemory, _, hcomes emptyMemory, fun h => absurd h hplanes⟩
  · rw [hrun]
    refine ⟨fun _ _ hok => (by cases hok), fun status' execution herror => ?_⟩
    obtain ⟨rfl, rfl⟩ := EStateM.Result.error.inj herror
    obtain ⟨origin, horigin, hlayout, hheld⟩ := hreference.origin hsame hposition
    refine ⟨rfl, position, hposition, origin, horigin, hlayout, ?_⟩
    have hcomes := sliceOutcome_comesTo stream output (sliceAt slices position)
      (executor.heldOf false (sliceAt slices position))
    have hstate : (slices.map (executor.heldOf false)).getD position {} =
        executor.heldOf false (sliceAt slices position) := by
      simp [sliceAt, hposition]
    unfold failureAt outcomeAt at hfails
    rw [hstate] at hfails
    cases houtcome : sliceOutcome stream output (sliceAt slices position)
        (executor.heldOf false (sliceAt slices position)) with
    | ok outcome =>
      rw [houtcome] at hfails
      cases hfails
    | error failure =>
      rw [houtcome] at hfails hcomes
      rw [hheld] at hcomes
      exact ⟨failure, (Option.some.inj hfails).symm, hcomes⟩

end Inter

end SliceExecutor

/-- Inter frames follow the rectangles: slices with the rectangles of the reference are
decoded from its states, a frame with other rectangles is refused, and over a run the order
of the slices changes neither the outputs nor the map from rectangles to states. -/
theorem inter_state_follows_rectangles {stream : StreamParameters} {output : FrameView}
    {executor : SliceExecutor} {reference slices : List SliceDescriptor}
    (hreference : SliceExecutor.References stream executor reference)
    (hcovers : SliceExecutor.Covers stream slices)
    (hvalid : FrameValidator.validateOutput stream output = .ok ()) :
    (∀ (threadCount : Nat) (order : List Nat) (memory : FrameMemory),
      (1 < threadCount → SliceExecutor.CompletionOrder
        (SliceExecutor.workerCountFor threadCount slices.length) 0 slices.length order) →
      let result := SliceExecutor.decode stream threadCount order output slices false
        { executor, memory }
      match SliceExecutor.validateEach stream output slices with
      | .error status => result = .error status { executor, memory }
      | .ok _ =>
        (SliceExecutor.SameRectangles slices reference →
          SliceExecutor.FollowsRectangles stream output executor reference slices result) ∧
        (¬SliceExecutor.SameRectangles slices reference → ∃ status,
          result = .error status { executor, memory } ∧ status.code = .syntaxError)) ∧
    ∀ tasks tasks' : List SliceExecutor.FrameTask,
      List.Forall₂ (SliceExecutor.Reorders stream) tasks tasks' →
        SliceExecutor.SameOutputs stream tasks
          (SliceExecutor.decodeFrames stream tasks executor).1
          (SliceExecutor.decodeFrames stream tasks' executor).1 ∧
        ∃ last last', SliceExecutor.KeepSame stream
          (SliceExecutor.decodeFrames stream tasks executor).2
          (SliceExecutor.decodeFrames stream tasks' executor).2 last last' := by
  refine ⟨fun threadCount order memory horder => ?_, fun tasks tasks' htasks =>
    SliceExecutor.decodeFrames_reordered htasks
      ⟨hreference, hreference, List.Perm.refl _, List.Perm.refl _⟩⟩
  intro result
  cases hslices : SliceExecutor.validateEach stream output slices with
  | error status => exact SliceExecutor.decode_of_invalid hcovers hslices threadCount order memory
  | ok _ =>
    exact ⟨fun hsame => hreference.follows hcovers hvalid hslices hsame horder memory,
      fun hdifferent => hreference.decode_different hcovers hslices hdifferent threadCount order
        memory⟩

/-- The executor behind a frame of two slices, whose states are still empty. -/
def halvesExecutor (slices : List SliceDescriptor) : SliceExecutor :=
  { sliceStates := [{}, {}], sliceLayouts := slices.map sliceLayout }

theorem halvesExecutor_references {stream : StreamParameters} {slices : List SliceDescriptor}
    (hcovers : SliceExecutor.Covers stream slices) (hcount : slices.length = 2) :
    SliceExecutor.References stream (halvesExecutor slices) slices :=
  ⟨hcovers, rfl, hcount.symm⟩

theorem halves_inter : ∃ frame, FrameParser.parse halvesStream true halvesKeyframe = .ok frame ∧
    frame.slices.length = 2 ∧
    Mirror.succeeded (SliceExecutor.decode halvesStream 1 [] halvesOutput frame.slices false
      { executor := halvesExecutor frame.slices, memory := SliceExecutor.emptyMemory }) = true :=
  ⟨halvesFrame, by decide +kernel, by decide +kernel, by decide +kernel⟩

/-- The halves of a frame, exchanged and decoded by two threads. -/
theorem inter_state_follows_rectangles_halves : ∃ frame execution execution',
    FrameParser.parse halvesStream true halvesKeyframe = .ok frame ∧
      SliceExecutor.decode halvesStream 1 [] halvesOutput frame.slices false
        { executor := halvesExecutor frame.slices, memory := SliceExecutor.emptyMemory } =
          .ok () execution ∧
      SliceExecutor.decode halvesStream 2 [1, 0] halvesOutput frame.slices.reverse false
        { executor := halvesExecutor frame.slices, memory := SliceExecutor.emptyMemory } =
          .ok () execution' ∧
      execution'.memory = execution.memory := by
  obtain ⟨frame, hparse, hcount, hsucceeded⟩ := halves_inter
  have hcovers := FrameParser.parse_covers hparse
  have hvalid : FrameValidator.validateOutput halvesStream halvesOutput = .ok () := by decide
  have hreference := halvesExecutor_references hcovers hcount
  obtain ⟨execution, hserial⟩ : ∃ execution,
      SliceExecutor.decode halvesStream 1 [] halvesOutput frame.slices false
        { executor := halvesExecutor frame.slices, memory := SliceExecutor.emptyMemory } =
          .ok () execution := ⟨_, Mirror.eq_ok_of_succeeded hsucceeded⟩
  have hreordered : SliceExecutor.Reorders halvesStream
      { slices := frame.slices, keyframe := false, output := halvesOutput,
        memory := SliceExecutor.emptyMemory, threadCount := 1, order := [] }
      { slices := frame.slices.reverse, keyframe := false, output := halvesOutput,
        memory := SliceExecutor.emptyMemory, threadCount := 2, order := [1, 0] } :=
    { covers := hcovers, perm := frame.slices.reverse_perm, keyframe := rfl, output := rfl,
      memory := rfl, valid := hvalid, order := fun h => absurd h (Nat.lt_irrefl 1),
      order' := fun _ => by
        rw [List.length_reverse, hcount]
        exact halves_completion }
  have hexchanged := ((inter_state_follows_rectangles hreference hcovers hvalid).2 _ _
    (.cons hreordered .nil)).1
  simp only [SliceExecutor.decodeFrames, hserial] at hexchanged
  cases hrun : SliceExecutor.decode halvesStream 2 [1, 0] halvesOutput frame.slices.reverse false
      { executor := halvesExecutor frame.slices, memory := SliceExecutor.emptyMemory } with
  | ok value execution' =>
    rw [hrun] at hexchanged
    exact ⟨frame, execution, execution', hparse, hserial, hrun, hexchanged.1 (PlanesApart.of_single rfl)⟩
  | error status execution' =>
    rw [hrun] at hexchanged
    exact hexchanged.1.elim

/-- Two slices, of which the second one ends before its content begins. -/
def shortKeyframe : Bytes := [254, 189, 0, 0, 2, 63, 155, 0, 0, 2]

def shortFrame : FrameDecodeContext :=
  (FrameParser.parse halvesStream true shortKeyframe).toOption.getD {}

theorem short_refused : ∃ status execution,
    SliceExecutor.decode halvesStream 1 [] halvesOutput shortFrame.slices false
      { executor := halvesExecutor shortFrame.slices, memory := SliceExecutor.emptyMemory } =
        .error status execution ∧ status.code = .syntaxError := by
  have hcode : (Mirror.failure (SliceExecutor.decode halvesStream 1 [] halvesOutput
      shortFrame.slices false { executor := halvesExecutor shortFrame.slices
                                memory := SliceExecutor.emptyMemory })).map Error.code =
        some .syntaxError := by
    decide +kernel
  obtain ⟨status, hfailure, hcode⟩ := Option.map_eq_some_iff.mp hcode
  obtain ⟨execution, hresult⟩ := Mirror.exists_error_of_failure hfailure
  exact ⟨status, execution, hresult, hcode⟩

/-- Slices with the rectangles of the reference may still be refused, and where planes share
a byte it is left by the last slice of the payload. -/
theorem rectangles_decide_alone_false :
    (∃ frame status execution,
      SliceExecutor.References halvesStream (halvesExecutor frame.slices) frame.slices ∧
        SliceExecutor.Covers halvesStream frame.slices ∧
        FrameParser.parse halvesStream true shortKeyframe = .ok frame ∧
        FrameValidator.validateOutput halvesStream halvesOutput = .ok () ∧
        SliceExecutor.decode halvesStream 1 [] halvesOutput frame.slices false
          { executor := halvesExecutor frame.slices, memory := SliceExecutor.emptyMemory } =
            .error status execution ∧ status.code = .syntaxError) ∧
    ∃ frame execution execution',
      SliceExecutor.References sharedStream (halvesExecutor frame.slices) frame.slices ∧
        FrameParser.parse sharedStream true halvesKeyframe = .ok frame ∧
        FrameValidator.validateOutput sharedStream sharedOutput = .ok () ∧
        SliceExecutor.decode sharedStream 1 [] sharedOutput frame.slices false
          { executor := halvesExecutor frame.slices, memory := SliceExecutor.emptyMemory } =
            .ok () execution ∧
        SliceExecutor.decode sharedStream 1 [] sharedOutput frame.slices.reverse false
          { executor := halvesExecutor frame.slices, memory := SliceExecutor.emptyMemory } =
            .ok () execution' ∧
        execution.memory 0 1 ≠ execution'.memory 0 1 := by
  constructor
  · have hparse : FrameParser.parse halvesStream true shortKeyframe = .ok shortFrame := by
      decide +kernel
    have hcovers := FrameParser.parse_covers hparse
    obtain ⟨status, execution, hresult, hcode⟩ := short_refused
    exact ⟨shortFrame, status, execution, halvesExecutor_references hcovers (by decide +kernel),
      hcovers, hparse, by decide, hresult, hcode⟩
  · have hparse : FrameParser.parse sharedStream true halvesKeyframe = .ok sharedFrame := by
      decide +kernel
    have hright : SliceExecutor.byteBehind (SliceExecutor.decode sharedStream 1 [] sharedOutput
        sharedFrame.slices false { executor := halvesExecutor sharedFrame.slices
                                   memory := SliceExecutor.emptyMemory }) 0 1 =
          some 93 := by decide +kernel
    have hleft : SliceExecutor.byteBehind (SliceExecutor.decode sharedStream 1 [] sharedOutput
        sharedFrame.slices.reverse false { executor := halvesExecutor sharedFrame.slices
                                           memory := SliceExecutor.emptyMemory }) 0 1 =
          some 247 := by decide +kernel
    obtain ⟨execution, hserial, hright⟩ := SliceExecutor.byteBehind_some hright
    obtain ⟨execution', hexchanged, hleft⟩ := SliceExecutor.byteBehind_some hleft
    refine ⟨sharedFrame, execution, execution',
      halvesExecutor_references (FrameParser.parse_covers hparse) (by decide +kernel), hparse,
      by decide, hserial, hexchanged, ?_⟩
    rw [hright, hleft]
    decide

end Mffv1
