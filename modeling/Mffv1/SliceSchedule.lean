import Mffv1.Lib.Ranks
import Mffv1.PlaneSamples
import Mffv1.SliceEffect

/-!
# Schedules of slices

Tasks on slices of their own can complete in any order: each works on its own state, and
what they write does not meet. The first failure by position is the error of the frame,
whichever task fails first.
-/
namespace Mffv1

namespace SliceExecutor

/-- What a slice comes to from a state. -/
noncomputable def sliceOutcome (stream : StreamParameters) (output : FrameView)
    (slice : SliceDescriptor) (state : SliceState) : Except Error SliceOutcome :=
  (exists_outcome stream output slice state).choose

theorem sliceOutcome_comesTo (stream : StreamParameters) (output : FrameView)
    (slice : SliceDescriptor) (state : SliceState) :
    ComesTo state (decodeSlice stream output slice) (sliceOutcome stream output slice state) :=
  (exists_outcome stream output slice state).choose_spec.1

theorem sliceOutcome_staysIn (stream : StreamParameters) (output : FrameView)
    (slice : SliceDescriptor) (state : SliceState) :
    StaysIn stream output slice (sliceOutcome stream output slice state) :=
  (exists_outcome stream output slice state).choose_spec.2

section Positions

variable (stream : StreamParameters) (output : FrameView) (slices : List SliceDescriptor)
  (states : List SliceState)

noncomputable def outcomeAt (position : Nat) : Except Error SliceOutcome :=
  sliceOutcome stream output (sliceAt slices position) (states.getD position {})

/-- The error of the slice at a position, if it fails. -/
noncomputable def failureAt (position : Nat) : Option Error :=
  match outcomeAt stream output slices states position with
  | .ok _ => none
  | .error status => some (setSliceLocationIfMissing status (sliceAt slices position).index)

noncomputable def patchAt (position : Nat) : Patch Nat Int UInt8 :=
  match outcomeAt stream output slices states position with
  | .ok outcome => outcome.patch
  | .error _ => Patch.nothing

noncomputable def stateAt (position : Nat) : SliceState :=
  match outcomeAt stream output slices states position with
  | .ok outcome => outcome.state
  | .error _ => {}

/-- The states behind the tasks at some positions. -/
noncomputable def statesAfter (positions : List Nat) (before : List SliceState) : List SliceState :=
  (positions.map fun position => (position, stateAt stream output slices states position)).foldl
    (fun states pair => states.set pair.1 pair.2) before

variable {stream output slices states} {position : Nat} {progress : FrameProgress}

theorem decodeAt_of_success (hstate : progress.states.getD position {} = states.getD position {})
    (h : failureAt stream output slices states position = none) :
    decodeAt stream output slices position progress =
      .ok () { memory := (patchAt stream output slices states position).apply progress.memory
               states := progress.states.set position
                (stateAt stream output slices states position) } := by
  have hcomes := sliceOutcome_comesTo stream output (sliceAt slices position)
    (states.getD position {})
  unfold failureAt at h
  unfold patchAt stateAt decodeAt
  unfold outcomeAt at h ⊢
  cases houtcome : sliceOutcome stream output (sliceAt slices position)
      (states.getD position {}) with
  | error status =>
    rw [houtcome] at h
    cases h
  | ok outcome =>
    rw [houtcome] at hcomes
    simp only [hstate, hcomes progress.memory]

theorem decodeAt_of_failure {status : Error}
    (hstate : progress.states.getD position {} = states.getD position {})
    (h : failureAt stream output slices states position = some status) :
    ∃ memory state, decodeAt stream output slices position progress =
      .error status { memory, states := progress.states.set position state } := by
  have hcomes := sliceOutcome_comesTo stream output (sliceAt slices position)
    (states.getD position {})
  unfold failureAt outcomeAt at h
  unfold decodeAt
  cases houtcome : sliceOutcome stream output (sliceAt slices position)
      (states.getD position {}) with
  | ok outcome =>
    rw [houtcome] at h
    cases h
  | error failure =>
    rw [houtcome] at h hcomes
    obtain ⟨task, htask⟩ := hcomes progress.memory
    obtain rfl := Option.some.inj h
    simp only [hstate, htask]
    exact ⟨_, _, rfl⟩

end Positions

section Orders

variable {stream : StreamParameters} {output : FrameView} {slices : List SliceDescriptor}
  {states : List SliceState}

theorem CompletionOrder.perm {workerCount offset count : Nat} {order : List Nat}
    (h : CompletionOrder workerCount offset count order) : order.Perm (List.range' offset count) := by
  induction h with
  | done offset => exact List.Perm.refl _
  | @batch offset count order rest hcount horder hrest ih =>
    have hsplit := List.range'_append_1 (s := offset) (m := min workerCount count)
      (n := count - min workerCount count)
    rw [Nat.add_sub_cancel' (Nat.min_le_right _ _)] at hsplit
    rw [← hsplit]
    exact horder.append ih

/-- The states that are still to be worked on are as they were. -/
def Untouched (states : List SliceState) (positions : List Nat) (current : List SliceState) : Prop :=
  ∀ position ∈ positions, current.getD position {} = states.getD position {}

theorem Untouched.tail {position : Nat} {positions : List Nat} {current : List SliceState}
    (h : Untouched states (position :: positions) current) (hfresh : position ∉ positions)
    (state : SliceState) : Untouched states positions (current.set position state) := by
  intro other hother
  have hne : position ≠ other := fun heq => hfresh (heq ▸ hother)
  rw [List.getD_eq_getElem?_getD, List.getElem?_set_ne hne, ← List.getD_eq_getElem?_getD]
  exact h other (List.mem_cons_of_mem _ hother)

/-- Tasks that all run report the errors of their positions, in whichever order. -/
theorem runTasks_errors {order : List Nat} {progress : FrameProgress} (hnodup : order.Nodup)
    (huntouched : Untouched states order progress.states) (position : Nat) :
    (runTasks stream output slices order progress).1.lookup position =
      if position ∈ order then failureAt stream output slices states position else none := by
  induction order generalizing progress with
  | nil => rfl
  | cons first order ih =>
    obtain ⟨hfresh, hrest⟩ := List.nodup_cons.mp hnodup
    have hfirst := huntouched first List.mem_cons_self
    have hothers (memory : FrameMemory) (state : SliceState) :
        (runTasks stream output slices order
          { memory, states := progress.states.set first state }).1.lookup position =
            if position ∈ order then failureAt stream output slices states position else none :=
      ih hrest (huntouched.tail hfresh state)
    cases hfailure : failureAt stream output slices states first with
    | none =>
      rw [runTasks, decodeAt_of_success hfirst hfailure]
      simp only [hothers, List.mem_cons]
      by_cases heq : position = first
      · subst heq
        simp [hfresh, hfailure]
      · simp [heq]
    | some status =>
      obtain ⟨memory, state, hdecode⟩ := decodeAt_of_failure hfirst hfailure
      rw [runTasks, hdecode]
      simp only [List.lookup_cons, hothers, List.mem_cons]
      by_cases heq : position = first
      · subst heq
        simp [hfailure]
      · simp [heq, beq_false_of_ne heq]

/-- Tasks that all succeed write one after another, each its own state. -/
theorem runTasks_of_success {order : List Nat} {progress : FrameProgress} (hnodup : order.Nodup)
    (huntouched : Untouched states order progress.states)
    (h : ∀ position ∈ order, failureAt stream output slices states position = none) :
    (runTasks stream output slices order progress).2 =
      { memory := Patch.applyAll (order.map (patchAt stream output slices states)) progress.memory
        states := statesAfter stream output slices states order progress.states } := by
  induction order generalizing progress with
  | nil => rfl
  | cons first order ih =>
    obtain ⟨hfresh, hrest⟩ := List.nodup_cons.mp hnodup
    obtain ⟨hfirst, hothers⟩ := List.forall_mem_cons.mp h
    rw [runTasks, decodeAt_of_success (huntouched first List.mem_cons_self) hfirst]
    exact ih hrest (huntouched.tail hfresh _) hothers

/-- In payload order the tasks before the first failure have run. -/
theorem decodeSerial_from {start count : Nat} {progress : FrameProgress}
    (huntouched : Untouched states (List.range' start count) progress.states) :
    match (List.range' start count).findSome? (failureAt stream output slices states) with
    | some status => ∃ progress',
        Mirror.forLoop start count (decodeAt stream output slices) progress = .error status progress'
    | none => Mirror.forLoop start count (decodeAt stream output slices) progress =
        .ok () { memory := Patch.applyAll
                  ((List.range' start count).map (patchAt stream output slices states))
                  progress.memory
                 states := statesAfter stream output slices states (List.range' start count)
                  progress.states } := by
  induction count generalizing start progress with
  | zero => rfl
  | succ count ih =>
    rw [List.range'_succ] at huntouched ⊢
    have hfresh : start ∉ List.range' (start + 1) count := by
      rw [List.mem_range'_1]
      omega
    have hfirst := huntouched start List.mem_cons_self
    cases hfailure : failureAt stream output slices states start with
    | some status =>
      obtain ⟨memory, state, hdecode⟩ := decodeAt_of_failure hfirst hfailure
      rw [List.findSome?_cons, hfailure]
      exact ⟨_, Mirror.bind_error hdecode⟩
    | none =>
      have hdecode := decodeAt_of_success hfirst hfailure
      have hloop : Mirror.forLoop start (count + 1) (decodeAt stream output slices) progress = _ :=
        Mirror.bind_ok hdecode
      rw [List.findSome?_cons, hfailure, hloop]
      exact ih (huntouched.tail hfresh _)

/-- Each state is written once, so that their order does not matter. -/
theorem statesAfter_perm {positions : List Nat}
    (hperm : positions.Perm (List.range states.length)) :
    statesAfter stream output slices states positions states =
      (List.range states.length).map (stateAt stream output slices states) := by
  refine List.ext_getElem? fun position => ?_
  rcases Nat.lt_or_ge position states.length with hlt | hge
  · have hmem : position ∈ positions := hperm.mem_iff.mpr (List.mem_range.mpr hlt)
    have hnodup : positions.Nodup := hperm.nodup_iff.mpr List.nodup_range
    have hassigned : (position, stateAt stream output slices states position) ∈
        positions.map fun position => (position, stateAt stream output slices states position) :=
      List.mem_map_of_mem hmem
    unfold statesAfter
    rw [Ranks.foldl_set_get (by simpa [Function.comp_def] using hnodup) hassigned hlt,
      List.getElem?_map, List.getElem?_range hlt]
    rfl
  · rw [List.getElem?_eq_none (by simpa [statesAfter, Ranks.foldl_set_length] using hge),
      List.getElem?_eq_none (by simpa using hge)]

/-- The order in which the tasks of a frame run. -/
def taskOrder (stream : StreamParameters) (threadCount : Nat) (order : List Nat)
    (slices : List SliceDescriptor) : List Nat :=
  if isParallel stream threadCount slices then order else List.range slices.length

theorem taskOrder_perm {threadCount : Nat} {order : List Nat}
    (horder : isParallel stream threadCount slices = true →
      order.Perm (List.range slices.length)) :
    (taskOrder stream threadCount order slices).Perm (List.range slices.length) := by
  unfold taskOrder
  split
  · exact horder ‹_›
  · exact List.Perm.refl _

/-- What the slices of a frame come to: the first failure by position, or the writes of
all of them, one task after another. -/
theorem decodeSlices_of_order {threadCount : Nat} {order : List Nat}
    (hstates : states.length = slices.length)
    (horder : isParallel stream threadCount slices = true →
      order.Perm (List.range slices.length))
    (memory : FrameMemory) :
    match (List.range slices.length).findSome? (failureAt stream output slices states) with
    | some status => ∃ progress,
        decodeSlices stream threadCount order output slices { memory, states } = .error status progress
    | none => decodeSlices stream threadCount order output slices { memory, states } =
        .ok () { memory := Patch.applyAll ((taskOrder stream threadCount order slices).map
                  (patchAt stream output slices states)) memory
                 states := (List.range slices.length).map (stateAt stream output slices states) } := by
  unfold decodeSlices taskOrder
  cases hparallel : isParallel stream threadCount slices with
  | false =>
    have hserial := @decodeSerial_from stream output slices states 0 slices.length
      { memory, states } fun _ _ => rfl
    rw [← List.range_eq_range', statesAfter_perm (by rw [hstates]), hstates] at hserial
    exact hserial
  | true =>
    have hperm := horder hparallel
    have hnodup : order.Nodup := hperm.nodup_iff.mpr List.nodup_range
    have herrors (position : Nat) (hlt : position < slices.length) :
        (runTasks stream output slices order { memory, states }).1.lookup position =
          failureAt stream output slices states position := by
      rw [@runTasks_errors _ _ _ states _ _ hnodup fun _ _ => rfl,
        if_pos (hperm.mem_iff.mpr (List.mem_range.mpr hlt))]
    have hfirst : firstError slices.length (runTasks stream output slices order
        { memory, states }).1 =
          (List.range slices.length).findSome? (failureAt stream output slices states) := by
      rw [firstError, ← List.head?_filterMap, ← List.head?_filterMap]
      exact congrArg List.head? (List.filterMap_congr fun position hmem =>
        herrors position (List.mem_range.mp hmem))
    simp only [if_true, decodeParallel, hfirst]
    cases hfailure : (List.range slices.length).findSome?
        (failureAt stream output slices states) with
    | some status => exact ⟨_, rfl⟩
    | none =>
      rw [List.findSome?_eq_none_iff] at hfailure
      have hrun := @runTasks_of_success _ _ _ states _ { memory, states } hnodup
        (fun _ _ => rfl) fun position hmem => hfailure position (hperm.mem_iff.mp hmem)
      simp only [hrun]
      rw [statesAfter_perm (by rwa [hstates]), hstates]

end Orders

/-- Slices that the parser placed, which cover the raster of the frame. -/
structure Covers (stream : StreamParameters) (slices : List SliceDescriptor) : Prop where
  placed : ∀ slice ∈ slices, Placed stream slice
  covered : validateSliceRasterCoverage stream slices = .ok ()

/-- A byte of a window belongs to a cell of its rectangle. -/
theorem windowBytes_cell {plane : PlaneView} {rect : Tiling.Rect} {window : PlaneWindow}
    (haddresses : AddressesRect plane rect window) {buffer : Nat} {a : Int}
    (h : window.Bytes buffer a) :
    rect.Contains
      (((a - plane.start) % plane.info.strideBytes.toInt).toNat /
        bytesPerSample plane.info.sampleFormat)
      ((a - plane.start) / plane.info.strideBytes.toInt).toNat := by
  obtain ⟨-, y, hy, hlow, hhigh⟩ := h
  rw [haddresses.height] at hy
  rw [haddresses.width, haddresses.sampleFormat] at hhigh
  rw [PlaneWindow.rowAddress, haddresses.start, haddresses.offset, haddresses.stride, windowOffset,
    add_assoc, ← le_sub_iff_add_le'] at hlow
  rw [PlaneWindow.rowAddress, haddresses.start, haddresses.offset, haddresses.stride, windowOffset,
    add_assoc, add_assoc, ← sub_lt_iff_lt_add'] at hhigh
  generalize a - plane.start = a at *
  have hrow := haddresses.row_le
  have hx := haddresses.x_le
  generalize plane.info.strideBytes.toInt = stride at *
  have hbytes := bytesPerSample_pos plane.info.sampleFormat
  generalize bytesPerSample plane.info.sampleFormat = bytes at *
  have hcolumn : (((rect.x + rect.width) * bytes : Nat) : Int) ≤ stride :=
    le_trans (by exact_mod_cast Nat.mul_le_mul_right bytes hx) hrow
  push_cast at hcolumn
  obtain ⟨column, hsplit⟩ : ∃ column : Int, a = stride * (rect.y + y) + column :=
    ⟨a - stride * (rect.y + y), by ring⟩
  have hlo : (rect.x : Int) * bytes ≤ column := by nlinarith
  have hhi : column < (rect.x + rect.width : Int) * bytes := by nlinarith
  have hpositive : 0 < stride := by nlinarith
  have hmod : a % stride = column := by
    rw [hsplit, Int.mul_add_emod_self_left]
    exact Int.emod_eq_of_lt (le_trans (by positivity) hlo) (lt_of_lt_of_le hhi hcolumn)
  have hdiv : a / stride = rect.y + y := by
    rw [hsplit, Int.mul_add_ediv_left _ _ hpositive.ne',
      Int.ediv_eq_zero_of_lt (le_trans (by positivity) hlo) (lt_of_lt_of_le hhi hcolumn), add_zero]
  obtain ⟨offset, rfl⟩ := Int.eq_ofNat_of_zero_le (le_trans (by positivity) hlo)
  have hlo' : rect.x * bytes ≤ offset := by exact_mod_cast hlo
  have hhi' : offset < (rect.x + rect.width) * bytes := by exact_mod_cast hhi
  rw [hmod, hdiv]
  refine ⟨⟨(Nat.le_div_iff_mul_le hbytes).mpr hlo', (Nat.div_lt_iff_lt_mul hbytes).mpr hhi'⟩, ?_⟩
  omega

section Frames

variable {stream : StreamParameters} {output : FrameView} {slices : List SliceDescriptor}
  {states : List SliceState}

theorem sliceAt_mem {position : Nat} (h : position < slices.length) :
    sliceAt slices position ∈ slices := by
  simp [sliceAt, h]

/-- What two slices of a frame write does not meet, if its planes do not. -/
theorem patchAt_disjoint (hcovers : Covers stream slices)
    (hvalid : FrameValidator.validateOutput stream output = .ok ())
    (hplanes : PlanesApart stream output) {p q : Nat}
    (hp : p < slices.length) (hq : q < slices.length) (hne : p ≠ q) :
    (patchAt stream output slices states p).Disjoint (patchAt stream output slices states q) := by
  have hwithin (position : Nat) (hlt : position < slices.length) :
      patchAt stream output slices states position = Patch.nothing ∨
        ∃ windows, SliceOutputWindow.validate stream output (sliceAt slices position) = .ok windows ∧
          (patchAt stream output slices states position).Within (windowBytes windows) := by
    have hstays := sliceOutcome_staysIn stream output (sliceAt slices position)
      (states.getD position {})
    unfold patchAt outcomeAt
    cases houtcome : sliceOutcome stream output (sliceAt slices position)
        (states.getD position {}) with
    | error status => exact .inl rfl
    | ok outcome =>
      exact .inr (hstays outcome houtcome (hcovers.placed _ (sliceAt_mem hlt)) hvalid)
  rcases hwithin p hp with hnothing | ⟨left, hleft, hleftWithin⟩
  · rw [hnothing]
    exact fun _ _ => .inl rfl
  rcases hwithin q hq with hnothing | ⟨right, hright, hrightWithin⟩
  · rw [hnothing]
    exact fun _ _ => .inr rfl
  refine hleftWithin.disjoint hrightWithin fun buffer a ⟨planeIndex, hplane, hbyte⟩
    ⟨planeIndex', hplane', hbyte'⟩ => ?_
  rw [SliceOutputWindow.validate_length hleft] at hplane
  rw [SliceOutputWindow.validate_length hright] at hplane'
  obtain rfl : planeIndex = planeIndex' := by
    by_contra hother
    exact hplanes _ hplane _ hplane' hother buffer a
      (windowBytes_inPlane (hcovers.placed _ (sliceAt_mem hp)) hleft hplane hbyte)
      (windowBytes_inPlane (hcovers.placed _ (sliceAt_mem hq)) hright hplane' hbyte')
  have hcell := windowBytes_cell (SliceOutputWindow.validate_addresses hleft hplane) hbyte
  have hcell' := windowBytes_cell (SliceOutputWindow.validate_addresses hright hplane) hbyte'
  have hinside (k : Fin slices.length) := (hcovers.placed _ (List.get_mem slices k)).outputRect_inside
    planeIndex
  have hget (k : Fin slices.length) : slices.get k = sliceAt slices k := by simp [sliceAt]
  have hapart := (outputRects_exactCover hcovers.placed hcovers.covered planeIndex).disjoint hinside
    ⟨p, hp⟩ ⟨q, hq⟩ (fun heq => hne (congrArg Fin.val heq))
  rw [hget, hget] at hapart
  exact hapart _ _ hcell hcell'

theorem patches_disjoint (hcovers : Covers stream slices)
    (hvalid : FrameValidator.validateOutput stream output = .ok ())
    (hplanes : PlanesApart stream output) :
    ((List.range slices.length).map (patchAt stream output slices states)).Pairwise
      Patch.Disjoint := by
  rw [List.pairwise_map]
  exact List.nodup_range.imp_of_mem fun hp hq hne => patchAt_disjoint hcovers hvalid hplanes
    (List.mem_range.mp hp) (List.mem_range.mp hq) hne

end Frames

end SliceExecutor

end Mffv1
