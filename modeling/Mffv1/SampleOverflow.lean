import Mffv1.ContextFolding
import Mffv1.RangeProgress
import Mffv1.RgbRoundTrip
import Mffv1.SampleArithmetic

/-!
# Contents that overflow

A residual is any 32-bit integer, and it is added to the prediction of its sample. The
first sample of a plane is predicted from the border and every later one from samples, so
that a slice is safe from all contents exactly where every prediction is zero.
-/
namespace Mffv1

namespace SampleStep

def isSample : SampleStep → Bool
  | .sample .. => true
  | _ => false

def isSampleOf (planeIndex : Nat) : SampleStep → Bool
  | .sample sampled _ _ _ => decide (sampled = planeIndex)
  | _ => false

theorem isSampleOf_self (planeIndex x bits : Nat) (signed16bit : Bool) :
    (sample planeIndex x bits signed16bit).isSampleOf planeIndex = true := decide_eq_true rfl

/-- The step changes the lines of the plane. -/
def touches (planeIndex : Nat) : SampleStep → Bool
  | .sample sampled _ _ _ => decide (sampled = planeIndex)
  | .storePlanar stored _ => decide (stored = planeIndex)
  | .storeRgb _ => true

theorem touches_of_isSampleOf {planeIndex : Nat} {step : SampleStep}
    (h : step.isSampleOf planeIndex = true) : step.touches planeIndex = true := by
  cases step with
  | sample sampled x bits signed16bit => exact h
  | storePlanar stored y => cases h
  | storeRgb y => cases h

/-- What a step makes of a line that it touches, where the residual is `difference`. -/
def onLine (difference : Int) : SampleStep → LineState → LineState
  | .sample _ x bits signed16bit, line => line.store x
    (Predictor.reconstruct (medianPrediction signed16bit (line.neighbors x)) difference bits)
  | _, line => line.swapLines

/-- What a step makes of the lines of a slice. -/
def onLines (difference : Int) (step : SampleStep) (state : SliceState) : SliceState :=
  match step with
  | .sample planeIndex _ _ _ => state.modifyLine planeIndex (step.onLine difference)
  | .storePlanar planeIndex _ => state.modifyLine planeIndex (step.onLine difference)
  | .storeRgb _ => state.swapAllLines

variable {difference : Int} {step : SampleStep} {state : SliceState} {planeIndex : Nat}

theorem onLines_planeCount : (step.onLines difference state).planeCount = state.planeCount := by
  cases step with
  | sample => exact SliceState.planeCount_modifyLine
  | storePlanar => exact SliceState.planeCount_modifyLine
  | storeRgb => exact SliceState.planeCount_swapAllLines

theorem onLines_line (hplane : planeIndex < state.planeCount) :
    (step.onLines difference state).lineState planeIndex =
      if step.touches planeIndex then step.onLine difference (state.lineState planeIndex)
      else state.lineState planeIndex := by
  cases step with
  | sample sampled x bits signed16bit =>
    by_cases h : sampled = planeIndex
    · subst h
      simp only [touches, decide_true, if_true]
      exact SliceState.lineState_modifyLine hplane
    · simp only [touches, h, decide_false, Bool.false_eq_true, if_false]
      exact SliceState.lineState_modifyLine_of_ne (Ne.symm h)
  | storePlanar stored y =>
    by_cases h : stored = planeIndex
    · subst h
      simp only [touches, decide_true, if_true]
      exact SliceState.lineState_modifyLine hplane
    · simp only [touches, h, decide_false, Bool.false_eq_true, if_false]
      exact SliceState.lineState_modifyLine_of_ne (Ne.symm h)
  | storeRgb y => exact SliceState.lineState_swapAllLines hplane

/-- A step that touches the plane without a sample swaps its lines. -/
theorem onLine_of_store (h : step.isSampleOf planeIndex = false) (htouches : step.touches planeIndex = true)
    (line : LineState) : step.onLine difference line = line.swapLines := by
  cases step with
  | sample sampled x bits signed16bit => exact absurd (h.symm.trans htouches) Bool.false_ne_true
  | storePlanar stored y => rfl
  | storeRgb y => rfl

end SampleStep

/-- The lines behind steps that all have the residual `difference`. -/
def lineBehind (difference : Int) (steps : List SampleStep) (line : LineState) : LineState :=
  steps.foldl (fun line step => step.onLine difference line) line

@[simp] theorem lineBehind_nil (difference : Int) (line : LineState) :
    lineBehind difference [] line = line := rfl

@[simp] theorem lineBehind_cons (difference : Int) (step : SampleStep) (steps : List SampleStep)
    (line : LineState) : lineBehind difference (step :: steps) line =
      lineBehind difference steps (step.onLine difference line) := rfl

section Lines

variable {planeIndex : Nat}

theorem bordered_swapLines (width : Nat) (border : Int) :
    (LineState.bordered width border).swapLines = LineState.bordered width border := by
  unfold LineState.swapLines LineState.bordered
  simp

/-- Without a sample the lines of a plane are its border. -/
theorem lineBehind_bordered {difference : Int} {steps : List SampleStep} (width : Nat) (border : Int)
    (h : ∀ step ∈ steps, step.isSampleOf planeIndex = false) :
    lineBehind difference (steps.filter (SampleStep.touches planeIndex))
      (LineState.bordered width border) = LineState.bordered width border := by
  induction steps with
  | nil => rfl
  | cons step steps ih =>
    obtain ⟨hstep, hsteps⟩ := List.forall_mem_cons.mp h
    cases htouches : step.touches planeIndex with
    | false =>
      rw [List.filter_cons_of_neg (by simp [htouches])]
      exact ih hsteps
    | true =>
      rw [List.filter_cons_of_pos htouches, lineBehind_cons,
        SampleStep.onLine_of_store hstep htouches, bordered_swapLines]
      exact ih hsteps

end Lines

theorem SliceState.modifyLine_congr {state : SliceState} {planeIndex : Nat}
    {f g : LineState → LineState} (h : f (state.lineState planeIndex) = g (state.lineState planeIndex)) :
    state.modifyLine planeIndex f = state.modifyLine planeIndex g := by
  unfold SliceState.modifyLine
  refine congrArg (fun lines => { state with lineStates := lines }) ?_
  refine List.ext_getElem (by simp) fun i hi _ => ?_
  rw [List.length_modify] at hi
  rw [List.getElem_modify, List.getElem_modify]
  by_cases hplane : planeIndex = i
  · subst hplane
    unfold SliceState.lineState at h
    rw [List.getD_eq_getElem _ _ hi] at h
    rw [if_pos rfl, if_pos rfl, h]
  · rw [if_neg hplane, if_neg hplane]

section Decoder

variable {R : Type} [SymbolSource R] {stream : StreamParameters} {setup : RangeSliceSetup}
  {windows : List PlaneWindow} {planeIndex : Nat}

/-- What a decoded step makes of the lines. -/
theorem runStep_lines {step : SampleStep} {decoding decoding' : Decoding R} {u : Unit}
    (h : runStep stream setup windows step decoding = .ok u decoding') :
    ∃ difference, decoding'.state = step.onLines difference decoding.state := by
  cases step with
  | sample sampled x bits signed16bit =>
    obtain ⟨difference, hstate⟩ := decodeRangeSample_state h
    exact ⟨difference, hstate.trans (SliceState.modifyLine_congr rfl)⟩
  | storePlanar stored y =>
    simp only [runStep, storePlanarLine, Mirror.bind_ok_iff, Mirror.ofExcept_ok_iff,
      Mirror.get_bind, Mirror.modify_bind, Mirror.modify_apply, EStateM.Result.ok.injEq] at h
    obtain ⟨_, _, ⟨-, rfl⟩, -, rfl⟩ := h
    exact ⟨0, rfl⟩
  | storeRgb y =>
    simp only [runStep, storeRgbLine, Mirror.bind_ok_iff, Mirror.ofExcept_ok_iff,
      Mirror.get_bind, Mirror.modify_bind, Mirror.modify_apply, EStateM.Result.ok.injEq] at h
    obtain ⟨_, _, ⟨-, rfl⟩, -, rfl⟩ := h
    exact ⟨0, rfl⟩

/-- Until the first sample of a plane its lines are the border. -/
theorem runSteps_bordered {steps : List SampleStep} {width : Nat} {border : Int}
    (hsteps : ∀ step ∈ steps, step.isSampleOf planeIndex = false) :
    Mirror.Keeps (fun decoding : Decoding R => planeIndex < decoding.state.planeCount ∧
        decoding.state.lineState planeIndex = LineState.bordered width border)
      (runSteps stream setup windows steps) := by
  induction steps with
  | nil => exact Mirror.Keeps.pure
  | cons step steps ih =>
    obtain ⟨hstep, hrest⟩ := List.forall_mem_cons.mp hsteps
    refine Mirror.Keeps.bind (fun decoding u decoding' hbefore hrun => ?_) fun _ => ih hrest
    obtain ⟨hplane, hline⟩ := hbefore
    obtain ⟨difference, hstate⟩ := runStep_lines hrun
    rw [hstate, SampleStep.onLines_planeCount, SampleStep.onLines_line hplane, hline]
    refine ⟨hplane, ?_⟩
    split
    · rw [SampleStep.onLine_of_store hstep ‹_›, bordered_swapLines]
    · rfl

end Decoder

/-- The windows of a slice, in the format of the stream; those of RGB are of one size. -/
structure SliceWindows (stream : StreamParameters) (windows : List PlaneWindow) : Prop where
  planes : windows.length = stream.codedPlaneCount
  width : ∀ planeIndex < windows.length, 0 < (planeWindow windows planeIndex).width.toNat
  sampleFormat : ∀ planeIndex < windows.length,
    (planeWindow windows planeIndex).sampleFormat = sampleFormatForBitDepth stream.bitsPerRawSample
  rgb : stream.colorspaceType = 1 → ∀ planeIndex < windows.length,
    (planeWindow windows planeIndex).width = (planeWindow windows 0).width ∧
      (planeWindow windows planeIndex).height = (planeWindow windows 0).height

theorem SliceWindows.shape {stream : StreamParameters} {windows : List PlaneWindow}
    (h : SliceWindows stream windows) : WindowShape stream windows
      (fun planeIndex => (planeWindow windows planeIndex).width.toNat)
      (fun planeIndex => (planeWindow windows planeIndex).height.toNat) where
  planes := h.planes
  width _ _ := rfl
  height _ _ := rfl
  sampleFormat planeIndex hplane := h.sampleFormat planeIndex (h.planes ▸ hplane)

/-- The sample or the row is one of the windows. -/
def SampleStep.InSlice (stream : StreamParameters) (windows : List PlaneWindow) : SampleStep → Prop
  | .sample planeIndex x _ _ =>
    planeIndex < windows.length ∧ x < (planeWindow windows planeIndex).width.toNat
  | .storePlanar planeIndex y =>
    planeIndex < windows.length ∧ y < (planeWindow windows planeIndex).height.toNat
  | .storeRgb y => stream.colorspaceType = 1 ∧ y < (planeWindow windows 0).height.toNat

section Order

variable {stream : StreamParameters} {windows : List PlaneWindow} {planeIndex other : Nat}

theorem lineSteps_eq (planeIndex width bits : Nat) (signed16bit : Bool) :
    lineSteps planeIndex width bits signed16bit =
      (List.range' 0 width).map fun x => .sample planeIndex x bits signed16bit :=
  List.map_eq_flatMap.symm

theorem filter_lineSteps (width bits : Nat) (signed16bit : Bool) :
    (lineSteps other width bits signed16bit).filter (SampleStep.touches planeIndex) =
      if other = planeIndex then lineSteps other width bits signed16bit else [] := by
  rw [lineSteps_eq]
  by_cases h : other = planeIndex
  · rw [if_pos h]
    refine List.filter_eq_self.mpr fun step hstep => ?_
    obtain ⟨x, -, rfl⟩ := List.mem_map.mp hstep
    exact decide_eq_true h
  · rw [if_neg h]
    refine List.filter_eq_nil_iff.mpr fun step hstep => ?_
    obtain ⟨x, -, rfl⟩ := List.mem_map.mp hstep
    simpa [SampleStep.touches] using h

theorem filter_planarLineSteps (y : Nat) :
    (planarLineSteps stream windows other y).filter (SampleStep.touches planeIndex) =
      if other = planeIndex then planarLineSteps stream windows other y else [] := by
  unfold planarLineSteps
  rw [List.filter_append, filter_lineSteps]
  by_cases h : other = planeIndex
  · simp [SampleStep.touches, h]
  · simp [SampleStep.touches, h]

theorem range'_lt {i count : Nat} (h : i ∈ List.range' 0 count) : i < count := by
  simpa using h

theorem lineSteps_inSlice {width bits : Nat} {signed16bit : Bool} {step : SampleStep}
    (hplane : planeIndex < windows.length)
    (hwidth : width = (planeWindow windows planeIndex).width.toNat)
    (hstep : step ∈ lineSteps planeIndex width bits signed16bit) : step.InSlice stream windows := by
  rw [lineSteps_eq] at hstep
  obtain ⟨x, hx, rfl⟩ := List.mem_map.mp hstep
  exact ⟨hplane, hwidth ▸ range'_lt hx⟩

theorem planarLineSteps_inSlice {y : Nat} {step : SampleStep} (hplane : planeIndex < windows.length)
    (hy : y < (planeWindow windows planeIndex).height.toNat)
    (hstep : step ∈ planarLineSteps stream windows planeIndex y) : step.InSlice stream windows := by
  rcases List.mem_append.mp hstep with hline | hstore
  · exact lineSteps_inSlice hplane rfl hline
  · obtain rfl := List.mem_singleton.mp hstore
    exact ⟨hplane, hy⟩

theorem sliceSteps_inSlice (h : SliceWindows stream windows) {step : SampleStep}
    (hstep : step ∈ sliceSteps stream windows) : step.InSlice stream windows := by
  unfold sliceSteps at hstep
  split at hstep
  · obtain ⟨y, hy, hrow⟩ := List.mem_flatMap.mp hstep
    rcases List.mem_append.mp hrow with hlines | hstore
    · obtain ⟨planeIndex, hplane, hline⟩ := List.mem_flatMap.mp hlines
      have hlt := range'_lt hplane
      exact lineSteps_inSlice hlt (by rw [(h.rgb ‹_› planeIndex hlt).1]) hline
    · obtain rfl := List.mem_singleton.mp hstore
      exact ⟨‹_›, range'_lt hy⟩
  · split at hstep
    · obtain ⟨y, -, hrow⟩ := List.mem_flatMap.mp hstep
      obtain ⟨planeIndex, hplane, hline⟩ := List.mem_flatMap.mp hrow
      split at hline
      · exact absurd hline List.not_mem_nil
      · exact planarLineSteps_inSlice (range'_lt hplane) (by omega) hline
    · obtain ⟨planeIndex, hplane, hrows⟩ := List.mem_flatMap.mp hstep
      obtain ⟨y, hy, hline⟩ := List.mem_flatMap.mp hrows
      exact planarLineSteps_inSlice (range'_lt hplane) (range'_lt hy) hline

/-- One plane of many. -/
theorem flatMap_plane {α : Type} (f : Nat → List α) {count : Nat} (hplane : planeIndex < count) :
    ((List.range' 0 count).flatMap fun other => if other = planeIndex then f other else []) =
      f planeIndex := by
  have hsplit : List.range' 0 count = List.range' 0 planeIndex ++
      planeIndex :: List.range' (planeIndex + 1) (count - planeIndex - 1) := by
    rw [← List.range'_succ, show count - planeIndex - 1 + 1 = count - planeIndex by omega]
    have happend : List.range' 0 planeIndex ++ List.range' (0 + planeIndex) (count - planeIndex) =
        List.range' 0 (planeIndex + (count - planeIndex)) := List.range'_append_1
    rw [Nat.zero_add] at happend
    rw [happend, show planeIndex + (count - planeIndex) = count by omega]
  have hother (others : List Nat) (h : planeIndex ∉ others) :
      (others.flatMap fun other => if other = planeIndex then f other else []) = [] := by
    refine List.flatMap_eq_nil_iff.mpr fun other hmem => if_neg ?_
    rintro rfl
    exact h hmem
  have hbefore := hother (List.range' 0 planeIndex)
    (fun hmem => absurd (List.mem_range'_1.mp hmem).2 (by omega))
  have hbehind := hother (List.range' (planeIndex + 1) (count - planeIndex - 1))
    (fun hmem => absurd (List.mem_range'_1.mp hmem).1 (by omega))
  rw [hsplit, List.flatMap_append, List.flatMap_cons, hbefore, hbehind, if_pos rfl,
    List.append_nil, List.nil_append]

/-- A row is left out where the plane has ended. -/
theorem flatMap_unless {α : Type} (rows : List Nat) (ended : Nat → Prop) [DecidablePred ended]
    (f : Nat → List α) :
    (rows.flatMap fun y => if ended y then [] else f y) =
      (rows.filter fun y => !decide (ended y)).flatMap f := by
  induction rows with
  | nil => rfl
  | cons y rows ih =>
    rw [List.flatMap_cons, ih]
    by_cases h : ended y
    · simp [h]
    · simp [h]

/-- The steps of one plane are rows, in each a line of samples and its store. -/
theorem sliceSteps_order (h : SliceWindows stream windows) (hplane : planeIndex < windows.length) :
    ∃ (bits : Nat) (signed16bit : Bool) (rows : List Nat) (store : Nat → SampleStep),
      (∀ y, (store y).isSampleOf planeIndex = false) ∧
        (sliceSteps stream windows).filter (SampleStep.touches planeIndex) =
          rows.flatMap fun y => lineSteps planeIndex (planeWindow windows planeIndex).width.toNat bits
            signed16bit ++ [store y] := by
  unfold sliceSteps
  by_cases hcolor : stream.colorspaceType = 1
  · rw [if_pos hcolor]
    refine ⟨rgbReconstructionBits stream planeIndex, false,
      List.range' 0 (planeWindow windows 0).height.toNat, SampleStep.storeRgb, fun _ => rfl, ?_⟩
    rw [List.filter_flatMap]
    refine List.flatMap_congr fun y _ => ?_
    unfold rgbRowSteps
    rw [List.filter_append, List.filter_flatMap]
    simp only [filter_lineSteps]
    rw [flatMap_plane _ hplane, (h.rgb hcolor planeIndex hplane).1]
    rfl
  · rw [if_neg hcolor]
    refine ⟨stream.bitsPerRawSample.toNat, stream.usesSigned16bitPredictor, ?_⟩
    by_cases hinterleaved : usesLegacyRangeYcbcrRowOrder stream = true
    · rw [if_pos hinterleaved]
      refine ⟨(List.range' 0 (planeWindow windows 0).height.toNat).filter fun y =>
        !decide ((planeWindow windows planeIndex).height.toNat ≤ y),
        SampleStep.storePlanar planeIndex, fun _ => rfl, ?_⟩
      rw [List.filter_flatMap]
      refine Eq.trans (List.flatMap_congr fun y _ => ?_) (flatMap_unless _
        (fun y => (planeWindow windows planeIndex).height.toNat ≤ y) _)
      unfold interleavedRowSteps
      rw [List.filter_flatMap]
      refine Eq.trans (List.flatMap_congr fun other _ => ?_) (flatMap_plane
        (fun other => if (planeWindow windows other).height.toNat ≤ y then []
          else planarLineSteps stream windows other y) hplane)
      split
      · simp
      · exact filter_planarLineSteps y
    · rw [if_neg hinterleaved]
      refine ⟨List.range' 0 (planeWindow windows planeIndex).height.toNat,
        SampleStep.storePlanar planeIndex, fun _ => rfl, ?_⟩
      rw [List.filter_flatMap]
      refine Eq.trans (List.flatMap_congr fun other _ => ?_)
        (flatMap_plane (planeSteps stream windows) hplane)
      unfold planeSteps
      rw [List.filter_flatMap]
      by_cases hother : other = planeIndex
      · rw [if_pos hother]
        refine List.flatMap_congr fun y _ => ?_
        rw [filter_planarLineSteps, if_pos hother]
      · rw [if_neg hother]
        refine List.flatMap_eq_nil_iff.mpr fun y _ => ?_
        rw [filter_planarLineSteps, if_neg hother]

/-- The second sample of a plane is beside the first, or below it where the plane is one
sample wide. -/
theorem second_sample {rows : List Nat} {store : Nat → SampleStep} {width bits x bits' : Nat}
    {signed16bit signed16bit' : Bool} {before behind : List SampleStep}
    (hstore : ∀ y, (store y).isSampleOf planeIndex = false) (hwidth : 0 < width)
    (hsteps : (rows.flatMap fun y => lineSteps planeIndex width bits signed16bit ++ [store y]) =
      before ++ .sample planeIndex x bits' signed16bit' :: behind)
    (hone : before.countP (SampleStep.isSampleOf planeIndex) = 1) :
    (before = [.sample planeIndex 0 bits signed16bit] ∧ x = 1 ∧ 1 < width) ∨
      ∃ y, before = [.sample planeIndex 0 bits signed16bit, store y] ∧ x = 0 ∧ width = 1 := by
  have hsample := SampleStep.isSampleOf_self planeIndex
  cases rows with
  | nil => exact absurd hsteps.symm (by simp)
  | cons y rows =>
    obtain ⟨width, rfl⟩ : ∃ n, width = n + 1 := ⟨width - 1, by omega⟩
    rw [List.flatMap_cons, lineSteps_eq, List.range'_succ, List.map_cons] at hsteps
    cases before with
    | nil => exact absurd hone (by simp)
    | cons first before =>
      simp only [List.cons_append, List.cons.injEq] at hsteps
      obtain ⟨rfl, hsteps⟩ := hsteps
      rw [List.countP_cons_of_pos (hsample _ _ _)] at hone
      have hnone := List.countP_eq_zero.mp (Nat.succ.inj hone)
      cases width with
      | succ width =>
        rw [List.range'_succ, List.map_cons] at hsteps
        cases before with
        | nil =>
          simp only [List.cons_append, List.nil_append, List.cons.injEq,
            SampleStep.sample.injEq] at hsteps
          exact .inl ⟨rfl, hsteps.1.2.1.symm, by omega⟩
        | cons next before =>
          simp only [List.cons_append, List.cons.injEq] at hsteps
          exact absurd (hsample _ _ _) (hsteps.1 ▸ hnone next List.mem_cons_self)
      | zero =>
        cases before with
        | nil =>
          have hfirst := (List.cons.inj hsteps).1
          have hsampled := hstore y
          rw [hfirst, hsample] at hsampled
          cases hsampled
        | cons next before =>
          simp only [List.range'_zero, List.map_nil, List.nil_append, List.cons_append,
            List.cons.injEq] at hsteps
          obtain ⟨rfl, hsteps⟩ := hsteps
          cases rows with
          | nil => exact absurd hsteps.symm (by simp)
          | cons y' rows =>
            rw [List.flatMap_cons] at hsteps
            cases before with
            | nil =>
              simp only [List.cons_append, List.nil_append, List.cons.injEq,
                SampleStep.sample.injEq] at hsteps
              exact .inr ⟨y, rfl, hsteps.1.2.1.symm, rfl⟩
            | cons third before =>
              simp only [List.cons_append, List.cons.injEq] at hsteps
              exact absurd (hsample _ _ _) (hsteps.1 ▸ hnone third (by simp))

end Order

section Predictions

theorem medianPrediction_of (left top topLeft : Int) {value : Int} {neighbors : NeighborSamples}
    (hleft : neighbors.left = left) (htop : neighbors.top = top)
    (htopLeft : neighbors.topLeft = topLeft)
    (hmedian : Predictor.medianPredict left top topLeft = value)
    (hsmall : left < 32768 ∧ top < 32768 ∧ topLeft < 32768) (signed16bit : Bool) :
    medianPrediction signed16bit neighbors = value := by
  obtain ⟨h₁, h₂, h₃⟩ := hsmall
  unfold medianPrediction Predictor.medianPredictSigned16bit Predictor.asSigned16bit
  rw [hleft, htop, htopLeft, if_neg (not_le.mpr h₁), if_neg (not_le.mpr h₂),
    if_neg (not_le.mpr h₃), hmedian, ite_self]

/-- A sample in the middle of a border is predicted to be the border. -/
theorem bordered_prediction {width x : Nat} {border : Int} (hx : x < width) (hborder : border < 32768)
    (signed16bit : Bool) :
    medianPrediction signed16bit ((LineState.bordered width border).neighbors x) = border := by
  have hget {i : Nat} (hi : i < width) : (List.replicate width border).getD i 0 = border := by
    rw [List.getD_eq_getElem _ _ (by simpa using hi), List.getElem_replicate]
  refine medianPrediction_of border border border ?_ ?_ ?_ ?_
    ⟨hborder, hborder, hborder⟩ signed16bit
  · simp only [LineState.neighbors, LineState.bordered]
    split
    · exact hget (by omega)
    · exact hget (by omega)
  · exact hget hx
  · simp only [LineState.neighbors, LineState.bordered]
    split
    · exact hget (by omega)
    · exact hget (by omega)
  · unfold Predictor.medianPredict median3
    rw [show border + border - border = border by omega, min_self, max_self, min_self, max_self]

/-- The first sample of a plane with the residual 1, on a border of zeros. -/
theorem firstSample_line (planeIndex : Nat) {width bits : Nat} (hwidth : 0 < width)
    (hbits : 1 ≤ bits ∧ bits ≤ 17) (signed16bit : Bool) :
    (SampleStep.sample planeIndex 0 bits signed16bit).onLine 1 (LineState.bordered width 0) =
      (LineState.bordered width 0).store 0 1 := by
  have hpow : (2 : Int) ^ 1 ≤ 2 ^ bits := pow_le_pow_right₀ (by decide) hbits.1
  have hvalue : Predictor.reconstruct 0 1 bits = 1 := by
    rw [reconstruct_eq_emod (by omega)]
    exact Int.emod_eq_of_lt (by decide) (by omega)
  change LineState.store _ 0 (Predictor.reconstruct (medianPrediction signed16bit _) 1 bits) = _
  rw [bordered_prediction hwidth (by decide), hvalue]

/-- The second sample is predicted to be the first. -/
theorem secondSample_prediction {width : Nat} (hwidth : 1 < width) (signed16bit : Bool) :
    medianPrediction signed16bit (((LineState.bordered width 0).store 0 1).neighbors 1) = 1 := by
  refine medianPrediction_of 1 0 0 ?_ ?_ ?_ (by decide) (by decide) signed16bit
  · simp [LineState.neighbors, LineState.bordered, LineState.store, List.getD_eq_getElem?_getD,
      show 0 < width by omega]
  · simp [LineState.neighbors, LineState.bordered, LineState.store, List.getD_eq_getElem?_getD]
  · simp [LineState.neighbors, LineState.bordered, LineState.store, List.getD_eq_getElem?_getD]

theorem lowerSample_prediction (signed16bit : Bool) :
    medianPrediction signed16bit (((LineState.bordered 1 0).store 0 1).swapLines.neighbors 0) = 1 :=
  medianPrediction_of 1 1 0 rfl rfl rfl (by decide) (by decide) signed16bit

end Predictions

/-- The samples of a plane that the decoder comes to. -/
def planeSampleCount (stream : StreamParameters) (windows : List PlaneWindow) (planeIndex : Nat) : Nat :=
  (sliceSteps stream windows).countP (SampleStep.isSampleOf planeIndex)

/-- No plane has a second sample, and none with a sample has a border other than zero. -/
def PredictsZero (stream : StreamParameters) (windows : List PlaneWindow) : Prop :=
  ∀ planeIndex < windows.length, planeSampleCount stream windows planeIndex = 0 ∨
    planeSampleCount stream windows planeIndex = 1 ∧ planeBorderValue stream planeIndex = 0

instance (stream : StreamParameters) (windows : List PlaneWindow) :
    Decidable (PredictsZero stream windows) := by
  unfold PredictsZero
  infer_instance

/-- Behind `before`, the step is a sample with a prediction. -/
def Predicted (stream : StreamParameters) (before : List SampleStep) (step : SampleStep) : Prop :=
  ∃ planeIndex, step.isSampleOf planeIndex = true ∧ (planeBorderValue stream planeIndex ≠ 0 ∨
    ∃ earlier ∈ before, earlier.isSampleOf planeIndex = true)

section First

variable {α : Type} {items : List α}

/-- The first place of a list where something holds of an item and what is before it. -/
theorem exists_first {property : List α → α → Prop} {before behind : List α} {item : α}
    (hitems : items = before ++ item :: behind) (h : property before item) :
    ∃ before item behind, items = before ++ item :: behind ∧ property before item ∧
      ∀ first other second, before = first ++ other :: second → ¬property first other := by
  induction hlength : before.length using Nat.strong_induction_on generalizing before item behind with
  | _ length ih =>
    by_cases hearlier : ∃ first other second, before = first ++ other :: second ∧
        property first other
    · obtain ⟨first, other, second, rfl, hother⟩ := hearlier
      rw [List.append_assoc, List.cons_append] at hitems
      refine ih first.length ?_ hitems hother rfl
      rw [← hlength, List.length_append, List.length_cons]
      omega
    · exact ⟨before, item, behind, hitems, h, fun first other second hbefore hother =>
        hearlier ⟨first, other, second, hbefore, hother⟩⟩

/-- Two items of a kind: one is behind the other. -/
theorem exists_second {kind : α → Bool} (h : 2 ≤ items.countP kind) :
    ∃ before item behind, items = before ++ item :: behind ∧ kind item = true ∧
      ∃ earlier ∈ before, kind earlier = true := by
  induction items with
  | nil => exact absurd h (by simp)
  | cons first items ih =>
    cases hfirst : kind first with
    | true =>
      rw [List.countP_cons_of_pos hfirst] at h
      obtain ⟨item, hmem, hitem⟩ := List.countP_pos_iff.mp (show 0 < items.countP kind by omega)
      obtain ⟨before, behind, rfl⟩ := List.append_of_mem hmem
      exact ⟨first :: before, item, behind, rfl, hitem, first, List.mem_cons_self, hfirst⟩
    | false =>
      rw [List.countP_cons_of_neg (by simp [hfirst])] at h
      obtain ⟨before, item, behind, rfl, hitem, earlier, hmem, hearlier⟩ := ih h
      exact ⟨first :: before, item, behind, rfl, hitem, earlier, List.mem_cons_of_mem _ hmem,
        hearlier⟩

end First

section Predicting

variable {stream : StreamParameters} {windows : List PlaneWindow}

/-- A slice with a prediction has a first one. -/
theorem exists_predicted (h : ¬PredictsZero stream windows) :
    ∃ before step behind, sliceSteps stream windows = before ++ step :: behind ∧
      Predicted stream before step ∧ ∀ first other second, before = first ++ other :: second →
        ¬Predicted stream first other := by
  obtain ⟨planeIndex, hplane⟩ := not_forall.mp h
  obtain ⟨hsome, hmany⟩ := not_or.mp (Classical.not_imp.mp hplane).2
  unfold planeSampleCount at hsome hmany
  by_cases hborder : planeBorderValue stream planeIndex = 0
  · have htwo : 2 ≤ (sliceSteps stream windows).countP (SampleStep.isSampleOf planeIndex) := by
      have hone := fun hone => hmany ⟨hone, hborder⟩
      omega
    obtain ⟨before, step, behind, hsteps, hstep, hearlier⟩ := exists_second htwo
    exact exists_first hsteps ⟨planeIndex, hstep, .inr hearlier⟩
  · obtain ⟨step, hmem, hstep⟩ := List.countP_pos_iff.mp (Nat.pos_of_ne_zero hsome)
    obtain ⟨before, behind, hsteps⟩ := List.append_of_mem hmem
    exact exists_first hsteps ⟨planeIndex, hstep, .inl hborder⟩

/-- Before the first prediction no plane has a second sample. -/
theorem unpredicted_count {steps : List SampleStep}
    (h : ∀ first other second, steps = first ++ other :: second → ¬Predicted stream first other)
    (planeIndex : Nat) : steps.countP (SampleStep.isSampleOf planeIndex) ≤ 1 := by
  by_contra hmany
  obtain ⟨first, other, second, hsteps, hother, hearlier⟩ :=
    exists_second (show 2 ≤ steps.countP (SampleStep.isSampleOf planeIndex) by omega)
  exact h first other second hsteps ⟨planeIndex, hother, .inr hearlier⟩

theorem unpredicted_border {steps : List SampleStep}
    (h : ∀ first other second, steps = first ++ other :: second → ¬Predicted stream first other)
    {planeIndex : Nat} {step : SampleStep} (hmem : step ∈ steps)
    (hstep : step.isSampleOf planeIndex = true) : planeBorderValue stream planeIndex = 0 := by
  by_contra hborder
  obtain ⟨first, second, hsteps⟩ := List.append_of_mem hmem
  exact h first step second hsteps ⟨planeIndex, hstep, .inl hborder⟩

/-- The samples of all planes. -/
theorem countP_isSample {steps : List SampleStep} {count : Nat}
    (h : ∀ step ∈ steps, step.isSample = true →
      ∃ planeIndex < count, step.isSampleOf planeIndex = true) :
    steps.countP SampleStep.isSample =
      ∑ planeIndex ∈ Finset.range count, steps.countP (SampleStep.isSampleOf planeIndex) := by
  induction steps with
  | nil => simp
  | cons step steps ih =>
    have hrest := ih fun other hmem => h other (List.mem_cons_of_mem _ hmem)
    have hstep := h step List.mem_cons_self
    simp only [List.countP_cons, Finset.sum_add_distrib, hrest]
    refine congrArg (_ + ·) ?_
    cases step with
    | sample sampled x bits signed16bit =>
      obtain ⟨planeIndex, hplane, hsampled⟩ := hstep rfl
      obtain rfl : sampled = planeIndex := of_decide_eq_true hsampled
      simp [SampleStep.isSample, SampleStep.isSampleOf, hplane]
    | storePlanar stored y => simp [SampleStep.isSample, SampleStep.isSampleOf]
    | storeRgb y => simp [SampleStep.isSample, SampleStep.isSampleOf]

end Predicting

section Writer

variable {W : Type} [SymbolSink W]

/-- The symbol of a residual beside `neighbors`. -/
def writeResidual (setup : RangeSliceSetup) (difference : Int) (planeIndex : Nat)
    (neighbors : NeighborSamples) : Call (Encoding W) Unit := do
  let context ← MonadExcept.ofExcept
    (ContextModel.deriveContext (setup.contextModels.getD planeIndex {}) neighbors)
  onWriter (SymbolSink.writeSigned (setup.rangeContextBankIndexes.getD planeIndex 0)
    context.context (if context.invertDifference then -difference else difference))

/-- The symbols of a step of a writer that gives every sample the residual `difference`. -/
def codeSymbols (setup : RangeSliceSetup) (difference : Int) : SampleStep → Call (Encoding W) Unit
  | .sample planeIndex x _ _ => do
    let encoding ← get
    writeResidual setup difference planeIndex ((encoding.state.lineState planeIndex).neighbors x)
  | .storePlanar _ _ => pure ()
  | .storeRgb _ => pure ()

def codeStep (setup : RangeSliceSetup) (difference : Int) (step : SampleStep) :
    Call (Encoding W) Unit := do
  codeSymbols setup difference step
  modify (Encoding.modifyState (step.onLines difference))

def codeSteps (setup : RangeSliceSetup) (difference : Int) : List SampleStep → Call (Encoding W) Unit
  | [] => pure ()
  | step :: steps => do
    codeStep setup difference step
    codeSteps setup difference steps

variable {setup : RangeSliceSetup} {difference : Int}

theorem codeStep_state {step : SampleStep} {encoding encoding' : Encoding W} {u : Unit}
    (h : codeStep setup difference step encoding = .ok u encoding') :
    encoding'.state = step.onLines difference encoding.state := by
  unfold codeStep at h
  obtain ⟨_, middle, hwrite, hstate⟩ := Mirror.bind_ok_iff.mp h
  rw [Mirror.modify_apply] at hstate
  obtain ⟨-, rfl⟩ := EStateM.Result.ok.inj hstate
  refine congrArg (step.onLines difference) ?_
  cases step with
  | sample planeIndex x bits signed16bit =>
    simp only [codeSymbols, Mirror.get_bind] at hwrite
    obtain ⟨context, _, hcontext, hsymbol⟩ := Mirror.bind_ok_iff.mp hwrite
    obtain ⟨-, rfl⟩ := Mirror.ofExcept_ok_iff.mp hcontext
    obtain ⟨writer, -, rfl⟩ := onWriter_ok_iff.mp hsymbol
    rfl
  | storePlanar planeIndex y =>
    obtain ⟨-, rfl⟩ := EStateM.Result.ok.inj hwrite
    rfl
  | storeRgb y =>
    obtain ⟨-, rfl⟩ := EStateM.Result.ok.inj hwrite
    rfl

theorem codeSteps_line {steps : List SampleStep} {planeIndex : Nat} {encoding encoding' : Encoding W}
    {u : Unit} (h : codeSteps setup difference steps encoding = .ok u encoding')
    (hplane : planeIndex < encoding.state.planeCount) :
    encoding'.state.lineState planeIndex =
      lineBehind difference (steps.filter (SampleStep.touches planeIndex))
        (encoding.state.lineState planeIndex) := by
  induction steps generalizing encoding with
  | nil =>
    obtain ⟨-, rfl⟩ := EStateM.Result.ok.inj h
    rfl
  | cons step steps ih =>
    obtain ⟨_, middle, hstep, hrest⟩ := Mirror.bind_ok_iff.mp h
    have hstate := codeStep_state hstep
    rw [ih hrest (by rwa [hstate, SampleStep.onLines_planeCount]), hstate,
      SampleStep.onLines_line hplane]
    cases htouches : step.touches planeIndex with
    | true =>
      rw [List.filter_cons_of_pos htouches, if_pos rfl]
      rfl
    | false =>
      rw [List.filter_cons_of_neg (by simp [htouches]), if_neg Bool.false_ne_true]

end Writer

section Coupling

variable {W R : Type} [SymbolSink W] [SymbolSource R] {C : Mirror.Channel W} {F : Prop}
  {P : W → R → Prop} {stream : StreamParameters} {setup : RangeSliceSetup}
  {windows : List PlaneWindow} {difference : Int}

/-- Both sides are at one slice state. -/
structure Beside (P : W → R → Prop) (e : Encoding W) (d : Decoding R) : Prop where
  symbols : P e.writer d.reader
  same : e.state = d.state

/-- The symbol that is written is the residual that is read. -/
theorem writeResidual_mirrors (hcopies : SymbolCopies C F P)
    (hdifference : -2 ^ 31 ≤ difference ∧ difference ≤ 2 ^ 31 - 1) (base bits planeIndex x : Nat)
    (signed16bit : Bool) (line : LineState) :
    Mirror.Mirrors (encodingChannel C) F
      (fun e d => Beside P e d ∧ d.state.lineState planeIndex = line)
      (do
        writeResidual setup difference planeIndex (line.neighbors x)
        modify (Encoding.modifyState
          ((SampleStep.sample planeIndex x bits signed16bit).onLines difference)))
      (decodeResidual base (setup.contextModels.getD planeIndex {})
        (setup.rangeContextBankIndexes.getD planeIndex 0) bits signed16bit planeIndex x line)
      (fun _ _ => Beside P) := by
  unfold writeResidual decodeResidual
  rw [bind_assoc]
  refine Mirror.Mirrors.ofExcept_writer fun context hcontext => ?_
  refine Mirror.Mirrors.ofExcept_reader hcontext ?_
  have hsymbol : Mirror.Mirrors (encodingChannel C) F
      (fun e d => Beside P e d ∧ d.state.lineState planeIndex = line)
      (onWriter (SymbolSink.writeSigned (setup.rangeContextBankIndexes.getD planeIndex 0)
        context.context (if context.invertDifference then -difference else difference)))
      (onReader (withReaderOffset SymbolSource.bytePosition base
        (SymbolSource.readSigned (setup.rangeContextBankIndexes.getD planeIndex 0) context.context)))
      (fun _ coded e d => coded = (if context.invertDifference then -difference else difference) ∧
        Beside P e d ∧ d.state.lineState planeIndex = line) := by
    intro e u e' hi hw
    have hmirror (stores : List RowStore) : Mirror.Mirrors (encodingChannel C) F
        (InStep P (fun state => state.lineState planeIndex = line) stores) _ _ _ :=
      symbol_mirrors hcopies (setup.rangeContextBankIndexes.getD planeIndex 0) context.context base
        (if context.invertDifference then -difference else difference)
    refine ⟨(hmirror [] e u e' hi hw).1,
      fun hfit => ⟨((hmirror [] e u e' hi hw).2 hfit).1, fun d hd => ?_⟩⟩
    exact (((hmirror d.stores e u e' hi hw).2 hfit).2 d ⟨hd.1.symbols, hd.1.same, hd.2, rfl⟩).imp id
      fun coded d' h => ⟨h.1, ⟨h.2.symbols, h.2.same⟩, h.2.inv⟩
  refine Mirror.Mirrors.bind_eq (fun _ => _) hsymbol fun _ => ?_
  have hcoded : (if context.invertDifference = true then
      -(if context.invertDifference = true then -difference else difference)
      else if context.invertDifference = true then -difference else difference) = difference := by
    cases context.invertDifference <;> simp
  simp only [hcoded]
  rw [failIf_of_not (by omega), pure_bind]
  refine Mirror.Mirrors.update (fun _ hi => hi) (fun _ hf => hf) fun e d hd => ?_
  refine ⟨hd.1.symbols, ?_⟩
  change (SampleStep.sample planeIndex x bits signed16bit).onLines difference e.state = _
  rw [hd.1.same]
  exact SliceState.modifyLine_congr (by rw [hd.2]; rfl)

/-- What was written is the difference that the decoder comes to. -/
theorem writeResidual_coded (hcopies : SymbolCopies C False P)
    (hdifference : -2 ^ 31 ≤ difference ∧ difference ≤ 2 ^ 31 - 1) {planeIndex : Nat}
    {neighbors : NeighborSamples} {e e' : Encoding W} {u : Unit}
    (h : writeResidual setup difference planeIndex neighbors e = .ok u e') (hinv : C.inv e.writer)
    (hfits : C.fits e'.writer) :
    C.fits e.writer ∧ ∀ reader, P e.writer reader →
      codedDifference (setup.contextModels.getD planeIndex {})
        (setup.rangeContextBankIndexes.getD planeIndex 0) neighbors reader = some difference := by
  unfold writeResidual at h
  obtain ⟨context, _, hcontext, hsymbol⟩ := Mirror.bind_ok_iff.mp h
  obtain ⟨hderived, rfl⟩ := Mirror.ofExcept_ok_iff.mp hcontext
  obtain ⟨writer, hwrite, rfl⟩ := onWriter_ok_iff.mp hsymbol
  obtain ⟨-, hread⟩ := hcopies _ _ _ _ _ writer hinv hwrite
  refine ⟨(hread hfits).1, fun reader htracks => ?_⟩
  obtain ⟨coded, reader', hcoded, rfl, -⟩ := ((hread hfits).2 reader htracks).result
  unfold codedDifference
  rw [hderived]
  dsimp only
  rw [hcoded]
  dsimp only
  have hvalue : (if context.invertDifference = true then
      -(if context.invertDifference = true then -difference else difference)
      else if context.invertDifference = true then -difference else difference) = difference := by
    cases context.invertDifference <;> simp
  rw [hvalue, if_neg (by omega)]

/-- A row that is there can be stored. -/
theorem storeStep_mirrors {step : SampleStep} (h : SliceWindows stream windows)
    (hstep : step.InSlice stream windows) (hstore : step.isSample = false) :
    Mirror.Mirrors (encodingChannel C) F (Beside P) (codeStep setup difference step)
      (runStep stream setup windows step) (fun _ _ => Beside P) := by
  intro e u e' hi hw
  cases step with
  | sample planeIndex x bits signed16bit => cases hstore
  | storePlanar planeIndex y =>
    obtain ⟨-, rfl⟩ := EStateM.Result.ok.inj hw
    refine ⟨hi, fun hfit => ⟨hfit, fun d hd => ?_⟩⟩
    simp only [runStep, storePlanarLine, checkRow_ok h.shape (h.planes ▸ hstep.1) hstep.2]
    exact ⟨hd.symbols, congrArg (SliceState.modifyLine · planeIndex LineState.swapLines) hd.same⟩
  | storeRgb y =>
    obtain ⟨-, rfl⟩ := EStateM.Result.ok.inj hw
    refine ⟨hi, fun hfit => ⟨hfit, fun d hd => ?_⟩⟩
    have hrows : checkRgbRows stream windows y windows.length 0 = .ok () :=
      checkRgbRows_ok h.shape (by rw [Nat.zero_add, h.planes]) fun planeIndex hplane => by
        rw [(h.rgb hstep.1 planeIndex (h.planes ▸ hplane)).2]
        exact hstep.2
    simp only [runStep, storeRgbLine, hrows]
    exact ⟨hd.symbols, congrArg SliceState.swapAllLines hd.same⟩

theorem codeStep_mirrors (hcopies : SymbolCopies C F P)
    (hdifference : -2 ^ 31 ≤ difference ∧ difference ≤ 2 ^ 31 - 1) {step : SampleStep}
    (h : SliceWindows stream windows) (hstep : step.InSlice stream windows) :
    Mirror.Mirrors (encodingChannel C) F (Beside P) (codeStep setup difference step)
      (runStep stream setup windows step) (fun _ _ => Beside P) := by
  cases step with
  | sample planeIndex x bits signed16bit =>
    have hview := Mirror.Mirrors.view_of (C := encodingChannel C) (F := F) (P := Beside P)
      (fun e : Encoding W => e.state.lineState planeIndex)
      (fun d : Decoding R => d.state.lineState planeIndex)
      (fun line => do
        writeResidual setup difference planeIndex (line.neighbors x)
        modify (Encoding.modifyState
          ((SampleStep.sample planeIndex x bits signed16bit).onLines difference)))
      (decodeResidual setup.readerBaseOffset (setup.contextModels.getD planeIndex {})
        (setup.rangeContextBankIndexes.getD planeIndex 0) bits signed16bit planeIndex x)
      (fun _ _ hd => congrArg (SliceState.lineState · planeIndex) hd.same)
      (fun line => (writeResidual_mirrors hcopies hdifference setup.readerBaseOffset bits planeIndex
        x signed16bit line).consequence id (fun _ _ hd => ⟨hd.2, hd.2.same ▸ hd.1⟩)
        fun _ _ _ _ h => h)
    exact hview
  | storePlanar planeIndex y => exact storeStep_mirrors h hstep rfl
  | storeRgb y => exact storeStep_mirrors h hstep rfl

/-- The decoder takes the steps of the writer. -/
theorem codeSteps_mirrors (hcopies : SymbolCopies C F P)
    (hdifference : -2 ^ 31 ≤ difference ∧ difference ≤ 2 ^ 31 - 1) {steps : List SampleStep}
    (h : SliceWindows stream windows) (hsteps : ∀ step ∈ steps, step.InSlice stream windows) :
    Mirror.Mirrors (encodingChannel C) F (Beside P) (codeSteps setup difference steps)
      (runSteps stream setup windows steps) (fun _ _ => Beside P) := by
  induction steps with
  | nil => exact Mirror.Mirrors.pure fun _ _ hd => hd
  | cons step steps ih =>
    obtain ⟨hstep, hrest⟩ := List.forall_mem_cons.mp hsteps
    exact (codeStep_mirrors hcopies hdifference h hstep).bind fun _ _ => ih hrest

end Coupling

/-- The contexts of the table sets of `count` planes are those of the banks. -/
def SetupFits (setup : RangeSliceSetup) (sizes : List Nat) (count : Nat) : Prop :=
  ∀ planeIndex < count, ContextModel.Accepted (setup.contextModels.getD planeIndex {}) ∧
    setup.rangeContextBankIndexes.getD planeIndex 0 < sizes.length ∧
    sizes.getD (setup.rangeContextBankIndexes.getD planeIndex 0) 0 =
      (setup.contextModels.getD planeIndex {}).contextCount.toNat

section Space

open RangeEncoder (Healthy)

variable {setup : RangeSliceSetup} {sizes : List Nat} {count : Nat} {difference : Int}
  {stream : StreamParameters} {windows : List PlaneWindow}

/-- A residual is coded, in whatever context. -/
theorem writeResidual_succeeds (hsetup : SetupFits setup sizes count) {planeIndex : Nat}
    (hplane : planeIndex < count) (hdifference : difference.natAbs ≤ RangeEncoder.int64Max)
    (neighbors : NeighborSamples) {encoding : Encoding RangeEncoder}
    (hhealthy : Healthy [sizes] encoding.writer)
    (hspace : encoding.writer.byteCount + 127 ≤ maxByteVectorSize) :
    ∃ writer, writeResidual setup difference planeIndex neighbors encoding =
        .ok () { encoding with writer } ∧ Healthy [sizes] writer ∧
      writer.byteCount ≤ encoding.writer.byteCount + 127 := by
  obtain ⟨haccepted, hbank, hsize⟩ := hsetup planeIndex hplane
  have hcontext := haccepted.deriveContext neighbors
  have hlt := haccepted.folded_lt neighbors
  have hcoded : (if decide (ContextModel.foldedContext (setup.contextModels.getD planeIndex {})
      neighbors < 0) then -difference else difference).natAbs ≤ RangeEncoder.int64Max := by
    split
    · rwa [Int.natAbs_neg]
    · exact hdifference
  have hwrites := RangeEncoder.writeSigned_writes [] hbank (hsize ▸ hlt) hcoded
  obtain ⟨writer, hwrite, hleft, hcount⟩ := hwrites encoding.writer hhealthy hspace
  refine ⟨writer, ?_, hleft, hcount⟩
  unfold writeResidual
  rw [Mirror.bind_ok (Mirror.ofExcept_ok_iff.mpr ⟨hcontext, rfl⟩)]
  exact onWriter_ok_iff.mpr ⟨writer, hwrite, rfl⟩

/-- Steps of a slice are coded where there is space for their samples. -/
theorem codeSteps_succeeds (hsetup : SetupFits setup sizes windows.length)
    (hdifference : difference.natAbs ≤ RangeEncoder.int64Max) {steps : List SampleStep}
    (hsteps : ∀ step ∈ steps, step.InSlice stream windows) {encoding : Encoding RangeEncoder}
    (hhealthy : Healthy [sizes] encoding.writer)
    (hspace : encoding.writer.byteCount + 127 * steps.countP SampleStep.isSample ≤
      maxByteVectorSize) :
    ∃ encoding', codeSteps setup difference steps encoding = .ok () encoding' ∧
      Healthy [sizes] encoding'.writer ∧ encoding'.writer.byteCount ≤
        encoding.writer.byteCount + 127 * steps.countP SampleStep.isSample := by
  induction steps generalizing encoding with
  | nil => exact ⟨encoding, rfl, hhealthy, Nat.le_add_right _ _⟩
  | cons step steps ih =>
    obtain ⟨hstep, hrest⟩ := List.forall_mem_cons.mp hsteps
    have hstore (hstored : step.isSample = false)
        (hsymbols : codeSymbols setup difference step encoding = .ok () encoding) :
        ∃ encoding', codeSteps setup difference (step :: steps) encoding = .ok () encoding' ∧
          Healthy [sizes] encoding'.writer ∧ encoding'.writer.byteCount ≤
            encoding.writer.byteCount + 127 * (step :: steps).countP SampleStep.isSample := by
      rw [List.countP_cons_of_neg (by simp [hstored])] at hspace ⊢
      have hafter : Healthy [sizes]
          ({ encoding with state := step.onLines difference encoding.state } :
            Encoding RangeEncoder).writer := hhealthy
      obtain ⟨encoding', hcode, hrest⟩ := ih hrest hafter hspace
      exact ⟨encoding', Mirror.bind_ok_iff.mpr ⟨(), _, Mirror.bind_ok hsymbols, hcode⟩, hrest⟩
    cases step with
    | sample planeIndex x bits signed16bit =>
      rw [List.countP_cons_of_pos rfl] at hspace ⊢
      obtain ⟨writer, hwrite, hleft, hcount⟩ := writeResidual_succeeds hsetup hstep.1 hdifference
        ((encoding.state.lineState planeIndex).neighbors x) hhealthy (by omega)
      have hafter : Healthy [sizes] ({
          writer
          state := (SampleStep.sample planeIndex x bits signed16bit).onLines difference
            encoding.state } : Encoding RangeEncoder).writer := hleft
      obtain ⟨encoding', hcode, hhealthy', hcount'⟩ := ih hrest hafter (by simp only; omega)
      refine ⟨encoding', Mirror.bind_ok_iff.mpr ⟨(), _, Mirror.bind_ok hwrite, hcode⟩, hhealthy', ?_⟩
      simp only at hcount'
      omega
    | storePlanar planeIndex y => exact hstore rfl rfl
    | storeRgb y => exact hstore rfl rfl

end Space

/-- The slice with `content` for its whole payload, without a footer. -/
def SliceDescriptor.withContent (slice : SliceDescriptor) (content : Bytes) : SliceDescriptor :=
  { slice with
    payload := content
    headerByteOffset := 0
    contentByteOffset := 0
    contentBitOffset := 0
    payloadByteOffset := 0
    footerByteOffset := 0
    sliceSize := 0
    continuesFrameRangeState := false }

section Slices

variable {stream : StreamParameters} {slice : SliceDescriptor} {windows : List PlaneWindow}
  {content : Bytes}

theorem resolve_withContent (hcontent : content ≠ []) :
    SliceDecoder.resolveContentPayload stream (slice.withContent content) = .ok content := by
  have hend : SliceDecoder.contentEnd (slice.withContent content) 0 = .ok content.length :=
    if_neg (by simp [SliceDescriptor.withContent])
  simp only [SliceDecoder.resolveContentPayload, except_bind_ok, exists_unit, failIf_ok_iff]
  refine ⟨Nat.lt_irrefl 0, Nat.not_lt_zero _, content.length, hend, ?_⟩
  have hall : ((slice.withContent content).payload.drop 0).take (content.length - 0) = content := by
    rw [List.drop_zero, Nat.sub_zero]
    exact List.take_length
  exact ⟨fun h => hcontent (hall.symm.trans h.1), congrArg Except.ok hall⟩

theorem validate_withContent (hvalid : SliceDecoder.validate stream slice windows = .ok ())
    (hcontent : content ≠ []) :
    SliceDecoder.validate stream (slice.withContent content) windows = .ok () := by
  simp only [SliceDecoder.validate, except_bind_ok, exists_unit, failIf_ok_iff] at hvalid ⊢
  obtain ⟨_, -, -, -, hrest⟩ := hvalid
  exact ⟨content, resolve_withContent hcontent, by simp [SliceDescriptor.withContent],
    by simp [SliceDescriptor.withContent], hrest⟩

theorem startReader_withContent (counts : List Nat) (banks : List ContextStateBank) :
    SliceDecoder.startReader stream (slice.withContent content) content counts banks =
      EStateM.adaptExcept (addByteOffset · 0)
        (RangeCoder.reset content counts banks stream.stateTransition) := by
  unfold SliceDecoder.startReader SliceDecoder.continuesFromSliceHeader
  simp [SliceDescriptor.withContent]

theorem validateTableSetIndexes_lt {indexes : List Nat}
    (h : SliceDecoder.validateTableSetIndexes stream indexes = .ok ()) {index : Nat}
    (hmem : index ∈ indexes) : index < stream.quantTableSets.length := by
  induction indexes with
  | nil => exact absurd hmem List.not_mem_nil
  | cons first indexes ih =>
    simp only [SliceDecoder.validateTableSetIndexes, SliceDecoder.validateTableSetIndex,
      except_bind_ok, exists_unit, failIf_ok_iff] at h
    rcases List.mem_cons.mp hmem with rfl | hrest
    · exact Nat.lt_of_not_le h.1.1
    · exact ih h.2 hrest

theorem slot_lt {planeIndex : Nat} (hplane : planeIndex < stream.codedPlaneCount) :
    stream.planeQuantTableSetIndexSlot planeIndex < stream.quantTableSetIndexCount := by
  unfold StreamParameters.planeQuantTableSetIndexSlot StreamParameters.isChromaPlane
    StreamParameters.quantTableSetIndexCount
  unfold StreamParameters.codedPlaneCount at hplane
  by_cases hchroma : stream.chromaPlanes = true
  · by_cases hextra : stream.extraPlane = true
    · simp [hchroma, hextra] at hplane ⊢
      split_ifs <;> omega
    · simp [hchroma, hextra] at hplane ⊢
      split_ifs <;> omega
  · by_cases hextra : stream.extraPlane = true
    · simp [hchroma, hextra] at hplane ⊢
      split_ifs <;> omega
    · simp [hchroma, hextra] at hplane ⊢
      simp [hplane]

/-- The table set of a plane is one of the stream. -/
theorem planeTableSet_mem (hvalid : SliceDecoder.validate stream slice windows = .ok ())
    {planeIndex : Nat} (hplane : planeIndex < windows.length) :
    SliceDecoder.tableSetAt stream (SliceDecoder.planeTableSetIndex stream slice planeIndex) ∈
      stream.quantTableSets := by
  simp only [SliceDecoder.validate, except_bind_ok, exists_unit, failIf_ok_iff] at hvalid
  obtain ⟨_, -, -, -, hplanes, -, -, -, hcount, hindexes⟩ := hvalid
  have hslot : (if 3 ≤ stream.version then stream.planeQuantTableSetIndexSlot planeIndex else 0) <
      slice.quantTableSetIndexes.length := by
    rw [not_not.mp hcount]
    split
    · exact slot_lt (not_not.mp hplanes ▸ hplane)
    · exact Nat.one_pos
  have hindex := validateTableSetIndexes_lt hindexes (List.getElem_mem hslot)
  unfold SliceDecoder.tableSetAt SliceDecoder.planeTableSetIndex
  rw [List.getD_eq_getElem _ _ hslot, List.getD_eq_getElem _ _ hindex]
  exact List.getElem_mem hindex

/-- The banks of a slice have the contexts of its table sets. -/
theorem rangeSetup_fits (hvalid : SliceDecoder.validate stream slice windows = .ok ())
    (htables : ∀ tableSet ∈ stream.quantTableSets, ContextModel.Accepted tableSet)
    (hfresh : slice.continuesFrameRangeState = false) :
    SetupFits (SliceDecoder.rangeSetup stream slice windows.length)
      (SliceDecoder.rangeContextCounts stream slice windows.length) windows.length := by
  intro planeIndex hplane
  have hplanes : windows.length = stream.codedPlaneCount := by
    simp only [SliceDecoder.validate, except_bind_ok, exists_unit, failIf_ok_iff] at hvalid
    obtain ⟨_, -, -, -, hplanes, -⟩ := hvalid
    exact not_not.mp hplanes
  have hmodel : (SliceDecoder.rangeSetup stream slice windows.length).contextModels.getD planeIndex {} =
      SliceDecoder.tableSetAt stream (SliceDecoder.planeTableSetIndex stream slice planeIndex) := by
    simp [SliceDecoder.rangeSetup, SliceDecoder.contextModels, List.getD_eq_getElem?_getD, hplane]
  have hbank : (SliceDecoder.rangeSetup stream slice windows.length).rangeContextBankIndexes.getD
      planeIndex 0 = if 3 ≤ stream.version then stream.planeQuantTableSetIndexSlot planeIndex
        else planeIndex := by
    simp [SliceDecoder.rangeSetup, SliceDecoder.rangeContextBankIndexes,
      List.getD_eq_getElem?_getD, hplane, hfresh]
  rw [hmodel, hbank]
  refine ⟨htables _ (planeTableSet_mem hvalid hplane), ?_⟩
  unfold SliceDecoder.rangeContextCounts SliceDecoder.rangeTableSetIndexes
    SliceDecoder.planeTableSetIndex
  by_cases hversion : 3 ≤ stream.version
  · have hslot := slot_lt (hplanes ▸ hplane)
    simp [hversion, SliceDecoder.slotTableSetIndexes, List.getD_eq_getElem?_getD, hslot]
  · simp [hversion, List.getD_eq_getElem?_getD, hplane]

end Slices

/-- The decoder has accepted a slice and its content and stands before the samples. -/
structure ContentStart (stream : StreamParameters) (windows : List PlaneWindow)
    (slice : SliceDescriptor) (content : Bytes) (state : SliceState) (reader : RangeCoder) : Prop where
  mode : stream.entropyMode = .range
  valid : SliceDecoder.validate stream slice windows = .ok ()
  resolved : SliceDecoder.resolveContentPayload stream slice = .ok content
  lines : ∃ before : SliceState, before.reset stream windows = .ok state
  reader : ∃ banks,
    SliceDecoder.rangeInitialStateBanks stream slice windows.length state = .ok banks ∧
      SliceDecoder.startReader stream slice content
        (SliceDecoder.rangeContextCounts stream slice windows.length) banks {} = .ok () reader

/-- No content of a slice with these windows takes a value of the decoder out of 32 bits. -/
def ContentsFit (stream : StreamParameters) (windows : List PlaneWindow) : Prop :=
  ∀ slice content state reader, ContentStart stream windows slice content state reader →
    ∀ planeIndex x bits signed16bit decoding,
      StandsBefore stream (SliceDecoder.rangeSetup stream slice windows.length) windows
        { reader, state } (.sample planeIndex x bits signed16bit) decoding →
      IntermediatesFit (SliceDecoder.rangeSetup stream slice windows.length) planeIndex x bits
        signed16bit decoding

section Contents

variable {stream : StreamParameters} {windows : List PlaneWindow} {slice : SliceDescriptor}

/-- A residual is a 32-bit integer. -/
theorem codedDifference_fits {R : Type} [SymbolSource R] {model : QuantTableSet} {bank : Nat}
    {neighbors : NeighborSamples} {reader : R} {difference : Int}
    (h : codedDifference model bank neighbors reader = some difference) :
    -2 ^ 31 ≤ difference ∧ difference ≤ 2 ^ 31 - 1 := by
  unfold codedDifference at h
  split at h
  · cases h
  · split at h
    · cases h
    · rename_i context _ _ coded _ _
      revert h
      generalize (if context.invertDifference then -coded else coded) = value
      intro h
      by_cases hrange : value < -2 ^ 31 ∨ 2 ^ 31 - 1 < value
      · cases (if_pos hrange).symm.trans h
      · obtain rfl := Option.some.inj ((if_neg hrange).symm.trans h)
        omega

/-- The lines of a plane as the decoder starts with them. -/
theorem reset_bordered {before state : SliceState} (hreset : before.reset stream windows = .ok state)
    {planeIndex : Nat} (hplane : planeIndex < windows.length) :
    planeIndex < state.planeCount ∧ state.lineState planeIndex =
      LineState.bordered (planeWindow windows planeIndex).width.toNat
        (planeBorderValue stream planeIndex) := by
  simp only [SliceState.reset, except_bind_ok] at hreset
  obtain ⟨lines, hlines, hstate⟩ := hreset
  obtain rfl := Except.ok.inj hstate
  obtain ⟨hlength, hget⟩ := resetLines_get hlines
  have hline := hget planeIndex hplane
  rw [Nat.zero_add] at hline
  exact ⟨Nat.lt_of_lt_of_eq hplane hlength.symm, hline⟩

/-- Where every prediction is zero, a value is a residual. -/
theorem contentsFit_of_zero (h : SliceWindows stream windows) (hzero : PredictsZero stream windows) :
    ContentsFit stream windows := by
  intro slice content state reader hstart
  obtain ⟨before, hreset⟩ := hstart.lines
  refine (intermediates_fit_iff hstart.valid hreset reader).mpr ?_
  intro planeIndex x bits signed16bit decoding hbefore difference hresidual
  obtain ⟨done, rest, u, hsteps, hrun⟩ := hbefore
  have hsample : SampleStep.sample planeIndex x bits signed16bit ∈ sliceSteps stream windows :=
    hsteps ▸ List.mem_append_right _ List.mem_cons_self
  obtain ⟨hplane, hx⟩ := sliceSteps_inSlice h hsample
  have hcount : planeSampleCount stream windows planeIndex =
      done.countP (SampleStep.isSampleOf planeIndex) +
        (rest.countP (SampleStep.isSampleOf planeIndex) + 1) := by
    unfold planeSampleCount
    rw [hsteps, List.countP_append, List.countP_cons_of_pos (SampleStep.isSampleOf_self ..)]
  obtain ⟨hone, hborder⟩ := (hzero planeIndex hplane).resolve_left (by omega)
  have hfirst : ∀ step ∈ done, step.isSampleOf planeIndex = false := by
    intro step hmem
    exact Bool.eq_false_iff.mpr (List.countP_eq_zero.mp (by omega) step hmem)
  have hline := (runSteps_bordered hfirst _ _ _ (reset_bordered hreset hplane) hrun).2
  have hprediction : medianPrediction signed16bit
      ((decoding.state.lineState planeIndex).neighbors x) = 0 := by
    rw [hline, hborder]
    exact bordered_prediction hx (by decide) signed16bit
  have hfits := codedDifference_fits hresidual
  rw [hprediction]
  omega

/-- The first predicted sample is predicted from ones: a border, or the sample before it. -/
theorem predicted_pos (h : SliceWindows stream windows)
    (hdepth : isSupportedBitDepth stream.bitsPerRawSample = true) {before behind : List SampleStep}
    {planeIndex x bits : Nat} {signed16bit : Bool}
    (hsteps : sliceSteps stream windows = before ++ .sample planeIndex x bits signed16bit :: behind)
    (hpredicted : Predicted stream before (.sample planeIndex x bits signed16bit))
    (hfirst : ∀ first other second, before = first ++ other :: second →
      ¬Predicted stream first other) :
    1 ≤ medianPrediction signed16bit ((lineBehind 1 (before.filter (SampleStep.touches planeIndex))
      (LineState.bordered (planeWindow windows planeIndex).width.toNat
        (planeBorderValue stream planeIndex))).neighbors x) := by
  have hsample : SampleStep.sample planeIndex x bits signed16bit ∈ sliceSteps stream windows :=
    hsteps ▸ List.mem_append_right _ List.mem_cons_self
  obtain ⟨hplane, hx⟩ := sliceSteps_inSlice h hsample
  obtain ⟨other, hother, hreason⟩ := hpredicted
  obtain rfl : planeIndex = other := of_decide_eq_true hother
  obtain ⟨hnonneg, hborder⟩ := planeBorderValue_bounds stream planeIndex
  by_cases hzero : planeBorderValue stream planeIndex = 0
  · obtain ⟨earlier, hmem, hearlier⟩ := hreason.resolve_left (not_not.mpr hzero)
    obtain ⟨bits', signed16bit', rows, store, hstore, horder⟩ := sliceSteps_order h hplane
    rw [hsteps, List.filter_append,
      List.filter_cons_of_pos (SampleStep.touches_of_isSampleOf hother)] at horder
    have hone : (before.filter (SampleStep.touches planeIndex)).countP
        (SampleStep.isSampleOf planeIndex) = 1 := by
      have hsame : (before.filter (SampleStep.touches planeIndex)).countP
          (SampleStep.isSampleOf planeIndex) = before.countP (SampleStep.isSampleOf planeIndex) := by
        rw [List.countP_filter]
        refine List.countP_congr fun step _ => ?_
        rw [Bool.and_eq_true]
        exact and_iff_left_of_imp SampleStep.touches_of_isSampleOf
      have hpos := List.countP_pos_iff.mpr ⟨earlier, hmem, hearlier⟩
      have hle := unpredicted_count hfirst planeIndex
      omega
    have hdepthOf (hmem : SampleStep.sample planeIndex 0 bits' signed16bit' ∈
        before.filter (SampleStep.touches planeIndex)) : 1 ≤ bits' ∧ bits' ≤ 17 := by
      have hbits := supported_depth hdepth
      have hdepth := sliceSteps_depth (hsteps ▸ List.mem_append_left _ (List.mem_filter.mp hmem).1)
      rcases hdepth with rfl | rfl <;> omega
    rw [hzero]
    rcases second_sample hstore (h.width planeIndex hplane) horder.symm hone with
      ⟨hbefore, rfl, hwidth⟩ | ⟨y, hbefore, rfl, hwidth⟩
    · have hline := firstSample_line planeIndex (h.width planeIndex hplane)
        (hdepthOf (hbefore ▸ List.mem_cons_self)) signed16bit'
      rw [hbefore, lineBehind_cons, lineBehind_nil, hline, secondSample_prediction hwidth]
    · have hline := firstSample_line planeIndex Nat.one_pos
        (hdepthOf (hbefore ▸ List.mem_cons_self)) signed16bit'
      have htouches : (store y).touches planeIndex = true :=
        (List.mem_filter.mp (hbefore ▸ List.mem_cons_of_mem _ List.mem_cons_self)).2
      rw [hbefore, hwidth, lineBehind_cons, lineBehind_cons, lineBehind_nil, hline,
        SampleStep.onLine_of_store (hstore y) htouches, lowerSample_prediction]
  · have hnone : ∀ step ∈ before, step.isSampleOf planeIndex = false := by
      intro step hmem
      refine Bool.eq_false_iff.mpr fun hstep => ?_
      exact hzero (unpredicted_border hfirst hmem hstep)
    rw [lineBehind_bordered _ _ hnone, bordered_prediction hx (by omega)]
    omega

theorem reset_succeeds (h : SliceWindows stream windows) (before : SliceState) :
    ∃ lines, before.reset stream windows = .ok { before with lineStates := lines } := by
  have hlines : ∀ (rest : List PlaneWindow) (first : Nat),
      (∀ window ∈ rest, 0 < window.width.toNat) →
        ∃ lines, SliceState.resetLines stream first rest = .ok lines := by
    intro rest
    induction rest with
    | nil => exact fun _ _ => ⟨[], rfl⟩
    | cons window rest ih =>
      intro first hwidth
      obtain ⟨hwindow, hrest⟩ := List.forall_mem_cons.mp hwidth
      obtain ⟨lines, hlines⟩ := ih (first + 1) hrest
      have hne : ¬window.width = 0 := by
        rintro hzero
        rw [hzero] at hwindow
        exact Nat.lt_irrefl 0 hwindow
      refine ⟨LineState.bordered window.width.toNat (planeBorderValue stream first) :: lines, ?_⟩
      simp only [SliceState.resetLines, LineState.reset, except_bind_ok, exists_unit, failIf_ok_iff]
      exact ⟨_, ⟨hne, rfl⟩, lines, hlines, rfl⟩
  obtain ⟨lines, hreset⟩ := hlines windows 0 fun window hmem => by
    obtain ⟨planeIndex, hplane, rfl⟩ := List.getElem_of_mem hmem
    have hwidth := h.width planeIndex hplane
    unfold planeWindow at hwidth
    rwa [List.getD_eq_getElem _ _ hplane] at hwidth
  refine ⟨lines, ?_⟩
  unfold SliceState.reset
  rw [hreset]
  rfl

/-- Fresh contexts of a slice, as if an earlier frame had left them. -/
theorem savedContexts {counts : List Nat} (hcontexts : ContextsValid counts []) :
    ∃ banks : ContextStateBanks, banks.sizes = counts ∧ LiveBanks banks ∧
      ContextsValid counts banks := by
  have hsizes := initialContextBanks_sizes defaultInitialState hcontexts.2.2.2
  have hmatch : ContextCountsMatch _ (initialContextBanks defaultInitialState counts []) :=
    contextCountsMatch_self fun size hmem => hcontexts.2.2.2.size (hsizes ▸ hmem)
  rw [hsizes] at hmatch
  refine ⟨_, hsizes, liveBanks_initial fun bank hbank => absurd hbank List.not_mem_nil,
    hcontexts.1, hcontexts.2.1, .inr ?_, hmatch⟩
  have hlength := congrArg List.length hsizes
  rwa [ContextStateBanks.sizes, List.length_map] at hlength

theorem savedContexts_taken {planeCount : Nat} {banks : ContextStateBanks} {lines : List LineState}
    (hne : SliceDecoder.rangeContextCounts stream slice planeCount ≠ [])
    (hsizes : banks.sizes = SliceDecoder.rangeContextCounts stream slice planeCount) :
    SliceDecoder.rangeInitialStateBanks stream slice planeCount
      { rangeContexts := banks, lineStates := lines } = .ok banks := by
  have hlengths : banks.map List.length = SliceDecoder.rangeContextCounts stream slice planeCount :=
    hsizes
  have hcount : banks.length = (SliceDecoder.rangeContextCounts stream slice planeCount).length := by
    rw [← hlengths, List.length_map]
  have hkept : ({ rangeContexts := banks, lineStates := lines } : SliceState).hasRangeContexts =
      true := by
    have hnonempty : banks ≠ [] := by
      rintro rfl
      exact hne hlengths.symm
    simpa [SliceState.hasRangeContexts] using hnonempty
  unfold SliceDecoder.rangeInitialStateBanks
  rw [if_pos hkept]
  dsimp only
  rw [failIf_of_not (not_not.mpr hcount), failIf_of_not (not_not.mpr hlengths)]
  rfl

/-- Before the first prediction there are few samples, one a plane. -/
theorem unpredicted_few (h : SliceWindows stream windows) {steps : List SampleStep}
    (hsteps : ∀ step ∈ steps, step.InSlice stream windows)
    (hfirst : ∀ first other second, steps = first ++ other :: second →
      ¬Predicted stream first other) : steps.countP SampleStep.isSample ≤ 4 := by
  have hplanes : ∀ step ∈ steps, step.isSample = true →
      ∃ planeIndex < windows.length, step.isSampleOf planeIndex = true := by
    intro step hmem hstep
    cases step with
    | sample planeIndex x bits signed16bit =>
      exact ⟨planeIndex, (hsteps _ hmem).1, SampleStep.isSampleOf_self ..⟩
    | storePlanar => cases hstep
    | storeRgb => cases hstep
  have hall := countP_isSample hplanes
  have hle := Finset.sum_le_card_nsmul (Finset.range windows.length)
    (fun planeIndex => steps.countP (SampleStep.isSampleOf planeIndex)) 1
    fun planeIndex _ => unpredicted_count hfirst planeIndex
  have hplanes : stream.codedPlaneCount ≤ 4 := by
    unfold StreamParameters.codedPlaneCount
    split_ifs <;> omega
  rw [Finset.card_range, smul_eq_mul, mul_one, ← hall, h.planes] at hle
  exact hle.trans hplanes

/-- There is a content that codes ones up to a sample, and then the largest residual. -/
theorem exists_content {setup : RangeSliceSetup} {counts : List Nat} {banks : ContextStateBanks}
    (h : SliceWindows stream windows) (hsetup : SetupFits setup counts windows.length)
    (hbanks : ContextsValid counts banks) (hlive : LiveBanks banks) {before : List SampleStep}
    (hbefore : ∀ step ∈ before, step.InSlice stream windows)
    (hfew : before.countP SampleStep.isSample ≤ 4) {planeIndex : Nat}
    (hplane : planeIndex < windows.length) (x : Nat) {state : SliceState}
    (hstate : planeIndex < state.planeCount) :
    ∃ content reader decoding, content ≠ [] ∧
      RangeCoder.reset content counts banks defaultStateTransition {} = .ok () reader ∧
      runSteps stream setup windows before { reader, state } = .ok () decoding ∧
      decoding.state.lineState planeIndex = lineBehind 1
        (before.filter (SampleStep.touches planeIndex)) (state.lineState planeIndex) ∧
      residualAt setup planeIndex x decoding = some (2 ^ 31 - 1) := by
  obtain ⟨started, hstarted, hhealthy, htwo⟩ := RangeEncoder.reset_healthy_of hbanks hlive {}
  have hroom : 2 + 127 * 5 ≤ maxByteVectorSize := by decide
  have hone : (1 : Int).natAbs ≤ RangeEncoder.int64Max := by decide
  have hgreatest : (2 ^ 31 - 1 : Int).natAbs ≤ RangeEncoder.int64Max := by decide
  have hstartedHealthy : RangeEncoder.Healthy [counts]
      ({ writer := started, state } : Encoding _).writer := hhealthy
  obtain ⟨coded, hcode, hcodedHealthy, hcodedCount⟩ := codeSteps_succeeds hsetup hone hbefore
    hstartedHealthy (by rw [htwo]; omega)
  obtain ⟨writer, hwrite, hwriterHealthy, -⟩ := writeResidual_succeeds hsetup hplane
    hgreatest ((coded.state.lineState planeIndex).neighbors x) hcodedHealthy (by
      rw [htwo] at hcodedCount
      omega)
  have hfits := finalize_fits hwriterHealthy.ready []
  rw [List.append_nil] at hfits
  have hlength : 2 ≤ writer.lowBytes.length := hwriterHealthy.ready.length_ge
  -- The decoder follows the writer to the sample and reads the residual there.
  have hcopies : SymbolCopies (rangeChannel writer.lowBytes) False (Tracks writer.lowBytes []) :=
    fun bank context value => signed_reads bank context value
  obtain ⟨hcodedFits, hcoded⟩ := writeResidual_coded hcopies (by decide) hwrite
    hcodedHealthy.ready hfits
  obtain ⟨-, hrun⟩ := codeSteps_mirrors (R := RangeCoder) hcopies (by decide) h hbefore
    { writer := started, state } () coded hhealthy.ready hcode
  obtain ⟨hstartedFits, hdecode⟩ := hrun hcodedFits
  obtain ⟨reader, hreader, htracks⟩ := reset_tracks_fresh hstarted hstartedFits hlength
  obtain ⟨_, decoding, hdecoding, hbeside⟩ :=
    (hdecode { reader, state } ⟨htracks, rfl⟩).result
  refine ⟨writer.lowBytes, reader, decoding, List.ne_nil_of_length_pos (by omega), hreader,
    hdecoding, ?_, ?_⟩
  · rw [← hbeside.same]
    exact codeSteps_line hcode hstate
  · have hresidual := hcoded decoding.reader hbeside.symbols
    rwa [hbeside.same] at hresidual

/-- Where a sample is predicted, there is a content that takes its value out of 32 bits. -/
theorem contents_overflow (h : SliceWindows stream windows) (hmode : stream.entropyMode = .range)
    (htransition : stream.stateTransition = defaultStateTransition)
    (htables : ∀ tableSet ∈ stream.quantTableSets, ContextModel.Accepted tableSet)
    (hvalid : SliceDecoder.validate stream slice windows = .ok ())
    (hcontexts : ContextsValid (SliceDecoder.rangeContextCounts stream slice windows.length) [])
    (hpredicts : ¬PredictsZero stream windows) : ¬ContentsFit stream windows := by
  obtain ⟨before, step, behind, hsteps, hpredicted, hfirst⟩ := exists_predicted hpredicts
  obtain ⟨planeIndex, x, bits, signed16bit, rfl⟩ : ∃ planeIndex x bits signed16bit,
      step = .sample planeIndex x bits signed16bit := by
    obtain ⟨planeIndex, hstep, -⟩ := hpredicted
    cases step with
    | sample planeIndex x bits signed16bit => exact ⟨planeIndex, x, bits, signed16bit, rfl⟩
    | storePlanar => cases hstep
    | storeRgb => cases hstep
  have hdepth : isSupportedBitDepth stream.bitsPerRawSample = true := by
    simp only [SliceDecoder.validate, except_bind_ok, exists_unit, failIf_ok_iff] at hvalid
    obtain ⟨_, -, -, -, -, hdepth, -⟩ := hvalid
    simpa using hdepth
  have hinside : ∀ step ∈ sliceSteps stream windows, step.InSlice stream windows :=
    fun step => sliceSteps_inSlice h
  rw [hsteps] at hinside
  obtain ⟨hplane, hx⟩ := hinside _ (List.mem_append_right _ List.mem_cons_self)
  have hbefore : ∀ step ∈ before, step.InSlice stream windows :=
    fun step hmem => hinside step (List.mem_append_left _ hmem)
  -- Contexts saved in the state take the initial states of the stream out of play.
  obtain ⟨banks, hsizes, hlive, hbanks⟩ := savedContexts hcontexts
  obtain ⟨lines, hreset⟩ := reset_succeeds h { rangeContexts := banks }
  obtain ⟨hcount, hbordered⟩ := reset_bordered hreset hplane
  have hsome : SliceDecoder.validate stream (slice.withContent [0]) windows = .ok () :=
    validate_withContent hvalid (by decide)
  have hsetup : SetupFits (SliceDecoder.rangeSetup stream (slice.withContent []) windows.length)
      (SliceDecoder.rangeContextCounts stream slice windows.length) windows.length :=
    @rangeSetup_fits _ (slice.withContent [0]) _ hsome htables rfl
  obtain ⟨content, reader, decoding, hcontent, hreader, hdecoding, hline, hresidual⟩ :=
    exists_content h hsetup hbanks hlive hbefore (unpredicted_few h hbefore hfirst) hplane x hcount
  intro hfit
  have hstart : ContentStart stream windows (slice.withContent content) content
      { rangeContexts := banks, lineStates := lines } reader := by
    refine ⟨hmode, validate_withContent hvalid hcontent, resolve_withContent hcontent,
      ⟨_, hreset⟩, banks, savedContexts_taken hcontexts.1 hsizes, ?_⟩
    rw [startReader_withContent, htransition]
    exact Mirror.adaptExcept_ok_iff.mpr hreader
  have hvalues := hfit _ _ _ _ hstart planeIndex x bits signed16bit decoding
    ⟨before, behind, (), hsteps, hdecoding⟩
  have hpositive := predicted_pos h hdepth hsteps hpredicted hfirst
  rw [← hbordered, ← hline] at hpositive
  have hbits : bits ≤ 17 := by
    have hsupported := supported_depth hdepth
    have hdepthOf := sliceSteps_depth (hsteps ▸ List.mem_append_right before List.mem_cons_self)
    rcases hdepthOf with rfl | rfl <;> omega
  have hsum := (reconstructionValues_fit_iff hbits).mp (hvalues.2 _ hresidual)
  unfold FitsInt32 at hsum
  omega

/-- The decoder is safe from the contents of a slice exactly where it predicts no sample from
anything but zeros, under the transitions that the encoder knows. -/
theorem contents_fit_iff (h : SliceWindows stream windows) :
    (PredictsZero stream windows → ContentsFit stream windows) ∧
      ∀ slice, stream.entropyMode = .range → stream.stateTransition = defaultStateTransition →
        (∀ tableSet ∈ stream.quantTableSets, ContextModel.Accepted tableSet) →
        SliceDecoder.validate stream slice windows = .ok () →
        ContextsValid (SliceDecoder.rangeContextCounts stream slice windows.length) [] →
        (ContentsFit stream windows ↔ PredictsZero stream windows) := by
  refine ⟨contentsFit_of_zero h, fun slice hmode htransition htables hvalid hcontexts => ?_⟩
  refine ⟨fun hfit => ?_, contentsFit_of_zero h⟩
  by_contra hpredicts
  exact contents_overflow h hmode htransition htables hvalid hcontexts hpredicts hfit

end Contents

def dotWindows : List PlaneWindow := [{ strideBytes := 1, width := 1, height := 1 }]

theorem dotWindows_slice : SliceWindows overflowStream dotWindows :=
  ⟨rfl, by decide, by decide, nofun⟩

theorem overflowWindows_slice : SliceWindows overflowStream overflowWindows :=
  ⟨rfl, by decide, by decide, nofun⟩

theorem accepted_zero : ContextModel.Accepted makeZeroQuantTableSet := by
  have hwrite : Mirror.succeeded ((do
      RangeEncoder.reset [1] [] defaultStateTransition
      ConfigurationRecordWriter.writeQuantTableSet makeZeroQuantTableSet :
        Call RangeEncoder Unit) {}) = true := by
    rw [ConfigurationRecordWriter.writeQuantTableSet_zero]
    decide +kernel
  obtain ⟨_, start, hstart, hwritten⟩ := Mirror.bind_ok_iff.mp (Mirror.eq_ok_of_succeeded hwrite)
  exact ContextModel.accepted_of_write (by decide) hstart hwritten

theorem contents_fit_iff_dots :
    ContentsFit overflowStream dotWindows ∧ ¬ContentsFit overflowStream overflowWindows := by
  have htables : ∀ tableSet ∈ overflowStream.quantTableSets, ContextModel.Accepted tableSet := by
    intro tableSet hmem
    rw [List.mem_singleton.mp hmem]
    exact accepted_zero
  have hcontexts : ContextsValid
      (SliceDecoder.rangeContextCounts overflowStream overflowSlice 1) [] :=
    ⟨by decide, by decide, .inl rfl, by decide, by decide, .inl rfl, by decide, by decide,
      .inl rfl, trivial⟩
  refine ⟨((contents_fit_iff dotWindows_slice).2 overflowSlice rfl rfl htables (by decide)
    hcontexts).mpr (by decide), fun hfit => ?_⟩
  exact absurd (((contents_fit_iff overflowWindows_slice).2 overflowSlice rfl rfl htables (by decide)
    hcontexts).mp hfit) (by decide)

end Mffv1
