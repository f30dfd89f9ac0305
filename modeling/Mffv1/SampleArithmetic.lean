import Mffv1.SampleSteps
import Mffv1.SliceShape

/-!
# The 32-bit arithmetic of range samples

The source predicts and reconstructs samples in signed 32-bit integers. All values of
a line stay below 2^17, so that prediction never leaves them; a residual may.
-/
namespace Mffv1

def FitsInt32 (value : Int) : Prop := -2 ^ 31 ≤ value ∧ value ≤ 2 ^ 31 - 1

instance (value : Int) : Decidable (FitsInt32 value) := by
  unfold FitsInt32
  infer_instance

/-- `left + top - top_left`, and the sum before it. -/
def predictorSums (left top topLeft : Int) : List Int := [left + top, left + top - topLeft]

/-- What `median_predict` and `median_predict_signed_16bit` compute. -/
def predictionValues (useSigned16bitPrediction : Bool) (neighbors : NeighborSamples) : List Int :=
  if useSigned16bitPrediction then
    let left := Predictor.asSigned16bit neighbors.left
    let top := Predictor.asSigned16bit neighbors.top
    let topLeft := Predictor.asSigned16bit neighbors.topLeft
    left :: top :: topLeft :: predictorSums left top topLeft
  else predictorSums neighbors.left neighbors.top neighbors.topLeft

/-- What `Predictor::reconstruct` computes. -/
def reconstructionValues (prediction difference : Int) (bitsPerRawSample : Nat) : List Int :=
  let reconstructed := prediction + difference
  if bitsPerRawSample = 0 ∨ 31 ≤ bitsPerRawSample then [reconstructed]
  else
    let range : Int := 2 ^ bitsPerRawSample
    let wrapped := reconstructed.tmod range
    [reconstructed, range, wrapped, if wrapped < 0 then wrapped + range else wrapped]

/-- The difference that `decode_range_line` hands to `Predictor::reconstruct`. -/
def codedDifference {R : Type} [SymbolSource R] (contextModel : QuantTableSet)
    (contextBank : Nat) (neighbors : NeighborSamples) (reader : R) : Option Int :=
  match ContextModel.deriveContext contextModel neighbors with
  | .error _ => none
  | .ok context =>
    match SymbolSource.readSigned contextBank context.context reader with
    | .error _ _ => none
    | .ok coded _ =>
      let difference := if context.invertDifference then -coded else coded
      if difference < -2 ^ 31 ∨ 2 ^ 31 - 1 < difference then none else some difference

/-- A value of a line: RGB at sixteen bits has seventeen. -/
def LineValue (value : Int) : Prop := 0 ≤ value ∧ value < 2 ^ 17

structure LineState.Within (line : LineState) : Prop where
  border : LineValue line.borderValue
  current : ∀ value ∈ line.current, LineValue value
  previous : ∀ value ∈ line.previous, LineValue value
  secondPrevious : ∀ value ∈ line.secondPrevious, LineValue value

theorem lineValue_zero : LineValue 0 := by
  constructor <;> decide

theorem lineValue_getD {values : List Int} (h : ∀ value ∈ values, LineValue value) (i : Nat) :
    LineValue (values.getD i 0) := by
  rcases Nat.lt_or_ge i values.length with hlt | hge
  · rw [List.getD_eq_getElem _ _ hlt]
    exact h _ (List.getElem_mem hlt)
  · rw [List.getD_eq_default _ _ hge]
    exact lineValue_zero

theorem LineState.bordered_within {border : Int} (h : LineValue border) (width : Nat) :
    (LineState.bordered width border).Within := by
  have hline : ∀ value ∈ List.replicate width border, LineValue value := by
    intro value hmem
    rw [List.eq_of_mem_replicate hmem]
    exact h
  exact ⟨h, hline, hline, hline⟩

theorem LineState.Within.store {line : LineState} (h : line.Within) {value : Int}
    (hvalue : LineValue value) (x : Nat) : (line.store x value).Within := by
  refine ⟨h.border, fun other hmem => ?_, h.previous, h.secondPrevious⟩
  rcases List.mem_or_eq_of_mem_set hmem with hold | rfl
  · exact h.current other hold
  · exact hvalue

theorem LineState.Within.swapLines {line : LineState} (h : line.Within) :
    line.swapLines.Within := by
  refine ⟨h.border, fun value hmem => ?_, h.current, h.previous⟩
  rw [List.eq_of_mem_replicate hmem]
  exact h.border

/-- The neighbours of a sample that prediction looks at. -/
theorem LineState.Within.neighbors {line : LineState} (h : line.Within) (x : Nat) :
    LineValue (line.neighbors x).left ∧ LineValue (line.neighbors x).top ∧
      LineValue (line.neighbors x).topLeft := by
  have hcurrent := lineValue_getD h.current
  have hprevious := lineValue_getD h.previous
  have hsecond := lineValue_getD h.secondPrevious
  simp only [LineState.neighbors]
  refine ⟨?_, hprevious x, ?_⟩
  · split
    · exact hcurrent _
    · exact hprevious 0
  · split
    · exact hprevious _
    · exact hsecond 0

/-- The lines of a slice. -/
def LinesWithin (state : SliceState) : Prop := ∀ line ∈ state.lineStates, line.Within

theorem LinesWithin.lineState {state : SliceState} (h : LinesWithin state) (planeIndex : Nat) :
    (state.lineState planeIndex).Within := by
  unfold SliceState.lineState
  rcases Nat.lt_or_ge planeIndex state.lineStates.length with hlt | hge
  · rw [List.getD_eq_getElem _ _ hlt]
    exact h _ (List.getElem_mem hlt)
  · rw [List.getD_eq_default _ _ hge]
    exact LineState.bordered_within lineValue_zero 0

theorem LinesWithin.modifyLine {state : SliceState} (h : LinesWithin state) {planeIndex : Nat}
    {f : LineState → LineState} (hf : ∀ line : LineState, line.Within → (f line).Within) :
    LinesWithin (state.modifyLine planeIndex f) := by
  intro line hmem
  obtain ⟨i, hi, rfl⟩ := List.getElem_of_mem hmem
  unfold SliceState.modifyLine at hi ⊢
  rw [List.length_modify] at hi
  rw [List.getElem_modify]
  split
  · exact hf _ (h _ (List.getElem_mem hi))
  · exact h _ (List.getElem_mem hi)

theorem LinesWithin.swapAllLines {state : SliceState} (h : LinesWithin state) :
    LinesWithin state.swapAllLines := by
  intro line hmem
  obtain ⟨before, hbefore, rfl⟩ := List.mem_map.mp hmem
  exact (h before hbefore).swapLines

theorem planeBorderValue_bounds (stream : StreamParameters) (planeIndex : Nat) :
    0 ≤ planeBorderValue stream planeIndex ∧ planeBorderValue stream planeIndex ≤ 2 ^ 7 := by
  unfold planeBorderValue
  split
  · rename_i hborder
    have hbits : stream.bitsPerRawSample.toNat ≤ 8 := UInt8.le_iff_toNat_le.mp hborder.2.2.2.2.2
    exact ⟨by positivity, pow_le_pow_right₀ (by decide) (by omega)⟩
  · exact ⟨le_rfl, by positivity⟩

theorem planeBorderValue_within (stream : StreamParameters) (planeIndex : Nat) :
    LineValue (planeBorderValue stream planeIndex) := by
  obtain ⟨hnonneg, hle⟩ := planeBorderValue_bounds stream planeIndex
  exact ⟨hnonneg, by omega⟩

theorem reset_within {stream : StreamParameters} {windows : List PlaneWindow}
    {before state : SliceState} (h : before.reset stream windows = .ok state) :
    LinesWithin state := by
  simp only [SliceState.reset, except_bind_ok] at h
  obtain ⟨lines, hlines, hstate⟩ := h
  obtain rfl := Except.ok.inj hstate
  obtain ⟨hlength, hget⟩ := resetLines_get hlines
  intro line hmem
  obtain ⟨k, hk, rfl⟩ := List.getElem_of_mem hmem
  have hline := hget k (hlength ▸ hk)
  rw [List.getD_eq_getElem _ _ hk] at hline
  rw [hline]
  exact LineState.bordered_within (planeBorderValue_within stream _) _

theorem predictorSums_fit {left top topLeft : Int} (hleft : -2 ^ 15 ≤ left ∧ left < 2 ^ 17)
    (htop : -2 ^ 15 ≤ top ∧ top < 2 ^ 17) (htopLeft : -2 ^ 15 ≤ topLeft ∧ topLeft < 2 ^ 17) :
    ∀ value ∈ predictorSums left top topLeft, FitsInt32 value := by
  intro value hmem
  unfold FitsInt32
  rcases List.mem_pair.mp hmem with rfl | rfl <;> omega

theorem lineValue_signed {value : Int} (h : LineValue value) :
    -2 ^ 15 ≤ value ∧ value < 2 ^ 17 := by
  unfold LineValue at h
  omega

theorem asSigned16bit_bounds {value : Int} (h : LineValue value) :
    -2 ^ 15 ≤ Predictor.asSigned16bit value ∧ Predictor.asSigned16bit value < 2 ^ 17 := by
  unfold LineValue at h
  unfold Predictor.asSigned16bit
  split <;> omega

/-- Prediction never leaves 32 bits. -/
theorem predictionValues_fit {line : LineState} (h : line.Within) (x : Nat)
    (signed16bit : Bool) : ∀ value ∈ predictionValues signed16bit (line.neighbors x),
      FitsInt32 value := by
  obtain ⟨hleft, htop, htopLeft⟩ := h.neighbors x
  cases signed16bit with
  | false =>
    exact predictorSums_fit (lineValue_signed hleft) (lineValue_signed htop)
      (lineValue_signed htopLeft)
  | true =>
    have hsums := predictorSums_fit (asSigned16bit_bounds hleft) (asSigned16bit_bounds htop)
      (asSigned16bit_bounds htopLeft)
    have hsmall {value : Int} (hvalue : LineValue value) :
        FitsInt32 (Predictor.asSigned16bit value) := by
      have hbounds := asSigned16bit_bounds hvalue
      unfold FitsInt32
      omega
    intro value hmem
    rcases List.mem_cons.mp hmem with rfl | hmem
    · exact hsmall hleft
    rcases List.mem_cons.mp hmem with rfl | hmem
    · exact hsmall htop
    rcases List.mem_cons.mp hmem with rfl | hmem
    · exact hsmall htopLeft
    exact hsums value hmem

/-- Reconstruction leaves 32 bits exactly where its first sum does. -/
theorem reconstructionValues_fit_iff {prediction difference : Int} {bits : Nat} (hbits : bits ≤ 17) :
    (∀ value ∈ reconstructionValues prediction difference bits, FitsInt32 value) ↔
      FitsInt32 (prediction + difference) := by
  unfold reconstructionValues
  split
  · simp
  · have hpow : (2 : Int) ^ bits ≤ 2 ^ 17 := pow_le_pow_right₀ (by decide) hbits
    have hpos : (0 : Int) < 2 ^ bits := by positivity
    have hlow := Int.lt_tmod_of_pos (prediction + difference) hpos
    have hhigh := Int.tmod_lt_of_pos (prediction + difference) hpos
    simp only [List.mem_cons, List.not_mem_nil, or_false, forall_eq_or_imp, forall_eq]
    refine ⟨fun h => h.1, fun h => ⟨h, ?_, ?_, ?_⟩⟩
    · unfold FitsInt32
      omega
    · unfold FitsInt32
      omega
    · unfold FitsInt32
      split <;> omega

theorem reconstruct_lineValue {bits : Nat} (hbits : 1 ≤ bits ∧ bits ≤ 17) (prediction difference : Int) :
    LineValue (Predictor.reconstruct prediction difference bits) := by
  rw [reconstruct_eq_emod (by omega)]
  have hpow : (2 : Int) ^ bits ≤ 2 ^ 17 := pow_le_pow_right₀ (by decide) hbits.2
  have hpos : (0 : Int) < 2 ^ bits := by positivity
  have hnonneg := Int.emod_nonneg (prediction + difference) hpos.ne'
  have hlt := Int.emod_lt_of_pos (prediction + difference) hpos
  exact ⟨hnonneg, by omega⟩

section Steps

variable {R : Type} [SymbolSource R] {stream : StreamParameters} {setup : RangeSliceSetup}
  {windows : List PlaneWindow}

/-- A sample that is decoded stores a reconstructed value. -/
theorem decodeRangeSample_state {base bank bits planeIndex x : Nat} {model : QuantTableSet}
    {signed16bit : Bool} {decoding decoding' : Decoding R} {u : Unit}
    (h : decodeRangeSample base model bank bits signed16bit planeIndex x decoding =
      .ok u decoding') :
    ∃ difference, decoding'.state = decoding.state.modifyLine planeIndex
      (LineState.store · x (Predictor.reconstruct
        (medianPrediction signed16bit ((decoding.state.lineState planeIndex).neighbors x))
        difference bits)) := by
  simp only [decodeRangeSample, Mirror.get_bind, decodeResidual, Mirror.bind_ok_iff,
    Mirror.ofExcept_ok_iff, failIf_call_ok_iff, Mirror.modify_apply, EStateM.Result.ok.injEq] at h
  obtain ⟨context, start, ⟨-, rfl⟩, coded, _, hread, _, read, ⟨-, rfl⟩, -, rfl⟩ := h
  have hstate : read.state = start.state := by
    unfold onReader at hread
    split at hread
    · obtain ⟨-, rfl⟩ := EStateM.Result.ok.inj hread
      rfl
    · cases hread
  refine ⟨if context.invertDifference then -coded else coded, ?_⟩
  simp only [Decoding.modifyState, hstate]

theorem runStep_within {step : SampleStep} (hdepth : isSupportedBitDepth stream.bitsPerRawSample = true)
    (hstep : step.DepthOf stream) :
    Mirror.Keeps (fun decoding : Decoding R => LinesWithin decoding.state)
      (runStep stream setup windows step) := by
  have hbits := supported_depth hdepth
  intro decoding u decoding' hwithin hrun
  cases step with
  | sample planeIndex x bits signed16bit =>
    obtain ⟨difference, hstate⟩ := decodeRangeSample_state hrun
    have hwidth : 1 ≤ bits ∧ bits ≤ 17 := by
      rcases hstep with rfl | rfl <;> omega
    have hvalue := reconstruct_lineValue hwidth
      (medianPrediction signed16bit ((decoding.state.lineState planeIndex).neighbors x)) difference
    rw [hstate]
    exact hwithin.modifyLine fun line hline => hline.store hvalue x
  | storePlanar planeIndex y =>
    simp only [runStep, storePlanarLine, Mirror.bind_ok_iff, Mirror.ofExcept_ok_iff,
      Mirror.get_bind, Mirror.modify_bind, Mirror.modify_apply, EStateM.Result.ok.injEq] at hrun
    obtain ⟨_, _, ⟨-, rfl⟩, -, rfl⟩ := hrun
    exact hwithin.modifyLine fun line hline => hline.swapLines
  | storeRgb y =>
    simp only [runStep, storeRgbLine, Mirror.bind_ok_iff, Mirror.ofExcept_ok_iff,
      Mirror.get_bind, Mirror.modify_bind, Mirror.modify_apply, EStateM.Result.ok.injEq] at hrun
    obtain ⟨_, _, ⟨-, rfl⟩, -, rfl⟩ := hrun
    exact hwithin.swapAllLines

theorem runSteps_within {steps : List SampleStep}
    (hdepth : isSupportedBitDepth stream.bitsPerRawSample = true)
    (hsteps : ∀ step ∈ steps, step.DepthOf stream) :
    Mirror.Keeps (fun decoding : Decoding R => LinesWithin decoding.state)
      (runSteps stream setup windows steps) := by
  induction steps with
  | nil => exact Mirror.Keeps.pure
  | cons step steps ih =>
    exact (runStep_within hdepth (hsteps step List.mem_cons_self)).bind fun _ =>
      ih fun other hmem => hsteps other (List.mem_cons_of_mem _ hmem)

end Steps

section Overflow

variable (stream : StreamParameters) (setup : RangeSliceSetup) (windows : List PlaneWindow)

/-- The decoder, started at `start`, has come to a sample of the slice. -/
def StandsBefore {R : Type} [SymbolSource R] (start : Decoding R) (step : SampleStep)
    (decoding : Decoding R) : Prop :=
  ∃ done rest u, sliceSteps stream windows = done ++ step :: rest ∧
    runSteps stream setup windows done start = .ok u decoding

/-- The residual of a sample, where the content codes one. -/
def residualAt {R : Type} [SymbolSource R] (planeIndex x : Nat) (decoding : Decoding R) :
    Option Int :=
  codedDifference (setup.contextModels.getD planeIndex {})
    (setup.rangeContextBankIndexes.getD planeIndex 0)
    ((decoding.state.lineState planeIndex).neighbors x) decoding.reader

/-- Every signed 32-bit value that the decoding of a sample computes is one. -/
def IntermediatesFit {R : Type} [SymbolSource R] (planeIndex x bits : Nat) (signed16bit : Bool)
    (decoding : Decoding R) : Prop :=
  let neighbors := (decoding.state.lineState planeIndex).neighbors x
  (∀ value ∈ predictionValues signed16bit neighbors, FitsInt32 value) ∧
    ∀ difference, residualAt setup planeIndex x decoding = some difference →
      ∀ value ∈ reconstructionValues (medianPrediction signed16bit neighbors) difference bits,
        FitsInt32 value

/-- The residual leaves room for the prediction. -/
def ResidualLeavesRoom {R : Type} [SymbolSource R] (planeIndex x : Nat) (signed16bit : Bool)
    (decoding : Decoding R) : Prop :=
  let neighbors := (decoding.state.lineState planeIndex).neighbors x
  ∀ difference, residualAt setup planeIndex x decoding = some difference →
    -2 ^ 31 - medianPrediction signed16bit neighbors ≤ difference ∧
      difference ≤ 2 ^ 31 - 1 - medianPrediction signed16bit neighbors

variable {stream setup windows}

/-- The values of a slice stay in 32 bits exactly where no residual meets a prediction
that takes it out of them. -/
theorem intermediates_fit_iff {slice : SliceDescriptor} {before state : SliceState}
    (hvalid : SliceDecoder.validate stream slice windows = .ok ())
    (hreset : before.reset stream windows = .ok state) (reader : RangeCoder) :
    (∀ planeIndex x bits signed16bit decoding,
      StandsBefore stream (SliceDecoder.rangeSetup stream slice windows.length) windows
        { reader, state } (.sample planeIndex x bits signed16bit) decoding →
      IntermediatesFit (SliceDecoder.rangeSetup stream slice windows.length) planeIndex x bits
        signed16bit decoding) ↔
    ∀ planeIndex x bits signed16bit decoding,
      StandsBefore stream (SliceDecoder.rangeSetup stream slice windows.length) windows
        { reader, state } (.sample planeIndex x bits signed16bit) decoding →
      ResidualLeavesRoom (SliceDecoder.rangeSetup stream slice windows.length) planeIndex x
        signed16bit decoding := by
  have hdepth : isSupportedBitDepth stream.bitsPerRawSample = true := by
    simp only [SliceDecoder.validate, except_bind_ok, exists_unit, failIf_ok_iff] at hvalid
    obtain ⟨_, -, -, -, -, hdepth, -⟩ := hvalid
    simpa using hdepth
  have hbits := supported_depth hdepth
  refine forall_congr' fun planeIndex => forall_congr' fun x => forall_congr' fun bits =>
    forall_congr' fun signed16bit => forall_congr' fun decoding => forall_congr' fun hbefore => ?_
  obtain ⟨done, rest, u, hsteps, hrun⟩ := hbefore
  have hmem {step : SampleStep} (h : step ∈ done ++ .sample planeIndex x bits signed16bit :: rest) :
      step.DepthOf stream := sliceSteps_depth (hsteps ▸ h)
  have hwithin := runSteps_within hdepth (fun step h => hmem (List.mem_append_left _ h)) _ _ _
    (reset_within hreset) hrun
  have hseventeen : bits ≤ 17 := by
    have hdepthOf : (SampleStep.sample planeIndex x bits signed16bit).DepthOf stream :=
      hmem (by simp)
    rcases hdepthOf with rfl | rfl <;> omega
  have hroom (prediction difference : Int) : FitsInt32 (prediction + difference) ↔
      -2 ^ 31 - prediction ≤ difference ∧ difference ≤ 2 ^ 31 - 1 - prediction := by
    unfold FitsInt32
    omega
  simp only [IntermediatesFit, ResidualLeavesRoom, reconstructionValues_fit_iff hseventeen, hroom]
  exact and_iff_right (predictionValues_fit (hwithin.lineState planeIndex) x signed16bit)

end Overflow

/-- A keyframe of two samples whose residuals are 1 and 2^31 - 1. -/
def overflowStream : StreamParameters :=
  { width := 2, height := 1, chromaPlanes := false, quantTableSets := [makeZeroQuantTableSet] }

def overflowPayload : Bytes := [254, 7, 103, 255, 127, 101, 255, 67, 0, 0, 8]

def overflowSlice : SliceDescriptor :=
  { width := 2, height := 1, rasterWidth := 1, rasterHeight := 1, payload := overflowPayload,
    headerByteOffset := 2, contentByteOffset := 2, footerByteOffset := 8, sliceSize := 8,
    quantTableSetIndexes := [0, 0] }

def overflowWindows : List PlaneWindow := [{ strideBytes := 2, width := 2, height := 1 }]

def overflowState : SliceState := { lineStates := [LineState.bordered 2 0] }

def overflowReader : RangeCoder :=
  Mirror.finalState (SliceDecoder.startReader overflowStream overflowSlice (overflowPayload.drop 2)
    [1, 1] [[], []] {})

/-- The decoder behind the first sample. -/
def overflowDecoding : Decoding RangeCoder :=
  Mirror.finalState (runSteps overflowStream
    (SliceDecoder.rangeSetup overflowStream overflowSlice 1) overflowWindows [.sample 0 0 8 false]
    { reader := overflowReader, state := overflowState })

/-- The second sample of the frame adds 1 to 2^31 - 1. -/
theorem overflowPayload_leaves_int32 :
    (FrameParser.parse overflowStream false overflowPayload).map FrameDecodeContext.slices =
        .ok [overflowSlice] ∧
      SliceDecoder.validate overflowStream overflowSlice overflowWindows = .ok () ∧
      SliceDecoder.startReader overflowStream overflowSlice (overflowPayload.drop 2) [1, 1] [[], []]
        {} = .ok () overflowReader ∧
      SliceState.reset overflowStream overflowWindows {} = .ok overflowState ∧
      ∃ decoding, StandsBefore overflowStream
          (SliceDecoder.rangeSetup overflowStream overflowSlice 1) overflowWindows
          { reader := overflowReader, state := overflowState } (.sample 0 1 8 false) decoding ∧
        residualAt (SliceDecoder.rangeSetup overflowStream overflowSlice 1) 0 1 decoding =
          some (2 ^ 31 - 1) ∧
        ¬IntermediatesFit (SliceDecoder.rangeSetup overflowStream overflowSlice 1) 0 1 8 false
          decoding := by
  have hresidual : residualAt (SliceDecoder.rangeSetup overflowStream overflowSlice 1) 0 1
      overflowDecoding = some (2 ^ 31 - 1) := by decide +kernel
  refine ⟨by decide +kernel, by decide, Mirror.eq_ok_of_succeeded (by decide +kernel), by decide,
    overflowDecoding, ⟨[.sample 0 0 8 false], [.storePlanar 0 0], (), by decide,
      Mirror.eq_ok_of_succeeded (by decide +kernel)⟩, hresidual, fun hfit => ?_⟩
  have hsum : ¬FitsInt32 (medianPrediction false ((overflowDecoding.state.lineState 0).neighbors 1) +
      (2 ^ 31 - 1)) := by decide +kernel
  exact hsum (hfit.2 _ hresidual _ (by simp [reconstructionValues]))

end Mffv1
