import Mffv1.SliceDecoder

/-!
# The steps of the range loops

The nested loops of the decoder as one list of steps, so that one can speak of the
state before any sample of a slice.
-/
namespace Mffv1

inductive SampleStep where
  | sample (planeIndex x bits : Nat) (signed16bit : Bool)
  | storePlanar (planeIndex y : Nat)
  | storeRgb (y : Nat)
  deriving DecidableEq

section Steps

variable {R : Type} [SymbolSource R] (stream : StreamParameters) (setup : RangeSliceSetup)
  (windows : List PlaneWindow)

def runStep : SampleStep → Call (Decoding R) Unit
  | .sample planeIndex x bits signed16bit =>
    decodeRangeSample setup.readerBaseOffset (setup.contextModels.getD planeIndex {})
      (setup.rangeContextBankIndexes.getD planeIndex 0) bits signed16bit planeIndex x
  | .storePlanar planeIndex y => storePlanarLine stream windows planeIndex y
  | .storeRgb y => storeRgbLine stream windows y

def runSteps : List SampleStep → Call (Decoding R) Unit
  | [] => pure ()
  | step :: steps => do
    runStep stream setup windows step
    runSteps steps

theorem runSteps_append (steps rest : List SampleStep) :
    (runSteps stream setup windows (steps ++ rest) : Call (Decoding R) Unit) = (do
      runSteps stream setup windows steps
      runSteps stream setup windows rest) := by
  induction steps with
  | nil => simp [runSteps]
  | cons step steps ih => simp [runSteps, ih]

theorem runSteps_single (step : SampleStep) :
    (runSteps stream setup windows [step] : Call (Decoding R) Unit) =
      runStep stream setup windows step := by
  simp [runSteps]

/-- A loop over bodies that are lists of steps. -/
theorem forLoop_runSteps {body : Nat → Call (Decoding R) Unit} {steps : Nat → List SampleStep}
    (h : ∀ i, body i = runSteps stream setup windows (steps i)) (start count : Nat) :
    Mirror.forLoop start count body =
      runSteps stream setup windows ((List.range' start count).flatMap steps) := by
  induction count generalizing start with
  | zero => rfl
  | succ count ih =>
    rw [Mirror.forLoop_succ, ih, h, List.range'_succ, List.flatMap_cons, runSteps_append]

end Steps

section Slices

variable (stream : StreamParameters) (windows : List PlaneWindow)

def lineSteps (planeIndex width bits : Nat) (signed16bit : Bool) : List SampleStep :=
  (List.range' 0 width).flatMap fun x => [.sample planeIndex x bits signed16bit]

def rgbRowSteps (y : Nat) : List SampleStep :=
  ((List.range' 0 windows.length).flatMap fun planeIndex =>
    lineSteps planeIndex (planeWindow windows 0).width.toNat
      (rgbReconstructionBits stream planeIndex) false) ++ [.storeRgb y]

def planarLineSteps (planeIndex y : Nat) : List SampleStep :=
  lineSteps planeIndex (planeWindow windows planeIndex).width.toNat stream.bitsPerRawSample.toNat
    stream.usesSigned16bitPredictor ++ [.storePlanar planeIndex y]

def interleavedRowSteps (y : Nat) : List SampleStep :=
  (List.range' 0 windows.length).flatMap fun planeIndex =>
    if (planeWindow windows planeIndex).height.toNat ≤ y then []
    else planarLineSteps stream windows planeIndex y

def planeSteps (planeIndex : Nat) : List SampleStep :=
  (List.range' 0 (planeWindow windows planeIndex).height.toNat).flatMap
    (planarLineSteps stream windows planeIndex)

/-- The steps of a slice, in the order of the decoder. -/
def sliceSteps : List SampleStep :=
  if stream.colorspaceType = 1 then
    (List.range' 0 (planeWindow windows 0).height.toNat).flatMap (rgbRowSteps stream windows)
  else if usesLegacyRangeYcbcrRowOrder stream then
    (List.range' 0 (planeWindow windows 0).height.toNat).flatMap
      (interleavedRowSteps stream windows)
  else (List.range' 0 windows.length).flatMap (planeSteps stream windows)

end Slices

section Equations

variable {R : Type} [SymbolSource R] (stream : StreamParameters) (setup : RangeSliceSetup)
  (windows : List PlaneWindow)

theorem decodePlaneLine_eq (bits : Nat) (signed16bit : Bool) (planeIndex widthPlane : Nat) :
    (decodePlaneLine setup windows bits signed16bit planeIndex widthPlane : Call (Decoding R) Unit) =
      runSteps stream setup windows
        (lineSteps planeIndex (planeWindow windows widthPlane).width.toNat bits signed16bit) :=
  forLoop_runSteps stream setup windows
    (fun x => (runSteps_single stream setup windows (.sample planeIndex x bits signed16bit)).symm) _ _

theorem decodeRgbRow_eq (y : Nat) :
    (decodeRgbRow stream setup windows y : Call (Decoding R) Unit) =
      runSteps stream setup windows (rgbRowSteps stream windows y) := by
  unfold decodeRgbRow rgbRowSteps
  rw [forLoop_runSteps stream setup windows fun planeIndex =>
    decodePlaneLine_eq stream setup windows _ false planeIndex 0, runSteps_append, runSteps_single]
  rfl

theorem decodePlanarLine_eq (planeIndex y : Nat) :
    (decodePlanarLine stream setup windows planeIndex y : Call (Decoding R) Unit) =
      runSteps stream setup windows (planarLineSteps stream windows planeIndex y) := by
  unfold decodePlanarLine planarLineSteps
  rw [decodePlaneLine_eq stream, runSteps_append, runSteps_single]
  rfl

theorem interleavedRow_eq (y : Nat) :
    (Mirror.forLoop 0 windows.length fun planeIndex =>
      if (planeWindow windows planeIndex).height.toNat ≤ y then pure ()
      else (decodePlanarLine stream setup windows planeIndex y : Call (Decoding R) Unit)) =
      runSteps stream setup windows (interleavedRowSteps stream windows y) := by
  refine forLoop_runSteps stream setup windows (fun planeIndex => ?_) _ _
  split
  · rfl
  · exact decodePlanarLine_eq stream setup windows planeIndex y

/-- The loops of a slice run its steps. -/
theorem decodeRangeSamples_eq :
    (decodeRangeSamples stream setup windows : Call (Decoding R) Unit) =
      runSteps stream setup windows (sliceSteps stream windows) := by
  unfold decodeRangeSamples sliceSteps
  split
  · exact forLoop_runSteps stream setup windows (decodeRgbRow_eq stream setup windows) _ _
  · split
    · exact forLoop_runSteps stream setup windows (interleavedRow_eq stream setup windows) _ _
    · exact forLoop_runSteps stream setup windows (fun planeIndex => forLoop_runSteps stream setup
        windows (decodePlanarLine_eq stream setup windows planeIndex) _ _) _ _

end Equations

/-- A sample is reconstructed to the depth of the stream, or to one more bit for the
colours of RGB. -/
def SampleStep.DepthOf (stream : StreamParameters) : SampleStep → Prop
  | .sample _ _ bits _ =>
    bits = stream.bitsPerRawSample.toNat ∨ bits = stream.bitsPerRawSample.toNat + 1
  | _ => True

section Depth

variable {stream : StreamParameters} {windows : List PlaneWindow} {step : SampleStep}

theorem lineSteps_depth {planeIndex width bits : Nat} {signed16bit : Bool}
    (hbits : bits = stream.bitsPerRawSample.toNat ∨ bits = stream.bitsPerRawSample.toNat + 1)
    (h : step ∈ lineSteps planeIndex width bits signed16bit) : step.DepthOf stream := by
  obtain ⟨x, -, hstep⟩ := List.mem_flatMap.mp h
  obtain rfl := List.mem_singleton.mp hstep
  exact hbits

theorem rgbRowSteps_depth {y : Nat} (h : step ∈ rgbRowSteps stream windows y) :
    step.DepthOf stream := by
  rcases List.mem_append.mp h with hline | hstore
  · obtain ⟨planeIndex, -, hstep⟩ := List.mem_flatMap.mp hline
    refine lineSteps_depth ?_ hstep
    unfold rgbReconstructionBits
    split
    · exact .inr rfl
    · exact .inl rfl
  · obtain rfl := List.mem_singleton.mp hstore
    trivial

theorem planarLineSteps_depth {planeIndex y : Nat}
    (h : step ∈ planarLineSteps stream windows planeIndex y) : step.DepthOf stream := by
  rcases List.mem_append.mp h with hline | hstore
  · exact lineSteps_depth (.inl rfl) hline
  · obtain rfl := List.mem_singleton.mp hstore
    trivial

theorem sliceSteps_depth (h : step ∈ sliceSteps stream windows) : step.DepthOf stream := by
  unfold sliceSteps at h
  split at h
  · obtain ⟨y, -, hrow⟩ := List.mem_flatMap.mp h
    exact rgbRowSteps_depth hrow
  · split at h
    · obtain ⟨y, -, hrow⟩ := List.mem_flatMap.mp h
      obtain ⟨planeIndex, -, hline⟩ := List.mem_flatMap.mp hrow
      split at hline
      · exact absurd hline List.not_mem_nil
      · exact planarLineSteps_depth hline
    · obtain ⟨planeIndex, -, hplane⟩ := List.mem_flatMap.mp h
      obtain ⟨y, -, hline⟩ := List.mem_flatMap.mp hplane
      exact planarLineSteps_depth hline

end Depth

end Mffv1
