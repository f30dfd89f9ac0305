import Mffv1.GolombRice
import Mffv1.LineState
import Mffv1.RangeCoder
import Mffv1.RangeEncoder
import Mffv1.SliceWindow

/-!
# The state of a slice

What a slice keeps from one frame to the next: the contexts of its entropy coder.
Its line states start anew with every frame.
-/
namespace Mffv1

structure SliceState where
  lineStates : List LineState := []
  rangeContexts : ContextStateBanks := []
  golombRiceContexts : List (List GolombRiceContextState) := []
  golombRiceRunStates : List GolombRiceRunState := []
  deriving DecidableEq

/-- Eight-bit chroma of the first versions starts from the middle of the range. -/
def planeBorderValue (stream : StreamParameters) (planeIndex : Nat) : Int :=
  if stream.entropyMode = .range ∧ stream.version ≤ 1 ∧ stream.colorspaceType = 0 ∧
      stream.isChromaPlane planeIndex ∧ 0 < stream.bitsPerRawSample ∧ stream.bitsPerRawSample ≤ 8 then
    2 ^ (stream.bitsPerRawSample.toNat - 1)
  else 0

namespace SliceState

def planeCount (state : SliceState) : Nat := state.lineStates.length

def lineState (state : SliceState) (planeIndex : Nat) : LineState :=
  state.lineStates.getD planeIndex {}

/-- `state.line_state(plane)` under a mutating method. -/
def modifyLine (state : SliceState) (planeIndex : Nat) (f : LineState → LineState) : SliceState :=
  { state with lineStates := state.lineStates.modify planeIndex f }

def swapAllLines (state : SliceState) : SliceState :=
  { state with lineStates := state.lineStates.map LineState.swapLines }

/-- The line states of the planes of a window from `planeIndex` on. -/
def resetLines (stream : StreamParameters) : (planeIndex : Nat) → List PlaneWindow →
    Except Error (List LineState)
  | _, [] => .ok []
  | planeIndex, window :: windows => do
    let line ← LineState.reset window.width (planeBorderValue stream planeIndex)
    let lines ← resetLines stream (planeIndex + 1) windows
    return line :: lines

/-- `reset(stream, window)`, for an input or an output window. -/
def reset (stream : StreamParameters) (windows : List PlaneWindow) (state : SliceState) :
    Except Error SliceState := do
  let lines ← resetLines stream 0 windows
  return { state with lineStates := lines }

def hasRangeContexts (state : SliceState) : Bool := !state.rangeContexts.isEmpty

def hasGolombRiceState (state : SliceState) : Bool := !state.golombRiceContexts.isEmpty

def clearEntropyState (state : SliceState) : SliceState :=
  { state with rangeContexts := [], golombRiceContexts := [], golombRiceRunStates := [] }

def captureRangeContexts (contexts : Except Error ContextStateBanks) (state : SliceState) :
    Except Error SliceState := do
  let contexts ← contexts
  return { state with rangeContexts := contexts }

def prepareGolombRice (contextCounts : List Nat) (runStateCount : Nat) (state : SliceState) :
    Except Error SliceState := do
  failIf (runStateCount ≠ state.planeCount) (makeError .invalidArgument
    "Golomb-Rice run-state bank count does not match slice plane count")
  failIf (0 ∈ contextCounts) (makeError .invalidState
    "Golomb-Rice context bank must not be empty")
  if state.golombRiceContexts = [] ∧ state.golombRiceRunStates = [] then
    return { state with
      golombRiceContexts := contextCounts.map fun count => List.replicate count {}
      golombRiceRunStates := List.replicate runStateCount {} }
  else
    failIf (state.golombRiceContexts.length ≠ contextCounts.length ∨
        state.golombRiceRunStates.length ≠ runStateCount) (makeError .invalidState
      "saved Golomb-Rice state bank count does not match current stream")
    failIf (state.golombRiceContexts.map List.length ≠ contextCounts) (makeError .invalidState
      "saved Golomb-Rice context count does not match quantization contexts")
    return state

def golombRiceContext (state : SliceState) (bank context : Nat) : GolombRiceContextState :=
  (state.golombRiceContexts.getD bank []).getD context {}

def setGolombRiceContext (state : SliceState) (bank context : Nat)
    (adaptive : GolombRiceContextState) : SliceState :=
  { state with
    golombRiceContexts := state.golombRiceContexts.modify bank fun contexts =>
      contexts.set context adaptive }

def golombRiceRunState (state : SliceState) (planeIndex : Nat) : GolombRiceRunState :=
  state.golombRiceRunStates.getD planeIndex {}

def setGolombRiceRunState (state : SliceState) (planeIndex : Nat) (runState : GolombRiceRunState) :
    SliceState :=
  { state with golombRiceRunStates := state.golombRiceRunStates.set planeIndex runState }

/-- `golomb_rice_run_state(plane).reset()` for every plane. -/
def resetRunStates (state : SliceState) : SliceState :=
  { state with golombRiceRunStates := state.golombRiceRunStates.map fun _ => {} }

/-- `golomb_rice_run_state(plane).pending_count = 0` for every plane. -/
def clearPendingRuns (state : SliceState) : SliceState :=
  { state with
    golombRiceRunStates := state.golombRiceRunStates.map fun runState =>
      { runState with pendingCount := 0 } }

section Lines

variable {state : SliceState} {planeIndex : Nat} {f : LineState → LineState}

@[simp] theorem planeCount_modifyLine :
    (state.modifyLine planeIndex f).planeCount = state.planeCount :=
  List.length_modify ..

@[simp] theorem planeCount_swapAllLines : state.swapAllLines.planeCount = state.planeCount :=
  List.length_map ..

theorem lineState_modifyLine (h : planeIndex < state.planeCount) :
    (state.modifyLine planeIndex f).lineState planeIndex = f (state.lineState planeIndex) := by
  have hlt : planeIndex < state.lineStates.length := h
  simp [lineState, modifyLine, List.getD_eq_getElem?_getD, hlt]

theorem lineState_modifyLine_of_ne {other : Nat} (h : other ≠ planeIndex) :
    (state.modifyLine planeIndex f).lineState other = state.lineState other := by
  simp [lineState, modifyLine, List.getD_eq_getElem?_getD, Ne.symm h]

theorem lineState_swapAllLines (h : planeIndex < state.planeCount) :
    state.swapAllLines.lineState planeIndex = (state.lineState planeIndex).swapLines := by
  have hlt : planeIndex < state.lineStates.length := h
  simp [lineState, swapAllLines, List.getD_eq_getElem?_getD, hlt]

end Lines

/-- The lines of the planes have the given widths. -/
structure LinesSized (count : Nat) (width : Nat → Nat) (state : SliceState) : Prop where
  planes : state.planeCount = count
  sized : ∀ planeIndex < count, (state.lineState planeIndex).Sized (width planeIndex)

section Sized

variable {state : SliceState} {planeIndex count : Nat} {width : Nat → Nat}

/-- A line may be replaced by one of the same width. -/
theorem LinesSized.modifyLine (h : LinesSized count width state) {f : LineState → LineState}
    (hf : ∀ line n, line.Sized n → (f line).Sized n) :
    LinesSized count width (state.modifyLine planeIndex f) := by
  constructor
  · rw [planeCount_modifyLine, h.planes]
  · intro other hother
    by_cases hsame : other = planeIndex
    · subst hsame
      rw [lineState_modifyLine (h.planes ▸ hother)]
      exact hf _ _ (h.sized other hother)
    · rw [lineState_modifyLine_of_ne hsame]
      exact h.sized other hother

theorem LinesSized.store (h : LinesSized count width state) (x : Nat) (sample : Int) :
    LinesSized count width (state.modifyLine planeIndex (LineState.store · x sample)) :=
  h.modifyLine fun _ _ hline => hline.store x sample

theorem LinesSized.swapLines (h : LinesSized count width state) :
    LinesSized count width (state.modifyLine planeIndex LineState.swapLines) :=
  h.modifyLine fun _ _ hline => hline.swapLines

theorem LinesSized.swapAllLines (h : LinesSized count width state) :
    LinesSized count width state.swapAllLines := by
  constructor
  · rw [planeCount_swapAllLines, h.planes]
  · intro other hother
    rw [lineState_swapAllLines (h.planes ▸ hother)]
    exact (h.sized other hother).swapLines

/-- The contexts and the runs are no part of the lines. -/
theorem LinesSized.setGolombRiceContext (h : LinesSized count width state) (bank context : Nat)
    (adaptive : GolombRiceContextState) :
    LinesSized count width (state.setGolombRiceContext bank context adaptive) :=
  ⟨h.planes, h.sized⟩

theorem LinesSized.setGolombRiceRunState (h : LinesSized count width state)
    (runState : GolombRiceRunState) :
    LinesSized count width (state.setGolombRiceRunState planeIndex runState) :=
  ⟨h.planes, h.sized⟩

end Sized

/-- The line of a plane begins with the first `x` samples of a row. -/
def LineHolds (planeIndex : Nat) (row : Nat → Int) (x : Nat) (state : SliceState) : Prop :=
  ∀ i < x, (state.lineState planeIndex).current.getD i 0 = row i

section Holds

variable {state : SliceState} {planeIndex count x : Nat} {width : Nat → Nat} {row : Nat → Int}

theorem LineHolds.store (h : LineHolds planeIndex row x state) (hsized : LinesSized count width state)
    (hplane : planeIndex < count) (hx : x < width planeIndex) :
    LineHolds planeIndex row (x + 1)
      (state.modifyLine planeIndex (LineState.store · x (row x))) := by
  have hlength : x < (state.lineState planeIndex).current.length :=
    (hsized.sized planeIndex hplane).current ▸ hx
  intro i hi
  rw [lineState_modifyLine (hsized.planes ▸ hplane), LineState.store_current,
    List.getD_eq_getElem?_getD, List.getElem?_set]
  by_cases heq : x = i
  · subst heq
    simp [hlength]
  · rw [if_neg heq, ← List.getD_eq_getElem?_getD]
    exact h i (by omega)

theorem LineHolds.store_other {other : Nat} (h : LineHolds planeIndex row x state)
    (hne : planeIndex ≠ other) (y : Nat) (sample : Int) :
    LineHolds planeIndex row x (state.modifyLine other (LineState.store · y sample)) := by
  intro i hi
  rw [lineState_modifyLine_of_ne hne]
  exact h i hi

/-- A complete line is the row. -/
theorem LineHolds.current_eq (h : LineHolds planeIndex row (width planeIndex) state)
    (hsized : LinesSized count width state) (hplane : planeIndex < count) :
    (state.lineState planeIndex).current = (List.range (width planeIndex)).map row := by
  have hlength := (hsized.sized planeIndex hplane).current
  refine List.ext_getElem (by simp [hlength]) fun i hi _ => ?_
  have hholds := h i (hlength ▸ hi)
  rw [List.getD_eq_getElem _ _ hi] at hholds
  simp [hholds]

end Holds

end SliceState

end Mffv1
