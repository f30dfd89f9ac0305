import Mffv1.Predictor
import Mffv1.StreamParameters

/-!
# Line states and contexts

Three lines of a plane are all that prediction and context selection look at: the
line that is being coded and the two above it.
-/
namespace Mffv1

structure NeighborSamples where
  farLeft : Int := 0
  left : Int := 0
  top : Int := 0
  topLeft : Int := 0
  topRight : Int := 0
  topTop : Int := 0
  deriving DecidableEq

structure LineState where
  borderValue : Int := 0
  secondPrevious : List Int := []
  previous : List Int := []
  current : List Int := []
  deriving DecidableEq

namespace LineState

/-- A line state after `reset`: everything is the border. -/
def bordered (width : Nat) (borderValue : Int) : LineState where
  borderValue
  secondPrevious := List.replicate width borderValue
  previous := List.replicate width borderValue
  current := List.replicate width borderValue

def reset (width : UInt32) (borderValue : Int) : Except Error LineState := do
  failIf (width = 0) (makeError .invalidArgument "line state width must be non-zero")
  return bordered width.toNat borderValue

def width (line : LineState) : Nat := line.current.length

def neighbors (line : LineState) (x : Nat) : NeighborSamples where
  farLeft :=
    if 1 < x then line.current.getD (x - 2) 0
    else if x = 1 then line.previous.getD 0 0
    else line.borderValue
  left := if 0 < x then line.current.getD (x - 1) 0 else line.previous.getD 0 0
  top := line.previous.getD x 0
  topLeft := if 0 < x then line.previous.getD (x - 1) 0 else line.secondPrevious.getD 0 0
  topRight :=
    if x + 1 < line.current.length then line.previous.getD (x + 1) 0 else line.previous.getD x 0
  topTop := line.secondPrevious.getD x 0

/-- `mutable_current()[x] = sample` -/
def store (line : LineState) (x : Nat) (sample : Int) : LineState :=
  { line with current := line.current.set x sample }

def swapLines (line : LineState) : LineState :=
  { line with
    secondPrevious := line.previous
    previous := line.current
    current := List.replicate line.previous.length line.borderValue }

@[simp] theorem store_previous (line : LineState) (x : Nat) (sample : Int) :
    (line.store x sample).previous = line.previous := rfl

@[simp] theorem store_current (line : LineState) (x : Nat) (sample : Int) :
    (line.store x sample).current = line.current.set x sample := rfl

@[simp] theorem swapLines_current (line : LineState) :
    line.swapLines.current = List.replicate line.previous.length line.borderValue := rfl

@[simp] theorem swapLines_previous (line : LineState) : line.swapLines.previous = line.current := rfl

/-- The line being coded and the line above it are `width` samples long. -/
structure Sized (line : LineState) (width : Nat) : Prop where
  current : line.current.length = width
  previous : line.previous.length = width

theorem bordered_sized (width : Nat) (borderValue : Int) :
    (bordered width borderValue).Sized width := by
  constructor <;> simp [bordered]

theorem Sized.store {line : LineState} {width : Nat} (h : line.Sized width) (x : Nat)
    (sample : Int) : (line.store x sample).Sized width := by
  constructor
  · simp [h.current]
  · exact h.previous

theorem Sized.swapLines {line : LineState} {width : Nat} (h : line.Sized width) :
    line.swapLines.Sized width := by
  constructor
  · simp [h.previous]
  · exact h.current

end LineState

structure ContextDecision where
  context : Nat := 0
  invertDifference : Bool := false
  deriving DecidableEq

namespace ContextModel

/-- The low byte of the two's complement. -/
def contextInputIndex (value : Int) : Nat := (value % 256).toNat

def gradients (samples : NeighborSamples) : List Int :=
  [samples.left - samples.topLeft, samples.topLeft - samples.top, samples.top - samples.topRight,
    samples.farLeft - samples.left, samples.topTop - samples.top]

def foldedContext (quantTables : QuantTableSet) (samples : NeighborSamples) : Int :=
  (List.zipWith (fun (table : QuantTable) gradient =>
    (table.entry (contextInputIndex gradient)).toInt) quantTables.tables.toList
      (gradients samples)).sum

def deriveContext (quantTables : QuantTableSet) (samples : NeighborSamples) :
    Except Error ContextDecision := do
  failIf (quantTables.contextCount = 0) (makeError .invalidState
    "quantization table set has no contexts")
  let folded := foldedContext quantTables samples
  failIf (quantTables.contextCount.toNat ≤ folded.natAbs) (makeError .invalidState
    "quantized context is outside the configured context range")
  return { context := folded.natAbs, invertDifference := decide (folded < 0) }

theorem foldedContext_zero (samples : NeighborSamples) :
    foldedContext makeZeroQuantTableSet samples = 0 := by
  have hentry (k : Nat) : (QuantTable.entry (Vector.replicate 256 0) k).toInt = 0 := by
    unfold QuantTable.entry
    rw [Vector.getElem?_replicate]
    split <;> rfl
  have htables : makeZeroQuantTableSet.tables.toList =
      List.replicate 5 (Vector.replicate 256 0) := rfl
  simp [foldedContext, htables, gradients, List.replicate, hentry]

/-- Every sample has the one context of the zero tables. -/
theorem deriveContext_zero (samples : NeighborSamples) :
    deriveContext makeZeroQuantTableSet samples = .ok {} := by
  have hcount : makeZeroQuantTableSet.contextCount = 1 := rfl
  simp only [deriveContext, foldedContext_zero, hcount]
  rfl

end ContextModel

end Mffv1
