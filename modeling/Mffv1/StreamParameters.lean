import Mffv1.RangeContexts

/-!
# Stream parameters

The parameters of a stream as the configuration record carries them, with the
plane and slice geometry derived from them. Coordinates are computed in the
widths of the source: 32-bit extents, 64-bit intermediate products.
-/
namespace Mffv1

inductive EntropyMode where
  | golombRice
  | range
  deriving DecidableEq, Repr

inductive PlaneRole where
  | y | cb | cr | alpha | r | g | b
  deriving DecidableEq, Repr

inductive SampleFormat where
  | uint8
  | uint16
  deriving DecidableEq, Repr

abbrev QuantTable := Vector Int32 256

structure QuantTableSet where
  tables : Vector QuantTable 5 := Vector.replicate 5 (Vector.replicate 256 0)
  contextCount : UInt32 := 0
  deriving DecidableEq

def QuantTable.entry (table : QuantTable) (k : Nat) : Int32 := table[k]?.getD 0

def contextInputs : Nat := 5

/-- Also the initial contexts of a record: one state per state index. -/
abbrev InitialState := ScalarContextStates

abbrev InitialStateSet := List InitialState

def makeZeroQuantTableSet : QuantTableSet := { contextCount := 1 }

structure StreamParameters where
  version : Int := 3
  microVersion : Int := 0
  entropyMode : EntropyMode := .range
  width : UInt32 := 0
  height : UInt32 := 0
  bitsPerRawSample : UInt8 := 8
  colorspaceType : Int := 0
  chromaPlanes : Bool := true
  extraPlane : Bool := false
  log2HChromaSubsample : UInt8 := 0
  log2VChromaSubsample : UInt8 := 0
  numHSlices : UInt32 := 1
  numVSlices : UInt32 := 1
  quantTableSets : List QuantTableSet := []
  initialStates : List InitialStateSet := []
  stateTransition : StateTransitionTable := defaultStateTransition
  errorStatusEnabled : Bool := false
  intraOnly : Bool := false
  deriving DecidableEq

/-- Encoder and decoder share the bounds. -/
def isSupportedBitDepth (bitsPerRawSample : UInt8) : Bool :=
  decide (1 ≤ bitsPerRawSample) && decide (bitsPerRawSample ≤ 16)

def isSupportedSyntaxColorspace (colorspaceType : Int) : Bool :=
  decide (colorspaceType = 0) || decide (colorspaceType = 1)

def hasInvalidRgbGeometry (isRgb hasChromaPlanes : Bool) (log2H log2V : UInt8) : Bool :=
  isRgb && (!hasChromaPlanes || decide (log2H ≠ 0) || decide (log2V ≠ 0))

def hasSubsamplingWithoutChroma (hasChromaPlanes : Bool) (log2H log2V : UInt8) : Bool :=
  !hasChromaPlanes && (decide (log2H ≠ 0) || decide (log2V ≠ 0))

def isSupportedChromaSubsampling (log2H log2V : UInt8) : Bool :=
  decide (log2H ≤ 1) && decide (log2V ≤ 1) && decide (log2V ≤ log2H)

def sampleFormatForBitDepth (bitsPerRawSample : UInt8) : SampleFormat :=
  if bitsPerRawSample ≤ 8 then .uint8 else .uint16

def bytesPerSample : SampleFormat → Nat
  | .uint16 => 2
  | .uint8 => 1

namespace StreamParameters

variable (stream : StreamParameters)

def codedPlaneCount : Nat :=
  1 + (if stream.chromaPlanes then 2 else 0) + (if stream.extraPlane then 1 else 0)

theorem codedPlaneCount_pos : 0 < stream.codedPlaneCount := by
  unfold codedPlaneCount
  omega

def usesSigned16bitPredictor : Bool :=
  decide (stream.colorspaceType = 0) && decide (stream.bitsPerRawSample = 16) &&
    decide (stream.entropyMode = .range)

def isChromaPlane (planeIndex : Nat) : Bool :=
  stream.chromaPlanes && (planeIndex == 1 || planeIndex == 2)

def quantTableSetIndexCount : Nat :=
  1 + (if stream.chromaPlanes || decide (stream.version ≤ 3) then 1 else 0) +
    (if stream.extraPlane then 1 else 0)

def planeQuantTableSetIndexSlot (planeIndex : Nat) : Nat :=
  if planeIndex = 0 then 0
  else if stream.isChromaPlane planeIndex then 1
  else if decide (stream.version ≤ 3) || stream.chromaPlanes then 2
  else 1

def expectedPlaneRole (planeIndex : Nat) : PlaneRole :=
  if stream.colorspaceType = 1 then
    if planeIndex = 0 then .r
    else if planeIndex = 1 then .g
    else if planeIndex = 2 then .b
    else .alpha
  else if planeIndex = 0 then .y
  else if stream.chromaPlanes && planeIndex == 1 then .cb
  else if stream.chromaPlanes && planeIndex == 2 then .cr
  else .alpha

end StreamParameters

/-- Ceiling division by a power of two. -/
def subsampledExtent (value : UInt32) (log2Subsample : UInt8) : UInt32 :=
  if log2Subsample = 0 then value
  else if 32 ≤ log2Subsample then if value = 0 then 0 else 1
  else
    let divisor : UInt64 := 1 <<< log2Subsample.toUInt64
    ((value.toUInt64 + divisor - 1) / divisor).toUInt32

/-- The pixel position of a grid line: a 64-bit product, then a floor division. -/
def scaledGridPosition (extent gridCount : UInt32) (gridPosition : UInt64) : UInt32 :=
  if gridCount = 0 then 0
  else (gridPosition * extent.toUInt64 / gridCount.toUInt64).toUInt32

namespace StreamParameters

variable (stream : StreamParameters)

def planeWidth (planeIndex : Nat) : UInt32 :=
  if stream.colorspaceType = 0 ∧ stream.isChromaPlane planeIndex then
    subsampledExtent stream.width stream.log2HChromaSubsample
  else stream.width

def planeHeight (planeIndex : Nat) : UInt32 :=
  if stream.colorspaceType = 0 ∧ stream.isChromaPlane planeIndex then
    subsampledExtent stream.height stream.log2VChromaSubsample
  else stream.height

def slicePixelX (sliceX : UInt32) : UInt32 :=
  scaledGridPosition stream.width stream.numHSlices sliceX.toUInt64

def slicePixelY (sliceY : UInt32) : UInt32 :=
  scaledGridPosition stream.height stream.numVSlices sliceY.toUInt64

def slicePixelWidth (sliceX sliceWidth : UInt32) : UInt32 :=
  scaledGridPosition stream.width stream.numHSlices (sliceX.toUInt64 + sliceWidth.toUInt64) -
    scaledGridPosition stream.width stream.numHSlices sliceX.toUInt64

def slicePixelHeight (sliceY sliceHeight : UInt32) : UInt32 :=
  scaledGridPosition stream.height stream.numVSlices (sliceY.toUInt64 + sliceHeight.toUInt64) -
    scaledGridPosition stream.height stream.numVSlices sliceY.toUInt64

end StreamParameters

end Mffv1
