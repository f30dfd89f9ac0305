import Mffv1.RangeEncoder
import Mffv1.StreamParameters
import Mffv1.Crc32
import Mffv1.Lib.Mirror

/-!
# The configuration record writer

A record is the range-coded parameters of a version 3.4 stream, followed by
their CRC parity.
-/
namespace Mffv1

namespace ConfigurationRecordWriter

def int64Max : Nat := 2 ^ 63 - 1

def writeU (value : Nat) : Call RangeEncoder Unit := RangeEncoder.writeUnsigned 0 0 value
def writeB (value : Bool) : Call RangeEncoder Unit := RangeEncoder.writeBool value

/-- The first mirror entry from `mirror` on that is not the negated one, if any. -/
def mirrorInconsistent (table : QuantTable) : Bool :=
  (List.range' 1 127).any fun mirror =>
    decide (table.entry (256 - mirror) ≠ -table.entry mirror)

def validateQuantTableMirror (table : QuantTable) : Status := do
  failIf (mirrorInconsistent table = true) (makeError .invalidState
    "configuration quantization table mirror entries are inconsistent")
  failIf (table.entry 128 ≠ -table.entry 127) (makeError .invalidState
    "configuration quantization table center mirror entry is inconsistent")

def hasCustomStateTransition (stream : StreamParameters) : Bool :=
  decide (stream.entropyMode = .range) &&
    decide (stream.stateTransition ≠ defaultStateTransition)

/-- The number of entries from `k` on, at most `remaining`, that equal `expected`. -/
def runLength (table : QuantTable) (expected : Nat) : (remaining k : Nat) → Nat
  | 0, _ => 0
  | remaining + 1, k =>
    if (table.entry k).toInt = expected then runLength table expected remaining (k + 1) + 1
    else 0

/-- The loop over the runs of the first half; returns the number of runs. -/
def writeQuantTableRuns (table : QuantTable) (tableIndex scale : Nat) :
    (fuel k value : Nat) → Call RangeEncoder Nat
  | 0, _, value => return value
  | fuel + 1, k, value => do
    if 128 ≤ k then return value
    else
      failIf (value ≠ 0 ∧ int64Max / value < scale) (makeError .invalidState
        "configuration quantization table value overflow")
      let expected := scale * value
      failIf ((table.entry k).toInt ≠ expected) (makeError .invalidState
        ("configuration quantization table is not encodable at table " ++ toString tableIndex
          ++ ", entry " ++ toString k))
      let len := runLength table expected (128 - k) k
      failIf (len = 0) (makeError .invalidState
        "configuration quantization table has an empty run")
      writeU (len - 1)
      writeQuantTableRuns table tableIndex scale fuel (k + len) (value + 1)

def writeQuantTable (table : QuantTable) (tableIndex scale : Nat) : Call RangeEncoder Nat := do
  match validateQuantTableMirror table with
  | .error status => throw status
  | .ok _ => writeQuantTableRuns table tableIndex scale 128 0 0

/-- A body between `begin_` and `end_independent_scalar_contexts(1)`; the error of the
latter comes first. -/
def withIndependentContexts {α : Type} (body : Call RangeEncoder α) : Call RangeEncoder α :=
  fun writer =>
    match RangeEncoder.beginIndependentScalarContexts 1 writer with
    | .error status writer => .error status writer
    | .ok _ writer =>
      match body writer with
      | .error status writer =>
        match RangeEncoder.endIndependentScalarContexts writer with
        | .error endStatus writer => .error endStatus writer
        | .ok _ writer => .error status writer
      | .ok a writer =>
        match RangeEncoder.endIndependentScalarContexts writer with
        | .error status writer => .error status writer
        | .ok _ writer => .ok a writer

def scaleOverflows (scale lenCount : Nat) : Prop :=
  lenCount = 0 ∨ int64Max / (2 * lenCount - 1) < scale

instance (scale lenCount : Nat) : Decidable (scaleOverflows scale lenCount) :=
  inferInstanceAs (Decidable (_ ∨ _))

/-- The remaining `count` tables from `tableIndex` on; returns the scale. -/
def writeQuantTables (tables : Vector QuantTable 5) : (count tableIndex scale : Nat) →
    Call RangeEncoder Nat
  | 0, _, scale => return scale
  | count + 1, tableIndex, scale => do
    let table := tables[tableIndex]?.getD (Vector.replicate 256 0)
    let lenCount ← withIndependentContexts (writeQuantTable table tableIndex scale)
    failIf (scaleOverflows scale lenCount) (makeError .invalidState
      "configuration quantization table scale overflow")
    writeQuantTables tables count (tableIndex + 1) (scale * (2 * lenCount - 1))

def writeQuantTableSet (tableSet : QuantTableSet) : Call RangeEncoder Unit := do
  let scale ← writeQuantTables tableSet.tables contextInputs 0 1
  let contextCount := ((scale + 1) / 2).toUInt32
  failIf (tableSet.contextCount ≠ contextCount) (makeError .invalidState
    "configuration quantization table context count does not match encoded tables")

def writeQuantTableSets : List QuantTableSet → Call RangeEncoder Unit
  | [] => return ()
  | tableSet :: sets => do
    writeQuantTableSet tableSet
    writeQuantTableSets sets

/-- The deltas of the states of a context from `stateIndex` on. -/
def writeInitialState (previous current : InitialState) : (count stateIndex : Nat) →
    Call RangeEncoder Unit
  | 0, _ => return ()
  | count + 1, stateIndex => do
    let prediction := previous[stateIndex]?.getD 0
    RangeEncoder.writeSigned 0 stateIndex
      (((current[stateIndex]?.getD 0).toNat : Int) - (prediction.toNat : Int))
    writeInitialState previous current count (stateIndex + 1)

def writeInitialContexts : InitialStateSet → (previous : InitialState) → Call RangeEncoder Unit
  | [], _ => return ()
  | current :: contexts, previous => do
    writeInitialState previous current 32 0
    writeInitialContexts contexts current

def writeInitialStateSet (stateSet : InitialStateSet) : Call RangeEncoder Unit := do
  writeB (decide (stateSet ≠ []))
  writeInitialContexts stateSet (filledContext 128)

def writeInitialStateSets : List InitialStateSet → Call RangeEncoder Unit
  | [] => return ()
  | stateSet :: sets => do
    writeInitialStateSet stateSet
    writeInitialStateSets sets

/-- `states_coded = 0` for every set. -/
def writeUncodedStateSets : List QuantTableSet → Call RangeEncoder Unit
  | [] => return ()
  | _ :: sets => do
    writeB false
    writeUncodedStateSets sets

/-- The deltas of `count` transitions from `state` on. -/
def writeStateTransitions (table : StateTransitionTable) : (count state : Nat) →
    Call RangeEncoder Unit
  | 0, _ => return ()
  | count + 1, state => do
    RangeEncoder.writeSigned 0 0 (((table[state]?.getD 0).toNat : Int)
      - ((defaultStateTransition[state]?.getD 0).toNat : Int))
    writeStateTransitions table count (state + 1)

/-- The condition that the contexts of a coded state set match its quantization table set. -/
def initialStatesMatch : List InitialStateSet → List QuantTableSet → Bool
  | [], _ => true
  | contexts :: rest, sets =>
    (contexts.isEmpty ||
      decide (contexts.length = (sets.head?.elim 0 fun set => set.contextCount.toNat))) &&
      initialStatesMatch rest sets.tail

def validateInitialProfile (stream : StreamParameters) : Status := do
  failIf (stream.version ≠ 3 ∨ stream.microVersion ≠ 4) (makeError .unsupportedFeature
    "configuration writer supports only FFV1 version 3 micro-version 4")
  failIf (stream.entropyMode ≠ .range ∧ stream.entropyMode ≠ .golombRice)
    (makeError .unsupportedFeature
      "configuration writer supports only range or Golomb-Rice coding")
  failIf (stream.entropyMode = .golombRice ∧ isSupportedBitDepth stream.bitsPerRawSample = false)
    (makeError .unsupportedFeature "Golomb-Rice configuration supports only 1-16 bit streams")
  failIf (isSupportedSyntaxColorspace stream.colorspaceType = false ∨
      isSupportedBitDepth stream.bitsPerRawSample = false) (makeError .unsupportedFeature
    ("configuration writer supports only 1-16 bit planar YCbCr or RGB streams, "
      ++ "with an optional extra plane"))
  failIf (hasInvalidRgbGeometry (decide (stream.colorspaceType = 1)) stream.chromaPlanes
      stream.log2HChromaSubsample stream.log2VChromaSubsample = true) (makeError .invalidArgument
    "RGB streams require three full-resolution color planes")
  failIf (hasSubsamplingWithoutChroma stream.chromaPlanes stream.log2HChromaSubsample
      stream.log2VChromaSubsample = true) (makeError .invalidArgument
    "chroma subsampling requires chroma planes")
  failIf (isSupportedChromaSubsampling stream.log2HChromaSubsample
      stream.log2VChromaSubsample = false) (makeError .unsupportedFeature
    "configuration writer supports only 4:4:4, 4:2:2, and 4:2:0 chroma geometry")
  failIf (stream.numHSlices = 0 ∨ stream.numVSlices = 0) (makeError .invalidArgument
    "configuration slice grid dimensions must be non-zero")
  failIf (stream.quantTableSets = [] ∨ 8 < stream.quantTableSets.length)
    (makeError .invalidArgument
      "configuration quantization table set count must be in the range 1..8")
  failIf (∃ tableSet ∈ stream.quantTableSets, tableSet.contextCount = 0) (makeError .invalidState
    "configuration quantization table set has no contexts")
  failIf (stream.initialStates ≠ [] ∧
      stream.initialStates.length ≠ stream.quantTableSets.length) (makeError .invalidState
    "configuration initial state set count does not match quantization table set count")
  failIf (initialStatesMatch stream.initialStates stream.quantTableSets = false)
    (makeError .invalidState
      "configuration initial state count does not match quantization contexts")

def coderType (stream : StreamParameters) : Nat :=
  if stream.entropyMode = .golombRice then 0
  else if hasCustomStateTransition stream then 2 else 1

def writeParameterList (stream : StreamParameters) : Call RangeEncoder Unit := do
  writeU 3
  writeU 4
  writeU (coderType stream)
  (if hasCustomStateTransition stream then writeStateTransitions stream.stateTransition 255 1
    else return ())
  writeU stream.colorspaceType.toNat
  writeU stream.bitsPerRawSample.toNat
  writeB stream.chromaPlanes
  writeU stream.log2HChromaSubsample.toNat
  writeU stream.log2VChromaSubsample.toNat
  writeB stream.extraPlane
  writeU (stream.numHSlices - 1).toNat
  writeU (stream.numVSlices - 1).toNat
  writeU stream.quantTableSets.length
  writeQuantTableSets stream.quantTableSets
  (if stream.initialStates = [] then writeUncodedStateSets stream.quantTableSets
    else writeInitialStateSets stream.initialStates)
  writeU (if stream.errorStatusEnabled then 1 else 0)
  writeU (if stream.intraOnly then 1 else 0)

def writeParameters (stream : StreamParameters) : Call RangeEncoder Unit := do
  match validateInitialProfile stream with
  | .error status => throw status
  | .ok _ => writeParameterList stream

def appendCrcParity (bytes : Bytes) : Except Error Bytes := do
  failIf (maxByteVectorSize - 4 < bytes.length) (makeError .resourceExhausted
    "configuration record is too large for CRC parity")
  return bytes ++ bigEndian32 (crc32IeeeMsb bytes)

/-- The range-coded bytes of the parameters, from a fresh encoder of thirty-two contexts. -/
def codedParameters (stream : StreamParameters) : Call RangeEncoder Bytes := do
  RangeEncoder.reset [scalarContextSize] [] defaultStateTransition
  writeParameters stream
  RangeEncoder.finalize

def write (stream : StreamParameters) : Except Error Bytes := do
  validateInitialProfile stream
  let record ← (codedParameters stream).valueOn {}
  appendCrcParity record

end ConfigurationRecordWriter

end Mffv1
