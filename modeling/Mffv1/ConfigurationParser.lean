import Mffv1.RangeCoder
import Mffv1.StreamParameters
import Mffv1.Lib.Mirror

/-!
# The configuration parser

The parameters are read in order, every quantization table in contexts of its
own. The parser keeps what it has read in the stream it will return.
-/
namespace Mffv1

namespace ConfigurationParser

def maxQuantTableSetCount : Nat := 8
def maxContextCount : Nat := 32768
def int32Max : Nat := 2 ^ 31 - 1
def int64Max : Nat := 2 ^ 63 - 1
def uint32Max : Nat := 2 ^ 32 - 1

def readU : Call RangeCoder Nat := RangeCoder.readUnsigned 0 0
def readB : Call RangeCoder Bool := RangeCoder.readBool

def checkedU32 (value : Nat) (name : String) : Call RangeCoder UInt32 := do
  failIf (uint32Max < value) (makeError .syntaxError (name ++ " is too large"))
  return value.toUInt32

def parseVersion : Call RangeCoder StreamParameters := do
  let version ← readU
  failIf (version ≠ 0 ∧ version ≠ 1 ∧ version ≠ 3)
    (makeError .unsupportedFeature "unsupported FFV1 version")
  if version < 3 then return { version }
  else
    let microVersion ← readU
    failIf (int32Max < microVersion) (makeError .syntaxError "micro_version is too large")
    failIf (microVersion < 4) (makeError .unsupportedFeature
      "unstable FFV1 version 3 micro-version is not supported")
    return { version, microVersion }

/-- The deltas of `count` transitions from `state` on. -/
def parseStateTransitions : (count state : Nat) → StateTransitionTable →
    Call RangeCoder StateTransitionTable
  | 0, _, table => return table
  | count + 1, state, table => do
    let delta ← RangeCoder.readSigned 0 0
    let transition := ((table[state]?.getD 0).toNat : Int) + delta
    failIf (transition < 0 ∨ 255 < transition) (makeError .syntaxError
      "custom range coder state transition is outside 0..255")
    parseStateTransitions count (state + 1) (table.setIfInBounds state transition.toNat.toUInt8)

/-- The coder type; the flag is `apply_custom_state_transition`. -/
def parseCoderType (stream : StreamParameters) : Call RangeCoder (StreamParameters × Bool) := do
  let value ← readU
  if value = 0 then return ({ stream with entropyMode := .golombRice }, false)
  else if value = 1 then return ({ stream with entropyMode := .range }, false)
  else if value = 2 then
    let stateTransition ← parseStateTransitions 255 1 stream.stateTransition
    return ({ stream with entropyMode := .range, stateTransition }, true)
  else throw (makeError .unsupportedFeature "unsupported range coder type")

def parseColorspace (stream : StreamParameters) : Call RangeCoder StreamParameters := do
  let value ← readU
  failIf (int32Max < value) (makeError .syntaxError "colorspace_type is too large")
  failIf (isSupportedSyntaxColorspace value = false) (makeError .unsupportedFeature
    "unsupported colorspace_type")
  return { stream with colorspaceType := value }

def parseBitDepth (stream : StreamParameters) : Call RangeCoder StreamParameters := do
  if stream.version < 1 then return stream
  else
    let value ← readU
    failIf (16 < value) (makeError .unsupportedFeature "only 1-16 bit samples are supported")
    let bitsPerRawSample : UInt8 := if value = 0 then 8 else value.toUInt8
    failIf (isSupportedBitDepth bitsPerRawSample = false) (makeError .unsupportedFeature
      "only 1-16 bit samples are supported")
    return { stream with bitsPerRawSample }

def readSubsamplingExponent (direction : String) : Call RangeCoder UInt8 := do
  let value ← readU
  failIf (255 < value) (makeError .syntaxError
    (direction ++ " chroma subsampling exponent is too large"))
  return value.toUInt8

def parsePlanes (stream : StreamParameters) : Call RangeCoder StreamParameters := do
  let chromaPlanes ← readB
  let log2HChromaSubsample ← readSubsamplingExponent "horizontal"
  let log2VChromaSubsample ← readSubsamplingExponent "vertical"
  let extraPlane ← readB
  failIf (hasInvalidRgbGeometry (decide (stream.colorspaceType = 1)) chromaPlanes
      log2HChromaSubsample log2VChromaSubsample = true) (makeError .syntaxError
    "RGB streams require chroma planes without subsampling")
  return { stream with chromaPlanes, log2HChromaSubsample, log2VChromaSubsample, extraPlane }

def readSliceCount (name : String) : Call RangeCoder UInt32 := do
  let value ← readU
  failIf (uint32Max ≤ value) (makeError .syntaxError (name ++ " is too large"))
  checkedU32 (value + 1) name

def boolText (b : Bool) : String := if b then "1" else "0"

def quantTableSetCountMessage (stream : StreamParameters) (count : Nat) : String :=
  "quant_table_set_count must be in the range 1..8: " ++ toString count
    ++ " (version=" ++ toString stream.version ++ "." ++ toString stream.microVersion
    ++ " entropy=" ++ (if stream.entropyMode = .golombRice then "gr" else "range")
    ++ " colorspace=" ++ toString stream.colorspaceType
    ++ " bits=" ++ toString stream.bitsPerRawSample.toNat
    ++ " chroma=" ++ boolText stream.chromaPlanes
    ++ " subsample=" ++ toString stream.log2HChromaSubsample.toNat
    ++ "," ++ toString stream.log2VChromaSubsample.toNat
    ++ " extra=" ++ boolText stream.extraPlane
    ++ " slices=" ++ toString stream.numHSlices.toNat
    ++ "x" ++ toString stream.numVSlices.toNat ++ ")"

/-- The slice grid and the number of quantization table sets. -/
def parseSliceGrid (stream : StreamParameters) : Call RangeCoder (StreamParameters × Nat) := do
  if stream.version < 3 then return (stream, 1)
  else
    let numHSlices ← readSliceCount "num_h_slices"
    let numVSlices ← readSliceCount "num_v_slices"
    let reader ← get
    let count ← readU
    let stream := { stream with numHSlices, numVSlices }
    failIf (count = 0 ∨ maxQuantTableSetCount < count) (makeByteError .syntaxError
      (quantTableSetCountMessage stream count) reader.bytePosition)
    return (stream, count)

/-- `stored` in the entries `k`, …, `k + len - 1`. -/
def fillRun (stored : Int32) : (len k : Nat) → QuantTable → QuantTable
  | 0, _, table => table
  | len + 1, k, table => fillRun stored len (k + 1) (table.setIfInBounds k stored)

/-- The loop over the runs of the first half; every run advances `k`, so that 128
rounds reach its end. Returns the table and the number of runs. -/
def parseQuantTableRuns (tableIndex scale : Nat) : (fuel k value : Nat) → QuantTable →
    Call RangeCoder (QuantTable × Nat)
  | 0, _, value, table => return (table, value)
  | fuel + 1, k, value, table => do
    if 128 ≤ k then return (table, value)
    else
      let lenMinusOne ← readU
      let remaining := 128 - k
      failIf (remaining ≤ lenMinusOne ∧ k = 0) (makeError .syntaxError
        "quantization table run exceeds table boundary")
      let len := min (lenMinusOne + 1) remaining
      failIf (int32Max / max scale 1 < value) (makeError .syntaxError
        ("quantization table value overflow at table " ++ toString tableIndex
          ++ ": value=" ++ toString value ++ ", scale=" ++ toString scale))
      parseQuantTableRuns tableIndex scale fuel (k + len) (value + 1)
        (fillRun (Int32.ofNat (scale * value)) len k table)

/-- The second half is the negated mirror image of the first. -/
def mirrorTable (table : QuantTable) : QuantTable :=
  Vector.ofFn fun k =>
    if k.val < 128 then table.entry k.val
    else if k.val = 128 then -table.entry 127
    else -table.entry (256 - k.val)

def parseQuantTable (table : QuantTable) (tableIndex scale : Nat) :
    Call RangeCoder (QuantTable × Nat) := do
  let (table, lenCount) ← parseQuantTableRuns tableIndex scale 128 0 0 table
  return (mirrorTable table, lenCount)

/-- A body between `begin_` and `end_independent_scalar_contexts(1)`; its own error
comes first. -/
def withIndependentContexts {α : Type} (body : Call RangeCoder α) : Call RangeCoder α :=
  fun reader =>
    match RangeCoder.beginIndependentScalarContexts 1 reader with
    | .error status reader => .error status reader
    | .ok _ reader =>
      match body reader with
      | .error status reader =>
        .error status (Mirror.finalState (RangeCoder.endIndependentScalarContexts reader))
      | .ok a reader =>
        match RangeCoder.endIndependentScalarContexts reader with
        | .error status reader => .error status reader
        | .ok _ reader => .ok a reader

/-- `multiplier = 2 * len_count - 1` is not positive, or the scale would overflow. -/
def scaleOverflows (scale lenCount : Nat) : Prop :=
  lenCount = 0 ∨ int64Max / (2 * lenCount - 1) < scale

instance (scale lenCount : Nat) : Decidable (scaleOverflows scale lenCount) :=
  inferInstanceAs (Decidable (_ ∨ _))

/-- The remaining `count` tables from `tableIndex` on; returns the tables, the scale
and the run counts. -/
def parseQuantTables : (count tableIndex scale : Nat) → List Nat → Vector QuantTable 5 →
    Call RangeCoder (Vector QuantTable 5 × Nat × List Nat)
  | 0, _, scale, lenCounts, tables => return (tables, scale, lenCounts)
  | count + 1, tableIndex, scale, lenCounts, tables => do
    let table := tables[tableIndex]?.getD (Vector.replicate 256 0)
    let (table, lenCount) ← withIndependentContexts (parseQuantTable table tableIndex scale)
    failIf (scaleOverflows scale lenCount) (makeError .syntaxError
      "quantization table scale overflow")
    parseQuantTables count (tableIndex + 1) (scale * (2 * lenCount - 1)) (lenCounts ++ [lenCount])
      (tables.setIfInBounds tableIndex table)

def contextCountMessage (contextCount : Nat) (lenCounts : List Nat) : String :=
  "context_count is outside the supported range: " ++ toString contextCount
    ++ " (len_counts=" ++ ",".intercalate (lenCounts.map toString) ++ ")"

def parseQuantTableSet : Call RangeCoder QuantTableSet := do
  let (tables, scale, lenCounts) ←
    parseQuantTables contextInputs 0 1 [] (Vector.replicate 5 (Vector.replicate 256 0))
  let contextCount := (scale + 1) / 2
  failIf (contextCount = 0 ∨ maxContextCount < contextCount) (makeError .syntaxError
    (contextCountMessage contextCount lenCounts))
  return { tables, contextCount := contextCount.toUInt32 }

def parseQuantTableSets : (count : Nat) → Call RangeCoder (List QuantTableSet)
  | 0 => return []
  | count + 1 => do
    let set ← parseQuantTableSet
    let sets ← parseQuantTableSets count
    return set :: sets

/-- The deltas of one context against the previous one, modulo 256. -/
def parseInitialState (previous : InitialState) : (count stateIndex : Nat) → InitialState →
    Call RangeCoder InitialState
  | 0, _, current => return current
  | count + 1, stateIndex, current => do
    let delta ← RangeCoder.readSigned 0 stateIndex
    let prediction := previous[stateIndex]?.getD 0
    parseInitialState previous count (stateIndex + 1)
      (current.setIfInBounds stateIndex (prediction + UInt8.ofInt delta))

def parseInitialContexts : (count : Nat) → (previous : InitialState) →
    Call RangeCoder InitialStateSet
  | 0, _ => return []
  | count + 1, previous => do
    let current ← parseInitialState previous 32 0 (filledContext 0)
    let contexts ← parseInitialContexts count current
    return current :: contexts

def parseInitialStateSets : List QuantTableSet → Call RangeCoder (List InitialStateSet)
  | [] => return []
  | set :: sets => do
    let flag ← readB
    let contexts ←
      (if flag then parseInitialContexts set.contextCount.toNat (filledContext 128) else return [])
    let rest ← parseInitialStateSets sets
    return contexts :: rest

def readMode (description : String) : Call RangeCoder Bool := do
  let value ← readU
  failIf (1 < value) (makeError .unsupportedFeature ("unsupported " ++ description ++ " mode"))
  return decide (value = 1)

def parseVersion3Tail (stream : StreamParameters) : Call RangeCoder StreamParameters := do
  if stream.version < 3 then return stream
  else
    let initialStates ← parseInitialStateSets stream.quantTableSets
    let errorStatusEnabled ← readMode "error correction"
    let intraOnly ← readMode "intra"
    return { stream with initialStates, errorStatusEnabled, intraOnly }

/-- Everything that is read; the flag tells whether the transition table is custom. -/
def parseParameters : Call RangeCoder (StreamParameters × Bool) := do
  let stream ← parseVersion
  let (stream, applyCustomStateTransition) ← parseCoderType stream
  let stream ← parseColorspace stream
  let stream ← parseBitDepth stream
  let stream ← parsePlanes stream
  let (stream, quantTableSetCount) ← parseSliceGrid stream
  let quantTableSets ← parseQuantTableSets quantTableSetCount
  let stream ← parseVersion3Tail { stream with quantTableSets }
  return (stream, applyCustomStateTransition)

def parse : Call RangeCoder StreamParameters := do
  let (stream, applyCustomStateTransition) ← parseParameters
  (if applyCustomStateTransition then RangeCoder.setStateTransition stream.stateTransition
    else return ())
  return stream

end ConfigurationParser

end Mffv1
