import Mffv1.FrameValidator
import Mffv1.GolombRiceSamples

/-!
# The slice encoder

A slice is its header, its content and a footer. Range content goes on with the
coder of the header; Golomb-Rice content begins behind its last byte.
-/
namespace Mffv1

namespace SliceEncoder

def validateStream (stream : StreamParameters) : Status := do
  failIf (isSupportedSyntaxColorspace stream.colorspaceType = false ∨
      isSupportedBitDepth stream.bitsPerRawSample = false) (makeError .unsupportedFeature
    "slice encoder supports only range or Golomb-Rice coding")
  failIf (stream.entropyMode = .golombRice ∧ isSupportedBitDepth stream.bitsPerRawSample = false)
    (makeError .unsupportedFeature "Golomb-Rice slice encoding supports only 1-16 bit streams")
  failIf (hasInvalidRgbGeometry (decide (stream.colorspaceType = 1)) stream.chromaPlanes
      stream.log2HChromaSubsample stream.log2VChromaSubsample = true) (makeError .invalidArgument
    "RGB streams require three full-resolution color planes")
  failIf (hasSubsamplingWithoutChroma stream.chromaPlanes stream.log2HChromaSubsample
      stream.log2VChromaSubsample = true) (makeError .invalidArgument
    "chroma subsampling requires chroma planes")
  failIf (isSupportedChromaSubsampling stream.log2HChromaSubsample
      stream.log2VChromaSubsample = false) (makeError .unsupportedFeature
    "slice encoder supports only 4:4:4, 4:2:2, and 4:2:0 chroma geometry")
  failIf (stream.quantTableSets.length ≠ 1) (makeError .unsupportedFeature
    "slice encoder requires exactly one quantization table set")
  failIf (stream.initialStates ≠ [] ∧ stream.initialStates.length ≠ stream.quantTableSets.length)
    (makeError .invalidState
      "range coder initial state set count does not match quantization table set count")
  let contextCount := (stream.quantTableSets.getD 0 {}).contextCount
  failIf (contextCount = 0) (makeError .invalidState
    "slice encoder quantization table set has no contexts")
  failIf (stream.initialStates ≠ [] ∧ stream.initialStates.getD 0 [] ≠ [] ∧
      (stream.initialStates.getD 0 []).length ≠ contextCount.toNat) (makeError .invalidState
    "range coder initial state count does not match quantization contexts")

/-- The table sets of the range banks. -/
def rangeTableSetIndexes (stream : StreamParameters) (header : SliceHeaderValues) : List Nat :=
  if 3 ≤ stream.version then
    (List.range stream.quantTableSetIndexCount).map fun bank =>
      header.quantTableSetIndexes.getD bank 0
  else List.replicate stream.codedPlaneCount 0

def rangeContextCounts (stream : StreamParameters) (header : SliceHeaderValues) : List Nat :=
  (rangeTableSetIndexes stream header).map fun index =>
    (stream.quantTableSets.getD index {}).contextCount.toNat

def rangeInitialStateBanks (stream : StreamParameters) (header : SliceHeaderValues)
    (state : SliceState) : Except Error (List ContextStateBank) := do
  if state.hasRangeContexts then
    let counts := rangeContextCounts stream header
    failIf (state.rangeContexts.length ≠ counts.length) (makeError .invalidState
      "saved range context bank count does not match slice plane count")
    failIf (state.rangeContexts.map List.length ≠ counts) (makeError .invalidState
      "saved range context count does not match quantization contexts")
    return state.rangeContexts
  else
    return (rangeTableSetIndexes stream header).map fun index => stream.initialStates.getD index []

/-- The keyframe flag, where the slice has it, and the header. -/
def writeHeader (stream : StreamParameters) (header : SliceHeaderValues)
    (writeKeyframe keyframe : Bool) : Call RangeEncoder Unit := do
  RangeEncoder.resetSingle stream.stateTransition
  (if writeKeyframe then do
    RangeEncoder.writeBool keyframe
    RangeEncoder.reconfigureContexts [1] []
  else pure ())
  SliceHeaderWriter.write stream header

section Content

variable (stream : StreamParameters) (memory : FrameMemory) (windows : List PlaneWindow)
  (header : SliceHeaderValues) (writeKeyframe keyframe : Bool)

/-- The content of a slice, with its state behind it. -/
def encodeGolombRiceContent : Call (Encoding BitWriter) (SliceState × Bytes) := do
  encodeGolombRiceSamples stream memory windows
  onWriter BitWriter.byteAlignZero
  let content ← onWriter BitWriter.finalize
  let encoding ← get
  return (encoding.state, content)

def encodeGolombRiceSlice (state : SliceState) : Except Error (SliceState × Bytes) := do
  let header : Call RangeEncoder Bytes := do
    writeHeader stream header writeKeyframe keyframe
    RangeEncoder.finalize
  let payload ← header.valueOn {}
  let (state, content) ← (encodeGolombRiceContent stream memory windows).valueOn
    { writer := {}, state }
  failIf (maxByteVectorSize - payload.length < content.length) (makeError .resourceExhausted
    "Golomb-Rice slice payload exceeds vector capacity")
  return (state, payload ++ content)

/-- `working_state.capture_range_contexts(writer)` -/
def captureContexts : Call (Encoding RangeEncoder) Unit := do
  let encoding ← get
  let state ← MonadExcept.ofExcept
    (encoding.state.captureRangeContexts encoding.writer.copyContexts)
  set { encoding with state }

def encodeRangeContent : Call (Encoding RangeEncoder) (SliceState × Bytes) := do
  encodeSamples stream memory windows
  captureContexts
  let payload ← onWriter RangeEncoder.finalizeClosed
  let encoding ← get
  return (encoding.state, payload)

def encodeRangeSlice (state : SliceState) : Except Error (SliceState × Bytes) := do
  let writer ← (do
    writeHeader stream header writeKeyframe keyframe
    get : Call RangeEncoder RangeEncoder).valueOn {}
  let banks ← rangeInitialStateBanks stream header state
  let writer ← (do
    RangeEncoder.reconfigureContexts (rangeContextCounts stream header) banks
    get : Call RangeEncoder RangeEncoder).valueOn writer
  (encodeRangeContent stream memory windows).valueOn { writer, state }

def hasReferenceState (state : SliceState) : Bool :=
  match stream.entropyMode with
  | .range => state.hasRangeContexts
  | .golombRice => state.hasGolombRiceState

/-- The state a slice goes on from: a keyframe starts anew. -/
def workingState (state : SliceState) : Except Error SliceState := do
  if keyframe then return state.clearEntropyState
  else
    failIf (hasReferenceState stream state = false) (makeError .invalidState
      "non-keyframe encoding requires reference slice state")
    return state

end Content

/-- A failed call leaves the state and the payload of its caller as they are. -/
def encodeSlice (stream : StreamParameters) (input : FrameView) (memory : FrameMemory)
    (header : SliceHeaderValues) (writeKeyframe keyframe : Bool) (state : SliceState) :
    Except Error (SliceState × Bytes) := do
  validateStream stream
  failIf (stream.version ≠ 3) (makeError .unsupportedFeature
    "slice assembly supports only FFV1 version 3")
  failIf (writeKeyframe = true ∧ keyframe = false ∧ stream.intraOnly = true)
    (makeError .invalidArgument "non-keyframe is invalid for an intra-only stream")
  FrameValidator.validateInput stream input
  let descriptor ← SliceHeaderParser.applyRaster stream header {}
  let windows ← SliceInputWindow.validate stream input descriptor
  let state ← workingState stream keyframe state
  let state ← state.reset stream windows
  let (state, payload) ← match stream.entropyMode with
    | .golombRice => encodeGolombRiceSlice stream memory windows header writeKeyframe keyframe state
    | .range => encodeRangeSlice stream memory windows header writeKeyframe keyframe state
  let payload ← SliceFooterWriter.append stream 0 payload
  return (state, payload)

end SliceEncoder

end Mffv1
