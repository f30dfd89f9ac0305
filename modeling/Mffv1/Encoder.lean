import Mffv1.ConfigurationRecordWriter
import Mffv1.SliceEncoder
import Mffv1.SliceExecutor

/-!
# The encoder

Every cell of the grid is a slice. The frames of a stream are keyframes at a fixed
interval; the others continue the states of the slices of the frame before.
-/
namespace Mffv1

structure EncoderOptions where
  threadCount : Int := 0
  version : Int := 3
  entropyMode : EntropyMode := .range
  keyframeInterval : UInt32 := 1
  deriving DecidableEq

structure StreamInfo where
  width : UInt32 := 0
  height : UInt32 := 0
  version : UInt8 := 3
  bitsPerRawSample : UInt8 := 8
  log2HChromaSubsample : UInt8 := 0
  log2VChromaSubsample : UInt8 := 0
  hasChromaPlanes : Bool := true
  hasExtraPlane : Bool := false
  colorSpace : ColorSpace := .yCbCr
  numHSlices : UInt32 := 1
  numVSlices : UInt32 := 1
  errorStatusEnabled : Bool := false
  deriving DecidableEq

/-- The stream of a profile before its table set is added. -/
def profileStream (options : EncoderOptions) (info : StreamInfo) : StreamParameters where
  version := 3
  microVersion := 4
  entropyMode := options.entropyMode
  width := info.width
  height := info.height
  bitsPerRawSample := info.bitsPerRawSample
  colorspaceType := match info.colorSpace with
    | .yCbCr => 0
    | .rgb => 1
  chromaPlanes := info.hasChromaPlanes
  extraPlane := info.hasExtraPlane
  log2HChromaSubsample := info.log2HChromaSubsample
  log2VChromaSubsample := info.log2VChromaSubsample
  numHSlices := info.numHSlices
  numVSlices := info.numVSlices
  errorStatusEnabled := info.errorStatusEnabled

/-- A plane of which some slice would have nothing. -/
def hasEmptyPlaneRegion (stream : StreamParameters) : Prop :=
  ∃ planeIndex < stream.codedPlaneCount,
    stream.planeWidth planeIndex < stream.numHSlices ∨
      stream.planeHeight planeIndex < stream.numVSlices

instance (stream : StreamParameters) : Decidable (hasEmptyPlaneRegion stream) := by
  unfold hasEmptyPlaneRegion
  infer_instance

def normalizeEncoderProfile (options : EncoderOptions) (info : StreamInfo) :
    Except Error StreamParameters := do
  failIf (info.width = 0 ∨ info.height = 0) (makeError .invalidArgument
    "stream dimensions must be non-zero")
  failIf (options.version ≠ info.version.toNat) (makeError .invalidArgument
    "encoder option version does not match stream version")
  failIf (options.version ≠ 3) (makeError .unsupportedFeature
    "encoder supports only FFV1 version 3")
  failIf (isSupportedBitDepth info.bitsPerRawSample = false) (makeError .unsupportedFeature
    "encoder supports only 1-16 bit planar YCbCr or RGB streams, with an optional extra plane")
  failIf (hasInvalidRgbGeometry (decide (info.colorSpace = .rgb)) info.hasChromaPlanes
      info.log2HChromaSubsample info.log2VChromaSubsample = true) (makeError .invalidArgument
    "RGB streams require three full-resolution color planes")
  failIf (hasSubsamplingWithoutChroma info.hasChromaPlanes info.log2HChromaSubsample
      info.log2VChromaSubsample = true) (makeError .invalidArgument
    "chroma subsampling requires chroma planes")
  failIf (isSupportedChromaSubsampling info.log2HChromaSubsample
      info.log2VChromaSubsample = false) (makeError .unsupportedFeature
    "encoder supports only 4:4:4, 4:2:2, and 4:2:0 chroma geometry")
  failIf (info.numHSlices = 0 ∨ info.numVSlices = 0) (makeError .invalidArgument
    "encoder slice grid dimensions must be non-zero")
  let stream := profileStream options info
  failIf (requiresVersion3ParallelSliceLimit stream.version stream.width stream.height = true ∧
      cellCount64 stream < 4) (makeError .invalidArgument
    "version 3 frames larger than CIF require at least four slices")
  failIf (hasEmptyPlaneRegion stream) (makeError .invalidArgument
    "encoder slice grid would create an empty plane region")
  return { stream with
    quantTableSets := [makeZeroQuantTableSet]
    intraOnly := decide (options.keyframeInterval = 1) }

/-- The reference states of the frames to come. -/
structure SliceEncodeExecutor where
  sliceStates : List SliceState := []
  sliceLayouts : List SliceLayout := []
  deriving DecidableEq

namespace SliceEncodeExecutor

/-- The capacity of a vector of statuses, of 64 bytes each. -/
def maxStatusVectorSize : Nat := (2 ^ 63 - 1) / 64

def checkedSliceCount (stream : StreamParameters) : Except Error Nat := do
  let count := (cellCount64 stream).toNat
  failIf (count = 0) (makeError .resourceExhausted "encoder slice count is not representable")
  failIf (maxStatusVectorSize < count) (makeError .resourceExhausted
    "encoder slice count exceeds container capacity")
  return count

/-- `slice_layout(index)` -/
def cellLayout (stream : StreamParameters) (sliceIndex : Nat) : SliceLayout :=
  ⟨(sliceIndex % stream.numHSlices.toNat).toUInt32, (sliceIndex / stream.numHSlices.toNat).toUInt32,
    1, 1⟩

def cellHeader (stream : StreamParameters) (sliceIndex : Nat) : SliceHeaderValues where
  x := (sliceIndex % stream.numHSlices.toNat).toUInt32
  y := (sliceIndex / stream.numHSlices.toNat).toUInt32
  width := 1
  height := 1
  quantTableSetIndexes := List.replicate stream.quantTableSetIndexCount 0

def encodeSlice (stream : StreamParameters) (input : FrameView) (memory : FrameMemory)
    (keyframe : Bool) (sliceIndex : Nat) (state : SliceState) : Except Error (SliceState × Bytes) :=
  SliceEncoder.encodeSlice stream input memory (cellHeader stream sliceIndex)
    (decide (sliceIndex = 0)) keyframe state

def cellLayouts (stream : StreamParameters) (sliceCount : Nat) : List SliceLayout :=
  (List.range sliceCount).map (cellLayout stream)

def workingStates (stream : StreamParameters) (keyframe : Bool) (sliceCount : Nat)
    (executor : SliceEncodeExecutor) : Except Error (List SliceState) := do
  if keyframe then return List.replicate sliceCount {}
  else
    failIf (stream.intraOnly = true) (makeError .invalidArgument
      "non-keyframe encode requires a non-intra stream")
    failIf (executor.sliceStates = []) (makeError .invalidState
      "non-keyframe encode requires reference slice states")
    failIf (executor.sliceStates.length ≠ sliceCount ∨
        executor.sliceLayouts.length ≠ executor.sliceStates.length) (makeError .invalidState
      "encoder reference slice state does not match the stream")
    failIf (executor.sliceLayouts ≠ cellLayouts stream sliceCount) (makeError .invalidState
      "encoder reference slice layout does not match the stream")
    return executor.sliceStates

/-- Every slice is encoded, by itself and on its own state, in any order; the first
error in the order of the grid is the one that is returned. -/
def encodeSlices (stream : StreamParameters) (input : FrameView) (memory : FrameMemory)
    (keyframe : Bool) : (sliceIndex : Nat) → List SliceState →
      Except Error (List (SliceState × Bytes))
  | _, [] => .ok []
  | sliceIndex, state :: states => do
    let encoded ← (encodeSlice stream input memory keyframe sliceIndex state).mapError
      (setSliceLocationIfMissing · sliceIndex)
    let rest ← encodeSlices stream input memory keyframe (sliceIndex + 1) states
    return encoded :: rest

/-- `append_slices`: also the running total must be representable. -/
def appendSlices (slices : List Bytes) : Except Error Bytes := do
  let frame := slices.flatten
  failIf (2 ^ 64 - 1 < frame.length) (makeError .resourceExhausted
    "encoded frame size is not representable")
  failIf (maxByteVectorSize < frame.length) (makeError .resourceExhausted
    "encoded frame exceeds vector capacity")
  return frame

/-- A failed frame leaves the reference states as they are. -/
def encode (stream : StreamParameters) (input : FrameView) (memory : FrameMemory)
    (keyframe : Bool) (executor : SliceEncodeExecutor) :
    Except Error (SliceEncodeExecutor × Bytes) := do
  FrameValidator.validateInput stream input
  let sliceCount ← checkedSliceCount stream
  let states ← executor.workingStates stream keyframe sliceCount
  let encoded ← encodeSlices stream input memory keyframe 0 states
  let frame ← appendSlices (encoded.map Prod.snd)
  return ({ sliceStates := encoded.map Prod.fst, sliceLayouts := cellLayouts stream sliceCount },
    frame)

end SliceEncodeExecutor

/-- `stream` is none before the first successful `configure`. -/
structure Encoder where
  options : EncoderOptions := {}
  stream : Option StreamParameters := none
  executor : SliceEncodeExecutor := {}
  nextFrameIndex : UInt64 := 0
  deriving DecidableEq

/-- `create_encoder` -/
def createEncoder (options : EncoderOptions) : Except Error Encoder := do
  failIf (options.threadCount < 0) (makeError .invalidArgument
    "encoder thread count must not be negative")
  failIf (options.keyframeInterval = 0) (makeError .invalidArgument
    "encoder keyframe interval must be non-zero")
  return { options }

namespace Encoder

/-- The record of a configuration; a failed call keeps the configuration before it. -/
def configure (info : StreamInfo) : Call Encoder Bytes := do
  let encoder ← get
  let stream ← MonadExcept.ofExcept (normalizeEncoderProfile encoder.options info)
  let record ← MonadExcept.ofExcept (ConfigurationRecordWriter.write stream)
  set { encoder with stream := some stream, executor := {}, nextFrameIndex := 0 }
  return record

def encodeFrame (input : FrameView) (memory : FrameMemory) : Call Encoder Bytes := do
  let encoder ← get
  match encoder.stream with
  | none => throw (makeError .invalidState "encoder is not configured")
  | some stream =>
    let keyframe := decide (encoder.nextFrameIndex % encoder.options.keyframeInterval.toUInt64 = 0)
    let (executor, frame) ← MonadExcept.ofExcept
      (SliceEncodeExecutor.encode stream input memory keyframe encoder.executor)
    set { encoder with executor, nextFrameIndex := encoder.nextFrameIndex + 1 }
    return frame

end Encoder

end Mffv1
