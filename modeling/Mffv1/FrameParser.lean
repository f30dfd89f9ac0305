import Mffv1.BitReader
import Mffv1.ConfigurationParser
import Mffv1.FrameValidator
import Mffv1.SlicePayloadLocator
import Mffv1.SliceRaster

/-!
# The frame parser

Frames of version 3 are located slices, each with its header; the first header
follows the keyframe flag. The frames of earlier versions begin with the flag, and
keyframes may repeat the parameters of the stream.
-/
namespace Mffv1

/-- The comparison of the source covers every field. -/
def streamParametersEquivalent (left right : StreamParameters) : Bool := decide (left = right)

def addByteOffset (status : Error) (baseOffset : Nat) : Error :=
  match status.location.byteOffset with
  | some byteOffset =>
    { status with location := { status.location with byteOffset := some (byteOffset + baseOffset) } }
  | none => setByteLocationIfMissing status baseOffset

/-- Where the content begins: the coder has read a byte ahead if its window is not zero. -/
def golombRiceContentBytePosition (headerReader : RangeCoder) : Nat :=
  let arithmetic := headerReader.arithmeticState
  if arithmetic.bytePosition ≠ 0 ∧ arithmetic.low &&& 0xff ≠ 0 then arithmetic.bytePosition - 1
  else arithmetic.bytePosition

structure LegacyFrameBootstrap where
  keyframe : Bool := false
  hasEmbeddedParameters : Bool := false
  contentByteOffset : Nat := 0
  stream : StreamParameters := {}
  rangeStateAfterKeyframe : ArithmeticState := {}
  rangeStateAfterParameters : ArithmeticState := {}
  deriving DecidableEq

namespace LegacyFrameBootstrapParser

def parseFrom (framePayload : Bytes) (frameWidth frameHeight : UInt32) :
    Call RangeCoder LegacyFrameBootstrap := do
  RangeCoder.resetSingle framePayload defaultStateTransition
  let keyframe ← RangeCoder.readBool
  let reader ← get
  let bootstrap : LegacyFrameBootstrap :=
    { keyframe
      contentByteOffset := reader.bytePosition
      rangeStateAfterKeyframe := reader.arithmeticState }
  if keyframe = false then return bootstrap
  else
    RangeCoder.reconfigureContexts [1] []
    let stream ← ConfigurationParser.parse
    let reader ← get
    return { bootstrap with
      hasEmbeddedParameters := true
      contentByteOffset := reader.bytePosition
      rangeStateAfterParameters := reader.arithmeticState
      stream := { stream with width := frameWidth, height := frameHeight } }

def parse (framePayload : Bytes) (frameWidth frameHeight : UInt32) :
    Except Error LegacyFrameBootstrap := do
  failIf (framePayload = []) (makeError .invalidArgument "frame payload is empty")
  (parseFrom framePayload frameWidth frameHeight).valueOn {}

end LegacyFrameBootstrapParser

structure FrameDecodeContext where
  slices : List SliceDescriptor := []
  frameInfo : FrameInfo := {}
  keyframe : Bool := false
  deriving DecidableEq

namespace FrameParser

def maximumSliceCount (stream : StreamParameters) : Nat := (cellCount64 stream).toNat

def validateKeyframe (stream : StreamParameters) (keyframe : Bool) (byteOffset : Nat) : Status :=
  failIf (keyframe = false ∧ stream.intraOnly = true) (makeByteError .syntaxError
    "non-keyframe is invalid for an intra-only stream" byteOffset)

def finalizeFrameMetadata (frame : FrameDecodeContext) (keyframe : Bool) : FrameDecodeContext :=
  { frame with
    keyframe
    frameInfo := { frame.frameInfo with keyframe, sliceCount := frame.slices.length.toUInt32 } }

def normalizeLegacyEmbeddedParameters (embedded stream : StreamParameters) : StreamParameters :=
  { embedded with
    width := stream.width
    height := stream.height
    numHSlices := stream.numHSlices
    numVSlices := stream.numVSlices
    intraOnly := stream.intraOnly }

/-- Parameters that are read where the coder stands and match the stream. -/
def readMatchingParameters (stream : StreamParameters) : Call RangeCoder Bool := do
  RangeCoder.reconfigureContexts [1] []
  let embedded ← ConfigurationParser.parse
  return streamParametersEquivalent stream (normalizeLegacyEmbeddedParameters embedded stream)

def detectLegacyEmbeddedParametersOffset (frameReader : RangeCoder) (stream : StreamParameters)
    (fallbackOffset : Nat) : Nat :=
  match readMatchingParameters stream frameReader with
  | .ok true reader => reader.bytePosition
  | _ => fallbackOffset

/-- The reader behind the parameters of a keyframe that repeats those of the stream. -/
def detectMatchingLegacyEmbeddedParametersReader (payload : Bytes) (stream : StreamParameters) :
    Option RangeCoder :=
  let probe : Call RangeCoder Bool := do
    RangeCoder.resetSingle payload defaultStateTransition
    let keyframe ← RangeCoder.readBool
    if keyframe then readMatchingParameters stream else return false
  match probe {} with
  | .ok true reader => some reader
  | _ => none

/-- The content offset of such a keyframe. -/
def detectLegacyGolombRiceEmbeddedParameters (payload : Bytes) (stream : StreamParameters) :
    Option Nat :=
  (detectMatchingLegacyEmbeddedParametersReader payload stream).map RangeCoder.bytePosition

def initializeFrame (stream : StreamParameters) (payload : Bytes) :
    Except Error FrameDecodeContext := do
  failIf (payload = []) (makeError .invalidArgument "frame payload is empty")
  failIf (stream.width = 0 ∨ stream.height = 0) (makeError .invalidState
    "stream dimensions must be known before parsing frames")
  failIf (stream.numHSlices = 0 ∨ stream.numVSlices = 0) (makeError .invalidState
    "slice grid dimensions must be non-zero")
  return { frameInfo := makeFrameInfo stream }

def locatedError (located : SliceDescriptor) (status : Error) : Error :=
  setSliceLocationIfMissing (addByteOffset status located.payloadByteOffset) located.index

def readFrameKeyframe (stream : StreamParameters) (located : SliceDescriptor) :
    Call RangeCoder Bool := do
  let keyframe ← EStateM.adaptExcept (locatedError located) RangeCoder.readBool
  EStateM.adaptExcept (setSliceLocationIfMissing · located.index)
    (MonadExcept.ofExcept (validateKeyframe stream keyframe located.payloadByteOffset))
  EStateM.adaptExcept (locatedError located) (RangeCoder.reconfigureContexts [1] [])
  return keyframe

/-- A parsed header, moved to where its slice was located. -/
def placeHeader (located parsed : SliceDescriptor) (contentByteOffset : Nat) : SliceDescriptor :=
  { parsed with
    index := located.index
    payload := located.payload
    payloadByteOffset := located.payloadByteOffset
    headerByteOffset := parsed.headerByteOffset + located.payloadByteOffset
    contentByteOffset := contentByteOffset + located.payloadByteOffset
    footerByteOffset := located.footerByteOffset
    sliceSize := located.sliceSize
    errorStatus := located.errorStatus
    expectedCrc := located.expectedCrc
    hasCrc := located.hasCrc }

/-- One round over the located slices; `keyframe` is the flag of the first one. -/
def parseLocatedSlice (stream : StreamParameters) (sliceIndex : Nat) (keyframe : Bool)
    (located : SliceDescriptor) : Call RangeCoder (Bool × SliceDescriptor) := do
  EStateM.adaptExcept (locatedError located)
    (RangeCoder.resetSingle located.payload stream.stateTransition)
  let keyframe ← if sliceIndex = 0 then readFrameKeyframe stream located else pure keyframe
  let parsed ← EStateM.adaptExcept (locatedError located)
    (SliceHeaderParser.readDescriptor stream { index := located.index })
  let headerReader ← get
  let contentByteOffset :=
    if stream.entropyMode = .golombRice then golombRiceContentBytePosition headerReader
    else parsed.contentByteOffset
  failIf (located.payload.length < contentByteOffset) (setSliceLocationIfMissing
    (makeByteError .syntaxError "slice header consumes more bytes than the slice payload contains"
      (located.payloadByteOffset + contentByteOffset)) located.index)
  return (keyframe, placeHeader located parsed contentByteOffset)

/-- The headers of the slices from `sliceIndex` on. -/
def parseLocatedSlices (stream : StreamParameters) : List SliceDescriptor → (sliceIndex : Nat) →
    (keyframe : Bool) → Except Error (Bool × List SliceDescriptor)
  | [], _, keyframe => .ok (keyframe, [])
  | located :: rest, sliceIndex, keyframe => do
    let (keyframe, parsed) ← (parseLocatedSlice stream sliceIndex keyframe located).valueOn {}
    let (keyframe, slices) ← parseLocatedSlices stream rest (sliceIndex + 1) keyframe
    return (keyframe, parsed :: slices)

def parseLocatedRangeSlices (stream : StreamParameters) (verifyCrc : Bool) (payload : Bytes) :
    Except Error FrameDecodeContext := do
  let frame ← initializeFrame stream payload
  let located ← SlicePayloadLocator.locateSlices payload stream (maximumSliceCount stream) verifyCrc
  let (keyframe, slices) ← parseLocatedSlices stream located 0 false
  validateSliceRasterCoverage stream slices
  return finalizeFrameMetadata { frame with slices } keyframe

def parseWithRangeHeader (stream : StreamParameters) (verifyCrc : Bool) (payload : Bytes) :
    Except Error FrameDecodeContext :=
  parseLocatedRangeSlices stream verifyCrc payload

def locateSliceError (sliceIndex : Nat) (status : Error) : Error :=
  setSliceLocationIfMissing status sliceIndex

def readLegacySlice (stream : StreamParameters) (payload : Bytes) (usesLegacyV0Arithmetic : Bool)
    (sliceIndex : Nat) : Call RangeCoder SliceDescriptor := do
  let slice ← EStateM.adaptExcept (locateSliceError sliceIndex)
    (SliceHeaderParser.readDescriptor stream { index := sliceIndex })
  failIf (payload.length < slice.contentByteOffset) (locateSliceError sliceIndex
    (makeByteError .syntaxError "slice header consumes more bytes than the frame payload contains"
      slice.contentByteOffset))
  return { slice with payload, usesLegacyV0Arithmetic }

/-- Headers are read until they cover the raster; `fuel` is what is left of the cells. -/
def readLegacySlices (stream : StreamParameters) (payload : Bytes) (usesLegacyV0Arithmetic : Bool) :
    (fuel : Nat) → (slices : List SliceDescriptor) → Call RangeCoder (List SliceDescriptor)
  | 0, slices => do
    MonadExcept.ofExcept (validateSliceRasterCoverage stream slices)
    return slices
  | fuel + 1, slices => do
    let slice ← readLegacySlice stream payload usesLegacyV0Arithmetic slices.length
    let slices := slices ++ [slice]
    match validateSliceRasterCoverage stream slices with
    | .ok _ => return slices
    | .error status =>
      failIf (isIncompleteSliceRasterCoverageStatus status = false)
        (locateSliceError slice.index status)
      readLegacySlices stream payload usesLegacyV0Arithmetic fuel slices

def parseLegacyRangeSlicesAfterKeyframe (stream : StreamParameters) (payload : Bytes)
    (headerReader : RangeCoder) (keyframe usesLegacyV0Arithmetic : Bool) :
    Except Error FrameDecodeContext := do
  let frame ← initializeFrame stream payload
  let slices ← (readLegacySlices stream payload usesLegacyV0Arithmetic (maximumSliceCount stream)
    []).valueOn headerReader
  return finalizeFrameMetadata { frame with slices } keyframe

/-- The keyframe flag of a range-coded frame, with the reader behind it. -/
def readLegacyKeyframe (stream : StreamParameters) (payload : Bytes) :
    Except Error (Bool × RangeCoder) :=
  let call : Call RangeCoder (Bool × RangeCoder) := do
    RangeCoder.resetSingle payload defaultStateTransition
    let keyframe ← RangeCoder.readBool
    MonadExcept.ofExcept (validateKeyframe stream keyframe 0)
    let reader ← get
    return (keyframe, reader)
  call.valueOn {}

def parseLegacySlices (stream : StreamParameters) (payload : Bytes) :
    Except Error FrameDecodeContext := do
  let (keyframe, frameReader) ← readLegacyKeyframe stream payload
  match if keyframe then detectMatchingLegacyEmbeddedParametersReader payload stream else none with
  | some reader =>
    parseLegacyRangeSlicesAfterKeyframe stream payload reader keyframe
      (decide (stream.version = 0))
  | none => parseLegacyRangeSlicesAfterKeyframe stream payload frameReader keyframe false

/-- The flag of a single slice and where its content begins: a byte and a bit. -/
def legacyRangeContent (stream : StreamParameters) (payload : Bytes) :
    Except Error (Bool × Nat × Nat) := do
  let (keyframe, frameReader) ← readLegacyKeyframe stream payload
  return (keyframe,
    if keyframe then
      detectLegacyEmbeddedParametersOffset frameReader stream frameReader.bytePosition
    else frameReader.bytePosition, 0)

def legacyGolombRiceContent (stream : StreamParameters) (payload : Bytes) :
    Except Error (Bool × Nat × Nat) := do
  match detectLegacyGolombRiceEmbeddedParameters payload stream with
  | some contentByteOffset =>
    validateKeyframe stream true 0
    return (true, contentByteOffset, 0)
  | none =>
    let bit ← BitReader.readBit.valueOn { data := payload }
    let keyframe := decide (bit ≠ 0)
    validateKeyframe stream keyframe 0
    return (keyframe, 0, 1)

/-- Versions 0 and 1; the flag of a version 2 frame is not read. -/
def legacyContent (stream : StreamParameters) (payload : Bytes) :
    Except Error (Bool × Nat × Nat) :=
  if stream.version ≤ 1 then
    match stream.entropyMode with
    | .range => legacyRangeContent stream payload
    | .golombRice => legacyGolombRiceContent stream payload
  else .ok (false, 0, 0)

def parseLegacySingleSlice (stream : StreamParameters) (payload : Bytes) :
    Except Error FrameDecodeContext := do
  let frame ← initializeFrame stream payload
  let (keyframe, contentByteOffset, contentBitOffset) ← legacyContent stream payload
  let placed ← (SliceHeaderParser.applyRaster stream
    { width := 1, height := 1, quantTableSetIndexes := [0] } {}).mapError (locateSliceError 0)
  let slice := { placed with
    payload
    contentByteOffset
    contentBitOffset
    continuesFrameRangeState := decide (stream.version ≤ 1) && decide (stream.entropyMode = .range) }
  (validateSliceRasterCoverage stream [slice]).mapError (locateSliceError 0)
  return finalizeFrameMetadata { frame with slices := [slice] } keyframe

def parse (stream : StreamParameters) (verifyCrc : Bool) (payload : Bytes) :
    Except Error FrameDecodeContext := do
  let _ ← initializeFrame stream payload
  let multiSlice := decide (stream.numHSlices ≠ 1 ∨ stream.numVSlices ≠ 1)
  let parseLegacyRangeHeader := decide (stream.version ≤ 1) && decide (stream.entropyMode = .range)
  if 3 ≤ stream.version then parseWithRangeHeader stream verifyCrc payload
  else if multiSlice ∧ parseLegacyRangeHeader then parseLegacySlices stream payload
  else
    failIf multiSlice (makeError .unsupportedFeature
      "legacy Golomb-Rice multi-slice frames are not supported")
    parseLegacySingleSlice stream payload

end FrameParser

end Mffv1
