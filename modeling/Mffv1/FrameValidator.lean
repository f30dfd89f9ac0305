import Mffv1.SliceWindow

/-!
# Frame layouts

The planes that a stream requires of a frame, and the checks of the frames that are
given to a decoder and to an encoder.
-/
namespace Mffv1

inductive ColorSpace where
  | yCbCr
  | rgb
  deriving DecidableEq, Repr

structure FrameInfo where
  width : UInt32 := 0
  height : UInt32 := 0
  version : UInt8 := 0
  microVersion : UInt16 := 0
  entropyMode : EntropyMode := .range
  bitsPerRawSample : UInt8 := 0
  /-- As many as `plane_count`. -/
  planes : List PlaneInfo := []
  colorSpace : ColorSpace := .yCbCr
  hasChromaPlanes : Bool := false
  hasExtraPlane : Bool := false
  log2HChromaSubsample : UInt8 := 0
  log2VChromaSubsample : UInt8 := 0
  errorStatusEnabled : Bool := false
  intraOnly : Bool := false
  keyframe : Bool := false
  sliceCount : UInt32 := 0
  deriving DecidableEq

def makePlaneInfo (stream : StreamParameters) (planeIndex : Nat) : PlaneInfo :=
  let sampleFormat := sampleFormatForBitDepth stream.bitsPerRawSample
  let width := stream.planeWidth planeIndex
  { role := stream.expectedPlaneRole planeIndex
    sampleFormat
    width
    height := stream.planeHeight planeIndex
    strideBytes := Int64.ofNat (width.toNat * bytesPerSample sampleFormat) }

def makeFrameInfo (stream : StreamParameters) : FrameInfo where
  width := stream.width
  height := stream.height
  version := (stream.version % 2 ^ 8).toNat.toUInt8
  microVersion := (stream.microVersion % 2 ^ 16).toNat.toUInt16
  entropyMode := stream.entropyMode
  bitsPerRawSample := stream.bitsPerRawSample
  planes := (List.range stream.codedPlaneCount).map (makePlaneInfo stream)
  colorSpace := if stream.colorspaceType = 1 then .rgb else .yCbCr
  hasChromaPlanes := stream.chromaPlanes
  hasExtraPlane := stream.extraPlane
  log2HChromaSubsample := stream.log2HChromaSubsample
  log2VChromaSubsample := stream.log2VChromaSubsample
  errorStatusEnabled := stream.errorStatusEnabled
  intraOnly := stream.intraOnly

namespace FrameValidator

def validateStreamShape (stream : StreamParameters) : Status := do
  failIf (stream.width = 0 ∨ stream.height = 0) (makeError .invalidArgument
    "stream dimensions must be non-zero")
  failIf (isSupportedBitDepth stream.bitsPerRawSample = false) (makeError .unsupportedFeature
    "only 1-16 bit samples are supported")
  failIf (isSupportedSyntaxColorspace stream.colorspaceType = false) (makeError .unsupportedFeature
    "unsupported colorspace_type")
  failIf (hasInvalidRgbGeometry (decide (stream.colorspaceType = 1)) stream.chromaPlanes
      stream.log2HChromaSubsample stream.log2VChromaSubsample = true) (makeError .invalidArgument
    "RGB streams require chroma planes without subsampling")
  failIf (stream.numHSlices = 0 ∨ stream.numVSlices = 0) (makeError .invalidArgument
    "slice grid dimensions must be non-zero")

def validatePlaneInfo (expected info : PlaneInfo) : Status := do
  failIf (info.role ≠ expected.role) (makeError .invalidArgument
    "plane role does not match stream plane order")
  failIf (info.sampleFormat ≠ expected.sampleFormat) (makeError .invalidArgument
    "plane sample format does not match stream bit depth")
  failIf (info.width < expected.width ∨ info.height < expected.height) (makeError .invalidArgument
    "plane dimensions are smaller than the stream requires")
  failIf (info.strideBytes < expected.strideBytes) (makeError .invalidArgument
    "plane stride is smaller than the stream requires")

def inputMessages : WindowMessages where
  rowOffset := "input plane last row address is not representable"
  sampleOffset := "input plane last row address is not representable"
  rows := "input plane last row address is not representable"
  extent := "input plane last row address is not representable"

def validateInputPlaneInfo (expected info : PlaneInfo) : Status := do
  failIf (info.role ≠ expected.role) (makeError .invalidArgument
    "plane role does not match stream plane order")
  failIf (info.sampleFormat ≠ expected.sampleFormat) (makeError .invalidArgument
    "plane sample format does not match stream bit depth")
  failIf (info.width ≠ expected.width ∨ info.height ≠ expected.height) (makeError .invalidArgument
    "input plane dimensions do not match the stream")
  failIf (info.strideBytes < 0) (makeError .unsupportedFeature
    "negative input plane stride is not supported")
  failIf (info.strideBytes < expected.strideBytes) (makeError .invalidArgument
    "plane stride is smaller than the stream requires")
  let _ ← checkedPlaneWindowOffset info 0 0 expected.width expected.height inputMessages

/-- The loop over the required planes: `count` of them from `planeIndex` on. -/
def validatePlanes (frame : FrameView) (planeMessage : String)
    (validateInfo : (planeIndex : Nat) → PlaneInfo → Status) : (count planeIndex : Nat) → Status
  | 0, _ => .ok ()
  | count + 1, planeIndex => do
    let plane := frame.plane planeIndex
    failIf (plane.hasData = false) (makeError .invalidArgument planeMessage)
    validateInfo planeIndex plane.info
    validatePlanes frame planeMessage validateInfo count (planeIndex + 1)

def validateOutput (stream : StreamParameters) (output : FrameView) : Status := do
  validateStreamShape stream
  failIf (output.planeCount < stream.codedPlaneCount) (makeError .invalidArgument
    "output frame does not have enough planes")
  failIf (stream.codedPlaneCount ≠ 0 ∧ output.planes = none) (makeError .invalidArgument
    "output plane array is null")
  validatePlanes output "output plane data pointer is null"
    (fun planeIndex => validatePlaneInfo (makePlaneInfo stream planeIndex)) stream.codedPlaneCount 0

def validateInput (stream : StreamParameters) (input : FrameView) : Status := do
  validateStreamShape stream
  failIf (input.planeCount ≠ stream.codedPlaneCount) (makeError .invalidArgument
    "input frame plane count does not match the stream")
  failIf (stream.codedPlaneCount ≠ 0 ∧ input.planes = none) (makeError .invalidArgument
    "input plane array is null")
  validatePlanes input "input plane data pointer is null"
    (fun planeIndex => validateInputPlaneInfo (makePlaneInfo stream planeIndex))
    stream.codedPlaneCount 0

end FrameValidator

end Mffv1
