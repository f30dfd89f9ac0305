import Mffv1.ConfigurationRecordParser
import Mffv1.SliceExecutor

/-!
# The decoder

A decoder is configured by a record or by the parameters that a legacy keyframe
repeats; its executor carries the states of the slices from frame to frame.
-/
namespace Mffv1

structure DecoderOptions where
  threadCount : Int := 0
  verifyCrc : Bool := true
  strict : Bool := true
  frameWidth : UInt32 := 0
  frameHeight : UInt32 := 0
  deriving DecidableEq

inductive LegacyBootstrapState where
  | noEmbeddedParameters
  | configured
  | matchesCurrentConfiguration
  | differsFromCurrentConfiguration
  deriving DecidableEq

structure LegacyBootstrapInfo where
  state : LegacyBootstrapState := .noEmbeddedParameters
  frameInfo : FrameInfo := {}
  deriving DecidableEq

/-- `stream` is none before the decoder is configured. -/
structure Decoder where
  options : DecoderOptions := {}
  stream : Option StreamParameters := none
  executor : SliceExecutor := {}
  deriving DecidableEq

/-- `create_decoder` -/
def createDecoder (options : DecoderOptions) : Except Error Decoder := do
  failIf (options.threadCount < 0) (makeError .invalidArgument
    "decoder thread count must not be negative")
  failIf (options.strict = false) (makeError .unsupportedFeature
    "decoder relaxed parsing is not implemented")
  failIf ((options.frameWidth = 0) ≠ (options.frameHeight = 0)) (makeError .invalidArgument
    "decoder frame dimensions must be both set or both zero")
  return { options }

namespace Decoder

/-- The dimensions of the container take the place of those of the record. -/
def withFrameDimensions (options : DecoderOptions) (stream : StreamParameters) : StreamParameters :=
  if options.frameWidth ≠ 0 ∧ options.frameHeight ≠ 0 then
    { stream with width := options.frameWidth, height := options.frameHeight }
  else stream

def configure (configurationRecord : Bytes) : Call Decoder Unit := do
  let stream ← MonadExcept.ofExcept (ConfigurationRecordParser.parse configurationRecord)
  modify fun decoder =>
    { decoder with stream := some (withFrameDimensions decoder.options stream), executor := {} }

def bootstrapLegacyFrame (framePayload : Bytes) : Call Decoder LegacyBootstrapInfo := do
  failIf (framePayload = []) (makeError .invalidArgument "frame payload is empty")
  let decoder ← get
  let bootstrap ← MonadExcept.ofExcept (LegacyFrameBootstrapParser.parse framePayload
    decoder.options.frameWidth decoder.options.frameHeight)
  if bootstrap.hasEmbeddedParameters = false then return {}
  else
    let frameInfo := { makeFrameInfo bootstrap.stream with keyframe := bootstrap.keyframe }
    match decoder.stream with
    | none =>
      set { decoder with stream := some bootstrap.stream, executor := {} }
      return { state := .configured, frameInfo }
    | some stream =>
      return {
        frameInfo
        state :=
          if streamParametersEquivalent stream bootstrap.stream then .matchesCurrentConfiguration
          else .differsFromCurrentConfiguration }

def parseFrame (options : DecoderOptions) (stream : StreamParameters) (framePayload : Bytes) :
    Except Error FrameDecodeContext :=
  if 3 ≤ stream.version then
    FrameParser.parseWithRangeHeader stream options.verifyCrc framePayload
  else FrameParser.parse stream options.verifyCrc framePayload

/-- What `inspect_frame` and `decode_frame` begin with. -/
def readFrame (decoder : Decoder) (framePayload : Bytes) :
    Except Error (StreamParameters × FrameDecodeContext) := do
  match decoder.stream with
  | none => throw (makeError .invalidState "decoder is not configured")
  | some stream =>
    failIf (stream.width = 0 ∨ stream.height = 0) (makeError .invalidState
      "decoder frame dimensions are not configured")
    failIf (framePayload = []) (makeError .invalidArgument "frame payload is empty")
    let frame ← parseFrame decoder.options stream framePayload
    return (stream, frame)

def inspectFrame (decoder : Decoder) (framePayload : Bytes) : Except Error FrameInfo := do
  let (_, frame) ← decoder.readFrame framePayload
  return frame.frameInfo

/-- A decoder with the output that it writes to. -/
structure Run where
  decoder : Decoder
  memory : FrameMemory

/-- `order` is the order of completion of parallel slice tasks. -/
def decodeFrame (hardwareConcurrency : Nat) (order : List Nat) (framePayload : Bytes)
    (output : FrameView) : Call Run Unit := do
  let run ← get
  let (stream, frame) ← MonadExcept.ofExcept (run.decoder.readFrame framePayload)
  MonadExcept.ofExcept (FrameValidator.validateOutput stream output)
  let threadCount := normalizeThreadCount hardwareConcurrency run.decoder.options.threadCount
  match SliceExecutor.decode stream threadCount order output frame.slices frame.keyframe
      { executor := run.decoder.executor, memory := run.memory } with
  | .ok _ execution =>
    set { decoder := { run.decoder with executor := execution.executor }
          memory := execution.memory : Run }
  | .error status execution =>
    set { decoder := { run.decoder with executor := execution.executor }
          memory := execution.memory : Run }
    throw status

end Decoder

end Mffv1
