import Mffv1.FrameMemory
import Mffv1.SliceState

/-!
# Range-coded samples

The loops over the samples of a slice, in the decoder and in the encoder. They ask
a symbol reader or writer for one scalar a sample, so they are written for any.
-/
namespace Mffv1

class SymbolSource (R : Type) where
  readSigned : (bank context : Nat) → Call R Int
  bytePosition : R → Nat

class SymbolSink (W : Type) where
  writeSigned : (bank context : Nat) → (value : Int) → Call W Unit

instance : SymbolSource RangeCoder where
  readSigned := RangeCoder.readSigned
  bytePosition := RangeCoder.bytePosition

instance : SymbolSink RangeEncoder where
  writeSigned := RangeEncoder.writeSigned

/-- What the decoding of a slice works on: it only adds to the rows it has stored. -/
structure Decoding (R : Type) where
  reader : R
  state : SliceState
  stores : List RowStore := []

structure Encoding (W : Type) where
  writer : W
  state : SliceState

section Lifting

variable {R W α : Type}

def onReader (call : Call R α) : Call (Decoding R) α := fun decoding =>
  match call decoding.reader with
  | .ok value reader => .ok value { decoding with reader }
  | .error status reader => .error status { decoding with reader }

def onWriter (call : Call W α) : Call (Encoding W) α := fun encoding =>
  match call encoding.writer with
  | .ok value writer => .ok value { encoding with writer }
  | .error status writer => .error status { encoding with writer }

def Decoding.modifyState (f : SliceState → SliceState) (decoding : Decoding R) : Decoding R :=
  { decoding with state := f decoding.state }

def Decoding.addStores (stores : List RowStore) (decoding : Decoding R) : Decoding R :=
  { decoding with stores := decoding.stores ++ stores }

def Encoding.modifyState (f : SliceState → SliceState) (encoding : Encoding W) : Encoding W :=
  { encoding with state := f encoding.state }

end Lifting

def setReaderByteOffset (status : Error) (contentOffset readerOffset : Nat) : Error :=
  match status.location.byteOffset with
  | some byteOffset =>
    { status with location := { status.location with byteOffset := some (byteOffset + contentOffset) } }
  | none => setByteLocationIfMissing status (contentOffset + readerOffset)

/-- `set_reader_byte_offset(status, content_offset, reader.byte_position())` after a failed read. -/
def withReaderOffset {R α : Type} (bytePosition : R → Nat) (contentOffset : Nat) (call : Call R α) :
    Call R α := fun reader =>
  match call reader with
  | .ok value reader => .ok value reader
  | .error status reader =>
    .error (setReaderByteOffset status contentOffset (bytePosition reader)) reader

def medianPrediction (useSigned16bitPrediction : Bool) (neighbors : NeighborSamples) : Int :=
  if useSigned16bitPrediction then
    Predictor.medianPredictSigned16bit neighbors.left neighbors.top neighbors.topLeft
  else Predictor.medianPredict neighbors.left neighbors.top neighbors.topLeft

section Decoder

variable {R : Type} [SymbolSource R]

/-- One sample, on the line as it stands before it. -/
def decodeResidual (readerBaseOffset : Nat) (contextModel : QuantTableSet)
    (contextBank reconstructionBits : Nat) (useSigned16bitPrediction : Bool) (planeIndex x : Nat)
    (line : LineState) : Call (Decoding R) Unit := do
  let neighbors := line.neighbors x
  let prediction := medianPrediction useSigned16bitPrediction neighbors
  let context ← MonadExcept.ofExcept (ContextModel.deriveContext contextModel neighbors)
  let coded ← onReader (withReaderOffset SymbolSource.bytePosition readerBaseOffset
    (SymbolSource.readSigned contextBank context.context))
  let difference := if context.invertDifference then -coded else coded
  failIf (difference < -2 ^ 31 ∨ 2 ^ 31 - 1 < difference) (makeError .syntaxError
    "range-coded sample difference is outside int32 range")
  modify (Decoding.modifyState (SliceState.modifyLine · planeIndex
    (LineState.store · x (Predictor.reconstruct prediction difference reconstructionBits))))

def decodeRangeSample (readerBaseOffset : Nat) (contextModel : QuantTableSet)
    (contextBank reconstructionBits : Nat) (useSigned16bitPrediction : Bool) (planeIndex x : Nat) :
    Call (Decoding R) Unit := do
  let decoding ← get
  decodeResidual readerBaseOffset contextModel contextBank reconstructionBits
    useSigned16bitPrediction planeIndex x (decoding.state.lineState planeIndex)

def decodeRangeLine (readerBaseOffset : Nat) (contextModel : QuantTableSet)
    (contextBank width reconstructionBits : Nat) (useSigned16bitPrediction : Bool)
    (planeIndex : Nat) : Call (Decoding R) Unit :=
  Mirror.forLoop 0 width fun x =>
    decodeRangeSample readerBaseOffset contextModel contextBank reconstructionBits
      useSigned16bitPrediction planeIndex x

end Decoder

section Storing

variable {R : Type}

/-- `static_cast<std::uint16_t>`; an eight-bit row keeps the low byte. -/
def castSample (sample : Int) : UInt16 := (sample % 2 ^ 16).toNat.toUInt16

def truncateToRawSampleBits (sample : Int) (bitsPerRawSample : Nat) : UInt16 :=
  if bitsPerRawSample = 0 ∨ 16 ≤ bitsPerRawSample then castSample sample
  else (sample % 2 ^ bitsPerRawSample).toNat.toUInt16

/-- The check that a row can be written in the format of the stream. -/
def checkRow (stream : StreamParameters) (windows : List PlaneWindow) (planeIndex y : Nat)
    (rows : String) : Status := do
  failIf (stream.bitsPerRawSample ≤ 8 ∧ rowOfFormat .uint8 windows planeIndex y = none)
    (makeError .invalidArgument (rows ++ " is not writable as uint8"))
  failIf (8 < stream.bitsPerRawSample ∧ rowOfFormat .uint16 windows planeIndex y = none)
    (makeError .invalidArgument (rows ++ " is not writable as uint16"))

def storePlanarLine (stream : StreamParameters) (windows : List PlaneWindow) (planeIndex y : Nat) :
    Call (Decoding R) Unit := do
  MonadExcept.ofExcept (checkRow stream windows planeIndex y "slice output row")
  let decoding ← get
  let line := decoding.state.lineState planeIndex
  let width := (planeWindow windows planeIndex).width.toNat
  modify (Decoding.addStores [{ planeIndex, y, row := (line.current.take width).map castSample }])
  modify (Decoding.modifyState (SliceState.modifyLine · planeIndex LineState.swapLines))

def checkRgbRows (stream : StreamParameters) (windows : List PlaneWindow) (y : Nat) :
    (count planeIndex : Nat) → Status
  | 0, _ => .ok ()
  | count + 1, planeIndex => do
    checkRow stream windows planeIndex y "RGB slice output row"
    checkRgbRows stream windows y count (planeIndex + 1)

/-- The rows of one line of an RGB slice. -/
def rgbRowStores (stream : StreamParameters) (width y : Nat) (state : SliceState) :
    List RowStore :=
  let bits := stream.bitsPerRawSample.toNat
  let rgb := inverseColorTransformRow (state.lineState 0).current (state.lineState 1).current
    (state.lineState 2).current width bits stream.extraPlane
  let colors : List RowStore := [{ planeIndex := 0, y, row := rgb.map RgbSample.r },
    { planeIndex := 1, y, row := rgb.map RgbSample.g },
    { planeIndex := 2, y, row := rgb.map RgbSample.b }]
  if stream.extraPlane then
    colors ++ [{ planeIndex := 3, y, row :=
      ((state.lineState 3).current.take width).map (truncateToRawSampleBits · bits) }]
  else colors

def storeRgbLine (stream : StreamParameters) (windows : List PlaneWindow) (y : Nat) :
    Call (Decoding R) Unit := do
  MonadExcept.ofExcept (checkRgbRows stream windows y windows.length 0)
  let decoding ← get
  let width := (planeWindow windows 0).width.toNat
  modify (Decoding.addStores (rgbRowStores stream width y decoding.state))
  modify (Decoding.modifyState SliceState.swapAllLines)

end Storing

/-- What the range loops of a slice take from its stream and its header. -/
structure RangeSliceSetup where
  readerBaseOffset : Nat
  contextModels : List QuantTableSet
  rangeContextBankIndexes : List Nat

section DecoderLoops

variable {R : Type} [SymbolSource R]

def decodePlaneLine (setup : RangeSliceSetup) (windows : List PlaneWindow) (bits : Nat)
    (useSigned16bitPrediction : Bool) (planeIndex widthPlane : Nat) : Call (Decoding R) Unit :=
  decodeRangeLine setup.readerBaseOffset (setup.contextModels.getD planeIndex {})
    (setup.rangeContextBankIndexes.getD planeIndex 0) (planeWindow windows widthPlane).width.toNat
    bits useSigned16bitPrediction planeIndex

/-- The three colour planes of RGB have one more bit. -/
def rgbReconstructionBits (stream : StreamParameters) (planeIndex : Nat) : Nat :=
  if planeIndex < 3 then stream.bitsPerRawSample.toNat + 1 else stream.bitsPerRawSample.toNat

def decodeRgbRow (stream : StreamParameters) (setup : RangeSliceSetup)
    (windows : List PlaneWindow) (y : Nat) : Call (Decoding R) Unit := do
  Mirror.forLoop 0 windows.length fun planeIndex =>
    decodePlaneLine setup windows (rgbReconstructionBits stream planeIndex) false planeIndex 0
  storeRgbLine stream windows y

def decodeRgbRows (stream : StreamParameters) (setup : RangeSliceSetup)
    (windows : List PlaneWindow) : Call (Decoding R) Unit :=
  Mirror.forLoop 0 (planeWindow windows 0).height.toNat (decodeRgbRow stream setup windows)

def decodePlanarLine (stream : StreamParameters) (setup : RangeSliceSetup)
    (windows : List PlaneWindow) (planeIndex y : Nat) : Call (Decoding R) Unit := do
  decodePlaneLine setup windows stream.bitsPerRawSample.toNat stream.usesSigned16bitPredictor
    planeIndex planeIndex
  storePlanarLine stream windows planeIndex y

/-- The first versions interleave the rows of full-resolution chroma. -/
def usesLegacyRangeYcbcrRowOrder (stream : StreamParameters) : Bool :=
  decide (stream.version ≤ 1) && decide (stream.entropyMode = .range) &&
    decide (stream.colorspaceType = 0) && stream.chromaPlanes &&
    decide (stream.log2HChromaSubsample = 0) && decide (stream.log2VChromaSubsample = 0)

def decodeRowsInterleaved (stream : StreamParameters) (setup : RangeSliceSetup)
    (windows : List PlaneWindow) : Call (Decoding R) Unit :=
  Mirror.forLoop 0 (planeWindow windows 0).height.toNat fun y =>
    Mirror.forLoop 0 windows.length fun planeIndex =>
      if (planeWindow windows planeIndex).height.toNat ≤ y then pure ()
      else decodePlanarLine stream setup windows planeIndex y

def decodePlane (stream : StreamParameters) (setup : RangeSliceSetup)
    (windows : List PlaneWindow) (planeIndex : Nat) : Call (Decoding R) Unit :=
  Mirror.forLoop 0 (planeWindow windows planeIndex).height.toNat
    (decodePlanarLine stream setup windows planeIndex)

def decodePlanes (stream : StreamParameters) (setup : RangeSliceSetup)
    (windows : List PlaneWindow) : Call (Decoding R) Unit :=
  Mirror.forLoop 0 windows.length (decodePlane stream setup windows)

def decodeRangeSamples (stream : StreamParameters) (setup : RangeSliceSetup)
    (windows : List PlaneWindow) : Call (Decoding R) Unit :=
  if stream.colorspaceType = 1 then decodeRgbRows stream setup windows
  else if usesLegacyRangeYcbcrRowOrder stream then decodeRowsInterleaved stream setup windows
  else decodePlanes stream setup windows

end DecoderLoops

def maximumSample (stream : StreamParameters) : Nat :=
  if stream.bitsPerRawSample = 16 then 0xffff else 2 ^ stream.bitsPerRawSample.toNat - 1

/-- The rows of an input window are in the format of the stream. -/
def readInputSample (stream : StreamParameters) (memory : FrameMemory) (windows : List PlaneWindow)
    (planeIndex x y : Nat) : Except Error UInt16 := do
  let window := planeWindow windows planeIndex
  let sample :=
    if stream.bitsPerRawSample ≤ 8 then
      memory.loadSample .uint8 window.buffer (window.rowAddress y + x)
    else memory.loadSample .uint16 window.buffer (window.rowAddress y + 2 * x)
  failIf (maximumSample stream < sample.toNat) (makeError .invalidArgument
    "input sample exceeds configured bit depth")
  return sample

/-- The colour samples of one column. -/
def readRgbSample (stream : StreamParameters) (memory : FrameMemory) (windows : List PlaneWindow)
    (y x : Nat) : Except Error RgbSample := do
  let r ← readInputSample stream memory windows 0 x y
  let g ← readInputSample stream memory windows 1 x y
  let b ← readInputSample stream memory windows 2 x y
  return { r, g, b }

def transformRow (stream : StreamParameters) (samples : List RgbSample) : List RgbCode :=
  forwardColorTransformRow (samples.map RgbSample.r) (samples.map RgbSample.g)
    (samples.map RgbSample.b) samples.length stream.bitsPerRawSample.toNat stream.extraPlane

/-- `transformed[plane][x]` -/
def RgbCode.component (code : RgbCode) (planeIndex : Nat) : Int :=
  match planeIndex with
  | 0 => code.y
  | 1 => code.cb
  | _ => code.cr

section Encoder

variable {W : Type} [SymbolSink W]

/-- One sample, on the line as it stands before it. -/
def encodeResidual (contextModel : QuantTableSet) (contextBank : Nat) (sample : Int)
    (reconstructionBits : Nat) (signed16bitPrediction : Bool) (planeIndex x : Nat)
    (line : LineState) : Call (Encoding W) Unit := do
  let neighbors := line.neighbors x
  let prediction := medianPrediction signed16bitPrediction neighbors
  let context ← MonadExcept.ofExcept (ContextModel.deriveContext contextModel neighbors)
  let difference := Predictor.difference sample prediction reconstructionBits
  onWriter (SymbolSink.writeSigned contextBank context.context
    (if context.invertDifference then -difference else difference))
  modify (Encoding.modifyState (SliceState.modifyLine · planeIndex (LineState.store · x sample)))

def encodeSample (contextModel : QuantTableSet) (contextBank : Nat) (sample : Int)
    (reconstructionBits : Nat) (signed16bitPrediction : Bool) (planeIndex x : Nat) :
    Call (Encoding W) Unit := do
  let encoding ← get
  encodeResidual contextModel contextBank sample reconstructionBits signed16bitPrediction
    planeIndex x (encoding.state.lineState planeIndex)

def encoderContextBank (stream : StreamParameters) (planeIndex : Nat) : Nat :=
  if 3 ≤ stream.version then stream.planeQuantTableSetIndexSlot planeIndex else planeIndex

/-- The row `y` of a plane of RGB, transformed, or of the extra plane. -/
def encodeRgbPlaneRow (stream : StreamParameters) (memory : FrameMemory)
    (windows : List PlaneWindow) (transformed : List RgbCode) (width y planeIndex : Nat) :
    Call (Encoding W) Unit :=
  Mirror.forLoop 0 width fun x => do
    let sample ←
      if planeIndex < 3 then pure ((transformed.getD x {}).component planeIndex)
      else do
        let alpha ← MonadExcept.ofExcept (readInputSample stream memory windows planeIndex x y)
        pure (alpha.toNat : Int)
    encodeSample (stream.quantTableSets.getD 0 {}) (encoderContextBank stream planeIndex) sample
      (rgbReconstructionBits stream planeIndex) false planeIndex x

def encodeRgbRow (stream : StreamParameters) (memory : FrameMemory) (windows : List PlaneWindow)
    (y : Nat) : Call (Encoding W) Unit := do
  let width := (planeWindow windows 0).width.toNat
  let samples ← MonadExcept.ofExcept ((List.range width).mapM (readRgbSample stream memory windows y))
  Mirror.forLoop 0 stream.codedPlaneCount
    (encodeRgbPlaneRow stream memory windows (transformRow stream samples) width y)
  modify (Encoding.modifyState SliceState.swapAllLines)

def encodeRgbRows (stream : StreamParameters) (memory : FrameMemory) (windows : List PlaneWindow) :
    Call (Encoding W) Unit :=
  Mirror.forLoop 0 (planeWindow windows 0).height.toNat (encodeRgbRow stream memory windows)

def encodePlaneRow (stream : StreamParameters) (memory : FrameMemory) (windows : List PlaneWindow)
    (planeIndex y : Nat) : Call (Encoding W) Unit := do
  Mirror.forLoop 0 (planeWindow windows planeIndex).width.toNat fun x => do
    let sample ← MonadExcept.ofExcept (readInputSample stream memory windows planeIndex x y)
    encodeSample (stream.quantTableSets.getD 0 {}) (encoderContextBank stream planeIndex)
      sample.toNat stream.bitsPerRawSample.toNat stream.usesSigned16bitPredictor planeIndex x
  modify (Encoding.modifyState (SliceState.modifyLine · planeIndex LineState.swapLines))

def encodePlane (stream : StreamParameters) (memory : FrameMemory) (windows : List PlaneWindow)
    (planeIndex : Nat) : Call (Encoding W) Unit :=
  Mirror.forLoop 0 (planeWindow windows planeIndex).height.toNat
    (encodePlaneRow stream memory windows planeIndex)

def encodePlanes (stream : StreamParameters) (memory : FrameMemory) (windows : List PlaneWindow) :
    Call (Encoding W) Unit :=
  Mirror.forLoop 0 stream.codedPlaneCount (encodePlane stream memory windows)

def encodeSamples (stream : StreamParameters) (memory : FrameMemory) (windows : List PlaneWindow) :
    Call (Encoding W) Unit :=
  if stream.colorspaceType = 1 then encodeRgbRows stream memory windows
  else encodePlanes stream memory windows

end Encoder

end Mffv1
