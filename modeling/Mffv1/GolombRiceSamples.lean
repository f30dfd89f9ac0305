import Mffv1.RangeSamples

/-!
# Golomb-Rice coded samples

Where the context of a sample is zero, a run of predicted samples is coded. A run may
end inside a row, at its end, or be left pending for the row after it.
-/
namespace Mffv1

def linePrediction (line : LineState) (x : Nat) : Int :=
  medianPrediction false (line.neighbors x)

namespace LineState

/-- `count` predicted samples from `x` on. -/
def storeRun (line : LineState) (x : Nat) : (count : Nat) → LineState
  | 0 => line
  | count + 1 => (line.store x (linePrediction line x)).storeRun (x + 1) count

theorem Sized.storeRun {line : LineState} {width : Nat} (h : line.Sized width) (x count : Nat) :
    (line.storeRun x count).Sized width := by
  induction count generalizing line x with
  | zero => exact h
  | succ count ih => exact ih (h.store x _) (x + 1)

/-- The loop over the samples that are predicted, up to `count` of them; also where it stops. -/
def matchRun (samples : List Int) (line : LineState) (x : Nat) : (count : Nat) → LineState × Nat
  | 0 => (line, x)
  | count + 1 =>
    if samples.getD x 0 = linePrediction line x then
      matchRun samples (line.store x (samples.getD x 0)) (x + 1) count
    else (line, x)

end LineState

/-- What one row is coded with. -/
structure GolombRiceLine where
  contextModel : QuantTableSet
  planeIndex : Nat
  runStatePlane : Nat
  y : Nat
  contextBank : Nat
  width : Nat
  reconstructionBits : Nat

section Decoder

variable (payloadOffset : Nat) (setup : GolombRiceLine)

def formatGolombRiceContextTrace (x : Nat) (neighbors : NeighborSamples)
    (context : ContextDecision) (runState : GolombRiceRunState) (bitPosition : Nat) : String :=
  " plane=" ++ toString setup.planeIndex ++ " y=" ++ toString setup.y ++ " x=" ++ toString x ++
    " bit=" ++ toString bitPosition ++ " context=" ++ toString context.context ++
    (if context.invertDifference then " invert=1" else " invert=0") ++
    " pred=" ++ toString (medianPrediction false neighbors) ++ " neighbors=" ++
    "/".intercalate ([neighbors.left, neighbors.top, neighbors.topLeft, neighbors.topRight,
      neighbors.farLeft, neighbors.topTop].map toString) ++
    " run=" ++ toString runState.runIndex ++ "/" ++ toString runState.pendingCount

def formatGolombRiceAdaptiveState (adaptive : GolombRiceContextState) : String :=
  " gr_state=" ++ "/".intercalate
    ([adaptive.drift, adaptive.errorSum, adaptive.bias, adaptive.count].map toString)

/-- The context of the run is that of its first sample. -/
def tellRunSegment (neighbors : NeighborSamples) (context : ContextDecision) (x : Nat)
    (before after : Decoding BitReader) (status : Error) : Error :=
  appendStatusMessage status (" while reading GR run segment" ++
    formatGolombRiceContextTrace setup x neighbors context
      (after.state.golombRiceRunState setup.runStatePlane) before.reader.bitPosition)

def tellDifference (what : String) (context : ContextDecision) (x : Nat)
    (_ after : Decoding BitReader) (status : Error) : Error :=
  appendStatusMessage status (" while reading GR " ++ what ++
    formatGolombRiceContextTrace setup x
      ((after.state.lineState setup.planeIndex).neighbors x) context
      (after.state.golombRiceRunState setup.runStatePlane) after.reader.bitPosition ++
    formatGolombRiceAdaptiveState
      (after.state.golombRiceContext setup.contextBank context.context))

def onBits {α : Type} (call : Call BitReader α) : Call (Decoding BitReader) α :=
  onReader (withReaderOffset BitReader.bytePosition payloadOffset call)

def storeDecoded (x : Nat) (sample : Int) : Call (Decoding BitReader) Unit :=
  modify (Decoding.modifyState (SliceState.modifyLine · setup.planeIndex
    (LineState.store · x sample)))

def readSegment (x : Nat) : Call (Decoding BitReader) GolombRiceRunSegment := do
  let decoding ← get
  let runState := decoding.state.golombRiceRunState setup.runStatePlane
  let (segment, runState) ← onBits payloadOffset (runState.readRunSegment x setup.width)
  modify (Decoding.modifyState (SliceState.setGolombRiceRunState · setup.runStatePlane runState))
  return segment

/-- What is left of a run of the row before, `count` samples of it. -/
def decodePendingRun : (x count : Nat) → Call (Decoding BitReader) Unit
  | _, 0 => return ()
  | x, count + 1 => do
    let decoding ← get
    let line := decoding.state.lineState setup.planeIndex
    let _ ← MonadExcept.ofExcept (ContextModel.deriveContext setup.contextModel (line.neighbors x))
    storeDecoded setup x (linePrediction line x)
    decodePendingRun (x + 1) count

/-- The segments of a run up to its end or the end of the row, and whether it was
interrupted; a segment that does not end the run is not empty, so that `fuel` is what is
left of the row. -/
def decodeRunSegments (neighbors : NeighborSamples) (context : ContextDecision) :
    (fuel x : Nat) → Call (Decoding BitReader) (Nat × Bool)
  | 0, x => return (x, false)
  | fuel + 1, x => do
    let segment ← Mirror.telling (tellRunSegment setup neighbors context x)
      (readSegment payloadOffset setup x)
    let count := min segment.count (setup.width - x)
    modify (Decoding.modifyState (SliceState.modifyLine · setup.planeIndex
      (LineState.storeRun · x count)))
    if segment.interrupted ∨ setup.width ≤ x + count then return (x + count, segment.interrupted)
    else decodeRunSegments neighbors context fuel (x + count)

/-- A difference read in the adaptive state of a context. -/
def readDifference (context : ContextDecision)
    (read : GolombRiceContextState → Nat → Call BitReader (Int × GolombRiceContextState)) :
    Call (Decoding BitReader) Int := do
  let decoding ← get
  let adaptive := decoding.state.golombRiceContext setup.contextBank context.context
  let (difference, adaptive) ← onBits payloadOffset (read adaptive setup.reconstructionBits)
  modify (Decoding.modifyState
    (SliceState.setGolombRiceContext · setup.contextBank context.context adaptive))
  return if context.invertDifference then -difference else difference

def decodeDifference (what : String) (x : Nat)
    (read : GolombRiceContextState → Nat → Call BitReader (Int × GolombRiceContextState)) :
    Call (Decoding BitReader) Unit := do
  let decoding ← get
  let line := decoding.state.lineState setup.planeIndex
  let context ← MonadExcept.ofExcept
    (ContextModel.deriveContext setup.contextModel (line.neighbors x))
  let difference ← Mirror.telling (tellDifference setup what context x)
    (readDifference payloadOffset setup context read)
  storeDecoded setup x
    (Predictor.reconstruct (linePrediction line x) difference setup.reconstructionBits)

/-- One round of the loop over a row, from `x` to where it goes on. -/
def decodeGolombRiceStep (x : Nat) : Call (Decoding BitReader) Nat := do
  let decoding ← get
  if (decoding.state.golombRiceRunState setup.runStatePlane).pendingCount ≠ 0 then
    let segment ← readSegment payloadOffset setup x
    let count := min segment.count (setup.width - x)
    decodePendingRun setup x count
    return x + count
  else
    let line := decoding.state.lineState setup.planeIndex
    let context ← MonadExcept.ofExcept
      (ContextModel.deriveContext setup.contextModel (line.neighbors x))
    if context.context = 0 then
      let (x, interrupted) ← decodeRunSegments payloadOffset setup (line.neighbors x) context
        (setup.width - x) x
      if interrupted = false ∨ x = setup.width then return x
      else
        decodeDifference payloadOffset setup "run interruption" x
          GolombRiceContextState.readRunInterruption
        return x + 1
    else
      decodeDifference payloadOffset setup "scalar symbol" x GolombRiceContextState.readSymbol
      return x + 1

/-- Every round moves on, so that the width is enough `fuel`. -/
def decodeGolombRiceRounds : (fuel x : Nat) → Call (Decoding BitReader) Unit
  | 0, _ => return ()
  | fuel + 1, x => do
    if setup.width ≤ x then return ()
    else
      let x ← decodeGolombRiceStep payloadOffset setup x
      decodeGolombRiceRounds fuel x

def decodeGolombRiceLine : Call (Decoding BitReader) Unit :=
  decodeGolombRiceRounds payloadOffset setup setup.width 0

end Decoder

/-- What the Golomb-Rice loops of a slice take from its stream and its header. -/
structure GolombRiceSliceSetup where
  payloadOffset : Nat
  contentBitOffset : Nat
  contextModels : List QuantTableSet
  contextBankIndexes : List Nat
  contextBankCounts : List Nat
  allowReadAheadTrailingBytes : Bool

section DecoderLoops

variable (stream : StreamParameters) (setup : GolombRiceSliceSetup) (windows : List PlaneWindow)

def golombRiceLine (planeIndex runStatePlane widthPlane y reconstructionBits : Nat) :
    GolombRiceLine where
  contextModel := setup.contextModels.getD planeIndex {}
  planeIndex
  runStatePlane
  y
  contextBank := setup.contextBankIndexes.getD planeIndex 0
  width := (planeWindow windows widthPlane).width.toNat
  reconstructionBits

/-- A row of a slice, whose errors tell where it is. -/
def decodeGolombRiceRow (planeIndex runStatePlane widthPlane y reconstructionBits : Nat) :
    Call (Decoding BitReader) Unit :=
  Mirror.telling (fun _ _ status => appendStatusMessage status
      (" at GR plane " ++ toString planeIndex ++ " y " ++ toString y))
    (decodeGolombRiceLine setup.payloadOffset
      (golombRiceLine setup windows planeIndex runStatePlane widthPlane y reconstructionBits))

/-- The planes of RGB, the extra one too, have one more bit and share a run state. -/
def decodeGolombRiceRgbRows : Call (Decoding BitReader) Unit := do
  Mirror.forLoop 0 (planeWindow windows 0).height.toNat fun y => do
    Mirror.forLoop 0 windows.length fun planeIndex =>
      decodeGolombRiceRow setup windows planeIndex 0 0 y (stream.bitsPerRawSample.toNat + 1)
    storeRgbLine stream windows y
  modify (Decoding.modifyState SliceState.clearPendingRuns)

def decodeGolombRicePlane (planeIndex : Nat) : Call (Decoding BitReader) Unit := do
  Mirror.forLoop 0 (planeWindow windows planeIndex).height.toNat fun y => do
    decodeGolombRiceRow setup windows planeIndex planeIndex planeIndex y
      stream.bitsPerRawSample.toNat
    storePlanarLine stream windows planeIndex y
  modify (Decoding.modifyState fun state =>
    state.setGolombRiceRunState planeIndex
      { state.golombRiceRunState planeIndex with pendingCount := 0 })

/-- Where the planes have ended; those of RGB end together. -/
def planeEndBits (start last : Decoding BitReader) : List Nat :=
  (List.range windows.length).map fun planeIndex =>
    if stream.colorspaceType = 1 then last.reader.bitPosition
    else (Mirror.finalState (Mirror.forLoop 0 (planeIndex + 1)
      (decodeGolombRicePlane stream setup windows) start)).reader.bitPosition

/-- Values with their indexes, under a label. -/
def formatIndexed (label : String) : List String → String
  | [] => ""
  | texts => label ++ ",".intercalate (texts.mapIdx fun index text => toString index ++ ":" ++ text)

def formatGolombRicePlaneEndBits (endBits : List Nat) : String :=
  formatIndexed " plane_end_bits=" (endBits.map toString)

def formatGolombRiceRunStates (state : SliceState) (planeCount : Nat) : String :=
  formatIndexed " run_states=" ((List.range planeCount).map fun planeIndex =>
    let runState := state.golombRiceRunState planeIndex
    toString runState.runIndex ++ "/" ++ toString runState.pendingCount)

def formatTrailingGolombRiceBytes (reader : BitReader) : String :=
  let remaining := reader.data.drop reader.bytePosition
  " remaining_bits=" ++ toString reader.remainingBits ++
    if remaining = [] then ""
    else " next_bytes=" ++
      ",".intercalate ((remaining.take 8).map fun byte => toString byte.toNat) ++
      if 8 < remaining.length then "..." else ""

/-- The end of the payload; `stateSuffix` tells how the planes have ended. -/
def checkGolombRiceEnd (stateSuffix : String) : Call BitReader Unit := do
  withReaderOffset BitReader.bytePosition setup.payloadOffset BitReader.byteAlign
  let reader ← get
  failIf (reader.remainingBits ≠ 0 ∧ ¬(setup.allowReadAheadTrailingBytes ∧ 3 ≤ stream.version))
    (makeByteError .syntaxError
      ("Golomb-Rice payload contains trailing bytes at bit offset " ++
        toString reader.bitPosition ++ stateSuffix ++ formatTrailingGolombRiceBytes reader)
      (setup.payloadOffset + reader.bytePosition))

def decodeGolombRiceSlice : Call (Decoding BitReader) Unit := do
  failIf (setup.contextBankIndexes.length ≠ setup.contextModels.length) (makeError .invalidArgument
    "Golomb-Rice context bank index count does not match plane count")
  let decoding ← get
  let state ← MonadExcept.ofExcept
    (decoding.state.prepareGolombRice setup.contextBankCounts windows.length)
  set { decoding with state := state.resetRunStates }
  onBits setup.payloadOffset (BitReader.skipBits setup.contentBitOffset)
  let start ← get
  (if stream.colorspaceType = 1 then decodeGolombRiceRgbRows stream setup windows
  else Mirror.forLoop 0 windows.length (decodeGolombRicePlane stream setup windows))
  let last ← get
  onReader (checkGolombRiceEnd stream setup
    (formatGolombRicePlaneEndBits (planeEndBits stream setup windows start last) ++
      formatGolombRiceRunStates last.state windows.length))

end DecoderLoops

section Encoder

variable (setup : GolombRiceLine) (samples : List Int)

def storeEncoded (x : Nat) : Call (Encoding BitWriter) Unit :=
  modify (Encoding.modifyState (SliceState.modifyLine · setup.planeIndex
    (LineState.store · x (samples.getD x 0))))

def writeRunOf (x count : Nat) : Call (Encoding BitWriter) Unit := do
  let encoding ← get
  let runState := encoding.state.golombRiceRunState setup.runStatePlane
  let runState ← onWriter (runState.writeRun x setup.width count)
  modify (Encoding.modifyState (SliceState.setGolombRiceRunState · setup.runStatePlane runState))

def writeDifference (context : ContextDecision) (difference : Int)
    (write : GolombRiceContextState → Nat → Int → Call BitWriter GolombRiceContextState) :
    Call (Encoding BitWriter) Unit := do
  let encoding ← get
  let adaptive := encoding.state.golombRiceContext setup.contextBank context.context
  let adaptive ← onWriter (write adaptive setup.reconstructionBits
    (if context.invertDifference then -difference else difference))
  modify (Encoding.modifyState
    (SliceState.setGolombRiceContext · setup.contextBank context.context adaptive))

def encodeDifference (x : Nat)
    (write : GolombRiceContextState → Nat → Int → Call BitWriter GolombRiceContextState) :
    Call (Encoding BitWriter) Unit := do
  let encoding ← get
  let line := encoding.state.lineState setup.planeIndex
  let context ← MonadExcept.ofExcept
    (ContextModel.deriveContext setup.contextModel (line.neighbors x))
  let difference := Predictor.difference (samples.getD x 0) (linePrediction line x)
    setup.reconstructionBits
  writeDifference setup context difference write
  storeEncoded setup samples x

/-- One round of the loop over a row, from `x` to where it goes on. -/
def encodeGolombRiceStep (x : Nat) : Call (Encoding BitWriter) Nat := do
  let encoding ← get
  let line := encoding.state.lineState setup.planeIndex
  let context ← MonadExcept.ofExcept
    (ContextModel.deriveContext setup.contextModel (line.neighbors x))
  if context.context = 0 then
    let runEnd := (line.matchRun samples x (setup.width - x)).2
    modify (Encoding.modifyState (SliceState.modifyLine · setup.planeIndex fun line =>
      (line.matchRun samples x (setup.width - x)).1))
    writeRunOf setup x (runEnd - x)
    if runEnd = setup.width then return runEnd
    else
      encodeDifference setup samples runEnd GolombRiceContextState.writeRunInterruption
      return runEnd + 1
  else
    encodeDifference setup samples x GolombRiceContextState.writeSymbol
    return x + 1

/-- Every round moves on, so that the width is enough `fuel`. -/
def encodeGolombRiceRounds : (fuel x : Nat) → Call (Encoding BitWriter) Unit
  | 0, _ => return ()
  | fuel + 1, x => do
    if setup.width ≤ x then return ()
    else
      let x ← encodeGolombRiceStep setup samples x
      encodeGolombRiceRounds fuel x

def encodeGolombRiceLine : Call (Encoding BitWriter) Unit := do
  encodeGolombRiceRounds setup samples setup.width 0
  modify (Encoding.modifyState (SliceState.modifyLine · setup.planeIndex LineState.swapLines))

end Encoder

section EncoderLoops

variable (stream : StreamParameters) (memory : FrameMemory) (windows : List PlaneWindow)

def encoderGolombRiceBankCount : Nat :=
  if 3 ≤ stream.version then stream.quantTableSetIndexCount else 1

def encoderGolombRiceBank (planeIndex : Nat) : Nat :=
  if 3 ≤ stream.version then stream.planeQuantTableSetIndexSlot planeIndex else 0

def encoderGolombRiceLine (planeIndex runStatePlane width y reconstructionBits : Nat) :
    GolombRiceLine where
  contextModel := stream.quantTableSets.getD 0 {}
  planeIndex
  runStatePlane
  y
  contextBank := encoderGolombRiceBank stream planeIndex
  width
  reconstructionBits

/-- The samples of one column, with the one of the extra plane. -/
def readRgbaSample (y x : Nat) : Except Error (RgbSample × UInt16) := do
  let sample ← readRgbSample stream memory windows y x
  if stream.extraPlane then
    let alpha ← readInputSample stream memory windows 3 x y
    return (sample, alpha)
  else return (sample, 0)

/-- `rows[plane]` -/
def rgbRow (samples : List (RgbSample × UInt16)) (planeIndex : Nat) : List Int :=
  if planeIndex < 3 then
    (transformRow stream (samples.map Prod.fst)).map (RgbCode.component · planeIndex)
  else samples.map fun sample => (sample.2.toNat : Int)

def encodeGolombRiceRgbRows : Call (Encoding BitWriter) Unit :=
  let width := (planeWindow windows 0).width.toNat
  Mirror.forLoop 0 (planeWindow windows 0).height.toNat fun y => do
    let samples ← MonadExcept.ofExcept
      ((List.range width).mapM (readRgbaSample stream memory windows y))
    Mirror.forLoop 0 stream.codedPlaneCount fun planeIndex =>
      encodeGolombRiceLine
        (encoderGolombRiceLine stream planeIndex 0 width y (stream.bitsPerRawSample.toNat + 1))
        (rgbRow stream samples planeIndex)

def encodeGolombRicePlane (planeIndex : Nat) : Call (Encoding BitWriter) Unit :=
  let width := (planeWindow windows planeIndex).width.toNat
  Mirror.forLoop 0 (planeWindow windows planeIndex).height.toNat fun y => do
    let samples ← MonadExcept.ofExcept ((List.range width).mapM fun x =>
      readInputSample stream memory windows planeIndex x y)
    encodeGolombRiceLine
      (encoderGolombRiceLine stream planeIndex planeIndex width y stream.bitsPerRawSample.toNat)
      (samples.map fun sample => (sample.toNat : Int))

def encodeGolombRiceSamples : Call (Encoding BitWriter) Unit := do
  let encoding ← get
  let contextCount := (stream.quantTableSets.getD 0 {}).contextCount.toNat
  let state ← MonadExcept.ofExcept (encoding.state.prepareGolombRice
    (List.replicate (encoderGolombRiceBankCount stream) contextCount) stream.codedPlaneCount)
  set { encoding with state := state.resetRunStates }
  if stream.colorspaceType = 1 then encodeGolombRiceRgbRows stream memory windows
  else Mirror.forLoop 0 stream.codedPlaneCount (encodeGolombRicePlane stream memory windows)

end EncoderLoops

end Mffv1
