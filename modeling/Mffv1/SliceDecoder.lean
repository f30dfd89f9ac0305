import Mffv1.FrameParser
import Mffv1.GolombRiceSamples

/-!
# The slice decoder

A slice is decoded into rows and into the state that the next frame continues. Its
range coder goes on behind the header of the slice, behind the parameters of a
legacy keyframe, or starts anew on the content.
-/
namespace Mffv1

/-- What the decoding of a slice may have changed when it returns. -/
structure SliceProgress where
  state : SliceState
  stores : List RowStore := []
  deriving DecidableEq

/-- A call with a reader of its own. -/
def SliceProgress.withReader {R α : Type} (reader : R) (call : Call (Decoding R) α) :
    Call SliceProgress α := fun progress =>
  match call { reader, state := progress.state, stores := progress.stores } with
  | .ok value decoding => .ok value { state := decoding.state, stores := decoding.stores }
  | .error status decoding => .error status { state := decoding.state, stores := decoding.stores }

namespace SliceDecoder

/-- Range coding goes on behind the header, so that the content may be empty. -/
def hasContinuousRangeState (stream : StreamParameters) (slice : SliceDescriptor) : Bool :=
  decide (stream.entropyMode = .range) &&
    ((decide (3 ≤ stream.version) && decide (slice.sliceSize ≠ 0)) ||
      slice.continuesFrameRangeState)

/-- Two zeros stand for a slice without a footer. -/
def contentEnd (slice : SliceDescriptor) (localContentOffset : Nat) : Except Error Nat :=
  if slice.footerByteOffset ≠ 0 ∨ slice.sliceSize ≠ 0 then do
    failIf (slice.footerByteOffset < slice.payloadByteOffset) (makeByteError .syntaxError
      "slice footer offset is before payload" slice.footerByteOffset)
    let localFooterOffset := slice.footerByteOffset - slice.payloadByteOffset
    failIf (slice.payload.length < localFooterOffset) (makeByteError .syntaxError
      "slice footer offset is outside payload" slice.footerByteOffset)
    failIf (localFooterOffset < localContentOffset) (makeByteError .syntaxError
      "slice footer offset is before content" slice.footerByteOffset)
    return localFooterOffset
  else return slice.payload.length

def resolveContentPayload (stream : StreamParameters) (slice : SliceDescriptor) :
    Except Error Bytes := do
  failIf (slice.contentByteOffset < slice.payloadByteOffset) (makeByteError .syntaxError
    "slice content offset is before payload" slice.contentByteOffset)
  let localContentOffset := slice.contentByteOffset - slice.payloadByteOffset
  failIf (slice.payload.length < localContentOffset) (makeByteError .syntaxError
    "slice content offset is outside payload" slice.contentByteOffset)
  let localContentEnd ← contentEnd slice localContentOffset
  let payload := (slice.payload.drop localContentOffset).take (localContentEnd - localContentOffset)
  failIf (payload = [] ∧ hasContinuousRangeState stream slice = false) (makeByteError .syntaxError
    "slice payload is empty" slice.contentByteOffset)
  return payload

/-- The initial states of the table set at an index, none where the stream has none. -/
def initialStatesOf (stream : StreamParameters) (index : Nat) : InitialStateSet :=
  stream.initialStates.getD index []

def tableSetAt (stream : StreamParameters) (index : Nat) : QuantTableSet :=
  stream.quantTableSets.getD index {}

def validateTableSetIndex (stream : StreamParameters) (index : Nat) : Status := do
  failIf (stream.quantTableSets.length ≤ index) (makeError .syntaxError
    "slice quantization table set index is out of range")
  if stream.entropyMode = .range ∧ stream.initialStates ≠ [] then
    failIf (stream.initialStates.length ≠ stream.quantTableSets.length) (makeError .invalidState
      "range coder initial state set count does not match quantization table set count")
    failIf (initialStatesOf stream index ≠ [] ∧
        (initialStatesOf stream index).length ≠ (tableSetAt stream index).contextCount.toNat)
      (makeError .invalidState
        "range coder initial state count does not match quantization context count")
  else return ()

def validateTableSetIndexes (stream : StreamParameters) : List Nat → Status
  | [] => .ok ()
  | index :: indexes => do
    validateTableSetIndex stream index
    validateTableSetIndexes stream indexes

def validate (stream : StreamParameters) (slice : SliceDescriptor) (windows : List PlaneWindow) :
    Status := do
  let _ ← resolveContentPayload stream slice
  failIf (7 < slice.contentBitOffset) (makeByteError .syntaxError
    "slice content bit offset is outside a byte" slice.contentByteOffset)
  failIf (stream.entropyMode ≠ .golombRice ∧ slice.contentBitOffset ≠ 0) (makeByteError .syntaxError
    "range-coded slice content must be byte aligned" slice.contentByteOffset)
  failIf (windows.length ≠ stream.codedPlaneCount) (makeError .invalidArgument
    "slice output plane count does not match stream")
  failIf (isSupportedBitDepth stream.bitsPerRawSample = false) (makeError .unsupportedFeature
    "only 1-16 bit samples are supported")
  failIf (stream.quantTableSets = []) (makeError .invalidState
    "stream has no quantization table sets")
  failIf (slice.quantTableSetIndexes = []) (makeError .syntaxError
    "slice has no quantization table set indexes")
  failIf (slice.quantTableSetIndexes.length ≠
      if 3 ≤ stream.version then stream.quantTableSetIndexCount else 1) (makeError .syntaxError
    "slice quantization table set index count does not match the stream")
  validateTableSetIndexes stream slice.quantTableSetIndexes

/-- `validate_state_line_geometry` -/
def validateStateLineGeometry (windows : List PlaneWindow) (state : SliceState) : Status := do
  failIf (windows.length ≠ state.planeCount) (makeError .invalidArgument
    "slice output and state plane counts differ")
  failIf (state.lineStates.map LineState.width ≠ windows.map fun window => window.width.toNat)
    (makeError .invalidState "slice state line width does not match output plane width")

/-- The table set of a plane. -/
def planeTableSetIndex (stream : StreamParameters) (slice : SliceDescriptor) (planeIndex : Nat) :
    Nat :=
  slice.quantTableSetIndexes.getD
    (if 3 ≤ stream.version then stream.planeQuantTableSetIndexSlot planeIndex else 0) 0

def contextModels (stream : StreamParameters) (slice : SliceDescriptor) (planeCount : Nat) :
    List QuantTableSet :=
  (List.range planeCount).map fun planeIndex =>
    tableSetAt stream (planeTableSetIndex stream slice planeIndex)

/-- The table sets of the slots of a slice header. -/
def slotTableSetIndexes (stream : StreamParameters) (slice : SliceDescriptor) : List Nat :=
  (List.range stream.quantTableSetIndexCount).map fun slot =>
    slice.quantTableSetIndexes.getD slot 0

def golombRiceContextBankIndexes (stream : StreamParameters) (slice : SliceDescriptor)
    (planeCount : Nat) : List Nat :=
  (List.range planeCount).map fun planeIndex =>
    if 3 ≤ stream.version then stream.planeQuantTableSetIndexSlot planeIndex
    else planeTableSetIndex stream slice planeIndex

def golombRiceContextBankCounts (stream : StreamParameters) (slice : SliceDescriptor) : List Nat :=
  if 3 ≤ stream.version then
    (slotTableSetIndexes stream slice).map fun index => (tableSetAt stream index).contextCount.toNat
  else stream.quantTableSets.map fun tableSet => tableSet.contextCount.toNat

/-- The table sets of the range banks: one a slot, in the first versions one a plane. -/
def rangeTableSetIndexes (stream : StreamParameters) (slice : SliceDescriptor) (planeCount : Nat) :
    List Nat :=
  if 3 ≤ stream.version then slotTableSetIndexes stream slice
  else (List.range planeCount).map (planeTableSetIndex stream slice)

def rangeContextCounts (stream : StreamParameters) (slice : SliceDescriptor) (planeCount : Nat) :
    List Nat :=
  (rangeTableSetIndexes stream slice planeCount).map fun index =>
    (tableSetAt stream index).contextCount.toNat

/-- A legacy RGB slice has one bank for both of its chroma planes. -/
def rangeContextBankIndexes (stream : StreamParameters) (slice : SliceDescriptor)
    (planeCount : Nat) : List Nat :=
  (List.range planeCount).map fun planeIndex =>
    if 3 ≤ stream.version then stream.planeQuantTableSetIndexSlot planeIndex
    else if slice.continuesFrameRangeState ∧ stream.colorspaceType = 1 ∧ planeIndex = 2 then 1
    else planeIndex

/-- The contexts saved in the state of the slice come before those of the stream. -/
def rangeInitialStateBanks (stream : StreamParameters) (slice : SliceDescriptor)
    (planeCount : Nat) (state : SliceState) : Except Error (List ContextStateBank) := do
  if state.hasRangeContexts then
    let counts := rangeContextCounts stream slice planeCount
    failIf (state.rangeContexts.length ≠ counts.length) (makeError .invalidState
      "saved range context bank count does not match slice context bank count")
    failIf (state.rangeContexts.map List.length ≠ counts) (makeError .invalidState
      "saved range context count does not match quantization contexts")
    return state.rangeContexts
  else return (rangeTableSetIndexes stream slice planeCount).map (initialStatesOf stream)

def golombRiceSetup (stream : StreamParameters) (slice : SliceDescriptor) (planeCount : Nat)
    (allowReadAheadTrailingBytes : Bool) : GolombRiceSliceSetup where
  payloadOffset := slice.contentByteOffset
  contentBitOffset := slice.contentBitOffset
  contextModels := contextModels stream slice planeCount
  contextBankIndexes := golombRiceContextBankIndexes stream slice planeCount
  contextBankCounts := golombRiceContextBankCounts stream slice
  allowReadAheadTrailingBytes

/-- The header of the slice is read once more. -/
def sameHeader (left right : SliceDescriptor) : Prop :=
  left.rasterX = right.rasterX ∧ left.rasterY = right.rasterY ∧
    left.rasterWidth = right.rasterWidth ∧ left.rasterHeight = right.rasterHeight ∧
    left.quantTableSetIndexes = right.quantTableSetIndexes ∧
    left.pictureStructure = right.pictureStructure ∧
    left.sarNum = right.sarNum ∧ left.sarDen = right.sarDen

instance (left right : SliceDescriptor) : Decidable (sameHeader left right) := by
  unfold sameHeader
  infer_instance

/-- `add_byte_offset(status, slice.payload_byte_offset)` on every error of a call. -/
def inPayload {α : Type} (slice : SliceDescriptor) (call : Call RangeCoder α) :
    Call RangeCoder α :=
  EStateM.adaptExcept (addByteOffset · slice.payloadByteOffset) call

def readKeyframe (stream : StreamParameters) (slice : SliceDescriptor) : Call RangeCoder Bool := do
  let keyframe ← inPayload slice RangeCoder.readBool
  failIf (keyframe = false ∧ stream.intraOnly = true) (makeByteError .syntaxError
    "non-keyframe is invalid for an intra-only stream" slice.payloadByteOffset)
  return keyframe

def startBehindHeader (stream : StreamParameters) (slice : SliceDescriptor)
    (contextCounts : List Nat) (initialStateBanks : List ContextStateBank) :
    Call RangeCoder Unit := do
  let localFooterOffset := slice.footerByteOffset - slice.payloadByteOffset
  inPayload slice (RangeCoder.resetSingle (slice.payload.take localFooterOffset)
    stream.stateTransition)
  (if slice.index = 0 then do
    let _ ← readKeyframe stream slice
    inPayload slice (RangeCoder.reconfigureContexts [1] [])
  else pure ())
  let encodedSlice ← inPayload slice (SliceHeaderParser.readDescriptor stream {})
  let reader ← get
  let encodedContentOffset :=
    if stream.entropyMode = .golombRice then golombRiceContentBytePosition reader
    else reader.bytePosition
  failIf (¬sameHeader encodedSlice slice ∨
      encodedContentOffset ≠ slice.contentByteOffset - slice.payloadByteOffset)
    (makeByteError .syntaxError "slice descriptor does not match its encoded header"
      slice.headerByteOffset)
  inPayload slice (RangeCoder.reconfigureContexts contextCounts initialStateBanks)

def skipMatchingLegacyParametersIfNeeded (stream : StreamParameters) (localContentOffset
    headerByteOffset : Nat) : Call RangeCoder Unit := do
  let reader ← get
  if reader.bytePosition = localContentOffset then return ()
  else
    RangeCoder.reconfigureContexts [1] []
    let mismatch := makeByteError .syntaxError
      "slice descriptor does not match the legacy frame header" headerByteOffset
    let embedded ← EStateM.adaptExcept (fun _ => mismatch) ConfigurationParser.parse
    let embedded := { embedded with width := stream.width, height := stream.height }
    let reader ← get
    failIf (streamParametersEquivalent stream embedded = false ∨
      reader.bytePosition ≠ localContentOffset) mismatch

/-- The arithmetic of the first versions. -/
def setLegacyModes (stream : StreamParameters) (slice : SliceDescriptor) :
    Call RangeCoder Unit := do
  (if slice.usesLegacyV0Arithmetic then RangeCoder.setLegacyV0Arithmetic true else pure ())
  (if stream.version ≤ 1 ∧ stream.entropyMode = .range ∧ stream.colorspaceType = 0 then
    RangeCoder.setLegacyZeroSymbolCarry true
  else pure ())

/-- The parameters of a keyframe that end where its content begins. -/
def matchingBootstrap (stream : StreamParameters) (slice : SliceDescriptor) :
    Option LegacyFrameBootstrap :=
  match LegacyFrameBootstrapParser.parse slice.payload stream.width stream.height with
  | .ok bootstrap =>
    if bootstrap.hasEmbeddedParameters ∧
        bootstrap.contentByteOffset = slice.contentByteOffset - slice.payloadByteOffset ∧
        streamParametersEquivalent stream bootstrap.stream then
      some bootstrap
    else none
  | .error _ => none

def startBehindLegacyHeader (stream : StreamParameters) (slice : SliceDescriptor)
    (contextCounts : List Nat) (initialStateBanks : List ContextStateBank) :
    Call RangeCoder Unit := do
  inPayload slice (RangeCoder.resetSingle slice.payload defaultStateTransition)
  let keyframe ← readKeyframe stream slice
  match if keyframe then matchingBootstrap stream slice else none with
  | some bootstrap =>
    inPayload slice (RangeCoder.resetFromArithmeticState slice.payload contextCounts
      initialStateBanks stream.stateTransition bootstrap.rangeStateAfterParameters)
    inPayload slice (setLegacyModes stream slice)
  | none =>
    skipMatchingLegacyParametersIfNeeded stream
      (slice.contentByteOffset - slice.payloadByteOffset) slice.headerByteOffset
    inPayload slice (RangeCoder.setStateTransition stream.stateTransition)
    inPayload slice (RangeCoder.reconfigureContexts contextCounts initialStateBanks)
    inPayload slice (setLegacyModes stream slice)

/-- Whether the coder goes on behind the header of a slice with a footer. -/
def continuesFromSliceHeader (stream : StreamParameters) (slice : SliceDescriptor) : Bool :=
  decide (3 ≤ stream.version) && decide (slice.sliceSize ≠ 0)

def startReader (stream : StreamParameters) (slice : SliceDescriptor) (content : Bytes)
    (contextCounts : List Nat) (initialStateBanks : List ContextStateBank) :
    Call RangeCoder Unit :=
  if continuesFromSliceHeader stream slice then
    startBehindHeader stream slice contextCounts initialStateBanks
  else if slice.continuesFrameRangeState then
    startBehindLegacyHeader stream slice contextCounts initialStateBanks
  else
    EStateM.adaptExcept (addByteOffset · slice.contentByteOffset)
      (RangeCoder.reset content contextCounts initialStateBanks stream.stateTransition)

/-- The offset of the first byte that the coder reads. -/
def readerBaseOffset (stream : StreamParameters) (slice : SliceDescriptor) : Nat :=
  if continuesFromSliceHeader stream slice ∨ slice.continuesFrameRangeState then
    slice.payloadByteOffset
  else slice.contentByteOffset

def rangeSetup (stream : StreamParameters) (slice : SliceDescriptor) (planeCount : Nat) :
    RangeSliceSetup where
  readerBaseOffset := readerBaseOffset stream slice
  contextModels := contextModels stream slice planeCount
  rangeContextBankIndexes := rangeContextBankIndexes stream slice planeCount

/-- `state.capture_range_contexts(reader)` -/
def captureContexts : Call (Decoding RangeCoder) Unit := do
  let decoding ← get
  let state ← MonadExcept.ofExcept
    (decoding.state.captureRangeContexts decoding.reader.copyContexts)
  set { decoding with state }

def decodeRangeContent (stream : StreamParameters) (slice : SliceDescriptor)
    (windows : List PlaneWindow) : Call (Decoding RangeCoder) Unit := do
  decodeRangeSamples stream (rangeSetup stream slice windows.length) windows
  captureContexts

def decodeRange (stream : StreamParameters) (slice : SliceDescriptor) (content : Bytes)
    (windows : List PlaneWindow) : Call SliceProgress Unit := do
  let progress ← get
  let banks ← MonadExcept.ofExcept
    (rangeInitialStateBanks stream slice windows.length progress.state)
  let start : Call RangeCoder RangeCoder := do
    startReader stream slice content (rangeContextCounts stream slice windows.length) banks
    get
  let reader ← MonadExcept.ofExcept (start.valueOn {})
  SliceProgress.withReader reader (decodeRangeContent stream slice windows)

def decode (stream : StreamParameters) (allowReadAheadTrailingBytes : Bool)
    (slice : SliceDescriptor) (windows : List PlaneWindow) : Call SliceProgress Unit := do
  MonadExcept.ofExcept (validate stream slice windows)
  let progress ← get
  MonadExcept.ofExcept (validateStateLineGeometry windows progress.state)
  let content ← MonadExcept.ofExcept (resolveContentPayload stream slice)
  match stream.entropyMode with
  | .golombRice =>
    SliceProgress.withReader { data := content } (decodeGolombRiceSlice stream
      (golombRiceSetup stream slice windows.length allowReadAheadTrailingBytes) windows)
  | .range => decodeRange stream slice content windows

end SliceDecoder

end Mffv1
