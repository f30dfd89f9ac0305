import Mffv1.CellWindows
import Mffv1.ConfigurationRoundTrip
import Mffv1.ContentRoundTrip
import Mffv1.LegacyCarry

/-!
# Keyframes of the first versions

A keyframe of version 0 or 1 repeats the parameters of its stream behind the keyframe flag, in
a context of their own. The samples of its single slice follow in the same range code, plane
by plane, or row by row where the chroma planes have full resolution.
-/
namespace Mffv1

namespace LegacyKeyframe

open ConfigurationRecordWriter (writeU writeB coderType hasCustomStateTransition
  writeStateTransitions writeQuantTableSets)

def writePlanes (stream : StreamParameters) : Call RangeEncoder Unit := do
  writeB stream.chromaPlanes
  writeU stream.log2HChromaSubsample.toNat
  writeU stream.log2VChromaSubsample.toNat
  writeB stream.extraPlane

/-- `Parameters()` of a range-coded stream: version 0 has no bit depth. -/
def writeParameters (stream : StreamParameters) : Call RangeEncoder Unit := do
  writeU stream.version.toNat
  writeU (coderType stream)
  (if hasCustomStateTransition stream then writeStateTransitions stream.stateTransition 255 1
    else return ())
  writeU stream.colorspaceType.toNat
  (if stream.version < 1 then return () else writeU stream.bitsPerRawSample.toNat)
  writePlanes stream
  writeQuantTableSets stream.quantTableSets

def writeHeader (stream : StreamParameters) : Call RangeEncoder Unit := do
  RangeEncoder.resetSingle defaultStateTransition
  RangeEncoder.writeBool true
  RangeEncoder.reconfigureContexts [1] []
  writeParameters stream

/-- Every plane has a bank of its own. -/
def contextCounts (stream : StreamParameters) : List Nat :=
  List.replicate stream.codedPlaneCount (stream.quantTableSets.getD 0 {}).contextCount.toNat

/-- The encoder in front of the samples, with the contexts of the stream. -/
def start (stream : StreamParameters) : Except Error RangeEncoder :=
  (do
    writeHeader stream
    RangeEncoder.reconfigureContexts (contextCounts stream)
      (List.replicate stream.codedPlaneCount [])
    get : Call RangeEncoder RangeEncoder).valueOn {}

section Samples

variable {W : Type} [SymbolSink W] (stream : StreamParameters) (memory : FrameMemory)
  (windows : List PlaneWindow)

def encodeInterleavedRow (y planeIndex : Nat) : Call (Encoding W) Unit :=
  if (planeWindow windows planeIndex).height.toNat ≤ y then pure ()
  else encodePlaneRow stream memory windows planeIndex y

def encodeRowsInterleaved : Call (Encoding W) Unit :=
  Mirror.forLoop 0 (planeWindow windows 0).height.toNat fun y =>
    Mirror.forLoop 0 stream.codedPlaneCount (encodeInterleavedRow stream memory windows y)

/-- The samples in the order of the decoder. -/
def encodeSamples : Call (Encoding W) Unit :=
  if usesLegacyRangeYcbcrRowOrder stream then encodeRowsInterleaved stream memory windows
  else encodePlanes stream memory windows

end Samples

section Frames

variable (stream : StreamParameters) (input : FrameView) (memory : FrameMemory)

/-- The bytes of a keyframe, of which the range code is closed or not. -/
def encode (closeInterval : Bool) : Except Error Bytes := do
  let windows ← SliceInputWindow.validate stream input (cellSlice stream 0)
  let state ← ({} : SliceState).reset stream windows
  let writer ← start stream
  (do
    encodeSamples stream memory windows
    onWriter (RangeEncoder.finalizeImpl closeInterval) :
    Call (Encoding RangeEncoder) Bytes).valueOn { writer, state }

/-- The encoder behind the samples of a keyframe, with what its zeros carry. -/
def carrying : Except Error CarryingEncoder := do
  let windows ← SliceInputWindow.validate stream input (cellSlice stream 0)
  let state ← ({} : SliceState).reset stream windows
  let encoder ← start stream
  (do
    encodeSamples stream memory windows
    let encoding ← get
    return encoding.writer : Call (Encoding CarryingEncoder) CarryingEncoder).valueOn
    { writer := { encoder }, state }

end Frames

end LegacyKeyframe

/-- The range-coded streams of the first versions, in YCbCr and of one slice. The parameters of
a keyframe are coded by the default transition table, and its samples by that of the stream,
where an encoder has one table. -/
structure LegacyStream (stream : StreamParameters) : Prop where
  version : stream.version = 0 ∨ stream.version = 1
  microVersion : stream.microVersion = 0
  mode : stream.entropyMode = .range
  shape : FrameValidator.validateStreamShape stream = .ok ()
  colorspace : stream.colorspaceType = 0
  depth : stream.version = 0 → stream.bitsPerRawSample = 8
  columns : stream.numHSlices = 1
  rows : stream.numVSlices = 1
  sets : stream.quantTableSets.length = 1
  contexts : ∀ tableSet ∈ stream.quantTableSets,
    tableSet.contextCount.toNat ≤ ConfigurationParser.maxContextCount
  states : stream.initialStates = []
  table : stream.stateTransition = defaultStateTransition
  errorStatus : stream.errorStatusEnabled = false
  intra : stream.intraOnly = false

section Parameters

open ConfigurationRecordWriter (writeU)

variable {payload : Bytes} {base : List ContextStateBanks} {F : Prop} {stream : StreamParameters}

theorem LegacyStream.version_range (h : LegacyStream stream) :
    0 ≤ stream.version ∧ stream.version ≤ 1 := by
  rcases h.version with hzero | hone
  · omega
  · omega

theorem LegacyStream.supportedDepth (h : LegacyStream stream) :
    isSupportedBitDepth stream.bitsPerRawSample = true := by
  have hshape := h.shape
  simp only [FrameValidator.validateStreamShape, except_bind_ok, exists_unit, failIf_ok_iff]
    at hshape
  simpa using hshape.2.1

theorem legacyVersion_reads (h : LegacyStream stream) :
    Reads payload base F (writeU stream.version.toNat) ConfigurationParser.parseVersion
      (fun _ => { version := stream.version }) := by
  have hrange := h.version_range
  refine (writeU_reads _).bind_last fun _ => Reads.passes (by omega) ?_
  rw [if_pos (by omega)]
  refine Reads.pure ?_
  rw [Int.toNat_of_nonneg hrange.1]

theorem legacyCoderType_reads (read : StreamParameters) :
    Reads payload base F (writeU 1) (ConfigurationParser.parseCoderType read)
      (fun _ => ({ read with entropyMode := .range }, false)) :=
  (writeU_reads 1).bind_last fun _ => Reads.pure rfl

theorem legacyBitDepth_reads (h : LegacyStream stream) (read : StreamParameters)
    (hversion : read.version = stream.version) (hdepth : read.bitsPerRawSample = 8) :
    Reads payload base F
      (if stream.version < 1 then return () else writeU stream.bitsPerRawSample.toNat)
      (ConfigurationParser.parseBitDepth read)
      (fun _ => { read with bitsPerRawSample := stream.bitsPerRawSample }) := by
  by_cases hfirst : stream.version < 1
  · have hzero : stream.version = 0 := by
      have hrange := h.version_range
      omega
    unfold ConfigurationParser.parseBitDepth
    rw [if_pos hfirst, if_pos (hversion ▸ hfirst)]
    refine Reads.pure ?_
    rw [h.depth hzero, ← hdepth]
  · rw [if_neg hfirst]
    exact bitDepth_reads h.supportedDepth read (by omega)

theorem LegacyStream.not_custom (h : LegacyStream stream) :
    ConfigurationRecordWriter.hasCustomStateTransition stream = false := by
  unfold ConfigurationRecordWriter.hasCustomStateTransition
  rw [h.table, decide_eq_false (not_not.mpr rfl), Bool.and_false]

theorem LegacyStream.coderType (h : LegacyStream stream) :
    ConfigurationRecordWriter.coderType stream = 1 := by
  unfold ConfigurationRecordWriter.coderType
  rw [h.mode, h.not_custom]
  rfl

/-- The parser reads the parameters of a keyframe; the dimensions are not among them. -/
theorem legacyParameters_reads (h : LegacyStream stream) :
    Reads payload base F (LegacyKeyframe.writeParameters stream) ConfigurationParser.parse
      (fun _ => { stream with width := 0, height := 0 }) := by
  have hrange := h.version_range
  have hsets : Reads payload base F
      (ConfigurationRecordWriter.writeQuantTableSets stream.quantTableSets)
      (ConfigurationParser.parseQuantTableSets 1) (fun _ => stream.quantTableSets) := by
    have hread : Reads payload base F _ _ _ := quantTableSets_reads stream.quantTableSets
      fun tableSet hmem hlarge => absurd (h.contexts tableSet hmem) (Nat.not_le.mpr hlarge)
    rwa [h.sets] at hread
  have hgeometry : hasInvalidRgbGeometry (decide (stream.colorspaceType = 1)) stream.chromaPlanes
      stream.log2HChromaSubsample stream.log2VChromaSubsample = false := by
    rw [h.colorspace]
    rfl
  have hlegacy : stream.version < 3 := by omega
  have hcolor : isSupportedSyntaxColorspace stream.colorspaceType = true := by
    rw [h.colorspace]
    rfl
  unfold LegacyKeyframe.writeParameters ConfigurationParser.parse ConfigurationParser.parseParameters
  rw [h.coderType, h.not_custom]
  simp only [bind_assoc, Bool.false_eq_true, if_false, pure_bind]
  refine (legacyVersion_reads h).bind fun _ => (legacyCoderType_reads _).bind fun _ =>
    (colorspace_reads hcolor _).bind fun _ => (legacyBitDepth_reads h _ (by rfl) (by rfl)).bind fun _ =>
    (planes_reads hgeometry _ (by rfl)).bind fun _ => ?_
  unfold ConfigurationParser.parseSliceGrid
  simp only [if_pos hlegacy, pure_bind]
  refine hsets.bind_last fun _ => ?_
  unfold ConfigurationParser.parseVersion3Tail
  simp only [if_pos hlegacy, pure_bind, Bool.false_eq_true, if_false]
  refine Reads.pure ?_
  rw [h.microVersion, h.mode, h.columns, h.rows, h.states, h.table, h.errorStatus, h.intra]

end Parameters

end Mffv1
