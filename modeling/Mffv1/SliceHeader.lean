import Mffv1.RangeCoder
import Mffv1.RangeEncoder
import Mffv1.SliceFooter

/-!
# Slice headers

A header gives the rectangle of a slice on the grid of the frame. The parser and
the writer share the check of the rectangle, which also places it in pixels.
-/
namespace Mffv1

structure SliceHeaderValues where
  x : UInt32 := 0
  y : UInt32 := 0
  width : UInt32 := 0
  height : UInt32 := 0
  quantTableSetIndexes : List Nat := []
  pictureStructure : Nat := 0
  sarNum : Nat := 0
  sarDen : Nat := 0
  deriving DecidableEq

namespace SliceHeaderParser

def uint32Max : Nat := 2 ^ 32 - 1

def validatePictureStructure (pictureStructure : Nat) : Status :=
  failIf (3 < pictureStructure) (makeError .syntaxError
    "slice header picture_structure is reserved")

/-- `make_byte_error(..., reader.byte_position())` -/
def failHereIf (condition : Prop) [Decidable condition] (message : String) :
    Call RangeCoder Unit := do
  let reader ← get
  failIf condition (makeByteError .syntaxError message reader.bytePosition)

def readPosition (count : UInt32) (message : String) : Call RangeCoder UInt32 := do
  let value ← RangeCoder.readUnsigned 0 0
  failHereIf (count.toNat < value ∨ uint32Max < value) message
  return value.toUInt32

def readExtent (message : String) : Call RangeCoder UInt32 := do
  let value ← RangeCoder.readUnsigned 0 0
  failHereIf (uint32Max ≤ value) message
  return (value + 1).toUInt32

def readQuantTableSetIndexes (stream : StreamParameters) : (count : Nat) →
    Call RangeCoder (List Nat)
  | 0 => return []
  | count + 1 => do
    let index ← RangeCoder.readUnsigned 0 0
    failHereIf (uint32Max < index) "quant_table_set_index is too large"
    failHereIf (stream.quantTableSets.length ≤ index)
      "slice header quantization table set index is out of range"
    let indexes ← readQuantTableSetIndexes stream count
    return index :: indexes

def read (stream : StreamParameters) : Call RangeCoder SliceHeaderValues := do
  let x ← readPosition stream.numHSlices "slice_x is outside the slice raster"
  let y ← readPosition stream.numVSlices "slice_y is outside the slice raster"
  let width ← readExtent "slice_width_minus_one is too large"
  let height ← readExtent "slice_height_minus_one is too large"
  failHereIf (stream.numHSlices - x < width ∨ stream.numVSlices - y < height)
    "slice header rectangle is outside the slice raster"
  let quantTableSetIndexes ← readQuantTableSetIndexes stream stream.quantTableSetIndexCount
  let pictureStructure ← RangeCoder.readUnsigned 0 0
  failHereIf (3 < pictureStructure) "slice header picture_structure is reserved"
  let sarNum ← RangeCoder.readUnsigned 0 0
  let sarDen ← RangeCoder.readUnsigned 0 0
  if sarNum = 0 ∨ sarDen = 0 then
    return { x, y, width, height, quantTableSetIndexes, pictureStructure, sarNum := 0, sarDen := 0 }
  else
    return { x, y, width, height, quantTableSetIndexes, pictureStructure, sarNum, sarDen }

def applyRaster (stream : StreamParameters) (values : SliceHeaderValues)
    (descriptor : SliceDescriptor) : Except Error SliceDescriptor := do
  failIf (values.width = 0 ∨ values.height = 0) (makeError .syntaxError
    "slice header dimensions must be non-zero")
  failIf (stream.numHSlices < values.x ∨ stream.numVSlices < values.y ∨
      stream.numHSlices - values.x < values.width ∨
      stream.numVSlices - values.y < values.height) (makeError .syntaxError
    "slice header rectangle is outside the slice raster")
  failIf (values.quantTableSetIndexes = []) (makeError .syntaxError
    "slice header has no quantization table set indexes")
  failIf (∃ index ∈ values.quantTableSetIndexes, stream.quantTableSets.length ≤ index)
    (makeError .syntaxError "slice header quantization table set index is out of range")
  validatePictureStructure values.pictureStructure
  return { descriptor with
    x := stream.slicePixelX values.x
    y := stream.slicePixelY values.y
    width := stream.slicePixelWidth values.x values.width
    height := stream.slicePixelHeight values.y values.height
    rasterX := values.x
    rasterY := values.y
    rasterWidth := values.width
    rasterHeight := values.height
    quantTableSetIndexes := values.quantTableSetIndexes
    pictureStructure := values.pictureStructure
    sarNum := values.sarNum
    sarDen := values.sarDen }

def readDescriptor (stream : StreamParameters) (descriptor : SliceDescriptor) :
    Call RangeCoder SliceDescriptor := do
  let reader ← get
  let values ← read stream
  match applyRaster stream values descriptor with
  | .error status => throw status
  | .ok descriptor =>
    let after ← get
    return { descriptor with
      headerByteOffset := reader.bytePosition
      contentByteOffset := after.bytePosition
      payloadByteOffset := reader.bytePosition }

end SliceHeaderParser

namespace SliceHeaderWriter

def writeQuantTableSetIndexes : List Nat → Call RangeEncoder Unit
  | [] => return ()
  | index :: indexes => do
    RangeEncoder.writeUnsigned 0 0 index
    writeQuantTableSetIndexes indexes

def writeValues (values : SliceHeaderValues) : Call RangeEncoder Unit := do
  RangeEncoder.writeUnsigned 0 0 values.x.toNat
  RangeEncoder.writeUnsigned 0 0 values.y.toNat
  RangeEncoder.writeUnsigned 0 0 (values.width - 1).toNat
  RangeEncoder.writeUnsigned 0 0 (values.height - 1).toNat
  writeQuantTableSetIndexes values.quantTableSetIndexes
  RangeEncoder.writeUnsigned 0 0 values.pictureStructure
  RangeEncoder.writeUnsigned 0 0 values.sarNum
  RangeEncoder.writeUnsigned 0 0 values.sarDen

def write (stream : StreamParameters) (values : SliceHeaderValues) : Call RangeEncoder Unit := do
  match SliceHeaderParser.applyRaster stream values {} with
  | .error status => throw status
  | .ok _ =>
    failIf (values.quantTableSetIndexes.length ≠ stream.quantTableSetIndexCount)
      (makeError .invalidArgument
        "slice header quantization table index count does not match the stream")
    failIf (¬(values.sarNum = 0 ↔ values.sarDen = 0)) (makeError .invalidArgument
      "slice header sample aspect ratio must be fully specified or absent")
    writeValues values

end SliceHeaderWriter

/-- A descriptor whose rectangle is what its raster rectangle says. -/
structure Placed (stream : StreamParameters) (slice : SliceDescriptor) : Prop where
  raster_width : slice.rasterWidth ≠ 0
  raster_height : slice.rasterHeight ≠ 0
  x_le : slice.rasterX.toNat + slice.rasterWidth.toNat ≤ stream.numHSlices.toNat
  y_le : slice.rasterY.toNat + slice.rasterHeight.toNat ≤ stream.numVSlices.toNat
  x : slice.x = stream.slicePixelX slice.rasterX
  y : slice.y = stream.slicePixelY slice.rasterY
  width : slice.width = stream.slicePixelWidth slice.rasterX slice.rasterWidth
  height : slice.height = stream.slicePixelHeight slice.rasterY slice.rasterHeight
  indexes_ne : slice.quantTableSetIndexes ≠ []
  indexes_lt : ∀ index ∈ slice.quantTableSetIndexes, index < stream.quantTableSets.length

theorem add_le_of_not_sub_lt {total position extent : UInt32} (hposition : ¬total < position)
    (hextent : ¬total - position < extent) : position.toNat + extent.toNat ≤ total.toNat := by
  rw [UInt32.lt_iff_toNat_lt] at hposition
  rw [UInt32.lt_iff_toNat_lt, UInt32.toNat_sub_of_le _ _ (UInt32.le_iff_toNat_le.mpr (by omega))]
    at hextent
  omega

theorem applyRaster_placed {stream : StreamParameters} {values : SliceHeaderValues}
    {descriptor slice : SliceDescriptor}
    (h : SliceHeaderParser.applyRaster stream values descriptor = .ok slice) :
    Placed stream slice := by
  simp only [SliceHeaderParser.applyRaster, SliceHeaderParser.validatePictureStructure,
    except_bind_ok, exists_unit, failIf_ok_iff] at h
  obtain ⟨hdims, hrect, hne, hindexes, -, hslice⟩ := h
  obtain rfl := Except.ok.inj hslice
  exact ⟨fun h => hdims (.inl h), fun h => hdims (.inr h),
    add_le_of_not_sub_lt (fun h => hrect (.inl h)) (fun h => hrect (.inr (.inr (.inl h)))),
    add_le_of_not_sub_lt (fun h => hrect (.inr (.inl h))) (fun h => hrect (.inr (.inr (.inr h)))),
    rfl, rfl, rfl, rfl, hne, fun index hindex =>
      Nat.lt_of_not_le fun hle => hindexes ⟨index, hindex, hle⟩⟩

end Mffv1
