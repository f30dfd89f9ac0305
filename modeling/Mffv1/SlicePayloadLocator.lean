import Mffv1.SliceFooter

/-!
# Locating slices

Slices are found from the end of the frame: every footer gives the size of its
slice, and with it the end of the slice before.
-/
namespace Mffv1

/-- A descriptor of known size with its payload. -/
def SliceDescriptor.locatedAt (descriptor : SliceDescriptor) (payloadByteOffset : Nat)
    (payload : Bytes) : SliceDescriptor :=
  { descriptor with
    payloadByteOffset
    payload
    footerByteOffset := payloadByteOffset + descriptor.sliceSize }

namespace SlicePayloadLocator

/-- `none` is a result whose `has_descriptor` is false. -/
structure TrailingSliceResult where
  status : Status
  descriptor : Option SliceDescriptor

/-- An error of the footer parser, whose offsets count from the footer. -/
def footerError (footerOffset : Nat) (status : Error) : Error :=
  match status.location.byteOffset with
  | some byteOffset =>
    { status with location := { status.location with byteOffset := some (byteOffset + footerOffset) } }
  | none => setByteLocationIfMissing status footerOffset

def locateTrailingSliceCandidate (framePayload : Bytes) (stream : StreamParameters)
    (verifyCrc : Bool) (seed : Option SliceDescriptor) : TrailingSliceResult :=
  let footerSize := SliceFooterParser.footerSize stream
  if framePayload.length < footerSize then
    { status := .error (makeByteError .syntaxError
        "frame payload is too small to contain a slice footer" 0)
      descriptor := none }
  else
    let footerOffset := framePayload.length - footerSize
    let next := { seed.getD {} with footerByteOffset := footerOffset }
    match (SliceFooterParser.read stream next).valueOn { data := framePayload.drop footerOffset } with
    | .error status => { status := .error (footerError footerOffset status), descriptor := none }
    | .ok next =>
      if framePayload.length - footerSize < next.sliceSize then
        { status := .error (makeByteError .syntaxError
            "slice footer size is larger than the frame payload" footerOffset)
          descriptor := none }
      else
        let totalSliceSize := next.sliceSize + footerSize
        let payloadByteOffset := framePayload.length - totalSliceSize
        let next := next.locatedAt payloadByteOffset
          ((framePayload.drop payloadByteOffset).take totalSliceSize)
        if verifyCrc ∧ next.hasCrc ∧ crc32IeeeMsb next.payload ≠ 0 then
          { status := .error (makeByteError .crcMismatch "slice CRC remainder is non-zero"
              (next.footerByteOffset + 4))
            descriptor := some next }
        else { status := .ok (), descriptor := some next }

/-- The number of slices in the first `remainingSize` bytes, unless there are more
than `limit` or they cannot be located. -/
def countPrecedingSlices (framePayload : Bytes) (stream : StreamParameters) :
    (limit remainingSize outCount : Nat) → Option Nat
  | 0, remainingSize, outCount => if remainingSize = 0 then some outCount else none
  | limit + 1, remainingSize, outCount =>
    if remainingSize = 0 then some outCount
    else
      let result := locateTrailingSliceCandidate (framePayload.take remainingSize) stream false none
      match result.status, result.descriptor with
      | .ok _, some descriptor =>
        countPrecedingSlices framePayload stream limit descriptor.payloadByteOffset (outCount + 1)
      | _, _ => none

/-- The error of a frame whose trailing slice is refused. -/
def locateError (framePayload : Bytes) (stream : StreamParameters) (remainingLimit : Nat)
    (status : Error) (descriptor : Option SliceDescriptor) : Error :=
  match status.code, descriptor with
  | .crcMismatch, some descriptor =>
    match countPrecedingSlices framePayload stream remainingLimit descriptor.payloadByteOffset 0 with
    | some precedingCount =>
      { status with location := { status.location with sliceIndex := some precedingCount } }
    | none => setSliceLocationIfMissing status 0
  | _, _ => setSliceLocationIfMissing status 0

/-- The slices of the first `remainingSize` bytes, the last one first; `remainingLimit`
is how many more may be found. -/
def locateLoop (framePayload : Bytes) (stream : StreamParameters) (verifyCrc : Bool) :
    (remainingLimit remainingSize : Nat) → (located : List SliceDescriptor) →
      Except Error (List SliceDescriptor)
  | 0, remainingSize, located =>
    if remainingSize = 0 then .ok located
    else .error (setSliceLocationIfMissing (makeByteError .syntaxError
      "frame contains more slices than raster cells" 0) 0)
  | remainingLimit + 1, remainingSize, located =>
    if remainingSize = 0 then .ok located
    else
      let result := locateTrailingSliceCandidate (framePayload.take remainingSize) stream
        verifyCrc none
      match result.status with
      | .error status =>
        .error (locateError framePayload stream remainingLimit status result.descriptor)
      | .ok _ =>
        let descriptor := result.descriptor.getD {}
        locateLoop framePayload stream verifyCrc remainingLimit descriptor.payloadByteOffset
          (located ++ [descriptor])

def locateSlices (framePayload : Bytes) (stream : StreamParameters) (maximumSliceCount : Nat)
    (verifyCrc : Bool) : Except Error (List SliceDescriptor) := do
  failIf (maximumSliceCount = 0) (makeError .invalidArgument
    "maximum slice count must be non-zero")
  failIf (2 ^ 32 - 1 < maximumSliceCount) (makeError .resourceExhausted
    "maximum slice count exceeds the supported index range")
  let located ← locateLoop framePayload stream verifyCrc maximumSliceCount framePayload.length []
  return located.reverse.mapIdx fun index descriptor => { descriptor with index }

end SlicePayloadLocator

open SlicePayloadLocator
open SliceFooterWriter (bigEndian24)

/-- A body with a footer that codes its size. -/
def IsSliceBlock (stream : StreamParameters) (block : Bytes) : Prop :=
  ∃ body : Bytes, body.length ≤ SliceFooterWriter.maximumSliceSize ∧
    if stream.errorStatusEnabled then
      ∃ (errorStatus : UInt8) (crc : Bytes), errorStatus.toNat ≤ 2 ∧ crc.length = 4 ∧
        block = body ++ bigEndian24 body.length ++ errorStatus :: crc
    else block = body ++ bigEndian24 body.length

/-- The parity over a whole block, where there is any. -/
def CrcValid (stream : StreamParameters) (block : Bytes) : Prop :=
  stream.errorStatusEnabled = true → crc32IeeeMsb block = 0

instance (stream : StreamParameters) (block : Bytes) : Decidable (CrcValid stream block) :=
  inferInstanceAs (Decidable (_ → _))

/-- The blocks of a frame, in order. -/
def ConcatenatesTo (stream : StreamParameters) (blocks : List Bytes) (framePayload : Bytes) : Prop :=
  blocks.flatten = framePayload ∧ ∀ block ∈ blocks, IsSliceBlock stream block

/-- The descriptor of a block that begins at `offset`. -/
def blockDescriptor (stream : StreamParameters) (offset : Nat) (block : Bytes) : SliceDescriptor :=
  let footer := block.drop (block.length - SliceFooterParser.footerSize stream)
  (SliceDescriptor.withFooter stream {} footer).locatedAt offset block

@[simp] theorem blockDescriptor_payload (stream : StreamParameters) (offset : Nat) (block : Bytes) :
    (blockDescriptor stream offset block).payload = block := rfl

@[simp] theorem blockDescriptor_payloadByteOffset (stream : StreamParameters) (offset : Nat)
    (block : Bytes) : (blockDescriptor stream offset block).payloadByteOffset = offset := rfl

@[simp] theorem blockDescriptor_hasCrc (stream : StreamParameters) (offset : Nat) (block : Bytes) :
    (blockDescriptor stream offset block).hasCrc = stream.errorStatusEnabled :=
  withFooter_hasCrc stream {} _

/-- The descriptors of contiguous blocks, numbered from `index` on. -/
def blockDescriptors (stream : StreamParameters) : (index offset : Nat) → List Bytes →
    List SliceDescriptor
  | _, _, [] => []
  | index, offset, block :: blocks =>
    { blockDescriptor stream offset block with index } ::
      blockDescriptors stream (index + 1) (offset + block.length) blocks

section Blocks

variable {stream : StreamParameters} {block : Bytes}

theorem bigEndian24_value {bytes : Bytes} (h : bytes.length = 3) :
    bigEndian24 (ByteValue.value bytes) = bytes := by
  have hlt := ByteValue.value_lt bytes
  rw [h] at hlt
  refine ByteValue.value_injective (by simp [bigEndian24, h]) (value_bigEndian24 ?_)
  unfold SliceFooterWriter.maximumSliceSize
  omega

theorem isSliceBlock_iff : IsSliceBlock stream block ↔ (sliceFraming stream).IsBlock block := by
  constructor
  · rintro ⟨body, hbody, hblock⟩
    have hvalue := value_bigEndian24 hbody
    cases hec : stream.errorStatusEnabled with
    | false =>
      simp only [hec, Bool.false_eq_true, if_false] at hblock
      refine ⟨body, bigEndian24 body.length, hblock, ?_, ?_⟩
      · simp [sliceFraming, SliceFooterParser.footerSize, hec, bigEndian24]
      · change footerBodySize stream _ = _
        rw [footerBodySize, if_neg (by simp [hec]), List.take_of_length_le (by simp [bigEndian24]),
          hvalue]
    | true =>
      simp only [hec, if_true] at hblock
      obtain ⟨errorStatus, crc, hstatus, hcrc, rfl⟩ := hblock
      refine ⟨body, bigEndian24 body.length ++ errorStatus :: crc, by simp, ?_, ?_⟩
      · simp [sliceFraming, SliceFooterParser.footerSize, hec, bigEndian24, hcrc]
      · change footerBodySize stream _ = _
        have hget : (bigEndian24 body.length ++ errorStatus :: crc).getD 3 0 = errorStatus := rfl
        rw [footerBodySize, if_neg (by rw [hget]; omega),
          List.take_left' (by simp [bigEndian24]), hvalue]
  · rintro ⟨body, footer, rfl, hlen, hsize⟩
    change footer.length = SliceFooterParser.footerSize stream at hlen
    change footerBodySize stream footer = _ at hsize
    unfold footerBodySize at hsize
    split at hsize
    · cases hsize
    · rename_i hstatus
      have hbody := Option.some.inj hsize
      have hlen₃ : (footer.take 3).length = 3 := by
        rw [List.length_take, hlen, SliceFooterParser.footerSize]
        split <;> rfl
      have htake : bigEndian24 body.length = footer.take 3 := by
        rw [← hbody, bigEndian24_value hlen₃]
      have hmax : body.length ≤ SliceFooterWriter.maximumSliceSize := by
        have hlt := ByteValue.value_lt (footer.take 3)
        rw [hlen₃, hbody] at hlt
        unfold SliceFooterWriter.maximumSliceSize
        omega
      refine ⟨body, hmax, ?_⟩
      cases hec : stream.errorStatusEnabled with
      | false =>
        have hfull : footer.length = 3 := by simpa [SliceFooterParser.footerSize, hec] using hlen
        simp only [Bool.false_eq_true, if_false]
        rw [htake, List.take_of_length_le hfull.le]
      | true =>
        have hfull : footer.length = 8 := by simpa [SliceFooterParser.footerSize, hec] using hlen
        simp only [if_true]
        refine ⟨footer.getD 3 0, footer.drop 4, by rw [hec] at hstatus; simpa using hstatus,
          by simp [hfull], ?_⟩
        rw [htake, List.append_assoc]
        congr 1
        rw [List.getD_eq_getElem _ _ (by omega), ← List.drop_eq_getElem_cons (by omega),
          List.take_append_drop]

theorem concatenatesTo_iff {blocks : List Bytes} {framePayload : Bytes} :
    ConcatenatesTo stream blocks framePayload ↔
      (sliceFraming stream).Decomposes framePayload blocks := by
  simp only [ConcatenatesTo, Framing.Decomposes, isSliceBlock_iff]

end Blocks

end Mffv1
