import Mffv1.BitReader
import Mffv1.Crc32
import Mffv1.StreamParameters
import Mffv1.Lib.Framing

/-!
# Slice footers

A slice payload ends with the 24-bit size of what comes before and, when error
correction is on, an error status and CRC parity over the whole slice.
-/
namespace Mffv1

structure SliceDescriptor where
  index : Nat := 0
  x : UInt32 := 0
  y : UInt32 := 0
  width : UInt32 := 0
  height : UInt32 := 0
  rasterX : UInt32 := 0
  rasterY : UInt32 := 0
  rasterWidth : UInt32 := 0
  rasterHeight : UInt32 := 0
  payload : Bytes := []
  headerByteOffset : Nat := 0
  contentByteOffset : Nat := 0
  contentBitOffset : Nat := 0
  payloadByteOffset : Nat := 0
  footerByteOffset : Nat := 0
  sliceSize : Nat := 0
  quantTableSetIndexes : List Nat := []
  pictureStructure : Nat := 0
  sarNum : Nat := 0
  sarDen : Nat := 0
  errorStatus : Nat := 0
  expectedCrc : Nat := 0
  hasCrc : Bool := false
  continuesFrameRangeState : Bool := false
  usesLegacyV0Arithmetic : Bool := false
  deriving DecidableEq

namespace SliceFooterParser

def footerSize (stream : StreamParameters) : Nat := if stream.errorStatusEnabled then 8 else 3

/-- A read whose error is located where the read began, unless it has a location. -/
def locatedHere {α : Type} (call : Call BitReader α) : Call BitReader α := do
  let reader ← get
  EStateM.adaptExcept (setByteLocationIfMissing · reader.bytePosition) call

def read (stream : StreamParameters) (descriptor : SliceDescriptor) :
    Call BitReader SliceDescriptor := do
  locatedHere BitReader.requireByteAligned
  let sliceSize ← locatedHere (BitReader.readBits 24)
  if stream.errorStatusEnabled = false then
    return { descriptor with sliceSize, errorStatus := 0, expectedCrc := 0, hasCrc := false }
  else
    let reader ← get
    let errorStatus ← locatedHere (BitReader.readBits 8)
    failIf (2 < errorStatus) (makeByteError .syntaxError "slice footer error_status is reserved"
      reader.bytePosition)
    let expectedCrc ← locatedHere (BitReader.readBits 32)
    return { descriptor with sliceSize, errorStatus, expectedCrc, hasCrc := true }

end SliceFooterParser

namespace SliceFooterWriter

def maximumSliceSize : Nat := 0x00ffffff

/-- The three bytes of a slice size, most significant first. -/
def bigEndian24 (size : Nat) : Bytes :=
  [(size / 2 ^ 16).toUInt8, (size / 2 ^ 8).toUInt8, size.toUInt8]

def append (stream : StreamParameters) (errorStatus : UInt8) (slicePayload : Bytes) :
    Except Error Bytes := do
  failIf (stream.errorStatusEnabled = false ∧ errorStatus ≠ 0) (makeError .invalidArgument
    "slice error status requires EC to be enabled")
  failIf (2 < errorStatus) (makeError .invalidArgument
    "slice error status uses a reserved value")
  failIf (maximumSliceSize < slicePayload.length) (makeError .resourceExhausted
    "slice payload exceeds the 24-bit slice size limit")
  let completed := slicePayload ++ bigEndian24 slicePayload.length
  if stream.errorStatusEnabled then
    let completed := completed ++ [errorStatus]
    return completed ++ bigEndian32 (crc32IeeeMsb completed)
  else return completed

end SliceFooterWriter

section Footer

variable (stream : StreamParameters)

/-- The size in a footer; there is none when the error status is reserved. -/
def footerBodySize (footer : Bytes) : Option Nat :=
  if stream.errorStatusEnabled ∧ 2 < (footer.getD 3 0).toNat then none
  else some (ByteValue.value (footer.take 3))

theorem footerSize_pos : 0 < SliceFooterParser.footerSize stream := by
  unfold SliceFooterParser.footerSize
  split <;> omega

/-- The frames that slice footers delimit. -/
def sliceFraming : Framing UInt8 where
  trailer := SliceFooterParser.footerSize stream
  trailer_pos := footerSize_pos stream
  bodySize := footerBodySize stream

/-- `descriptor` with what a footer says. -/
def SliceDescriptor.withFooter (descriptor : SliceDescriptor) (footer : Bytes) : SliceDescriptor :=
  if stream.errorStatusEnabled then
    { descriptor with
      sliceSize := ByteValue.value (footer.take 3)
      errorStatus := (footer.getD 3 0).toNat
      expectedCrc := ByteValue.value (footer.drop 4)
      hasCrc := true }
  else
    { descriptor with
      sliceSize := ByteValue.value (footer.take 3)
      errorStatus := 0
      expectedCrc := 0
      hasCrc := false }

@[simp] theorem withFooter_sliceSize (descriptor : SliceDescriptor) (footer : Bytes) :
    (descriptor.withFooter stream footer).sliceSize = ByteValue.value (footer.take 3) := by
  unfold SliceDescriptor.withFooter
  split <;> rfl

@[simp] theorem withFooter_hasCrc (descriptor : SliceDescriptor) (footer : Bytes) :
    (descriptor.withFooter stream footer).hasCrc = stream.errorStatusEnabled := by
  unfold SliceDescriptor.withFooter
  cases stream.errorStatusEnabled <;> rfl

variable {stream}

theorem footerBodySize_some {footer : Bytes} {size : Nat}
    (h : footerBodySize stream footer = some size) : ByteValue.value (footer.take 3) = size := by
  unfold footerBodySize at h
  split at h
  · cases h
  · exact Option.some.inj h

theorem locatedHere_ok {α : Type} {call : Call BitReader α} {reader reader' : BitReader} {a : α}
    (h : call reader = .ok a reader') :
    SliceFooterParser.locatedHere call reader = .ok a reader' := by
  unfold SliceFooterParser.locatedHere
  rw [Mirror.get_bind]
  exact Mirror.adaptExcept_ok_iff.mpr h

theorem readFooter_aligned (footer : Bytes) :
    SliceFooterParser.locatedHere BitReader.requireByteAligned { data := footer } =
      .ok () { data := footer } :=
  locatedHere_ok (BitReader.requireByteAligned_eq (Nat.mul_zero 8).symm)

theorem readFooter_size {footer : Bytes} (hlen : 3 ≤ footer.length) :
    SliceFooterParser.locatedHere (BitReader.readBits 24) { data := footer } =
      .ok (ByteValue.value (footer.take 3)) { data := footer, bitPosition := 24 } := by
  have hread : BitReader.readBits (8 * 3) { data := footer } = _ :=
    BitReader.readBits_bytes (by omega) (Nat.mul_zero 8).symm (by simpa using hlen)
  exact locatedHere_ok hread

theorem readFooter_status {footer : Bytes} (hlen : footer.length = 8) :
    SliceFooterParser.locatedHere (BitReader.readBits 8) { data := footer, bitPosition := 24 } =
      .ok (footer.getD 3 0).toNat { data := footer, bitPosition := 32 } := by
  have hread : BitReader.readBits (8 * 1) { data := footer, bitPosition := 24 } = _ :=
    BitReader.readBits_bytes (by omega) (show 24 = 8 * 3 by rfl) (by simp [hlen])
  rw [ByteValue.value_singleton_at (show 3 < footer.length by omega)] at hread
  exact locatedHere_ok hread

theorem readFooter_crc {footer : Bytes} (hlen : footer.length = 8) :
    SliceFooterParser.locatedHere (BitReader.readBits 32) { data := footer, bitPosition := 32 } =
      .ok (ByteValue.value (footer.drop 4)) { data := footer, bitPosition := 64 } := by
  have hread : BitReader.readBits (8 * 4) { data := footer, bitPosition := 32 } = _ :=
    BitReader.readBits_bytes (by omega) (show 32 = 8 * 4 by rfl) (by simp [hlen])
  rw [List.take_of_length_le (by simp [hlen])] at hread
  exact locatedHere_ok hread

/-- A footer is read as what it says. -/
theorem readFooter_some {footer : Bytes} (descriptor : SliceDescriptor)
    (hlen : footer.length = SliceFooterParser.footerSize stream)
    (hsize : footerBodySize stream footer ≠ none) :
    (SliceFooterParser.read stream descriptor).valueOn { data := footer } =
      .ok (descriptor.withFooter stream footer) := by
  unfold SliceFooterParser.footerSize at hlen
  unfold Call.valueOn SliceFooterParser.read SliceDescriptor.withFooter
  cases hec : stream.errorStatusEnabled with
  | false =>
    have hlen₃ : footer.length = 3 := by simpa [hec] using hlen
    rw [Mirror.bind_ok (readFooter_aligned footer), Mirror.bind_ok (readFooter_size hlen₃.ge)]
    rfl
  | true =>
    have hlen₈ : footer.length = 8 := by simpa [hec] using hlen
    have hstatus : ¬2 < (footer.getD 3 0).toNat := by
      simpa [footerBodySize, hec] using hsize
    rw [Mirror.bind_ok (readFooter_aligned footer), Mirror.bind_ok (readFooter_size (by omega))]
    simp only [Bool.true_eq_false, if_false, if_true, Mirror.get_bind]
    rw [Mirror.bind_ok (readFooter_status hlen₈), failIf_of_not hstatus, pure_bind,
      Mirror.bind_ok (readFooter_crc hlen₈)]
    rfl

theorem readFooter_none {footer : Bytes} (descriptor : SliceDescriptor)
    (hlen : footer.length = SliceFooterParser.footerSize stream)
    (hsize : footerBodySize stream footer = none) :
    (SliceFooterParser.read stream descriptor).valueOn { data := footer } =
      .error (makeByteError .syntaxError "slice footer error_status is reserved" 3) := by
  have hreserved : stream.errorStatusEnabled = true ∧ 2 < (footer.getD 3 0).toNat := by
    unfold footerBodySize at hsize
    split at hsize
    · assumption
    · cases hsize
  obtain ⟨hec, hstatus⟩ := hreserved
  have hlen₈ : footer.length = 8 := by simpa [SliceFooterParser.footerSize, hec] using hlen
  unfold Call.valueOn SliceFooterParser.read
  rw [Mirror.bind_ok (readFooter_aligned footer), Mirror.bind_ok (readFooter_size (by omega))]
  simp only [hec, Bool.true_eq_false, if_false, Mirror.get_bind]
  rw [Mirror.bind_ok (readFooter_status hlen₈), failIf_of hstatus,
    Mirror.bind_error (Mirror.throw_apply _ _)]
  simp [BitReader.bytePosition]

open SliceFooterWriter (bigEndian24)

theorem value_bigEndian24 {size : Nat} (h : size ≤ SliceFooterWriter.maximumSliceSize) :
    ByteValue.value (bigEndian24 size) = size := by
  unfold SliceFooterWriter.maximumSliceSize at h
  simp only [bigEndian24, ByteValue.value_cons, ByteValue.value_nil, List.length_cons,
    List.length_nil, Nat.toUInt8_eq, UInt8.toNat_ofNat']
  omega

/-- What a successful append returns: the payload, its size and, with error correction,
the status and the parity of everything before. -/
theorem append_ok {errorStatus : UInt8} {slicePayload block : Bytes}
    (h : SliceFooterWriter.append stream errorStatus slicePayload = .ok block) :
    slicePayload.length ≤ SliceFooterWriter.maximumSliceSize ∧ errorStatus.toNat ≤ 2 ∧
      ∃ footer, block = slicePayload ++ footer ∧
        footer.length = SliceFooterParser.footerSize stream ∧
        footer.take 3 = bigEndian24 slicePayload.length ∧
        (stream.errorStatusEnabled = true →
          footer.getD 3 0 = errorStatus ∧ crc32IeeeMsb block = 0) := by
  simp only [SliceFooterWriter.append, except_bind_ok, exists_unit, failIf_ok_iff] at h
  obtain ⟨_, hstatus, hsize, hblock⟩ := h
  have hstatus' : errorStatus.toNat ≤ 2 :=
    Nat.le_of_not_lt fun hlt => hstatus (UInt8.lt_iff_toNat_lt.mpr hlt)
  refine ⟨Nat.le_of_not_lt hsize, hstatus', ?_⟩
  cases hec : stream.errorStatusEnabled with
  | false =>
    rw [hec] at hblock
    refine ⟨_, (Except.ok.inj hblock).symm, ?_, rfl, fun henabled => ?_⟩
    · simp [SliceFooterParser.footerSize, hec, bigEndian24]
    · cases henabled
  | true =>
    rw [hec] at hblock
    obtain ⟨coded, hcoded⟩ : ∃ coded, coded =
      slicePayload ++ bigEndian24 slicePayload.length ++ [errorStatus] := ⟨_, rfl⟩
    have heq : coded ++ bigEndian32 (crc32IeeeMsb coded) = block :=
      hcoded ▸ Except.ok.inj hblock
    refine ⟨bigEndian24 slicePayload.length ++ errorStatus :: bigEndian32 (crc32IeeeMsb coded),
      ?_, ?_, rfl, fun _ => ⟨rfl, heq ▸ crc32_append_remainder coded⟩⟩
    · rw [← heq]
      nth_rewrite 1 [hcoded]
      simp only [List.append_assoc, List.singleton_append]
    · simp [SliceFooterParser.footerSize, hec, bigEndian24]

theorem append_isBlock {errorStatus : UInt8} {slicePayload block : Bytes}
    (h : SliceFooterWriter.append stream errorStatus slicePayload = .ok block) :
    (sliceFraming stream).IsBlock block := by
  obtain ⟨hsize, hstatus, footer, hblock, hlen, htake, hrest⟩ := append_ok h
  refine ⟨slicePayload, footer, hblock, hlen, ?_⟩
  change footerBodySize stream footer = _
  unfold footerBodySize
  rw [if_neg, htake, value_bigEndian24 hsize]
  rintro ⟨hec, hlt⟩
  rw [(hrest hec).1] at hlt
  omega

end Footer

end Mffv1
