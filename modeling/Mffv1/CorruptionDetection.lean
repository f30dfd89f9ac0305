import Mffv1.ConfigurationRecord
import Mffv1.VersionProbe
import Mffv1.SlicePayloadLocator
import Mffv1.Lib.ShiftRegister
import Mathlib.Tactic.IntervalCases

/-!
# Detection of corruption

The CRC is a shift register over the bits of a byte string, so that damage within
thirty-two consecutive bits changes it.
-/
namespace Mffv1

open ShiftRegister

/-- `bytes` with the bits of `pattern` inverted. -/
def corrupted (bytes pattern : Bytes) : Bytes := bytes.zipWith (· ^^^ ·) pattern

def crcRegister : BitVec 32 := crcPolynomial.toBitVec

theorem crcRegister_odd : crcRegister.getLsbD 0 = true := by decide

/-- The tested bit is the one that falls out. -/
theorem topBit_ne_zero (remainder : UInt32) :
    remainder &&& 0x80000000 ≠ 0 ↔ remainder.toBitVec.msb = true := by
  have hmask : (remainder &&& 0x80000000).toNat = (remainder.toNat.testBit 31).toNat * 2 ^ 31 :=
    Nat.and_two_pow remainder.toNat 31
  rw [BitVec.msb_eq_getLsbD_last, ne_eq, ← UInt32.toNat_inj, hmask]
  change ¬_ = 0 ↔ remainder.toNat.testBit 31 = true
  cases remainder.toNat.testBit 31 <;> simp

theorem crcShift_toBitVec (remainder : UInt32) :
    (crcShift remainder).toBitVec = shift crcRegister remainder.toBitVec := by
  unfold crcShift shift
  by_cases htop : remainder.toBitVec.msb = true
  · rw [if_pos ((topBit_ne_zero remainder).mpr htop), if_pos htop]
    rfl
  · rw [if_neg (mt (topBit_ne_zero remainder).mp htop), if_neg htop]
    rfl

theorem crcShifts_toBitVec (remainder : UInt32) (bits : Nat) :
    (crcShifts remainder bits).toBitVec = (shift crcRegister)^[bits] remainder.toBitVec := by
  induction bits generalizing remainder with
  | zero => rfl
  | succ bits ih => rw [crcShifts, ih, crcShift_toBitVec, Function.iterate_succ_apply]

theorem placed_byteBits (byte : UInt8) :
    placed 32 (BitString.byteBits byte) = (byte.toUInt32 <<< 24).toBitVec := by
  apply BitVec.eq_of_getMsbD_eq
  intro i hi
  have hword : (byte.toUInt32 <<< 24).toBitVec = byte.toBitVec.setWidth 32 <<< 24 := rfl
  have hmove : i + 24 + 8 - 32 = i := by omega
  rw [placed_getMsbD _ hi, hword, BitVec.getMsbD_shiftLeft, BitVec.getMsbD_setWidth, hmove,
    decide_eq_true (by omega), Bool.true_and]
  by_cases hbyte : i < 8
  · interval_cases i <;> rfl
  · rw [BitVec.getMsbD_of_ge _ _ (by omega), List.getD_eq_default _ _ (by simp; omega)]

/-- A byte is eight bits, the most significant first. -/
theorem crcByte_toBitVec (remainder : UInt32) (byte : UInt8) :
    (crcByte remainder byte).toBitVec =
      run crcRegister remainder.toBitVec (BitString.byteBits byte) := by
  rw [run_eq_iterate _ (by simp), placed_byteBits, crcByte, crcShifts_toBitVec]
  rfl

theorem crc32_toBitVec (bytes : Bytes) :
    (crc32IeeeMsb bytes).toBitVec = remainder crcRegister (BitString.bits bytes) := by
  have hfrom (start : UInt32) : (bytes.foldl crcByte start).toBitVec =
      run crcRegister start.toBitVec (BitString.bits bytes) := by
    induction bytes generalizing start with
    | nil => rfl
    | cons byte bytes ih =>
      rw [List.foldl_cons, ih, crcByte_toBitVec, BitString.bits_cons, run_append]
  exact hfrom 0

section Burst

variable {bytes pattern : Bytes}

theorem byteBits_xor (a b : UInt8) :
    BitString.byteBits (a ^^^ b) =
      (BitString.byteBits a).zipWith Bool.xor (BitString.byteBits b) := by
  simp only [BitString.byteBits, List.map_cons, List.map_nil, List.zipWith_cons_cons,
    List.zipWith_nil_left, UInt8.toNat_xor, Nat.testBit_xor]

theorem bits_corrupted (hlen : bytes.length = pattern.length) :
    BitString.bits (corrupted bytes pattern) =
      (BitString.bits bytes).zipWith Bool.xor (BitString.bits pattern) := by
  induction bytes generalizing pattern with
  | nil =>
    rw [List.length_eq_zero_iff.mp hlen.symm]
    rfl
  | cons byte bytes ih =>
    cases pattern with
    | nil => cases hlen
    | cons change pattern =>
      have hrest : bytes.length = pattern.length := by simpa using hlen
      have hcons : corrupted (byte :: bytes) (change :: pattern) =
          (byte ^^^ change) :: corrupted bytes pattern := rfl
      rw [hcons, BitString.bits_cons, ih hrest, byteBits_xor, BitString.bits_cons,
        BitString.bits_cons, List.zipWith_append (by simp)]

theorem corrupted_length (hlen : bytes.length = pattern.length) :
    (corrupted bytes pattern).length = bytes.length := by
  rw [corrupted, List.length_zipWith]
  omega

/-- A burst changes a remainder of zero. -/
theorem crc32_corrupted (hlen : bytes.length = pattern.length)
    (hburst : Burst 32 (BitString.bits pattern)) (hzero : crc32IeeeMsb bytes = 0) :
    crc32IeeeMsb (corrupted bytes pattern) ≠ 0 := by
  intro h
  have hbits : (BitString.bits bytes).length = (BitString.bits pattern).length := by
    rw [BitString.bits_length, BitString.bits_length, hlen]
  have hvalid : remainder crcRegister (BitString.bits bytes) = 0#32 := by
    rw [← crc32_toBitVec, hzero]
    rfl
  have hchanged : remainder crcRegister (BitString.bits (corrupted bytes pattern)) = 0#32 := by
    rw [← crc32_toBitVec, h]
    rfl
  rw [bits_corrupted hlen, remainder_xor crcRegister hbits, hvalid, BitVec.zero_xor] at hchanged
  exact remainder_burst_ne_zero crcRegister crcRegister_odd hburst hchanged

end Burst

namespace SliceFooterParser

/-- The descriptor is the object of the call. -/
def readFromEnd (slicePayload : Bytes) (stream : StreamParameters) (verifyCrc : Bool) :
    Call SliceDescriptor Unit := do
  let descriptor ← get
  let requiredFooterSize := footerSize stream
  failIf (slicePayload.length < requiredFooterSize) (makeByteError .syntaxError
    "slice payload is too small to contain a footer" descriptor.payloadByteOffset)
  let footerOffset := slicePayload.length - requiredFooterSize
  let footerByteOffset := descriptor.payloadByteOffset + footerOffset
  match (read stream { descriptor with footerByteOffset }).valueOn
      { data := slicePayload.drop footerOffset } with
  | .error status => throw (SlicePayloadLocator.footerError footerByteOffset status)
  | .ok next =>
    failIf (next.sliceSize + requiredFooterSize ≠ slicePayload.length)
      (makeByteError .syntaxError "slice footer size does not match slice payload size"
        next.footerByteOffset)
    failIf (verifyCrc = true ∧ next.hasCrc = true ∧ crc32IeeeMsb slicePayload ≠ 0)
      (makeByteError .crcMismatch "slice CRC remainder is non-zero" (next.footerByteOffset + 4))
    set next

end SliceFooterParser

section Slices

variable {stream : StreamParameters}

theorem readFooter_hasCrc {footer : Bytes} {descriptor next : SliceDescriptor}
    (hlen : footer.length = SliceFooterParser.footerSize stream)
    (h : (SliceFooterParser.read stream descriptor).valueOn { data := footer } = .ok next) :
    next.hasCrc = stream.errorStatusEnabled := by
  by_cases hsize : footerBodySize stream footer = none
  · rw [readFooter_none descriptor hlen hsize] at h
    cases h
  · rw [readFooter_some descriptor hlen hsize] at h
    rw [← Except.ok.inj h, withFooter_hasCrc]

/-- A refusal leaves the descriptor alone, and what is accepted checks to zero. -/
theorem readFromEnd_outcome (hec : stream.errorStatusEnabled = true) (slicePayload : Bytes)
    (descriptor : SliceDescriptor) :
    (∃ status, SliceFooterParser.readFromEnd slicePayload stream true descriptor =
        .error status descriptor) ∨
      crc32IeeeMsb slicePayload = 0 := by
  unfold SliceFooterParser.readFromEnd
  rw [Mirror.get_bind]
  by_cases hshort : slicePayload.length < SliceFooterParser.footerSize stream
  · exact .inl ⟨_, by rw [failIf_of hshort]; rfl⟩
  rw [failIf_of_not hshort, Mirror.pure_bind]
  have hfooter : (slicePayload.drop (slicePayload.length -
      SliceFooterParser.footerSize stream)).length = SliceFooterParser.footerSize stream := by
    rw [List.length_drop]
    omega
  cases hread : (SliceFooterParser.read stream { descriptor with
      footerByteOffset := descriptor.payloadByteOffset +
        (slicePayload.length - SliceFooterParser.footerSize stream) }).valueOn
      { data := slicePayload.drop (slicePayload.length - SliceFooterParser.footerSize stream) } with
  | error status => exact .inl ⟨_, rfl⟩
  | ok next =>
    have hcrc := readFooter_hasCrc hfooter hread
    by_cases hsize : next.sliceSize + SliceFooterParser.footerSize stream ≠ slicePayload.length
    · exact .inl ⟨_, by dsimp only; rw [failIf_of hsize]; rfl⟩
    · by_cases hzero : crc32IeeeMsb slicePayload = 0
      · exact .inr hzero
      · dsimp only
        rw [failIf_of_not hsize, Mirror.pure_bind,
          failIf_of ⟨rfl, hcrc.trans hec, hzero⟩]
        exact .inl ⟨_, rfl⟩

/-- A finished slice is accepted. -/
theorem readFromEnd_append {errorStatus : UInt8} {slicePayload block : Bytes}
    (h : SliceFooterWriter.append stream errorStatus slicePayload = .ok block)
    (descriptor : SliceDescriptor) :
    ∃ next, SliceFooterParser.readFromEnd block stream true descriptor = .ok () next := by
  obtain ⟨-, -, _, -, -, -, hparity⟩ := append_ok h
  obtain ⟨body, footer, hblock, hlen, hsize⟩ := append_isBlock h
  change footer.length = SliceFooterParser.footerSize stream at hlen
  change footerBodySize stream footer = some body.length at hsize
  have htotal : block.length = body.length + SliceFooterParser.footerSize stream := by
    rw [hblock, List.length_append, hlen]
  have hoffset : block.length - SliceFooterParser.footerSize stream = body.length := by omega
  have hdrop : block.drop body.length = footer := by rw [hblock, List.drop_left]
  unfold SliceFooterParser.readFromEnd
  rw [Mirror.get_bind, failIf_of_not (by omega), Mirror.pure_bind, hoffset, hdrop,
    readFooter_some _ hlen (by rw [hsize]; exact Option.some_ne_none _)]
  dsimp only
  rw [failIf_of_not, Mirror.pure_bind, failIf_of_not, Mirror.pure_bind]
  · exact ⟨_, rfl⟩
  · rintro ⟨-, hcrc, hne⟩
    rw [withFooter_hasCrc] at hcrc
    exact hne (hparity hcrc).2
  · rw [withFooter_sliceSize, footerBodySize_some hsize, htotal]
    exact fun hne => hne rfl

/-- Damage within thirty-two consecutive bits of a slice is refused, and nothing is read
from it. -/
theorem corruptedSlice_detected (hec : stream.errorStatusEnabled = true) :
    (∀ (slicePayload pattern : Bytes) (descriptor next : SliceDescriptor),
      SliceFooterParser.readFromEnd slicePayload stream true descriptor = .ok () next →
      slicePayload.length = pattern.length → Burst 32 (BitString.bits pattern) →
      ∀ out : SliceDescriptor, ∃ status,
        SliceFooterParser.readFromEnd (corrupted slicePayload pattern) stream true out =
          .error status out) ∧
    ∀ (errorStatus : UInt8) (slicePayload block : Bytes) (descriptor : SliceDescriptor),
      SliceFooterWriter.append stream errorStatus slicePayload = .ok block →
      ∃ next, SliceFooterParser.readFromEnd block stream true descriptor = .ok () next := by
  constructor
  · intro slicePayload pattern descriptor next haccepted hlen hburst out
    have hzero : crc32IeeeMsb slicePayload = 0 := by
      obtain ⟨status, hrefused⟩ | hzero := readFromEnd_outcome hec slicePayload descriptor
      · rw [hrefused] at haccepted
        cases haccepted
      · exact hzero
    exact (readFromEnd_outcome hec _ out).resolve_right (crc32_corrupted hlen hburst hzero)
  · intro errorStatus slicePayload block descriptor happend
    exact readFromEnd_append happend descriptor

/-- A slice of three bytes with its footer. -/
def paritySlice : Bytes := [1, 2, 3, 0, 0, 3, 0, 208, 251, 133, 165]

/-- From the last bit of the third byte to the first bit of the status. -/
def parityDamage : Bytes := [0, 0, 1, 255, 0, 3, 128, 0, 0, 0, 0]

theorem parityDamage_burst : Burst 32 (BitString.bits parityDamage) :=
  Burst.of_clear 23 (by decide) (by decide) (by decide)

theorem corruptedSlice_detected_parity :
    ∃ status, SliceFooterParser.readFromEnd (corrupted paritySlice parityDamage)
      { errorStatusEnabled := true } true {} = .error status {} := by
  obtain ⟨hdetected, haccepted⟩ :=
    @corruptedSlice_detected { errorStatusEnabled := true } rfl
  obtain ⟨next, hnext⟩ := haccepted 0 [1, 2, 3] paritySlice {} (by decide +kernel)
  exact hdetected paritySlice parityDamage {} next hnext (by decide) parityDamage_burst {}

end Slices

namespace ConfigurationRecordParser

/-- The stream is the object of the call; it is assigned last. -/
def parseInto (record : Bytes) : Call StreamParameters Unit := do
  let stream ← MonadExcept.ofExcept (parse record)
  set stream

/-- The probe finds a version whose records carry no parity. -/
def ProbesLegacy (record : Bytes) : Prop :=
  (probeVersion record).valueOn {} = .ok 0 ∨ (probeVersion record).valueOn {} = .ok 1

/-- What is accepted is of a legacy version or checks to zero. -/
theorem parse_ok_crc {record : Bytes} {stream : StreamParameters}
    (h : parse record = .ok stream) : ProbesLegacy record ∨ crc32IeeeMsb record = 0 := by
  unfold parse at h
  simp only [except_bind_ok, exists_unit] at h
  obtain ⟨-, version, hprobe, payload, hpayload, hparse⟩ := h
  unfold parameterPayload at hpayload
  by_cases hlegacy : version < 3
  · rw [if_pos hlegacy] at hpayload
    obtain rfl := Except.ok.inj hpayload
    obtain rfl | rfl | rfl := parsePayload_version hprobe hparse
    · exact .inl (.inl hprobe)
    · exact .inl (.inr hprobe)
    · omega
  · rw [if_neg hlegacy] at hpayload
    simp only [except_bind_ok, exists_unit, failIf_ok_iff] at hpayload
    exact .inr (not_not.mp hpayload.2.1)

theorem parseInto_outcome (record : Bytes) (out : StreamParameters) :
    (∃ status, parseInto record out = .error status out) ∨
      ProbesLegacy record ∨ crc32IeeeMsb record = 0 := by
  cases hparse : parse record with
  | error status =>
    unfold parseInto
    rw [hparse]
    exact .inl ⟨status, rfl⟩
  | ok stream => exact .inr (parse_ok_crc hparse)

end ConfigurationRecordParser

open ConfigurationRecordParser (parseInto ProbesLegacy)

section Records

variable {stream : StreamParameters} {record pattern : Bytes}

theorem write_crc (h : ConfigurationRecordWriter.write stream = .ok record) :
    crc32IeeeMsb record = 0 := by
  obtain ⟨-, start, written, -, -, rfl⟩ := write_ok h
  exact crc32_append_remainder _

/-- The version lies in the first two bytes. -/
theorem versionEncoder_digits : (versionEncoder 1).interval.digits = 2 := by decide +kernel

theorem corrupted_prefixValue (hlen : record.length = pattern.length)
    (hmarker : pattern.take 2 = [0, 0]) :
    ByteValue.prefixValue (corrupted record pattern) 2 = ByteValue.prefixValue record 2 := by
  obtain ⟨rest, rfl⟩ : ∃ rest, pattern = 0 :: 0 :: rest :=
    ⟨pattern.drop 2, by rw [← List.take_append_drop 2 pattern, hmarker]; rfl⟩
  obtain _ | ⟨first, _ | ⟨second, bytes⟩⟩ := record
  · cases hlen
  · cases Nat.succ.inj hlen
  · refine ByteValue.prefixValue_congr fun i hi => ?_
    obtain rfl | rfl : i = 0 ∨ i = 1 := by omega
    · exact UInt8.xor_zero
    · exact UInt8.xor_zero

/-- Damage behind the first two bytes leaves the version as it was. -/
theorem probeVersion_corrupted (hwrite : ConfigurationRecordWriter.write stream = .ok record)
    (hlen : record.length = pattern.length) (hmarker : pattern.take 2 = [0, 0]) :
    (ConfigurationRecordParser.probeVersion (corrupted record pattern)).valueOn {} = .ok 3 := by
  obtain ⟨hs, start, written, hstart, hparameters, rfl⟩ := write_ok hwrite
  have hready := (parameters_narrow hs [] start () written (RangeEncoder.reset_ready hstart)
    hparameters).1
  have hfits : (versionEncoder 1).Fits _ := written_fits_probe hs hstart hparameters
    (finalize_fits hready (bigEndian32 (crc32IeeeMsb written.lowBytes)))
  refine probeVersion_of_fits ?_ ?_
  · unfold RangeEncoder.Fits RangeCoding.Interval.Holds at hfits ⊢
    rw [versionEncoder_digits, expansion_head] at hfits ⊢
    rwa [corrupted_prefixValue hlen hmarker]
  · rw [corrupted_length hlen, List.length_append, bigEndian32_length]
    omega

/-- Damage within thirty-two consecutive bits of a record is refused, and nothing is read
from it, unless it turns the version into one without parity, for which it has to reach the
first two bytes. -/
theorem corruptedRecord_detected (hwrite : ConfigurationRecordWriter.write stream = .ok record)
    (hlen : record.length = pattern.length) (hburst : Burst 32 (BitString.bits pattern))
    (out : StreamParameters) :
    (¬ProbesLegacy (corrupted record pattern) →
        ∃ status, parseInto (corrupted record pattern) out = .error status out) ∧
      (pattern.take 2 = [0, 0] →
        ¬ProbesLegacy (corrupted record pattern) ∧
          ∃ status, parseInto (corrupted record pattern) out = .error status out) := by
  have hcrc := crc32_corrupted hlen hburst (write_crc hwrite)
  have hdetected (hprobe : ¬ProbesLegacy (corrupted record pattern)) :
      ∃ status, parseInto (corrupted record pattern) out = .error status out := by
    obtain h | h | h := ConfigurationRecordParser.parseInto_outcome (corrupted record pattern) out
    · exact h
    · exact absurd h hprobe
    · exact absurd h hcrc
  refine ⟨hdetected, fun hmarker => ?_⟩
  have hprobe : ¬ProbesLegacy (corrupted record pattern) := by
    unfold ProbesLegacy
    rw [probeVersion_corrupted hwrite hlen hmarker]
    decide
  exact ⟨hprobe, hdetected hprobe⟩

end Records

namespace ConfigurationRecordWriter

/-- A stream with one quantization table set of a single context. -/
def plainStream : StreamParameters :=
  { microVersion := 4, quantTableSets := [makeZeroQuantTableSet] }

def plainRecord : Bytes :=
  [86, 0, 51, 122, 9, 6, 12, 24, 48, 96, 193, 131, 3, 130, 149, 19, 89, 12]

theorem plainStream_transition : hasCustomStateTransition plainStream = false := by
  have hdefault : plainStream.stateTransition = defaultStateTransition := rfl
  unfold hasCustomStateTransition
  rw [hdefault]
  simp

theorem write_plainStream : write plainStream = .ok plainRecord := by
  have hprofile : validateInitialProfile plainStream = .ok () := by decide +kernel
  have hsets : plainStream.quantTableSets = [makeZeroQuantTableSet] := rfl
  simp only [write, codedParameters, writeParameters, hprofile, writeParameterList, coderType,
    plainStream_transition, hsets, writeQuantTableSets, writeQuantTableSet_zero]
  decide +kernel

end ConfigurationRecordWriter

open ConfigurationRecordWriter (plainStream plainRecord write_plainStream)

/-- It hits the parity only. -/
def plainDamage : Bytes := [0, 0, 0, 0, 0, 0, 0, 0, 0, 0, 0, 0, 0, 0, 1, 255, 0, 128]

theorem corruptedRecord_detected_plain :
    ¬ProbesLegacy (corrupted plainRecord plainDamage) ∧
      ∃ status, parseInto (corrupted plainRecord plainDamage) {} = .error status {} :=
  (corruptedRecord_detected write_plainStream (by decide)
    (Burst.of_clear 112 (by decide) (by decide) (by decide)) {}).2 (by decide)

/-- It makes a record of version 1. -/
def legacyDamage : Bytes := [87, 149, 66, 192, 0, 0, 0, 0, 0, 0, 0, 0, 0, 0, 0, 0, 0, 0]

theorem legacyDamage_burst : Burst 32 (BitString.bits legacyDamage) :=
  Burst.of_clear 0 (by decide) (by decide) (by decide)

/-- Four damaged bytes turn a record into the parameters of a legacy stream, which are
accepted without a look at the parity. -/
theorem legacyDamage_accepted :
    ¬∀ (stream : StreamParameters) (record pattern : Bytes),
      ConfigurationRecordWriter.write stream = .ok record → record.length = pattern.length →
      Burst 32 (BitString.bits pattern) → ∀ out : StreamParameters,
      ∃ status, parseInto (corrupted record pattern) out = .error status out := by
  intro h
  obtain ⟨status, herror⟩ := h plainStream plainRecord legacyDamage write_plainStream (by decide)
    legacyDamage_burst {}
  have haccepted : Mirror.succeeded
      (parseInto (corrupted plainRecord legacyDamage) {}) = true := by
    decide +kernel
  rw [herror] at haccepted
  cases haccepted

end Mffv1
