import Mffv1.BitReader

/-!
# The bit writer

Bits are put into the bytes most significant first; the bits of the last byte that
have not been written are zero.
-/
namespace Mffv1

structure BitWriter where
  bytes : Bytes := []
  bitPosition : Nat := 0
  finalized : Bool := false
  deriving DecidableEq

namespace BitWriter

def uint64Max : Nat := 2 ^ 64 - 1

/-- `bytes_.back() |= 1 << (7 - bitInByte)` -/
def setLastBit (bytes : Bytes) (bitInByte : Nat) : Bytes :=
  bytes.dropLast ++ [bytes.getLastD 0 ||| (1 <<< (7 - bitInByte)).toUInt8]

def writeBit (bit : Nat) : Call BitWriter Unit := do
  let writer ← get
  failIf (writer.finalized = true) (makeError .invalidState
    "cannot write to a finalized bitstream")
  failIf (1 < bit) (makeError .invalidArgument "bit value must be zero or one")
  failIf (writer.bitPosition = uint64Max) (makeError .resourceExhausted
    "bitstream position exceeds uint64_t")
  let bitInByte := writer.bitPosition % 8
  failIf (bitInByte = 0 ∧ writer.bytes.length = maxByteVectorSize) (makeError .resourceExhausted
    "bitstream exceeds vector capacity")
  let bytes := if bitInByte = 0 then writer.bytes ++ [0] else writer.bytes
  set { writer with
    bytes := if bit ≠ 0 then setLastBit bytes bitInByte else bytes
    bitPosition := writer.bitPosition + 1 }

/-- The `count` low bits of `value`, highest first. -/
def writeBitsLoop (value : Nat) : (count : Nat) → Call BitWriter Unit
  | 0 => return ()
  | count + 1 => do
    writeBit ((value >>> count) &&& 1)
    writeBitsLoop value count

def writeBits (value bitCount : Nat) : Call BitWriter Unit := do
  let writer ← get
  failIf (writer.finalized = true) (makeError .invalidState
    "cannot write to a finalized bitstream")
  failIf (64 < bitCount) (makeError .invalidArgument "cannot write more than 64 bits at once")
  failIf (bitCount < 64 ∧ 2 ^ bitCount ≤ value) (makeError .invalidArgument
    "value does not fit in the requested bit count")
  failIf (uint64Max - bitCount < writer.bitPosition) (makeError .resourceExhausted
    "bitstream position exceeds uint64_t")
  writeBitsLoop value bitCount

def byteAlignZero : Call BitWriter Unit := do
  let writer ← get
  failIf (writer.finalized = true) (makeError .invalidState "cannot align a finalized bitstream")
  let remainder := writer.bitPosition % 8
  if remainder = 0 then return () else writeBits 0 (8 - remainder)

def requireByteAligned : Call BitWriter Unit := do
  let writer ← get
  failIf (writer.bitPosition % 8 ≠ 0) (makeError .invalidState "bitstream is not byte aligned")

def finalize : Call BitWriter Bytes := do
  let writer ← get
  failIf (writer.finalized = true) (makeError .invalidState "bitstream is already finalized")
  requireByteAligned
  set { writer with finalized := true }
  return writer.bytes

/-- The writer has written `content` and nothing else. -/
structure Holds (writer : BitWriter) (content : List Bool) : Prop where
  position : writer.bitPosition = content.length
  bytes : BitString.bits writer.bytes =
    content ++ List.replicate (8 * writer.bytes.length - content.length) false
  length_lt : 8 * writer.bytes.length < content.length + 8

theorem holds_empty : Holds {} [] := ⟨rfl, rfl, by decide⟩

theorem Holds.length_le {writer : BitWriter} {content : List Bool} (h : writer.Holds content) :
    content.length ≤ 8 * writer.bytes.length := by
  have hlength := congrArg List.length h.bytes
  rw [BitString.bits_length, List.length_append] at hlength
  omega

theorem byteBits_or (byte : UInt8) {bitInByte : Nat} (h : bitInByte < 8) :
    BitString.byteBits (byte ||| (1 <<< (7 - bitInByte)).toUInt8) =
      (BitString.byteBits byte).set bitInByte true := by
  have hmask : ((1 <<< (7 - bitInByte)).toUInt8).toNat = 2 ^ (7 - bitInByte) := by
    rw [Nat.one_shiftLeft]
    exact Nat.mod_eq_of_lt (Nat.pow_lt_pow_right (by omega) (by omega))
  have hor (k : Nat) : (byte ||| (1 <<< (7 - bitInByte)).toUInt8).toNat.testBit k =
      (byte.toNat.testBit k || decide (7 - bitInByte = k)) := by
    rw [UInt8.toNat_or, Nat.testBit_or, hmask, Nat.testBit_two_pow]
  unfold BitString.byteBits
  simp only [List.map_cons, List.map_nil, hor]
  match bitInByte, h with
  | 0, _ | 1, _ | 2, _ | 3, _ | 4, _ | 5, _ | 6, _ | 7, _ => simp [List.set]

theorem bits_setLastBit {bytes : Bytes} {bitInByte : Nat} (hne : bytes ≠ []) (h : bitInByte < 8) :
    BitString.bits (setLastBit bytes bitInByte) =
      (BitString.bits bytes).set (8 * (bytes.length - 1) + bitInByte) true := by
  obtain ⟨init, last, rfl⟩ : ∃ init last, bytes = init ++ [last] :=
    ⟨_, _, (List.dropLast_concat_getLast hne).symm⟩
  rw [setLastBit, List.dropLast_concat, List.getLastD_concat, BitString.bits_append,
    BitString.bits_append, List.length_append, List.length_singleton, Nat.add_sub_cancel,
    List.set_append_right _ _ (by simp), BitString.bits_length, Nat.add_sub_cancel_left]
  simp only [BitString.bits_cons, BitString.bits_nil, List.append_nil, byteBits_or _ h]

/-- One bit more, in a byte that has room for it. -/
theorem Holds.extend {writer : BitWriter} {content : List Bool} {bytes : Bytes} (bit : Bool)
    (hposition : writer.bitPosition = content.length) (hroom : content.length < 8 * bytes.length)
    (hlt : 8 * bytes.length ≤ content.length + 8)
    (hbytes : BitString.bits bytes =
      content ++ List.replicate (8 * bytes.length - content.length) false) :
    Holds { writer with
      bytes := if bit then setLastBit bytes (writer.bitPosition % 8) else bytes
      bitPosition := writer.bitPosition + 1 } (content ++ [bit]) := by
  have hlength : (if bit then setLastBit bytes (writer.bitPosition % 8) else bytes).length =
      bytes.length := by
    cases bit with
    | false => rfl
    | true =>
      simp only [if_true, setLastBit, List.length_append, List.length_dropLast,
        List.length_singleton]
      omega
  obtain ⟨pad, hpad⟩ : ∃ pad, 8 * bytes.length - content.length = pad + 1 :=
    ⟨8 * bytes.length - content.length - 1, by omega⟩
  rw [hpad, List.replicate_succ] at hbytes
  refine ⟨by simp [hposition], ?_, by rw [hlength, List.length_append, List.length_singleton]; omega⟩
  rw [hlength, List.length_append, List.length_singleton,
    show 8 * bytes.length - (content.length + 1) = pad by omega, List.append_assoc]
  cases bit with
  | false => simpa using hbytes
  | true =>
    have hne : bytes ≠ [] := fun hnil => by simp [hnil] at hroom
    have hindex : 8 * (bytes.length - 1) + content.length % 8 = content.length := by omega
    simp only [if_true]
    rw [bits_setLastBit hne (Nat.mod_lt _ (by omega)), hbytes, hposition, hindex,
      List.set_append_right _ _ (Nat.le_refl _), Nat.sub_self]
    rfl

theorem writeBit_ok {writer writer' : BitWriter} {content : List Bool} {bit : Nat} {u : Unit}
    (h : writer.Holds content) (hok : writeBit bit writer = .ok u writer') :
    writer'.Holds (content ++ [decide (bit ≠ 0)]) := by
  simp only [writeBit, Mirror.get_bind, Mirror.bind_ok_iff, failIf_call_ok_iff, exists_unit,
    and_assoc, exists_and_left, exists_eq_left, Mirror.set_apply,
    EStateM.Result.ok.injEq] at hok
  obtain ⟨-, -, -, -, -, rfl⟩ := hok
  have hle := h.length_le
  have hlt := h.length_lt
  have hcongr : (if bit ≠ 0 then setLastBit (if writer.bitPosition % 8 = 0 then writer.bytes ++ [0]
      else writer.bytes) (writer.bitPosition % 8) else
      if writer.bitPosition % 8 = 0 then writer.bytes ++ [0] else writer.bytes) =
      if decide (bit ≠ 0) then setLastBit (if writer.bitPosition % 8 = 0 then writer.bytes ++ [0]
        else writer.bytes) (writer.bitPosition % 8) else
        if writer.bitPosition % 8 = 0 then writer.bytes ++ [0] else writer.bytes := by
    simp only [decide_eq_true_eq]
  rw [hcongr]
  by_cases haligned : writer.bitPosition % 8 = 0
  · have hfull : content.length = 8 * writer.bytes.length := by
      rw [h.position] at haligned
      omega
    have hbits := h.bytes
    rw [hfull, Nat.sub_self, List.replicate_zero, List.append_nil] at hbits
    simp only [if_pos haligned]
    refine Holds.extend _ h.position ?_ ?_ ?_
    · simp [hfull]
    · simp [hfull]; omega
    · rw [BitString.bits_append, hbits, hfull]
      simp [Nat.mul_add]
      decide
  · simp only [if_neg haligned]
    refine Holds.extend _ h.position ?_ (by omega) h.bytes
    rw [h.position] at haligned
    omega

theorem writeBitsLoop_ok {value count : Nat} {writer writer' : BitWriter} {content : List Bool}
    {u : Unit} (h : writer.Holds content) (hok : writeBitsLoop value count writer = .ok u writer') :
    writer'.Holds (content ++ BitString.ofNumber value count) := by
  induction count generalizing writer content with
  | zero =>
    simp only [writeBitsLoop, Mirror.pure_apply, EStateM.Result.ok.injEq] at hok
    obtain ⟨-, rfl⟩ := hok
    rwa [BitString.ofNumber, List.append_nil]
  | succ count ih =>
    obtain ⟨_, next, hbit, hrest⟩ := Mirror.bind_ok_iff.mp hok
    have hnext := writeBit_ok h hbit
    have hvalue : decide ((value >>> count) &&& 1 ≠ 0) = value.testBit count := by
      rw [Nat.testBit_eq_decide_div_mod_eq, Nat.shiftRight_eq_div_pow, Nat.and_one_is_mod]
      rcases Nat.mod_two_eq_zero_or_one (value / 2 ^ count) with hmod | hmod <;> simp [hmod]
    rw [hvalue] at hnext
    have hall := ih hnext hrest
    rwa [List.append_assoc, List.singleton_append] at hall

theorem writeBits_ok {value bitCount : Nat} {writer writer' : BitWriter} {content : List Bool}
    {u : Unit} (h : writer.Holds content) (hok : writeBits value bitCount writer = .ok u writer') :
    writer'.Holds (content ++ BitString.ofNumber value bitCount) ∧ bitCount ≤ 64 ∧
      (bitCount < 64 → value < 2 ^ bitCount) := by
  simp only [writeBits, Mirror.get_bind, Mirror.bind_ok_iff, failIf_call_ok_iff, exists_unit,
    and_assoc, exists_and_left, exists_eq_left] at hok
  obtain ⟨-, hcount, hvalue, -, hloop⟩ := hok
  refine ⟨writeBitsLoop_ok h hloop, by omega, fun hlt => ?_⟩
  exact Nat.lt_of_not_le fun hle => hvalue ⟨hlt, hle⟩

/-- Alignment appends fewer than eight zero bits. -/
theorem byteAlignZero_ok {writer writer' : BitWriter} {content : List Bool} {u : Unit}
    (h : writer.Holds content) (hok : byteAlignZero writer = .ok u writer') :
    ∃ padding, padding.length < 8 ∧ writer'.Holds (content ++ padding) ∧
      8 ∣ (content ++ padding).length := by
  simp only [byteAlignZero, Mirror.get_bind, Mirror.bind_ok_iff, failIf_call_ok_iff, exists_unit,
    and_assoc, exists_and_left, exists_eq_left, h.position] at hok
  obtain ⟨-, hok⟩ := hok
  by_cases haligned : content.length % 8 = 0
  · rw [if_pos haligned, Mirror.pure_apply, EStateM.Result.ok.injEq] at hok
    obtain ⟨-, rfl⟩ := hok
    exact ⟨[], by decide, by rwa [List.append_nil], by rw [List.append_nil]; omega⟩
  · rw [if_neg haligned] at hok
    have hholds := (writeBits_ok h hok).1
    refine ⟨_, ?_, hholds, ?_⟩
    · rw [BitString.ofNumber_length]
      omega
    · rw [List.length_append, BitString.ofNumber_length]
      omega

theorem finalize_ok {writer writer' : BitWriter} {content : List Bool} {bytes : Bytes}
    (h : writer.Holds content) (hok : finalize writer = .ok bytes writer') :
    BitString.bits bytes = content := by
  simp only [finalize, requireByteAligned, Mirror.get_bind, Mirror.bind_ok_iff, failIf_call_ok_iff,
    exists_unit, and_assoc, exists_and_left, exists_eq_left, Mirror.set_bind, Mirror.pure_apply,
    EStateM.Result.ok.injEq] at hok
  obtain ⟨-, haligned, rfl, -⟩ := hok
  have hle := h.length_le
  have hlt := h.length_lt
  rw [h.position] at haligned
  rw [h.bytes, show 8 * writer.bytes.length - content.length = 0 by omega, List.replicate_zero,
    List.append_nil]

end BitWriter

/-- The bits of the writer begin those of the payload. -/
def bitChannel (payload : Bytes) : Mirror.Channel BitWriter where
  inv writer := ∃ content, writer.Holds content
  fits writer := ∃ content, writer.Holds content ∧ content <+: BitString.bits payload

/-- The reader is in the payload where the writer is in its output. -/
structure Follows (payload : Bytes) (writer : BitWriter) (reader : BitReader) : Prop where
  data : reader.data = payload
  position : reader.bitPosition = writer.bitPosition

def BitReads (payload : Bytes) {α β : Type} (w : Call BitWriter α) (r : Call BitReader β)
    (k : α → β) : Prop :=
  Mirror.Mirrors (bitChannel payload) False (Follows payload) w r
    (fun a x writer reader => x = k a ∧ Follows payload writer reader)

section BitReads

variable {payload : Bytes}

theorem BitWriter.Holds.unique {writer : BitWriter} {content content' : List Bool}
    (h : writer.Holds content) (h' : writer.Holds content') : content = content' := by
  have hlength : content.length = content'.length := h.position.symm.trans h'.position
  exact (List.append_inj (h.bytes.symm.trans h'.bytes) hlength).1

/-- A writer that appends known bits is mirrored by a reader that takes them. -/
theorem BitReads.of_appends (appended : List Bool) {α β : Type} {w : Call BitWriter α}
    {r : Call BitReader β} {k : α → β} (hw : ∀ writer a writer' content, BitWriter.Holds writer content →
      w writer = .ok a writer' → writer'.Holds (content ++ appended))
    (hr : ∀ reader rest a writer writer', w writer = .ok a writer' →
      reader.rest = appended ++ rest →
      r reader = .ok (k a) (reader.advance appended.length)) : BitReads payload w r k := by
  intro writer a writer' hinv hok
  obtain ⟨content, hholds⟩ := hinv
  have hholds' := hw writer a writer' content hholds hok
  refine ⟨⟨_, hholds'⟩, ?_⟩
  rintro ⟨content', hcontent', hprefix⟩
  obtain rfl := hholds'.unique hcontent'
  refine ⟨⟨content, hholds, (List.prefix_append _ _).trans hprefix⟩, fun reader hfollows => ?_⟩
  obtain ⟨rest, hrest⟩ := hprefix
  have hreader : reader.rest = appended ++ rest := by
    rw [BitReader.rest, hfollows.data, hfollows.position, hholds.position, ← hrest,
      List.append_assoc, List.drop_left]
  rw [hr reader rest a writer writer' hok hreader]
  refine ⟨rfl, hfollows.data, ?_⟩
  rw [BitReader.advance_bitPosition, hfollows.position, hholds'.position, hholds.position,
    List.length_append]

theorem writeBit_reads (bit : Nat) :
    BitReads payload (BitWriter.writeBit bit) BitReader.readBit (fun _ => bit) := by
  refine BitReads.of_appends [decide (bit ≠ 0)]
    (fun _ _ _ _ hholds hok => BitWriter.writeBit_ok hholds hok) ?_
  intro reader rest _ writer writer' hok hreader
  have hbit : bit ≤ 1 := by
    simp only [BitWriter.writeBit, Mirror.get_bind, Mirror.bind_ok_iff, failIf_call_ok_iff,
      exists_unit, and_assoc, exists_and_left, exists_eq_left] at hok
    omega
  rw [BitReader.readBit_eq hreader]
  have hcases : bit = 0 ∨ bit = 1 := by omega
  rcases hcases with rfl | rfl <;> rfl

theorem writeBits_reads {value bitCount : Nat} (hvalue : value < 2 ^ bitCount) :
    BitReads payload (BitWriter.writeBits value bitCount) (BitReader.readBits bitCount)
      (fun _ => value) := by
  refine BitReads.of_appends (BitString.ofNumber value bitCount)
    (fun _ _ _ _ hholds hok => (BitWriter.writeBits_ok hholds hok).1) ?_
  intro reader rest _ writer writer' hok hreader
  have hcount : bitCount ≤ 64 := by
    simp only [BitWriter.writeBits, Mirror.get_bind, Mirror.bind_ok_iff, failIf_call_ok_iff,
      exists_unit, and_assoc, exists_and_left, exists_eq_left] at hok
    omega
  have hremaining : bitCount ≤ reader.remainingBits := by
    rw [← BitReader.rest_length, hreader, List.length_append, BitString.ofNumber_length]
    omega
  rw [BitReader.readBits_eq hcount hremaining, hreader, List.take_left' (by simp),
    BitString.number_ofNumber, Nat.mod_eq_of_lt hvalue, BitString.ofNumber_length]

end BitReads

end Mffv1
