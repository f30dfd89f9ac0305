import Mffv1.Status
import Mffv1.Lib.BitString
import Mffv1.Lib.Mirror

/-!
# The bit reader

Bits are taken from the bytes most significant first.
-/
namespace Mffv1

structure BitReader where
  data : Bytes
  bitPosition : Nat := 0
  deriving DecidableEq

namespace BitReader

def bytePosition (reader : BitReader) : Nat := reader.bitPosition / 8

def remainingBits (reader : BitReader) : Nat := 8 * reader.data.length - reader.bitPosition

def readBit : Call BitReader Nat := do
  let reader ← get
  failIf (reader.remainingBits = 0) (makeError .syntaxError
    "bitstream underflow while reading one bit")
  let byteIndex := reader.bitPosition / 8
  let bitIndex := 7 - reader.bitPosition % 8
  let value := reader.data[byteIndex]?.getD 0
  set { reader with bitPosition := reader.bitPosition + 1 }
  return (value.toNat >>> bitIndex) &&& 1

def readBitsLoop : (count value : Nat) → Call BitReader Nat
  | 0, value => return value
  | count + 1, value => do
    let bit ← readBit
    readBitsLoop count (value <<< 1 ||| bit)

def readBits (bitCount : Nat) : Call BitReader Nat := do
  failIf (64 < bitCount) (makeError .invalidArgument "cannot read more than 64 bits at once")
  let reader ← get
  failIf (reader.remainingBits < bitCount) (makeError .syntaxError
    "bitstream underflow while reading bits")
  readBitsLoop bitCount 0

def skipBits (bitCount : Nat) : Call BitReader Unit := do
  let reader ← get
  failIf (reader.remainingBits < bitCount) (makeError .syntaxError
    "bitstream underflow while skipping bits")
  set { reader with bitPosition := reader.bitPosition + bitCount }

def byteAlign : Call BitReader Unit := do
  let reader ← get
  let remainder := reader.bitPosition % 8
  if remainder ≠ 0 then set { reader with bitPosition := reader.bitPosition + (8 - remainder) }
  else return ()

def requireByteAligned : Call BitReader Unit := do
  let reader ← get
  failIf (reader.bitPosition % 8 ≠ 0) (makeError .syntaxError "bitstream is not byte aligned")

/-- The bits that have not been read. -/
def rest (reader : BitReader) : List Bool := (BitString.bits reader.data).drop reader.bitPosition

/-- `count` bits further on. -/
def advance (reader : BitReader) (count : Nat) : BitReader :=
  { reader with bitPosition := reader.bitPosition + count }

@[simp] theorem advance_data (reader : BitReader) (count : Nat) :
    (reader.advance count).data = reader.data := rfl

@[simp] theorem advance_bitPosition (reader : BitReader) (count : Nat) :
    (reader.advance count).bitPosition = reader.bitPosition + count := rfl

@[simp] theorem advance_zero (reader : BitReader) : reader.advance 0 = reader := rfl

theorem advance_advance (reader : BitReader) (m n : Nat) :
    (reader.advance m).advance n = reader.advance (m + n) := by
  simp [advance, Nat.add_assoc]

theorem rest_advance (reader : BitReader) (count : Nat) :
    (reader.advance count).rest = reader.rest.drop count := by
  simp [rest, advance]

theorem rest_length (reader : BitReader) : reader.rest.length = reader.remainingBits := by
  simp [rest, remainingBits]

theorem readBit_eq {reader : BitReader} {bit : Bool} {bits : List Bool}
    (h : reader.rest = bit :: bits) : readBit reader = .ok bit.toNat (reader.advance 1) := by
  have hremaining : reader.remainingBits ≠ 0 := by
    rw [← rest_length, h]
    simp
  have hget : (BitString.bits reader.data)[reader.bitPosition]? = some bit := by
    have hzero := congrArg (·[0]?) h
    simpa [rest] using hzero
  rw [BitString.bits_getElem?] at hget
  cases hbyte : reader.data[reader.bitPosition / 8]? with
  | none =>
    rw [hbyte] at hget
    cases hget
  | some byte =>
    rw [hbyte, Option.map_some, Option.some.injEq] at hget
    unfold readBit
    rw [Mirror.get_bind, failIf_of_not hremaining, pure_bind, hbyte, Mirror.set_bind,
      Mirror.pure_apply, Option.getD_some, Nat.and_one_is_mod, Nat.shiftRight_eq_div_pow,
      ← Nat.toNat_testBit, hget]
    rfl

theorem readBitsLoop_eq (count : Nat) {reader : BitReader} (value : Nat)
    (h : count ≤ reader.remainingBits) :
    readBitsLoop count value reader =
      .ok (value * 2 ^ count + BitString.number (reader.rest.take count)) (reader.advance count) := by
  induction count generalizing reader value with
  | zero => simp [readBitsLoop]
  | succ count ih =>
    rw [← rest_length] at h
    cases hrest : reader.rest with
    | nil =>
      rw [hrest] at h
      simp at h
    | cons bit bits =>
      have hnext : (reader.advance 1).rest = bits := by
        rw [rest_advance, hrest, List.drop_one, List.tail_cons]
      have hcount : count ≤ (reader.advance 1).remainingBits := by
        rw [← rest_length, hnext]
        rw [hrest] at h
        simpa using h
      have hshift : value <<< 1 ||| bit.toNat = 2 * value + bit.toNat := by
        have hor := Nat.two_pow_add_eq_or_of_lt (show bit.toNat < 2 ^ 1 from bit.toNat_lt) value
        rw [Nat.shiftLeft_eq, Nat.mul_comm, ← hor, pow_one]
      have hlen : (bits.take count).length = count := by
        rw [hrest, List.length_cons] at h
        rw [List.length_take]
        omega
      rw [readBitsLoop, Mirror.bind_ok (readBit_eq hrest), ih _ hcount, hshift, hnext,
        advance_advance, Nat.add_comm 1 count, List.take_succ_cons, BitString.number_cons, hlen,
        pow_succ]
      congr 1
      ring

/-- Reading takes the next bits as a number. -/
theorem readBits_eq {reader : BitReader} {bitCount : Nat} (hle : bitCount ≤ 64)
    (h : bitCount ≤ reader.remainingBits) :
    readBits bitCount reader =
      .ok (BitString.number (reader.rest.take bitCount)) (reader.advance bitCount) := by
  unfold readBits
  rw [failIf_of_not (by omega), pure_bind, Mirror.get_bind, failIf_of_not (by omega), pure_bind,
    readBitsLoop_eq _ _ h, Nat.zero_mul, Nat.zero_add]

/-- Whole bytes at a byte boundary are read as a big-endian number. -/
theorem readBits_bytes {reader : BitReader} {start count : Nat} (hcount : count ≤ 8)
    (hpos : reader.bitPosition = 8 * start) (h : start + count ≤ reader.data.length) :
    readBits (8 * count) reader =
      .ok (ByteValue.value ((reader.data.drop start).take count)) (reader.advance (8 * count)) := by
  rw [readBits_eq (by omega) (by unfold remainingBits; omega), ← BitString.number_bits,
    BitString.bits_take, BitString.bits_drop, rest, hpos]

theorem requireByteAligned_eq {reader : BitReader} {start : Nat}
    (hpos : reader.bitPosition = 8 * start) : requireByteAligned reader = .ok () reader := by
  unfold requireByteAligned
  rw [Mirror.get_bind, failIf_of_not (by omega)]
  rfl

end BitReader

end Mffv1
