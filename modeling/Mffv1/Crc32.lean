import Mffv1.Status

/-!
# The IEEE CRC, most significant bit first

The remainder starts at zero and is not inverted, so a byte string followed by
its own remainder has remainder zero.
-/
namespace Mffv1

def crcPolynomial : UInt32 := 0x04c11db7

def crcShift (remainder : UInt32) : UInt32 :=
  if remainder &&& 0x80000000 ≠ 0 then (remainder <<< 1) ^^^ crcPolynomial else remainder <<< 1

def crcShifts (remainder : UInt32) : (bits : Nat) → UInt32
  | 0 => remainder
  | bits + 1 => crcShifts (crcShift remainder) bits

def crcByte (remainder : UInt32) (byte : UInt8) : UInt32 :=
  crcShifts (remainder ^^^ (byte.toUInt32 <<< 24)) 8

def crc32IeeeMsb (bytes : Bytes) : UInt32 :=
  bytes.foldl crcByte 0

/-- The four bytes of a word, most significant first. -/
def bigEndian32 (word : UInt32) : Bytes :=
  [(word >>> 24).toUInt8, (word >>> 16).toUInt8, (word >>> 8).toUInt8, word.toUInt8]

@[simp] theorem bigEndian32_length (word : UInt32) : (bigEndian32 word).length = 4 := rfl

/-- While the top bits are clear the remainder only moves up. -/
theorem crcShifts_of_lt {remainder : UInt32} {bits : Nat} (h : remainder.toNat * 2 ^ bits < 2 ^ 32) :
    (crcShifts remainder bits).toNat = remainder.toNat * 2 ^ bits := by
  induction bits generalizing remainder with
  | zero => simp [crcShifts]
  | succ bits ih =>
    have hpos : 0 < 2 ^ bits := by positivity
    rw [pow_succ] at h
    have hlt : remainder.toNat < 2 ^ 31 := by nlinarith
    have htop : remainder &&& 0x80000000 = 0 := by
      apply UInt32.toNat_inj.mp
      rw [UInt32.toNat_and]
      apply Nat.eq_of_testBit_eq
      intro i
      rw [Nat.testBit_and]
      by_cases hi : i < 31
      · change (_ && (2 ^ 31).testBit i) = (0 : Nat).testBit i
        rw [Nat.testBit_two_pow, Nat.zero_testBit, decide_eq_false (by omega), Bool.and_false]
      · rw [Nat.testBit_lt_two_pow (hlt.trans_le (Nat.pow_le_pow_right (by omega) (by omega)))]
        simp
    have hshift : (remainder <<< 1).toNat = 2 * remainder.toNat := by
      rw [UInt32.toNat_shiftLeft, Nat.shiftLeft_eq]
      change remainder.toNat * 2 ^ 1 % 2 ^ 32 = _
      omega
    have hstep : crcShift remainder = remainder <<< 1 := by
      unfold crcShift
      rw [htop]
      exact if_neg fun h => h rfl
    have hrest : (remainder <<< 1).toNat * 2 ^ bits < 2 ^ 32 := by
      rw [hshift]
      calc 2 * remainder.toNat * 2 ^ bits = remainder.toNat * (2 ^ bits * 2) := by ring
        _ < 2 ^ 32 := h
    rw [crcShifts, hstep, ih hrest, hshift, pow_succ]
    ring

/-- Feeding the remainder's own top byte moves the rest up. -/
theorem crcByte_top (remainder : UInt32) (byte : UInt8)
    (h : byte.toNat = remainder.toNat / 2 ^ 24) :
    (crcByte remainder byte).toNat = remainder.toNat % 2 ^ 24 * 2 ^ 8 := by
  have hbyte := byte.toNat_lt
  have hclear : (remainder ^^^ (byte.toUInt32 <<< 24)).toNat = remainder.toNat % 2 ^ 24 := by
    have hshift : (byte.toUInt32 <<< 24).toNat = byte.toNat <<< 24 := by
      rw [UInt32.toNat_shiftLeft, UInt8.toNat_toUInt32, Nat.shiftLeft_eq]
      change byte.toNat * 2 ^ 24 % 2 ^ 32 = _
      omega
    rw [UInt32.toNat_xor, hshift, h]
    apply Nat.eq_of_testBit_eq
    intro i
    rw [Nat.testBit_xor, Nat.testBit_shiftLeft, Nat.testBit_mod_two_pow, Nat.testBit_div_two_pow]
    by_cases hi : i < 24
    · simp [hi, Nat.not_le.mpr hi]
    · simp [hi, Nat.le_of_not_lt hi]
  unfold crcByte
  rw [crcShifts_of_lt (by rw [hclear]; omega), hclear]

theorem crcByte_bigEndian32 (word : UInt32) : (bigEndian32 word).foldl crcByte word = 0 := by
  have hlt := word.toNat_lt
  have hbyte (n : UInt32) (hn : n.toNat < 32) :
      ((word >>> n).toUInt8).toNat = word.toNat / 2 ^ n.toNat % 256 := by
    rw [UInt32.toNat_toUInt8, UInt32.toNat_shiftRight, Nat.mod_eq_of_lt hn, Nat.shiftRight_eq_div_pow]
  have h₃ := hbyte 24 (by decide)
  have h₂ := hbyte 16 (by decide)
  have h₁ := hbyte 8 (by decide)
  have h₀ : word.toUInt8.toNat = word.toNat % 256 := UInt32.toNat_toUInt8 word
  change (_ : Nat) = word.toNat / 2 ^ 24 % 256 at h₃
  change (_ : Nat) = word.toNat / 2 ^ 16 % 256 at h₂
  change (_ : Nat) = word.toNat / 2 ^ 8 % 256 at h₁
  have r₃ := crcByte_top word (word >>> 24).toUInt8 (by omega)
  have r₂ := crcByte_top (crcByte word (word >>> 24).toUInt8) (word >>> 16).toUInt8 (by omega)
  have r₁ := crcByte_top (crcByte (crcByte word (word >>> 24).toUInt8) (word >>> 16).toUInt8)
    (word >>> 8).toUInt8 (by omega)
  have r₀ := crcByte_top (crcByte (crcByte (crcByte word (word >>> 24).toUInt8)
    (word >>> 16).toUInt8) (word >>> 8).toUInt8) word.toUInt8 (by omega)
  apply UInt32.toNat_inj.mp
  simp only [bigEndian32, List.foldl_cons, List.foldl_nil]
  rw [r₀, r₁, r₂, r₃]
  change _ = 0
  omega

/-- A string followed by its remainder checks to zero. -/
theorem crc32_append_remainder (bytes : Bytes) :
    crc32IeeeMsb (bytes ++ bigEndian32 (crc32IeeeMsb bytes)) = 0 := by
  rw [crc32IeeeMsb, List.foldl_append]
  exact crcByte_bigEndian32 _

end Mffv1
