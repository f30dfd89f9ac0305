import Mathlib.Data.Nat.Bitwise
import Mathlib.Tactic.Ring

/-!
# Registers of lanes

A vector register is a bit vector; a lane of width `w` is a block of `w` of its
bits, the lowest lane first. The instructions below have the semantics that their
vendor documents, for registers of any width where they are the same in all.
-/
namespace Lanes

variable {n w : Nat}

/-- Lane `i` of the register. -/
def lane (w : Nat) (x : BitVec n) (i : Nat) : BitVec w := x.extractLsb' (w * i) w

/-- The register with the lanes `f 0`, `f 1`, … -/
def ofLanes (n w : Nat) (f : Nat → BitVec w) : BitVec n :=
  BitVec.ofNat n (Nat.ofBits fun j : Fin n => (f (j / w)).getLsbD (j % w))

theorem lane_ofLanes (f : Nat → BitVec w) {i : Nat} (h : w * i + w ≤ n) :
    lane w (ofLanes n w f) i = f i := by
  apply BitVec.eq_of_getLsbD_eq
  intro j hj
  have hlt : w * i + j < n := by omega
  have hdiv : (w * i + j) / w = i := by
    rw [Nat.mul_add_div (by omega), Nat.div_eq_of_lt hj, Nat.add_zero]
  simp only [lane, ofLanes, BitVec.getLsbD_extractLsb', hj, decide_true, Bool.true_and,
    BitVec.getLsbD_ofNat, hlt, Nat.testBit_ofBits_lt _ _ hlt, hdiv, Nat.mul_add_mod,
    Nat.mod_eq_of_lt hj]

theorem lane_and (x y : BitVec n) (i : Nat) : lane w (x &&& y) i = lane w x i &&& lane w y i :=
  BitVec.extractLsb'_and

theorem lane_xor (x y : BitVec n) (i : Nat) : lane w (x ^^^ y) i = lane w x i ^^^ lane w y i :=
  BitVec.extractLsb'_xor

/-- A lane is a pair of lanes of half the width. -/
theorem lane_pair (x : BitVec n) (i : Nat) :
    lane (w + w) x i = lane w x (2 * i + 1) ++ lane w x (2 * i) := by
  apply BitVec.eq_of_getLsbD_eq
  intro j hj
  simp only [lane, BitVec.getLsbD_extractLsb', BitVec.getLsbD_append, hj, decide_true,
    Bool.true_and]
  have hstart : (w + w) * i = w * (2 * i) := by ring
  by_cases hlow : j < w
  · rw [if_pos hlow, decide_eq_true hlow, Bool.true_and, hstart]
  · rw [if_neg hlow, decide_eq_true (show j - w < w by omega), Bool.true_and, hstart,
      Nat.mul_add, Nat.mul_one]
    congr 1
    omega

def setzero (n : Nat) : BitVec n := 0#n

def set1Epi32 (n : Nat) (value : BitVec 32) : BitVec n := ofLanes n 32 fun _ => value

def set1Epi16 (n : Nat) (value : BitVec 16) : BitVec n := ofLanes n 16 fun _ => value

/-- Addition wraps in every lane. -/
def addEpi32 (a b : BitVec n) : BitVec n := ofLanes n 32 fun i => lane 32 a i + lane 32 b i

def subEpi32 (a b : BitVec n) : BitVec n := ofLanes n 32 fun i => lane 32 a i - lane 32 b i

/-- The sign is shifted in. -/
def sraiEpi32 (a : BitVec n) (count : Nat) : BitVec n :=
  ofLanes n 32 fun i => (lane 32 a i).sshiftRight count

/-- The low lanes of both registers, in turn. -/
def unpackloEpi16 (a b : BitVec 128) : BitVec 128 :=
  ofLanes 128 16 fun i => if i % 2 = 0 then lane 16 a (i / 2) else lane 16 b (i / 2)

def cvtepu16Epi32 (a : BitVec 128) : BitVec 256 :=
  ofLanes 256 32 fun i => (lane 16 a i).setWidth 32

def saturateInt16 (value : BitVec 32) : BitVec 16 :=
  BitVec.ofInt 16 (max (-32768) (min value.toInt 32767))

/-- The lanes of `a` and then those of `b`, saturated to signed sixteen bits. -/
def packsEpi32 (a b : BitVec 128) : BitVec 128 :=
  ofLanes 128 16 fun i =>
    if i < 4 then saturateInt16 (lane 32 a i) else saturateInt16 (lane 32 b (i - 4))

def castsi256Si128 (a : BitVec 256) : BitVec 128 := a.setWidth 128

def extracti128Si256 (a : BitVec 256) (index : Nat) : BitVec 128 := lane 128 a index

/-- Sixty-four bits of memory, in a cleared register. -/
def loadlEpi64 (memory : List (BitVec 16)) : BitVec 128 :=
  ofLanes 128 16 fun i => if i < 4 then memory.getD i 0 else 0

def loadu (n w : Nat) (memory : List (BitVec w)) : BitVec n := ofLanes n w (memory.getD · 0)

def storelEpi64 (a : BitVec 128) : List (BitVec 16) := (List.range 4).map (lane 16 a)

def storeu (w : Nat) (a : BitVec n) : List (BitVec w) := (List.range (n / w)).map (lane w a)

section Lanewise

variable {i : Nat}

theorem lane_set1Epi32 (value : BitVec 32) (h : 32 * i + 32 ≤ n) :
    lane 32 (set1Epi32 n value) i = value := lane_ofLanes _ h

theorem lane_set1Epi16 (value : BitVec 16) (h : 16 * i + 16 ≤ n) :
    lane 16 (set1Epi16 n value) i = value := lane_ofLanes _ h

theorem lane_addEpi32 (a b : BitVec n) (h : 32 * i + 32 ≤ n) :
    lane 32 (addEpi32 a b) i = lane 32 a i + lane 32 b i := lane_ofLanes _ h

theorem lane_subEpi32 (a b : BitVec n) (h : 32 * i + 32 ≤ n) :
    lane 32 (subEpi32 a b) i = lane 32 a i - lane 32 b i := lane_ofLanes _ h

theorem lane_sraiEpi32 (a : BitVec n) (count : Nat) (h : 32 * i + 32 ≤ n) :
    lane 32 (sraiEpi32 a count) i = (lane 32 a i).sshiftRight count := lane_ofLanes _ h

theorem lane_cvtepu16Epi32 (a : BitVec 128) (h : i < 8) :
    lane 32 (cvtepu16Epi32 a) i = (lane 16 a i).setWidth 32 := lane_ofLanes _ (by omega)

/-- Unpacking against a cleared register extends the lanes by zeros. -/
theorem lane_unpacklo_zero (a : BitVec 128) (h : i < 4) :
    lane 32 (unpackloEpi16 a (setzero 128)) i = (lane 16 a i).setWidth 32 := by
  have hlow : lane 16 (unpackloEpi16 a (setzero 128)) (2 * i) = lane 16 a i := by
    rw [unpackloEpi16, lane_ofLanes _ (by omega), if_pos (by omega)]
    congr 1
    omega
  have hhigh : lane 16 (unpackloEpi16 a (setzero 128)) (2 * i + 1) = 0#16 := by
    rw [unpackloEpi16, lane_ofLanes _ (by omega), if_neg (by omega)]
    simp [lane, setzero]
  have hpair := lane_pair (w := 16) (unpackloEpi16 a (setzero 128)) i
  rw [hlow, hhigh] at hpair
  rw [show (32 : Nat) = 16 + 16 from rfl, hpair]
  exact BitVec.setWidth_eq_append (by decide) |>.symm

theorem lane_castsi256Si128 (a : BitVec 256) (h : i < 4) :
    lane 32 (castsi256Si128 a) i = lane 32 a i := by
  apply BitVec.eq_of_getLsbD_eq
  intro j hj
  simp [lane, castsi256Si128, show 32 * i + j < 128 by omega]

theorem lane_extracti128Si256 (a : BitVec 256) (h : i < 4) :
    lane 32 (extracti128Si256 a 1) i = lane 32 a (4 + i) := by
  apply BitVec.eq_of_getLsbD_eq
  intro j hj
  simp only [lane, extracti128Si256, BitVec.getLsbD_extractLsb', hj,
    show 32 * i + j < 128 by omega, decide_true, Bool.true_and]
  congr 1
  omega

theorem lane_packsEpi32_low (a b : BitVec 128) (h : i < 4) :
    lane 16 (packsEpi32 a b) i = saturateInt16 (lane 32 a i) := by
  rw [packsEpi32, lane_ofLanes _ (by omega), if_pos h]

theorem lane_packsEpi32_high (a b : BitVec 128) (h : i < 4) :
    lane 16 (packsEpi32 a b) (4 + i) = saturateInt16 (lane 32 b i) := by
  rw [packsEpi32, lane_ofLanes _ (by omega), if_neg (by omega), Nat.add_sub_cancel_left]

theorem lane_loadlEpi64 (memory : List (BitVec 16)) (h : i < 4) :
    lane 16 (loadlEpi64 memory) i = memory.getD i 0 := by
  rw [loadlEpi64, lane_ofLanes _ (by omega), if_pos h]

theorem lane_loadu (memory : List (BitVec w)) (h : w * i + w ≤ n) :
    lane w (loadu n w memory) i = memory.getD i 0 := lane_ofLanes _ h

end Lanewise

section Integers

variable {a b : BitVec 32}

theorem toInt_add_of_fits (h : -2 ^ 31 ≤ a.toInt + b.toInt ∧ a.toInt + b.toInt < 2 ^ 31) :
    (a + b).toInt = a.toInt + b.toInt := by
  rw [BitVec.toInt_add, Int.bmod_eq_of_le (by omega) (by omega)]

theorem toInt_sub_of_fits (h : -2 ^ 31 ≤ a.toInt - b.toInt ∧ a.toInt - b.toInt < 2 ^ 31) :
    (a - b).toInt = a.toInt - b.toInt := by
  rw [BitVec.toInt_sub, Int.bmod_eq_of_le (by omega) (by omega)]

theorem toInt_setWidth (a : BitVec 16) : (a.setWidth 32).toInt = a.toNat := by
  have hlt := a.isLt
  rw [BitVec.toInt_eq_toNat_of_lt (by rw [BitVec.toNat_setWidth]; omega), BitVec.toNat_setWidth,
    Nat.mod_eq_of_lt (by omega)]

/-- A mask of low bits is a remainder. -/
theorem toInt_and_mask (a : BitVec 32) {k : Nat} (hk : k < 32) {mask : BitVec 32}
    (hmask : mask.toNat = 2 ^ k - 1) : (a &&& mask).toInt = a.toInt % 2 ^ k := by
  have hpow : 2 ^ k ≤ 2 ^ 31 := Nat.pow_le_pow_right (by decide) (by omega)
  have hpos : 0 < 2 ^ k := Nat.two_pow_pos k
  have hnat : (a &&& mask).toNat = a.toNat % 2 ^ k := by
    rw [BitVec.toNat_and, hmask, Nat.and_two_pow_sub_one_eq_mod]
  have hlt := Nat.mod_lt a.toNat hpos
  have hdvd : (2 ^ k : Int) ∣ 2 ^ 32 := pow_dvd_pow 2 (by omega)
  have hword : a.toInt % 2 ^ 32 = (a.toNat : Int) % 2 ^ 32 := by
    rw [BitVec.toInt_eq_toNat_bmod]
    exact Int.bmod_emod
  have hmod : (a.toNat : Int) % 2 ^ k = a.toInt % 2 ^ k := by
    rw [← Int.emod_emod_of_dvd (a.toNat : Int) hdvd, ← hword, Int.emod_emod_of_dvd _ hdvd]
  rw [BitVec.toInt_eq_toNat_of_lt (by omega), hnat]
  push_cast
  exact hmod

theorem xor_top {m : Nat} (h : m < 2 ^ 15) : m ^^^ 2 ^ 15 = m + 2 ^ 15 := by
  have hdiv : (m ^^^ 2 ^ 15) / 2 ^ 15 = 1 := by
    rw [Nat.xor_div_two_pow, Nat.div_eq_of_lt h]
    rfl
  have hmod : (m ^^^ 2 ^ 15) % 2 ^ 15 = m := by
    rw [Nat.xor_mod_two_pow, Nat.mod_eq_of_lt h]
    exact Nat.xor_zero m
  have hsplit := Nat.div_add_mod (m ^^^ 2 ^ 15) (2 ^ 15)
  omega

/-- A biased value that is packed keeps its sixteen bits. -/
theorem saturate_bias {value : Nat} (h : value < 2 ^ 16) (ha : a.toInt = value - 32768) :
    saturateInt16 a ^^^ 0x8000#16 = BitVec.ofNat 16 value := by
  have hclamp : max (-32768) (min a.toInt 32767) = (value : Int) - 32768 := by omega
  unfold saturateInt16
  rw [hclamp]
  apply BitVec.eq_of_toNat_eq
  rw [BitVec.toNat_xor, BitVec.toNat_ofInt, BitVec.toNat_ofNat, BitVec.toNat_ofNat,
    Nat.mod_eq_of_lt h]
  by_cases hhigh : 2 ^ 15 ≤ value
  · have hbits : (((value : Int) - 32768) % ((2 ^ 16 : Nat) : Int)).toNat = value - 2 ^ 15 := by omega
    have htop := xor_top (m := value - 2 ^ 15) (by omega)
    rw [hbits]
    exact htop.trans (by omega)
  · have hbits : (((value : Int) - 32768) % ((2 ^ 16 : Nat) : Int)).toNat = value + 2 ^ 15 := by omega
    rw [hbits, ← xor_top (by omega)]
    exact Nat.xor_xor_cancel_right value (2 ^ 15)

end Integers

end Lanes
