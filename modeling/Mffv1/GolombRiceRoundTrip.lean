import Mffv1.GolombRice

/-!
# Golomb-Rice codes are read back

The writer and the reader hold the same adaptive state, so that they agree on the
parameter of every code; the bits of a code tell its prefix, its suffix and its escape.
-/
namespace Mffv1

section Codes

variable {payload : Bytes}

/-- The reader may look at its own position. -/
theorem BitReads.looks {α β : Type} {w : Call BitWriter α} {g : BitReader → Call BitReader β}
    {k : α → β} (h : ∀ reader, BitReads payload w (g reader) k) :
    BitReads payload w (get >>= g) k := by
  intro writer a writer' hinv hw
  obtain ⟨hinv', hfits⟩ := h { data := [] } writer a writer' hinv hw
  refine ⟨hinv', fun hfit => ⟨(hfits hfit).1, fun reader hfollows => ?_⟩⟩
  rw [Mirror.get_bind]
  exact ((h reader writer a writer' hinv hw).2 hfit).2 reader hfollows

/-- The zeros before a one. -/
theorem prefix_reads {zeros count : Nat} (h : zeros < count) (start : Nat) :
    BitReads payload (do GolombRiceWriter.writeZeros zeros; BitWriter.writeBit 1)
      (GolombRiceReader.readPrefix start count) (fun _ => some (start + zeros)) := by
  induction zeros generalizing start count with
  | zero =>
    obtain ⟨count, rfl⟩ := Nat.exists_eq_succ_of_ne_zero h.ne'
    rw [GolombRiceWriter.writeZeros, pure_bind, GolombRiceReader.readPrefix]
    exact Mirror.Copies.bind_last (writeBit_reads 1) fun _ => Mirror.Copies.pure rfl
  | succ zeros ih =>
    obtain ⟨count, rfl⟩ := Nat.exists_eq_succ_of_ne_zero (Nat.ne_zero_of_lt h)
    rw [GolombRiceWriter.writeZeros, bind_assoc, GolombRiceReader.readPrefix]
    refine Mirror.Copies.bind (writeBit_reads 0) fun _ => ?_
    have hrest := ih (Nat.lt_of_succ_lt_succ h) (start + 1)
    rw [Nat.add_assoc, Nat.add_comm 1 zeros] at hrest
    exact hrest

theorem readPrefix_zeros (start count : Nat) {reader : BitReader} {rest : List Bool}
    (h : reader.rest = List.replicate count false ++ rest) :
    GolombRiceReader.readPrefix start count reader = .ok none (reader.advance count) := by
  induction count generalizing start reader with
  | zero => rfl
  | succ count ih =>
    rw [List.replicate_succ, List.cons_append] at h
    have hnext : (reader.advance 1).rest = List.replicate count false ++ rest := by
      rw [BitReader.rest_advance, h, List.drop_one, List.tail_cons]
    have hread := ih (start + 1) hnext
    rw [BitReader.advance_advance, Nat.add_comm 1 count] at hread
    rw [GolombRiceReader.readPrefix, Mirror.bind_ok (BitReader.readBit_eq h)]
    exact hread

theorem ofNumber_zero (count : Nat) : BitString.ofNumber 0 count = List.replicate count false := by
  induction count with
  | zero => rfl
  | succ count ih => rw [BitString.ofNumber, ih, Nat.zero_testBit, List.replicate_succ]

/-- Twelve zeros are the escape. -/
theorem escape_reads (start : Nat) :
    BitReads payload (BitWriter.writeBits 0 12) (GolombRiceReader.readPrefix start 12)
      (fun _ => none) := by
  refine BitReads.of_appends (BitString.ofNumber 0 12)
    (fun _ _ _ _ hholds hok => (BitWriter.writeBits_ok hholds hok).1) ?_
  intro reader rest _ _ _ _ hreader
  rw [ofNumber_zero] at hreader ⊢
  rw [readPrefix_zeros start 12 hreader, List.length_replicate]

theorem unsigned_code_reads (k bitsPerRawSample value : Nat) :
    BitReads payload (GolombRiceWriter.writeUnsigned k bitsPerRawSample value)
      (GolombRiceReader.readUnsigned k bitsPerRawSample) (fun _ => value) := by
  have hpos : 0 < 2 ^ k := by positivity
  unfold GolombRiceWriter.writeUnsigned GolombRiceReader.readUnsigned
  by_cases hregular : value ≤ 12 <<< k - 1
  · have hprefix : value >>> k < 12 := by
      rw [Nat.shiftRight_eq_div_pow, Nat.div_lt_iff_lt_mul hpos]
      rw [Nat.shiftLeft_eq] at hregular
      omega
    have hvalue : (0 + value >>> k) <<< k + value % 2 ^ k = value := by
      rw [Nat.zero_add, Nat.shiftRight_eq_div_pow, Nat.shiftLeft_eq]
      exact Nat.div_add_mod' value (2 ^ k)
    simp only [if_pos hregular]
    rw [← bind_assoc]
    refine Mirror.Copies.bind (prefix_reads hprefix 0) fun _ => ?_
    refine Mirror.Copies.bind_last (writeBits_reads (Nat.mod_lt _ hpos)) fun _ => ?_
    exact Mirror.Copies.pure hvalue
  · simp only [if_neg hregular]
    refine copies_checks fun hfits => Mirror.Copies.bind (escape_reads 0) fun _ => ?_
    have hlt : value - 11 < 2 ^ bitsPerRawSample := by
      have hwidth : 0 < 2 ^ bitsPerRawSample := by positivity
      omega
    refine Mirror.Copies.bind_last (writeBits_reads hlt) fun _ => Mirror.Copies.pure ?_
    rw [Nat.shiftLeft_eq] at hregular
    omega

/-- Folding puts the sign into the lowest bit. -/
theorem unfold_fold (value : Int) :
    (if GolombRiceWriter.fold value % 2 ≠ 0 then -((GolombRiceWriter.fold value / 2 : Nat) : Int) - 1
      else ((GolombRiceWriter.fold value / 2 : Nat) : Int)) = value := by
  unfold GolombRiceWriter.fold
  by_cases hneg : value < 0
  · rw [if_pos hneg]
    split <;> omega
  · rw [if_neg hneg]
    split <;> omega

theorem signed_code_reads (k bitsPerRawSample : Nat) {value : Int}
    (h : -2 ^ 31 ≤ value ∧ value ≤ 2 ^ 31 - 1) :
    BitReads payload (GolombRiceWriter.writeSigned k bitsPerRawSample value)
      (GolombRiceReader.readSigned k bitsPerRawSample) (fun _ => value) := by
  unfold GolombRiceWriter.writeSigned GolombRiceReader.readSigned
  refine copies_checks fun hk => copies_checks fun hbits => BitReads.looks fun reader => ?_
  refine copies_passes hk (copies_passes hbits ?_)
  refine Mirror.Copies.bind_last (Mirror.Copies.adapt (unsigned_code_reads _ _ _)) fun _ => ?_
  have hvalue := unfold_fold value
  simp only [Nat.cast_ofNat, Int.natCast_ediv] at hvalue
  simp only [hvalue]
  exact copies_passes (by omega) (Mirror.Copies.pure rfl)

section SignExtension

open GolombRiceContextState

variable {bits : Nat}

theorem signExtend_modEq (value : Int) (bits : Nat) :
    signExtend value bits ≡ value [ZMOD 2 ^ bits] := by
  have hmod := Int.mod_modEq value (2 ^ bits)
  unfold signExtend
  simp only
  split
  · exact (Int.sub_modulus_modEq_iff.mpr rfl).trans hmod
  · exact hmod

/-- Only the remainder matters. -/
theorem signExtend_congr {value value' : Int} (h : value ≡ value' [ZMOD 2 ^ bits]) :
    signExtend value bits = signExtend value' bits := by
  have hmod : value % 2 ^ bits = value' % 2 ^ bits := h
  simp only [signExtend, hmod]

theorem signExtend_bounds (hbits : bits ≠ 0) (value : Int) :
    -2 ^ (bits - 1) ≤ signExtend value bits ∧ signExtend value bits < 2 ^ (bits - 1) := by
  obtain ⟨n, rfl⟩ := Nat.exists_eq_succ_of_ne_zero hbits
  have hrange : (2 : Int) ^ (n + 1) = 2 * 2 ^ n := by ring
  have hpos : (0 : Int) < 2 ^ n := by positivity
  have hnonneg := Int.emod_nonneg value (show (2 : Int) * 2 ^ n ≠ 0 by omega)
  have hlt := Int.emod_lt_of_pos value (show (0 : Int) < 2 * 2 ^ n by omega)
  unfold signExtend
  simp only [Nat.succ_eq_add_one, Nat.add_sub_cancel, hrange]
  split <;> omega

theorem signExtend_of_bounds (hbits : bits ≠ 0) {value : Int}
    (h : -2 ^ (bits - 1) ≤ value ∧ value < 2 ^ (bits - 1)) : signExtend value bits = value := by
  obtain ⟨n, rfl⟩ := Nat.exists_eq_succ_of_ne_zero hbits
  have hbounds := signExtend_bounds hbits value
  have hrange : (2 : Int) ^ (n + 1) = 2 * 2 ^ n := by ring
  have hdvd := (signExtend_modEq value (n + 1)).dvd
  simp only [Nat.succ_eq_add_one, Nat.add_sub_cancel, hrange] at h hbounds hdvd ⊢
  have hzero := Int.eq_zero_of_abs_lt_dvd hdvd (by rw [abs_lt]; omega)
  omega

/-- The bias that the writer takes off is put on by the reader. -/
theorem signExtend_bias (value bias : Int) :
    signExtend (signExtend (value - bias) bits + bias) bits = signExtend value bits := by
  have hmod := (signExtend_modEq (value - bias) bits).add_right bias
  rw [Int.sub_add_cancel] at hmod
  exact signExtend_congr hmod

end SignExtension

theorem symbol_code_reads (state : GolombRiceContextState) (bits : Nat) (value : Int) :
    BitReads payload (state.writeSymbol bits value) (state.readSymbol bits)
      (fun state' => (GolombRiceContextState.signExtend value bits, state')) := by
  unfold GolombRiceContextState.writeSymbol GolombRiceContextState.readSymbol
  cases state.validateState with
  | error status => exact Mirror.Mirrors.of_error fun _ _ _ h => by cases h
  | ok =>
    refine copies_checks fun hbits => copies_passes hbits ?_
    cases state.deriveK with
    | error status => exact Mirror.Mirrors.of_error fun _ _ _ h => by cases h
    | ok k =>
      have hbounds := signExtend_bounds (fun hzero => hbits (.inl hzero)) (value - state.bias)
      have hpow : (2 : Int) ^ (bits - 1) ≤ 2 ^ 30 := pow_le_pow_right₀ (by decide) (by omega)
      simp only
      set adaptive := GolombRiceContextState.signExtend (value - state.bias) bits with hadaptive
      have hrange : -2 ^ 31 ≤ (if state.isInverted then -1 - adaptive else adaptive) ∧
          (if state.isInverted then -1 - adaptive else adaptive) ≤ 2 ^ 31 - 1 := by
        split <;> omega
      have hback : (if state.isInverted then
          -1 - (if state.isInverted then -1 - adaptive else adaptive)
          else if state.isInverted then -1 - adaptive else adaptive) = adaptive := by
        split <;> omega
      refine Mirror.Copies.bind (signed_code_reads k bits hrange) fun _ => ?_
      rw [hback]
      refine Mirror.Copies.pure ?_
      rw [hadaptive, signExtend_bias]

/-- A pair of calls that copy a difference up to a multiple of the range. -/
def DifferenceCopies (bits : Nat)
    (write : GolombRiceContextState → Nat → Int → Call BitWriter GolombRiceContextState)
    (read : GolombRiceContextState → Nat → Call BitReader (Int × GolombRiceContextState)) : Prop :=
  ∀ payload value, -2 ^ (bits - 1) ≤ value → value ≤ 2 ^ (bits - 1) →
    ∃ copy, copy ≡ value [ZMOD 2 ^ bits] ∧ ∀ state,
      BitReads payload (write state bits value) (read state bits) (fun state' => (copy, state'))

theorem symbol_copies (bits : Nat) : DifferenceCopies bits GolombRiceContextState.writeSymbol
    GolombRiceContextState.readSymbol :=
  fun _ value _ _ =>
    ⟨_, signExtend_modEq value bits, fun state => symbol_code_reads state bits value⟩

/-- Behind a run no difference is zero, and the others fit the range. -/
theorem interruption_copies {bits : Nat} (hbits : bits ≠ 0) :
    DifferenceCopies bits GolombRiceContextState.writeRunInterruption
      GolombRiceContextState.readRunInterruption := by
  intro payload value hlow hhigh
  refine ⟨value, rfl, fun state => ?_⟩
  unfold GolombRiceContextState.writeRunInterruption GolombRiceContextState.readRunInterruption
  refine copies_checks fun hzero => ?_
  have hpos : (0 : Int) < 2 ^ (bits - 1) := by positivity
  have hmapped : -2 ^ (bits - 1) ≤ (if 0 < value then value - 1 else value) ∧
      (if 0 < value then value - 1 else value) < 2 ^ (bits - 1) := by
    split <;> omega
  have hread := @symbol_code_reads payload state bits (if 0 < value then value - 1 else value)
  rw [signExtend_of_bounds hbits hmapped] at hread
  refine Mirror.Copies.bind_last hread fun _ => Mirror.Copies.pure ?_
  congr 1
  split <;> split <;> omega

section Runs

open GolombRiceRunState

variable {runIndex x width : Nat}

/-- A run that goes on behind the segment. -/
theorem segment_full_reads (hindex : runIndex + 1 < log2Run.length)
    (h : 2 ^ log2Run.getD runIndex 0 ≤ width - x) (hx : x ≤ width) :
    BitReads payload (BitWriter.writeBit 1) (readRunSegment { runIndex } x width)
      (fun _ => ({ count := 2 ^ log2Run.getD runIndex 0 }, { runIndex := runIndex + 1 })) := by
  unfold readRunSegment
  refine copies_passes (by simp only; omega) (copies_passes (by omega) ?_)
  simp only [ne_eq, not_true_eq_false, if_false]
  refine Mirror.Copies.bind_last (writeBit_reads 1) fun _ => ?_
  simp only [one_ne_zero, not_false_eq_true, if_true, if_pos h]
  exact copies_passes (by omega) (Mirror.Copies.pure rfl)

/-- The last segment of a run inside a row or at its end. -/
theorem segment_last_reads {remaining : Nat} (hindex : runIndex < log2Run.length)
    (hlt : remaining < 2 ^ log2Run.getD runIndex 0) (h : remaining ≤ width - x) (hx : x ≤ width) :
    BitReads payload (do
        BitWriter.writeBit 0
        BitWriter.writeBits remaining (log2Run.getD runIndex 0))
      (readRunSegment { runIndex } x width)
      (fun _ => ({ count := remaining, interrupted := true }, { runIndex := runIndex - 1 })) := by
  unfold readRunSegment
  refine copies_passes (by simp only; omega) (copies_passes (by omega) ?_)
  simp only [ne_eq, not_true_eq_false, if_false]
  refine Mirror.Copies.bind (writeBit_reads 0) fun _ => ?_
  simp only [not_true_eq_false, if_false]
  refine Mirror.Copies.bind_last (writeBits_reads hlt) fun _ => ?_
  rw [if_neg (by omega)]
  exact Mirror.Copies.pure rfl

end Runs

end Codes

end Mffv1
