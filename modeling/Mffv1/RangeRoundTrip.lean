import Mffv1.RangeCoder
import Mffv1.RangeEncoder
import Mffv1.Lib.Mirror
import Mffv1.Lib.RangeCoding

/-!
# The range coder reads what the range encoder writes

The encoder's state denotes an interval of byte expansions. `Tracks` couples it
with a decoder whose window is the offset of the final bytes in that interval;
every binary decision preserves the coupling.
-/
namespace Mffv1

open RangeCoding (Interval Expansion)
open ByteValue (value prefixValue)

/-- The bytes of a payload, continued by zeros, as a digit expansion. -/
def expansion (payload : Bytes) : Expansion 256 where
  head := prefixValue payload
  step n := by
    have hb := (payload.getD n 0).toNat_lt
    rw [ByteValue.prefixValue_succ]
    omega

@[simp] theorem expansion_head (payload : Bytes) (n : Nat) :
    (expansion payload).head n = prefixValue payload n := rfl

namespace RangeEncoder

def interval (encoder : RangeEncoder) : Interval where
  low := value encoder.lowBytes
  range := encoder.range.toNat
  digits := encoder.lowBytes.length

/-- An encoder between two decisions. -/
structure Ready (encoder : RangeEncoder) : Prop where
  initialized : encoder.initialized = true
  unfinalized : encoder.finalized = false
  range_ge : 256 ≤ encoder.range.toNat
  range_le : encoder.range.toNat ≤ 0xff00
  length_ge : 2 ≤ encoder.lowBytes.length

theorem rangeOffset_toNat {range : UInt32} (state : UInt8) (h : range.toNat ≤ 0xff00) :
    ((range * state.toUInt32) >>> 8).toNat = range.toNat * state.toNat / 256 := by
  have hs := state.toNat_lt
  have hmul : range.toNat * state.toNat < 2 ^ 32 := by nlinarith
  simp only [UInt32.toNat_shiftRight, UInt32.toNat_mul, UInt8.toNat_toUInt32,
    Nat.mod_eq_of_lt hmul, Nat.shiftRight_eq_div_pow]
  rfl

theorem rangeOffset_le (range : Nat) (state : UInt8) : range * state.toNat / 256 ≤ range := by
  have hs := state.toNat_lt
  exact Nat.div_le_of_le_mul (by nlinarith)

theorem nextRange_one_toNat {range : UInt32} (state : UInt8) (h : range.toNat ≤ 0xff00) :
    (nextRange range state true).toNat = range.toNat * state.toNat / 256 :=
  rangeOffset_toNat state h

theorem nextRange_zero_toNat {range : UInt32} (state : UInt8) (h : range.toNat ≤ 0xff00) :
    (nextRange range state false).toNat = range.toNat - range.toNat * state.toNat / 256 := by
  have hle : ((range * state.toUInt32) >>> 8) ≤ range := by
    rw [UInt32.le_iff_toNat_le, rangeOffset_toNat state h]
    exact rangeOffset_le _ state
  change (range - (range * state.toUInt32) >>> 8).toNat = _
  rw [UInt32.toNat_sub_of_le _ _ hle, rangeOffset_toNat state h]

/-- Where the part of the interval that `value` selects starts. -/
def cut (range : UInt32) (state : UInt8) (value : Bool) : Nat :=
  if value then (nextRange range state false).toNat else 0

theorem cut_add_nextRange {range : UInt32} (state : UInt8) (bit : Bool)
    (h : range.toNat ≤ 0xff00) :
    cut range state bit + (nextRange range state bit).toNat ≤ range.toNat := by
  have hle := rangeOffset_le range.toNat state
  cases bit with
  | false =>
    rw [nextRange_zero_toNat state h]
    simp only [cut, Bool.false_eq_true, if_false]
    omega
  | true =>
    rw [nextRange_one_toNat state h]
    simp only [cut, if_true, nextRange_zero_toNat state h]
    omega

/-- The interval after one decision: narrowed, and shifted when it became short. -/
def stepInterval (I : Interval) (range : UInt32) (state : UInt8) (bit : Bool) : Interval :=
  let narrowed := I.narrow (cut range state bit) (nextRange range state bit).toNat
  if nextRange range state bit < 256 then narrowed.shift 256 else narrowed

theorem addToLow_ok {delta : UInt32} {e e' : RangeEncoder} {u : Unit}
    (h : addToLow delta e = .ok u e') :
    (ByteValue.addCarry e.lowBytes delta.toNat).2 = 0 ∧
      e' = { e with lowBytes := (ByteValue.addCarry e.lowBytes delta.toNat).1 } := by
  simp only [addToLow, Mirror.get_bind, Mirror.set_bind, failIf_call_ok_iff] at h
  exact ⟨by simpa using h.1, h.2⟩

/-- The lower end after the carry of one decision. -/
def raised (e : RangeEncoder) (state : UInt8) (bit : Bool) : RangeEncoder :=
  if bit then
    { e with lowBytes :=
        (ByteValue.addCarry e.lowBytes (nextRange e.range state false).toNat).1 }
  else e

/-- The encoder after one successful decision, without its contexts. -/
def stepped (e : RangeEncoder) (state : UInt8) (bit : Bool) : RangeEncoder :=
  renormalize (nextRange e.range state bit) (raised e state bit)

theorem writeRac_ok {state s' : UInt8} {bit : Bool} {e e' : RangeEncoder}
    (h : writeRac state bit e = .ok s' e') :
    s' = nextState e.stateTransition state bit ∧ nextRange e.range state bit ≠ 0 ∧
      e' = stepped e state bit ∧
      value (raised e state bit).lowBytes = value e.lowBytes + cut e.range state bit := by
  simp only [writeRac, Mirror.get_bind, Mirror.bind_ok_iff, failIf_call_ok_iff,
    Mirror.modify_bind, Mirror.pure_apply, EStateM.Result.ok.injEq, exists_unit, and_assoc,
    exists_and_left, exists_eq_left] at h
  obtain ⟨hne, _, e₁, hadd, rfl, rfl⟩ := h
  cases bit with
  | false =>
    simp only [Bool.false_eq_true, if_false, Mirror.pure_apply, EStateM.Result.ok.injEq] at hadd
    obtain ⟨_, rfl⟩ := hadd
    exact ⟨rfl, hne, rfl, rfl⟩
  | true =>
    simp only [if_true] at hadd
    obtain ⟨hcarry, rfl⟩ := addToLow_ok hadd
    refine ⟨rfl, hne, rfl, ?_⟩
    have hv := ByteValue.addCarry_value e.lowBytes (nextRange e.range state false).toNat
    rw [hcarry, Nat.zero_mul, Nat.add_zero] at hv
    simpa only [raised, cut, if_true] using hv

@[simp] theorem raised_length (e : RangeEncoder) (state : UInt8) (bit : Bool) :
    (raised e state bit).lowBytes.length = e.lowBytes.length := by
  unfold raised
  split <;> simp

theorem raised_frame (e : RangeEncoder) (state : UInt8) (bit : Bool) :
    raised e state bit = { e with lowBytes := (raised e state bit).lowBytes } := by
  unfold raised
  split <;> rfl

theorem renormalize_frame (next : UInt32) (e : RangeEncoder) :
    renormalize next e =
      { e with lowBytes := (renormalize next e).lowBytes, range := (renormalize next e).range } := by
  unfold renormalize
  split <;> rfl

/-- A decision changes the interval only. -/
theorem stepped_frame (e : RangeEncoder) (state : UInt8) (bit : Bool) :
    stepped e state bit =
      { e with lowBytes := (stepped e state bit).lowBytes, range := (stepped e state bit).range } := by
  unfold stepped
  rw [renormalize_frame, raised_frame e state bit]

theorem shiftRange_toNat {range : UInt32} (h : range < 256) :
    (range <<< 8).toNat = 256 * range.toNat := by
  have hlt : range.toNat < 256 := UInt32.lt_iff_toNat_lt.mp h
  have hmod : range.toNat * 2 ^ 8 < 2 ^ 32 := by omega
  rw [UInt32.toNat_shiftLeft, Nat.shiftLeft_eq]
  change range.toNat * 2 ^ 8 % 2 ^ 32 = _
  rw [Nat.mod_eq_of_lt hmod]
  omega

theorem stepped_interval {e : RangeEncoder} {state : UInt8} {bit : Bool}
    (hv : value (raised e state bit).lowBytes = value e.lowBytes + cut e.range state bit) :
    (stepped e state bit).interval = stepInterval e.interval e.range state bit := by
  unfold stepped stepInterval renormalize
  by_cases hlt : nextRange e.range state bit < 256
  · simp only [hlt, if_true]
    apply Interval.ext
    · simp [interval, hv, Nat.mul_add]
    · simp [interval, shiftRange_toNat hlt]
    · simp [interval]
  · simp only [hlt, if_false]
    apply Interval.ext <;> simp [interval, hv]

theorem stepped_ready {e : RangeEncoder} {state : UInt8} {bit : Bool} (hr : e.Ready)
    (hne : nextRange e.range state bit ≠ 0) : (stepped e state bit).Ready := by
  have hle := cut_add_nextRange state bit hr.range_le
  have hlen := hr.length_ge
  have hrange := hr.range_le
  have hpos : 0 < (nextRange e.range state bit).toNat := by
    by_contra hz
    exact hne (UInt32.toNat_inj.mp (by simpa using hz))
  have hinit : (stepped e state bit).initialized = true := by
    rw [stepped_frame]; exact hr.initialized
  have hopen : (stepped e state bit).finalized = false := by
    rw [stepped_frame]; exact hr.unfinalized
  by_cases hlt : nextRange e.range state bit < 256
  · have hlt' : (nextRange e.range state bit).toNat < 256 := UInt32.lt_iff_toNat_lt.mp hlt
    refine ⟨hinit, hopen, ?_, ?_, ?_⟩
    all_goals simp only [stepped, renormalize, hlt, if_true, shiftRange_toNat hlt,
      List.length_append, raised_length]
    all_goals omega
  · have hge : ¬(nextRange e.range state bit).toNat < 256 :=
      fun h => hlt (UInt32.lt_iff_toNat_lt.mpr h)
    refine ⟨hinit, hopen, ?_, ?_, ?_⟩
    all_goals simp only [stepped, renormalize, hlt, if_false, raised_length]
    all_goals omega

/-- The final bytes agree with an encoder when they continue a point of its interval. -/
def Fits (payload : Bytes) (e : RangeEncoder) : Prop :=
  e.interval.Holds (expansion payload)

instance (payload : Bytes) (e : RangeEncoder) : Decidable (e.Fits payload) :=
  inferInstanceAs (Decidable (e.interval.Holds _))

theorem stepInterval_holds {payload : Bytes} {I : Interval} {range : UInt32} {state : UInt8}
    {bit : Bool} (h : (stepInterval I range state bit).Holds (expansion payload)) :
    (I.narrow (cut range state bit) (nextRange range state bit).toNat).Holds
      (expansion payload) := by
  unfold stepInterval at h
  by_cases hlt : nextRange range state bit < 256
  · simp only [hlt, if_true] at h
    exact Interval.Holds.of_shift h
  · simpa only [hlt, if_false] using h

end RangeEncoder

namespace RangeCoder

/-- The decoder's window is the offset of the payload in the interval. -/
structure Window (payload : Bytes) (I : Interval) (d : RangeCoder) : Prop where
  bytes : d.payload = payload
  range : d.range.toNat = I.range
  low : d.low.toNat + I.low = prefixValue payload I.digits
  position : d.bytePosition = min I.digits payload.length
  ended : d.ended = decide (payload.length ≤ I.digits)

/-- Nothing but the window differs. -/
def SameBut (d d' : RangeCoder) : Prop :=
  d' = { d with range := d'.range, low := d'.low, bytePosition := d'.bytePosition, ended := d'.ended }

theorem SameBut.trans {d₁ d₂ d₃ : RangeCoder} (h₁ : SameBut d₁ d₂) (h₂ : SameBut d₂ d₃) :
    SameBut d₁ d₃ := by
  unfold SameBut at *
  rw [h₂, h₁]

theorem refill_sameBut (d : RangeCoder) : SameBut d d.refill := by
  unfold SameBut refill
  by_cases h₁ : 256 ≤ d.range
  · simp only [h₁, if_true]
  · by_cases h₂ : d.ended = true
    · simp only [h₁, h₂, if_true, if_false]
    · by_cases h₃ : d.bytePosition < d.payload.length
      · simp only [h₁, h₂, h₃, if_true, if_false, Bool.false_eq_true]
      · simp only [h₁, h₂, h₃, if_false, Bool.false_eq_true]

theorem shiftLow_toNat {low : UInt32} (h : low.toNat < 256) : (low <<< 8).toNat = 256 * low.toNat :=
  RangeEncoder.shiftRange_toNat (UInt32.lt_iff_toNat_lt.mpr h)

theorem addByte_toNat {low : UInt32} (b : UInt8) (h : low.toNat < 256) :
    (low <<< 8 + b.toUInt32).toNat = 256 * low.toNat + b.toNat := by
  have hb := b.toNat_lt
  rw [UInt32.toNat_add, shiftLow_toNat h, UInt8.toNat_toUInt32, Nat.mod_eq_of_lt (by omega)]

/-- A short interval is shifted together with the window. -/
theorem Window.shift {payload : Bytes} {I : Interval} {d : RangeCoder} (h : Window payload I d)
    (hshort : I.range < 256) (hlow : d.low.toNat < I.range) :
    Window payload (I.shift 256) d.refill := by
  have hr : ¬256 ≤ d.range := fun hge => by
    have : 256 ≤ d.range.toNat := UInt32.le_iff_toNat_le.mp hge
    have := h.range
    omega
  have hrange : (d.range <<< 8).toNat = 256 * I.range := by
    rw [← h.range]
    exact shiftLow_toNat (by have := h.range; omega)
  have hlow' : d.low.toNat < 256 := by omega
  have hpos := h.position
  have hwin := h.low
  by_cases hend : payload.length ≤ I.digits
  · have hended : d.ended = true := by rw [h.ended]; simpa using hend
    have hzero : payload.getD I.digits 0 = 0 := List.getD_eq_default _ _ hend
    unfold refill
    simp only [hr, hended, if_false, if_true]
    refine ⟨h.bytes, hrange, ?_, ?_, ?_⟩
    · simp only [Interval.shift_low, Interval.shift_digits, ByteValue.prefixValue_succ,
        shiftLow_toNat hlow', hzero]
      simp only [UInt8.toNat_zero, Nat.add_zero]
      omega
    · simp only [Interval.shift_digits]
      omega
    · simp only [Interval.shift_digits, Nat.le_succ_of_le hend, decide_true]
  · have hended : d.ended = false := by rw [h.ended]; simpa using hend
    have hdig : d.bytePosition = I.digits := by omega
    unfold refill
    simp only [hr, hended, h.bytes, hdig, show I.digits < payload.length by omega, if_false,
      if_true, Bool.false_eq_true]
    refine ⟨rfl, hrange, ?_, ?_, ?_⟩
    · simp only [Interval.shift_low, Interval.shift_digits, ByteValue.prefixValue_succ,
        addByte_toNat _ hlow']
      omega
    · simp only [Interval.shift_digits]
      omega
    · rfl

end RangeCoder

/-- The decoder stands where the encoder stood: same range, contexts and tables,
and a window on the final bytes. `base` is what the decoder's snapshot stack
holds below the encoder's. -/
structure Tracks (payload : Bytes) (base : List ContextStateBanks) (e : RangeEncoder)
    (d : RangeCoder) : Prop where
  window : d.Window payload e.interval
  initialized : d.initialized = true
  arithmetic : d.legacyV0Arithmetic = false
  carry : d.legacyZeroSymbolCarry = false
  table : d.stateTransition = e.stateTransition
  contexts : d.scalarContexts = e.scalarContexts
  snapshots : d.scalarContextSnapshots = e.scalarContextSnapshots ++ base

def rangeChannel (payload : Bytes) : Mirror.Channel RangeEncoder where
  inv := RangeEncoder.Ready
  fits := RangeEncoder.Fits payload

section Decisions

variable {payload : Bytes} {base : List ContextStateBanks} {e : RangeEncoder} {d : RangeCoder}

open RangeEncoder (nextRange nextState cut stepInterval stepped)

theorem readRac_offset (range : UInt32) (state : UInt8) (h : range.toNat ≤ 0xff00) :
    ((range.toUInt64 * state.toUInt64 + 0) >>> 8).toUInt32 = (range * state.toUInt32) >>> 8 := by
  have hs := state.toNat_lt
  have hmul : range.toNat * state.toNat < 2 ^ 32 := by nlinarith
  apply UInt32.toNat_inj.mp
  rw [RangeEncoder.rangeOffset_toNat state h]
  simp only [UInt64.toNat_toUInt32, UInt64.toNat_shiftRight, UInt64.toNat_add, UInt64.toNat_mul,
    UInt32.toNat_toUInt64, UInt8.toNat_toUInt64, Nat.shiftRight_eq_div_pow]
  change (range.toNat * state.toNat % 2 ^ 64 + 0) % 2 ^ 64 / 2 ^ 8 % 2 ^ 32 = _
  omega

/-- With the legacy modes off, a decision compares the window with the zero part. -/
theorem readRac_eq (state : UInt8) (hinit : d.initialized = true)
    (harith : d.legacyV0Arithmetic = false) (hrange : d.range.toNat ≤ 0xff00) :
    RangeCoder.readRac state d =
      let zeroRange := nextRange d.range state false
      if d.low < zeroRange then
        .ok (false, rangeZeroState d.stateTransition state)
          ({ d with range := zeroRange } : RangeCoder).refill
      else
        .ok (true, rangeOneState d.stateTransition state)
          ({ d with low := d.low - zeroRange, range := nextRange d.range state true }
            : RangeCoder).refill := by
  have hoff := readRac_offset d.range state hrange
  simp only [RangeCoder.readRac, Mirror.get_bind, failIf, hinit, harith, Bool.true_eq_false,
    if_false, Mirror.pure_bind, Bool.false_eq_true, hoff, UInt32.add_zero]
  simp only [nextRange, if_true, Bool.false_eq_true, if_false]
  split <;> rfl

theorem readRac_tracks (hready : e.Ready) (ht : Tracks payload base e d) (state : UInt8)
    {bit : Bool} (hfits : (stepInterval e.interval e.range state bit).Holds (expansion payload)) :
    ∃ d', RangeCoder.readRac state d = .ok (bit, nextState e.stateTransition state bit) d' ∧
      d'.Window payload (stepInterval e.interval e.range state bit) ∧ d.SameBut d' := by
  have hrange : d.range = e.range := UInt32.toNat_inj.mp ht.window.range
  have hle : d.range.toNat ≤ 0xff00 := hrange ▸ hready.range_le
  have hcut := RangeEncoder.cut_add_nextRange state bit hready.range_le
  have hnarrow := RangeEncoder.stepInterval_holds hfits
  have hlow := ht.window.low
  -- The window after the branch, before it is refilled.
  obtain ⟨d₁, hread, hwin, hsame⟩ : ∃ d₁ : RangeCoder,
      RangeCoder.readRac state d =
        .ok (bit, nextState e.stateTransition state bit) d₁.refill ∧
      d₁.Window payload
        (e.interval.narrow (cut e.range state bit) (nextRange e.range state bit).toNat) ∧
      d.SameBut d₁ := by
    rw [readRac_eq state ht.initialized ht.arithmetic hle, hrange, ← ht.table]
    cases bit with
    | false =>
      have hlt : d.low < nextRange e.range state false :=
        UInt32.lt_iff_toNat_lt.mpr (Interval.Holds.offset_lt hnarrow hlow)
      refine ⟨{ d with range := nextRange e.range state false }, by simp only [hlt, if_true]; rfl,
        ⟨ht.window.bytes, rfl, ?_, ht.window.position, ht.window.ended⟩, rfl⟩
      simpa [cut] using hlow
    | true =>
      have hge : nextRange e.range state false ≤ d.low :=
        UInt32.le_iff_toNat_le.mpr (Interval.Holds.offset_ge hnarrow hlow)
      have hnlt : ¬d.low < nextRange e.range state false := UInt32.not_lt.mpr hge
      refine ⟨{ d with low := d.low - nextRange e.range state false,
                       range := nextRange e.range state true },
        by simp only [hnlt, if_false]; rfl,
        ⟨ht.window.bytes, rfl, ?_, ht.window.position, ht.window.ended⟩, rfl⟩
      simp only [Interval.narrow_low, Interval.narrow_digits, cut, if_true,
        UInt32.toNat_sub_of_le _ _ hge]
      have := UInt32.le_iff_toNat_le.mp hge
      omega
  refine ⟨d₁.refill, hread, ?_, hsame.trans (RangeCoder.refill_sameBut d₁)⟩
  unfold stepInterval
  by_cases hlt : nextRange e.range state bit < 256
  · have hlt' : (nextRange e.range state bit).toNat < 256 := UInt32.lt_iff_toNat_lt.mp hlt
    simp only [hlt, if_true]
    refine hwin.shift hlt' ?_
    have h₁ := hwin.low
    have h₂ := hnarrow.2
    simp only [expansion_head, Interval.narrow_low, Interval.narrow_digits,
      Interval.narrow_range] at h₁ h₂ ⊢
    omega
  · simp only [hlt, if_false]
    have hge : 256 ≤ d₁.range := by
      rw [UInt32.le_iff_toNat_le, hwin.range]
      exact Nat.le_of_not_lt fun h => hlt (UInt32.lt_iff_toNat_lt.mpr h)
    rwa [RangeCoder.refill_of_ge hge]

/-- One decision, mirrored. -/
theorem rac_mirrors (F : Prop) (state : UInt8) (bit : Bool) :
    Mirror.Mirrors (rangeChannel payload) F (Tracks payload base)
      (RangeEncoder.writeRac state bit) (RangeCoder.readRac state)
      (fun s r e d => r = (bit, s) ∧ Tracks payload base e d) := by
  intro e s e' hready hw
  obtain ⟨rfl, hne, rfl, hv⟩ := RangeEncoder.writeRac_ok hw
  refine ⟨RangeEncoder.stepped_ready hready hne, fun hfits => ?_⟩
  have hstep : (stepInterval e.interval e.range state bit).Holds (expansion payload) :=
    RangeEncoder.stepped_interval hv ▸ hfits
  refine ⟨(RangeEncoder.stepInterval_holds hstep).of_narrow
    (RangeEncoder.cut_add_nextRange state bit hready.range_le), fun d ht => ?_⟩
  obtain ⟨d', hread, hwin, hsame⟩ := readRac_tracks hready ht state hstep
  rw [hread]
  refine ⟨rfl, ?_⟩
  rw [hsame] at hwin ⊢
  have hframe := RangeEncoder.stepped_frame e state bit
  exact ⟨RangeEncoder.stepped_interval hv ▸ hwin, ht.initialized, ht.arithmetic, ht.carry,
    by rw [hframe]; exact ht.table, by rw [hframe]; exact ht.contexts,
    by rw [hframe]; exact ht.snapshots⟩

end Decisions

end Mffv1
