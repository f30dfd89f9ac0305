import Mffv1.RangeReads
import Mffv1.SampleRoundTrip

/-!
# The carry of legacy range coding

A legacy decoder adds one to its window behind every zero scalar. From there on it reads the
payload with those carries: where they leave it in the interval of the encoder, its decisions
are the coded ones.
-/
namespace Mffv1

open ByteValue (prefixValue)
open RangeEncoder (nextRange nextState cut stepInterval stepped)

namespace RangeEncoder

/-- What one stands for at the last byte that has been reached, if it was added when
`digits` bytes had been. -/
def weight (digits : Nat) (encoder : RangeEncoder) : Nat := 256 ^ (encoder.byteCount - digits)

/-- The final bytes stay in the interval with `slack` added at its last byte. -/
def Room (payload : Bytes) (slack : Nat) (encoder : RangeEncoder) : Prop :=
  encoder.interval.Room (expansion payload) slack

instance (payload : Bytes) (slack : Nat) (encoder : RangeEncoder) :
    Decidable (encoder.Room payload slack) :=
  inferInstanceAs (Decidable (encoder.interval.Room _ _))

/-- What a decision multiplies the weights by. -/
def stepWeight (range : UInt32) (state : UInt8) (bit : Bool) : Nat :=
  if nextRange range state bit < 256 then 256 else 1

theorem weight_stepped {digits : Nat} {e : RangeEncoder} (h : digits ≤ e.byteCount) (state : UInt8)
    (bit : Bool) :
    digits ≤ (stepped e state bit).byteCount ∧
      (stepped e state bit).weight digits = stepWeight e.range state bit * e.weight digits := by
  unfold byteCount at h
  unfold weight stepWeight stepped renormalize byteCount
  by_cases hshort : nextRange e.range state bit < 256
  · simp only [hshort, if_true, List.length_append, List.length_singleton, raised_length]
    refine ⟨by omega, ?_⟩
    rw [Nat.sub_add_comm h, pow_succ, Nat.mul_comm]
  · simp only [hshort, if_false, raised_length, Nat.one_mul]
    exact ⟨h, trivial⟩

theorem stepInterval_room {payload : Bytes} {I : RangeCoding.Interval} {range : UInt32}
    {state : UInt8} {bit : Bool} {slack : Nat}
    (h : (stepInterval I range state bit).Room (expansion payload)
      (stepWeight range state bit * slack)) :
    (I.narrow (cut range state bit) (nextRange range state bit).toNat).Room (expansion payload)
      slack := by
  unfold stepInterval stepWeight at h
  by_cases hshort : nextRange range state bit < 256
  · simp only [hshort, if_true] at h
    exact h.of_shift
  · simpa only [hshort, if_false, Nat.one_mul] using h

end RangeEncoder

namespace RangeCoder

/-- A coder that the carries have come to, at the end of its window, within open scopes. -/
def lifted (scopes : List ContextStateBanks) (carry : Nat) (coder : RangeCoder) : RangeCoder :=
  { coder with
    low := coder.low + UInt32.ofNat carry
    scalarContextSnapshots := scopes
    legacyZeroSymbolCarry := true }

theorem shiftLow_add (low : UInt32) (carry : Nat) :
    (low + UInt32.ofNat carry) <<< 8 = low <<< 8 + UInt32.ofNat (256 * carry) := by
  apply UInt32.toNat_inj.mp
  simp only [UInt32.toNat_shiftLeft, UInt32.toNat_add, UInt32.toNat_ofNat', Nat.shiftLeft_eq]
  change (low.toNat + carry % 2 ^ 32) % 2 ^ 32 * 2 ^ 8 % 2 ^ 32 =
    (low.toNat * 2 ^ 8 % 2 ^ 32 + 256 * carry % 2 ^ 32) % 2 ^ 32
  omega

/-- The carries are shifted together with the window. -/
theorem refill_lifted (scopes : List ContextStateBanks) (carry : Nat) (coder : RangeCoder) :
    (coder.lifted scopes carry).refill =
      coder.refill.lifted scopes ((if coder.range < 256 then 256 else 1) * carry) := by
  unfold refill lifted
  by_cases hwide : 256 ≤ coder.range
  · simp only [if_pos hwide, if_neg (UInt32.not_lt.mpr hwide), Nat.one_mul]
  · simp only [if_neg hwide, if_pos (UInt32.not_le.mp hwide), shiftLow_add]
    split
    · rfl
    · split
      · simp only [UInt32.add_assoc, UInt32.add_comm (UInt32.ofNat (256 * carry))]
      · rfl

end RangeCoder

/-- The window with the carries, while they are smaller than its 32 bits. -/
def carryMax : Nat := 2 ^ 32 - 0xff00

/-- An encoder while a scalar is written: `carry` was carried when it had reached `digits`
bytes, and what comes of `settled` leaves the final bytes in the interval. -/
def carryChannel (payload : Bytes) (digits carry settled : Nat) : Mirror.Channel RangeEncoder where
  inv e := e.Ready ∧ digits ≤ e.byteCount
  fits e := e.Fits payload ∧ e.Room payload (e.weight digits * settled) ∧
    e.weight digits * carry ≤ carryMax

/-- The decoder stands where the encoder stood but for its carries. -/
def CarriedOn (payload : Bytes) (scopes : List ContextStateBanks) (digits carry : Nat)
    (e : RangeEncoder) (d : RangeCoder) : Prop :=
  ∃ plain, Tracks payload [] e plain ∧ d = plain.lifted scopes (e.weight digits * carry)

section Decisions

variable {payload : Bytes} {scopes : List ContextStateBanks} {F : Prop}
  {digits carry settled : Nat} {bit : Bool}

/-- A decision that the carries do not change. -/
theorem readRac_lifted (scopes : List ContextStateBanks) {plain plain' : RangeCoder}
    {state next : UInt8}
    (hinit : plain.initialized = true) (harith : plain.legacyV0Arithmetic = false)
    (hrange : plain.range.toNat ≤ 0xff00) (hwindow : plain.low.toNat + carry < 2 ^ 32)
    (hzero : bit = false →
      plain.low.toNat + carry < (nextRange plain.range state false).toNat)
    (hread : RangeCoder.readRac state plain = .ok (bit, next) plain') :
    RangeCoder.readRac state (plain.lifted scopes carry) =
      .ok (bit, next) (plain'.lifted scopes (RangeEncoder.stepWeight plain.range state bit * carry)) := by
  have hlow : (plain.lifted scopes carry).low.toNat = plain.low.toNat + carry := by
    change (plain.low + UInt32.ofNat carry).toNat = _
    rw [UInt32.toNat_add, UInt32.toNat_ofNat', Nat.mod_eq_of_lt (show carry < 2 ^ 32 by omega),
      Nat.mod_eq_of_lt hwindow]
  rw [readRac_eq state hinit harith hrange] at hread
  rw [readRac_eq (d := plain.lifted scopes carry) state hinit harith hrange]
  have hrangeSame : (plain.lifted scopes carry).range = plain.range := rfl
  dsimp only at hread ⊢
  rw [hrangeSame]
  by_cases hbit : plain.low < nextRange plain.range state false
  · rw [if_pos hbit] at hread
    obtain ⟨hresult, rfl⟩ := EStateM.Result.ok.inj hread
    obtain ⟨rfl, rfl⟩ := Prod.mk.inj hresult
    rw [if_pos (UInt32.lt_iff_toNat_lt.mpr (hlow ▸ hzero rfl))]
    exact congrArg _ (RangeCoder.refill_lifted scopes carry
      { plain with range := nextRange plain.range state false })
  · rw [if_neg hbit] at hread
    obtain ⟨hresult, rfl⟩ := EStateM.Result.ok.inj hread
    obtain ⟨rfl, rfl⟩ := Prod.mk.inj hresult
    have hone : ¬(plain.lifted scopes carry).low < nextRange plain.range state false := by
      rw [UInt32.lt_iff_toNat_lt] at hbit ⊢
      omega
    have hsub : plain.low + UInt32.ofNat carry - nextRange plain.range state false =
        plain.low - nextRange plain.range state false + UInt32.ofNat carry := by
      rw [UInt32.sub_eq_add_neg, UInt32.sub_eq_add_neg, UInt32.add_assoc, UInt32.add_assoc,
        UInt32.add_comm (UInt32.ofNat carry)]
    have hrefilled := RangeCoder.refill_lifted scopes carry { plain with
      low := plain.low - nextRange plain.range state false
      range := nextRange plain.range state true }
    rw [if_neg hone]
    unfold RangeCoder.lifted at hrefilled ⊢
    dsimp only at hrefilled ⊢
    rw [hsub, hrefilled]
    rfl

theorem rac_carriedOn (hbit : bit = false → carry ≤ settled) (state : UInt8) :
    Mirror.Mirrors (carryChannel payload digits carry settled) F
      (CarriedOn payload scopes digits carry) (RangeEncoder.writeRac state bit)
      (RangeCoder.readRac state)
      (fun s r e d => r = (bit, s) ∧ CarriedOn payload scopes digits carry e d) := by
  intro e s e' hinv hw
  obtain ⟨hready, hdigits⟩ := hinv
  have hmirror : Mirror.Mirrors (rangeChannel payload) False (Tracks payload []) _ _ _ :=
    rac_mirrors False state bit
  obtain ⟨hready', hplain⟩ := hmirror e s e' hready hw
  obtain ⟨-, -, rfl, hv⟩ := RangeEncoder.writeRac_ok hw
  obtain ⟨hreached, hweight⟩ := RangeEncoder.weight_stepped hdigits state bit
  refine ⟨⟨hready', hreached⟩, fun hfits => ?_⟩
  obtain ⟨hpayload, hroom, hmax⟩ := hfits
  obtain ⟨hpayloadBefore, hplainRead⟩ := hplain hpayload
  rw [RangeEncoder.Room, RangeEncoder.stepped_interval hv, hweight, Nat.mul_assoc] at hroom
  have hnarrow := RangeEncoder.stepInterval_room hroom
  have hwindow : e.weight digits * carry ≤ carryMax := by
    refine le_trans ?_ hmax
    rw [hweight, Nat.mul_assoc]
    unfold RangeEncoder.stepWeight
    split <;> omega
  refine ⟨⟨hpayloadBefore, hnarrow.of_narrow
    (RangeEncoder.cut_add_nextRange state bit hready.range_le), hwindow⟩, ?_⟩
  rintro d ⟨plain, htracks, rfl⟩
  obtain ⟨r, plain', hread, rfl, htracks'⟩ := (hplainRead plain htracks).result
  have hrange : plain.range = e.range := UInt32.toNat_inj.mp htracks.window.range
  have hlow : plain.low.toNat + e.interval.low = prefixValue payload e.interval.digits :=
    htracks.window.low
  have hbelow : prefixValue payload e.interval.digits < e.interval.low + e.range.toNat :=
    hpayloadBefore.2
  have hle := hready.range_le
  have hlowCarried : plain.low.toNat + e.weight digits * carry < 2 ^ 32 := by
    unfold carryMax at hwindow
    omega
  have hzero (hfalse : bit = false) : plain.low.toNat + e.weight digits * carry <
      (nextRange plain.range state false).toNat := by
    have hsettled := Nat.mul_le_mul_left (e.weight digits) (hbit hfalse)
    subst hfalse
    simp only [RangeCoding.Interval.Room, RangeCoding.Interval.narrow_digits,
      RangeCoding.Interval.narrow_low, RangeCoding.Interval.narrow_range, expansion_head, cut,
      Bool.false_eq_true, if_false] at hnarrow
    rw [hrange]
    omega
  rw [readRac_lifted scopes htracks.initialized htracks.arithmetic (hrange ▸ hle) hlowCarried hzero
    hread, hrange, ← Nat.mul_assoc, ← hweight]
  exact ⟨rfl, plain', htracks', rfl⟩

end Decisions

section Scalars

open RangeEncoder (writeDecisions symbolDecisions)
open RangeCoder (readScalar)

variable {payload : Bytes} {scopes : List ContextStateBanks} {F : Prop} {digits carry settled : Nat}
  (bank context : Nat)

theorem CarriedOn.contexts {e : RangeEncoder} {d : RangeCoder}
    (h : CarriedOn payload scopes digits carry e d) : e.scalarContexts = d.scalarContexts := by
  obtain ⟨plain, htracks, rfl⟩ := h
  exact htracks.contexts.symm

theorem carriedOn_sharesContexts : SharesContexts (carryChannel payload digits carry settled)
    (CarriedOn payload scopes digits carry) where
  same _ _ h := h.contexts
  replace := by
    rintro e d contexts ⟨plain, htracks, rfl⟩
    exact ⟨_, tracks_sharesContexts.replace e plain contexts htracks, rfl⟩
  inv _ _ h := ⟨⟨h.1.1, h.1.2, h.1.3, h.1.4, h.1.5⟩, h.2⟩
  fits _ _ h := h

theorem racAt_carriedOn {bit : Bool} (hbit : bit = false → carry ≤ settled) (index : Fin 32) :
    Mirror.Copies (carryChannel payload digits carry settled) F
      (CarriedOn payload scopes digits carry) (RangeEncoder.racAt bank context index bit)
      (RangeCoder.racAt bank context index) (fun _ => bit) :=
  racAt_copies carriedOn_sharesContexts (rac_carriedOn hbit) index

/-- A scalar that is not zero is read as it was written, if all that is carried leaves its
decisions alone. -/
theorem nonzero_carriedOn (negative : Bool) {magnitude : Nat} (hzero : magnitude ≠ 0)
    (hmax : magnitude ≤ RangeCoder.int64Max) :
    Mirror.Copies (carryChannel payload digits carry carry) F
      (CarriedOn payload scopes digits carry)
      (writeDecisions bank context (symbolDecisions true magnitude negative))
      (readScalar bank context true) (fun _ => signedValue true magnitude negative) := by
  have hrac (index : Fin 32) (bit : Bool) : Mirror.Copies (carryChannel payload digits carry carry)
      F (CarriedOn payload scopes digits carry) _ _ _ :=
    racAt_carriedOn bank context (fun _ : bit = false => le_refl carry) index
  unfold symbolDecisions readScalar
  refine Mirror.Copies.bind (hrac 0 _) fun _ => ?_
  simp only [hzero, decide_false, if_false, Bool.false_eq_true]
  exact magnitude_copies hrac true negative hzero hmax

/-- Behind a zero there is one carry more. -/
theorem zero_carriedOn (negative : Bool) :
    Mirror.Mirrors (carryChannel payload digits carry settled) F
      (CarriedOn payload scopes digits carry)
      (writeDecisions bank context (symbolDecisions true 0 negative))
      (readScalar bank context true)
      (fun _ x e d => x = 0 ∧ ∃ plain, Tracks payload [] e plain ∧
        d = plain.lifted scopes (e.weight digits * carry + 1)) := by
  unfold symbolDecisions readScalar
  simp only [decide_true, if_true]
  refine Mirror.Mirrors.bind_eq _ (racAt_carriedOn bank context (by simp) 0) fun _ => ?_
  intro e u e' hinv hw
  simp only [writeDecisions, Mirror.pure_apply, EStateM.Result.ok.injEq] at hw
  obtain ⟨_, rfl⟩ := hw
  refine ⟨hinv, fun hfits => ⟨hfits, ?_⟩⟩
  rintro d ⟨plain, htracks, rfl⟩
  refine ⟨rfl, plain, htracks, ?_⟩
  simp only [RangeCoder.lifted, UInt32.ofNat_add, UInt32.add_assoc, if_true]
  rfl

end Scalars

/-- An encoder with what the zeros that it has written carry, at the last byte that it has
reached: all of it, and what was carried ahead of the last symbol that is not zero. -/
structure CarryingEncoder where
  encoder : RangeEncoder
  carry : Nat := 0
  settled : Nat := 0
  deriving DecidableEq

namespace CarryingEncoder

/-- The encoder behind the symbol `value`. -/
def follow (coder : CarryingEncoder) (value : Int) (encoder : RangeEncoder) : CarryingEncoder :=
  let weight := encoder.weight coder.encoder.byteCount
  if value = 0 then
    { encoder, carry := weight * coder.carry + 1, settled := weight * coder.settled }
  else { encoder, carry := weight * coder.carry, settled := weight * coder.carry }

def writeSigned (bank context : Nat) (value : Int) : Call CarryingEncoder Unit := fun coder =>
  match RangeEncoder.writeSigned bank context value coder.encoder with
  | .ok _ encoder => .ok () (coder.follow value encoder)
  | .error status encoder => .error status { coder with encoder }

instance : SymbolSink CarryingEncoder where
  writeSigned := writeSigned

theorem follow_zero (coder : CarryingEncoder) (encoder : RangeEncoder) :
    coder.follow 0 encoder = {
      encoder
      carry := encoder.weight coder.encoder.byteCount * coder.carry + 1
      settled := encoder.weight coder.encoder.byteCount * coder.settled } := by
  unfold follow
  exact if_pos rfl

theorem follow_of_ne (coder : CarryingEncoder) {value : Int} (h : value ≠ 0)
    (encoder : RangeEncoder) : coder.follow value encoder = {
      encoder
      carry := encoder.weight coder.encoder.byteCount * coder.carry
      settled := encoder.weight coder.encoder.byteCount * coder.carry } :=
  if_neg h

/-- The carries leave the bytes in the interval of the encoder, and the window has room for
them. -/
structure Kept (payload : Bytes) (coder : CarryingEncoder) : Prop where
  settled : coder.encoder.Room payload coder.settled
  carry : coder.carry ≤ carryMax

instance (payload : Bytes) (coder : CarryingEncoder) : Decidable (coder.Kept payload) :=
  decidable_of_iff (coder.encoder.Room payload coder.settled ∧ coder.carry ≤ carryMax)
    ⟨fun h => ⟨h.1, h.2⟩, fun h => ⟨h.settled, h.carry⟩⟩

end CarryingEncoder

/-- The encoder fits the bytes with its carries. -/
def legacyChannel (payload : Bytes) : Mirror.Channel CarryingEncoder where
  inv coder := coder.encoder.Ready ∧ coder.settled ≤ coder.carry
  fits coder := coder.encoder.Fits payload ∧ coder.Kept payload

/-- The decoder stands where the encoder stands but for the carries. -/
def Carried (payload : Bytes) (scopes : List ContextStateBanks) (coder : CarryingEncoder)
    (d : RangeCoder) : Prop :=
  ∃ plain, Tracks payload [] coder.encoder plain ∧ d = plain.lifted scopes coder.carry

section Symbols

variable {payload : Bytes} {scopes : List ContextStateBanks} {F : Prop}

theorem RangeEncoder.weight_self (e : RangeEncoder) : e.weight e.byteCount = 1 := by
  rw [weight, Nat.sub_self, pow_zero]

theorem RangeEncoder.Room.mono {e : RangeEncoder} {slack slack' : Nat} (h : e.Room payload slack)
    (hle : slack' ≤ slack) : e.Room payload slack' :=
  Nat.lt_of_le_of_lt (Nat.add_le_add_left hle _) h

/-- The channel of a symbol, with its encoder. -/
theorem Carried.of_digits {coder : CarryingEncoder} {d : RangeCoder}
    (h : Carried payload scopes coder d) :
    CarriedOn payload scopes coder.encoder.byteCount coder.carry coder.encoder d := by
  obtain ⟨plain, htracks, rfl⟩ := h
  refine ⟨plain, htracks, ?_⟩
  rw [RangeEncoder.weight_self, Nat.one_mul]

variable {coder : CarryingEncoder} {encoder : RangeEncoder} {bank context : Nat}

/-- A zero. -/
theorem zero_carried (hinv : (legacyChannel payload).inv coder) {u : Unit}
    (hwrite : RangeEncoder.writeSigned bank context 0 coder.encoder = .ok u encoder) :
    (legacyChannel payload).inv (coder.follow 0 encoder) ∧
      ((legacyChannel payload).fits (coder.follow 0 encoder) → (legacyChannel payload).fits coder ∧
        ∀ d, Carried payload scopes coder d → Mirror.Outcome F
          (fun x d' => x = 0 ∧ Carried payload scopes (coder.follow 0 encoder) d')
          (RangeCoder.readSigned bank context d)) := by
  obtain ⟨hready, hsettled⟩ := hinv
  have hmirror : Mirror.Mirrors
      (carryChannel payload coder.encoder.byteCount coder.carry coder.settled) F
      (CarriedOn payload scopes coder.encoder.byteCount coder.carry)
      (RangeEncoder.writeSigned bank context 0) (RangeCoder.readSigned bank context) _ :=
    signed_mirrors_of_scalar bank context (fun _ _ h => h.contexts) fun _ =>
      zero_carriedOn bank context (decide ((0 : Int) < 0))
  obtain ⟨⟨hready', -⟩, hback⟩ := hmirror coder.encoder u encoder ⟨hready, le_refl _⟩ hwrite
  rw [coder.follow_zero]
  refine ⟨⟨hready', Nat.le_succ_of_le (Nat.mul_le_mul_left _ hsettled)⟩, ?_⟩
  rintro ⟨hfits, hkept⟩
  obtain ⟨⟨hfitsBefore, hroom, hmax⟩, hread⟩ :=
    hback ⟨hfits, hkept.settled, (Nat.le_succ _).trans hkept.carry⟩
  rw [RangeEncoder.weight_self, Nat.one_mul] at hroom hmax
  exact ⟨⟨hfitsBefore, hroom, hmax⟩, fun d hd => hread d hd.of_digits⟩

/-- Another symbol. -/
theorem nonzero_carried {value : Int} (hvalue : value ≠ 0)
    (hinv : (legacyChannel payload).inv coder) {u : Unit}
    (hwrite : RangeEncoder.writeSigned bank context value coder.encoder = .ok u encoder) :
    (legacyChannel payload).inv (coder.follow value encoder) ∧
      ((legacyChannel payload).fits (coder.follow value encoder) →
        (legacyChannel payload).fits coder ∧
        ∀ d, Carried payload scopes coder d → Mirror.Outcome F
          (fun x d' => x = value ∧ Carried payload scopes (coder.follow value encoder) d')
          (RangeCoder.readSigned bank context d)) := by
  obtain ⟨hready, hsettled⟩ := hinv
  have hmirror : Mirror.Copies
      (carryChannel payload coder.encoder.byteCount coder.carry coder.carry) F
      (CarriedOn payload scopes coder.encoder.byteCount coder.carry)
      (RangeEncoder.writeSigned bank context value) (RangeCoder.readSigned bank context) _ :=
    signed_mirrors_of_scalar bank context (fun _ _ h => h.contexts) fun hmax =>
      nonzero_carriedOn bank context (decide (value < 0)) (Int.natAbs_ne_zero.mpr hvalue) hmax
  obtain ⟨⟨hready', -⟩, hback⟩ := hmirror coder.encoder u encoder ⟨hready, le_refl _⟩ hwrite
  rw [coder.follow_of_ne hvalue]
  refine ⟨⟨hready', le_refl _⟩, ?_⟩
  rintro ⟨hfits, hkept⟩
  obtain ⟨⟨hfitsBefore, hroom, hmax⟩, hread⟩ := hback ⟨hfits, hkept.settled, hkept.carry⟩
  rw [RangeEncoder.weight_self, Nat.one_mul] at hroom hmax
  refine ⟨⟨hfitsBefore, hroom.mono hsettled, hmax⟩, fun d hd => ?_⟩
  refine (hread d hd.of_digits).imp id fun x d' hx => ?_
  rw [signedValue_natAbs] at hx
  exact hx

/-- Every symbol that is written is read back where the carries leave it alone. -/
theorem legacy_copies : SymbolCopies (legacyChannel payload) F (Carried payload scopes) := by
  intro bank context value coder u coder' hinv hw
  simp only [SymbolSink.writeSigned, CarryingEncoder.writeSigned] at hw
  cases hwrite : RangeEncoder.writeSigned bank context value coder.encoder with
  | error status encoder =>
    rw [hwrite] at hw
    cases hw
  | ok v encoder =>
    rw [hwrite] at hw
    obtain ⟨-, rfl⟩ := EStateM.Result.ok.inj hw
    by_cases hvalue : value = 0
    · subst hvalue
      exact zero_carried hinv hwrite
    · exact nonzero_carried hvalue hinv hwrite

end Symbols

end Mffv1
