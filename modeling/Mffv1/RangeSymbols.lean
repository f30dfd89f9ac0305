import Mffv1.RangeRoundTrip

/-!
# Reading back scalars, contexts and whole streams

`Reads` says that a decoder call reads what an encoder call writes. It composes
along `do` blocks, so that a reader of a syntax element is checked against the
writer of that element line by line.
-/
namespace Mffv1

open ByteValue (prefixValue)

/-- On coupled states `r` reads `k a` while `w` writes and returns `a`, or refuses
where `F` allows it. -/
def Reads (payload : Bytes) (base : List ContextStateBanks) (F : Prop) {α β : Type}
    (w : Call RangeEncoder α) (r : Call RangeCoder β) (k : α → β) : Prop :=
  Mirror.Mirrors (rangeChannel payload) F (Tracks payload base) w r
    (fun a x e d => x = k a ∧ Tracks payload base e d)

theorem checkOpen_ok {e e' : RangeEncoder} {u : Unit} (h : RangeEncoder.checkOpen e = .ok u e') :
    e' = e ∧ e.initialized = true ∧ e.finalized = false := by
  simp only [RangeEncoder.checkOpen, Mirror.get_bind, Mirror.bind_ok_iff, failIf_call_ok_iff,
    exists_unit, and_assoc, exists_and_left, exists_eq_left] at h
  exact ⟨h.2.2, by simpa using h.1, by simpa using h.2.1⟩

section Rules

variable {payload : Bytes} {base : List ContextStateBanks} {F : Prop} {α β γ κ : Type}
  {w : Call RangeEncoder α} {r : Call RangeCoder β} {k : α → β} {k' : γ → κ}

theorem Reads.bind {f : α → Call RangeEncoder γ} {g : β → Call RangeCoder κ}
    (h₁ : Reads payload base F w r k) (h₂ : ∀ a, Reads payload base F (f a) (g (k a)) k') :
    Reads payload base F (w >>= f) (r >>= g) k' :=
  Mirror.Copies.bind h₁ h₂

theorem Reads.bind_of {φ : α → Prop} {f : α → Call RangeEncoder γ} {g : β → Call RangeCoder κ}
    (hφ : Mirror.Returns w φ) (h₁ : Reads payload base F w r k)
    (h₂ : ∀ a, φ a → Reads payload base F (f a) (g (k a)) k') :
    Reads payload base F (w >>= f) (r >>= g) k' :=
  Mirror.Copies.bind_of hφ h₁ h₂

theorem Reads.pure {a : α} {b : β} (h : b = k a) :
    Reads payload base F (Pure.pure a) (Pure.pure b) k :=
  Mirror.Copies.pure h

theorem Reads.congr {k₂ : α → β} (h : Reads payload base F w r k) (hk : ∀ a, k a = k₂ a) :
    Reads payload base F w r k₂ :=
  Mirror.Copies.congr h hk

theorem Reads.bind_last {g : β → Call RangeCoder κ} {k' : α → κ}
    (h₁ : Reads payload base F w r k) (h₂ : ∀ a, Reads payload base F (Pure.pure a) (g (k a)) k') :
    Reads payload base F w (r >>= g) k' :=
  Mirror.Copies.bind_last h₁ h₂

theorem Reads.map (f : β → κ) (h : Reads payload base F w r k) :
    Reads payload base F w (do return f (← r)) (fun a => f (k a)) :=
  Mirror.Copies.map f h

theorem Reads.passes {condition : Prop} [Decidable condition] {error : Error}
    {g : PUnit → Call RangeCoder β} (hnot : ¬condition) (h : Reads payload base F w (g ⟨⟩) k) :
    Reads payload base F w (failIf condition error >>= g) k :=
  copies_passes hnot h

theorem Reads.checks {condition : Prop} [Decidable condition] {error : Error}
    {f : PUnit → Call RangeEncoder α}
    (h : ¬condition → Reads payload base F (f ⟨⟩) r k) :
    Reads payload base F (failIf condition error >>= f) r k :=
  copies_checks h

/-- `Reads` only has to be shown for writes on an open encoder. -/
theorem Reads.checkOpen {f : Unit → Call RangeEncoder α}
    (h : Reads payload base F (f ()) r k) :
    Reads payload base F (RangeEncoder.checkOpen >>= f) r k := by
  intro e u e' hready hw
  obtain ⟨_, e₁, hopen, hrest⟩ := Mirror.bind_ok_iff.mp hw
  obtain ⟨rfl, -⟩ := checkOpen_ok hopen
  exact h _ u e' hready hrest

end Rules

section Scalars

variable {C : Mirror.Channel RangeEncoder} {F : Prop} {P : RangeEncoder → RangeCoder → Prop}
  {bank context : Nat}

open RangeEncoder (writeDecisions exponentDecisions mantissaDecisions symbolDecisions)
open RangeCoder (readExponent readMantissa readScalar)

/-- `racAt` behind the look at the state. -/
def RangeCoder.racFrom (bank context : Nat) (index : Fin 32) (state : UInt8) :
    Call RangeCoder Bool := do
  let (bit, next) ← RangeCoder.readRac state
  modify fun coder =>
    { coder with scalarContexts := coder.scalarContexts.setStateAt bank context index next }
  return bit

theorem RangeCoder.racAt_eq (bank context : Nat) (index : Fin 32) :
    RangeCoder.racAt bank context index = (do
      let coder ← get
      RangeCoder.racFrom bank context index (coder.scalarContexts.stateAt bank context index)) := rfl

/-- The contexts of a coder and of an encoder are the same, and neither the channel nor the
coupling looks at them otherwise. -/
structure SharesContexts (C : Mirror.Channel RangeEncoder) (P : RangeEncoder → RangeCoder → Prop) :
    Prop where
  same : ∀ e d, P e d → e.scalarContexts = d.scalarContexts
  replace : ∀ e d contexts, P e d →
    P { e with scalarContexts := contexts } { d with scalarContexts := contexts }
  inv : ∀ e contexts, C.inv e → C.inv { e with scalarContexts := contexts }
  fits : ∀ (e : RangeEncoder) contexts, C.fits { e with scalarContexts := contexts } → C.fits e

/-- A decision on a state of a context. -/
theorem racAt_copies (hshares : SharesContexts C P) {bit : Bool}
    (hrac : ∀ state, Mirror.Mirrors C F P (RangeEncoder.writeRac state bit)
      (RangeCoder.readRac state) (fun s r e d => r = (bit, s) ∧ P e d)) (index : Fin 32) :
    Mirror.Copies C F P (RangeEncoder.racAt bank context index bit)
      (RangeCoder.racAt bank context index) (fun _ => bit) := by
  rw [RangeCoder.racAt_eq]
  refine Mirror.Mirrors.view (P := P)
    (fun e : RangeEncoder => e.scalarContexts.stateAt bank context index)
    (fun d : RangeCoder => d.scalarContexts.stateAt bank context index)
    (fun state => do
      let s ← RangeEncoder.writeRac state bit
      modify fun e =>
        { e with scalarContexts := e.scalarContexts.setStateAt bank context index s })
    (RangeCoder.racFrom bank context index)
    (fun e d hd => by rw [hshares.same e d hd]) fun state => ?_
  unfold RangeCoder.racFrom
  refine Mirror.Mirrors.bind_eq _ (hrac state) (fun s => ?_)
  intro e u e' hinv hw
  simp only [Mirror.modify_apply, EStateM.Result.ok.injEq] at hw
  obtain ⟨_, rfl⟩ := hw
  refine ⟨hshares.inv e _ hinv, fun hfits => ⟨hshares.fits e _ hfits, fun d hd => ⟨rfl, ?_⟩⟩⟩
  have hreplaced := hshares.replace e d (e.scalarContexts.setStateAt bank context index s) hd
  rw [hshares.same e d hd] at hreplaced ⊢
  exact hreplaced

theorem writeDecisions_append (xs ys : List RangeEncoder.Decision) :
    writeDecisions bank context (xs ++ ys) =
      (do writeDecisions bank context xs; writeDecisions bank context ys) := by
  induction xs with
  | nil => simp [writeDecisions]
  | cons x xs ih => simp [writeDecisions, ih]

/-- The next mantissa bit extends the magnitude read so far. -/
theorem mantissa_step (magnitude bit : Nat) :
    2 * (magnitude / 2 ^ (bit + 1)) + (magnitude.testBit bit).toNat = magnitude / 2 ^ bit := by
  rw [Nat.testBit_eq_decide_div_mod_eq, pow_succ, ← Nat.div_div_eq_div_mul]
  rcases Nat.mod_two_eq_zero_or_one (magnitude / 2 ^ bit) with h | h
  · simp only [h, zero_ne_one, decide_false, Bool.toNat_false]
    omega
  · simp only [h, decide_true, Bool.toNat_true]
    omega

/-- The scalar that a magnitude and a sign stand for. -/
def signedValue (isSigned : Bool) (magnitude : Nat) (negative : Bool) : Int :=
  if isSigned && negative then -(magnitude : Int) else magnitude

theorem log2_lt_of_le_int64Max {magnitude : Nat} (h₀ : magnitude ≠ 0)
    (h : magnitude ≤ RangeCoder.int64Max) : magnitude.log2 < 63 := by
  rw [Nat.log2_lt h₀]
  unfold RangeCoder.int64Max at h
  omega

/-- The leading bit of a magnitude, where the mantissa starts. -/
theorem div_two_pow_log2 {magnitude : Nat} (h : magnitude ≠ 0) :
    magnitude / 2 ^ magnitude.log2 = 1 := by
  have hle := Nat.log2_self_le h
  have hlt : magnitude < 2 ^ (magnitude.log2 + 1) := Nat.lt_log2_self
  rw [pow_succ] at hlt
  exact Nat.div_eq_of_lt_le (by omega) (by omega)

section Decided

variable (hrac : ∀ index bit, Mirror.Copies C F P (RangeEncoder.racAt bank context index bit)
  (RangeCoder.racAt bank context index) (fun _ => bit))
include hrac

theorem exponent_copies (exponent count fuel : Nat) (h : count < fuel) :
    Mirror.Copies C F P (writeDecisions bank context (exponentDecisions exponent count))
      (readExponent bank context exponent fuel) (fun _ => exponent + count) := by
  induction count generalizing exponent fuel with
  | zero =>
    obtain ⟨fuel, rfl⟩ := Nat.exists_eq_succ_of_ne_zero (Nat.ne_of_gt h)
    exact Mirror.Copies.bind (hrac _ false) fun _ => Mirror.Copies.pure rfl
  | succ count ih =>
    obtain ⟨fuel, rfl⟩ := Nat.exists_eq_succ_of_ne_zero (Nat.ne_of_gt (Nat.zero_lt_of_lt h))
    have hrest := ih (exponent + 1) fuel (by omega)
    rw [Nat.add_assoc, Nat.add_comm 1 count] at hrest
    exact Mirror.Copies.bind (hrac _ true) fun _ => hrest

theorem mantissa_copies (magnitude count : Nat) :
    Mirror.Copies C F P (writeDecisions bank context (mantissaDecisions magnitude count))
      (readMantissa bank context (magnitude / 2 ^ count) count) (fun _ => magnitude) := by
  induction count with
  | zero =>
    rw [pow_zero, Nat.div_one]
    exact Mirror.Copies.pure rfl
  | succ bit ih =>
    refine Mirror.Copies.bind (hrac _ _) fun _ => ?_
    rw [mantissa_step]
    exact ih

theorem magnitude_copies (isSigned negative : Bool) {magnitude : Nat} (hzero : magnitude ≠ 0)
    (hmax : magnitude ≤ RangeCoder.int64Max) :
    Mirror.Copies C F P
      (writeDecisions bank context
        (exponentDecisions 0 magnitude.log2 ++ mantissaDecisions magnitude magnitude.log2 ++
          if isSigned then [(signIndex magnitude.log2, negative)] else []))
      (RangeCoder.readMagnitude bank context isSigned)
      (fun _ => signedValue isSigned magnitude negative) := by
  have hexponent : Mirror.Copies C F P
      (writeDecisions bank context (exponentDecisions 0 magnitude.log2))
      (readExponent bank context 0 63) (fun _ => magnitude.log2) := by
    simpa only [Nat.zero_add] using
      exponent_copies hrac 0 magnitude.log2 63 (log2_lt_of_le_int64Max hzero hmax)
  have hmantissa : Mirror.Copies C F P
      (writeDecisions bank context (mantissaDecisions magnitude magnitude.log2))
      (readMantissa bank context 1 magnitude.log2) (fun _ => magnitude) := by
    have h := mantissa_copies hrac magnitude magnitude.log2
    rwa [div_two_pow_log2 hzero] at h
  unfold RangeCoder.readMagnitude
  rw [List.append_assoc, writeDecisions_append]
  refine hexponent.bind fun _ => ?_
  rw [writeDecisions_append]
  refine hmantissa.bind fun _ => copies_passes (by omega) ?_
  cases isSigned with
  | false => exact Mirror.Copies.pure rfl
  | true =>
    have hsign : Mirror.Copies C F P
        (RangeEncoder.racAt bank context (signIndex magnitude.log2) negative >>= pure)
        (do return if ← RangeCoder.racAt bank context (signIndex magnitude.log2) then
              -(magnitude : Int) else magnitude)
        (fun _ => signedValue true magnitude negative) := by
      rw [bind_pure]
      exact (hrac _ negative).map fun x => if x then -(magnitude : Int) else magnitude
    exact hsign

end Decided

end Scalars

section Symbols

variable {payload : Bytes} {base : List ContextStateBanks} {F : Prop} (bank context : Nat)
  {C : Mirror.Channel RangeEncoder} {P : RangeEncoder → RangeCoder → Prop}
  {Q : Unit → Int → RangeEncoder → RangeCoder → Prop}

open RangeEncoder (writeDecisions symbolDecisions)
open RangeCoder (readScalar)

theorem tracks_sharesContexts : SharesContexts (rangeChannel payload) (Tracks payload base) where
  same _ _ ht := ht.contexts.symm
  replace _ _ _ ht := ⟨⟨ht.window.1, ht.window.2, ht.window.3, ht.window.4, ht.window.5⟩,
    ht.initialized, ht.arithmetic, ht.carry, ht.table, rfl, ht.snapshots⟩
  inv _ _ hready := ⟨hready.1, hready.2, hready.3, hready.4, hready.5⟩
  fits _ _ hfits := hfits

theorem racAt_reads (index : Fin 32) (bit : Bool) :
    Reads payload base F (RangeEncoder.racAt bank context index bit)
      (RangeCoder.racAt bank context index) (fun _ => bit) :=
  racAt_copies tracks_sharesContexts (fun state => rac_mirrors F state bit) index

theorem zero_reads (isSigned negative : Bool) :
    Reads payload base F (writeDecisions bank context [])
      (do
        modify fun coder =>
          if coder.legacyZeroSymbolCarry then { coder with low := coder.low + 1 } else coder
        return 0)
      (fun _ => signedValue isSigned 0 negative) := by
  intro e u e' hready hw
  simp only [writeDecisions, Mirror.pure_apply, EStateM.Result.ok.injEq] at hw
  obtain ⟨_, rfl⟩ := hw
  refine ⟨hready, fun hfits => ⟨hfits, fun d ht => ?_⟩⟩
  simp only [Mirror.modify_bind, ht.carry, Bool.false_eq_true, if_false]
  exact ⟨by simp [signedValue], ht⟩

theorem scalar_reads (isSigned negative : Bool) {magnitude : Nat}
    (hmax : magnitude ≤ RangeCoder.int64Max) :
    Reads payload base F
      (writeDecisions bank context (symbolDecisions isSigned magnitude negative))
      (readScalar bank context isSigned) (fun _ => signedValue isSigned magnitude negative) := by
  unfold symbolDecisions readScalar
  refine Reads.bind (racAt_reads bank context 0 _) fun _ => ?_
  by_cases hzero : magnitude = 0
  · simp only [hzero, decide_true, if_true]
    exact zero_reads bank context isSigned negative
  · simp only [hzero, decide_false, if_false, Bool.false_eq_true]
    exact magnitude_copies (racAt_reads bank context) isSigned negative hzero hmax

/-- A successful scalar writer passed its checks and committed its decisions. -/
theorem writeSymbol_ok {isSigned negative : Bool} {magnitude : Nat} {e e' : RangeEncoder}
    {u : Unit}
    (h : RangeEncoder.writeSymbol bank context isSigned magnitude negative e = .ok u e') :
    bank < e.scalarContexts.length ∧ context < (e.scalarContexts.getD bank []).length ∧
      writeDecisions bank context (symbolDecisions isSigned magnitude negative) e = .ok u e' := by
  simp only [RangeEncoder.writeSymbol, Mirror.get_bind, Mirror.bind_ok_iff, failIf_call_ok_iff,
    exists_unit, and_assoc, exists_and_left, exists_eq_left] at h
  obtain ⟨hbank, hcontext, h⟩ := h
  refine ⟨by omega, by omega, ?_⟩
  cases htrial : RangeEncoder.trialDecisions e.stateTransition
      (symbolDecisions isSigned magnitude negative)
      ((e.scalarContexts.getD bank []).getD context (filledContext 0)) e.range 0 with
  | error status =>
    simp only [htrial] at h
    cases h
  | ok appendedBytes =>
    simp only [htrial, Mirror.bind_ok_iff, failIf_call_ok_iff, exists_unit, and_assoc,
      exists_and_left, exists_eq_left, Mirror.adaptExcept_ok_iff] at h
    exact h.2

theorem readSymbol_eq {isSigned : Bool} {d : RangeCoder} (hbank : bank < d.scalarContexts.length)
    (hcontext : context < (d.scalarContexts.getD bank []).length) :
    RangeCoder.readSymbol bank context isSigned d = readScalar bank context isSigned d := by
  unfold RangeCoder.readSymbol
  rw [Mirror.get_bind, failIf_of_not (by omega), failIf_of_not (by omega), pure_bind, pure_bind]

/-- A symbol is the scalar that its context codes. -/
theorem symbol_mirrors_of_scalar (hsame : ∀ e d, P e d → e.scalarContexts = d.scalarContexts)
    {isSigned negative : Bool} {magnitude : Nat}
    (h : Mirror.Mirrors C F P
      (writeDecisions bank context (symbolDecisions isSigned magnitude negative))
      (readScalar bank context isSigned) Q) :
    Mirror.Mirrors C F P (RangeEncoder.writeSymbol bank context isSigned magnitude negative)
      (RangeCoder.readSymbol bank context isSigned) Q := by
  intro e u e' hinv hw
  obtain ⟨hbank, hcontext, hw⟩ := writeSymbol_ok bank context hw
  obtain ⟨hinv', hscalar⟩ := h e u e' hinv hw
  refine ⟨hinv', fun hfits => ⟨(hscalar hfits).1, fun d hd => ?_⟩⟩
  rw [hsame e d hd] at hbank hcontext
  rw [readSymbol_eq bank context hbank hcontext]
  exact (hscalar hfits).2 d hd

/-- A signed value is coded as its magnitude and its sign. -/
theorem signed_mirrors_of_scalar (hsame : ∀ e d, P e d → e.scalarContexts = d.scalarContexts)
    {value : Int} (h : value.natAbs ≤ RangeCoder.int64Max → Mirror.Mirrors C F P
      (writeDecisions bank context (symbolDecisions true value.natAbs (decide (value < 0))))
      (readScalar bank context true) Q) :
    Mirror.Mirrors C F P (RangeEncoder.writeSigned bank context value)
      (RangeCoder.readSigned bank context) Q := by
  intro e u e' hinv hw
  simp only [RangeEncoder.writeSigned, Mirror.bind_ok_iff, failIf_call_ok_iff, exists_unit,
    and_assoc, exists_and_left, exists_eq_left] at hw
  obtain ⟨_, hopen, hmax, hsymbol⟩ := hw
  obtain ⟨rfl, -⟩ := checkOpen_ok hopen
  exact symbol_mirrors_of_scalar bank context hsame (h (Nat.le_of_not_lt hmax)) _ u e' hinv hsymbol

theorem symbol_reads (isSigned negative : Bool) {magnitude : Nat}
    (hmax : magnitude ≤ RangeCoder.int64Max) :
    Reads payload base F (RangeEncoder.writeSymbol bank context isSigned magnitude negative)
      (RangeCoder.readSymbol bank context isSigned)
      (fun _ => signedValue isSigned magnitude negative) :=
  symbol_mirrors_of_scalar bank context tracks_sharesContexts.same
    (scalar_reads bank context isSigned negative hmax)

theorem unsigned_reads (value : Nat) :
    Reads payload base F (RangeEncoder.writeUnsigned bank context value)
      (RangeCoder.readUnsigned bank context) (fun _ => value) := by
  refine Reads.checkOpen (Reads.checks fun hmax => ?_)
  have hsymbol : Reads payload base F _ _ _ :=
    symbol_reads bank context false false (Nat.le_of_not_lt hmax)
  exact hsymbol.map Int.toNat

theorem signedValue_natAbs (value : Int) :
    signedValue true value.natAbs (decide (value < 0)) = value := by
  unfold signedValue
  by_cases h : value < 0
  · simp only [h, decide_true, Bool.and_self, if_true]
    omega
  · simp only [h, decide_false, Bool.and_false, Bool.false_eq_true, if_false]
    omega

theorem signed_reads (value : Int) :
    Reads payload base F (RangeEncoder.writeSigned bank context value)
      (RangeCoder.readSigned bank context) (fun _ => value) := by
  refine signed_mirrors_of_scalar bank context tracks_sharesContexts.same fun hmax => ?_
  have h : Reads payload base F _ _ _ :=
    scalar_reads bank context true (decide (value < 0)) hmax
  exact h.congr fun _ => signedValue_natAbs value

theorem bool_reads (bit : Bool) :
    Reads payload base F (RangeEncoder.writeBool bit) RangeCoder.readBool (fun _ => bit) := by
  refine Reads.checkOpen fun e u e' hready hw => ?_
  simp only [Mirror.bind_ok_iff, Mirror.get_bind, failIf_call_ok_iff, exists_unit, and_assoc,
    exists_and_left, exists_eq_left] at hw
  have hrac : Reads payload base F _ _ _ := racAt_reads 0 0 0 bit
  obtain ⟨hready', h⟩ := hrac _ u e' hready hw.2
  refine ⟨hready', fun hfits => ⟨(h hfits).1, fun d ht => ?_⟩⟩
  unfold RangeCoder.readBool
  rw [Mirror.get_bind, failIf_of_not (by rw [ht.contexts]; exact hw.1), pure_bind]
  exact (h hfits).2 d ht

theorem terminationSentinel_reads :
    Reads payload base F RangeEncoder.writeTerminationSentinel
      RangeCoder.readTerminationSentinel (fun _ => ()) := by
  refine Reads.checkOpen ?_
  exact Mirror.Mirrors.bind_eq _ (rac_mirrors F 129 false) fun s =>
    Mirror.Mirrors.pure fun e d ht => ⟨rfl, ht⟩

end Symbols

section Contexts

variable {payload : Bytes} {base : List ContextStateBanks} {F : Prop}

/-- The two classes accept the same context arguments. -/
theorem RangeCoder.initializeContexts_of_encoder {counts : List Nat}
    {initial : List ContextStateBank} {state : UInt8} {banks : ContextStateBanks}
    (h : RangeEncoder.initializeContexts counts initial state = .ok banks) :
    RangeCoder.initializeContexts counts initial state = .ok banks := by
  obtain ⟨hvalid, rfl⟩ := initializeContexts_ok h
  exact initializeContexts_of_valid state hvalid (fun _ _ _ _ => rfl)

theorem RangeEncoder.initializeContexts_of_coder {counts : List Nat}
    {initial : List ContextStateBank} {state : UInt8} {banks : ContextStateBanks}
    (h : RangeCoder.initializeContexts counts initial state = .ok banks) :
    RangeEncoder.initializeContexts counts initial state = .ok banks := by
  obtain ⟨hvalid, rfl⟩ := initializeContexts_ok h
  refine initializeContexts_of_valid state hvalid fun t c ht hc => ?_
  have hsum := contextCountsMatch_sum hvalid.2.2.2
  have hlen := hvalid.2.1
  unfold maxContextBankCount at hlen
  have hlim : t ≤ 4 * maxScalarContextCount :=
    ht.trans (hsum.trans (Nat.mul_le_mul_right _ hlen))
  unfold RangeEncoder.checkTotal
  rw [failIf_ok_iff]
  unfold maxScalarContextCount at hlim hc
  unfold RangeEncoder.sizeMax
  omega

/-- Replacing the contexts on both sides keeps the window. -/
theorem Tracks.withContexts {e : RangeEncoder} {d : RangeCoder} (ht : Tracks payload base e d)
    (contexts : ContextStateBanks) (snapshots : List ContextStateBanks) :
    Tracks payload base
      { e with scalarContexts := contexts, scalarContextSnapshots := snapshots }
      { d with scalarContexts := contexts, scalarContextSnapshots := snapshots ++ base } :=
  ⟨⟨ht.window.1, ht.window.2, ht.window.3, ht.window.4, ht.window.5⟩, ht.initialized,
    ht.arithmetic, ht.carry, ht.table, rfl, rfl⟩

theorem reconfigureContexts_ok {counts : List Nat} {initial : List ContextStateBank}
    {e e' : RangeEncoder} {u : Unit}
    (h : RangeEncoder.reconfigureContexts counts initial e = .ok u e') :
    ∃ contexts, RangeEncoder.initializeContexts counts initial defaultInitialState = .ok contexts ∧
      e' = { e with scalarContexts := contexts } := by
  simp only [RangeEncoder.reconfigureContexts, Mirror.bind_ok_iff, exists_unit] at h
  obtain ⟨e₁, hopen, hassign⟩ := h
  obtain ⟨rfl, -⟩ := checkOpen_ok hopen
  unfold RangeEncoder.assignContexts at hassign
  cases hinit : RangeEncoder.initializeContexts counts initial defaultInitialState with
  | error status =>
    rw [hinit] at hassign
    cases hassign
  | ok contexts =>
    rw [hinit] at hassign
    exact ⟨contexts, rfl, ((EStateM.Result.ok.inj hassign).2).symm⟩

theorem reconfigureContexts_reads (counts : List Nat) (initial : List ContextStateBank) :
    Reads payload base F (RangeEncoder.reconfigureContexts counts initial)
      (RangeCoder.reconfigureContexts counts initial) (fun _ => ()) := by
  intro e u e' hready hw
  obtain ⟨contexts, hinit, rfl⟩ := reconfigureContexts_ok hw
  refine ⟨⟨hready.1, hready.2, hready.3, hready.4, hready.5⟩, fun hfits => ⟨hfits, fun d ht => ?_⟩⟩
  unfold RangeCoder.reconfigureContexts RangeCoder.assignContexts
  rw [Mirror.get_bind, failIf_of_not (by simp [ht.initialized]), pure_bind,
    RangeCoder.initializeContexts_of_encoder hinit]
  have hsnap := ht.withContexts contexts e.scalarContextSnapshots
  rw [← ht.snapshots] at hsnap
  exact ⟨rfl, hsnap⟩

theorem beginIndependent_reads (count : Nat) :
    Reads payload base F (RangeEncoder.beginIndependentScalarContexts count)
      (RangeCoder.beginIndependentScalarContexts count) (fun _ => ()) := by
  intro e u e' hready hw
  simp only [RangeEncoder.beginIndependentScalarContexts, Mirror.bind_ok_iff, exists_unit,
    Mirror.get_bind] at hw
  obtain ⟨e₁, hopen, hw⟩ := hw
  obtain ⟨rfl, -⟩ := checkOpen_ok hopen
  cases hinit : RangeEncoder.initializeContexts [count] [] defaultInitialState with
  | error status =>
    rw [hinit] at hw
    cases hw
  | ok contexts =>
    rw [hinit] at hw
    simp only [Mirror.set_apply, EStateM.Result.ok.injEq] at hw
    obtain ⟨_, rfl⟩ := hw
    refine ⟨⟨hready.1, hready.2, hready.3, hready.4, hready.5⟩, fun hfits => ⟨hfits, fun d ht => ?_⟩⟩
    unfold RangeCoder.beginIndependentScalarContexts
    rw [Mirror.get_bind, failIf_of_not (by simp [ht.initialized]), pure_bind,
      RangeCoder.initializeContexts_of_encoder hinit]
    have hsnap := ht.withContexts contexts (e₁.scalarContexts :: e₁.scalarContextSnapshots)
    rw [List.cons_append, ← ht.snapshots, ← ht.contexts] at hsnap
    rw [← ht.contexts]
    exact ⟨rfl, hsnap⟩

theorem endIndependent_reads :
    Reads payload base F RangeEncoder.endIndependentScalarContexts
      RangeCoder.endIndependentScalarContexts (fun _ => ()) := by
  intro e u e' hready hw
  simp only [RangeEncoder.endIndependentScalarContexts, Mirror.bind_ok_iff, exists_unit,
    Mirror.get_bind] at hw
  obtain ⟨e₁, hopen, hw⟩ := hw
  obtain ⟨rfl, -⟩ := checkOpen_ok hopen
  cases hsnap : e₁.scalarContextSnapshots with
  | nil =>
    rw [hsnap] at hw
    cases hw
  | cons snapshot snapshots =>
    rw [hsnap] at hw
    simp only [Mirror.set_apply, EStateM.Result.ok.injEq] at hw
    obtain ⟨_, rfl⟩ := hw
    refine ⟨⟨hready.1, hready.2, hready.3, hready.4, hready.5⟩, fun hfits => ⟨hfits, fun d ht => ?_⟩⟩
    unfold RangeCoder.endIndependentScalarContexts
    rw [Mirror.get_bind, failIf_of_not (by simp [ht.initialized]), pure_bind, ht.snapshots, hsnap]
    exact ⟨rfl, ht.withContexts snapshot snapshots⟩

end Contexts

section Streams

variable {payload : Bytes}

theorem RangeEncoder.resetImpl_ok {counts : List Nat} {initial : List ContextStateBank}
    {initialState : UInt8} {table : StateTransitionTable} {e₀ e : RangeEncoder} {u : Unit}
    (h : RangeEncoder.resetImpl counts initial initialState table e₀ = .ok u e) :
    ∃ contexts, RangeEncoder.initializeContexts counts initial initialState = .ok contexts ∧
      e = { lowBytes := [0, 0], range := 0xff00, stateTransition := table,
            scalarContexts := contexts, initialized := true } := by
  unfold RangeEncoder.resetImpl at h
  cases hinit : RangeEncoder.initializeContexts counts initial initialState with
  | error status =>
    rw [hinit] at h
    cases h
  | ok contexts =>
    rw [hinit] at h
    simp only [Mirror.set_apply, EStateM.Result.ok.injEq] at h
    exact ⟨contexts, rfl, h.2.symm⟩

theorem RangeEncoder.resetImpl_ready {counts : List Nat} {initial : List ContextStateBank}
    {initialState : UInt8} {table : StateTransitionTable} {e₀ e : RangeEncoder} {u : Unit}
    (h : RangeEncoder.resetImpl counts initial initialState table e₀ = .ok u e) : e.Ready := by
  obtain ⟨contexts, -, rfl⟩ := RangeEncoder.resetImpl_ok h
  exact ⟨rfl, rfl, show 256 ≤ 65280 by omega, Nat.le_refl 65280, Nat.le_refl 2⟩

theorem RangeEncoder.reset_ok {counts : List Nat} {initial : List ContextStateBank}
    {table : StateTransitionTable} {e₀ e : RangeEncoder} {u : Unit}
    (h : RangeEncoder.reset counts initial table e₀ = .ok u e) :
    ∃ contexts,
      RangeEncoder.initializeContexts counts initial defaultInitialState = .ok contexts ∧
      e = { lowBytes := [0, 0], range := 0xff00, stateTransition := table,
            scalarContexts := contexts, initialized := true } :=
  RangeEncoder.resetImpl_ok h

theorem RangeEncoder.reset_ready {counts : List Nat} {initial : List ContextStateBank}
    {table : StateTransitionTable} {e₀ e : RangeEncoder} {u : Unit}
    (h : RangeEncoder.reset counts initial table e₀ = .ok u e) : e.Ready :=
  RangeEncoder.resetImpl_ready h

theorem startLow_toNat (b₀ b₁ : UInt8) :
    ((b₀.toUInt32 <<< 8) ||| b₁.toUInt32).toNat = 256 * b₀.toNat + b₁.toNat := by
  have h₀ := b₀.toNat_lt
  have h₁ := b₁.toNat_lt
  have hshift : (b₀.toUInt32 <<< 8).toNat = b₀.toNat <<< 8 := by
    rw [RangeCoder.shiftLow_toNat (by simpa using h₀), Nat.shiftLeft_eq]
    simp [Nat.mul_comm]
  rw [UInt32.toNat_or, hshift, UInt8.toNat_toUInt32, ← Nat.shiftLeft_add_eq_or_of_lt (by omega),
    Nat.shiftLeft_eq]
  omega

/-- A decoder reset on bytes that the fresh encoder's interval holds starts coupled to it. -/
theorem resetImpl_tracks {counts : List Nat} {initial : List ContextStateBank}
    {initialState : UInt8} {table : StateTransitionTable} {e₀ e : RangeEncoder} {d₀ : RangeCoder}
    {u : Unit} (h : RangeEncoder.resetImpl counts initial initialState table e₀ = .ok u e)
    (hfits : e.Fits payload) (hlen : 2 ≤ payload.length) (harith : d₀.legacyV0Arithmetic = false)
    (hcarry : d₀.legacyZeroSymbolCarry = false) :
    ∃ d, RangeCoder.resetImpl payload counts initial initialState table d₀ = .ok () d ∧
      Tracks payload d₀.scalarContextSnapshots e d := by
  obtain ⟨contexts, hinit, rfl⟩ := RangeEncoder.resetImpl_ok h
  have hlow := hfits.2
  have hstart := startLow_toNat (payload.getD 0 0) (payload.getD 1 0)
  have hprefix : prefixValue payload 2 = 256 * (payload.getD 0 0).toNat + (payload.getD 1 0).toNat := by
    simp only [ByteValue.prefixValue, Nat.mul_zero, Nat.zero_add]
  have hlt : ((payload.getD 0 0).toUInt32 <<< 8 ||| (payload.getD 1 0).toUInt32).toNat < 0xff00 := by
    rw [hstart, ← hprefix]
    simpa [RangeEncoder.interval, ByteValue.value] using hlow
  have hclamp : ¬(0xff00 : UInt32) ≤
      ((payload.getD 0 0).toUInt32 <<< 8 ||| (payload.getD 1 0).toUInt32) := by
    rw [UInt32.le_iff_toNat_le]
    exact Nat.not_le.mpr hlt
  unfold RangeCoder.resetImpl RangeCoder.assignContexts
  rw [failIf_of_not (by omega), pure_bind, RangeCoder.initializeContexts_of_encoder hinit]
  refine ⟨_, rfl, ⟨rfl, rfl, ?_, ?_, ?_⟩, rfl, harith, hcarry, rfl, rfl, rfl⟩
  · simp only [RangeCoder.startWindow, hclamp, if_false, hstart, RangeEncoder.interval]
    simpa [ByteValue.value] using hprefix.symm
  · simp [RangeCoder.startWindow, RangeEncoder.interval, hlen]
  · simp only [RangeCoder.startWindow, RangeEncoder.interval, hclamp, decide_false, Bool.or_false]
    rfl

theorem reset_tracks {counts : List Nat} {initial : List ContextStateBank}
    {table : StateTransitionTable} {e₀ e : RangeEncoder} {d₀ : RangeCoder} {u : Unit}
    (h : RangeEncoder.reset counts initial table e₀ = .ok u e) (hfits : e.Fits payload)
    (hlen : 2 ≤ payload.length) (harith : d₀.legacyV0Arithmetic = false)
    (hcarry : d₀.legacyZeroSymbolCarry = false) :
    ∃ d, RangeCoder.reset payload counts initial table d₀ = .ok () d ∧
      Tracks payload d₀.scalarContextSnapshots e d :=
  resetImpl_tracks h hfits hlen harith hcarry

theorem reset_tracks_fresh {counts : List Nat} {initial : List ContextStateBank}
    {table : StateTransitionTable} {e₀ e : RangeEncoder} {u : Unit}
    (h : RangeEncoder.reset counts initial table e₀ = .ok u e) (hfits : e.Fits payload)
    (hlen : 2 ≤ payload.length) :
    ∃ d, RangeCoder.reset payload counts initial table {} = .ok () d ∧ Tracks payload [] e d := by
  obtain ⟨d, hd, htracks⟩ :
      ∃ d, RangeCoder.reset payload counts initial table ({} : RangeCoder) = .ok () d ∧
        Tracks payload ({} : RangeCoder).scalarContextSnapshots e d :=
    reset_tracks h hfits hlen rfl rfl
  exact ⟨d, hd, htracks⟩

theorem finalize_ok {e e' : RangeEncoder} {bytes : Bytes}
    (h : RangeEncoder.finalize e = .ok bytes e') :
    bytes = e.lowBytes ∧ e' = { e with finalized := true } := by
  simp only [RangeEncoder.finalize, RangeEncoder.finalizeImpl, Mirror.get_bind,
    Mirror.bind_ok_iff, failIf_call_ok_iff, exists_unit, and_assoc, exists_and_left,
    exists_eq_left, Bool.false_eq_true, if_false, Mirror.set_bind, Mirror.pure_apply,
    EStateM.Result.ok.injEq] at h
  exact ⟨h.2.2.1.symm, h.2.2.2.symm⟩

theorem finalize_of_ready {e : RangeEncoder} (hready : e.Ready) :
    RangeEncoder.finalize e = .ok e.lowBytes { e with finalized := true } := by
  unfold RangeEncoder.finalize RangeEncoder.finalizeImpl
  rw [Mirror.get_bind, failIf_of_not (by simp [hready.initialized]),
    failIf_of_not (by simp [hready.unfinalized]), pure_bind, pure_bind]
  rfl

/-- The lower end itself, with anything after it, is in the interval. -/
theorem finalize_fits {e : RangeEncoder} (hready : e.Ready) (tail : Bytes) :
    e.Fits (e.lowBytes ++ tail) := by
  have hrange := hready.range_ge
  constructor
  · simp [RangeEncoder.interval, ByteValue.prefixValue_append, ByteValue.prefixValue_length]
  · simp only [RangeEncoder.interval, expansion_head,
      ByteValue.prefixValue_append _ _ (Nat.le_refl _), ByteValue.prefixValue_length]
    omega

end Streams

end Mffv1
