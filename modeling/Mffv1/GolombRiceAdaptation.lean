import Mffv1.GolombRice
import Mffv1.Lib.Hoare

/-!
# Adaptive Golomb-Rice state on any bits

A context that adapts to what a stream holds keeps within its bounds, whatever the bits
are: the sum of the errors is at most 2^31 for each symbol that it counts, so that a
parameter below 32 exists, and a call that fails has changed nothing but its reader.
-/
namespace Mffv1

open Hoare (Triple)

theorem triple_failIf {σ : Type} {P : σ → Prop} {Q : PUnit → σ → Prop} {R : Error → σ → Prop}
    {condition : Prop} [Decidable condition] {error : Error}
    (hpass : ¬condition → ∀ s, P s → Q ⟨⟩ s) (hfail : condition → ∀ s, P s → R error s) :
    Triple P (failIf condition error : Call σ PUnit) Q R := by
  by_cases h : condition
  · rw [failIf_of h]
    exact Triple.fails (hfail h)
  · rw [failIf_of_not h]
    exact Triple.returns (hpass h)

/-- The bits do not form a code. -/
def Malformed {σ : Type} (status : Error) (_ : σ) : Prop := status.code = .syntaxError

/-- A call that returns what it may and fails on malformed bits only. -/
def ReadsBits {α : Type} (φ : α → Prop) (call : Call BitReader α) : Prop :=
  Triple (fun _ => True) call (fun a _ => φ a) Malformed

section ReadsBits

variable {α β : Type} {φ : α → Prop} {call : Call BitReader α}

theorem ReadsBits.pure {a : α} (h : φ a) : ReadsBits φ (Pure.pure a) :=
  Triple.returns fun _ _ => h

theorem ReadsBits.bind {ψ : β → Prop} {f : α → Call BitReader β} (h : ReadsBits φ call)
    (hf : ∀ a, φ a → ReadsBits ψ (f a)) : ReadsBits ψ (call >>= f) :=
  Triple.bind h fun a reader ha => hf a ha reader True.intro

theorem ReadsBits.look {f : BitReader → Call BitReader α} (h : ∀ reader, ReadsBits φ (f reader)) :
    ReadsBits φ (get >>= f) :=
  Triple.look fun reader _ => (h reader).pre fun _ _ => True.intro

theorem ReadsBits.check {condition : Prop} [Decidable condition] {error : Error}
    (h : error.code = .syntaxError) :
    ReadsBits (fun _ => ¬condition) (failIf condition error : Call BitReader PUnit) :=
  triple_failIf (fun hnot _ _ => hnot) fun _ _ _ => h

/-- A check that the caller has made. -/
theorem ReadsBits.passed {condition : Prop} [Decidable condition] {error : Error}
    {f : PUnit → Call BitReader α} (hnot : ¬condition) (h : ReadsBits φ (f ⟨⟩)) :
    ReadsBits φ (failIf condition error >>= f) := by
  rwa [failIf_of_not hnot, pure_bind]

theorem ReadsBits.adapt {f : Error → Error} (h : ReadsBits φ call)
    (hf : ∀ status, (f status).code = status.code) : ReadsBits φ (call.adaptExcept f) := by
  refine Triple.of_cases (fun reader a reader' _ hcall => ?_) fun reader status reader' _ hcall => ?_
  · exact h.ok True.intro (Mirror.adaptExcept_ok_iff.mp hcall)
  · unfold EStateM.adaptExcept at hcall
    cases hread : call reader with
    | ok a reader'' =>
      rw [hread] at hcall
      cases hcall
    | error status' reader'' =>
      rw [hread] at hcall
      obtain ⟨rfl, rfl⟩ := EStateM.Result.error.inj hcall
      exact (hf status').trans (h.error True.intro hread)

end ReadsBits

theorem readBit_reads : ReadsBits (fun _ => True) BitReader.readBit :=
  ReadsBits.look fun _ => (ReadsBits.check rfl).bind fun _ _ =>
    Triple.bind (Triple.replace (S := fun _ _ => True) fun _ _ => True.intro) fun _ =>
      Triple.returns fun _ _ => True.intro

theorem readBitsLoop_reads (count value : Nat) :
    ReadsBits (fun _ => True) (BitReader.readBitsLoop count value) := by
  induction count generalizing value with
  | zero => exact ReadsBits.pure True.intro
  | succ count ih => exact readBit_reads.bind fun bit _ => ih _

theorem readBits_reads {bitCount : Nat} (h : bitCount ≤ 64) :
    ReadsBits (fun _ => True) (BitReader.readBits bitCount) :=
  ReadsBits.passed (by omega) (ReadsBits.look fun _ => (ReadsBits.check rfl).bind fun _ _ =>
    readBitsLoop_reads bitCount 0)

theorem readPrefix_reads (prefixLength count : Nat) :
    ReadsBits (fun _ => True) (GolombRiceReader.readPrefix prefixLength count) := by
  induction count generalizing prefixLength with
  | zero => exact ReadsBits.pure True.intro
  | succ count ih =>
    refine readBit_reads.bind fun bit _ => ?_
    by_cases hbit : bit ≠ 0
    · rw [if_pos hbit]
      exact ReadsBits.pure True.intro
    · rw [if_neg hbit]
      exact ih (prefixLength + 1)

theorem readUnsigned_reads {k bitsPerRawSample : Nat} (hk : k ≤ 31) (hbits : bitsPerRawSample ≤ 31) :
    ReadsBits (fun _ => True) (GolombRiceReader.readUnsigned k bitsPerRawSample) := by
  refine (readPrefix_reads 0 12).bind fun prefixLength _ => ?_
  cases prefixLength with
  | some prefixLength =>
    exact (readBits_reads (by omega)).bind fun _ _ => ReadsBits.pure True.intro
  | none => exact (readBits_reads (by omega)).bind fun _ _ => ReadsBits.pure True.intro

/-- A signed value is an `int32_t`. -/
theorem readSigned_reads {k bitsPerRawSample : Nat} (hk : k ≤ 31)
    (hbits : 1 ≤ bitsPerRawSample ∧ bitsPerRawSample ≤ 31) :
    ReadsBits (fun value => -2 ^ 31 ≤ value ∧ value ≤ 2 ^ 31 - 1)
      (GolombRiceReader.readSigned k bitsPerRawSample) := by
  refine ReadsBits.look fun reader => ReadsBits.passed (by omega) (ReadsBits.passed (by omega) ?_)
  have hfolded := (readUnsigned_reads hk hbits.2).adapt
    (f := (setByteLocationIfMissing · (reader.bitPosition / 8))) fun _ => rfl
  exact hfolded.bind fun folded _ => (ReadsBits.check rfl).bind fun _ hrange =>
    ReadsBits.pure (by omega)

namespace GolombRiceContextState

/-- What `update_state` keeps of a context. -/
structure Bounded (state : GolombRiceContextState) : Prop where
  count : 1 ≤ state.count ∧ state.count ≤ 128
  drift : -state.count < state.drift ∧ state.drift ≤ 0
  bias : -128 ≤ state.bias ∧ state.bias ≤ 127
  errorSum : 0 ≤ state.errorSum ∧ state.errorSum ≤ state.count * 2 ^ 31

theorem bounded_reset : Bounded {} := by
  constructor <;> decide

theorem Bounded.validateState {state : GolombRiceContextState} (h : state.Bounded) :
    state.validateState = .ok () := by
  have hcount := h.count
  have herror := h.errorSum
  have hbias := h.bias
  simp only [GolombRiceContextState.validateState,
    failIf_of_not (show ¬(state.count ≤ 0 ∨ 128 < state.count) by omega),
    failIf_of_not (show ¬state.errorSum < 0 by omega),
    failIf_of_not (show ¬(state.bias < -128 ∨ 127 < state.bias) by omega)]
  rfl

/-- Doubling the threshold as often as `fuel` allows reaches the sum. -/
theorem deriveKLoop_ok {errorSum threshold : Int} (k fuel : Nat)
    (h : errorSum ≤ threshold * 2 ^ fuel) :
    ∃ k' ≤ k + fuel, deriveKLoop errorSum threshold k fuel = .ok k' := by
  induction fuel generalizing threshold k with
  | zero =>
    rw [deriveKLoop, if_neg (by omega)]
    exact ⟨k, Nat.le_refl k, rfl⟩
  | succ fuel ih =>
    rw [deriveKLoop]
    by_cases hlt : threshold < errorSum
    · rw [if_pos hlt]
      have hdouble : errorSum ≤ 2 * threshold * 2 ^ fuel := by
        rw [pow_succ] at h
        linarith
      obtain ⟨k', hle, hloop⟩ := ih (k + 1) hdouble
      exact ⟨k', by omega, hloop⟩
    · rw [if_neg hlt]
      exact ⟨k, by omega, rfl⟩

theorem Bounded.deriveK {state : GolombRiceContextState} (h : state.Bounded) :
    ∃ k ≤ 31, state.deriveK = .ok k := by
  obtain ⟨k, hle, hloop⟩ := deriveKLoop_ok 0 31 h.errorSum.2
  exact ⟨k, by omega, hloop⟩

theorem halve_bias (state : GolombRiceContextState) : state.halve.bias = state.bias := by
  unfold halve
  by_cases hfull : state.count = 128
  · rw [if_pos hfull]
  · rw [if_neg hfull]

/-- Before the count moves on, and where it was halved. -/
theorem halve_bounded {state : GolombRiceContextState} (hcount : 1 ≤ state.count ∧ state.count ≤ 128)
    (herror : 0 ≤ state.errorSum ∧ state.errorSum ≤ (state.count + 1) * 2 ^ 31) :
    (1 ≤ state.halve.count ∧ state.halve.count ≤ 127) ∧ 0 ≤ state.halve.errorSum ∧
      state.halve.errorSum ≤ (state.halve.count + 1) * 2 ^ 31 := by
  unfold halve
  by_cases hfull : state.count = 128
  · simp only [if_pos hfull]
    omega
  · simp only [if_neg hfull]
    omega

/-- The correction keeps the drift within the count, in each of its two branches. -/
theorem correctBias_bounded {state : GolombRiceContextState}
    (hcount : 1 ≤ state.count ∧ state.count ≤ 128)
    (hbias : -128 ≤ state.bias ∧ state.bias ≤ 127)
    (herror : 0 ≤ state.errorSum ∧ state.errorSum ≤ state.count * 2 ^ 31) :
    state.correctBias.Bounded := by
  unfold correctBias
  by_cases hlow : state.drift ≤ -state.count
  · rw [if_pos hlow]
    exact ⟨hcount, by simp only; omega, by simp only; omega, herror⟩
  · rw [if_neg hlow]
    by_cases hhigh : 0 < state.drift
    · rw [if_pos hhigh]
      exact ⟨hcount, by simp only; omega, by simp only; omega, herror⟩
    · rw [if_neg hhigh]
      exact ⟨hcount, by omega, hbias, herror⟩

theorem Bounded.updateState {state : GolombRiceContextState} (h : state.Bounded) {value : Int}
    (hvalue : -2 ^ 31 ≤ value ∧ value ≤ 2 ^ 31) : (state.updateState value).Bounded := by
  have hadded : 0 ≤ (state.addValue value).errorSum ∧
      (state.addValue value).errorSum ≤ ((state.addValue value).count + 1) * 2 ^ 31 := by
    have herror := h.errorSum
    simp only [addValue]
    omega
  obtain ⟨hcount, hlow, hhigh⟩ := @halve_bounded (state.addValue value) h.count hadded
  refine correctBias_bounded ?_ ?_ ⟨hlow, hhigh⟩
  · simp only
    omega
  · rw [halve_bias]
    exact h.bias

end GolombRiceContextState

/-- A reader beside the adaptive state that the calls change through their reference. -/
structure AdaptiveReading where
  reader : BitReader
  state : GolombRiceContextState := {}
  deriving DecidableEq

namespace AdaptiveReading

open GolombRiceContextState (signExtend)

def onBitReader {α : Type} (call : Call BitReader α) : Call AdaptiveReading α := fun reading =>
  match call reading.reader with
  | .ok value reader => .ok value { reading with reader }
  | .error status reader => .error status { reading with reader }

def readGolombRiceSymbol (bitsPerRawSample : Nat) : Call AdaptiveReading Int := do
  let reading ← get
  MonadExcept.ofExcept reading.state.validateState
  failIf (bitsPerRawSample = 0 ∨ 31 < bitsPerRawSample) (makeError .invalidArgument
    "Golomb-Rice raw sample width must be in the range 1..31")
  let k ← MonadExcept.ofExcept reading.state.deriveK
  let codedValue ← onBitReader (GolombRiceReader.readSigned k bitsPerRawSample)
  let value := if reading.state.isInverted then -1 - codedValue else codedValue
  modify fun reading => { reading with state := reading.state.updateState value }
  return signExtend (value + reading.state.bias) bitsPerRawSample

def readGolombRiceRunInterruption (bitsPerRawSample : Nat) : Call AdaptiveReading Int := do
  let value ← readGolombRiceSymbol bitsPerRawSample
  return if 0 ≤ value then value + 1 else value

/-- What a call that hands back the new state has done in place. -/
def inPlace (state : GolombRiceContextState) :
    EStateM.Result Error BitReader (Int × GolombRiceContextState) →
      EStateM.Result Error AdaptiveReading Int
  | .ok (value, state) reader => .ok value { reader, state }
  | .error status reader => .error status { reader, state }

theorem readGolombRiceSymbol_eq (bitsPerRawSample : Nat) (reading : AdaptiveReading) :
    readGolombRiceSymbol bitsPerRawSample reading =
      inPlace reading.state (reading.state.readSymbol bitsPerRawSample reading.reader) := by
  unfold readGolombRiceSymbol GolombRiceContextState.readSymbol
  rw [Mirror.get_bind]
  cases hvalid : reading.state.validateState with
  | error status => rfl
  | ok u =>
    by_cases hbits : bitsPerRawSample = 0 ∨ 31 < bitsPerRawSample
    · simp only [failIf_of hbits]
      rfl
    · simp only [failIf_of_not hbits]
      cases hk : reading.state.deriveK with
      | error status => rfl
      | ok k =>
        change (onBitReader (GolombRiceReader.readSigned k bitsPerRawSample) >>= _) reading =
          inPlace reading.state ((GolombRiceReader.readSigned k bitsPerRawSample >>= _) reading.reader)
        cases hread : GolombRiceReader.readSigned k bitsPerRawSample reading.reader with
        | ok value reader =>
          have hlift : onBitReader (GolombRiceReader.readSigned k bitsPerRawSample) reading =
              .ok value { reading with reader } := by
            unfold onBitReader
            rw [hread]
          rw [Mirror.bind_ok hread, Mirror.bind_ok hlift]
          rfl
        | error status reader =>
          have hlift : onBitReader (GolombRiceReader.readSigned k bitsPerRawSample) reading =
              .error status { reading with reader } := by
            unfold onBitReader
            rw [hread]
          rw [Mirror.bind_error hread, Mirror.bind_error hlift]
          rfl

/-- `call` fails on malformed bits only, with the state as it was, and returns a bounded state. -/
def Steady (call : Call AdaptiveReading Int) : Prop :=
  ∀ state : GolombRiceContextState, state.Bounded →
    Triple (fun reading : AdaptiveReading => reading.state = state) call
      (fun _ reading => reading.state.Bounded)
      fun status reading => reading.state = state ∧ status.code = .syntaxError

theorem onBitReader_reads {α : Type} {φ : α → Prop} {call : Call BitReader α}
    (h : ReadsBits φ call) (state : GolombRiceContextState) :
    Triple (fun reading : AdaptiveReading => reading.state = state) (onBitReader call)
      (fun a reading => φ a ∧ reading.state = state)
      fun status reading => reading.state = state ∧ status.code = .syntaxError := by
  intro reading hstate
  have hends := h reading.reader True.intro
  unfold onBitReader
  cases hcall : call reading.reader with
  | ok a reader =>
    rw [hcall] at hends
    exact ⟨hends, hstate⟩
  | error status reader =>
    rw [hcall] at hends
    exact ⟨hstate, hends⟩

theorem readGolombRiceSymbol_steady {bitsPerRawSample : Nat}
    (hbits : 1 ≤ bitsPerRawSample ∧ bitsPerRawSample ≤ 31) :
    Steady (readGolombRiceSymbol bitsPerRawSample) := by
  intro state hbounded
  obtain ⟨k, hk, hderive⟩ := hbounded.deriveK
  refine Triple.look fun reading hstate => ?_
  subst hstate
  refine Triple.computes hbounded.validateState ?_
  rw [failIf_of_not (by omega), pure_bind]
  refine Triple.computes hderive ?_
  refine Triple.bind ((onBitReader_reads (readSigned_reads hk hbits) reading.state).start rfl)
    fun codedValue => Triple.given fun hrange => ?_
  refine Triple.bind (Triple.update (S := fun _ reading => reading.state.Bounded) ?_) fun _ =>
    Triple.returns fun _ h => h
  intro e he
  have hvalue : -2 ^ 31 ≤ (if reading.state.isInverted then -1 - codedValue else codedValue) ∧
      (if reading.state.isInverted then -1 - codedValue else codedValue) ≤ 2 ^ 31 := by
    split <;> omega
  rw [show e.state = reading.state from he]
  exact hbounded.updateState hvalue

theorem readGolombRiceRunInterruption_steady {bitsPerRawSample : Nat}
    (hbits : 1 ≤ bitsPerRawSample ∧ bitsPerRawSample ≤ 31) :
    Steady (readGolombRiceRunInterruption bitsPerRawSample) :=
  fun state hbounded => Triple.bind (readGolombRiceSymbol_steady hbits state hbounded) fun _ =>
    Triple.returns fun _ h => h

end AdaptiveReading

inductive AdaptiveCall where
  | symbol
  | runInterruption
  deriving DecidableEq

def AdaptiveCall.perform (bitsPerRawSample : Nat) : AdaptiveCall → Call AdaptiveReading Int
  | .symbol => AdaptiveReading.readGolombRiceSymbol bitsPerRawSample
  | .runInterruption => AdaptiveReading.readGolombRiceRunInterruption bitsPerRawSample

/-- The calls one after the other, each also behind one that has failed. -/
def AdaptiveReading.after (bitsPerRawSample : Nat) (calls : List AdaptiveCall)
    (reading : AdaptiveReading) : AdaptiveReading :=
  calls.foldl (fun reading call => Mirror.finalState (call.perform bitsPerRawSample reading)) reading

section Runs

variable {bitsPerRawSample : Nat} (hbits : 1 ≤ bitsPerRawSample ∧ bitsPerRawSample ≤ 31)
include hbits

theorem AdaptiveCall.perform_steady (call : AdaptiveCall) :
    AdaptiveReading.Steady (call.perform bitsPerRawSample) := by
  cases call with
  | symbol => exact AdaptiveReading.readGolombRiceSymbol_steady hbits
  | runInterruption => exact AdaptiveReading.readGolombRiceRunInterruption_steady hbits

theorem AdaptiveCall.perform_bounded (call : AdaptiveCall) {reading : AdaptiveReading}
    (h : reading.state.Bounded) :
    (Mirror.finalState (call.perform bitsPerRawSample reading)).state.Bounded := by
  have hsteady := call.perform_steady hbits reading.state h
  cases hcall : call.perform bitsPerRawSample reading with
  | ok value reading' => exact hsteady.ok rfl hcall
  | error status reading' => exact (hsteady.error rfl hcall).1 ▸ h

theorem AdaptiveReading.after_bounded (calls : List AdaptiveCall) {reading : AdaptiveReading}
    (h : reading.state.Bounded) : (reading.after bitsPerRawSample calls).state.Bounded := by
  induction calls generalizing reading with
  | nil => exact h
  | cons call calls ih => exact ih (call.perform_bounded hbits h)

/-- Whatever calls a context has seen on whatever bits, it is within its bounds, its checks
pass, and a call that fails on it leaves it alone. -/
theorem adaptive_state_stays_valid (reader : BitReader) (calls : List AdaptiveCall)
    (call : AdaptiveCall) :
    let reading := AdaptiveReading.after bitsPerRawSample calls { reader }
    reading.state.Bounded ∧ reading.state.validateState = .ok () ∧
      (∃ k ≤ 31, reading.state.deriveK = .ok k) ∧
      ∀ status reading', call.perform bitsPerRawSample reading = .error status reading' →
        reading'.state = reading.state ∧ status.code = .syntaxError := by
  have hbounded : (AdaptiveReading.after bitsPerRawSample calls { reader }).state.Bounded :=
    AdaptiveReading.after_bounded hbits calls GolombRiceContextState.bounded_reset
  exact ⟨hbounded, hbounded.validateState, hbounded.deriveK, fun status reading' hcall =>
    (call.perform_steady hbits _ hbounded).error rfl hcall⟩

end Runs

/-- An escape of the largest value, twice, and what is left of the bits. -/
theorem adaptive_state_stays_valid_escapes :
    let reading := AdaptiveReading.after 31 [.symbol, .runInterruption]
      { reader := { data := [0, 15, 255, 255, 255, 240, 0, 255, 255, 255, 255, 0] } }
    reading.state.Bounded ∧ reading.state.validateState = .ok () ∧
      (∃ k ≤ 31, reading.state.deriveK = .ok k) ∧
      ∀ status reading', AdaptiveCall.symbol.perform 31 reading = .error status reading' →
        reading'.state = reading.state ∧ status.code = .syntaxError :=
  @adaptive_state_stays_valid 31 (by decide)
    { data := [0, 15, 255, 255, 255, 240, 0, 255, 255, 255, 255, 0] } [.symbol, .runInterruption]
    .symbol

end Mffv1
