import Mffv1.Lib.Forwards
import Mffv1.RangeReads
import Mffv1.SliceHeader

/-!
# What a range coder has read

A header is read byte by byte, and a slice does not say where its header ends before it is
read. Two payloads that agree as far as the coder gets have the same header.
-/
namespace Mffv1

open Forwards (GoesOn SameEnds)

namespace RangeCoder

/-- The same coder on payloads of one length that agree in their first `bound` bytes. -/
structure SharesPrefix (bound : Nat) (coder other : RangeCoder) : Prop where
  same : other = { coder with payload := other.payload }
  length : other.payload.length = coder.payload.length
  bytes : ∀ i < bound, other.payload.getD i 0 = coder.payload.getD i 0

variable {bound : Nat} {coder other : RangeCoder}

theorem SharesPrefix.exists_payload (h : SharesPrefix bound coder other) :
    ∃ payload : Bytes, other = { coder with payload } ∧ payload.length = coder.payload.length ∧
      ∀ i < bound, payload.getD i 0 = coder.payload.getD i 0 :=
  ⟨other.payload, h.same, h.length, h.bytes⟩

/-- What is done to both of them outside of their payloads. -/
theorem SharesPrefix.map (h : SharesPrefix bound coder other) (f : RangeCoder → RangeCoder)
    (hpayload : ∀ coder, (f coder).payload = coder.payload)
    (hf : ∀ (coder : RangeCoder) (payload : Bytes),
      f { coder with payload } = { f coder with payload }) :
    SharesPrefix bound (f coder) (f other) := by
  obtain ⟨payload, rfl, hlength, hbytes⟩ := h.exists_payload
  have hother := hf coder payload
  constructor
  · rw [hother]
  · rw [hother, hpayload]
    exact hlength
  · rw [hother, hpayload]
    exact hbytes

theorem SharesPrefix.refill (h : SharesPrefix bound coder other)
    (hbound : coder.refill.bytePosition ≤ bound) :
    SharesPrefix bound coder.refill other.refill := by
  obtain ⟨payload, rfl, hlength, hbytes⟩ := h.exists_payload
  unfold RangeCoder.refill at hbound ⊢
  dsimp only at hbound ⊢
  rw [hlength]
  split_ifs at hbound ⊢
  · exact ⟨rfl, hlength, hbytes⟩
  · exact ⟨rfl, hlength, hbytes⟩
  · rw [hbytes coder.bytePosition hbound]
    exact ⟨rfl, hlength, hbytes⟩
  · exact ⟨rfl, hlength, hbytes⟩

/-- A call that depends on the payload as far as it gets. -/
abbrev ReadsPrefix {α : Type} (bound : Nat) (call : Call RangeCoder α) : Prop :=
  GoesOn bytePosition bound (SharesPrefix bound) call

theorem failIf_readsPrefix {condition : Prop} [Decidable condition] {error : Error} :
    ReadsPrefix bound (failIf condition error) := by
  unfold failIf
  split
  · exact GoesOn.throws error
  · exact GoesOn.pure _

theorem SharesPrefix.afterZero (h : SharesPrefix bound coder other) (state : UInt8)
    (hbound : (coder.afterZero state).bytePosition ≤ bound) :
    SharesPrefix bound (coder.afterZero state) (other.afterZero state) := by
  have htaken := h.map (fun coder => { coder with range := coder.range - coder.rangeoff state })
    (fun _ => rfl) fun _ _ => rfl
  exact htaken.refill hbound

theorem SharesPrefix.afterOne (h : SharesPrefix bound coder other) (state : UInt8)
    (hbound : (coder.afterOne state).bytePosition ≤ bound) :
    SharesPrefix bound (coder.afterOne state) (other.afterOne state) := by
  have hcarry : other.onePathCarry state = coder.onePathCarry state := by rw [h.same]; rfl
  have htaken := h.map (fun coder => { coder with
    low := coder.low - (coder.range - coder.rangeoff state)
    range := coder.rangeoff state }) (fun _ => rfl) fun _ _ => rfl
  have hrefilled := htaken.refill hbound
  unfold RangeCoder.afterOne
  rw [hcarry]
  exact hrefilled.map (fun refilled => { refilled with
    low := refilled.low + coder.onePathCarry state }) (fun _ => rfl) fun _ _ => rfl

theorem readRac_readsPrefix (state : UInt8) : ReadsPrefix bound (readRac state) where
  onwards coder := by
    cases hinit : coder.initialized with
    | false =>
      rw [readRac_closed hinit]
      exact Nat.le_refl _
    | true =>
      rw [readRac_initialized hinit]
      split
      · exact refill_position { coder with range := coder.range - coder.rangeoff state }
      · exact refill_position { coder with
          low := coder.low - (coder.range - coder.rangeoff state)
          range := coder.rangeoff state }
  alike coder other h hbound := by
    have hopen : other.initialized = coder.initialized := by rw [h.same]
    have hlow : other.low = coder.low := by rw [h.same]
    have hrange : other.range = coder.range := by rw [h.same]
    have hrangeoff : other.rangeoff state = coder.rangeoff state := by rw [h.same]; rfl
    have htable : other.stateTransition = coder.stateTransition := by rw [h.same]
    cases hinit : coder.initialized with
    | false =>
      rw [readRac_closed hinit, readRac_closed (hopen.trans hinit)]
      exact .error _ h
    | true =>
      rw [readRac_initialized hinit] at hbound ⊢
      rw [readRac_initialized (hopen.trans hinit), hlow, hrange, hrangeoff, htable]
      by_cases hbit : coder.low < coder.range - coder.rangeoff state
      · rw [if_pos hbit] at hbound ⊢
        rw [if_pos hbit]
        exact .ok _ (h.afterZero state hbound)
      · rw [if_neg hbit] at hbound ⊢
        rw [if_neg hbit]
        exact .ok _ (h.afterOne state hbound)

theorem racAt_readsPrefix (bank context : Nat) (index : Fin 32) :
    ReadsPrefix bound (racAt bank context index) := by
  rw [racAt_eq]
  refine GoesOn.look (fun coder => (readRac_readsPrefix _).bind fun result =>
    GoesOn.bind (GoesOn.update (fun _ => Nat.le_refl _) fun coder other h _ => ?_)
      fun _ => GoesOn.pure _) fun coder other h => ?_
  · exact h.map (fun coder => { coder with
      scalarContexts := coder.scalarContexts.setStateAt bank context index result.2 })
      (fun _ => rfl) fun _ _ => rfl
  · rw [h.same]

theorem carried_readsPrefix :
    ReadsPrefix bound (modify fun coder =>
      if coder.legacyZeroSymbolCarry then { coder with low := coder.low + 1 } else coder) := by
  refine GoesOn.update (fun coder => ?_) fun coder other h _ => ?_
  · split <;> exact Nat.le_refl _
  · refine h.map (fun coder =>
      if coder.legacyZeroSymbolCarry then { coder with low := coder.low + 1 } else coder)
      (fun coder => ?_) fun coder payload => ?_
    · split <;> rfl
    · dsimp only
      split <;> rfl

theorem readBool_readsPrefix : ReadsPrefix bound readBool :=
  GoesOn.look (fun _ => failIf_readsPrefix.bind fun _ => racAt_readsPrefix 0 0 0)
    fun coder other h => by rw [h.same]

theorem readExponent_readsPrefix (bank context exponent fuel : Nat) :
    ReadsPrefix bound (readExponent bank context exponent fuel) := by
  induction fuel generalizing exponent with
  | zero => exact GoesOn.throws _
  | succ fuel ih =>
    refine (racAt_readsPrefix _ _ _).bind fun bit => ?_
    cases bit with
    | true => exact ih (exponent + 1)
    | false => exact GoesOn.pure _

theorem readMantissa_readsPrefix (bank context magnitude count : Nat) :
    ReadsPrefix bound (readMantissa bank context magnitude count) := by
  induction count generalizing magnitude with
  | zero => exact GoesOn.pure _
  | succ count ih => exact (racAt_readsPrefix _ _ _).bind fun value => ih _

theorem readMagnitude_readsPrefix (bank context : Nat) (isSigned : Bool) :
    ReadsPrefix bound (readMagnitude bank context isSigned) := by
  refine (readExponent_readsPrefix bank context 0 63).bind fun exponent => ?_
  refine (readMantissa_readsPrefix bank context 1 exponent).bind fun magnitude => ?_
  refine failIf_readsPrefix.bind fun _ => ?_
  cases isSigned with
  | true => exact (racAt_readsPrefix _ _ _).bind fun negative => GoesOn.pure _
  | false => exact GoesOn.pure _

theorem readScalar_readsPrefix (bank context : Nat) (isSigned : Bool) :
    ReadsPrefix bound (readScalar bank context isSigned) := by
  refine (racAt_readsPrefix _ _ _).bind fun zero => ?_
  cases zero with
  | true => exact carried_readsPrefix.bind fun _ => GoesOn.pure _
  | false => exact readMagnitude_readsPrefix bank context isSigned

theorem readSymbol_readsPrefix (bank context : Nat) (isSigned : Bool) :
    ReadsPrefix bound (readSymbol bank context isSigned) :=
  GoesOn.look (fun _ => failIf_readsPrefix.bind fun _ => failIf_readsPrefix.bind fun _ =>
    readScalar_readsPrefix bank context isSigned) fun coder other h => by rw [h.same]

theorem readUnsigned_readsPrefix (bank context : Nat) :
    ReadsPrefix bound (readUnsigned bank context) :=
  (readSymbol_readsPrefix bank context false).bind fun _ => GoesOn.pure _

theorem reconfigureContexts_readsPrefix (counts : List Nat) (banks : List ContextStateBank) :
    ReadsPrefix bound (reconfigureContexts counts banks) := by
  refine GoesOn.look (fun _ => failIf_readsPrefix.bind fun _ => ?_) fun coder other h => by
    rw [h.same]
  unfold assignContexts
  cases initializeContexts counts banks defaultInitialState with
  | error status => exact GoesOn.throws status
  | ok contexts =>
    exact GoesOn.update (fun _ => Nat.le_refl _) fun coder other h _ =>
      h.map (fun coder => { coder with scalarContexts := contexts }) (fun _ => rfl) fun _ _ => rfl

/-- Two payloads are begun alike. -/
theorem resetSingle_shares {payload payload' : Bytes} {table : StateTransitionTable}
    (hlength : payload'.length = payload.length)
    (hbytes : ∀ i < bound, payload'.getD i 0 = payload.getD i 0) (hbound : 2 ≤ bound)
    {before start : RangeCoder} (h : resetSingle payload table before = .ok () start) :
    ∃ start', resetSingle payload' table before = .ok () start' ∧
      SharesPrefix bound start start' := by
  unfold resetSingle resetImpl at h ⊢
  simp only [Mirror.bind_ok_iff, failIf_call_ok_iff] at h
  obtain ⟨_, _, ⟨hroom, rfl⟩, _, assigned, hassign, hstart⟩ := h
  rw [Mirror.modify_apply] at hstart
  obtain rfl : startWindow payload table assigned = start := by injection hstart
  refine ⟨startWindow payload' table assigned, ?_, ?_⟩
  · rw [failIf_of_not (hlength ▸ hroom), Mirror.pure_bind, Mirror.bind_ok hassign]
    rfl
  · unfold startWindow
    rw [hbytes 0 (by omega), hbytes 1 (by omega), hlength]
    exact ⟨rfl, hlength, hbytes⟩

end RangeCoder

namespace SliceHeaderParser

open RangeCoder

variable {bound : Nat} (stream : StreamParameters)

theorem failHereIf_readsPrefix {condition : Prop} [Decidable condition] {message : String} :
    ReadsPrefix bound (failHereIf condition message) :=
  GoesOn.look (fun _ => failIf_readsPrefix) fun coder other h => by rw [h.same]

theorem readPosition_readsPrefix (count : UInt32) (message : String) :
    ReadsPrefix bound (readPosition count message) :=
  (readUnsigned_readsPrefix 0 0).bind fun _ => failHereIf_readsPrefix.bind fun _ => GoesOn.pure _

theorem readExtent_readsPrefix (message : String) : ReadsPrefix bound (readExtent message) :=
  (readUnsigned_readsPrefix 0 0).bind fun _ => failHereIf_readsPrefix.bind fun _ => GoesOn.pure _

theorem readQuantTableSetIndexes_readsPrefix (count : Nat) :
    ReadsPrefix bound (readQuantTableSetIndexes stream count) := by
  induction count with
  | zero => exact GoesOn.pure _
  | succ count ih =>
    exact (readUnsigned_readsPrefix 0 0).bind fun _ => failHereIf_readsPrefix.bind fun _ =>
      failHereIf_readsPrefix.bind fun _ => ih.bind fun _ => GoesOn.pure _

theorem read_readsPrefix : ReadsPrefix bound (read stream) := by
  refine (readPosition_readsPrefix _ _).bind fun x => (readPosition_readsPrefix _ _).bind fun y =>
    (readExtent_readsPrefix _).bind fun width => (readExtent_readsPrefix _).bind fun height =>
    failHereIf_readsPrefix.bind fun _ => (readQuantTableSetIndexes_readsPrefix stream _).bind
      fun indexes => (readUnsigned_readsPrefix 0 0).bind fun pictureStructure =>
    failHereIf_readsPrefix.bind fun _ => (readUnsigned_readsPrefix 0 0).bind fun sarNum =>
    (readUnsigned_readsPrefix 0 0).bind fun sarDen => ?_
  split
  · exact GoesOn.pure _
  · exact GoesOn.pure _

theorem readDescriptor_readsPrefix (descriptor : SliceDescriptor) :
    ReadsPrefix bound (readDescriptor stream descriptor) := by
  refine GoesOn.look (fun reader => (read_readsPrefix stream).bind fun values => ?_)
    fun coder other h => by rw [h.same]
  cases applyRaster stream values descriptor with
  | error status => exact GoesOn.throws status
  | ok placed =>
    exact GoesOn.look (fun _ => GoesOn.pure _) fun coder other h => by rw [h.same]

/-- The content begins where the coder stands. -/
theorem readDescriptor_position {descriptor parsed : SliceDescriptor} {start reader : RangeCoder}
    (h : readDescriptor stream descriptor start = .ok parsed reader) :
    parsed.contentByteOffset = reader.bytePosition ∧
      parsed.continuesFrameRangeState = descriptor.continuesFrameRangeState := by
  simp only [readDescriptor, Mirror.get_bind, Mirror.bind_ok_iff] at h
  obtain ⟨values, middle, -, h⟩ := h
  cases happly : applyRaster stream values descriptor with
  | error status =>
    rw [happly] at h
    cases h
  | ok placed =>
    rw [happly] at h
    simp only [Mirror.get_bind, Mirror.pure_apply, EStateM.Result.ok.injEq] at h
    obtain ⟨rfl, rfl⟩ := h
    simp only [applyRaster, except_bind_ok, exists_unit] at happly
    obtain ⟨-, -, -, -, -, hplaced⟩ := happly
    obtain rfl := Except.ok.inj hplaced
    exact ⟨rfl, rfl⟩

end SliceHeaderParser

end Mffv1
