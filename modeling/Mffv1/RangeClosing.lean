import Mffv1.RangeProgram
import Mffv1.RangeProgress

/-!
# Closing a range code

`finalizeClosed` moves the lower end to a point inside the final interval and
leaves out a zero byte at the end. The decoder continues a payload by zeros, so
the bytes alone are enough for it.
-/
namespace Mffv1

open ByteValue (value prefixValue)

namespace RangeEncoder

/-- The upper end of the interval stays below the upper end of the first one. -/
structure Bounded (e : RangeEncoder) : Prop where
  ready : e.Ready
  headroom : value e.lowBytes + e.range.toNat ≤ 0xff00 * 256 ^ (e.lowBytes.length - 2)

section Keeping

open Mirror (Keeps)

variable {condition : Prop} [Decidable condition] {error : Error} {I : RangeEncoder → Prop}

theorem failIf_keeps : Keeps I (failIf condition error : Call RangeEncoder PUnit) := by
  intro e u e' he hw
  exact (failIf_call_ok_iff.mp hw).2 ▸ he

theorem checkOpen_keeps : Keeps I checkOpen := by
  intro e u e' he hw
  exact (checkOpen_ok hw).1 ▸ he

variable (hcontexts : ∀ (e : RangeEncoder) (contexts : ContextStateBanks)
  (snapshots : List ContextStateBanks), I e →
  I { e with scalarContexts := contexts, scalarContextSnapshots := snapshots })
  (hrac : ∀ (state : UInt8) (bit : Bool), Keeps I (writeRac state bit))
include hcontexts hrac

theorem racAt_keeps (bank context : Nat) (index : Fin 32) (bit : Bool) :
    Keeps I (racAt bank context index bit) := by
  intro e u e' he hw
  unfold racAt at hw
  rw [Mirror.get_bind] at hw
  obtain ⟨s, e₁, hstep, hw⟩ := Mirror.bind_ok_iff.mp hw
  simp only [Mirror.modify_apply, EStateM.Result.ok.injEq] at hw
  obtain ⟨-, rfl⟩ := hw
  exact hcontexts e₁ _ _ (hrac _ _ e s e₁ he hstep)

theorem writeDecisions_keeps (bank context : Nat) (decisions : List Decision) :
    Keeps I (writeDecisions bank context decisions) := by
  induction decisions with
  | nil => exact Keeps.pure
  | cons decision decisions ih =>
    exact Keeps.bind (racAt_keeps hcontexts hrac bank context decision.1 decision.2) fun _ => ih

theorem writeSymbol_keeps (bank context : Nat) (isSigned : Bool) (magnitude : Nat)
    (negative : Bool) : Keeps I (writeSymbol bank context isSigned magnitude negative) :=
  fun e u e' he hw =>
    writeDecisions_keeps hcontexts hrac bank context _ e u e' he (writeSymbol_ok _ _ hw).2.2

theorem writeUnsigned_keeps (bank context value : Nat) :
    Keeps I (writeUnsigned bank context value) :=
  Keeps.bind checkOpen_keeps fun _ => Keeps.bind failIf_keeps fun _ =>
    writeSymbol_keeps hcontexts hrac bank context false value false

theorem writeSigned_keeps (bank context : Nat) (value : Int) :
    Keeps I (writeSigned bank context value) :=
  Keeps.bind checkOpen_keeps fun _ => Keeps.bind failIf_keeps fun _ =>
    writeSymbol_keeps hcontexts hrac bank context true value.natAbs _

theorem perform_keeps (operation : RangeOperation) : Keeps I (perform operation) := by
  cases operation with
  | bool bit =>
    refine Keeps.bind checkOpen_keeps fun _ e u e' he hw => ?_
    rw [Mirror.get_bind] at hw
    exact Keeps.bind failIf_keeps (fun _ => racAt_keeps hcontexts hrac 0 0 0 bit) e u e' he hw
  | unsigned bank context number => exact writeUnsigned_keeps hcontexts hrac bank context number.toNat
  | signed bank context number => exact writeSigned_keeps hcontexts hrac bank context number.toInt
  | terminationSentinel =>
    exact Keeps.bind checkOpen_keeps fun _ => Keeps.bind (hrac 129 false) fun _ => Keeps.pure
  | reconfigureContexts counts initial =>
    refine Keeps.bind checkOpen_keeps fun _ e u e' he hw => ?_
    unfold assignContexts at hw
    cases hinit : initializeContexts counts initial defaultInitialState with
    | error status =>
      rw [hinit] at hw
      cases hw
    | ok contexts =>
      rw [hinit] at hw
      simp only [Mirror.modify_apply, EStateM.Result.ok.injEq] at hw
      exact hw.2 ▸ hcontexts e _ _ he
  | beginIndependent count =>
    refine Keeps.bind checkOpen_keeps fun _ e u e' he hw => ?_
    rw [Mirror.get_bind] at hw
    cases hinit : initializeContexts [count] [] defaultInitialState with
    | error status =>
      rw [hinit] at hw
      cases hw
    | ok contexts =>
      rw [hinit] at hw
      simp only [Mirror.set_apply, EStateM.Result.ok.injEq] at hw
      exact hw.2 ▸ hcontexts e _ _ he
  | endIndependent =>
    refine Keeps.bind checkOpen_keeps fun _ e u e' he hw => ?_
    rw [Mirror.get_bind] at hw
    cases hsnapshots : e.scalarContextSnapshots with
    | nil =>
      rw [hsnapshots] at hw
      cases hw
    | cons snapshot snapshots =>
      rw [hsnapshots] at hw
      simp only [Mirror.set_apply, EStateM.Result.ok.injEq] at hw
      exact hw.2 ▸ hcontexts e _ _ he

theorem run_keeps (operations : List RangeOperation) : Keeps I (run operations) := by
  induction operations with
  | nil => exact Keeps.pure
  | cons operation operations ih =>
    exact Keeps.bind (perform_keeps hcontexts hrac operation) fun _ => ih

end Keeping

theorem Bounded.withContexts (e : RangeEncoder) (contexts : ContextStateBanks)
    (snapshots : List ContextStateBanks) (h : e.Bounded) :
    Bounded { e with scalarContexts := contexts, scalarContextSnapshots := snapshots } :=
  ⟨⟨h.ready.1, h.ready.2, h.ready.3, h.ready.4, h.ready.5⟩, h.headroom⟩

theorem writeRac_bounded (state : UInt8) (bit : Bool) :
    Mirror.Keeps Bounded (writeRac state bit) := by
  intro e s e' he hw
  obtain ⟨-, hne, rfl, hv⟩ := writeRac_ok hw
  exact ⟨stepped_ready he.ready hne, stepped_headroom he.ready hv he.headroom⟩

theorem resetImpl_bounded {counts : List Nat} {initial : List ContextStateBank}
    {initialState : UInt8} {table : StateTransitionTable} {e₀ e : RangeEncoder} {u : Unit}
    (h : resetImpl counts initial initialState table e₀ = .ok u e) : e.Bounded := by
  have hready := resetImpl_ready h
  obtain ⟨contexts, -, rfl⟩ := resetImpl_ok h
  refine ⟨hready, ?_⟩
  change 0 + 65280 ≤ 0xff00 * 256 ^ 0
  omega

section Closing

variable {range target delta : Nat}

theorem alignDelta_lt (fuel : Nat) (h : delta < range) :
    alignDelta range target delta fuel < range := by
  induction fuel generalizing delta with
  | zero => exact h
  | succ fuel ih =>
    unfold alignDelta
    split
    · exact ih (by omega)
    · exact h

theorem closingDelta_lt (lowBytes : Bytes) (h : 256 ≤ range) : closingDelta lowBytes range < range := by
  unfold closingDelta
  generalize (256 - (lowBytes.getLastD 0).toNat) % 256 = start
  by_cases hstart : start < range
  · have haligned : alignDelta range (range / 2) start (range / 256) < range :=
      alignDelta_lt (range / 256) hstart
    simp only [hstart, if_true]
    generalize alignDelta range (range / 2) start (range / 256) = aligned at haligned ⊢
    split
    · next h => exact h.1
    · exact haligned
  · simp only [hstart, if_false]
    omega

theorem dropTrailingZero_length {bytes : Bytes} (h : 2 ≤ bytes.length) :
    2 ≤ (dropTrailingZero bytes).length := by
  unfold dropTrailingZero
  split
  · rw [List.length_dropLast]
    omega
  · exact h

/-- A dropped zero is the zero that a decoder reads past the end. -/
theorem prefixValue_dropTrailingZero (bytes : Bytes) (n : Nat) :
    prefixValue (dropTrailingZero bytes) n = prefixValue bytes n := by
  unfold dropTrailingZero
  split
  · next h =>
    obtain ⟨init, last, rfl⟩ := (List.eq_nil_or_concat bytes).resolve_left (by
      rintro rfl
      simp at h)
    rw [List.concat_eq_append] at h ⊢
    obtain rfl : last = 0 := by simpa using h.2
    rw [List.dropLast_concat, ByteValue.prefixValue_dropZero]
  · rfl

/-- The bytes of a closed code. -/
def closedBytes (e : RangeEncoder) : Bytes :=
  dropTrailingZero (ByteValue.addCarry e.lowBytes (closingDelta e.lowBytes e.range.toNat)).1

theorem closing_fits {e : RangeEncoder} (h : e.Bounded) :
    (ByteValue.addCarry e.lowBytes (closingDelta e.lowBytes e.range.toNat)).2 = 0 := by
  have hdelta := closingDelta_lt e.lowBytes h.ready.range_ge
  have hroom := headroom_lt h.ready h.headroom
  exact ByteValue.addCarry_fits (by omega)

theorem finalizeClosed_of_bounded {e : RangeEncoder} (h : e.Bounded) :
    finalizeClosed e = .ok e.closedBytes { e with finalized := true } := by
  unfold finalizeClosed finalizeImpl
  rw [Mirror.get_bind, failIf_of_not (by simp [h.ready.initialized]),
    failIf_of_not (by simp [h.ready.unfinalized]), pure_bind, pure_bind]
  simp only [if_true]
  rw [failIf_of_not (by rw [not_not]; exact closing_fits h), pure_bind]
  rfl

/-- The closed bytes continue a point of the final interval, if the delta can be added. -/
theorem closedBytes_fits_of_ready {e : RangeEncoder} (h : e.Ready)
    (hsum : (ByteValue.addCarry e.lowBytes (closingDelta e.lowBytes e.range.toNat)).2 = 0) :
    e.Fits e.closedBytes := by
  have hdelta := closingDelta_lt e.lowBytes h.range_ge
  have hvalue := ByteValue.addCarry_value e.lowBytes (closingDelta e.lowBytes e.range.toNat)
  rw [hsum, Nat.zero_mul, Nat.add_zero] at hvalue
  have hprefix : prefixValue e.closedBytes e.lowBytes.length =
      value e.lowBytes + closingDelta e.lowBytes e.range.toNat := by
    unfold closedBytes
    rw [prefixValue_dropTrailingZero, ← hvalue, ← ByteValue.prefixValue_length,
      ByteValue.addCarry_length]
  constructor
  · simp only [interval, expansion_head, hprefix]
    omega
  · simp only [interval, expansion_head, hprefix]
    omega

theorem closedBytes_fits {e : RangeEncoder} (h : e.Bounded) : e.Fits e.closedBytes :=
  closedBytes_fits_of_ready h.ready (closing_fits h)

theorem closedBytes_length {e : RangeEncoder} (h : e.Ready) : 2 ≤ e.closedBytes.length := by
  have hlen := h.length_ge
  exact dropTrailingZero_length (by rwa [ByteValue.addCarry_length])

/-- The bytes of a code, closed or not, continue a point of its interval. -/
theorem finalizeImpl_fits {e last : RangeEncoder} {closeInterval : Bool} {payload : Bytes}
    (h : e.Ready) (hclose : finalizeImpl closeInterval e = .ok payload last) :
    e.Fits payload ∧ 2 ≤ payload.length := by
  unfold finalizeImpl at hclose
  rw [Mirror.get_bind] at hclose
  simp only [Mirror.bind_ok_iff, failIf_call_ok_iff] at hclose
  obtain ⟨_, _, ⟨-, rfl⟩, _, _, ⟨-, rfl⟩, hclose⟩ := hclose
  cases closeInterval with
  | true =>
    simp only [if_true, Mirror.bind_ok_iff, failIf_call_ok_iff, Mirror.set_apply, not_not,
      Mirror.pure_apply] at hclose
    obtain ⟨_, _, ⟨hsum, -⟩, _, _, -, hbytes⟩ := hclose
    obtain rfl := (EStateM.Result.ok.inj hbytes).1
    exact ⟨closedBytes_fits_of_ready h hsum, closedBytes_length h⟩
  | false =>
    simp only [Bool.false_eq_true, if_false, Mirror.bind_ok_iff, Mirror.set_apply,
      Mirror.pure_apply] at hclose
    obtain ⟨_, _, -, hbytes⟩ := hclose
    obtain rfl := (EStateM.Result.ok.inj hbytes).1
    have hfits := finalize_fits h []
    rw [List.append_nil] at hfits
    exact ⟨hfits, h.length_ge⟩

end Closing

end RangeEncoder

/-- From every state that successful operations reach after a reset, the closing
delta is inside the interval, it can be added, and the bytes on their own are read
back to the encoder's contexts. -/
theorem finalizeClosed_reads_back (table : StateTransitionTable) (counts : List Nat)
    (initial : List ContextStateBank) (initialState : UInt8) (operations : List RangeOperation)
    (unused started written : RangeEncoder) (fresh : RangeCoder)
    (hreset : RangeEncoder.resetImpl counts initial initialState table unused = .ok () started)
    (hrun : RangeEncoder.run operations started = .ok () written)
    (harithmetic : fresh.legacyV0Arithmetic = false)
    (hcarry : fresh.legacyZeroSymbolCarry = false) :
    RangeEncoder.closingDelta written.lowBytes written.range.toNat < written.range.toNat ∧
      ∃ (bytes : Bytes) (closed : RangeEncoder) (reader reader' : RangeCoder),
        RangeEncoder.finalizeClosed written = .ok bytes closed ∧
        RangeCoder.resetImpl bytes counts initial initialState table fresh = .ok () reader ∧
        RangeCoder.run operations reader =
          .ok (operations.map RangeOperation.written) reader' ∧
        reader'.copyContexts = closed.copyContexts := by
  have hbounded := RangeEncoder.run_keeps RangeEncoder.Bounded.withContexts
    RangeEncoder.writeRac_bounded operations started () written
    (RangeEncoder.resetImpl_bounded hreset) hrun
  refine ⟨RangeEncoder.closingDelta_lt _ hbounded.ready.range_ge, written.closedBytes,
    { written with finalized := true }, ?_⟩
  have hreads : Reads written.closedBytes fresh.scalarContextSnapshots False _ _ _ :=
    run_reads operations
  obtain ⟨-, hback⟩ := hreads started () written (RangeEncoder.resetImpl_ready hreset) hrun
  obtain ⟨hfits, hread⟩ := hback (RangeEncoder.closedBytes_fits hbounded)
  obtain ⟨reader, hreader, htracks⟩ := resetImpl_tracks hreset hfits
    (RangeEncoder.closedBytes_length hbounded.ready) harithmetic hcarry
  obtain ⟨values, reader', hvalues, rfl, hend⟩ := (hread reader htracks).result
  refine ⟨reader, reader', RangeEncoder.finalizeClosed_of_bounded hbounded, hreader, hvalues, ?_⟩
  simp only [RangeCoder.copyContexts, RangeEncoder.copyContexts, hend.initialized,
    hbounded.ready.initialized, hend.contexts, if_true]

theorem finalizeClosed_reads_back_sample :
    RangeEncoder.closingDelta sampleWritten.lowBytes sampleWritten.range.toNat <
        sampleWritten.range.toNat ∧
      ∃ (bytes : Bytes) (closed : RangeEncoder) (reader reader' : RangeCoder),
        RangeEncoder.finalizeClosed sampleWritten = .ok bytes closed ∧
        RangeCoder.resetImpl bytes [2, 1] [] defaultInitialState defaultStateTransition {} =
          .ok () reader ∧
        RangeCoder.run sampleOperations reader =
          .ok (sampleOperations.map RangeOperation.written) reader' ∧
        reader'.copyContexts = closed.copyContexts :=
  finalizeClosed_reads_back defaultStateTransition [2, 1] [] defaultInitialState sampleOperations
    {} sampleStart sampleWritten {} sampleStart_eq sampleWritten_eq rfl rfl

end Mffv1
