import Mffv1.RangeDecision
import Mffv1.RangeSymbols
import Mffv1.Lib.Hoare

/-!
# What the reads of the range coder are made of

A read is a sequence of decisions on the states of one context. What commutes with every
decision commutes with the reads, and what every decision keeps, the reads keep.
-/
namespace Mffv1

open Mirror (Projects)
open Hoare (Maintains)

namespace RangeCoder

/-- The coder behind a zero symbol. -/
def carried (coder : RangeCoder) : RangeCoder :=
  if coder.legacyZeroSymbolCarry then { coder with low := coder.low + 1 } else coder

theorem readRac_closed {coder : RangeCoder} (hinit : coder.initialized = false) (state : UInt8) :
    readRac state coder = .error notInitialized coder := by
  unfold readRac
  rw [Mirror.get_bind, failIf_of hinit]
  rfl

theorem afterZero_sameBut (coder : RangeCoder) (state : UInt8) :
    coder.SameBut (coder.afterZero state) :=
  refill_sameBut { coder with range := coder.range - coder.rangeoff state }

theorem afterOne_sameBut (coder : RangeCoder) (state : UInt8) :
    coder.SameBut (coder.afterOne state) := by
  have hrefilled := refill_sameBut { coder with
    low := coder.low - (coder.range - coder.rangeoff state)
    range := coder.rangeoff state }
  unfold SameBut at hrefilled ⊢
  unfold afterOne
  dsimp only at hrefilled ⊢
  rw [hrefilled]

/-- The end flag is up where the payload is read up. -/
structure Placed (coder : RangeCoder) : Prop where
  within : coder.bytePosition ≤ coder.payload.length
  unread : coder.ended = false → coder.bytePosition < coder.payload.length

theorem Placed.refill {coder : RangeCoder} (h : coder.Placed) : coder.refill.Placed := by
  have hwithin := h.within
  unfold RangeCoder.refill
  by_cases hwide : 256 ≤ coder.range
  · rw [if_pos hwide]
    exact h
  · rw [if_neg hwide]
    by_cases hended : coder.ended = true
    · rw [if_pos hended]
      exact ⟨hwithin, fun hopen => h.unread hopen⟩
    · have hunread := h.unread (by simpa using hended)
      rw [if_neg hended, if_pos hunread]
      exact ⟨hunread, fun hopen => not_le.mp (of_decide_eq_false hopen)⟩

theorem refill_position (coder : RangeCoder) : coder.bytePosition ≤ coder.refill.bytePosition := by
  unfold refill
  dsimp only
  split_ifs
  · exact le_rfl
  · exact le_rfl
  · exact Nat.le_succ _
  · exact le_rfl

/-- A map of coders that no decision can tell from the identity. -/
structure LeavesWindow (π : RangeCoder → RangeCoder) : Prop where
  initialized : ∀ coder, (π coder).initialized = coder.initialized
  low : ∀ coder, (π coder).low = coder.low
  range : ∀ coder, (π coder).range = coder.range
  rangeoff : ∀ coder state, (π coder).rangeoff state = coder.rangeoff state
  stateTransition : ∀ coder, (π coder).stateTransition = coder.stateTransition
  afterZero : ∀ coder state, (π coder).afterZero state = π (coder.afterZero state)
  afterOne : ∀ coder state, (π coder).afterOne state = π (coder.afterOne state)
  carried : ∀ coder, (π coder).carried = π coder.carried

section Projecting

variable {π : RangeCoder → RangeCoder} {bank context : Nat}

theorem LeavesWindow.readRac_projects (h : LeavesWindow π) (state : UInt8) :
    Projects π (readRac state) (readRac state) := by
  intro coder
  cases hinit : coder.initialized with
  | false =>
    rw [readRac_closed hinit, readRac_closed ((h.initialized coder).trans hinit)]
    rfl
  | true =>
    rw [readRac_initialized hinit, readRac_initialized ((h.initialized coder).trans hinit),
      h.low, h.range, h.rangeoff, h.stateTransition, h.afterZero, h.afterOne]
    split
    · rfl
    · rfl

theorem LeavesWindow.racAt_projects (h : LeavesWindow π) {index : Fin 32}
    (hstate : ∀ coder, (π coder).scalarContexts.stateAt bank context index =
      coder.scalarContexts.stateAt bank context index)
    (hset : ∀ (coder : RangeCoder) (state : UInt8),
      { π coder with
        scalarContexts := (π coder).scalarContexts.setStateAt bank context index state } =
      π { coder with
        scalarContexts := coder.scalarContexts.setStateAt bank context index state }) :
    Projects π (racAt bank context index) (racAt bank context index) := by
  rw [racAt_eq]
  refine Projects.view_same
    (fun coder : RangeCoder => coder.scalarContexts.stateAt bank context index) _ hstate
    fun state => ?_
  exact (h.readRac_projects state).bind fun result =>
    (Projects.modify fun coder => hset coder result.2).bind fun _ => Projects.pure _

/-- A call that a coder refuses before it was reset. -/
theorem opened_projects {α : Type} {f : RangeCoder → Call RangeCoder α}
    (hinit : ∀ coder, (π coder).initialized = coder.initialized)
    (h : ∀ coder, f (π coder) (π coder) = Mirror.mapState π (f coder coder)) :
    Projects π
      (get >>= fun coder : RangeCoder =>
        failIf (coder.initialized = false) notInitialized >>= fun _ => f coder)
      (get >>= fun coder : RangeCoder =>
        failIf (coder.initialized = false) notInitialized >>= fun _ => f coder) := by
  intro coder
  rw [Mirror.get_bind, Mirror.get_bind, hinit]
  cases coder.initialized with
  | false =>
    rw [failIf_of rfl]
    rfl
  | true =>
    rw [failIf_of_not (by decide), Mirror.pure_bind, Mirror.pure_bind]
    exact h coder

variable (hrac : ∀ index, Projects π (racAt bank context index) (racAt bank context index))
include hrac

theorem readExponent_projects (exponent fuel : Nat) :
    Projects π (readExponent bank context exponent fuel)
      (readExponent bank context exponent fuel) := by
  induction fuel generalizing exponent with
  | zero => exact fun _ => rfl
  | succ fuel ih =>
    refine (hrac _).bind fun bit => ?_
    cases bit with
    | true => exact ih (exponent + 1)
    | false => exact Projects.pure exponent

theorem readMantissa_projects (magnitude count : Nat) :
    Projects π (readMantissa bank context magnitude count)
      (readMantissa bank context magnitude count) := by
  induction count generalizing magnitude with
  | zero => exact Projects.pure magnitude
  | succ count ih => exact (hrac _).bind fun value => ih _

theorem readMagnitude_projects (isSigned : Bool) :
    Projects π (readMagnitude bank context isSigned) (readMagnitude bank context isSigned) := by
  refine (readExponent_projects hrac 0 63).bind fun exponent => ?_
  refine (readMantissa_projects hrac 1 exponent).bind fun magnitude => ?_
  refine failIf_projects.bind fun _ => ?_
  cases isSigned with
  | true => exact (hrac _).bind fun negative => Projects.pure _
  | false => exact Projects.pure _

theorem readScalar_projects (h : LeavesWindow π) (isSigned : Bool) :
    Projects π (readScalar bank context isSigned) (readScalar bank context isSigned) := by
  refine (hrac 0).bind fun zero => ?_
  cases zero with
  | true => exact (Projects.modify h.carried).bind fun _ => Projects.pure 0
  | false => exact readMagnitude_projects hrac isSigned

theorem readSymbol_projects (h : LeavesWindow π)
    (hbank : ∀ coder, (π coder).scalarContexts.length ≤ bank ↔ coder.scalarContexts.length ≤ bank)
    (hcontext : ∀ coder, ((π coder).scalarContexts.getD bank []).length ≤ context ↔
      (coder.scalarContexts.getD bank []).length ≤ context) (isSigned : Bool) :
    Projects π (readSymbol bank context isSigned) (readSymbol bank context isSigned) := by
  intro coder
  have hscalar := readScalar_projects hrac h isSigned coder
  unfold readSymbol
  rw [Mirror.get_bind, Mirror.get_bind]
  by_cases hmissing : coder.scalarContexts.length ≤ bank
  · rw [failIf_of ((hbank coder).mpr hmissing), failIf_of hmissing]
    rfl
  · rw [failIf_of_not (mt (hbank coder).mp hmissing), failIf_of_not hmissing]
    by_cases habsent : (coder.scalarContexts.getD bank []).length ≤ context
    · rw [failIf_of ((hcontext coder).mpr habsent), failIf_of habsent]
      rfl
    · rw [failIf_of_not (mt (hcontext coder).mp habsent), failIf_of_not habsent]
      exact hscalar

end Projecting

section Maintaining

variable {I : RangeCoder → Prop}

/-- A call that a coder refuses before it was reset. -/
theorem opened_maintains {α : Type} {f : RangeCoder → Call RangeCoder α}
    (h : ∀ coder, I coder → coder.initialized = true →
      Hoare.Ends (fun _ => I) (fun _ => I) (f coder coder)) :
    Maintains I (get >>= fun coder : RangeCoder =>
      failIf (coder.initialized = false) notInitialized >>= fun _ => f coder) := by
  intro coder hcoder
  rw [Mirror.get_bind]
  cases hinit : coder.initialized with
  | false =>
    rw [failIf_of rfl]
    exact hcoder
  | true =>
    rw [failIf_of_not (by decide), Mirror.pure_bind]
    exact h coder hcoder hinit

variable (hrac : ∀ bank context index, Maintains I (racAt bank context index))
include hrac

theorem readBool_maintains : Maintains I readBool :=
  Maintains.view fun _ _ => failIf_maintains.bind fun _ => hrac 0 0 0

theorem readExponent_maintains (bank context exponent fuel : Nat) :
    Maintains I (readExponent bank context exponent fuel) := by
  induction fuel generalizing exponent with
  | zero => exact Maintains.throws _
  | succ fuel ih =>
    refine (hrac _ _ _).bind fun bit => ?_
    cases bit with
    | true => exact ih (exponent + 1)
    | false => exact Maintains.pure

theorem readMantissa_maintains (bank context magnitude count : Nat) :
    Maintains I (readMantissa bank context magnitude count) := by
  induction count generalizing magnitude with
  | zero => exact Maintains.pure
  | succ count ih => exact (hrac _ _ _).bind fun value => ih _

theorem readMagnitude_maintains (bank context : Nat) (isSigned : Bool) :
    Maintains I (readMagnitude bank context isSigned) := by
  refine (readExponent_maintains hrac bank context 0 63).bind fun exponent => ?_
  refine (readMantissa_maintains hrac bank context 1 exponent).bind fun magnitude => ?_
  refine failIf_maintains.bind fun _ => ?_
  cases isSigned with
  | true => exact (hrac _ _ _).bind fun negative => Maintains.pure
  | false => exact Maintains.pure

theorem readScalar_maintains (hcarried : ∀ coder, I coder → I coder.carried) (bank context : Nat)
    (isSigned : Bool) : Maintains I (readScalar bank context isSigned) := by
  refine (hrac _ _ _).bind fun zero => ?_
  cases zero with
  | true => exact (Maintains.update hcarried).bind fun _ => Maintains.pure
  | false => exact readMagnitude_maintains hrac bank context isSigned

theorem readSymbol_maintains (hcarried : ∀ coder, I coder → I coder.carried) (bank context : Nat)
    (isSigned : Bool) : Maintains I (readSymbol bank context isSigned) :=
  Maintains.view fun _ _ => failIf_maintains.bind fun _ => failIf_maintains.bind fun _ =>
    readScalar_maintains hrac hcarried bank context isSigned

end Maintaining

end RangeCoder

end Mffv1
