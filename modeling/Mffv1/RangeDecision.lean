import Mffv1.RangeCoder
import Mffv1.Lib.Mirror

/-!
# Decisions of the range coder

One binary decision as a function of the coder, in every mode of its arithmetic.
-/
namespace Mffv1

namespace RangeCoder

/-- The part of the range that a one takes. -/
def rangeoff (coder : RangeCoder) (state : UInt8) : UInt32 :=
  ((coder.range.toUInt64 * state.toUInt64 +
    (if coder.legacyV0Arithmetic then 255 else 0)) >>> 8).toUInt32

def onePathCarry (coder : RangeCoder) (state : UInt8) : UInt32 :=
  if coder.legacyV0Arithmetic then
    (if (coder.range.toUInt64 * state.toUInt64 + 255) &&& 0xff ≠ 0 then 1 else 0)
      + (if (coder.range.toUInt64 * (256 - state.toUInt64)
          + (if coder.legacyV0Arithmetic then 0 else 255)) &&& 0xff ≠ 0 then 1 else 0)
  else 0

/-- The coder behind a one. -/
def afterOne (coder : RangeCoder) (state : UInt8) : RangeCoder :=
  let refilled := ({ coder with
    low := coder.low - (coder.range - coder.rangeoff state)
    range := coder.rangeoff state } : RangeCoder).refill
  { refilled with low := refilled.low + coder.onePathCarry state }

def afterZero (coder : RangeCoder) (state : UInt8) : RangeCoder :=
  ({ coder with range := coder.range - coder.rangeoff state } : RangeCoder).refill

theorem readRac_initialized {coder : RangeCoder} (hinit : coder.initialized = true)
    (state : UInt8) :
    readRac state coder =
      if coder.low < coder.range - coder.rangeoff state then
        .ok (false, rangeZeroState coder.stateTransition state) (coder.afterZero state)
      else .ok (true, rangeOneState coder.stateTransition state) (coder.afterOne state) := by
  have hopen : ¬coder.initialized = false := by rw [hinit]; decide
  unfold readRac
  rw [Mirror.get_bind, failIf_of_not hopen, Mirror.pure_bind]
  by_cases hbit : coder.low < coder.range - coder.rangeoff state
  · rw [if_pos hbit]
    exact congrFun (if_pos hbit) coder
  · rw [if_neg hbit]
    exact congrFun (if_neg hbit) coder

end RangeCoder

end Mffv1
