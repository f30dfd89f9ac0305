import Mffv1.RangeContexts

/-!
# The range coder

The decoder keeps a sixteen-bit window `low` into the payload, relative to the
lower end of the current interval. The flat context vector with its offsets is
kept as a list of banks; `legacyV0Arithmetic` and `legacyZeroSymbolCarry` are
switched on only while a legacy stream is read.
-/
namespace Mffv1

structure ArithmeticState where
  range : UInt32 := 0
  low : UInt32 := 0
  bytePosition : Nat := 0
  ended : Bool := false
  initialized : Bool := false
  deriving DecidableEq, Repr

structure RangeCoder where
  payload : Bytes := []
  range : UInt32 := 0
  low : UInt32 := 0
  bytePosition : Nat := 0
  ended : Bool := false
  initialized : Bool := false
  legacyV0Arithmetic : Bool := false
  legacyZeroSymbolCarry : Bool := false
  stateTransition : StateTransitionTable := defaultStateTransition
  scalarContexts : ContextStateBanks := []
  scalarContextSnapshots : List ContextStateBanks := []
  deriving DecidableEq

namespace RangeCoder

def initializeContexts : List Nat → List ContextStateBank → UInt8 →
    Except Error ContextStateBanks :=
  Mffv1.initializeContexts "range coder" (fun _ _ => .ok ())

def notInitialized : Error := makeError .invalidState "range coder is not initialized"

/-- `context_banks = initialize_contexts(...)`, which leaves the coder alone when it fails. -/
def assignContexts (scalarContextCounts : List Nat) (initialStateBanks : List ContextStateBank)
    (initialState : UInt8) : Call RangeCoder Unit := do
  match initializeContexts scalarContextCounts initialStateBanks initialState with
  | .ok contexts => modify fun coder => { coder with scalarContexts := contexts }
  | .error status => throw status

/-- The window after `reset`: the first two bytes, clamped to the initial range. -/
def startWindow (payload : Bytes) (stateTransition : StateTransitionTable)
    (coder : RangeCoder) : RangeCoder :=
  let low := ((payload.getD 0 0).toUInt32 <<< 8) ||| (payload.getD 1 0).toUInt32
  { coder with
    payload
    range := 0xff00
    low := if 0xff00 ≤ low then 0xff00 else low
    bytePosition := 2
    ended := decide (payload.length ≤ 2) || decide (0xff00 ≤ low)
    stateTransition
    initialized := true }

def resetImpl (payload : Bytes) (scalarContextCounts : List Nat)
    (initialStateBanks : List ContextStateBank) (initialState : UInt8)
    (stateTransition : StateTransitionTable) : Call RangeCoder Unit := do
  failIf (payload.length < 2) (makeByteError .syntaxError
    "range coder payload must contain at least two bytes" 0)
  assignContexts scalarContextCounts initialStateBanks initialState
  modify (startWindow payload stateTransition)

def reset (payload : Bytes) (scalarContextCounts : List Nat)
    (initialStateBanks : List ContextStateBank) (stateTransition : StateTransitionTable) :
    Call RangeCoder Unit :=
  resetImpl payload scalarContextCounts initialStateBanks defaultInitialState stateTransition

/-- `reset(payload, state_transition)`: one bank of one context. -/
def resetSingle (payload : Bytes) (stateTransition : StateTransitionTable) :
    Call RangeCoder Unit :=
  resetImpl payload [1] [] defaultInitialState stateTransition

def resetFromContexts (payload : Bytes) (contextBanks : ContextStateBanks)
    (stateTransition : StateTransitionTable) : Call RangeCoder Unit :=
  resetImpl payload contextBanks.sizes contextBanks defaultInitialState stateTransition

def resetFromArithmeticState (payload : Bytes) (scalarContextCounts : List Nat)
    (initialStateBanks : List ContextStateBank) (stateTransition : StateTransitionTable)
    (arithmeticState : ArithmeticState) : Call RangeCoder Unit := do
  failIf (arithmeticState.initialized = false) (makeError .invalidArgument
    "range coder arithmetic state is not initialized")
  failIf (arithmeticState.range = 0) (makeError .invalidArgument
    "range coder arithmetic state range must be non-zero")
  failIf (payload.length < arithmeticState.bytePosition) (makeByteError .syntaxError
    "range coder arithmetic byte position is outside the payload" arithmeticState.bytePosition)
  assignContexts scalarContextCounts initialStateBanks defaultInitialState
  modify fun coder =>
    { coder with
      payload
      range := arithmeticState.range
      low := arithmeticState.low
      bytePosition := arithmeticState.bytePosition
      ended := arithmeticState.ended || decide (payload.length ≤ arithmeticState.bytePosition)
      initialized := true
      stateTransition }

def reconfigureContexts (scalarContextCounts : List Nat)
    (initialStateBanks : List ContextStateBank) : Call RangeCoder Unit := do
  let coder ← get
  failIf (coder.initialized = false) notInitialized
  assignContexts scalarContextCounts initialStateBanks defaultInitialState

def copyContexts (coder : RangeCoder) : Except Error ContextStateBanks :=
  if coder.initialized then .ok coder.scalarContexts else .error notInitialized

def arithmeticState (coder : RangeCoder) : ArithmeticState where
  range := coder.range
  low := coder.low
  bytePosition := coder.bytePosition
  ended := coder.ended
  initialized := coder.initialized

def setStateTransition (stateTransition : StateTransitionTable) : Call RangeCoder Unit := do
  let coder ← get
  failIf (coder.initialized = false) notInitialized
  set { coder with stateTransition }

def setLegacyV0Arithmetic (enabled : Bool) : Call RangeCoder Unit := do
  let coder ← get
  failIf (coder.initialized = false) notInitialized
  set { coder with
    legacyV0Arithmetic := enabled
    scalarContexts :=
      if enabled then
        coder.scalarContexts.map (List.map fun (context : ScalarContextStates) => context.set 0 255)
      else coder.scalarContexts }

def setLegacyZeroSymbolCarry (enabled : Bool) : Call RangeCoder Unit := do
  let coder ← get
  failIf (coder.initialized = false) notInitialized
  set { coder with legacyZeroSymbolCarry := enabled }

def beginIndependentScalarContexts (scalarContextCount : Nat) : Call RangeCoder Unit := do
  let coder ← get
  failIf (coder.initialized = false) notInitialized
  match initializeContexts [scalarContextCount] [] defaultInitialState with
  | .ok contexts =>
    set { coder with
      scalarContexts := contexts
      scalarContextSnapshots := coder.scalarContexts :: coder.scalarContextSnapshots }
  | .error status => throw status

def endIndependentScalarContexts : Call RangeCoder Unit := do
  let coder ← get
  failIf (coder.initialized = false) notInitialized
  match coder.scalarContextSnapshots with
  | [] => throw (makeError .invalidState "range coder scalar context snapshot stack is empty")
  | snapshot :: snapshots =>
    set { coder with scalarContexts := snapshot, scalarContextSnapshots := snapshots }

def refill (coder : RangeCoder) : RangeCoder :=
  if 256 ≤ coder.range then coder
  else
    let range := coder.range <<< 8
    let low := coder.low <<< 8
    if coder.ended then { coder with range, low }
    else if coder.bytePosition < coder.payload.length then
      { coder with
        range
        low := low + (coder.payload.getD coder.bytePosition 0).toUInt32
        bytePosition := coder.bytePosition + 1
        ended := decide (coder.payload.length ≤ coder.bytePosition + 1) }
    else { coder with range, low, ended := true }

theorem refill_of_ge {coder : RangeCoder} (h : 256 ≤ coder.range) : coder.refill = coder := if_pos h

/-- One binary decision in `state`; returns the bit and the successor state. -/
def readRac (state : UInt8) : Call RangeCoder (Bool × UInt8) := do
  let coder ← get
  failIf (coder.initialized = false) notInitialized
  let product := coder.range.toUInt64 * state.toUInt64
  let rangeoff := ((product + (if coder.legacyV0Arithmetic then 255 else 0)) >>> 8).toUInt32
  let nonzeroProduct := coder.range.toUInt64 * (256 - state.toUInt64)
    + (if coder.legacyV0Arithmetic then 0 else 255)
  let onePathCarry : UInt32 :=
    if coder.legacyV0Arithmetic then
      (if (product + 255) &&& 0xff ≠ 0 then 1 else 0)
        + (if nonzeroProduct &&& 0xff ≠ 0 then 1 else 0)
    else 0
  let range := coder.range - rangeoff
  if coder.low < range then
    set ({ coder with range } : RangeCoder).refill
    return (false, rangeZeroState coder.stateTransition state)
  else
    let refilled := ({ coder with low := coder.low - range, range := rangeoff } : RangeCoder).refill
    set { refilled with low := refilled.low + onePathCarry }
    return (true, rangeOneState coder.stateTransition state)

/-- `read_rac` on a state of a context, which it replaces. -/
def racAt (bank context : Nat) (index : Fin 32) : Call RangeCoder Bool := do
  let coder ← get
  let (bit, state) ← readRac (coder.scalarContexts.stateAt bank context index)
  modify fun coder =>
    { coder with scalarContexts := coder.scalarContexts.setStateAt bank context index state }
  return bit

def readBool : Call RangeCoder Bool := do
  let coder ← get
  failIf (coder.scalarContexts.getD 0 [] = []) (makeError .invalidState
    "range coder has no scalar context for binary symbols")
  racAt 0 0 0

def readTerminationSentinel : Call RangeCoder Unit := do
  let _ ← readRac 129

/-- The unary exponent; `fuel` is what is left of the sixty-three allowed bits. -/
def readExponent (bank context : Nat) (exponent : Nat) : (fuel : Nat) → Call RangeCoder Nat
  | 0 => throw (makeError .syntaxError "range coded scalar exponent is too large")
  | fuel + 1 => do
    let bit ← racAt bank context (exponentIndex exponent)
    if bit then readExponent bank context (exponent + 1) fuel else return exponent

/-- The `count` lowest bits of the magnitude, highest first. -/
def readMantissa (bank context : Nat) (magnitude : Nat) : (count : Nat) → Call RangeCoder Nat
  | 0 => return magnitude
  | bit + 1 => do
    let value ← racAt bank context (mantissaIndex bit)
    readMantissa bank context (2 * magnitude + value.toNat) bit

def int64Max : Nat := 2 ^ 63 - 1

def readMagnitude (bank context : Nat) (isSigned : Bool) : Call RangeCoder Int := do
  let exponent ← readExponent bank context 0 63
  let magnitude ← readMantissa bank context 1 exponent
  failIf (int64Max < magnitude) (makeError .syntaxError
    "range coded scalar magnitude is too large")
  if isSigned then
    let negative ← racAt bank context (signIndex exponent)
    return if negative then -(magnitude : Int) else magnitude
  else return magnitude

def readScalar (bank context : Nat) (isSigned : Bool) : Call RangeCoder Int := do
  let zero ← racAt bank context 0
  if zero then
    modify fun coder =>
      if coder.legacyZeroSymbolCarry then { coder with low := coder.low + 1 } else coder
    return 0
  else readMagnitude bank context isSigned

def readSymbol (bank context : Nat) (isSigned : Bool) : Call RangeCoder Int := do
  let coder ← get
  failIf (coder.scalarContexts.length ≤ bank) (makeError .invalidArgument
    "range coder scalar context bank is out of range")
  failIf ((coder.scalarContexts.getD bank []).length ≤ context) (makeError .invalidArgument
    "range coder scalar context is out of range")
  readScalar bank context isSigned

def readUnsigned (bank context : Nat) : Call RangeCoder Nat := do
  let value ← readSymbol bank context false
  return value.toNat

def readSigned (bank context : Nat) : Call RangeCoder Int :=
  readSymbol bank context true

end RangeCoder

end Mffv1
