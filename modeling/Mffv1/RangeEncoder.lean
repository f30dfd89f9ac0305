import Mffv1.RangeContexts
import Mffv1.Lib.ByteValue

/-!
# The range encoder

The encoder keeps the lower end of its interval as the whole byte string written
so far, most significant byte first, and propagates carries through it.
-/
namespace Mffv1

structure RangeEncoder where
  lowBytes : Bytes := []
  range : UInt32 := 0
  stateTransition : StateTransitionTable := defaultStateTransition
  scalarContexts : ContextStateBanks := []
  scalarContextSnapshots : List ContextStateBanks := []
  initialized : Bool := false
  finalized : Bool := false
  deriving DecidableEq

namespace RangeEncoder

/-- `std::numeric_limits<std::size_t>::max()`. -/
def sizeMax : Nat := 2 ^ 64 - 1

def checkTotal (totalContextCount contextCount : Nat) : Status :=
  failIf (sizeMax - contextCount < totalContextCount) (makeError .resourceExhausted
    "range encoder total context count overflows size_t")

def initializeContexts : List Nat → List ContextStateBank → UInt8 →
    Except Error ContextStateBanks :=
  Mffv1.initializeContexts "range encoder" checkTotal

def notInitialized : Error := makeError .invalidState "range encoder is not initialized"

/-- Every writing method refuses an encoder that is not initialized or is finalized. -/
def checkOpen : Call RangeEncoder Unit := do
  let encoder ← get
  failIf (encoder.initialized = false) notInitialized
  failIf (encoder.finalized = true) (makeError .invalidState "range encoder is finalized")

def assignContexts (scalarContextCounts : List Nat) (initialStateBanks : List ContextStateBank)
    (initialState : UInt8) : Call RangeEncoder Unit := do
  match initializeContexts scalarContextCounts initialStateBanks initialState with
  | .ok contexts => modify fun encoder => { encoder with scalarContexts := contexts }
  | .error status => throw status

def resetImpl (scalarContextCounts : List Nat) (initialStateBanks : List ContextStateBank)
    (initialState : UInt8) (stateTransition : StateTransitionTable) :
    Call RangeEncoder Unit := do
  match initializeContexts scalarContextCounts initialStateBanks initialState with
  | .ok contexts =>
    set { lowBytes := [0, 0], range := 0xff00, stateTransition, scalarContexts := contexts,
          initialized := true : RangeEncoder }
  | .error status => throw status

def reset (scalarContextCounts : List Nat) (initialStateBanks : List ContextStateBank)
    (stateTransition : StateTransitionTable) : Call RangeEncoder Unit :=
  resetImpl scalarContextCounts initialStateBanks defaultInitialState stateTransition

/-- `reset(state_transition)`: one bank of one context. -/
def resetSingle (stateTransition : StateTransitionTable) : Call RangeEncoder Unit :=
  resetImpl [1] [] defaultInitialState stateTransition

def reconfigureContexts (scalarContextCounts : List Nat)
    (initialStateBanks : List ContextStateBank) : Call RangeEncoder Unit := do
  checkOpen
  assignContexts scalarContextCounts initialStateBanks defaultInitialState

def copyContexts (encoder : RangeEncoder) : Except Error ContextStateBanks :=
  if encoder.initialized then .ok encoder.scalarContexts else .error notInitialized

def beginIndependentScalarContexts (scalarContextCount : Nat) : Call RangeEncoder Unit := do
  checkOpen
  let encoder ← get
  match initializeContexts [scalarContextCount] [] defaultInitialState with
  | .ok contexts =>
    set { encoder with
      scalarContexts := contexts
      scalarContextSnapshots := encoder.scalarContexts :: encoder.scalarContextSnapshots }
  | .error status => throw status

def endIndependentScalarContexts : Call RangeEncoder Unit := do
  checkOpen
  let encoder ← get
  match encoder.scalarContextSnapshots with
  | [] => throw (makeError .invalidState "range encoder scalar context snapshot stack is empty")
  | snapshot :: snapshots =>
    set { encoder with scalarContexts := snapshot, scalarContextSnapshots := snapshots }

/-- Adds `value` to the lower end, rippling the carry towards the first byte. -/
def addToLow (value : UInt32) : Call RangeEncoder Unit := do
  let encoder ← get
  let sum := ByteValue.addCarry encoder.lowBytes value.toNat
  set { encoder with lowBytes := sum.1 }
  failIf (sum.2 ≠ 0) (makeError .internalError
    "range encoder lower bound exceeded its precision")

/-- The range that `value` leaves in `state`. -/
def nextRange (range : UInt32) (state : UInt8) (value : Bool) : UInt32 :=
  let rangeOffset := (range * state.toUInt32) >>> 8
  if value then rangeOffset else range - rangeOffset

def nextState (stateTransition : StateTransitionTable) (state : UInt8) (value : Bool) : UInt8 :=
  if value then rangeOneState stateTransition state else rangeZeroState stateTransition state

def renormalize (next : UInt32) (encoder : RangeEncoder) : RangeEncoder :=
  if next < 256 then
    { encoder with range := next <<< 8, lowBytes := encoder.lowBytes ++ [0] }
  else { encoder with range := next }

/-- One binary decision in `state`; returns the successor state. -/
def writeRac (state : UInt8) (value : Bool) : Call RangeEncoder UInt8 := do
  let encoder ← get
  let next := nextRange encoder.range state value
  failIf (next = 0) (makeError .invalidArgument
    "binary value has a zero-width range in the current state")
  failIf (next < 256 ∧ encoder.lowBytes.length = maxByteVectorSize) (makeError .resourceExhausted
    "range encoder output exceeds vector capacity")
  (if value then addToLow (nextRange encoder.range state false) else pure ())
  modify (renormalize next)
  return nextState encoder.stateTransition state value

/-- `write_rac` on a state of a context, which it replaces. -/
def racAt (bank context : Nat) (index : Fin 32) (value : Bool) : Call RangeEncoder Unit := do
  let encoder ← get
  let state ← writeRac (encoder.scalarContexts.stateAt bank context index) value
  modify fun encoder =>
    { encoder with scalarContexts := encoder.scalarContexts.setStateAt bank context index state }

def writeBool (value : Bool) : Call RangeEncoder Unit := do
  checkOpen
  let encoder ← get
  failIf (encoder.scalarContexts.getD 0 [] = []) (makeError .invalidState
    "range encoder has no scalar context for binary symbols")
  racAt 0 0 0 value

def writeTerminationSentinel : Call RangeEncoder Unit := do
  checkOpen
  let _ ← writeRac 129 false

abbrev Decision := Fin 32 × Bool

/-- The unary exponent from bit `exponent` on: `count` ones, then a zero. -/
def exponentDecisions (exponent : Nat) : (count : Nat) → List Decision
  | 0 => [(exponentIndex exponent, false)]
  | count + 1 => (exponentIndex exponent, true) :: exponentDecisions (exponent + 1) count

/-- The `count` lowest bits of the magnitude, highest first. -/
def mantissaDecisions (magnitude : Nat) : (count : Nat) → List Decision
  | 0 => []
  | bit + 1 => (mantissaIndex bit, magnitude.testBit bit) :: mantissaDecisions magnitude bit

/-- The binary decisions of a scalar; `Nat.log2` is `bit_width - 1` on a non-zero magnitude. -/
def symbolDecisions (isSigned : Bool) (magnitude : Nat) (negative : Bool) : List Decision :=
  (0, decide (magnitude = 0)) ::
    if magnitude = 0 then []
    else
      exponentDecisions 0 magnitude.log2 ++ mantissaDecisions magnitude magnitude.log2 ++
        if isSigned then [(signIndex magnitude.log2, negative)] else []

/-- The trial pass: the number of bytes the decisions append, unless one of them
enters a zero-width range. -/
def trialDecisions (stateTransition : StateTransitionTable) :
    List Decision → ScalarContextStates → UInt32 → Nat → Except Error Nat
  | [], _, _, appendedBytes => .ok appendedBytes
  | (index, value) :: decisions, states, range, appendedBytes =>
    let state := states.get index
    let next := nextRange range state value
    if next = 0 then
      .error (makeError .invalidArgument
        "scalar symbol enters a zero-width range in the current context state")
    else
      let states := states.setState index (nextState stateTransition state value)
      if next < 256 then
        trialDecisions stateTransition decisions states (next <<< 8) (appendedBytes + 1)
      else trialDecisions stateTransition decisions states next appendedBytes

def writeDecisions (bank context : Nat) : List Decision → Call RangeEncoder Unit
  | [] => return ()
  | (index, value) :: decisions => do
    racAt bank context index value
    writeDecisions bank context decisions

def writeSymbol (bank context : Nat) (isSigned : Bool) (magnitude : Nat) (negative : Bool) :
    Call RangeEncoder Unit := do
  let encoder ← get
  failIf (encoder.scalarContexts.length ≤ bank) (makeError .invalidArgument
    "range encoder scalar context bank is out of range")
  failIf ((encoder.scalarContexts.getD bank []).length ≤ context) (makeError .invalidArgument
    "range encoder scalar context is out of range")
  let decisions := symbolDecisions isSigned magnitude negative
  let states := (encoder.scalarContexts.getD bank []).getD context (filledContext 0)
  match trialDecisions encoder.stateTransition decisions states encoder.range 0 with
  | .error status => throw status
  | .ok appendedBytes =>
    failIf (maxByteVectorSize - encoder.lowBytes.length < appendedBytes)
      (makeError .resourceExhausted "range encoder output exceeds vector capacity")
    (writeDecisions bank context decisions).adaptExcept fun _ =>
      makeError .internalError "prevalidated scalar range decision failed"

def int64Max : Nat := 2 ^ 63 - 1

def writeUnsigned (bank context : Nat) (value : Nat) : Call RangeEncoder Unit := do
  checkOpen
  failIf (int64Max < value) (makeError .invalidArgument
    "unsigned value exceeds the range coder scalar limit")
  writeSymbol bank context false value false

/-- On an `int64_t` the refused values are `INT64_MIN` alone. -/
def writeSigned (bank context : Nat) (value : Int) : Call RangeEncoder Unit := do
  checkOpen
  failIf (int64Max < value.natAbs) (makeError .invalidArgument
    "signed value magnitude exceeds the range coder scalar limit")
  writeSymbol bank context true value.natAbs (decide (value < 0))

/-- The loop of `finalize_impl` that raises an aligned delta to at most `target`. -/
def alignDelta (range target : Nat) (alignedDelta : Nat) : (fuel : Nat) → Nat
  | 0 => alignedDelta
  | fuel + 1 =>
    if alignedDelta + 256 < range ∧ alignedDelta + 256 ≤ target then
      alignDelta range target (alignedDelta + 256) fuel
    else alignedDelta

/-- What `finalize_closed` adds to the lower end: a multiple of 256 away from it
near the middle of the interval where there is one, else the middle. -/
def closingDelta (lowBytes : Bytes) (range : Nat) : Nat :=
  let deltaToZeroLowByte := (256 - (lowBytes.getLastD 0).toNat) % 256
  let target := range / 2
  if deltaToZeroLowByte < range then
    let alignedDelta := alignDelta range target deltaToZeroLowByte (range / 256)
    -- The source compares unsigned differences.
    if alignedDelta + 256 < range ∧
        alignedDelta + 256 - target < (target + 2 ^ 32 - alignedDelta) % 2 ^ 32 then
      alignedDelta + 256
    else alignedDelta
  else target

/-- A closed range drops one trailing zero byte. -/
def dropTrailingZero (bytes : Bytes) : Bytes :=
  if 2 < bytes.length ∧ bytes.getLastD 0 = 0 then bytes.dropLast else bytes

def finalizeImpl (closeInterval : Bool) : Call RangeEncoder Bytes := do
  let encoder ← get
  failIf (encoder.initialized = false) notInitialized
  failIf (encoder.finalized = true) (makeError .invalidState "range encoder is already finalized")
  if closeInterval then
    let delta := closingDelta encoder.lowBytes encoder.range.toNat
    let sum := ByteValue.addCarry encoder.lowBytes delta
    failIf (sum.2 ≠ 0) (makeError .internalError
      "range encoder lower bound exceeded its precision")
    set { encoder with finalized := true }
    return dropTrailingZero sum.1
  else
    set { encoder with finalized := true }
    return encoder.lowBytes

def finalize : Call RangeEncoder Bytes := finalizeImpl false

def finalizeClosed : Call RangeEncoder Bytes := finalizeImpl true

def byteCount (encoder : RangeEncoder) : Nat := encoder.lowBytes.length

end RangeEncoder

end Mffv1
