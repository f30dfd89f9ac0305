import Mffv1.BitWriter
import Mffv1.Predictor

/-!
# Golomb-Rice coding

Signed values are folded and coded with an adaptive parameter; where the context is
zero, runs of predicted samples are coded by their length.
-/
namespace Mffv1

namespace GolombRiceReader

/-- Up to `count` zeros before a one; `none` when there are that many. -/
def readPrefix (prefixLength : Nat) : (count : Nat) → Call BitReader (Option Nat)
  | 0 => return none
  | count + 1 => do
    let bit ← BitReader.readBit
    if bit ≠ 0 then return some prefixLength else readPrefix (prefixLength + 1) count

def readUnsigned (k bitsPerRawSample : Nat) : Call BitReader Nat := do
  match ← readPrefix 0 12 with
  | some prefixLength =>
    let suffix ← BitReader.readBits k
    return prefixLength <<< k + suffix
  | none =>
    let escaped ← BitReader.readBits bitsPerRawSample
    return escaped + 11

def readSigned (k bitsPerRawSample : Nat) : Call BitReader Int := do
  let reader ← get
  let startByte := reader.bitPosition / 8
  failIf (32 ≤ k) (makeByteError .invalidArgument
    "Golomb-Rice parameter k must be less than 32" startByte)
  failIf (bitsPerRawSample = 0 ∨ 31 < bitsPerRawSample) (makeByteError .invalidArgument
    "Golomb-Rice raw sample width must be in the range 1..31" startByte)
  let folded ← EStateM.adaptExcept (setByteLocationIfMissing · startByte)
    (readUnsigned k bitsPerRawSample)
  let magnitude : Int := folded / 2
  let value := if folded % 2 ≠ 0 then -magnitude - 1 else magnitude
  failIf (value < -2 ^ 31 ∨ 2 ^ 31 - 1 < value) (makeByteError .syntaxError
    "Golomb-Rice signed value is outside the supported range" startByte)
  return value

end GolombRiceReader

namespace GolombRiceWriter

def writeZeros : (count : Nat) → Call BitWriter Unit
  | 0 => return ()
  | count + 1 => do
    BitWriter.writeBit 0
    writeZeros count

def writeUnsigned (k bitsPerRawSample value : Nat) : Call BitWriter Unit := do
  let maximumRegular := 12 <<< k - 1
  if value ≤ maximumRegular then
    writeZeros (value >>> k)
    BitWriter.writeBit 1
    BitWriter.writeBits (value % 2 ^ k) k
  else
    let escaped := value - 11
    failIf (2 ^ bitsPerRawSample - 1 < escaped) (makeError .invalidArgument
      "Golomb-Rice value does not fit the escape field")
    BitWriter.writeBits 0 12
    BitWriter.writeBits escaped bitsPerRawSample

def fold (value : Int) : Nat := if value < 0 then (-2 * value - 1).toNat else (2 * value).toNat

def writeSigned (k bitsPerRawSample : Nat) (value : Int) : Call BitWriter Unit := do
  failIf (32 ≤ k) (makeError .invalidArgument "Golomb-Rice parameter k must be less than 32")
  failIf (bitsPerRawSample = 0 ∨ 31 < bitsPerRawSample) (makeError .invalidArgument
    "Golomb-Rice raw sample width must be in the range 1..31")
  writeUnsigned k bitsPerRawSample (fold value)

end GolombRiceWriter

structure GolombRiceContextState where
  drift : Int := 0
  errorSum : Int := 4
  bias : Int := 0
  count : Int := 1
  deriving DecidableEq

namespace GolombRiceContextState

def validateState (state : GolombRiceContextState) : Status := do
  failIf (state.count ≤ 0 ∨ 128 < state.count) (makeError .invalidState
    "Golomb-Rice context count is invalid")
  failIf (state.errorSum < 0) (makeError .invalidState
    ("Golomb-Rice context error sum is invalid: " ++ toString state.errorSum))
  failIf (state.bias < -128 ∨ 127 < state.bias) (makeError .invalidState
    "Golomb-Rice context bias is invalid")

/-- The loop of `derive_k`; `fuel` is what is left of the thirty-one doublings. -/
def deriveKLoop (errorSum threshold : Int) (k : Nat) : (fuel : Nat) → Except Error Nat
  | 0 =>
    if threshold < errorSum then .error (makeError .invalidState
      "Golomb-Rice context requires an unrepresentable k parameter")
    else .ok k
  | fuel + 1 =>
    if threshold < errorSum then deriveKLoop errorSum (2 * threshold) (k + 1) fuel else .ok k

def deriveK (state : GolombRiceContextState) : Except Error Nat :=
  deriveKLoop state.errorSum state.count 0 31

def signExtend (value : Int) (bits : Nat) : Int :=
  let range : Int := 2 ^ bits
  let encoded := value % range
  if range / 2 ≤ encoded then encoded - range else encoded

def addValue (state : GolombRiceContextState) (value : Int) : GolombRiceContextState :=
  { state with errorSum := state.errorSum + value.natAbs, drift := state.drift + value }

def halve (state : GolombRiceContextState) : GolombRiceContextState :=
  if state.count = 128 then
    { state with
      count := state.count / 2
      drift := arithmeticRightShift state.drift 1
      errorSum := state.errorSum / 2 }
  else state

def correctBias (state : GolombRiceContextState) : GolombRiceContextState :=
  if state.drift ≤ -state.count then
    { state with
      bias := max (state.bias - 1) (-128)
      drift := max (state.drift + state.count) (-state.count + 1) }
  else if 0 < state.drift then
    { state with
      bias := min (state.bias + 1) 127
      drift := min (state.drift - state.count) 0 }
  else state

def updateState (state : GolombRiceContextState) (value : Int) : GolombRiceContextState :=
  let halved := (state.addValue value).halve
  { halved with count := halved.count + 1 }.correctBias

/-- `2 * state.drift < -state.count` -/
def isInverted (state : GolombRiceContextState) : Bool := decide (2 * state.drift < -state.count)

def readSymbol (state : GolombRiceContextState) (bitsPerRawSample : Nat) :
    Call BitReader (Int × GolombRiceContextState) := do
  match state.validateState with
  | .error status => throw status
  | .ok _ =>
    failIf (bitsPerRawSample = 0 ∨ 31 < bitsPerRawSample) (makeError .invalidArgument
      "Golomb-Rice raw sample width must be in the range 1..31")
    match state.deriveK with
    | .error status => throw status
    | .ok k =>
      let codedValue ← GolombRiceReader.readSigned k bitsPerRawSample
      let value := if state.isInverted then -1 - codedValue else codedValue
      return (signExtend (value + state.bias) bitsPerRawSample, state.updateState value)

/-- The difference after a run is not zero, and coded without the zero. -/
def readRunInterruption (state : GolombRiceContextState) (bitsPerRawSample : Nat) :
    Call BitReader (Int × GolombRiceContextState) := do
  let (value, state) ← state.readSymbol bitsPerRawSample
  return (if 0 ≤ value then value + 1 else value, state)

def writeSymbol (state : GolombRiceContextState) (bitsPerRawSample : Nat) (value : Int) :
    Call BitWriter GolombRiceContextState := do
  match state.validateState with
  | .error status => throw status
  | .ok _ =>
    failIf (bitsPerRawSample = 0 ∨ 31 < bitsPerRawSample) (makeError .invalidArgument
      "Golomb-Rice raw sample width must be in the range 1..31")
    match state.deriveK with
    | .error status => throw status
    | .ok k =>
      let adaptiveValue := signExtend (value - state.bias) bitsPerRawSample
      let codedValue := if state.isInverted then -1 - adaptiveValue else adaptiveValue
      GolombRiceWriter.writeSigned k bitsPerRawSample codedValue
      return state.updateState adaptiveValue

def writeRunInterruption (state : GolombRiceContextState) (bitsPerRawSample : Nat) (value : Int) :
    Call BitWriter GolombRiceContextState := do
  failIf (value = 0) (makeError .invalidArgument
    "Golomb-Rice run interruption difference must be nonzero")
  state.writeSymbol bitsPerRawSample (if 0 < value then value - 1 else value)

end GolombRiceContextState

structure GolombRiceRunState where
  runIndex : Nat := 0
  pendingCount : Nat := 0
  deriving DecidableEq

structure GolombRiceRunSegment where
  count : Nat := 0
  interrupted : Bool := false
  deriving DecidableEq

namespace GolombRiceRunState

def log2Run : List Nat :=
  [0, 0, 0, 0, 1, 1, 1, 1, 2, 2, 2, 2, 3, 3, 3, 3, 4, 4, 5, 5, 6, 6, 7, 7, 8, 9, 10, 11, 12, 13, 14,
    15, 16, 17, 18, 19, 20, 21, 22, 23, 24]

def readRunSegment (state : GolombRiceRunState) (x width : Nat) :
    Call BitReader (GolombRiceRunSegment × GolombRiceRunState) := do
  failIf (log2Run.length ≤ state.runIndex) (makeError .invalidState
    "Golomb-Rice run index is out of range")
  failIf (width < x) (makeError .invalidArgument "Golomb-Rice run position is outside the row")
  let rowRemaining := width - x
  if state.pendingCount ≠ 0 then
    let count := min state.pendingCount rowRemaining
    return ({ count }, { state with pendingCount := state.pendingCount - count })
  else
    let log2Run := log2Run.getD state.runIndex 0
    let bit ← BitReader.readBit
    if bit ≠ 0 then
      let count := 2 ^ log2Run
      if count ≤ rowRemaining then
        failIf (GolombRiceRunState.log2Run.length ≤ state.runIndex + 1) (makeError .resourceExhausted
          "Golomb-Rice run index exceeds the supported table")
        return ({ count }, { state with runIndex := state.runIndex + 1 })
      else return ({ count := rowRemaining }, state)
    else
      let remainder ← BitReader.readBits log2Run
      let runIndex := state.runIndex - 1
      if rowRemaining < remainder then
        return ({ count := rowRemaining }, { runIndex, pendingCount := remainder - rowRemaining })
      else return ({ count := remainder, interrupted := true }, { state with runIndex })

/-- The loop of `write_golomb_rice_run`; the run index grows in every round, so `fuel`
is what is left of the table. -/
def writeRunLoop (width : Nat) : (fuel runIndex position remaining : Nat) → Call BitWriter Nat
  | 0, _, _, _ => throw (makeError .invalidState "Golomb-Rice run index is out of range")
  | fuel + 1, runIndex, position, remaining => do
    let fullCount := 2 ^ log2Run.getD runIndex 0
    if fullCount ≤ remaining then
      failIf (log2Run.length ≤ runIndex + 1) (makeError .resourceExhausted
        "Golomb-Rice run index exceeds the supported table")
      BitWriter.writeBit 1
      if position + fullCount = width then return runIndex + 1
      else writeRunLoop width fuel (runIndex + 1) (position + fullCount) (remaining - fullCount)
    else
      BitWriter.writeBit 0
      BitWriter.writeBits remaining (log2Run.getD runIndex 0)
      return runIndex - 1

def writeRun (state : GolombRiceRunState) (x width count : Nat) :
    Call BitWriter GolombRiceRunState := do
  failIf (log2Run.length ≤ state.runIndex) (makeError .invalidState
    "Golomb-Rice run index is out of range")
  failIf (width < x ∨ width - x < count) (makeError .invalidArgument
    "Golomb-Rice run is outside the row")
  let runIndex ← writeRunLoop width (log2Run.length - state.runIndex) state.runIndex x count
  return { state with runIndex }

end GolombRiceRunState

end Mffv1
