import Mffv1.RangeClosing
import Mffv1.RangeReads
import Mffv1.Lib.Observer

/-!
# What a reset of the range coder forgets

A reset writes the arithmetic state, the contexts and the transition table anew, but not
the legacy switches and the snapshots of open scopes. Two coders are alike behind the
same reset exactly where they agree on these.
-/
namespace Mffv1

/-- The overloads of `reset`, and `reset_from_contexts`. -/
inductive RangeCoderReset where
  | counts (payload : Bytes) (contextCounts : List Nat) (initialState : UInt8)
  | banks (payload : Bytes) (contextCounts : List Nat) (initial : List ContextStateBank)
      (table : StateTransitionTable)
  | single (payload : Bytes) (table : StateTransitionTable)
  | fromContexts (payload : Bytes) (contexts : ContextStateBanks) (table : StateTransitionTable)

def RangeCoderReset.perform : RangeCoderReset → Call RangeCoder Unit
  | counts payload contextCounts initialState =>
    RangeCoder.resetImpl payload contextCounts [] initialState defaultStateTransition
  | banks payload contextCounts initial table => RangeCoder.reset payload contextCounts initial table
  | single payload table => RangeCoder.resetSingle payload table
  | fromContexts payload contexts table => RangeCoder.resetFromContexts payload contexts table

inductive RangeCoderCall where
  | reset (kind : RangeCoderReset)
  | resetFromArithmeticState (payload : Bytes) (contextCounts : List Nat)
      (initial : List ContextStateBank) (table : StateTransitionTable)
      (arithmetic : ArithmeticState)
  | reconfigureContexts (contextCounts : List Nat) (initial : List ContextStateBank)
  | copyContexts
  | bytePosition
  | arithmeticState
  | readBool
  | readTerminationSentinel
  | readUnsigned (bank context : Nat)
  | readSigned (bank context : Nat)
  | beginIndependentScalarContexts (contextCount : Nat)
  | endIndependentScalarContexts
  | setStateTransition (table : StateTransitionTable)
  | setLegacyV0Arithmetic (enabled : Bool)
  | setLegacyZeroSymbolCarry (enabled : Bool)

/-- What a call puts out. -/
inductive RangeCoderValue where
  | nothing
  | bool (value : Bool)
  | unsigned (value : Nat)
  | signed (value : Int)
  | arithmetic (state : ArithmeticState)
  | contexts (banks : ContextStateBanks)
  deriving DecidableEq

namespace RangeCoderCall

def perform : RangeCoderCall → Call RangeCoder RangeCoderValue
  | .reset kind => do
    kind.perform
    return .nothing
  | .resetFromArithmeticState payload contextCounts initial table arithmetic => do
    RangeCoder.resetFromArithmeticState payload contextCounts initial table arithmetic
    return .nothing
  | .reconfigureContexts contextCounts initial => do
    RangeCoder.reconfigureContexts contextCounts initial
    return .nothing
  | .copyContexts => do
    let coder ← get
    let banks ← MonadExcept.ofExcept coder.copyContexts
    return .contexts banks
  | .bytePosition => do
    let coder ← get
    return .unsigned coder.bytePosition
  | .arithmeticState => do
    let coder ← get
    return .arithmetic coder.arithmeticState
  | .readBool => do return .bool (← RangeCoder.readBool)
  | .readTerminationSentinel => do
    RangeCoder.readTerminationSentinel
    return .nothing
  | .readUnsigned bank context => do return .unsigned (← RangeCoder.readUnsigned bank context)
  | .readSigned bank context => do return .signed (← RangeCoder.readSigned bank context)
  | .beginIndependentScalarContexts contextCount => do
    RangeCoder.beginIndependentScalarContexts contextCount
    return .nothing
  | .endIndependentScalarContexts => do
    RangeCoder.endIndependentScalarContexts
    return .nothing
  | .setStateTransition table => do
    RangeCoder.setStateTransition table
    return .nothing
  | .setLegacyV0Arithmetic enabled => do
    RangeCoder.setLegacyV0Arithmetic enabled
    return .nothing
  | .setLegacyZeroSymbolCarry enabled => do
    RangeCoder.setLegacyZeroSymbolCarry enabled
    return .nothing

end RangeCoderCall

namespace RangeCoder

/-- No sequence of calls tells the coders apart. -/
def Alike (coder coder' : RangeCoder) : Prop := Observer.Alike RangeCoderCall.perform coder coder'

/-- The members that no reset writes. -/
structure SameLeftover (coder coder' : RangeCoder) : Prop where
  arithmetic : coder.legacyV0Arithmetic = coder'.legacyV0Arithmetic
  carry : coder.legacyZeroSymbolCarry = coder'.legacyZeroSymbolCarry
  snapshots : coder.scalarContextSnapshots = coder'.scalarContextSnapshots

theorem resetImpl_ok {payload : Bytes} {contextCounts : List Nat}
    {initial : List ContextStateBank} {initialState : UInt8} {table : StateTransitionTable}
    {coder coder' : RangeCoder} {u : Unit}
    (h : resetImpl payload contextCounts initial initialState table coder = .ok u coder') :
    ∃ contexts, initializeContexts contextCounts initial initialState = .ok contexts ∧
      coder' = startWindow payload table { coder with scalarContexts := contexts } := by
  unfold resetImpl assignContexts at h
  obtain ⟨_, middle, hcheck, hrest⟩ := Mirror.bind_ok_iff.mp h
  obtain ⟨-, rfl⟩ := failIf_call_ok_iff.mp hcheck
  cases hinit : initializeContexts contextCounts initial initialState with
  | error status =>
    rw [hinit] at hrest
    cases hrest
  | ok contexts =>
    rw [hinit] at hrest
    obtain ⟨-, rfl⟩ := EStateM.Result.ok.inj hrest
    exact ⟨contexts, rfl, rfl⟩

/-- Every overload writes the same members, from its own arguments. -/
theorem reset_writes (kind : RangeCoderReset) : ∃ payload contextCounts initial initialState table,
    kind.perform = resetImpl payload contextCounts initial initialState table := by
  cases kind with
  | counts payload contextCounts initialState => exact ⟨_, _, _, _, _, rfl⟩
  | banks payload contextCounts initial table => exact ⟨_, _, _, _, _, rfl⟩
  | single payload table => exact ⟨_, _, _, _, _, rfl⟩
  | fromContexts payload contexts table => exact ⟨_, _, _, _, _, rfl⟩

section Reset

variable {kind : RangeCoderReset} {coder coder' other other' : RangeCoder} {u u' : Unit}

theorem reset_initialized (h : kind.perform coder = .ok u other) : other.initialized = true := by
  obtain ⟨payload, contextCounts, initial, initialState, table, heq⟩ := reset_writes kind
  rw [heq] at h
  obtain ⟨contexts, -, rfl⟩ := resetImpl_ok h
  rfl

theorem reset_leaves (h : kind.perform coder = .ok u other) : SameLeftover other coder := by
  obtain ⟨payload, contextCounts, initial, initialState, table, heq⟩ := reset_writes kind
  rw [heq] at h
  obtain ⟨contexts, -, rfl⟩ := resetImpl_ok h
  exact ⟨rfl, rfl, rfl⟩

/-- Coders that agree on the leftover are one coder behind a reset. -/
theorem reset_eq (hsame : SameLeftover coder coder') (h : kind.perform coder = .ok u other)
    (h' : kind.perform coder' = .ok u' other') : other = other' := by
  obtain ⟨payload, contextCounts, initial, initialState, table, heq⟩ := reset_writes kind
  rw [heq] at h h'
  obtain ⟨contexts, hinit, rfl⟩ := resetImpl_ok h
  obtain ⟨contexts', hinit', rfl⟩ := resetImpl_ok h'
  rw [hinit] at hinit'
  obtain rfl := Except.ok.inj hinit'
  unfold startWindow
  rw [hsame.arithmetic, hsame.carry, hsame.snapshots]

end Reset

section Observing

variable {coder coder' : RangeCoder}

/-- The coder behind a scope that it has closed. -/
def restored (coder : RangeCoder) (snapshot : ContextStateBanks)
    (snapshots : List ContextStateBanks) : RangeCoder :=
  { coder with scalarContexts := snapshot, scalarContextSnapshots := snapshots }

theorem endIndependent_of_empty (hinit : coder.initialized = true)
    (hempty : coder.scalarContextSnapshots = []) :
    endIndependentScalarContexts coder = .error (makeError .invalidState
      "range coder scalar context snapshot stack is empty") coder := by
  unfold endIndependentScalarContexts
  rw [Mirror.get_bind, failIf_of_not (by simp [hinit]), pure_bind, hempty]
  rfl

theorem endIndependent_of_cons (hinit : coder.initialized = true) {snapshot : ContextStateBanks}
    {snapshots : List ContextStateBanks}
    (hcons : coder.scalarContextSnapshots = snapshot :: snapshots) :
    endIndependentScalarContexts coder = .ok () (coder.restored snapshot snapshots) := by
  unfold endIndependentScalarContexts
  rw [Mirror.get_bind, failIf_of_not (by simp [hinit]), pure_bind, hcons]
  rfl

theorem copyContexts_outcome {coder : RangeCoder} (hinit : coder.initialized = true) :
    Observer.outcome (RangeCoderCall.perform .copyContexts coder) =
      .ok (.contexts coder.scalarContexts) := by
  simp only [RangeCoderCall.perform, Mirror.get_bind]
  unfold copyContexts
  rw [if_pos hinit]
  rfl

/-- Closing every scope and copying the contexts shows the snapshots. -/
theorem snapshots_of_alike (h : Alike coder coder') (hinit : coder.initialized = true)
    (hinit' : coder'.initialized = true) :
    coder.scalarContextSnapshots = coder'.scalarContextSnapshots := by
  have hperform : RangeCoderCall.perform .endIndependentScalarContexts =
      (endIndependentScalarContexts >>= fun _ => pure .nothing) := rfl
  induction hsnapshots : coder.scalarContextSnapshots generalizing coder coder' with
  | nil =>
    have hclose := h.outcome_eq .endIndependentScalarContexts
    rw [hperform, Mirror.bind_error (endIndependent_of_empty hinit hsnapshots)] at hclose
    cases hsnapshots' : coder'.scalarContextSnapshots with
    | nil => rfl
    | cons snapshot' snapshots' =>
      rw [Mirror.bind_ok (endIndependent_of_cons hinit' hsnapshots')] at hclose
      cases hclose
  | cons snapshot snapshots ih =>
    have hclose := h.outcome_eq .endIndependentScalarContexts
    have hnext := h.step .endIndependentScalarContexts
    rw [hperform, Mirror.bind_ok (endIndependent_of_cons hinit hsnapshots)] at hclose hnext
    cases hsnapshots' : coder'.scalarContextSnapshots with
    | nil =>
      rw [Mirror.bind_error (endIndependent_of_empty hinit' hsnapshots')] at hclose
      cases hclose
    | cons snapshot' snapshots' =>
      rw [Mirror.bind_ok (endIndependent_of_cons hinit' hsnapshots')] at hnext
      have hrestored : Alike (coder.restored snapshot snapshots)
          (coder'.restored snapshot' snapshots') := hnext
      have hopen : (coder.restored snapshot snapshots).initialized = true := hinit
      have hopen' : (coder'.restored snapshot' snapshots').initialized = true := hinit'
      have hcopy := hrestored.outcome_eq .copyContexts
      rw [copyContexts_outcome hopen, copyContexts_outcome hopen'] at hcopy
      obtain rfl : snapshot = snapshot' := RangeCoderValue.contexts.inj (Except.ok.inj hcopy)
      exact congrArg (snapshot :: ·) (ih hrestored hopen hopen' rfl)

/-- A coder that was reset to an arithmetic state, at the end of no payload. -/
def resumed (range low : UInt32) (coder : RangeCoder) : RangeCoder :=
  { coder with
    payload := []
    range
    low
    bytePosition := 0
    ended := true
    initialized := true
    stateTransition := defaultStateTransition
    scalarContexts := [[filledContext defaultInitialState]] }

def resume (range low : UInt32) : RangeCoderCall :=
  .resetFromArithmeticState [] [1] [] defaultStateTransition
    { range, low, ended := true, initialized := true }

theorem resume_perform {range low : UInt32} (hrange : range ≠ 0) (coder : RangeCoder) :
    (resume range low).perform coder = .ok .nothing (resumed range low coder) := by
  simp only [resume, RangeCoderCall.perform, resetFromArithmeticState]
  rw [failIf_of_not (by decide), failIf_of_not hrange, failIf_of_not (by decide)]
  rfl

theorem window_of_alike (h : Alike coder coder') :
    coder.range = coder'.range ∧ coder.low = coder'.low := by
  have hstates : coder.arithmeticState = coder'.arithmeticState :=
    RangeCoderValue.arithmetic.inj (Except.ok.inj (h.outcome_eq .arithmeticState))
  exact ⟨congrArg ArithmeticState.range hstates, congrArg ArithmeticState.low hstates⟩

/-- Where nothing is refilled, a zero is taken off the range. -/
theorem afterZero_range {coder : RangeCoder} {state : UInt8}
    (h : 256 ≤ coder.range - coder.rangeoff state) :
    (coder.afterZero state).range = coder.range - coder.rangeoff state := by
  unfold afterZero
  rw [refill_of_ge h]

theorem sentinel_perform {coder : RangeCoder} (hinit : coder.initialized = true)
    (hlow : coder.low < coder.range - coder.rangeoff 129) :
    RangeCoderCall.perform .readTerminationSentinel coder = .ok .nothing (coder.afterZero 129) := by
  have hrac := readRac_initialized hinit 129
  rw [if_pos hlow] at hrac
  have hsentinel : readTerminationSentinel coder = .ok () (coder.afterZero 129) := by
    unfold readTerminationSentinel
    rw [Mirror.bind_ok hrac]
    rfl
  simp only [RangeCoderCall.perform]
  rw [Mirror.bind_ok hsentinel]
  rfl

/-- The part of a one is rounded up in the arithmetic of the first version. -/
theorem resumed_rangeoff (coder : RangeCoder) :
    (resumed 4097 0 coder).rangeoff 129 = if coder.legacyV0Arithmetic then 2065 else 2064 := by
  have hclosed : ∀ legacy : Bool, (((4097 : UInt32).toUInt64 * (129 : UInt8).toUInt64 +
      (if legacy then 255 else 0)) >>> 8).toUInt32 = if legacy then 2065 else 2064 := by
    decide
  exact hclosed coder.legacyV0Arithmetic

/-- A sentinel behind a reset to an arithmetic state shows the arithmetic. -/
theorem arithmetic_of_alike (h : Alike coder coder') :
    coder.legacyV0Arithmetic = coder'.legacyV0Arithmetic := by
  have hresumed : Alike (resumed 4097 0 coder) (resumed 4097 0 coder') := by
    have hstep := h.step (resume 4097 0)
    rw [resume_perform (by decide), resume_perform (by decide)] at hstep
    exact hstep
  have hclosed : ∀ legacy : Bool, (0 : UInt32) < 4097 - (if legacy then 2065 else 2064) ∧
      256 ≤ (4097 : UInt32) - (if legacy then 2065 else 2064) := by
    decide
  have hroom (coder : RangeCoder) : (resumed 4097 0 coder).low <
        (resumed 4097 0 coder).range - (resumed 4097 0 coder).rangeoff 129 ∧
      256 ≤ (resumed 4097 0 coder).range - (resumed 4097 0 coder).rangeoff 129 := by
    rw [resumed_rangeoff]
    exact hclosed coder.legacyV0Arithmetic
  have hsentinel : Alike ((resumed 4097 0 coder).afterZero 129)
      ((resumed 4097 0 coder').afterZero 129) := by
    have hstep := Observer.Alike.step hresumed .readTerminationSentinel
    rw [sentinel_perform rfl (hroom coder).1, sentinel_perform rfl (hroom coder').1,
      Mirror.finalState, Mirror.finalState] at hstep
    exact hstep
  have hranges := (window_of_alike hsentinel).1
  rw [afterZero_range (hroom coder).2, afterZero_range (hroom coder').2, resumed_rangeoff,
    resumed_rangeoff] at hranges
  have hinjective : ∀ legacy legacy' : Bool,
      (4097 : UInt32) - (if legacy then 2065 else 2064) =
        4097 - (if legacy' then 2065 else 2064) → legacy = legacy' := by
    decide
  exact hinjective _ _ hranges

/-- Where nothing is refilled, a one narrows the window. -/
theorem afterOne_eq {coder : RangeCoder} {state : UInt8} (h : 256 ≤ coder.rangeoff state) :
    coder.afterOne state = { coder with
      low := coder.low - (coder.range - coder.rangeoff state) + coder.onePathCarry state
      range := coder.rangeoff state } := by
  unfold afterOne
  dsimp only
  rw [refill_of_ge h]

theorem carried_low (coder : RangeCoder) :
    coder.carried.low = if coder.legacyZeroSymbolCarry then coder.low + 1 else coder.low := by
  unfold carried
  split
  · rfl
  · rfl

/-- A symbol that starts with a one is zero. -/
theorem zeroSymbol_perform {coder next : RangeCoder} {state : UInt8}
    (hbank : 0 < coder.scalarContexts.length)
    (hcontext : 0 < (coder.scalarContexts.getD 0 []).length)
    (hrac : readRac (coder.scalarContexts.stateAt 0 0 0) coder = .ok (true, state) next) :
    RangeCoderCall.perform (.readUnsigned 0 0) coder = .ok (.unsigned 0)
      (carried { next with scalarContexts := next.scalarContexts.setStateAt 0 0 0 state }) := by
  have hzero : racAt 0 0 0 coder = .ok true
      { next with scalarContexts := next.scalarContexts.setStateAt 0 0 0 state } := by
    unfold racAt
    rw [Mirror.get_bind, Mirror.bind_ok hrac]
    rfl
  have hsymbol : readSymbol 0 0 false coder = .ok 0
      (carried { next with scalarContexts := next.scalarContexts.setStateAt 0 0 0 state }) := by
    unfold readSymbol
    rw [Mirror.get_bind, failIf_of_not (by omega), pure_bind, failIf_of_not (by omega), pure_bind]
    unfold readScalar
    rw [Mirror.bind_ok hzero]
    rfl
  have hunsigned : readUnsigned 0 0 coder = .ok 0
      (carried { next with scalarContexts := next.scalarContexts.setStateAt 0 0 0 state }) := by
    unfold readUnsigned
    rw [Mirror.bind_ok hsymbol]
    rfl
  simp only [RangeCoderCall.perform]
  rw [Mirror.bind_ok hunsigned]
  rfl

/-- The coder at a zero symbol, in the arithmetic of the later versions. -/
def beforeZero (coder : RangeCoder) : RangeCoder :=
  resumed 4096 4000 { coder with legacyV0Arithmetic := false }

theorem beforeZero_alike (h : Alike coder coder') (hinit : coder.initialized = true)
    (hinit' : coder'.initialized = true) : Alike coder.beforeZero coder'.beforeZero := by
  have hplain {coder : RangeCoder} (hinit : coder.initialized = true) :
      RangeCoderCall.perform (.setLegacyV0Arithmetic false) coder =
        .ok .nothing { coder with legacyV0Arithmetic := false } := by
    have hset : setLegacyV0Arithmetic false coder =
        .ok () { coder with legacyV0Arithmetic := false } := by
      unfold setLegacyV0Arithmetic
      rw [Mirror.get_bind, failIf_of_not (by simp [hinit]), pure_bind]
      rfl
    simp only [RangeCoderCall.perform]
    rw [Mirror.bind_ok hset]
    rfl
  have hstep := Observer.Alike.step (h.step (.setLegacyV0Arithmetic false)) (resume 4096 4000)
  rw [hplain hinit, hplain hinit', resume_perform (by decide), resume_perform (by decide)] at hstep
  exact hstep

/-- A zero symbol shows the carry. -/
theorem carry_of_alike (h : Alike coder coder') (hinit : coder.initialized = true)
    (hinit' : coder'.initialized = true) :
    coder.legacyZeroSymbolCarry = coder'.legacyZeroSymbolCarry := by
  have hzero (coder : RangeCoder) : ∃ last : RangeCoder,
      RangeCoderCall.perform (.readUnsigned 0 0) coder.beforeZero = .ok (.unsigned 0) last ∧
        last.low = if coder.legacyZeroSymbolCarry then 1953 else 1952 := by
    have hoff : coder.beforeZero.rangeoff 128 = 2048 :=
      show (((4096 : UInt32).toUInt64 * (128 : UInt8).toUInt64 + 0) >>> 8).toUInt32 = 2048 by decide
    have hlow : ¬coder.beforeZero.low < coder.beforeZero.range - coder.beforeZero.rangeoff 128 := by
      rw [hoff]
      exact show ¬(4000 : UInt32) < 4096 - 2048 by decide
    have hcarry : coder.beforeZero.onePathCarry 128 = 0 := rfl
    have hnext : coder.beforeZero.low - (coder.beforeZero.range - 2048) + 0 = 1952 :=
      show (4000 : UInt32) - (4096 - 2048) + 0 = 1952 by decide
    have hrac := readRac_initialized (show coder.beforeZero.initialized = true from rfl) 128
    rw [if_neg hlow, afterOne_eq (by rw [hoff]; decide), hoff, hcarry, hnext] at hrac
    have hstate : coder.beforeZero.scalarContexts.stateAt 0 0 0 = 128 := rfl
    have hperform := zeroSymbol_perform
      (show 0 < coder.beforeZero.scalarContexts.length from Nat.one_pos)
      (show 0 < (coder.beforeZero.scalarContexts.getD 0 []).length from Nat.one_pos)
      ((congrArg (readRac · coder.beforeZero) hstate).trans hrac)
    refine ⟨_, hperform, ?_⟩
    rw [carried_low]
    exact if_congr Iff.rfl (show (1952 : UInt32) + 1 = 1953 by decide) rfl
  obtain ⟨last, hperform, hlast⟩ := hzero coder
  obtain ⟨last', hperform', hlast'⟩ := hzero coder'
  have hnext : Alike last last' := by
    have hstep := Observer.Alike.step (beforeZero_alike h hinit hinit') (.readUnsigned 0 0)
    rw [hperform, hperform', Mirror.finalState, Mirror.finalState] at hstep
    exact hstep
  have hlows := (window_of_alike hnext).2
  rw [hlast, hlast'] at hlows
  have hinjective : ∀ carry carry' : Bool,
      (if carry then (1953 : UInt32) else 1952) = (if carry' then 1953 else 1952) →
        carry = carry' := by
    decide
  exact hinjective _ _ hlows

end Observing

/-- Behind the same reset two coders are alike exactly where the members agree that no
reset writes. -/
theorem reset_alike_iff {kind : RangeCoderReset} {coder coder' other other' : RangeCoder}
    (h : kind.perform coder = .ok () other) (h' : kind.perform coder' = .ok () other') :
    Alike other other' ↔ SameLeftover coder coder' := by
  have hleft := reset_leaves h
  have hleft' := reset_leaves h'
  have hinit := reset_initialized h
  have hinit' := reset_initialized h'
  constructor
  · intro halike
    exact ⟨hleft.arithmetic.symm.trans ((arithmetic_of_alike halike).trans hleft'.arithmetic),
      hleft.carry.symm.trans ((carry_of_alike halike hinit hinit').trans hleft'.carry),
      hleft.snapshots.symm.trans ((snapshots_of_alike halike hinit hinit').trans hleft'.snapshots)⟩
  · intro hsame
    obtain rfl := reset_eq hsame h h'
    exact fun _ => rfl

end RangeCoder

/-- The encoder becomes a new object, so that nothing of it is left over. -/
theorem RangeEncoder.reset_eq {contextCounts : List Nat} {initial : List ContextStateBank}
    {initialState : UInt8} {table : StateTransitionTable} {e e' other other' : RangeEncoder}
    (h : resetImpl contextCounts initial initialState table e = .ok () other)
    (h' : resetImpl contextCounts initial initialState table e' = .ok () other') :
    other = other' := by
  obtain ⟨contexts, hinit, rfl⟩ := resetImpl_ok h
  obtain ⟨contexts', hinit', rfl⟩ := resetImpl_ok h'
  rw [hinit] at hinit'
  rw [Except.ok.inj hinit']

/-- Whatever two coders have been through, behind a reset that both accept their calls give
the same results exactly where the legacy switches and the open scopes were the same. -/
theorem reset_forgets_iff (history history' : List RangeCoderCall) {kind : RangeCoderReset}
    {other other' : RangeCoder}
    (h : kind.perform (Observer.after RangeCoderCall.perform history {}) = .ok () other)
    (h' : kind.perform (Observer.after RangeCoderCall.perform history' {}) = .ok () other') :
    (∀ calls, Observer.results RangeCoderCall.perform calls other =
      Observer.results RangeCoderCall.perform calls other') ↔
    RangeCoder.SameLeftover (Observer.after RangeCoderCall.perform history {})
      (Observer.after RangeCoderCall.perform history' {}) :=
  RangeCoder.reset_alike_iff h h'

/-- A coder that has read a legacy stream and left a scope open. -/
def leftoverHistory : List RangeCoderCall :=
  [.reset (.single [0, 0] defaultStateTransition), .setLegacyV0Arithmetic true,
    .beginIndependentScalarContexts 1]

def leftoverReset : RangeCoderReset := .single [0, 0] defaultStateTransition

def freshCoder : RangeCoder := Mirror.finalState (leftoverReset.perform {})

def leftoverCoder : RangeCoder :=
  Mirror.finalState (leftoverReset.perform
    (Observer.after RangeCoderCall.perform leftoverHistory {}))

theorem reset_forgets_iff_leftover :
    (∀ calls, Observer.results RangeCoderCall.perform calls freshCoder =
      Observer.results RangeCoderCall.perform calls leftoverCoder) ↔
    RangeCoder.SameLeftover (Observer.after RangeCoderCall.perform [] {})
      (Observer.after RangeCoderCall.perform leftoverHistory {}) :=
  @reset_forgets_iff [] leftoverHistory leftoverReset freshCoder leftoverCoder
    (Mirror.eq_ok_of_succeeded (by decide +kernel)) (Mirror.eq_ok_of_succeeded (by decide +kernel))

/-- Behind the same reset a scope may be closed that was opened before it, and a range is
rounded as the legacy stream was. -/
theorem leftover_survives_reset :
    leftoverReset.perform (Observer.after RangeCoderCall.perform [] {}) = .ok () freshCoder ∧
      leftoverReset.perform (Observer.after RangeCoderCall.perform leftoverHistory {}) =
        .ok () leftoverCoder ∧
      Observer.results RangeCoderCall.perform [.endIndependentScalarContexts] freshCoder ≠
        Observer.results RangeCoderCall.perform [.endIndependentScalarContexts] leftoverCoder ∧
      Observer.results RangeCoderCall.perform
          [.readTerminationSentinel, .readTerminationSentinel, .arithmeticState] freshCoder ≠
        Observer.results RangeCoderCall.perform
          [.readTerminationSentinel, .readTerminationSentinel, .arithmeticState] leftoverCoder :=
  ⟨Mirror.eq_ok_of_succeeded (by decide +kernel), Mirror.eq_ok_of_succeeded (by decide +kernel),
    by decide +kernel, by decide +kernel⟩

end Mffv1
