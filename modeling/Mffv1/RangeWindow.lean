import Mffv1.RangeReset

/-!
# The window of the range decoder

Whatever the payload, the contexts and the transition table are, the window stays inside
the range and the range inside sixteen bits, so that no operation of a decision wraps.
-/
namespace Mffv1

open Hoare (Maintains)

namespace RangeCoder

/-- The first two bytes are clamped to the initial range. -/
def Clamped (payload : Bytes) : Prop :=
  0xff00 ≤ 256 * (payload.getD 0 0).toNat + (payload.getD 1 0).toNat

/-- The coder of a zero before it is refilled. -/
def takenZero (coder : RangeCoder) (state : UInt8) : RangeCoder :=
  { coder with range := coder.range - coder.rangeoff state }

/-- The coder of a one before it is refilled. -/
def takenOne (coder : RangeCoder) (state : UInt8) : RangeCoder :=
  { coder with
    low := coder.low - (coder.range - coder.rangeoff state)
    range := coder.rangeoff state }

/-- The shifts of a refill, and the byte it may add, stay inside 32 bits. -/
structure ExactRefill (coder : RangeCoder) : Prop where
  range : (coder.range <<< 8).toNat = 256 * coder.range.toNat
  low : (coder.low <<< 8).toNat = 256 * coder.low.toNat
  byte : ∀ byte : UInt8,
    (coder.low <<< 8 + byte.toUInt32).toNat = 256 * coder.low.toNat + byte.toNat

/-- The operations of a decision on the range and on the window have the results that
they have on the naturals. -/
structure ExactDecision (coder : RangeCoder) (state : UInt8) : Prop where
  rangeoff : (coder.rangeoff state).toNat = coder.range.toNat * state.toNat / 256
  zeroRange : (coder.range - coder.rangeoff state).toNat + (coder.rangeoff state).toNat =
    coder.range.toNat
  oneLow : ¬coder.low < coder.range - coder.rangeoff state →
    (coder.low - (coder.range - coder.rangeoff state)).toNat +
      (coder.range - coder.rangeoff state).toNat = coder.low.toNat
  zeroRefill : coder.low < coder.range - coder.rangeoff state →
    (coder.takenZero state).range < 256 → (coder.takenZero state).ExactRefill
  oneRefill : ¬coder.low < coder.range - coder.rangeoff state →
    (coder.takenOne state).range < 256 → (coder.takenOne state).ExactRefill

/-- What the window keeps: the clamped one lies at the end of the range. -/
structure Framed (payload : Bytes) (coder : RangeCoder) : Prop where
  range_le : coder.range.toNat ≤ 0xff00
  clamped : Clamped payload → coder.ended = true ∧ coder.low.toNat = coder.range.toNat
  plain : ¬Clamped payload → coder.low.toNat < coder.range.toNat ∧ 256 ≤ coder.range.toNat

/-- The same before a refill, which widens the range. -/
structure Taken (payload : Bytes) (coder : RangeCoder) : Prop where
  range_le : coder.range.toNat ≤ 0xff00
  clamped : Clamped payload → coder.ended = true ∧ coder.low.toNat = coder.range.toNat
  plain : ¬Clamped payload → coder.low.toNat < coder.range.toNat

theorem Framed.low_le {payload : Bytes} {coder : RangeCoder} (h : coder.Framed payload) :
    coder.low.toNat ≤ coder.range.toNat := by
  by_cases hclamped : Clamped payload
  · exact (h.clamped hclamped).2.le
  · exact (h.plain hclamped).1.le

section Decision

variable {payload : Bytes} {coder : RangeCoder} {state : UInt8}

theorem rangeoff_toNat (harith : coder.legacyV0Arithmetic = false)
    (hrange : coder.range.toNat ≤ 0xff00) (state : UInt8) :
    (coder.rangeoff state).toNat = coder.range.toNat * state.toNat / 256 := by
  unfold rangeoff
  rw [if_neg (by rw [harith]; decide), readRac_offset coder.range state hrange]
  exact RangeEncoder.rangeOffset_toNat state hrange

theorem zeroRange_toNat (harith : coder.legacyV0Arithmetic = false)
    (hrange : coder.range.toNat ≤ 0xff00) (state : UInt8) :
    (coder.range - coder.rangeoff state).toNat + (coder.rangeoff state).toNat =
      coder.range.toNat := by
  have hoff := rangeoff_toNat harith hrange state
  have hle : coder.rangeoff state ≤ coder.range := by
    rw [UInt32.le_iff_toNat_le, hoff]
    exact RangeEncoder.rangeOffset_le _ state
  rw [UInt32.toNat_sub_of_le _ _ hle]
  exact Nat.sub_add_cancel (UInt32.le_iff_toNat_le.mp hle)

theorem oneLow_toNat (h : ¬coder.low < coder.range - coder.rangeoff state) :
    (coder.low - (coder.range - coder.rangeoff state)).toNat +
      (coder.range - coder.rangeoff state).toNat = coder.low.toNat := by
  have hle : coder.range - coder.rangeoff state ≤ coder.low := UInt32.not_lt.mp h
  rw [UInt32.toNat_sub_of_le _ _ hle]
  exact Nat.sub_add_cancel (UInt32.le_iff_toNat_le.mp hle)

theorem exactRefill_of_le (hshort : coder.range < 256) (hlow : coder.low.toNat ≤ coder.range.toNat) :
    coder.ExactRefill := by
  have hrange : coder.range.toNat < 256 := UInt32.lt_iff_toNat_lt.mp hshort
  have hwindow : coder.low.toNat < 256 := by omega
  exact ⟨RangeEncoder.shiftRange_toNat hshort, shiftLow_toNat hwindow,
    fun byte => addByte_toNat byte hwindow⟩

/-- One shift is enough. -/
theorem Taken.refill (h : coder.Taken payload) : coder.refill.Framed payload := by
  obtain ⟨hrange, hclamped, hplain⟩ := h
  unfold RangeCoder.refill
  by_cases hwide : 256 ≤ coder.range
  · rw [if_pos hwide]
    exact ⟨hrange, hclamped, fun hopen => ⟨hplain hopen, UInt32.le_iff_toNat_le.mp hwide⟩⟩
  · have hshort : coder.range < 256 := UInt32.not_le.mp hwide
    have hlt : coder.range.toNat < 256 := UInt32.lt_iff_toNat_lt.mp hshort
    have hshift : (coder.range <<< 8).toNat = 256 * coder.range.toNat :=
      RangeEncoder.shiftRange_toNat hshort
    rw [if_neg hwide]
    by_cases hended : coder.ended = true
    · rw [if_pos hended]
      refine ⟨?_, fun hstart => ⟨hended, ?_⟩, fun hopen => ?_⟩
      · change (coder.range <<< 8).toNat ≤ 0xff00
        omega
      · have hlow := (hclamped hstart).2
        change (coder.low <<< 8).toNat = (coder.range <<< 8).toNat
        rw [hshift, shiftLow_toNat (by omega), hlow]
      · have hlow := hplain hopen
        change (coder.low <<< 8).toNat < (coder.range <<< 8).toNat ∧
          256 ≤ (coder.range <<< 8).toNat
        rw [hshift, shiftLow_toNat (by omega)]
        omega
    · -- A clamped window is at the end of its payload.
      have hopen : ¬Clamped payload := fun hstart => hended (hclamped hstart).1
      have hlow := hplain hopen
      rw [if_neg hended]
      split
      · have hbyte := (coder.payload.getD coder.bytePosition 0).toNat_lt
        have hadd := addByte_toNat (coder.payload.getD coder.bytePosition 0)
          (show coder.low.toNat < 256 by omega)
        refine ⟨?_, fun hstart => absurd hstart hopen, fun _ => ?_⟩
        · change (coder.range <<< 8).toNat ≤ 0xff00
          omega
        · change (coder.low <<< 8 + _).toNat < (coder.range <<< 8).toNat ∧
            256 ≤ (coder.range <<< 8).toNat
          rw [hshift, hadd]
          omega
      · refine ⟨?_, fun hstart => absurd hstart hopen, fun _ => ?_⟩
        · change (coder.range <<< 8).toNat ≤ 0xff00
          omega
        · change (coder.low <<< 8).toNat < (coder.range <<< 8).toNat ∧
            256 ≤ (coder.range <<< 8).toNat
          rw [hshift, shiftLow_toNat (by omega)]
          omega

/-- A window that lies at the end of the range is there again behind a one, and a zero is
not taken. -/
theorem takenZero_taken (harith : coder.legacyV0Arithmetic = false) (h : coder.Framed payload)
    (hbit : coder.low < coder.range - coder.rangeoff state) :
    (coder.takenZero state).Taken payload := by
  have hrange := zeroRange_toNat harith h.range_le state
  have hframe := h.range_le
  have hlow : coder.low.toNat < (coder.range - coder.rangeoff state).toNat :=
    UInt32.lt_iff_toNat_lt.mp hbit
  constructor
  · change (coder.range - coder.rangeoff state).toNat ≤ 0xff00
    omega
  · intro hstart
    have hend := (h.clamped hstart).2
    omega
  · intro _
    exact hlow

theorem takenOne_taken (harith : coder.legacyV0Arithmetic = false) (h : coder.Framed payload)
    (hbit : ¬coder.low < coder.range - coder.rangeoff state) :
    (coder.takenOne state).Taken payload := by
  have hrange := zeroRange_toNat harith h.range_le state
  have hframe := h.range_le
  have htaken := oneLow_toNat hbit
  constructor
  · change (coder.rangeoff state).toNat ≤ 0xff00
    omega
  · intro hstart
    obtain ⟨hended, hend⟩ := h.clamped hstart
    refine ⟨hended, ?_⟩
    change (coder.low - (coder.range - coder.rangeoff state)).toNat = (coder.rangeoff state).toNat
    omega
  · intro hopen
    have hlow := (h.plain hopen).1
    change (coder.low - (coder.range - coder.rangeoff state)).toNat < (coder.rangeoff state).toNat
    omega

theorem Taken.low_le (h : coder.Taken payload) : coder.low.toNat ≤ coder.range.toNat := by
  by_cases hclamped : Clamped payload
  · exact (h.clamped hclamped).2.le
  · exact (h.plain hclamped).le

theorem exactDecision_of_framed (harith : coder.legacyV0Arithmetic = false)
    (h : coder.Framed payload) (state : UInt8) : coder.ExactDecision state where
  rangeoff := rangeoff_toNat harith h.range_le state
  zeroRange := zeroRange_toNat harith h.range_le state
  oneLow := oneLow_toNat
  zeroRefill hbit hshort := exactRefill_of_le hshort (takenZero_taken harith h hbit).low_le
  oneRefill hbit hshort := exactRefill_of_le hshort (takenOne_taken harith h hbit).low_le

end Decision

/-- A decision in any state, or contexts, scopes and a table that are set anew. -/
inductive Moves : RangeCoder → RangeCoder → Prop where
  | decides {coder coder' : RangeCoder} (state : UInt8) {decided : Bool × UInt8}
      (h : readRac state coder = .ok decided coder') : Moves coder coder'
  | adapts (coder : RangeCoder) (contexts : ContextStateBanks)
      (snapshots : List ContextStateBanks) (table : StateTransitionTable) :
      Moves coder { coder with
        scalarContexts := contexts
        scalarContextSnapshots := snapshots
        stateTransition := table }

/-- The coders that a coder may become while it reads. -/
def Reaches : RangeCoder → RangeCoder → Prop := Relation.ReflTransGen Moves

/-- What the moves keep in a coder that reads `payload` without the legacy modes. -/
structure Windowed (payload : Bytes) (coder : RangeCoder) : Prop where
  framed : coder.Framed payload
  placed : coder.Placed
  bytes : coder.payload = payload
  arithmetic : coder.legacyV0Arithmetic = false
  carry : coder.legacyZeroSymbolCarry = false
  initialized : coder.initialized = true

variable {payload : Bytes} {coder coder' start : RangeCoder}

theorem afterOne_plain (harith : coder.legacyV0Arithmetic = false) (state : UInt8) :
    coder.afterOne state = (coder.takenOne state).refill := by
  have hnone : coder.onePathCarry state = 0 := by
    unfold onePathCarry
    rw [if_neg (by rw [harith]; decide)]
  unfold afterOne
  dsimp only
  rw [hnone, UInt32.add_zero]
  rfl

/-- A decision takes a part of the window and refills it. -/
theorem readRac_plain (h : coder.Windowed payload) (state : UInt8) :
    ∃ decided range low, readRac state coder = .ok decided (refill { coder with range, low }) ∧
      Taken payload { coder with range, low } := by
  rw [readRac_initialized h.initialized]
  by_cases hbit : coder.low < coder.range - coder.rangeoff state
  · rw [if_pos hbit]
    exact ⟨_, _, _, rfl, takenZero_taken h.arithmetic h.framed hbit⟩
  · rw [if_neg hbit, afterOne_plain h.arithmetic]
    exact ⟨_, _, _, rfl, takenOne_taken h.arithmetic h.framed hbit⟩

theorem Windowed.refilled (h : coder.Windowed payload) {range low : UInt32}
    (htaken : Taken payload { coder with range, low }) :
    (refill { coder with range, low }).Windowed payload ∧
      coder.bytePosition ≤ (refill { coder with range, low }).bytePosition := by
  have hplaced : Placed { coder with range, low } := ⟨h.placed.within, h.placed.unread⟩
  have hsame := refill_sameBut { coder with range, low }
  refine ⟨⟨htaken.refill, hplaced.refill, ?_, ?_, ?_, ?_⟩, refill_position { coder with range, low }⟩
  · rw [hsame]
    exact h.bytes
  · rw [hsame]
    exact h.arithmetic
  · rw [hsame]
    exact h.carry
  · rw [hsame]
    exact h.initialized

theorem Windowed.moves (h : coder.Windowed payload) (hmove : Moves coder coder') :
    coder'.Windowed payload ∧ coder.bytePosition ≤ coder'.bytePosition := by
  cases hmove with
  | decides state hread =>
    obtain ⟨decided, range, low, hrefill, htaken⟩ := readRac_plain h state
    rw [hrefill] at hread
    obtain ⟨-, rfl⟩ := EStateM.Result.ok.inj hread
    exact h.refilled htaken
  | adapts contexts snapshots table =>
    exact ⟨⟨⟨h.framed.range_le, h.framed.clamped, h.framed.plain⟩,
      ⟨h.placed.within, h.placed.unread⟩, h.bytes, h.arithmetic, h.carry, h.initialized⟩, le_rfl⟩

theorem Windowed.reaches (h : start.Windowed payload) (hreach : Reaches start coder) :
    coder.Windowed payload ∧ start.bytePosition ≤ coder.bytePosition := by
  induction hreach with
  | refl => exact ⟨h, le_rfl⟩
  | tail _ hmove ih =>
    obtain ⟨hwindowed, hposition⟩ := ih
    obtain ⟨hnext, hstep⟩ := hwindowed.moves hmove
    exact ⟨hnext, hposition.trans hstep⟩

section Calls

theorem readRac_follows (state : UInt8) : Maintains (Reaches start) (readRac state) := by
  intro coder h
  cases hread : readRac state coder with
  | ok decided coder' => exact h.tail (Moves.decides state hread)
  | error status coder' =>
    cases hinit : coder.initialized with
    | false =>
      rw [readRac_closed hinit] at hread
      obtain ⟨-, rfl⟩ := EStateM.Result.error.inj hread
      exact h
    | true =>
      rw [readRac_initialized hinit] at hread
      split at hread
      · cases hread
      · cases hread

theorem racAt_follows (bank context : Nat) (index : Fin 32) :
    Maintains (Reaches start) (racAt bank context index) := by
  refine Maintains.view fun coder _ => (readRac_follows _).bind fun result =>
    (Maintains.update fun coder h => ?_).bind fun _ => Maintains.pure
  exact h.tail (Moves.adapts coder (coder.scalarContexts.setStateAt bank context index result.2)
    coder.scalarContextSnapshots coder.stateTransition)

theorem assignContexts_follows (counts : List Nat) (initial : List ContextStateBank)
    (state : UInt8) : Maintains (Reaches start) (assignContexts counts initial state) := by
  unfold assignContexts
  cases initializeContexts counts initial state with
  | error status => exact Maintains.throws status
  | ok banks =>
    exact Maintains.update fun coder h => h.tail
      (Moves.adapts coder banks coder.scalarContextSnapshots coder.stateTransition)

theorem beginIndependent_follows (count : Nat) :
    Maintains (Reaches start) (beginIndependentScalarContexts count) := by
  refine opened_maintains fun coder h _ => ?_
  cases initializeContexts [count] [] defaultInitialState with
  | error status => exact h
  | ok banks =>
    exact h.tail (Moves.adapts coder banks (coder.scalarContexts :: coder.scalarContextSnapshots)
      coder.stateTransition)

theorem endIndependent_follows : Maintains (Reaches start) endIndependentScalarContexts := by
  refine opened_maintains fun coder h _ => ?_
  cases coder.scalarContextSnapshots with
  | nil => exact h
  | cons snapshot snapshots =>
    exact h.tail (Moves.adapts coder snapshot snapshots coder.stateTransition)

theorem setStateTransition_follows (table : StateTransitionTable) :
    Maintains (Reaches start) (setStateTransition table) :=
  opened_maintains fun coder h _ => h.tail
    (Moves.adapts coder coder.scalarContexts coder.scalarContextSnapshots table)

variable (hstart : start.Windowed payload)
include hstart

theorem carried_follows (coder : RangeCoder) (h : Reaches start coder) :
    Reaches start coder.carried := by
  have hcarry := (hstart.reaches h).1.carry
  unfold carried
  rw [if_neg (by rw [hcarry]; decide)]
  exact h

theorem readSymbol_follows (bank context : Nat) (isSigned : Bool) :
    Maintains (Reaches start) (readSymbol bank context isSigned) :=
  readSymbol_maintains racAt_follows (carried_follows hstart) bank context isSigned

/-- A mode that is off is switched off. -/
theorem setLegacy_follows :
    Maintains (Reaches start) (setLegacyV0Arithmetic false) ∧
      Maintains (Reaches start) (setLegacyZeroSymbolCarry false) := by
  constructor
  · refine opened_maintains fun coder h _ => ?_
    have harith := (hstart.reaches h).1.arithmetic
    have hsame : { coder with legacyV0Arithmetic := false } = coder := by rw [← harith]
    change Reaches start { coder with legacyV0Arithmetic := false }
    rw [hsame]
    exact h
  · refine opened_maintains fun coder h _ => ?_
    have hcarry := (hstart.reaches h).1.carry
    have hsame : { coder with legacyZeroSymbolCarry := false } = coder := by rw [← hcarry]
    change Reaches start { coder with legacyZeroSymbolCarry := false }
    rw [hsame]
    exact h

end Calls

end RangeCoder

/-- The calls that go on with the payload, in the modes that are no legacy. -/
def RangeCoderCall.ReadsOn : RangeCoderCall → Prop
  | .reset _ => False
  | .resetFromArithmeticState _ _ _ _ _ => False
  | .setLegacyV0Arithmetic enabled => enabled = false
  | .setLegacyZeroSymbolCarry enabled => enabled = false
  | _ => True

namespace RangeCoder

variable {payload : Bytes} {coder start : RangeCoder}

theorem perform_follows (hstart : start.Windowed payload) {call : RangeCoderCall}
    (hcall : call.ReadsOn) : Maintains (Reaches start) call.perform := by
  cases call with
  | reset kind => exact hcall.elim
  | resetFromArithmeticState payload counts initial table arithmetic => exact hcall.elim
  | reconfigureContexts counts initial =>
    exact (Maintains.view fun _ _ => failIf_maintains.bind fun _ =>
      assignContexts_follows counts initial defaultInitialState).bind fun _ => Maintains.pure
  | copyContexts => exact Maintains.view fun _ _ => (Maintains.ofExcept _).bind fun _ => Maintains.pure
  | bytePosition => exact Maintains.view fun _ _ => Maintains.pure
  | arithmeticState => exact Maintains.view fun _ _ => Maintains.pure
  | readBool => exact (readBool_maintains racAt_follows).bind fun _ => Maintains.pure
  | readTerminationSentinel =>
    exact ((readRac_follows 129).bind fun _ => Maintains.pure).bind fun _ => Maintains.pure
  | readUnsigned bank context =>
    exact ((readSymbol_follows hstart bank context false).bind fun _ => Maintains.pure).bind fun _ =>
      Maintains.pure
  | readSigned bank context =>
    exact (readSymbol_follows hstart bank context true).bind fun _ => Maintains.pure
  | beginIndependentScalarContexts count =>
    exact (beginIndependent_follows count).bind fun _ => Maintains.pure
  | endIndependentScalarContexts => exact endIndependent_follows.bind fun _ => Maintains.pure
  | setStateTransition table =>
    exact (setStateTransition_follows table).bind fun _ => Maintains.pure
  | setLegacyV0Arithmetic enabled =>
    obtain rfl : enabled = false := hcall
    exact (setLegacy_follows hstart).1.bind fun _ => Maintains.pure
  | setLegacyZeroSymbolCarry enabled =>
    obtain rfl : enabled = false := hcall
    exact (setLegacy_follows hstart).2.bind fun _ => Maintains.pure

theorem reaches_after (hstart : start.Windowed payload) {calls : List RangeCoderCall}
    (hcalls : ∀ call ∈ calls, call.ReadsOn) (h : Reaches start coder) :
    Reaches start (Observer.after RangeCoderCall.perform calls coder) := by
  induction calls generalizing coder with
  | nil => exact h
  | cons call calls ih =>
    obtain ⟨hcall, hrest⟩ := List.forall_mem_cons.mp hcalls
    exact ih hrest ((perform_follows hstart hcall).finalState h)

theorem startWindow_low (payload : Bytes) (table : StateTransitionTable) (coder : RangeCoder) :
    (Clamped payload → (startWindow payload table coder).ended = true ∧
      (startWindow payload table coder).low = 0xff00) ∧
    (¬Clamped payload → (startWindow payload table coder).low < 0xff00) := by
  have hstart := startLow_toNat (payload.getD 0 0) (payload.getD 1 0)
  have hclamp : Clamped payload ↔ (0xff00 : UInt32) ≤
      ((payload.getD 0 0).toUInt32 <<< 8 ||| (payload.getD 1 0).toUInt32) := by
    rw [UInt32.le_iff_toNat_le, hstart]
    exact Iff.rfl
  unfold startWindow
  dsimp only
  constructor
  · intro hclamped
    rw [decide_eq_true (hclamp.mp hclamped), if_pos (hclamp.mp hclamped)]
    exact ⟨Bool.or_true _, rfl⟩
  · intro hopen
    rw [if_neg (mt hclamp.mpr hopen)]
    exact UInt32.not_le.mp (mt hclamp.mpr hopen)

theorem startWindow_framed (payload : Bytes) (table : StateTransitionTable) (coder : RangeCoder) :
    (startWindow payload table coder).Framed payload := by
  obtain ⟨hclamped, hopen⟩ := startWindow_low payload table coder
  refine ⟨le_rfl, fun hstart => ?_, fun hstart => ⟨?_, ?_⟩⟩
  · obtain ⟨hended, hlow⟩ := hclamped hstart
    exact ⟨hended, congrArg UInt32.toNat hlow⟩
  · exact UInt32.lt_iff_toNat_lt.mp (hopen hstart)
  · exact show 256 ≤ (0xff00 : UInt32).toNat by decide

theorem resetImpl_windowed {counts : List Nat} {initial : List ContextStateBank}
    {initialState : UInt8} {table : StateTransitionTable} {before : RangeCoder}
    (hreset : resetImpl payload counts initial initialState table before = .ok () start)
    (harith : before.legacyV0Arithmetic = false) (hcarry : before.legacyZeroSymbolCarry = false) :
    start.Windowed payload := by
  have hlong : 2 ≤ payload.length := by
    by_contra hshort
    unfold resetImpl at hreset
    rw [failIf_of (not_le.mp hshort)] at hreset
    cases hreset
  obtain ⟨contexts, -, rfl⟩ := resetImpl_ok hreset
  refine ⟨startWindow_framed payload table _, ⟨hlong, fun hopen => ?_⟩, rfl, harith, hcarry, rfl⟩
  exact not_le.mp (of_decide_eq_false (Bool.or_eq_false_iff.mp hopen).1)

/-- What holds of a coder wherever it is in `payload`. Whatever it reads next leads to a
coder that decisions reach, as does every decision that a read is made of. -/
structure ReadsSafely (payload : Bytes) (coder : RangeCoder) : Prop where
  range_le : coder.range ≤ 0xff00
  low_le : coder.low ≤ coder.range
  plain : ¬Clamped payload → coder.low < coder.range ∧ 256 ≤ coder.range
  within : coder.bytePosition ≤ payload.length
  forwards : ∀ coder', Reaches coder coder' → coder.bytePosition ≤ coder'.bytePosition
  exact : ∀ state, coder.ExactDecision state
  calls : ∀ calls, (∀ call ∈ calls, RangeCoderCall.ReadsOn call) →
    Reaches coder (Observer.after RangeCoderCall.perform calls coder)

theorem Windowed.readsSafely (h : coder.Windowed payload) : coder.ReadsSafely payload where
  range_le := UInt32.le_iff_toNat_le.mpr h.framed.range_le
  low_le := UInt32.le_iff_toNat_le.mpr h.framed.low_le
  plain hopen := by
    obtain ⟨hlow, hrange⟩ := h.framed.plain hopen
    exact ⟨UInt32.lt_iff_toNat_lt.mpr hlow, UInt32.le_iff_toNat_le.mpr hrange⟩
  within := by
    rw [← h.bytes]
    exact h.placed.within
  forwards _ hnext := (h.reaches hnext).2
  exact := exactDecision_of_framed h.arithmetic h.framed
  calls _ hcalls := reaches_after h hcalls Relation.ReflTransGen.refl

end RangeCoder

/-- From a reset on, whatever the payload, the contexts and the tables are: the window and
the range stay inside their bounds, the payload is read forwards and not beyond its end, and
no operation of a decision wraps. -/
theorem window_invariant {payload : Bytes} {counts : List Nat} {initial : List ContextStateBank}
    {initialState : UInt8} {table : StateTransitionTable} {before start coder : RangeCoder}
    (hreset : RangeCoder.resetImpl payload counts initial initialState table before = .ok () start)
    (harith : before.legacyV0Arithmetic = false) (hcarry : before.legacyZeroSymbolCarry = false)
    (hreach : RangeCoder.Reaches start coder) : coder.ReadsSafely payload :=
  ((RangeCoder.resetImpl_windowed hreset harith hcarry).reaches hreach).1.readsSafely

/-- A coder at a clamped payload, with a context that holds the degenerate states. -/
def clampedStart : RangeCoder :=
  Mirror.finalState (RangeCoder.resetImpl [0xff, 0xff, 0x12] [1, 1]
    [[filledContext 0], [filledContext 255]] defaultInitialState defaultStateTransition {})

theorem window_invariant_clamped :
    (Mirror.finalState (RangeCoder.readRac 255 clampedStart)).ReadsSafely [0xff, 0xff, 0x12] :=
  @window_invariant [0xff, 0xff, 0x12] [1, 1] [[filledContext 0], [filledContext 255]]
    defaultInitialState defaultStateTransition {} clampedStart _
    (Mirror.eq_ok_of_succeeded (by decide +kernel)) rfl rfl
    (Relation.ReflTransGen.single (RangeCoder.Moves.decides 255
      (RangeCoder.readRac_initialized (by decide +kernel) 255)))

end Mffv1
