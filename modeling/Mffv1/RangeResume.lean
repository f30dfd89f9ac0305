import Mffv1.RangeReset

/-!
# Saving and restoring the range coder

`arithmetic_state` and `copy_contexts` save everything that the rest of a payload is read
with. A restored coder differs from the saved one by the scopes that were open.
-/
namespace Mffv1

open Mirror (Projects)
open Hoare (Triple Maintains)

/-- Sizes of banks that `initialize_contexts` accepts. -/
structure AcceptedSizes (sizes : List Nat) : Prop where
  nonempty : sizes ≠ []
  count_le : sizes.length ≤ maxContextBankCount
  size_pos : ∀ size ∈ sizes, 0 < size
  size_le : ∀ size ∈ sizes, size ≤ maxScalarContextCount

theorem initializeContexts_accepted {name : String} {checkTotal : Nat → Nat → Status}
    {counts : List Nat} {initial : List ContextStateBank} {state : UInt8}
    {banks : ContextStateBanks}
    (h : initializeContexts name checkTotal counts initial state = .ok banks) :
    AcceptedSizes banks.sizes := by
  obtain ⟨⟨hne, hlen, -, hmatch⟩, rfl⟩ := initializeContexts_ok h
  rw [initialContextBanks_sizes state hmatch]
  exact ⟨hne, hlen, fun _ hmem => (hmatch.size hmem).1, fun _ hmem => (hmatch.size hmem).2⟩

/-- Copied banks are initial states of their own sizes. -/
theorem RangeCoder.initializeContexts_self {banks : ContextStateBanks}
    (h : AcceptedSizes banks.sizes) (state : UInt8) :
    initializeContexts banks.sizes banks state = .ok banks := by
  have hsizes : banks.sizes.length = banks.length := List.length_map _
  have hvalid : ContextsValid banks.sizes banks :=
    ⟨h.nonempty, h.count_le, .inr hsizes.symm,
      contextCountsMatch_self fun size hmem => ⟨h.size_pos size hmem, h.size_le size hmem⟩⟩
  have hfull : ∀ bank ∈ banks, bank ≠ [] := by
    intro bank hmem
    have hpos := h.size_pos bank.length (List.mem_map_of_mem hmem)
    exact List.ne_nil_of_length_pos hpos
  unfold RangeCoder.initializeContexts
  rw [initializeContexts_of_valid state hvalid fun _ _ _ _ => rfl,
    initialContextBanks_self state banks hfull]

namespace RangeCoder

/-- What every sequence of calls keeps. -/
structure Sound (coder : RangeCoder) : Prop where
  opened : coder.range ≠ 0 → coder.initialized = true
  placed : coder.initialized = true → coder.Placed
  contexts : coder.initialized = true → AcceptedSizes coder.scalarContexts.sizes
  snapshots : ∀ banks ∈ coder.scalarContextSnapshots, AcceptedSizes banks.sizes

theorem sound_fresh : Sound {} :=
  ⟨fun h => absurd rfl h, nofun, nofun, nofun⟩

/-- A decision moves the window of an initialized coder. -/
theorem Sound.moved {coder coder' : RangeCoder} (h : coder.Sound)
    (hinit : coder.initialized = true) (hsame : coder.SameBut coder')
    (hplaced : coder'.Placed) : coder'.Sound := by
  have hinit' : coder'.initialized = true := by rw [hsame]; exact hinit
  refine ⟨fun _ => hinit', fun _ => hplaced, fun _ => ?_, ?_⟩
  · rw [hsame]
    exact h.contexts hinit
  · rw [hsame]
    exact h.snapshots

theorem readRac_sound (state : UInt8) : Maintains Sound (readRac state) := by
  intro coder h
  cases hinit : coder.initialized with
  | false =>
    rw [readRac_closed hinit]
    exact h
  | true =>
    obtain ⟨hwithin, hunread⟩ := h.placed hinit
    rw [readRac_initialized hinit]
    split
    · exact h.moved hinit (afterZero_sameBut coder state) (Placed.refill ⟨hwithin, hunread⟩)
    · have hplaced : Placed (RangeCoder.refill { coder with
          low := coder.low - (coder.range - coder.rangeoff state)
          range := coder.rangeoff state }) := Placed.refill ⟨hwithin, hunread⟩
      exact h.moved hinit (afterOne_sameBut coder state) ⟨hplaced.within, hplaced.unread⟩

theorem Sound.withContexts {coder : RangeCoder} (h : coder.Sound) {banks : ContextStateBanks}
    {snapshots : List ContextStateBanks} (hbanks : coder.initialized = true →
      AcceptedSizes banks.sizes) (hsnapshots : ∀ saved ∈ snapshots, AcceptedSizes saved.sizes) :
    Sound { coder with scalarContexts := banks, scalarContextSnapshots := snapshots } :=
  ⟨h.opened, fun hinit => ⟨(h.placed hinit).within, (h.placed hinit).unread⟩, hbanks, hsnapshots⟩

theorem racAt_sound (bank context : Nat) (index : Fin 32) :
    Maintains Sound (racAt bank context index) := by
  refine Maintains.view fun coder _ => (readRac_sound _).bind fun result =>
    (Maintains.update fun coder h => ?_).bind fun _ => Maintains.pure
  refine h.withContexts (fun hinit => ?_) h.snapshots
  rw [setStateAt_sizes]
  exact h.contexts hinit

theorem carried_sound (coder : RangeCoder) (h : coder.Sound) : coder.carried.Sound := by
  unfold carried
  split
  · exact ⟨h.opened, fun hinit => ⟨(h.placed hinit).within, (h.placed hinit).unread⟩, h.contexts,
      h.snapshots⟩
  · exact h

theorem readSymbol_sound (bank context : Nat) (isSigned : Bool) :
    Maintains Sound (readSymbol bank context isSigned) :=
  readSymbol_maintains racAt_sound carried_sound bank context isSigned

theorem assignContexts_accepted (counts : List Nat) (initial : List ContextStateBank)
    (state : UInt8) : Triple Sound (assignContexts counts initial state)
      (fun _ coder => coder.Sound ∧ AcceptedSizes coder.scalarContexts.sizes)
      fun _ => Sound := by
  unfold assignContexts
  cases hinit : initializeContexts counts initial state with
  | error status => exact Triple.fails fun _ h => h
  | ok banks =>
    have haccepted := initializeContexts_accepted hinit
    exact Triple.update fun coder h => ⟨h.withContexts (fun _ => haccepted) h.snapshots, haccepted⟩

theorem assignContexts_sound (counts : List Nat) (initial : List ContextStateBank)
    (state : UInt8) : Maintains Sound (assignContexts counts initial state) :=
  (assignContexts_accepted counts initial state).post fun _ _ h => h.1

theorem resetImpl_sound (payload : Bytes) (counts : List Nat) (initial : List ContextStateBank)
    (state : UInt8) (table : StateTransitionTable) :
    Maintains Sound (resetImpl payload counts initial state table) := by
  unfold resetImpl
  by_cases hshort : payload.length < 2
  · intro coder h
    rw [failIf_of hshort]
    exact h
  · rw [failIf_of_not hshort]
    refine (assignContexts_accepted counts initial state).bind fun _ =>
      Triple.update fun coder h => ?_
    obtain ⟨hsound, haccepted⟩ := h
    refine ⟨fun _ => rfl, fun _ => ⟨not_lt.mp hshort, fun hopen => ?_⟩, fun _ => haccepted,
      hsound.snapshots⟩
    exact not_le.mp (of_decide_eq_false (Bool.or_eq_false_iff.mp hopen).1)

theorem resetFromArithmeticState_sound (payload : Bytes) (counts : List Nat)
    (initial : List ContextStateBank) (table : StateTransitionTable) (arithmetic : ArithmeticState) :
    Maintains Sound (resetFromArithmeticState payload counts initial table arithmetic) := by
  unfold resetFromArithmeticState
  refine failIf_maintains.bind fun _ => failIf_maintains.bind fun _ => ?_
  by_cases houtside : payload.length < arithmetic.bytePosition
  · intro coder h
    rw [failIf_of houtside]
    exact h
  · rw [failIf_of_not houtside]
    refine (assignContexts_accepted counts initial defaultInitialState).bind fun _ =>
      Triple.update fun coder h => ?_
    obtain ⟨hsound, haccepted⟩ := h
    refine ⟨fun _ => rfl, fun _ => ⟨not_lt.mp houtside, fun hopen => ?_⟩, fun _ => haccepted,
      hsound.snapshots⟩
    exact not_le.mp (of_decide_eq_false (Bool.or_eq_false_iff.mp hopen).2)

theorem beginIndependent_sound (count : Nat) :
    Maintains Sound (beginIndependentScalarContexts count) := by
  refine opened_maintains fun coder h hinit => ?_
  cases hbanks : initializeContexts [count] [] defaultInitialState with
  | error status => exact h
  | ok banks =>
    exact h.withContexts (fun _ => initializeContexts_accepted hbanks)
      (List.forall_mem_cons.mpr ⟨h.contexts hinit, h.snapshots⟩)

theorem endIndependent_sound : Maintains Sound endIndependentScalarContexts := by
  refine opened_maintains fun coder h _ => ?_
  have haccepted := h.snapshots
  cases hsnapshots : coder.scalarContextSnapshots with
  | nil => exact h
  | cons snapshot snapshots =>
    rw [hsnapshots, List.forall_mem_cons] at haccepted
    exact h.withContexts (fun _ => haccepted.1) haccepted.2

/-- A switch that is set on a coder which was reset. -/
theorem Sound.switched {coder coder' : RangeCoder} (h : coder.Sound) (hinit : coder.initialized = true)
    (hplace : coder'.initialized = coder.initialized ∧ coder'.payload = coder.payload ∧
      coder'.bytePosition = coder.bytePosition ∧ coder'.ended = coder.ended)
    (hcontexts : coder'.scalarContexts.sizes = coder.scalarContexts.sizes)
    (hsnapshots : coder'.scalarContextSnapshots = coder.scalarContextSnapshots) : coder'.Sound := by
  obtain ⟨hinit', hpayload, hposition, hended⟩ := hplace
  obtain ⟨hwithin, hunread⟩ := h.placed hinit
  refine ⟨fun _ => hinit'.trans hinit, fun _ => ⟨?_, ?_⟩, fun _ => ?_, ?_⟩
  · rw [hposition, hpayload]
    exact hwithin
  · rw [hposition, hpayload, hended]
    exact hunread
  · rw [hcontexts]
    exact h.contexts hinit
  · rw [hsnapshots]
    exact h.snapshots

theorem sizes_map (change : ScalarContextStates → ScalarContextStates) (banks : ContextStateBanks) :
    ContextStateBanks.sizes (banks.map (List.map change)) = banks.sizes := by
  unfold ContextStateBanks.sizes
  rw [List.map_map]
  exact List.map_congr_left fun bank _ => List.length_map _

theorem setLegacyV0Arithmetic_sound (enabled : Bool) :
    Maintains Sound (setLegacyV0Arithmetic enabled) := by
  refine opened_maintains fun coder h hinit => h.switched hinit ⟨rfl, rfl, rfl, rfl⟩ ?_ rfl
  cases enabled with
  | true => exact sizes_map _ coder.scalarContexts
  | false => rfl

theorem setStateTransition_sound (table : StateTransitionTable) :
    Maintains Sound (setStateTransition table) :=
  opened_maintains fun _ h hinit => h.switched hinit ⟨rfl, rfl, rfl, rfl⟩ rfl rfl

theorem setLegacyZeroSymbolCarry_sound (enabled : Bool) :
    Maintains Sound (setLegacyZeroSymbolCarry enabled) :=
  opened_maintains fun _ h hinit => h.switched hinit ⟨rfl, rfl, rfl, rfl⟩ rfl rfl

theorem perform_sound (call : RangeCoderCall) : Maintains Sound call.perform := by
  cases call with
  | reset kind =>
    obtain ⟨payload, counts, initial, state, table, heq⟩ := reset_writes kind
    have hreset := resetImpl_sound payload counts initial state table
    rw [← heq] at hreset
    exact hreset.bind fun _ => Maintains.pure
  | resetFromArithmeticState payload counts initial table arithmetic =>
    exact (resetFromArithmeticState_sound payload counts initial table arithmetic).bind fun _ =>
      Maintains.pure
  | reconfigureContexts counts initial =>
    exact (Maintains.view fun _ _ => failIf_maintains.bind fun _ =>
      assignContexts_sound counts initial defaultInitialState).bind fun _ => Maintains.pure
  | copyContexts => exact Maintains.view fun _ _ => (Maintains.ofExcept _).bind fun _ => Maintains.pure
  | bytePosition => exact Maintains.view fun _ _ => Maintains.pure
  | arithmeticState => exact Maintains.view fun _ _ => Maintains.pure
  | readBool => exact (readBool_maintains racAt_sound).bind fun _ => Maintains.pure
  | readTerminationSentinel =>
    exact ((readRac_sound 129).bind fun _ => Maintains.pure).bind fun _ => Maintains.pure
  | readUnsigned bank context =>
    exact ((readSymbol_sound bank context false).bind fun _ => Maintains.pure).bind fun _ =>
      Maintains.pure
  | readSigned bank context =>
    exact (readSymbol_sound bank context true).bind fun _ => Maintains.pure
  | beginIndependentScalarContexts count =>
    exact (beginIndependent_sound count).bind fun _ => Maintains.pure
  | endIndependentScalarContexts => exact endIndependent_sound.bind fun _ => Maintains.pure
  | setStateTransition table => exact (setStateTransition_sound table).bind fun _ => Maintains.pure
  | setLegacyV0Arithmetic enabled =>
    exact (setLegacyV0Arithmetic_sound enabled).bind fun _ => Maintains.pure
  | setLegacyZeroSymbolCarry enabled =>
    exact (setLegacyZeroSymbolCarry_sound enabled).bind fun _ => Maintains.pure

section Above

variable {base : List ContextStateBanks}

/-- `coder` on a stack that holds `base` already. -/
def above (base : List ContextStateBanks) (coder : RangeCoder) : RangeCoder :=
  { coder with scalarContextSnapshots := coder.scalarContextSnapshots ++ base }

theorem refill_above (coder : RangeCoder) : (coder.above base).refill = coder.refill.above base := by
  unfold refill above
  dsimp only
  split_ifs <;> rfl

theorem leavesWindow_above : LeavesWindow (above base) where
  initialized _ := rfl
  low _ := rfl
  range _ := rfl
  rangeoff _ _ := rfl
  stateTransition _ := rfl
  afterZero coder state := refill_above { coder with range := coder.range - coder.rangeoff state }
  afterOne coder state :=
    congrArg (fun refilled : RangeCoder =>
      { refilled with low := refilled.low + coder.onePathCarry state })
      (refill_above { coder with
        low := coder.low - (coder.range - coder.rangeoff state)
        range := coder.rangeoff state })
  carried coder := by
    unfold carried above
    dsimp only
    split_ifs <;> rfl

theorem racAt_above (bank context : Nat) (index : Fin 32) :
    Projects (above base) (racAt bank context index) (racAt bank context index) :=
  leavesWindow_above.racAt_projects (fun _ => rfl) fun _ _ => rfl

theorem readSymbol_above (bank context : Nat) (isSigned : Bool) :
    Projects (above base) (readSymbol bank context isSigned) (readSymbol bank context isSigned) :=
  readSymbol_projects (racAt_above bank context) leavesWindow_above (fun _ => Iff.rfl)
    (fun _ => Iff.rfl) isSigned

theorem readBool_above : Projects (above base) readBool readBool := by
  intro coder
  by_cases hnone : coder.scalarContexts.getD 0 [] = []
  · have hnone' : (coder.above base).scalarContexts.getD 0 [] = [] := hnone
    unfold readBool
    rw [Mirror.get_bind, Mirror.get_bind, failIf_of hnone, failIf_of hnone']
    rfl
  · have hsome : ¬(coder.above base).scalarContexts.getD 0 [] = [] := hnone
    unfold readBool
    rw [Mirror.get_bind, Mirror.get_bind, failIf_of_not hnone, failIf_of_not hsome]
    exact racAt_above 0 0 0 coder

theorem assignContexts_above (counts : List Nat) (initial : List ContextStateBank)
    (state : UInt8) : Projects (above base) (assignContexts counts initial state)
      (assignContexts counts initial state) := by
  unfold assignContexts
  cases initializeContexts counts initial state with
  | error status => exact fun _ => rfl
  | ok banks => exact Projects.modify fun _ => rfl

theorem resetImpl_above (payload : Bytes) (counts : List Nat) (initial : List ContextStateBank)
    (state : UInt8) (table : StateTransitionTable) :
    Projects (above base) (resetImpl payload counts initial state table)
      (resetImpl payload counts initial state table) :=
  failIf_projects.bind fun _ => (assignContexts_above counts initial state).bind fun _ =>
    Projects.modify fun _ => rfl

theorem resetFromArithmeticState_above (payload : Bytes) (counts : List Nat)
    (initial : List ContextStateBank) (table : StateTransitionTable) (arithmetic : ArithmeticState) :
    Projects (above base) (resetFromArithmeticState payload counts initial table arithmetic)
      (resetFromArithmeticState payload counts initial table arithmetic) :=
  failIf_projects.bind fun _ => failIf_projects.bind fun _ => failIf_projects.bind fun _ =>
    (assignContexts_above counts initial defaultInitialState).bind fun _ =>
      Projects.modify fun _ => rfl

theorem beginIndependent_above (count : Nat) :
    Projects (above base) (beginIndependentScalarContexts count)
      (beginIndependentScalarContexts count) := by
  refine opened_projects (fun _ => rfl) fun coder => ?_
  cases initializeContexts [count] [] defaultInitialState with
  | error status => rfl
  | ok banks => rfl

theorem reconfigureContexts_above (counts : List Nat) (initial : List ContextStateBank) :
    Projects (above base) (reconfigureContexts counts initial)
      (reconfigureContexts counts initial) :=
  opened_projects (fun _ => rfl) fun coder =>
    assignContexts_above counts initial defaultInitialState coder

theorem setStateTransition_above (table : StateTransitionTable) :
    Projects (above base) (setStateTransition table) (setStateTransition table) :=
  opened_projects (fun _ => rfl) fun _ => rfl

theorem setLegacyV0Arithmetic_above (enabled : Bool) :
    Projects (above base) (setLegacyV0Arithmetic enabled) (setLegacyV0Arithmetic enabled) :=
  opened_projects (fun _ => rfl) fun _ => rfl

theorem setLegacyZeroSymbolCarry_above (enabled : Bool) :
    Projects (above base) (setLegacyZeroSymbolCarry enabled) (setLegacyZeroSymbolCarry enabled) :=
  opened_projects (fun _ => rfl) fun _ => rfl

/-- What lies below is seen by a coder only when it closes a scope. -/
theorem perform_above {call : RangeCoderCall} (hcall : call ≠ .endIndependentScalarContexts) :
    Projects (above base) call.perform call.perform := by
  cases call with
  | reset kind =>
    obtain ⟨payload, counts, initial, state, table, heq⟩ := reset_writes kind
    have hreset := @resetImpl_above base payload counts initial state table
    rw [← heq] at hreset
    exact hreset.bind fun _ => Projects.pure _
  | resetFromArithmeticState payload counts initial table arithmetic =>
    exact (resetFromArithmeticState_above payload counts initial table arithmetic).bind fun _ =>
      Projects.pure _
  | reconfigureContexts counts initial =>
    exact (reconfigureContexts_above counts initial).bind fun _ => Projects.pure _
  | copyContexts =>
    refine Projects.view_same (π := above base) (fun coder : RangeCoder => coder.copyContexts)
      (fun copied => (do
        let banks ← MonadExcept.ofExcept copied
        return RangeCoderValue.contexts banks : Call RangeCoder RangeCoderValue))
      (fun _ => rfl) fun copied => ?_
    exact (Projects.ofExcept copied).bind fun _ => Projects.pure _
  | bytePosition => exact fun _ => rfl
  | arithmeticState => exact fun _ => rfl
  | readBool => exact readBool_above.bind fun _ => Projects.pure _
  | readTerminationSentinel =>
    exact ((leavesWindow_above.readRac_projects 129).bind fun _ => Projects.pure _).bind fun _ =>
      Projects.pure _
  | readUnsigned bank context =>
    exact ((readSymbol_above bank context false).bind fun _ => Projects.pure _).bind fun _ =>
      Projects.pure _
  | readSigned bank context =>
    exact (readSymbol_above bank context true).bind fun _ => Projects.pure _
  | beginIndependentScalarContexts count =>
    exact (beginIndependent_above count).bind fun _ => Projects.pure _
  | endIndependentScalarContexts => exact absurd rfl hcall
  | setStateTransition table =>
    exact (setStateTransition_above table).bind fun _ => Projects.pure _
  | setLegacyV0Arithmetic enabled =>
    exact (setLegacyV0Arithmetic_above enabled).bind fun _ => Projects.pure _
  | setLegacyZeroSymbolCarry enabled =>
    exact (setLegacyZeroSymbolCarry_above enabled).bind fun _ => Projects.pure _

end Above

/-- `calls` close none of the first `depth` scopes of the stack. -/
def ClosesAbove (depth : Nat) (calls : List RangeCoderCall) (coder : RangeCoder) : Prop :=
  ∀ earlier later, calls = earlier ++ .endIndependentScalarContexts :: later →
    (Observer.after RangeCoderCall.perform earlier coder).scalarContextSnapshots = [] ∨
      depth < (Observer.after RangeCoderCall.perform earlier coder).scalarContextSnapshots.length

/-- A scope of its own is closed by a coder whatever lies below. -/
theorem endIndependent_above {base : List ContextStateBanks} {coder : RangeCoder}
    (h : (coder.above base).scalarContextSnapshots = [] ∨
      base.length < (coder.above base).scalarContextSnapshots.length) :
    endIndependentScalarContexts (coder.above base) =
      Mirror.mapState (above base) (endIndependentScalarContexts coder) := by
  cases hsnapshots : coder.scalarContextSnapshots with
  | nil =>
    have hbase : (coder.above base).scalarContextSnapshots = base := by
      unfold above
      rw [hsnapshots, List.nil_append]
    have hempty : base = [] := by
      rw [hbase] at h
      exact h.resolve_right (lt_irrefl _)
    subst hempty
    have habove (coder : RangeCoder) : coder.above [] = coder := by
      unfold above
      rw [List.append_nil]
    rw [habove]
    cases endIndependentScalarContexts coder with
    | ok u coder' => exact congrArg (EStateM.Result.ok u) (habove coder').symm
    | error status coder' => exact congrArg (EStateM.Result.error status) (habove coder').symm
  | cons snapshot snapshots =>
    have hcons : (coder.above base).scalarContextSnapshots = snapshot :: (snapshots ++ base) := by
      unfold above
      rw [hsnapshots, List.cons_append]
    cases hinit : coder.initialized with
    | false =>
      have hinit' : (coder.above base).initialized = false := hinit
      unfold endIndependentScalarContexts
      rw [Mirror.get_bind, Mirror.get_bind, failIf_of hinit, failIf_of hinit']
      rfl
    | true =>
      rw [endIndependent_of_cons hinit hsnapshots,
        endIndependent_of_cons (show (coder.above base).initialized = true from hinit) hcons]
      rfl

theorem results_above {base : List ContextStateBanks} {calls : List RangeCoderCall}
    {coder : RangeCoder} (h : ClosesAbove base.length calls (coder.above base)) :
    Observer.results RangeCoderCall.perform calls (coder.above base) =
        Observer.results RangeCoderCall.perform calls coder ∧
      Observer.after RangeCoderCall.perform calls (coder.above base) =
        (Observer.after RangeCoderCall.perform calls coder).above base := by
  refine Observer.results_of_commutes
    (P := fun call (coder : RangeCoder) => call = .endIndependentScalarContexts →
      coder.scalarContextSnapshots = [] ∨ base.length < coder.scalarContextSnapshots.length)
    (fun call coder hpermitted => ?_) fun earlier call later heq hend => ?_
  · by_cases hend : call = .endIndependentScalarContexts
    · subst hend
      exact Mirror.mapState_bind (endIndependent_above (hpermitted rfl)) fun _ => Projects.pure _
    · exact perform_above hend coder
  · subst hend
    exact h earlier later heq

theorem sound_after (history : List RangeCoderCall) :
    Sound (Observer.after RangeCoderCall.perform history {}) :=
  Observer.after_maintains (fun call _ h => (perform_sound call).finalState h) sound_fresh history

/-- The coder without the scopes that are open. -/
def unscoped (coder : RangeCoder) : RangeCoder := { coder with scalarContextSnapshots := [] }

/-- The open scopes are all that is below the restored coder. -/
theorem results_of_saved {coder : RangeCoder} {calls : List RangeCoderCall}
    (h : ClosesAbove coder.scalarContextSnapshots.length calls coder) :
    Observer.results RangeCoderCall.perform calls coder =
        Observer.results RangeCoderCall.perform calls coder.unscoped ∧
      Observer.after RangeCoderCall.perform calls coder =
        (Observer.after RangeCoderCall.perform calls coder.unscoped).above
          coder.scalarContextSnapshots :=
  @results_above _ calls coder.unscoped h

/-- The end flag that is computed anew is the one that was saved. -/
theorem Placed.ended_eq {coder : RangeCoder} (h : coder.Placed) :
    (coder.ended || decide (coder.payload.length ≤ coder.bytePosition)) = coder.ended := by
  cases hended : coder.ended with
  | true => rfl
  | false =>
    rw [Bool.false_or]
    exact decide_eq_false (not_le.mpr (h.unread hended))

/-- A fresh coder on what was saved is the saved coder without its open scopes. -/
theorem resetFromArithmeticState_saved {coder : RangeCoder} (h : coder.Sound)
    (harith : coder.legacyV0Arithmetic = false) (hcarry : coder.legacyZeroSymbolCarry = false)
    (hrange : coder.arithmeticState.range ≠ 0) :
    resetFromArithmeticState coder.payload coder.scalarContexts.sizes coder.scalarContexts
        coder.stateTransition coder.arithmeticState {} = .ok () coder.unscoped := by
  have hinit : coder.initialized = true := h.opened hrange
  have hopen : ¬coder.arithmeticState.initialized = false := by
    change ¬coder.initialized = false
    rw [hinit]
    decide
  have hplaced := h.placed hinit
  have hinside : ¬coder.payload.length < coder.arithmeticState.bytePosition :=
    not_lt.mpr hplaced.within
  have hassign : assignContexts coder.scalarContexts.sizes coder.scalarContexts
      defaultInitialState {} = .ok () { scalarContexts := coder.scalarContexts } := by
    unfold assignContexts
    rw [initializeContexts_self (h.contexts hinit)]
    rfl
  have hwritten : ({
      payload := coder.payload
      range := coder.range
      low := coder.low
      bytePosition := coder.bytePosition
      ended := coder.ended || decide (coder.payload.length ≤ coder.bytePosition)
      initialized := true
      stateTransition := coder.stateTransition
      scalarContexts := coder.scalarContexts } : RangeCoder) = coder.unscoped := by
    rw [hplaced.ended_eq]
    unfold unscoped
    rw [harith, hcarry, hinit]
  unfold resetFromArithmeticState
  rw [failIf_of_not hopen, failIf_of_not hrange, failIf_of_not hinside]
  simp only [pure_bind]
  rw [Mirror.bind_ok hassign, Mirror.modify_apply]
  exact congrArg (EStateM.Result.ok ()) hwritten

end RangeCoder

/-- A coder that is restored from a saved one goes on as the saved one does, as long as no
scope is closed that was open when it was saved. -/
theorem arithmetic_state_resumes (history : List RangeCoderCall) {coder : RangeCoder}
    (hcoder : coder = Observer.after RangeCoderCall.perform history {})
    (harith : coder.legacyV0Arithmetic = false) (hcarry : coder.legacyZeroSymbolCarry = false)
    (hrange : coder.arithmeticState.range ≠ 0) :
    ∃ banks restored, coder.copyContexts = .ok banks ∧
      RangeCoder.resetFromArithmeticState coder.payload banks.sizes banks coder.stateTransition
        coder.arithmeticState {} = .ok () restored ∧
      ∀ calls, RangeCoder.ClosesAbove coder.scalarContextSnapshots.length calls coder →
        Observer.results RangeCoderCall.perform calls restored =
            Observer.results RangeCoderCall.perform calls coder ∧
          (Observer.after RangeCoderCall.perform calls restored).bytePosition =
            (Observer.after RangeCoderCall.perform calls coder).bytePosition ∧
          (Observer.after RangeCoderCall.perform calls restored).copyContexts =
            (Observer.after RangeCoderCall.perform calls coder).copyContexts := by
  have hsound : coder.Sound := by
    rw [hcoder]
    exact RangeCoder.sound_after history
  have hcopy : coder.copyContexts = .ok coder.scalarContexts := if_pos (hsound.opened hrange)
  refine ⟨coder.scalarContexts, coder.unscoped, hcopy,
    RangeCoder.resetFromArithmeticState_saved hsound harith hcarry hrange, fun calls hcalls => ?_⟩
  obtain ⟨hresults, hafter⟩ := RangeCoder.results_of_saved hcalls
  exact ⟨hresults.symm, (congrArg RangeCoder.bytePosition hafter).symm,
    (congrArg RangeCoder.copyContexts hafter).symm⟩

/-- A coder that is saved in a scope, when its payload is read up. -/
def scopedHistory : List RangeCoderCall :=
  [.reset (.single [0x20, 0x80, 0xaa] defaultStateTransition), .beginIndependentScalarContexts 2,
    .readSigned 0 1, .readUnsigned 0 0, .readSigned 0 1, .readSigned 0 0]

def scopedCoder : RangeCoder := Observer.after RangeCoderCall.perform scopedHistory {}

theorem arithmetic_state_resumes_scoped : ∃ banks restored,
    scopedCoder.copyContexts = .ok banks ∧
      RangeCoder.resetFromArithmeticState scopedCoder.payload banks.sizes banks
        scopedCoder.stateTransition scopedCoder.arithmeticState {} = .ok () restored ∧
      ∀ calls, RangeCoder.ClosesAbove scopedCoder.scalarContextSnapshots.length calls scopedCoder →
        Observer.results RangeCoderCall.perform calls restored =
            Observer.results RangeCoderCall.perform calls scopedCoder ∧
          (Observer.after RangeCoderCall.perform calls restored).bytePosition =
            (Observer.after RangeCoderCall.perform calls scopedCoder).bytePosition ∧
          (Observer.after RangeCoderCall.perform calls restored).copyContexts =
            (Observer.after RangeCoderCall.perform calls scopedCoder).copyContexts :=
  @arithmetic_state_resumes scopedHistory scopedCoder rfl (by decide +kernel) (by decide +kernel)
    (by decide +kernel)

end Mffv1
