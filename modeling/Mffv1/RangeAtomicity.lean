import Mffv1.RangeClosing
import Mffv1.Lib.Refusal

/-!
# Failing writes of the range encoder

A write first checks everything that can fail. Behind the checks the interval has
room for every carry and the output has room for every byte, whatever the transition
table is, so that a failing write leaves the encoder as it was.
-/
namespace Mffv1

open ByteValue (value)
open Refusal (Clean Raises)

namespace RangeEncoder

/-- An encoder whose output fits a vector. -/
structure Roomy (e : RangeEncoder) : Prop where
  bounded : e.Bounded
  room : e.lowBytes.length ≤ maxByteVectorSize

theorem Roomy.withContexts (e : RangeEncoder) (contexts : ContextStateBanks)
    (snapshots : List ContextStateBanks) (h : e.Roomy) :
    Roomy { e with scalarContexts := contexts, scalarContextSnapshots := snapshots } :=
  ⟨h.bounded.withContexts e contexts snapshots, h.room⟩

section Decision

variable {e : RangeEncoder} {state : UInt8} {bit : Bool}

/-- The bytes that a decision appends. -/
def appended (range : UInt32) (state : UInt8) (bit : Bool) : Nat :=
  if nextRange range state bit < 256 then 1 else 0

theorem stepped_length (e : RangeEncoder) (state : UInt8) (bit : Bool) :
    (stepped e state bit).lowBytes.length = e.lowBytes.length + appended e.range state bit := by
  unfold stepped renormalize appended
  split <;> simp

/-- A decision has two reasons to fail. -/
theorem writeRac_of_roomy (h : e.Roomy) (hne : nextRange e.range state bit ≠ 0)
    (hspace : e.lowBytes.length + appended e.range state bit ≤ maxByteVectorSize) :
    writeRac state bit e = .ok (nextState e.stateTransition state bit) (stepped e state bit) := by
  have hcut := cut_add_nextRange state bit h.bounded.ready.range_le
  have hroom := headroom_lt h.bounded.ready h.bounded.headroom
  refine writeRac_of hne ?_ (by omega)
  rintro ⟨hlt, hfull⟩
  rw [appended, if_pos hlt] at hspace
  omega

theorem writeRac_roomy (state : UInt8) (bit : Bool) : Mirror.Keeps Roomy (writeRac state bit) := by
  intro e s e' he hw
  refine ⟨writeRac_bounded state bit e s e' he.bounded hw, ?_⟩
  obtain ⟨-, -, rfl, -⟩ := writeRac_ok hw
  simp only [writeRac, Mirror.get_bind, Mirror.bind_ok_iff, failIf_call_ok_iff, exists_unit,
    and_assoc, exists_and_left, exists_eq_left] at hw
  obtain ⟨-, hspace, -⟩ := hw
  have hroom := he.room
  rw [stepped_length]
  unfold appended
  split
  · have hne : e.lowBytes.length ≠ maxByteVectorSize := fun hfull => hspace ⟨‹_›, hfull⟩
    omega
  · omega

/-- The errors of the encoder; the internal ones are not among them. -/
def Expected (status : Error) : Prop := status.code ≠ .internalError

theorem expected_of {code : ErrorCode} {message : String} (h : code ≠ .internalError) :
    Expected (makeError code message) := h

theorem failIf_clean {condition : Prop} [Decidable condition] {error : Error} {α : Type}
    {f : PUnit → Call RangeEncoder α} (herror : Expected error)
    (h : ¬condition → Clean Expected (f ⟨⟩) e) : Clean Expected (failIf condition error >>= f) e := by
  by_cases hc : condition
  · rw [failIf_of hc]
    refine Clean.bind_look (Clean.throw herror) fun a e' hok => ?_
    cases hok
  · rw [failIf_of_not hc]
    exact h hc

theorem writeRac_clean (h : e.Roomy) (state : UInt8) (bit : Bool) :
    Clean Expected (writeRac state bit) e := by
  by_cases hne : nextRange e.range state bit = 0
  · unfold writeRac
    intro s e' herror
    rw [Mirror.get_bind, failIf_of hne] at herror
    obtain ⟨rfl, rfl⟩ := EStateM.Result.error.inj herror
    exact ⟨rfl, expected_of (by decide)⟩
  · by_cases hspace : e.lowBytes.length + appended e.range state bit ≤ maxByteVectorSize
    · exact Clean.of_ok (writeRac_of_roomy h hne hspace)
    · have hroom := h.room
      have hfull : nextRange e.range state bit < 256 ∧ e.lowBytes.length = maxByteVectorSize := by
        unfold appended at hspace
        split at hspace
        · exact ⟨‹_›, by omega⟩
        · omega
      unfold writeRac
      intro s e' herror
      rw [Mirror.get_bind, failIf_of_not hne, failIf_of hfull] at herror
      obtain ⟨rfl, rfl⟩ := EStateM.Result.error.inj herror
      exact ⟨rfl, expected_of (by decide)⟩

theorem racAt_clean (h : e.Roomy) (bank context : Nat) (index : Fin 32) (bit : Bool) :
    Clean Expected (racAt bank context index bit) e := by
  have hchange := (writeRac_clean h (e.scalarContexts.stateAt bank context index) bit).bind_change
    (f := fun state => modify fun encoder : RangeEncoder =>
      { encoder with scalarContexts := encoder.scalarContexts.setStateAt bank context index state })
    fun _ _ _ => ⟨⟨⟩, _, rfl⟩
  exact hchange

end Decision

section Symbols

variable {bank context : Nat}

theorem bank_setStateAt {banks : ContextStateBanks} (hbank : bank < banks.length) (context : Nat)
    (index : Fin 32) (state : UInt8) :
    (banks.setStateAt bank context index state).getD bank [] =
      (banks.getD bank []).modify context (·.setState index state) := by
  simp only [ContextStateBanks.setStateAt, List.getD_eq_getElem?_getD, List.getElem?_modify_eq,
    List.getElem?_eq_getElem hbank, Option.map_eq_map, Option.map_some, Option.getD_some]

theorem context_setStateAt {banks : ContextStateBanks} (hbank : bank < banks.length)
    (hcontext : context < (banks.getD bank []).length) (index : Fin 32) (state : UInt8) :
    ((banks.setStateAt bank context index state).getD bank []).getD context (filledContext 0) =
      ((banks.getD bank []).getD context (filledContext 0)).setState index state := by
  rw [bank_setStateAt hbank, List.getD_eq_getElem?_getD (l := (banks.getD bank []).modify _ _),
    List.getElem?_modify_eq, List.getElem?_eq_getElem hcontext, List.getD_eq_getElem _ _ hcontext]
  rfl

theorem trialDecisions_ge {table : StateTransitionTable} {decisions : List Decision}
    {states : ScalarContextStates} {range : UInt32} {start total : Nat}
    (h : trialDecisions table decisions states range start = .ok total) : start ≤ total := by
  induction decisions generalizing states range start with
  | nil => exact (Except.ok.inj h).le
  | cons decision decisions ih =>
    unfold trialDecisions at h
    dsimp only at h
    split at h
    · cases h
    · split at h
      · exact (Nat.le_succ start).trans (ih h)
      · exact ih h

/-- The trial pass takes one decision as the commit pass does. -/
theorem trialDecisions_cons {table : StateTransitionTable} {index : Fin 32} {bit : Bool}
    {decisions : List Decision} {states : ScalarContextStates} {e : RangeEncoder}
    {start total : Nat}
    (h : trialDecisions table ((index, bit) :: decisions) states e.range start = .ok total) :
    nextRange e.range (states.get index) bit ≠ 0 ∧
      trialDecisions table decisions
        (states.setState index (nextState table (states.get index) bit))
        (stepped e (states.get index) bit).range
        (start + appended e.range (states.get index) bit) = .ok total := by
  unfold trialDecisions at h
  dsimp only at h
  unfold stepped renormalize appended
  by_cases hne : nextRange e.range (states.get index) bit = 0
  · rw [if_pos hne] at h
    cases h
  · rw [if_neg hne] at h
    refine ⟨hne, ?_⟩
    split at h
    · rw [if_pos ‹_›, if_pos ‹_›]
      exact h
    · rw [if_neg ‹_›, if_neg ‹_›]
      exact h

/-- What the trial pass accepts, the commit pass writes. -/
theorem writeDecisions_of_trial {decisions : List Decision} {e : RangeEncoder} {start total : Nat}
    (h : e.Roomy) (hbank : bank < e.scalarContexts.length)
    (hcontext : context < (e.scalarContexts.getD bank []).length)
    (htrial : trialDecisions e.stateTransition decisions
      ((e.scalarContexts.getD bank []).getD context (filledContext 0)) e.range start = .ok total)
    (hspace : e.lowBytes.length + total ≤ maxByteVectorSize + start) :
    ∃ e', writeDecisions bank context decisions e = .ok () e' := by
  induction decisions generalizing e start with
  | nil => exact ⟨e, rfl⟩
  | cons decision decisions ih =>
    obtain ⟨index, bit⟩ := decision
    obtain ⟨hne, hrest⟩ := trialDecisions_cons htrial
    have hge := trialDecisions_ge hrest
    set state := ((e.scalarContexts.getD bank []).getD context (filledContext 0)).get index
    have hrac := writeRac_of_roomy h hne (by omega)
    have hstep : racAt bank context index bit e = .ok () { stepped e state bit with
        scalarContexts := (stepped e state bit).scalarContexts.setStateAt bank context index
          (nextState e.stateTransition state bit) } := by
      unfold racAt
      rw [Mirror.get_bind]
      exact Mirror.bind_ok hrac
    have hlen := stepped_length e state bit
    have hframe := stepped_frame e state bit
    have hcontexts : (stepped e state bit).scalarContexts = e.scalarContexts := by rw [hframe]
    have htable : (stepped e state bit).stateTransition = e.stateTransition := by rw [hframe]
    rw [hcontexts] at hstep
    have hnext := racAt_keeps Roomy.withContexts writeRac_roomy bank context index bit e () _ h hstep
    obtain ⟨e', he'⟩ := @ih _ (start + appended e.range state bit) hnext
      (by
        dsimp only
        rwa [ContextStateBanks.setStateAt, List.length_modify])
      (by
        dsimp only
        rwa [bank_setStateAt hbank, List.length_modify])
      (by
        dsimp only
        rw [context_setStateAt hbank hcontext, htable]
        exact hrest)
      (by
        dsimp only
        omega)
    refine ⟨e', ?_⟩
    unfold writeDecisions
    rw [Mirror.bind_ok hstep]
    exact he'

theorem trialDecisions_raises {table : StateTransitionTable} (decisions : List Decision)
    (states : ScalarContextStates) (range : UInt32) (start : Nat) :
    Raises Expected (trialDecisions table decisions states range start) := by
  induction decisions generalizing states range start with
  | nil => exact Raises.ok start
  | cons decision decisions ih =>
    unfold trialDecisions
    dsimp only
    split
    · exact Raises.error (expected_of (by decide))
    · split
      · exact ih _ _ _
      · exact ih _ _ _

/-- A symbol fails before its first decision or not at all. -/
theorem writeSymbol_clean {e : RangeEncoder} (h : e.Roomy) (bank context : Nat) (isSigned : Bool)
    (magnitude : Nat) (negative : Bool) :
    Clean Expected (writeSymbol bank context isSigned magnitude negative) e := by
  unfold writeSymbol
  change Clean Expected (failIf _ _ >>= _) e
  refine failIf_clean (expected_of (by decide)) fun hbank => ?_
  refine failIf_clean (expected_of (by decide)) fun hcontext => ?_
  dsimp only
  cases htrial : trialDecisions e.stateTransition (symbolDecisions isSigned magnitude negative)
      ((e.scalarContexts.getD bank []).getD context (filledContext 0)) e.range 0 with
  | error status => exact Clean.throw (trialDecisions_raises _ _ _ _ status htrial)
  | ok total =>
    refine failIf_clean (expected_of (by decide)) fun hspace => ?_
    have hroom := h.room
    obtain ⟨e', hwrite⟩ := writeDecisions_of_trial h (by omega) (by omega) htrial (by omega)
    exact Clean.of_ok (Mirror.adaptExcept_ok_iff.mpr hwrite)

end Symbols

section Contexts

theorem failIf_raises {condition : Prop} [Decidable condition] {error : Error}
    (h : Expected error) : Raises Expected (failIf condition error : Except Error PUnit) := by
  unfold failIf
  split
  · exact Raises.error h
  · exact Raises.ok PUnit.unit

theorem checkContextCounts_raises (counts : List Nat) (initial : List ContextStateBank)
    (total : Nat) :
    Raises Expected (checkContextCounts "range encoder" checkTotal counts initial total) := by
  induction counts generalizing initial total with
  | nil => exact Raises.ok ()
  | cons count counts ih =>
    unfold checkContextCounts
    refine (failIf_raises (expected_of (by decide))).bind fun _ => ?_
    refine (failIf_raises (expected_of (by decide))).bind fun _ => ?_
    refine Raises.bind (failIf_raises (expected_of (by decide))) fun _ => ?_
    exact (failIf_raises (expected_of (by decide))).bind fun _ => ih _ _

theorem initializeContexts_raises (counts : List Nat) (initial : List ContextStateBank)
    (state : UInt8) : Raises Expected (initializeContexts counts initial state) := by
  unfold initializeContexts Mffv1.initializeContexts
  refine (failIf_raises (expected_of (by decide))).bind fun _ => ?_
  refine (failIf_raises (expected_of (by decide))).bind fun _ => ?_
  refine (failIf_raises (expected_of (by decide))).bind fun _ => ?_
  exact (checkContextCounts_raises counts initial 0).bind fun _ => Raises.ok _

end Contexts

/-- The calls that change an encoder. -/
inductive EncoderCall where
  | write (operation : RangeOperation)
  | finalize (closeInterval : Bool)
  | reset (counts : List Nat) (initial : List ContextStateBank) (initialState : UInt8)
      (table : StateTransitionTable)

def EncoderCall.perform : EncoderCall → Call RangeEncoder Unit
  | write operation => RangeEncoder.perform operation
  | finalize closeInterval => do
    let _ ← finalizeImpl closeInterval
  | reset counts initial initialState table => resetImpl counts initial initialState table

/-- The encoder behind calls that may fail. -/
def afterCalls (calls : List EncoderCall) (e : RangeEncoder) : RangeEncoder :=
  calls.foldl (fun e call => Mirror.finalState (call.perform e)) e

/-- A roomy encoder that may be finalized. -/
def Sound (e : RangeEncoder) : Prop := e.initialized = true ∧ Roomy { e with finalized := false }

section Calls

variable {e : RangeEncoder}

theorem Sound.roomy (h : e.Sound) (hopen : e.finalized = false) : e.Roomy := by
  have heq : { e with finalized := false } = e := by rw [← hopen]
  exact heq ▸ h.2

theorem Roomy.sound (h : e.Roomy) : e.Sound := by
  have heq : { e with finalized := false } = e := by rw [← h.bounded.ready.unfinalized]
  exact ⟨h.bounded.ready.initialized, heq ▸ h⟩

/-- A write on an encoder that is finalized is refused. -/
theorem checkOpen_clean {α : Type} {f : Unit → Call RangeEncoder α}
    (h : e.finalized = false → Clean Expected (f ()) e) : Clean Expected (checkOpen >>= f) e := by
  refine Clean.bind_look ?_ fun a e' hok => ?_
  · unfold checkOpen
    change Clean Expected (failIf _ _ >>= _) e
    refine failIf_clean (expected_of (by decide)) fun _ => ?_
    by_cases hfinal : e.finalized = true
    · rw [failIf_of hfinal]
      exact Clean.throw (expected_of (by decide))
    · rw [failIf_of_not hfinal]
      exact Clean.of_ok rfl
  · obtain ⟨rfl, -, hopen⟩ := checkOpen_ok hok
    exact ⟨rfl, h hopen⟩

theorem perform_clean (h : e.Sound) (operation : RangeOperation) :
    Clean Expected (RangeEncoder.perform operation) e := by
  cases operation with
  | bool bit =>
    refine checkOpen_clean fun hopen => ?_
    change Clean Expected (failIf _ _ >>= _) e
    exact failIf_clean (expected_of (by decide)) fun _ => racAt_clean (h.roomy hopen) 0 0 0 bit
  | unsigned bank context number =>
    refine checkOpen_clean fun hopen => ?_
    exact failIf_clean (expected_of (by decide)) fun _ =>
      writeSymbol_clean (h.roomy hopen) bank context false number.toNat false
  | signed bank context number =>
    refine checkOpen_clean fun hopen => ?_
    exact failIf_clean (expected_of (by decide)) fun _ =>
      writeSymbol_clean (h.roomy hopen) bank context true number.toInt.natAbs _
  | terminationSentinel =>
    refine checkOpen_clean fun hopen => ?_
    exact (writeRac_clean (h.roomy hopen) 129 false).bind_change fun _ e' _ => ⟨_, e', rfl⟩
  | reconfigureContexts counts initial =>
    refine checkOpen_clean fun _ => ?_
    unfold assignContexts
    cases hinit : initializeContexts counts initial defaultInitialState with
    | error status => exact Clean.throw (initializeContexts_raises _ _ _ status hinit)
    | ok contexts => exact Clean.of_ok rfl
  | beginIndependent count =>
    refine checkOpen_clean fun _ => ?_
    intro s e' herror
    rw [Mirror.get_bind] at herror
    cases hinit : initializeContexts [count] [] defaultInitialState with
    | error status =>
      rw [hinit] at herror
      obtain ⟨rfl, rfl⟩ := EStateM.Result.error.inj herror
      exact ⟨rfl, initializeContexts_raises _ _ _ _ hinit⟩
    | ok contexts =>
      rw [hinit] at herror
      cases herror
  | endIndependent =>
    refine checkOpen_clean fun _ => ?_
    intro s e' herror
    rw [Mirror.get_bind] at herror
    cases hsnapshots : e.scalarContextSnapshots with
    | nil =>
      rw [hsnapshots] at herror
      obtain ⟨rfl, rfl⟩ := EStateM.Result.error.inj herror
      exact ⟨rfl, expected_of (by decide)⟩
    | cons snapshot snapshots =>
      rw [hsnapshots] at herror
      cases herror

theorem open_of_ok {α : Type} {f : Unit → Call RangeEncoder α} {a : α} {e' : RangeEncoder}
    (h : (checkOpen >>= f) e = .ok a e') : e.finalized = false := by
  obtain ⟨_, _, hopen, -⟩ := Mirror.bind_ok_iff.mp h
  exact (checkOpen_ok hopen).2.2

theorem perform_open {operation : RangeOperation} {u : Unit} {e' : RangeEncoder}
    (h : RangeEncoder.perform operation e = .ok u e') : e.finalized = false := by
  cases operation with
  | bool bit => exact open_of_ok h
  | unsigned bank context number => exact open_of_ok h
  | signed bank context number => exact open_of_ok h
  | terminationSentinel => exact open_of_ok h
  | reconfigureContexts counts initial => exact open_of_ok h
  | beginIndependent count => exact open_of_ok h
  | endIndependent => exact open_of_ok h

/-- Finalizing fails on an encoder that is finalized, and nowhere else. -/
theorem finalizeImpl_outcome (h : e.Sound) (closeInterval : Bool) :
    Clean Expected (finalizeImpl closeInterval) e ∧
      ∀ bytes e', finalizeImpl closeInterval e = .ok bytes e' → e' = { e with finalized := true } := by
  by_cases hfinal : e.finalized = true
  · have herror : finalizeImpl closeInterval e =
        .error (makeError .invalidState "range encoder is already finalized") e := by
      unfold finalizeImpl
      rw [Mirror.get_bind, failIf_of_not (by rw [h.1]; decide), failIf_of hfinal]
      rfl
    refine ⟨fun s e' hs => ?_, fun bytes e' hok => ?_⟩
    · obtain ⟨rfl, rfl⟩ := EStateM.Result.error.inj (herror.symm.trans hs)
      exact ⟨rfl, expected_of (by decide)⟩
    · rw [herror] at hok
      cases hok
  · have hopen : e.finalized = false := Bool.eq_false_iff.mpr hfinal
    have hbounded := (h.roomy hopen).bounded
    have hok : ∃ bytes, finalizeImpl closeInterval e = .ok bytes { e with finalized := true } := by
      cases closeInterval with
      | true => exact ⟨_, finalizeClosed_of_bounded hbounded⟩
      | false => exact ⟨_, finalize_of_ready hbounded.ready⟩
    obtain ⟨bytes, hok⟩ := hok
    refine ⟨Clean.of_ok hok, fun bytes' e' hok' => ?_⟩
    exact (EStateM.Result.ok.inj (hok.symm.trans hok')).2.symm

theorem call_clean (h : e.Sound) (call : EncoderCall) : Clean Expected call.perform e := by
  cases call with
  | write operation => exact perform_clean h operation
  | finalize closeInterval =>
    exact (finalizeImpl_outcome h closeInterval).1.bind_change fun _ e' _ => ⟨(), e', rfl⟩
  | reset counts initial initialState table =>
    unfold EncoderCall.perform resetImpl
    dsimp only
    cases hinit : initializeContexts counts initial initialState with
    | error status => exact Clean.throw (initializeContexts_raises _ _ _ status hinit)
    | ok contexts => exact Clean.of_ok rfl

theorem resetImpl_roomy {counts : List Nat} {initial : List ContextStateBank}
    {initialState : UInt8} {table : StateTransitionTable} {u : Unit} {e' : RangeEncoder}
    (h : resetImpl counts initial initialState table e = .ok u e') : e'.Roomy := by
  refine ⟨resetImpl_bounded h, ?_⟩
  obtain ⟨contexts, -, rfl⟩ := resetImpl_ok h
  change 2 ≤ 2 ^ 63 - 1
  omega

/-- One call, whether it succeeds or fails. -/
theorem call_sound (h : e.Sound) (call : EncoderCall) :
    (Mirror.finalState (call.perform e)).Sound := by
  cases hcall : call.perform e with
  | error status e' =>
    obtain ⟨rfl, -⟩ := call_clean h call status e' hcall
    exact h
  | ok u e' =>
    cases call with
    | write operation =>
      have hroomy := h.roomy (perform_open hcall)
      exact (perform_keeps Roomy.withContexts writeRac_roomy operation e u e' hroomy hcall).sound
    | finalize closeInterval =>
      obtain ⟨_, e₁, hfinal, hrest⟩ := Mirror.bind_ok_iff.mp hcall
      obtain ⟨-, rfl⟩ := EStateM.Result.ok.inj hrest
      obtain rfl := (finalizeImpl_outcome h closeInterval).2 _ _ hfinal
      exact h
    | reset counts initial initialState table => exact (resetImpl_roomy hcall).sound

theorem afterCalls_sound (h : e.Sound) (calls : List EncoderCall) : (afterCalls calls e).Sound := by
  induction calls generalizing e with
  | nil => exact h
  | cons call calls ih => exact ih (call_sound h call)

end Calls

/-- The interval has room for every carry. -/
def Precise (e : RangeEncoder) : Prop :=
  256 ≤ e.range.toNat ∧ 2 ≤ e.lowBytes.length ∧
    value e.lowBytes + e.range.toNat ≤ 0xff00 * 256 ^ (e.lowBytes.length - 2)

theorem Bounded.precise {e : RangeEncoder} (h : e.Bounded) : e.Precise :=
  ⟨h.ready.range_ge, h.ready.length_ge, h.headroom⟩

theorem Sound.precise {e : RangeEncoder} (h : e.Sound) : e.Precise := h.2.bounded.precise

end RangeEncoder

open RangeEncoder (EncoderCall afterCalls trialDecisions writeDecisions addToLow)

/-- Behind any calls from a successful reset on, failing ones among them: the interval has
room for every carry, a failing call leaves the encoder as it was and is none of the internal
errors, what the trial pass accepts is written, and no part of the range overflows the
lower end. -/
theorem encoder_calls_atomic (table : StateTransitionTable) (counts : List Nat)
    (initial : List ContextStateBank) (initialState : UInt8) (calls : List EncoderCall)
    (unused started : RangeEncoder)
    (hreset : RangeEncoder.resetImpl counts initial initialState table unused = .ok () started) :
    let e := afterCalls calls started
    e.Precise ∧
      (∀ (call : EncoderCall) (status : Error) (e' : RangeEncoder),
        call.perform e = .error status e' → e' = e ∧ status.code ≠ .internalError) ∧
      (∀ (bank context total : Nat) (decisions : List RangeEncoder.Decision),
        e.finalized = false → bank < e.scalarContexts.length →
        context < (e.scalarContexts.getD bank []).length →
        trialDecisions e.stateTransition decisions
          ((e.scalarContexts.getD bank []).getD context (filledContext 0)) e.range 0 = .ok total →
        total ≤ maxByteVectorSize - e.lowBytes.length →
        ∃ e', writeDecisions bank context decisions e = .ok () e' ∧ e'.Precise) ∧
      ∀ increment : UInt32, increment.toNat ≤ e.range.toNat →
        ∃ e', addToLow increment e = .ok () e' := by
  have hsound := RangeEncoder.afterCalls_sound (RangeEncoder.resetImpl_roomy hreset).sound calls
  refine ⟨hsound.precise, fun call => RangeEncoder.call_clean hsound call, ?_, ?_⟩
  · intro bank context total decisions hopen hbank hcontext htrial hspace
    have hroomy := hsound.roomy hopen
    have hroom := hroomy.room
    obtain ⟨e', hwrite⟩ :=
      RangeEncoder.writeDecisions_of_trial hroomy hbank hcontext htrial (by omega)
    have hbounded := RangeEncoder.writeDecisions_keeps RangeEncoder.Bounded.withContexts
      RangeEncoder.writeRac_bounded bank context decisions _ () e' hroomy.bounded hwrite
    exact ⟨e', hwrite, hbounded.precise⟩
  · intro increment hle
    have hlt := RangeEncoder.headroom_lt hsound.2.bounded.ready hsound.2.bounded.headroom
    dsimp only at hlt
    unfold addToLow
    rw [Mirror.get_bind, Mirror.set_bind, failIf_of_not]
    · exact ⟨_, rfl⟩
    · rw [not_not]
      exact ByteValue.addCarry_fits (by omega)

/-- A transition table that leads every state to zero. -/
def degenerateTable : StateTransitionTable := Vector.replicate 256 0

def degenerateStart : RangeEncoder :=
  Mirror.finalState (RangeEncoder.resetImpl [1] [] 255 degenerateTable {})

theorem degenerateStart_eq :
    RangeEncoder.resetImpl [1] [] 255 degenerateTable {} = .ok () degenerateStart :=
  Mirror.eq_ok_of_succeeded (by decide +kernel)

/-- A one in state 0 is refused, and the encoder is not touched. -/
theorem encoder_calls_atomic_degenerate :
    let e := afterCalls [.write (.bool true), .write (.beginIndependent 0)] degenerateStart
    e.Precise ∧ ∃ status, RangeEncoder.perform (.bool true) e = .error status e := by
  have hatomic := encoder_calls_atomic degenerateTable [1] [] 255
    [.write (.bool true), .write (.beginIndependent 0)] {} degenerateStart degenerateStart_eq
  have hfails : Mirror.succeeded (RangeEncoder.perform (.bool true)
      (afterCalls [.write (.bool true), .write (.beginIndependent 0)] degenerateStart)) = false := by
    decide +kernel
  refine ⟨hatomic.1, ?_⟩
  cases hcall : RangeEncoder.perform (.bool true)
      (afterCalls [.write (.bool true), .write (.beginIndependent 0)] degenerateStart) with
  | ok u e' =>
    rw [hcall] at hfails
    cases hfails
  | error status e' =>
    obtain ⟨rfl, -⟩ := hatomic.2.1 (.write (.bool true)) status e' hcall
    exact ⟨status, rfl⟩

end Mffv1
