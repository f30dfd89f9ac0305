import Mffv1.ConfigurationRoundTrip
import Mffv1.RangeReads

/-!
# The version probe

The probe reads the version with a single context, the parser with thirty-two of
which it uses the first: both find the same version.
-/
namespace Mffv1

open Mirror

namespace RangeCoder

/-- `coder` with only the first context of every bank. -/
def narrowed (coder : RangeCoder) : RangeCoder :=
  { coder with scalarContexts := coder.scalarContexts.map (List.take 1) }

theorem narrowed_stateAt (banks : ContextStateBanks) (index : Fin 32) :
    ContextStateBanks.stateAt (banks.map (List.take 1)) 0 0 index = banks.stateAt 0 0 index := by
  cases banks with
  | nil => rfl
  | cons contexts banks =>
    cases contexts with
    | nil => rfl
    | cons context contexts => rfl

theorem narrowed_setStateAt (banks : ContextStateBanks) (index : Fin 32) (state : UInt8) :
    ContextStateBanks.setStateAt (banks.map (List.take 1)) 0 0 index state =
      (banks.setStateAt 0 0 index state).map (List.take 1) := by
  cases banks with
  | nil => rfl
  | cons contexts banks =>
    cases contexts with
    | nil => rfl
    | cons context contexts => rfl

theorem refill_narrowed (coder : RangeCoder) : coder.narrowed.refill = coder.refill.narrowed := by
  unfold refill narrowed
  dsimp only
  split_ifs <;> rfl

theorem leavesWindow_narrowed : LeavesWindow narrowed where
  initialized _ := rfl
  low _ := rfl
  range _ := rfl
  rangeoff _ _ := rfl
  stateTransition _ := rfl
  afterZero coder state := refill_narrowed { coder with range := coder.range - coder.rangeoff state }
  afterOne coder state :=
    congrArg (fun refilled : RangeCoder =>
      { refilled with low := refilled.low + coder.onePathCarry state })
      (refill_narrowed { coder with
        low := coder.low - (coder.range - coder.rangeoff state)
        range := coder.rangeoff state })
  carried coder := by
    unfold carried narrowed
    dsimp only
    split_ifs <;> rfl

theorem racAt_narrowed (index : Fin 32) : Projects narrowed (racAt 0 0 index) (racAt 0 0 index) :=
  leavesWindow_narrowed.racAt_projects
    (fun coder => narrowed_stateAt coder.scalarContexts index) fun coder state =>
    congrArg (fun contexts : ContextStateBanks => { coder with scalarContexts := contexts })
      (narrowed_setStateAt coder.scalarContexts index state)

theorem narrowed_bank (coder : RangeCoder) :
    coder.narrowed.scalarContexts.length ≤ 0 ↔ coder.scalarContexts.length ≤ 0 := by
  rw [narrowed, List.length_map]

theorem narrowed_context (coder : RangeCoder) :
    (coder.narrowed.scalarContexts.getD 0 []).length ≤ 0 ↔
      (coder.scalarContexts.getD 0 []).length ≤ 0 := by
  unfold narrowed
  dsimp only
  cases coder.scalarContexts with
  | nil => rfl
  | cons contexts banks => simp

/-- The first context is read without a look at those behind it. -/
theorem readUnsigned_narrowed : Projects narrowed (readUnsigned 0 0) (readUnsigned 0 0) :=
  (readSymbol_projects racAt_narrowed leavesWindow_narrowed narrowed_bank narrowed_context false).bind
    fun _ => Projects.pure _

end RangeCoder

namespace ConfigurationRecordParser

theorem reset_narrowed {payload : Bytes} {probe : RangeCoder}
    (h : RangeCoder.reset payload [1] [] defaultStateTransition {} = .ok () probe) :
    ∃ coder : RangeCoder,
      RangeCoder.reset payload [scalarContextSize] [] defaultStateTransition {} = .ok () coder ∧
        coder.narrowed = probe := by
  unfold RangeCoder.reset RangeCoder.resetImpl at h ⊢
  by_cases hshort : payload.length < 2
  · rw [failIf_of hshort] at h
    cases h
  · rw [failIf_of_not hshort] at h ⊢
    exact ⟨_, rfl, (EStateM.Result.ok.inj h).2⟩

/-- What the parser accepts has a supported version at its probe. -/
theorem parsePayload_version {payload : Bytes} {version : Nat} {stream : StreamParameters}
    (hprobe : (probeVersion payload).valueOn {} = .ok version)
    (hparse : (parsePayload payload).valueOn {} = .ok stream) :
    version = 0 ∨ version = 1 ∨ version = 3 := by
  obtain ⟨probed, hprobe⟩ := valueOn_ok hprobe
  obtain ⟨parsed, hparse⟩ := valueOn_ok hparse
  obtain ⟨_, probe, hreset, hversion⟩ := bind_ok_iff.mp hprobe
  obtain ⟨coder, hcoder, rfl⟩ := reset_narrowed hreset
  obtain ⟨coder', hread, -⟩ := RangeCoder.readUnsigned_narrowed.ok hversion
  unfold parsePayload at hparse
  rw [bind_ok hcoder] at hparse
  obtain ⟨_, _, hparameters, -⟩ := bind_ok_iff.mp hparse
  obtain ⟨_, _, hparsed, -⟩ := bind_ok_iff.mp hparameters
  unfold ConfigurationParser.parseVersion ConfigurationParser.readU at hparsed
  rw [bind_ok hread] at hparsed
  obtain ⟨_, _, hcheck, -⟩ := bind_ok_iff.mp hparsed
  have hsupported := (failIf_call_ok_iff.mp hcheck).1
  omega

end ConfigurationRecordParser

end Mffv1
