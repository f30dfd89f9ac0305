import Mffv1.LegacyKeyframe
import Mffv1.RangeSlices

/-!
# The header of a legacy keyframe is read

The flag and the parameters of a keyframe are read three times: to configure a decoder, to
find the content of the slice, and to start its coder. The coder goes on behind them with the
contexts of the stream and carries from there on.
-/
namespace Mffv1

section Keeping

open Mirror (Keeps)
open ConfigurationRecordWriter (writeU writeB writeStateTransitions writeQuantTableRuns
  writeQuantTables writeQuantTableSets withIndependentContexts)

variable {I : RangeEncoder → Prop}
  (hcontexts : ∀ (e : RangeEncoder) (contexts : ContextStateBanks)
    (snapshots : List ContextStateBanks), I e →
    I { e with scalarContexts := contexts, scalarContextSnapshots := snapshots })
  (hrac : ∀ (state : UInt8) (bit : Bool), Keeps I (RangeEncoder.writeRac state bit))
include hcontexts hrac

theorem writeU_keeps (value : Nat) : Keeps I (writeU value) :=
  RangeEncoder.writeUnsigned_keeps hcontexts hrac 0 0 value

theorem writeB_keeps (value : Bool) : Keeps I (writeB value) :=
  RangeEncoder.perform_keeps hcontexts hrac (.bool value)

theorem writeStateTransitions_keeps (table : StateTransitionTable) (count state : Nat) :
    Keeps I (writeStateTransitions table count state) := by
  induction count generalizing state with
  | zero => exact Keeps.pure
  | succ count ih =>
    exact Keeps.bind (RangeEncoder.writeSigned_keeps hcontexts hrac 0 0 _) fun _ => ih _

theorem writeQuantTableRuns_keeps (table : QuantTable) (tableIndex scale fuel k value : Nat) :
    Keeps I (writeQuantTableRuns table tableIndex scale fuel k value) := by
  induction fuel generalizing k value with
  | zero => exact Keeps.pure
  | succ fuel ih =>
    unfold writeQuantTableRuns
    split
    · exact Keeps.pure
    · exact Keeps.bind RangeEncoder.failIf_keeps fun _ => Keeps.bind RangeEncoder.failIf_keeps fun _ =>
        Keeps.bind RangeEncoder.failIf_keeps fun _ =>
          Keeps.bind (writeU_keeps hcontexts hrac _) fun _ => ih _ _

theorem withIndependentContexts_keeps {α : Type} {body : Call RangeEncoder α}
    (hbody : Keeps I body) : Keeps I (withIndependentContexts body) := by
  intro e a e' he hw
  have hkeeps := Keeps.bind (RangeEncoder.perform_keeps hcontexts hrac (.beginIndependent 1))
    fun _ => Keeps.bind hbody fun a : α =>
      Keeps.bind (RangeEncoder.perform_keeps hcontexts hrac .endIndependent) fun _ =>
        (Keeps.pure : Keeps I (pure a))
  exact hkeeps e a e' he (writeIndependent_ok hw)

theorem writeQuantTables_keeps (tables : Vector QuantTable 5) (count tableIndex scale : Nat) :
    Keeps I (writeQuantTables tables count tableIndex scale) := by
  induction count generalizing tableIndex scale with
  | zero => exact Keeps.pure
  | succ count ih =>
    refine Keeps.bind (withIndependentContexts_keeps hcontexts hrac ?_) fun _ =>
      Keeps.bind RangeEncoder.failIf_keeps fun _ => ih _ _
    unfold ConfigurationRecordWriter.writeQuantTable
    split
    · exact Keeps.throws _
    · exact writeQuantTableRuns_keeps hcontexts hrac _ _ _ _ _ _

theorem writeQuantTableSets_keeps (sets : List QuantTableSet) :
    Keeps I (writeQuantTableSets sets) := by
  induction sets with
  | nil => exact Keeps.pure
  | cons tableSet sets ih =>
    exact Keeps.bind (Keeps.bind (writeQuantTables_keeps hcontexts hrac _ _ _ _) fun _ =>
      RangeEncoder.failIf_keeps) fun _ => ih

/-- What the decisions keep, the parameters keep. -/
theorem LegacyKeyframe.writeParameters_keeps (stream : StreamParameters) :
    Keeps I (LegacyKeyframe.writeParameters stream) := by
  have hU := writeU_keeps hcontexts hrac
  have hB := writeB_keeps hcontexts hrac
  have hplanes : Keeps I (LegacyKeyframe.writePlanes stream) :=
    Keeps.bind (hB _) fun _ => Keeps.bind (hU _) fun _ => Keeps.bind (hU _) fun _ => hB _
  refine Keeps.bind (hU _) fun _ => Keeps.bind (hU _) fun _ => Keeps.bind ?_ fun _ =>
    Keeps.bind (hU _) fun _ => Keeps.bind ?_ fun _ => Keeps.bind hplanes fun _ =>
      writeQuantTableSets_keeps hcontexts hrac stream.quantTableSets
  · split
    · exact writeStateTransitions_keeps hcontexts hrac _ _ _
    · exact Keeps.pure
  · split
    · exact Keeps.pure
    · exact hU _

end Keeping

section Header

variable {payload : Bytes} {stream : StreamParameters} {written configured : RangeEncoder}
  {coded reader : RangeCoder}

/-- What a coder goes through from the bytes of a keyframe to the end of its parameters. -/
structure HeaderRead (payload : Bytes) (stream : StreamParameters) (written : RangeEncoder)
    (coded reader : RangeCoder) : Prop where
  flag : (do
    RangeCoder.resetSingle payload defaultStateTransition
    RangeCoder.readBool : Call RangeCoder Bool) {} = .ok true coded
  arithmetic : coded.legacyV0Arithmetic = false
  parameters : (do
    RangeCoder.reconfigureContexts [1] []
    ConfigurationParser.parse : Call RangeCoder StreamParameters) coded =
      .ok { stream with width := 0, height := 0 } reader
  tracks : Tracks payload [] written reader
  ready : written.Ready
  table : written.stateTransition = defaultStateTransition

/-- What is kept of the keyframe. -/
def keyframeBootstrap (stream : StreamParameters) (width height : UInt32)
    (coded reader : RangeCoder) : LegacyFrameBootstrap where
  keyframe := true
  hasEmbeddedParameters := true
  contentByteOffset := reader.bytePosition
  stream := { stream with width, height }
  rangeStateAfterKeyframe := coded.arithmeticState
  rangeStateAfterParameters := reader.arithmeticState

theorem writeHeader_table (hwrite : LegacyKeyframe.writeHeader stream {} = .ok () written) :
    written.stateTransition = defaultStateTransition := by
  obtain ⟨_, first, hreset, hrest⟩ := Mirror.bind_ok_iff.mp hwrite
  have hcontexts (e : RangeEncoder) (contexts : ContextStateBanks)
      (snapshots : List ContextStateBanks)
      (h : e.stateTransition = defaultStateTransition) :
      ({ e with scalarContexts := contexts, scalarContextSnapshots := snapshots } :
        RangeEncoder).stateTransition = defaultStateTransition := h
  have hrac (state : UInt8) (bit : Bool) : Mirror.Keeps
      (fun e : RangeEncoder => e.stateTransition = defaultStateTransition)
      (RangeEncoder.writeRac state bit) := by
    intro e next e' he hw
    obtain ⟨-, -, rfl, -⟩ := RangeEncoder.writeRac_ok hw
    rw [RangeEncoder.stepped_frame]
    exact he
  have hkeeps := Mirror.Keeps.bind (writeB_keeps hcontexts hrac true) fun _ =>
    Mirror.Keeps.bind (RangeEncoder.perform_keeps hcontexts hrac (.reconfigureContexts [1] []))
      fun _ => LegacyKeyframe.writeParameters_keeps hcontexts hrac stream
  refine hkeeps first () written ?_ hrest
  obtain ⟨contexts, -, rfl⟩ := RangeEncoder.resetImpl_ok hreset
  rfl

/-- The header is read from any bytes that its writer fits. -/
theorem header_read (h : LegacyStream stream)
    (hwrite : LegacyKeyframe.writeHeader stream {} = .ok () written) :
    written.Ready ∧ (written.Fits payload → 2 ≤ payload.length →
      ∃ coded reader, HeaderRead payload stream written coded reader) := by
  obtain ⟨_, first, hreset, hrest⟩ := Mirror.bind_ok_iff.mp hwrite
  obtain ⟨_, flagged, hflag, hrest⟩ := Mirror.bind_ok_iff.mp hrest
  have hbool : Reads payload [] False (RangeEncoder.writeBool true) RangeCoder.readBool _ :=
    bool_reads true
  have hparse : Reads payload [] False
      (do
        RangeEncoder.reconfigureContexts [1] []
        LegacyKeyframe.writeParameters stream)
      (do
        RangeCoder.reconfigureContexts [1] []
        ConfigurationParser.parse) (fun _ => { stream with width := 0, height := 0 }) :=
    (reconfigureContexts_reads [1] []).bind fun _ => legacyParameters_reads h
  obtain ⟨hready, hflagged⟩ := hbool first () flagged (RangeEncoder.resetImpl_ready hreset) hflag
  obtain ⟨hwritten, hback⟩ := hparse flagged () written hready hrest
  refine ⟨hwritten, fun hfits hlength => ?_⟩
  obtain ⟨hflaggedFits, hparameters⟩ := hback hfits
  obtain ⟨hfirstFits, hreadFlag⟩ := hflagged hflaggedFits
  obtain ⟨start, hstart, hfirst⟩ : ∃ start,
      RangeCoder.resetSingle payload defaultStateTransition {} = .ok () start ∧
        Tracks payload [] first start := resetImpl_tracks hreset hfirstFits hlength rfl rfl
  obtain ⟨_, coded, hcoded, rfl, htracks⟩ := (hreadFlag start hfirst).result
  obtain ⟨_, reader, hreader, rfl, hend⟩ := (hparameters coded htracks).result
  exact ⟨coded, reader, Mirror.bind_ok_iff.mpr ⟨(), start, hstart, hcoded⟩, htracks.arithmetic,
    hreader, hend, hwritten, writeHeader_table hwrite⟩

namespace HeaderRead

variable (hread : HeaderRead payload stream written coded reader)
include hread

theorem payload_ne : payload ≠ [] := by
  rintro rfl
  obtain ⟨_, start, hstart, -⟩ := Mirror.bind_ok_iff.mp hread.flag
  cases hstart

/-- What `bootstrap_legacy_frame` finds in the keyframe. -/
theorem bootstrap (width height : UInt32) :
    LegacyFrameBootstrapParser.parse payload width height =
      .ok (keyframeBootstrap stream width height coded reader) := by
  obtain ⟨_, start, hstart, hflag⟩ := Mirror.bind_ok_iff.mp hread.flag
  obtain ⟨_, middle, hcontexts, hparse⟩ := Mirror.bind_ok_iff.mp hread.parameters
  have hfrom : LegacyFrameBootstrapParser.parseFrom payload width height {} =
      .ok (keyframeBootstrap stream width height coded reader) reader := by
    unfold LegacyFrameBootstrapParser.parseFrom
    rw [Mirror.bind_ok hstart, Mirror.bind_ok hflag, Mirror.get_bind]
    dsimp only
    rw [if_neg (by decide), Mirror.bind_ok hcontexts, Mirror.bind_ok hparse, Mirror.get_bind]
    rfl
  unfold LegacyFrameBootstrapParser.parse
  rw [failIf_of_not hread.payload_ne]
  exact valueOn_of_ok hfrom

/-- The parser finds the content behind the parameters. -/
theorem content :
    FrameParser.legacyRangeContent stream payload = .ok (true, reader.bytePosition, 0) := by
  have hkeyframe : FrameParser.readLegacyKeyframe stream payload = .ok (true, coded) := by
    obtain ⟨_, start, hstart, hflag⟩ := Mirror.bind_ok_iff.mp hread.flag
    have hcall : (do
        RangeCoder.resetSingle payload defaultStateTransition
        let keyframe ← RangeCoder.readBool
        MonadExcept.ofExcept (FrameParser.validateKeyframe stream keyframe 0)
        let reader ← get
        return (keyframe, reader) : Call RangeCoder (Bool × RangeCoder)) {} =
          .ok (true, coded) coded := by
      rw [Mirror.bind_ok hstart, Mirror.bind_ok hflag]
      rfl
    exact valueOn_of_ok hcall
  have hmatching : FrameParser.readMatchingParameters stream coded = .ok true reader := by
    obtain ⟨_, middle, hcontexts, hparse⟩ := Mirror.bind_ok_iff.mp hread.parameters
    unfold FrameParser.readMatchingParameters
    rw [Mirror.bind_ok hcontexts, Mirror.bind_ok hparse]
    refine congrArg (EStateM.Result.ok · reader) ?_
    exact decide_eq_true rfl
  have hoffset : FrameParser.detectLegacyEmbeddedParametersOffset coded stream
      coded.bytePosition = reader.bytePosition := by
    unfold FrameParser.detectLegacyEmbeddedParametersOffset
    rw [hmatching]
  unfold FrameParser.legacyRangeContent
  rw [hkeyframe]
  change Except.ok (true, FrameParser.detectLegacyEmbeddedParametersOffset coded stream
    coded.bytePosition, 0) = _
  rw [hoffset]

end HeaderRead

end Header

end Mffv1
