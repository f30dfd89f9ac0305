import Mffv1.CellWindows
import Mffv1.EncoderRuns
import Mffv1.GolombRiceSpace
import Mffv1.SampleChecks

/-!
# Progress of the encoder

An encoder that was configured takes every accepted frame whose samples are in the
depth, in whatever state its calls have left it: only a size limit can stop it.
-/
namespace Mffv1

open Hoare (Triple)
open RangeEncoder (Lively)
open SliceEncodeExecutor (cellHeader cellLayouts)

section Contexts

variable {counts : List Nat} {banks : ContextStateBanks}

theorem reconfigureContexts_progresses {sizes : List Nat} (hvalid : ContextsValid counts banks)
    (hlive : LiveBanks banks) :
    Progresses (Lively sizes) (RangeEncoder.reconfigureContexts counts banks)
      fun _ => Lively counts := by
  refine RangeEncoder.checkOpen_progresses ?_
  unfold RangeEncoder.assignContexts
  rw [initializeContexts_valid defaultInitialState hvalid]
  exact Triple.update fun e he => he.withContexts (liveBanks_initial hlive)
    (initialContextBanks_sizes defaultInitialState hvalid.2.2.2)

theorem contextCountsMatch_empty (hcounts : ∀ count ∈ counts, 0 < count ∧ count ≤ maxScalarContextCount)
    (n : Nat) : ContextCountsMatch counts (List.replicate n []) := by
  induction counts generalizing n with
  | nil => trivial
  | cons count counts ih =>
    obtain ⟨hfirst, hrest⟩ := List.forall_mem_cons.mp hcounts
    refine ⟨hfirst.1, hfirst.2, .inl ?_, ?_⟩
    · cases n <;> rfl
    · rw [List.tail_replicate]
      exact ih hrest (n - 1)

/-- What a frame leaves of a range-coded slice to the next one. -/
structure SavedRange (counts : List Nat) (state : SliceState) : Prop where
  live : LiveBanks state.rangeContexts
  sizes : state.rangeContexts.sizes = counts

end Contexts

section Headers

variable {stream : StreamParameters} {sliceIndex : Nat}

theorem resetSingle_progresses : Progresses (fun _ => True)
    (RangeEncoder.resetSingle defaultStateTransition) fun _ => Lively [1] := by
  intro unused _
  have hinit := RangeEncoder.initializeContexts_single 1 Nat.one_pos (by decide)
  have hreset : RangeEncoder.resetSingle defaultStateTransition unused = .ok ()
      { lowBytes := [0, 0], range := 0xff00, stateTransition := defaultStateTransition,
        scalarContexts := [List.replicate 1 (filledContext defaultInitialState)],
        initialized := true } := by
    unfold RangeEncoder.resetSingle RangeEncoder.resetImpl
    rw [hinit]
    rfl
  rw [hreset]
  exact ⟨RangeEncoder.resetImpl_roomy hreset, rfl, RangeEncoder.liveBanks_single 1, rfl⟩

theorem writeBool_progresses (bit : Bool) :
    Progresses (Lively [1]) (RangeEncoder.writeBool bit) fun _ => Lively [1] := by
  refine RangeEncoder.checkOpen_progresses (Triple.look fun e he => ?_)
  have hcontext := he.context_lt (show 0 < [1].length by decide) (show 0 < [1].getD 0 0 by decide)
  have hne : e.scalarContexts.getD 0 [] ≠ [] := List.ne_nil_of_length_pos (by omega)
  refine Progresses.passes hne ?_
  exact (RangeEncoder.racAt_progresses (by decide) (by decide) 0 bit).pre fun _ heq => heq ▸ he

theorem writeIndexes_progresses {indexes : List Nat}
    (h : ∀ index ∈ indexes, index ≤ RangeEncoder.int64Max) :
    Progresses (Lively [1]) (SliceHeaderWriter.writeQuantTableSetIndexes indexes)
      fun _ => Lively [1] := by
  induction indexes with
  | nil => exact Triple.returns fun _ he => he
  | cons index indexes ih =>
    obtain ⟨hindex, hrest⟩ := List.forall_mem_cons.mp h
    exact (RangeEncoder.writeUnsigned_progresses (by decide) (by decide) hindex).bind fun _ =>
      ih hrest

/-- The values of a header are small enough for a scalar. -/
theorem writeValues_progresses {values : SliceHeaderValues}
    (hindexes : ∀ index ∈ values.quantTableSetIndexes, index ≤ RangeEncoder.int64Max)
    (hstructure : values.pictureStructure ≤ RangeEncoder.int64Max)
    (hsar : values.sarNum ≤ RangeEncoder.int64Max ∧ values.sarDen ≤ RangeEncoder.int64Max) :
    Progresses (Lively [1]) (SliceHeaderWriter.writeValues values) fun _ => Lively [1] := by
  have hscalar (number : UInt32) : Progresses (Lively [1])
      (RangeEncoder.writeUnsigned 0 0 number.toNat) fun _ => Lively [1] := by
    have hlt := number.toNat_lt
    have hmax : RangeEncoder.int64Max = 2 ^ 63 - 1 := rfl
    exact RangeEncoder.writeUnsigned_progresses (by decide) (by decide) (by omega)
  have hnumber {number : Nat} (hle : number ≤ RangeEncoder.int64Max) : Progresses (Lively [1])
      (RangeEncoder.writeUnsigned 0 0 number) fun _ => Lively [1] :=
    RangeEncoder.writeUnsigned_progresses (by decide) (by decide) hle
  unfold SliceHeaderWriter.writeValues
  refine (hscalar _).bind fun _ => (hscalar _).bind fun _ => (hscalar _).bind fun _ =>
    (hscalar _).bind fun _ => ?_
  refine (writeIndexes_progresses hindexes).bind fun _ => ?_
  exact (hnumber hstructure).bind fun _ => (hnumber hsar.1).bind fun _ => hnumber hsar.2

theorem writeHeader_progresses (h : ProfileStream stream) (hcell : sliceIndex < cellCount stream)
    (writeKeyframe keyframe : Bool) : Progresses (fun _ => True)
      (SliceEncoder.writeHeader stream (cellHeader stream sliceIndex) writeKeyframe keyframe)
      fun _ => Lively [1] := by
  have hvalid : ContextsValid [1] [] :=
    ⟨by decide, by decide, .inl rfl, Nat.one_pos, by decide, .inl rfl, trivial⟩
  have hlive : LiveBanks [] := fun bank hbank => absurd hbank List.not_mem_nil
  unfold SliceEncoder.writeHeader
  rw [h.transition]
  refine resetSingle_progresses.bind fun _ => ?_
  refine Progresses.bind (Q := fun _ => Lively [1]) ?_ fun _ => ?_
  · cases writeKeyframe with
    | true => exact (writeBool_progresses keyframe).bind fun _ =>
        reconfigureContexts_progresses hvalid hlive
    | false => exact Triple.returns fun _ he => he
  · unfold SliceHeaderWriter.write
    rw [applyRaster_cell h.sets_ne hcell]
    refine Progresses.passes ?_ (Progresses.passes (not_not.mpr Iff.rfl) (writeValues_progresses ?_ ?_ ?_))
    · exact not_not.mpr (List.length_replicate ..)
    · intro index hmem
      rw [List.eq_of_mem_replicate hmem]
      exact Nat.zero_le _
    · exact Nat.zero_le _
    · exact ⟨Nat.zero_le _, Nat.zero_le _⟩

end Headers

section RangeSlices

variable {stream : StreamParameters} {memory : FrameMemory} {windows : List PlaneWindow}
  {width height : Nat → Nat} {sliceIndex : Nat} {state : SliceState}

/-- The sizes of the range banks. -/
def rangeCounts (stream : StreamParameters) : List Nat :=
  List.replicate stream.quantTableSetIndexCount 1

theorem rangeTableSetIndexes_cell (h : ProfileStream stream) (sliceIndex : Nat) :
    SliceEncoder.rangeTableSetIndexes stream (cellHeader stream sliceIndex) =
      List.replicate stream.quantTableSetIndexCount 0 := by
  unfold SliceEncoder.rangeTableSetIndexes
  rw [if_pos (by rw [h.profile.version])]
  refine (List.map_congr_left (g := fun _ => 0) fun bank hbank => ?_).trans (by
    rw [List.map_const', List.length_range])
  simp only [cellHeader, List.getD_eq_getElem?_getD, List.getElem?_replicate]
  split <;> rfl

theorem rangeContextCounts_cell (h : ProfileStream stream) (sliceIndex : Nat) :
    SliceEncoder.rangeContextCounts stream (cellHeader stream sliceIndex) = rangeCounts stream := by
  unfold SliceEncoder.rangeContextCounts rangeCounts
  rw [rangeTableSetIndexes_cell h, List.map_replicate, h.model]
  rfl

theorem quantTableSetIndexCount_le (stream : StreamParameters) :
    stream.quantTableSetIndexCount ≤ 3 := by
  unfold StreamParameters.quantTableSetIndexCount
  split <;> split <;> omega

theorem rangeCounts_bounds : ∀ count ∈ rangeCounts stream,
    0 < count ∧ count ≤ maxScalarContextCount := by
  intro count hmem
  rw [List.eq_of_mem_replicate hmem]
  decide

theorem contextsValid_of_match {banks : ContextStateBanks}
    (hlength : banks.length = stream.quantTableSetIndexCount)
    (hmatch : ContextCountsMatch (rangeCounts stream) banks) :
    ContextsValid (rangeCounts stream) banks := by
  have hpos := quantTableSetIndexCount_pos stream
  have hle := quantTableSetIndexCount_le stream
  have hcount : (rangeCounts stream).length = stream.quantTableSetIndexCount :=
    List.length_replicate ..
  refine ⟨List.ne_nil_of_length_pos (by omega), ?_, .inr (by omega), hmatch⟩
  rw [hcount, show maxContextBankCount = 4 from rfl]
  omega

/-- A slice without range contexts, or with those of the frame before. -/
def RangeHeld (stream : StreamParameters) (state : SliceState) : Prop :=
  state.rangeContexts = [] ∨ SavedRange (rangeCounts stream) state

/-- Fresh contexts, or those of the frame before. -/
theorem rangeInitialStateBanks_progresses (h : ProfileStream stream)
    (hsaved : RangeHeld stream state) :
    ∃ banks, SliceEncoder.rangeInitialStateBanks stream (cellHeader stream sliceIndex) state =
      .ok banks ∧ LiveBanks banks ∧ ContextsValid (rangeCounts stream) banks := by
  unfold SliceEncoder.rangeInitialStateBanks
  rw [rangeContextCounts_cell h, rangeTableSetIndexes_cell h]
  cases hcontexts : state.rangeContexts with
  | nil =>
    have hfresh : state.hasRangeContexts = false := by
      unfold SliceState.hasRangeContexts
      rw [hcontexts]
      rfl
    rw [hfresh, h.initialStates, List.map_replicate]
    refine ⟨_, rfl, fun bank hbank => ?_, contextsValid_of_match (List.length_replicate ..)
      (contextCountsMatch_empty rangeCounts_bounds _)⟩
    rw [List.eq_of_mem_replicate hbank]
    exact fun states hstates => absurd hstates List.not_mem_nil
  | cons bank banks =>
    have hkept := hsaved.resolve_left (by rw [hcontexts]; exact List.cons_ne_nil _ _)
    have hheld : state.hasRangeContexts = true := by
      unfold SliceState.hasRangeContexts
      rw [hcontexts]
      rfl
    have hsizes : (bank :: banks).map List.length = rangeCounts stream := hcontexts ▸ hkept.sizes
    have hlength : (bank :: banks).length = (rangeCounts stream).length := by
      rw [← hsizes, List.length_map]
    have hlive := hkept.live
    rw [hcontexts] at hlive
    have hmatch : ContextCountsMatch (ContextStateBanks.sizes (bank :: banks)) (bank :: banks) :=
      contextCountsMatch_self (by
        unfold ContextStateBanks.sizes
        rw [hsizes]
        exact rangeCounts_bounds)
    refine ⟨bank :: banks, ?_, hlive, contextsValid_of_match
      (hlength.trans (List.length_replicate ..)) (hsizes ▸ hmatch)⟩
    rw [if_pos hheld]
    dsimp only
    rw [failIf_of_not (not_not.mpr hlength), failIf_of_not (not_not.mpr hsizes)]
    rfl

/-- The bank of a plane is one of the banks of the slice. -/
theorem encoderContextBank_lt (h : ProfileStream stream) {planeIndex : Nat}
    (hplane : planeIndex < stream.codedPlaneCount) :
    encoderContextBank stream planeIndex < (rangeCounts stream).length ∧
      0 < (rangeCounts stream).getD (encoderContextBank stream planeIndex) 0 := by
  have hslot : encoderContextBank stream planeIndex < stream.quantTableSetIndexCount := by
    unfold StreamParameters.codedPlaneCount at hplane
    simp only [encoderContextBank, StreamParameters.planeQuantTableSetIndexSlot,
      StreamParameters.isChromaPlane, StreamParameters.quantTableSetIndexCount,
      h.profile.version]
    cases hchroma : stream.chromaPlanes with
    | true =>
      cases hextra : stream.extraPlane with
      | true =>
        simp
        split
        · omega
        · split <;> omega
      | false =>
        simp [hchroma, hextra] at hplane
        simp
        split
        · omega
        · split <;> omega
    | false =>
      cases hextra : stream.extraPlane with
      | true => simp; split <;> omega
      | false =>
        simp [hchroma, hextra] at hplane
        simp [hplane]
  have hcount : (rangeCounts stream).length = stream.quantTableSetIndexCount :=
    List.length_replicate ..
  refine ⟨hcount ▸ hslot, ?_⟩
  rw [List.getD_eq_getElem _ _ (hcount ▸ hslot)]
  exact (rangeCounts_bounds _ (List.getElem_mem _)).1

theorem encodeRangeContent_progresses (h : ProfileStream stream)
    (hfits : InputFits stream memory windows width height) :
    Progresses (WritesSamples (rangeCounts stream))
      (SliceEncoder.encodeRangeContent stream memory windows)
      fun result _ => SavedRange (rangeCounts stream) result.1 := by
  unfold SliceEncoder.encodeRangeContent
  refine (encodeSamples_progresses hfits fun _ hplane => encoderContextBank_lt h hplane).bind
    fun _ => ?_
  refine Progresses.bind (Q := fun _ encoding => WritesSamples (rangeCounts stream) encoding ∧
    SavedRange (rangeCounts stream) encoding.state) (Triple.look fun encoding he => ?_) fun _ => ?_
  · have hcopy : encoding.writer.copyContexts = .ok encoding.writer.scalarContexts := by
      unfold RangeEncoder.copyContexts
      rw [he.roomy.bounded.ready.initialized]
      rfl
    unfold SliceState.captureRangeContexts
    rw [hcopy]
    exact Triple.computes rfl (Triple.replace fun _ _ => ⟨he, he.states, he.sizes⟩)
  · have hclose : Progresses (Lively (rangeCounts stream)) RangeEncoder.finalizeClosed
        fun _ _ => True := fun e he => by
      rw [RangeEncoder.finalizeClosed_of_bounded he.roomy.bounded]
      trivial
    refine Progresses.bind (onWriter_progresses hclose _) fun payload => ?_
    exact Triple.look fun encoding he => fun _ _ => he.2

theorem encodeRangeSlice_yields (h : ProfileStream stream) (hcell : sliceIndex < cellCount stream)
    (hfits : InputFits stream memory windows width height)
    (hsaved : RangeHeld stream state) (writeKeyframe keyframe : Bool) :
    Yields (fun result => SavedRange (rangeCounts stream) result.1)
      (SliceEncoder.encodeRangeSlice stream memory windows (cellHeader stream sliceIndex)
        writeKeyframe keyframe state) := by
  unfold SliceEncoder.encodeRangeSlice
  refine Hoare.Settles.bind (φ := Lively [1]) ?_ fun writer hwriter => ?_
  · refine Progresses.valueOn (Progresses.bind
      (writeHeader_progresses h hcell writeKeyframe keyframe) fun _ =>
        Triple.look fun e he => Triple.returns (Q := fun writer _ => Lively [1] writer)
          fun _ _ => he) trivial fun _ _ hwriter => hwriter
  · obtain ⟨banks, hbanks, hlive, hvalid⟩ :=
      @rangeInitialStateBanks_progresses _ sliceIndex _ h hsaved
    rw [hbanks, rangeContextCounts_cell h]
    refine Hoare.Settles.bind (φ := Lively (rangeCounts stream)) ?_ fun writer hwriter => ?_
    · refine Progresses.valueOn (Progresses.bind
        (reconfigureContexts_progresses hvalid hlive) fun _ =>
          Triple.look fun e he => Triple.returns
            (Q := fun writer _ => Lively (rangeCounts stream) writer) fun _ _ => he)
        hwriter fun _ _ hwriter => hwriter
    · exact Progresses.valueOn (encodeRangeContent_progresses h hfits)
        (e := { writer, state }) hwriter fun _ _ hresult => hresult

end RangeSlices

section GolombRiceSlices

variable {stream : StreamParameters} {memory : FrameMemory} {windows : List PlaneWindow}
  {width height : Nat → Nat} {sliceIndex : Nat} {state : SliceState}

/-- A slice without Golomb-Rice state, or with that of the frame before. -/
def GolombRiceHeld (stream : StreamParameters) (state : SliceState) : Prop :=
  state.golombRiceContexts = [] ∧ state.golombRiceRunStates = [] ∨
    SavedGolombRice stream.codedPlaneCount (golombRiceCounts stream) state

theorem encodeGolombRiceContent_progresses (hfits : InputFits stream memory windows width height)
    (hlines : FreshLines stream.codedPlaneCount width state) (hheld : GolombRiceHeld stream state) :
    Progresses (fun encoding => BitWriter.TakesBits encoding.writer ∧ encoding.state = state)
      (SliceEncoder.encodeGolombRiceContent stream memory windows)
      fun result _ =>
        SavedGolombRice stream.codedPlaneCount (golombRiceCounts stream) result.1 := by
  unfold SliceEncoder.encodeGolombRiceContent
  refine (encodeGolombRiceSamples_progresses hfits hlines hheld).bind fun _ => ?_
  have hpad := onWriter_progresses BitWriter.byteAlignZero_progresses
    (SavedGolombRice stream.codedPlaneCount (golombRiceCounts stream))
  refine Progresses.bind (Triple.pre hpad fun encoding he => ⟨he.1, he.2.saved⟩) fun _ => ?_
  refine Progresses.bind (onWriter_progresses BitWriter.finalize_progresses _) fun content => ?_
  exact Triple.look fun encoding he => fun _ _ => he.2

theorem encodeGolombRiceSlice_yields (h : ProfileStream stream)
    (hcell : sliceIndex < cellCount stream)
    (hfits : InputFits stream memory windows width height)
    (hlines : FreshLines stream.codedPlaneCount width state) (hheld : GolombRiceHeld stream state)
    (writeKeyframe keyframe : Bool) :
    Yields (fun result =>
        SavedGolombRice stream.codedPlaneCount (golombRiceCounts stream) result.1)
      (SliceEncoder.encodeGolombRiceSlice stream memory windows (cellHeader stream sliceIndex)
        writeKeyframe keyframe state) := by
  have hclose : Progresses (Lively [1]) RangeEncoder.finalize fun _ _ => True := fun e he => by
    rw [finalize_of_ready he.roomy.bounded.ready]
    trivial
  unfold SliceEncoder.encodeGolombRiceSlice
  dsimp only
  refine Hoare.Settles.bind (φ := fun _ => True) ?_ fun payload _ => ?_
  · exact Progresses.valueOn ((writeHeader_progresses h hcell writeKeyframe keyframe).bind
      fun _ => hclose) trivial fun _ _ _ => trivial
  · refine Hoare.Settles.bind (Progresses.valueOn
      (encodeGolombRiceContent_progresses hfits hlines hheld) (e := { writer := {}, state })
      ⟨rfl, rfl⟩ fun _ _ hresult => hresult) fun result hresult => ?_
    exact Yields.limits ⟨rfl, .golombRicePayload, rfl⟩ fun _ => yields_pure hresult

end GolombRiceSlices

section Slices

variable {stream : StreamParameters} {input : FrameView} {memory : FrameMemory}
  {windows : List PlaneWindow} {sliceIndex : Nat} {state : SliceState} {keyframe : Bool}

theorem RangeHeld.resetLines {lines : List LineState} (h : RangeHeld stream state) :
    RangeHeld stream { state with lineStates := lines } :=
  h.imp id fun hsaved => ⟨hsaved.live, hsaved.sizes⟩

theorem GolombRiceHeld.resetLines {lines : List LineState} (h : GolombRiceHeld stream state) :
    GolombRiceHeld stream { state with lineStates := lines } :=
  h.imp id fun hsaved => ⟨hsaved.runs, hsaved.contexts, hsaved.sizes⟩

/-- What a slice keeps from a frame to the next one. -/
def ReferenceHeld (stream : StreamParameters) (state : SliceState) : Prop :=
  match stream.entropyMode with
  | .range => SavedRange (rangeCounts stream) state
  | .golombRice => SavedGolombRice stream.codedPlaneCount (golombRiceCounts stream) state

theorem hasReferenceState_of_held (h : ReferenceHeld stream state) :
    SliceEncoder.hasReferenceState stream state = true := by
  have hne {α : Type} {values : List (List α)} {count : Nat} (hcount : 0 < count)
      (hsizes : values.map List.length = List.replicate count 1) : (!values.isEmpty) = true := by
    cases values with
    | nil =>
      have := congrArg List.length hsizes
      simp at this
      omega
    | cons value values => rfl
  unfold ReferenceHeld at h
  unfold SliceEncoder.hasReferenceState
  cases hmode : stream.entropyMode with
  | range =>
    rw [hmode] at h
    exact hne (quantTableSetIndexCount_pos stream) h.sizes
  | golombRice =>
    rw [hmode] at h
    refine hne ?_ h.sizes
    unfold encoderGolombRiceBankCount
    have hpos := quantTableSetIndexCount_pos stream
    split <;> omega

/-- The state that a slice is coded from has its reference or nothing. -/
theorem workingState_of_held (hheld : keyframe = false → ReferenceHeld stream state) :
    ∃ working, SliceEncoder.workingState stream keyframe state = .ok working ∧
      (stream.entropyMode = .range → RangeHeld stream working) ∧
      (stream.entropyMode = .golombRice → GolombRiceHeld stream working) := by
  cases keyframe with
  | true => exact ⟨_, rfl, fun _ => .inl rfl, fun _ => .inl ⟨rfl, rfl⟩⟩
  | false =>
    have hreference := hheld rfl
    refine ⟨state, ?_, fun hmode => .inr ?_, fun hmode => .inr ?_⟩
    · unfold SliceEncoder.workingState
      rw [if_neg Bool.false_ne_true, failIf_of_not (by
        rw [hasReferenceState_of_held hreference]
        decide)]
      rfl
    · unfold ReferenceHeld at hreference
      rwa [hmode] at hreference
    · unfold ReferenceHeld at hreference
      rwa [hmode] at hreference

theorem resetLines_of_widths (stream : StreamParameters) {windows : List PlaneWindow}
    (h : ∀ window ∈ windows, window.width ≠ 0) (first : Nat) :
    ∃ lines, SliceState.resetLines stream first windows = .ok lines := by
  induction windows generalizing first with
  | nil => exact ⟨[], rfl⟩
  | cons window windows ih =>
    obtain ⟨hwidth, hrest⟩ := List.forall_mem_cons.mp h
    obtain ⟨lines, hlines⟩ := ih hrest (first + 1)
    unfold SliceState.resetLines LineState.reset
    rw [failIf_of_not hwidth, hlines]
    exact ⟨_, rfl⟩

/-- Golomb-Rice lines start out of zeros. -/
theorem freshLines_of_reset {width height : Nat → Nat} {before : SliceState}
    (hmode : stream.entropyMode = .golombRice) (hshape : WindowShape stream windows width height)
    (hreset : before.reset stream windows = .ok state) :
    FreshLines stream.codedPlaneCount width state := by
  simp only [SliceState.reset, except_bind_ok] at hreset
  obtain ⟨lines, hlines, hstate⟩ := hreset
  obtain rfl := Except.ok.inj hstate
  obtain ⟨hlength, hget⟩ := resetLines_get hlines
  refine ⟨hlength.trans hshape.planes, fun planeIndex hplane => ?_⟩
  have hborder : planeBorderValue stream (0 + planeIndex) = 0 := by
    unfold planeBorderValue
    rw [if_neg (fun hbad => by rw [hmode] at hbad; cases hbad.1)]
  have hline := hget planeIndex (hshape.planes ▸ hplane)
  rw [hborder, hshape.width planeIndex hplane] at hline
  exact hline

theorem footer_yields (stream : StreamParameters) (payload : Bytes) :
    Yields (fun _ => True) (SliceFooterWriter.append stream 0 payload) := by
  unfold SliceFooterWriter.append
  refine Yields.passes (fun hbad => hbad.2 rfl) (Yields.passes (by decide) ?_)
  refine Yields.limits ⟨rfl, .sliceSize, rfl⟩ fun _ => ?_
  dsimp only
  split <;> exact yields_pure trivial

/-- A cell of an accepted input is encoded unless a size limit is reached. -/
theorem encodeCell_yields (h : ProfileStream stream)
    (hinput : FrameValidator.validateInput stream input = .ok ())
    (hsamples : SamplesInDepth stream input memory) (hcell : sliceIndex < cellCount stream)
    (hintra : keyframe = false → stream.intraOnly = false)
    (hheld : keyframe = false → ReferenceHeld stream state) :
    Yields (fun result => ReferenceHeld stream result.1)
      (SliceEncodeExecutor.encodeSlice stream input memory keyframe sliceIndex state) := by
  have hplaced := cell_placed h.sets_ne hcell
  have hframe : ¬(decide (sliceIndex = 0) = true ∧ keyframe = false ∧ stream.intraOnly = true) := by
    rintro ⟨-, hinter, honly⟩
    rw [hintra hinter] at honly
    cases honly
  obtain ⟨working, hworking, hrange, hgolombRice⟩ := workingState_of_held hheld
  obtain ⟨windows, hwindows⟩ := inputWindows_made hinput hplaced
    (fun _ hplane => cell_nonempty h.sets_ne h.regions hcell hplane)
    (cell_size h.sets_ne h.regions hcell)
  unfold SliceEncodeExecutor.encodeSlice SliceEncoder.encodeSlice
  rw [h.validStream]
  refine Yields.computes rfl (Yields.passes (not_not.mpr h.profile.version) ?_)
  refine Yields.passes hframe (Yields.computes hinput ?_)
  refine Yields.computes (applyRaster_cell h.sets_ne hcell) ?_
  refine Yields.computes hwindows (Yields.computes hworking ?_)
  have hfits := inputFits_of_samples h.model h.profile.bitDepth h.chroma hplaced hwindows hsamples
  have hwidths : ∀ window ∈ windows, window.width ≠ 0 := by
    intro window hmem hzero
    obtain ⟨planeIndex, hlt, rfl⟩ := List.getElem_of_mem hmem
    have hplane : planeIndex < stream.codedPlaneCount := hfits.shape.planes ▸ hlt
    have hwidth := hfits.shape.width planeIndex hplane
    unfold planeWindow at hwidth
    rw [List.getD_eq_getElem _ _ hlt, hzero] at hwidth
    exact Nat.ne_of_lt (cell_nonempty h.sets_ne h.regions hcell hplane).1 hwidth
  obtain ⟨lines, hlines⟩ := resetLines_of_widths stream hwidths 0
  have hreset : working.reset stream windows = .ok { working with lineStates := lines } := by
    unfold SliceState.reset
    rw [hlines]
    rfl
  refine Yields.computes hreset ?_
  have hfooter (result : SliceState × Bytes) (hresult : ReferenceHeld stream result.1) :
      Yields (fun result => ReferenceHeld stream result.1)
        (SliceFooterWriter.append stream 0 result.2 >>= fun payload =>
          (pure (result.1, payload) : Except Error (SliceState × Bytes))) :=
    Hoare.Settles.bind (footer_yields stream result.2) fun _ _ => yields_pure hresult
  cases hmode : stream.entropyMode with
  | range =>
    refine Hoare.Settles.bind (encodeRangeSlice_yields h hcell hfits
      (hrange hmode).resetLines _ keyframe)
      fun result hresult => hfooter result ?_
    unfold ReferenceHeld
    rwa [hmode]
  | golombRice =>
    refine Hoare.Settles.bind (encodeGolombRiceSlice_yields h hcell hfits
      (freshLines_of_reset hmode hfits.shape hreset) (hgolombRice hmode).resetLines _ keyframe)
      fun result hresult => hfooter result ?_
    unfold ReferenceHeld
    rwa [hmode]

end Slices

section Frames

variable {stream : StreamParameters} {input : FrameView} {memory : FrameMemory}
  {executor : SliceEncodeExecutor} {keyframe : Bool}

/-- What a frame keeps for the next one: the grid, and a reference for each of its cells. -/
structure FrameHeld (stream : StreamParameters) (executor : SliceEncodeExecutor) : Prop where
  states : executor.sliceStates.length = cellCount stream
  layouts : executor.sliceLayouts =
    SliceEncodeExecutor.cellLayouts stream (cellCount stream)
  held : ∀ state ∈ executor.sliceStates, ReferenceHeld stream state

theorem checkedSliceCount_yields (hcells : 0 < cellCount stream) :
    Yields (fun count => count = cellCount stream)
      (SliceEncodeExecutor.checkedSliceCount stream) := by
  unfold SliceEncodeExecutor.checkedSliceCount
  rw [cellCount64_toNat]
  exact Yields.passes (Nat.ne_of_gt hcells)
    (Yields.limits ⟨rfl, .sliceCount, rfl⟩ fun _ => yields_pure rfl)

/-- An input is accepted of a stream with a grid. -/
theorem validateInput_cells (hinput : FrameValidator.validateInput stream input = .ok ()) :
    0 < cellCount stream := by
  simp only [FrameValidator.validateInput, FrameValidator.validateStreamShape, except_bind_ok,
    exists_unit, failIf_ok_iff, not_or] at hinput
  obtain ⟨-, -, -, -, hcolumns, hrows⟩ := hinput.1
  exact Nat.mul_pos (Nat.pos_of_ne_zero fun hzero => hcolumns (UInt32.toNat_inj.mp hzero))
    (Nat.pos_of_ne_zero fun hzero => hrows (UInt32.toNat_inj.mp hzero))

/-- The states of a frame are fresh, or those of the frame before. -/
theorem workingStates_of_held (hcells : 0 < cellCount stream)
    (hintra : keyframe = false → stream.intraOnly = false)
    (hheld : keyframe = false → FrameHeld stream executor) :
    ∃ states, executor.workingStates stream keyframe (cellCount stream) = .ok states ∧
      states.length = cellCount stream ∧
      (keyframe = false → ∀ state ∈ states, ReferenceHeld stream state) := by
  cases keyframe with
  | true => exact ⟨_, rfl, List.length_replicate .., fun h => by cases h⟩
  | false =>
    have h := hheld rfl
    have hlayouts : executor.sliceLayouts.length = executor.sliceStates.length := by
      rw [h.layouts, h.states, SliceEncodeExecutor.cellLayouts, List.length_map, List.length_range]
    have hstates : executor.sliceStates ≠ [] :=
      List.ne_nil_of_length_pos (by rw [h.states]; exact hcells)
    refine ⟨executor.sliceStates, ?_, h.states, fun _ => h.held⟩
    unfold SliceEncodeExecutor.workingStates
    rw [if_neg Bool.false_ne_true, hintra rfl, failIf_of_not Bool.false_ne_true,
      failIf_of_not hstates, failIf_of_not (not_or.mpr ⟨not_not.mpr h.states, not_not.mpr hlayouts⟩),
      failIf_of_not (not_not.mpr h.layouts)]
    rfl

theorem encodeSlices_yields (h : ProfileStream stream)
    (hinput : FrameValidator.validateInput stream input = .ok ())
    (hsamples : SamplesInDepth stream input memory)
    (hintra : keyframe = false → stream.intraOnly = false) {states : List SliceState} {first : Nat}
    (hcells : first + states.length ≤ cellCount stream)
    (hheld : keyframe = false → ∀ state ∈ states, ReferenceHeld stream state) :
    Yields (fun encoded => encoded.length = states.length ∧
        ∀ result ∈ encoded, ReferenceHeld stream result.1)
      (SliceEncodeExecutor.encodeSlices stream input memory keyframe first states) := by
  induction states generalizing first with
  | nil => exact ⟨rfl, fun _ hmem => absurd hmem List.not_mem_nil⟩
  | cons state states ih =>
    rw [List.length_cons] at hcells
    have hcell := encodeCell_yields h hinput hsamples (show first < cellCount stream by omega)
      hintra fun hinter => hheld hinter state List.mem_cons_self
    refine Hoare.Settles.bind (hcell.mapError fun _ hstatus => hstatus) fun result hresult => ?_
    have hrest := ih (show first + 1 + states.length ≤ cellCount stream by omega)
      fun hinter _ hmem => hheld hinter _ (List.mem_cons_of_mem _ hmem)
    refine Hoare.Settles.bind hrest fun rest hrest => yields_pure ⟨?_, ?_⟩
    · rw [List.length_cons, List.length_cons, hrest.1]
    · exact List.forall_mem_cons.mpr ⟨hresult, hrest.2⟩

/-- A frame of an accepted input is encoded unless a size limit is reached, and leaves
its references behind. -/
theorem encode_yields (h : ProfileStream stream)
    (hinput : FrameValidator.validateInput stream input = .ok ())
    (hsamples : SamplesInDepth stream input memory)
    (hintra : keyframe = false → stream.intraOnly = false)
    (hheld : keyframe = false → FrameHeld stream executor) :
    Yields (fun result => FrameHeld stream result.1)
      (SliceEncodeExecutor.encode stream input memory keyframe executor) := by
  unfold SliceEncodeExecutor.encode
  refine Yields.computes hinput ?_
  have hpos := validateInput_cells hinput
  refine Hoare.Settles.bind (checkedSliceCount_yields hpos) fun count hcount => ?_
  obtain rfl := hcount
  obtain ⟨states, hstates, hlength, hreferences⟩ := workingStates_of_held hpos hintra hheld
  refine Yields.computes hstates ?_
  refine Hoare.Settles.bind (encodeSlices_yields h hinput hsamples hintra
    (by rw [hlength, Nat.zero_add]) hreferences) fun encoded hencoded => ?_
  have happend : Yields (fun _ => True)
      (SliceEncodeExecutor.appendSlices (encoded.map Prod.snd)) := by
    unfold SliceEncodeExecutor.appendSlices
    exact Yields.limits ⟨rfl, .frameSize, rfl⟩ fun _ =>
      Yields.limits ⟨rfl, .frame, rfl⟩ fun _ => yields_pure trivial
  refine Hoare.Settles.bind happend fun frame _ => yields_pure ⟨?_, rfl, fun state hstate => ?_⟩
  · rw [List.length_map, hencoded.1, hlength]
  · obtain ⟨result, hmem, rfl⟩ := List.mem_map.mp hstate
    exact hencoded.2 result hmem

end Frames

/-- A configured encoder holds a reference wherever its next frame needs one. -/
structure Encoder.Prepared (encoder : Encoder) (stream : StreamParameters) : Prop where
  profile : ProfileStream stream
  intraOnly : stream.intraOnly = decide (encoder.options.keyframeInterval = 1)
  held : encoder.atKeyframe = false → FrameHeld stream encoder.executor

namespace Encoder.Prepared

variable {encoder : Encoder} {stream : StreamParameters}

/-- Every frame is a keyframe where the interval is one. -/
theorem inter_allowed (h : encoder.Prepared stream) (hinter : encoder.atKeyframe = false) :
    stream.intraOnly = false := by
  rw [h.intraOnly, decide_eq_false_iff_not]
  intro hone
  unfold atKeyframe at hinter
  rw [hone, decide_eq_false_iff_not, ← UInt64.toNat_inj, UInt64.toNat_mod] at hinter
  exact hinter (Nat.mod_one _)

theorem encodes (h : encoder.Prepared stream) {input : FrameView} {memory : FrameMemory}
    (hinput : FrameValidator.validateInput stream input = .ok ())
    (hsamples : SamplesInDepth stream input memory) :
    Yields (fun result => FrameHeld stream result.1)
      (SliceEncodeExecutor.encode stream input memory encoder.atKeyframe encoder.executor) :=
  encode_yields h.profile hinput hsamples h.inter_allowed h.held

end Encoder.Prepared

/-- The encoder of a run is unconfigured or prepared. -/
def EncoderRun.Prepared (run : EncoderRun) : Prop :=
  ∀ stream, run.encoder.stream = some stream → run.encoder.Prepared stream

theorem EncoderCall.perform_prepared (call : EncoderCall) {run : EncoderRun}
    (h : run.Prepared) : (Mirror.finalState (call.perform run)).Prepared := by
  cases hcall : call.perform run with
  | error status next =>
    obtain rfl := EncoderCall.perform_error hcall
    exact h
  | ok u next =>
    intro stream hstream
    change next.encoder.stream = some stream at hstream
    change next.encoder.Prepared stream
    cases call with
    | configure info =>
      rw [EncoderCall.perform_configure] at hcall
      cases hnormalize : normalizeEncoderProfile run.encoder.options info with
      | error status =>
        rw [hnormalize] at hcall
        cases hcall
      | ok configured =>
        rw [hnormalize] at hcall
        obtain ⟨haccepted, rfl⟩ := (normalizeEncoderProfile_ok_iff _ _ _).mp hnormalize
        cases hwrite : ConfigurationRecordWriter.write
            (encoderStream run.encoder.options info) with
        | error status =>
          dsimp only at hcall
          rw [hwrite] at hcall
          cases hcall
        | ok record =>
          dsimp only at hcall
          rw [hwrite] at hcall
          obtain rfl := (EStateM.Result.ok.inj hcall).2
          obtain rfl := Option.some.inj hstream
          refine ⟨haccepted.profileStream, rfl, fun hinter => ?_⟩
          unfold Encoder.atKeyframe at hinter
          exact absurd rfl (of_decide_eq_false hinter)
    | encodeFrame input memory =>
      cases hbefore : run.encoder.stream with
      | none =>
        unfold EncoderCall.perform at hcall
        dsimp only at hcall
        rw [Encoder.encodeFrame_unconfigured hbefore] at hcall
        cases hcall
      | some configured =>
        have hprepared := h configured hbefore
        rw [EncoderCall.perform_encodeFrame hbefore] at hcall
        cases hencode : SliceEncodeExecutor.encode configured input memory run.encoder.atKeyframe
            run.encoder.executor with
        | error status =>
          rw [hencode] at hcall
          cases hcall
        | ok result =>
          rw [hencode] at hcall
          obtain rfl := (EStateM.Result.ok.inj hcall).2
          obtain rfl := Option.some.inj (hbefore.symm.trans hstream)
          obtain ⟨hinput, hsamples⟩ := encode_inDepth hprepared.profile hencode
          have hheld := hprepared.encodes hinput hsamples
          rw [hencode] at hheld
          exact ⟨hprepared.profile, hprepared.intraOnly, fun _ => hheld⟩

/-- The encoder of a run is prepared from its creation on. -/
theorem EncoderRun.prepared_created {options : EncoderOptions} {encoder : Encoder}
    (hcreate : createEncoder options = .ok encoder) (calls : List EncoderCall) :
    (Observer.after EncoderCall.perform calls { encoder }).Prepared := by
  refine Observer.after_maintains (fun call _ hrun => EncoderCall.perform_prepared call hrun)
    (fun stream hstream => ?_) calls
  simp only [createEncoder, except_bind_ok, exists_unit, failIf_ok_iff] at hcreate
  obtain ⟨-, -, hencoder⟩ := hcreate
  obtain rfl := Except.ok.inj hencoder
  cases hstream

end Mffv1
