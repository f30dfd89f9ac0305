import Mffv1.ContentRoundTrip
import Mffv1.GolombRiceLines

/-!
# Golomb-Rice content is read back

The rows of a slice are read back line by line. An RGB row is complete when all of its
planes are, and the planes share one run state.
-/
namespace Mffv1

section Swaps

variable {setup : GolombRiceLine} {samples : List Int} {other : Nat}

/-- The line of one plane is swapped. -/
def Encoding.swapLine {W : Type} (planeIndex : Nat) (encoding : Encoding W) : Encoding W :=
  encoding.modifyState (SliceState.modifyLine · planeIndex LineState.swapLines)

theorem onWriter_projects {W α : Type} (call : Call W α) (planeIndex : Nat) :
    Mirror.Projects (Encoding.swapLine planeIndex) (onWriter call) (onWriter call) := by
  intro e
  unfold onWriter Encoding.swapLine Encoding.modifyState
  cases call e.writer <;> rfl

theorem modifyLine_comm {state : SliceState} {planeIndex : Nat} (hne : planeIndex ≠ other)
    (f g : LineState → LineState) :
    (state.modifyLine planeIndex f).modifyLine other g =
      (state.modifyLine other g).modifyLine planeIndex f := by
  have hlines : (state.lineStates.modify planeIndex f).modify other g =
      (state.lineStates.modify other g).modify planeIndex f := by
    refine List.ext_getElem? fun i => ?_
    simp only [List.getElem?_modify]
    by_cases hplane : planeIndex = i
    · have hother : other ≠ i := fun h => hne (hplane.trans h.symm)
      simp [hplane, hother]
    · simp [hplane]
  exact congrArg (fun lines => { state with lineStates := lines }) hlines

theorem storeEncoded_apart (hne : setup.planeIndex ≠ other) (f : LineState → LineState) :
    Mirror.Projects (Encoding.swapLine (W := BitWriter) other)
      (modify (Encoding.modifyState (SliceState.modifyLine · setup.planeIndex f)) :
        Call (Encoding BitWriter) Unit)
      (modify (Encoding.modifyState (SliceState.modifyLine · setup.planeIndex f))) := by
  refine Mirror.Projects.modify fun e => ?_
  exact congrArg (fun state => { e with state }) (modifyLine_comm hne f LineState.swapLines).symm

theorem encodeDifference_apart (hne : setup.planeIndex ≠ other) (x : Nat)
    (write : GolombRiceContextState → Nat → Int → Call BitWriter GolombRiceContextState) :
    Mirror.Projects (Encoding.swapLine other) (encodeDifference setup samples x write)
      (encodeDifference setup samples x write) := by
  have hdifference (context : ContextDecision) (difference : Int) :
      Mirror.Projects (Encoding.swapLine other) (writeDifference setup context difference write)
        (writeDifference setup context difference write) := by
    have hview := Mirror.Projects.view_same (π := Encoding.swapLine (W := BitWriter) other)
      (fun e : Encoding BitWriter => e.state.golombRiceContext setup.contextBank context.context)
      (fun adaptive => do
        let adaptive ← onWriter (write adaptive setup.reconstructionBits
          (if context.invertDifference then -difference else difference))
        modify (Encoding.modifyState
          (SliceState.setGolombRiceContext · setup.contextBank context.context adaptive)))
      (fun _ => rfl) fun adaptive =>
        (onWriter_projects _ other).bind fun _ => Mirror.Projects.modify fun _ => rfl
    exact hview
  have hview := Mirror.Projects.view_same (π := Encoding.swapLine (W := BitWriter) other)
    (fun e : Encoding BitWriter => e.state.lineState setup.planeIndex)
    (fun line => do
      let context ← MonadExcept.ofExcept
        (ContextModel.deriveContext setup.contextModel (line.neighbors x))
      let difference := Predictor.difference (samples.getD x 0) (linePrediction line x)
        setup.reconstructionBits
      writeDifference setup context difference write
      storeEncoded setup samples x)
    (fun _ => SliceState.lineState_modifyLine_of_ne hne) fun line =>
      (Mirror.Projects.ofExcept _).bind fun context =>
        (hdifference context _).bind fun _ => storeEncoded_apart hne _
  exact hview

theorem writeRunOf_apart (x count : Nat) :
    Mirror.Projects (Encoding.swapLine other) (writeRunOf setup x count)
      (writeRunOf setup x count) := by
  have hview := Mirror.Projects.view_same (π := Encoding.swapLine (W := BitWriter) other)
    (fun e : Encoding BitWriter => e.state.golombRiceRunState setup.runStatePlane)
    (fun runState => do
      let runState ← onWriter (runState.writeRun x setup.width count)
      modify (Encoding.modifyState
        (SliceState.setGolombRiceRunState · setup.runStatePlane runState)))
    (fun _ => rfl) fun _ =>
      (onWriter_projects _ other).bind fun _ => Mirror.Projects.modify fun _ => rfl
  exact hview

/-- A line is coded without regard to the lines of other planes. -/
theorem rounds_apart (hne : setup.planeIndex ≠ other) (fuel x : Nat) :
    Mirror.Projects (Encoding.swapLine other) (encodeGolombRiceRounds setup samples fuel x)
      (encodeGolombRiceRounds setup samples fuel x) := by
  have hstep (x : Nat) : Mirror.Projects (Encoding.swapLine other)
      (encodeGolombRiceStep setup samples x) (encodeGolombRiceStep setup samples x) := by
    have hview := Mirror.Projects.view_same (π := Encoding.swapLine (W := BitWriter) other)
      (fun e : Encoding BitWriter => e.state.lineState setup.planeIndex)
      (encodeRoundOn setup samples x)
      (fun _ => SliceState.lineState_modifyLine_of_ne hne) fun line => ?_
    · exact hview
    · unfold encodeRoundOn
      refine (Mirror.Projects.ofExcept _).bind fun context => ?_
      by_cases hzero : context.context = 0
      · simp only [if_pos hzero]
        refine (storeEncoded_apart hne _).bind fun _ => (writeRunOf_apart _ _).bind fun _ => ?_
        split
        · exact Mirror.Projects.pure _
        · exact (encodeDifference_apart hne _ _).bind fun _ => Mirror.Projects.pure _
      · simp only [if_neg hzero]
        exact (encodeDifference_apart hne _ _).bind fun _ => Mirror.Projects.pure _
  induction fuel generalizing x with
  | zero => exact Mirror.Projects.pure _
  | succ fuel ih =>
    unfold encodeGolombRiceRounds
    split
    · exact Mirror.Projects.pure _
    · exact (hstep x).bind fun next => ih next

/-- Swapping every line behind all of them comes to the same as swapping each behind itself. -/
theorem forLoop_swaps_last {rows : Nat → Call (Encoding BitWriter) Unit}
    (h : ∀ planeIndex other, planeIndex ≠ other →
      Mirror.Projects (Encoding.swapLine other) (rows planeIndex) (rows planeIndex))
    {first count : Nat} {e e' : Encoding BitWriter} {u : Unit}
    (hrun : (Mirror.forLoop first count (fun planeIndex => do
      rows planeIndex
      modify (Encoding.swapLine planeIndex)) : Call (Encoding BitWriter) Unit) e = .ok u e') :
    (do
      Mirror.forLoop first count rows
      Mirror.forLoop first count fun planeIndex => modify (Encoding.swapLine planeIndex) :
      Call (Encoding BitWriter) Unit) e = .ok u e' := by
  induction count generalizing first e with
  | zero => exact hrun
  | succ count ih =>
    rw [Mirror.forLoop_succ] at hrun
    obtain ⟨_, e₁, hfirst, hrest⟩ := Mirror.bind_ok_iff.mp hrun
    obtain ⟨_, e₂, hrow, hswap⟩ := Mirror.bind_ok_iff.mp hfirst
    obtain ⟨-, rfl⟩ := EStateM.Result.ok.inj hswap
    obtain ⟨_, e₃, hrows, hswaps⟩ := Mirror.bind_ok_iff.mp (ih hrest)
    have hapart : Mirror.Projects (Encoding.swapLine first)
        (Mirror.forLoop (first + 1) count rows) (Mirror.forLoop (first + 1) count rows) := by
      have hloop (start n : Nat) (hstart : first < start) :
          Mirror.Projects (Encoding.swapLine first) (Mirror.forLoop start n rows)
            (Mirror.forLoop start n rows) := by
        induction n generalizing start with
        | zero => exact Mirror.Projects.pure _
        | succ n ihn => exact (h start first (by omega)).bind fun _ => ihn (start + 1) (by omega)
      exact hloop _ _ (Nat.lt_succ_self first)
    obtain ⟨e₄, hunswapped, rfl⟩ := hapart.ok hrows
    refine Mirror.bind_ok_iff.mpr ⟨(), e₄, ?_, hswaps⟩
    exact Mirror.bind_ok_iff.mpr ⟨(), e₂, hrow, hunswapped⟩

/-- The lines of `count` planes from `first` on, swapped. -/
def swapLinesFrom : (first count : Nat) → SliceState → SliceState
  | _, 0, state => state
  | first, count + 1, state =>
    swapLinesFrom (first + 1) count (state.modifyLine first LineState.swapLines)

theorem forLoop_swaps (first count : Nat) :
    (Mirror.forLoop first count fun planeIndex => modify (Encoding.swapLine planeIndex) :
      Call (Encoding BitWriter) Unit) = modify (Encoding.modifyState (swapLinesFrom first count)) := by
  induction count generalizing first with
  | zero => rfl
  | succ count ih =>
    rw [Mirror.forLoop_succ, ih]
    rfl

theorem swapLinesFrom_lines (first count : Nat) (state : SliceState) :
    ∃ lines, swapLinesFrom first count state = { state with lineStates := lines } ∧
      ∀ i, lines[i]? = state.lineStates[i]?.map fun line =>
        if first ≤ i ∧ i < first + count then line.swapLines else line := by
  induction count generalizing first state with
  | zero =>
    refine ⟨state.lineStates, rfl, fun i => ?_⟩
    have hnone : ¬(first ≤ i ∧ i < first) := by omega
    simp [hnone]
  | succ count ih =>
    obtain ⟨lines, heq, hlines⟩ := ih (first + 1) (state.modifyLine first LineState.swapLines)
    refine ⟨lines, heq, fun i => ?_⟩
    rw [hlines, SliceState.modifyLine, List.getElem?_modify]
    by_cases hfirst : first = i
    · subst hfirst
      cases state.lineStates[first]? <;> simp
    · have hiff : (first + 1 ≤ i ∧ i < first + 1 + count) ↔ (first ≤ i ∧ i < first + (count + 1)) := by
        omega
      simp only [hiff, if_neg hfirst]
      cases state.lineStates[i]? <;> rfl

theorem swapLinesFrom_all (state : SliceState) {planes : Nat} (h : state.planeCount = planes) :
    swapLinesFrom 0 planes state = state.swapAllLines := by
  obtain ⟨lines, heq, hlines⟩ := swapLinesFrom_lines 0 planes state
  have hall : lines = state.lineStates.map LineState.swapLines := by
    refine List.ext_getElem? fun i => ?_
    rw [hlines, List.getElem?_map]
    cases hget : state.lineStates[i]? with
    | none => rfl
    | some line =>
      have hlt : i < planes := h ▸ (List.getElem?_eq_some_iff.mp hget).1
      simp [hlt]
  rw [heq, hall]
  rfl

end Swaps

section Rows

variable {payload : Bytes} {stores : List RowStore} {stream : StreamParameters}
  {setup : GolombRiceSliceSetup} {inputs windows : List PlaneWindow} {width height : Nat → Nat}
  {planeIndex y : Nat} {memory : FrameMemory}

/-- The setup of the decoder gives every plane the model and the bank of the encoder. -/
def GolombRiceMatches (stream : StreamParameters) (setup : GolombRiceSliceSetup) : Prop :=
  ∀ planeIndex < stream.codedPlaneCount,
    setup.contextModels.getD planeIndex {} = stream.quantTableSets.getD 0 {} ∧
      setup.contextBankIndexes.getD planeIndex 0 = encoderGolombRiceBank stream planeIndex

theorem golombRiceLine_eq (hsetup : GolombRiceMatches stream setup)
    (houtput : WindowShape stream windows width height) (hplane : planeIndex < stream.codedPlaneCount)
    {widthPlane : Nat} (hwidth : widthPlane < stream.codedPlaneCount) (runStatePlane bits : Nat) :
    golombRiceLine setup windows planeIndex runStatePlane widthPlane y bits =
      encoderGolombRiceLine stream planeIndex runStatePlane (width widthPlane) y bits := by
  unfold golombRiceLine encoderGolombRiceLine
  rw [(hsetup planeIndex hplane).1, (hsetup planeIndex hplane).2, houtput.width widthPlane hwidth]

/-- Where a row begins. -/
def RowsReady (stream : StreamParameters) (width : Nat → Nat) (state : SliceState) : Prop :=
  state.LinesSized stream.codedPlaneCount width ∧ state.RunsSettled stream.codedPlaneCount

theorem lineHolds_congr {row row' : Nat → Int} {x : Nat} {state : SliceState}
    (h : state.LineHolds planeIndex row x) (hrow : ∀ i < x, row i = row' i) :
    state.LineHolds planeIndex row' x :=
  fun i hi => (h i hi).trans (hrow i hi)

theorem readPlaneRow_ok {rowWidth : Nat} {samples : List UInt16}
    (h : (List.range rowWidth).mapM (fun x =>
      readInputSample stream memory inputs planeIndex x y) = .ok samples) :
    samples = (List.range rowWidth).map (fun x => inputSample stream memory inputs planeIndex x y) ∧
      ∀ x < rowWidth,
        FitsDepth (inputRow stream memory inputs planeIndex y x) stream.bitsPerRawSample.toNat := by
  obtain ⟨hsamples, hfits⟩ := except_mapM_ok (φ := fun x =>
    FitsDepth (inputRow stream memory inputs planeIndex y x) stream.bitsPerRawSample.toNat)
    (fun x sample hread => by
      have hfits := readInputSample_fits (Nat.le_refl _) hread
      obtain ⟨rfl, -⟩ := readInputSample_ok_iff.mp hread
      exact ⟨rfl, hfits⟩) h
  exact ⟨hsamples, fun x hx => hfits x (List.mem_range.mpr hx)⟩

/-- The row of a planar slice. -/
theorem golombRicePlanarRow_mirrors (hdepth : isSupportedBitDepth stream.bitsPerRawSample = true)
    (hsetup : GolombRiceMatches stream setup) (houtput : WindowShape stream windows width height)
    (hplane : planeIndex < stream.codedPlaneCount) (hy : y < height planeIndex) :
    Mirror.Mirrors (encodingChannel (bitChannel payload)) False
      (InStep (Follows payload) (RowsReady stream width) stores)
      (do
        let samples ← MonadExcept.ofExcept ((List.range (width planeIndex)).mapM fun x =>
          readInputSample stream memory inputs planeIndex x y)
        encodeGolombRiceLine (encoderGolombRiceLine stream planeIndex planeIndex (width planeIndex) y
          stream.bitsPerRawSample.toNat) (samples.map fun sample => (sample.toNat : Int)))
      (do
        decodeGolombRiceRow setup windows planeIndex planeIndex planeIndex y
          stream.bitsPerRawSample.toNat
        storePlanarLine stream windows planeIndex y)
      (fun _ _ => InStep (Follows payload) (RowsReady stream width)
        (stores ++ [storedRow planeIndex y (width planeIndex)
          (inputRow stream memory inputs planeIndex y)])) := by
  have hbits := supported_depth hdepth
  refine Mirror.Mirrors.ofExcept_writer fun samples hsamples => ?_
  obtain ⟨rfl, hfits⟩ := readPlaneRow_ok hsamples
  unfold decodeGolombRiceRow
  rw [golombRiceLine_eq hsetup houtput hplane hplane]
  have hrow (x : Nat) (hx : x < width planeIndex) :
      (((List.range (width planeIndex)).map fun x =>
        inputSample stream memory inputs planeIndex x y).map
          fun sample => (sample.toNat : Int)).getD x 0 =
        inputRow stream memory inputs planeIndex y x := by
    simp [List.getD_eq_getElem?_getD, hx, inputRow]
  have hline : CodableLine (encoderGolombRiceLine stream planeIndex planeIndex (width planeIndex) y
      stream.bitsPerRawSample.toNat)
      (((List.range (width planeIndex)).map fun x =>
        inputSample stream memory inputs planeIndex x y).map fun sample => (sample.toNat : Int))
      stream.codedPlaneCount width (fun _ => True) :=
    ⟨hplane, hplane, rfl, ⟨hbits.1, by change stream.bitsPerRawSample.toNat ≤ 30; omega⟩,
      fun x hx => (hrow x hx).symm ▸ hfits x hx, fun _ _ _ h => h⟩
  unfold encodeGolombRiceLine
  refine Mirror.Mirrors.bind (Mirror.Mirrors.telling
    ((golombRiceLine_mirrors hline setup.payloadOffset).consequence id
      (fun _ _ hd => hd.imp fun _ hstate => ⟨hstate.1, hstate.2, trivial⟩) fun _ _ _ _ hq => hq) _)
    fun _ _ => ?_
  exact storePlanarLine_mirrors houtput hplane hy (inputRow stream memory inputs planeIndex y)
    (fun state hstate => ⟨hstate.sized, lineHolds_congr hstate.holds hrow⟩)
    fun state hstate => ⟨hstate.sized.swapLines, hstate.settled.modifyLine _ _⟩

theorem setPending_self {state : SliceState} {planes : Nat} (h : state.RunsSettled planes)
    (hplane : planeIndex < planes) :
    state.setGolombRiceRunState planeIndex
      { state.golombRiceRunState planeIndex with pendingCount := 0 } = state := by
  have heq : { state.golombRiceRunState planeIndex with pendingCount := 0 } =
      state.golombRiceRunState planeIndex := (h.runState_eq planeIndex).symm
  rw [heq, SliceState.setGolombRiceRunState_self (h.length ▸ hplane)]

theorem golombRicePlane_mirrors (hdepth : isSupportedBitDepth stream.bitsPerRawSample = true)
    (hsetup : GolombRiceMatches stream setup) (hinput : WindowShape stream inputs width height)
    (houtput : WindowShape stream windows width height)
    (hplane : planeIndex < stream.codedPlaneCount) (memory : FrameMemory) :
    Mirror.Mirrors (encodingChannel (bitChannel payload)) False
      (InStep (Follows payload) (RowsReady stream width) stores)
      (encodeGolombRicePlane stream memory inputs planeIndex)
      (decodeGolombRicePlane stream setup windows planeIndex)
      (fun _ _ => InStep (Follows payload) (RowsReady stream width)
        (stores ++ planeStores stream memory inputs width planeIndex (height planeIndex))) := by
  unfold encodeGolombRicePlane decodeGolombRicePlane
  simp only [hinput.width planeIndex hplane, hinput.height planeIndex hplane,
    houtput.height planeIndex hplane, planeStores_eq]
  refine (storing_mirrors (height planeIndex) fun y hy _ =>
    golombRicePlanarRow_mirrors hdepth hsetup houtput hplane hy).then_update_reader
    fun _ _ e d hd => ⟨hd.symbols, ?_, ?_, hd.stored⟩
  · simp only [Decoding.modifyState, setPending_self hd.inv.2 hplane, hd.same]
  · simp only [Decoding.modifyState, setPending_self hd.inv.2 hplane]
    exact hd.inv

theorem golombRicePlanes_mirrors (hdepth : isSupportedBitDepth stream.bitsPerRawSample = true)
    (hsetup : GolombRiceMatches stream setup) (hinput : WindowShape stream inputs width height)
    (houtput : WindowShape stream windows width height) (memory : FrameMemory) :
    Mirror.Mirrors (encodingChannel (bitChannel payload)) False
      (InStep (Follows payload) (RowsReady stream width) stores)
      (Mirror.forLoop 0 stream.codedPlaneCount (encodeGolombRicePlane stream memory inputs))
      (Mirror.forLoop 0 windows.length (decodeGolombRicePlane stream setup windows))
      (fun _ _ => InStep (Follows payload) (RowsReady stream width)
        (stores ++ planarStores stream memory inputs width height stream.codedPlaneCount)) := by
  rw [houtput.planes]
  exact storing_mirrors stream.codedPlaneCount fun planeIndex hplane _ =>
    golombRicePlane_mirrors hdepth hsetup hinput houtput hplane memory

/-- A column with its sample of the extra plane. -/
def inputRgba (stream : StreamParameters) (memory : FrameMemory) (windows : List PlaneWindow)
    (y x : Nat) : RgbSample × UInt16 :=
  (inputRgb stream memory windows y x,
    if stream.extraPlane then inputSample stream memory windows 3 x y else 0)

theorem readRgbaSample_ok {x : Nat} {sample : RgbSample × UInt16}
    (h : readRgbaSample stream memory inputs y x = .ok sample) :
    sample = inputRgba stream memory inputs y x ∧
      (∀ planeIndex < 3, (inputSample stream memory inputs planeIndex x y).toNat <
        2 ^ stream.bitsPerRawSample.toNat) ∧
      (stream.extraPlane = true →
        (inputSample stream memory inputs 3 x y).toNat < 2 ^ stream.bitsPerRawSample.toNat) := by
  simp only [readRgbaSample, except_bind_ok] at h
  obtain ⟨colour, hcolour, hrest⟩ := h
  obtain ⟨rfl, hfits⟩ := readRgbSample_ok hcolour
  unfold inputRgba
  cases hextra : stream.extraPlane with
  | true =>
    simp only [hextra, if_true, except_bind_ok] at hrest
    obtain ⟨alpha, halpha, hsample⟩ := hrest
    obtain rfl := Except.ok.inj hsample
    obtain ⟨rfl, hle⟩ := readInputSample_ok_iff.mp halpha
    exact ⟨rfl, hfits, fun _ => Nat.lt_of_le_of_lt hle (maximumSample_lt stream)⟩
  | false =>
    simp only [hextra, Bool.false_eq_true, if_false] at hrest
    obtain rfl := Except.ok.inj hrest
    exact ⟨rfl, hfits, fun h => by cases h⟩

theorem readRgbaRow_ok {rowWidth : Nat} {samples : List (RgbSample × UInt16)}
    (h : (List.range rowWidth).mapM (readRgbaSample stream memory inputs y) = .ok samples) :
    samples = (List.range rowWidth).map (inputRgba stream memory inputs y) ∧
      RgbRowFits stream memory inputs y rowWidth ∧ AlphaFits stream memory inputs y rowWidth := by
  obtain ⟨hsamples, hfits⟩ := except_mapM_ok (fun _ _ => readRgbaSample_ok) h
  exact ⟨hsamples, fun x hx => (hfits x (List.mem_range.mpr hx)).1,
    fun hextra x hx => (hfits x (List.mem_range.mpr hx)).2 hextra⟩

/-- The fourth plane of RGB is the extra one. -/
theorem extraPlane_of_three (hchroma : stream.chromaPlanes = true)
    (hplane : planeIndex < stream.codedPlaneCount) (h : ¬planeIndex < 3) :
    stream.extraPlane = true ∧ planeIndex = 3 := by
  unfold StreamParameters.codedPlaneCount at hplane
  cases hextra : stream.extraPlane with
  | false =>
    simp [hchroma, hextra] at hplane
    omega
  | true =>
    simp [hchroma, hextra] at hplane
    exact ⟨rfl, by omega⟩

theorem rgbRow_getD (hchroma : stream.chromaPlanes = true)
    (hplane : planeIndex < stream.codedPlaneCount) {rowWidth x : Nat} (hx : x < rowWidth) :
    (rgbRow stream ((List.range rowWidth).map (inputRgba stream memory inputs y)) planeIndex).getD
      x 0 = rgbRowValue stream memory inputs y planeIndex x := by
  unfold rgbRow rgbRowValue
  by_cases hcolour : planeIndex < 3
  · simp only [if_pos hcolour]
    have hcolours : ((List.range rowWidth).map (inputRgba stream memory inputs y)).map Prod.fst =
        (List.range rowWidth).map (inputRgb stream memory inputs y) := by
      rw [List.map_map]
      rfl
    have hzero : RgbCode.component {} planeIndex = 0 := by
      match planeIndex with
      | 0 | 1 | _ + 2 => rfl
    have hmap := List.getD_map (n := x) (d := ({} : RgbCode))
      (l := transformRow stream ((List.range rowWidth).map (inputRgb stream memory inputs y)))
      (RgbCode.component · planeIndex)
    rw [hzero, transformRow_getD _ hx] at hmap
    rw [hcolours]
    exact hmap
  · simp only [if_neg hcolour]
    obtain ⟨hextra, rfl⟩ := extraPlane_of_three hchroma hplane hcolour
    simp [List.getD_eq_getElem?_getD, hx, inputRgba, inputRow, hextra]

theorem rgbRowValue_fits (hdepth : isSupportedBitDepth stream.bitsPerRawSample = true)
    (hchroma : stream.chromaPlanes = true) (hplane : planeIndex < stream.codedPlaneCount)
    {rowWidth : Nat} (hfits : RgbRowFits stream memory inputs y rowWidth)
    (halpha : AlphaFits stream memory inputs y rowWidth) {x : Nat} (hx : x < rowWidth) :
    FitsDepth (rgbRowValue stream memory inputs y planeIndex x)
      (stream.bitsPerRawSample.toNat + 1) := by
  have hbits := supported_depth hdepth
  unfold rgbRowValue
  by_cases hcolour : planeIndex < 3
  · rw [if_pos hcolour]
    exact component_fits (forwardJpeg2000Rct_fits (by omega) (hfits x hx 0 (by decide))
      (hfits x hx 1 (by decide)) (hfits x hx 2 (by decide)) _) planeIndex
  · rw [if_neg hcolour]
    obtain ⟨hextra, rfl⟩ := extraPlane_of_three hchroma hplane hcolour
    have hlt := Nat.lt_trans (halpha hextra x hx)
      (Nat.pow_lt_pow_right (by decide) (Nat.lt_succ_self stream.bitsPerRawSample.toNat))
    unfold inputRow
    exact ⟨Int.natCast_nonneg _, by exact_mod_cast hlt⟩

/-- All planes of a row, before any line is swapped. -/
theorem golombRiceRgbLines_mirrors (hdepth : isSupportedBitDepth stream.bitsPerRawSample = true)
    (hchroma : stream.chromaPlanes = true) (hsetup : GolombRiceMatches stream setup)
    (houtput : WindowShape stream windows width height)
    (hwidth : ∀ planeIndex < stream.codedPlaneCount, width planeIndex = width 0)
    (hfits : RgbRowFits stream memory inputs y (width 0))
    (halpha : AlphaFits stream memory inputs y (width 0)) :
    Mirror.Mirrors (encodingChannel (bitChannel payload)) False
      (InStep (Follows payload) (RowsReady stream width) stores)
      (Mirror.forLoop 0 stream.codedPlaneCount fun planeIndex =>
        encodeGolombRiceRounds
          (encoderGolombRiceLine stream planeIndex 0 (width 0) y (stream.bitsPerRawSample.toNat + 1))
          (rgbRow stream ((List.range (width 0)).map (inputRgba stream memory inputs y)) planeIndex)
          (width 0) 0)
      (Mirror.forLoop 0 windows.length fun planeIndex =>
        decodeGolombRiceRow setup windows planeIndex 0 0 y (stream.bitsPerRawSample.toNat + 1))
      (fun _ _ => InStep (Follows payload) (fun state => RowsReady stream width state ∧
        ∀ planeIndex < stream.codedPlaneCount, state.LineHolds planeIndex
          (rgbRowValue stream memory inputs y planeIndex) (width planeIndex)) stores) := by
  have hbits := supported_depth hdepth
  have hloop : Mirror.Mirrors (encodingChannel (bitChannel payload)) False _
      (Mirror.forLoop 0 stream.codedPlaneCount fun planeIndex => encodeGolombRiceRounds
        (encoderGolombRiceLine stream planeIndex 0 (width 0) y (stream.bitsPerRawSample.toNat + 1))
        (rgbRow stream ((List.range (width 0)).map (inputRgba stream memory inputs y)) planeIndex)
        (width 0) 0)
      (Mirror.forLoop 0 stream.codedPlaneCount fun planeIndex =>
        decodeGolombRiceRow setup windows planeIndex 0 0 y (stream.bitsPerRawSample.toNat + 1)) _ :=
    Mirror.Mirrors.forLoop (I := fun planes => InStep (Follows payload)
      (fun state => RowsReady stream width state ∧
        ∀ planeIndex < planes, state.LineHolds planeIndex
          (rgbRowValue stream memory inputs y planeIndex) (width planeIndex)) stores)
    0 stream.codedPlaneCount fun planeIndex _ hplane => by
      rw [Nat.zero_add] at hplane
      unfold decodeGolombRiceRow
      rw [golombRiceLine_eq hsetup houtput hplane (by omega)]
      have hrow (x : Nat) (hx : x < width 0) :
          (rgbRow stream ((List.range (width 0)).map (inputRgba stream memory inputs y))
            planeIndex).getD x 0 = rgbRowValue stream memory inputs y planeIndex x :=
        rgbRow_getD hchroma hplane hx
      have hline : CodableLine
          (encoderGolombRiceLine stream planeIndex 0 (width 0) y (stream.bitsPerRawSample.toNat + 1))
          (rgbRow stream ((List.range (width 0)).map (inputRgba stream memory inputs y)) planeIndex)
          stream.codedPlaneCount width (fun state => ∀ other < planeIndex, state.LineHolds other
            (rgbRowValue stream memory inputs y other) (width other)) := by
        refine ⟨hplane, Nat.zero_lt_of_lt hplane, (hwidth planeIndex hplane).symm,
          ⟨Nat.succ_pos _, by change stream.bitsPerRawSample.toNat + 1 ≤ 30; omega⟩,
          fun x hx => ?_, fun state state' hlines hK other hother i hi => ?_⟩
        · rw [hrow x hx]
          exact rgbRowValue_fits hdepth hchroma hplane hfits halpha hx
        · rw [hlines other (Nat.ne_of_lt hother)]
          exact hK other hother i hi
      refine (Mirror.Mirrors.telling (golombRiceLine_mirrors hline setup.payloadOffset) _).consequence id
        (fun _ _ hd => hd.imp fun _ hstate => ⟨hstate.1.1, hstate.1.2, hstate.2⟩)
        fun _ _ _ _ hq => hq.imp fun state hstate => ⟨⟨hstate.sized, hstate.settled⟩,
          fun other hother => ?_⟩
      rcases Nat.lt_succ_iff_lt_or_eq.mp hother with hlt | rfl
      · exact hstate.kept other hlt
      · rw [hwidth other hplane]
        exact lineHolds_congr hstate.holds hrow
  rw [Nat.zero_add] at hloop
  rw [houtput.planes]
  refine hloop.consequence id (fun _ _ hd => hd.imp fun state hstate => ?_) fun _ _ _ _ hq => hq
  exact ⟨hstate, fun planeIndex hlt => absurd hlt (Nat.not_lt_zero _)⟩

theorem golombRiceRgbRow_mirrors (hdepth : isSupportedBitDepth stream.bitsPerRawSample = true)
    (hchroma : stream.chromaPlanes = true) (hsetup : GolombRiceMatches stream setup)
    (houtput : WindowShape stream windows width height)
    (hwidth : ∀ planeIndex < stream.codedPlaneCount, width planeIndex = width 0)
    (hheight : ∀ planeIndex < stream.codedPlaneCount, y < height planeIndex)
    (memory : FrameMemory) :
    Mirror.Mirrors (encodingChannel (bitChannel payload)) False
      (InStep (Follows payload) (RowsReady stream width) stores)
      (do
        let samples ← MonadExcept.ofExcept
          ((List.range (width 0)).mapM (readRgbaSample stream memory inputs y))
        Mirror.forLoop 0 stream.codedPlaneCount fun planeIndex =>
          encodeGolombRiceLine
            (encoderGolombRiceLine stream planeIndex 0 (width 0) y (stream.bitsPerRawSample.toNat + 1))
            (rgbRow stream samples planeIndex))
      (do
        Mirror.forLoop 0 windows.length fun planeIndex =>
          decodeGolombRiceRow setup windows planeIndex 0 0 y (stream.bitsPerRawSample.toNat + 1)
        storeRgbLine stream windows y)
      (fun _ _ => InStep (Follows payload) (RowsReady stream width)
        (stores ++ rgbRowStoresOf stream memory inputs (width 0) y)) := by
  refine Mirror.Mirrors.ofExcept_writer fun samples hsamples => ?_
  obtain ⟨rfl, hfits, halpha⟩ := readRgbaRow_ok hsamples
  refine Mirror.Mirrors.of_success (fun e u e' hrun => @forLoop_swaps_last
    (fun planeIndex => encodeGolombRiceRounds
      (encoderGolombRiceLine stream planeIndex 0 (width 0) y (stream.bitsPerRawSample.toNat + 1))
      (rgbRow stream ((List.range (width 0)).map (inputRgba stream memory inputs y)) planeIndex)
      (width 0) 0) (fun planeIndex other hne => rounds_apart hne _ _) _ _ _ _ _ hrun) ?_
  rw [forLoop_swaps]
  refine Mirror.Mirrors.bind (golombRiceRgbLines_mirrors hdepth hchroma hsetup houtput hwidth hfits
    halpha) fun _ _ => ?_
  exact storeRgbLine_mirrors hdepth hchroma houtput hwidth hheight hfits
    (fun state hstate => ⟨hstate.1.1, halpha, hstate.2⟩)
    (fun state hstate => ⟨hstate.1.1.swapAllLines, hstate.1.2.length, hstate.1.2.pending⟩)
    fun state hstate => swapLinesFrom_all state hstate.1.1.planes

theorem clearPendingRuns_self {state : SliceState} {planes : Nat} (h : state.RunsSettled planes) :
    state.clearPendingRuns = state := by
  have hruns : state.golombRiceRunStates.map (fun runState =>
      { runState with pendingCount := 0 }) = state.golombRiceRunStates := by
    refine List.ext_getElem (List.length_map _) fun i hi hi' => ?_
    have heq := h.runState_eq i
    rw [SliceState.golombRiceRunState, List.getD_eq_getElem _ _ hi'] at heq
    rw [List.getElem_map, ← heq]
  exact congrArg (fun runStates => { state with golombRiceRunStates := runStates }) hruns

theorem golombRiceRgbRows_mirrors (hdepth : isSupportedBitDepth stream.bitsPerRawSample = true)
    (hchroma : stream.chromaPlanes = true) (hsetup : GolombRiceMatches stream setup)
    (hinput : WindowShape stream inputs width height)
    (houtput : WindowShape stream windows width height)
    (hwidth : ∀ planeIndex < stream.codedPlaneCount, width planeIndex = width 0)
    (hheight : ∀ planeIndex < stream.codedPlaneCount, height planeIndex = height 0)
    (memory : FrameMemory) :
    Mirror.Mirrors (encodingChannel (bitChannel payload)) False
      (InStep (Follows payload) (RowsReady stream width) stores)
      (encodeGolombRiceRgbRows stream memory inputs) (decodeGolombRiceRgbRows stream setup windows)
      (fun _ _ => InStep (Follows payload) (RowsReady stream width)
        (stores ++ rgbStores stream memory inputs (width 0) (height 0))) := by
  have hthree : 3 ≤ stream.codedPlaneCount := by simp [StreamParameters.codedPlaneCount, hchroma]
  unfold encodeGolombRiceRgbRows decodeGolombRiceRgbRows rgbStores
  simp only [hinput.width 0 (by omega), hinput.height 0 (by omega), houtput.height 0 (by omega)]
  refine (storing_mirrors (height 0) fun y hy _ =>
    golombRiceRgbRow_mirrors hdepth hchroma hsetup houtput hwidth
      (fun planeIndex hplane => by rwa [hheight planeIndex hplane]) memory).then_update_reader
    fun _ _ e d hd => ⟨hd.symbols, ?_, ?_, hd.stored⟩
  · simp only [Decoding.modifyState, clearPendingRuns_self hd.inv.2, hd.same]
  · simp only [Decoding.modifyState, clearPendingRuns_self hd.inv.2]
    exact hd.inv

end Rows

section Slices

variable {payload : Bytes} {stores : List RowStore} {stream : StreamParameters}
  {setup : GolombRiceSliceSetup} {inputs outputs : List PlaneWindow} {width height : Nat → Nat}

/-- The loops over a slice. -/
theorem golombRiceLoops_mirrors (hstream : SliceEncoder.validateStream stream = .ok ())
    (hsetup : GolombRiceMatches stream setup) (hinput : WindowShape stream inputs width height)
    (houtput : WindowShape stream outputs width height)
    (hrgb : stream.colorspaceType = 1 → ∀ planeIndex < stream.codedPlaneCount,
      width planeIndex = width 0 ∧ height planeIndex = height 0) (memory : FrameMemory) :
    Mirror.Mirrors (encodingChannel (bitChannel payload)) False
      (InStep (Follows payload) (RowsReady stream width) stores)
      (if stream.colorspaceType = 1 then encodeGolombRiceRgbRows stream memory inputs
        else Mirror.forLoop 0 stream.codedPlaneCount (encodeGolombRicePlane stream memory inputs))
      (if stream.colorspaceType = 1 then decodeGolombRiceRgbRows stream setup outputs
        else Mirror.forLoop 0 outputs.length (decodeGolombRicePlane stream setup outputs))
      (fun _ _ => InStep (Follows payload) (RowsReady stream width)
        (stores ++ sliceStores stream memory inputs width height)) := by
  obtain ⟨hdepth, hchroma, -⟩ := validateStream_ok hstream
  unfold sliceStores
  by_cases hcolor : stream.colorspaceType = 1
  · simp only [if_pos hcolor]
    exact golombRiceRgbRows_mirrors hdepth (hchroma hcolor) hsetup hinput houtput
      (fun planeIndex hplane => (hrgb hcolor planeIndex hplane).1)
      (fun planeIndex hplane => (hrgb hcolor planeIndex hplane).2) memory
  · simp only [if_neg hcolor]
    exact golombRicePlanes_mirrors hdepth hsetup hinput houtput memory

theorem golombRiceSetup_matches {slice : SliceDescriptor}
    (hsets : stream.quantTableSets.length = 1) (hversion : stream.version = 3)
    (hplaced : Placed stream slice) (hplanes : outputs.length = stream.codedPlaneCount)
    (allowReadAheadTrailingBytes : Bool) :
    GolombRiceMatches stream (SliceDecoder.golombRiceSetup stream slice outputs.length
      allowReadAheadTrailingBytes) := by
  intro planeIndex hplane
  rw [hplanes]
  constructor
  · exact contextModels_getD hsets hplaced hplane
  · simp [SliceDecoder.golombRiceSetup, SliceDecoder.golombRiceContextBankIndexes,
      encoderGolombRiceBank, List.getD_eq_getElem?_getD, hplane, hversion]

theorem golombRiceBankCounts_eq {slice : SliceDescriptor}
    (hsets : stream.quantTableSets.length = 1) (hversion : stream.version = 3)
    (hplaced : Placed stream slice) :
    SliceDecoder.golombRiceContextBankCounts stream slice =
      List.replicate (encoderGolombRiceBankCount stream)
        (stream.quantTableSets.getD 0 {}).contextCount.toNat := by
  unfold SliceDecoder.golombRiceContextBankCounts SliceDecoder.slotTableSetIndexes
    encoderGolombRiceBankCount
  rw [if_pos (by omega), if_pos (by omega), List.map_map]
  refine List.eq_replicate_iff.mpr ⟨by simp, fun count hcount => ?_⟩
  obtain ⟨slot, -, rfl⟩ := List.mem_map.mp hcount
  simp only [Function.comp_apply, tableSetIndex_zero hsets hplaced]
  rfl

/-- Preparing keeps the lines and leaves one run state a plane. -/
theorem prepareGolombRice_ok {counts : List Nat} {planes : Nat} {state prepared : SliceState}
    (h : state.prepareGolombRice counts planes = .ok prepared) :
    prepared.lineStates = state.lineStates ∧ prepared.golombRiceRunStates.length = planes := by
  simp only [SliceState.prepareGolombRice, except_bind_ok, exists_unit, failIf_ok_iff] at h
  obtain ⟨-, -, h⟩ := h
  split at h
  · obtain rfl := Except.ok.inj h
    exact ⟨rfl, List.length_replicate⟩
  · simp only [except_bind_ok, exists_unit, failIf_ok_iff, not_or, not_not] at h
    obtain ⟨⟨-, hlength⟩, -, h⟩ := h
    obtain rfl := Except.ok.inj h
    exact ⟨rfl, hlength⟩

theorem resetRunStates_settled {state : SliceState} {planes : Nat}
    (h : state.golombRiceRunStates.length = planes) : state.resetRunStates.RunsSettled planes := by
  constructor
  · exact (List.length_map _).trans h
  · intro planeIndex
    unfold SliceState.golombRiceRunState SliceState.resetRunStates
    rw [List.getD_eq_getElem?_getD, List.getElem?_map]
    cases state.golombRiceRunStates[planeIndex]? <;> rfl

/-- Behind the samples there are only the bits that align the last byte. -/
theorem checkGolombRiceEnd_aligned {bytes : Bytes} {position : Nat}
    (hle : position ≤ 8 * bytes.length) (hlt : 8 * bytes.length < position + 8) (stateSuffix : String) :
    checkGolombRiceEnd stream setup stateSuffix { data := bytes, bitPosition := position } =
      .ok () { data := bytes, bitPosition := 8 * bytes.length } := by
  have halign : withReaderOffset BitReader.bytePosition setup.payloadOffset BitReader.byteAlign
      { data := bytes, bitPosition := position } =
        .ok () { data := bytes, bitPosition := 8 * bytes.length } := by
    unfold withReaderOffset BitReader.byteAlign
    by_cases haligned : position % 8 = 0
    · have hend : position = 8 * bytes.length := by omega
      simp [hend]
    · have hend : position + (8 - position % 8) = 8 * bytes.length := by omega
      simp [hend, haligned]
  unfold checkGolombRiceEnd
  rw [Mirror.bind_ok halign, Mirror.get_bind, failIf_of_not (by simp [BitReader.remainingBits])]
  rfl

/-- Skipping nothing leaves the reader where it is. -/
theorem skipBits_zero {bitCount : Nat} (h : bitCount = 0) (decoding : Decoding BitReader)
    (payloadOffset : Nat) :
    onBits payloadOffset (BitReader.skipBits bitCount) decoding = .ok () decoding := by
  subst h
  have hskip : BitReader.skipBits 0 decoding.reader = .ok () decoding.reader := by
    unfold BitReader.skipBits
    rw [Mirror.get_bind, failIf_of_not (Nat.not_lt_zero _)]
    rfl
  unfold onBits onReader withReaderOffset
  rw [hskip]

end Slices

/-- The loops of the decoder follow those of the encoder into windows of the same size, and
the content ends with them. -/
theorem golombRiceContent_read {stream : StreamParameters} {slice : SliceDescriptor}
    {memory : FrameMemory} {inputs outputs : List PlaneWindow} {state after : SliceState}
    {bytes : Bytes} {encoding : Encoding BitWriter}
    (hstream : SliceEncoder.validateStream stream = .ok ()) (hversion : stream.version = 3)
    (hplaced : Placed stream slice) (hbit : slice.contentBitOffset = 0)
    (hinput : WindowShape stream inputs (sliceWidth stream slice) (sliceHeight stream slice))
    (houtput : WindowShape stream outputs (sliceWidth stream slice) (sliceHeight stream slice))
    (hsized : state.LinesSized stream.codedPlaneCount (sliceWidth stream slice))
    (hencode : SliceEncoder.encodeGolombRiceContent stream memory inputs { writer := {}, state } =
      .ok (after, bytes) encoding)
    (allowReadAheadTrailingBytes : Bool) :
    let setup := SliceDecoder.golombRiceSetup stream slice outputs.length allowReadAheadTrailingBytes
    ∃ prepared decoding, RowsReady stream (sliceWidth stream slice) prepared ∧
      (if stream.colorspaceType = 1 then decodeGolombRiceRgbRows stream setup outputs
        else Mirror.forLoop 0 outputs.length (decodeGolombRicePlane stream setup outputs))
        { reader := { data := bytes }, state := prepared } = .ok () decoding ∧
      decodeGolombRiceSlice stream setup outputs { reader := { data := bytes }, state } = .ok () {
        reader := { data := bytes, bitPosition := 8 * bytes.length }
        state := after
        stores := sliceStores stream memory inputs (sliceWidth stream slice)
          (sliceHeight stream slice) } := by
  have hsets := (validateStream_ok hstream).2.2
  have hrgb (hcolor : stream.colorspaceType = 1) (planeIndex : Nat)
      (_ : planeIndex < stream.codedPlaneCount) := sliceSize_rgb hcolor hplaced planeIndex
  -- the run of the encoder, taken apart
  simp only [SliceEncoder.encodeGolombRiceContent, encodeGolombRiceSamples, Mirror.get_bind,
    Mirror.bind_ok_iff, Mirror.ofExcept_ok_iff, Mirror.set_apply, onWriter_ok_iff, exists_unit,
    Mirror.pure_apply, EStateM.Result.ok.injEq, Prod.mk.injEq] at hencode
  obtain ⟨coded, ⟨prepared, _, ⟨hprepare, rfl⟩, _, ⟨-, rfl⟩, hloops⟩, _, ⟨aligned, halign, rfl⟩, payload, _,
    ⟨final, hfinal, rfl⟩, ⟨rfl, rfl⟩, -⟩ := hencode
  obtain ⟨hlines, hruns⟩ := prepareGolombRice_ok hprepare
  have hpreparedSized : prepared.resetRunStates.LinesSized stream.codedPlaneCount
      (sliceWidth stream slice) :=
    ⟨(congrArg List.length hlines).trans hsized.planes, fun planeIndex hplane => by
      have hline := hsized.sized planeIndex hplane
      unfold SliceState.lineState at hline
      rwa [← hlines] at hline⟩
  have hready : RowsReady stream (sliceWidth stream slice) prepared.resetRunStates :=
    ⟨hpreparedSized, resetRunStates_settled hruns⟩
  -- the loops in step
  have hmirror : Mirror.Mirrors (encodingChannel (bitChannel payload)) _
      (InStep (Follows payload) _ []) _ _ _ := golombRiceLoops_mirrors hstream
    (golombRiceSetup_matches hsets hversion hplaced houtput.planes allowReadAheadTrailingBytes)
    hinput houtput hrgb memory
  obtain ⟨⟨content, hcontent⟩, hread⟩ := hmirror _ () coded ⟨[], BitWriter.holds_empty⟩ hloops
  obtain ⟨padding, hshort, hpadded, hdvd⟩ := BitWriter.byteAlignZero_ok hcontent halign
  have hbits := BitWriter.finalize_ok hpadded hfinal
  obtain ⟨-, hdecode⟩ := hread ⟨content, hcontent, hbits ▸ List.prefix_append content padding⟩
  obtain ⟨_, decoding, hrun, hend⟩ := (hdecode
    { reader := { data := payload }, state := prepared.resetRunStates }
    ⟨⟨rfl, rfl⟩, rfl, hready, rfl⟩).result
  refine ⟨prepared.resetRunStates, decoding, hready, hrun, ?_⟩
  have hlength := congrArg List.length hbits
  rw [BitString.bits_length, List.length_append] at hlength
  have hbanks : (SliceDecoder.golombRiceSetup stream slice outputs.length
      allowReadAheadTrailingBytes).contextBankCounts =
      List.replicate (encoderGolombRiceBankCount stream)
        (stream.quantTableSets.getD 0 {}).contextCount.toNat :=
    golombRiceBankCounts_eq hsets hversion hplaced
  have hposition : decoding.reader.bitPosition = content.length :=
    hend.symbols.position.trans hcontent.position
  have hchecked (stateSuffix : String) : onReader (checkGolombRiceEnd stream
      (SliceDecoder.golombRiceSetup stream slice outputs.length allowReadAheadTrailingBytes)
      stateSuffix) decoding = .ok ()
        { reader := { data := payload, bitPosition := 8 * payload.length }, state := coded.state,
          stores := sliceStores stream memory inputs (sliceWidth stream slice)
            (sliceHeight stream slice) } := by
    have hreader : decoding.reader = { data := payload, bitPosition := content.length } := by
      rw [← hposition, ← hend.symbols.data]
    unfold onReader
    rw [hreader, checkGolombRiceEnd_aligned (by omega) (by omega), hend.same, hend.stored,
      List.nil_append]
  unfold decodeGolombRiceSlice
  rw [failIf_of_not (by simp [SliceDecoder.golombRiceSetup, SliceDecoder.contextModels,
    SliceDecoder.golombRiceContextBankIndexes]), pure_bind, Mirror.get_bind]
  refine Mirror.bind_ok_iff.mpr ⟨prepared, _, Mirror.ofExcept_ok_iff.mpr ⟨?_, rfl⟩, ?_⟩
  · rw [hbanks, houtput.planes]
    exact hprepare
  · rw [Mirror.set_bind]
    refine Mirror.bind_ok_iff.mpr ⟨(), _, skipBits_zero hbit _ _, ?_⟩
    rw [Mirror.get_bind]
    refine Mirror.bind_ok_iff.mpr ⟨(), decoding, hrun, ?_⟩
    rw [Mirror.get_bind]
    exact hchecked _

/-- What the encoder writes of the samples of a slice is read back to the last bit, and
both sides end in one slice state: the samples are all in the output where its planes do not
share bytes. -/
theorem golomb_rice_samples_roundtrip {stream : StreamParameters} {header : SliceHeaderValues}
    {initial slice : SliceDescriptor} {input output : FrameView} {inputs outputs : List PlaneWindow}
    {before state after : SliceState} {bytes : Bytes} {encoding : Encoding BitWriter}
    (memory : FrameMemory) (allowReadAheadTrailingBytes : Bool)
    (hstream : SliceEncoder.validateStream stream = .ok ()) (hversion : stream.version = 3)
    (hslice : SliceHeaderParser.applyRaster stream header initial = .ok slice)
    (hbit : slice.contentBitOffset = 0)
    (hinput : SliceInputWindow.validate stream input slice = .ok inputs)
    (hframe : FrameValidator.validateOutput stream output = .ok ())
    (houtput : SliceOutputWindow.validate stream output slice = .ok outputs)
    (hreset : before.reset stream inputs = .ok state)
    (hencode : SliceEncoder.encodeGolombRiceContent stream memory inputs { writer := {}, state } =
      .ok (after, bytes) encoding) :
    ∃ stores,
      before.reset stream outputs = .ok state ∧
      decodeGolombRiceSlice stream (SliceDecoder.golombRiceSetup stream slice outputs.length
        allowReadAheadTrailingBytes) outputs { reader := { data := bytes }, state } =
        .ok () { reader := { data := bytes, bitPosition := 8 * bytes.length }, state := after, stores } ∧
      (∀ planeIndex y, planeIndex < stream.codedPlaneCount →
        y < (planeWindow inputs planeIndex).height.toNat →
        StoresRow memory inputs stores planeIndex y) ∧
      (WindowsApart outputs → ∀ frame planeIndex x y, planeIndex < stream.codedPlaneCount →
        x < (planeWindow inputs planeIndex).width.toNat →
        y < (planeWindow inputs planeIndex).height.toNat →
        (applyStores outputs stores frame).sampleAt (planeWindow outputs planeIndex) x y =
          memory.sampleAt (planeWindow inputs planeIndex) x y) := by
  have hplaced := applyRaster_placed hslice
  have hin := inputShape hplaced hinput
  have hout := outputShape (FrameValidator.validateOutput_format hframe) houtput
  have hrgb (hcolor : stream.colorspaceType = 1) (planeIndex : Nat)
      (_ : planeIndex < stream.codedPlaneCount) := sliceSize_rgb hcolor hplaced planeIndex
  obtain ⟨_, _, -, -, hdecode⟩ := golombRiceContent_read hstream hversion hplaced hbit hin hout
    (reset_sized hin hreset) hencode allowReadAheadTrailingBytes
  refine ⟨sliceStores stream memory inputs (sliceWidth stream slice) (sliceHeight stream slice),
    ?_, hdecode, ?_, ?_⟩
  · rw [← hreset, reset_eq (widths_eq hin hout)]
  · intro planeIndex y hplane hy
    rw [hin.height planeIndex hplane] at hy
    exact sliceStores_row hin hrgb hplane hy
  · intro hplanes frame planeIndex x y hplane hx hy
    rw [hin.width planeIndex hplane] at hx
    rw [hin.height planeIndex hplane] at hy
    exact sampleAt_sliceStores hin hout hrgb hplanes hplane
      (SliceOutputWindow.validate_addresses houtput hplane).rowsSeparate hx hy frame

/-- Two rows of an RGB frame, the second like the first. -/
def twoRowStream : StreamParameters :=
  { width := 2, height := 2, colorspaceType := 1, entropyMode := .golombRice,
    quantTableSets := [makeZeroQuantTableSet] }

def twoRowSlice : SliceDescriptor :=
  { width := 2, height := 2, rasterWidth := 1, rasterHeight := 1, quantTableSetIndexes := [0] }

def twoRowFrame : FrameView where
  planes := some ([.r, .g, .b].mapIdx fun buffer role =>
    { hasData := true, buffer, info := { role, width := 2, height := 2, strideBytes := 2 } })
  planeCount := 3

def twoRowMemory : FrameMemory := fun buffer address =>
  (90 * buffer + 7 * (address.toNat % 2)).toUInt8

def twoRowWindows : List PlaneWindow :=
  (List.range 3).map fun buffer => { buffer, strideBytes := 2, width := 2, height := 2 }

def twoRowState : SliceState := { lineStates := List.replicate 3 (LineState.bordered 2 0) }

def twoRowContent : EStateM.Result Error (Encoding BitWriter) (SliceState × Bytes) :=
  SliceEncoder.encodeGolombRiceContent twoRowStream twoRowMemory twoRowWindows
    { writer := {}, state := twoRowState }

theorem golomb_rice_samples_roundtrip_two_rows :
    ∃ after bytes encoding stores, twoRowContent = .ok (after, bytes) encoding ∧
      decodeGolombRiceSlice twoRowStream
        (SliceDecoder.golombRiceSetup twoRowStream twoRowSlice 3 false) twoRowWindows
        { reader := { data := bytes }, state := twoRowState } =
        .ok () { reader := { data := bytes, bitPosition := 8 * bytes.length }, state := after, stores } ∧
      ∀ frame planeIndex x y, planeIndex < 3 →
        x < (planeWindow twoRowWindows planeIndex).width.toNat →
        y < (planeWindow twoRowWindows planeIndex).height.toNat →
        (applyStores twoRowWindows stores frame).sampleAt (planeWindow twoRowWindows planeIndex) x y =
          twoRowMemory.sampleAt (planeWindow twoRowWindows planeIndex) x y := by
  have hsucceeded : Mirror.succeeded twoRowContent = true := by decide +kernel
  obtain ⟨⟨after, bytes⟩, encoding, hencode⟩ := Mirror.exists_ok_of_succeeded hsucceeded
  obtain ⟨stores, -, hdecode, -, hsamples⟩ := @golomb_rice_samples_roundtrip twoRowStream
    { width := 1, height := 1, quantTableSetIndexes := [0] } {} twoRowSlice twoRowFrame twoRowFrame
    twoRowWindows twoRowWindows {} twoRowState after bytes encoding twoRowMemory false (by decide)
    rfl (by decide) rfl (by decide) (by decide) (by decide) (by decide) hencode
  exact ⟨after, bytes, encoding, stores, hencode, hdecode,
    hsamples (WindowsApart.of_buffers (by decide))⟩

end Mffv1
