import Mffv1.RgbRoundTrip
import Mffv1.SliceDecoder
import Mffv1.SliceEncoder
import Mffv1.SliceShape

/-!
# Range content is read back

The sample loops of the encoder and of the decoder ask for the same symbols in the
same order, and the rows that the decoder stores are the rows of the input.
-/
namespace Mffv1

section Stores

variable {stream : StreamParameters} {memory : FrameMemory} {inputs outputs : List PlaneWindow}
  {width height : Nat → Nat} {planeIndex x y : Nat}

/-- The rows of a slice, in the order in which they are stored. -/
def sliceStores (stream : StreamParameters) (memory : FrameMemory) (inputs : List PlaneWindow)
    (width height : Nat → Nat) : List RowStore :=
  if stream.colorspaceType = 1 then rgbStores stream memory inputs (width 0) (height 0)
  else planarStores stream memory inputs width height stream.codedPlaneCount

/-- A row of the input, of a plane. -/
def inputRowStore (stream : StreamParameters) (memory : FrameMemory) (inputs : List PlaneWindow)
    (width : Nat → Nat) (planeIndex y : Nat) : RowStore :=
  storedRow planeIndex y (width planeIndex) (inputRow stream memory inputs planeIndex y)

theorem mem_planarStores {planes : Nat} {store : RowStore} :
    store ∈ planarStores stream memory inputs width height planes ↔
      ∃ planeIndex < planes, ∃ y < height planeIndex,
        store = inputRowStore stream memory inputs width planeIndex y := by
  simp only [planarStores, planeStores, List.mem_flatMap, List.mem_map, List.mem_range]
  constructor
  · rintro ⟨planeIndex, hplane, y, hy, rfl⟩
    exact ⟨planeIndex, hplane, y, hy, rfl⟩
  · rintro ⟨planeIndex, hplane, y, hy, rfl⟩
    exact ⟨planeIndex, hplane, y, hy, rfl⟩

theorem mem_sliceStores
    (hrgb : stream.colorspaceType = 1 → ∀ planeIndex < stream.codedPlaneCount,
      width planeIndex = width 0 ∧ height planeIndex = height 0) {store : RowStore} :
    store ∈ sliceStores stream memory inputs width height ↔
      ∃ planeIndex < stream.codedPlaneCount, ∃ y < height planeIndex,
        store = inputRowStore stream memory inputs width planeIndex y := by
  unfold sliceStores
  split
  · rename_i hcolor
    have hsize := hrgb hcolor
    simp only [rgbStores, rgbRowStoresOf, List.mem_flatMap, List.mem_map, List.mem_range]
    constructor
    · rintro ⟨y, hy, planeIndex, hplane, rfl⟩
      refine ⟨planeIndex, hplane, y, (hsize planeIndex hplane).2 ▸ hy, ?_⟩
      rw [inputRowStore, (hsize planeIndex hplane).1]
    · rintro ⟨planeIndex, hplane, y, hy, rfl⟩
      refine ⟨y, (hsize planeIndex hplane).2 ▸ hy, planeIndex, hplane, ?_⟩
      rw [inputRowStore, (hsize planeIndex hplane).1]
  · exact mem_planarStores

theorem inputSample_eq_sampleAt (hinput : WindowShape stream inputs width height)
    (hplane : planeIndex < stream.codedPlaneCount) :
    inputSample stream memory inputs planeIndex x y =
      memory.sampleAt (planeWindow inputs planeIndex) x y := by
  unfold inputSample FrameMemory.sampleAt PlaneWindow.sampleAddress
  rw [hinput.sampleFormat planeIndex hplane]
  unfold sampleFormatForBitDepth
  by_cases hbits : stream.bitsPerRawSample ≤ 8
  · simp only [if_pos hbits, bytesPerSample]
    norm_num
  · simp only [if_neg hbits, bytesPerSample, mul_comm]
    norm_num

theorem inputSample_fits (stream : StreamParameters) (memory : FrameMemory)
    (inputs : List PlaneWindow) (planeIndex x y : Nat) :
    FrameMemory.Fits (sampleFormatForBitDepth stream.bitsPerRawSample)
      (inputSample stream memory inputs planeIndex x y) := by
  intro hformat
  have hbits : stream.bitsPerRawSample ≤ 8 := by
    by_contra hdeep
    rw [sampleFormatForBitDepth, if_neg hdeep] at hformat
    cases hformat
  unfold inputSample
  rw [if_pos hbits]
  exact UInt8.toNat_lt _

theorem inputRowStore_row (planeIndex y : Nat) :
    (inputRowStore stream memory inputs width planeIndex y).row =
      (List.range (width planeIndex)).map fun x =>
        inputSample stream memory inputs planeIndex x y := by
  rw [inputRowStore, storedRow_input]

theorem inputRowStore_inWindow (houtput : WindowShape stream outputs width height)
    (hplane : planeIndex < stream.codedPlaneCount) (hy : y < height planeIndex) :
    (inputRowStore stream memory inputs width planeIndex y).InWindow outputs where
  plane_lt := houtput.planes ▸ hplane
  y_lt := by
    change y < (planeWindow outputs planeIndex).height.toNat
    rwa [houtput.height planeIndex hplane]
  row_length := by
    rw [inputRowStore_row, List.length_map, List.length_range]
    exact (houtput.width planeIndex hplane).symm
  fits := by
    intro sample hsample
    rw [inputRowStore_row] at hsample
    obtain ⟨x, -, rfl⟩ := List.mem_map.mp hsample
    change FrameMemory.Fits (planeWindow outputs planeIndex).sampleFormat _
    rw [houtput.sampleFormat planeIndex hplane]
    exact inputSample_fits _ _ _ _ _ _

/-- A row of the input is stored, and nothing else for it. -/
def StoresRow (memory : FrameMemory) (inputs : List PlaneWindow) (stores : List RowStore)
    (planeIndex y : Nat) : Prop :=
  (∃ store ∈ stores, store.planeIndex = planeIndex ∧ store.y = y) ∧
    ∀ store ∈ stores, store.planeIndex = planeIndex → store.y = y →
      store.row = (List.range (planeWindow inputs planeIndex).width.toNat).map fun x =>
        memory.sampleAt (planeWindow inputs planeIndex) x y

theorem sliceStores_row (hinput : WindowShape stream inputs width height)
    (hrgb : stream.colorspaceType = 1 → ∀ planeIndex < stream.codedPlaneCount,
      width planeIndex = width 0 ∧ height planeIndex = height 0)
    (hplane : planeIndex < stream.codedPlaneCount) (hy : y < height planeIndex) :
    StoresRow memory inputs (sliceStores stream memory inputs width height) planeIndex y := by
  refine ⟨⟨_, (mem_sliceStores hrgb).mpr ⟨planeIndex, hplane, y, hy, rfl⟩, rfl, rfl⟩,
    fun store hmem hplane' hy' => ?_⟩
  obtain ⟨plane, hlt, row, -, rfl⟩ := (mem_sliceStores hrgb).mp hmem
  obtain rfl : plane = planeIndex := hplane'
  obtain rfl : row = y := hy'
  rw [inputRowStore_row, hinput.width plane hlt]
  exact List.map_congr_left fun x _ => inputSample_eq_sampleAt hinput hlt

/-- Every sample of the input is read back of its rows. -/
theorem sampleAt_inputStores {stores : List RowStore} (hinput : WindowShape stream inputs width height)
    (houtput : WindowShape stream outputs width height)
    (hmem : ∀ store, store ∈ stores ↔ ∃ planeIndex < stream.codedPlaneCount,
      ∃ y < height planeIndex, store = inputRowStore stream memory inputs width planeIndex y)
    (hplanes : WindowsApart outputs) (hplane : planeIndex < stream.codedPlaneCount)
    (hrows : RowsSeparate (planeWindow outputs planeIndex))
    (hx : x < width planeIndex) (hy : y < height planeIndex) (before : FrameMemory) :
    (applyStores outputs stores before).sampleAt (planeWindow outputs planeIndex) x y =
      memory.sampleAt (planeWindow inputs planeIndex) x y := by
  have hstores : ∀ store ∈ stores, store.InWindow outputs ∧
      store.row = (inputRowStore stream memory inputs width store.planeIndex store.y).row := by
    intro store hstore
    obtain ⟨planeIndex, hplane, y, hy, rfl⟩ := (hmem store).mp hstore
    exact ⟨inputRowStore_inWindow houtput hplane hy, rfl⟩
  have hcolumn : x < (planeWindow outputs planeIndex).width.toNat := by
    rwa [houtput.width planeIndex hplane]
  have hstored : ∃ store ∈ stores, store.planeIndex = planeIndex ∧ store.y = y :=
    ⟨_, (hmem _).mpr ⟨planeIndex, hplane, y, hy, rfl⟩, rfl, rfl⟩
  have hread := @sampleAt_applyStores _ _
    (fun planeIndex y => (inputRowStore stream memory inputs width planeIndex y).row) hstores hplanes
    _ _ _ (houtput.planes ▸ hplane) hrows hcolumn (by rwa [houtput.height planeIndex hplane]) hstored
    before
  rw [hread, inputRowStore_row, ← inputSample_eq_sampleAt hinput hplane]
  simp [List.getD_eq_getElem?_getD, hx]

theorem sampleAt_sliceStores (hinput : WindowShape stream inputs width height)
    (houtput : WindowShape stream outputs width height)
    (hrgb : stream.colorspaceType = 1 → ∀ planeIndex < stream.codedPlaneCount,
      width planeIndex = width 0 ∧ height planeIndex = height 0)
    (hplanes : WindowsApart outputs) (hplane : planeIndex < stream.codedPlaneCount)
    (hrows : RowsSeparate (planeWindow outputs planeIndex))
    (hx : x < width planeIndex) (hy : y < height planeIndex) (before : FrameMemory) :
    (applyStores outputs (sliceStores stream memory inputs width height) before).sampleAt
        (planeWindow outputs planeIndex) x y =
      memory.sampleAt (planeWindow inputs planeIndex) x y :=
  sampleAt_inputStores hinput houtput (fun _ => mem_sliceStores hrgb) hplanes hplane hrows hx hy
    before

end Stores

section Loops

variable {W R : Type} [SymbolSink W] [SymbolSource R] {C : Mirror.Channel W} {F : Prop}
  {P : W → R → Prop} {stores : List RowStore} {stream : StreamParameters}
  {setup : RangeSliceSetup} {inputs outputs : List PlaneWindow} {width height : Nat → Nat}

theorem validateStream_ok (h : SliceEncoder.validateStream stream = .ok ()) :
    isSupportedBitDepth stream.bitsPerRawSample = true ∧
      (stream.colorspaceType = 1 → stream.chromaPlanes = true) ∧
      stream.quantTableSets.length = 1 := by
  simp only [SliceEncoder.validateStream, except_bind_ok, exists_unit, failIf_ok_iff, not_or] at h
  obtain ⟨hdepth, -, hrgb, -, -, hsets, -⟩ := h
  refine ⟨by simpa using hdepth.2, fun hcolor => ?_, not_not.mp hsets⟩
  simp only [hasInvalidRgbGeometry, hcolor, decide_true, Bool.true_and] at hrgb
  cases hchroma : stream.chromaPlanes with
  | true => rfl
  | false => simp [hchroma] at hrgb

theorem encodeSamples_mirrors (hcopies : SymbolCopies C F P)
    (hstream : SliceEncoder.validateStream stream = .ok ()) (hversion : stream.version = 3)
    (hsetup : SetupMatches stream setup) (hinput : WindowShape stream inputs width height)
    (houtput : WindowShape stream outputs width height)
    (hrgb : stream.colorspaceType = 1 → ∀ planeIndex < stream.codedPlaneCount,
      width planeIndex = width 0 ∧ height planeIndex = height 0) (memory : FrameMemory) :
    Mirror.Mirrors (encodingChannel C) F
      (InStep P (fun state => state.LinesSized stream.codedPlaneCount width) stores)
      (encodeSamples stream memory inputs : Call (Encoding W) Unit)
      (decodeRangeSamples stream setup outputs : Call (Decoding R) Unit)
      (fun _ _ => InStep P (fun state => state.LinesSized stream.codedPlaneCount width)
        (stores ++ sliceStores stream memory inputs width height)) := by
  obtain ⟨hdepth, hchroma, -⟩ := validateStream_ok hstream
  have horder : usesLegacyRangeYcbcrRowOrder stream = false := by
    simp [usesLegacyRangeYcbcrRowOrder, hversion]
  unfold encodeSamples decodeRangeSamples sliceStores
  by_cases hcolor : stream.colorspaceType = 1
  · simp only [if_pos hcolor]
    exact rgbRows_mirrors hcopies hdepth (hchroma hcolor) hsetup hinput houtput
      (fun planeIndex hplane => (hrgb hcolor planeIndex hplane).1)
      fun planeIndex hplane => (hrgb hcolor planeIndex hplane).2
  · simp only [if_neg hcolor, horder, Bool.false_eq_true, if_false]
    exact planes_mirrors hcopies hdepth hsetup hinput houtput memory

end Loops

section Projecting

variable {V W : Type} [SymbolSink V] [SymbolSink W]

/-- The encoding by a writer that the writer has in it. -/
def Encoding.mapWriter (π : V → W) (encoding : Encoding V) : Encoding W where
  writer := π encoding.writer
  state := encoding.state

/-- What a writer writes of a symbol is what the writer in it writes. -/
def SymbolProjects (π : V → W) : Prop :=
  ∀ bank context value, Mirror.Projects π (SymbolSink.writeSigned bank context value)
    (SymbolSink.writeSigned bank context value)

variable {π : V → W} (hπ : SymbolProjects π) (stream : StreamParameters) (memory : FrameMemory)
  (windows : List PlaneWindow)
include hπ

theorem encodeResidual_projects (model : QuantTableSet) (bank : Nat) (sample : Int) (bits : Nat)
    (signed16bit : Bool) (planeIndex x : Nat) (line : LineState) :
    Mirror.Projects (Encoding.mapWriter π)
      (encodeResidual model bank sample bits signed16bit planeIndex x line)
      (encodeResidual model bank sample bits signed16bit planeIndex x line) := by
  unfold encodeResidual
  refine (Mirror.Projects.ofExcept _).bind fun context => ?_
  refine Mirror.Projects.bind (fun encoding => ?_) fun _ => Mirror.Projects.modify fun _ => rfl
  have hwrite := hπ bank context.context (if context.invertDifference then
    -Predictor.difference sample (medianPrediction signed16bit (line.neighbors x)) bits
    else Predictor.difference sample (medianPrediction signed16bit (line.neighbors x)) bits)
    encoding.writer
  unfold onWriter Encoding.mapWriter
  dsimp only
  rw [hwrite]
  cases SymbolSink.writeSigned bank context.context _ encoding.writer <;> rfl

theorem encodeSample_projects (model : QuantTableSet) (bank : Nat) (sample : Int) (bits : Nat)
    (signed16bit : Bool) (planeIndex x : Nat) :
    Mirror.Projects (Encoding.mapWriter π)
      (encodeSample model bank sample bits signed16bit planeIndex x)
      (encodeSample model bank sample bits signed16bit planeIndex x) := by
  unfold encodeSample
  have hview := Mirror.Projects.view (π := Encoding.mapWriter π)
    (fun e : Encoding V => e.state.lineState planeIndex)
    (fun d : Encoding W => d.state.lineState planeIndex)
    (encodeResidual model bank sample bits signed16bit planeIndex x)
    (encodeResidual model bank sample bits signed16bit planeIndex x) (fun _ => rfl)
    (encodeResidual_projects hπ model bank sample bits signed16bit planeIndex x)
  exact hview

theorem encodePlaneRow_projects (planeIndex y : Nat) :
    Mirror.Projects (Encoding.mapWriter π) (encodePlaneRow stream memory windows planeIndex y)
      (encodePlaneRow stream memory windows planeIndex y) := by
  unfold encodePlaneRow
  refine Mirror.Projects.bind ?_ fun _ => Mirror.Projects.modify fun _ => rfl
  refine Mirror.Projects.forLoop _ _ fun x => ?_
  exact (Mirror.Projects.ofExcept _).bind fun _ => encodeSample_projects hπ _ _ _ _ _ _ _

theorem encodeRgbRow_projects (y : Nat) :
    Mirror.Projects (Encoding.mapWriter π) (encodeRgbRow stream memory windows y)
      (encodeRgbRow stream memory windows y) := by
  unfold encodeRgbRow
  refine (Mirror.Projects.ofExcept _).bind fun samples => ?_
  refine Mirror.Projects.bind ?_ fun _ => Mirror.Projects.modify fun _ => rfl
  refine Mirror.Projects.forLoop _ _ fun planeIndex => Mirror.Projects.forLoop _ _ fun x => ?_
  split
  · exact (Mirror.Projects.pure _).bind fun _ => encodeSample_projects hπ _ _ _ _ _ _ _
  · refine (Mirror.Projects.ofExcept _).bind fun _ => ?_
    exact (Mirror.Projects.pure _).bind fun _ => encodeSample_projects hπ _ _ _ _ _ _ _

theorem encodePlanes_projects :
    Mirror.Projects (Encoding.mapWriter π) (encodePlanes stream memory windows)
      (encodePlanes stream memory windows) :=
  Mirror.Projects.forLoop _ _ fun planeIndex =>
    Mirror.Projects.forLoop _ _ (encodePlaneRow_projects hπ stream memory windows planeIndex)

theorem encodeSamples_projects :
    Mirror.Projects (Encoding.mapWriter π) (encodeSamples stream memory windows)
      (encodeSamples stream memory windows) := by
  unfold encodeSamples
  split
  · exact Mirror.Projects.forLoop _ _ (encodeRgbRow_projects hπ stream memory windows)
  · exact encodePlanes_projects hπ stream memory windows

end Projecting

/-- A scalar of a content, in the context it is coded in. -/
structure Symbol where
  bank : Nat
  context : Nat
  value : Int
  deriving DecidableEq

def Symbol.request (symbol : Symbol) : Nat × Nat := (symbol.bank, symbol.context)

/-- A writer with the symbols it has written. -/
structure Recorder (W : Type) where
  writer : W
  log : List Symbol := []

/-- A reader that returns given values in order and notes what it is asked for. -/
structure Script where
  values : List Int
  requests : List (Nat × Nat) := []
  deriving DecidableEq

instance : SymbolSource Script where
  readSigned bank context := fun script =>
    match script.values with
    | [] => .error (makeError .syntaxError "no symbol is left") script
    | value :: values =>
      .ok value { values, requests := script.requests ++ [(bank, context)] }
  bytePosition _ := 0

section Recording

variable {W : Type} [SymbolSink W]

instance : SymbolSink (Recorder W) where
  writeSigned bank context value := fun recorder =>
    match SymbolSink.writeSigned bank context value recorder.writer with
    | .ok u writer => .ok u { writer, log := recorder.log ++ [{ bank, context, value }] }
    | .error status writer => .error status { recorder with writer }

/-- Recording does not change what is written. -/
theorem recorder_projects : SymbolProjects (Recorder.writer : Recorder W → W) := by
  intro bank context value recorder
  change _ = Mirror.mapState Recorder.writer (match SymbolSink.writeSigned bank context value
    recorder.writer with
    | .ok u writer => .ok u { writer, log := recorder.log ++ [{ bank, context, value }] }
    | .error status writer => .error status { recorder with writer })
  cases SymbolSink.writeSigned bank context value recorder.writer <;> rfl

/-- The symbols, written one by one. -/
def writeSymbols : List Symbol → Call W Unit
  | [] => pure ()
  | symbol :: symbols => do
    SymbolSink.writeSigned symbol.bank symbol.context symbol.value
    writeSymbols symbols

theorem writeSymbols_concat (symbols : List Symbol) (symbol : Symbol) :
    (writeSymbols (symbols ++ [symbol]) : Call W Unit) = (do
      writeSymbols symbols
      SymbolSink.writeSigned symbol.bank symbol.context symbol.value) := by
  induction symbols with
  | nil => simp [writeSymbols]
  | cons first symbols ih => simp [writeSymbols, ih]

/-- A recorder that started at `start`; the whole log will be `log`. -/
def recordingChannel (start : W) (log : List Symbol) : Mirror.Channel (Recorder W) where
  inv recorder := writeSymbols recorder.log start = .ok () recorder.writer
  fits recorder := recorder.log <+: log

/-- The script of a log, before and after it is read. -/
def Script.ofLog (log : List Symbol) : Script where
  values := log.map Symbol.value

def Script.afterLog (log : List Symbol) : Script where
  values := []
  requests := log.map Symbol.request

/-- The script has the rest of the log, and was asked for what is written. -/
def Scripted (log : List Symbol) (recorder : Recorder W) (script : Script) : Prop :=
  ∃ rest, log = recorder.log ++ rest ∧ script.values = rest.map Symbol.value ∧
    script.requests = recorder.log.map Symbol.request

theorem scripted_copies (start : W) (log : List Symbol) :
    SymbolCopies (recordingChannel start log) False (Scripted log) := by
  intro bank context value recorder u recorder' hinv hwrite
  simp only [SymbolSink.writeSigned] at hwrite
  cases hw : SymbolSink.writeSigned bank context value recorder.writer with
  | error status writer =>
    rw [hw] at hwrite
    cases hwrite
  | ok u writer =>
    rw [hw] at hwrite
    obtain ⟨-, rfl⟩ := EStateM.Result.ok.inj hwrite
    refine ⟨?_, fun hfit => ⟨(List.prefix_append _ _).trans hfit, fun script hscript => ?_⟩⟩
    · change writeSymbols (recorder.log ++ [_]) start = _
      rw [writeSymbols_concat]
      exact Mirror.bind_ok_iff.mpr ⟨(), recorder.writer, hinv, hw⟩
    · obtain ⟨rest, hlog, hvalues, hrequests⟩ := hscript
      obtain ⟨after, hafter⟩ := hfit
      rw [← hafter, List.append_assoc, List.append_cancel_left_eq] at hlog
      subst hlog
      simp only [SymbolSource.readSigned, hvalues, List.cons_append, List.nil_append, List.map_cons]
      refine ⟨rfl, after, hafter.symm, rfl, ?_⟩
      rw [hrequests, List.map_append]
      rfl

end Recording

section RoundTrip

variable {stream : StreamParameters} {slice : SliceDescriptor} {outputs : List PlaneWindow}

/-- A stream with one table set leaves the header of a slice no choice. -/
theorem tableSetIndex_zero (hsets : stream.quantTableSets.length = 1)
    (hplaced : Placed stream slice) (slot : Nat) : slice.quantTableSetIndexes.getD slot 0 = 0 := by
  rcases Nat.lt_or_ge slot slice.quantTableSetIndexes.length with hlt | hge
  · have hmem := hplaced.indexes_lt _ (List.getElem_mem hlt)
    rw [List.getD_eq_getElem _ _ hlt]
    omega
  · exact List.getD_eq_default _ _ hge

theorem contextModels_getD (hsets : stream.quantTableSets.length = 1)
    (hplaced : Placed stream slice) {planeCount planeIndex : Nat} (hplane : planeIndex < planeCount) :
    (SliceDecoder.contextModels stream slice planeCount).getD planeIndex {} =
      stream.quantTableSets.getD 0 {} := by
  have hset : SliceDecoder.planeTableSetIndex stream slice planeIndex = 0 :=
    tableSetIndex_zero hsets hplaced _
  simp [SliceDecoder.contextModels, SliceDecoder.tableSetAt, List.getD_eq_getElem?_getD, hplane,
    hset]

theorem rangeSetup_matches (hsets : stream.quantTableSets.length = 1)
    (hversion : stream.version = 3) (hplaced : Placed stream slice)
    (hplanes : outputs.length = stream.codedPlaneCount) :
    SetupMatches stream (SliceDecoder.rangeSetup stream slice outputs.length) := by
  intro planeIndex hplane
  rw [hplanes]
  constructor
  · exact contextModels_getD hsets hplaced hplane
  · simp [SliceDecoder.rangeSetup, SliceDecoder.rangeContextBankIndexes, encoderContextBank,
      List.getD_eq_getElem?_getD, hplane, hversion]

/-- What the encoder writes of the samples of a slice is what the decoder asks for, and
it stores every sample: they are all in the output where its planes do not share bytes. -/
theorem range_samples_roundtrip {W : Type} [SymbolSink W] {header : SliceHeaderValues}
    {initial : SliceDescriptor} {input output : FrameView} {inputs : List PlaneWindow}
    {before state : SliceState} {writer : W} {encoding : Encoding W} (memory : FrameMemory)
    (hstream : SliceEncoder.validateStream stream = .ok ()) (hversion : stream.version = 3)
    (hslice : SliceHeaderParser.applyRaster stream header initial = .ok slice)
    (hinput : SliceInputWindow.validate stream input slice = .ok inputs)
    (hframe : FrameValidator.validateOutput stream output = .ok ())
    (houtput : SliceOutputWindow.validate stream output slice = .ok outputs)
    (hreset : before.reset stream inputs = .ok state)
    (hencode : encodeSamples stream memory inputs { writer, state } = .ok () encoding) :
    ∃ log stores,
      encodeSamples stream memory inputs { writer := (Recorder.mk writer []), state } =
        .ok () { writer := Recorder.mk encoding.writer log, state := encoding.state } ∧
      writeSymbols log writer = .ok () encoding.writer ∧
      before.reset stream outputs = .ok state ∧
      decodeRangeSamples stream (SliceDecoder.rangeSetup stream slice outputs.length) outputs
        { reader := Script.ofLog log, state, stores := [] } =
        .ok () { reader := Script.afterLog log, state := encoding.state, stores } ∧
      (∀ planeIndex y, planeIndex < stream.codedPlaneCount →
        y < (planeWindow inputs planeIndex).height.toNat →
        StoresRow memory inputs stores planeIndex y) ∧
      (WindowsApart outputs → ∀ frame planeIndex x y, planeIndex < stream.codedPlaneCount →
        x < (planeWindow inputs planeIndex).width.toNat →
        y < (planeWindow inputs planeIndex).height.toNat →
        (applyStores outputs stores frame).sampleAt (planeWindow outputs planeIndex) x y =
          memory.sampleAt (planeWindow inputs planeIndex) x y) := by
  have hplaced := applyRaster_placed hslice
  have hin := inputShape hplaced hinput
  have hout := outputShape (FrameValidator.validateOutput_format hframe) houtput
  have hsets := (validateStream_ok hstream).2.2
  have hrgb (hcolor : stream.colorspaceType = 1) (planeIndex : Nat)
      (_ : planeIndex < stream.codedPlaneCount) := sliceSize_rgb hcolor hplaced planeIndex
  obtain ⟨recorded, hrecorded, rfl⟩ := (encodeSamples_projects recorder_projects stream memory inputs).ok
    (e := { writer := { writer, log := [] }, state }) hencode
  have hmirror : Mirror.Mirrors _ _ (InStep _ _ []) _ _ _ := encodeSamples_mirrors
    (scripted_copies writer recorded.writer.log) hstream hversion
    (rangeSetup_matches hsets hversion hplaced hout.planes) hin hout hrgb memory
  obtain ⟨hreplay, hread⟩ := hmirror { writer := { writer, log := [] }, state } () recorded rfl
    hrecorded
  obtain ⟨-, hdecode⟩ := hread List.prefix_rfl
  have hstart := hdecode
    { reader := Script.ofLog recorded.writer.log, state } ⟨⟨_, rfl, rfl, rfl⟩, rfl, reset_sized hin hreset, rfl⟩
  obtain ⟨_, decoding, hrun, hend⟩ := hstart.result
  obtain ⟨rest, hrest, hvalues, hrequests⟩ := hend.symbols
  obtain rfl := List.self_eq_append_right.mp hrest
  refine ⟨recorded.writer.log, sliceStores stream memory inputs (sliceWidth stream slice)
    (sliceHeight stream slice), hrecorded, hreplay, ?_, ?_, ?_, ?_⟩
  · rw [← hreset, reset_eq (widths_eq hin hout)]
  · rw [hrun]
    have hstores := hend.stored
    have hsame := hend.same
    cases decoding with
    | mk reader state stores =>
      cases reader
      simp only at hvalues hrequests hstores hsame
      subst hvalues hrequests hstores hsame
      rfl
  · intro planeIndex y hplane hy
    rw [hin.height planeIndex hplane] at hy
    exact sliceStores_row hin hrgb hplane hy
  · intro hplanes frame planeIndex x y hplane hx hy
    rw [hin.width planeIndex hplane] at hx
    rw [hin.height planeIndex hplane] at hy
    exact sampleAt_sliceStores hin hout hrgb hplanes hplane
      (SliceOutputWindow.validate_addresses houtput hplane).rowsSeparate hx hy frame

end RoundTrip

/-- An RGB frame of two columns, each plane in a buffer of its own. -/
def pairStream : StreamParameters :=
  { width := 2, height := 1, colorspaceType := 1, quantTableSets := [makeZeroQuantTableSet] }

def pairSlice : SliceDescriptor :=
  { width := 2, height := 1, rasterWidth := 1, rasterHeight := 1, quantTableSetIndexes := [0] }

def pairFrame : FrameView where
  planes := some ([.r, .g, .b].mapIdx fun buffer role =>
    { hasData := true, buffer, info := { role, width := 2, height := 1, strideBytes := 2 } })
  planeCount := 3

def pairMemory : FrameMemory := fun buffer address => (90 * buffer + 7 * address.toNat).toUInt8

def pairWindows : List PlaneWindow :=
  (List.range 3).map fun buffer => { buffer, strideBytes := 2, width := 2, height := 1 }

def pairState : SliceState := { lineStates := List.replicate 3 (LineState.bordered 2 0) }

def pairWriter : RangeEncoder :=
  Mirror.finalState (RangeEncoder.reset [1, 1] [] defaultStateTransition {})

def pairEncoding : Encoding RangeEncoder :=
  Mirror.finalState (encodeSamples pairStream pairMemory pairWindows
    { writer := pairWriter, state := pairState })

theorem range_samples_roundtrip_pair :
    ∃ log stores,
      writeSymbols log pairWriter = .ok () pairEncoding.writer ∧
      decodeRangeSamples pairStream (SliceDecoder.rangeSetup pairStream pairSlice 3) pairWindows
        { reader := Script.ofLog log, state := pairState, stores := [] } =
        .ok () { reader := Script.afterLog log, state := pairEncoding.state, stores } ∧
      ∀ frame planeIndex x, planeIndex < 3 → x < (planeWindow pairWindows planeIndex).width.toNat →
        0 < (planeWindow pairWindows planeIndex).height.toNat →
        (applyStores pairWindows stores frame).sampleAt (planeWindow pairWindows planeIndex) x 0 =
          pairMemory.sampleAt (planeWindow pairWindows planeIndex) x 0 := by
  have hroundtrip := @range_samples_roundtrip pairStream pairSlice pairWindows RangeEncoder _
    { width := 1, height := 1, quantTableSetIndexes := [0] } {} pairFrame pairFrame pairWindows
    {} pairState pairWriter pairEncoding
    pairMemory (by decide) rfl (by decide) (by decide) (by decide) (by decide) (by decide)
    (Mirror.eq_ok_of_succeeded (by decide +kernel))
  obtain ⟨log, stores, -, hwrite, -, hdecode, -, hsamples⟩ := hroundtrip
  exact ⟨log, stores, hwrite, hdecode, fun frame planeIndex x =>
    hsamples (WindowsApart.of_buffers (by decide)) frame planeIndex x 0⟩

end Mffv1
