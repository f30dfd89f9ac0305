import Mffv1.FrameStore
import Mffv1.RangeSamples

/-!
# Range-coded samples are read back

The loops of the decoder run in step with those of the encoder, on one slice state,
over any pair of a symbol writer and a symbol reader that read back what is written.
-/
namespace Mffv1

section Lifting

variable {W R α : Type}

theorem onWriter_ok_iff {call : Call W α} {e e' : Encoding W} {a : α} :
    onWriter call e = .ok a e' ↔ ∃ w, call e.writer = .ok a w ∧ e' = { e with writer := w } := by
  unfold onWriter
  cases call e.writer with
  | ok value writer => simp [eq_comm]
  | error status writer => simp

end Lifting

section Coupling

variable {W R : Type}

def encodingChannel (C : Mirror.Channel W) : Mirror.Channel (Encoding W) where
  inv e := C.inv e.writer
  fits e := C.fits e.writer

/-- Both sides are at one slice state, which satisfies `I`, with `stores` stored. -/
structure InStep (P : W → R → Prop) (I : SliceState → Prop) (stores : List RowStore)
    (e : Encoding W) (d : Decoding R) : Prop where
  symbols : P e.writer d.reader
  same : e.state = d.state
  inv : I d.state
  stored : d.stores = stores

variable {C : Mirror.Channel W} {F : Prop} {P : W → R → Prop} {I J : SliceState → Prop}
  {stores : List RowStore}

theorem InStep.imp {e : Encoding W} {d : Decoding R} (h : InStep P I stores e d)
    (hI : ∀ state, I state → J state) : InStep P J stores e d :=
  ⟨h.symbols, h.same, hI _ h.inv, h.stored⟩

/-- A state update that both sides make. -/
theorem modifyState_mirrors {f : SliceState → SliceState} (h : ∀ state, I state → J (f state)) :
    Mirror.Mirrors (encodingChannel C) F (InStep P I stores)
      (modify (Encoding.modifyState f) : Call (Encoding W) Unit)
      (modify (Decoding.modifyState f) : Call (Decoding R) Unit)
      (fun _ _ => InStep P J stores) := by
  refine Mirror.Mirrors.update (fun _ hi => hi) (fun _ hf => hf) fun e d hd => ?_
  exact ⟨hd.symbols, congrArg f hd.same, h _ hd.inv, hd.stored⟩

/-- Calls that copy what is written, on the two sides. -/
theorem call_mirrors {α β : Type} {w : Call W α} {r : Call R β} {k : α → β}
    (h : Mirror.Copies C F P w r k) (bytePosition : R → Nat) (base : Nat) :
    Mirror.Mirrors (encodingChannel C) F (InStep P I stores) (onWriter w)
      (onReader (withReaderOffset bytePosition base r))
      (fun a x e d => x = k a ∧ InStep P I stores e d) := by
  intro e a e' hi hw
  obtain ⟨w', hwrite, rfl⟩ := onWriter_ok_iff.mp hw
  obtain ⟨hinv, hfits⟩ := h e.writer a w' hi hwrite
  refine ⟨hinv, fun hfit => ⟨(hfits hfit).1, fun d hd => ?_⟩⟩
  have hread := (hfits hfit).2 d.reader hd.symbols
  unfold onReader withReaderOffset
  cases hx : r d.reader with
  | ok read reader =>
    rw [hx] at hread
    exact ⟨hread.1, hread.2, hd.same, hd.inv, hd.stored⟩
  | error status reader =>
    rw [hx] at hread
    exact hread

end Coupling

section Samples

variable {W R : Type} [SymbolSink W] [SymbolSource R] {C : Mirror.Channel W} {F : Prop}
  {P : W → R → Prop} {I J : SliceState → Prop} {stores : List RowStore}

/-- Every symbol that is written is read back. -/
def SymbolCopies (C : Mirror.Channel W) (F : Prop) (P : W → R → Prop) : Prop :=
  ∀ bank context value, Mirror.Copies C F P (SymbolSink.writeSigned bank context value)
    (SymbolSource.readSigned bank context) (fun _ => value)

omit [SymbolSink W] [SymbolSource R] in
/-- A loop whose rounds store one after the other. -/
theorem storing_mirrors {rows : Nat → List RowStore} {w : Nat → Call (Encoding W) Unit}
    {r : Nat → Call (Decoding R) Unit} (count : Nat)
    (hround : ∀ k < count, ∀ stores, Mirror.Mirrors (encodingChannel C) F (InStep P I stores)
      (w k) (r k) (fun _ _ => InStep P I (stores ++ rows k))) :
    Mirror.Mirrors (encodingChannel C) F (InStep P I stores) (Mirror.forLoop 0 count w)
      (Mirror.forLoop 0 count r)
      (fun _ _ => InStep P I (stores ++ (List.range count).flatMap rows)) := by
  have hloop := Mirror.Mirrors.forLoop (C := encodingChannel C) (F := F)
    (I := fun k => InStep P I (stores ++ (List.range k).flatMap rows)) (w := w) (r := r) 0 count
    fun k _ hk => by
      rw [List.range_succ, List.flatMap_append, List.flatMap_singleton, ← List.append_assoc]
      exact hround k (by omega) _
  rw [Nat.zero_add, List.range_zero, List.flatMap_nil, List.append_nil] at hloop
  exact hloop

/-- A symbol of a line. -/
theorem symbol_mirrors (hcopies : SymbolCopies C F P) (bank context base : Nat) (value : Int) :
    Mirror.Mirrors (encodingChannel C) F (InStep P I stores)
      (onWriter (SymbolSink.writeSigned bank context value))
      (onReader (withReaderOffset SymbolSource.bytePosition base
        (SymbolSource.readSigned bank context)))
      (fun _ read e d => read = value ∧ InStep P I stores e d) :=
  call_mirrors (hcopies bank context value) SymbolSource.bytePosition base

/-- A difference that the encoder forms passes the range check of the decoder. -/
theorem difference_in_range {bits : Nat} (hbits : 1 ≤ bits ∧ bits ≤ 30) (sample prediction : Int) :
    ¬(Predictor.difference sample prediction bits < -2 ^ 31 ∨
      2 ^ 31 - 1 < Predictor.difference sample prediction bits) := by
  have hdepth : ¬(bits = 0 ∨ 31 ≤ bits) := by omega
  obtain ⟨-, hlow, hhigh⟩ := wrapSampleDifference_spec hdepth (sample - prediction)
  have hpow : (2 : Int) ^ (bits - 1) ≤ 2 ^ 30 := pow_le_pow_right₀ (by decide) (by omega)
  unfold Predictor.difference
  simp only [if_neg hdepth]
  omega

theorem encodeResidual_mirrors (hcopies : SymbolCopies C F P) {bits planeIndex x : Nat}
    {sample : Int} (hbits : 1 ≤ bits ∧ bits ≤ 30) (hsample : FitsDepth sample bits)
    (hstore : ∀ state, I state → J (state.modifyLine planeIndex (LineState.store · x sample)))
    (model : QuantTableSet) (bank base : Nat) (signed16bit : Bool) (line : LineState) :
    Mirror.Mirrors (encodingChannel C) F (InStep P I stores)
      (encodeResidual model bank sample bits signed16bit planeIndex x line)
      (decodeResidual base model bank bits signed16bit planeIndex x line)
      (fun _ _ => InStep P J stores) := by
  have hdepth : ¬(bits = 0 ∨ 31 ≤ bits) := by omega
  unfold encodeResidual decodeResidual
  refine Mirror.Mirrors.ofExcept_writer fun context hcontext => ?_
  refine Mirror.Mirrors.ofExcept_reader hcontext ?_
  refine Mirror.Mirrors.bind_eq (fun _ => _) (symbol_mirrors hcopies _ _ _ _) fun _ => ?_
  set prediction := medianPrediction signed16bit (line.neighbors x)
  have hdifference : (if context.invertDifference = true then
      -(if context.invertDifference = true then -Predictor.difference sample prediction bits
        else Predictor.difference sample prediction bits)
      else if context.invertDifference = true then -Predictor.difference sample prediction bits
        else Predictor.difference sample prediction bits) =
      Predictor.difference sample prediction bits := by
    cases context.invertDifference <;> simp
  simp only [hdifference]
  rw [failIf_of_not (difference_in_range hbits sample prediction), pure_bind,
    reconstruct_difference hdepth hsample.1 hsample.2]
  exact modifyState_mirrors hstore

theorem encodeSample_mirrors (hcopies : SymbolCopies C F P) {bits planeIndex x : Nat}
    {sample : Int} (hbits : 1 ≤ bits ∧ bits ≤ 30) (hsample : FitsDepth sample bits)
    (hstore : ∀ state, I state → J (state.modifyLine planeIndex (LineState.store · x sample)))
    (model : QuantTableSet) (bank base : Nat) (signed16bit : Bool) :
    Mirror.Mirrors (encodingChannel C) F (InStep P I stores)
      (encodeSample model bank sample bits signed16bit planeIndex x)
      (decodeRangeSample base model bank bits signed16bit planeIndex x)
      (fun _ _ => InStep P J stores) := by
  unfold encodeSample decodeRangeSample
  have hview := Mirror.Mirrors.view (C := encodingChannel C) (P := InStep P I stores)
    (fun e : Encoding W => e.state.lineState planeIndex)
    (fun d : Decoding R => d.state.lineState planeIndex)
    (encodeResidual model bank sample bits signed16bit planeIndex x)
    (decodeResidual base model bank bits signed16bit planeIndex x)
    (fun _ _ h => congrArg (SliceState.lineState · planeIndex) h.same)
    (encodeResidual_mirrors hcopies hbits hsample hstore model bank base signed16bit)
  exact hview

/-- A writer that codes the sample `value` at `x`, or fails. -/
def CodesSample (w : Call (Encoding W) Unit) (model : QuantTableSet) (bank : Nat) (value : Int)
    (bits : Nat) (signed16bit : Bool) (planeIndex x : Nat) : Prop :=
  ∀ e u e', w e = .ok u e' → FitsDepth value bits ∧
    encodeSample model bank value bits signed16bit planeIndex x e = .ok u e'

theorem CodesSample.mirrors (hcopies : SymbolCopies C F P) {w : Call (Encoding W) Unit}
    {model : QuantTableSet} {bank bits planeIndex x : Nat} {value : Int} {signed16bit : Bool}
    (hw : CodesSample w model bank value bits signed16bit planeIndex x)
    (hbits : 1 ≤ bits ∧ bits ≤ 30)
    (hstore : FitsDepth value bits → ∀ state, I state →
      J (state.modifyLine planeIndex (LineState.store · x value)))
    (base : Nat) :
    Mirror.Mirrors (encodingChannel C) F (InStep P I stores) w
      (decodeRangeSample base model bank bits signed16bit planeIndex x)
      (fun _ _ => InStep P J stores) := by
  by_cases hfits : FitsDepth value bits
  · exact Mirror.Mirrors.of_success (fun e u e' h => (hw e u e' h).2)
      (encodeSample_mirrors hcopies hbits hfits (hstore hfits) model bank base signed16bit)
  · exact Mirror.Mirrors.of_error fun e u e' h => hfits (hw e u e' h).1

section Lines

variable {count planeIndex : Nat} {width : Nat → Nat} {K : SliceState → Prop}

/-- A line that holds the first `x` samples of a row, which fit the depth. -/
structure LineCoded (planeIndex : Nat) (row : Nat → Int) (bits x : Nat) (state : SliceState) :
    Prop where
  holds : state.LineHolds planeIndex row x
  fits : ∀ i < x, FitsDepth (row i) bits

theorem LineCoded.store {state : SliceState} {row : Nat → Int} {bits x : Nat}
    (h : LineCoded planeIndex row bits x state) (hsized : state.LinesSized count width)
    (hplane : planeIndex < count) (hx : x < width planeIndex) (hfits : FitsDepth (row x) bits) :
    LineCoded planeIndex row bits (x + 1)
      (state.modifyLine planeIndex (LineState.store · x (row x))) := by
  constructor
  · exact h.holds.store hsized hplane hx
  · intro i hi
    rcases Nat.lt_succ_iff_lt_or_eq.mp hi with hlt | rfl
    · exact h.fits i hlt
    · exact hfits

theorem LineCoded.store_other {state : SliceState} {row : Nat → Int} {bits x other : Nat}
    (h : LineCoded planeIndex row bits x state) (hne : planeIndex ≠ other) (y : Nat) (value : Int) :
    LineCoded planeIndex row bits x (state.modifyLine other (LineState.store · y value)) :=
  ⟨h.holds.store_other hne y value, h.fits⟩

/-- A whole line; `K` is what its stores do not change. -/
theorem line_mirrors (hcopies : SymbolCopies C F P) {row : Nat → Int} {w : Nat → Call (Encoding W) Unit}
    {model : QuantTableSet} {bank bits : Nat} {signed16bit : Bool}
    (hw : ∀ x < width planeIndex,
      CodesSample (w x) model bank (row x) bits signed16bit planeIndex x)
    (hbits : 1 ≤ bits ∧ bits ≤ 30) (hplane : planeIndex < count)
    (hK : ∀ state x value, K state → K (state.modifyLine planeIndex (LineState.store · x value)))
    (base : Nat) :
    Mirror.Mirrors (encodingChannel C) F
      (InStep P (fun state => state.LinesSized count width ∧ K state) stores)
      (Mirror.forLoop 0 (width planeIndex) w)
      (decodeRangeLine base model bank (width planeIndex) bits signed16bit planeIndex)
      (fun _ _ => InStep P (fun state => state.LinesSized count width ∧
        LineCoded planeIndex row bits (width planeIndex) state ∧ K state) stores) := by
  have hloop := Mirror.Mirrors.forLoop (C := encodingChannel C) (F := F)
    (I := fun x => InStep P (fun state => state.LinesSized count width ∧
      LineCoded planeIndex row bits x state ∧ K state) stores) (w := w)
    (r := decodeRangeSample base model bank bits signed16bit planeIndex) 0 (width planeIndex)
    fun x _ hx => (hw x (by omega)).mirrors hcopies hbits (fun hfits state hstate =>
      ⟨hstate.1.store x (row x), hstate.2.1.store hstate.1 hplane (by omega) hfits,
        hK state x (row x) hstate.2.2⟩) base
  rw [Nat.zero_add] at hloop
  refine hloop.consequence id (fun e d h => h.imp fun state hstate => ?_) fun _ _ _ _ h => h
  exact ⟨hstate.1, ⟨fun i hi => absurd hi (Nat.not_lt_zero i),
    fun i hi => absurd hi (Nat.not_lt_zero i)⟩, hstate.2⟩

end Lines

/-- The planes of a slice window: their sizes, in the format of the stream. -/
structure WindowShape (stream : StreamParameters) (windows : List PlaneWindow)
    (width height : Nat → Nat) : Prop where
  planes : windows.length = stream.codedPlaneCount
  width : ∀ planeIndex < stream.codedPlaneCount,
    (planeWindow windows planeIndex).width.toNat = width planeIndex
  height : ∀ planeIndex < stream.codedPlaneCount,
    (planeWindow windows planeIndex).height.toNat = height planeIndex
  sampleFormat : ∀ planeIndex < stream.codedPlaneCount,
    (planeWindow windows planeIndex).sampleFormat = sampleFormatForBitDepth stream.bitsPerRawSample

section Planes

variable {stream : StreamParameters} {windows : List PlaneWindow} {width height : Nat → Nat}
  {planeIndex y : Nat}

theorem checkRow_ok (h : WindowShape stream windows width height)
    (hplane : planeIndex < stream.codedPlaneCount) (hy : y < height planeIndex) (rows : String) :
    checkRow stream windows planeIndex y rows = .ok () := by
  have hshape : ¬(windows.length ≤ planeIndex ∨
      (planeWindow windows planeIndex).height.toNat ≤ y) := by
    rw [h.planes, h.height planeIndex hplane]
    omega
  have hrow (format : SampleFormat) (hformat : sampleFormatForBitDepth stream.bitsPerRawSample =
      format) : rowOfFormat format windows planeIndex y ≠ none := by
    unfold rowOfFormat
    rw [if_neg fun hbad => hshape (hbad.imp_right (Or.resolve_right · fun hne =>
      hne ((h.sampleFormat planeIndex hplane).trans hformat)))]
    exact Option.some_ne_none _
  unfold checkRow
  simp only [except_bind_ok, exists_unit, failIf_ok_iff]
  constructor
  · rintro ⟨hbits, hnone⟩
    exact hrow .uint8 (if_pos hbits) hnone
  · rintro ⟨hbits, hnone⟩
    exact hrow .uint16 (if_neg (UInt8.not_le.mpr hbits)) hnone

/-- The row that is stored of a line of sample values. -/
def storedRow (planeIndex y width : Nat) (row : Nat → Int) : RowStore where
  planeIndex
  y
  row := (List.range width).map fun x => castSample (row x)

omit [SymbolSink W] [SymbolSource R] in
theorem storePlanarLine_mirrors (h : WindowShape stream windows width height)
    (hplane : planeIndex < stream.codedPlaneCount) (hy : y < height planeIndex) (row : Nat → Int)
    (hI : ∀ state, I state → state.LinesSized stream.codedPlaneCount width ∧
      state.LineHolds planeIndex row (width planeIndex))
    (hJ : ∀ state, I state → J (state.modifyLine planeIndex LineState.swapLines)) :
    Mirror.Mirrors (encodingChannel C) F (InStep P I stores)
      (modify (Encoding.modifyState (SliceState.modifyLine · planeIndex LineState.swapLines)) :
        Call (Encoding W) Unit)
      (storePlanarLine stream windows planeIndex y : Call (Decoding R) Unit)
      (fun _ _ => InStep P J (stores ++ [storedRow planeIndex y (width planeIndex) row])) := by
  intro e u e' hi hw
  simp only [Mirror.modify_apply, EStateM.Result.ok.injEq] at hw
  obtain ⟨-, rfl⟩ := hw
  refine ⟨hi, fun hfit => ⟨hfit, fun d hd => ?_⟩⟩
  obtain ⟨hsized, hholds⟩ := hI d.state hd.inv
  have hcurrent := hholds.current_eq hsized hplane
  simp only [storePlanarLine, checkRow_ok h hplane hy]
  refine ⟨hd.symbols, congrArg (SliceState.modifyLine · planeIndex LineState.swapLines) hd.same,
    hJ d.state hd.inv, ?_⟩
  simp only [Decoding.modifyState, Decoding.addStores, hd.stored, storedRow, hcurrent,
    h.width planeIndex hplane]
  rw [List.take_of_length_le (by simp), List.map_map]
  rfl

/-- What the reading of a sample returns, where it succeeds. -/
def inputSample (stream : StreamParameters) (memory : FrameMemory) (windows : List PlaneWindow)
    (planeIndex x y : Nat) : UInt16 :=
  let window := planeWindow windows planeIndex
  if stream.bitsPerRawSample ≤ 8 then
    memory.loadSample .uint8 window.buffer (window.rowAddress y + x)
  else memory.loadSample .uint16 window.buffer (window.rowAddress y + 2 * x)

theorem readInputSample_ok_iff {memory : FrameMemory} {x : Nat} {sample : UInt16} :
    readInputSample stream memory windows planeIndex x y = .ok sample ↔
      inputSample stream memory windows planeIndex x y = sample ∧
        sample.toNat ≤ maximumSample stream := by
  simp only [readInputSample, except_bind_ok, exists_unit, failIf_ok_iff, Nat.not_lt, inputSample]
  constructor
  · rintro ⟨hle, hsample⟩
    obtain rfl := Except.ok.inj hsample
    exact ⟨rfl, hle⟩
  · rintro ⟨rfl, hle⟩
    exact ⟨hle, rfl⟩

theorem supported_depth (h : isSupportedBitDepth stream.bitsPerRawSample = true) :
    1 ≤ stream.bitsPerRawSample.toNat ∧ stream.bitsPerRawSample.toNat ≤ 16 := by
  simpa [isSupportedBitDepth, UInt8.le_iff_toNat_le] using h

theorem maximumSample_lt (stream : StreamParameters) :
    maximumSample stream < 2 ^ stream.bitsPerRawSample.toNat := by
  unfold maximumSample
  split
  · rename_i heq
    rw [heq]
    decide
  · exact Nat.sub_lt (by positivity) (by decide)

/-- The sample values of a row of the input. -/
def inputRow (stream : StreamParameters) (memory : FrameMemory) (windows : List PlaneWindow)
    (planeIndex y x : Nat) : Int :=
  (inputSample stream memory windows planeIndex x y).toNat

theorem readInputSample_fits
    {memory : FrameMemory} {x bits : Nat} (hbits : stream.bitsPerRawSample.toNat ≤ bits)
    {sample : UInt16} (h : readInputSample stream memory windows planeIndex x y = .ok sample) :
    FitsDepth sample.toNat bits := by
  obtain ⟨-, hle⟩ := readInputSample_ok_iff.mp h
  have hlt := Nat.lt_of_le_of_lt hle (maximumSample_lt stream)
  have hpow := Nat.pow_le_pow_right (by decide : 0 < 2) hbits
  exact ⟨by omega, by exact_mod_cast Nat.lt_of_lt_of_le hlt hpow⟩

/-- A sample that is read from the input and coded. -/
theorem codesSample_input
    {bits : Nat} (hbits : stream.bitsPerRawSample.toNat ≤ bits) (memory : FrameMemory) (x : Nat)
    (model : QuantTableSet) (bank : Nat) (signed16bit : Bool) :
    CodesSample (W := W) (do
        let sample ← MonadExcept.ofExcept (readInputSample stream memory windows planeIndex x y)
        encodeSample model bank sample.toNat bits signed16bit planeIndex x)
      model bank (inputRow stream memory windows planeIndex y x) bits signed16bit planeIndex x := by
  intro e u e' h
  obtain ⟨sample, e₁, hcall, hcode⟩ := Mirror.bind_ok_iff.mp h
  obtain ⟨hread, rfl⟩ := Mirror.ofExcept_ok_iff.mp hcall
  have hfits := readInputSample_fits hbits hread
  obtain ⟨rfl, -⟩ := readInputSample_ok_iff.mp hread
  exact ⟨hfits, hcode⟩

/-- The rows of a plane. -/
def planeStores (stream : StreamParameters) (memory : FrameMemory) (windows : List PlaneWindow)
    (width : Nat → Nat) (planeIndex rows : Nat) : List RowStore :=
  (List.range rows).map fun y =>
    storedRow planeIndex y (width planeIndex) (inputRow stream memory windows planeIndex y)

theorem planeStores_eq (memory : FrameMemory) (rows : Nat) :
    planeStores stream memory windows width planeIndex rows = (List.range rows).flatMap fun y =>
      [storedRow planeIndex y (width planeIndex) (inputRow stream memory windows planeIndex y)] :=
  List.map_eq_flatMap

variable {inputs : List PlaneWindow} {setup : RangeSliceSetup}

/-- The setup of the decoder gives every plane the model and the bank of the encoder. -/
def SetupMatches (stream : StreamParameters) (setup : RangeSliceSetup) : Prop :=
  ∀ planeIndex < stream.codedPlaneCount,
    setup.contextModels.getD planeIndex {} = stream.quantTableSets.getD 0 {} ∧
      setup.rangeContextBankIndexes.getD planeIndex 0 = encoderContextBank stream planeIndex

/-- The row of a planar slice. -/
theorem planarRow_mirrors (hcopies : SymbolCopies C F P)
    (hdepth : isSupportedBitDepth stream.bitsPerRawSample = true)
    (hsetup : SetupMatches stream setup) (hinput : WindowShape stream inputs width height)
    (houtput : WindowShape stream windows width height)
    (hplane : planeIndex < stream.codedPlaneCount) (hy : y < height planeIndex)
    (memory : FrameMemory) :
    Mirror.Mirrors (encodingChannel C) F
      (InStep P (fun state => state.LinesSized stream.codedPlaneCount width) stores)
      (encodePlaneRow stream memory inputs planeIndex y : Call (Encoding W) Unit)
      (decodePlanarLine stream setup windows planeIndex y : Call (Decoding R) Unit)
      (fun _ _ => InStep P (fun state => state.LinesSized stream.codedPlaneCount width)
        (stores ++ [storedRow planeIndex y (width planeIndex)
          (inputRow stream memory inputs planeIndex y)])) := by
  have hbits := supported_depth hdepth
  unfold encodePlaneRow decodePlanarLine decodePlaneLine
  rw [(hsetup planeIndex hplane).1, (hsetup planeIndex hplane).2, houtput.width planeIndex hplane,
    hinput.width planeIndex hplane]
  refine Mirror.Mirrors.bind (Q := fun _ _ => InStep P (fun state =>
    state.LinesSized stream.codedPlaneCount width ∧ LineCoded planeIndex
      (inputRow stream memory inputs planeIndex y) stream.bitsPerRawSample.toNat
      (width planeIndex) state ∧ True) stores) ?_ fun _ _ =>
    storePlanarLine_mirrors houtput hplane hy (inputRow stream memory inputs planeIndex y)
      (fun _ hstate => ⟨hstate.1, hstate.2.1.holds⟩) fun _ hstate => hstate.1.swapLines
  refine (line_mirrors (K := fun _ => True) hcopies (fun x _ =>
    codesSample_input (le_refl _) memory x _ _ _) ⟨hbits.1, by omega⟩ hplane
    (fun _ _ _ h => h) setup.readerBaseOffset).consequence id
    (fun e d h => h.imp fun _ hstate => ⟨hstate, trivial⟩) fun _ _ _ _ h => h

theorem plane_mirrors (hcopies : SymbolCopies C F P)
    (hdepth : isSupportedBitDepth stream.bitsPerRawSample = true)
    (hsetup : SetupMatches stream setup) (hinput : WindowShape stream inputs width height)
    (houtput : WindowShape stream windows width height)
    (hplane : planeIndex < stream.codedPlaneCount) (memory : FrameMemory) :
    Mirror.Mirrors (encodingChannel C) F
      (InStep P (fun state => state.LinesSized stream.codedPlaneCount width) stores)
      (encodePlane stream memory inputs planeIndex : Call (Encoding W) Unit)
      (decodePlane stream setup windows planeIndex : Call (Decoding R) Unit)
      (fun _ _ => InStep P (fun state => state.LinesSized stream.codedPlaneCount width)
        (stores ++ planeStores stream memory inputs width planeIndex (height planeIndex))) := by
  unfold encodePlane decodePlane
  rw [hinput.height planeIndex hplane, houtput.height planeIndex hplane, planeStores_eq]
  exact storing_mirrors (height planeIndex) fun y hy _ =>
    planarRow_mirrors hcopies hdepth hsetup hinput houtput hplane hy memory

/-- The rows of a planar slice, plane by plane. -/
def planarStores (stream : StreamParameters) (memory : FrameMemory) (windows : List PlaneWindow)
    (width height : Nat → Nat) (planes : Nat) : List RowStore :=
  (List.range planes).flatMap fun planeIndex =>
    planeStores stream memory windows width planeIndex (height planeIndex)

theorem planes_mirrors (hcopies : SymbolCopies C F P)
    (hdepth : isSupportedBitDepth stream.bitsPerRawSample = true)
    (hsetup : SetupMatches stream setup) (hinput : WindowShape stream inputs width height)
    (houtput : WindowShape stream windows width height) (memory : FrameMemory) :
    Mirror.Mirrors (encodingChannel C) F
      (InStep P (fun state => state.LinesSized stream.codedPlaneCount width) stores)
      (encodePlanes stream memory inputs : Call (Encoding W) Unit)
      (decodePlanes stream setup windows : Call (Decoding R) Unit)
      (fun _ _ => InStep P (fun state => state.LinesSized stream.codedPlaneCount width)
        (stores ++ planarStores stream memory inputs width height stream.codedPlaneCount)) := by
  unfold encodePlanes decodePlanes planarStores
  rw [houtput.planes]
  exact storing_mirrors stream.codedPlaneCount fun planeIndex hplane _ =>
    plane_mirrors hcopies hdepth hsetup hinput houtput hplane memory

end Planes

end Samples

end Mffv1
