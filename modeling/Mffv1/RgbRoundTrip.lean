import Mffv1.SampleRoundTrip

/-!
# RGB rows are read back

A row of an RGB slice is transformed, its planes are coded line by line, and the
decoder inverts the transform when all of them are complete.
-/
namespace Mffv1

section Rgb

variable {W R : Type} [SymbolSink W] [SymbolSource R] {C : Mirror.Channel W} {F : Prop}
  {P : W → R → Prop} {I J : SliceState → Prop} {stores : List RowStore} {stream : StreamParameters}
  {windows inputs : List PlaneWindow} {width height : Nat → Nat}
  {planeIndex y : Nat} {setup : RangeSliceSetup} {memory : FrameMemory}

/-- The colour sample of a column. -/
def inputRgb (stream : StreamParameters) (memory : FrameMemory) (windows : List PlaneWindow)
    (y x : Nat) : RgbSample where
  r := inputSample stream memory windows 0 x y
  g := inputSample stream memory windows 1 x y
  b := inputSample stream memory windows 2 x y

/-- The coded values of a row: three transformed planes, and the extra one as it is. -/
def rgbRowValue (stream : StreamParameters) (memory : FrameMemory) (windows : List PlaneWindow)
    (y planeIndex x : Nat) : Int :=
  if planeIndex < 3 then
    let sample := inputRgb stream memory windows y x
    (forwardJpeg2000Rct sample.r sample.g sample.b stream.bitsPerRawSample.toNat
      stream.extraPlane).component planeIndex
  else inputRow stream memory windows planeIndex y x

/-- The colour samples of a row that fit the depth. -/
def RgbRowFits (stream : StreamParameters) (memory : FrameMemory) (windows : List PlaneWindow)
    (y width : Nat) : Prop :=
  ∀ x < width, ∀ planeIndex < 3,
    (inputSample stream memory windows planeIndex x y).toNat < 2 ^ stream.bitsPerRawSample.toNat

theorem readRgbSample_ok {x : Nat}
    {sample : RgbSample} (h : readRgbSample stream memory windows y x = .ok sample) :
    sample = inputRgb stream memory windows y x ∧ ∀ planeIndex < 3,
      (inputSample stream memory windows planeIndex x y).toNat <
        2 ^ stream.bitsPerRawSample.toNat := by
  simp only [readRgbSample, except_bind_ok] at h
  obtain ⟨r, hr, g, hg, b, hb, hsample⟩ := h
  obtain rfl := Except.ok.inj hsample
  obtain ⟨rfl, hr⟩ := readInputSample_ok_iff.mp hr
  obtain ⟨rfl, hg⟩ := readInputSample_ok_iff.mp hg
  obtain ⟨rfl, hb⟩ := readInputSample_ok_iff.mp hb
  have hmaximum := maximumSample_lt stream
  refine ⟨rfl, fun planeIndex hplane => ?_⟩
  match planeIndex, hplane with
  | 0, _ => omega
  | 1, _ => omega
  | 2, _ => omega

theorem readRgbRow_ok {width : Nat}
    {samples : List RgbSample}
    (h : (List.range width).mapM (readRgbSample stream memory windows y) = .ok samples) :
    samples = (List.range width).map (inputRgb stream memory windows y) ∧
      RgbRowFits stream memory windows y width := by
  obtain ⟨hsamples, hfits⟩ := except_mapM_ok (fun _ _ => readRgbSample_ok) h
  exact ⟨hsamples, fun x hx => hfits x (List.mem_range.mpr hx)⟩

theorem transformRow_getD {width x : Nat} (samples : Nat → RgbSample) (hx : x < width) :
    (transformRow stream ((List.range width).map samples)).getD x {} =
      forwardJpeg2000Rct (samples x).r (samples x).g (samples x).b stream.bitsPerRawSample.toNat
        stream.extraPlane := by
  have hget (field : RgbSample → UInt16) :
      (((List.range width).map samples).map field).getD x 0 = field (samples x) := by
    simp [List.getD_eq_getElem?_getD, hx]
  simp only [transformRow, forwardColorTransformRow, List.length_map, List.length_range]
  rw [List.getD_eq_getElem?_getD, List.getElem?_map, List.getElem?_range hx]
  simp only [Option.map_some, Option.getD_some, hget]

theorem component_fits {code : RgbCode} {bits : Nat}
    (h : FitsDepth code.y bits ∧ FitsDepth code.cb bits ∧ FitsDepth code.cr bits)
    (planeIndex : Nat) : FitsDepth (code.component planeIndex) bits := by
  match planeIndex with
  | 0 => exact h.1
  | 1 => exact h.2.1
  | _ + 2 => exact h.2.2

theorem rgbBits_supported (hdepth : isSupportedBitDepth stream.bitsPerRawSample = true)
    (planeIndex : Nat) : 1 ≤ rgbReconstructionBits stream planeIndex ∧
      rgbReconstructionBits stream planeIndex ≤ 30 := by
  have hbits := supported_depth hdepth
  unfold rgbReconstructionBits
  split <;> omega

/-- The samples of a plane of a row are coded. -/
theorem codesSample_rgb (hdepth : isSupportedBitDepth stream.bitsPerRawSample = true) {rowWidth x : Nat}
    (hfits : RgbRowFits stream memory inputs y rowWidth) (hx : x < rowWidth) :
    CodesSample (W := W) (do
        let sample ←
          if planeIndex < 3 then pure (((transformRow stream ((List.range rowWidth).map
            (inputRgb stream memory inputs y))).getD x {}).component planeIndex)
          else do
            let alpha ← MonadExcept.ofExcept (readInputSample stream memory inputs planeIndex x y)
            pure (alpha.toNat : Int)
        encodeSample (stream.quantTableSets.getD 0 {}) (encoderContextBank stream planeIndex) sample
          (rgbReconstructionBits stream planeIndex) false planeIndex x)
      (stream.quantTableSets.getD 0 {}) (encoderContextBank stream planeIndex)
      (rgbRowValue stream memory inputs y planeIndex x) (rgbReconstructionBits stream planeIndex)
      false planeIndex x := by
  have hbits := supported_depth hdepth
  unfold rgbRowValue rgbReconstructionBits
  by_cases hplane : planeIndex < 3
  · simp only [if_pos hplane, pure_bind, transformRow_getD _ hx]
    intro e u e' h
    exact ⟨component_fits (forwardJpeg2000Rct_fits (by omega) (hfits x hx 0 (by decide))
      (hfits x hx 1 (by decide)) (hfits x hx 2 (by decide)) _) planeIndex, h⟩
  · simp only [if_neg hplane, pure_bind]
    exact codesSample_input (le_refl _) memory x _ _ _

/-- All planes of a row, before it is stored. -/
theorem rgbLines_mirrors (hcopies : SymbolCopies C F P)
    (hdepth : isSupportedBitDepth stream.bitsPerRawSample = true)
    (hsetup : SetupMatches stream setup) (houtput : WindowShape stream windows width height)
    (hwidth : ∀ planeIndex < stream.codedPlaneCount, width planeIndex = width 0)
    (hfits : RgbRowFits stream memory inputs y (width 0)) :
    Mirror.Mirrors (encodingChannel C) F
      (InStep P (fun state => state.LinesSized stream.codedPlaneCount width) stores)
      (Mirror.forLoop 0 stream.codedPlaneCount (encodeRgbPlaneRow stream memory inputs
        (transformRow stream ((List.range (width 0)).map (inputRgb stream memory inputs y)))
        (width 0) y) : Call (Encoding W) Unit)
      (Mirror.forLoop 0 windows.length fun planeIndex =>
        decodePlaneLine setup windows (rgbReconstructionBits stream planeIndex) false planeIndex 0 :
        Call (Decoding R) Unit)
      (fun _ _ => InStep P (fun state => state.LinesSized stream.codedPlaneCount width ∧
        ∀ planeIndex < stream.codedPlaneCount, LineCoded planeIndex
          (rgbRowValue stream memory inputs y planeIndex) (rgbReconstructionBits stream planeIndex)
          (width planeIndex) state) stores) := by
  have hloop := Mirror.Mirrors.forLoop (C := encodingChannel C) (F := F)
    (I := fun planes => InStep P (fun state => state.LinesSized stream.codedPlaneCount width ∧
      ∀ planeIndex < planes, LineCoded planeIndex (rgbRowValue stream memory inputs y planeIndex)
        (rgbReconstructionBits stream planeIndex) (width planeIndex) state) stores)
    (w := encodeRgbPlaneRow (W := W) stream memory inputs
      (transformRow stream ((List.range (width 0)).map (inputRgb stream memory inputs y)))
      (width 0) y)
    (r := fun planeIndex => decodePlaneLine (R := R) setup windows
      (rgbReconstructionBits stream planeIndex) false planeIndex 0) 0 stream.codedPlaneCount
    fun planeIndex _ hplane => by
      rw [Nat.zero_add] at hplane
      unfold encodeRgbPlaneRow decodePlaneLine
      rw [(hsetup planeIndex hplane).1, (hsetup planeIndex hplane).2,
        houtput.width 0 (by omega), ← hwidth planeIndex hplane]
      have hline : Mirror.Mirrors (encodingChannel C) F (InStep P _ stores) _ _
          (fun _ _ => InStep P (fun state => _ ∧ LineCoded planeIndex
            (rgbRowValue stream memory inputs y planeIndex) _ _ state ∧ _) stores) :=
        line_mirrors (K := fun state => ∀ other < planeIndex, LineCoded other
            (rgbRowValue stream memory inputs y other) (rgbReconstructionBits stream other)
            (width other) state) hcopies
          (fun x hx => codesSample_rgb hdepth (hwidth planeIndex hplane ▸ hfits) hx)
          (rgbBits_supported hdepth planeIndex) hplane
          (fun state x value hK other hother => (hK other hother).store_other (by omega) x value)
          setup.readerBaseOffset
      refine hline.consequence id (fun _ _ h => h) fun _ _ e d h => h.imp fun state hstate => ?_
      refine ⟨hstate.1, fun other hother => ?_⟩
      rcases Nat.lt_succ_iff_lt_or_eq.mp hother with hlt | rfl
      · exact hstate.2.2 other hlt
      · exact hstate.2.1
  rw [Nat.zero_add] at hloop
  rw [houtput.planes]
  refine hloop.consequence id (fun _ _ h => h.imp fun state hstate => ?_) fun _ _ _ _ h => h
  exact ⟨hstate, fun planeIndex hlt => absurd hlt (Nat.not_lt_zero _)⟩

theorem checkRgbRows_ok (h : WindowShape stream windows width height) {count first : Nat}
    (hcount : first + count ≤ stream.codedPlaneCount)
    (hheight : ∀ planeIndex < stream.codedPlaneCount, y < height planeIndex) :
    checkRgbRows stream windows y count first = .ok () := by
  induction count generalizing first with
  | zero => rfl
  | succ count ih =>
    simp only [checkRgbRows, except_bind_ok, exists_unit]
    exact ⟨checkRow_ok h (by omega) (hheight first (by omega)) _, ih (by omega)⟩

theorem castSample_toNat (sample : UInt16) : castSample (sample.toNat : Int) = sample := by
  have hlt := sample.toNat_lt
  unfold castSample
  rw [Int.emod_eq_of_lt (by omega) (by exact_mod_cast hlt), Int.toNat_natCast]
  exact UInt16.ofNat_toNat

theorem storedRow_input (planeIndex rowWidth : Nat) :
    storedRow planeIndex y rowWidth (inputRow stream memory inputs planeIndex y) =
      { planeIndex, y, row := (List.range rowWidth).map fun x =>
          inputSample stream memory inputs planeIndex x y } := by
  simp [storedRow, inputRow, castSample_toNat]

theorem truncate_toNat {sample : UInt16} (h : sample.toNat < 2 ^ stream.bitsPerRawSample.toNat) :
    truncateToRawSampleBits (sample.toNat : Int) stream.bitsPerRawSample.toNat = sample := by
  unfold truncateToRawSampleBits
  split
  · exact castSample_toNat sample
  · rw [Int.emod_eq_of_lt (by omega) (by exact_mod_cast h), Int.toNat_natCast]
    exact UInt16.ofNat_toNat

/-- The rows of an RGB slice, all planes of a row together. -/
def rgbRowStoresOf (stream : StreamParameters) (memory : FrameMemory) (windows : List PlaneWindow)
    (width y : Nat) : List RowStore :=
  (List.range stream.codedPlaneCount).map fun planeIndex =>
    storedRow planeIndex y width (inputRow stream memory windows planeIndex y)

theorem inverseRow_eq (hdepth : isSupportedBitDepth stream.bitsPerRawSample = true) {rowWidth : Nat}
    (hfits : RgbRowFits stream memory inputs y rowWidth) :
    inverseColorTransformRow ((List.range rowWidth).map (rgbRowValue stream memory inputs y 0))
      ((List.range rowWidth).map (rgbRowValue stream memory inputs y 1))
      ((List.range rowWidth).map (rgbRowValue stream memory inputs y 2)) rowWidth
      stream.bitsPerRawSample.toNat stream.extraPlane =
      (List.range rowWidth).map (inputRgb stream memory inputs y) := by
  have hbits := supported_depth hdepth
  unfold inverseColorTransformRow
  refine List.map_congr_left fun x hx => ?_
  have hlt := List.mem_range.mp hx
  have hget (row : Nat → Int) : ((List.range rowWidth).map row).getD x 0 = row x := by
    simp [List.getD_eq_getElem?_getD, hlt]
  rw [hget, hget, hget]
  exact inverseJpeg2000Rct_forward (by omega) (hfits x hlt 0 (by decide))
    (hfits x hlt 1 (by decide)) (hfits x hlt 2 (by decide)) _

/-- What a row of complete lines stores. -/
theorem rgbRowStores_eq (hdepth : isSupportedBitDepth stream.bitsPerRawSample = true)
    (hchroma : stream.chromaPlanes = true) {state : SliceState}
    (hsized : state.LinesSized stream.codedPlaneCount width)
    (hwidth : ∀ planeIndex < stream.codedPlaneCount, width planeIndex = width 0)
    (hfits : RgbRowFits stream memory inputs y (width 0))
    (halpha : stream.extraPlane = true → ∀ x < width 0,
      (inputSample stream memory inputs 3 x y).toNat < 2 ^ stream.bitsPerRawSample.toNat)
    (hholds : ∀ planeIndex < stream.codedPlaneCount, state.LineHolds planeIndex
      (rgbRowValue stream memory inputs y planeIndex) (width planeIndex)) :
    rgbRowStores stream (width 0) y state = rgbRowStoresOf stream memory inputs (width 0) y := by
  have hline (planeIndex : Nat) (hplane : planeIndex < stream.codedPlaneCount) :
      (state.lineState planeIndex).current =
        (List.range (width 0)).map (rgbRowValue stream memory inputs y planeIndex) := by
    rw [(hholds planeIndex hplane).current_eq hsized hplane, hwidth planeIndex hplane]
  have hthree : 3 ≤ stream.codedPlaneCount := by simp [StreamParameters.codedPlaneCount, hchroma]
  unfold rgbRowStores rgbRowStoresOf
  simp only [hline 0 (by omega), hline 1 (by omega), hline 2 (by omega), inverseRow_eq hdepth hfits,
    storedRow_input, List.map_map]
  cases hextra : stream.extraPlane with
  | false =>
    have hcount : stream.codedPlaneCount = 3 := by
      simp [StreamParameters.codedPlaneCount, hchroma, hextra]
    simp [hcount, List.range_succ, inputRgb, Function.comp_def]
  | true =>
    have hcount : stream.codedPlaneCount = 4 := by
      simp [StreamParameters.codedPlaneCount, hchroma, hextra]
    have hrow : (List.range (width 0)).map ((truncateToRawSampleBits · stream.bitsPerRawSample.toNat) ∘
        rgbRowValue stream memory inputs y 3) =
        (List.range (width 0)).map fun x => inputSample stream memory inputs 3 x y :=
      List.map_congr_left fun x hx =>
        truncate_toNat (halpha hextra x (List.mem_range.mp hx))
    rw [hline 3 (by omega), List.take_of_length_le (by simp), List.map_map, hrow]
    simp [hcount, List.range_succ, inputRgb, Function.comp_def]

/-- The samples of the extra plane of a row that fit the depth. -/
def AlphaFits (stream : StreamParameters) (memory : FrameMemory) (windows : List PlaneWindow)
    (y width : Nat) : Prop :=
  stream.extraPlane = true → ∀ x < width,
    (inputSample stream memory windows 3 x y).toNat < 2 ^ stream.bitsPerRawSample.toNat

theorem alphaFits_of_coded (hchroma : stream.chromaPlanes = true)
    (hwidth : ∀ planeIndex < stream.codedPlaneCount, width planeIndex = width 0)
    {state : SliceState} (hcoded : ∀ planeIndex < stream.codedPlaneCount, LineCoded planeIndex
      (rgbRowValue stream memory inputs y planeIndex) (rgbReconstructionBits stream planeIndex)
      (width planeIndex) state) : AlphaFits stream memory inputs y (width 0) := by
  intro hextra x hx
  have hcount : stream.codedPlaneCount = 4 := by
    simp [StreamParameters.codedPlaneCount, hchroma, hextra]
  have hline := ((hcoded 3 (by omega)).fits x (by rwa [hwidth 3 (by omega)])).2
  simp only [rgbRowValue, rgbReconstructionBits, inputRow, Nat.lt_irrefl, if_false] at hline
  exact_mod_cast hline

omit [SymbolSink W] [SymbolSource R] in
theorem storeRgbLine_mirrors (hdepth : isSupportedBitDepth stream.bitsPerRawSample = true)
    (hchroma : stream.chromaPlanes = true) (houtput : WindowShape stream windows width height)
    (hwidth : ∀ planeIndex < stream.codedPlaneCount, width planeIndex = width 0)
    (hheight : ∀ planeIndex < stream.codedPlaneCount, y < height planeIndex)
    (hfits : RgbRowFits stream memory inputs y (width 0))
    (hI : ∀ state, I state → state.LinesSized stream.codedPlaneCount width ∧
      AlphaFits stream memory inputs y (width 0) ∧
      ∀ planeIndex < stream.codedPlaneCount, state.LineHolds planeIndex
        (rgbRowValue stream memory inputs y planeIndex) (width planeIndex))
    (hJ : ∀ state, I state → J state.swapAllLines) {swap : SliceState → SliceState}
    (hswap : ∀ state, I state → swap state = state.swapAllLines) :
    Mirror.Mirrors (encodingChannel C) F (InStep P I stores)
      (modify (Encoding.modifyState swap) : Call (Encoding W) Unit)
      (storeRgbLine stream windows y : Call (Decoding R) Unit)
      (fun _ _ => InStep P J (stores ++ rgbRowStoresOf stream memory inputs (width 0) y)) := by
  have hthree : 3 ≤ stream.codedPlaneCount := by simp [StreamParameters.codedPlaneCount, hchroma]
  intro e u e' hi hw
  simp only [Mirror.modify_apply, EStateM.Result.ok.injEq] at hw
  obtain ⟨-, rfl⟩ := hw
  refine ⟨hi, fun hfit => ⟨hfit, fun d hd => ?_⟩⟩
  obtain ⟨hsized, halpha, hholds⟩ := hI d.state hd.inv
  have hrows := rgbRowStores_eq hdepth hchroma hsized hwidth hfits halpha hholds
  have hcheck : checkRgbRows stream windows y stream.codedPlaneCount 0 = .ok () :=
    checkRgbRows_ok houtput (by omega) hheight
  simp only [storeRgbLine, houtput.planes, hcheck, houtput.width 0 (by omega)]
  have hsame : swap e.state = d.state.swapAllLines := by rw [hd.same, hswap d.state hd.inv]
  refine ⟨hd.symbols, hsame, hJ d.state hd.inv, ?_⟩
  simp only [Decoding.modifyState, Decoding.addStores, hd.stored]
  rw [← hrows]

theorem rgbRow_mirrors (hcopies : SymbolCopies C F P)
    (hdepth : isSupportedBitDepth stream.bitsPerRawSample = true)
    (hchroma : stream.chromaPlanes = true) (hsetup : SetupMatches stream setup)
    (hinput : WindowShape stream inputs width height)
    (houtput : WindowShape stream windows width height)
    (hwidth : ∀ planeIndex < stream.codedPlaneCount, width planeIndex = width 0)
    (hheight : ∀ planeIndex < stream.codedPlaneCount, y < height planeIndex) :
    Mirror.Mirrors (encodingChannel C) F
      (InStep P (fun state => state.LinesSized stream.codedPlaneCount width) stores)
      (encodeRgbRow stream memory inputs y : Call (Encoding W) Unit)
      (decodeRgbRow stream setup windows y : Call (Decoding R) Unit)
      (fun _ _ => InStep P (fun state => state.LinesSized stream.codedPlaneCount width)
        (stores ++ rgbRowStoresOf stream memory inputs (width 0) y)) := by
  have hthree : 3 ≤ stream.codedPlaneCount := by simp [StreamParameters.codedPlaneCount, hchroma]
  unfold encodeRgbRow decodeRgbRow
  rw [hinput.width 0 (by omega)]
  refine Mirror.Mirrors.ofExcept_writer fun samples hsamples => ?_
  obtain ⟨rfl, hfits⟩ := readRgbRow_ok hsamples
  refine Mirror.Mirrors.bind (rgbLines_mirrors hcopies hdepth hsetup houtput hwidth hfits)
    fun _ _ => ?_
  refine storeRgbLine_mirrors hdepth hchroma houtput hwidth hheight hfits (fun state hstate => ?_)
    (fun state hstate => hstate.1.swapAllLines) fun _ _ => rfl
  exact ⟨hstate.1, alphaFits_of_coded hchroma hwidth hstate.2,
    fun planeIndex hplane => (hstate.2 planeIndex hplane).holds⟩

/-- The rows of an RGB slice. -/
def rgbStores (stream : StreamParameters) (memory : FrameMemory) (windows : List PlaneWindow)
    (width rows : Nat) : List RowStore :=
  (List.range rows).flatMap (rgbRowStoresOf stream memory windows width)

theorem rgbRows_mirrors (hcopies : SymbolCopies C F P)
    (hdepth : isSupportedBitDepth stream.bitsPerRawSample = true)
    (hchroma : stream.chromaPlanes = true) (hsetup : SetupMatches stream setup)
    (hinput : WindowShape stream inputs width height)
    (houtput : WindowShape stream windows width height)
    (hwidth : ∀ planeIndex < stream.codedPlaneCount, width planeIndex = width 0)
    (hheight : ∀ planeIndex < stream.codedPlaneCount, height planeIndex = height 0) :
    Mirror.Mirrors (encodingChannel C) F
      (InStep P (fun state => state.LinesSized stream.codedPlaneCount width) stores)
      (encodeRgbRows stream memory inputs : Call (Encoding W) Unit)
      (decodeRgbRows stream setup windows : Call (Decoding R) Unit)
      (fun _ _ => InStep P (fun state => state.LinesSized stream.codedPlaneCount width)
        (stores ++ rgbStores stream memory inputs (width 0) (height 0))) := by
  have hthree : 3 ≤ stream.codedPlaneCount := by simp [StreamParameters.codedPlaneCount, hchroma]
  unfold encodeRgbRows decodeRgbRows rgbStores
  rw [hinput.height 0 (by omega), houtput.height 0 (by omega)]
  exact storing_mirrors (height 0) fun y hy _ =>
    rgbRow_mirrors hcopies hdepth hchroma hsetup hinput houtput hwidth
      fun planeIndex hplane => by rwa [hheight planeIndex hplane]

end Rgb

end Mffv1
