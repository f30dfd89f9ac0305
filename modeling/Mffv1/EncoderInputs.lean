import Mffv1.DecoderFollows

/-!
# What the encoder sees of its inputs

Two runs of the encoder over frames with the same samples put out the same bytes: neither
the padding of the rows nor the memory between the planes has a part in them. So what a
decoder puts out is encoded to the frame that it came from.
-/
namespace Mffv1

theorem forLoop_agrees {m : Type → Type} [Monad m] {body body' : Nat → m PUnit} {start count : Nat}
    (h : ∀ i, start ≤ i → i < start + count → body i = body' i) :
    Mirror.forLoop start count body = Mirror.forLoop start count body' := by
  induction count generalizing start with
  | zero => rfl
  | succ count ih =>
    rw [Mirror.forLoop_succ, Mirror.forLoop_succ, h start (Nat.le_refl _) (by omega),
      ih fun i hle hlt => h i (by omega) (by omega)]

theorem mapM_agrees {α β : Type} {f g : α → Except Error β} {items : List α}
    (h : ∀ item ∈ items, f item = g item) : items.mapM f = items.mapM g := by
  induction items with
  | nil => rfl
  | cons item items ih =>
    rw [List.mapM_cons, List.mapM_cons, h item List.mem_cons_self,
      ih fun other hmem => h other (List.mem_cons_of_mem _ hmem)]

theorem readInputSample_eq (stream : StreamParameters) (memory : FrameMemory)
    (windows : List PlaneWindow) (planeIndex x y : Nat) :
    readInputSample stream memory windows planeIndex x y = (do
      failIf (maximumSample stream < (inputSample stream memory windows planeIndex x y).toNat)
        (makeError .invalidArgument "input sample exceeds configured bit depth")
      return inputSample stream memory windows planeIndex x y) := rfl

/-- Windows of the same sizes, on memories with the same samples in them. -/
structure SameWindows (stream : StreamParameters) (memory memory' : FrameMemory)
    (windows windows' : List PlaneWindow) (width height : Nat → Nat) : Prop where
  shape : WindowShape stream windows width height
  shape' : WindowShape stream windows' width height
  rgb : stream.colorspaceType = 1 → stream.chromaPlanes = true ∧
    ∀ planeIndex < stream.codedPlaneCount,
      width planeIndex = width 0 ∧ height planeIndex = height 0
  samples : ∀ planeIndex < stream.codedPlaneCount, ∀ x < width planeIndex,
    ∀ y < height planeIndex, inputSample stream memory windows planeIndex x y =
      inputSample stream memory' windows' planeIndex x y

namespace SameWindows

variable {stream : StreamParameters} {memory memory' : FrameMemory}
  {windows windows' : List PlaneWindow} {width height : Nat → Nat} {planeIndex x y : Nat}

theorem read (h : SameWindows stream memory memory' windows windows' width height)
    (hplane : planeIndex < stream.codedPlaneCount) (hx : x < width planeIndex)
    (hy : y < height planeIndex) : readInputSample stream memory windows planeIndex x y =
      readInputSample stream memory' windows' planeIndex x y := by
  rw [readInputSample_eq, readInputSample_eq, h.samples planeIndex hplane x hx y hy]

/-- The first plane of RGB tells the size of all. -/
theorem rgb_plane (h : SameWindows stream memory memory' windows windows' width height)
    (hcolor : stream.colorspaceType = 1) (hplane : planeIndex < stream.codedPlaneCount)
    (hx : x < width 0) (hy : y < height 0) : x < width planeIndex ∧ y < height planeIndex := by
  obtain ⟨hwidth, hheight⟩ := (h.rgb hcolor).2 planeIndex hplane
  exact ⟨hwidth ▸ hx, hheight ▸ hy⟩

theorem planes_three (h : SameWindows stream memory memory' windows windows' width height)
    (hcolor : stream.colorspaceType = 1) : 3 ≤ stream.codedPlaneCount := by
  unfold StreamParameters.codedPlaneCount
  rw [(h.rgb hcolor).1]
  simp

theorem readRgb (h : SameWindows stream memory memory' windows windows' width height)
    (hcolor : stream.colorspaceType = 1) (hx : x < width 0) (hy : y < height 0) :
    readRgbSample stream memory windows y x = readRgbSample stream memory' windows' y x := by
  have hcoded := h.planes_three hcolor
  have hread (planeIndex : Nat) (hplane : planeIndex < 3) :
      readInputSample stream memory windows planeIndex x y =
        readInputSample stream memory' windows' planeIndex x y := by
    obtain ⟨hx', hy'⟩ := h.rgb_plane hcolor (Nat.lt_of_lt_of_le hplane hcoded) hx hy
    exact h.read (Nat.lt_of_lt_of_le hplane hcoded) hx' hy'
  unfold readRgbSample
  rw [hread 0 (by decide), hread 1 (by decide), hread 2 (by decide)]

/-- The extra plane of RGB. -/
theorem readAlpha (h : SameWindows stream memory memory' windows windows' width height)
    (hcolor : stream.colorspaceType = 1) (hextra : stream.extraPlane = true) (hx : x < width 0)
    (hy : y < height 0) : readInputSample stream memory windows 3 x y =
      readInputSample stream memory' windows' 3 x y := by
  have hplane : 3 < stream.codedPlaneCount := by
    unfold StreamParameters.codedPlaneCount
    rw [(h.rgb hcolor).1, hextra]
    decide
  obtain ⟨hx', hy'⟩ := h.rgb_plane hcolor hplane hx hy
  exact h.read hplane hx' hy'

theorem readRgba (h : SameWindows stream memory memory' windows windows' width height)
    (hcolor : stream.colorspaceType = 1) (hx : x < width 0) (hy : y < height 0) :
    readRgbaSample stream memory windows y x = readRgbaSample stream memory' windows' y x := by
  unfold readRgbaSample
  rw [h.readRgb hcolor hx hy]
  cases hextra : stream.extraPlane with
  | true => rw [h.readAlpha hcolor hextra hx hy]
  | false => rfl

theorem planeWindow_width (h : SameWindows stream memory memory' windows windows' width height)
    (hplane : planeIndex < stream.codedPlaneCount) :
    (planeWindow windows planeIndex).width.toNat = width planeIndex ∧
      (planeWindow windows' planeIndex).width.toNat = width planeIndex :=
  ⟨h.shape.width planeIndex hplane, h.shape'.width planeIndex hplane⟩

theorem planeWindow_height (h : SameWindows stream memory memory' windows windows' width height)
    (hplane : planeIndex < stream.codedPlaneCount) :
    (planeWindow windows planeIndex).height.toNat = height planeIndex ∧
      (planeWindow windows' planeIndex).height.toNat = height planeIndex :=
  ⟨h.shape.height planeIndex hplane, h.shape'.height planeIndex hplane⟩

section Loops

variable {W : Type} [SymbolSink W]

theorem encodePlaneRow_agrees (h : SameWindows stream memory memory' windows windows' width height)
    (hplane : planeIndex < stream.codedPlaneCount) (hy : y < height planeIndex) :
    encodePlaneRow (W := W) stream memory windows planeIndex y =
      encodePlaneRow stream memory' windows' planeIndex y := by
  obtain ⟨hwidth, hwidth'⟩ := h.planeWindow_width hplane
  unfold encodePlaneRow
  rw [hwidth, hwidth', forLoop_agrees fun x _ hx => ?_]
  rw [h.read hplane (by omega) hy]

theorem encodePlanes_agrees (h : SameWindows stream memory memory' windows windows' width height) :
    encodePlanes (W := W) stream memory windows = encodePlanes stream memory' windows' := by
  unfold encodePlanes
  refine forLoop_agrees fun planeIndex _ hplane => ?_
  rw [Nat.zero_add] at hplane
  obtain ⟨hheight, hheight'⟩ := h.planeWindow_height hplane
  unfold encodePlane
  rw [hheight, hheight']
  exact forLoop_agrees fun y _ hy => h.encodePlaneRow_agrees hplane (by omega)

theorem encodeRgbRow_agrees (h : SameWindows stream memory memory' windows windows' width height)
    (hcolor : stream.colorspaceType = 1) (hy : y < height 0) :
    encodeRgbRow (W := W) stream memory windows y = encodeRgbRow stream memory' windows' y := by
  obtain ⟨hwidth, hwidth'⟩ := h.planeWindow_width stream.codedPlaneCount_pos
  have hrow : (List.range (width 0)).mapM (readRgbSample stream memory windows y) =
      (List.range (width 0)).mapM (readRgbSample stream memory' windows' y) :=
    mapM_agrees fun x hx => h.readRgb hcolor (List.mem_range.mp hx) hy
  have hplanes (transformed : List RgbCode) :
      Mirror.forLoop 0 stream.codedPlaneCount
          (encodeRgbPlaneRow (W := W) stream memory windows transformed (width 0) y) =
        Mirror.forLoop 0 stream.codedPlaneCount
          (encodeRgbPlaneRow stream memory' windows' transformed (width 0) y) := by
    refine forLoop_agrees fun planeIndex _ hplane => forLoop_agrees fun x _ hx => ?_
    rw [Nat.zero_add] at hplane hx
    by_cases hthree : planeIndex < 3
    · rw [if_pos hthree, if_pos hthree]
    · obtain ⟨hextra, rfl⟩ := extraPlane_of_three (h.rgb hcolor).1 hplane hthree
      rw [if_neg hthree, if_neg hthree, h.readAlpha hcolor hextra hx hy]
  unfold encodeRgbRow
  dsimp only
  rw [hwidth, hwidth', hrow]
  simp only [hplanes]

/-- A range-coded slice sees the samples only. -/
theorem encodeSamples_agrees (h : SameWindows stream memory memory' windows windows' width height) :
    encodeSamples (W := W) stream memory windows = encodeSamples stream memory' windows' := by
  unfold encodeSamples
  by_cases hcolor : stream.colorspaceType = 1
  · obtain ⟨hheight, hheight'⟩ := h.planeWindow_height stream.codedPlaneCount_pos
    rw [if_pos hcolor, if_pos hcolor]
    unfold encodeRgbRows
    rw [hheight, hheight']
    exact forLoop_agrees fun y _ hy => h.encodeRgbRow_agrees hcolor (by omega)
  · rw [if_neg hcolor, if_neg hcolor]
    exact h.encodePlanes_agrees

end Loops

theorem encodeGolombRicePlane_agrees
    (h : SameWindows stream memory memory' windows windows' width height)
    (hplane : planeIndex < stream.codedPlaneCount) :
    encodeGolombRicePlane stream memory windows planeIndex =
      encodeGolombRicePlane stream memory' windows' planeIndex := by
  obtain ⟨hwidth, hwidth'⟩ := h.planeWindow_width hplane
  obtain ⟨hheight, hheight'⟩ := h.planeWindow_height hplane
  unfold encodeGolombRicePlane
  dsimp only
  rw [hwidth, hwidth', hheight, hheight']
  refine forLoop_agrees fun y _ hy => ?_
  rw [mapM_agrees fun x hx => h.read hplane (List.mem_range.mp hx) (by omega)]

theorem encodeGolombRiceRgbRows_agrees
    (h : SameWindows stream memory memory' windows windows' width height)
    (hcolor : stream.colorspaceType = 1) :
    encodeGolombRiceRgbRows stream memory windows =
      encodeGolombRiceRgbRows stream memory' windows' := by
  obtain ⟨hwidth, hwidth'⟩ := h.planeWindow_width stream.codedPlaneCount_pos
  obtain ⟨hheight, hheight'⟩ := h.planeWindow_height stream.codedPlaneCount_pos
  unfold encodeGolombRiceRgbRows
  dsimp only
  rw [hwidth, hwidth', hheight, hheight']
  refine forLoop_agrees fun y _ hy => ?_
  rw [mapM_agrees fun x hx => h.readRgba hcolor (List.mem_range.mp hx) (by omega)]

/-- And so does a Golomb-Rice coded one. -/
theorem encodeGolombRiceSamples_agrees
    (h : SameWindows stream memory memory' windows windows' width height) :
    encodeGolombRiceSamples stream memory windows =
      encodeGolombRiceSamples stream memory' windows' := by
  unfold encodeGolombRiceSamples
  by_cases hcolor : stream.colorspaceType = 1
  · simp only [if_pos hcolor, h.encodeGolombRiceRgbRows_agrees hcolor]
  · have hplanes : Mirror.forLoop 0 stream.codedPlaneCount
        (encodeGolombRicePlane stream memory windows) =
          Mirror.forLoop 0 stream.codedPlaneCount (encodeGolombRicePlane stream memory' windows') :=
      forLoop_agrees fun planeIndex _ hplane => h.encodeGolombRicePlane_agrees (by omega)
    simp only [if_neg hcolor, hplanes]

/-- The lines start alike. -/
theorem reset_agrees (h : SameWindows stream memory memory' windows windows' width height)
    (state : SliceState) : state.reset stream windows = state.reset stream windows' := by
  have hwidths : windows.map PlaneWindow.width = windows'.map PlaneWindow.width := by
    refine List.ext_getElem (by simp [h.shape.planes, h.shape'.planes]) fun k hk hk' => ?_
    rw [List.length_map] at hk hk'
    obtain ⟨hwidth, hwidth'⟩ := h.planeWindow_width (show k < _ from h.shape.planes ▸ hk)
    unfold planeWindow at hwidth hwidth'
    rw [List.getD_eq_getElem _ _ hk] at hwidth
    rw [List.getD_eq_getElem _ _ hk'] at hwidth'
    rw [List.getElem_map, List.getElem_map]
    exact UInt32.toNat_inj.mp (hwidth.trans hwidth'.symm)
  have hlines (planeIndex : Nat) : SliceState.resetLines stream planeIndex windows =
      SliceState.resetLines stream planeIndex windows' := by
    clear h
    induction windows generalizing windows' planeIndex with
    | nil => rw [List.map_eq_nil_iff.mp hwidths.symm]
    | cons window windows ih =>
      cases windows' with
      | nil => cases hwidths
      | cons window' windows' =>
        obtain ⟨hwidth, hrest⟩ := List.cons.inj hwidths
        unfold SliceState.resetLines
        rw [hwidth, ih hrest]
  unfold SliceState.reset
  rw [hlines]

end SameWindows

section Frames

variable {stream : StreamParameters} {input input' : FrameView} {memory memory' : FrameMemory}
  {sliceIndex : Nat} {keyframe : Bool} {state : SliceState}

theorem sameWindows_of_frames (h : ProfileStream stream) (hcell : sliceIndex < cellCount stream)
    (hsame : FrameSame stream input input' memory memory') {windows windows' : List PlaneWindow}
    (hwindows : SliceInputWindow.validate stream input (cellSlice stream sliceIndex) = .ok windows)
    (hwindows' : SliceInputWindow.validate stream input' (cellSlice stream sliceIndex) =
      .ok windows') :
    SameWindows stream memory memory' windows windows'
      (sliceWidth stream (cellSlice stream sliceIndex))
      (sliceHeight stream (cellSlice stream sliceIndex)) := by
  have hplaced := cell_placed h.sets_ne hcell
  refine ⟨inputShape hplaced hwindows, inputShape hplaced hwindows',
    fun hcolor => ⟨h.chroma hcolor, fun planeIndex _ => sliceSize_rgb hcolor hplaced planeIndex⟩,
    fun planeIndex hplane x hx y hy => ?_⟩
  obtain ⟨hright, hbottom⟩ := hplaced.outputRect_inside planeIndex
  unfold sliceWidth at hx
  unfold sliceHeight at hy
  rw [inputSample_eq_frameSample hplaced hwindows hplane,
    inputSample_eq_frameSample hplaced hwindows' hplane]
  exact (hsame planeIndex hplane _ (by omega) _ (by omega)).symm

/-- A cell of two accepted frames with the same samples is encoded alike. -/
theorem encodeCell_agrees (h : ProfileStream stream) (hcell : sliceIndex < cellCount stream)
    (hinput : FrameValidator.validateInput stream input = .ok ())
    (hinput' : FrameValidator.validateInput stream input' = .ok ())
    (hsame : FrameSame stream input input' memory memory') :
    SliceEncodeExecutor.encodeSlice stream input memory keyframe sliceIndex state =
      SliceEncodeExecutor.encodeSlice stream input' memory' keyframe sliceIndex state := by
  have hplaced := cell_placed h.sets_ne hcell
  have hnonempty (planeIndex : Nat) (hplane : planeIndex < stream.codedPlaneCount) :=
    cell_nonempty h.sets_ne h.regions hcell hplane
  have hsize := cell_size h.sets_ne h.regions hcell
  obtain ⟨windows, hwindows⟩ := inputWindows_made hinput hplaced hnonempty hsize
  obtain ⟨windows', hwindows'⟩ := inputWindows_made hinput' hplaced hnonempty hsize
  have hagree := sameWindows_of_frames h hcell hsame hwindows hwindows'
  unfold SliceEncodeExecutor.encodeSlice SliceEncoder.encodeSlice
  rw [applyRaster_cell h.sets_ne hcell, hinput, hinput']
  refine except_bind_congr fun _ _ => except_bind_congr fun _ _ => except_bind_congr fun _ _ => ?_
  change (SliceInputWindow.validate stream input (cellSlice stream sliceIndex) >>= fun windows =>
      SliceEncoder.workingState stream keyframe state >>= _) =
    (SliceInputWindow.validate stream input' (cellSlice stream sliceIndex) >>= fun windows' =>
      SliceEncoder.workingState stream keyframe state >>= _)
  rw [hwindows, hwindows']
  change (SliceEncoder.workingState stream keyframe state >>= _) =
    (SliceEncoder.workingState stream keyframe state >>= _)
  refine except_bind_congr fun working _ => ?_
  rw [← hagree.reset_agrees]
  refine except_bind_congr fun started _ => ?_
  unfold SliceEncoder.encodeRangeSlice SliceEncoder.encodeRangeContent
    SliceEncoder.encodeGolombRiceSlice SliceEncoder.encodeGolombRiceContent
  rw [hagree.encodeSamples_agrees, hagree.encodeGolombRiceSamples_agrees]

theorem encodeSlices_agrees (h : ProfileStream stream)
    (hinput : FrameValidator.validateInput stream input = .ok ())
    (hinput' : FrameValidator.validateInput stream input' = .ok ())
    (hsame : FrameSame stream input input' memory memory') {states : List SliceState} {first : Nat}
    (hcells : first + states.length ≤ cellCount stream) :
    SliceEncodeExecutor.encodeSlices stream input memory keyframe first states =
      SliceEncodeExecutor.encodeSlices stream input' memory' keyframe first states := by
  induction states generalizing first with
  | nil => rfl
  | cons state states ih =>
    rw [List.length_cons] at hcells
    unfold SliceEncodeExecutor.encodeSlices
    rw [encodeCell_agrees h (show first < cellCount stream by omega) hinput hinput' hsame,
      @ih (first + 1) (by omega)]

/-- Two accepted frames with the same samples are encoded alike. -/
theorem encode_agrees (h : ProfileStream stream)
    (hinput : FrameValidator.validateInput stream input = .ok ())
    (hinput' : FrameValidator.validateInput stream input' = .ok ())
    (hsame : FrameSame stream input input' memory memory') (executor : SliceEncodeExecutor) :
    SliceEncodeExecutor.encode stream input memory keyframe executor =
      SliceEncodeExecutor.encode stream input' memory' keyframe executor := by
  unfold SliceEncodeExecutor.encode
  rw [hinput, hinput']
  refine except_bind_congr fun _ _ => except_bind_congr fun count hcount =>
    except_bind_congr fun states hstates => ?_
  obtain ⟨rfl, -⟩ := checkedSliceCount_ok hcount
  have hlength := SliceEncodeExecutor.workingStates_length hstates
  rw [encodeSlices_agrees h hinput hinput' hsame (by omega)]

end Frames

/-- Calls that ask for the same: the same configuration, or frames of which the validator says
the same, and which have the same samples where it accepts them. -/
def SameCall (stream : Option StreamParameters) : EncoderCall → EncoderCall → Prop
  | .configure info, .configure info' => info = info'
  | .encodeFrame input memory, .encodeFrame input' memory' => ∀ configured, stream = some configured →
    FrameValidator.validateInput configured input = FrameValidator.validateInput configured input' ∧
      (FrameValidator.validateInput configured input = .ok () →
        FrameSame configured input input' memory memory')
  | _, _ => False

/-- Calls of a run that ask for the same, one by one. -/
inductive SameCalls : EncoderRun → List EncoderCall → List EncoderCall → Prop
  | done (run : EncoderRun) : SameCalls run [] []
  | call {run : EncoderRun} {call call' : EncoderCall} {calls calls' : List EncoderCall}
      (same : SameCall run.encoder.stream call call')
      (later : SameCalls (Mirror.finalState (call.perform run)) calls calls') :
      SameCalls run (call :: calls) (call' :: calls')

section Calls

variable {run : EncoderRun} {call call' : EncoderCall} {calls calls' : List EncoderCall}

/-- Such calls do the same. -/
theorem SameCall.perform_eq (h : SameCall run.encoder.stream call call') (hrun : run.Prepared) :
    call.perform run = call'.perform run := by
  cases call with
  | configure info =>
    cases call' with
    | configure info' =>
      obtain rfl : info = info' := h
      rfl
    | encodeFrame input' memory' => cases h
  | encodeFrame input memory =>
    cases call' with
    | configure info' => cases h
    | encodeFrame input' memory' =>
      cases hstream : run.encoder.stream with
      | none =>
        unfold EncoderCall.perform
        dsimp only
        rw [Encoder.encodeFrame_unconfigured hstream, Encoder.encodeFrame_unconfigured hstream]
      | some stream =>
        obtain ⟨hvalidate, hsamples⟩ := h stream hstream
        rw [EncoderCall.perform_encodeFrame hstream, EncoderCall.perform_encodeFrame hstream]
        cases hinput : FrameValidator.validateInput stream input with
        | ok _ =>
          rw [encode_agrees (hrun stream hstream).profile hinput (hvalidate ▸ hinput)
            (hsamples hinput)]
        | error status =>
          unfold SliceEncodeExecutor.encode
          rw [← hvalidate, hinput]
          rfl

theorem SameCalls.results_eq (h : SameCalls run calls calls') (hrun : run.Prepared) :
    Observer.results EncoderCall.perform calls run =
        Observer.results EncoderCall.perform calls' run ∧
      (EncoderRun.frames calls run).map EncodedFrame.bytes =
        (EncoderRun.frames calls' run).map EncodedFrame.bytes ∧
      Observer.after EncoderCall.perform calls run =
        Observer.after EncoderCall.perform calls' run := by
  induction h with
  | done run => exact ⟨rfl, rfl, rfl⟩
  | @call run call call' calls calls' same _ ih =>
    have hperform := same.perform_eq hrun
    obtain ⟨hresults, hframes, hafter⟩ := ih (EncoderCall.perform_prepared call hrun)
    rw [Observer.results_cons, Observer.results_cons, Observer.after_cons, Observer.after_cons,
      ← hperform]
    refine ⟨congrArg _ hresults, ?_, hafter⟩
    cases call with
    | configure info =>
      cases call' with
      | configure info' =>
        rw [EncoderRun.frames_configure, EncoderRun.frames_configure, ← hperform]
        exact hframes
      | encodeFrame input' memory' => cases same
    | encodeFrame input memory =>
      cases call' with
      | configure info' => cases same
      | encodeFrame input' memory' =>
        cases hcall : (EncoderCall.encodeFrame input memory).perform run with
        | ok u next =>
          rw [hcall] at hframes
          rw [EncoderRun.frames_encoded hcall, EncoderRun.frames_encoded (hperform ▸ hcall),
            List.map_cons, List.map_cons]
          exact congrArg _ hframes
        | error status next =>
          rw [hcall, Mirror.finalState, EncoderCall.perform_error hcall] at hframes
          rw [EncoderRun.frames_failed hcall, EncoderRun.frames_failed (hperform ▸ hcall)]
          exact hframes

end Calls

/-- What an encoder puts out, and what is left of it, depend on the samples of its frames only:
neither the strides and the addresses of the views nor the memory besides the samples have a
part in the records, the frames and the errors of a run. -/
theorem encoder_sees_samples_only {options : EncoderOptions} {encoder : Encoder}
    (hcreate : createEncoder options = .ok encoder) {calls calls' : List EncoderCall}
    (hsame : SameCalls { encoder } calls calls') :
    Observer.results EncoderCall.perform calls { encoder } =
        Observer.results EncoderCall.perform calls' { encoder } ∧
      (EncoderRun.frames calls { encoder }).map EncodedFrame.bytes =
        (EncoderRun.frames calls' { encoder }).map EncodedFrame.bytes ∧
      Observer.after EncoderCall.perform calls { encoder } =
        Observer.after EncoderCall.perform calls' { encoder } :=
  hsame.results_eq (EncoderRun.prepared_created hcreate [])

/-- The first frame of a configured encoder, where it can be encoded. -/
theorem EncoderRun.frames_single {stream : StreamParameters} {input : FrameView}
    {memory : FrameMemory} {run : EncoderRun} (hstream : run.encoder.stream = some stream)
    (hindex : run.encoder.nextFrameIndex = 0)
    (hencodes : (SliceEncodeExecutor.encode stream input memory true {}).isOk = true) :
    ∃ next bytes executor, SliceEncodeExecutor.encode stream input memory true {} =
        .ok (next, bytes) ∧
      EncoderRun.frames [.encodeFrame input memory] run = [⟨input, memory, executor, bytes⟩] := by
  have hkeyframe : run.encoder.atKeyframe = true := by
    unfold Encoder.atKeyframe
    rw [hindex]
    exact decide_eq_true (UInt64.zero_mod)
  have hperform := EncoderCall.perform_encodeFrame hstream input memory
  rw [hkeyframe, SliceEncodeExecutor.encode_keyframe] at hperform
  cases hencode : SliceEncodeExecutor.encode stream input memory true {} with
  | error status =>
    rw [hencode] at hencodes
    cases hencodes
  | ok encoded =>
    rw [hencode] at hperform
    refine ⟨encoded.1, encoded.2, run.encoder.executor, rfl, ?_⟩
    rw [EncoderRun.frames_encoded hperform]
    rfl

def paddedInput : FrameView where
  planes := some [{ hasData := true, info := {
    makePlaneInfo (encoderStream waveOptions waveInfo) 0 with strideBytes := 5 } }]
  planeCount := 1

/-- Zero in the sample, other bytes behind it. -/
def paddedMemory : FrameMemory := fun _ address => if address = 0 then 0 else 7

theorem encoder_sees_samples_only_wave :
    let start : EncoderRun := { encoder := { options := waveOptions } }
    let calls := [.configure waveInfo, waveCall]
    let calls' := [.configure waveInfo, .encodeFrame paddedInput paddedMemory]
    EncoderRun.frames calls start ≠ [] ∧
      Observer.results EncoderCall.perform calls start =
        Observer.results EncoderCall.perform calls' start ∧
      (EncoderRun.frames calls start).map EncodedFrame.bytes =
        (EncoderRun.frames calls' start).map EncodedFrame.bytes ∧
      Observer.after EncoderCall.perform calls start =
        Observer.after EncoderCall.perform calls' start := by
  obtain ⟨record, hconfigured⟩ := wave_configured
  obtain ⟨_, _, _, -, hframe⟩ := @EncoderRun.frames_single (encoderStream waveOptions waveInfo)
    waveInput SliceExecutor.emptyMemory (waveRun record) rfl rfl (by decide +kernel)
  refine ⟨fun hnone => ?_, @encoder_sees_samples_only waveOptions
    _ rfl _ _ (.call rfl (.call ?_ (.done _)))⟩
  · rw [EncoderRun.frames_configure, hconfigured, Mirror.finalState] at hnone
    rw [show EncoderRun.frames [waveCall] (waveRun record) = _ from hframe] at hnone
    cases hnone
  · rw [hconfigured]
    intro stream hstream
    obtain rfl := Option.some.inj hstream
    refine ⟨by decide, fun _ planeIndex hplane x hx y hy => ?_⟩
    obtain rfl : planeIndex = 0 := Nat.lt_one_iff.mp hplane
    obtain rfl : x = 0 := Nat.lt_one_iff.mp hx
    obtain rfl : y = 0 := Nat.lt_one_iff.mp hy
    decide

/-- Frames of an encoder, and views and memories with their samples: they are encoded to the
same bytes. -/
theorem EncodedFrom.reencoded {stream : StreamParameters} (h : ProfileStream stream)
    {encoder last : Encoder} {frames : List EncodedFrame} {again : List (FrameView × FrameMemory)}
    (hframes : EncodedFrom stream encoder frames last) (hstream : encoder.stream = some stream)
    (hsame : List.Forall₂ (fun frame again =>
      FrameValidator.validateInput stream again.1 = .ok () ∧
        FrameSame stream frame.input again.1 frame.memory again.2) frames again)
    {run : EncoderRun} (hrun : run.encoder = encoder) :
    let calls := again.map fun again => .encodeFrame again.1 again.2
    (EncoderRun.frames calls run).map EncodedFrame.bytes = frames.map EncodedFrame.bytes ∧
      (Observer.after EncoderCall.perform calls run).encoder = last := by
  induction hframes generalizing again run with
  | done encoder =>
    cases hsame
    exact ⟨rfl, hrun⟩
  | @frame encoder last next frame frames encodes _ ih =>
    cases hsame with
    | @cons _ first _ rest hfirst hrest =>
      have hinput : FrameValidator.validateInput stream frame.input = .ok () := by
        simp only [SliceEncodeExecutor.encode, except_bind_ok, exists_unit] at encodes
        exact encodes.1
      rw [encode_agrees h hinput hfirst.1 hfirst.2, ← hrun] at encodes
      have hperform := EncoderCall.perform_encoded (hrun ▸ hstream) encodes
      obtain ⟨hbytes, hlast⟩ := @ih rest hstream hrest { run with
        encoder := { run.encoder with
          executor := next, nextFrameIndex := run.encoder.nextFrameIndex + 1 }
        frame := frame.bytes } (by rw [hrun])
      dsimp only
      rw [List.map_cons, EncoderRun.frames_encoded hperform, Observer.after_cons, hperform,
        List.map_cons, List.map_cons]
      exact ⟨congrArg _ hbytes, hlast⟩

section Reencoding

variable {options : EncoderOptions} {encoder : Encoder} {earlier earlier' later : List EncoderCall}
  {info : StreamInfo} {start start' : EncoderRun}

/-- The frames of an encoder from a configuration on. -/
theorem EncodedFrom.of_configured (hcreate : createEncoder options = .ok encoder)
    (hstart : (EncoderCall.configure info).perform
      (Observer.after EncoderCall.perform earlier { encoder }) = .ok () start)
    (hlater : ∀ other, .configure other ∈ later → options.Rejects other) :
    AcceptedProfile options info ∧
      start.encoder = { options, stream := some (encoderStream options info) } ∧
      ConfigurationRecordWriter.write (encoderStream options info) = .ok start.record ∧
      EncodedFrom (encoderStream options info) start.encoder (EncoderRun.frames later start)
        (Observer.after EncoderCall.perform later start).encoder := by
  obtain ⟨-, -, hoptions⟩ := EncoderRun.after_created hcreate earlier
  obtain ⟨haccepted, hencoder, hrecord⟩ := EncoderCall.configured hstart
  rw [hoptions] at haccepted hrecord
  have hstarted : start.encoder = { options, stream := some (encoderStream options info) } := by
    rw [hencoder, hoptions]
  refine ⟨haccepted, hstarted, hrecord, EncoderRun.frames_encodedFrom (by rw [hstarted]) ?_⟩
  rw [hstarted]
  exact hlater

/-- What a decoder puts out is encoded again, to the frames that it came from: by any encoder
that is configured alike, whatever it has encoded before. -/
theorem decoded_frames_reencode (hcreate : createEncoder options = .ok encoder)
    (hstart : (EncoderCall.configure info).perform
      (Observer.after EncoderCall.perform earlier { encoder }) = .ok () start)
    (hstart' : (EncoderCall.configure info).perform
      (Observer.after EncoderCall.perform earlier' { encoder }) = .ok () start')
    (hlater : ∀ other, .configure other ∈ later → options.Rejects other)
    (hcount : cellCount (encoderStream options info) < 2 ^ 32)
    (hboundary : shouldPreferGolombRiceReadAheadBoundary (encoderStream options info) = false)
    {decoder configured : Decoder} (hrepeats : decoder.options.Repeats (encoderStream options info))
    (hconfigured : Decoder.configure start.record decoder = .ok () configured)
    {sent : List (EncodedFrame × Delivery)}
    (hsent : sent.map Prod.fst = EncoderRun.frames later start)
    (hready : ∀ frame ∈ sent,
      frame.2.Ready decoder.options (encoderStream options info).readBack)
    (hviews : ∀ frame ∈ sent,
      FrameValidator.validateInput (encoderStream options info) frame.2.output = .ok ())
    {reception : Reception}
    (hreception : receive (sent.map (Prod.map EncodedFrame.bytes id)) configured = reception)
    (hrefusal : reception.refusal = none) :
    let again := (sent.zip reception.decoded).map fun frame =>
      EncoderCall.encodeFrame frame.1.2.output frame.2
    (EncoderRun.frames again start').map EncodedFrame.bytes =
        (EncoderRun.frames later start).map EncodedFrame.bytes ∧
      (Observer.after EncoderCall.perform again start').encoder =
        (Observer.after EncoderCall.perform later start).encoder := by
  obtain ⟨haccepted, hencoder, hrecord, hframes⟩ :=
    EncodedFrom.of_configured hcreate hstart hlater
  obtain ⟨-, hencoder', -⟩ := @EncodedFrom.of_configured options encoder earlier' [] info start'
    hcreate hstart' fun _ hmem => absurd hmem List.not_mem_nil
  have hprofile := haccepted.profileStream
  rw [configure_written hprofile hrecord hrepeats] at hconfigured
  obtain rfl := (EStateM.Result.ok.inj hconfigured).2
  have hreceived := @EncodedFrom.received _ _ _ _
    { decoder with stream := some (encoderStream options info).readBack, executor := {} } _ hframes
    ⟨hprofile, hcount⟩ hboundary rfl (fun hinter => by rw [hencoder] at hinter; cases hinter)
    hsent hready
  rw [hreception] at hreceived
  have hsame : List.Forall₂ (fun frame (again : FrameView × FrameMemory) =>
      FrameValidator.validateInput (encoderStream options info) again.1 = .ok () ∧
        FrameSame (encoderStream options info) frame.input again.1 frame.memory again.2)
      (EncoderRun.frames later start)
      ((sent.zip reception.decoded).map fun frame => (frame.1.2.output, frame.2)) := by
    rw [← hsent]
    have hall := hreceived.all hrefusal
    clear hreceived hreception hready hsent hframes
    generalize reception.decoded = memories at hall
    induction hall with
    | nil => exact .nil
    | @cons frame memory sent memories hfirst _ ih =>
      exact .cons ⟨hviews frame List.mem_cons_self, hfirst⟩
        (ih fun other hmem => hviews other (List.mem_cons_of_mem _ hmem))
  obtain ⟨hbytes, hlast⟩ := hframes.reencoded hprofile (by rw [hencoder]) hsame
    (show start'.encoder = start.encoder by rw [hencoder, hencoder'])
  rw [List.map_map] at hbytes hlast
  exact ⟨hbytes, hlast⟩

end Reencoding

/-- The first frame of the Golomb-Rice wave, and what comes out of it. -/
def golombRiceFrame : Bytes :=
  ((SliceEncodeExecutor.encode (encoderStream golombRiceWave waveInfo) waveInput
    SliceExecutor.emptyMemory true {}).toOption.getD ({}, [])).2

def golombRiceReception : Reception :=
  receive [(golombRiceFrame, waveDelivery)] { waveDecoder with
    stream := some (encoderStream golombRiceWave waveInfo).readBack, executor := {} }

def golombRiceDecoded : FrameMemory :=
  golombRiceReception.decoded.getD 0 SliceExecutor.emptyMemory

theorem decoded_frames_reencode_wave :
    ∃ start configured, (EncoderCall.configure waveInfo).perform
        { encoder := { options := golombRiceWave } } = .ok () start ∧
      Decoder.configure start.record waveDecoder = .ok () configured ∧
      EncoderRun.frames [waveCall] start ≠ [] ∧
      (EncoderRun.frames [.encodeFrame waveInput golombRiceDecoded] start).map EncodedFrame.bytes =
        (EncoderRun.frames [waveCall] start).map EncodedFrame.bytes ∧
      (Observer.after EncoderCall.perform [.encodeFrame waveInput golombRiceDecoded]
        start).encoder = (Observer.after EncoderCall.perform [waveCall] start).encoder := by
  have hcreate : createEncoder golombRiceWave = .ok { options := golombRiceWave } := rfl
  have haccepted : AcceptedProfile golombRiceWave waveInfo :=
    { extent := by decide, version := by decide, bitDepth := by decide, rgbGeometry := by decide
      subsamplingChroma := by decide, subsampling := by decide, grid := by decide
      parallel := by decide, regions := by decide }
  obtain ⟨start, hstart⟩ : ∃ start, (EncoderCall.configure waveInfo).perform
      { encoder := { options := golombRiceWave } } = .ok () start := by
    obtain ⟨record, hconfigured⟩ := EncoderCall.perform_accepted
      { encoder := { options := golombRiceWave } } haccepted
    exact ⟨_, hconfigured⟩
  obtain ⟨-, hencoder, hrecord⟩ := EncoderCall.configured hstart
  have hrepeats : waveDecoder.options.Repeats (encoderStream golombRiceWave waveInfo) :=
    ⟨rfl, rfl, by decide⟩
  have hconfigured := configure_written haccepted.profileStream hrecord hrepeats
  obtain ⟨next, bytes, executor, hencode, hframe⟩ := @EncoderRun.frames_single
    (encoderStream golombRiceWave waveInfo) waveInput SliceExecutor.emptyMemory start
    (congrArg Encoder.stream hencoder) (congrArg Encoder.nextFrameIndex hencoder)
    (by decide +kernel)
  have hbytes : bytes = golombRiceFrame := by
    unfold golombRiceFrame
    rw [hencode]
    rfl
  have hreception : receive ([((⟨waveInput, SliceExecutor.emptyMemory, executor, bytes⟩ :
      EncodedFrame), waveDelivery)].map (Prod.map EncodedFrame.bytes id)) { waveDecoder with
        stream := some (encoderStream golombRiceWave waveInfo).readBack, executor := {} } =
      golombRiceReception := by
    rw [List.map_singleton, Prod.map_apply, hbytes, golombRiceReception, id_eq]
  have hrefusal : golombRiceReception.refusal = none := by decide +kernel
  have hlength : golombRiceReception.decoded.length = 1 := by decide +kernel
  obtain ⟨decoded, hdecoded⟩ := List.length_eq_one_iff.mp hlength
  have hrejected (other : StreamInfo) (hmem : .configure other ∈ [waveCall]) :
      golombRiceWave.Rejects other := by
    cases List.mem_singleton.mp hmem
  have hagain := @decoded_frames_reencode golombRiceWave _ [] [] [waveCall] waveInfo start start
    hcreate hstart hstart hrejected (by decide) (by decide) waveDecoder _ hrepeats hconfigured
    [(⟨waveInput, SliceExecutor.emptyMemory, executor, bytes⟩, waveDelivery)] hframe.symm
    (fun frame hmem => by
      rw [List.mem_singleton.mp hmem]
      exact waveDelivery_ready .golombRice)
    (fun frame hmem => by
      rw [List.mem_singleton.mp hmem]
      change FrameValidator.validateInput _ waveInput = _
      decide) _ hreception hrefusal
  have hcalls : ([((⟨waveInput, SliceExecutor.emptyMemory, executor, bytes⟩ : EncodedFrame),
      waveDelivery)].zip golombRiceReception.decoded).map (fun frame =>
        EncoderCall.encodeFrame frame.1.2.output frame.2) =
          [.encodeFrame waveInput golombRiceDecoded] := by
    unfold golombRiceDecoded
    rw [hdecoded]
    rfl
  dsimp only at hagain
  rw [hcalls] at hagain
  refine ⟨start, _, hstart, hconfigured, fun hnone => ?_, hagain⟩
  rw [show EncoderRun.frames [waveCall] start = _ from hframe] at hnone
  cases hnone

end Mffv1
