import Mffv1.CellWindows
import Mffv1.GolombRiceContent

/-!
# The samples that the encoder accepts

Every sample of a plane is read in some slice, and a slice with a sample above the
maximum is not encoded.
-/
namespace Mffv1

open Hoare

variable {stream : StreamParameters} {input : FrameView} {memory : FrameMemory}
  {windows : List PlaneWindow} {planeIndex x y : Nat}

/-- A sample of a window is below two to the bit depth. -/
def WindowSampleInDepth (stream : StreamParameters) (memory : FrameMemory)
    (windows : List PlaneWindow) (planeIndex x y : Nat) : Prop :=
  (inputSample stream memory windows planeIndex x y).toNat < 2 ^ stream.bitsPerRawSample.toNat

def WindowsInDepth (stream : StreamParameters) (memory : FrameMemory) (windows : List PlaneWindow)
    (width height : Nat → Nat) : Prop :=
  ∀ planeIndex < stream.codedPlaneCount, ∀ x < width planeIndex, ∀ y < height planeIndex,
    WindowSampleInDepth stream memory windows planeIndex x y

theorem readInputSample_inDepth {sample : UInt16}
    (h : readInputSample stream memory windows planeIndex x y = .ok sample) :
    WindowSampleInDepth stream memory windows planeIndex x y := by
  obtain ⟨heq, hle⟩ := readInputSample_ok_iff.mp h
  unfold WindowSampleInDepth
  rw [heq]
  exact Nat.lt_of_le_of_lt hle (maximumSample_lt stream)

/-- A plane of RGB is one of the three, or the extra plane behind them. -/
theorem rgbPlane_cases (hchroma : stream.chromaPlanes = true)
    (hplane : planeIndex < stream.codedPlaneCount) :
    planeIndex < 3 ∨ planeIndex = 3 ∧ stream.extraPlane = true := by
  unfold StreamParameters.codedPlaneCount at hplane
  rw [hchroma, if_pos rfl] at hplane
  cases hextra : stream.extraPlane with
  | true =>
    rw [hextra, if_pos rfl] at hplane
    exact (Nat.lt_or_ge planeIndex 3).imp id fun hge => ⟨by omega, rfl⟩
  | false =>
    rw [hextra, if_neg Bool.false_ne_true] at hplane
    exact .inl (by omega)

section RangeLoops

variable {W : Type} [SymbolSink W]

theorem encodePlaneRow_demands (planeIndex y : Nat) :
    Demands (∀ x < (planeWindow windows planeIndex).width.toNat,
        WindowSampleInDepth stream memory windows planeIndex x y)
      (encodePlaneRow (W := W) stream memory windows planeIndex y) := by
  unfold encodePlaneRow
  refine Demands.first (Demands.imp (Demands.forLoop
    (φ := fun x => WindowSampleInDepth stream memory windows planeIndex x y) fun x => ?_)
    fun h x hx => h x (Nat.zero_le _) (by omega))
  exact Demands.first (Demands.ofExcept fun _ hread => readInputSample_inDepth hread)

theorem encodePlanes_demands : Demands (∀ planeIndex < stream.codedPlaneCount,
      ∀ y < (planeWindow windows planeIndex).height.toNat,
        ∀ x < (planeWindow windows planeIndex).width.toNat,
          WindowSampleInDepth stream memory windows planeIndex x y)
    (encodePlanes (W := W) stream memory windows) := by
  unfold encodePlanes encodePlane
  refine Demands.imp (Demands.forLoop fun planeIndex => Demands.imp
    (Demands.forLoop fun y => encodePlaneRow_demands planeIndex y)
    fun h y hy => h y (Nat.zero_le _) (by omega)) fun h planeIndex hplane =>
      h planeIndex (Nat.zero_le _) (by omega)

theorem encodeRgbRow_demands (hchroma : stream.chromaPlanes = true) (y : Nat) :
    Demands (∀ planeIndex < stream.codedPlaneCount, ∀ x < (planeWindow windows 0).width.toNat,
        WindowSampleInDepth stream memory windows planeIndex x y)
      (encodeRgbRow (W := W) stream memory windows y) := by
  unfold encodeRgbRow
  refine Demands.ofValue fun samples hsamples => ?_
  have hcolour := (except_mapM_ok (fun _ _ hread => readRgbSample_ok hread) hsamples).2
  have hextra : Demands (∀ planeIndex < stream.codedPlaneCount, 3 ≤ planeIndex →
      ∀ x < (planeWindow windows 0).width.toNat,
        WindowSampleInDepth stream memory windows planeIndex x y)
      (Mirror.forLoop 0 stream.codedPlaneCount (encodeRgbPlaneRow (W := W) stream memory windows
        (transformRow stream samples) (planeWindow windows 0).width.toNat y)) := by
    refine Demands.imp (Demands.forLoop (φ := fun planeIndex => 3 ≤ planeIndex →
      ∀ x < (planeWindow windows 0).width.toNat,
        WindowSampleInDepth stream memory windows planeIndex x y) fun planeIndex => ?_)
      fun h planeIndex hplane => h planeIndex (Nat.zero_le _) (by omega)
    unfold encodeRgbPlaneRow
    refine Demands.imp (Demands.forLoop (φ := fun x => 3 ≤ planeIndex →
      WindowSampleInDepth stream memory windows planeIndex x y) fun x => ?_)
      fun h hthree x hx => h x (Nat.zero_le _) (by omega) hthree
    by_cases hthree : planeIndex < 3
    · exact fun _ _ _ _ hge => absurd hge (by omega)
    · rw [if_neg hthree]
      exact Demands.first (Demands.ofExcept fun _ hread _ => readInputSample_inDepth hread)
  refine Demands.first (hextra.imp fun h planeIndex hplane x hx => ?_)
  rcases rgbPlane_cases hchroma hplane with hlt | ⟨rfl, -⟩
  · exact hcolour x (List.mem_range.mpr hx) planeIndex hlt
  · exact h 3 hplane (Nat.le_refl _) x hx

theorem encodeRgbRows_demands (hchroma : stream.chromaPlanes = true) :
    Demands (∀ planeIndex < stream.codedPlaneCount, ∀ y < (planeWindow windows 0).height.toNat,
        ∀ x < (planeWindow windows 0).width.toNat,
          WindowSampleInDepth stream memory windows planeIndex x y)
      (encodeRgbRows (W := W) stream memory windows) := by
  unfold encodeRgbRows
  exact Demands.imp (Demands.forLoop fun y => encodeRgbRow_demands hchroma y)
    fun h planeIndex hplane y hy => h y (Nat.zero_le _) (by omega) planeIndex hplane

end RangeLoops

section GolombRiceLoops

theorem encodeGolombRicePlane_demands (planeIndex : Nat) :
    Demands (∀ y < (planeWindow windows planeIndex).height.toNat,
        ∀ x < (planeWindow windows planeIndex).width.toNat,
          WindowSampleInDepth stream memory windows planeIndex x y)
      (encodeGolombRicePlane stream memory windows planeIndex) := by
  unfold encodeGolombRicePlane
  refine Demands.imp (Demands.forLoop (φ := fun y =>
    ∀ x < (planeWindow windows planeIndex).width.toNat,
      WindowSampleInDepth stream memory windows planeIndex x y) fun y => ?_)
    fun h y hy => h y (Nat.zero_le _) (by omega)
  refine Demands.first (Demands.ofExcept fun samples hsamples x hx => ?_)
  have hrow := except_mapM_ok (g := fun x => inputSample stream memory windows planeIndex x y)
    (fun _ _ hread => ⟨(readInputSample_ok_iff.mp hread).1.symm, readInputSample_inDepth hread⟩)
    hsamples
  exact hrow.2 x (List.mem_range.mpr hx)

theorem encodeGolombRiceRgbRows_demands (hchroma : stream.chromaPlanes = true) :
    Demands (∀ planeIndex < stream.codedPlaneCount, ∀ y < (planeWindow windows 0).height.toNat,
        ∀ x < (planeWindow windows 0).width.toNat,
          WindowSampleInDepth stream memory windows planeIndex x y)
      (encodeGolombRiceRgbRows stream memory windows) := by
  unfold encodeGolombRiceRgbRows
  refine Demands.imp (Demands.forLoop (φ := fun y => ∀ planeIndex < stream.codedPlaneCount,
    ∀ x < (planeWindow windows 0).width.toNat,
      WindowSampleInDepth stream memory windows planeIndex x y) fun y => ?_)
    fun h planeIndex hplane y hy => h y (Nat.zero_le _) (by omega) planeIndex hplane
  refine Demands.first (Demands.ofExcept fun samples hsamples planeIndex hplane x hx => ?_)
  have hrow := (except_mapM_ok (fun _ _ hread => readRgbaSample_ok hread) hsamples).2 x
    (List.mem_range.mpr hx)
  rcases rgbPlane_cases hchroma hplane with hlt | ⟨rfl, hextra⟩
  · exact hrow.1 planeIndex hlt
  · exact hrow.2 hextra

end GolombRiceLoops

section Slices

variable {width height : Nat → Nat}

theorem windowsInDepth_of_planes (hshape : WindowShape stream windows width height)
    (h : ∀ planeIndex < stream.codedPlaneCount,
      ∀ y < (planeWindow windows planeIndex).height.toNat,
        ∀ x < (planeWindow windows planeIndex).width.toNat,
          WindowSampleInDepth stream memory windows planeIndex x y) :
    WindowsInDepth stream memory windows width height := by
  intro planeIndex hplane x hx y hy
  rw [← hshape.width planeIndex hplane] at hx
  rw [← hshape.height planeIndex hplane] at hy
  exact h planeIndex hplane y hy x hx

theorem windowsInDepth_of_rows (hshape : WindowShape stream windows width height)
    (hrgb : ∀ planeIndex < stream.codedPlaneCount,
      width planeIndex = width 0 ∧ height planeIndex = height 0)
    (h : ∀ planeIndex < stream.codedPlaneCount, ∀ y < (planeWindow windows 0).height.toNat,
        ∀ x < (planeWindow windows 0).width.toNat,
          WindowSampleInDepth stream memory windows planeIndex x y) :
    WindowsInDepth stream memory windows width height := by
  have hpos : 0 < stream.codedPlaneCount := stream.codedPlaneCount_pos
  intro planeIndex hplane x hx y hy
  rw [(hrgb planeIndex hplane).1, ← hshape.width 0 hpos] at hx
  rw [(hrgb planeIndex hplane).2, ← hshape.height 0 hpos] at hy
  exact h planeIndex hplane y hy x hx

variable (hchroma : stream.colorspaceType = 1 → stream.chromaPlanes = true)
  (hshape : WindowShape stream windows width height)
  (hrgb : stream.colorspaceType = 1 → ∀ planeIndex < stream.codedPlaneCount,
    width planeIndex = width 0 ∧ height planeIndex = height 0)

include hchroma hshape hrgb

/-- A range-coded slice has no sample out of depth. -/
theorem encodeSamples_demands {W : Type} [SymbolSink W] :
    Demands (WindowsInDepth stream memory windows width height)
      (encodeSamples (W := W) stream memory windows) := by
  unfold encodeSamples
  split
  · rename_i hcolor
    exact (encodeRgbRows_demands (hchroma hcolor)).imp
      (windowsInDepth_of_rows hshape (hrgb hcolor))
  · exact encodePlanes_demands.imp (windowsInDepth_of_planes hshape)

/-- Nor has a Golomb-Rice coded one. -/
theorem encodeGolombRiceSamples_demands :
    Demands (WindowsInDepth stream memory windows width height)
      (encodeGolombRiceSamples stream memory windows) := by
  unfold encodeGolombRiceSamples
  refine Demands.rest fun encoding => Demands.rest fun state => Demands.rest fun _ => ?_
  split
  · rename_i hcolor
    exact (encodeGolombRiceRgbRows_demands (hchroma hcolor)).imp
      (windowsInDepth_of_rows hshape (hrgb hcolor))
  · refine Demands.imp (Demands.forLoop fun planeIndex =>
      encodeGolombRicePlane_demands planeIndex) fun h => windowsInDepth_of_planes hshape
        fun planeIndex hplane => h planeIndex (Nat.zero_le _) (by omega)

end Slices

section Cells

variable {sliceIndex : Nat} {keyframe : Bool} {state : SliceState}

theorem valueOn_demands {σ α : Type} {call : Call σ α} {φ : Prop} (h : Demands φ call)
    {object : σ} {a : α} (hvalue : call.valueOn object = .ok a) : φ := by
  obtain ⟨object', hcall⟩ := valueOn_ok hvalue
  exact h hcall

/-- A cell that is encoded has a window of samples in depth. -/
theorem encodeCell_inDepth (h : ProfileStream stream) (hcell : sliceIndex < cellCount stream)
    {result : SliceState × Bytes} (hencode : SliceEncodeExecutor.encodeSlice stream input memory
      keyframe sliceIndex state = .ok result) :
    ∃ windows, SliceInputWindow.validate stream input (cellSlice stream sliceIndex) = .ok windows ∧
      WindowsInDepth stream memory windows (sliceWidth stream (cellSlice stream sliceIndex))
        (sliceHeight stream (cellSlice stream sliceIndex)) := by
  have hplaced := cell_placed h.sets_ne hcell
  unfold SliceEncodeExecutor.encodeSlice SliceEncoder.encodeSlice at hencode
  rw [applyRaster_cell h.sets_ne hcell] at hencode
  simp only [except_bind_ok, exists_unit] at hencode
  obtain ⟨-, -, -, -, slice, hslice, windows, hwindows, working, -, reset, -, hcontent⟩ := hencode
  obtain rfl := Except.ok.inj hslice
  have hshape := inputShape hplaced hwindows
  have hrgb : stream.colorspaceType = 1 → ∀ planeIndex < stream.codedPlaneCount,
      sliceWidth stream (cellSlice stream sliceIndex) planeIndex =
        sliceWidth stream (cellSlice stream sliceIndex) 0 ∧
      sliceHeight stream (cellSlice stream sliceIndex) planeIndex =
        sliceHeight stream (cellSlice stream sliceIndex) 0 :=
    fun hcolor planeIndex _ => sliceSize_rgb hcolor hplaced planeIndex
  refine ⟨windows, hwindows, ?_⟩
  cases hmode : stream.entropyMode with
  | range =>
    rw [hmode] at hcontent
    simp only [except_bind_ok, SliceEncoder.encodeRangeSlice] at hcontent
    obtain ⟨content, ⟨_, -, _, -, writer, -, hvalue⟩, -⟩ := hcontent
    refine valueOn_demands ?_ hvalue
    exact Demands.first (encodeSamples_demands h.chroma hshape hrgb)
  | golombRice =>
    rw [hmode] at hcontent
    simp only [except_bind_ok, SliceEncoder.encodeGolombRiceSlice] at hcontent
    obtain ⟨content, ⟨_, -, result, hvalue, -⟩, -⟩ := hcontent
    refine valueOn_demands ?_ hvalue
    exact Demands.first (encodeGolombRiceSamples_demands h.chroma hshape hrgb)

end Cells

section Frames

variable {keyframe : Bool}

theorem encodeSlices_get {states : List SliceState} {first : Nat}
    {encoded : List (SliceState × Bytes)}
    (h : SliceEncodeExecutor.encodeSlices stream input memory keyframe first states = .ok encoded) :
    encoded.length = states.length ∧ ∀ (k : Nat) (state : SliceState), states[k]? = some state →
      ∃ result, encoded[k]? = some result ∧
        SliceEncodeExecutor.encodeSlice stream input memory keyframe (first + k) state =
          .ok result := by
  induction states generalizing first encoded with
  | nil =>
    obtain rfl := Except.ok.inj h
    exact ⟨rfl, fun k state hstate => by cases hstate⟩
  | cons state states ih =>
    simp only [SliceEncodeExecutor.encodeSlices, except_bind_ok] at h
    obtain ⟨result, hresult, rest, hrest, hencoded⟩ := h
    obtain rfl := Except.ok.inj hencoded
    obtain ⟨hlength, hget⟩ := ih hrest
    refine ⟨congrArg (· + 1) hlength, fun k other hother => ?_⟩
    cases k with
    | zero =>
      obtain rfl := Option.some.inj hother
      refine ⟨result, rfl, ?_⟩
      cases hcell : SliceEncodeExecutor.encodeSlice stream input memory keyframe first state with
      | ok value =>
        rw [hcell] at hresult
        exact hresult
      | error status =>
        rw [hcell] at hresult
        cases hresult
    | succ k =>
      obtain ⟨value, hvalue, hcell⟩ := hget k other hother
      exact ⟨value, hvalue, by rw [show first + (k + 1) = first + 1 + k by omega]; exact hcell⟩

theorem SliceEncodeExecutor.workingStates_length {executor : SliceEncodeExecutor} {count : Nat}
    {states : List SliceState} (h : executor.workingStates stream keyframe count = .ok states) :
    states.length = count := by
  unfold SliceEncodeExecutor.workingStates at h
  split at h
  · obtain rfl := Except.ok.inj h
    exact List.length_replicate ..
  · simp only [except_bind_ok, exists_unit, failIf_ok_iff] at h
    obtain ⟨-, -, hcount, -, hstates⟩ := h
    obtain rfl := Except.ok.inj hstates
    exact not_not.mp (not_or.mp hcount).1

theorem checkedSliceCount_ok {count : Nat}
    (h : SliceEncodeExecutor.checkedSliceCount stream = .ok count) :
    count = cellCount stream ∧ 0 < cellCount stream := by
  simp only [SliceEncodeExecutor.checkedSliceCount, except_bind_ok, exists_unit,
    failIf_ok_iff] at h
  rw [cellCount64_toNat] at h
  obtain ⟨hpos, -, hcount⟩ := h
  exact ⟨(Except.ok.inj hcount).symm, Nat.pos_of_ne_zero hpos⟩

/-- A frame is encoded only where the encoder accepts its view and every sample of its
planes is in depth. -/
theorem encode_inDepth (h : ProfileStream stream) {executor : SliceEncodeExecutor}
    {result : SliceEncodeExecutor × Bytes}
    (hencode : SliceEncodeExecutor.encode stream input memory keyframe executor = .ok result) :
    FrameValidator.validateInput stream input = .ok () ∧ SamplesInDepth stream input memory := by
  simp only [SliceEncodeExecutor.encode, except_bind_ok, exists_unit] at hencode
  obtain ⟨hinput, count, hcount, states, hstates, encoded, hencoded, -⟩ := hencode
  refine ⟨hinput, fun planeIndex hplane x hx y hy => ?_⟩
  obtain ⟨rfl, hcells⟩ := checkedSliceCount_ok hcount
  have hlength := SliceEncodeExecutor.workingStates_length hstates
  obtain ⟨⟨cell, hcell⟩, hcontains, -⟩ := cellRects_exactCover h.sets_ne hcells planeIndex x hx y hy
  obtain ⟨value, -, hvalue⟩ := (encodeSlices_get hencoded).2 cell _
    (List.getElem?_eq_getElem (hlength ▸ hcell))
  rw [Nat.zero_add] at hvalue
  obtain ⟨windows, hwindows, hdepth⟩ := encodeCell_inDepth h hcell hvalue
  obtain ⟨⟨hleft, hright⟩, htop, hbottom⟩ := hcontains
  dsimp only at hleft hright htop hbottom
  have hsample := hdepth planeIndex hplane
    (x - (outputRect stream (cellSlice stream cell) planeIndex).x) (by
      unfold sliceWidth
      omega)
    (y - (outputRect stream (cellSlice stream cell) planeIndex).y) (by
      unfold sliceHeight
      omega)
  unfold WindowSampleInDepth at hsample
  rwa [inputSample_eq_frameSample (cell_placed h.sets_ne hcell) hwindows hplane,
    Nat.add_sub_cancel' hleft, Nat.add_sub_cancel' htop] at hsample

end Frames

end Mffv1
