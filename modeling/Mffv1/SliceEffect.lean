import Mffv1.Lib.Hoare
import Mffv1.SliceExecutor
import Mffv1.SliceShape

/-!
# What a slice does to a frame

A slice that is decoded stores rows of its own windows and nothing else, and what it
stores does not depend on what the frame held before.
-/
namespace Mffv1

/-- The row lies in the rectangle of its plane. -/
structure RowStore.Inside (stream : StreamParameters) (width height : Nat → Nat) (store : RowStore) :
    Prop where
  plane_lt : store.planeIndex < stream.codedPlaneCount
  y_lt : store.y < height store.planeIndex
  row_length : store.row.length = width store.planeIndex

/-- The lines have the widths of the planes, and every stored row is inside its plane. -/
structure StoresInside {R : Type} (stream : StreamParameters) (width height : Nat → Nat)
    (decoding : Decoding R) : Prop where
  sized : decoding.state.LinesSized stream.codedPlaneCount width
  stores : ∀ store ∈ decoding.stores, store.Inside stream width height

/-- The planes of RGB have the same size. -/
structure RgbAlike (stream : StreamParameters) (width height : Nat → Nat) : Prop where
  chromaPlanes : stream.chromaPlanes = true
  width : ∀ planeIndex < stream.codedPlaneCount, width planeIndex = width 0
  height : ∀ planeIndex < stream.codedPlaneCount, height planeIndex = height 0

section Inside

variable {R : Type} {stream : StreamParameters} {width height : Nat → Nat}
  {decoding : Decoding R}

theorem StoresInside.modifyState (h : StoresInside stream width height decoding)
    {f : SliceState → SliceState} (hf : ∀ state, state.LinesSized stream.codedPlaneCount width →
      (f state).LinesSized stream.codedPlaneCount width) :
    StoresInside stream width height (decoding.modifyState f) :=
  ⟨hf _ h.sized, h.stores⟩

theorem StoresInside.addStores (h : StoresInside stream width height decoding)
    {stores : List RowStore} (hstores : ∀ store ∈ stores, store.Inside stream width height) :
    StoresInside stream width height (decoding.addStores stores) := by
  constructor
  · exact h.sized
  · intro store hmem
    rcases List.mem_append.mp hmem with hmem | hmem
    · exact h.stores store hmem
    · exact hstores store hmem

theorem keeps_onReader {α : Type} (call : Call R α) :
    Mirror.Keeps (StoresInside stream width height) (onReader call) := by
  intro decoding a decoding' hinside hrun
  unfold onReader at hrun
  split at hrun
  · obtain ⟨-, rfl⟩ := EStateM.Result.ok.inj hrun
    exact ⟨hinside.sized, hinside.stores⟩
  · cases hrun

theorem keeps_modifyState {f : SliceState → SliceState}
    (hf : ∀ state, state.LinesSized stream.codedPlaneCount width →
      (f state).LinesSized stream.codedPlaneCount width) :
    Mirror.Keeps (StoresInside stream width height)
      (modify (Decoding.modifyState f) : Call (Decoding R) Unit) :=
  Mirror.Keeps.update fun _ hinside => hinside.modifyState hf

theorem keeps_addStores {stores : List RowStore}
    (hstores : ∀ store ∈ stores, store.Inside stream width height) :
    Mirror.Keeps (StoresInside stream width height)
      (modify (Decoding.addStores stores) : Call (Decoding R) Unit) :=
  Mirror.Keeps.update fun _ hinside => hinside.addStores hstores

variable {windows : List PlaneWindow} {planeIndex y : Nat}

theorem storePlanarLine_inside (hshape : WindowShape stream windows width height)
    (hplane : planeIndex < stream.codedPlaneCount) (hy : y < height planeIndex) :
    Mirror.Keeps (StoresInside stream width height)
      (storePlanarLine stream windows planeIndex y : Call (Decoding R) Unit) := by
  refine (Mirror.Keeps.ofExcept _).bind fun _ => Mirror.Keeps.view fun decoding hinside => ?_
  have hrow : RowStore.Inside stream width height
      { planeIndex, y
        row := ((decoding.state.lineState planeIndex).current.take
          (planeWindow windows planeIndex).width.toNat).map castSample } := by
    constructor
    · exact hplane
    · exact hy
    · simp [(hinside.sized.sized planeIndex hplane).current, hshape.width planeIndex hplane]
  refine (keeps_addStores fun store hmem => ?_).bind fun _ =>
    keeps_modifyState fun state hsized => hsized.swapLines
  obtain rfl := List.mem_singleton.mp hmem
  exact hrow

theorem rgbRowStores_inside (hrgb : RgbAlike stream width height) (hy : y < height 0)
    {state : SliceState} (hsized : state.LinesSized stream.codedPlaneCount width) :
    ∀ store ∈ rgbRowStores stream (width 0) y state, store.Inside stream width height := by
  have hinside (planeIndex : Nat) (hplane : planeIndex < stream.codedPlaneCount) {row : List UInt16}
      (hrow : row.length = width 0) :
      RowStore.Inside stream width height { planeIndex, y, row } := by
    constructor
    · exact hplane
    · exact (hrgb.height planeIndex hplane).symm ▸ hy
    · exact hrow.trans (hrgb.width planeIndex hplane).symm
  intro store hmem
  cases hextra : stream.extraPlane with
  | false =>
    have hcount : stream.codedPlaneCount = 3 := by
      simp [StreamParameters.codedPlaneCount, hrgb.chromaPlanes, hextra]
    simp only [rgbRowStores, hextra, Bool.false_eq_true, if_false, List.mem_cons,
      List.not_mem_nil, or_false] at hmem
    rcases hmem with rfl | rfl | rfl
    all_goals exact hinside _ (by omega) (by simp [inverseColorTransformRow])
  | true =>
    have hcount : stream.codedPlaneCount = 4 := by
      simp [StreamParameters.codedPlaneCount, hrgb.chromaPlanes, hextra]
    have halpha := (hsized.sized 3 (by omega)).current
    rw [hrgb.width 3 (by omega)] at halpha
    simp only [rgbRowStores, hextra, if_true, List.cons_append, List.nil_append, List.mem_cons,
      List.not_mem_nil, or_false] at hmem
    rcases hmem with rfl | rfl | rfl | rfl
    · exact hinside _ (by omega) (by simp [inverseColorTransformRow])
    · exact hinside _ (by omega) (by simp [inverseColorTransformRow])
    · exact hinside _ (by omega) (by simp [inverseColorTransformRow])
    · exact hinside _ (by omega) (by simp [halpha])

theorem storeRgbLine_inside (hshape : WindowShape stream windows width height)
    (hrgb : RgbAlike stream width height) (hy : y < height 0) :
    Mirror.Keeps (StoresInside stream width height)
      (storeRgbLine stream windows y : Call (Decoding R) Unit) := by
  have hcount : 0 < stream.codedPlaneCount := by
    simp [StreamParameters.codedPlaneCount, hrgb.chromaPlanes]
  refine (Mirror.Keeps.ofExcept _).bind fun _ => Mirror.Keeps.view fun decoding hinside => ?_
  rw [hshape.width 0 hcount]
  exact (keeps_addStores (rgbRowStores_inside hrgb hy hinside.sized)).bind fun _ =>
    keeps_modifyState fun state hsized => hsized.swapAllLines

end Inside

section RangeLoops

variable {R : Type} [SymbolSource R] {stream : StreamParameters} {windows : List PlaneWindow}
  {width height : Nat → Nat} {setup : RangeSliceSetup} {planeIndex y : Nat}

theorem decodeRangeSample_inside (base bank bits planeIndex x : Nat) (model : QuantTableSet)
    (signed16bit : Bool) : Mirror.Keeps (StoresInside stream width height)
      (decodeRangeSample base model bank bits signed16bit planeIndex x : Call (Decoding R) Unit) :=
  Mirror.Keeps.view fun _ _ => (Mirror.Keeps.ofExcept _).bind fun _ => (keeps_onReader _).bind fun _ =>
    keeps_failIf.bind fun _ => keeps_modifyState fun _ hsized => hsized.store _ _

theorem decodePlaneLine_inside (bits : Nat) (signed16bit : Bool) (planeIndex widthPlane : Nat) :
    Mirror.Keeps (StoresInside stream width height)
      (decodePlaneLine setup windows bits signed16bit planeIndex widthPlane :
        Call (Decoding R) Unit) :=
  Mirror.Keeps.forLoop _ _ fun _ _ _ => decodeRangeSample_inside _ _ _ _ _ _ _

theorem decodePlanarLine_inside (hshape : WindowShape stream windows width height)
    (hplane : planeIndex < stream.codedPlaneCount) (hy : y < height planeIndex) :
    Mirror.Keeps (StoresInside stream width height)
      (decodePlanarLine stream setup windows planeIndex y : Call (Decoding R) Unit) :=
  (decodePlaneLine_inside _ _ _ _).bind fun _ => storePlanarLine_inside hshape hplane hy

/-- The rows that a slice stores are rows of its windows. -/
theorem decodeRangeSamples_inside (hshape : WindowShape stream windows width height)
    (hrgb : stream.colorspaceType = 1 → RgbAlike stream width height) :
    Mirror.Keeps (StoresInside stream width height)
      (decodeRangeSamples stream setup windows : Call (Decoding R) Unit) := by
  have hfirst : 0 < stream.codedPlaneCount := by
    unfold StreamParameters.codedPlaneCount
    omega
  unfold decodeRangeSamples
  split
  · rename_i hcolor
    refine Mirror.Keeps.forLoop _ _ fun y _ hy => ?_
    rw [hshape.height 0 hfirst, Nat.zero_add] at hy
    exact (Mirror.Keeps.forLoop _ _ fun _ _ _ => decodePlaneLine_inside _ _ _ _).bind fun _ =>
      storeRgbLine_inside hshape (hrgb hcolor) hy
  · split
    · refine Mirror.Keeps.forLoop _ _ fun y _ _ => Mirror.Keeps.forLoop _ _ fun planeIndex _ hplane => ?_
      rw [hshape.planes, Nat.zero_add] at hplane
      split
      · exact Mirror.Keeps.pure
      · rename_i hy
        exact decodePlanarLine_inside hshape hplane (hshape.height planeIndex hplane ▸ Nat.not_le.mp hy)
    · refine Mirror.Keeps.forLoop _ _ fun planeIndex _ hplane =>
        Mirror.Keeps.forLoop _ _ fun y _ hy => ?_
      rw [hshape.planes, Nat.zero_add] at hplane
      rw [hshape.height planeIndex hplane, Nat.zero_add] at hy
      exact decodePlanarLine_inside hshape hplane hy

end RangeLoops

section GolombRiceLoops

open Hoare (Maintains)

variable {stream : StreamParameters} {windows : List PlaneWindow} {width height : Nat → Nat}
  {payloadOffset : Nat} {setup : GolombRiceLine}

/-- The lines have the widths of the planes, and these rows are stored. -/
structure LinesKept {R : Type} (count : Nat) (width : Nat → Nat) (stores : List RowStore)
    (decoding : Decoding R) : Prop where
  sized : decoding.state.LinesSized count width
  stores_eq : decoding.stores = stores

section Lines

variable {count : Nat} {stores : List RowStore}

theorem onReader_maintains {R α : Type} (call : Call R α) :
    Maintains (LinesKept count width stores) (onReader call) := by
  intro decoding hkept
  unfold onReader
  cases call decoding.reader with
  | ok value reader => exact ⟨hkept.sized, hkept.stores_eq⟩
  | error status reader => exact ⟨hkept.sized, hkept.stores_eq⟩

theorem modifyState_maintains {R : Type} {f : SliceState → SliceState}
    (hf : ∀ state, state.LinesSized count width → (f state).LinesSized count width) :
    Maintains (LinesKept count width stores)
      (modify (Decoding.modifyState f) : Call (Decoding R) Unit) :=
  Maintains.update fun _ hkept => ⟨hf _ hkept.sized, hkept.stores_eq⟩

theorem storeDecoded_maintains (x : Nat) (sample : Int) :
    Maintains (LinesKept count width stores) (storeDecoded setup x sample) :=
  modifyState_maintains fun _ hsized => hsized.store x sample

theorem readSegment_maintains (x : Nat) :
    Maintains (LinesKept count width stores) (readSegment payloadOffset setup x) :=
  Maintains.view fun _ _ => (onReader_maintains _).bind fun _ =>
    (modifyState_maintains fun _ hsized => hsized.setGolombRiceRunState _).bind fun _ =>
      Maintains.pure

theorem decodePendingRun_maintains (x samples : Nat) :
    Maintains (LinesKept count width stores) (decodePendingRun setup x samples) := by
  induction samples generalizing x with
  | zero => exact Maintains.pure
  | succ samples ih =>
    exact Maintains.view fun _ _ => (Maintains.ofExcept _).bind fun _ =>
      (storeDecoded_maintains x _).bind fun _ => ih (x + 1)

theorem decodeRunSegments_maintains (neighbors : NeighborSamples) (context : ContextDecision)
    (fuel x : Nat) :
    Maintains (LinesKept count width stores)
      (decodeRunSegments payloadOffset setup neighbors context fuel x) := by
  induction fuel generalizing x with
  | zero => exact Maintains.pure
  | succ fuel ih =>
    refine ((readSegment_maintains x).telling _).bind fun segment =>
      (modifyState_maintains fun _ hsized =>
        hsized.modifyLine fun _ _ hline => hline.storeRun _ _).bind fun _ => ?_
    split
    · exact Maintains.pure
    · exact ih _

theorem decodeDifference_maintains (what : String) (x : Nat)
    (read : GolombRiceContextState → Nat → Call BitReader (Int × GolombRiceContextState)) :
    Maintains (LinesKept count width stores)
      (decodeDifference payloadOffset setup what x read) := by
  refine Maintains.view fun _ _ => (Maintains.ofExcept _).bind fun context => ?_
  have hread : Maintains (LinesKept count width stores)
      (readDifference payloadOffset setup context read) :=
    Maintains.view fun _ _ => (onReader_maintains _).bind fun _ =>
      (modifyState_maintains fun _ hsized => hsized.setGolombRiceContext _ _ _).bind fun _ =>
        Maintains.pure
  exact (hread.telling _).bind fun _ => storeDecoded_maintains x _

theorem decodeGolombRiceStep_maintains (x : Nat) :
    Maintains (LinesKept count width stores) (decodeGolombRiceStep payloadOffset setup x) := by
  refine Maintains.view fun _ _ => ?_
  split
  · exact (readSegment_maintains x).bind fun _ => (decodePendingRun_maintains x _).bind fun _ =>
      Maintains.pure
  · refine (Maintains.ofExcept _).bind fun context => ?_
    split
    · refine (decodeRunSegments_maintains _ _ _ x).bind fun ⟨stop, interrupted⟩ => ?_
      by_cases hstop : interrupted = false ∨ stop = setup.width
      · simp only [if_pos hstop]
        exact Maintains.pure
      · simp only [if_neg hstop]
        exact (decodeDifference_maintains _ _ _).bind fun _ => Maintains.pure
    · exact (decodeDifference_maintains _ x _).bind fun _ => Maintains.pure

/-- A line is decoded into the state only, also where it fails. -/
theorem decodeGolombRiceLine_maintains :
    Maintains (LinesKept count width stores) (decodeGolombRiceLine payloadOffset setup) := by
  have hrounds (fuel x : Nat) : Maintains (LinesKept count width stores)
      (decodeGolombRiceRounds payloadOffset setup fuel x) := by
    induction fuel generalizing x with
    | zero => exact Maintains.pure
    | succ fuel ih =>
      unfold decodeGolombRiceRounds
      split
      · exact Maintains.pure
      · exact (decodeGolombRiceStep_maintains x).bind ih
  exact hrounds _ _

end Lines

theorem decodeGolombRiceLine_inside :
    Mirror.Keeps (StoresInside stream width height) (decodeGolombRiceLine payloadOffset setup) := by
  intro decoding u decoding' hinside hline
  have hkept := decodeGolombRiceLine_maintains.ok ⟨hinside.sized, rfl⟩ hline
  constructor
  · exact hkept.sized
  · rw [hkept.stores_eq]
    exact hinside.stores

theorem decodeGolombRiceRow_inside {setup : GolombRiceSliceSetup}
    (planeIndex runStatePlane widthPlane y bits : Nat) :
    Mirror.Keeps (StoresInside stream width height)
      (decodeGolombRiceRow setup windows planeIndex runStatePlane widthPlane y bits) :=
  decodeGolombRiceLine_inside.telling _

theorem SliceState.prepareGolombRice_lines {counts : List Nat} {runStateCount : Nat}
    {state prepared : SliceState} (h : state.prepareGolombRice counts runStateCount = .ok prepared) :
    prepared.lineStates = state.lineStates := by
  simp only [prepareGolombRice, except_bind_ok, exists_unit, failIf_ok_iff] at h
  obtain ⟨-, -, h⟩ := h
  split at h
  · rw [← Except.ok.inj h]
  · simp only [except_bind_ok, exists_unit, failIf_ok_iff] at h
    rw [← Except.ok.inj h.2.2]

theorem decodeGolombRiceSlice_inside {setup : GolombRiceSliceSetup}
    (hshape : WindowShape stream windows width height)
    (hrgb : stream.colorspaceType = 1 → RgbAlike stream width height) :
    Mirror.Keeps (StoresInside stream width height)
      (decodeGolombRiceSlice stream setup windows) := by
  have hfirst : 0 < stream.codedPlaneCount := by
    unfold StreamParameters.codedPlaneCount
    omega
  refine keeps_failIf.bind fun _ => Mirror.Keeps.view fun decoding hinside => ?_
  cases hprepare : decoding.state.prepareGolombRice setup.contextBankCounts windows.length with
  | error status => exact Mirror.Keeps.throws status
  | ok prepared =>
    have hlines := SliceState.prepareGolombRice_lines hprepare
    have hsized : prepared.LinesSized stream.codedPlaneCount width := by
      have h := hinside.sized
      constructor
      · rw [← h.planes, SliceState.planeCount, SliceState.planeCount, hlines]
      · intro planeIndex hplane
        rw [SliceState.lineState, hlines]
        exact h.sized planeIndex hplane
    have hreset : StoresInside stream width height
        { decoding with state := prepared.resetRunStates } :=
      ⟨⟨hsized.planes, hsized.sized⟩, hinside.stores⟩
    have hok : (MonadExcept.ofExcept (.ok prepared) : Call (Decoding BitReader) SliceState) =
        pure prepared := rfl
    rw [hok, pure_bind]
    refine (Mirror.Keeps.replace hreset).bind fun _ => ?_
    refine (keeps_onReader _).bind fun _ => Mirror.Keeps.view fun _ _ =>
      Mirror.Keeps.bind ?_ fun _ => Mirror.Keeps.view fun _ _ => keeps_onReader _
    split
    · rename_i hcolor
      refine (Mirror.Keeps.forLoop _ _ fun y _ hy => ?_).bind fun _ =>
        keeps_modifyState fun _ hsized => ⟨hsized.planes, hsized.sized⟩
      rw [hshape.height 0 hfirst, Nat.zero_add] at hy
      exact (Mirror.Keeps.forLoop _ _ fun _ _ _ => decodeGolombRiceRow_inside _ _ _ _ _).bind fun _ =>
        storeRgbLine_inside hshape (hrgb hcolor) hy
    · refine Mirror.Keeps.forLoop _ _ fun planeIndex _ hplane =>
        (Mirror.Keeps.forLoop _ _ fun y _ hy => ?_).bind fun _ =>
          keeps_modifyState fun _ hsized => ⟨hsized.planes, hsized.sized⟩
      rw [hshape.planes, Nat.zero_add] at hplane
      rw [hshape.height planeIndex hplane, Nat.zero_add] at hy
      exact (decodeGolombRiceRow_inside _ _ _ _ _).bind fun _ => storePlanarLine_inside hshape hplane hy

end GolombRiceLoops

section Decoder

variable {stream : StreamParameters} {windows : List PlaneWindow} {width height : Nat → Nat}
  {slice : SliceDescriptor} {state : SliceState}

theorem withReader_inside {R : Type} {reader : R} {call : Call (Decoding R) Unit}
    (hkeeps : Mirror.Keeps (StoresInside stream width height) call)
    (hsized : state.LinesSized stream.codedPlaneCount width) {u : Unit} {progress : SliceProgress}
    (h : SliceProgress.withReader reader call { state } = .ok u progress) :
    ∀ store ∈ progress.stores, store.Inside stream width height := by
  have hstart : StoresInside stream width height ({ reader, state } : Decoding R) :=
    ⟨hsized, fun _ hmem => absurd hmem List.not_mem_nil⟩
  unfold SliceProgress.withReader at h
  cases hrun : call { reader, state } with
  | error status decoding =>
    rw [hrun] at h
    cases h
  | ok value decoding =>
    rw [hrun] at h
    obtain ⟨-, rfl⟩ := EStateM.Result.ok.inj h
    exact (hkeeps _ _ _ hstart hrun).stores

theorem decodeRangeContent_inside (hshape : WindowShape stream windows width height)
    (hrgb : stream.colorspaceType = 1 → RgbAlike stream width height) :
    Mirror.Keeps (StoresInside stream width height)
      (SliceDecoder.decodeRangeContent stream slice windows) := by
  refine (decodeRangeSamples_inside hshape hrgb).bind fun _ => ?_
  intro decoding u decoding' hinside h
  simp only [SliceDecoder.captureContexts, SliceState.captureRangeContexts, Mirror.get_bind,
    Mirror.bind_ok_iff, Mirror.ofExcept_ok_iff, except_bind_ok, Mirror.set_apply,
    EStateM.Result.ok.injEq] at h
  obtain ⟨_, _, ⟨⟨contexts, -, hstate⟩, rfl⟩, -, rfl⟩ := h
  obtain rfl := Except.ok.inj hstate
  exact ⟨⟨hinside.sized.planes, hinside.sized.sized⟩, hinside.stores⟩

/-- A slice that is decoded stores rows of its windows. -/
theorem SliceDecoder.decode_inside (hshape : WindowShape stream windows width height)
    (hrgb : stream.colorspaceType = 1 → RgbAlike stream width height)
    (hsized : state.LinesSized stream.codedPlaneCount width) {allowReadAhead : Bool} {u : Unit}
    {progress : SliceProgress}
    (h : decode stream allowReadAhead slice windows { state } = .ok u progress) :
    ∀ store ∈ progress.stores, store.Inside stream width height := by
  simp only [decode, Mirror.bind_ok_iff, Mirror.ofExcept_ok_iff, Mirror.get_bind] at h
  obtain ⟨-, _, ⟨-, rfl⟩, -, _, ⟨-, rfl⟩, content, _, ⟨-, rfl⟩, h⟩ := h
  cases hmode : stream.entropyMode with
  | golombRice =>
    simp only [hmode] at h
    exact withReader_inside (decodeGolombRiceSlice_inside hshape hrgb) hsized h
  | range =>
    simp only [hmode, decodeRange, Mirror.bind_ok_iff, Mirror.ofExcept_ok_iff, Mirror.get_bind] at h
    obtain ⟨banks, _, ⟨-, rfl⟩, reader, _, ⟨-, rfl⟩, h⟩ := h
    exact withReader_inside (decodeRangeContent_inside hshape hrgb) hsized h

end Decoder

/-- The bytes of the rows of a slice. -/
def windowBytes (windows : List PlaneWindow) (buffer : Nat) (a : Int) : Prop :=
  ∃ planeIndex < windows.length, (planeWindow windows planeIndex).Bytes buffer a

section Writing

variable {stream : StreamParameters} {windows : List PlaneWindow} {width height : Nat → Nat}

/-- A row of a window is written inside of it. -/
theorem rowPatch_window {planeIndex y : Nat} (hplane : planeIndex < windows.length)
    (hy : y < (planeWindow windows planeIndex).height.toNat) {row : List UInt16}
    (hrow : row.length = (planeWindow windows planeIndex).width.toNat) :
    (rowPatch (planeWindow windows planeIndex).sampleFormat (planeWindow windows planeIndex).buffer
      ((planeWindow windows planeIndex).rowAddress y) row).Within (windowBytes windows) := by
  refine (rowPatch_within _ _ _ _).mono fun buffer a h => ?_
  obtain ⟨rfl, hlow, hhigh⟩ := h
  rw [hrow] at hhigh
  push_cast at hhigh
  exact ⟨planeIndex, hplane, rfl, y, hy, hlow, hhigh⟩

theorem storesPatch_within_windows {stores : List RowStore}
    (h : ∀ store ∈ stores, store.OfWindow windows) :
    (storesPatch windows stores).Within (windowBytes windows) := by
  refine Patch.sequence_within fun patch hpatch => ?_
  obtain ⟨store, hmem, rfl⟩ := List.mem_map.mp hpatch
  exact rowPatch_window (h store hmem).plane_lt (h store hmem).y_lt (h store hmem).row_length

theorem RowStore.Inside.ofWindow (hshape : WindowShape stream windows width height)
    {store : RowStore} (h : store.Inside stream width height) : store.OfWindow windows where
  plane_lt := hshape.planes ▸ h.plane_lt
  y_lt := by
    rw [hshape.height _ h.plane_lt]
    exact h.y_lt
  row_length := by
    rw [hshape.width _ h.plane_lt]
    exact h.row_length

theorem storesPatch_within (hshape : WindowShape stream windows width height)
    {stores : List RowStore} (h : ∀ store ∈ stores, store.Inside stream width height) :
    (storesPatch windows stores).Within (windowBytes windows) :=
  storesPatch_within_windows fun store hmem => (h store hmem).ofWindow hshape

theorem writes_check {condition : Prop} [Decidable condition] {error : Error}
    {region : Nat → Int → Prop} {next : PUnit → Call FrameMemory Unit}
    (h : ¬condition → Patch.Writes region (next ⟨⟩)) :
    Patch.Writes region (failIf condition error >>= next) := by
  by_cases hfails : condition
  · rw [failIf_of hfails]
    exact .inr ⟨error, fun memory => ⟨memory, rfl⟩⟩
  · rw [failIf_of_not hfails]
    exact h hfails

theorem rowOfFormat_some {format : SampleFormat} {planeIndex y : Nat} {address : Int}
    (h : rowOfFormat format windows planeIndex y = some address) :
    planeIndex < windows.length ∧ y < (planeWindow windows planeIndex).height.toNat ∧
      (planeWindow windows planeIndex).sampleFormat = format ∧
      address = (planeWindow windows planeIndex).rowAddress y := by
  simp only [rowOfFormat] at h
  split at h
  · cases h
  · rename_i hrow
    rw [not_or, not_or, not_not] at hrow
    obtain ⟨hplane, hy, hformat⟩ := hrow
    exact ⟨Nat.not_le.mp hplane, Nat.not_le.mp hy, hformat, (Option.some.inj h).symm⟩

section Copying

variable (temporary : FrameMemory) (source destination : List PlaneWindow)

theorem copySamples_writes {format : SampleFormat} {planeIndex y : Nat} (from_ : Int) {to_ : Int}
    (hrow : rowOfFormat format destination planeIndex y = some to_)
    (hwidth : (planeWindow source planeIndex).width = (planeWindow destination planeIndex).width) :
    Patch.Writes (windowBytes destination)
      (modify (copySamples temporary source destination format planeIndex
        (planeWindow source planeIndex).width.toNat from_ to_) : Call FrameMemory Unit) := by
  obtain ⟨hplane, hy, rfl, rfl⟩ := rowOfFormat_some hrow
  refine Patch.Writes.update (rowPatch_window hplane hy ?_)
    fun memory => FrameMemory.storeSamples_apply _ _ _ _ memory
  rw [List.length_map, List.length_range, hwidth]

theorem copyRow_writes {planeIndex : Nat} (y : Nat)
    (hwidth : (planeWindow source planeIndex).width = (planeWindow destination planeIndex).width) :
    Patch.Writes (windowBytes destination) (copyRow temporary source destination planeIndex y) := by
  unfold copyRow
  cases rowOfFormat .uint8 source planeIndex y with
  | some src =>
    cases hrow : rowOfFormat .uint8 destination planeIndex y with
    | some dst => exact copySamples_writes temporary source destination src hrow hwidth
    | none => exact Patch.Writes.throws _
  | none =>
    cases rowOfFormat .uint16 source planeIndex y with
    | some src =>
      cases hrow : rowOfFormat .uint16 destination planeIndex y with
      | some dst => exact copySamples_writes temporary source destination src hrow hwidth
      | none => exact Patch.Writes.throws _
    | none => exact Patch.Writes.throws _

/-- A decoded slice is copied to its windows. -/
theorem copyDecodedSlice_writes :
    Patch.Writes (windowBytes destination) (copyDecodedSlice temporary source destination) := by
  refine writes_check fun _ => Patch.Writes.forLoop _ _ fun planeIndex _ _ => ?_
  refine writes_check fun hsizes => Patch.Writes.forLoop _ _ fun y _ _ => ?_
  rw [not_or, not_not] at hsizes
  exact copyRow_writes temporary source destination y hsizes.1

end Copying

end Writing

/-- The state of a decoded slice and what it writes to the frame. -/
structure SliceOutcome where
  state : SliceState
  patch : Patch Nat Int UInt8

namespace SliceExecutor

section Outcomes

variable (stream : StreamParameters) (output : FrameView) (slice : SliceDescriptor)
  (state : SliceState)

/-- What the call comes to, whatever the frame holds. -/
def ComesTo (call : Call SliceTask Unit) : Except Error SliceOutcome → Prop
  | .ok outcome => ∀ memory, call { memory, state } =
      .ok () { memory := outcome.patch.apply memory, state := outcome.state }
  | .error status => ∀ memory, ∃ task, call { memory, state } = .error status task

/-- A patch of a placed slice writes to its windows. -/
def StaysIn (result : Except Error SliceOutcome) : Prop :=
  ∀ outcome, result = .ok outcome → Placed stream slice →
    FrameValidator.validateOutput stream output = .ok () →
      ∃ windows, SliceOutputWindow.validate stream output slice = .ok windows ∧
        outcome.patch.Within (windowBytes windows)

variable {stream output slice state} {windows : List PlaneWindow}

theorem rgbAlike (hvalid : FrameValidator.validateOutput stream output = .ok ())
    (hplaced : Placed stream slice) (hcolor : stream.colorspaceType = 1) :
    RgbAlike stream (sliceWidth stream slice) (sliceHeight stream slice) where
  chromaPlanes := by
    simp only [FrameValidator.validateOutput, FrameValidator.validateStreamShape, except_bind_ok,
      exists_unit, failIf_ok_iff] at hvalid
    have hgeometry := hvalid.1.2.2.2.1
    simp only [hasInvalidRgbGeometry, hcolor, decide_true, Bool.true_and, Bool.or_eq_true,
      not_or, Bool.not_eq_true', Bool.not_eq_false] at hgeometry
    exact hgeometry.1.1
  width planeIndex _ := (sliceSize_rgb hcolor hplaced planeIndex).1
  height planeIndex _ := (sliceSize_rgb hcolor hplaced planeIndex).2

/-- A call that goes on as another one from another state. -/
theorem ComesTo.congr {call call' : Call SliceTask Unit} {state' : SliceState}
    {result : Except Error SliceOutcome} (h : ComesTo state' call' result)
    (hcall : ∀ memory, call { memory, state } = call' { memory, state := state' }) :
    ComesTo state call result := by
  cases result with
  | ok outcome =>
    intro memory
    rw [hcall, h memory]
  | error status =>
    intro memory
    obtain ⟨task, htask⟩ := h memory
    exact ⟨task, by rw [hcall, htask]⟩

theorem staysIn_error (status : Error) : StaysIn stream output slice (.error status) :=
  fun _ h => by cases h

theorem decodeDirectly_comesTo {before : SliceState}
    (hwindows : SliceOutputWindow.validate stream output slice = .ok windows)
    (hreset : before.reset stream windows = .ok state) :
    ∃ result, ComesTo state (decodeDirectly stream windows slice) result ∧
      StaysIn stream output slice result := by
  cases hdecode : SliceDecoder.decode stream false slice windows { state } with
  | error status progress =>
    refine ⟨.error status, fun memory => ?_, staysIn_error status⟩
    simp only [decodeDirectly, hdecode]
    exact ⟨_, rfl⟩
  | ok value progress =>
    refine ⟨.ok { state := progress.state, patch := storesPatch windows progress.stores },
      fun memory => ?_, fun outcome houtcome hplaced hvalid => ⟨windows, hwindows, ?_⟩⟩
    · simp only [decodeDirectly, hdecode, applyStores_eq]
    · obtain rfl := Except.ok.inj houtcome
      have hshape := outputShape (FrameValidator.validateOutput_format hvalid) hwindows
      exact storesPatch_within hshape (SliceDecoder.decode_inside hshape
        (rgbAlike hvalid hplaced) (reset_sized hshape hreset) hdecode)

theorem decodeWithCandidates_comesTo
    (hwindows : SliceOutputWindow.validate stream output slice = .ok windows) :
    ∃ result, ComesTo state (decodeWithCandidates stream output windows slice) result ∧
      StaysIn stream output slice result := by
  unfold decodeWithCandidates
  cases makeTemporaryFrame windows output with
  | error status => exact ⟨.error status, fun memory => ⟨_, rfl⟩, staysIn_error status⟩
  | ok temporaryFrame =>
    cases hcontiguous : SliceOutputWindow.resetToContiguousFrame temporaryFrame with
    | error status =>
      refine ⟨.error status, fun memory => ⟨{ memory, state }, ?_⟩, staysIn_error status⟩
      simp only [Mirror.bind_ok (Mirror.ofExcept_ok_iff.mpr ⟨rfl, rfl⟩), hcontiguous]
      rfl
    | ok temporaryWindows =>
      cases hcandidates : makeGolombRiceContentCandidates stream slice with
      | nil =>
        refine ⟨.ok { state, patch := Patch.nothing }, fun memory => ?_,
          fun outcome houtcome _ _ => ⟨windows, hwindows, ?_⟩⟩
        · simp only [Mirror.bind_ok (Mirror.ofExcept_ok_iff.mpr ⟨rfl, rfl⟩), hcontiguous]
          rfl
        · obtain rfl := Except.ok.inj houtcome
          exact Patch.nothing_within _
      | cons candidate others =>
        cases hdecode : decodeCandidates stream temporaryWindows state candidate others
            emptyMemory with
        | error status =>
          refine ⟨.error status, fun memory => ⟨{ memory, state }, ?_⟩, staysIn_error status⟩
          simp only [Mirror.bind_ok (Mirror.ofExcept_ok_iff.mpr ⟨rfl, rfl⟩), hcontiguous,
            Mirror.get_bind, hdecode]
          rfl
        | ok decoded =>
          rcases copyDecodedSlice_writes decoded.2 temporaryWindows windows with
            ⟨patch, hwithin, hcopy⟩ | ⟨status, hcopy⟩
          · refine ⟨.ok { state := decoded.1, patch }, fun memory => ?_,
              fun outcome houtcome _ _ => ⟨windows, hwindows, ?_⟩⟩
            · simp only [Mirror.bind_ok (Mirror.ofExcept_ok_iff.mpr ⟨rfl, rfl⟩), hcontiguous,
                Mirror.get_bind, hdecode, hcopy]
              rfl
            · obtain rfl := Except.ok.inj houtcome
              exact hwithin
          · refine ⟨.error status, fun memory => ?_, staysIn_error status⟩
            obtain ⟨memory', hstatus⟩ := hcopy memory
            simp only [Mirror.bind_ok (Mirror.ofExcept_ok_iff.mpr ⟨rfl, rfl⟩), hcontiguous,
              Mirror.get_bind, hdecode, hstatus]
            exact ⟨_, rfl⟩

/-- The outcome of a slice does not depend on the frame, and its patch stays in the
windows of the slice. -/
theorem exists_outcome (stream : StreamParameters) (output : FrameView) (slice : SliceDescriptor)
    (state : SliceState) : ∃ result, ComesTo state (decodeSlice stream output slice) result ∧
      StaysIn stream output slice result := by
  unfold decodeSlice
  cases hwindows : SliceOutputWindow.validate stream output slice with
  | error status => exact ⟨.error status, fun memory => ⟨_, rfl⟩, staysIn_error status⟩
  | ok windows =>
    cases hreset : state.reset stream windows with
    | error status =>
      refine ⟨.error status, fun memory => ⟨{ memory, state }, ?_⟩, staysIn_error status⟩
      simp only [Mirror.bind_ok (Mirror.ofExcept_ok_iff.mpr ⟨rfl, rfl⟩), Mirror.get_bind, hreset]
      rfl
    | ok reset =>
      by_cases htry : canTryGolombRiceReadAheadBoundary stream slice = true
      · obtain ⟨result, hresult, hstays⟩ := @decodeWithCandidates_comesTo _ _ _ reset _ hwindows
        refine ⟨result, hresult.congr fun memory => ?_, hstays⟩
        simp only [Mirror.bind_ok (Mirror.ofExcept_ok_iff.mpr ⟨rfl, rfl⟩), Mirror.get_bind, hreset, htry]
        rfl
      · obtain ⟨result, hresult, hstays⟩ := decodeDirectly_comesTo hwindows hreset
        refine ⟨result, hresult.congr fun memory => ?_, hstays⟩
        simp only [Mirror.bind_ok (Mirror.ofExcept_ok_iff.mpr ⟨rfl, rfl⟩), Mirror.get_bind, hreset, htry]
        rfl

end Outcomes

end SliceExecutor

end Mffv1
