import Mffv1.GolombRiceAdaptation
import Mffv1.PlaneSamples
import Mffv1.WindowGeometry

/-!
# Candidates of a slice

The candidates of a slice share a temporary frame. A candidate that is refused stops at
any row of it, but the rows of a slice are the same for each of them: the candidate that
is decoded stores all of them, over whatever the others have left.
-/
namespace Mffv1

open Hoare (Triple Maintains)

section Rows

variable (stream : StreamParameters) (windows : List PlaneWindow)

/-- An RGB slice stores its three colours, whatever windows it has. -/
def storedPlaneCount : Nat :=
  if stream.colorspaceType = 1 then if stream.extraPlane then 4 else 3 else windows.length

/-- The rows of RGB are those of its first plane. -/
def storedHeight (planeIndex : Nat) : Nat :=
  (planeWindow windows (if stream.colorspaceType = 1 then 0 else planeIndex)).height.toNat

def windowWidth (planeIndex : Nat) : Nat := (planeWindow windows planeIndex).width.toNat

def storedWidth (planeIndex : Nat) : Nat :=
  if stream.colorspaceType = 1 then
    if planeIndex < 3 then windowWidth windows 0
    else min (windowWidth windows 0) (windowWidth windows planeIndex)
  else windowWidth windows planeIndex

/-- A row that the decoder of the slice stores. -/
structure RowStore.OfSlice (store : RowStore) : Prop where
  plane_lt : store.planeIndex < storedPlaneCount stream windows
  y_lt : store.y < storedHeight stream windows store.planeIndex
  row_length : store.row.length = storedWidth stream windows store.planeIndex

def OnlySliceRows (stores : List RowStore) : Prop :=
  ∀ store ∈ stores, store.OfSlice stream windows

/-- The rows for which `done` are among the stored ones. -/
def HasRows (done : Nat → Nat → Prop) (stores : List RowStore) : Prop :=
  ∀ planeIndex y, done planeIndex y → ∃ store ∈ stores, store.planeIndex = planeIndex ∧ store.y = y

/-- Every row that the slice has. -/
def AllRows (stores : List RowStore) : Prop :=
  HasRows (fun planeIndex y => planeIndex < storedPlaneCount stream windows ∧
    y < storedHeight stream windows planeIndex) stores

/-- The decoder has stored the rows for which `done`. -/
structure StoredUpTo {R : Type} (done : Nat → Nat → Prop) (decoding : Decoding R) : Prop where
  sized : decoding.state.LinesSized windows.length (windowWidth windows)
  rows : OnlySliceRows stream windows decoding.stores
  complete : HasRows done decoding.stores

/-- What is left of a decoder that fails. -/
def Abandoned {R : Type} (_ : Error) (decoding : Decoding R) : Prop :=
  OnlySliceRows stream windows decoding.stores

end Rows

section Stored

variable {stream : StreamParameters} {windows : List PlaneWindow} {R α : Type}
  {done done' : Nat → Nat → Prop} {decoding : Decoding R}

theorem HasRows.imp {stores : List RowStore} (h : HasRows done stores)
    (hdone : ∀ planeIndex y, done' planeIndex y → done planeIndex y) : HasRows done' stores :=
  fun planeIndex y hrow => h planeIndex y (hdone planeIndex y hrow)

theorem HasRows.append {stores others : List RowStore} (h : HasRows done stores)
    (hothers : HasRows done' others) :
    HasRows (fun planeIndex y => done planeIndex y ∨ done' planeIndex y) (stores ++ others) := by
  intro planeIndex y hrow
  rcases hrow with hrow | hrow
  · obtain ⟨store, hmem, hplace⟩ := h planeIndex y hrow
    exact ⟨store, List.mem_append_left _ hmem, hplace⟩
  · obtain ⟨store, hmem, hplace⟩ := hothers planeIndex y hrow
    exact ⟨store, List.mem_append_right _ hmem, hplace⟩

theorem StoredUpTo.imp (h : StoredUpTo stream windows done decoding)
    (hdone : ∀ planeIndex y, done' planeIndex y → done planeIndex y) :
    StoredUpTo stream windows done' decoding :=
  ⟨h.sized, h.rows, h.complete.imp hdone⟩

theorem StoredUpTo.addStores (h : StoredUpTo stream windows done decoding)
    {stores : List RowStore} (hrows : OnlySliceRows stream windows stores)
    (hdone : HasRows done' stores) :
    StoredUpTo stream windows (fun planeIndex y => done planeIndex y ∨ done' planeIndex y)
      (decoding.addStores stores) := by
  constructor
  · exact h.sized
  · intro store hmem
    rcases List.mem_append.mp hmem with hmem | hmem
    · exact h.rows store hmem
    · exact hrows store hmem
  · exact h.complete.append hdone

/-- A call that leaves the stored rows alone. -/
theorem stored_of_maintains {call : Call (Decoding R) α}
    (h : ∀ stores, Maintains (LinesKept windows.length (windowWidth windows) stores) call) :
    Triple (StoredUpTo stream windows done) call (fun _ => StoredUpTo stream windows done)
      (Abandoned stream windows) := by
  refine Triple.of_cases (fun decoding a decoding' hstored hcall => ?_)
    fun decoding status decoding' hstored hcall => ?_
  · have hkept := (h decoding.stores).ok ⟨hstored.sized, rfl⟩ hcall
    constructor
    · exact hkept.sized
    · rw [hkept.stores_eq]
      exact hstored.rows
    · rw [hkept.stores_eq]
      exact hstored.complete
  · have hkept := (h decoding.stores).error ⟨hstored.sized, rfl⟩ hcall
    unfold Abandoned
    rw [hkept.stores_eq]
    exact hstored.rows

theorem stored_modifyState {f : SliceState → SliceState}
    (hf : ∀ state, state.LinesSized windows.length (windowWidth windows) →
      (f state).LinesSized windows.length (windowWidth windows)) :
    Triple (StoredUpTo stream windows done) (modify (Decoding.modifyState f) : Call (Decoding R) Unit)
      (fun _ => StoredUpTo stream windows done) (Abandoned stream windows) :=
  stored_of_maintains fun _ => modifyState_maintains hf

/-- A line is as long as the window of its plane, also where there is neither. -/
theorem current_length {state : SliceState}
    (h : state.LinesSized windows.length (windowWidth windows)) (planeIndex : Nat) :
    (state.lineState planeIndex).current.length = windowWidth windows planeIndex := by
  by_cases hplane : planeIndex < windows.length
  · exact (h.sized planeIndex hplane).current
  · have hline : state.lineStates.length ≤ planeIndex := h.planes.trans_le (Nat.not_lt.mp hplane)
    unfold SliceState.lineState windowWidth planeWindow
    rw [List.getD_eq_default _ _ hline, List.getD_eq_default _ _ (Nat.not_lt.mp hplane)]
    rfl

theorem storePlanarLine_stored {planeIndex y : Nat} (hcolor : stream.colorspaceType ≠ 1)
    (hplane : planeIndex < windows.length)
    (hy : y < (planeWindow windows planeIndex).height.toNat) :
    Triple (StoredUpTo stream windows done)
      (storePlanarLine stream windows planeIndex y : Call (Decoding R) Unit)
      (fun _ => StoredUpTo stream windows fun plane row =>
        done plane row ∨ (plane = planeIndex ∧ row = y))
      (Abandoned stream windows) := by
  refine (Triple.ofExcept (fun _ _ _ h => h) fun _ _ _ h => h.rows).bind fun _ =>
    Triple.look fun decoding hstored => ?_
  let store : RowStore :=
    { planeIndex, y
      row := ((decoding.state.lineState planeIndex).current.take
        (planeWindow windows planeIndex).width.toNat).map castSample }
  have hrow : RowStore.OfSlice stream windows store := by
    constructor
    · simpa [store, storedPlaneCount, hcolor] using hplane
    · simpa [store, storedHeight, hcolor] using hy
    · simp [store, storedWidth, hcolor, current_length hstored.sized, windowWidth]
  have hplaces : HasRows (fun plane row => plane = planeIndex ∧ row = y) [store] :=
    fun plane row hplace => ⟨store, List.mem_singleton_self store, hplace.1.symm, hplace.2.symm⟩
  have hadd := hstored.addStores (fun other hmem => by rwa [List.mem_singleton.mp hmem]) hplaces
  refine (Triple.update fun decoding' hsame => ?_).bind fun _ =>
    stored_modifyState fun _ hsized => hsized.swapLines
  rw [hsame]
  exact hadd

theorem rgbRowStores_ofSlice {y : Nat} {state : SliceState} (hcolor : stream.colorspaceType = 1)
    (hy : y < (planeWindow windows 0).height.toNat)
    (hsized : state.LinesSized windows.length (windowWidth windows)) :
    OnlySliceRows stream windows (rgbRowStores stream (windowWidth windows 0) y state) := by
  have hinside {planeIndex : Nat} {row : List UInt16}
      (hplane : planeIndex < storedPlaneCount stream windows)
      (hrow : row.length = storedWidth stream windows planeIndex) :
      RowStore.OfSlice stream windows { planeIndex, y, row } := by
    constructor
    · exact hplane
    · simpa [storedHeight, hcolor] using hy
    · exact hrow
  have hwidth {planeIndex : Nat} (hplane : planeIndex < 3) :
      storedWidth stream windows planeIndex = windowWidth windows 0 := by
    simp [storedWidth, hcolor, hplane]
  intro store hmem
  cases hextra : stream.extraPlane with
  | false =>
    have hcount : storedPlaneCount stream windows = 3 := by
      simp [storedPlaneCount, hcolor, hextra]
    simp only [rgbRowStores, hextra, Bool.false_eq_true, if_false, List.mem_cons,
      List.not_mem_nil, or_false] at hmem
    rcases hmem with rfl | rfl | rfl
    all_goals exact hinside (by omega) (by simp [inverseColorTransformRow, hwidth])
  | true =>
    have hcount : storedPlaneCount stream windows = 4 := by
      simp [storedPlaneCount, hcolor, hextra]
    simp only [rgbRowStores, hextra, if_true, List.cons_append, List.nil_append, List.mem_cons,
      List.not_mem_nil, or_false] at hmem
    rcases hmem with rfl | rfl | rfl | rfl
    · exact hinside (by omega) (by simp [inverseColorTransformRow, hwidth])
    · exact hinside (by omega) (by simp [inverseColorTransformRow, hwidth])
    · exact hinside (by omega) (by simp [inverseColorTransformRow, hwidth])
    · exact hinside (by omega) (by simp [storedWidth, hcolor, current_length hsized])

theorem rgbRowStores_complete (hcolor : stream.colorspaceType = 1) (width y : Nat)
    (state : SliceState) :
    HasRows (fun planeIndex row => planeIndex < storedPlaneCount stream windows ∧ row = y)
      (rgbRowStores stream width y state) := by
  rintro planeIndex row ⟨hplane, rfl⟩
  have hrow : (planeIndex, row) ∈ (rgbRowStores stream width row state).map
      fun store => (store.planeIndex, store.y) := by
    cases hextra : stream.extraPlane with
    | false =>
      simp only [storedPlaneCount, hcolor, hextra, Bool.false_eq_true, if_false, if_true] at hplane
      simp [rgbRowStores, hextra]
      omega
    | true =>
      simp only [storedPlaneCount, hcolor, hextra, if_true] at hplane
      simp [rgbRowStores, hextra]
      omega
  obtain ⟨store, hmem, hplace⟩ := List.mem_map.mp hrow
  exact ⟨store, hmem, (Prod.mk.inj hplace).1, (Prod.mk.inj hplace).2⟩

theorem storeRgbLine_stored {y : Nat} (hcolor : stream.colorspaceType = 1)
    (hy : y < (planeWindow windows 0).height.toNat) :
    Triple (StoredUpTo stream windows done)
      (storeRgbLine stream windows y : Call (Decoding R) Unit)
      (fun _ => StoredUpTo stream windows fun planeIndex row =>
        done planeIndex row ∨ (planeIndex < storedPlaneCount stream windows ∧ row = y))
      (Abandoned stream windows) := by
  refine (Triple.ofExcept (fun _ _ _ h => h) fun _ _ _ h => h.rows).bind fun _ =>
    Triple.look fun decoding hstored => ?_
  have hadd := hstored.addStores (rgbRowStores_ofSlice hcolor hy hstored.sized)
    (@rgbRowStores_complete stream windows hcolor (windowWidth windows 0) y decoding.state)
  refine (Triple.update fun decoding' hsame => ?_).bind fun _ =>
    stored_modifyState fun _ hsized => hsized.swapAllLines
  rw [hsame]
  exact hadd

end Stored

section GolombRice

variable {stream : StreamParameters} {windows : List PlaneWindow} {setup : GolombRiceSliceSetup}
  {done : Nat → Nat → Prop}

theorem decodeLine_stored (payloadOffset : Nat) (line : GolombRiceLine) :
    Triple (StoredUpTo stream windows done) (decodeGolombRiceLine payloadOffset line)
      (fun _ => StoredUpTo stream windows done) (Abandoned stream windows) :=
  stored_of_maintains fun _ => decodeGolombRiceLine_maintains

theorem decodeRow_stored (planeIndex runStatePlane widthPlane y bits : Nat) :
    Triple (StoredUpTo stream windows done)
      (decodeGolombRiceRow setup windows planeIndex runStatePlane widthPlane y bits)
      (fun _ => StoredUpTo stream windows done) (Abandoned stream windows) :=
  (decodeLine_stored _ _).telling _ fun _ _ _ h => h

theorem decodeGolombRiceRgbRows_stored (hcolor : stream.colorspaceType = 1) :
    Triple (StoredUpTo stream windows fun _ _ => False)
      (decodeGolombRiceRgbRows stream setup windows)
      (fun _ => StoredUpTo stream windows fun planeIndex y =>
        planeIndex < storedPlaneCount stream windows ∧ y < storedHeight stream windows planeIndex)
      (Abandoned stream windows) := by
  have hrows := Triple.forLoop (R := Abandoned stream windows)
    (I := fun rows => StoredUpTo stream windows fun planeIndex y =>
      planeIndex < storedPlaneCount stream windows ∧ y < rows)
    (w := fun y => do
      Mirror.forLoop 0 windows.length fun planeIndex =>
        decodeGolombRiceRow setup windows planeIndex 0 0 y (stream.bitsPerRawSample.toNat + 1)
      storeRgbLine stream windows y)
    0 (planeWindow windows 0).height.toNat fun y _ hy => by
      rw [Nat.zero_add] at hy
      refine (Triple.forLoop (I := fun _ => StoredUpTo stream windows fun planeIndex row =>
        planeIndex < storedPlaneCount stream windows ∧ row < y) 0 windows.length
        fun _ _ _ => decodeRow_stored _ _ _ _ _).bind fun _ => ?_
      refine (storeRgbLine_stored hcolor hy).post fun _ decoding hstored =>
        hstored.imp fun planeIndex row hrow => ?_
      rcases Nat.lt_succ_iff_lt_or_eq.mp hrow.2 with hlt | heq
      · exact .inl ⟨hrow.1, hlt⟩
      · exact .inr ⟨hrow.1, heq⟩
  have hheight (planeIndex : Nat) : storedHeight stream windows planeIndex =
      (planeWindow windows 0).height.toNat := by
    simp [storedHeight, hcolor]
  have hstart : ∀ decoding : Decoding BitReader, StoredUpTo stream windows (fun _ _ => False)
      decoding → StoredUpTo stream windows (fun planeIndex y =>
        planeIndex < storedPlaneCount stream windows ∧ y < 0) decoding :=
    fun _ hstored => hstored.imp fun _ _ hrow => absurd hrow.2 (Nat.not_lt_zero _)
  simp only [hheight]
  rw [Nat.zero_add] at hrows
  exact (hrows.pre hstart).bind fun _ =>
    stored_modifyState fun _ hsized => ⟨hsized.planes, hsized.sized⟩

theorem decodeGolombRicePlane_stored {planeIndex : Nat} (hcolor : stream.colorspaceType ≠ 1)
    (hplane : planeIndex < windows.length) :
    Triple (StoredUpTo stream windows fun plane y =>
        plane < planeIndex ∧ y < storedHeight stream windows plane)
      (decodeGolombRicePlane stream setup windows planeIndex)
      (fun _ => StoredUpTo stream windows fun plane y =>
        plane < planeIndex + 1 ∧ y < storedHeight stream windows plane)
      (Abandoned stream windows) := by
  have hheight : storedHeight stream windows planeIndex =
      (planeWindow windows planeIndex).height.toNat := by
    simp [storedHeight, hcolor]
  have hrows := Triple.forLoop (R := Abandoned stream windows)
    (I := fun rows => StoredUpTo stream windows fun plane y =>
      (plane < planeIndex ∧ y < storedHeight stream windows plane) ∨
        (plane = planeIndex ∧ y < rows))
    (w := fun y => do
      decodeGolombRiceRow setup windows planeIndex planeIndex planeIndex y
        stream.bitsPerRawSample.toNat
      storePlanarLine stream windows planeIndex y)
    0 (planeWindow windows planeIndex).height.toNat fun y _ hy => by
      rw [Nat.zero_add] at hy
      refine (decodeRow_stored _ _ _ _ _).bind fun _ => (storePlanarLine_stored hcolor hplane hy).post
        fun _ decoding hstored => hstored.imp fun plane row hrow => ?_
      rcases hrow with hbefore | ⟨hplane', hrow⟩
      · exact .inl (.inl hbefore)
      · rcases Nat.lt_succ_iff_lt_or_eq.mp hrow with hlt | heq
        · exact .inl (.inr ⟨hplane', hlt⟩)
        · exact .inr ⟨hplane', heq⟩
  have hstart : ∀ decoding : Decoding BitReader, StoredUpTo stream windows (fun plane y =>
        plane < planeIndex ∧ y < storedHeight stream windows plane) decoding →
      StoredUpTo stream windows (fun plane y =>
        (plane < planeIndex ∧ y < storedHeight stream windows plane) ∨
          (plane = planeIndex ∧ y < 0)) decoding :=
    fun _ hstored => hstored.imp fun _ _ hrow => hrow.resolve_right fun h => Nat.not_lt_zero _ h.2
  have hend : ∀ decoding : Decoding BitReader, StoredUpTo stream windows (fun plane y =>
        (plane < planeIndex ∧ y < storedHeight stream windows plane) ∨
          (plane = planeIndex ∧ y < 0 + (planeWindow windows planeIndex).height.toNat)) decoding →
      StoredUpTo stream windows (fun plane y =>
        plane < planeIndex + 1 ∧ y < storedHeight stream windows plane) decoding := by
    refine fun _ hstored => hstored.imp fun plane y hrow => ?_
    rcases Nat.lt_succ_iff_lt_or_eq.mp hrow.1 with hlt | rfl
    · exact .inl ⟨hlt, hrow.2⟩
    · exact .inr ⟨rfl, by rw [Nat.zero_add, ← hheight]; exact hrow.2⟩
  exact ((hrows.pre hstart).post fun _ => hend).bind fun _ =>
    stored_modifyState fun _ hsized => ⟨hsized.planes, hsized.sized⟩

/-- A slice that is decoded has stored all of its rows, and no slice stores any other. -/
theorem decodeGolombRiceSlice_stored :
    Triple (fun decoding : Decoding BitReader =>
        decoding.state.LinesSized windows.length (windowWidth windows) ∧ decoding.stores = [])
      (decodeGolombRiceSlice stream setup windows)
      (fun _ decoding => OnlySliceRows stream windows decoding.stores ∧
        AllRows stream windows decoding.stores)
      (Abandoned stream windows) := by
  have hnone {decoding : Decoding BitReader} (h : decoding.stores = []) :
      OnlySliceRows stream windows decoding.stores := by
    rw [h]
    exact fun _ hmem => absurd hmem List.not_mem_nil
  refine Triple.bind (Q := fun _ decoding =>
    decoding.state.LinesSized windows.length (windowWidth windows) ∧ decoding.stores = [])
    (triple_failIf (fun _ _ h => h) fun _ _ h => hnone h.2) fun _ =>
      Triple.look fun decoding hstart => ?_
  cases hprepare : decoding.state.prepareGolombRice setup.contextBankCounts windows.length with
  | error status =>
    rintro started rfl
    exact hnone hstart.2
  | ok prepared =>
    have hlines := SliceState.prepareGolombRice_lines hprepare
    have hsized : prepared.LinesSized windows.length (windowWidth windows) := by
      constructor
      · rw [SliceState.planeCount, hlines]
        exact hstart.1.planes
      · intro planeIndex hplane
        rw [SliceState.lineState, hlines]
        exact hstart.1.sized planeIndex hplane
    have hreset : StoredUpTo stream windows (fun _ _ => False)
        { decoding with state := prepared.resetRunStates } :=
      ⟨⟨hsized.planes, hsized.sized⟩, hnone hstart.2, fun _ _ h => h.elim⟩
    have hlast {done : Nat → Nat → Prop} (call : Call BitReader Unit) :
        Triple (StoredUpTo stream windows done) (onReader call)
          (fun _ => StoredUpTo stream windows done) (Abandoned stream windows) :=
      stored_of_maintains fun _ => onReader_maintains call
    refine Triple.computes rfl ((Triple.replace fun _ _ => hreset).bind fun _ =>
      (hlast _).bind fun _ => Triple.look fun _ hskipped => Triple.start (Triple.bind
        (Q := fun _ => StoredUpTo stream windows fun planeIndex y =>
          planeIndex < storedPlaneCount stream windows ∧
            y < storedHeight stream windows planeIndex) ?_ fun _ =>
        Triple.look fun _ hstored => ((hlast _).post fun _ _ hstored =>
          ⟨hstored.rows, hstored.complete⟩).start hstored) hskipped)
    by_cases hcolor : stream.colorspaceType = 1
    · rw [if_pos hcolor]
      exact decodeGolombRiceRgbRows_stored hcolor
    · rw [if_neg hcolor]
      have hcount : storedPlaneCount stream windows = 0 + windows.length := by
        simp [storedPlaneCount, hcolor]
      rw [hcount]
      refine Triple.pre (Triple.forLoop (I := fun planes => StoredUpTo stream windows
        fun planeIndex y => planeIndex < planes ∧ y < storedHeight stream windows planeIndex)
        0 windows.length fun planeIndex _ hplane => ?_) fun _ hstored =>
          hstored.imp fun _ _ hrow => absurd hrow.1 (Nat.not_lt_zero _)
      exact decodeGolombRicePlane_stored hcolor (by omega)

end GolombRice

section Candidates

variable {stream : StreamParameters} {windows : List PlaneWindow} {slice : SliceDescriptor}
  {allowReadAhead : Bool}

theorem withReader_triple {R : Type} {reader : R} {call : Call (Decoding R) Unit}
    {P : SliceState → List RowStore → Prop} {Q S : List RowStore → Prop}
    (h : Triple (fun decoding => P decoding.state decoding.stores) call
      (fun _ decoding => Q decoding.stores) (fun _ decoding => S decoding.stores)) :
    Triple (fun progress : SliceProgress => P progress.state progress.stores)
      (SliceProgress.withReader reader call)
      (fun _ progress => Q progress.stores) (fun _ progress => S progress.stores) := by
  intro progress hstart
  have hends := h { reader, state := progress.state, stores := progress.stores } hstart
  unfold SliceProgress.withReader
  cases hcall : call { reader, state := progress.state, stores := progress.stores } with
  | ok u decoding =>
    rw [hcall] at hends
    exact hends
  | error status decoding =>
    rw [hcall] at hends
    exact hends

theorem SliceDecoder.decode_stored (hmode : stream.entropyMode = .golombRice) :
    Triple (fun progress : SliceProgress =>
        progress.state.LinesSized windows.length (windowWidth windows) ∧ progress.stores = [])
      (decode stream allowReadAhead slice windows)
      (fun _ progress => OnlySliceRows stream windows progress.stores ∧
        AllRows stream windows progress.stores)
      (fun _ progress => OnlySliceRows stream windows progress.stores) := by
  have hnone (status : Error) (progress : SliceProgress)
      (h : progress.state.LinesSized windows.length (windowWidth windows) ∧ progress.stores = []) :
      OnlySliceRows stream windows progress.stores := by
    rw [h.2]
    exact fun _ hmem => absurd hmem List.not_mem_nil
  unfold decode
  refine (Triple.ofExcept (fun _ _ _ h => h) fun status _ => hnone status).bind fun _ =>
    Triple.look fun started hstart => Triple.pre (P := fun progress : SliceProgress =>
      progress.state.LinesSized windows.length (windowWidth windows) ∧ progress.stores = [])
      ?_ (by rintro _ rfl; exact hstart)
  refine (Triple.ofExcept (fun _ _ _ h => h) fun status _ => hnone status).bind fun _ =>
    (Triple.ofExcept (fun _ _ _ h => h) fun status _ => hnone status).bind fun content => ?_
  simp only [hmode]
  exact withReader_triple
    (P := fun state stores => state.LinesSized windows.length (windowWidth windows) ∧ stores = [])
    (Q := fun stores => OnlySliceRows stream windows stores ∧ AllRows stream windows stores)
    (S := OnlySliceRows stream windows) decodeGolombRiceSlice_stored

/-- A row is written wherever another one of its length is. -/
theorem rowPatch_ne_none {format : SampleFormat} {buffer : Nat} {address : Int}
    {row : List UInt16} {bank : Nat} {a : Int} :
    rowPatch format buffer address row bank a ≠ none ↔
      byteRange buffer address (row.length * bytesPerSample format) bank a := by
  constructor
  · exact rowPatch_within format buffer address row bank a
  · rintro ⟨rfl, hlow, hhigh⟩
    have hlt : (a - address).toNat < (format.encodeRow row).length := by
      rw [SampleFormat.encodeRow_length]
      omega
    rw [FrameMemory.rowPatch_from row ⟨rfl, hlow⟩, List.getElem?_eq_getElem hlt]
    exact Option.some_ne_none _

theorem storesPatch_covers {stores others : List RowStore}
    (hrows : OnlySliceRows stream windows stores) (hall : AllRows stream windows stores)
    (hothers : OnlySliceRows stream windows others) :
    (storesPatch windows stores).Covers (storesPatch windows others) := by
  intro buffer a hwrites
  obtain ⟨patch, hpatch, hwrite⟩ := Patch.sequence_ne_none.mp hwrites
  obtain ⟨other, hother, rfl⟩ := List.mem_map.mp hpatch
  have hrow := hothers other hother
  obtain ⟨store, hstore, hplane, hy⟩ := hall _ _ ⟨hrow.plane_lt, hrow.y_lt⟩
  have hlength : store.row.length = other.row.length := by
    rw [(hrows store hstore).row_length, hrow.row_length, hplane]
  refine Patch.sequence_ne_none.mpr ⟨store.patch windows, List.mem_map_of_mem hstore, ?_⟩
  unfold RowStore.patch at hwrite ⊢
  rw [rowPatch_ne_none] at hwrite ⊢
  rwa [hplane, hy, hlength]

/-- Nothing is left of the rows of a candidate that was refused. -/
theorem applyStores_over {stores others : List RowStore}
    (hrows : OnlySliceRows stream windows stores) (hall : AllRows stream windows stores)
    (hothers : OnlySliceRows stream windows others) (memory : FrameMemory) :
    applyStores windows stores (applyStores windows others memory) =
      applyStores windows stores memory := by
  rw [applyStores_eq, applyStores_eq, applyStores_eq]
  exact (storesPatch_covers hrows hall hothers).apply_apply memory

end Candidates

namespace SliceExecutor

section Trials

variable {stream : StreamParameters} {windows : List PlaneWindow} {state : SliceState}

/-- The decoder refuses the candidate. -/
def Refuses (stream : StreamParameters) (windows : List PlaneWindow) (state : SliceState)
    (candidate : SliceDescriptor) : Prop :=
  ∃ status progress, SliceDecoder.decode stream true candidate windows { state } =
    .error status progress

/-- The candidates in order, each from the incoming state: the first that is decoded
counts, as if it were decoded at once; without one the first error. -/
theorem decodeCandidates_outcome (hmode : stream.entropyMode = .golombRice)
    (hsized : state.LinesSized windows.length (windowWidth windows)) (candidate : SliceDescriptor)
    (others : List SliceDescriptor) (temporary : FrameMemory) :
    (∃ earlier decoded later u progress, candidate :: others = earlier ++ decoded :: later ∧
      (∀ rejected ∈ earlier, Refuses stream windows state rejected) ∧
      SliceDecoder.decode stream true decoded windows { state } = .ok u progress ∧
      decodeCandidates stream windows state candidate others temporary =
        .ok (progress.state, applyStores windows progress.stores temporary)) ∨
    (∃ status progress, (∀ rejected ∈ candidate :: others, Refuses stream windows state rejected) ∧
      SliceDecoder.decode stream true candidate windows { state } = .error status progress ∧
      decodeCandidates stream windows state candidate others temporary =
        .error (appendGolombRiceCandidateContext status candidate)) := by
  induction others generalizing candidate temporary with
  | nil =>
    cases hdecode : SliceDecoder.decode stream true candidate windows { state } with
    | ok u progress =>
      refine .inl ⟨[], candidate, [], u, progress, rfl, by simp, hdecode, ?_⟩
      simp only [decodeCandidates, hdecode]
    | error status progress =>
      refine .inr ⟨status, progress, ?_, rfl, ?_⟩
      · intro rejected hmem
        obtain rfl := List.mem_singleton.mp hmem
        exact ⟨status, progress, hdecode⟩
      · simp only [decodeCandidates, hdecode]
  | cons next others ih =>
    cases hdecode : SliceDecoder.decode stream true candidate windows { state } with
    | ok u progress =>
      refine .inl ⟨[], candidate, next :: others, u, progress, rfl, by simp, hdecode, ?_⟩
      simp only [decodeCandidates, hdecode]
    | error status progress =>
      have hrefused : Refuses stream windows state candidate := ⟨status, progress, hdecode⟩
      have hrows := (SliceDecoder.decode_stored hmode).error ⟨hsized, rfl⟩ hdecode
      rcases ih next (applyStores windows progress.stores temporary) with
        ⟨earlier, decoded, later, u, done, hsplit, hearlier, hdecoded, hcandidates⟩ |
        ⟨first, left, hall, hfirst, hcandidates⟩
      · refine .inl ⟨candidate :: earlier, decoded, later, u, done, by rw [hsplit]; rfl, ?_,
          hdecoded, ?_⟩
        · exact List.forall_mem_cons.mpr ⟨hrefused, hearlier⟩
        · have hstored := (SliceDecoder.decode_stored hmode).ok ⟨hsized, rfl⟩ hdecoded
          simp only [decodeCandidates, hdecode, hcandidates]
          rw [applyStores_over hstored.1 hstored.2 hrows]
          rfl
      · refine .inr ⟨status, progress, List.forall_mem_cons.mpr ⟨hrefused, hall⟩, rfl, ?_⟩
        simp only [decodeCandidates, hdecode, hcandidates]
        rfl

end Trials

end SliceExecutor

section Windows

variable {stream : StreamParameters} {output : FrameView} {slice : SliceDescriptor}
  {windows temporaryWindows : List PlaneWindow} {stores : List RowStore}
  {width height : Nat → Nat}

/-- The rows that a slice stores are those of its windows. -/
theorem AllRows.ofWindows (hall : AllRows stream windows stores)
    (hshape : WindowShape stream windows width height)
    (hrgb : stream.colorspaceType = 1 → RgbAlike stream width height) :
    ∀ planeIndex < windows.length, ∀ y < (planeWindow windows planeIndex).height.toNat,
      ∃ store ∈ stores, store.planeIndex = planeIndex ∧ store.y = y := by
  intro planeIndex hplane y hy
  apply hall planeIndex y
  by_cases hcolor : stream.colorspaceType = 1
  · have halike := hrgb hcolor
    rw [hshape.planes] at hplane
    rw [hshape.height planeIndex hplane, halike.height planeIndex hplane] at hy
    simp only [storedPlaneCount, storedHeight, hcolor, if_true,
      hshape.height 0 stream.codedPlaneCount_pos]
    simp only [StreamParameters.codedPlaneCount, halike.chromaPlanes, if_true] at hplane
    refine ⟨?_, hy⟩
    split at hplane <;> simp_all
  · simpa [storedPlaneCount, storedHeight, hcolor] using ⟨hplane, hy⟩

theorem outputWindows_disjoint (hplaced : Placed stream slice) (hapart : PlanesApart stream output)
    (hwindows : SliceOutputWindow.validate stream output slice = .ok windows) :
    WindowsDisjoint windows where
  apart := hapart.windowsApart hplaced hwindows
  rowsSeparate _ hplane := (SliceOutputWindow.validate_addresses hwindows
    (SliceOutputWindow.validate_length hwindows ▸ hplane)).rowsSeparate

end Windows

namespace SliceExecutor

section Alone

variable (stream : StreamParameters) (output : FrameView) (slice : SliceDescriptor)

/-- What every candidate starts from: the windows of the slice, and line states that are
reset. -/
def openSlice : Call SliceTask (List PlaneWindow) := do
  let windows ← MonadExcept.ofExcept (SliceOutputWindow.validate stream output slice)
  let task ← get
  let state ← MonadExcept.ofExcept (task.state.reset stream windows)
  set { task with state }
  return windows

/-- A candidate that is decoded into the windows of its slice. -/
def decodeInPlace (candidate : SliceDescriptor) (windows : List PlaneWindow) :
    Call SliceTask Unit := fun task =>
  match SliceDecoder.decode stream true candidate windows { state := task.state } with
  | .ok _ progress =>
    .ok () { memory := applyStores windows progress.stores task.memory, state := progress.state }
  | .error status progress =>
    .error status
      { memory := applyStores windows progress.stores task.memory, state := progress.state }

/-- One candidate, without a temporary frame and without the others. -/
def decodeAlone (candidate : SliceDescriptor) : Call SliceTask Unit :=
  openSlice stream output slice >>= decodeInPlace stream candidate

end Alone

section Isolation

variable {stream : StreamParameters} {output : FrameView} {slice : SliceDescriptor}
  {windows : List PlaneWindow} {task started : SliceTask}

theorem reset_linesOnly {before state : SliceState} (h : before.reset stream windows = .ok state) :
    state = { before with lineStates := state.lineStates } ∧
      state.LinesSized windows.length (windowWidth windows) := by
  simp only [SliceState.reset, except_bind_ok] at h
  obtain ⟨lines, hlines, hstate⟩ := h
  obtain rfl := Except.ok.inj hstate
  obtain ⟨hlength, hget⟩ := resetLines_get hlines
  refine ⟨rfl, hlength, fun planeIndex hplane => ?_⟩
  unfold SliceState.lineState windowWidth
  rw [hget planeIndex hplane]
  exact LineState.bordered_sized _ _

/-- The windows are those of the slice, and nothing has changed but the line states. -/
structure Opened (stream : StreamParameters) (output : FrameView) (slice : SliceDescriptor)
    (task : SliceTask) (windows : List PlaneWindow) (started : SliceTask) : Prop where
  accepted : SliceOutputWindow.validate stream output slice = .ok windows
  memory : started.memory = task.memory
  state : started.state = { task.state with lineStates := started.state.lineStates }
  sized : started.state.LinesSized windows.length (windowWidth windows)

theorem openSlice_ok (h : openSlice stream output slice task = .ok windows started) :
    Opened stream output slice task windows started := by
  simp only [openSlice, Mirror.bind_ok_iff, Mirror.ofExcept_ok_iff, Mirror.get_bind,
    Mirror.set_apply, Mirror.pure_apply, EStateM.Result.ok.injEq] at h
  obtain ⟨_, _, ⟨hwindows, rfl⟩, state, _, ⟨hreset, rfl⟩, _, _, ⟨-, rfl⟩, rfl, rfl⟩ := h
  obtain ⟨hstate, hsized⟩ := reset_linesOnly hreset
  exact ⟨hwindows, rfl, hstate, hsized⟩

theorem openSlice_error {status : Error}
    (h : openSlice stream output slice task = .error status started) : started = task := by
  have hunchanged : Triple (fun started => started = task) (openSlice stream output slice)
      (fun _ _ => True) (fun _ left => left = task) := by
    refine Triple.bind (Q := fun _ started => started = task)
      (Triple.ofExcept (fun _ _ _ h => h) fun _ _ _ h => h) fun windows =>
        Triple.look fun started hstarted => ?_
    obtain rfl := hstarted
    refine Triple.bind (Q := fun _ _ => True)
      (Triple.ofExcept (fun _ _ _ _ => True.intro) fun _ _ _ h => h) fun state => ?_
    exact (Triple.replace (S := fun _ _ => True) fun _ _ => True.intro).bind fun _ =>
      Triple.returns fun _ _ => True.intro
  exact hunchanged.error rfl h

theorem decodeSlice_eq (htry : canTryGolombRiceReadAheadBoundary stream slice = true) :
    decodeSlice stream output slice = (do
      let windows ← openSlice stream output slice
      decodeWithCandidates stream output windows slice) := by
  unfold decodeSlice openSlice
  simp only [htry, if_true, bind_assoc, pure_bind]

theorem decodeAlone_decoded {candidate : SliceDescriptor} {u : Unit} {progress : SliceProgress}
    (hopen : openSlice stream output slice task = .ok windows started)
    (hdecode : SliceDecoder.decode stream true candidate windows { state := started.state } =
      .ok u progress) :
    decodeAlone stream output slice candidate task = .ok ()
      { memory := applyStores windows progress.stores started.memory, state := progress.state } := by
  unfold decodeAlone
  rw [Mirror.bind_ok hopen]
  unfold decodeInPlace
  rw [hdecode]

theorem decodeAlone_refused {candidate : SliceDescriptor} {status : Error}
    {progress : SliceProgress}
    (hopen : openSlice stream output slice task = .ok windows started)
    (hdecode : SliceDecoder.decode stream true candidate windows { state := started.state } =
      .error status progress) :
    ∃ left, decodeAlone stream output slice candidate task = .error status left := by
  unfold decodeAlone
  rw [Mirror.bind_ok hopen]
  unfold decodeInPlace
  rw [hdecode]
  exact ⟨_, rfl⟩

end Isolation

section Copied

variable {stream : StreamParameters} {output frame : FrameView} {slice : SliceDescriptor}
  {windows temporaryWindows : List PlaneWindow} {state : SliceState}

/-- The rows of a candidate come to the windows of the slice as if they were stored there. -/
theorem copyCandidate_stores (hmode : stream.entropyMode = .golombRice)
    (hvalid : FrameValidator.validateOutput stream output = .ok ())
    (hplaced : Placed stream slice) (hapart : PlanesApart stream output)
    (hwindows : SliceOutputWindow.validate stream output slice = .ok windows)
    (hgeometry : SameGeometry temporaryWindows windows)
    (hdisjoint : WindowsDisjoint temporaryWindows)
    (hsized : state.LinesSized temporaryWindows.length (windowWidth temporaryWindows))
    {candidate : SliceDescriptor} {u : Unit} {progress : SliceProgress}
    (hdecode : SliceDecoder.decode stream true candidate temporaryWindows { state } =
      .ok u progress) (scratch memory : FrameMemory) :
    copyDecodedSlice (applyStores temporaryWindows progress.stores scratch) temporaryWindows
      windows memory = .ok () (applyStores windows progress.stores memory) := by
  have hshape := hgeometry.shape (outputShape (FrameValidator.validateOutput_format hvalid) hwindows)
  have hrgb := rgbAlike hvalid hplaced
  have hstored := (SliceDecoder.decode_stored hmode).ok ⟨hsized, rfl⟩ hdecode
  have hlines : state.LinesSized stream.codedPlaneCount (sliceWidth stream slice) := by
    refine ⟨hsized.planes.trans hshape.planes, fun planeIndex hplane => ?_⟩
    rw [← hshape.width planeIndex hplane]
    exact hsized.sized planeIndex (hshape.planes ▸ hplane)
  have hinside := SliceDecoder.decode_inside hshape hrgb hlines hdecode
  exact copyDecodedSlice_stores hgeometry hdisjoint (outputWindows_disjoint hplaced hapart hwindows)
    (fun store hmem => (hinside store hmem).ofWindow hshape) (hstored.2.ofWindows hshape hrgb)
    scratch memory

/-- The candidates in a temporary frame, beside each of them in the windows of the slice. -/
theorem decodeWithCandidates_outcome (hmode : stream.entropyMode = .golombRice)
    (hwindows : SliceOutputWindow.validate stream output slice = .ok windows)
    (hsamples : HasSamples windows)
    (hsized : state.LinesSized windows.length (windowWidth windows)) {first : SliceDescriptor}
    {others : List SliceDescriptor}
    (hcandidates : makeGolombRiceContentCandidates stream slice = first :: others)
    (memory : FrameMemory) :
    (∃ earlier decoded later u progress copied, first :: others = earlier ++ decoded :: later ∧
      (∀ rejected ∈ earlier, Refuses stream windows state rejected) ∧
      SliceDecoder.decode stream true decoded windows { state } = .ok u progress ∧
      decodeWithCandidates stream output windows slice { memory, state } =
        .ok () { memory := copied, state := progress.state } ∧
      (FrameValidator.validateOutput stream output = .ok () → Placed stream slice →
        PlanesApart stream output → copied = applyStores windows progress.stores memory)) ∨
    (∃ status progress, (∀ rejected ∈ first :: others, Refuses stream windows state rejected) ∧
      SliceDecoder.decode stream true first windows { state } = .error status progress ∧
      decodeWithCandidates stream output windows slice { memory, state } =
        .error (appendGolombRiceCandidateContext status first) { memory, state }) := by
  obtain ⟨frame, temporaryWindows, hframe, hcontiguous⟩ := temporaryFrame_made hwindows hsamples
  obtain ⟨hgeometry, hdisjoint⟩ := temporary_geometry hwindows hframe hcontiguous
  have hwidths : windowWidth temporaryWindows = windowWidth windows :=
    funext fun planeIndex => congrArg UInt32.toNat (hgeometry.width_eq planeIndex)
  have htemporary : state.LinesSized temporaryWindows.length (windowWidth temporaryWindows) := by
    rwa [hgeometry.planes, hwidths]
  have hrun : decodeWithCandidates stream output windows slice { memory, state } =
      match decodeCandidates stream temporaryWindows state first others emptyMemory with
      | .error status => .error status { memory, state }
      | .ok decoded =>
        .ok ()
          { memory := applyStores windows (copiedRows decoded.2 temporaryWindows) memory
            state := decoded.1 } := by
    unfold decodeWithCandidates
    rw [Mirror.bind_ok (Mirror.ofExcept_ok_iff.mpr ⟨hframe, rfl⟩),
      Mirror.bind_ok (Mirror.ofExcept_ok_iff.mpr ⟨hcontiguous, rfl⟩), hcandidates]
    dsimp only
    rw [Mirror.get_bind]
    cases decodeCandidates stream temporaryWindows state first others emptyMemory with
    | error status => rfl
    | ok decoded =>
      rw [Mirror.bind_ok (Mirror.ofExcept_ok_iff.mpr ⟨rfl, rfl⟩)]
      simp only [copyDecodedSlice_eq hgeometry]
      rfl
  have hrefuses (candidate : SliceDescriptor) :
      Refuses stream temporaryWindows state candidate ↔ Refuses stream windows state candidate := by
    unfold Refuses
    rw [hgeometry.decode_eq stream hmode]
  rcases decodeCandidates_outcome hmode htemporary first others emptyMemory with
    ⟨earlier, decoded, later, u, progress, hsplit, hearlier, hdecoded, hresult⟩ |
    ⟨status, progress, hall, hfirst, hresult⟩
  · refine .inl ⟨earlier, decoded, later, u, progress, applyStores windows (copiedRows
      (applyStores temporaryWindows progress.stores emptyMemory) temporaryWindows) memory, hsplit,
      fun rejected hmem => (hrefuses rejected).mp (hearlier rejected hmem), ?_, ?_, ?_⟩
    · rwa [← hgeometry.decode_eq stream hmode]
    · rw [hrun, hresult]
    · intro hvalid hplaced hapart
      have hcopy := copyCandidate_stores hmode hvalid hplaced hapart hwindows hgeometry hdisjoint
        htemporary hdecoded emptyMemory memory
      rw [copyDecodedSlice_eq hgeometry] at hcopy
      exact (EStateM.Result.ok.inj hcopy).2
  · refine .inr ⟨status, progress, fun rejected hmem => (hrefuses rejected).mp (hall rejected hmem),
      ?_, ?_⟩
    · rwa [← hgeometry.decode_eq stream hmode]
    · rw [hrun, hresult]

/-- Nothing comes before a first candidate that is decoded. -/
theorem decodeWithCandidates_first (hmode : stream.entropyMode = .golombRice)
    (hwindows : SliceOutputWindow.validate stream output slice = .ok windows)
    (hsamples : HasSamples windows)
    (hsized : state.LinesSized windows.length (windowWidth windows)) {first : SliceDescriptor}
    {others : List SliceDescriptor}
    (hcandidates : makeGolombRiceContentCandidates stream slice = first :: others) {u : Unit}
    {progress : SliceProgress}
    (hdecode : SliceDecoder.decode stream true first windows { state } = .ok u progress)
    (memory : FrameMemory) :
    ∃ copied, decodeWithCandidates stream output windows slice { memory, state } =
        .ok () { memory := copied, state := progress.state } ∧
      (FrameValidator.validateOutput stream output = .ok () → Placed stream slice →
        PlanesApart stream output → copied = applyStores windows progress.stores memory) := by
  rcases decodeWithCandidates_outcome hmode hwindows hsamples hsized hcandidates memory with
    ⟨earlier, decoded, later, u', progress', copied, hsplit, hearlier, hdecoded, hrun, hcopied⟩ |
    ⟨status, progress', -, hrefused, -⟩
  · cases earlier with
    | nil =>
      obtain ⟨rfl, -⟩ := List.cons.inj hsplit
      obtain ⟨-, rfl⟩ := EStateM.Result.ok.inj (hdecode.symm.trans hdecoded)
      exact ⟨copied, hrun, hcopied⟩
    | cons rejected earlier =>
      obtain ⟨rfl, -⟩ := List.cons.inj hsplit
      obtain ⟨status, left, hrefused⟩ := hearlier first List.mem_cons_self
      rw [hdecode] at hrefused
      cases hrefused
  · rw [hdecode] at hrefused
    cases hrefused

end Copied

end SliceExecutor

/-- The first candidate that can be decoded alone decides, whatever the refused ones before it
have stored: the slice is decoded as this candidate is in its place. Where every candidate is
refused, the error is that of the first one with its place in the payload, and where the slice
itself cannot be opened it is that of each. Neither changes anything but line states. -/
theorem candidates_leave_no_trace {stream : StreamParameters} {output : FrameView}
    {slice : SliceDescriptor} (htry : canTryGolombRiceReadAheadBoundary stream slice = true)
    (hsamples : ∀ windows, SliceOutputWindow.validate stream output slice = .ok windows →
      HasSamples windows) (task : SliceExecutor.SliceTask) :
    (∃ earlier decoded later alone after,
      makeGolombRiceContentCandidates stream slice = earlier ++ decoded :: later ∧
      (∀ rejected ∈ earlier, ∃ status left,
        SliceExecutor.decodeAlone stream output slice rejected task = .error status left) ∧
      SliceExecutor.decodeAlone stream output slice decoded task = .ok () alone ∧
      SliceExecutor.decodeSlice stream output slice task = .ok () after ∧
      after.state = alone.state ∧
      (FrameValidator.validateOutput stream output = .ok () → Placed stream slice →
        PlanesApart stream output → after.memory = alone.memory)) ∨
    (∃ first others status left after,
      makeGolombRiceContentCandidates stream slice = first :: others ∧
      (∀ rejected ∈ first :: others, ∃ status left,
        SliceExecutor.decodeAlone stream output slice rejected task = .error status left) ∧
      SliceExecutor.decodeAlone stream output slice first task = .error status left ∧
      SliceExecutor.decodeSlice stream output slice task =
        .error (SliceExecutor.appendGolombRiceCandidateContext status first) after ∧
      after.memory = task.memory ∧
      after.state = { task.state with lineStates := after.state.lineStates }) ∨
    (∃ status, (∀ candidate,
        SliceExecutor.decodeAlone stream output slice candidate task = .error status task) ∧
      SliceExecutor.decodeSlice stream output slice task = .error status task) := by
  have hmode : stream.entropyMode = .golombRice := by
    by_contra hne
    simp [canTryGolombRiceReadAheadBoundary, hne] at htry
  obtain ⟨first, others, hcandidates⟩ : ∃ first others,
      makeGolombRiceContentCandidates stream slice = first :: others := by
    unfold makeGolombRiceContentCandidates
    rw [if_pos htry]
    dsimp only
    split
    · exact ⟨_, _, rfl⟩
    · exact ⟨_, _, rfl⟩
  rw [SliceExecutor.decodeSlice_eq htry, hcandidates]
  cases hopen : SliceExecutor.openSlice stream output slice task with
  | error status left =>
    obtain rfl := SliceExecutor.openSlice_error hopen
    exact .inr (.inr ⟨status, fun _ => Mirror.bind_error hopen, Mirror.bind_error hopen⟩)
  | ok windows started =>
    have hopened := SliceExecutor.openSlice_ok hopen
    rw [Mirror.bind_ok hopen]
    rcases SliceExecutor.decodeWithCandidates_outcome hmode hopened.accepted
        (hsamples windows hopened.accepted) hopened.sized hcandidates started.memory with
      ⟨earlier, decoded, later, u, progress, copied, hsplit, hearlier, hdecoded, hresult, hcopied⟩ |
      ⟨status, progress, hall, hfirst, hresult⟩
    · refine .inl ⟨earlier, decoded, later, _, _, hsplit, ?_,
        SliceExecutor.decodeAlone_decoded hopen hdecoded, hresult, rfl, hcopied⟩
      intro rejected hmem
      obtain ⟨status, left, hrefused⟩ := hearlier rejected hmem
      exact ⟨status, SliceExecutor.decodeAlone_refused hopen hrefused⟩
    · obtain ⟨left, halone⟩ := SliceExecutor.decodeAlone_refused hopen hfirst
      refine .inr (.inl ⟨first, others, status, left, started, rfl, ?_, halone, hresult,
        hopened.memory, hopened.state⟩)
      intro rejected hmem
      obtain ⟨status, left, hrefused⟩ := hall rejected hmem
      exact ⟨status, SliceExecutor.decodeAlone_refused hopen hrefused⟩

def fallbackStream : StreamParameters where
  version := 3
  entropyMode := .golombRice
  chromaPlanes := false
  bitsPerRawSample := 8
  width := 1
  height := 1
  numHSlices := 1
  numVSlices := 1
  quantTableSets := [{ contextCount := 1 }]

/-- The content is the second byte, which ends inside a code; the first byte holds one. -/
def fallbackSlice : SliceDescriptor where
  rasterWidth := 1
  rasterHeight := 1
  width := 1
  height := 1
  payload := [0x12, 0x00]
  contentByteOffset := 1
  quantTableSetIndexes := [0, 0]

def fallbackOutput : FrameView where
  planes := some [{ hasData := true, info := { width := 1, height := 1, strideBytes := 1 } }]
  planeCount := 1

def freshTask : SliceExecutor.SliceTask where
  memory := SliceExecutor.emptyMemory
  state := {}

theorem fallback_hasSamples {windows : List PlaneWindow}
    (h : SliceOutputWindow.validate fallbackStream fallbackOutput fallbackSlice = .ok windows) :
    HasSamples windows := by
  obtain rfl : [{ strideBytes := 1, width := 1, height := 1 }] = windows := Except.ok.inj h
  unfold HasSamples
  decide

theorem candidates_leave_no_trace_fallback :
    (∃ earlier decoded later alone after,
      makeGolombRiceContentCandidates fallbackStream fallbackSlice = earlier ++ decoded :: later ∧
      (∀ rejected ∈ earlier, ∃ status left,
        SliceExecutor.decodeAlone fallbackStream fallbackOutput fallbackSlice rejected
          freshTask = .error status left) ∧
      SliceExecutor.decodeAlone fallbackStream fallbackOutput fallbackSlice decoded
        freshTask = .ok () alone ∧
      SliceExecutor.decodeSlice fallbackStream fallbackOutput fallbackSlice freshTask =
        .ok () after ∧
      after.state = alone.state ∧
      (FrameValidator.validateOutput fallbackStream fallbackOutput = .ok () →
        Placed fallbackStream fallbackSlice → PlanesApart fallbackStream fallbackOutput →
          after.memory = alone.memory)) ∨
    (∃ first others status left after,
      makeGolombRiceContentCandidates fallbackStream fallbackSlice = first :: others ∧
      (∀ rejected ∈ first :: others, ∃ status left,
        SliceExecutor.decodeAlone fallbackStream fallbackOutput fallbackSlice rejected
          freshTask = .error status left) ∧
      SliceExecutor.decodeAlone fallbackStream fallbackOutput fallbackSlice first
        freshTask = .error status left ∧
      SliceExecutor.decodeSlice fallbackStream fallbackOutput fallbackSlice freshTask =
        .error (SliceExecutor.appendGolombRiceCandidateContext status first) after ∧
      after.memory = freshTask.memory ∧
      after.state = { freshTask.state with lineStates := after.state.lineStates }) ∨
    (∃ status, (∀ candidate,
        SliceExecutor.decodeAlone fallbackStream fallbackOutput fallbackSlice candidate
          freshTask = .error status freshTask) ∧
      SliceExecutor.decodeSlice fallbackStream fallbackOutput fallbackSlice freshTask =
        .error status freshTask) :=
  candidates_leave_no_trace (by decide) (fun _ => fallback_hasSamples) freshTask

/-- Two rows, of which the upper one has no row of chroma. -/
def narrowStream : StreamParameters where
  version := 3
  entropyMode := .golombRice
  chromaPlanes := true
  log2VChromaSubsample := 1
  bitsPerRawSample := 8
  width := 1
  height := 2
  numHSlices := 1
  numVSlices := 2
  quantTableSets := [{ contextCount := 1 }]

def upperSlice : SliceDescriptor where
  rasterWidth := 1
  rasterHeight := 1
  width := 1
  height := 1
  payload := [0x00, 0x80]
  contentByteOffset := 1
  quantTableSetIndexes := [0, 0]

/-- One plane a buffer. -/
def narrowOutput : FrameView where
  planes := some ((List.range 3).map fun (planeIndex : Nat) =>
    { hasData := true, buffer := planeIndex, info := makePlaneInfo narrowStream planeIndex })
  planeCount := 3

def rgbColumnStream : StreamParameters where
  version := 3
  entropyMode := .golombRice
  colorspaceType := 1
  chromaPlanes := true
  bitsPerRawSample := 8
  width := 1
  height := 2
  numHSlices := 1
  numVSlices := 1
  quantTableSets := [{ contextCount := 1 }]

def rgbColumnSlice : SliceDescriptor where
  rasterWidth := 1
  rasterHeight := 1
  width := 1
  height := 2
  payload := [0x00, 0x4C, 0x53, 0x91, 0x32, 0x64, 0xA8, 0x9A]
  contentByteOffset := 1
  quantTableSetIndexes := [0, 0]

/-- Every colour begins a byte behind the one before, at the second row of it. -/
def staggeredOutput : FrameView where
  planes := some ((List.range 3).map fun (planeIndex : Nat) =>
    { hasData := true, start := planeIndex, info := makePlaneInfo rgbColumnStream planeIndex })
  planeCount := 3

/-- A plane without rows has no temporary frame, and where colours share a byte it is left by
the last plane of the copy. -/
theorem candidates_decode_alone_false :
    (canTryGolombRiceReadAheadBoundary narrowStream upperSlice = true ∧
      (makeGolombRiceContentCandidates narrowStream upperSlice).head? = some upperSlice ∧
      FrameValidator.validateOutput narrowStream narrowOutput = .ok () ∧
      Mirror.succeeded (SliceExecutor.decodeAlone narrowStream narrowOutput upperSlice upperSlice
        freshTask) = true ∧
      Mirror.failure (SliceExecutor.decodeSlice narrowStream narrowOutput upperSlice freshTask) =
        some (makeError .invalidArgument "output plane data pointer is null")) ∧
    (canTryGolombRiceReadAheadBoundary rgbColumnStream rgbColumnSlice = true ∧
      (makeGolombRiceContentCandidates rgbColumnStream rgbColumnSlice).head? = some rgbColumnSlice ∧
      FrameValidator.validateOutput rgbColumnStream staggeredOutput = .ok () ∧
      ∃ alone after,
        SliceExecutor.decodeAlone rgbColumnStream staggeredOutput rgbColumnSlice rgbColumnSlice freshTask =
          .ok () alone ∧
        SliceExecutor.decodeSlice rgbColumnStream staggeredOutput rgbColumnSlice freshTask =
          .ok () after ∧
        alone.memory 0 1 ≠ after.memory 0 1) := by
  constructor
  · exact ⟨by decide, by decide, by decide, by decide +kernel, by decide +kernel⟩
  · refine ⟨by decide, by decide, by decide, _, _, Mirror.eq_ok_of_succeeded (by decide +kernel),
      Mirror.eq_ok_of_succeeded (by decide +kernel), by decide +kernel⟩

end Mffv1
