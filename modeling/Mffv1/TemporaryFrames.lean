import Mffv1.SliceEffect
import Mffv1.WindowAddressing

/-!
# Temporary frames

The candidates of a slice are decoded into a frame of their own, one plane a buffer. It
can be made of every window with samples that was accepted, and it is copied sample by
sample.
-/
namespace Mffv1

open Hoare (Triple)

/-- Windows of the same sizes and formats, wherever they lie. -/
structure SameGeometry (source destination : List PlaneWindow) : Prop where
  planes : source.length = destination.length
  width : ∀ planeIndex < source.length,
    (planeWindow source planeIndex).width = (planeWindow destination planeIndex).width
  height : ∀ planeIndex < source.length,
    (planeWindow source planeIndex).height = (planeWindow destination planeIndex).height
  sampleFormat : ∀ planeIndex < source.length,
    (planeWindow source planeIndex).sampleFormat = (planeWindow destination planeIndex).sampleFormat

/-- Windows that do not overlap, neither their planes nor their rows. -/
structure WindowsDisjoint (windows : List PlaneWindow) : Prop where
  apart : WindowsApart windows
  rowsSeparate : ∀ planeIndex < windows.length, RowsSeparate (planeWindow windows planeIndex)

def HasSamples (windows : List PlaneWindow) : Prop :=
  ∀ planeIndex < windows.length,
    (planeWindow windows planeIndex).width ≠ 0 ∧ (planeWindow windows planeIndex).height ≠ 0

section Temporary

variable {stream : StreamParameters} {output frame : FrameView} {slice : SliceDescriptor}
  {windows temporaryWindows : List PlaneWindow}

theorem makeTemporaryPlanes_get {first : Nat} {planes : List PlaneView}
    (h : makeTemporaryPlanes output windows first = .ok planes) :
    planes.length = windows.length ∧ ∀ k < windows.length,
      (planes.getD k {}).info.width = (planeWindow windows k).width ∧
      (planes.getD k {}).info.height = (planeWindow windows k).height ∧
      (planes.getD k {}).info.sampleFormat = (output.plane (first + k)).info.sampleFormat ∧
      (planes.getD k {}).buffer = first + k := by
  induction windows generalizing first planes with
  | nil =>
    obtain rfl := Except.ok.inj h
    exact ⟨rfl, fun k hk => absurd hk (Nat.not_lt_zero k)⟩
  | cons window windows ih =>
    simp only [makeTemporaryPlanes, makeTemporaryPlane, except_bind_ok, exists_unit,
      failIf_ok_iff] at h
    obtain ⟨plane, ⟨-, -, hplane⟩, rest, hrest, hplanes⟩ := h
    obtain rfl := Except.ok.inj hplane
    obtain rfl := Except.ok.inj hplanes
    obtain ⟨hlength, hget⟩ := ih hrest
    constructor
    · rw [List.length_cons, List.length_cons, hlength]
    · intro k hk
      cases k with
      | zero => exact ⟨rfl, rfl, rfl, rfl⟩
      | succ k =>
        rw [Nat.add_comm k 1, ← Nat.add_assoc, Nat.add_comm 1 k]
        exact hget k (Nat.lt_of_succ_lt_succ hk)

theorem contiguousPlane_ok {planeIndex : Nat} {window : PlaneWindow}
    (h : SliceOutputWindow.contiguousPlane frame planeIndex = .ok window) :
    window.width = (frame.plane planeIndex).info.width ∧
      window.height = (frame.plane planeIndex).info.height ∧
      window.sampleFormat = (frame.plane planeIndex).info.sampleFormat ∧
      window.buffer = (frame.plane planeIndex).buffer ∧ RowsSeparate window := by
  simp only [SliceOutputWindow.contiguousPlane, except_bind_ok, exists_unit, failIf_ok_iff,
    checkedPlaneRowBytes] at h
  obtain ⟨-, -, rowBytes, ⟨hmax, hrowBytes⟩, hstride, _, -, hwindow⟩ := h
  obtain rfl := Except.ok.inj hrowBytes
  obtain rfl := Except.ok.inj hwindow
  refine ⟨rfl, rfl, rfl, rfl, ?_⟩
  obtain ⟨hrow, hrowMax⟩ := columnOffset_exact (frame.plane planeIndex).info.width
    (frame.plane planeIndex).info.sampleFormat
  rw [Int64.lt_iff_toInt_lt, row_toInt64 (by omega), hrow, not_lt] at hstride
  unfold RowsSeparate
  exact_mod_cast hstride

theorem temporary_geometry (hwindows : SliceOutputWindow.validate stream output slice = .ok windows)
    (hframe : makeTemporaryFrame windows output = .ok frame)
    (hcontiguous : SliceOutputWindow.resetToContiguousFrame frame = .ok temporaryWindows) :
    SameGeometry temporaryWindows windows ∧ WindowsDisjoint temporaryWindows := by
  simp only [makeTemporaryFrame, except_bind_ok] at hframe
  obtain ⟨planes, hplanes, hframe⟩ := hframe
  obtain rfl := Except.ok.inj hframe
  obtain ⟨hlength, hget⟩ := makeTemporaryPlanes_get hplanes
  simp only [SliceOutputWindow.resetToContiguousFrame, except_bind_ok, exists_unit] at hcontiguous
  obtain ⟨-, hwindowsOk⟩ := hcontiguous
  obtain ⟨hcount, hplane⟩ := validatePlanes_ok hwindowsOk
  have hmade (planeIndex : Nat) (hlt : planeIndex < temporaryWindows.length) :=
    hget planeIndex (hlength ▸ hcount ▸ hlt)
  have htemporary (planeIndex : Nat) (hlt : planeIndex < temporaryWindows.length) := by
    have hwindow := hplane planeIndex _ (planeWindow_get hlt)
    rw [Nat.zero_add] at hwindow
    exact contiguousPlane_ok hwindow
  have hbuffer (planeIndex : Nat) (hlt : planeIndex < temporaryWindows.length) :
      (planeWindow temporaryWindows planeIndex).buffer = 0 + planeIndex :=
    (htemporary planeIndex hlt).2.2.2.1.trans (hmade planeIndex hlt).2.2.2
  constructor
  · refine ⟨hcount.trans hlength,
      fun planeIndex hlt => (htemporary planeIndex hlt).1.trans (hmade planeIndex hlt).1,
      fun planeIndex hlt => (htemporary planeIndex hlt).2.1.trans (hmade planeIndex hlt).2.1,
      fun planeIndex hlt => ?_⟩
    have haddress := SliceOutputWindow.validatePlane_ok
      (SliceOutputWindow.validate_get hwindows (planeWindow_get (hlength ▸ hcount ▸ hlt)))
    have hformat := (htemporary planeIndex hlt).2.2.1.trans (hmade planeIndex hlt).2.2.1
    rw [Nat.zero_add] at hformat
    exact hformat.trans haddress.sampleFormat.symm
  · refine ⟨WindowsApart.of_buffers fun p hp q hq hne => ?_,
      fun planeIndex hlt => (htemporary planeIndex hlt).2.2.2.2⟩
    rw [hbuffer p hp, hbuffer q hq]
    omega

/-- A temporary frame has the windows of a slice of the same size. -/
theorem SameGeometry.shape {width height : Nat → Nat}
    (hgeometry : SameGeometry temporaryWindows windows)
    (hshape : WindowShape stream windows width height) :
    WindowShape stream temporaryWindows width height where
  planes := hgeometry.planes.trans hshape.planes
  width planeIndex hplane := by
    rw [hgeometry.width planeIndex (by rwa [hgeometry.planes, hshape.planes])]
    exact hshape.width planeIndex hplane
  height planeIndex hplane := by
    rw [hgeometry.height planeIndex (by rwa [hgeometry.planes, hshape.planes])]
    exact hshape.height planeIndex hplane
  sampleFormat planeIndex hplane := by
    rw [hgeometry.sampleFormat planeIndex (by rwa [hgeometry.planes, hshape.planes])]
    exact hshape.sampleFormat planeIndex hplane

theorem rowOfFormat_of {format : SampleFormat} {planeIndex y : Nat}
    (hplane : planeIndex < windows.length)
    (hy : y < (planeWindow windows planeIndex).height.toNat)
    (hformat : (planeWindow windows planeIndex).sampleFormat = format) :
    rowOfFormat format windows planeIndex y =
      some ((planeWindow windows planeIndex).rowAddress y) := by
  unfold rowOfFormat
  exact if_neg (by simp [hplane, hy, hformat])

end Temporary

section Copying

variable {temporary : FrameMemory} {source destination : List PlaneWindow} {planeIndex y : Nat}

/-- A row of the temporary frame. -/
def copiedSamples (temporary : FrameMemory) (source : List PlaneWindow) (planeIndex y : Nat) :
    List UInt16 :=
  (List.range (planeWindow source planeIndex).width.toNat).map fun x =>
    temporary.sampleAt (planeWindow source planeIndex) x y

/-- It is stored as the same row of the output. -/
def copiedRow (temporary : FrameMemory) (source : List PlaneWindow) (planeIndex y : Nat) :
    RowStore where
  planeIndex
  y
  row := copiedSamples temporary source planeIndex y

def copiedRows (temporary : FrameMemory) (source : List PlaneWindow) : List RowStore :=
  (List.range' 0 source.length).flatMap fun planeIndex =>
    (List.range' 0 (planeWindow source planeIndex).height.toNat).map
      (copiedRow temporary source planeIndex)

theorem sampleAt_fits (memory : FrameMemory) (window : PlaneWindow) (x y : Nat) :
    FrameMemory.Fits window.sampleFormat (memory.sampleAt window x y) := by
  intro hformat
  unfold FrameMemory.sampleAt FrameMemory.loadSample
  rw [hformat]
  exact UInt8.toNat_lt _

theorem copiedRow_inWindow (h : SameGeometry source destination)
    (hplane : planeIndex < source.length)
    (hy : y < (planeWindow source planeIndex).height.toNat) :
    (copiedRow temporary source planeIndex y).InWindow destination where
  plane_lt := h.planes ▸ hplane
  y_lt := h.height planeIndex hplane ▸ hy
  row_length := by
    change ((List.range _).map _).length = (planeWindow destination planeIndex).width.toNat
    rw [List.length_map, List.length_range, h.width planeIndex hplane]
  fits := by
    intro sample hsample
    obtain ⟨x, -, rfl⟩ := List.mem_map.mp hsample
    change FrameMemory.Fits (planeWindow destination planeIndex).sampleFormat _
    rw [← h.sampleFormat planeIndex hplane]
    exact sampleAt_fits _ _ _ _

theorem copyRow_eq (h : SameGeometry source destination) (hplane : planeIndex < source.length)
    (hy : y < (planeWindow source planeIndex).height.toNat) (memory : FrameMemory) :
    copyRow temporary source destination planeIndex y memory =
      .ok () (applyStores destination [copiedRow temporary source planeIndex y] memory) := by
  have hplane' : planeIndex < destination.length := h.planes ▸ hplane
  have hy' : y < (planeWindow destination planeIndex).height.toNat :=
    h.height planeIndex hplane ▸ hy
  have hformat := h.sampleFormat planeIndex hplane
  have hsamples (format : SampleFormat) (hsource : (planeWindow source planeIndex).sampleFormat =
      format) : copySamples temporary source destination format planeIndex
        (planeWindow source planeIndex).width.toNat ((planeWindow source planeIndex).rowAddress y)
        ((planeWindow destination planeIndex).rowAddress y) memory =
          (copiedRow temporary source planeIndex y).apply destination memory := by
    unfold copySamples RowStore.apply copiedRow copiedSamples FrameMemory.sampleAt PlaneWindow.sampleAddress
    dsimp only
    rw [← hformat, hsource]
    simp only [mul_comm]
  unfold copyRow
  cases hsource : (planeWindow source planeIndex).sampleFormat with
  | uint8 =>
    rw [hsource] at hformat
    rw [rowOfFormat_of hplane hy hsource, rowOfFormat_of hplane' hy' hformat.symm]
    exact congrArg _ (hsamples _ hsource)
  | uint16 =>
    rw [hsource] at hformat
    have hnone : rowOfFormat .uint8 source planeIndex y = none := by
      unfold rowOfFormat
      exact if_pos (.inr (.inr (by rw [hsource]; decide)))
    rw [hnone, rowOfFormat_of hplane hy hsource, rowOfFormat_of hplane' hy' hformat.symm]
    exact congrArg _ (hsamples _ hsource)

/-- A loop whose rounds store rows. -/
theorem forLoop_stores {windows : List PlaneWindow} {rows : Nat → List RowStore}
    {round : Nat → Call FrameMemory Unit} {start count : Nat}
    (h : ∀ i, start ≤ i → i < start + count → ∀ memory,
      round i memory = .ok () (applyStores windows (rows i) memory)) (memory : FrameMemory) :
    Mirror.forLoop start count round memory =
      .ok () (applyStores windows ((List.range' start count).flatMap rows) memory) := by
  induction count generalizing start memory with
  | zero => rfl
  | succ count ih =>
    rw [Mirror.forLoop_succ, Mirror.bind_ok (h start (Nat.le_refl _) (by omega) memory),
      ih fun i hlo hhi => h i (by omega) (by omega), List.range'_succ, List.flatMap_cons,
      applyStores_append]

/-- What a temporary frame holds is copied row by row. -/
theorem copyDecodedSlice_eq (h : SameGeometry source destination) (memory : FrameMemory) :
    copyDecodedSlice temporary source destination memory =
      .ok () (applyStores destination (copiedRows temporary source) memory) := by
  unfold copyDecodedSlice
  rw [failIf_of_not (not_not.mpr h.planes), pure_bind]
  refine forLoop_stores (fun planeIndex _ hplane memory => ?_) memory
  rw [Nat.zero_add] at hplane
  unfold copyPlane
  rw [failIf_of_not (not_or.mpr ⟨not_not.mpr (h.width planeIndex hplane),
    not_not.mpr (h.height planeIndex hplane)⟩), pure_bind]
  rw [List.map_eq_flatMap]
  refine forLoop_stores (fun y _ hy memory => ?_) memory
  rw [Nat.zero_add] at hy
  exact copyRow_eq h hplane hy memory

theorem copiedRows_inWindow (h : SameGeometry source destination) :
    ∀ store ∈ copiedRows temporary source, store.InWindow destination ∧
      store.row = copiedSamples temporary source store.planeIndex store.y := by
  intro store hmem
  obtain ⟨planeIndex, hplane, hmem⟩ := List.mem_flatMap.mp hmem
  obtain ⟨y, hy, rfl⟩ := List.mem_map.mp hmem
  rw [List.mem_range'_1, Nat.zero_add] at hplane hy
  exact ⟨copiedRow_inWindow h hplane.2 hy.2, rfl⟩

theorem copiedRow_mem (hplane : planeIndex < source.length)
    (hy : y < (planeWindow source planeIndex).height.toNat) :
    copiedRow temporary source planeIndex y ∈ copiedRows temporary source :=
  List.mem_flatMap.mpr ⟨planeIndex, List.mem_range'_1.mpr (by omega),
    List.mem_map_of_mem (List.mem_range'_1.mpr (by omega))⟩

/-- The samples of a row are the same in two memories, each in its own window. -/
def SameRow (left : FrameMemory) (source : List PlaneWindow) (right : FrameMemory)
    (destination : List PlaneWindow) (planeIndex y : Nat) : Prop :=
  ∀ x < (planeWindow source planeIndex).width.toNat,
    right.sampleAt (planeWindow destination planeIndex) x y =
      left.sampleAt (planeWindow source planeIndex) x y

/-- Every row of the temporary frame is copied. -/
theorem copiedRows_copied (h : SameGeometry source destination)
    (hdestination : WindowsDisjoint destination) (memory : FrameMemory) (hplane : planeIndex < source.length)
    (hy : y < (planeWindow source planeIndex).height.toNat) :
    SameRow temporary source (applyStores destination (copiedRows temporary source) memory)
      destination planeIndex y := by
  intro x hx
  have hplane' : planeIndex < destination.length := h.planes ▸ hplane
  have hstored : ∃ store ∈ copiedRows temporary source,
      store.planeIndex = planeIndex ∧ store.y = y := ⟨_, copiedRow_mem hplane hy, rfl, rfl⟩
  rw [sampleAt_applyStores (copiedRows_inWindow h) hdestination.apart hplane'
    (hdestination.rowsSeparate planeIndex hplane') (h.width planeIndex hplane ▸ hx)
    (h.height planeIndex hplane ▸ hy) hstored]
  simp [copiedSamples, List.getD_eq_getElem?_getD, hx]

theorem RowStore.OfWindow.sameGeometry {store : RowStore} (h : SameGeometry source destination)
    (hstore : store.OfWindow source) : store.OfWindow destination where
  plane_lt := h.planes ▸ hstore.plane_lt
  y_lt := h.height _ hstore.plane_lt ▸ hstore.y_lt
  row_length := h.width _ hstore.plane_lt ▸ hstore.row_length

/-- The same rows are stored in both frames. -/
theorem applyStores_sameRow (h : SameGeometry source destination) (hsource : WindowsDisjoint source)
    (hdestination : WindowsDisjoint destination) {stores : List RowStore}
    (hstores : ∀ store ∈ stores, store.OfWindow source) (left right : FrameMemory)
    (hplane : planeIndex < source.length)
    (hy : y < (planeWindow source planeIndex).height.toNat)
    (hstored : ∃ store ∈ stores, store.planeIndex = planeIndex ∧ store.y = y) :
    SameRow (applyStores source stores left) source (applyStores destination stores right)
      destination planeIndex y := by
  have hplane' : planeIndex < destination.length := h.planes ▸ hplane
  induction stores using List.reverseRecOn with
  | nil =>
    obtain ⟨store, hmem, -⟩ := hstored
    exact absurd hmem List.not_mem_nil
  | append_singleton stores last ih =>
    have hlast := hstores last (by simp)
    intro x hx
    rw [applyStores_concat, applyStores_concat]
    by_cases hsame : last.planeIndex = planeIndex ∧ last.y = y
    · obtain ⟨rfl, rfl⟩ := hsame
      rw [sampleAt_apply_same hlast hx,
        sampleAt_apply_same (hlast.sameGeometry h) (h.width _ hplane ▸ hx),
        h.sampleFormat _ hplane]
    · rw [sampleAt_apply_other hlast hsource.apart hplane (hsource.rowsSeparate _ hplane) hx hy hsame,
        sampleAt_apply_other (hlast.sameGeometry h) hdestination.apart hplane'
          (hdestination.rowsSeparate _ hplane') (h.width _ hplane ▸ hx) (h.height _ hplane ▸ hy) hsame]
      refine ih (fun store hmem => hstores store (List.mem_append_left _ hmem)) ?_ x hx
      obtain ⟨store, hmem, hplace⟩ := hstored
      rcases List.mem_append.mp hmem with hmem | hmem
      · exact ⟨store, hmem, hplace⟩
      · obtain rfl := List.mem_singleton.mp hmem
        exact absurd hplace hsame

/-- The samples and what lies around them are all that there is. -/
theorem memory_ext {windows : List PlaneWindow} {left right : FrameMemory}
    (houtside : Patch.SameOutside (windowBytes windows) left right)
    (hsamples : ∀ planeIndex < windows.length,
      ∀ y < (planeWindow windows planeIndex).height.toNat,
        SameRow left windows right windows planeIndex y) : left = right := by
  funext buffer a
  by_cases hinside : windowBytes windows buffer a
  · obtain ⟨planeIndex, hplane, rfl, y, hy, hlow, hhigh⟩ := hinside
    have hbytes := bytesPerSample_pos (planeWindow windows planeIndex).sampleFormat
    obtain ⟨column, hcolumn⟩ := Int.le.dest hlow
    have hlt : column < (planeWindow windows planeIndex).width.toNat *
        bytesPerSample (planeWindow windows planeIndex).sampleFormat := by
      have : (column : Int) < (planeWindow windows planeIndex).width.toNat *
          bytesPerSample (planeWindow windows planeIndex).sampleFormat := by linarith
      exact_mod_cast this
    have hx := (Nat.div_lt_iff_lt_mul hbytes).mpr hlt
    have hdiv : ((column / bytesPerSample (planeWindow windows planeIndex).sampleFormat : Nat) : Int) *
        bytesPerSample (planeWindow windows planeIndex).sampleFormat +
          (column % bytesPerSample (planeWindow windows planeIndex).sampleFormat : Nat) = column := by
      exact_mod_cast Nat.div_add_mod' column _
    have hmod := Nat.mod_lt column hbytes
    refine FrameMemory.bytes_of_loadSample (hsamples planeIndex hplane y hy _ hx).symm ?_ ?_
    · unfold PlaneWindow.sampleAddress
      omega
    · unfold PlaneWindow.sampleAddress
      omega
  · exact (houtside buffer a hinside).symm

/-- A slice that is decoded into a temporary frame and copied is as one that is decoded in
its place. -/
theorem copyDecodedSlice_stores (h : SameGeometry source destination) (hsource : WindowsDisjoint source)
    (hdestination : WindowsDisjoint destination) {stores : List RowStore}
    (hstores : ∀ store ∈ stores, store.OfWindow source)
    (hall : ∀ planeIndex < source.length, ∀ y < (planeWindow source planeIndex).height.toNat,
      ∃ store ∈ stores, store.planeIndex = planeIndex ∧ store.y = y)
    (scratch memory : FrameMemory) :
    copyDecodedSlice (applyStores source stores scratch) source destination memory =
      .ok () (applyStores destination stores memory) := by
  rw [copyDecodedSlice_eq h]
  have hcopied : Patch.SameOutside (windowBytes destination) memory
      (applyStores destination (copiedRows (applyStores source stores scratch) source) memory) := by
    rw [applyStores_eq]
    exact (Patch.SameOutside.refl _ memory).write (storesPatch_within_windows
      fun store hmem => (copiedRows_inWindow h store hmem).1.toOfWindow)
  have hdirect : Patch.SameOutside (windowBytes destination) memory
      (applyStores destination stores memory) := by
    rw [applyStores_eq]
    exact (Patch.SameOutside.refl _ memory).write (storesPatch_within_windows
      fun store hmem => (hstores store hmem).sameGeometry h)
  refine congrArg _ (@memory_ext destination _ _ (fun buffer a houtside => ?_)
    fun planeIndex hplane y hy x hx => ?_)
  · rw [hcopied buffer a houtside, hdirect buffer a houtside]
  · have hplane' : planeIndex < source.length := h.planes ▸ hplane
    have hy' := (h.height planeIndex hplane').symm ▸ hy
    have hx' := (h.width planeIndex hplane').symm ▸ hx
    rw [applyStores_sameRow h hsource hdestination hstores scratch memory hplane' hy'
      (hall planeIndex hplane' y hy') x hx',
      copiedRows_copied h hdestination memory hplane' hy' x hx']

end Copying

section TemporaryFrames

variable {stream : StreamParameters} {output : FrameView} {slice : SliceDescriptor}
  {windows : List PlaneWindow} {planeIndex : Nat}

/-- A window that was accepted has no more bytes than the address space. -/
theorem windowBytes_fit (hwindows : SliceOutputWindow.validate stream output slice = .ok windows)
    (hplane : planeIndex < windows.length) (hwidth : (planeWindow windows planeIndex).width ≠ 0)
    (hheight : (planeWindow windows planeIndex).height ≠ 0) :
    ¬(output.plane planeIndex).info.strideBytes < 0 ∧
      (planeWindow windows planeIndex).width.toNat *
        bytesPerSample (output.plane planeIndex).info.sampleFormat *
          (planeWindow windows planeIndex).height.toNat ≤ 2 ^ 63 - 1 := by
  have haddress := @SliceWindowKind.validate_addresses .output _ _ _ _ _ hwindows hplane
  have hexact := @SliceWindowKind.validate_exact .output _ _ _ _ _ hwindows hplane
  have hrow := haddress.row_le
  have hcolumns := haddress.x_le
  have hwindowWidth : (planeWindow windows planeIndex).width.toNat =
      (SliceWindowKind.output.slicePlaneWidth stream slice planeIndex).toNat := haddress.width
  have hwindowHeight : (planeWindow windows planeIndex).height.toNat =
      (SliceWindowKind.output.slicePlaneHeight stream slice planeIndex).toNat := haddress.height
  have hlast := hexact.last_sample
    (by rwa [ne_eq, ← UInt32.toNat_inj, ← hwindowWidth, UInt32.toNat_inj])
    (by rwa [ne_eq, ← UInt32.toNat_inj, ← hwindowHeight, UInt32.toNat_inj])
  rw [← hwindowWidth, ← hwindowHeight] at hlast
  change _ + (SliceWindowKind.output.slicePlaneWidth stream slice planeIndex).toNat ≤ _ at hcolumns
  rw [← hwindowWidth] at hcolumns
  have hstride : (planeWindow windows planeIndex).width.toNat *
      bytesPerSample (output.plane planeIndex).info.sampleFormat ≤
        (output.plane planeIndex).info.strideBytes.toInt.toNat := by
    have hle : (planeWindow windows planeIndex).width.toNat ≤
        (output.plane planeIndex).info.width.toNat := by omega
    have hbytes := Nat.mul_le_mul_right
      (bytesPerSample (output.plane planeIndex).info.sampleFormat) hle
    omega
  have hpos : 0 < (planeWindow windows planeIndex).height.toNat :=
    Nat.pos_of_ne_zero fun hzero => hheight (UInt32.toNat_inj.mp hzero)
  obtain ⟨lastY, hlastY⟩ := Nat.exists_eq_add_of_lt hpos
  constructor
  · rw [Int64.lt_iff_toInt_lt]
    exact Int.not_lt.mpr haddress.stride_nonneg
  · calc (planeWindow windows planeIndex).width.toNat *
          bytesPerSample (output.plane planeIndex).info.sampleFormat *
            (planeWindow windows planeIndex).height.toNat
        = (planeWindow windows planeIndex).width.toNat *
            bytesPerSample (output.plane planeIndex).info.sampleFormat * lastY +
          (planeWindow windows planeIndex).width.toNat *
            bytesPerSample (output.plane planeIndex).info.sampleFormat := by
          rw [hlastY, Nat.zero_add, Nat.mul_succ]
      _ ≤ (output.plane planeIndex).info.strideBytes.toInt.toNat *
            ((SliceWindowKind.output.planeY stream slice planeIndex).toNat +
              (planeWindow windows planeIndex).height.toNat - 1) +
          ((SliceWindowKind.output.planeX stream slice planeIndex).toNat +
            (planeWindow windows planeIndex).width.toNat) *
              bytesPerSample (output.plane planeIndex).info.sampleFormat := by
          refine Nat.add_le_add (Nat.mul_le_mul hstride (by omega)) (Nat.mul_le_mul_right _ ?_)
          omega
      _ ≤ 2 ^ 63 - 1 := hlast

/-- What the temporary plane of a window needs. -/
def FitsTemporary (window : PlaneWindow) (info : PlaneInfo) : Prop :=
  ¬info.strideBytes < 0 ∧ window.width ≠ 0 ∧ window.height ≠ 0 ∧
    window.width.toNat * bytesPerSample info.sampleFormat * window.height.toNat ≤ 2 ^ 63 - 1

theorem makeTemporaryPlane_made {window : PlaneWindow} {info : PlaneInfo}
    (h : FitsTemporary window info) (buffer : Nat) :
    ∃ plane, makeTemporaryPlane window info buffer = .ok plane := by
  obtain ⟨hstride, -, -, hfits⟩ := h
  unfold makeTemporaryPlane
  rw [failIf_of_not hstride]
  dsimp only
  rw [failIf_of_not (by omega)]
  exact ⟨_, rfl⟩

theorem makeTemporaryPlanes_made {first : Nat}
    (h : ∀ k < windows.length, FitsTemporary (planeWindow windows k) (output.plane (first + k)).info) :
    ∃ planes, makeTemporaryPlanes output windows first = .ok planes ∧
      planes.length = windows.length ∧ ∀ k < windows.length,
        makeTemporaryPlane (planeWindow windows k) (output.plane (first + k)).info (first + k) =
          .ok (planes.getD k {}) := by
  induction windows generalizing first with
  | nil => exact ⟨[], rfl, rfl, fun k hk => absurd hk (Nat.not_lt_zero k)⟩
  | cons window windows ih =>
    obtain ⟨rest, hrest, hlength, hget⟩ := @ih (first + 1) fun k hk => by
      rw [Nat.add_assoc, Nat.add_comm 1 k]
      exact h (k + 1) (Nat.succ_lt_succ hk)
    have hfits : FitsTemporary window (output.plane first).info := h 0 (Nat.zero_lt_succ _)
    obtain ⟨plane, hplane⟩ := makeTemporaryPlane_made hfits first
    refine ⟨plane :: rest, ?_, congrArg (· + 1) hlength, fun k hk => ?_⟩
    · unfold makeTemporaryPlanes
      rw [hplane, hrest]
      rfl
    · cases k with
      | zero => exact hplane
      | succ k =>
        have hplaneK := hget k (Nat.lt_of_succ_lt_succ hk)
        rw [Nat.add_assoc, Nat.add_comm 1 k] at hplaneK
        exact hplaneK

/-- A temporary plane has an address for every sample. -/
theorem contiguousPlane_made {frame : FrameView} {window : PlaneWindow} {info : PlaneInfo}
    {buffer : Nat} (hfits : FitsTemporary window info)
    (hplane : makeTemporaryPlane window info buffer = .ok (frame.plane planeIndex)) :
    ∃ contiguous, SliceOutputWindow.contiguousPlane frame planeIndex = .ok contiguous := by
  obtain ⟨hstride, hwidth, hheight, hbytes⟩ := hfits
  have hsize : window.width.toNat * bytesPerSample info.sampleFormat * window.height.toNat ≠ 0 := by
    have hcolumns : window.width.toNat ≠ 0 := fun hzero => hwidth (UInt32.toNat_inj.mp hzero)
    have hrows : window.height.toNat ≠ 0 := fun hzero => hheight (UInt32.toNat_inj.mp hzero)
    have hsample := bytesPerSample_pos info.sampleFormat
    positivity
  simp only [makeTemporaryPlane, except_bind_ok, exists_unit, failIf_ok_iff] at hplane
  obtain ⟨-, -, hmade⟩ := hplane
  have hmade := (Except.ok.inj hmade).symm
  obtain ⟨hrow, hrowMax⟩ := columnOffset_exact window.width info.sampleFormat
  have hrowInt : Int64.ofNat (window.width.toNat * bytesPerSample info.sampleFormat) =
      (window.width.toUInt64 * sampleBytes info.sampleFormat).toInt64 := by
    rw [← hrow]
    exact congrArg UInt64.toInt64 UInt64.ofNat_toNat
  have hnonneg : ¬Int64.ofNat (window.width.toNat * bytesPerSample info.sampleFormat) < 0 := by
    rw [Int64.lt_iff_toInt_lt, Int64.toInt_ofNat_of_lt (by omega)]
    exact Int.not_lt.mpr (Int.natCast_nonneg _)
  obtain ⟨offset, hoffset⟩ : ∃ offset, checkedPlaneWindowOffset (frame.plane planeIndex).info 0 0
      (frame.plane planeIndex).info.width window.height SliceOutputWindow.windowMessages =
        .ok offset := by
    rw [hmade]
    exact windowOffset_of_fits (hrowInt ▸ hrow) (le_of_eq (congrArg (· * _) (Nat.zero_add _)))
      hheight (by rwa [UInt32.toNat_zero, Nat.zero_add])
  have hdata : (frame.plane planeIndex).hasData = true := by
    rw [hmade]
    exact decide_eq_true hsize
  have hwindowHeight : (frame.plane planeIndex).info.height = window.height := by rw [hmade]
  have hplaneStride : ¬(frame.plane planeIndex).info.strideBytes < 0 := by
    rw [hmade]
    exact hnonneg
  have hrowBytes (message : String) : checkedPlaneRowBytes (frame.plane planeIndex).info message =
      .ok (window.width.toUInt64 * sampleBytes info.sampleFormat) := by
    unfold checkedPlaneRowBytes
    rw [hmade]
    dsimp only
    rw [failIf_of_not]
    · rfl
    · rw [UInt64.lt_iff_toNat_lt, hrow]
      exact Nat.not_lt.mpr hrowMax
  have hminimum : ¬(frame.plane planeIndex).info.strideBytes <
      (window.width.toUInt64 * sampleBytes info.sampleFormat).toInt64 := by
    rw [hmade, hrowInt]
    exact fun hlt => Int64.lt_irrefl hlt
  simp only [SliceOutputWindow.contiguousPlane, except_bind_ok, exists_unit, failIf_ok_iff,
    hwindowHeight]
  exact ⟨_, ne_false_of_eq_true hdata, hplaneStride, _, hrowBytes _, hminimum, _, hoffset, rfl⟩

/-- The temporary frame of windows with samples can be made, and is addressed without
gaps. -/
theorem temporaryFrame_made (hwindows : SliceOutputWindow.validate stream output slice = .ok windows)
    (hnonempty : HasSamples windows) :
    ∃ frame temporaryWindows, makeTemporaryFrame windows output = .ok frame ∧
      SliceOutputWindow.resetToContiguousFrame frame = .ok temporaryWindows := by
  have hfits (k : Nat) (hk : k < windows.length) :
      FitsTemporary (planeWindow windows k) (output.plane (0 + k)).info := by
    obtain ⟨hwidth, hheight⟩ := hnonempty k hk
    obtain ⟨hstride, hbytes⟩ := windowBytes_fit hwindows hk hwidth hheight
    rw [Nat.zero_add]
    exact ⟨hstride, hwidth, hheight, hbytes⟩
  obtain ⟨planes, hplanes, hlength, hget⟩ := makeTemporaryPlanes_made hfits
  obtain ⟨temporaryWindows, htemporary⟩ := @validatePlanes_made
    (SliceOutputWindow.contiguousPlane { planes := some planes, planeCount := planes.length })
    planes.length 0 fun k hk => by
      rw [hlength] at hk
      rw [Nat.zero_add]
      exact contiguousPlane_made (hfits k hk) (hget k hk)
  refine ⟨{ planes := some planes, planeCount := planes.length }, temporaryWindows, ?_, ?_⟩
  · unfold makeTemporaryFrame
    rw [hplanes]
    rfl
  · unfold SliceOutputWindow.resetToContiguousFrame
    rw [failIf_of_not fun hbad => by cases hbad.2]
    exact htemporary

end TemporaryFrames

end Mffv1
