import Mffv1.TemporaryFrames

/-!
# What a decoder sees of its windows

The Golomb-Rice decoder of a slice takes the sizes and the formats of its windows, and
whether a row is there. Where the rows lie concerns those that store them.
-/
namespace Mffv1

theorem planeWindow_beyond {windows : List PlaneWindow} {planeIndex : Nat}
    (hplane : windows.length ≤ planeIndex) : planeWindow windows planeIndex = {} :=
  List.getD_eq_default _ _ hplane

section Rows

variable {source destination : List PlaneWindow} (h : SameGeometry source destination)
  (stream : StreamParameters) (planeIndex y : Nat)
include h

/-- Windows that are not there have the same size, too. -/
theorem SameGeometry.everywhere :
    (planeWindow source planeIndex).width = (planeWindow destination planeIndex).width ∧
      (planeWindow source planeIndex).height = (planeWindow destination planeIndex).height ∧
      (planeWindow source planeIndex).sampleFormat =
        (planeWindow destination planeIndex).sampleFormat := by
  by_cases hplane : planeIndex < source.length
  · exact ⟨h.width planeIndex hplane, h.height planeIndex hplane, h.sampleFormat planeIndex hplane⟩
  · have hbeyond : planeWindow source planeIndex = planeWindow destination planeIndex := by
      rw [planeWindow_beyond (Nat.not_lt.mp hplane),
        planeWindow_beyond (h.planes ▸ Nat.not_lt.mp hplane)]
    rw [hbeyond]
    exact ⟨rfl, rfl, rfl⟩

theorem SameGeometry.width_eq :
    (planeWindow source planeIndex).width = (planeWindow destination planeIndex).width :=
  (h.everywhere planeIndex).1

theorem SameGeometry.height_eq :
    (planeWindow source planeIndex).height = (planeWindow destination planeIndex).height :=
  (h.everywhere planeIndex).2.1

theorem SameGeometry.rowOfFormat_none (format : SampleFormat) :
    rowOfFormat format source planeIndex y = none ↔
      rowOfFormat format destination planeIndex y = none := by
  obtain ⟨-, hheight, hformat⟩ := h.everywhere planeIndex
  simp [rowOfFormat, h.planes, hheight, hformat]

theorem SameGeometry.checkRow_eq (rows : String) :
    checkRow stream source planeIndex y rows = checkRow stream destination planeIndex y rows := by
  simp only [checkRow, h.rowOfFormat_none]

theorem SameGeometry.checkRgbRows_eq (count : Nat) :
    checkRgbRows stream source y count planeIndex =
      checkRgbRows stream destination y count planeIndex := by
  induction count generalizing planeIndex with
  | zero => rfl
  | succ count ih => rw [checkRgbRows, checkRgbRows, h.checkRow_eq, ih]

theorem SameGeometry.storePlanarLine_eq {R : Type} :
    (storePlanarLine stream source planeIndex y : Call (Decoding R) Unit) =
      storePlanarLine stream destination planeIndex y := by
  simp only [storePlanarLine, h.checkRow_eq, h.width_eq]

theorem SameGeometry.storeRgbLine_eq {R : Type} :
    (storeRgbLine stream source y : Call (Decoding R) Unit) =
      storeRgbLine stream destination y := by
  simp only [storeRgbLine, h.checkRgbRows_eq, h.planes, h.width_eq]

end Rows

section Slices

variable {source destination : List PlaneWindow} (h : SameGeometry source destination)
  (stream : StreamParameters) (setup : GolombRiceSliceSetup)
include h

theorem SameGeometry.decodeGolombRiceRow_eq (planeIndex runStatePlane widthPlane y bits : Nat) :
    decodeGolombRiceRow setup source planeIndex runStatePlane widthPlane y bits =
      decodeGolombRiceRow setup destination planeIndex runStatePlane widthPlane y bits := by
  simp only [decodeGolombRiceRow, golombRiceLine, h.width_eq]

theorem SameGeometry.decodeGolombRiceRgbRows_eq :
    decodeGolombRiceRgbRows stream setup source =
      decodeGolombRiceRgbRows stream setup destination := by
  simp only [decodeGolombRiceRgbRows, h.decodeGolombRiceRow_eq, h.storeRgbLine_eq, h.planes,
    h.height_eq]

theorem SameGeometry.decodeGolombRicePlane_eq :
    decodeGolombRicePlane stream setup source = decodeGolombRicePlane stream setup destination := by
  funext planeIndex
  simp only [decodeGolombRicePlane, h.decodeGolombRiceRow_eq, h.storePlanarLine_eq, h.height_eq]

theorem SameGeometry.decodeGolombRiceSlice_eq :
    decodeGolombRiceSlice stream setup source = decodeGolombRiceSlice stream setup destination := by
  simp only [decodeGolombRiceSlice, planeEndBits, h.decodeGolombRiceRgbRows_eq,
    h.decodeGolombRicePlane_eq, h.planes]

theorem SameGeometry.widths_eq :
    (source.map fun window => window.width.toNat) =
      destination.map fun window => window.width.toNat := by
  refine List.ext_getElem (by simp [h.planes]) fun planeIndex hs hd => ?_
  rw [List.length_map] at hs hd
  have hwidth := h.width planeIndex hs
  unfold planeWindow at hwidth
  rw [List.getD_eq_getElem _ _ hs, List.getD_eq_getElem _ _ hd] at hwidth
  rw [List.getElem_map, List.getElem_map, hwidth]

theorem SameGeometry.validateStateLineGeometry_eq (state : SliceState) :
    SliceDecoder.validateStateLineGeometry source state =
      SliceDecoder.validateStateLineGeometry destination state := by
  simp only [SliceDecoder.validateStateLineGeometry, h.planes, h.widths_eq]

/-- The slice is decoded the same in windows of the same geometry, failures included. -/
theorem SameGeometry.decode_eq (hmode : stream.entropyMode = .golombRice) (allowReadAhead : Bool)
    (slice : SliceDescriptor) :
    SliceDecoder.decode stream allowReadAhead slice source =
      SliceDecoder.decode stream allowReadAhead slice destination := by
  simp only [SliceDecoder.decode, SliceDecoder.validate, h.validateStateLineGeometry_eq, h.planes,
    h.decodeGolombRiceSlice_eq, hmode]

end Slices

end Mffv1
