import Mffv1.SliceShape

/-!
# Where the samples of planes lie

The samples of a plane are bytes of its buffer, at the stride of the plane. Nothing keeps the
caller of a decoder from planes that share bytes: where the windows of a slice in two planes
do not meet, it is because the planes do not.
-/
namespace Mffv1

/-- The bytes of the samples that the stream has in a plane. -/
def PlaneBytes (stream : StreamParameters) (frame : FrameView) (planeIndex buffer : Nat) (a : Int) :
    Prop :=
  let plane := frame.plane planeIndex
  let address (x y : Nat) : Int :=
    plane.start + plane.info.strideBytes.toInt * y + x * bytesPerSample plane.info.sampleFormat
  buffer = plane.buffer ∧ ∃ x < (stream.planeWidth planeIndex).toNat,
    ∃ y < (stream.planeHeight planeIndex).toNat,
      address x y ≤ a ∧ a < address x y + bytesPerSample plane.info.sampleFormat

/-- The bytes of the samples of the coded planes. -/
def SampleBytes (stream : StreamParameters) (frame : FrameView) (buffer : Nat) (a : Int) : Prop :=
  ∃ planeIndex < stream.codedPlaneCount, PlaneBytes stream frame planeIndex buffer a

/-- No byte is a sample of two coded planes. -/
def PlanesApart (stream : StreamParameters) (frame : FrameView) : Prop :=
  ∀ p < stream.codedPlaneCount, ∀ q < stream.codedPlaneCount, p ≠ q → ∀ buffer a,
    PlaneBytes stream frame p buffer a → ¬PlaneBytes stream frame q buffer a

section Planes

variable {stream : StreamParameters} {frame : FrameView} {slice : SliceDescriptor}
  {windows : List PlaneWindow} {planeIndex buffer : Nat} {a : Int}

theorem PlanesApart.of_buffers
    (h : ∀ p < stream.codedPlaneCount, ∀ q < stream.codedPlaneCount, p ≠ q →
      (frame.plane p).buffer ≠ (frame.plane q).buffer) : PlanesApart stream frame :=
  fun p hp q hq hne _ _ hleft hright => h p hp q hq hne (hleft.1.symm.trans hright.1)

/-- A single plane shares its bytes with no other one. -/
theorem PlanesApart.of_single (h : stream.codedPlaneCount = 1) : PlanesApart stream frame :=
  fun p hp q hq hne => absurd (by omega : p = q) hne

/-- The window of a placed slice lies in the samples of its plane. -/
theorem windowBytes_inPlane (hplaced : Placed stream slice)
    (hwindows : SliceOutputWindow.validate stream frame slice = .ok windows)
    (hplane : planeIndex < stream.codedPlaneCount)
    (h : (planeWindow windows planeIndex).Bytes buffer a) :
    PlaneBytes stream frame planeIndex buffer a := by
  obtain ⟨hbuffer, y, hy, hlow, hhigh⟩ := h
  have haddresses := SliceOutputWindow.validate_addresses hwindows hplane
  obtain ⟨hright, hbottom⟩ := hplaced.outputRect_inside planeIndex
  rw [haddresses.height] at hy
  rw [haddresses.width, haddresses.sampleFormat] at hhigh
  rw [PlaneWindow.rowAddress, haddresses.start, haddresses.offset, haddresses.stride,
    windowOffset] at hlow hhigh
  have hbytes := bytesPerSample_pos (frame.plane planeIndex).info.sampleFormat
  refine ⟨hbuffer.trans haddresses.buffer, ?_⟩
  generalize outputRect stream slice planeIndex = rect at *
  generalize (frame.plane planeIndex).start = start at *
  generalize (frame.plane planeIndex).info.strideBytes.toInt = stride at *
  generalize bytesPerSample (frame.plane planeIndex).info.sampleFormat = bytes at *
  obtain ⟨column, hcolumn⟩ : ∃ column : Nat,
      a = start + stride * (rect.y + y) + rect.x * bytes + column :=
    ⟨(a - (start + stride * (rect.y + y) + rect.x * bytes)).toNat, by
      rw [Int.toNat_of_nonneg (by linarith)]
      ring⟩
  have hcolumnLt : column < rect.width * bytes := by
    have : (column : Int) < rect.width * bytes := by linarith
    exact_mod_cast this
  have hx : column / bytes < rect.width := (Nat.div_lt_iff_lt_mul hbytes).mpr hcolumnLt
  have hdiv : (bytes : Int) * (column / bytes : Nat) + (column % bytes : Nat) = column := by
    exact_mod_cast Nat.div_add_mod column bytes
  have hmod : ((column % bytes : Nat) : Int) < bytes := by
    exact_mod_cast Nat.mod_lt column hbytes
  generalize column / bytes = sample at *
  generalize column % bytes = part at *
  refine ⟨rect.x + sample, by omega, rect.y + y, by omega, ?_⟩
  rw [hcolumn, ← hdiv]
  push_cast
  rw [add_mul, mul_comm (sample : Int)]
  constructor <;> omega

theorem PlanesApart.windowsApart (h : PlanesApart stream frame) (hplaced : Placed stream slice)
    (hwindows : SliceOutputWindow.validate stream frame slice = .ok windows) :
    WindowsApart windows := by
  have hlength := SliceOutputWindow.validate_length hwindows
  intro p hp q hq hne buffer a hleft hright
  rw [hlength] at hp hq
  exact h p hp q hq hne buffer a (windowBytes_inPlane hplaced hwindows hp hleft)
    (windowBytes_inPlane hplaced hwindows hq hright)

end Planes

end Mffv1
