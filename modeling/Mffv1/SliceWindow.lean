import Mffv1.SliceHeader

/-!
# Plane windows

The rectangle of a slice in every plane of a frame. A frame view is its geometry;
the bytes of its planes are kept apart from it.
-/
namespace Mffv1

structure PlaneInfo where
  role : PlaneRole := .y
  sampleFormat : SampleFormat := .uint8
  width : UInt32 := 0
  height : UInt32 := 0
  strideBytes : Int64 := 0
  deriving DecidableEq

structure PlaneView where
  hasData : Bool := false
  /-- The data pointer: a buffer, and the place of the first sample in it. -/
  buffer : Nat := 0
  start : Int := 0
  info : PlaneInfo := {}
  deriving DecidableEq

structure FrameView where
  /-- `none` is a null pointer. -/
  planes : Option (List PlaneView) := none
  planeCount : Nat := 0
  deriving DecidableEq

def FrameView.plane (frame : FrameView) (planeIndex : Nat) : PlaneView :=
  (frame.planes.getD []).getD planeIndex {}

/-- `std::numeric_limits<std::ptrdiff_t>::max()` -/
def maximumOffset : UInt64 := 0x7fffffffffffffff

def sampleBytes (format : SampleFormat) : UInt64 := (bytesPerSample format).toUInt64

def checkedPlaneRowBytes (info : PlaneInfo) (rowSizeMessage : String) : Except Error UInt64 := do
  let rowBytes := info.width.toUInt64 * sampleBytes info.sampleFormat
  failIf (maximumOffset < rowBytes) (makeError .resourceExhausted rowSizeMessage)
  return rowBytes

structure WindowMessages where
  rowOffset : String
  sampleOffset : String
  rows : String
  extent : String

def checkedPlaneWindowOffset (info : PlaneInfo) (x y width height : UInt32)
    (messages : WindowMessages) : Except Error UInt64 := do
  let stride := info.strideBytes.toUInt64
  failIf (y ≠ 0 ∧ maximumOffset / y.toUInt64 < stride) (makeError .resourceExhausted
    messages.rowOffset)
  let rowOffset := stride * y.toUInt64
  let columnOffset := x.toUInt64 * sampleBytes info.sampleFormat
  failIf (maximumOffset - rowOffset < columnOffset) (makeError .resourceExhausted
    messages.sampleOffset)
  let lastY := y.toUInt64 + height.toUInt64 - 1
  let lastRowOffset := stride * lastY
  let lastSampleExtent := (x.toUInt64 + width.toUInt64) * sampleBytes info.sampleFormat
  failIf (width ≠ 0 ∧ height ≠ 0 ∧ lastY ≠ 0 ∧ maximumOffset / lastY < stride)
    (makeError .resourceExhausted messages.rows)
  failIf (width ≠ 0 ∧ height ≠ 0 ∧ maximumOffset - lastRowOffset < lastSampleExtent)
    (makeError .resourceExhausted messages.extent)
  return rowOffset + columnOffset

/-- A rectangle of a plane as an address: `offset` bytes from the plane's data. -/
structure PlaneWindow where
  buffer : Nat := 0
  start : Int := 0
  offset : Nat := 0
  strideBytes : Int := 0
  width : UInt32 := 0
  height : UInt32 := 0
  sampleFormat : SampleFormat := .uint8
  deriving DecidableEq

/-- The loop over the planes of a frame: `count` of them from `planeIndex` on. -/
def validatePlanes (validatePlane : (planeIndex : Nat) → Except Error PlaneWindow) :
    (count planeIndex : Nat) → Except Error (List PlaneWindow)
  | 0, _ => .ok []
  | count + 1, planeIndex => do
    let window ← validatePlane planeIndex
    let windows ← validatePlanes validatePlane count (planeIndex + 1)
    return window :: windows

theorem validatePlanes_ok {validatePlane : Nat → Except Error PlaneWindow} {count planeIndex : Nat}
    {windows : List PlaneWindow} (h : validatePlanes validatePlane count planeIndex = .ok windows) :
    windows.length = count ∧
      ∀ k window, windows[k]? = some window → validatePlane (planeIndex + k) = .ok window := by
  induction count generalizing planeIndex windows with
  | zero =>
    obtain rfl := Except.ok.inj h
    simp
  | succ count ih =>
    simp only [validatePlanes, except_bind_ok] at h
    obtain ⟨window, hwindow, rest, hrest, hwindows⟩ := h
    obtain rfl := Except.ok.inj hwindows
    obtain ⟨hlength, hget⟩ := ih hrest
    constructor
    · rw [List.length_cons, hlength]
    · intro k found hfound
      cases k with
      | zero =>
        obtain rfl := Option.some.inj hfound
        exact hwindow
      | succ k =>
        rw [← Nat.add_assoc, Nat.add_right_comm]
        exact hget k found hfound

namespace SliceOutputWindow

def subsampledPosition (value : UInt32) (log2Subsample : UInt8) : UInt32 :=
  if 32 ≤ log2Subsample then 0 else value >>> log2Subsample.toUInt32

def planeX (stream : StreamParameters) (slice : SliceDescriptor) (planeIndex : Nat) : UInt32 :=
  if stream.isChromaPlane planeIndex then
    if slice.rasterWidth ≠ 0 then
      scaledGridPosition (stream.planeWidth planeIndex) stream.numHSlices slice.rasterX.toUInt64
    else subsampledPosition slice.x stream.log2HChromaSubsample
  else slice.x

def planeY (stream : StreamParameters) (slice : SliceDescriptor) (planeIndex : Nat) : UInt32 :=
  if stream.isChromaPlane planeIndex then
    if slice.rasterHeight ≠ 0 then
      scaledGridPosition (stream.planeHeight planeIndex) stream.numVSlices slice.rasterY.toUInt64
    else subsampledPosition slice.y stream.log2VChromaSubsample
  else slice.y

def slicePlaneWidth (stream : StreamParameters) (slice : SliceDescriptor) (planeIndex : Nat) :
    UInt32 :=
  if stream.isChromaPlane planeIndex then
    if slice.rasterWidth ≠ 0 then
      let start := scaledGridPosition (stream.planeWidth planeIndex) stream.numHSlices
        slice.rasterX.toUInt64
      let stop := scaledGridPosition (stream.planeWidth planeIndex) stream.numHSlices
        (slice.rasterX.toUInt64 + slice.rasterWidth.toUInt64)
      stop - start
    else subsampledExtent slice.width stream.log2HChromaSubsample
  else slice.width

def slicePlaneHeight (stream : StreamParameters) (slice : SliceDescriptor) (planeIndex : Nat) :
    UInt32 :=
  if stream.isChromaPlane planeIndex then
    if slice.rasterHeight ≠ 0 then
      let start := scaledGridPosition (stream.planeHeight planeIndex) stream.numVSlices
        slice.rasterY.toUInt64
      let stop := scaledGridPosition (stream.planeHeight planeIndex) stream.numVSlices
        (slice.rasterY.toUInt64 + slice.rasterHeight.toUInt64)
      stop - start
    else subsampledExtent slice.height stream.log2VChromaSubsample
  else slice.height

def windowMessages : WindowMessages where
  rowOffset := "output plane row offset exceeds ptrdiff_t"
  sampleOffset := "output plane sample offset exceeds ptrdiff_t"
  rows := "output plane window rows exceed ptrdiff_t"
  extent := "output plane window exceeds ptrdiff_t"

def validatePlane (stream : StreamParameters) (frame : FrameView) (slice : SliceDescriptor)
    (planeIndex : Nat) : Except Error PlaneWindow := do
  let plane := frame.plane planeIndex
  failIf (plane.hasData = false) (makeError .invalidArgument "output plane data pointer is null")
  failIf (plane.info.role ≠ stream.expectedPlaneRole planeIndex) (makeError .invalidArgument
    "output plane role does not match stream plane order")
  let px := planeX stream slice planeIndex
  let py := planeY stream slice planeIndex
  let pw := slicePlaneWidth stream slice planeIndex
  let ph := slicePlaneHeight stream slice planeIndex
  failIf (plane.info.width < stream.planeWidth planeIndex ∨
      plane.info.height < stream.planeHeight planeIndex) (makeError .invalidArgument
    "output plane dimensions are smaller than the frame plane")
  failIf (plane.info.width < px ∨ plane.info.height < py ∨ plane.info.width - px < pw ∨
      plane.info.height - py < ph) (makeError .invalidArgument
    "slice plane rectangle is outside output plane")
  let minimumStride ← checkedPlaneRowBytes plane.info "output plane row size exceeds ptrdiff_t"
  failIf (plane.info.strideBytes < minimumStride.toInt64) (makeError .invalidArgument
    "output plane stride is too small")
  let planeOffset ← checkedPlaneWindowOffset plane.info px py pw ph windowMessages
  return {
    buffer := plane.buffer
    start := plane.start
    offset := planeOffset.toNat
    strideBytes := plane.info.strideBytes.toInt
    width := pw
    height := ph
    sampleFormat := plane.info.sampleFormat }

def validate (stream : StreamParameters) (frame : FrameView) (slice : SliceDescriptor) :
    Except Error (List PlaneWindow) := do
  failIf (slice.width = 0 ∨ slice.height = 0) (makeError .invalidArgument
    "slice dimensions must be non-zero")
  failIf (stream.width < slice.x ∨ stream.height < slice.y ∨ stream.width - slice.x < slice.width ∨
      stream.height - slice.y < slice.height) (makeError .invalidArgument
    "slice rectangle is outside the frame")
  failIf (frame.planeCount < stream.codedPlaneCount) (makeError .invalidArgument
    "output frame does not have enough planes")
  failIf (stream.codedPlaneCount ≠ 0 ∧ frame.planes = none) (makeError .invalidArgument
    "output plane array is null")
  validatePlanes (validatePlane stream frame slice) stream.codedPlaneCount 0

theorem validate_get {stream : StreamParameters} {frame : FrameView} {slice : SliceDescriptor}
    {windows : List PlaneWindow} {planeIndex : Nat} {window : PlaneWindow}
    (h : validate stream frame slice = .ok windows) (hget : windows[planeIndex]? = some window) :
    validatePlane stream frame slice planeIndex = .ok window := by
  simp only [validate, except_bind_ok, exists_unit, failIf_ok_iff] at h
  have hplane := (validatePlanes_ok h.2.2.2.2).2 planeIndex window hget
  rwa [Nat.zero_add] at hplane

end SliceOutputWindow

namespace SliceInputWindow

def planeX (stream : StreamParameters) (slice : SliceDescriptor) (planeIndex : Nat) : UInt32 :=
  if stream.isChromaPlane planeIndex then
    scaledGridPosition (stream.planeWidth planeIndex) stream.numHSlices slice.rasterX.toUInt64
  else slice.x

def planeY (stream : StreamParameters) (slice : SliceDescriptor) (planeIndex : Nat) : UInt32 :=
  if stream.isChromaPlane planeIndex then
    scaledGridPosition (stream.planeHeight planeIndex) stream.numVSlices slice.rasterY.toUInt64
  else slice.y

def planeExtent (frameExtent gridExtent position length : UInt32) : UInt32 :=
  let start := scaledGridPosition frameExtent gridExtent position.toUInt64
  let stop := scaledGridPosition frameExtent gridExtent (position.toUInt64 + length.toUInt64)
  stop - start

def slicePlaneWidth (stream : StreamParameters) (slice : SliceDescriptor) (planeIndex : Nat) :
    UInt32 :=
  if stream.isChromaPlane planeIndex then
    planeExtent (stream.planeWidth planeIndex) stream.numHSlices slice.rasterX slice.rasterWidth
  else slice.width

def slicePlaneHeight (stream : StreamParameters) (slice : SliceDescriptor) (planeIndex : Nat) :
    UInt32 :=
  if stream.isChromaPlane planeIndex then
    planeExtent (stream.planeHeight planeIndex) stream.numVSlices slice.rasterY slice.rasterHeight
  else slice.height

def windowMessages : WindowMessages where
  rowOffset := "input slice plane offset is not representable"
  sampleOffset := "input slice plane offset is not representable"
  rows := "input slice plane rows are not representable"
  extent := "input slice plane extent is not representable"

def validatePlane (stream : StreamParameters) (frame : FrameView) (slice : SliceDescriptor)
    (planeIndex : Nat) : Except Error PlaneWindow := do
  let plane := frame.plane planeIndex
  let expectedFormat := sampleFormatForBitDepth stream.bitsPerRawSample
  failIf (plane.hasData = false ∨ plane.info.role ≠ stream.expectedPlaneRole planeIndex ∨
      plane.info.sampleFormat ≠ expectedFormat) (makeError .invalidArgument
    "input slice plane does not match the stream")
  let frameWidth := stream.planeWidth planeIndex
  let frameHeight := stream.planeHeight planeIndex
  failIf (plane.info.width ≠ frameWidth ∨ plane.info.height ≠ frameHeight ∨
      plane.info.strideBytes < 0) (makeError .invalidArgument
    "input plane geometry does not match the stream")
  let x := planeX stream slice planeIndex
  let y := planeY stream slice planeIndex
  let width := slicePlaneWidth stream slice planeIndex
  let height := slicePlaneHeight stream slice planeIndex
  failIf (width = 0 ∨ height = 0 ∨ frameWidth < x ∨ frameHeight < y ∨ frameWidth - x < width ∨
      frameHeight - y < height) (makeError .invalidArgument
    "input slice plane rectangle is outside the frame")
  let rowBytes ← checkedPlaneRowBytes plane.info "input slice plane row size is not representable"
  failIf (plane.info.strideBytes.toUInt64 < rowBytes) (makeError .resourceExhausted
    "input slice plane offset is not representable")
  let planeOffset ← checkedPlaneWindowOffset plane.info x y width height windowMessages
  return {
    buffer := plane.buffer
    start := plane.start
    offset := planeOffset.toNat
    strideBytes := plane.info.strideBytes.toInt
    width
    height
    sampleFormat := expectedFormat }

def validate (stream : StreamParameters) (frame : FrameView) (slice : SliceDescriptor) :
    Except Error (List PlaneWindow) := do
  failIf (slice.width = 0 ∨ slice.height = 0 ∨ slice.rasterWidth = 0 ∨ slice.rasterHeight = 0)
    (makeError .invalidArgument "input slice dimensions must be non-zero")
  failIf (frame.planeCount ≠ stream.codedPlaneCount ∨
      (stream.codedPlaneCount ≠ 0 ∧ frame.planes = none)) (makeError .invalidArgument
    "input frame plane count does not match the stream")
  validatePlanes (validatePlane stream frame slice) stream.codedPlaneCount 0

theorem validate_get {stream : StreamParameters} {frame : FrameView} {slice : SliceDescriptor}
    {windows : List PlaneWindow} {planeIndex : Nat} {window : PlaneWindow}
    (h : validate stream frame slice = .ok windows) (hget : windows[planeIndex]? = some window) :
    validatePlane stream frame slice planeIndex = .ok window := by
  simp only [validate, except_bind_ok, exists_unit, failIf_ok_iff] at h
  have hplane := (validatePlanes_ok h.2.2).2 planeIndex window hget
  rwa [Nat.zero_add] at hplane

end SliceInputWindow

end Mffv1
