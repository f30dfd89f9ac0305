import Mathlib.Data.List.Sort
import Mathlib.Data.List.GetD
import Mffv1.SliceHeader
import Mffv1.Lib.Tiling

/-!
# The raster coverage of a frame

A sweep over the vertical edges keeps the intervals of the rectangles it is
inside of. A frame that passes has no overlap, and its area is that of the grid:
every cell belongs to one slice.
-/
namespace Mffv1

structure SweepEvent where
  x : UInt32
  slicePosition : Nat
  starts : Bool
  deriving DecidableEq

/-- The order of the sweep: at one edge, what ends comes first. -/
def SweepEvent.before (left right : SweepEvent) : Bool :=
  if left.x ≠ right.x then decide (left.x < right.x)
  else if left.starts ≠ right.starts then !left.starts
  else decide (left.slicePosition < right.slicePosition)

/-- The intervals that the sweep is inside of, by their lower ends: `y` and the end. -/
abbrev ActiveIntervals := List (UInt32 × UInt32)

namespace ActiveIntervals

/-- `lower_bound`: the first interval from `y` on. -/
def lowerBound (active : ActiveIntervals) (y : UInt32) : Option (UInt32 × UInt32) :=
  active.find? fun interval => y ≤ interval.1

/-- `std::prev` of `lower_bound`. -/
def beforeLowerBound (active : ActiveIntervals) (y : UInt32) : Option (UInt32 × UInt32) :=
  (active.takeWhile fun interval => interval.1 < y).getLast?

def emplace (active : ActiveIntervals) (y yEnd : UInt32) : ActiveIntervals :=
  if active.any fun interval => interval.1 == y then active
  else (active.takeWhile fun interval => interval.1 < y) ++ (y, yEnd) ::
    active.dropWhile fun interval => interval.1 < y

def erase (active : ActiveIntervals) (y : UInt32) : ActiveIntervals :=
  active.filter fun interval => interval.1 ≠ y

def overlaps (active : ActiveIntervals) (y yEnd : UInt32) : Bool :=
  (active.lowerBound y).any (fun next => decide (next.1 < yEnd)) ||
    (active.beforeLowerBound y).any (fun previous => decide (y < previous.2))

end ActiveIntervals

def sliceAt (slices : List SliceDescriptor) (position : Nat) : SliceDescriptor :=
  slices.getD position {}

def makeSliceError (code : ErrorCode) (message : String) (sliceIndex : Nat) : Error :=
  setSliceLocationIfMissing (makeError code message) sliceIndex

def sweep (slices : List SliceDescriptor) : List SweepEvent → ActiveIntervals → Status
  | [], _ => .ok ()
  | event :: events, active =>
    let slice := sliceAt slices event.slicePosition
    if event.starts = false then sweep slices events (active.erase slice.rasterY)
    else
      let yEnd := slice.rasterY + slice.rasterHeight
      if active.overlaps slice.rasterY yEnd then
        .error (makeSliceError .syntaxError "slice raster rectangles overlap" slice.index)
      else sweep slices events (active.emplace slice.rasterY yEnd)

structure CoverageScan where
  coveredArea : UInt64 := 0
  exceedsRaster : Bool := false
  events : List SweepEvent := []

def version3CifPixelCount : UInt64 := 352 * 288

def requiresVersion3ParallelSliceLimit (version : Int) (width height : UInt32) : Bool :=
  decide (3 ≤ version) && decide (version3CifPixelCount < width.toUInt64 * height.toUInt64)

def cellCount64 (stream : StreamParameters) : UInt64 :=
  stream.numHSlices.toUInt64 * stream.numVSlices.toUInt64

def sliceArea (slice : SliceDescriptor) : UInt64 :=
  slice.rasterWidth.toUInt64 * slice.rasterHeight.toUInt64

def checkSlice (stream : StreamParameters) (slice : SliceDescriptor) : Status := do
  failIf (slice.rasterWidth = 0 ∨ slice.rasterHeight = 0) (makeSliceError .syntaxError
    "slice raster dimensions must be non-zero" slice.index)
  failIf (stream.numHSlices < slice.rasterX ∨ stream.numVSlices < slice.rasterY ∨
      stream.numHSlices - slice.rasterX < slice.rasterWidth ∨
      stream.numVSlices - slice.rasterY < slice.rasterHeight) (makeSliceError .syntaxError
    "slice raster rectangle is outside the frame raster" slice.index)
  failIf (requiresVersion3ParallelSliceLimit stream.version stream.width stream.height = true ∧
      cellCount64 stream / 4 < sliceArea slice) (makeSliceError .syntaxError
    "slice raster area exceeds the version 3 parallel decoding limit" slice.index)

/-- The loop over the slices from `position` on: their area and their edges. -/
def scanSlices (stream : StreamParameters) : List SliceDescriptor → (position : Nat) →
    CoverageScan → Except Error CoverageScan
  | [], _, scan => .ok scan
  | slice :: slices, position, scan => do
    checkSlice stream slice
    let exceeds := decide (cellCount64 stream - scan.coveredArea < sliceArea slice)
    scanSlices stream slices (position + 1)
      { coveredArea := if exceeds then scan.coveredArea else scan.coveredArea + sliceArea slice
        exceedsRaster := scan.exceedsRaster || exceeds
        events := scan.events ++
          [{ x := slice.rasterX, slicePosition := position, starts := true },
            { x := slice.rasterX + slice.rasterWidth, slicePosition := position,
              starts := false }] }

/-- `std::vector<SweepEvent>::max_size()` -/
def maxSweepEvents : Nat := (2 ^ 63 - 1) / 24

def sortEvents (events : List SweepEvent) : List SweepEvent :=
  events.insertionSort fun left right => right.before left = false

def validateSliceRasterCoverage (stream : StreamParameters) (slices : List SliceDescriptor) :
    Status := do
  failIf (stream.numHSlices = 0 ∨ stream.numVSlices = 0) (makeError .invalidState
    "slice grid dimensions must be non-zero")
  failIf (maxSweepEvents / 2 < slices.length) (makeError .resourceExhausted
    "too many slices to validate raster coverage")
  let scan ← scanSlices stream slices 0 {}
  sweep slices (sortEvents scan.events) []
  failIf (scan.exceedsRaster = true ∨ scan.coveredArea ≠ cellCount64 stream) (makeError .syntaxError
    "slice raster coverage has missing cells")

def isIncompleteSliceRasterCoverageStatus (status : Error) : Bool :=
  decide (status.code = .syntaxError) && decide (status.location = {})

/-- The rectangle of a slice on the grid. -/
def SliceDescriptor.rasterRect (slice : SliceDescriptor) : Tiling.Rect where
  x := slice.rasterX.toNat
  y := slice.rasterY.toNat
  width := slice.rasterWidth.toNat
  height := slice.rasterHeight.toNat

/-- The edges of the slices from `position` on. -/
def edges : List SliceDescriptor → (position : Nat) → List SweepEvent
  | [], _ => []
  | slice :: slices, position =>
    [{ x := slice.rasterX, slicePosition := position, starts := true },
      { x := slice.rasterX + slice.rasterWidth, slicePosition := position, starts := false }] ++
      edges slices (position + 1)

section Scan

variable {stream : StreamParameters} {slices : List SliceDescriptor} {scan scan' : CoverageScan}

theorem cellCount64_toNat (stream : StreamParameters) :
    (cellCount64 stream).toNat = stream.numHSlices.toNat * stream.numVSlices.toNat := by
  have h := Nat.mul_lt_mul'' stream.numHSlices.toNat_lt stream.numVSlices.toNat_lt
  unfold cellCount64
  rw [UInt64.toNat_mul, UInt32.toNat_toUInt64, UInt32.toNat_toUInt64]
  exact Nat.mod_eq_of_lt (by omega)

theorem sliceArea_toNat (slice : SliceDescriptor) :
    (sliceArea slice).toNat = slice.rasterRect.area := by
  have h := Nat.mul_lt_mul'' slice.rasterWidth.toNat_lt slice.rasterHeight.toNat_lt
  unfold sliceArea
  rw [UInt64.toNat_mul, UInt32.toNat_toUInt64, UInt32.toNat_toUInt64]
  exact Nat.mod_eq_of_lt (by omega)

theorem scanSlices_events {position : Nat}
    (h : scanSlices stream slices position scan = .ok scan') :
    scan'.events = scan.events ++ edges slices position := by
  induction slices generalizing position scan with
  | nil =>
    obtain rfl := Except.ok.inj h
    simp [edges]
  | cons slice slices ih =>
    simp only [scanSlices, except_bind_ok, exists_unit] at h
    rw [ih h.2, edges]
    simp

theorem scanSlices_exceeds {position : Nat}
    (h : scanSlices stream slices position scan = .ok scan') (hexceeds : scan'.exceedsRaster = false) :
    scan.exceedsRaster = false := by
  induction slices generalizing position scan with
  | nil => exact Except.ok.inj h ▸ hexceeds
  | cons slice slices ih =>
    simp only [scanSlices, except_bind_ok, exists_unit] at h
    exact (Bool.or_eq_false_iff.mp (ih h.2)).1

/-- While the raster is not exceeded the covered area is the sum of the areas. -/
theorem scanSlices_area {position : Nat}
    (h : scanSlices stream slices position scan = .ok scan') (hexceeds : scan'.exceedsRaster = false)
    (hle : scan.coveredArea ≤ cellCount64 stream) :
    scan'.coveredArea.toNat =
      scan.coveredArea.toNat + (slices.map fun slice => slice.rasterRect.area).sum := by
  induction slices generalizing position scan with
  | nil =>
    obtain rfl := Except.ok.inj h
    simp
  | cons slice slices ih =>
    simp only [scanSlices, except_bind_ok, exists_unit] at h
    have hfits : ¬cellCount64 stream - scan.coveredArea < sliceArea slice := by
      have := (Bool.or_eq_false_iff.mp (scanSlices_exceeds h.2 hexceeds)).2
      simpa using this
    have hnat : scan.coveredArea.toNat + slice.rasterRect.area ≤ (cellCount64 stream).toNat := by
      rw [UInt64.lt_iff_toNat_lt, UInt64.toNat_sub_of_le _ _ hle, sliceArea_toNat] at hfits
      rw [UInt64.le_iff_toNat_le] at hle
      omega
    have hsum : (scan.coveredArea + sliceArea slice).toNat =
        scan.coveredArea.toNat + slice.rasterRect.area := by
      have hlt := (cellCount64 stream).toNat_lt
      rw [UInt64.toNat_add, sliceArea_toNat]
      exact Nat.mod_eq_of_lt (by omega)
    have hrest := ih h.2 (by simp only [hfits, decide_false, Bool.false_eq_true, if_false]
                             rw [UInt64.le_iff_toNat_le, hsum]
                             exact hnat)
    simp only [hfits, decide_false, Bool.false_eq_true, if_false, hsum] at hrest
    rw [hrest, List.map_cons, List.sum_cons]
    omega

end Scan

end Mffv1
