import Mffv1.SliceDecoder

/-!
# The slice executor

The slices of a frame are decoded in payload order or in batches of parallel tasks,
which complete in any order. Their states are kept for the next frame, by the
rectangles of the slices, once every slice has been decoded.
-/
namespace Mffv1

/-- The number of workers; zero asks for those of the hardware. -/
def normalizeThreadCount (hardwareConcurrency : Nat) (threadCount : Int) : Nat :=
  if threadCount < 0 then 1
  else if threadCount = 0 then if hardwareConcurrency = 0 then 1 else hardwareConcurrency
  else threadCount.toNat

structure SliceLayout where
  x : UInt32
  y : UInt32
  width : UInt32
  height : UInt32
  deriving DecidableEq

/-- The lexicographic order of `std::array`. -/
def SliceLayout.before (left right : SliceLayout) : Bool :=
  if left.x ≠ right.x then decide (left.x < right.x)
  else if left.y ≠ right.y then decide (left.y < right.y)
  else if left.width ≠ right.width then decide (left.width < right.width)
  else decide (left.height < right.height)

def sliceLayout (slice : SliceDescriptor) : SliceLayout :=
  ⟨slice.rasterX, slice.rasterY, slice.rasterWidth, slice.rasterHeight⟩

/-- The header coder may have read one byte of the content. -/
def canTryGolombRiceReadAheadBoundary (stream : StreamParameters) (slice : SliceDescriptor) :
    Bool :=
  if stream.entropyMode ≠ .golombRice ∨ slice.contentByteOffset ≤ slice.payloadByteOffset then false
  else if (slice.footerByteOffset ≠ 0 ∨ slice.sliceSize ≠ 0) ∧
      slice.footerByteOffset ≤ slice.contentByteOffset - 1 then false
  else if 3 ≤ stream.version then true
  else decide (stream.version ≤ 1) && decide (slice.contentBitOffset = 0)

def shouldPreferGolombRiceReadAheadBoundary (stream : StreamParameters) : Bool :=
  decide (3 ≤ stream.version) && decide (stream.entropyMode = .golombRice) && stream.extraPlane &&
    (decide (1 < stream.numHSlices) || decide (1 < stream.numVSlices))

def makeGolombRiceReadAheadBoundary (slice : SliceDescriptor) : SliceDescriptor :=
  { slice with contentByteOffset := slice.contentByteOffset - 1 }

def makeGolombRiceContentCandidates (stream : StreamParameters) (slice : SliceDescriptor) :
    List SliceDescriptor :=
  if canTryGolombRiceReadAheadBoundary stream slice then
    let readAhead := makeGolombRiceReadAheadBoundary slice
    if shouldPreferGolombRiceReadAheadBoundary stream then [readAhead, slice]
    else [slice, readAhead]
  else [slice]

def slicesHaveRasterLayout (slices : List SliceDescriptor) : Bool :=
  slices.all fun slice => decide (slice.rasterWidth ≠ 0) && decide (slice.rasterHeight ≠ 0)

def validateParallelSliceLayout (stream : StreamParameters) (slices : List SliceDescriptor) :
    Status :=
  if slices = [] ∨ slicesHaveRasterLayout slices = false then .ok ()
  else validateSliceRasterCoverage stream slices

def canDecodeParallelSafely (stream : StreamParameters) (slices : List SliceDescriptor) : Bool :=
  if slices = [] ∨ slicesHaveRasterLayout slices = false then false
  else (validateSliceRasterCoverage stream slices).isOk

/-- One plane in a buffer of its own, whose row size fits 64 bits for every width; an
empty buffer has no data. -/
def makeTemporaryPlane (window : PlaneWindow) (info : PlaneInfo) (buffer : Nat) :
    Except Error PlaneView := do
  failIf (info.strideBytes < 0) (makeError .invalidArgument "output plane stride is negative")
  let rowBytes := window.width.toNat * bytesPerSample info.sampleFormat
  let size := rowBytes * window.height.toNat
  failIf (2 ^ 64 - 1 < size) (makeError .resourceExhausted
    "temporary output plane size overflows size_t")
  return {
    hasData := decide (size ≠ 0)
    buffer
    info := { info with
      width := window.width
      height := window.height
      strideBytes := Int64.ofNat rowBytes } }

def makeTemporaryPlanes (output : FrameView) : List PlaneWindow → (planeIndex : Nat) →
    Except Error (List PlaneView)
  | [], _ => .ok []
  | window :: windows, planeIndex => do
    let plane ← makeTemporaryPlane window (output.plane planeIndex).info planeIndex
    let planes ← makeTemporaryPlanes output windows (planeIndex + 1)
    return plane :: planes

def makeTemporaryFrame (windows : List PlaneWindow) (output : FrameView) :
    Except Error FrameView := do
  let planes ← makeTemporaryPlanes output windows 0
  return { planes := some planes, planeCount := planes.length }

namespace SliceOutputWindow

def contiguousPlane (frame : FrameView) (planeIndex : Nat) : Except Error PlaneWindow := do
  let plane := frame.plane planeIndex
  failIf (plane.hasData = false) (makeError .invalidArgument "output plane data pointer is null")
  failIf (plane.info.strideBytes < 0) (makeError .invalidArgument
    "output plane stride is negative")
  let minimumStride ← checkedPlaneRowBytes plane.info "output plane row size exceeds ptrdiff_t"
  failIf (plane.info.strideBytes < minimumStride.toInt64) (makeError .invalidArgument
    "output plane stride is too small")
  let planeOffset ← checkedPlaneWindowOffset plane.info 0 0 plane.info.width plane.info.height
    windowMessages
  return {
    buffer := plane.buffer
    start := plane.start
    offset := planeOffset.toNat
    strideBytes := plane.info.strideBytes.toInt
    width := plane.info.width
    height := plane.info.height
    sampleFormat := plane.info.sampleFormat }

def resetToContiguousFrame (frame : FrameView) : Except Error (List PlaneWindow) := do
  failIf (frame.planeCount ≠ 0 ∧ frame.planes = none) (makeError .invalidArgument
    "output plane array is null")
  validatePlanes (contiguousPlane frame) frame.planeCount 0

end SliceOutputWindow

section Copying

variable (temporary : FrameMemory) (source destination : List PlaneWindow)

/-- A row of `width` samples, moved as it is. -/
def copySamples (format : SampleFormat) (planeIndex width : Nat) (from_ to_ : Int)
    (memory : FrameMemory) : FrameMemory :=
  FrameMemory.storeSamples format (planeWindow destination planeIndex).buffer to_
    ((List.range width).map fun (x : Nat) =>
      temporary.loadSample format (planeWindow source planeIndex).buffer
        (from_ + bytesPerSample format * x)) memory

def copyRow (planeIndex y : Nat) : Call FrameMemory Unit := do
  let width := (planeWindow source planeIndex).width.toNat
  match rowOfFormat .uint8 source planeIndex y, rowOfFormat .uint16 source planeIndex y with
  | some src, _ =>
    match rowOfFormat .uint8 destination planeIndex y with
    | some dst => modify (copySamples temporary source destination .uint8 planeIndex width src dst)
    | none => throw (makeError .internalError "temporary uint8 slice row does not match output")
  | none, some src =>
    match rowOfFormat .uint16 destination planeIndex y with
    | some dst => modify (copySamples temporary source destination .uint16 planeIndex width src dst)
    | none => throw (makeError .internalError "temporary uint16 slice row does not match output")
  | none, none => throw (makeError .internalError "temporary slice row is not accessible")

def copyPlane (planeIndex : Nat) : Call FrameMemory Unit := do
  failIf ((planeWindow source planeIndex).width ≠ (planeWindow destination planeIndex).width ∨
      (planeWindow source planeIndex).height ≠ (planeWindow destination planeIndex).height)
    (makeError .internalError "temporary slice geometry does not match output")
  Mirror.forLoop 0 (planeWindow source planeIndex).height.toNat
    (copyRow temporary source destination planeIndex)

def copyDecodedSlice : Call FrameMemory Unit := do
  failIf (source.length ≠ destination.length) (makeError .internalError
    "temporary slice plane count does not match output")
  Mirror.forLoop 0 source.length (copyPlane temporary source destination)

end Copying

namespace SliceExecutor

/-- What a slice task works on: the output of the frame and the state of the slice. -/
structure SliceTask where
  memory : FrameMemory
  state : SliceState

def appendGolombRiceCandidateContext (status : Error) (candidate : SliceDescriptor) : Error :=
  let status := appendStatusMessage status
    (" while decoding Golomb-Rice content candidate at byte offset " ++
      toString candidate.contentByteOffset)
  if candidate.contentBitOffset ≠ 0 then
    appendStatusMessage status (" bit offset " ++ toString candidate.contentBitOffset)
  else status

/-- The candidates share a temporary frame; the error is that of the first one. -/
def decodeCandidates (stream : StreamParameters) (windows : List PlaneWindow) (state : SliceState) :
    (candidate : SliceDescriptor) → (others : List SliceDescriptor) → (temporary : FrameMemory) →
      Except Error (SliceState × FrameMemory)
  | candidate, others, temporary =>
    match SliceDecoder.decode stream true candidate windows { state } with
    | .ok _ progress => .ok (progress.state, applyStores windows progress.stores temporary)
    | .error status progress =>
      let firstStatus := appendGolombRiceCandidateContext status candidate
      match others with
      | [] => .error firstStatus
      | next :: others =>
        (decodeCandidates stream windows state next others
          (applyStores windows progress.stores temporary)).mapError fun _ => firstStatus

def emptyMemory : FrameMemory := fun _ _ => 0

def decodeWithCandidates (stream : StreamParameters) (output : FrameView)
    (windows : List PlaneWindow) (slice : SliceDescriptor) : Call SliceTask Unit := do
  let temporaryFrame ← MonadExcept.ofExcept (makeTemporaryFrame windows output)
  let temporaryWindows ← MonadExcept.ofExcept
    (SliceOutputWindow.resetToContiguousFrame temporaryFrame)
  match makeGolombRiceContentCandidates stream slice with
  | [] => return ()
  | candidate :: others =>
    let task ← get
    let (state, temporary) ← MonadExcept.ofExcept
      (decodeCandidates stream temporaryWindows task.state candidate others emptyMemory)
    match copyDecodedSlice temporary temporaryWindows windows task.memory with
    | .ok _ memory => set { memory, state : SliceTask }
    | .error status memory =>
      set { task with memory }
      throw status

def decodeDirectly (stream : StreamParameters) (windows : List PlaneWindow)
    (slice : SliceDescriptor) : Call SliceTask Unit := fun task =>
  match SliceDecoder.decode stream false slice windows { state := task.state } with
  | .ok _ progress =>
    .ok () { memory := applyStores windows progress.stores task.memory, state := progress.state }
  | .error status progress =>
    .error status
      { memory := applyStores windows progress.stores task.memory, state := progress.state }

def decodeSlice (stream : StreamParameters) (output : FrameView) (slice : SliceDescriptor) :
    Call SliceTask Unit := do
  let windows ← MonadExcept.ofExcept (SliceOutputWindow.validate stream output slice)
  let task ← get
  let state ← MonadExcept.ofExcept (task.state.reset stream windows)
  set { task with state }
  if canTryGolombRiceReadAheadBoundary stream slice then
    decodeWithCandidates stream output windows slice
  else decodeDirectly stream windows slice

/-- The output of the frame and the working state of every slice. -/
structure FrameProgress where
  memory : FrameMemory
  states : List SliceState

section Tasks

variable (stream : StreamParameters) (output : FrameView) (slices : List SliceDescriptor)

/-- The task of one slice, on its own state. -/
def decodeAt (position : Nat) : Call FrameProgress Unit := fun progress =>
  let slice := sliceAt slices position
  match decodeSlice stream output slice
      { memory := progress.memory, state := progress.states.getD position {} } with
  | .ok _ task =>
    .ok () { memory := task.memory, states := progress.states.set position task.state }
  | .error status task =>
    .error (setSliceLocationIfMissing status slice.index)
      { memory := task.memory, states := progress.states.set position task.state }

/-- The first error ends the frame. -/
def decodeSerial : Call FrameProgress Unit :=
  Mirror.forLoop 0 slices.length (decodeAt stream output slices)

/-- Every task runs, in the order of completion; the errors with their positions. -/
def runTasks : (order : List Nat) → FrameProgress → List (Nat × Error) × FrameProgress
  | [], progress => ([], progress)
  | position :: order, progress =>
    match decodeAt stream output slices position progress with
    | .ok _ progress => runTasks order progress
    | .error status progress =>
      let (errors, progress) := runTasks order progress
      ((position, status) :: errors, progress)

/-- The error of the lowest position. -/
def firstError (count : Nat) (errors : List (Nat × Error)) : Option Error :=
  (List.range count).findSome? fun position => errors.lookup position

def decodeParallel (order : List Nat) : Call FrameProgress Unit := fun progress =>
  let (errors, progress) := runTasks stream output slices order progress
  match firstError slices.length errors with
  | some status => .error status progress
  | none => .ok () progress

end Tasks

def workerCountFor (threadCount sliceCount : Nat) : Nat :=
  if sliceCount = 0 then 0 else min threadCount sliceCount

/-- The orders in which the tasks can complete: the tasks of one batch in any order, a
batch after the other. -/
inductive CompletionOrder (workerCount : Nat) : (offset count : Nat) → List Nat → Prop
  | done (offset : Nat) : CompletionOrder workerCount offset 0 []
  | batch {offset count : Nat} {order rest : List Nat} (hcount : 0 < count)
      (horder : order.Perm (List.range' offset (min workerCount count)))
      (hrest : CompletionOrder workerCount (offset + min workerCount count)
        (count - min workerCount count) rest) :
      CompletionOrder workerCount offset count (order ++ rest)

/-- A slice may be refused as it is and still be decoded from its other boundary. -/
def validateSlice (stream : StreamParameters) (output : FrameView) (slice : SliceDescriptor) :
    Status :=
  let check (candidate : SliceDescriptor) : Status := do
    let windows ← SliceOutputWindow.validate stream output candidate
    SliceDecoder.validate stream candidate windows
  match check slice with
  | .ok _ => .ok ()
  | .error status =>
    if (makeGolombRiceContentCandidates stream slice).any fun candidate => (check candidate).isOk then
      .ok ()
    else .error (setSliceLocationIfMissing status slice.index)

def validateEach (stream : StreamParameters) (output : FrameView) : List SliceDescriptor → Status
  | [] => .ok ()
  | slice :: slices => do
    validateSlice stream output slice
    validateEach stream output slices

def validateSlices (stream : StreamParameters) (threadCount : Nat) (output : FrameView)
    (slices : List SliceDescriptor) : Status := do
  (if 1 < threadCount ∧ 2 ≤ slices.length then validateParallelSliceLayout stream slices
  else pure ())
  validateEach stream output slices

end SliceExecutor

/-- The reference states of a stream. -/
structure SliceExecutor where
  sliceStates : List SliceState := []
  sliceLayouts : List SliceLayout := []
  deriving DecidableEq

namespace SliceExecutor

def layoutAt (layouts : List SliceLayout) (position : Nat) : SliceLayout :=
  layouts.getD position ⟨0, 0, 0, 0⟩

/-- The positions of the layouts, by their order. -/
def sortedOrder (layouts : List SliceLayout) : List Nat :=
  (List.range layouts.length).insertionSort fun left right =>
    (layoutAt layouts right).before (layoutAt layouts left) = false

/-- The loop over the ranks: the state of the reference slice of the same rank. -/
def matchRanks (executor : SliceExecutor) (slices : List SliceDescriptor) :
    (ranks : List (Nat × Nat)) → (states : List SliceState) → Except Error (List SliceState)
  | [], states => .ok states
  | (current, reference) :: ranks, states => do
    let slice := sliceAt slices current
    failIf (sliceLayout slice ≠ layoutAt executor.sliceLayouts reference)
      (setSliceLocationIfMissing (makeError .syntaxError
        "non-keyframe slice layout differs from the reference frame") slice.index)
    matchRanks executor slices ranks
      (states.set current (executor.sliceStates.getD reference {}))

def referenceStates (executor : SliceExecutor) (slices : List SliceDescriptor) :
    Except Error (List SliceState) := do
  failIf (executor.sliceStates = []) (makeError .invalidState
    "non-keyframe requires reference slice states")
  failIf (executor.sliceStates.length ≠ slices.length) (makeError .syntaxError
    "non-keyframe slice count differs from the reference frame")
  failIf (executor.sliceLayouts.length ≠ executor.sliceStates.length) (makeError .invalidState
    "reference slice layouts do not match reference states")
  matchRanks executor slices
    ((sortedOrder (slices.map sliceLayout)).zip (sortedOrder executor.sliceLayouts))
    (List.replicate slices.length {})

def workingStates (executor : SliceExecutor) (slices : List SliceDescriptor) (keyframe : Bool) :
    Except Error (List SliceState) :=
  if keyframe then .ok (List.replicate slices.length {}) else executor.referenceStates slices

/-- The executor with the output that it decodes to. -/
structure Execution where
  executor : SliceExecutor := {}
  memory : FrameMemory

/-- Whether the slices of a frame are decoded by parallel tasks. -/
def isParallel (stream : StreamParameters) (threadCount : Nat) (slices : List SliceDescriptor) :
    Bool :=
  decide (1 < threadCount) && decide (2 ≤ slices.length) && canDecodeParallelSafely stream slices

/-- `order` is the order of completion of the tasks, where they are parallel. -/
def decodeSlices (stream : StreamParameters) (threadCount : Nat) (order : List Nat)
    (output : FrameView) (slices : List SliceDescriptor) : Call FrameProgress Unit :=
  if isParallel stream threadCount slices then decodeParallel stream output slices order
  else decodeSerial stream output slices

def decode (stream : StreamParameters) (threadCount : Nat) (order : List Nat) (output : FrameView)
    (slices : List SliceDescriptor) (keyframe : Bool) : Call Execution Unit := do
  MonadExcept.ofExcept (validateSlices stream threadCount output slices)
  let execution ← get
  let states ← MonadExcept.ofExcept (execution.executor.workingStates slices keyframe)
  match decodeSlices stream threadCount order output slices
      { memory := execution.memory, states } with
  | .ok _ progress =>
    set { executor := { sliceStates := progress.states, sliceLayouts := slices.map sliceLayout }
          memory := progress.memory : Execution }
  | .error status progress =>
    set { execution with memory := progress.memory }
    throw status

end SliceExecutor

end Mffv1
