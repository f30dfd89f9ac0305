import Mffv1.GolombRiceLines

/-!
# Traced Golomb-Rice lines

The decoder of a row, with ghost records beside its state: every subscript that it uses
with the length of the array, every sample that it assigns and every segment of a run.
Without the records it is the decoder.
-/
namespace Mffv1

/-- A subscript of an array of `size` elements. -/
structure Access where
  index : Nat
  size : Nat
  deriving DecidableEq

def Access.InBounds (access : Access) : Prop := access.index < access.size

structure TracedLine where
  decoding : Decoding BitReader
  accesses : List Access := []
  assigned : List (Nat × Int) := []
  segments : List (Nat × Nat) := []

/-- `LineState::neighbors` -/
def neighborAccesses (line : LineState) (x : Nat) : List Access :=
  let current := line.current.length
  let previous := line.previous.length
  let secondPrevious := line.secondPrevious.length
  (if 1 < x then [⟨x - 2, current⟩] else if x = 1 then [⟨0, previous⟩] else []) ++
    (if 0 < x then [⟨x - 1, current⟩, ⟨x - 1, previous⟩]
      else [⟨0, previous⟩, ⟨0, secondPrevious⟩]) ++
    [⟨x, previous⟩, ⟨if x + 1 < current then x + 1 else x, previous⟩, ⟨x, secondPrevious⟩]

/-- `ContextModel::derive_context`: the five tables, and an entry in each of them. -/
def tableAccesses (quantTables : QuantTableSet) (samples : NeighborSamples) : List Access :=
  (List.range 5).map (⟨·, quantTables.tables.toList.length⟩) ++
    (ContextModel.gradients samples).map (⟨ContextModel.contextInputIndex ·, 256⟩)

section Accesses

variable (setup : GolombRiceLine)

def predictionAccesses (x : Nat) (state : SliceState) : List Access :=
  ⟨setup.planeIndex, state.planeCount⟩ :: neighborAccesses (state.lineState setup.planeIndex) x

def contextAccesses (x : Nat) (state : SliceState) : List Access :=
  predictionAccesses setup x state ++
    tableAccesses setup.contextModel ((state.lineState setup.planeIndex).neighbors x)

def storeAccesses (x : Nat) (state : SliceState) : List Access :=
  [⟨setup.planeIndex, state.planeCount⟩,
    ⟨x, (state.lineState setup.planeIndex).current.length⟩]

/-- The table of run lengths is looked up where no run is pending. -/
def segmentAccesses (state : SliceState) : List Access :=
  let runState := state.golombRiceRunState setup.runStatePlane
  ⟨setup.runStatePlane, state.golombRiceRunStates.length⟩ ::
    if runState.pendingCount = 0 then [⟨runState.runIndex, GolombRiceRunState.log2Run.length⟩]
    else []

def adaptiveAccesses (context : Nat) (state : SliceState) : List Access :=
  [⟨setup.contextBank, state.golombRiceContexts.length⟩,
    ⟨context, (state.golombRiceContexts.getD setup.contextBank []).length⟩]

end Accesses

/-- A call of the decoder, behind the subscripts that it uses. -/
def accessing {α : Type} (accesses : SliceState → List Access)
    (call : Call (Decoding BitReader) α) : Call TracedLine α := fun traced =>
  let accesses := traced.accesses ++ accesses traced.decoding.state
  match call traced.decoding with
  | .ok value decoding => .ok value { traced with decoding, accesses }
  | .error status decoding => .error status { traced with decoding, accesses }

section Traced

variable (payloadOffset : Nat) (setup : GolombRiceLine)

def tracedStore (x : Nat) (sample : Int) : Call TracedLine Unit := do
  accessing (storeAccesses setup x) (storeDecoded setup x sample)
  modify fun traced => { traced with assigned := traced.assigned ++ [(x, sample)] }

/-- A segment, read as `read` does. -/
def tracedSegment (x : Nat) (read : Call (Decoding BitReader) GolombRiceRunSegment) :
    Call TracedLine GolombRiceRunSegment := do
  let segment ← accessing (segmentAccesses setup) read
  modify fun traced => { traced with segments := traced.segments ++ [(x, segment.count)] }
  return segment

def tracedContext (x : Nat) (line : LineState) : Call TracedLine ContextDecision :=
  accessing (contextAccesses setup x)
    (MonadExcept.ofExcept (ContextModel.deriveContext setup.contextModel (line.neighbors x)))

/-- `decodePendingRun` -/
def tracedPendingRun : (x count : Nat) → Call TracedLine Unit
  | _, 0 => return ()
  | x, count + 1 => do
    let traced ← get
    let line := traced.decoding.state.lineState setup.planeIndex
    let _ ← tracedContext setup x line
    tracedStore setup x (linePrediction line x)
    tracedPendingRun (x + 1) count

/-- `LineState.storeRun` -/
def tracedRun : (x count : Nat) → Call TracedLine Unit
  | _, 0 => return ()
  | x, count + 1 => do
    let traced ← get
    accessing (predictionAccesses setup x) (return ())
    tracedStore setup x (linePrediction (traced.decoding.state.lineState setup.planeIndex) x)
    tracedRun (x + 1) count

/-- `decodeRunSegments` -/
def tracedRunSegments (neighbors : NeighborSamples) (context : ContextDecision) :
    (fuel x : Nat) → Call TracedLine (Nat × Bool)
  | 0, x => return (x, false)
  | fuel + 1, x => do
    let segment ← tracedSegment setup x (Mirror.telling (tellRunSegment setup neighbors context x)
      (readSegment payloadOffset setup x))
    let count := min segment.count (setup.width - x)
    tracedRun setup x count
    if segment.interrupted ∨ setup.width ≤ x + count then return (x + count, segment.interrupted)
    else tracedRunSegments neighbors context fuel (x + count)

/-- `decodeDifference` -/
def tracedDifference (what : String) (x : Nat)
    (read : GolombRiceContextState → Nat → Call BitReader (Int × GolombRiceContextState)) :
    Call TracedLine Unit := do
  let traced ← get
  let line := traced.decoding.state.lineState setup.planeIndex
  let context ← tracedContext setup x line
  let difference ← accessing (adaptiveAccesses setup context.context)
    (Mirror.telling (tellDifference setup what context x)
      (readDifference payloadOffset setup context read))
  tracedStore setup x
    (Predictor.reconstruct (linePrediction line x) difference setup.reconstructionBits)

/-- `decodeGolombRiceStep` -/
def tracedStep (x : Nat) : Call TracedLine Nat := do
  let traced ← get
  if (traced.decoding.state.golombRiceRunState setup.runStatePlane).pendingCount ≠ 0 then
    let segment ← tracedSegment setup x (readSegment payloadOffset setup x)
    let count := min segment.count (setup.width - x)
    tracedPendingRun setup x count
    return x + count
  else
    let line := traced.decoding.state.lineState setup.planeIndex
    let context ← tracedContext setup x line
    if context.context = 0 then
      let out ← tracedRunSegments payloadOffset setup (line.neighbors x) context
        (setup.width - x) x
      if out.2 = false ∨ out.1 = setup.width then return out.1
      else
        tracedDifference payloadOffset setup "run interruption" out.1
          GolombRiceContextState.readRunInterruption
        return out.1 + 1
    else
      tracedDifference payloadOffset setup "scalar symbol" x GolombRiceContextState.readSymbol
      return x + 1

/-- `decodeGolombRiceRounds` -/
def tracedRounds : (fuel x : Nat) → Call TracedLine Unit
  | 0, _ => return ()
  | fuel + 1, x => do
    if setup.width ≤ x then return ()
    else
      let x ← tracedStep payloadOffset setup x
      tracedRounds fuel x

/-- `decodeGolombRiceLine` -/
def tracedLine : Call TracedLine Unit := tracedRounds payloadOffset setup setup.width 0

end Traced

section Untraced

open Mirror (Projects)

variable {payloadOffset : Nat} {setup : GolombRiceLine} {α : Type}

theorem accessing_projects (accesses : SliceState → List Access)
    (call : Call (Decoding BitReader) α) :
    Projects TracedLine.decoding (accessing accesses call) call := by
  intro traced
  unfold accessing
  cases call traced.decoding with
  | ok value decoding => rfl
  | error status decoding => rfl

/-- What follows a call may touch the records only. -/
theorem projects_silent {w : Call TracedLine α} {r : Call (Decoding BitReader) α}
    {f : α → Call TracedLine α} (h : Projects TracedLine.decoding w r)
    (hf : ∀ a, Projects TracedLine.decoding (f a) (pure a)) :
    Projects TracedLine.decoding (w >>= f) r := by
  have hbind := h.bind hf
  rwa [bind_pure] at hbind

theorem tracedStore_projects (setup : GolombRiceLine) (x : Nat) (sample : Int) :
    Projects TracedLine.decoding (tracedStore setup x sample) (storeDecoded setup x sample) :=
  projects_silent (accessing_projects _ _) fun _ _ => rfl

theorem tracedSegment_projects (setup : GolombRiceLine) (x : Nat)
    (read : Call (Decoding BitReader) GolombRiceRunSegment) :
    Projects TracedLine.decoding (tracedSegment setup x read) read :=
  projects_silent (accessing_projects _ _) fun _ _ => rfl

theorem tracedPendingRun_projects (x count : Nat) :
    Projects TracedLine.decoding (tracedPendingRun setup x count)
      (decodePendingRun setup x count) := by
  induction count generalizing x with
  | zero => exact Projects.pure _
  | succ count ih =>
    intro traced
    rw [tracedPendingRun, decodePendingRun, Mirror.get_bind, Mirror.get_bind]
    exact ((accessing_projects _ _).bind fun _ => (tracedStore_projects setup x _).bind fun _ =>
      ih (x + 1)) traced

/-- The records of a run lie between its samples, whose stores the decoder makes at once. -/
theorem tracedRun_projects (x count : Nat) :
    Projects TracedLine.decoding (tracedRun setup x count)
      (modify (Decoding.modifyState (SliceState.modifyLine · setup.planeIndex
        (LineState.storeRun · x count)))) := by
  induction count generalizing x with
  | zero =>
    intro traced
    have hnone : traced.decoding.state.modifyLine setup.planeIndex (LineState.storeRun · x 0) =
        traced.decoding.state := by
      unfold SliceState.modifyLine LineState.storeRun
      exact congrArg (fun lines => { traced.decoding.state with lineStates := lines })
        (List.modify_id ..)
    rw [Mirror.modify_apply, Decoding.modifyState, hnone]
    rfl
  | succ count ih =>
    intro traced
    have hbody : Projects TracedLine.decoding _ _ :=
      (accessing_projects (predictionAccesses setup x) (return ())).bind fun _ =>
        (tracedStore_projects setup x
          (linePrediction (traced.decoding.state.lineState setup.planeIndex) x)).bind fun _ =>
          ih (x + 1)
    rw [tracedRun, Mirror.get_bind, ← hbody traced, pure_bind, storeDecoded, Mirror.modify_bind,
      Mirror.modify_apply, Mirror.modify_apply]
    unfold Decoding.modifyState
    dsimp only
    rw [SliceState.modifyLine_modifyLine]
    congr 2
    exact modifyLine_congr rfl

theorem tracedRunSegments_projects (neighbors : NeighborSamples) (context : ContextDecision)
    (fuel x : Nat) :
    Projects TracedLine.decoding (tracedRunSegments payloadOffset setup neighbors context fuel x)
      (decodeRunSegments payloadOffset setup neighbors context fuel x) := by
  induction fuel generalizing x with
  | zero => exact Projects.pure _
  | succ fuel ih =>
    refine (tracedSegment_projects setup x _).bind fun segment =>
      (tracedRun_projects x _).bind fun _ => ?_
    by_cases hend : segment.interrupted ∨ setup.width ≤ x + min segment.count (setup.width - x)
    · rw [if_pos hend, if_pos hend]
      exact Projects.pure _
    · rw [if_neg hend, if_neg hend]
      exact ih _

theorem tracedDifference_projects (what : String) (x : Nat)
    (read : GolombRiceContextState → Nat → Call BitReader (Int × GolombRiceContextState)) :
    Projects TracedLine.decoding (tracedDifference payloadOffset setup what x read)
      (decodeDifference payloadOffset setup what x read) := by
  intro traced
  rw [tracedDifference, decodeDifference, Mirror.get_bind, Mirror.get_bind]
  exact ((accessing_projects _ _).bind fun context => (accessing_projects _ _).bind fun _ =>
    tracedStore_projects setup x _) traced

theorem tracedStep_projects (x : Nat) :
    Projects TracedLine.decoding (tracedStep payloadOffset setup x)
      (decodeGolombRiceStep payloadOffset setup x) := by
  intro traced
  rw [tracedStep, decodeGolombRiceStep, Mirror.get_bind, Mirror.get_bind]
  by_cases hpending :
      (traced.decoding.state.golombRiceRunState setup.runStatePlane).pendingCount ≠ 0
  · rw [if_pos hpending, if_pos hpending]
    exact ((tracedSegment_projects setup x _).bind fun segment =>
      (tracedPendingRun_projects x _).bind fun _ => Projects.pure _) traced
  · rw [if_neg hpending, if_neg hpending]
    refine ((accessing_projects _ _).bind fun context => ?_) traced
    by_cases hzero : context.context = 0
    · rw [if_pos hzero, if_pos hzero]
      refine (tracedRunSegments_projects _ _ _ x).bind fun out => ?_
      by_cases hend : out.2 = false ∨ out.1 = setup.width
      · simp only [if_pos hend]
        exact Projects.pure _
      · simp only [if_neg hend]
        exact (tracedDifference_projects _ _ _).bind fun _ => Projects.pure _
    · rw [if_neg hzero, if_neg hzero]
      exact (tracedDifference_projects _ x _).bind fun _ => Projects.pure _

theorem tracedRounds_projects (fuel x : Nat) :
    Projects TracedLine.decoding (tracedRounds payloadOffset setup fuel x)
      (decodeGolombRiceRounds payloadOffset setup fuel x) := by
  induction fuel generalizing x with
  | zero => exact Projects.pure _
  | succ fuel ih =>
    rw [tracedRounds, decodeGolombRiceRounds]
    by_cases hend : setup.width ≤ x
    · rw [if_pos hend, if_pos hend]
      exact Projects.pure _
    · rw [if_neg hend, if_neg hend]
      exact (tracedStep_projects x).bind fun next => ih next

/-- The decoder of a row is the traced one without its records. -/
theorem tracedLine_projects (payloadOffset : Nat) (setup : GolombRiceLine) :
    Projects TracedLine.decoding (tracedLine payloadOffset setup)
      (decodeGolombRiceLine payloadOffset setup) :=
  tracedRounds_projects setup.width 0

end Untraced

end Mffv1
