import Mffv1.ContextFolding
import Mffv1.GolombRiceAdaptation
import Mffv1.GolombRiceTrace

/-!
# Golomb-Rice lines on any bits

Every round of a row moves on: a run segment that is empty is an interrupted one, and a
sample of its own follows it. What the segments and the symbols of a row store are
samples of the depth, one for each position, and no subscript leaves its array.
-/
namespace Mffv1

open Hoare (Triple)

/-- What `read_golomb_rice_run_segment` returns at `x`: a segment within the row, which is
empty only where it is a new one and interrupted, and is the end of the row where some of
it is pending. -/
structure SegmentFits (before : GolombRiceRunState) (x width : Nat)
    (segment : GolombRiceRunSegment) (after : GolombRiceRunState) : Prop where
  index : after.runIndex ≤ 40
  count : segment.count ≤ width - x
  progress : before.pendingCount ≠ 0 ∨ segment.interrupted = false → 0 < segment.count
  pending : after.pendingCount ≠ 0 → x + segment.count = width

theorem readRunSegment_returns (state : GolombRiceRunState) {x width : Nat} (hlt : x < width) :
    Mirror.Returns (state.readRunSegment x width) fun out =>
      SegmentFits state x width out.1 out.2 := by
  unfold GolombRiceRunState.readRunSegment
  by_cases hindex : GolombRiceRunState.log2Run.length ≤ state.runIndex
  · rw [failIf_of hindex]
    exact fun _ _ _ hcall => by cases hcall
  have hforty : state.runIndex ≤ 40 := Nat.le_of_lt_succ (Nat.lt_of_not_le hindex)
  rw [failIf_of_not hindex, pure_bind, failIf_of_not (by omega), pure_bind]
  by_cases hpending : state.pendingCount ≠ 0
  · simp only [if_pos hpending]
    refine Mirror.Returns.pure ⟨hforty, ?_, ?_, ?_⟩ <;> dsimp only <;> omega
  · simp only [if_neg hpending]
    refine Mirror.Returns.bind Mirror.Returns.trivial fun bit _ => ?_
    by_cases hbit : bit ≠ 0
    · simp only [if_pos hbit]
      have hpos : 0 < 2 ^ GolombRiceRunState.log2Run.getD state.runIndex 0 := Nat.two_pow_pos _
      by_cases hfull : 2 ^ GolombRiceRunState.log2Run.getD state.runIndex 0 ≤ width - x
      · simp only [if_pos hfull]
        by_cases hlast : GolombRiceRunState.log2Run.length ≤ state.runIndex + 1
        · rw [failIf_of hlast]
          exact fun _ _ _ hcall => by cases hcall
        · rw [failIf_of_not hlast, pure_bind]
          exact Mirror.Returns.pure ⟨Nat.le_of_lt_succ (Nat.lt_of_not_le hlast), hfull,
            fun _ => hpos, fun h => absurd h hpending⟩
      · simp only [if_neg hfull]
        refine Mirror.Returns.pure ⟨hforty, Nat.le_refl _, ?_, ?_⟩ <;> dsimp only <;> omega
    · simp only [if_neg hbit]
      refine Mirror.Returns.bind Mirror.Returns.trivial fun remainder _ => ?_
      by_cases hlong : width - x < remainder
      · simp only [if_pos hlong]
        refine Mirror.Returns.pure ⟨?_, Nat.le_refl _, ?_, ?_⟩ <;> dsimp only <;> omega
      · simp only [if_neg hlong]
        refine Mirror.Returns.pure ⟨?_, ?_, ?_, ?_⟩
        · dsimp only
          omega
        · exact Nat.le_of_not_lt hlong
        · exact fun h => h.elim (fun h => absurd h hpending) fun h => by cases h
        · exact fun h => absurd h hpending

theorem onReader_ok {R α : Type} {call : Call R α} {decoding decoding' : Decoding R} {a : α}
    (h : onReader call decoding = .ok a decoding') :
    ∃ reader, call decoding.reader = .ok a reader ∧ decoding' = { decoding with reader } := by
  unfold onReader at h
  cases hcall : call decoding.reader with
  | ok b reader =>
    rw [hcall] at h
    obtain ⟨rfl, rfl⟩ := EStateM.Result.ok.inj h
    exact ⟨reader, rfl, rfl⟩
  | error status reader =>
    rw [hcall] at h
    cases h

theorem onBits_ok {α : Type} {call : Call BitReader α} {payloadOffset : Nat}
    {decoding decoding' : Decoding BitReader} {a : α}
    (h : onBits payloadOffset call decoding = .ok a decoding') :
    ∃ reader, call decoding.reader = .ok a reader ∧ decoding' = { decoding with reader } := by
  obtain ⟨reader, hreader, rfl⟩ := onReader_ok h
  unfold withReaderOffset at hreader
  cases hcall : call decoding.reader with
  | ok b reader' =>
    rw [hcall] at hreader
    obtain ⟨rfl, rfl⟩ := EStateM.Result.ok.inj hreader
    exact ⟨reader', rfl, rfl⟩
  | error status reader' =>
    rw [hcall] at hreader
    cases hreader

section Progress

variable {payloadOffset : Nat} {setup : GolombRiceLine} {x : Nat}

/-- A segment changes the reader and the run state. -/
theorem readSegment_ok (hlt : x < setup.width) {decoding decoding' : Decoding BitReader}
    {segment : GolombRiceRunSegment}
    (h : readSegment payloadOffset setup x decoding = .ok segment decoding') :
    ∃ reader runState, SegmentFits (decoding.state.golombRiceRunState setup.runStatePlane) x
      setup.width segment runState ∧
      decoding' = { decoding with
        reader
        state := decoding.state.setGolombRiceRunState setup.runStatePlane runState } := by
  unfold readSegment at h
  rw [Mirror.get_bind] at h
  obtain ⟨out, middle, hread, hrest⟩ := Mirror.bind_ok_iff.mp h
  obtain ⟨reader, hcall, rfl⟩ := onBits_ok hread
  obtain ⟨rfl, rfl⟩ := EStateM.Result.ok.inj hrest
  exact ⟨reader, out.2, readRunSegment_returns _ hlt _ _ _ hcall, rfl⟩

theorem readSegment_returns (hlt : x < setup.width) :
    Mirror.Returns (readSegment payloadOffset setup x) fun segment =>
      segment.count ≤ setup.width - x ∧ (segment.interrupted = false → 0 < segment.count) := by
  intro decoding segment decoding' h
  obtain ⟨reader, runState, hfits, -⟩ := readSegment_ok hlt h
  exact ⟨hfits.count, fun hnot => hfits.progress (.inr hnot)⟩

/-- What is left of the row is enough fuel for the segments of a run. -/
theorem decodeRunSegments_fuel {neighbors : NeighborSamples} {context : ContextDecision}
    (hlt : x < setup.width) {fuel fuel' : Nat} (hfuel : setup.width - x ≤ fuel)
    (hfuel' : setup.width - x ≤ fuel') :
    decodeRunSegments payloadOffset setup neighbors context fuel x =
      decodeRunSegments payloadOffset setup neighbors context fuel' x := by
  induction fuel generalizing x fuel' with
  | zero => omega
  | succ fuel ih =>
    cases fuel' with
    | zero => omega
    | succ fuel' =>
      rw [decodeRunSegments, decodeRunSegments]
      refine ((readSegment_returns hlt).telling _).bind_congr fun segment hsegment => ?_
      rw [Nat.min_eq_left hsegment.1]
      refine Mirror.Returns.trivial.bind_congr fun _ _ => ?_
      by_cases hend : segment.interrupted ∨ setup.width ≤ x + segment.count
      · rw [if_pos hend, if_pos hend]
      · rw [if_neg hend, if_neg hend]
        have hcount : 0 < segment.count := hsegment.2 (by
          simpa using fun h => hend (Or.inl h))
        exact ih (by omega) (by omega) (by omega)

/-- The segments of a run do not go back, and end the row unless they are interrupted. -/
theorem decodeRunSegments_returns {neighbors : NeighborSamples} {context : ContextDecision}
    (hlt : x < setup.width) {fuel : Nat} (hfuel : setup.width - x ≤ fuel) :
    Mirror.Returns (decodeRunSegments payloadOffset setup neighbors context fuel x) fun out =>
      x ≤ out.1 ∧ (out.2 = false → setup.width ≤ out.1) := by
  induction fuel generalizing x with
  | zero => omega
  | succ fuel ih =>
    refine ((readSegment_returns hlt).telling _).bind fun segment hsegment => ?_
    rw [Nat.min_eq_left hsegment.1]
    refine Mirror.Returns.bind Mirror.Returns.trivial fun _ _ => ?_
    by_cases hend : segment.interrupted ∨ setup.width ≤ x + segment.count
    · rw [if_pos hend]
      refine Mirror.Returns.pure ⟨Nat.le_add_right _ _, fun hnot => ?_⟩
      exact hend.resolve_left (by simp [show segment.interrupted = false from hnot])
    · rw [if_neg hend]
      have hcount : 0 < segment.count := hsegment.2 (by
        simpa using fun h => hend (Or.inl h))
      exact (ih (by omega) (by omega)).imp fun out hout => ⟨by omega, hout.2⟩

/-- Every round moves on. -/
theorem decodeStep_returns (hlt : x < setup.width) :
    Mirror.Returns (decodeGolombRiceStep payloadOffset setup x) fun next => x < next := by
  intro decoding next decoding' h
  have htrivial {α : Type} {call : Call (Decoding BitReader) α} :
      Mirror.Returns call fun _ => True := Mirror.Returns.trivial
  rw [decodeGolombRiceStep, Mirror.get_bind] at h
  by_cases hpending : (decoding.state.golombRiceRunState setup.runStatePlane).pendingCount ≠ 0
  · rw [if_pos hpending] at h
    obtain ⟨segment, middle, hsegment, hrest⟩ := Mirror.bind_ok_iff.mp h
    obtain ⟨reader, runState, hfits, -⟩ := readSegment_ok hlt hsegment
    obtain ⟨_, last, -, hlast⟩ := Mirror.bind_ok_iff.mp hrest
    obtain ⟨rfl, -⟩ := EStateM.Result.ok.inj hlast
    have hcount := hfits.count
    have hpos := hfits.progress (.inl hpending)
    omega
  · rw [if_neg hpending] at h
    revert h
    refine (htrivial.bind fun context _ => ?_) decoding next decoding'
    by_cases hzero : context.context = 0
    · simp only [if_pos hzero]
      refine (decodeRunSegments_returns hlt (Nat.le_refl _)).bind fun out hout => ?_
      by_cases hend : out.2 = false ∨ out.1 = setup.width
      · rw [if_pos hend]
        refine Mirror.Returns.pure ?_
        cases hend with
        | inl hnot => exact Nat.lt_of_lt_of_le hlt (hout.2 hnot)
        | inr hwidth => exact hwidth ▸ hlt
      · rw [if_neg hend]
        exact htrivial.bind fun _ _ => Mirror.Returns.pure (Nat.lt_succ_of_le hout.1)
    · simp only [if_neg hzero]
      exact htrivial.bind fun _ _ => Mirror.Returns.pure (Nat.lt_succ_self x)

theorem decodeRounds_fuel {fuel fuel' : Nat} (hfuel : setup.width - x ≤ fuel)
    (hfuel' : setup.width - x ≤ fuel') :
    decodeGolombRiceRounds payloadOffset setup fuel x =
      decodeGolombRiceRounds payloadOffset setup fuel' x := by
  induction fuel generalizing x fuel' with
  | zero =>
    cases fuel' with
    | zero => rfl
    | succ fuel' => rw [decodeGolombRiceRounds, decodeGolombRiceRounds, if_pos (by omega)]
  | succ fuel ih =>
    by_cases hend : setup.width ≤ x
    · cases fuel' with
      | zero => rw [decodeGolombRiceRounds, decodeGolombRiceRounds, if_pos hend]
      | succ fuel' =>
        rw [decodeGolombRiceRounds, decodeGolombRiceRounds, if_pos hend, if_pos hend]
    · cases fuel' with
      | zero => omega
      | succ fuel' =>
        rw [decodeGolombRiceRounds, decodeGolombRiceRounds, if_neg hend, if_neg hend]
        exact (decodeStep_returns (by omega)).bind_congr fun next hnext =>
          ih (by omega) (by omega)

end Progress

theorem fitsDepth_getD {bits : Nat} {values : List Int} (h : ∀ value ∈ values, FitsDepth value bits)
    (i : Nat) : FitsDepth (values.getD i 0) bits := by
  rcases Nat.lt_or_ge i values.length with hlt | hge
  · rw [List.getD_eq_getElem _ _ hlt]
    exact h _ (List.getElem_mem hlt)
  · rw [List.getD_eq_default _ _ hge]
    exact ⟨Int.le_refl 0, by positivity⟩

/-- The median lies between the first two values, whatever the third is. -/
theorem median3_between (a b c : Int) : min a b ≤ median3 a b c ∧ median3 a b c ≤ max a b := by
  unfold median3
  omega

/-- The lines that a row looks at are as wide as it, and hold samples of its depth. -/
structure LineState.FitsRow (line : LineState) (width bits : Nat) : Prop where
  sized : line.Sized width
  secondSized : line.secondPrevious.length = width
  current : ∀ value ∈ line.current, FitsDepth value bits
  previous : ∀ value ∈ line.previous, FitsDepth value bits
  secondPrevious : ∀ value ∈ line.secondPrevious, FitsDepth value bits

namespace LineState.FitsRow

variable {line : LineState} {width bits x : Nat}

theorem prediction (h : line.FitsRow width bits) (x : Nat) :
    FitsDepth (linePrediction line x) bits := by
  have htop : FitsDepth (line.neighbors x).top bits := fitsDepth_getD h.previous x
  have hleft : FitsDepth (line.neighbors x).left bits := by
    simp only [neighbors]
    split
    · exact fitsDepth_getD h.current _
    · exact fitsDepth_getD h.previous 0
  have hbetween := median3_between (line.neighbors x).left (line.neighbors x).top
    ((line.neighbors x).left + (line.neighbors x).top - (line.neighbors x).topLeft)
  obtain ⟨hleftLow, hleftHigh⟩ := hleft
  obtain ⟨htopLow, htopHigh⟩ := htop
  change FitsDepth (median3 _ _ _) bits
  constructor
  · exact le_trans (le_min hleftLow htopLow) hbetween.1
  · exact lt_of_le_of_lt hbetween.2 (max_lt hleftHigh htopHigh)

theorem store (h : line.FitsRow width bits) {sample : Int} (hsample : FitsDepth sample bits)
    (x : Nat) : (line.store x sample).FitsRow width bits := by
  refine ⟨h.sized.store x sample, h.secondSized, fun value hmem => ?_, h.previous,
    h.secondPrevious⟩
  rcases List.mem_or_eq_of_mem_set hmem with hold | rfl
  · exact h.current value hold
  · exact hsample

theorem neighborAccesses (h : line.FitsRow width bits) (hlt : x < width) :
    ∀ access ∈ neighborAccesses line x, access.InBounds := by
  intro access hmem
  simp only [Mffv1.neighborAccesses, h.sized.current, h.sized.previous, h.secondSized,
    List.mem_append] at hmem
  obtain (hleft | hnear) | habove := hmem
  · split at hleft
    · rw [List.mem_singleton.mp hleft]
      exact show x - 2 < width by omega
    · split at hleft
      · rw [List.mem_singleton.mp hleft]
        exact show 0 < width by omega
      · cases hleft
  · split at hnear
    · simp only [List.mem_cons, List.not_mem_nil, or_false] at hnear
      rcases hnear with rfl | rfl
      · exact show x - 1 < width by omega
      · exact show x - 1 < width by omega
    · simp only [List.mem_cons, List.not_mem_nil, or_false] at hnear
      rcases hnear with rfl | rfl
      · exact show 0 < width by omega
      · exact show 0 < width by omega
  · simp only [List.mem_cons, List.not_mem_nil, or_false] at habove
    rcases habove with rfl | rfl | rfl
    · exact hlt
    · exact show (if x + 1 < width then x + 1 else x) < width by split <;> omega
    · exact hlt

end LineState.FitsRow

theorem tableAccesses_inBounds (quantTables : QuantTableSet) (samples : NeighborSamples) :
    ∀ access ∈ tableAccesses quantTables samples, access.InBounds := by
  intro access hmem
  rcases List.mem_append.mp hmem with htable | hentry
  · obtain ⟨i, hi, rfl⟩ := List.mem_map.mp htable
    exact show i < quantTables.tables.toList.length by simpa using hi
  · obtain ⟨gradient, -, rfl⟩ := List.mem_map.mp hentry
    exact ContextModel.contextInputIndex_lt gradient

/-- The slice state that a row may start from. -/
structure LineReady (setup : GolombRiceLine) (state : SliceState) : Prop where
  plane : setup.planeIndex < state.planeCount
  line : (state.lineState setup.planeIndex).FitsRow setup.width setup.reconstructionBits
  runPlane : setup.runStatePlane < state.golombRiceRunStates.length
  runIndex : (state.golombRiceRunState setup.runStatePlane).runIndex ≤ 40
  bank : setup.contextBank < state.golombRiceContexts.length
  contexts : setup.contextModel.contextCount.toNat ≤
    (state.golombRiceContexts.getD setup.contextBank []).length

namespace LineReady

variable {setup : GolombRiceLine} {state : SliceState} {x : Nat}

theorem store (h : LineReady setup state) {sample : Int}
    (hsample : FitsDepth sample setup.reconstructionBits) (x : Nat) :
    LineReady setup (state.modifyLine setup.planeIndex (LineState.store · x sample)) := by
  refine ⟨?_, ?_, h.runPlane, h.runIndex, h.bank, h.contexts⟩
  · rw [SliceState.planeCount_modifyLine]
    exact h.plane
  · rw [SliceState.lineState_modifyLine h.plane]
    exact h.line.store hsample x

theorem setRunState (h : LineReady setup state) {runState : GolombRiceRunState}
    (hindex : runState.runIndex ≤ 40) :
    LineReady setup (state.setGolombRiceRunState setup.runStatePlane runState) := by
  refine ⟨h.plane, h.line, ?_, ?_, h.bank, h.contexts⟩
  · exact (List.length_set ..).symm ▸ h.runPlane
  · rw [SliceState.golombRiceRunState_set h.runPlane]
    exact hindex

theorem setContext (h : LineReady setup state) (context : Nat)
    (adaptive : GolombRiceContextState) :
    LineReady setup (state.setGolombRiceContext setup.contextBank context adaptive) := by
  refine ⟨h.plane, h.line, h.runPlane, h.runIndex, ?_, ?_⟩
  · exact (List.length_modify ..).symm ▸ h.bank
  · have hcontexts := h.contexts
    rw [List.getD_eq_getElem _ _ h.bank] at hcontexts
    simpa [SliceState.setGolombRiceContext, List.getD_eq_getElem?_getD, h.bank] using hcontexts

theorem predictionAccesses (h : LineReady setup state) (hlt : x < setup.width) :
    ∀ access ∈ predictionAccesses setup x state, access.InBounds :=
  List.forall_mem_cons.mpr ⟨h.plane, h.line.neighborAccesses hlt⟩

theorem contextAccesses (h : LineReady setup state) (hlt : x < setup.width) :
    ∀ access ∈ contextAccesses setup x state, access.InBounds :=
  List.forall_mem_append.mpr ⟨h.predictionAccesses hlt, tableAccesses_inBounds _ _⟩

theorem storeAccesses (h : LineReady setup state) (hlt : x < setup.width) :
    ∀ access ∈ storeAccesses setup x state, access.InBounds :=
  List.forall_mem_cons.mpr ⟨h.plane, List.forall_mem_singleton.mpr
    (show x < (state.lineState setup.planeIndex).current.length from h.line.sized.current ▸ hlt)⟩

theorem segmentAccesses (h : LineReady setup state) :
    ∀ access ∈ segmentAccesses setup state, access.InBounds := by
  refine List.forall_mem_cons.mpr ⟨h.runPlane, fun access hmem => ?_⟩
  split at hmem
  · rw [List.mem_singleton.mp hmem]
    exact Nat.lt_succ_of_le h.runIndex
  · cases hmem

theorem adaptiveAccesses (h : LineReady setup state) {context : Nat}
    (hcontext : context < setup.contextModel.contextCount.toNat) :
    ∀ access ∈ adaptiveAccesses setup context state, access.InBounds :=
  List.forall_mem_cons.mpr ⟨h.bank, List.forall_mem_singleton.mpr
    (Nat.lt_of_lt_of_le hcontext h.contexts)⟩

end LineReady

def StaysInBounds (traced : TracedLine) : Prop := ∀ access ∈ traced.accesses, access.InBounds

/-- What the decoding of a row has kept when it comes to `x`, with the run state and the
segments that it has there. -/
structure Underway (setup : GolombRiceLine) (runState : GolombRiceRunState)
    (segments : List (Nat × Nat)) (x : Nat) (traced : TracedLine) : Prop where
  ready : LineReady setup traced.decoding.state
  inBounds : StaysInBounds traced
  order : traced.assigned.map Prod.fst = List.range x
  values : (traced.decoding.state.lineState setup.planeIndex).current.take x =
    traced.assigned.map Prod.snd
  runs : traced.decoding.state.golombRiceRunState setup.runStatePlane = runState
  segments : traced.segments = segments

/-- Where a run is pending, its segment has come to the end of the row. -/
def RunCarried (setup : GolombRiceLine) (runState : GolombRiceRunState)
    (segments : List (Nat × Nat)) (x : Nat) : Prop :=
  runState.pendingCount ≠ 0 → x = setup.width ∧
    ∃ start count, segments.getLast? = some (start, count) ∧ start + count = setup.width

section Keeping

variable {payloadOffset : Nat} {setup : GolombRiceLine} {runState : GolombRiceRunState}
  {segments : List (Nat × Nat)} {x : Nat}

theorem StaysInBounds.append {traced : TracedLine} (h : StaysInBounds traced)
    {accesses : List Access} (hnew : ∀ access ∈ accesses, access.InBounds) :
    ∀ access ∈ traced.accesses ++ accesses, access.InBounds :=
  List.forall_mem_append.mpr ⟨h, hnew⟩

/-- The line is left alone. -/
theorem Underway.move {traced : TracedLine} (h : Underway setup runState segments x traced)
    {decoding : Decoding BitReader} {accesses : List Access}
    (hnew : ∀ access ∈ accesses, access.InBounds) (hready : LineReady setup decoding.state)
    (hline : decoding.state.lineState setup.planeIndex =
      traced.decoding.state.lineState setup.planeIndex)
    {after : GolombRiceRunState}
    (hruns : decoding.state.golombRiceRunState setup.runStatePlane = after) :
    Underway setup after segments x
      { traced with decoding, accesses := traced.accesses ++ accesses } :=
  ⟨hready, h.inBounds.append hnew, h.order, hline.symm ▸ h.values, hruns, h.segments⟩

/-- A call behind its subscripts, all of which lie in their arrays. -/
theorem accessing_triple {α : Type} {accesses : SliceState → List Access}
    {call : Call (Decoding BitReader) α} {P : TracedLine → Prop} {Q : α → TracedLine → Prop}
    (hbefore : ∀ traced, P traced → StaysInBounds traced)
    (haccess : ∀ traced, P traced → ∀ access ∈ accesses traced.decoding.state, access.InBounds)
    (hok : ∀ traced value decoding, P traced → call traced.decoding = .ok value decoding →
      Q value { traced with decoding, accesses := traced.accesses ++ accesses traced.decoding.state }) :
    Triple P (accessing accesses call) Q fun _ => StaysInBounds := by
  intro traced hP
  unfold accessing
  cases hcall : call traced.decoding with
  | ok value decoding => exact hok traced value decoding hP hcall
  | error status decoding => exact (hbefore traced hP).append (haccess traced hP)

theorem tracedContext_triple (htables : ContextModel.Accepted setup.contextModel)
    (hlt : x < setup.width) (line : LineState) :
    Triple (Underway setup runState segments x) (tracedContext setup x line)
      (fun context traced => context.context < setup.contextModel.contextCount.toNat ∧
        Underway setup runState segments x traced) fun _ => StaysInBounds := by
  refine accessing_triple (fun traced h => h.inBounds)
    (fun traced h => h.ready.contextAccesses hlt) fun traced context decoding h hcall => ?_
  obtain ⟨hcontext, rfl⟩ := Mirror.ofExcept_ok_iff.mp hcall
  rw [htables.deriveContext] at hcontext
  obtain rfl := Except.ok.inj hcontext
  exact ⟨htables.folded_lt _, h.move (h.ready.contextAccesses hlt) h.ready rfl h.runs⟩

theorem take_set_succ {l : List Int} {x : Nat} (h : x < l.length) (sample : Int) :
    (l.set x sample).take (x + 1) = l.take x ++ [sample] := by
  rw [List.take_succ_eq_append_getElem (by simpa using h), List.getElem_set_self,
    List.take_set_of_le (Nat.le_refl x)]

theorem tracedStore_triple (hlt : x < setup.width) {sample : Int}
    (hsample : FitsDepth sample setup.reconstructionBits) :
    Triple (Underway setup runState segments x) (tracedStore setup x sample)
      (fun _ => Underway setup runState segments (x + 1)) fun _ => StaysInBounds := by
  intro traced h
  refine ⟨h.ready.store hsample x, h.inBounds.append (h.ready.storeAccesses hlt), ?_, ?_, h.runs,
    h.segments⟩
  · rw [List.map_append, h.order, List.range_succ]
    rfl
  · have hlength : x < (traced.decoding.state.lineState setup.planeIndex).current.length :=
      h.ready.line.sized.current ▸ hlt
    have hline : (traced.decoding.state.modifyLine setup.planeIndex
        (LineState.store · x sample)).lineState setup.planeIndex = _ :=
      SliceState.lineState_modifyLine h.ready.plane
    rw [List.map_append, ← h.values]
    refine Eq.trans ?_ (take_set_succ hlength sample)
    exact congrArg (fun line : LineState => line.current.take (x + 1)) hline

theorem tracedPendingRun_triple (htables : ContextModel.Accepted setup.contextModel) {count : Nat}
    (hle : x + count ≤ setup.width) :
    Triple (Underway setup runState segments x) (tracedPendingRun setup x count)
      (fun _ => Underway setup runState segments (x + count)) fun _ => StaysInBounds := by
  induction count generalizing x with
  | zero => exact Triple.returns fun _ h => h
  | succ count ih =>
    refine Triple.look fun traced h => ?_
    have hcontext : Triple (Underway setup runState segments x) _ _ _ :=
      tracedContext_triple htables (by omega) (traced.decoding.state.lineState setup.planeIndex)
    refine (hcontext.start h).bind fun context => Triple.given fun _ => ?_
    refine (tracedStore_triple (by omega) (h.ready.line.prediction x)).bind fun _ => ?_
    rw [Nat.add_comm count, ← Nat.add_assoc]
    exact ih (by omega)

theorem tracedRun_triple {count : Nat} (hle : x + count ≤ setup.width) :
    Triple (Underway setup runState segments x) (tracedRun setup x count)
      (fun _ => Underway setup runState segments (x + count)) fun _ => StaysInBounds := by
  induction count generalizing x with
  | zero => exact Triple.returns fun _ h => h
  | succ count ih =>
    refine Triple.look fun traced h => ?_
    have hprediction : Triple (Underway setup runState segments x)
        (accessing (predictionAccesses setup x) (return ()))
        (fun _ => Underway setup runState segments x) fun _ => StaysInBounds := by
      refine accessing_triple (fun traced h => h.inBounds)
        (fun traced h => h.ready.predictionAccesses (by omega)) fun traced _ decoding h hcall => ?_
      obtain ⟨-, rfl⟩ := EStateM.Result.ok.inj hcall
      exact h.move (h.ready.predictionAccesses (by omega)) h.ready rfl h.runs
    refine (hprediction.start h).bind fun _ => ?_
    refine (tracedStore_triple (by omega) (h.ready.line.prediction x)).bind fun _ => ?_
    rw [Nat.add_comm count, ← Nat.add_assoc]
    exact ih (by omega)

theorem tracedSegment_triple (hlt : x < setup.width)
    {read : Call (Decoding BitReader) GolombRiceRunSegment}
    (hsame : ∀ decoding segment decoding', read decoding = .ok segment decoding' →
      readSegment payloadOffset setup x decoding = .ok segment decoding') :
    Triple (Underway setup runState segments x) (tracedSegment setup x read)
      (fun segment traced => ∃ after, SegmentFits runState x setup.width segment after ∧
        Underway setup after (segments ++ [(x, segment.count)]) x traced)
      fun _ => StaysInBounds := by
  have hread : Triple (Underway setup runState segments x)
      (accessing (segmentAccesses setup) read)
      (fun segment traced => ∃ after, SegmentFits runState x setup.width segment after ∧
        Underway setup after segments x traced) fun _ => StaysInBounds := by
    refine accessing_triple (fun traced h => h.inBounds) (fun traced h => h.ready.segmentAccesses)
      fun traced segment decoding h hcall => ?_
    obtain ⟨reader, after, hfits, rfl⟩ := readSegment_ok hlt (hsame _ _ _ hcall)
    rw [h.runs] at hfits
    refine ⟨after, hfits, h.move h.ready.segmentAccesses ?_ ?_ ?_⟩
    · exact h.ready.setRunState hfits.index
    · rfl
    · exact SliceState.golombRiceRunState_set h.ready.runPlane after
  refine hread.bind fun segment => Triple.any fun after => Triple.given fun hfits => ?_
  refine Triple.bind (Triple.update (S := fun _ =>
    Underway setup after (segments ++ [(x, segment.count)]) x) fun traced h => ?_) fun _ => ?_
  · exact ⟨h.ready, h.inBounds, h.order, h.values, h.runs,
      congrArg (· ++ [(x, segment.count)]) h.segments⟩
  · exact Triple.returns fun _ h => ⟨after, hfits, h⟩

/-- The samples from `x` up to where a run has come to, and what is then known of it. -/
def RunEnds (setup : GolombRiceLine) (x : Nat) (out : Nat × Bool) (traced : TracedLine) : Prop :=
  ∃ after segments, (RunCarried setup after segments out.1 ∧ x ≤ out.1 ∧ out.1 ≤ setup.width ∧
    (out.2 = false → out.1 = setup.width)) ∧ Underway setup after segments out.1 traced

theorem tracedRunSegments_triple {neighbors : NeighborSamples} {context : ContextDecision}
    (hlt : x < setup.width) {fuel : Nat} (hfuel : setup.width - x ≤ fuel) :
    Triple (Underway setup runState segments x)
      (tracedRunSegments payloadOffset setup neighbors context fuel x)
      (RunEnds setup x) fun _ => StaysInBounds := by
  induction fuel generalizing x runState segments with
  | zero => omega
  | succ fuel ih =>
    refine (tracedSegment_triple hlt fun _ _ _ => Mirror.telling_ok_iff.mp).bind fun segment =>
      Triple.any fun after => Triple.given fun hfits => ?_
    have hcount := hfits.count
    rw [Nat.min_eq_left hcount]
    refine (tracedRun_triple (by omega)).bind fun _ => ?_
    by_cases hend : segment.interrupted ∨ setup.width ≤ x + segment.count
    · rw [if_pos hend]
      refine Triple.returns fun traced h => ⟨after, _, ⟨?_, ?_, ?_, ?_⟩, h⟩
      · intro hpending
        have hwidth := hfits.pending hpending
        exact ⟨hwidth, x, segment.count, List.getLast?_concat, hwidth⟩
      · exact Nat.le_add_right x segment.count
      · exact show x + segment.count ≤ setup.width by omega
      · intro hnot
        have hwidth := hend.resolve_left (by simp [show segment.interrupted = false from hnot])
        exact show x + segment.count = setup.width by omega
    · rw [if_neg hend]
      have hpos : 0 < segment.count := hfits.progress (.inr (by
        simpa using fun h => hend (Or.inl h)))
      refine (ih (by omega) (by omega)).post fun out traced hout => ?_
      obtain ⟨after, segments, ⟨hcarried, hle, hwidth, hnot⟩, h⟩ := hout
      exact ⟨after, segments, ⟨hcarried, by omega, hwidth, hnot⟩, h⟩

theorem tracedDifference_triple (htables : ContextModel.Accepted setup.contextModel)
    (hbits : 1 ≤ setup.reconstructionBits ∧ setup.reconstructionBits ≤ 30) (hlt : x < setup.width)
    (what : String)
    (read : GolombRiceContextState → Nat → Call BitReader (Int × GolombRiceContextState)) :
    Triple (Underway setup runState segments x) (tracedDifference payloadOffset setup what x read)
      (fun _ => Underway setup runState segments (x + 1)) fun _ => StaysInBounds := by
  refine Triple.look fun traced h => ?_
  have hcontext : Triple (Underway setup runState segments x) _ _ _ :=
    tracedContext_triple htables hlt (traced.decoding.state.lineState setup.planeIndex)
  refine (hcontext.start h).bind fun context => Triple.given fun hlow => ?_
  have hread : Triple (Underway setup runState segments x)
      (accessing (adaptiveAccesses setup context.context)
        (Mirror.telling (tellDifference setup what context x)
          (readDifference payloadOffset setup context read)))
      (fun _ => Underway setup runState segments x) fun _ => StaysInBounds := by
    refine accessing_triple (fun traced h => h.inBounds)
      (fun traced h => h.ready.adaptiveAccesses hlow) fun traced difference decoding h hcall => ?_
    rw [Mirror.telling_ok_iff, readDifference, Mirror.get_bind] at hcall
    obtain ⟨out, middle, hbitsRead, hrest⟩ := Mirror.bind_ok_iff.mp hcall
    obtain ⟨reader, -, rfl⟩ := onBits_ok hbitsRead
    obtain ⟨-, rfl⟩ := EStateM.Result.ok.inj hrest
    refine h.move (h.ready.adaptiveAccesses hlow) ?_ ?_ ?_
    · exact h.ready.setContext context.context out.2
    · rfl
    · exact h.runs
  refine hread.bind fun difference => tracedStore_triple hlt ?_
  rw [reconstruct_eq_emod (by omega)]
  exact ⟨Int.emod_nonneg _ (by positivity), Int.emod_lt_of_pos _ (by positivity)⟩

/-- Where a round goes on, or the row has ended. -/
def RoundEnds (setup : GolombRiceLine) (x next : Nat) (traced : TracedLine) : Prop :=
  ∃ after segments, (RunCarried setup after segments next ∧ x < next ∧ next ≤ setup.width) ∧
    Underway setup after segments next traced

theorem tracedStep_triple (htables : ContextModel.Accepted setup.contextModel)
    (hbits : 1 ≤ setup.reconstructionBits ∧ setup.reconstructionBits ≤ 30)
    (hlt : x < setup.width) :
    Triple (Underway setup runState segments x) (tracedStep payloadOffset setup x)
      (RoundEnds setup x) fun _ => StaysInBounds := by
  refine Triple.look fun traced h => ?_
  rw [h.runs]
  by_cases hpending : runState.pendingCount ≠ 0
  · rw [if_pos hpending]
    refine ((tracedSegment_triple hlt fun _ _ _ => id).start h).bind fun segment => Triple.any fun after =>
      Triple.given fun hfits => ?_
    have hcount := hfits.count
    have hpos := hfits.progress (.inl hpending)
    rw [Nat.min_eq_left hcount]
    refine (tracedPendingRun_triple htables (by omega)).bind fun _ => ?_
    refine Triple.returns fun traced h => ⟨after, _, ⟨fun hleft => ?_, by omega, by omega⟩, h⟩
    have hwidth := hfits.pending hleft
    exact ⟨hwidth, x, segment.count, List.getLast?_concat, hwidth⟩
  · rw [if_neg hpending]
    have hcontext : Triple (Underway setup runState segments x) _ _ _ :=
      tracedContext_triple htables hlt (traced.decoding.state.lineState setup.planeIndex)
    refine (hcontext.start h).bind fun context => Triple.given fun _ => ?_
    by_cases hzero : context.context = 0
    · rw [if_pos hzero]
      refine (tracedRunSegments_triple hlt (Nat.le_refl _)).bind fun out =>
        Triple.any fun after => Triple.any fun segments => Triple.given fun hends => ?_
      obtain ⟨hcarried, hle, hwidth, hnot⟩ := hends
      by_cases hend : out.2 = false ∨ out.1 = setup.width
      · rw [if_pos hend]
        have hlast : out.1 = setup.width := hend.elim hnot id
        exact Triple.returns fun traced h => ⟨after, segments, ⟨hcarried, by omega, hwidth⟩, h⟩
      · rw [if_neg hend]
        -- a run that ends inside the row has nothing pending
        have hsettled : after.pendingCount = 0 := by
          by_contra hleft
          exact hend (.inr (hcarried hleft).1)
        refine (tracedDifference_triple htables hbits (by omega) _ _).bind fun _ => ?_
        exact Triple.returns fun traced h =>
          ⟨after, segments, ⟨fun hleft => absurd hsettled hleft, by omega, by omega⟩, h⟩
    · rw [if_neg hzero]
      refine (tracedDifference_triple htables hbits hlt _ _).bind fun _ => ?_
      exact Triple.returns fun traced h =>
        ⟨runState, segments, ⟨fun hleft => absurd hleft hpending, by omega, by omega⟩, h⟩

theorem tracedRounds_triple (htables : ContextModel.Accepted setup.contextModel)
    (hbits : 1 ≤ setup.reconstructionBits ∧ setup.reconstructionBits ≤ 30) {fuel : Nat}
    (hfuel : setup.width - x ≤ fuel) (hle : x ≤ setup.width)
    (hcarried : x = setup.width → RunCarried setup runState segments x) :
    Triple (Underway setup runState segments x) (tracedRounds payloadOffset setup fuel x)
      (fun _ traced => ∃ after segments, RunCarried setup after segments setup.width ∧
        Underway setup after segments setup.width traced) fun _ => StaysInBounds := by
  have hdone (hwidth : x = setup.width) {traced : TracedLine}
      (h : Underway setup runState segments x traced) :
      ∃ after segments, RunCarried setup after segments setup.width ∧
        Underway setup after segments setup.width traced := by
    subst hwidth
    exact ⟨runState, segments, hcarried rfl, h⟩
  induction fuel generalizing x runState segments with
  | zero => exact Triple.returns fun traced h => hdone (by omega) h
  | succ fuel ih =>
    rw [tracedRounds]
    by_cases hend : setup.width ≤ x
    · rw [if_pos hend]
      exact Triple.returns fun traced h => hdone (by omega) h
    · rw [if_neg hend]
      refine (tracedStep_triple htables hbits (by omega)).bind fun next => Triple.any fun after =>
        Triple.any fun segments => Triple.given fun hnext => ?_
      exact ih (by omega) hnext.2.2 (fun _ => hnext.1)
        fun hwidth traced h => ⟨after, segments, hwidth ▸ hnext.1, hwidth ▸ h⟩

end Keeping

section Safety

variable {setup : GolombRiceLine} {decoding : Decoding BitReader}

/-- What a row has done that was decoded: every position of the line assigned once, from
left to right, with a sample of the depth, and nothing pending but at its end. -/
structure RowDecoded (setup : GolombRiceLine) (traced : TracedLine) : Prop where
  order : traced.assigned.map Prod.fst = List.range setup.width
  samples : ∀ assignment ∈ traced.assigned, FitsDepth assignment.2 setup.reconstructionBits
  line : (traced.decoding.state.lineState setup.planeIndex).current =
    traced.assigned.map Prod.snd
  runIndex : (traced.decoding.state.golombRiceRunState setup.runStatePlane).runIndex ≤ 40
  pending : (traced.decoding.state.golombRiceRunState setup.runStatePlane).pendingCount ≠ 0 →
    ∃ start count, traced.segments.getLast? = some (start, count) ∧ start + count = setup.width
  ready : LineReady setup traced.decoding.state
  inBounds : StaysInBounds traced

theorem Underway.rowDecoded {runState : GolombRiceRunState} {segments : List (Nat × Nat)}
    {traced : TracedLine} (h : Underway setup runState segments setup.width traced)
    (hcarried : RunCarried setup runState segments setup.width) : RowDecoded setup traced := by
  have hline : (traced.decoding.state.lineState setup.planeIndex).current =
      traced.assigned.map Prod.snd := by
    rw [← h.values, List.take_of_length_le (by rw [h.ready.line.sized.current])]
  refine ⟨h.order, fun assignment hmem => ?_, hline, h.ready.runIndex, fun hpending => ?_, h.ready,
    h.inBounds⟩
  · exact h.ready.line.current _ (hline ▸ List.mem_map_of_mem hmem)
  · rw [h.runs] at hpending
    rw [h.segments]
    exact (hcarried hpending).2

/-- On any bits a row ends, for fuel beyond its width changes nothing; where it is decoded
every position has been assigned; and no subscript has left its array, also where it fails. -/
theorem golombRiceLine_safe (payloadOffset : Nat)
    (htables : ContextModel.Accepted setup.contextModel) (hwidth : 1 ≤ setup.width)
    (hbits : 1 ≤ setup.reconstructionBits ∧ setup.reconstructionBits ≤ 30)
    (hready : LineReady setup decoding.state) :
    (∀ fuel, setup.width ≤ fuel → decodeGolombRiceRounds payloadOffset setup fuel 0 =
      decodeGolombRiceLine payloadOffset setup) ∧
    (∀ neighbors context, ∀ x < setup.width, ∀ fuel, setup.width - x ≤ fuel →
      decodeRunSegments payloadOffset setup neighbors context fuel x =
        decodeRunSegments payloadOffset setup neighbors context (setup.width - x) x) ∧
    decodeGolombRiceLine payloadOffset setup decoding =
      Mirror.mapState TracedLine.decoding (tracedLine payloadOffset setup { decoding }) ∧
    Hoare.Ends (fun _ => RowDecoded setup) (fun _ => StaysInBounds)
      (tracedLine payloadOffset setup { decoding }) := by
  refine ⟨fun fuel hfuel => decodeRounds_fuel hfuel (Nat.le_refl _),
    fun _ _ x hlt fuel hfuel => decodeRunSegments_fuel hlt hfuel (Nat.le_refl _),
    tracedLine_projects payloadOffset setup { decoding }, ?_⟩
  have hstart : Underway setup (decoding.state.golombRiceRunState setup.runStatePlane) [] 0
      { decoding } :=
    ⟨hready, fun _ hmem => absurd hmem List.not_mem_nil, rfl, rfl, rfl, rfl⟩
  have hrounds : Triple (Underway setup
      (decoding.state.golombRiceRunState setup.runStatePlane) [] 0)
      (tracedRounds payloadOffset setup setup.width 0) _ _ :=
    tracedRounds_triple htables hbits (Nat.sub_le setup.width 0) (Nat.zero_le _)
      fun hzero => by omega
  refine (hrounds.post fun _ traced hdone => ?_) { decoding } hstart
  obtain ⟨after, segments, hcarried, h⟩ := hdone
  exact h.rowDecoded hcarried

end Safety

/-- A row of four samples at the end of a run of six. -/
def pendingLine (quantTables : QuantTableSet) : GolombRiceLine where
  contextModel := quantTables
  planeIndex := 0
  runStatePlane := 0
  y := 1
  contextBank := 0
  width := 4
  reconstructionBits := 8

def pendingDecoding (quantTables : QuantTableSet) : Decoding BitReader where
  reader := { data := [166, 91, 7] }
  state :=
    { lineStates := [LineState.bordered 4 0]
      golombRiceContexts := [List.replicate quantTables.contextCount.toNat {}]
      golombRiceRunStates := [{ runIndex := 7, pendingCount := 2 }] }

theorem pendingDecoding_ready (quantTables : QuantTableSet) :
    LineReady (pendingLine quantTables) (pendingDecoding quantTables).state := by
  have hsamples : ∀ value ∈ List.replicate 4 (0 : Int), FitsDepth value 8 := by
    intro value hmem
    rw [List.eq_of_mem_replicate hmem]
    constructor <;> decide
  refine ⟨Nat.one_pos, ⟨LineState.bordered_sized 4 0, rfl, hsamples, hsamples, hsamples⟩,
    Nat.one_pos, ?_, Nat.one_pos, ?_⟩
  · exact show 7 ≤ 40 by decide
  · exact (List.length_replicate ..).symm ▸ Nat.le_refl _

theorem golombRiceLine_safe_pending :
    ∃ quantTables reader', ConfigurationParser.parseQuantTableSet ContextModel.threeRunReader =
        .ok quantTables reader' ∧
      (∀ fuel, 4 ≤ fuel → decodeGolombRiceRounds 0 (pendingLine quantTables) fuel 0 =
        decodeGolombRiceLine 0 (pendingLine quantTables)) ∧
      (∀ neighbors context, ∀ x < 4, ∀ fuel, 4 - x ≤ fuel →
        decodeRunSegments 0 (pendingLine quantTables) neighbors context fuel x =
          decodeRunSegments 0 (pendingLine quantTables) neighbors context (4 - x) x) ∧
      decodeGolombRiceLine 0 (pendingLine quantTables) (pendingDecoding quantTables) =
        Mirror.mapState TracedLine.decoding
          (tracedLine 0 (pendingLine quantTables) { decoding := pendingDecoding quantTables }) ∧
      Hoare.Ends (fun _ => RowDecoded (pendingLine quantTables)) (fun _ => StaysInBounds)
        (tracedLine 0 (pendingLine quantTables) { decoding := pendingDecoding quantTables }) := by
  obtain ⟨quantTables, reader', hparse⟩ := Mirror.exists_ok_of_succeeded
    (show Mirror.succeeded (ConfigurationParser.parseQuantTableSet ContextModel.threeRunReader) =
      true by decide +kernel)
  exact ⟨quantTables, reader', hparse, @golombRiceLine_safe (pendingLine quantTables)
    (pendingDecoding quantTables) 0 ⟨ContextModel.threeRunReader, reader', hparse⟩
    (show 1 ≤ 4 by decide) (show 1 ≤ 8 ∧ 8 ≤ 30 by decide) (pendingDecoding_ready quantTables)⟩

end Mffv1
