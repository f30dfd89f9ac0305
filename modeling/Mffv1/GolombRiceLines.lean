import Mffv1.GolombRiceRoundTrip
import Mffv1.GolombRiceSamples
import Mffv1.SampleRoundTrip

/-!
# Golomb-Rice lines are read back

The encoder looks for the whole of a run before it writes it; the decoder stores it
segment by segment. Both are at one slice state again where the run ends.
-/
namespace Mffv1

namespace LineState

theorem storeRun_add (line : LineState) (x m n : Nat) :
    line.storeRun x (m + n) = (line.storeRun x m).storeRun (x + m) n := by
  induction m generalizing line x with
  | zero => rw [Nat.zero_add]; rfl
  | succ m ih =>
    rw [Nat.succ_add, storeRun, storeRun, ih, Nat.add_right_comm x 1 m, Nat.add_assoc x m 1]

/-- The samples that match are stored as predicted. -/
theorem matchRun_eq (samples : List Int) (line : LineState) (x count : Nat) :
    ∃ n ≤ count, line.matchRun samples x count = (line.storeRun x n, x + n) := by
  induction count generalizing line x with
  | zero => exact ⟨0, Nat.le_refl 0, rfl⟩
  | succ count ih =>
    rw [matchRun]
    by_cases hmatch : samples.getD x 0 = linePrediction line x
    · obtain ⟨n, hn, heq⟩ := ih (line.store x (samples.getD x 0)) (x + 1)
      refine ⟨n + 1, Nat.succ_le_succ hn, ?_⟩
      rw [if_pos hmatch, heq, storeRun, hmatch, Nat.add_right_comm x 1 n, Nat.add_assoc x n 1]
    · exact ⟨0, Nat.zero_le _, if_neg hmatch⟩

/-- The line begins with the samples up to where the run ends. -/
theorem matchRun_begins {samples : List Int} {line : LineState} {x count width : Nat}
    (hsized : line.Sized width) (hle : x + count ≤ width)
    (h : ∀ i < x, line.current.getD i 0 = samples.getD i 0) :
    ∀ i < (line.matchRun samples x count).2,
      (line.matchRun samples x count).1.current.getD i 0 = samples.getD i 0 := by
  induction count generalizing line x with
  | zero => exact h
  | succ count ih =>
    rw [matchRun]
    by_cases hmatch : samples.getD x 0 = linePrediction line x
    · rw [if_pos hmatch]
      refine ih (hsized.store x _) (by omega) fun i hi => ?_
      have hlength : x < line.current.length := by
        rw [hsized.current]
        omega
      rw [store_current, List.getD_eq_getElem?_getD, List.getElem?_set]
      by_cases heq : x = i
      · subst heq
        simp [hlength]
      · rw [if_neg heq, ← List.getD_eq_getElem?_getD]
        exact h i (by omega)
    · rw [if_neg hmatch]
      exact h

end LineState

namespace SliceState

/-- No run is left over from a row before. -/
structure RunsSettled (planes : Nat) (state : SliceState) : Prop where
  length : state.golombRiceRunStates.length = planes
  pending : ∀ planeIndex, (state.golombRiceRunState planeIndex).pendingCount = 0

theorem golombRiceRunState_set {state : SliceState} {planeIndex : Nat}
    (h : planeIndex < state.golombRiceRunStates.length) (runState : GolombRiceRunState) :
    (state.setGolombRiceRunState planeIndex runState).golombRiceRunState planeIndex = runState := by
  simp [golombRiceRunState, setGolombRiceRunState, List.getD_eq_getElem?_getD, h]

theorem RunsSettled.modifyLine {planes : Nat} {state : SliceState} (h : state.RunsSettled planes)
    (planeIndex : Nat) (f : LineState → LineState) : (state.modifyLine planeIndex f).RunsSettled planes :=
  ⟨h.length, h.pending⟩

theorem RunsSettled.setContext {planes : Nat} {state : SliceState} (h : state.RunsSettled planes)
    (bank context : Nat) (adaptive : GolombRiceContextState) :
    (state.setGolombRiceContext bank context adaptive).RunsSettled planes :=
  ⟨h.length, h.pending⟩

theorem RunsSettled.set {planes planeIndex : Nat} {state : SliceState} (h : state.RunsSettled planes)
    {runState : GolombRiceRunState} (hpending : runState.pendingCount = 0) :
    (state.setGolombRiceRunState planeIndex runState).RunsSettled planes := by
  constructor
  · exact (List.length_set ..).trans h.length
  · intro other
    have hother := h.pending other
    simp only [golombRiceRunState, setGolombRiceRunState, List.getD_eq_getElem?_getD,
      List.getElem?_set] at hother ⊢
    split
    · split
      · exact hpending
      · rfl
    · exact hother

/-- A settled run state is its index. -/
theorem RunsSettled.runState_eq {planes : Nat} {state : SliceState} (h : state.RunsSettled planes)
    (planeIndex : Nat) : state.golombRiceRunState planeIndex =
      { runIndex := (state.golombRiceRunState planeIndex).runIndex } := by
  have hpending := h.pending planeIndex
  cases hstate : state.golombRiceRunState planeIndex with
  | mk runIndex pendingCount =>
    rw [hstate] at hpending
    rw [show pendingCount = 0 from hpending]

theorem setGolombRiceRunState_self {state : SliceState} {planeIndex : Nat}
    (h : planeIndex < state.golombRiceRunStates.length) :
    state.setGolombRiceRunState planeIndex (state.golombRiceRunState planeIndex) = state := by
  simp [golombRiceRunState, setGolombRiceRunState, List.getD_eq_getElem?_getD, h]

theorem setGolombRiceRunState_set (state : SliceState) (planeIndex : Nat)
    (runState runState' : GolombRiceRunState) :
    (state.setGolombRiceRunState planeIndex runState).setGolombRiceRunState planeIndex runState' =
      state.setGolombRiceRunState planeIndex runState' := by
  simp [setGolombRiceRunState]

theorem modifyLine_modifyLine (state : SliceState) (planeIndex : Nat) (f g : LineState → LineState) :
    (state.modifyLine planeIndex f).modifyLine planeIndex g =
      state.modifyLine planeIndex (g ∘ f) := by
  simp [modifyLine, List.modify_modify_eq]

end SliceState

/-- The decoder is at a slice state, where the writer alone has moved. -/
structure DecodingAt {W R : Type} (P : W → R → Prop) (state : SliceState) (stores : List RowStore)
    (w : W) (d : Decoding R) : Prop where
  symbols : P w d.reader
  state : d.state = state
  stored : d.stores = stores

section Runs

variable {payload : Bytes} {stores : List RowStore} {setup : GolombRiceLine} {state : SliceState}

/-- The state where `n` samples of a run from `x` on are stored. -/
def midRun (setup : GolombRiceLine) (state : SliceState) (x n runIndex : Nat) : SliceState :=
  (state.modifyLine setup.planeIndex (LineState.storeRun · x n)).setGolombRiceRunState
    setup.runStatePlane { runIndex }

theorem midRun_runState (h : setup.runStatePlane < state.golombRiceRunStates.length)
    (x n runIndex : Nat) :
    (midRun setup state x n runIndex).golombRiceRunState setup.runStatePlane = { runIndex } :=
  SliceState.golombRiceRunState_set h _

theorem midRun_set (state : SliceState) (x n runIndex runIndex' : Nat) :
    (midRun setup state x n runIndex).setGolombRiceRunState setup.runStatePlane
      { runIndex := runIndex' } = midRun setup state x n runIndex' :=
  SliceState.setGolombRiceRunState_set ..

theorem midRun_store (state : SliceState) (x n count runIndex : Nat) :
    (midRun setup state x n runIndex).modifyLine setup.planeIndex
      (LineState.storeRun · (x + n) count) = midRun setup state x (n + count) runIndex := by
  have hline := SliceState.modifyLine_modifyLine state setup.planeIndex
    (LineState.storeRun · x n) (LineState.storeRun · (x + n) count)
  have hadd : (LineState.storeRun · (x + n) count) ∘ (LineState.storeRun · x n) =
      (LineState.storeRun · x (n + count)) :=
    funext fun line => (LineState.storeRun_add line x n count).symm
  rw [hadd] at hline
  exact congrArg (SliceState.setGolombRiceRunState · setup.runStatePlane { runIndex }) hline

theorem onBits_mirrors {α β : Type} {w : Call BitWriter α} {r : Call BitReader β} {k : α → β}
    (h : BitReads payload w r k) (payloadOffset : Nat) :
    Mirror.Mirrors (bitChannel payload) False (DecodingAt (Follows payload) state stores) w
      (onBits payloadOffset r)
      (fun a read writer d => read = k a ∧ DecodingAt (Follows payload) state stores writer d) := by
  intro e a e' hi hw
  obtain ⟨hi', hfits⟩ := h e a e' hi hw
  refine ⟨hi', fun hfit => ⟨(hfits hfit).1, fun d hd => ?_⟩⟩
  have hread := (hfits hfit).2 d.reader hd.symbols
  unfold onBits onReader withReaderOffset
  cases hx : r d.reader with
  | ok read reader =>
    rw [hx] at hread
    exact ⟨hread.1, hread.2, hd.state, hd.stored⟩
  | error status reader =>
    rw [hx] at hread
    exact hread

/-- The decoder is inside a run. -/
def MidRun (payload : Bytes) (setup : GolombRiceLine) (state : SliceState) (stores : List RowStore)
    (x n runIndex : Nat) (writer : BitWriter) (d : Decoding BitReader) : Prop :=
  setup.runStatePlane < state.golombRiceRunStates.length ∧
    DecodingAt (Follows payload) (midRun setup state x n runIndex) stores writer d

theorem readSegment_mirrors {w : Call BitWriter Unit} {segment : GolombRiceRunSegment}
    {x n position runIndex runIndex' : Nat}
    (h : BitReads payload w (GolombRiceRunState.readRunSegment { runIndex } position setup.width)
      (fun _ => (segment, { runIndex := runIndex' }))) (payloadOffset : Nat) :
    Mirror.Mirrors (bitChannel payload) False (MidRun payload setup state stores x n runIndex) w
      (readSegment payloadOffset setup position)
      (fun _ read writer d => read = segment ∧
        MidRun payload setup state stores x n runIndex' writer d) := by
  refine Mirror.Mirrors.of_reader (s := do
    let read ← onBits payloadOffset
      (GolombRiceRunState.readRunSegment { runIndex } position setup.width)
    modify (Decoding.modifyState (SliceState.setGolombRiceRunState · setup.runStatePlane read.2))
    return read.1) (fun _ d hd => ?_) ?_
  · unfold readSegment
    rw [Mirror.get_bind, hd.2.state, midRun_runState hd.1]
  · rw [← bind_pure w]
    refine Mirror.Mirrors.bind_eq (fun _ => (segment, { runIndex := runIndex' }))
      (Q := fun _ => MidRun payload setup state stores x n runIndex) ?_ fun _ => ?_
    · exact ((onBits_mirrors h payloadOffset).frame _).consequence id (fun _ _ hd => hd)
        fun _ _ _ _ hq => ⟨hq.2.1, hq.1, hq.2.2⟩
    · refine Mirror.Mirrors.update_reader (S := MidRun payload setup state stores x n runIndex')
        (fun _ d hd => ⟨hd.1, hd.2.symbols, ?_, hd.2.stored⟩)
        (Mirror.Mirrors.pure fun _ d hd => ⟨rfl, hd⟩)
      simp only [Decoding.modifyState, hd.2.state, midRun_set]

/-- What the decoder stores of a segment. -/
theorem storeSegment_mirrors {x n count runIndex : Nat} {α β : Type} {w : Call BitWriter α}
    {r : Call (Decoding BitReader) β} {Q : α → β → BitWriter → Decoding BitReader → Prop}
    (h : Mirror.Mirrors (bitChannel payload) False
      (MidRun payload setup state stores x (n + count) runIndex) w r Q) :
    Mirror.Mirrors (bitChannel payload) False (MidRun payload setup state stores x n runIndex) w
      ((modify (Decoding.modifyState (SliceState.modifyLine · setup.planeIndex
        (LineState.storeRun · (x + n) count))) : Call (Decoding BitReader) Unit) >>= fun _ => r)
      Q := by
  refine Mirror.Mirrors.update_reader (fun _ d hd => ⟨hd.1, hd.2.symbols, ?_, hd.2.stored⟩) h
  simp only [Decoding.modifyState, hd.2.state, midRun_store]

/-- The segments that are written are read, up to the end of the run. -/
theorem runLoop_mirrors (payloadOffset : Nat) {neighbors : NeighborSamples}
    {context : ContextDecision} {x n fuel fuel' runIndex remaining : Nat}
    (hindex : runIndex < GolombRiceRunState.log2Run.length) (hlt : x + n < setup.width)
    (hle : x + n + remaining ≤ setup.width) (hfuel : setup.width - (x + n) ≤ fuel') :
    Mirror.Mirrors (bitChannel payload) False (MidRun payload setup state stores x n runIndex)
      (GolombRiceRunState.writeRunLoop setup.width fuel runIndex (x + n) remaining)
      (decodeRunSegments payloadOffset setup neighbors context fuel' (x + n))
      (fun runIndex' out writer d => (out.1 = x + n + remaining ∧
          (out.2 = false → x + n + remaining = setup.width)) ∧
        MidRun payload setup state stores x (n + remaining) runIndex' writer d) := by
  induction fuel generalizing runIndex n remaining fuel' with
  | zero => exact Mirror.Mirrors.of_error fun _ _ _ h => by cases h
  | succ fuel ih =>
    obtain ⟨fuel', rfl⟩ := Nat.exists_eq_succ_of_ne_zero (show fuel' ≠ 0 by omega)
    unfold GolombRiceRunState.writeRunLoop decodeRunSegments
    by_cases hfull : 2 ^ GolombRiceRunState.log2Run.getD runIndex 0 ≤ remaining
    · simp only [if_pos hfull]
      refine mirrors_checks fun hnext => ?_
      refine Mirror.Mirrors.bind_eq (fun _ => _) (Mirror.Mirrors.telling (readSegment_mirrors
        (segment_full_reads (by omega) (by omega) (by omega)) payloadOffset) _) fun _ => ?_
      set full := 2 ^ GolombRiceRunState.log2Run.getD runIndex 0
      have hcount : min full (setup.width - (x + n)) = full := by omega
      simp only [hcount]
      refine storeSegment_mirrors ?_
      by_cases hend : x + n + full = setup.width
      · rw [if_pos hend, if_pos (Or.inr hend.ge)]
        refine Mirror.Mirrors.pure fun _ d hd => ?_
        have hremaining : remaining = full := by omega
        rw [hremaining]
        exact ⟨⟨rfl, fun _ => hend⟩, hd⟩
      · rw [if_neg hend, if_neg (by simp only [Bool.false_eq_true, false_or]; omega)]
        have hpos : 0 < full := by positivity
        have hrest : Mirror.Mirrors (bitChannel payload) False
            (MidRun payload setup state stores x (n + full) (runIndex + 1))
            (GolombRiceRunState.writeRunLoop setup.width fuel (runIndex + 1) (x + (n + full))
              (remaining - full))
            (decodeRunSegments payloadOffset setup neighbors context fuel' (x + (n + full))) _ :=
          ih (by omega) (by omega) (by omega) (by omega)
        rw [← Nat.add_assoc, show x + n + full + (remaining - full) = x + n + remaining by omega,
          show n + full + (remaining - full) = n + remaining by omega] at hrest
        exact hrest
    · simp only [if_neg hfull]
      rw [← bind_assoc]
      refine Mirror.Mirrors.bind_eq (fun _ => _) (Mirror.Mirrors.telling (readSegment_mirrors
        (segment_last_reads hindex (by omega) (by omega) (by omega)) payloadOffset) _) fun _ => ?_
      have hcount : min remaining (setup.width - (x + n)) = remaining := by omega
      simp only [hcount, true_or, if_true]
      exact storeSegment_mirrors (Mirror.Mirrors.pure fun _ d hd => ⟨⟨rfl, fun h => by cases h⟩, hd⟩)

end Runs

/-- A row of samples that both sides code as `setup` says; `K` is what is kept where only
the line of its plane changes. -/
structure CodableLine (setup : GolombRiceLine) (samples : List Int) (planes : Nat)
    (width : Nat → Nat) (K : SliceState → Prop) : Prop where
  plane_lt : setup.planeIndex < planes
  runStatePlane_lt : setup.runStatePlane < planes
  width_eq : setup.width = width setup.planeIndex
  bits : 1 ≤ setup.reconstructionBits ∧ setup.reconstructionBits ≤ 30
  fits : ∀ x < setup.width, FitsDepth (samples.getD x 0) setup.reconstructionBits
  kept : ∀ state state' : SliceState, (∀ other ≠ setup.planeIndex,
    state'.lineState other = state.lineState other) → K state → K state'

/-- The first `x` samples of the row are coded. -/
structure LineProgress (setup : GolombRiceLine) (samples : List Int) (planes : Nat)
    (width : Nat → Nat) (K : SliceState → Prop) (x : Nat) (state : SliceState) : Prop where
  sized : state.LinesSized planes width
  holds : state.LineHolds setup.planeIndex (samples.getD · 0) x
  settled : state.RunsSettled planes
  kept : K state

section Lines

variable {payload : Bytes} {stores : List RowStore} {setup : GolombRiceLine} {samples : List Int}
  {planes : Nat} {width : Nat → Nat} {K : SliceState → Prop} {x : Nat} {state : SliceState}

theorem LineProgress.difference (h : LineProgress setup samples planes width K x state)
    (hline : CodableLine setup samples planes width K) (hx : x < setup.width) (bank context : Nat)
    (adaptive : GolombRiceContextState) :
    LineProgress setup samples planes width K (x + 1)
      ((state.setGolombRiceContext bank context adaptive).modifyLine setup.planeIndex
        (LineState.store · x (samples.getD x 0))) where
  sized := (show (state.setGolombRiceContext bank context adaptive).LinesSized planes width from
    ⟨h.sized.planes, h.sized.sized⟩).store x _
  holds := SliceState.LineHolds.store
    (show (state.setGolombRiceContext bank context adaptive).LineHolds _ _ x from h.holds)
    ⟨h.sized.planes, h.sized.sized⟩ hline.plane_lt (hline.width_eq ▸ hx)
  settled := (h.settled.setContext bank context adaptive).modifyLine _ _
  kept := hline.kept state _ (fun _ hother => SliceState.lineState_modifyLine_of_ne hother) h.kept

/-- A run of matching samples. -/
theorem LineProgress.run (h : LineProgress setup samples planes width K x state)
    (hline : CodableLine setup samples planes width K) {n : Nat} (hx : x ≤ setup.width)
    (hmatch : (state.lineState setup.planeIndex).matchRun samples x (setup.width - x) =
      ((state.lineState setup.planeIndex).storeRun x n, x + n)) (runIndex : Nat) :
    LineProgress setup samples planes width K (x + n) (midRun setup state x n runIndex) where
  sized := by
    have hsized : (state.modifyLine setup.planeIndex (LineState.storeRun · x n)).LinesSized planes
        width := h.sized.modifyLine fun _ _ hsized => hsized.storeRun x n
    exact ⟨hsized.planes, hsized.sized⟩
  holds := by
    have hplane : setup.planeIndex < state.planeCount := h.sized.planes ▸ hline.plane_lt
    have hsized := h.sized.sized _ hline.plane_lt
    rw [← hline.width_eq] at hsized
    have hbegins := LineState.matchRun_begins hsized
      (show x + (setup.width - x) ≤ setup.width by omega) h.holds
    rw [hmatch] at hbegins
    have hlines : (midRun setup state x n runIndex).lineState setup.planeIndex =
        (state.lineState setup.planeIndex).storeRun x n :=
      SliceState.lineState_modifyLine (f := (LineState.storeRun · x n)) hplane
    intro i hi
    rw [hlines]
    exact hbegins i hi
  settled := (h.settled.modifyLine setup.planeIndex (LineState.storeRun · x n)).set rfl
  kept := hline.kept state _ (fun _ hother =>
    (SliceState.lineState_modifyLine_of_ne hother : (state.modifyLine setup.planeIndex
      (LineState.storeRun · x n)).lineState _ = _)) h.kept

/-- A difference, in the adaptive state of its context. -/
theorem readDifference_mirrors {I J : SliceState → Prop} {context : ContextDecision}
    {difference copy : Int}
    {write : GolombRiceContextState → Nat → Int → Call BitWriter GolombRiceContextState}
    {read : GolombRiceContextState → Nat → Call BitReader (Int × GolombRiceContextState)}
    (h : ∀ adaptive, BitReads payload (write adaptive setup.reconstructionBits difference)
      (read adaptive setup.reconstructionBits) (fun adaptive => (copy, adaptive)))
    (hJ : ∀ state bank context adaptive, I state →
      J (SliceState.setGolombRiceContext state bank context adaptive)) (payloadOffset : Nat) :
    Mirror.Mirrors (encodingChannel (bitChannel payload)) False (InStep (Follows payload) I stores)
      (do
        let encoding ← get
        let adaptive := encoding.state.golombRiceContext setup.contextBank context.context
        let adaptive ← onWriter (write adaptive setup.reconstructionBits difference)
        modify (Encoding.modifyState
          (SliceState.setGolombRiceContext · setup.contextBank context.context adaptive)))
      (readDifference payloadOffset setup context read)
      (fun _ value e d => value = (if context.invertDifference then -copy else copy) ∧
        InStep (Follows payload) J stores e d) := by
  have hview := Mirror.Mirrors.view (C := encodingChannel (bitChannel payload)) (F := False)
    (P := InStep (Follows payload) I stores)
    (Q := fun _ value e d => value = (if context.invertDifference then -copy else copy) ∧
      InStep (Follows payload) J stores e d)
    (fun e : Encoding BitWriter => e.state.golombRiceContext setup.contextBank context.context)
    (fun d : Decoding BitReader => d.state.golombRiceContext setup.contextBank context.context)
    (fun adaptive => do
      let adaptive ← onWriter (write adaptive setup.reconstructionBits difference)
      modify (Encoding.modifyState
        (SliceState.setGolombRiceContext · setup.contextBank context.context adaptive)))
    (fun adaptive => do
      let read ← onBits payloadOffset (read adaptive setup.reconstructionBits)
      modify (Decoding.modifyState
        (SliceState.setGolombRiceContext · setup.contextBank context.context read.2))
      return if context.invertDifference then -read.1 else read.1)
    (fun _ _ hd => by rw [hd.same]) fun adaptive => ?_
  · exact hview
  · refine Mirror.Mirrors.bind_eq _ (call_mirrors (h adaptive) BitReader.bytePosition payloadOffset)
      fun adaptive => ?_
    rw [← bind_pure (modify _)]
    refine Mirror.Mirrors.bind (modifyState_mirrors fun state hI => hJ state _ _ _ hI) fun _ _ => ?_
    exact Mirror.Mirrors.pure fun _ _ hd => ⟨rfl, hd⟩

/-- A difference may be off by a multiple of the range. -/
theorem reconstruct_copy {bits : Nat} (hbits : 1 ≤ bits ∧ bits ≤ 30) {sample : Int}
    (hfits : FitsDepth sample bits) (prediction : Int) {invert : Bool} {copy : Int}
    (h : copy ≡ if invert then -Predictor.difference sample prediction bits
      else Predictor.difference sample prediction bits [ZMOD 2 ^ bits]) :
    Predictor.reconstruct prediction (if invert then -copy else copy) bits = sample := by
  have hdepth : ¬(bits = 0 ∨ 31 ≤ bits) := by omega
  have hcopy : (if invert then -copy else copy) ≡ Predictor.difference sample prediction bits
      [ZMOD 2 ^ bits] := by
    cases invert with
    | true => simpa using h.neg
    | false => simpa using h
  rw [reconstruct_eq_emod hdepth, hcopy.add_left prediction, ← reconstruct_eq_emod hdepth,
    reconstruct_difference hdepth hfits.1 hfits.2]

theorem difference_bounds {bits : Nat} (hbits : 1 ≤ bits ∧ bits ≤ 30) (sample prediction : Int)
    (invert : Bool) :
    -2 ^ (bits - 1) ≤ (if invert then -Predictor.difference sample prediction bits
        else Predictor.difference sample prediction bits) ∧
      (if invert then -Predictor.difference sample prediction bits
        else Predictor.difference sample prediction bits) ≤ 2 ^ (bits - 1) := by
  have hdepth : ¬(bits = 0 ∨ 31 ≤ bits) := by omega
  obtain ⟨-, hlow, hhigh⟩ := wrapSampleDifference_spec hdepth (sample - prediction)
  have hdifference : Predictor.difference sample prediction bits =
      wrapSampleDifference (sample - prediction) bits := by
    simp only [Predictor.difference, if_neg hdepth]
  rw [hdifference]
  split <;> omega

theorem codedDifference_mirrors (hline : CodableLine setup samples planes width K)
    (hx : x < setup.width)
    {write : GolombRiceContextState → Nat → Int → Call BitWriter GolombRiceContextState}
    {read : GolombRiceContextState → Nat → Call BitReader (Int × GolombRiceContextState)}
    (hcopies : DifferenceCopies setup.reconstructionBits write read) (payloadOffset : Nat)
    (what : String) :
    Mirror.Mirrors (encodingChannel (bitChannel payload)) False
      (InStep (Follows payload) (LineProgress setup samples planes width K x) stores)
      (encodeDifference setup samples x write) (decodeDifference payloadOffset setup what x read)
      (fun _ _ => InStep (Follows payload)
        (LineProgress setup samples planes width K (x + 1)) stores) := by
  have hview := Mirror.Mirrors.view (C := encodingChannel (bitChannel payload)) (F := False)
    (P := InStep (Follows payload) (LineProgress setup samples planes width K x) stores)
    (Q := fun _ _ => InStep (Follows payload)
      (LineProgress setup samples planes width K (x + 1)) stores)
    (fun e : Encoding BitWriter => e.state.lineState setup.planeIndex)
    (fun d : Decoding BitReader => d.state.lineState setup.planeIndex)
    (fun line => do
      let context ← MonadExcept.ofExcept
        (ContextModel.deriveContext setup.contextModel (line.neighbors x))
      let difference := Predictor.difference (samples.getD x 0) (linePrediction line x)
        setup.reconstructionBits
      writeDifference setup context difference write
      storeEncoded setup samples x)
    (fun line => do
      let context ← MonadExcept.ofExcept
        (ContextModel.deriveContext setup.contextModel (line.neighbors x))
      let difference ← Mirror.telling (tellDifference setup what context x)
        (readDifference payloadOffset setup context read)
      storeDecoded setup x
        (Predictor.reconstruct (linePrediction line x) difference setup.reconstructionBits))
    (fun _ _ hd => by rw [hd.same]) fun line => ?_
  · exact hview
  · refine Mirror.Mirrors.ofExcept_writer fun context hcontext => ?_
    refine Mirror.Mirrors.ofExcept_reader hcontext ?_
    obtain ⟨hlow, hhigh⟩ := difference_bounds hline.bits (samples.getD x 0) (linePrediction line x)
      context.invertDifference
    obtain ⟨copy, hcopy, hreads⟩ := hcopies payload _ hlow hhigh
    refine Mirror.Mirrors.bind_eq (fun _ => if context.invertDifference then -copy else copy)
      (Mirror.Mirrors.telling (readDifference_mirrors (J := fun state' =>
        ∃ state bank context adaptive, LineProgress setup samples planes width K x state ∧
          state' = state.setGolombRiceContext bank context adaptive) hreads
        (fun state bank context adaptive h => ⟨state, bank, context, adaptive, h, rfl⟩)
        payloadOffset) _) fun _ => ?_
    rw [reconstruct_copy hline.bits (hline.fits x hx) _ hcopy]
    refine modifyState_mirrors fun state' h => ?_
    obtain ⟨state, bank, context, adaptive, hprogress, rfl⟩ := h
    exact hprogress.difference hline hx bank context adaptive

theorem onWriter_mirrors {W R α β : Type} {C : Mirror.Channel W} {F : Prop}
    {P : W → R → Prop} {Q : α → β → W → R → Prop} {w : Call W α} {r : Call R β}
    (h : Mirror.Mirrors C F P w r Q) (state : SliceState) :
    Mirror.Mirrors (encodingChannel C) F (fun e d => e.state = state ∧ P e.writer d) (onWriter w) r
      (fun a b e d => e.state = state ∧ Q a b e.writer d) := by
  intro e a e' hi hw
  obtain ⟨w', hwrite, rfl⟩ := onWriter_ok_iff.mp hw
  obtain ⟨hinv, hfits⟩ := h e.writer a w' hi hwrite
  refine ⟨hinv, fun hfit => ⟨(hfits hfit).1, fun d hd => ?_⟩⟩
  exact ((hfits hfit).2 d hd.2).imp id fun b d' hq => ⟨hd.1, hq⟩

theorem midRun_zero (h : state.RunsSettled planes) (hplane : setup.runStatePlane < planes) :
    midRun setup state x 0 (state.golombRiceRunState setup.runStatePlane).runIndex = state := by
  have hline : state.modifyLine setup.planeIndex (LineState.storeRun · x 0) = state :=
    congrArg (fun lines => { state with lineStates := lines }) (List.modify_id ..)
  unfold midRun
  rw [hline, ← h.runState_eq, SliceState.setGolombRiceRunState_self (h.length ▸ hplane)]

/-- The run is written from a settled run state. -/
theorem writeRun_mirrors {neighbors : NeighborSamples} {context : ContextDecision} {n : Nat} (hlt : x < setup.width) (payloadOffset : Nat)
    (runState : GolombRiceRunState) :
    Mirror.Mirrors (bitChannel payload) False
      (MidRun payload setup state stores x 0 runState.runIndex)
      (runState.writeRun x setup.width n)
      (decodeRunSegments payloadOffset setup neighbors context (setup.width - x) x)
      (fun runState' out writer d => (out.1 = x + n ∧ (out.2 = false → x + n = setup.width)) ∧
        runState'.pendingCount = runState.pendingCount ∧
        MidRun payload setup state stores x n runState'.runIndex writer d) := by
  unfold GolombRiceRunState.writeRun
  refine mirrors_checks fun hindex => mirrors_checks fun hrange => ?_
  have hloop : Mirror.Mirrors (bitChannel payload) False
      (MidRun payload setup state stores x 0 runState.runIndex)
      (GolombRiceRunState.writeRunLoop setup.width
        (GolombRiceRunState.log2Run.length - runState.runIndex) runState.runIndex (x + 0) n)
      (decodeRunSegments payloadOffset setup neighbors context (setup.width - x) (x + 0)) _ :=
    runLoop_mirrors payloadOffset (by omega) hlt (by omega) (Nat.le_refl _)
  simp only [Nat.add_zero, Nat.zero_add] at hloop
  exact hloop.map_writer fun runIndex out writer d hq => ⟨hq.1, rfl, hq.2⟩

/-- The encoder has found `n` matching samples. -/
def RunFound (payload : Bytes) (setup : GolombRiceLine) (samples : List Int) (planes : Nat)
    (width : Nat → Nat) (K : SliceState → Prop) (state : SliceState) (stores : List RowStore)
    (x n : Nat) (e : Encoding BitWriter) (d : Decoding BitReader) : Prop :=
  e.state = state.modifyLine setup.planeIndex (LineState.storeRun · x n) ∧
    LineProgress setup samples planes width K x state ∧
    DecodingAt (Follows payload) state stores e.writer d

theorem writeRunOf_mirrors (hline : CodableLine setup samples planes width K)
    {neighbors : NeighborSamples} {context : ContextDecision} {n : Nat}
    (hlt : x < setup.width)
    (hmatch : (state.lineState setup.planeIndex).matchRun samples x (setup.width - x) =
      ((state.lineState setup.planeIndex).storeRun x n, x + n)) (payloadOffset : Nat) :
    Mirror.Mirrors (encodingChannel (bitChannel payload)) False
      (RunFound payload setup samples planes width K state stores x n) (writeRunOf setup x n)
      (decodeRunSegments payloadOffset setup neighbors context (setup.width - x) x)
      (fun _ out e d => (out.1 = x + n ∧ (out.2 = false → x + n = setup.width)) ∧
        InStep (Follows payload) (LineProgress setup samples planes width K (x + n)) stores e d) := by
  refine Mirror.Mirrors.view_writer
    (fun e : Encoding BitWriter => e.state.golombRiceRunState setup.runStatePlane)
    (fun runState => do
      let runState ← onWriter (runState.writeRun x setup.width n)
      modify (Encoding.modifyState
        (SliceState.setGolombRiceRunState · setup.runStatePlane runState))) fun runState => ?_
  have hwrite : Mirror.Mirrors (bitChannel payload) False
      (MidRun payload setup state stores x 0 runState.runIndex) (runState.writeRun x setup.width n)
      (decodeRunSegments payloadOffset setup neighbors context (setup.width - x) x) _ :=
    writeRun_mirrors hlt payloadOffset runState
  have hrun := (onWriter_mirrors hwrite
    (state.modifyLine setup.planeIndex (LineState.storeRun · x n))).frame
    (LineProgress setup samples planes width K x state ∧ runState.pendingCount = 0)
  refine (hrun.consequence id (fun e d h => ?_) fun _ _ _ _ hq => hq).then_update
    (fun _ _ hi => hi) (fun _ _ hfit => hfit) fun runState' out e d hq => ?_
  · obtain ⟨rfl, hstate, hprogress, hd⟩ := h
    have hsettled := hprogress.settled.modifyLine setup.planeIndex (LineState.storeRun · x n)
    rw [hstate]
    refine ⟨⟨hprogress, hsettled.pending _⟩, rfl,
      hprogress.settled.length ▸ hline.runStatePlane_lt, hd.symbols, ?_, hd.stored⟩
    rw [hd.state]
    exact (midRun_zero hprogress.settled hline.runStatePlane_lt).symm
  · obtain ⟨⟨hprogress, hzero⟩, hstate, hout, hpending, -, hd⟩ := hq
    have hnext := hprogress.run hline hlt.le hmatch runState'.runIndex
    refine ⟨hout, hd.symbols, ?_, hd.state ▸ hnext, hd.stored⟩
    rw [hd.state]
    simp only [Encoding.modifyState, hstate, midRun]
    cases runState' with
    | mk runIndex pendingCount =>
      rw [show pendingCount = 0 from hpending.trans hzero]

/-- A round of the encoder, on the line as it stands before it. -/
def encodeRoundOn (setup : GolombRiceLine) (samples : List Int) (x : Nat) (line : LineState) :
    Call (Encoding BitWriter) Nat := do
  let context ← MonadExcept.ofExcept
    (ContextModel.deriveContext setup.contextModel (line.neighbors x))
  if context.context = 0 then
    let runEnd := (line.matchRun samples x (setup.width - x)).2
    modify (Encoding.modifyState (SliceState.modifyLine · setup.planeIndex fun line =>
      (line.matchRun samples x (setup.width - x)).1))
    writeRunOf setup x (runEnd - x)
    if runEnd = setup.width then return runEnd
    else
      encodeDifference setup samples runEnd GolombRiceContextState.writeRunInterruption
      return runEnd + 1
  else
    encodeDifference setup samples x GolombRiceContextState.writeSymbol
    return x + 1

/-- A round of the decoder where no run is pending. -/
def decodeRoundOn (payloadOffset : Nat) (setup : GolombRiceLine) (x : Nat) (line : LineState) :
    Call (Decoding BitReader) Nat := do
  let context ← MonadExcept.ofExcept
    (ContextModel.deriveContext setup.contextModel (line.neighbors x))
  if context.context = 0 then
    let (x, interrupted) ← decodeRunSegments payloadOffset setup (line.neighbors x) context
      (setup.width - x) x
    if interrupted = false ∨ x = setup.width then return x
    else
      decodeDifference payloadOffset setup "run interruption" x
        GolombRiceContextState.readRunInterruption
      return x + 1
  else
    decodeDifference payloadOffset setup "scalar symbol" x GolombRiceContextState.readSymbol
    return x + 1

theorem modifyLine_congr {planeIndex : Nat} {f g : LineState → LineState}
    (h : f (state.lineState planeIndex) = g (state.lineState planeIndex)) :
    state.modifyLine planeIndex f = state.modifyLine planeIndex g := by
  have hlines : state.lineStates.modify planeIndex f = state.lineStates.modify planeIndex g := by
    refine List.ext_getElem? fun i => ?_
    rw [List.getElem?_modify, List.getElem?_modify]
    by_cases heq : planeIndex = i
    · subst heq
      cases hget : state.lineStates[planeIndex]? with
      | none => rfl
      | some line =>
        have hline : state.lineState planeIndex = line := by
          simp [SliceState.lineState, List.getD_eq_getElem?_getD, hget]
        rw [hline] at h
        simpa using h
    · simp [heq]
  exact congrArg (fun lines => { state with lineStates := lines }) hlines

theorem round_mirrors (hline : CodableLine setup samples planes width K)
    (hlt : x < setup.width) (payloadOffset : Nat) (state : SliceState) :
    Mirror.Mirrors (encodingChannel (bitChannel payload)) False
      (fun e d => e.state = state ∧
        InStep (Follows payload) (LineProgress setup samples planes width K x) stores e d)
      (encodeRoundOn setup samples x (state.lineState setup.planeIndex))
      (decodeRoundOn payloadOffset setup x (state.lineState setup.planeIndex))
      (fun next next' e d => next' = next ∧
        InStep (Follows payload) (LineProgress setup samples planes width K next) stores e d) := by
  unfold encodeRoundOn decodeRoundOn
  refine Mirror.Mirrors.ofExcept_writer fun context hcontext => ?_
  refine Mirror.Mirrors.ofExcept_reader hcontext ?_
  by_cases hzero : context.context = 0
  · simp only [if_pos hzero]
    obtain ⟨n, hn, hmatch⟩ := LineState.matchRun_eq samples (state.lineState setup.planeIndex) x
      (setup.width - x)
    rw [hmatch, Nat.add_sub_cancel_left]
    refine Mirror.Mirrors.update_writer
      (S := RunFound payload setup samples planes width K state stores x n)
      (fun _ hi => hi) (fun _ hfit => hfit) (fun e d hd => ?_) ?_
    · obtain ⟨rfl, hd⟩ := hd
      have hprogress := hd.inv
      rw [← hd.same] at hprogress
      have hfound : (e.state.modifyLine setup.planeIndex fun line =>
          (line.matchRun samples x (setup.width - x)).1) =
          e.state.modifyLine setup.planeIndex (LineState.storeRun · x n) :=
        modifyLine_congr (by rw [hmatch])
      exact ⟨hfound, hprogress, hd.symbols, hd.same.symm, hd.stored⟩
    · refine Mirror.Mirrors.bind (writeRunOf_mirrors hline hlt hmatch payloadOffset) fun _ out => ?_
      by_cases hend : x + n = setup.width
      · refine Mirror.Mirrors.of_reader (s := pure (x + n)) (fun e d hd => ?_) ?_
        · rw [hd.1.1, if_pos (Or.inr hend)]
        · rw [if_pos hend]
          exact Mirror.Mirrors.pure fun _ _ hd => ⟨rfl, hd.2⟩
      · refine Mirror.Mirrors.of_reader (s := do
          decodeDifference payloadOffset setup "run interruption" (x + n)
            GolombRiceContextState.readRunInterruption
          return x + n + 1) (fun e d hd => ?_) ?_
        · rw [hd.1.1, if_neg (not_or.mpr ⟨fun hout => hend (hd.1.2 hout), hend⟩)]
        · rw [if_neg hend]
          have hdifference : Mirror.Mirrors (encodingChannel (bitChannel payload)) False
              (InStep (Follows payload) _ stores) _ _ _ :=
            codedDifference_mirrors hline (show x + n < setup.width by omega)
              (interruption_copies (by have hbits := hline.bits; omega)) payloadOffset
              "run interruption"
          refine Mirror.Mirrors.bind (hdifference.consequence id (fun _ _ hd => hd.2)
            fun _ _ _ _ hq => hq) fun _ _ => ?_
          exact Mirror.Mirrors.pure fun _ _ hd => ⟨rfl, hd⟩
  · simp only [if_neg hzero]
    have hdifference : Mirror.Mirrors (encodingChannel (bitChannel payload)) False
        (InStep (Follows payload) _ stores) _ _ _ :=
      codedDifference_mirrors hline hlt (symbol_copies setup.reconstructionBits) payloadOffset
        "scalar symbol"
    refine Mirror.Mirrors.bind (hdifference.consequence id (fun _ _ hd => hd.2)
      fun _ _ _ _ hq => hq) fun _ _ => ?_
    exact Mirror.Mirrors.pure fun _ _ hd => ⟨rfl, hd⟩

theorem step_mirrors (hline : CodableLine setup samples planes width K) (hlt : x < setup.width)
    (payloadOffset : Nat) :
    Mirror.Mirrors (encodingChannel (bitChannel payload)) False
      (InStep (Follows payload) (LineProgress setup samples planes width K x) stores)
      (encodeGolombRiceStep setup samples x) (decodeGolombRiceStep payloadOffset setup x)
      (fun next next' e d => next' = next ∧
        InStep (Follows payload) (LineProgress setup samples planes width K next) stores e d) := by
  have hround (state : SliceState) : Mirror.Mirrors (encodingChannel (bitChannel payload)) False
      (fun e d => e.state = state ∧ InStep (Follows payload) _ stores e d) _ _ _ :=
    round_mirrors hline hlt payloadOffset state
  have hview := Mirror.Mirrors.view_of (C := encodingChannel (bitChannel payload)) (F := False)
    (fun e : Encoding BitWriter => e.state) (fun d : Decoding BitReader => d.state)
    (fun state => encodeRoundOn setup samples x (state.lineState setup.planeIndex))
    (fun state => decodeRoundOn payloadOffset setup x (state.lineState setup.planeIndex))
    (fun _ _ hd => hd.same) hround
  refine Mirror.Mirrors.of_reader (fun e d hd => ?_) hview
  unfold decodeGolombRiceStep
  rw [Mirror.get_bind, Mirror.get_bind, if_neg (not_not.mpr (hd.inv.settled.pending _))]
  rfl

/-- A round moves on, and not beyond the row. -/
theorem step_returns (hlt : x < setup.width) :
    Mirror.Returns (encodeGolombRiceStep setup samples x)
      (fun next => x < next ∧ next ≤ setup.width) := by
  have hround (line : LineState) : Mirror.Returns (encodeRoundOn setup samples x line)
      (fun next => x < next ∧ next ≤ setup.width) := by
    unfold encodeRoundOn
    refine Mirror.Returns.bind Mirror.Returns.trivial fun context _ => ?_
    by_cases hzero : context.context = 0
    · simp only [if_pos hzero]
      obtain ⟨n, hn, hmatch⟩ := LineState.matchRun_eq samples line x (setup.width - x)
      rw [hmatch]
      refine Mirror.Returns.bind Mirror.Returns.trivial fun _ _ => ?_
      refine Mirror.Returns.bind Mirror.Returns.trivial fun _ _ => ?_
      by_cases hend : x + n = setup.width
      · rw [if_pos hend]
        exact Mirror.Returns.pure (by omega)
      · rw [if_neg hend]
        exact Mirror.Returns.bind Mirror.Returns.trivial fun _ _ => Mirror.Returns.pure (by omega)
    · simp only [if_neg hzero]
      exact Mirror.Returns.bind Mirror.Returns.trivial fun _ _ => Mirror.Returns.pure (by omega)
  exact fun e next e' h => hround (e.state.lineState setup.planeIndex) e next e' h

theorem rounds_mirrors (hline : CodableLine setup samples planes width K) (payloadOffset : Nat)
    {fuel : Nat} (hx : x ≤ setup.width) (hfuel : setup.width - x ≤ fuel) :
    Mirror.Mirrors (encodingChannel (bitChannel payload)) False
      (InStep (Follows payload) (LineProgress setup samples planes width K x) stores)
      (encodeGolombRiceRounds setup samples fuel x)
      (decodeGolombRiceRounds payloadOffset setup fuel x)
      (fun _ _ => InStep (Follows payload)
        (LineProgress setup samples planes width K setup.width) stores) := by
  induction fuel generalizing x with
  | zero =>
    obtain rfl : x = setup.width := by omega
    exact Mirror.Mirrors.pure fun _ _ hd => hd
  | succ fuel ih =>
    unfold encodeGolombRiceRounds decodeGolombRiceRounds
    by_cases hend : setup.width ≤ x
    · obtain rfl : x = setup.width := by omega
      simp only [if_pos hend]
      exact Mirror.Mirrors.pure fun _ _ hd => hd
    · simp only [if_neg hend]
      exact Mirror.Mirrors.bind_eq_of (step_returns (by omega))
        (step_mirrors hline (by omega) payloadOffset) fun next hnext => ih hnext.2 (by omega)

/-- A whole row, before its line is swapped. -/
theorem golombRiceLine_mirrors (hline : CodableLine setup samples planes width K)
    (payloadOffset : Nat) :
    Mirror.Mirrors (encodingChannel (bitChannel payload)) False
      (InStep (Follows payload) (fun state => state.LinesSized planes width ∧
        state.RunsSettled planes ∧ K state) stores)
      (encodeGolombRiceRounds setup samples setup.width 0)
      (decodeGolombRiceLine payloadOffset setup)
      (fun _ _ => InStep (Follows payload)
        (LineProgress setup samples planes width K setup.width) stores) := by
  have hrounds : Mirror.Mirrors (encodingChannel (bitChannel payload)) False
      (InStep (Follows payload) _ stores) _ _ _ :=
    rounds_mirrors hline payloadOffset (Nat.zero_le setup.width) (Nat.sub_le _ _)
  refine hrounds.consequence id (fun _ _ hd => hd.imp fun state hstate => ?_) fun _ _ _ _ hq => hq
  exact ⟨hstate.1, fun i hi => absurd hi (Nat.not_lt_zero i), hstate.2.1, hstate.2.2⟩

end Lines

end Mffv1
