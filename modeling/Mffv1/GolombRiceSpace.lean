import Mffv1.GolombRiceContent
import Mffv1.GolombRiceLineSafety
import Mffv1.RangeSpace

/-!
# Want of space in Golomb-Rice coding

A sample that fits the depth can always be coded: its folded difference fits the escape
field, a run ends at a sample that is not the predicted one, and a context keeps within the
bounds of its parameter.
-/
namespace Mffv1

open Hoare (Triple)

namespace BitWriter

/-- A writer that takes bits, behind the first `position` ones. -/
def OpenAt (position : Nat) (writer : BitWriter) : Prop :=
  writer.finalized = false ∧ writer.bitPosition = position

def TakesBits (writer : BitWriter) : Prop := writer.finalized = false

variable {position : Nat}

theorem writeBit_progresses {bit : Nat} (hbit : bit ≤ 1) :
    Progresses (OpenAt position) (writeBit bit) fun _ => OpenAt (position + 1) := by
  refine Triple.look fun writer hwriter => ?_
  refine Progresses.passes (by rw [hwriter.1]; decide) ?_
  refine Progresses.passes (by omega) ?_
  refine Progresses.limits ⟨rfl, .bitPosition, rfl⟩ fun _ =>
    Progresses.limits ⟨rfl, .bitstream, rfl⟩ fun _ => ?_
  refine Triple.replace fun _ _ => ⟨hwriter.1, ?_⟩
  dsimp only
  rw [hwriter.2]

theorem writeBitsLoop_progresses (value count : Nat) :
    Progresses (OpenAt position) (writeBitsLoop value count) fun _ => OpenAt (position + count) := by
  induction count generalizing position with
  | zero => exact Triple.returns fun _ h => h
  | succ count ih =>
    have hbit : (value >>> count) &&& 1 ≤ 1 := Nat.and_le_right
    refine (writeBit_progresses hbit).bind fun _ => ?_
    rw [show position + (count + 1) = position + 1 + count by omega]
    exact ih

theorem writeBits_progresses {value count : Nat} (hcount : count < 64) (hvalue : value < 2 ^ count) :
    Progresses (OpenAt position) (writeBits value count) fun _ => OpenAt (position + count) := by
  refine Triple.look fun writer hwriter => ?_
  refine Progresses.passes (by rw [hwriter.1]; decide) ?_
  refine Progresses.passes (by omega) (Progresses.passes (by omega) ?_)
  refine Progresses.limits ⟨rfl, .bitPosition, rfl⟩ fun _ => ?_
  exact (writeBitsLoop_progresses value count).pre fun _ heq => heq ▸ hwriter

/-- A call that takes every position on. -/
theorem progresses_open {α : Type} {call : Call BitWriter α} {next : Nat → Nat}
    (h : ∀ position, Progresses (OpenAt position) call fun _ => OpenAt (next position)) :
    Progresses TakesBits call fun _ => TakesBits := by
  intro writer hwriter
  exact (h writer.bitPosition).post (fun _ _ hopen => hopen.1) writer ⟨hwriter, rfl⟩

theorem bit_progresses {bit : Nat} (hbit : bit ≤ 1) :
    Progresses TakesBits (writeBit bit) fun _ => TakesBits :=
  progresses_open fun _ => writeBit_progresses hbit

theorem bits_progresses {value count : Nat} (hcount : count < 64) (hvalue : value < 2 ^ count) :
    Progresses TakesBits (writeBits value count) fun _ => TakesBits :=
  progresses_open fun _ => writeBits_progresses hcount hvalue

/-- The padding ends in a whole byte, which is what `finalize` asks for. -/
theorem byteAlignZero_progresses :
    Progresses TakesBits byteAlignZero fun _ writer =>
      writer.finalized = false ∧ writer.bitPosition % 8 = 0 := by
  refine Triple.look fun writer hwriter => ?_
  have hopen : writer.finalized = false := hwriter
  refine Progresses.passes (by rw [hopen]; decide) ?_
  dsimp only
  by_cases haligned : writer.bitPosition % 8 = 0
  · rw [if_pos haligned]
    rintro _ rfl
    exact ⟨hopen, haligned⟩
  · rw [if_neg haligned]
    have hpad := @writeBits_progresses writer.bitPosition 0 (8 - writer.bitPosition % 8) (by omega)
      (by positivity)
    refine Triple.consequence hpad ?_ (fun _ padded h => ⟨h.1, by rw [h.2]; omega⟩) fun _ _ h => h
    rintro _ rfl
    exact ⟨hopen, rfl⟩

theorem finalize_progresses : Progresses
    (fun writer : BitWriter => writer.finalized = false ∧ writer.bitPosition % 8 = 0) finalize
    fun _ _ => True := by
  refine Triple.look fun writer hwriter => ?_
  refine Progresses.passes (by rw [hwriter.1]; decide) ?_
  refine Progresses.bind (Q := fun _ _ => True) (Triple.look fun aligned heq => ?_)
    fun _ => fun _ _ => trivial
  subst heq
  rw [failIf_of_not (not_not.mpr hwriter.2)]
  exact Triple.returns fun _ _ => trivial

end BitWriter

open BitWriter (TakesBits)

namespace GolombRiceWriter

theorem writeZeros_progresses (count : Nat) :
    Progresses TakesBits (writeZeros count) fun _ => TakesBits := by
  induction count with
  | zero => exact Triple.returns fun _ h => h
  | succ count ih => exact (BitWriter.bit_progresses (by decide)).bind fun _ => ih

theorem writeUnsigned_progresses {k bitsPerRawSample value : Nat} (hk : k ≤ 31)
    (hbits : bitsPerRawSample ≤ 31) (hvalue : value < 2 ^ bitsPerRawSample) :
    Progresses TakesBits (writeUnsigned k bitsPerRawSample value) fun _ => TakesBits := by
  unfold writeUnsigned
  dsimp only
  split
  · refine (writeZeros_progresses _).bind fun _ => ?_
    refine (BitWriter.bit_progresses (by decide)).bind fun _ => ?_
    exact BitWriter.bits_progresses (by omega) (Nat.mod_lt _ (by positivity))
  · refine Progresses.passes (by omega) ?_
    refine (BitWriter.bits_progresses (by decide) (by decide)).bind fun _ => ?_
    exact BitWriter.bits_progresses (by omega) (by omega)

theorem writeSigned_progresses {k bits : Nat} {value : Int} (hk : k ≤ 31)
    (hbits : 1 ≤ bits ∧ bits ≤ 31) (hvalue : -2 ^ (bits - 1) ≤ value ∧ value < 2 ^ (bits - 1)) :
    Progresses TakesBits (writeSigned k bits value) fun _ => TakesBits := by
  refine Progresses.passes (by omega) (Progresses.passes (by omega) ?_)
  refine writeUnsigned_progresses hk hbits.2 ?_
  have hpow : 2 ^ bits = 2 * 2 ^ (bits - 1) := by
    rw [← pow_succ']
    congr 1
    omega
  have hcast : ((2 ^ (bits - 1) : Nat) : Int) = 2 ^ (bits - 1) := by push_cast; rfl
  rw [hpow]
  unfold fold
  split <;> omega

end GolombRiceWriter

namespace GolombRiceContextState

theorem writeSymbol_progresses {state : GolombRiceContextState} (h : state.Bounded) {bits : Nat}
    (hbits : 1 ≤ bits ∧ bits ≤ 31) (value : Int) :
    Progresses TakesBits (state.writeSymbol bits value)
      fun next writer => TakesBits writer ∧ next.Bounded := by
  obtain ⟨k, hk, hderive⟩ := h.deriveK
  obtain ⟨hlow, hhigh⟩ := signExtend_bounds (show bits ≠ 0 by omega) (value - state.bias)
  have hpow : (2 : Int) ^ (bits - 1) ≤ 2 ^ 30 := pow_le_pow_right₀ (by decide) (by omega)
  unfold writeSymbol
  rw [h.validateState]
  refine Progresses.passes (by omega) ?_
  rw [hderive]
  dsimp only
  refine (GolombRiceWriter.writeSigned_progresses hk hbits ?_).bind fun _ => ?_
  · split <;> omega
  · exact Triple.returns fun _ hopen => ⟨hopen, h.updateState (by omega)⟩

theorem writeRunInterruption_progresses {state : GolombRiceContextState} (h : state.Bounded)
    {bits : Nat} (hbits : 1 ≤ bits ∧ bits ≤ 31) {value : Int} (hvalue : value ≠ 0) :
    Progresses TakesBits (state.writeRunInterruption bits value)
      fun next writer => TakesBits writer ∧ next.Bounded :=
  Progresses.passes hvalue (writeSymbol_progresses h hbits _)

end GolombRiceContextState

namespace GolombRiceRunState

theorem log2Run_lt (runIndex : Nat) : log2Run.getD runIndex 0 < 64 := by
  have hall : ∀ entry ∈ log2Run, entry < 64 := by decide
  rcases Nat.lt_or_ge runIndex log2Run.length with hlt | hge
  · rw [List.getD_eq_getElem _ _ hlt]
    exact hall _ (List.getElem_mem hlt)
  · rw [List.getD_eq_default _ _ hge]
    decide

/-- The table is left through its own error, before the fuel ends. -/
theorem writeRunLoop_progresses (width : Nat) {fuel runIndex : Nat}
    (hfuel : log2Run.length ≤ runIndex + fuel) (hindex : runIndex < log2Run.length)
    (position remaining : Nat) :
    Progresses TakesBits (writeRunLoop width fuel runIndex position remaining)
      fun next writer => TakesBits writer ∧ next < log2Run.length := by
  induction fuel generalizing runIndex position remaining with
  | zero => omega
  | succ fuel ih =>
    unfold writeRunLoop
    dsimp only
    split
    · refine Progresses.limits ⟨rfl, .runTable, rfl⟩ fun hnext => ?_
      refine (BitWriter.bit_progresses (by decide)).bind fun _ => ?_
      split
      · exact Triple.returns fun _ hopen => ⟨hopen, by omega⟩
      · exact ih (by omega) (by omega) _ _
    · refine (BitWriter.bit_progresses (by decide)).bind fun _ => ?_
      refine (BitWriter.bits_progresses (log2Run_lt _) (by omega)).bind fun _ => ?_
      exact Triple.returns fun _ hopen => ⟨hopen, by omega⟩

theorem writeRun_progresses {state : GolombRiceRunState}
    (hindex : state.runIndex < log2Run.length) {x width count : Nat} (hx : x + count ≤ width) :
    Progresses TakesBits (state.writeRun x width count)
      fun next writer => TakesBits writer ∧ next.runIndex < log2Run.length := by
  refine Progresses.passes (by omega) (Progresses.passes (by omega) ?_)
  refine (writeRunLoop_progresses width (by omega) hindex x count).bind fun _ => ?_
  exact Triple.returns fun _ h => h

end GolombRiceRunState

/-- A state from which the rows of a slice can be coded; `counts` are the sizes of its banks. -/
structure RowsCodable (planes : Nat) (width : Nat → Nat) (bits : Nat) (counts : List Nat)
    (state : SliceState) : Prop where
  planeCount : state.planeCount = planes
  lines : ∀ planeIndex < planes, (state.lineState planeIndex).FitsRow (width planeIndex) bits
  borders : ∀ planeIndex < planes, (state.lineState planeIndex).borderValue = 0
  runs : state.golombRiceRunStates.length = planes
  runIndexes : ∀ planeIndex, (state.golombRiceRunState planeIndex).runIndex <
    GolombRiceRunState.log2Run.length
  contexts : ∀ bank context, (state.golombRiceContext bank context).Bounded
  sizes : state.golombRiceContexts.map List.length = counts

namespace LineState

theorem FitsRow.storeRun {line : LineState} {width bits : Nat} (h : line.FitsRow width bits)
    (x count : Nat) : (line.storeRun x count).FitsRow width bits := by
  induction count generalizing line x with
  | zero => exact h
  | succ count ih => exact ih (h.store (h.prediction x) x) (x + 1)

theorem storeRun_border (line : LineState) (x count : Nat) :
    (line.storeRun x count).borderValue = line.borderValue := by
  induction count generalizing line x with
  | zero => rfl
  | succ count ih => exact ih _ _

theorem FitsRow.swapLines {line : LineState} {width bits : Nat} (h : line.FitsRow width bits)
    (hborder : line.borderValue = 0) : line.swapLines.FitsRow width bits := by
  refine ⟨h.sized.swapLines, h.sized.previous, fun value hmem => ?_, h.current, h.previous⟩
  rw [List.eq_of_mem_replicate hmem, hborder]
  exact ⟨Int.le_refl 0, by positivity⟩

theorem FitsRow.bordered (width bits : Nat) : (LineState.bordered width 0).FitsRow width bits := by
  have hline : ∀ value ∈ List.replicate width (0 : Int), FitsDepth value bits := by
    intro value hmem
    rw [List.eq_of_mem_replicate hmem]
    exact ⟨Int.le_refl 0, by positivity⟩
  exact ⟨bordered_sized width 0, List.length_replicate .., hline, hline, hline⟩

/-- A run ends with its row or at a sample that is not predicted. -/
theorem matchRun_stops (samples : List Int) (line : LineState) (x count : Nat) :
    (line.matchRun samples x count).2 = x + count ∨
      samples.getD (line.matchRun samples x count).2 0 ≠
        linePrediction (line.matchRun samples x count).1 (line.matchRun samples x count).2 := by
  induction count generalizing line x with
  | zero => exact .inl rfl
  | succ count ih =>
    rw [matchRun]
    by_cases hmatch : samples.getD x 0 = linePrediction line x
    · rw [if_pos hmatch, show x + (count + 1) = x + 1 + count by omega]
      exact ih _ _
    · rw [if_neg hmatch]
      exact .inr hmatch

end LineState

/-- The contexts of a state behind the change of one. -/
theorem golombRiceContext_set (state : SliceState) (bank context : Nat)
    (adaptive : GolombRiceContextState) (bank' context' : Nat) :
    (state.setGolombRiceContext bank context adaptive).golombRiceContext bank' context' = adaptive ∨
      (state.setGolombRiceContext bank context adaptive).golombRiceContext bank' context' =
        state.golombRiceContext bank' context' := by
  simp only [SliceState.golombRiceContext, SliceState.setGolombRiceContext,
    List.getD_eq_getElem?_getD, List.getElem?_modify]
  cases hbank : state.golombRiceContexts[bank']? with
  | none => exact .inr rfl
  | some contexts =>
    by_cases heq : bank = bank'
    · simp only [heq, if_true, Option.map_eq_map, Option.map_some, Option.getD_some,
        List.getElem?_set]
      split
      · split
        · exact .inl rfl
        · exact .inr (by rw [List.getElem?_eq_none (by omega)])
      · exact .inr rfl
    · simp only [heq, if_false, Option.map_eq_map, Option.map_some]
      exact .inr trivial

namespace RowsCodable

variable {planes bits : Nat} {width : Nat → Nat} {counts : List Nat} {state : SliceState}
  {planeIndex : Nat}

theorem modifyLine (h : RowsCodable planes width bits counts state)
    (hplane : planeIndex < planes) {f : LineState → LineState}
    (hline : (f (state.lineState planeIndex)).FitsRow (width planeIndex) bits)
    (hborder : (f (state.lineState planeIndex)).borderValue = 0) :
    RowsCodable planes width bits counts (state.modifyLine planeIndex f) := by
  have hlt : planeIndex < state.planeCount := by rw [h.planeCount]; exact hplane
  refine ⟨by rw [SliceState.planeCount_modifyLine, h.planeCount], fun other hother => ?_,
    fun other hother => ?_, h.runs, h.runIndexes, h.contexts, h.sizes⟩
  · by_cases heq : other = planeIndex
    · rw [heq, SliceState.lineState_modifyLine hlt]
      exact hline
    · rw [SliceState.lineState_modifyLine_of_ne heq]
      exact h.lines other hother
  · by_cases heq : other = planeIndex
    · rw [heq, SliceState.lineState_modifyLine hlt]
      exact hborder
    · rw [SliceState.lineState_modifyLine_of_ne heq]
      exact h.borders other hother

theorem setContext (h : RowsCodable planes width bits counts state) (bank context : Nat)
    {adaptive : GolombRiceContextState} (hadaptive : adaptive.Bounded) :
    RowsCodable planes width bits counts (state.setGolombRiceContext bank context adaptive) := by
  refine ⟨h.planeCount, h.lines, h.borders, h.runs, h.runIndexes, fun bank' context' => ?_, ?_⟩
  · rcases golombRiceContext_set state bank context adaptive bank' context' with heq | heq
    · rw [heq]
      exact hadaptive
    · rw [heq]
      exact h.contexts bank' context'
  · rw [← h.sizes]
    refine List.ext_getElem (by simp [SliceState.setGolombRiceContext]) fun i hi hi' => ?_
    simp only [SliceState.setGolombRiceContext, List.getElem_map, List.getElem_modify]
    split
    · exact List.length_set ..
    · rfl

theorem setRunState (h : RowsCodable planes width bits counts state) (planeIndex : Nat)
    {runState : GolombRiceRunState}
    (hindex : runState.runIndex < GolombRiceRunState.log2Run.length) :
    RowsCodable planes width bits counts (state.setGolombRiceRunState planeIndex runState) := by
  refine ⟨h.planeCount, h.lines, h.borders, (List.length_set ..).trans h.runs, fun other => ?_,
    h.contexts, h.sizes⟩
  have hold := h.runIndexes other
  simp only [SliceState.golombRiceRunState, SliceState.setGolombRiceRunState,
    List.getD_eq_getElem?_getD, List.getElem?_set] at hold ⊢
  split
  · split
    · exact hindex
    · decide
  · exact hold

end RowsCodable

/-- An encoding of rows that only space can stop. -/
def WritesRows (planes : Nat) (width : Nat → Nat) (bits : Nat) (counts : List Nat)
    (encoding : Encoding BitWriter) : Prop :=
  TakesBits encoding.writer ∧ RowsCodable planes width bits counts encoding.state

/-- A row of samples that fit the depth, in the model of the zero tables. -/
structure FittingRow (setup : GolombRiceLine) (samples : List Int) (planes : Nat)
    (width : Nat → Nat) (bits : Nat) : Prop where
  model : setup.contextModel = makeZeroQuantTableSet
  plane : setup.planeIndex < planes
  width : setup.width = width setup.planeIndex
  reconstruction : setup.reconstructionBits = bits
  depth : 1 ≤ bits ∧ bits ≤ 17
  fits : ∀ x < setup.width, FitsDepth (samples.getD x 0) bits

section Rows

variable {setup : GolombRiceLine} {samples : List Int} {planes bits : Nat} {width : Nat → Nat}
  {counts : List Nat} {x : Nat}

/-- Two samples of the depth that differ have a difference that is not zero. -/
theorem difference_ne_zero {sample prediction : Int} (hbits : 1 ≤ bits ∧ bits ≤ 17)
    (hsample : FitsDepth sample bits) (hprediction : FitsDepth prediction bits)
    (hne : sample ≠ prediction) : Predictor.difference sample prediction bits ≠ 0 := by
  have hdepth : ¬(bits = 0 ∨ 31 ≤ bits) := by omega
  intro hzero
  have hback := reconstruct_difference hdepth hsample.1 hsample.2 prediction
  rw [hzero, reconstruct_eq_emod hdepth, Int.add_zero,
    Int.emod_eq_of_lt hprediction.1 hprediction.2] at hback
  exact hne hback.symm

/-- An encoding of rows at a line of the plane. -/
def AtLine (setup : GolombRiceLine) (planes : Nat) (width : Nat → Nat) (bits : Nat)
    (counts : List Nat) (line : LineState) (encoding : Encoding BitWriter) : Prop :=
  WritesRows planes width bits counts encoding ∧
    encoding.state.lineState setup.planeIndex = line

theorem writeRunOf_progresses {count : Nat} (hx : x + count ≤ setup.width) (line : LineState) :
    Progresses (AtLine setup planes width bits counts line) (writeRunOf setup x count)
      fun _ => AtLine setup planes width bits counts line := by
  refine Triple.look fun encoding he => ?_
  have hwrite := onWriter_progresses (GolombRiceRunState.writeRun_progresses
    (he.1.2.runIndexes setup.runStatePlane) hx) fun state =>
      RowsCodable planes width bits counts state ∧ state.lineState setup.planeIndex = line
  refine Progresses.bind (hwrite.pre ?_) fun runState => Triple.update fun encoding' h => ?_
  · rintro _ rfl
    exact ⟨he.1.1, he.1.2, he.2⟩
  · exact ⟨⟨h.1.1, h.2.1.setRunState setup.runStatePlane h.1.2⟩, h.2.2⟩

/-- The sample behind a run. -/
theorem encodeInterruption_progresses (hrow : FittingRow setup samples planes width bits)
    (hx : x < setup.width) {line : LineState} (hne : samples.getD x 0 ≠ linePrediction line x) :
    Progresses (AtLine setup planes width bits counts line)
      (encodeDifference setup samples x GolombRiceContextState.writeRunInterruption)
      fun _ => WritesRows planes width bits counts := by
  have hdepth := hrow.depth
  refine Triple.look fun encoding he => ?_
  have hline := he.1.2.lines setup.planeIndex hrow.plane
  rw [he.2] at hline
  have hdifference := difference_ne_zero hdepth (hrow.fits x hx) (hline.prediction x) hne
  dsimp only
  rw [he.2, hrow.model]
  refine Triple.computes (ContextModel.deriveContext_zero _) ?_
  rw [hrow.reconstruction]
  refine Progresses.bind (Q := fun _ => WritesRows planes width bits counts)
    (Triple.look fun _ heq => ?_) fun _ => Triple.update fun encoding' h => ?_
  · subst heq
    have hwrite := onWriter_progresses (GolombRiceContextState.writeRunInterruption_progresses
      (he.1.2.contexts setup.contextBank 0) (show 1 ≤ bits ∧ bits ≤ 31 by omega) hdifference)
      (RowsCodable planes width bits counts)
    rw [hrow.reconstruction]
    refine Progresses.bind (hwrite.pre ?_) fun adaptive => Triple.update fun encoding' h => ?_
    · rintro _ rfl
      exact he.1
    · exact ⟨h.1.1, h.2.setContext setup.contextBank 0 h.1.2⟩
  · have hlines := h.2.lines setup.planeIndex hrow.plane
    exact ⟨h.1, h.2.modifyLine hrow.plane (hlines.store (hrow.fits x hx) x)
      (h.2.borders setup.planeIndex hrow.plane)⟩

theorem encodeGolombRiceStep_progresses (hrow : FittingRow setup samples planes width bits)
    (hx : x ≤ setup.width) :
    Progresses (WritesRows planes width bits counts) (encodeGolombRiceStep setup samples x)
      fun _ => WritesRows planes width bits counts := by
  refine Triple.look fun encoding he => ?_
  dsimp only
  rw [hrow.model]
  refine Triple.computes (ContextModel.deriveContext_zero _) ?_
  rw [if_pos rfl]
  obtain ⟨n, hn, hrun⟩ := LineState.matchRun_eq samples
    (encoding.state.lineState setup.planeIndex) x (setup.width - x)
  have hstops := LineState.matchRun_stops samples
    (encoding.state.lineState setup.planeIndex) x (setup.width - x)
  have hline := (he.2.lines setup.planeIndex hrow.plane).storeRun x n
  have hborder := LineState.storeRun_border (encoding.state.lineState setup.planeIndex) x n
  rw [he.2.borders setup.planeIndex hrow.plane] at hborder
  rw [hrun] at hstops ⊢
  dsimp only at hstops ⊢
  refine Progresses.bind (Q := fun _ => AtLine setup planes width bits counts
    ((encoding.state.lineState setup.planeIndex).storeRun x n)) (Triple.update ?_) fun _ => ?_
  · have hlt : setup.planeIndex < encoding.state.planeCount := by
      rw [he.2.planeCount]
      exact hrow.plane
    intro _ heq
    rw [heq]
    refine ⟨⟨he.1, he.2.modifyLine hrow.plane ?_ ?_⟩, ?_⟩
    · rw [hrun]
      exact hline
    · rw [hrun]
      exact hborder
    · dsimp only [Encoding.modifyState]
      rw [SliceState.lineState_modifyLine hlt, hrun]
  · refine (writeRunOf_progresses (by omega) _).bind fun _ => ?_
    by_cases hend : x + n = setup.width
    · rw [if_pos hend]
      exact Triple.returns fun _ h => h.1
    · rw [if_neg hend]
      have hne := hstops.resolve_left (by omega)
      exact (encodeInterruption_progresses hrow (by omega) hne).bind fun _ => Triple.returns fun _ h => h

theorem encodeGolombRiceLine_progresses (hrow : FittingRow setup samples planes width bits) :
    Progresses (WritesRows planes width bits counts) (encodeGolombRiceLine setup samples)
      fun _ => WritesRows planes width bits counts := by
  have hrounds (fuel x : Nat) : Progresses (WritesRows planes width bits counts)
      (encodeGolombRiceRounds setup samples fuel x) fun _ => WritesRows planes width bits counts := by
    induction fuel generalizing x with
    | zero => exact Triple.returns fun _ h => h
    | succ fuel ih =>
      unfold encodeGolombRiceRounds
      by_cases hend : setup.width ≤ x
      · rw [if_pos hend]
        exact Triple.returns fun _ h => h
      · rw [if_neg hend]
        exact (encodeGolombRiceStep_progresses hrow (by omega)).bind ih
  refine (hrounds setup.width 0).bind fun _ => Triple.update fun encoding h => ?_
  have hlines := h.2.lines setup.planeIndex hrow.plane
  have hborder := h.2.borders setup.planeIndex hrow.plane
  exact ⟨h.1, h.2.modifyLine hrow.plane (hlines.swapLines hborder) hborder⟩

end Rows

section Loops

variable {stream : StreamParameters} {memory : FrameMemory} {windows : List PlaneWindow}
  {width height : Nat → Nat} {counts : List Nat} (h : InputFits stream memory windows width height)
include h

theorem encodeGolombRicePlane_progresses {planeIndex : Nat}
    (hplane : planeIndex < stream.codedPlaneCount) :
    Progresses (WritesRows stream.codedPlaneCount width stream.bitsPerRawSample.toNat counts)
      (encodeGolombRicePlane stream memory windows planeIndex) fun _ =>
      WritesRows stream.codedPlaneCount width stream.bitsPerRawSample.toNat counts := by
  have hbits := supported_depth h.depth
  have hwidth := h.shape.width planeIndex hplane
  unfold encodeGolombRicePlane
  dsimp only
  refine Triple.forLoop (I := fun _ => WritesRows stream.codedPlaneCount width
    stream.bitsPerRawSample.toNat counts) 0 _ fun y _ hy => ?_
  rw [h.shape.height planeIndex hplane, Nat.zero_add] at hy
  rw [hwidth]
  refine Triple.computes (mapM_of_ok fun x hx =>
    h.read hplane (List.mem_range.mp hx) hy) ?_
  refine encodeGolombRiceLine_progresses ⟨?_, hplane, rfl, rfl, by omega, fun x hx => ?_⟩
  · change stream.quantTableSets.getD 0 {} = _
    rw [h.model]
    rfl
  · have hx' : x < width planeIndex := hx
    have hle := h.samples planeIndex hplane x hx' y hy
    have hlt := Nat.lt_of_le_of_lt hle (maximumSample_lt stream)
    simp only [List.map_map, List.getD_eq_getElem?_getD, List.getElem?_map,
      List.getElem?_range hx', Option.map_some, Option.getD_some, Function.comp_apply]
    exact ⟨Int.natCast_nonneg _, by exact_mod_cast hlt⟩

theorem readRgbaRow_of_fits (hcolor : stream.colorspaceType = 1) {y : Nat} (hy : y < height 0) :
    (List.range (width 0)).mapM (readRgbaSample stream memory windows y) =
      .ok ((List.range (width 0)).map (inputRgba stream memory windows y)) := by
  refine mapM_of_ok fun x hx => ?_
  have hx' := List.mem_range.mp hx
  unfold readRgbaSample inputRgba
  rw [h.readRgb hcolor hx' hy]
  cases hextra : stream.extraPlane with
  | false => rfl
  | true =>
    have hplane : 3 < stream.codedPlaneCount := by
      simp only [StreamParameters.codedPlaneCount, h.chroma hcolor, hextra, if_true]
      decide
    obtain ⟨hwidth, hheight⟩ := h.rgb hcolor 3 hplane
    have hread := h.read hplane (hwidth ▸ hx') (hheight ▸ hy)
    change (do
      let alpha ← readInputSample stream memory windows 3 x y
      return (inputRgb stream memory windows y x, alpha)) = _
    rw [hread]
    rfl

theorem encodeGolombRiceRgbRows_progresses (hcolor : stream.colorspaceType = 1) :
    Progresses (WritesRows stream.codedPlaneCount width (stream.bitsPerRawSample.toNat + 1) counts)
      (encodeGolombRiceRgbRows stream memory windows) fun _ =>
      WritesRows stream.codedPlaneCount width (stream.bitsPerRawSample.toNat + 1) counts := by
  have hbits := supported_depth h.depth
  have hchroma := h.chroma hcolor
  have hplanes := h.codedPlanes hcolor
  unfold encodeGolombRiceRgbRows
  dsimp only
  refine Triple.forLoop (I := fun _ => WritesRows stream.codedPlaneCount width
    (stream.bitsPerRawSample.toNat + 1) counts) 0 _ fun y _ hy => ?_
  rw [h.shape.height 0 (by omega), Nat.zero_add] at hy
  rw [h.shape.width 0 (by omega)]
  have hrow := readRgbaRow_of_fits h hcolor hy
  obtain ⟨-, hfits, halpha⟩ := readRgbaRow_ok hrow
  refine Triple.computes hrow ?_
  refine Triple.forLoop (I := fun _ => WritesRows stream.codedPlaneCount width
    (stream.bitsPerRawSample.toNat + 1) counts) 0 _ fun planeIndex _ hplane => ?_
  rw [Nat.zero_add] at hplane
  refine encodeGolombRiceLine_progresses ⟨?_, hplane, ?_, rfl, by omega, fun x hx => ?_⟩
  · change stream.quantTableSets.getD 0 {} = _
    rw [h.model]
    rfl
  · exact (h.rgb hcolor planeIndex hplane).1.symm
  · have hx' : x < width 0 := hx
    rw [rgbRow_getD hchroma hplane hx']
    exact rgbRowValue_fits h.depth hchroma hplane hfits halpha hx'

end Loops

/-- The depth that the Golomb-Rice coder works at. -/
def golombRiceDepth (stream : StreamParameters) : Nat :=
  if stream.colorspaceType = 1 then stream.bitsPerRawSample.toNat + 1
  else stream.bitsPerRawSample.toNat

/-- What a frame leaves of a Golomb-Rice slice to the next one. -/
structure SavedGolombRice (planes : Nat) (counts : List Nat) (state : SliceState) : Prop where
  runs : state.golombRiceRunStates.length = planes
  contexts : ∀ bank context, (state.golombRiceContext bank context).Bounded
  sizes : state.golombRiceContexts.map List.length = counts

theorem RowsCodable.saved {planes bits : Nat} {width : Nat → Nat} {counts : List Nat}
    {state : SliceState} (h : RowsCodable planes width bits counts state) :
    SavedGolombRice planes counts state :=
  ⟨h.runs, h.contexts, h.sizes⟩

section Prepare

variable {planes : Nat} {counts : List Nat} {state : SliceState}

theorem golombRiceContext_fresh (counts : List Nat) (runStates : List GolombRiceRunState)
    (bank context : Nat) : ({ state with
      golombRiceContexts := counts.map fun count => List.replicate count {}
      golombRiceRunStates := runStates } : SliceState).golombRiceContext bank context = {} := by
  simp only [SliceState.golombRiceContext, List.getD_eq_getElem?_getD, List.getElem?_map]
  cases counts[bank]? with
  | none => rfl
  | some count =>
    simp only [Option.map_some, Option.getD_some, List.getElem?_replicate]
    split <;> rfl

/-- A slice goes on from fresh contexts or from saved ones. -/
theorem prepareGolombRice_progresses (hplanes : state.planeCount = planes) (hcounts : 0 ∉ counts)
    (hsaved : state.golombRiceContexts = [] ∧ state.golombRiceRunStates = [] ∨
      SavedGolombRice planes counts state) :
    ∃ prepared, state.prepareGolombRice counts planes = .ok prepared ∧
      prepared.lineStates = state.lineStates ∧ SavedGolombRice planes counts prepared := by
  unfold SliceState.prepareGolombRice
  rw [failIf_of_not (not_not.mpr hplanes.symm), failIf_of_not hcounts]
  by_cases hfresh : state.golombRiceContexts = [] ∧ state.golombRiceRunStates = []
  · simp only [pure_bind, if_pos hfresh]
    refine ⟨_, rfl, rfl, List.length_replicate .., fun bank context => ?_, ?_⟩
    · rw [golombRiceContext_fresh]
      exact GolombRiceContextState.bounded_reset
    · have hsizes : List.length ∘ (fun count => List.replicate count ({} : GolombRiceContextState)) =
          id := funext fun count => List.length_replicate
      rw [List.map_map, hsizes, List.map_id]
  · have hkept := hsaved.resolve_left hfresh
    have hlength : state.golombRiceContexts.length = counts.length := by
      rw [← hkept.sizes, List.length_map]
    simp only [pure_bind, if_neg hfresh]
    rw [failIf_of_not (by rw [hlength, hkept.runs]; simp), failIf_of_not (not_not.mpr hkept.sizes)]
    exact ⟨state, rfl, rfl, hkept⟩

theorem SavedGolombRice.resetRunStates (h : SavedGolombRice planes counts state) :
    SavedGolombRice planes counts state.resetRunStates :=
  ⟨(List.length_map ..).trans h.runs, h.contexts, h.sizes⟩

theorem runIndex_resetRunStates (state : SliceState) (planeIndex : Nat) :
    (state.resetRunStates.golombRiceRunState planeIndex).runIndex = 0 := by
  simp only [SliceState.golombRiceRunState, SliceState.resetRunStates,
    List.getD_eq_getElem?_getD, List.getElem?_map]
  cases state.golombRiceRunStates[planeIndex]? <;> rfl

end Prepare

/-- The lines of a slice start out of zeros. -/
def FreshLines (planes : Nat) (width : Nat → Nat) (state : SliceState) : Prop :=
  state.planeCount = planes ∧ ∀ planeIndex < planes,
    state.lineState planeIndex = LineState.bordered (width planeIndex) 0

section Samples

variable {stream : StreamParameters} {memory : FrameMemory} {windows : List PlaneWindow}
  {width height : Nat → Nat} {state : SliceState}

/-- The sizes of the Golomb-Rice banks. -/
def golombRiceCounts (stream : StreamParameters) : List Nat :=
  List.replicate (encoderGolombRiceBankCount stream) 1

theorem encodeGolombRiceSamples_progresses (h : InputFits stream memory windows width height)
    (hlines : FreshLines stream.codedPlaneCount width state)
    (hsaved : state.golombRiceContexts = [] ∧ state.golombRiceRunStates = [] ∨
      SavedGolombRice stream.codedPlaneCount (golombRiceCounts stream) state) :
    Progresses (fun encoding => TakesBits encoding.writer ∧ encoding.state = state)
      (encodeGolombRiceSamples stream memory windows)
      fun _ => WritesRows stream.codedPlaneCount width (golombRiceDepth stream)
        (golombRiceCounts stream) := by
  have hzero : 0 ∉ golombRiceCounts stream := fun hmem => by
    have := List.eq_of_mem_replicate hmem
    omega
  obtain ⟨prepared, hprepare, hsame, hkept⟩ := prepareGolombRice_progresses hlines.1 hzero hsaved
  have hready : RowsCodable stream.codedPlaneCount width (golombRiceDepth stream)
      (golombRiceCounts stream) prepared.resetRunStates := by
    have hline (planeIndex : Nat) : prepared.resetRunStates.lineState planeIndex =
        state.lineState planeIndex := by
      change prepared.lineStates.getD planeIndex {} = state.lineStates.getD planeIndex {}
      rw [hsame]
    refine ⟨?_, fun planeIndex hplane => ?_, fun planeIndex hplane => ?_, hkept.resetRunStates.runs,
      fun planeIndex => ?_, hkept.contexts, hkept.sizes⟩
    · change prepared.lineStates.length = _
      rw [hsame]
      exact hlines.1
    · rw [hline, hlines.2 planeIndex hplane]
      exact LineState.FitsRow.bordered _ _
    · rw [hline, hlines.2 planeIndex hplane]
      rfl
    · rw [runIndex_resetRunStates]
      decide
  refine Triple.look fun encoding he => ?_
  have hcount : (stream.quantTableSets.getD 0 {}).contextCount.toNat = 1 := by
    rw [h.model]
    rfl
  dsimp only
  rw [hcount, he.2]
  refine Triple.computes hprepare ?_
  refine Progresses.bind (Q := fun _ => WritesRows stream.codedPlaneCount width
    (golombRiceDepth stream) (golombRiceCounts stream)) (Triple.replace ?_) fun _ => ?_
  · exact fun _ _ => ⟨he.1, hready⟩
  · unfold golombRiceDepth
    by_cases hcolor : stream.colorspaceType = 1
    · rw [if_pos hcolor, if_pos hcolor]
      exact encodeGolombRiceRgbRows_progresses h hcolor
    · rw [if_neg hcolor, if_neg hcolor]
      refine Triple.forLoop (I := fun _ => WritesRows stream.codedPlaneCount width
        stream.bitsPerRawSample.toNat (golombRiceCounts stream)) 0 _ fun planeIndex _ hplane => ?_
      rw [Nat.zero_add] at hplane
      exact encodeGolombRicePlane_progresses h hplane

end Samples

end Mffv1
