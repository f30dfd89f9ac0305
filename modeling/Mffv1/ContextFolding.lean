import Mffv1.ConfigurationImage
import Mffv1.LineState
import Mffv1.Lib.BalancedRadix

/-!
# Contexts of parsed tables

The five quantized gradients of a sample are the scaled digits of a balanced
numeral, whatever tables the parser has accepted: a context is the absolute value
of the numeral, and the sign tells which of the two neighbourhoods it was.
-/
namespace Mffv1

open ConfigurationRecordWriter (runLength)

/-- Every entry of the first half holds the value of its run. -/
theorem runs_entry {table : QuantTable} {scale fuel k value : Nat} (hfuel : 128 ≤ k + fuel)
    (hruns : runsEncodable table scale fuel k value = true) {i : Nat} (hlo : k ≤ i) (hhi : i < 128) :
    ∃ digit < runCount table scale fuel k value,
      (table.entry i).toInt = ((scale * digit : Nat) : Int) := by
  induction fuel generalizing k value with
  | zero => omega
  | succ fuel ih =>
    unfold runsEncodable at hruns
    unfold runCount
    have hk : ¬128 ≤ k := by omega
    simp only [hk, decide_false, Bool.false_or, Bool.and_eq_true, decide_eq_true_eq] at hruns
    rw [if_neg hk]
    obtain ⟨hentry, hrest⟩ := hruns
    have hfirst : (table.entry k).toInt = ((scale * value : Nat) : Int) := by exact_mod_cast hentry
    by_cases hrun : i < k + runLength table (scale * value) (128 - k) k
    · exact ⟨value, le_runCount table scale fuel _ (value + 1), runLength_entry _ _ _ _ hlo hrun⟩
    · have hpos := runLength_pos (by omega) hfirst
      exact ih (by omega) hrest (by omega)

theorem runCount_pos {table : QuantTable} {scale : Nat} (h : tableEncodable table scale = true) :
    0 < runCount table scale 128 0 0 := by
  obtain ⟨-, -, hover⟩ := tableEncodable_iff.mp h
  exact Nat.pos_of_ne_zero fun hzero => hover (.inl hzero)

theorem int32_toInt_neg {x : Int32} (h : 0 ≤ x.toInt) : (-x).toInt = -x.toInt := by
  have hlt := x.toInt_lt
  rw [Int32.toInt_neg, Int.bmod_eq_of_le (by omega) (by omega)]

/-- The half-width of the digits of a table. -/
def digitHalf (table : QuantTable) (scale : Nat) : Nat := runCount table scale 128 0 0 - 1

theorem entry_digit {table : QuantTable} {scale : Nat} (h : tableEncodable table scale = true)
    {k : Nat} (hk : k < 256) :
    ∃ digit : Int, (-(digitHalf table scale : Int) ≤ digit ∧ digit ≤ digitHalf table scale) ∧
      (table.entry k).toInt = scale * digit := by
  obtain ⟨hvalid, hruns, -⟩ := tableEncodable_iff.mp h
  obtain ⟨hmirror, hcenter⟩ := validateQuantTableMirror_ok_iff.mp hvalid
  have hlower {i : Nat} (hi : i < 128) : ∃ digit ≤ digitHalf table scale,
      (table.entry i).toInt = ((scale * digit : Nat) : Int) := by
    obtain ⟨digit, hdigit, hentry⟩ := runs_entry (by omega) hruns (Nat.zero_le i) hi
    exact ⟨digit, Nat.le_sub_one_of_lt hdigit, hentry⟩
  have hupper {i : Nat} (hi : i < 128) : ∃ digit : Int,
      (-(digitHalf table scale : Int) ≤ digit ∧ digit ≤ digitHalf table scale) ∧
        (-table.entry i).toInt = scale * digit := by
    obtain ⟨digit, hdigit, hentry⟩ := hlower hi
    refine ⟨-digit, by omega, ?_⟩
    rw [int32_toInt_neg (by rw [hentry]; exact Int.natCast_nonneg _), hentry]
    push_cast
    ring
  rcases Nat.lt_trichotomy k 128 with hlt | rfl | hgt
  · obtain ⟨digit, hdigit, hentry⟩ := hlower hlt
    exact ⟨digit, by omega, by exact_mod_cast hentry⟩
  · rw [hcenter]
    exact hupper (by omega)
  · have hentry := hmirror (256 - k) (by omega)
    rw [show 256 - (256 - k) = k by omega] at hentry
    rw [hentry]
    exact hupper (by omega)

namespace ContextModel

/-- The five quantized gradients of a sample. -/
def quantizedGradients (quantTables : QuantTableSet) (samples : NeighborSamples) : List Int :=
  List.zipWith (fun (table : QuantTable) gradient =>
    (table.entry (contextInputIndex gradient)).toInt) quantTables.tables.toList (gradients samples)

theorem foldedContext_eq (quantTables : QuantTableSet) (samples : NeighborSamples) :
    foldedContext quantTables samples = (quantizedGradients quantTables samples).sum := rfl

/-- The half-widths of `count` tables from `tableIndex` on, at their scales. -/
def digitHalves (tables : Vector QuantTable 5) : (count tableIndex scale : Nat) → List Nat
  | 0, _, _ => []
  | count + 1, tableIndex, scale =>
    digitHalf (tableAt tables tableIndex) scale ::
      digitHalves tables count (tableIndex + 1)
        (scale * (2 * runCount (tableAt tables tableIndex) scale 128 0 0 - 1))

/-- The quantized gradients from `tableIndex` on. -/
def quantizedFrom (tables : Vector QuantTable 5) : (tableIndex : Nat) → List Int → List Int
  | _, [] => []
  | tableIndex, gradient :: gradients =>
    ((tableAt tables tableIndex).entry (contextInputIndex gradient)).toInt ::
      quantizedFrom tables (tableIndex + 1) gradients

theorem quantizedGradients_eq (quantTables : QuantTableSet) (samples : NeighborSamples) :
    quantizedGradients quantTables samples =
      quantizedFrom quantTables.tables 0 (gradients samples) := by
  have htables : quantTables.tables.toList = (List.range 5).map (tableAt quantTables.tables) := by
    refine List.ext_getElem (by simp) fun i hi hi' => ?_
    have hlt : i < 5 := by simpa using hi'
    simp [tableAt, hlt]
  unfold quantizedGradients
  rw [htables]
  rfl

/-- The radix of a place, by its half-width. -/
theorem radix_eq {table : QuantTable} {scale : Nat} (h : tableEncodable table scale = true) :
    2 * runCount table scale 128 0 0 - 1 = 2 * digitHalf table scale + 1 := by
  have hpos := runCount_pos h
  unfold digitHalf
  omega

theorem contextInputIndex_lt (value : Int) : contextInputIndex value < 256 := by
  unfold contextInputIndex
  omega

theorem quantizedFrom_numeral {tables : Vector QuantTable 5} {tableIndex scale : Nat}
    (gradients : List Int)
    (h : tablesEncodable tables gradients.length tableIndex scale = true) :
    BalancedRadix.Numeral scale (digitHalves tables gradients.length tableIndex scale)
      (quantizedFrom tables tableIndex gradients) := by
  induction gradients generalizing tableIndex scale with
  | nil => exact BalancedRadix.Numeral.nil
  | cons gradient gradients ih =>
    rw [List.length_cons, tablesEncodable, Bool.and_eq_true] at h
    obtain ⟨htable, hrest⟩ := h
    obtain ⟨digit, hdigit, hentry⟩ := entry_digit htable (contextInputIndex_lt gradient)
    have htail := ih hrest
    rw [quantizedFrom, hentry, List.length_cons, digitHalves]
    refine BalancedRadix.Numeral.cons digit hdigit ?_
    rwa [radix_eq htable] at htail ⊢

theorem finalScale_span {tables : Vector QuantTable 5} {count tableIndex scale : Nat}
    (h : tablesEncodable tables count tableIndex scale = true) :
    finalScale tables count tableIndex scale =
      BalancedRadix.span scale (digitHalves tables count tableIndex scale) := by
  induction count generalizing tableIndex scale with
  | zero => rfl
  | succ count ih =>
    rw [tablesEncodable, Bool.and_eq_true] at h
    obtain ⟨htable, hrest⟩ := h
    rw [finalScale, digitHalves, BalancedRadix.span, ih hrest, radix_eq htable]

/-- A table set that the parser returns. -/
def Accepted (quantTables : QuantTableSet) : Prop :=
  ∃ reader reader', ConfigurationParser.parseQuantTableSet reader = .ok quantTables reader'

/-- What the record writer writes is accepted, where the parser allows as many contexts. -/
theorem accepted_of_write {quantTables : QuantTableSet} {start writer : RangeEncoder}
    (hcount : quantTables.contextCount.toNat ≤ ConfigurationParser.maxContextCount)
    (hstart : RangeEncoder.reset [1] [] defaultStateTransition {} = .ok () start)
    (hwrite : ConfigurationRecordWriter.writeQuantTableSet quantTables start = .ok () writer) :
    Accepted quantTables := by
  have hready := RangeEncoder.reset_ready hstart
  have hreads : Reads writer.lowBytes [] False _ _ _ :=
    quantTableSet_reads quantTables fun hmore => by omega
  obtain ⟨hwriterReady, hback⟩ := hreads start () writer hready hwrite
  have hfits := finalize_fits hwriterReady []
  rw [List.append_nil] at hfits
  obtain ⟨hstartFits, hread⟩ := hback hfits
  obtain ⟨reader, -, htracks⟩ := reset_tracks_fresh hstart hstartFits hwriterReady.length_ge
  obtain ⟨_, reader', hparse, rfl, -⟩ := (hread reader htracks).result
  exact ⟨reader, reader', hparse⟩

theorem Accepted.numeral {quantTables : QuantTableSet} (h : Accepted quantTables)
    (samples : NeighborSamples) :
    BalancedRadix.Numeral 1 (digitHalves quantTables.tables 5 0 1)
      (quantizedGradients quantTables samples) := by
  obtain ⟨reader, reader', hparse⟩ := h
  obtain ⟨hencodable, -, -⟩ := parseQuantTableSet_returns _ _ _ hparse
  rw [setEncodable, Bool.and_eq_true] at hencodable
  rw [quantizedGradients_eq]
  exact quantizedFrom_numeral (gradients samples) hencodable.1

theorem digitHalves_length (tables : Vector QuantTable 5) (count tableIndex scale : Nat) :
    (digitHalves tables count tableIndex scale).length = count := by
  induction count generalizing tableIndex scale with
  | zero => rfl
  | succ count ih => rw [digitHalves, List.length_cons, ih]

/-- The folded gradients fit the contexts on either side of zero. -/
theorem Accepted.folded_lt {quantTables : QuantTableSet} (h : Accepted quantTables)
    (samples : NeighborSamples) :
    (foldedContext quantTables samples).natAbs < quantTables.contextCount.toNat := by
  have hbound := (h.numeral samples).sum_lt
  obtain ⟨reader, reader', hparse⟩ := h
  obtain ⟨hencodable, hcount, -⟩ := parseQuantTableSet_returns _ _ _ hparse
  rw [setEncodable, Bool.and_eq_true] at hencodable
  rw [← finalScale_span hencodable.1, ← foldedContext_eq] at hbound
  have habs := Int.abs_eq_natAbs (foldedContext quantTables samples)
  omega

theorem Accepted.deriveContext {quantTables : QuantTableSet} (h : Accepted quantTables)
    (samples : NeighborSamples) :
    deriveContext quantTables samples =
      .ok { context := (foldedContext quantTables samples).natAbs
            invertDifference := decide (foldedContext quantTables samples < 0) } := by
  have hlt := h.folded_lt samples
  have hcount : ¬quantTables.contextCount = 0 := by
    rintro hzero
    rw [hzero] at hlt
    exact absurd hlt (Nat.not_lt_zero _)
  unfold ContextModel.deriveContext
  rw [failIf_of_not hcount]
  simp only [failIf_of_not (Nat.not_le_of_lt hlt)]
  rfl

/-- Every neighbourhood has a context; it tells the quantized gradients up to their sign,
and the inversion tells the sign. -/
theorem deriveContext_faithful {quantTables : QuantTableSet} (h : Accepted quantTables)
    (samples samples' : NeighborSamples) :
    ∃ decision decision', deriveContext quantTables samples = .ok decision ∧
      deriveContext quantTables samples' = .ok decision' ∧
      decision.context < quantTables.contextCount.toNat ∧
      ((decision.context = decision'.context ∧
          decision.invertDifference = decision'.invertDifference) ↔
        quantizedGradients quantTables samples = quantizedGradients quantTables samples') ∧
      ((decision.context = decision'.context ∧
          decision.invertDifference ≠ decision'.invertDifference) ↔
        quantizedGradients quantTables samples =
            (quantizedGradients quantTables samples').map (- ·) ∧
          quantizedGradients quantTables samples ≠ List.replicate 5 0) ∧
      (decision.context = 0 ↔ quantizedGradients quantTables samples = List.replicate 5 0) := by
  have hnumeral := h.numeral samples
  have hzero := hnumeral.sum_eq_zero_iff Nat.one_pos
  rw [digitHalves_length] at hzero
  refine ⟨_, _, h.deriveContext samples, h.deriveContext samples', h.folded_lt samples, ?_, ?_, ?_⟩
  · rw [← hnumeral.sum_eq_iff Nat.one_pos (h.numeral samples'), ← foldedContext_eq,
      ← foldedContext_eq]
    simp only [decide_eq_decide]
    constructor
    · rintro ⟨habs, hsign⟩
      omega
    · intro hsame
      rw [hsame]
      exact ⟨rfl, Iff.rfl⟩
  · rw [← hnumeral.sum_eq_neg_iff Nat.one_pos (h.numeral samples'), Ne, Ne, ← hzero,
      ← foldedContext_eq, ← foldedContext_eq]
    simp only [decide_eq_decide]
    constructor
    · rintro ⟨habs, hsign⟩
      omega
    · rintro ⟨hneg, hne⟩
      omega
  · rw [← hzero, ← foldedContext_eq]
    exact Int.natAbs_eq_zero

/-- A coder on a table of three runs and four of one. -/
def threeRunReader : RangeCoder :=
  Mirror.finalState (RangeCoder.resetSingle [70, 174, 182, 108, 233, 211, 167, 78, 157, 57, 236]
    defaultStateTransition {})

theorem deriveContext_faithful_three_runs :
    ∃ quantTables reader', ConfigurationParser.parseQuantTableSet threeRunReader =
        .ok quantTables reader' ∧
      ∃ decision decision', deriveContext quantTables { left := 5 } = .ok decision ∧
        deriveContext quantTables { topLeft := 5 } = .ok decision' ∧
        decision.context < quantTables.contextCount.toNat ∧
        ((decision.context = decision'.context ∧
            decision.invertDifference ≠ decision'.invertDifference) ↔
          quantizedGradients quantTables { left := 5 } =
              (quantizedGradients quantTables { topLeft := 5 }).map (- ·) ∧
            quantizedGradients quantTables { left := 5 } ≠ List.replicate 5 0) := by
  obtain ⟨quantTables, reader', hparse⟩ := Mirror.exists_ok_of_succeeded
    (show Mirror.succeeded (ConfigurationParser.parseQuantTableSet threeRunReader) = true by
      decide +kernel)
  obtain ⟨decision, decision', hfirst, hsecond, hlt, -, hopposite, -⟩ :=
    deriveContext_faithful ⟨threeRunReader, reader', hparse⟩ { left := 5 } { topLeft := 5 }
  exact ⟨quantTables, reader', hparse, decision, decision', hfirst, hsecond, hlt, hopposite⟩

end ContextModel

end Mffv1
