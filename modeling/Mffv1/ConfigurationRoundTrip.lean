import Mffv1.ConfigurationRecordParser
import Mffv1.ConfigurationRecordWriter
import Mffv1.RangeSymbols

/-!
# The configuration parser reads what the record writer writes

The two sides are compared line by line. The only check that the parser makes
and the writer does not is the limit on the context count of a table set.
-/
namespace Mffv1

section Independent

variable {payload : Bytes} {base : List ContextStateBanks} {F : Prop} {α β : Type}

theorem writeIndependent_ok {body : Call RangeEncoder α} {e e' : RangeEncoder} {a : α}
    (h : ConfigurationRecordWriter.withIndependentContexts body e = .ok a e') :
    (do
      RangeEncoder.beginIndependentScalarContexts 1
      let a ← body
      RangeEncoder.endIndependentScalarContexts
      return a : Call RangeEncoder α) e = .ok a e' := by
  unfold ConfigurationRecordWriter.withIndependentContexts at h
  cases hbegin : RangeEncoder.beginIndependentScalarContexts 1 e with
  | error status e₁ => simp only [hbegin, reduceCtorEq] at h
  | ok u e₁ =>
    rw [Mirror.bind_ok hbegin]
    simp only [hbegin] at h
    cases hbody : body e₁ with
    | error status e₂ =>
      simp only [hbody] at h
      cases hend : RangeEncoder.endIndependentScalarContexts e₂ <;>
        simp only [hend, reduceCtorEq] at h
    | ok a₂ e₂ =>
      rw [Mirror.bind_ok hbody]
      simp only [hbody] at h
      cases hend : RangeEncoder.endIndependentScalarContexts e₂ with
      | error status e₃ => simp only [hend, reduceCtorEq] at h
      | ok u e₃ =>
        rw [Mirror.bind_ok hend]
        simp only [hend] at h
        exact h

theorem readIndependent_outcome {body : Call RangeCoder β} {d : RangeCoder}
    {Q : β → RangeCoder → Prop}
    (h : Mirror.Outcome F Q
      ((do
        RangeCoder.beginIndependentScalarContexts 1
        let b ← body
        RangeCoder.endIndependentScalarContexts
        return b : Call RangeCoder β) d)) :
    Mirror.Outcome F Q (ConfigurationParser.withIndependentContexts body d) := by
  unfold ConfigurationParser.withIndependentContexts
  cases hbegin : RangeCoder.beginIndependentScalarContexts 1 d with
  | error status d₁ =>
    rw [Mirror.bind_error hbegin] at h
    exact h
  | ok u d₁ =>
    rw [Mirror.bind_ok hbegin] at h
    cases hbody : body d₁ with
    | error status d₂ =>
      rw [Mirror.bind_error hbody] at h
      simp only [hbody]
      exact h
    | ok b d₂ =>
      rw [Mirror.bind_ok hbody] at h
      cases hend : RangeCoder.endIndependentScalarContexts d₂ with
      | error status d₃ =>
        rw [Mirror.bind_error hend] at h
        simp only [hbody, hend]
        exact h
      | ok u d₃ =>
        rw [Mirror.bind_ok hend] at h
        simp only [hbody, hend]
        exact h

theorem independent_reads {w : Call RangeEncoder α} {r : Call RangeCoder β} {k : α → β}
    (h : Reads payload base F w r k) :
    Reads payload base F (ConfigurationRecordWriter.withIndependentContexts w)
      (ConfigurationParser.withIndependentContexts r) k := by
  have hplain : Reads payload base F
      (do
        RangeEncoder.beginIndependentScalarContexts 1
        let a ← w
        RangeEncoder.endIndependentScalarContexts
        return a)
      (do
        RangeCoder.beginIndependentScalarContexts 1
        let b ← r
        RangeCoder.endIndependentScalarContexts
        return b) k :=
    (beginIndependent_reads 1).bind fun _ => h.bind fun _ =>
      endIndependent_reads.bind fun _ => Reads.pure rfl
  intro e a e' hready hw
  obtain ⟨hready', hback⟩ := hplain e a e' hready (writeIndependent_ok hw)
  exact ⟨hready', fun hfits =>
    ⟨(hback hfits).1, fun d ht => readIndependent_outcome ((hback hfits).2 d ht)⟩⟩

theorem writeIndependent_returns {w : Call RangeEncoder α} {φ : α → Prop}
    (h : Mirror.Returns w φ) :
    Mirror.Returns (ConfigurationRecordWriter.withIndependentContexts w) φ := by
  intro e a e' hw
  have hplain := writeIndependent_ok hw
  obtain ⟨_, e₁, _, hrest⟩ := Mirror.bind_ok_iff.mp hplain
  obtain ⟨a', e₂, hbody, hrest⟩ := Mirror.bind_ok_iff.mp hrest
  obtain ⟨_, e₃, _, hrest⟩ := Mirror.bind_ok_iff.mp hrest
  simp only [Mirror.pure_apply, EStateM.Result.ok.injEq] at hrest
  exact hrest.1 ▸ h e₁ a' e₂ hbody

end Independent

section Tables

open ConfigurationRecordWriter (runLength writeQuantTableRuns)
open ConfigurationParser (fillRun parseQuantTableRuns mirrorTable)

@[simp] theorem QuantTable.entry_ofFn (f : Fin 256 → Int32) {k : Nat} (h : k < 256) :
    QuantTable.entry (Vector.ofFn f) k = f ⟨k, h⟩ := by
  simp [QuantTable.entry, h]

theorem QuantTable.ext_entry {s t : QuantTable} (h : ∀ k < 256, s.entry k = t.entry k) : s = t := by
  apply Vector.ext
  intro k hk
  simpa [QuantTable.entry, hk] using h k hk

theorem QuantTable.entry_set (table : QuantTable) (stored : Int32) {k i : Nat} (h : k < 256) :
    QuantTable.entry (table.setIfInBounds k stored) i = if i = k then stored else table.entry i := by
  unfold QuantTable.entry
  rw [Vector.getElem?_setIfInBounds]
  by_cases hik : k = i
  · subst hik
    simp [h]
  · simp [hik, Ne.symm hik]

theorem fillRun_entry (stored : Int32) (len k : Nat) (table : QuantTable) (h : k + len ≤ 256)
    (i : Nat) :
    (fillRun stored len k table).entry i =
      if k ≤ i ∧ i < k + len then stored else table.entry i := by
  induction len generalizing k table with
  | zero =>
    rw [if_neg (by omega)]
    rfl
  | succ len ih =>
    rw [fillRun, ih (k + 1) _ (by omega), QuantTable.entry_set _ _ (by omega)]
    by_cases h₁ : k + 1 ≤ i ∧ i < k + 1 + len
    · rw [if_pos h₁, if_pos (by omega)]
    · rw [if_neg h₁]
      by_cases h₂ : i = k
      · rw [if_pos h₂, if_pos (by omega)]
      · rw [if_neg h₂, if_neg (by omega)]

theorem runLength_le (table : QuantTable) (expected remaining k : Nat) :
    runLength table expected remaining k ≤ remaining := by
  induction remaining generalizing k with
  | zero => exact Nat.le_refl 0
  | succ remaining ih =>
    have := ih (k + 1)
    unfold runLength
    split <;> omega

theorem runLength_entry (table : QuantTable) (expected remaining k : Nat) {i : Nat}
    (hlo : k ≤ i) (hhi : i < k + runLength table expected remaining k) :
    (table.entry i).toInt = expected := by
  induction remaining generalizing k with
  | zero =>
    simp only [runLength] at hhi
    omega
  | succ remaining ih =>
    unfold runLength at hhi
    split at hhi
    · rename_i heq
      by_cases hik : i = k
      · rwa [hik]
      · exact ih (k + 1) (by omega) (by omega)
    · omega

theorem int32_toInt_le (x : Int32) : x.toInt ≤ ConfigurationParser.int32Max := by
  have := x.toInt_lt
  unfold ConfigurationParser.int32Max
  omega

theorem int32_ofNat_toInt {x : Int32} {n : Nat} (h : x.toInt = n) : Int32.ofNat n = x := by
  rw [← Int32.ofInt_eq_ofNat, ← h, Int32.ofInt_toInt]

/-- The first half of `table`, the second half of `other`. -/
def withFirstHalf (table other : QuantTable) : QuantTable :=
  Vector.ofFn fun k => if k.val < 128 then table.entry k.val else other.entry k.val

theorem withFirstHalf_eq {table other : QuantTable}
    (h : ∀ i < 128, other.entry i = table.entry i) : withFirstHalf table other = other := by
  apply QuantTable.ext_entry
  intro k hk
  unfold withFirstHalf
  rw [QuantTable.entry_ofFn _ hk]
  by_cases hlt : k < 128
  · rw [if_pos hlt, h k hlt]
  · rw [if_neg hlt]

theorem withFirstHalf_congr {table other other' : QuantTable}
    (h : ∀ i, 128 ≤ i → other.entry i = other'.entry i) :
    withFirstHalf table other = withFirstHalf table other' := by
  apply QuantTable.ext_entry
  intro k hk
  unfold withFirstHalf
  rw [QuantTable.entry_ofFn _ hk, QuantTable.entry_ofFn _ hk]
  by_cases hlt : k < 128
  · rw [if_pos hlt, if_pos hlt]
  · rw [if_neg hlt, if_neg hlt, h k (by omega)]

variable {payload : Bytes} {base : List ContextStateBanks} {F : Prop}

theorem writeU_reads (value : Nat) :
    Reads payload base F (ConfigurationRecordWriter.writeU value) ConfigurationParser.readU
      (fun _ => value) :=
  unsigned_reads 0 0 value

theorem quantTableRuns_reads (table : QuantTable) (tableIndex : Nat) {scale : Nat}
    (hscale : 0 < scale) (fuel k value : Nat) (filled : QuantTable) (hfuel : 128 ≤ k + fuel)
    (hsame : ∀ i < min k 128, filled.entry i = table.entry i) :
    Reads payload base F (writeQuantTableRuns table tableIndex scale fuel k value)
      (parseQuantTableRuns tableIndex scale fuel k value filled)
      (fun n => (withFirstHalf table filled, n)) := by
  induction fuel generalizing k value filled with
  | zero =>
    refine Reads.pure ?_
    rw [withFirstHalf_eq fun i hi => hsame i (by omega)]
  | succ fuel ih =>
    unfold writeQuantTableRuns parseQuantTableRuns
    by_cases hk : 128 ≤ k
    · simp only [hk, if_true]
      refine Reads.pure ?_
      rw [withFirstHalf_eq fun i hi => hsame i (by omega)]
    · simp only [hk, if_false]
      refine Reads.checks fun _ => Reads.checks fun hentry => Reads.checks fun hlen => ?_
      have hle := runLength_le table (scale * value) (128 - k) k
      have hval : scale * value ≤ ConfigurationParser.int32Max := by
        have := int32_toInt_le (table.entry k)
        rw [not_not.mp hentry] at this
        exact_mod_cast this
      refine (writeU_reads _).bind fun _ => Reads.passes (by omega) (Reads.passes ?_ ?_)
      · rw [Nat.max_eq_left hscale, Nat.not_lt, Nat.le_div_iff_mul_le hscale, Nat.mul_comm]
        exact hval
      · have hmin : min (runLength table (scale * value) (128 - k) k - 1 + 1) (128 - k) =
            runLength table (scale * value) (128 - k) k := by omega
        rw [hmin]
        have hfill (i : Nat) := fillRun_entry (Int32.ofNat (scale * value))
          (runLength table (scale * value) (128 - k) k) k filled (by omega) i
        refine (ih _ _ _ (by omega) fun i hi => ?_).congr fun n => ?_
        · rw [hfill]
          by_cases hik : k ≤ i
          · have hentry := runLength_entry table (scale * value) (128 - k) k hik (by omega)
            rw [if_pos (by omega), int32_ofNat_toInt hentry]
          · rw [if_neg (by omega), hsame i (by omega)]
        · rw [withFirstHalf_congr fun i hi => ?_]
          rw [hfill, if_neg (by omega)]

/-- The number of runs of the first half, counted from `value` at entry `k` on. -/
def runCount (table : QuantTable) (scale : Nat) : (fuel k value : Nat) → Nat
  | 0, _, value => value
  | fuel + 1, k, value =>
    if 128 ≤ k then value
    else runCount table scale fuel (k + runLength table (scale * value) (128 - k) k) (value + 1)

theorem le_runCount (table : QuantTable) (scale fuel k value : Nat) :
    value ≤ runCount table scale fuel k value := by
  induction fuel generalizing k value with
  | zero => exact Nat.le_refl _
  | succ fuel ih =>
    unfold runCount
    split
    · exact Nat.le_refl _
    · exact (Nat.le_succ _).trans (ih _ _)

/-- The writer counts the runs, and the last of them holds a value of the table. -/
theorem writeQuantTableRuns_returns (table : QuantTable) (tableIndex scale fuel k value : Nat) :
    Mirror.Returns (writeQuantTableRuns table tableIndex scale fuel k value) (fun n =>
      n = runCount table scale fuel k value ∧
        (n = value ∨ scale * (n - 1) ≤ ConfigurationParser.int32Max)) := by
  induction fuel generalizing k value with
  | zero => exact Mirror.Returns.pure ⟨rfl, .inl rfl⟩
  | succ fuel ih =>
    unfold writeQuantTableRuns runCount
    by_cases hk : 128 ≤ k
    · simp only [hk, if_true]
      exact Mirror.Returns.pure ⟨rfl, .inl rfl⟩
    · simp only [hk, if_false]
      intro e n e' hw
      simp only [Mirror.bind_ok_iff, failIf_call_ok_iff, exists_unit, and_assoc, exists_and_left,
        exists_eq_left] at hw
      obtain ⟨_, hentry, _, e₁, _, hrest⟩ := hw
      obtain ⟨hn, hlast⟩ := ih _ _ e₁ n e' hrest
      refine ⟨hn, .inr ?_⟩
      rcases hlast with rfl | hle
      · have := int32_toInt_le (table.entry k)
        rw [not_not.mp hentry] at this
        exact_mod_cast this
      · exact hle

theorem validateQuantTableMirror_ok_iff {table : QuantTable} :
    ConfigurationRecordWriter.validateQuantTableMirror table = .ok () ↔
      (∀ i, 1 ≤ i ∧ i < 128 → table.entry (256 - i) = -table.entry i) ∧
        table.entry 128 = -table.entry 127 := by
  simp only [ConfigurationRecordWriter.validateQuantTableMirror, except_bind_ok, exists_unit,
    failIf_ok_iff, not_not]
  simp only [ConfigurationRecordWriter.mirrorInconsistent, List.any_eq_true, List.mem_range'_1,
    decide_eq_true_eq, not_exists, not_and, not_not, and_imp]

theorem mirrorTable_withFirstHalf {table : QuantTable} (other : QuantTable)
    (h : ConfigurationRecordWriter.validateQuantTableMirror table = .ok ()) :
    mirrorTable (withFirstHalf table other) = table := by
  obtain ⟨hmirror, hcenter⟩ := validateQuantTableMirror_ok_iff.mp h
  apply QuantTable.ext_entry
  intro k hk
  have hhalf {i : Nat} (hi : i < 128) : (withFirstHalf table other).entry i = table.entry i := by
    unfold withFirstHalf
    rw [QuantTable.entry_ofFn _ (by omega), if_pos hi]
  unfold mirrorTable
  rw [QuantTable.entry_ofFn _ hk]
  by_cases h₁ : k < 128
  · rw [if_pos h₁, hhalf h₁]
  · rw [if_neg h₁]
    by_cases h₂ : k = 128
    · rw [if_pos h₂, hhalf (by omega), h₂, hcenter]
    · have hk' := hmirror (256 - k) (by omega)
      rw [show 256 - (256 - k) = k by omega] at hk'
      rw [if_neg h₂, hhalf (by simp only; omega), ← hk']

theorem quantTable_reads (table other : QuantTable) (tableIndex : Nat) {scale : Nat}
    (hscale : 0 < scale) :
    Reads payload base F (ConfigurationRecordWriter.writeQuantTable table tableIndex scale)
      (ConfigurationParser.parseQuantTable other tableIndex scale) (fun n => (table, n)) := by
  unfold ConfigurationRecordWriter.writeQuantTable ConfigurationParser.parseQuantTable
  cases hvalid : ConfigurationRecordWriter.validateQuantTableMirror table with
  | error status => exact Mirror.Mirrors.of_error fun e a e' hw => by cases hw
  | ok u =>
    have hruns : Reads payload base F (writeQuantTableRuns table tableIndex scale 128 0 0)
        (parseQuantTableRuns tableIndex scale 128 0 0 other)
        (fun n => (withFirstHalf table other, n)) :=
      quantTableRuns_reads table tableIndex hscale 128 0 0 other (by omega) (by omega)
    have hmap := hruns.map fun x => (mirrorTable x.1, x.2)
    simp only [mirrorTable_withFirstHalf other hvalid] at hmap
    exact hmap

theorem writeQuantTable_returns (table : QuantTable) (tableIndex scale : Nat) :
    Mirror.Returns (ConfigurationRecordWriter.writeQuantTable table tableIndex scale) (fun n =>
      n = runCount table scale 128 0 0 ∧ scale * (n - 1) ≤ ConfigurationParser.int32Max) := by
  unfold ConfigurationRecordWriter.writeQuantTable
  cases ConfigurationRecordWriter.validateQuantTableMirror table with
  | error status => exact fun e a e' hw => by cases hw
  | ok u =>
    refine (writeQuantTableRuns_returns table tableIndex scale 128 0 0).imp ?_
    rintro n ⟨hn, h₀ | hle⟩
    · exact ⟨hn, by simp [h₀]⟩
    · exact ⟨hn, hle⟩

/-- The table at an index of a set. -/
def tableAt (tables : Vector QuantTable 5) (tableIndex : Nat) : QuantTable :=
  tables[tableIndex]?.getD (Vector.replicate 256 0)

/-- The run counts of `count` tables from `tableIndex` on, at their scales. -/
def runCounts (tables : Vector QuantTable 5) : (count tableIndex scale : Nat) → List Nat
  | 0, _, _ => []
  | count + 1, tableIndex, scale =>
    let lenCount := runCount (tableAt tables tableIndex) scale 128 0 0
    lenCount :: runCounts tables count (tableIndex + 1) (scale * (2 * lenCount - 1))

/-- Scales stay within what 32-bit table values allow. -/
theorem scale_step {scale lenCount : Nat} (hscale : scale ≤ 3 * ConfigurationParser.int32Max)
    (hlast : scale * (lenCount - 1) ≤ ConfigurationParser.int32Max) :
    scale * (2 * lenCount - 1) ≤ 3 * ConfigurationParser.int32Max := by
  by_cases h : lenCount ≤ 1
  · have : 2 * lenCount - 1 ≤ 1 := by omega
    exact (Nat.mul_le_mul_left scale this).trans (by omega)
  · obtain ⟨n, rfl⟩ : ∃ n, lenCount = n + 2 := ⟨lenCount - 2, by omega⟩
    have h₁ : scale * (2 * (n + 2) - 1) = 2 * (scale * (n + 2 - 1)) + scale := by
      rw [show 2 * (n + 2) - 1 = 2 * (n + 2 - 1) + 1 by omega]
      ring
    have h₂ : scale ≤ scale * (n + 2 - 1) := Nat.le_mul_of_pos_right scale (by omega)
    omega

theorem writeQuantTables_returns (tables : Vector QuantTable 5) (count tableIndex scale : Nat)
    (hpos : 0 < scale) (hscale : scale ≤ 3 * ConfigurationParser.int32Max) :
    Mirror.Returns (ConfigurationRecordWriter.writeQuantTables tables count tableIndex scale)
      (fun n => 0 < n ∧ n ≤ 3 * ConfigurationParser.int32Max) := by
  induction count generalizing tableIndex scale with
  | zero => exact Mirror.Returns.pure ⟨hpos, hscale⟩
  | succ count ih =>
    unfold ConfigurationRecordWriter.writeQuantTables
    refine Mirror.Returns.bind
      (writeIndependent_returns (writeQuantTable_returns _ tableIndex scale)) ?_
    rintro lenCount ⟨_, hlast⟩ e n e' hw
    simp only [Mirror.bind_ok_iff, failIf_call_ok_iff, exists_unit, and_assoc, exists_and_left,
      exists_eq_left] at hw
    obtain ⟨hnot, hrest⟩ := hw
    have hlen : 0 < 2 * lenCount - 1 := by
      unfold ConfigurationRecordWriter.scaleOverflows at hnot
      omega
    exact ih _ _ (Nat.mul_pos hpos hlen) (scale_step hscale hlast) e n e' hrest

theorem tables_set_tableAt {tables filled : Vector QuantTable 5} {tableIndex : Nat}
    (hsame : ∀ i < tableIndex, tableAt filled i = tableAt tables i) (i : Nat)
    (hi : i < tableIndex + 1) :
    tableAt (filled.setIfInBounds tableIndex (tableAt tables tableIndex)) i = tableAt tables i := by
  unfold tableAt at hsame ⊢
  rw [Vector.getElem?_setIfInBounds]
  by_cases h : tableIndex = i
  · subst h
    by_cases hlt : tableIndex < 5 <;> simp [hlt]
  · rw [if_neg h, hsame i (by omega)]

theorem tables_ext {s t : Vector QuantTable 5} (h : ∀ i < 5, tableAt s i = tableAt t i) : s = t := by
  apply Vector.ext
  intro i hi
  simpa [tableAt, hi] using h i hi

theorem quantTables_reads (tables : Vector QuantTable 5) (count tableIndex : Nat) {scale : Nat}
    (hscale : 0 < scale) (lenCounts : List Nat) (filled : Vector QuantTable 5)
    (hcount : 5 ≤ tableIndex + count)
    (hsame : ∀ i < tableIndex, tableAt filled i = tableAt tables i) :
    Reads payload base F
      (ConfigurationRecordWriter.writeQuantTables tables count tableIndex scale)
      (ConfigurationParser.parseQuantTables count tableIndex scale lenCounts filled)
      (fun n => (tables, n, lenCounts ++ runCounts tables count tableIndex scale)) := by
  induction count generalizing tableIndex scale lenCounts filled with
  | zero =>
    refine Reads.pure ?_
    rw [tables_ext fun i hi => hsame i (by omega), runCounts, List.append_nil]
  | succ count ih =>
    unfold ConfigurationRecordWriter.writeQuantTables ConfigurationParser.parseQuantTables
    refine Reads.bind_of (writeIndependent_returns (writeQuantTable_returns _ tableIndex scale))
      (independent_reads (quantTable_reads _ _ tableIndex hscale)) ?_
    rintro lenCount ⟨hlen, -⟩
    refine Reads.checks fun hwriter => Reads.passes hwriter ?_
    have hpos : 0 < 2 * lenCount - 1 := by
      unfold ConfigurationRecordWriter.scaleOverflows at hwriter
      omega
    refine (ih (tableIndex + 1) (Nat.mul_pos hscale hpos) (lenCounts ++ [lenCount]) _ (by omega)
      (tables_set_tableAt hsame)).congr fun n => ?_
    rw [runCounts, List.append_assoc, hlen]
    rfl

end Tables

section Sets

variable {payload : Bytes} {base : List ContextStateBanks} {F : Prop}

/-- A last check of the reader that fails only where refusing is allowed. -/
theorem Reads.pure_or_refuse {α β : Type} {k : α → β} {a : α} {b : β} {condition : Prop}
    [Decidable condition] {error : Error} (hrefuse : condition → F)
    (hread : ¬condition → b = k a) :
    Reads payload base F (Pure.pure a) (failIf condition error >>= fun _ => Pure.pure b) k := by
  by_cases hcond : condition
  · intro e a' e' hready hw
    simp only [Mirror.pure_apply, EStateM.Result.ok.injEq] at hw
    obtain ⟨rfl, rfl⟩ := hw
    refine ⟨hready, fun hfits => ⟨hfits, fun d ht => ?_⟩⟩
    simp only [failIf, hcond, if_true]
    exact hrefuse hcond
  · exact Reads.passes hcond (Reads.pure (hread hcond))

/-- A last check of the writer. -/
theorem Reads.checked {β : Type} {r : Call RangeCoder β} {k : Unit → β} {condition : Prop}
    [Decidable condition] {error : Error}
    (h : ¬condition → Reads payload base F (Pure.pure ()) r k) :
    Reads payload base F (failIf condition error) r k := by
  have hbind : Reads payload base F (failIf condition error >>= Pure.pure) r k := Reads.checks h
  rwa [bind_pure] at hbind

theorem quantTableSet_reads (tableSet : QuantTableSet)
    (hF : ConfigurationParser.maxContextCount < tableSet.contextCount.toNat → F) :
    Reads payload base F (ConfigurationRecordWriter.writeQuantTableSet tableSet)
      ConfigurationParser.parseQuantTableSet (fun _ => tableSet) := by
  unfold ConfigurationRecordWriter.writeQuantTableSet ConfigurationParser.parseQuantTableSet
  have hint : (1 : Nat) ≤ 3 * ConfigurationParser.int32Max := by
    unfold ConfigurationParser.int32Max
    omega
  refine Reads.bind_of (writeQuantTables_returns _ _ 0 1 (by omega) hint)
    (quantTables_reads tableSet.tables 5 0 (by omega) [] _ (by omega) (by omega)) ?_
  rintro scale ⟨hpos, hle⟩
  refine Reads.checked fun hcount => ?_
  have hcontext : tableSet.contextCount.toNat = (scale + 1) / 2 := by
    unfold ConfigurationParser.int32Max at hle
    rw [not_not.mp hcount]
    exact Nat.mod_eq_of_lt (show (scale + 1) / 2 < 2 ^ 32 by omega)
  refine Reads.pure_or_refuse (fun hcond => hF ?_) (fun _ => ?_)
  · omega
  · rw [← not_not.mp hcount]

theorem quantTableSets_reads (sets : List QuantTableSet)
    (hF : ∀ tableSet ∈ sets,
      ConfigurationParser.maxContextCount < tableSet.contextCount.toNat → F) :
    Reads payload base F (ConfigurationRecordWriter.writeQuantTableSets sets)
      (ConfigurationParser.parseQuantTableSets sets.length) (fun _ => sets) := by
  induction sets with
  | nil => exact Reads.pure rfl
  | cons tableSet sets ih =>
    refine (quantTableSet_reads tableSet (hF tableSet (by simp))).bind fun _ => ?_
    exact (ih fun set hset => hF set (by simp [hset])).map (tableSet :: ·)

namespace ConfigurationRecordWriter

theorem zeroTable_entry (k : Nat) : QuantTable.entry (Vector.replicate 256 0) k = 0 := by
  unfold QuantTable.entry
  rw [Vector.getElem?_replicate]
  split <;> rfl

theorem zeroTable_runLength (remaining k : Nat) :
    runLength (Vector.replicate 256 0) 0 remaining k = remaining := by
  induction remaining generalizing k with
  | zero => rfl
  | succ remaining ih =>
    rw [runLength, if_pos, ih]
    rw [zeroTable_entry]
    rfl

/-- A table of zeros is a single run. -/
theorem writeQuantTable_zero (tableIndex scale : Nat) :
    writeQuantTable (Vector.replicate 256 0) tableIndex scale = (do writeU 127; return 1) := by
  have hmirror : validateQuantTableMirror (Vector.replicate 256 0) = .ok () := by
    refine validateQuantTableMirror_ok_iff.mpr ⟨fun i _ => ?_, ?_⟩
    · rw [zeroTable_entry, zeroTable_entry]
      rfl
    · rw [zeroTable_entry, zeroTable_entry]
      rfl
  have hentry : ¬(QuantTable.entry (Vector.replicate 256 0) 0).toInt ≠ (scale * 0 : Nat) := by
    rw [zeroTable_entry]
    exact fun h => h rfl
  unfold writeQuantTable
  rw [hmirror]
  change writeQuantTableRuns (Vector.replicate 256 0) tableIndex scale (127 + 1) 0 0 = _
  rw [writeQuantTableRuns, if_neg (by decide), failIf_of_not (by simp)]
  simp only [pure_bind]
  rw [failIf_of_not hentry, Nat.mul_zero, zeroTable_runLength, failIf_of_not (by decide)]
  simp only [pure_bind]
  rfl

/-- Tables of zeros from the scale on. -/
def writeZeroTables : (count scale : Nat) → Call RangeEncoder Nat
  | 0, scale => return scale
  | count + 1, scale => do
    let lenCount ← withIndependentContexts (do writeU 127; return 1)
    failIf (scaleOverflows scale lenCount) (makeError .invalidState
      "configuration quantization table scale overflow")
    writeZeroTables count (scale * (2 * lenCount - 1))

theorem writeQuantTables_zero (count tableIndex scale : Nat) :
    writeQuantTables makeZeroQuantTableSet.tables count tableIndex scale =
      writeZeroTables count scale := by
  induction count generalizing tableIndex scale with
  | zero => rfl
  | succ count ih =>
    have htable : makeZeroQuantTableSet.tables[tableIndex]?.getD (Vector.replicate 256 0) =
        Vector.replicate 256 0 := by
      change (Vector.replicate 5 (Vector.replicate 256 0))[tableIndex]?.getD _ = _
      rw [Vector.getElem?_replicate]
      split <;> rfl
    rw [writeQuantTables, htable, writeQuantTable_zero]
    simp only [ih]
    rfl

theorem writeQuantTableSet_zero : writeQuantTableSet makeZeroQuantTableSet = (do
    let scale ← writeZeroTables 5 1
    let contextCount := ((scale + 1) / 2).toUInt32
    failIf (makeZeroQuantTableSet.contextCount ≠ contextCount) (makeError .invalidState
      "configuration quantization table context count does not match encoded tables")) := by
  unfold writeQuantTableSet
  rw [show contextInputs = 5 from rfl, writeQuantTables_zero]

end ConfigurationRecordWriter

theorem writeB_reads (value : Bool) :
    Reads payload base F (ConfigurationRecordWriter.writeB value) ConfigurationParser.readB
      (fun _ => value) :=
  bool_reads value

/-- A byte predicted by another one is recovered from their difference modulo 256. -/
theorem uint8_add_delta (prediction current : UInt8) :
    prediction + UInt8.ofInt ((current.toNat : Int) - (prediction.toNat : Int)) = current := by
  apply UInt8.toNat_inj.mp
  have h₁ := prediction.toNat_lt
  have h₂ := current.toNat_lt
  rw [UInt8.toNat_add, UInt8.ofInt, UInt8.toNat_ofNat']
  omega

theorem state_set_getElem? {n : Nat} (states : Vector UInt8 n) (value : UInt8) {k i : Nat}
    (h : k < n) :
    (states.setIfInBounds k value)[i]?.getD 0 = if i = k then value else states[i]?.getD 0 := by
  rw [Vector.getElem?_setIfInBounds]
  by_cases hik : k = i
  · subst hik
    simp [h]
  · simp [hik, Ne.symm hik]

theorem vector_ext_getD {n : Nat} {s t : Vector UInt8 n}
    (h : ∀ i < n, s[i]?.getD 0 = t[i]?.getD 0) : s = t := by
  apply Vector.ext
  intro i hi
  simpa [hi] using h i hi

theorem initialState_reads (previous current : InitialState) (count stateIndex : Nat)
    (filled : InitialState) (hcount : stateIndex + count = 32)
    (hsame : ∀ i < stateIndex, filled[i]?.getD 0 = current[i]?.getD 0) :
    Reads payload base F
      (ConfigurationRecordWriter.writeInitialState previous current count stateIndex)
      (ConfigurationParser.parseInitialState previous count stateIndex filled)
      (fun _ => current) := by
  induction count generalizing stateIndex filled with
  | zero => exact Reads.pure (vector_ext_getD fun i hi => hsame i (by omega))
  | succ count ih =>
    refine (signed_reads 0 stateIndex _).bind fun _ => ih _ _ (by omega) fun i hi => ?_
    rw [uint8_add_delta, state_set_getElem? _ _ (by omega)]
    by_cases hik : i = stateIndex
    · rw [if_pos hik, hik]
    · rw [if_neg hik, hsame i (by omega)]

theorem initialContexts_reads (contexts : InitialStateSet) (previous : InitialState) :
    Reads payload base F (ConfigurationRecordWriter.writeInitialContexts contexts previous)
      (ConfigurationParser.parseInitialContexts contexts.length previous) (fun _ => contexts) := by
  induction contexts generalizing previous with
  | nil => exact Reads.pure rfl
  | cons current contexts ih =>
    refine (initialState_reads previous current 32 0 _ rfl (by omega)).bind fun _ => ?_
    exact (ih current).map (current :: ·)

/-- What the parser makes of a list of initial state sets. -/
theorem initialStateSets_reads (stateSets : List InitialStateSet) (sets : List QuantTableSet)
    (hlen : stateSets.length = sets.length)
    (hmatch : ConfigurationRecordWriter.initialStatesMatch stateSets sets = true) :
    Reads payload base F (ConfigurationRecordWriter.writeInitialStateSets stateSets)
      (ConfigurationParser.parseInitialStateSets sets) (fun _ => stateSets) := by
  induction stateSets generalizing sets with
  | nil =>
    rw [List.length_eq_zero_iff.mp hlen.symm]
    exact Reads.pure rfl
  | cons contexts stateSets ih =>
    obtain _ | ⟨set, sets⟩ := sets
    · simp at hlen
    rw [ConfigurationRecordWriter.initialStatesMatch, Bool.and_eq_true, Bool.or_eq_true,
      List.isEmpty_iff, decide_eq_true_eq] at hmatch
    have hset : Reads payload base F (ConfigurationRecordWriter.writeInitialStateSet contexts)
        (do
          let flag ← ConfigurationParser.readB
          (if flag then
            ConfigurationParser.parseInitialContexts set.contextCount.toNat (filledContext 128)
          else return [])) (fun _ => contexts) := by
      refine (writeB_reads _).bind fun _ => ?_
      by_cases hnil : contexts = []
      · simp only [hnil, ne_eq, not_true_eq_false, decide_false, Bool.false_eq_true, if_false]
        exact Reads.pure rfl
      · have hcount : contexts.length = set.contextCount.toNat := hmatch.1.resolve_left hnil
        simp only [ne_eq, hnil, not_false_iff, decide_true, if_true, ← hcount]
        exact initialContexts_reads contexts _
    have hrest : Reads payload base F (ConfigurationRecordWriter.writeInitialStateSets stateSets)
        (do
          let rest ← ConfigurationParser.parseInitialStateSets sets
          return contexts :: rest) (fun _ => contexts :: stateSets) :=
      (ih sets (by simpa using hlen) hmatch.2).map (contexts :: ·)
    unfold ConfigurationParser.parseInitialStateSets
    rw [← bind_assoc]
    exact hset.bind fun _ => hrest

theorem uncodedStateSets_reads (sets : List QuantTableSet) :
    Reads payload base F (ConfigurationRecordWriter.writeUncodedStateSets sets)
      (ConfigurationParser.parseInitialStateSets sets) (fun _ => sets.map fun _ => []) := by
  induction sets with
  | nil => exact Reads.pure rfl
  | cons set sets ih =>
    refine (writeB_reads false).bind fun _ => ?_
    simp only [Bool.false_eq_true, if_false, pure_bind]
    exact ih.map ([] :: ·)

theorem transition_delta (x y : UInt8) :
    ((y.toNat : Int) + ((x.toNat : Int) - (y.toNat : Int))).toNat.toUInt8 = x ∧
      ¬((y.toNat : Int) + ((x.toNat : Int) - (y.toNat : Int)) < 0 ∨
        255 < (y.toNat : Int) + ((x.toNat : Int) - (y.toNat : Int))) := by
  have hx := x.toNat_lt
  have hcancel : (y.toNat : Int) + ((x.toNat : Int) - (y.toNat : Int)) = x.toNat := by omega
  rw [hcancel]
  exact ⟨by simp, by omega⟩

theorem stateTransitions_reads (table : StateTransitionTable) (count state : Nat)
    (filled : StateTransitionTable) (hstate : 1 ≤ state) (hcount : state + count = 256)
    (hbefore : ∀ i, 1 ≤ i → i < state → filled[i]?.getD 0 = table[i]?.getD 0)
    (hafter : ∀ i, i = 0 ∨ state ≤ i → filled[i]?.getD 0 = defaultStateTransition[i]?.getD 0) :
    Reads payload base F (ConfigurationRecordWriter.writeStateTransitions table count state)
      (ConfigurationParser.parseStateTransitions count state filled)
      (fun _ => table.setIfInBounds 0 (defaultStateTransition[0]?.getD 0)) := by
  induction count generalizing state filled with
  | zero =>
    refine Reads.pure (vector_ext_getD fun i hi => ?_)
    rw [state_set_getElem? _ _ (by omega)]
    by_cases h₀ : i = 0
    · rw [if_pos h₀, hafter i (.inl h₀), h₀]
    · rw [if_neg h₀, hbefore i (by omega) (by omega)]
  | succ count ih =>
    refine (signed_reads 0 0 _).bind fun _ => ?_
    obtain ⟨hvalue, hrange⟩ :=
      transition_delta (table[state]?.getD 0) (defaultStateTransition[state]?.getD 0)
    simp only [hafter state (.inr (Nat.le_refl _)), hvalue]
    refine Reads.passes hrange (ih _ _ (by omega) (by omega) (fun i h₁ hi => ?_) fun i hi => ?_)
    · rw [state_set_getElem? _ _ (by omega)]
      by_cases his : i = state
      · rw [if_pos his, his]
      · rw [if_neg his, hbefore i h₁ (by omega)]
    · rw [state_set_getElem? _ _ (by omega), if_neg (by omega), hafter i (by omega)]

end Sets

/-- What `validate_initial_profile` accepts. -/
structure ValidProfile (s : StreamParameters) : Prop where
  version : s.version = 3
  microVersion : s.microVersion = 4
  colorspace : isSupportedSyntaxColorspace s.colorspaceType = true
  bitDepth : isSupportedBitDepth s.bitsPerRawSample = true
  rgbGeometry : hasInvalidRgbGeometry (decide (s.colorspaceType = 1)) s.chromaPlanes
    s.log2HChromaSubsample s.log2VChromaSubsample = false
  subsamplingChroma : hasSubsamplingWithoutChroma s.chromaPlanes s.log2HChromaSubsample
    s.log2VChromaSubsample = false
  subsampling : isSupportedChromaSubsampling s.log2HChromaSubsample s.log2VChromaSubsample = true
  grid : s.numHSlices ≠ 0 ∧ s.numVSlices ≠ 0
  setCount : s.quantTableSets ≠ [] ∧ s.quantTableSets.length ≤ 8
  contexts : ∀ tableSet ∈ s.quantTableSets, tableSet.contextCount ≠ 0
  stateSetCount : s.initialStates = [] ∨ s.initialStates.length = s.quantTableSets.length
  initialStates :
    ConfigurationRecordWriter.initialStatesMatch s.initialStates s.quantTableSets = true

theorem validateInitialProfile_ok_iff (s : StreamParameters) :
    ConfigurationRecordWriter.validateInitialProfile s = .ok () ↔ ValidProfile s := by
  simp only [ConfigurationRecordWriter.validateInitialProfile, except_bind_ok, exists_unit,
    failIf_ok_iff]
  constructor
  · rintro ⟨hversion, -, -, hformat, hrgb, hsub, hchroma, hgrid, hcount, hcontexts, hstates, hmatch⟩
    refine ⟨?_, ?_, ?_, ?_, ?_, ?_, ?_, ?_, ?_, ?_, ?_, ?_⟩
    · exact not_not.mp fun h => hversion (.inl h)
    · exact not_not.mp fun h => hversion (.inr h)
    · exact eq_true_of_ne_false fun h => hformat (.inl h)
    · exact eq_true_of_ne_false fun h => hformat (.inr h)
    · exact eq_false_of_ne_true hrgb
    · exact eq_false_of_ne_true hsub
    · exact eq_true_of_ne_false hchroma
    · exact ⟨fun h => hgrid (.inl h), fun h => hgrid (.inr h)⟩
    · exact ⟨fun h => hcount (.inl h), Nat.le_of_not_lt fun h => hcount (.inr h)⟩
    · exact fun tableSet hset hzero => hcontexts ⟨tableSet, hset, hzero⟩
    · by_cases hnil : s.initialStates = []
      · exact .inl hnil
      · exact .inr (not_not.mp fun h => hstates ⟨hnil, h⟩)
    · exact eq_true_of_ne_false hmatch
  · intro h
    refine ⟨?_, ?_, ?_, ?_, ?_, ?_, ?_, ?_, ?_, ?_, ?_, ?_⟩
    · simp [h.version, h.microVersion]
    · cases s.entropyMode <;> simp
    · simp [h.bitDepth]
    · simp [h.colorspace, h.bitDepth]
    · simp [h.rgbGeometry]
    · simp [h.subsamplingChroma]
    · simp [h.subsampling]
    · simp [h.grid]
    · simp only [h.setCount.1, false_or, not_lt]
      exact h.setCount.2
    · rintro ⟨tableSet, hset, hzero⟩
      exact h.contexts tableSet hset hzero
    · rintro ⟨hne, hlen⟩
      exact h.stateSetCount.elim hne hlen
    · simp [h.initialStates]

/-- The transition table that a record carries: only the entries from 1 on, and
nothing at all in Golomb-Rice mode. -/
def codedTransition (s : StreamParameters) : StateTransitionTable :=
  if s.entropyMode = .golombRice then defaultStateTransition
  else s.stateTransition.setIfInBounds 0 (defaultStateTransition[0]?.getD 0)

def codedInitialStates (s : StreamParameters) : List InitialStateSet :=
  if s.initialStates = [] then s.quantTableSets.map fun _ => [] else s.initialStates

/-- What of a stream survives in its configuration record. -/
def StreamParameters.recorded (s : StreamParameters) : StreamParameters :=
  { s with
    width := 0
    height := 0
    initialStates := codedInitialStates s
    stateTransition := codedTransition s }

section Parameters

variable {payload : Bytes} {base : List ContextStateBanks} {F : Prop}

open ConfigurationRecordWriter (writeU writeB coderType hasCustomStateTransition)

theorem version_reads :
    Reads payload base F (do writeU 3; writeU 4) ConfigurationParser.parseVersion
      (fun _ => { version := 3, microVersion := 4 }) := by
  refine (writeU_reads 3).bind fun _ => Reads.passes (by omega) ?_
  simp only [show ¬3 < 3 by omega, if_false]
  exact (writeU_reads 4).bind_last fun _ =>
    Reads.passes (by decide) (Reads.passes (by omega) (Reads.pure rfl))

theorem default_transition_zero :
    defaultStateTransition.setIfInBounds 0 (defaultStateTransition[0]?.getD 0) =
      defaultStateTransition :=
  vector_ext_getD fun i hi => by
    rw [state_set_getElem? _ _ (by omega)]
    by_cases h₀ : i = 0
    · rw [if_pos h₀, h₀]
    · rw [if_neg h₀]

theorem coderType_reads (s stream : StreamParameters)
    (hdefault : stream.stateTransition = defaultStateTransition) :
    Reads payload base F
      (do
        writeU (coderType s)
        (if hasCustomStateTransition s then
          ConfigurationRecordWriter.writeStateTransitions s.stateTransition 255 1
        else return ()))
      (ConfigurationParser.parseCoderType stream)
      (fun _ => ({ stream with
        entropyMode := s.entropyMode, stateTransition := codedTransition s },
        hasCustomStateTransition s)) := by
  refine (writeU_reads _).bind fun _ => ?_
  unfold coderType codedTransition
  by_cases hmode : s.entropyMode = .golombRice
  · have hcustom : hasCustomStateTransition s = false := by
      simp [hasCustomStateTransition, hmode]
    simp only [hmode, if_true, hcustom, Bool.false_eq_true, if_false]
    refine Reads.pure ?_
    rw [← hdefault]
  · have hrange : s.entropyMode = .range := by
      cases h : s.entropyMode
      · exact absurd h hmode
      · rfl
    by_cases hcustom : hasCustomStateTransition s = true
    · simp only [hmode, hcustom, if_true, if_false, OfNat.ofNat_ne_zero, OfNat.ofNat_ne_one]
      rw [hdefault]
      have h : Reads payload base F _ _ _ :=
        stateTransitions_reads s.stateTransition 255 1 defaultStateTransition (Nat.le_refl 1) rfl
          (by omega) (fun _ _ => rfl)
      rw [hrange]
      exact h.map fun t => ({ stream with entropyMode := .range, stateTransition := t }, true)
    · have htable : s.stateTransition = defaultStateTransition := by
        simpa [hasCustomStateTransition, hrange] using hcustom
      simp only [hmode, hcustom, if_false, if_true, Bool.false_eq_true, one_ne_zero]
      refine Reads.pure ?_
      rw [htable, default_transition_zero, hrange, ← hdefault]

theorem colorspace_reads {s : StreamParameters}
    (hcolor : isSupportedSyntaxColorspace s.colorspaceType = true) (stream : StreamParameters) :
    Reads payload base F (writeU s.colorspaceType.toNat)
      (ConfigurationParser.parseColorspace stream)
      (fun _ => { stream with colorspaceType := s.colorspaceType }) := by
  have hcases : s.colorspaceType = 0 ∨ s.colorspaceType = 1 := by
    simpa [isSupportedSyntaxColorspace] using hcolor
  have hcast : (s.colorspaceType.toNat : Int) = s.colorspaceType := by omega
  refine (writeU_reads _).bind_last fun _ => Reads.passes ?_ (Reads.passes ?_ (Reads.pure ?_))
  · unfold ConfigurationParser.int32Max
    omega
  · rw [hcast, hcolor]
    simp
  · rw [hcast]

theorem bitDepth_reads {s : StreamParameters}
    (hdepth : isSupportedBitDepth s.bitsPerRawSample = true) (stream : StreamParameters)
    (hversion : 1 ≤ stream.version) :
    Reads payload base F (writeU s.bitsPerRawSample.toNat)
      (ConfigurationParser.parseBitDepth stream)
      (fun _ => { stream with bitsPerRawSample := s.bitsPerRawSample }) := by
  obtain ⟨hlo, hhi⟩ : 1 ≤ s.bitsPerRawSample.toNat ∧ s.bitsPerRawSample.toNat ≤ 16 := by
    simpa [isSupportedBitDepth, UInt8.le_iff_toNat_le] using hdepth
  unfold ConfigurationParser.parseBitDepth
  rw [if_neg (Int.not_lt.mpr hversion)]
  refine (writeU_reads _).bind_last fun _ => Reads.passes (by omega) ?_
  simp only [show s.bitsPerRawSample.toNat ≠ 0 by omega, if_false, Nat.toUInt8_eq,
    UInt8.ofNat_toNat]
  exact Reads.passes (by simp [hdepth]) (Reads.pure rfl)

theorem subsamplingExponent_reads (exponent : UInt8) (direction : String) :
    Reads payload base F (writeU exponent.toNat)
      (ConfigurationParser.readSubsamplingExponent direction) (fun _ => exponent) := by
  have := exponent.toNat_lt
  exact (writeU_reads _).bind_last fun _ => Reads.passes (by omega) (Reads.pure (by simp))

theorem planes_reads {s : StreamParameters}
    (hgeometry : hasInvalidRgbGeometry (decide (s.colorspaceType = 1)) s.chromaPlanes
      s.log2HChromaSubsample s.log2VChromaSubsample = false)
    (stream : StreamParameters) (hcolor : stream.colorspaceType = s.colorspaceType) :
    Reads payload base F
      (do
        writeB s.chromaPlanes
        writeU s.log2HChromaSubsample.toNat
        writeU s.log2VChromaSubsample.toNat
        writeB s.extraPlane)
      (ConfigurationParser.parsePlanes stream)
      (fun _ => { stream with
        chromaPlanes := s.chromaPlanes
        log2HChromaSubsample := s.log2HChromaSubsample
        log2VChromaSubsample := s.log2VChromaSubsample
        extraPlane := s.extraPlane }) := by
  refine (writeB_reads _).bind fun _ => (subsamplingExponent_reads _ _).bind fun _ =>
    (subsamplingExponent_reads _ _).bind fun _ => (writeB_reads _).bind_last fun _ =>
      Reads.passes ?_ (Reads.pure rfl)
  rw [hcolor, hgeometry]
  exact Bool.false_ne_true

theorem sliceCount_reads {count : UInt32} (hne : count ≠ 0) (name : String) :
    Reads payload base F (writeU (count - 1).toNat) (ConfigurationParser.readSliceCount name)
      (fun _ => count) := by
  have hlt := count.toNat_lt
  have hpos : 1 ≤ count := by
    rw [UInt32.le_iff_toNat_le]
    exact Nat.one_le_iff_ne_zero.mpr fun h => hne (UInt32.toNat_inj.mp h)
  have hsub : (count - 1).toNat + 1 = count.toNat := by
    have := UInt32.le_iff_toNat_le.mp hpos
    rw [UInt32.toNat_sub_of_le _ _ hpos]
    change 1 ≤ _ at this
    change count.toNat - 1 + 1 = _
    omega
  refine (writeU_reads _).bind_last fun _ => Reads.passes ?_ (Reads.passes ?_ (Reads.pure ?_))
  · unfold ConfigurationParser.uint32Max
    omega
  · unfold ConfigurationParser.uint32Max
    omega
  · rw [hsub]
    simp

/-- The reader may look at its own state. -/
theorem Reads.looks {α β : Type} {w : Call RangeEncoder α} {g : RangeCoder → Call RangeCoder β}
    {k : α → β} (h : ∀ d, Reads payload base F w (g d) k) :
    Reads payload base F w (get >>= g) k := by
  intro e a e' hready hw
  refine ⟨((h {}) e a e' hready hw).1, fun hfits => ⟨(((h {}) e a e' hready hw).2 hfits).1, ?_⟩⟩
  intro d ht
  rw [Mirror.get_bind]
  exact ((h d e a e' hready hw).2 hfits).2 d ht

theorem sliceGrid_reads {s : StreamParameters} (hs : ValidProfile s) (stream : StreamParameters)
    (hversion : stream.version = 3) :
    Reads payload base F
      (do
        writeU (s.numHSlices - 1).toNat
        writeU (s.numVSlices - 1).toNat
        writeU s.quantTableSets.length)
      (ConfigurationParser.parseSliceGrid stream)
      (fun _ => ({ stream with numHSlices := s.numHSlices, numVSlices := s.numVSlices },
        s.quantTableSets.length)) := by
  unfold ConfigurationParser.parseSliceGrid
  simp only [hversion, show ¬(3 : Int) < 3 by omega, if_false]
  refine (sliceCount_reads hs.grid.1 _).bind fun _ => (sliceCount_reads hs.grid.2 _).bind fun _ =>
    Reads.looks fun d => (writeU_reads _).bind_last fun _ => Reads.passes ?_ (Reads.pure rfl)
  have hne : s.quantTableSets.length ≠ 0 := fun h => hs.setCount.1 (List.length_eq_zero_iff.mp h)
  have hle := hs.setCount.2
  unfold ConfigurationParser.maxQuantTableSetCount
  omega

theorem mode_reads (enabled : Bool) (description : String) :
    Reads payload base F (writeU (if enabled then 1 else 0))
      (ConfigurationParser.readMode description) (fun _ => enabled) := by
  cases enabled <;>
    exact (writeU_reads _).bind_last fun _ => Reads.passes (by simp) (Reads.pure (by simp))

theorem initialStates_reads {s : StreamParameters} (hs : ValidProfile s) :
    Reads payload base F
      (if s.initialStates = [] then
        ConfigurationRecordWriter.writeUncodedStateSets s.quantTableSets
      else ConfigurationRecordWriter.writeInitialStateSets s.initialStates)
      (ConfigurationParser.parseInitialStateSets s.quantTableSets)
      (fun _ => codedInitialStates s) := by
  unfold codedInitialStates
  by_cases hnil : s.initialStates = []
  · simp only [hnil, if_true]
    exact uncodedStateSets_reads s.quantTableSets
  · simp only [hnil, if_false]
    exact initialStateSets_reads _ _ (hs.stateSetCount.resolve_left hnil) hs.initialStates

theorem version3Tail_reads {s : StreamParameters} (hs : ValidProfile s)
    (stream : StreamParameters) (hversion : stream.version = 3)
    (hsets : stream.quantTableSets = s.quantTableSets) :
    Reads payload base F
      (do
        (if s.initialStates = [] then
          ConfigurationRecordWriter.writeUncodedStateSets s.quantTableSets
        else ConfigurationRecordWriter.writeInitialStateSets s.initialStates)
        writeU (if s.errorStatusEnabled then 1 else 0)
        writeU (if s.intraOnly then 1 else 0))
      (ConfigurationParser.parseVersion3Tail stream)
      (fun _ => { stream with
        initialStates := codedInitialStates s
        errorStatusEnabled := s.errorStatusEnabled
        intraOnly := s.intraOnly }) := by
  unfold ConfigurationParser.parseVersion3Tail
  simp only [hversion, show ¬(3 : Int) < 3 by omega, if_false, hsets]
  exact (initialStates_reads hs).bind fun _ => (mode_reads _ _).bind fun _ =>
    (mode_reads _ _).bind_last fun _ => Reads.pure rfl

/-- The parameters after the version numbers. -/
def writeAfterVersion (s : StreamParameters) : Call RangeEncoder Unit := do
  (do
    writeU (coderType s)
    (if hasCustomStateTransition s then
      ConfigurationRecordWriter.writeStateTransitions s.stateTransition 255 1
    else return ()))
  writeU s.colorspaceType.toNat
  writeU s.bitsPerRawSample.toNat
  (do
    writeB s.chromaPlanes
    writeU s.log2HChromaSubsample.toNat
    writeU s.log2VChromaSubsample.toNat
    writeB s.extraPlane)
  (do
    writeU (s.numHSlices - 1).toNat
    writeU (s.numVSlices - 1).toNat
    writeU s.quantTableSets.length)
  ConfigurationRecordWriter.writeQuantTableSets s.quantTableSets
  (do
    (if s.initialStates = [] then
      ConfigurationRecordWriter.writeUncodedStateSets s.quantTableSets
    else ConfigurationRecordWriter.writeInitialStateSets s.initialStates)
    writeU (if s.errorStatusEnabled then 1 else 0)
    writeU (if s.intraOnly then 1 else 0))

theorem writeParameterList_eq (s : StreamParameters) :
    ConfigurationRecordWriter.writeParameterList s = (do
      (do writeU 3; writeU 4)
      writeAfterVersion s) := by
  simp only [ConfigurationRecordWriter.writeParameterList, writeAfterVersion, bind_assoc]

theorem afterVersion_reads {s : StreamParameters} (hs : ValidProfile s)
    (hF : ∀ tableSet ∈ s.quantTableSets,
      ConfigurationParser.maxContextCount < tableSet.contextCount.toNat → F) :
    Reads payload base F (writeAfterVersion s)
      (do
        let (stream, applyCustomStateTransition) ←
          ConfigurationParser.parseCoderType { version := 3, microVersion := 4 }
        let stream ← ConfigurationParser.parseColorspace stream
        let stream ← ConfigurationParser.parseBitDepth stream
        let stream ← ConfigurationParser.parsePlanes stream
        let (stream, quantTableSetCount) ← ConfigurationParser.parseSliceGrid stream
        let quantTableSets ← ConfigurationParser.parseQuantTableSets quantTableSetCount
        let stream ← ConfigurationParser.parseVersion3Tail { stream with quantTableSets }
        return (stream, applyCustomStateTransition))
      (fun _ => (s.recorded, hasCustomStateTransition s)) := by
  refine (coderType_reads s _ (by rfl)).bind fun _ => (colorspace_reads hs.colorspace _).bind fun _ =>
    (bitDepth_reads hs.bitDepth _ (by simp)).bind fun _ =>
    (planes_reads hs.rgbGeometry _ (by rfl)).bind fun _ =>
    (sliceGrid_reads hs _ (by rfl)).bind fun _ => (quantTableSets_reads _ hF).bind fun _ =>
    (version3Tail_reads hs _ (by rfl) (by rfl)).bind_last fun _ => Reads.pure ?_
  simp only [StreamParameters.recorded, hs.version, hs.microVersion]

/-- The parameters, line by line. -/
theorem parameters_reads {s : StreamParameters} (hs : ValidProfile s)
    (hF : ∀ tableSet ∈ s.quantTableSets,
      ConfigurationParser.maxContextCount < tableSet.contextCount.toNat → F) :
    Reads payload base F (ConfigurationRecordWriter.writeParameterList s)
      ConfigurationParser.parseParameters
      (fun _ => (s.recorded, hasCustomStateTransition s)) := by
  rw [writeParameterList_eq]
  exact version_reads.bind fun _ => afterVersion_reads hs hF

end Parameters

section Record

open ConfigurationRecordWriter (writeU)

/-- An encoder of `count` contexts that has written the version. -/
def versionEncoder (count : Nat) : RangeEncoder :=
  Mirror.finalState
    ((do RangeEncoder.reset [count] [] defaultStateTransition; writeU 3 :
      Call RangeEncoder Unit) {})

/-- The version is coded in the first context, whatever the number of contexts. -/
theorem versionEncoder_interval :
    (versionEncoder scalarContextSize).interval = (versionEncoder 1).interval := by
  decide +kernel

/-- A record is the lower end of the encoder that wrote the parameters, with its parity. -/
theorem write_ok {s : StreamParameters} {record : Bytes}
    (h : ConfigurationRecordWriter.write s = .ok record) :
    ValidProfile s ∧ ∃ start written : RangeEncoder,
      RangeEncoder.reset [scalarContextSize] [] defaultStateTransition {} = .ok () start ∧
      ConfigurationRecordWriter.writeParameterList s start = .ok () written ∧
      record = written.lowBytes ++ bigEndian32 (crc32IeeeMsb written.lowBytes) := by
  simp only [ConfigurationRecordWriter.write, except_bind_ok, exists_unit] at h
  obtain ⟨hvalid, coded, hcoded, hparity⟩ := h
  obtain ⟨closed, hcoded⟩ := valueOn_ok hcoded
  simp only [ConfigurationRecordWriter.codedParameters, Mirror.bind_ok_iff, exists_unit] at hcoded
  obtain ⟨start, hstart, written, hwritten, hfinal⟩ := hcoded
  obtain ⟨rfl, -⟩ := finalize_ok hfinal
  simp only [ConfigurationRecordWriter.appendCrcParity, except_bind_ok, exists_unit,
    failIf_ok_iff] at hparity
  unfold ConfigurationRecordWriter.writeParameters at hwritten
  rw [hvalid] at hwritten
  exact ⟨(validateInitialProfile_ok_iff s).mp hvalid, start, written, hstart, hwritten,
    (Except.ok.inj hparity.2).symm⟩

section Written

variable {s : StreamParameters} {start written : RangeEncoder}

theorem parameters_narrow (hs : ValidProfile s) (payload : Bytes) :
    Mirror.Narrows (rangeChannel payload) (ConfigurationRecordWriter.writeParameterList s) := by
  have h : Reads payload [] True _ _ _ := parameters_reads hs fun _ _ _ => True.intro
  exact h.narrows

theorem afterVersion_narrow (hs : ValidProfile s) (payload : Bytes) :
    Mirror.Narrows (rangeChannel payload) (writeU 4 >>= fun _ => writeAfterVersion s) := by
  have h₁ : Reads payload [] True _ _ _ := writeU_reads 4
  have h₂ : Reads payload [] True _ _ _ := afterVersion_reads hs fun _ _ _ => True.intro
  exact h₁.narrows.bind fun _ => h₂.narrows

/-- What fits the finished parameters fits the encoder that has only written the version. -/
theorem written_fits_version (hs : ValidProfile s)
    (hstart : RangeEncoder.reset [scalarContextSize] [] defaultStateTransition {} = .ok () start)
    (hwrite : ConfigurationRecordWriter.writeParameterList s start = .ok () written)
    {payload : Bytes} (hfits : written.Fits payload) :
    (versionEncoder scalarContextSize).Fits payload := by
  rw [writeParameterList_eq, bind_assoc] at hwrite
  obtain ⟨_, coded, hversion, hrest⟩ := Mirror.bind_ok_iff.mp hwrite
  have hcoded : coded = versionEncoder scalarContextSize := by
    unfold versionEncoder
    rw [Mirror.bind_ok hstart, hversion]
    rfl
  have hread : Reads payload [] True _ _ _ := writeU_reads 3
  have hready := (hread.narrows start () coded (RangeEncoder.reset_ready hstart) hversion).1
  exact hcoded ▸ (afterVersion_narrow hs payload coded () written hready hrest).2 hfits

theorem versionEncoder_steps :
    ∃ start : RangeEncoder,
      RangeEncoder.reset [1] [] defaultStateTransition {} = .ok () start ∧
      writeU 3 start = .ok () (versionEncoder 1) := by
  have hrun : (do RangeEncoder.reset [1] [] defaultStateTransition; writeU 3 :
      Call RangeEncoder Unit) {} = .ok () (versionEncoder 1) :=
    Mirror.eq_ok_of_succeeded (by decide +kernel)
  obtain ⟨_, start, hstart, hwrite⟩ := Mirror.bind_ok_iff.mp hrun
  exact ⟨start, hstart, hwrite⟩

/-- The probe finds version 3 in every payload that continues the coded version. -/
theorem probeVersion_of_fits {payload : Bytes} (hversion : (versionEncoder 1).Fits payload)
    (hlen : 2 ≤ payload.length) :
    (ConfigurationRecordParser.probeVersion payload).valueOn {} = .ok 3 := by
  obtain ⟨single, hsingle, hthree⟩ := versionEncoder_steps
  have hread : Reads payload [] False _ _ _ := writeU_reads 3
  obtain ⟨-, hback⟩ := hread single () _ (RangeEncoder.reset_ready hsingle) hthree
  obtain ⟨hfitsSingle, hreader⟩ := hback hversion
  obtain ⟨d, hd, htracks⟩ := reset_tracks_fresh hsingle hfitsSingle hlen
  obtain ⟨_, d', hvalue, rfl, -⟩ := (hreader d htracks).result
  have hprobe : ConfigurationRecordParser.probeVersion payload {} = .ok 3 d' := by
    unfold ConfigurationRecordParser.probeVersion
    rw [Mirror.bind_ok hd]
    exact hvalue
  exact valueOn_of_ok hprobe

theorem written_fits_probe (hs : ValidProfile s)
    (hstart : RangeEncoder.reset [scalarContextSize] [] defaultStateTransition {} = .ok () start)
    (hwrite : ConfigurationRecordWriter.writeParameterList s start = .ok () written)
    {payload : Bytes} (hfits : written.Fits payload) : (versionEncoder 1).Fits payload := by
  have h := written_fits_version hs hstart hwrite hfits
  unfold RangeEncoder.Fits at h ⊢
  rwa [versionEncoder_interval] at h

theorem parsePayload_written {F : Prop} (hs : ValidProfile s)
    (hF : ∀ tableSet ∈ s.quantTableSets,
      ConfigurationParser.maxContextCount < tableSet.contextCount.toNat → F)
    (hstart : RangeEncoder.reset [scalarContextSize] [] defaultStateTransition {} = .ok () start)
    (hwrite : ConfigurationRecordWriter.writeParameterList s start = .ok () written) :
    Mirror.Outcome F (fun parsed _ => parsed = s.recorded)
      (ConfigurationRecordParser.parsePayload written.lowBytes {}) := by
  have hread : Reads written.lowBytes [] F _ _ _ := parameters_reads hs hF
  have hready := (hread.narrows start () written (RangeEncoder.reset_ready hstart) hwrite).1
  have hfits : written.Fits written.lowBytes := by
    simpa using finalize_fits hready []
  obtain ⟨hstartFits, hreader⟩ :=
    (hread start () written (RangeEncoder.reset_ready hstart) hwrite).2 hfits
  obtain ⟨d, hd, htracks⟩ := reset_tracks_fresh hstart hstartFits hready.length_ge
  have hout := hreader d htracks
  unfold ConfigurationRecordParser.parsePayload ConfigurationParser.parse
  rw [Mirror.bind_ok hd]
  cases hparse : ConfigurationParser.parseParameters d with
  | error status d' =>
    rw [hparse] at hout
    rw [Mirror.bind_error hparse]
    exact hout
  | ok parsed d' =>
    rw [hparse] at hout
    obtain ⟨rfl, hend⟩ := hout
    rw [Mirror.bind_ok hparse]
    cases hcustom : ConfigurationRecordWriter.hasCustomStateTransition s with
    | false =>
      simp only [Bool.false_eq_true, if_false, Mirror.pure_bind]
      exact rfl
    | true =>
      simp only [if_true]
      unfold RangeCoder.setStateTransition
      simp only [bind_assoc, Mirror.get_bind]
      rw [failIf_of_not (by simp [hend.initialized])]
      exact rfl

end Written

/-- The parser's answer to a written record: nothing but the recorded stream, and it
refuses only on a large context count. -/
theorem parse_written {s : StreamParameters} {record : Bytes} {F : Prop}
    (hF : ∀ tableSet ∈ s.quantTableSets,
      ConfigurationParser.maxContextCount < tableSet.contextCount.toNat → F)
    (hwrite : ConfigurationRecordWriter.write s = .ok record) :
    (∀ parsed, ConfigurationRecordParser.parse record = .ok parsed → parsed = s.recorded) ∧
      (F ∨ ConfigurationRecordParser.parse record = .ok s.recorded) := by
  obtain ⟨hs, start, written, hstart, hparameters, rfl⟩ := write_ok hwrite
  have hready := (parameters_narrow hs [] start () written (RangeEncoder.reset_ready hstart)
    hparameters).1
  have hlen := hready.length_ge
  have hprobe := probeVersion_of_fits (written_fits_probe hs hstart hparameters
    (finalize_fits hready (bigEndian32 (crc32IeeeMsb written.lowBytes))))
    (by rw [List.length_append]; omega)
  have hpayload : ConfigurationRecordParser.parameterPayload
      (written.lowBytes ++ bigEndian32 (crc32IeeeMsb written.lowBytes)) 3 =
        .ok written.lowBytes := by
    unfold ConfigurationRecordParser.parameterPayload
    simp only [show ¬3 < 3 by omega, if_false]
    rw [failIf_of_not (by simp), failIf_of_not (by simp [crc32_append_remainder])]
    simp [pure, Except.pure, bind, Except.bind]
  have hparse : ConfigurationRecordParser.parse
      (written.lowBytes ++ bigEndian32 (crc32IeeeMsb written.lowBytes)) =
        (ConfigurationRecordParser.parsePayload written.lowBytes).valueOn {} := by
    unfold ConfigurationRecordParser.parse
    rw [failIf_of_not (by simp [bigEndian32]), hprobe]
    simp only [pure, Except.pure, bind, Except.bind, hpayload]
  have hout := parsePayload_written hs hF hstart hparameters
  rw [hparse]
  unfold Call.valueOn
  cases hrun : ConfigurationRecordParser.parsePayload written.lowBytes {} with
  | error status d =>
    rw [hrun] at hout
    refine ⟨fun parsed hparsed => ?_, .inl hout⟩
    cases hparsed
  | ok parsed d =>
    rw [hrun] at hout
    exact ⟨fun _ h => Except.ok.inj h ▸ hout, .inr (congrArg Except.ok hout)⟩

end Record

end Mffv1
