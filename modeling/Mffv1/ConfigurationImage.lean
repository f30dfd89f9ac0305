import Mffv1.ConfigurationRoundTrip
import Mffv1.RangeProgress

/-!
# Configuration records in the other direction

`setEncodable` is what the writer asks of a quantization table set. Every set that
the parser returns satisfies it, and a valid profile of such sets can be written.
-/
namespace Mffv1

open ConfigurationRecordWriter (runLength)
open ConfigurationParser (fillRun mirrorTable int32Max)

/-- Every run of the first half holds the value of its turn. -/
def runsEncodable (table : QuantTable) (scale : Nat) : (fuel k value : Nat) → Bool
  | 0, _, _ => true
  | fuel + 1, k, value =>
    decide (128 ≤ k) || (decide ((table.entry k).toInt = scale * value) &&
      runsEncodable table scale fuel (k + runLength table (scale * value) (128 - k) k) (value + 1))

def tableEncodable (table : QuantTable) (scale : Nat) : Bool :=
  decide (ConfigurationRecordWriter.validateQuantTableMirror table = .ok ()) &&
    runsEncodable table scale 128 0 0 &&
    !decide (ConfigurationParser.scaleOverflows scale (runCount table scale 128 0 0))

theorem tableEncodable_iff {table : QuantTable} {scale : Nat} :
    tableEncodable table scale = true ↔
      ConfigurationRecordWriter.validateQuantTableMirror table = .ok () ∧
        runsEncodable table scale 128 0 0 = true ∧
        ¬ConfigurationParser.scaleOverflows scale (runCount table scale 128 0 0) := by
  rw [tableEncodable, Bool.and_eq_true, Bool.and_eq_true, Bool.not_eq_true', decide_eq_true_iff,
    decide_eq_false_iff_not, and_assoc]

/-- The scale after `count` tables from `tableIndex` on. -/
def finalScale (tables : Vector QuantTable 5) : (count tableIndex scale : Nat) → Nat
  | 0, _, scale => scale
  | count + 1, tableIndex, scale =>
    finalScale tables count (tableIndex + 1)
      (scale * (2 * runCount (tableAt tables tableIndex) scale 128 0 0 - 1))

def tablesEncodable (tables : Vector QuantTable 5) : (count tableIndex scale : Nat) → Bool
  | 0, _, _ => true
  | count + 1, tableIndex, scale =>
    tableEncodable (tableAt tables tableIndex) scale &&
      tablesEncodable tables count (tableIndex + 1)
        (scale * (2 * runCount (tableAt tables tableIndex) scale 128 0 0 - 1))

def setEncodable (tableSet : QuantTableSet) : Bool :=
  tablesEncodable tableSet.tables 5 0 1 &&
    decide (tableSet.contextCount = ((finalScale tableSet.tables 5 0 1 + 1) / 2).toUInt32)

section Congruence

variable {s t : QuantTable}

theorem runLength_congr (h : ∀ i < 128, s.entry i = t.entry i) (expected remaining k : Nat)
    (hk : k + remaining ≤ 128) : runLength s expected remaining k = runLength t expected remaining k := by
  induction remaining generalizing k with
  | zero => rfl
  | succ remaining ih => rw [runLength, runLength, h k (by omega), ih (k + 1) (by omega)]

/-- Only the first half counts. -/
theorem runs_congr (h : ∀ i < 128, s.entry i = t.entry i) (scale fuel k value : Nat) :
    runsEncodable s scale fuel k value = runsEncodable t scale fuel k value ∧
      runCount s scale fuel k value = runCount t scale fuel k value := by
  induction fuel generalizing k value with
  | zero => exact ⟨rfl, rfl⟩
  | succ fuel ih =>
    unfold runsEncodable runCount
    by_cases hk : 128 ≤ k
    · simp only [hk, decide_true, Bool.true_or, if_true, and_self]
    · have hlen := runLength_congr h (scale * value) (128 - k) k (by omega)
      obtain ⟨h₁, h₂⟩ := ih (k + runLength t (scale * value) (128 - k) k) (value + 1)
      rw [h k (by omega), hlen, h₁, h₂]
      exact ⟨rfl, rfl⟩

end Congruence

theorem runLength_pos {table : QuantTable} {expected k : Nat} (hk : k < 128)
    (h : (table.entry k).toInt = expected) : 0 < runLength table expected (128 - k) k := by
  rw [show 128 - k = (127 - k) + 1 by omega, runLength, if_pos h]
  omega

theorem runLength_eq (table : QuantTable) (expected : Nat) {remaining k len : Nat}
    (hle : len ≤ remaining) (hrun : ∀ i, k ≤ i → i < k + len → (table.entry i).toInt = expected)
    (hstop : len < remaining → (table.entry (k + len)).toInt ≠ expected) :
    runLength table expected remaining k = len := by
  induction remaining generalizing k len with
  | zero =>
    rw [Nat.le_zero.mp hle]
    rfl
  | succ remaining ih =>
    cases len with
    | zero => rw [runLength, if_neg (by simpa using hstop (by omega))]
    | succ len =>
      have hrest : runLength table expected remaining (k + 1) = len := by
        refine ih (by omega) (fun i h₁ h₂ => hrun i (by omega) (by omega)) fun hlt => ?_
        rw [show k + 1 + len = k + (len + 1) by omega]
        exact hstop (by omega)
      rw [runLength, if_pos (hrun k (Nat.le_refl k) (by omega)), hrest]

theorem int32_toInt_ofNat {n : Nat} (h : n ≤ int32Max) : (Int32.ofNat n).toInt = n := by
  unfold int32Max at h
  rw [← Int32.ofInt_eq_ofNat, Int32.toInt_ofInt_of_le (by omega) (by omega)]

theorem parseQuantTableRuns_returns (tableIndex : Nat) {scale : Nat} (hscale : 0 < scale)
    (fuel k value : Nat) (filled : QuantTable) (hfuel : 128 ≤ k + fuel) :
    Mirror.Returns (ConfigurationParser.parseQuantTableRuns tableIndex scale fuel k value filled)
      (fun r => (∀ i < min k 128, r.1.entry i = filled.entry i) ∧
        (k < 128 → (r.1.entry k).toInt = scale * value) ∧
        runsEncodable r.1 scale fuel k value = true ∧ r.2 = runCount r.1 scale fuel k value) := by
  induction fuel generalizing k value filled with
  | zero => exact Mirror.Returns.pure ⟨fun _ _ => rfl, fun h => by omega, rfl, rfl⟩
  | succ fuel ih =>
    unfold ConfigurationParser.parseQuantTableRuns
    by_cases hk : 128 ≤ k
    · simp only [hk, if_true]
      refine Mirror.Returns.pure ⟨fun _ _ => rfl, fun h => by omega, ?_, ?_⟩
      · simp [runsEncodable, hk]
      · simp [runCount, hk]
    · simp only [hk, if_false]
      intro d r d' hr
      simp only [Mirror.bind_ok_iff, failIf_call_ok_iff, exists_unit, and_assoc, exists_and_left,
        exists_eq_left] at hr
      obtain ⟨lenMinusOne, d₁, _, _, hvalue, hrest⟩ := hr
      have hval : scale * value ≤ int32Max := by
        rw [Nat.max_eq_left hscale, Nat.not_lt, Nat.le_div_iff_mul_le hscale, Nat.mul_comm] at hvalue
        exact hvalue
      obtain ⟨len, hlen⟩ : ∃ len, len = min (lenMinusOne + 1) (128 - k) := ⟨_, rfl⟩
      rw [← hlen] at hrest
      obtain ⟨hsame, hnext, hencodable, hcount⟩ := ih (k + len) (value + 1) _ (by omega) d₁ r d' hrest
      have hentry (i : Nat) (hi : i < k + len) :
          r.1.entry i = if k ≤ i then Int32.ofNat (scale * value) else filled.entry i := by
        rw [hsame i (by omega), fillRun_entry _ _ _ _ (by omega)]
        by_cases hki : k ≤ i
        · rw [if_pos ⟨hki, hi⟩, if_pos hki]
        · rw [if_neg fun h => hki h.1, if_neg hki]
      have hrun : runLength r.1 (scale * value) (128 - k) k = len := by
        refine runLength_eq _ _ (by omega) (fun i h₁ h₂ => ?_) fun hlt => ?_
        · rw [hentry i h₂, if_pos h₁, int32_toInt_ofNat hval]
        · rw [hnext (by omega)]
          intro heq
          have hnat : scale * (value + 1) = scale * value := by exact_mod_cast heq
          rw [Nat.mul_add] at hnat
          omega
      have hfirst : (r.1.entry k).toInt = ((scale * value : Nat) : Int) := by
        rw [hentry k (by omega), if_pos (Nat.le_refl k), int32_toInt_ofNat hval]
      refine ⟨fun i hi => ?_, fun _ => by exact_mod_cast hfirst, ?_, ?_⟩
      · rw [hentry i (by omega), if_neg (by omega)]
      · have hfirst' : (r.1.entry k).toInt = (scale : Int) * value := by exact_mod_cast hfirst
        rw [runsEncodable, hrun, hencodable, decide_eq_true hfirst']
        simp
      · rw [runCount, if_neg hk, hrun]
        exact hcount

theorem mirrorTable_entry (table : QuantTable) {i : Nat} (h : i < 128) :
    (mirrorTable table).entry i = table.entry i := by
  unfold mirrorTable
  rw [QuantTable.entry_ofFn _ (by omega), if_pos h]

theorem mirrorTable_validates (table : QuantTable) :
    ConfigurationRecordWriter.validateQuantTableMirror (mirrorTable table) = .ok () := by
  have hhigh {i : Nat} (hlo : 128 < i) (hhi : i < 256) :
      (mirrorTable table).entry i = -table.entry (256 - i) := by
    unfold mirrorTable
    rw [QuantTable.entry_ofFn _ hhi, if_neg (by simp only; omega), if_neg (by simp only; omega)]
  have hcenter : (mirrorTable table).entry 128 = -table.entry 127 := by
    unfold mirrorTable
    rw [QuantTable.entry_ofFn _ (by omega), if_neg (by simp only; omega), if_pos rfl]
  refine validateQuantTableMirror_ok_iff.mpr ⟨fun i hi => ?_, ?_⟩
  · rw [hhigh (by omega) (by omega), mirrorTable_entry table (by omega),
      show 256 - (256 - i) = i by omega]
  · rw [hcenter, mirrorTable_entry table (by omega)]

theorem parseQuantTable_returns (filled : QuantTable) (tableIndex : Nat) {scale : Nat}
    (hscale : 0 < scale) :
    Mirror.Returns (ConfigurationParser.parseQuantTable filled tableIndex scale)
      (fun r => ConfigurationRecordWriter.validateQuantTableMirror r.1 = .ok () ∧
        runsEncodable r.1 scale 128 0 0 = true ∧ r.2 = runCount r.1 scale 128 0 0) := by
  unfold ConfigurationParser.parseQuantTable
  refine Mirror.Returns.bind
    (parseQuantTableRuns_returns tableIndex hscale 128 0 0 filled (by omega)) ?_
  rintro ⟨table, lenCount⟩ ⟨-, -, hencodable, hcount⟩
  have hsame : ∀ i < 128, (mirrorTable table).entry i = table.entry i :=
    fun i hi => mirrorTable_entry table hi
  obtain ⟨h₁, h₂⟩ := runs_congr hsame scale 128 0 0
  exact Mirror.Returns.pure
    ⟨mirrorTable_validates table, h₁.trans hencodable, hcount.trans h₂.symm⟩

theorem parseIndependent_returns {α : Type} {body : Call RangeCoder α} {φ : α → Prop}
    (h : Mirror.Returns body φ) :
    Mirror.Returns (ConfigurationParser.withIndependentContexts body) φ := by
  intro d a d' hr
  unfold ConfigurationParser.withIndependentContexts at hr
  cases hbegin : RangeCoder.beginIndependentScalarContexts 1 d with
  | error status d₁ => simp only [hbegin, reduceCtorEq] at hr
  | ok u d₁ =>
    simp only [hbegin] at hr
    cases hbody : body d₁ with
    | error status d₂ => simp only [hbody, reduceCtorEq] at hr
    | ok a₂ d₂ =>
      simp only [hbody] at hr
      cases hend : RangeCoder.endIndependentScalarContexts d₂ with
      | error status d₃ => simp only [hend, reduceCtorEq] at hr
      | ok u d₃ =>
        simp only [hend, EStateM.Result.ok.injEq] at hr
        exact hr.1 ▸ h d₁ a₂ d₂ hbody

theorem tableAt_set (tables : Vector QuantTable 5) (table : QuantTable) {tableIndex : Nat}
    (h : tableIndex < 5) (i : Nat) :
    tableAt (tables.setIfInBounds tableIndex table) i =
      if i = tableIndex then table else tableAt tables i := by
  unfold tableAt
  rw [Vector.getElem?_setIfInBounds]
  by_cases hi : tableIndex = i
  · subst hi
    simp [h]
  · rw [if_neg hi, if_neg (Ne.symm hi)]

theorem parseQuantTables_returns (count tableIndex : Nat) {scale : Nat} (hscale : 0 < scale)
    (lenCounts : List Nat) (filled : Vector QuantTable 5) (hcount : tableIndex + count = 5) :
    Mirror.Returns (ConfigurationParser.parseQuantTables count tableIndex scale lenCounts filled)
      (fun r => (∀ i < tableIndex, tableAt r.1 i = tableAt filled i) ∧
        tablesEncodable r.1 count tableIndex scale = true ∧
        r.2.1 = finalScale r.1 count tableIndex scale) := by
  induction count generalizing tableIndex scale lenCounts filled with
  | zero => exact Mirror.Returns.pure ⟨fun _ _ => rfl, rfl, rfl⟩
  | succ count ih =>
    unfold ConfigurationParser.parseQuantTables
    refine Mirror.Returns.bind
      (parseIndependent_returns (parseQuantTable_returns _ tableIndex hscale)) ?_
    rintro ⟨table, lenCount⟩ ⟨hmirror, hencodable, hlen⟩ d r d' hr
    simp only at hmirror hencodable hlen
    subst hlen
    simp only [Mirror.bind_ok_iff, failIf_call_ok_iff, exists_unit, and_assoc, exists_and_left,
      exists_eq_left] at hr
    obtain ⟨hover, hrest⟩ := hr
    have hpos : 0 < 2 * runCount table scale 128 0 0 - 1 := by
      unfold ConfigurationParser.scaleOverflows at hover
      omega
    obtain ⟨hsame, htables, hfinal⟩ :=
      ih (tableIndex + 1) (Nat.mul_pos hscale hpos) _ _ (by omega) d r d' hrest
    have htable : tableAt r.1 tableIndex = table := by
      rw [hsame tableIndex (by omega), tableAt_set _ _ (by omega), if_pos rfl]
    refine ⟨fun i hi => ?_, ?_, ?_⟩
    · rw [hsame i (by omega), tableAt_set _ _ (by omega), if_neg (by omega)]
    · rw [tablesEncodable, htable, htables, tableEncodable, hencodable, decide_eq_true hmirror,
        decide_eq_false hover]
      rfl
    · rw [finalScale, htable]
      exact hfinal

theorem parseQuantTableSet_returns :
    Mirror.Returns ConfigurationParser.parseQuantTableSet (fun set =>
      setEncodable set = true ∧
        set.contextCount.toNat = (finalScale set.tables 5 0 1 + 1) / 2 ∧
        set.contextCount.toNat ≤ ConfigurationParser.maxContextCount) := by
  unfold ConfigurationParser.parseQuantTableSet
  refine Mirror.Returns.bind (parseQuantTables_returns 5 0 (Nat.one_pos) [] _ rfl) ?_
  rintro ⟨tables, scale, lenCounts⟩ ⟨-, htables, hscale⟩ d set d' hr
  simp only at htables hscale
  subst hscale
  simp only [Mirror.bind_ok_iff, failIf_call_ok_iff, exists_unit, and_assoc, exists_and_left,
    exists_eq_left, Mirror.pure_apply, EStateM.Result.ok.injEq, not_or] at hr
  obtain ⟨_, hle, rfl, _⟩ := hr
  unfold ConfigurationParser.maxContextCount at hle ⊢
  refine ⟨by simp [setEncodable, htables], ?_, ?_⟩
  · simp only [Nat.toUInt32_eq, UInt32.toNat_ofNat']
    omega
  · simp only [Nat.toUInt32_eq, UInt32.toNat_ofNat']
    omega

/-- The fields that a record does not carry have the values that reading one gives them. -/
structure Recordable (s : StreamParameters) : Prop where
  width : s.width = 0
  height : s.height = 0
  transition : codedTransition s = s.stateTransition

theorem parseVersion_returns :
    Mirror.Returns ConfigurationParser.parseVersion (fun stream =>
      stream.width = 0 ∧ stream.height = 0 ∧ stream.stateTransition = defaultStateTransition) := by
  intro d stream d' hr
  simp only [ConfigurationParser.parseVersion, Mirror.bind_ok_iff, failIf_call_ok_iff,
    exists_unit, exists_and_left, exists_eq_left, and_assoc] at hr
  obtain ⟨version, d₁, _, _, hr⟩ := hr
  split at hr
  · simp only [Mirror.pure_apply, EStateM.Result.ok.injEq] at hr
    exact hr.1 ▸ ⟨rfl, rfl, rfl⟩
  · simp only [Mirror.bind_ok_iff, failIf_call_ok_iff, exists_unit, exists_and_left,
      exists_eq_left, and_assoc, Mirror.pure_apply, EStateM.Result.ok.injEq] at hr
    obtain ⟨microVersion, d₂, _, _, _, rfl, _⟩ := hr
    exact ⟨rfl, rfl, rfl⟩

theorem parseStateTransitions_returns (count state : Nat) (table : StateTransitionTable)
    (hstate : 0 < state) (hcount : state + count ≤ 256) :
    Mirror.Returns (ConfigurationParser.parseStateTransitions count state table)
      (fun t => t[0]?.getD 0 = table[0]?.getD 0) := by
  induction count generalizing state table with
  | zero => exact Mirror.Returns.pure rfl
  | succ count ih =>
    intro d t d' hr
    simp only [ConfigurationParser.parseStateTransitions, Mirror.bind_ok_iff, failIf_call_ok_iff,
      exists_unit, exists_and_left, exists_eq_left, and_assoc] at hr
    obtain ⟨delta, d₁, _, _, hrest⟩ := hr
    rw [ih (state + 1) _ (by omega) (by omega) d₁ t d' hrest, state_set_getElem? _ _ (by omega),
      if_neg (by omega)]

theorem parseCoderType_returns {stream : StreamParameters} (hwidth : stream.width = 0)
    (hheight : stream.height = 0) (htable : stream.stateTransition = defaultStateTransition) :
    Mirror.Returns (ConfigurationParser.parseCoderType stream) (fun r => Recordable r.1) := by
  unfold ConfigurationParser.parseCoderType
  refine Mirror.Returns.bind Mirror.Returns.trivial fun value _ => ?_
  by_cases h₀ : value = 0
  · simp only [h₀, if_true]
    exact Mirror.Returns.pure ⟨hwidth, hheight, by simp [codedTransition, htable]⟩
  by_cases h₁ : value = 1
  · simp only [h₁, Nat.one_ne_zero, if_true, if_false]
    refine Mirror.Returns.pure ⟨hwidth, hheight, ?_⟩
    simp only [codedTransition, reduceCtorEq, if_false, htable]
    exact default_transition_zero
  by_cases h₂ : value = 2
  · simp only [h₂, if_true, if_false, OfNat.ofNat_ne_zero, OfNat.ofNat_ne_one]
    refine Mirror.Returns.bind (parseStateTransitions_returns 255 1 _ Nat.one_pos (Nat.le_refl _)) fun t ht => ?_
    refine Mirror.Returns.pure ⟨hwidth, hheight, vector_ext_getD fun i hi => ?_⟩
    simp only [codedTransition, reduceCtorEq, if_false]
    rw [state_set_getElem? _ _ (by omega)]
    by_cases hzero : i = 0
    · rw [if_pos hzero, hzero, ht, htable]
    · rw [if_neg hzero]
  · simp only [h₀, h₁, h₂, if_false]
    exact fun _ _ _ h => by simp at h

/-- The later stages leave what `Recordable` speaks about. -/
def Kept (s r : StreamParameters) : Prop :=
  r.width = s.width ∧ r.height = s.height ∧ r.entropyMode = s.entropyMode ∧
    r.stateTransition = s.stateTransition

theorem Recordable.of_kept {s r : StreamParameters} (hs : Recordable s) (h : Kept s r) :
    Recordable r := by
  obtain ⟨hwidth, hheight, hmode, htable⟩ := h
  refine ⟨hwidth.trans hs.width, hheight.trans hs.height, ?_⟩
  have := hs.transition
  unfold codedTransition at this ⊢
  rw [hmode, htable]
  exact this

theorem parseColorspace_keeps (stream : StreamParameters) :
    Mirror.Returns (ConfigurationParser.parseColorspace stream) (Kept stream) := by
  intro d r d' hr
  simp only [ConfigurationParser.parseColorspace, Mirror.bind_ok_iff, failIf_call_ok_iff,
    exists_unit, exists_and_left, exists_eq_left, and_assoc, Mirror.pure_apply,
    EStateM.Result.ok.injEq] at hr
  obtain ⟨value, d₁, _, _, _, rfl, _⟩ := hr
  exact ⟨rfl, rfl, rfl, rfl⟩

theorem parseBitDepth_keeps (stream : StreamParameters) :
    Mirror.Returns (ConfigurationParser.parseBitDepth stream) (Kept stream) := by
  unfold ConfigurationParser.parseBitDepth
  split
  · exact Mirror.Returns.pure ⟨rfl, rfl, rfl, rfl⟩
  · intro d r d' hr
    simp only [Mirror.bind_ok_iff, failIf_call_ok_iff, exists_unit, exists_and_left,
      exists_eq_left, and_assoc, Mirror.pure_apply, EStateM.Result.ok.injEq] at hr
    obtain ⟨value, d₁, _, _, _, rfl, _⟩ := hr
    exact ⟨rfl, rfl, rfl, rfl⟩

theorem parsePlanes_keeps (stream : StreamParameters) :
    Mirror.Returns (ConfigurationParser.parsePlanes stream) (Kept stream) := by
  intro d r d' hr
  simp only [ConfigurationParser.parsePlanes, Mirror.bind_ok_iff, failIf_call_ok_iff,
    exists_unit, exists_and_left, exists_eq_left, and_assoc, Mirror.pure_apply,
    EStateM.Result.ok.injEq] at hr
  obtain ⟨_, _, _, _, _, _, _, _, _, _, _, _, _, rfl, _⟩ := hr
  exact ⟨rfl, rfl, rfl, rfl⟩

theorem parseSliceGrid_keeps (stream : StreamParameters) :
    Mirror.Returns (ConfigurationParser.parseSliceGrid stream) (fun r => Kept stream r.1) := by
  unfold ConfigurationParser.parseSliceGrid
  split
  · exact Mirror.Returns.pure ⟨rfl, rfl, rfl, rfl⟩
  · intro d r d' hr
    simp only [Mirror.bind_ok_iff, Mirror.get_bind, failIf_call_ok_iff, exists_unit,
      exists_and_left, exists_eq_left, and_assoc, Mirror.pure_apply,
      EStateM.Result.ok.injEq] at hr
    obtain ⟨_, _, _, _, _, _, _, _, _, _, rfl, _⟩ := hr
    exact ⟨rfl, rfl, rfl, rfl⟩

theorem parseQuantTableSets_returns (count : Nat) :
    Mirror.Returns (ConfigurationParser.parseQuantTableSets count) (fun sets =>
      ∀ set ∈ sets, setEncodable set = true ∧
        set.contextCount.toNat ≤ ConfigurationParser.maxContextCount) := by
  induction count with
  | zero => exact Mirror.Returns.pure fun _ h => absurd h List.not_mem_nil
  | succ count ih =>
    unfold ConfigurationParser.parseQuantTableSets
    exact Mirror.Returns.bind parseQuantTableSet_returns fun set hset =>
      Mirror.Returns.bind ih fun sets hsets => Mirror.Returns.pure fun s hs =>
        (List.mem_cons.mp hs).elim (fun h => h ▸ ⟨hset.1, hset.2.2⟩) (hsets s)

theorem parseInitialStateSets_returns (sets : List QuantTableSet) :
    Mirror.Returns (ConfigurationParser.parseInitialStateSets sets)
      (fun stateSets => stateSets.length = sets.length) := by
  induction sets with
  | nil => exact Mirror.Returns.pure rfl
  | cons set sets ih =>
    unfold ConfigurationParser.parseInitialStateSets
    exact Mirror.Returns.bind Mirror.Returns.trivial fun flag _ =>
      Mirror.Returns.bind Mirror.Returns.trivial fun contexts _ =>
        Mirror.Returns.bind ih fun rest hrest => Mirror.Returns.pure (by simp [hrest])

theorem parseVersion3Tail_returns (stream : StreamParameters) :
    Mirror.Returns (ConfigurationParser.parseVersion3Tail stream) (fun r =>
      Kept stream r ∧ r.quantTableSets = stream.quantTableSets ∧
        (3 ≤ r.version → r.initialStates.length = r.quantTableSets.length)) := by
  unfold ConfigurationParser.parseVersion3Tail
  split
  · rename_i hversion
    exact Mirror.Returns.pure ⟨⟨rfl, rfl, rfl, rfl⟩, rfl, fun h => absurd hversion (by omega)⟩
  · exact Mirror.Returns.bind (parseInitialStateSets_returns _) fun states hstates =>
      Mirror.Returns.bind Mirror.Returns.trivial fun _ _ =>
        Mirror.Returns.bind Mirror.Returns.trivial fun _ _ =>
          Mirror.Returns.pure ⟨⟨rfl, rfl, rfl, rfl⟩, rfl, fun _ => hstates⟩

/-- What is known of every stream that the parser returns. -/
structure Parsed (s : StreamParameters) : Prop where
  recordable : Recordable s
  encodable : ∀ set ∈ s.quantTableSets, setEncodable set = true
  contexts : ∀ set ∈ s.quantTableSets,
    set.contextCount.toNat ≤ ConfigurationParser.maxContextCount
  stateSets : 3 ≤ s.version → s.initialStates.length = s.quantTableSets.length

theorem parseParameters_returns :
    Mirror.Returns ConfigurationParser.parseParameters (fun r => Parsed r.1) := by
  unfold ConfigurationParser.parseParameters
  refine Mirror.Returns.bind parseVersion_returns fun s₀ ⟨hwidth, hheight, htable⟩ => ?_
  refine Mirror.Returns.bind (parseCoderType_returns hwidth hheight htable) fun ⟨s₁, _⟩ h₁ => ?_
  refine Mirror.Returns.bind (parseColorspace_keeps s₁) fun s₂ h₂ => ?_
  refine Mirror.Returns.bind (parseBitDepth_keeps s₂) fun s₃ h₃ => ?_
  refine Mirror.Returns.bind (parsePlanes_keeps s₃) fun s₄ h₄ => ?_
  refine Mirror.Returns.bind (parseSliceGrid_keeps s₄) fun ⟨s₅, count⟩ h₅ => ?_
  refine Mirror.Returns.bind (parseQuantTableSets_returns count) fun sets hsets => ?_
  refine Mirror.Returns.bind (parseVersion3Tail_returns _) fun s₆ ⟨hkept, hsame, hstates⟩ => ?_
  have h₅' : Recordable s₅ := (((h₁.of_kept h₂).of_kept h₃).of_kept h₄).of_kept h₅
  have hkept' : Kept s₅ s₆ := hkept
  refine Mirror.Returns.pure ⟨h₅'.of_kept hkept', ?_, ?_, hstates⟩
  · rw [hsame]
    exact fun set hset => (hsets set hset).1
  · rw [hsame]
    exact fun set hset => (hsets set hset).2

theorem parse_parsed {record : Bytes} {s : StreamParameters}
    (h : ConfigurationRecordParser.parse record = .ok s) : Parsed s := by
  simp only [ConfigurationRecordParser.parse, except_bind_ok, exists_unit, failIf_ok_iff] at h
  obtain ⟨_, version, _, payload, _, hparse⟩ := h
  obtain ⟨d', hrun⟩ := valueOn_ok hparse
  simp only [ConfigurationRecordParser.parsePayload, ConfigurationParser.parse,
    Mirror.bind_ok_iff, exists_unit, Mirror.pure_apply, EStateM.Result.ok.injEq] at hrun
  obtain ⟨d, _, ⟨stream, custom⟩, d₁, hparameters, _, _, rfl, _⟩ := hrun
  exact parseParameters_returns d _ d₁ hparameters

/-- A parsed stream that the writer accepts is what its record carries. -/
theorem Parsed.recorded_eq {s : StreamParameters} (h : Parsed s) (hs : ValidProfile s) :
    s.recorded = s := by
  have hstates : codedInitialStates s = s.initialStates := by
    have hlen := h.stateSets (by rw [hs.version])
    unfold codedInitialStates
    split
    · rename_i hnil
      rw [hnil] at hlen
      exact absurd (List.length_eq_zero_iff.mp hlen.symm) hs.setCount.1
    · rfl
  have hframe : { s with width := 0, height := 0 } = s := by
    obtain ⟨hwidth, hheight, _⟩ := h.recordable
    cases s
    simp only at hwidth hheight
    rw [hwidth, hheight]
  unfold StreamParameters.recorded
  rw [hstates, h.recordable.transition]
  exact hframe

end Mffv1
