import Mffv1.ConfigurationImage

/-!
# Configuration records

A valid profile of encodable table sets can always be written: no step of the
writer fails, and the record is far from the size limit. With the parser's image
this gives the round trips in both directions, and what a written record must
satisfy to be accepted.
-/
namespace Mffv1

open ConfigurationRecordWriter (runLength)
open ConfigurationParser (mirrorTable int32Max)

namespace ConfigurationRecordWriter

open RangeEncoder (Writes)

section Progress

variable {α : Type} {rest : List (List Nat)} {a : α} {n : Nat}

theorem writeU_writes {size : Nat} (hsize : 0 < size) {value : Nat} (h : value < 2 ^ 63) :
    Writes ([size] :: rest) 127 (writeU value) ([size] :: rest) () :=
  RangeEncoder.writeUnsigned_writes rest (by simp) (by simpa using hsize)
    (by unfold RangeEncoder.int64Max; omega)

theorem independent_writes {shape : List (List Nat)} {body : Call RangeEncoder α} {sizes : List Nat}
    (h : Writes ([1] :: sizes :: shape) n body ([1] :: sizes :: shape) a) :
    Writes (sizes :: shape) n (withIndependentContexts body) (sizes :: shape) a := by
  intro e he hspace
  have hbegin : Writes (sizes :: shape) 0 _ _ _ :=
    RangeEncoder.beginIndependent_writes 1 (Nat.one_pos) (by decide)
  obtain ⟨e₁, hrun₁, he₁, hcount₁⟩ := hbegin e he (by omega)
  obtain ⟨e₂, hrun₂, he₂, hcount₂⟩ := h e₁ he₁ (by omega)
  obtain ⟨e₃, hrun₃, he₃, hcount₃⟩ :=
    RangeEncoder.endIndependent_writes [1] sizes shape e₂ he₂ (by omega)
  refine ⟨e₃, ?_, he₃, by omega⟩
  unfold withIndependentContexts
  simp only [hrun₁, hrun₂, hrun₃]

theorem writeQuantTableRuns_writes (table : QuantTable) (tableIndex scale fuel k value : Nat)
    (h : runsEncodable table scale fuel k value = true) :
    Writes ([1] :: rest) (127 * fuel) (writeQuantTableRuns table tableIndex scale fuel k value)
      ([1] :: rest) (runCount table scale fuel k value) := by
  induction fuel generalizing k value with
  | zero => exact Writes.pure
  | succ fuel ih =>
    unfold writeQuantTableRuns runCount
    by_cases hk : 128 ≤ k
    · simp only [hk, if_true]
      exact Writes.pure.mono (by omega)
    · simp only [hk, if_false]
      rw [runsEncodable, decide_eq_false hk, Bool.false_or, Bool.and_eq_true,
        decide_eq_true_eq] at h
      obtain ⟨hentry, hrest⟩ := h
      have hnat : (table.entry k).toInt = ((scale * value : Nat) : Int) := by exact_mod_cast hentry
      have hlen := runLength_pos (Nat.lt_of_not_le hk) hnat
      have hbound := runLength_le table (scale * value) (128 - k) k
      have hscale : ¬(value ≠ 0 ∧ int64Max / value < scale) := by
        rintro ⟨hne, hlt⟩
        have hle := int32_toInt_le (table.entry k)
        rw [hnat] at hle
        rw [Nat.div_lt_iff_lt_mul (Nat.pos_of_ne_zero hne)] at hlt
        unfold ConfigurationParser.int32Max at hle
        unfold int64Max at hlt
        omega
      refine Writes.passes hscale (Writes.passes (by simpa using hentry) (Writes.passes (by omega) ?_))
      exact ((writeU_writes Nat.one_pos (by omega)).bind (ih _ _ hrest)).mono (by omega)

theorem writeQuantTable_writes {table : QuantTable} (tableIndex : Nat) {scale : Nat}
    (h : tableEncodable table scale = true) :
    Writes ([1] :: rest) (127 * 128) (writeQuantTable table tableIndex scale) ([1] :: rest)
      (runCount table scale 128 0 0) := by
  simp only [tableEncodable, Bool.and_eq_true, decide_eq_true_eq] at h
  unfold writeQuantTable
  rw [h.1.1]
  exact writeQuantTableRuns_writes table tableIndex scale 128 0 0 h.1.2

theorem writeQuantTables_writes (tables : Vector QuantTable 5) (sizes : List Nat)
    (count tableIndex scale : Nat) (h : tablesEncodable tables count tableIndex scale = true) :
    Writes (sizes :: rest) (127 * 128 * count) (writeQuantTables tables count tableIndex scale)
      (sizes :: rest) (finalScale tables count tableIndex scale) := by
  induction count generalizing tableIndex scale with
  | zero => exact Writes.pure
  | succ count ih =>
    rw [tablesEncodable, Bool.and_eq_true] at h
    obtain ⟨htable, hrest⟩ := h
    have hover : ¬scaleOverflows scale (runCount (tableAt tables tableIndex) scale 128 0 0) := by
      rw [tableEncodable, Bool.and_eq_true, Bool.not_eq_true', decide_eq_false_iff_not] at htable
      exact htable.2
    exact ((independent_writes (writeQuantTable_writes tableIndex htable)).bind
      (Writes.passes hover (ih _ _ hrest))).mono (by omega)

theorem writeQuantTableSets_writes (sizes : List Nat) (sets : List QuantTableSet)
    (h : ∀ set ∈ sets, setEncodable set = true) :
    Writes (sizes :: rest) (127 * 640 * sets.length) (writeQuantTableSets sets)
      (sizes :: rest) () := by
  induction sets with
  | nil => exact Writes.pure
  | cons set sets ih =>
    have hset := h set (by simp)
    rw [setEncodable, Bool.and_eq_true, decide_eq_true_eq] at hset
    obtain ⟨htables, hcount⟩ := hset
    have hscale : Writes (sizes :: rest) (127 * 128 * 5)
        (writeQuantTables set.tables contextInputs 0 1) (sizes :: rest)
        (finalScale set.tables 5 0 1) := writeQuantTables_writes set.tables sizes 5 0 1 htables
    have hwrite : Writes (sizes :: rest) (127 * 640) (writeQuantTableSet set) (sizes :: rest) () := by
      unfold writeQuantTableSet
      generalize finalScale set.tables 5 0 1 = scale at hscale hcount
      refine Writes.bind (n := 0) hscale ?_
      exact Writes.check (not_not.mpr hcount)
    exact (hwrite.bind (ih fun s hs => h s (by simp [hs]))).mono
      (by rw [List.length_cons]; omega)

theorem writeInitialState_writes (previous current : InitialState) (count stateIndex : Nat)
    (h : stateIndex + count ≤ 32) :
    Writes ([32] :: rest) (127 * count) (writeInitialState previous current count stateIndex)
      ([32] :: rest) () := by
  induction count generalizing stateIndex with
  | zero => exact Writes.pure
  | succ count ih =>
    have hdelta (x y : UInt8) : ((x.toNat : Int) - (y.toNat : Int)).natAbs ≤
        RangeEncoder.int64Max := by
      have := x.toNat_lt
      have := y.toNat_lt
      unfold RangeEncoder.int64Max
      omega
    have hwrite : Writes ([32] :: rest) 127 (RangeEncoder.writeSigned 0 stateIndex _) _ () :=
      RangeEncoder.writeSigned_writes rest (by simp) (by simp; omega)
        (hdelta (current[stateIndex]?.getD 0) (previous[stateIndex]?.getD 0))
    exact (hwrite.bind (ih (stateIndex + 1) (by omega))).mono (by omega)

theorem writeInitialContexts_writes (contexts : InitialStateSet) (previous : InitialState) :
    Writes ([32] :: rest) (127 * 32 * contexts.length) (writeInitialContexts contexts previous)
      ([32] :: rest) () := by
  induction contexts generalizing previous with
  | nil => exact Writes.pure
  | cons current contexts ih =>
    exact ((writeInitialState_writes previous current 32 0 (Nat.le_refl _)).bind
      (ih current)).mono (by rw [List.length_cons]; omega)

theorem writeB_writes (bit : Bool) : Writes ([32] :: rest) 1 (writeB bit) ([32] :: rest) () :=
  RangeEncoder.writeBool_writes rest (by omega) bit

/-- A context count is a 32-bit number. -/
theorem initialStatesMatch_length {states : List InitialStateSet} {sets : List QuantTableSet}
    (h : initialStatesMatch states sets = true) : ∀ contexts ∈ states, contexts.length < 2 ^ 32 := by
  induction states generalizing sets with
  | nil => exact fun _ h => absurd h List.not_mem_nil
  | cons contexts states ih =>
    rw [initialStatesMatch, Bool.and_eq_true, Bool.or_eq_true, decide_eq_true_eq] at h
    obtain ⟨hlen, hrest⟩ := h
    intro c hc
    rcases List.mem_cons.mp hc with rfl | hmem
    · rcases hlen with hnil | hlen
      · simp [List.isEmpty_iff.mp hnil]
      · rw [hlen]
        cases sets with
        | nil => simp
        | cons set sets => exact set.contextCount.toNat_lt
    · exact ih hrest c hmem

theorem writeInitialStateSets_writes (states : List InitialStateSet)
    (h : ∀ contexts ∈ states, contexts.length < 2 ^ 32) :
    Writes ([32] :: rest) (2 ^ 45 * states.length) (writeInitialStateSets states)
      ([32] :: rest) () := by
  induction states with
  | nil => exact Writes.pure
  | cons contexts states ih =>
    have hlen := h contexts (by simp)
    have hset : Writes ([32] :: rest) _ (writeInitialStateSet contexts) _ _ :=
      (writeB_writes _).bind (writeInitialContexts_writes contexts _)
    exact (hset.bind (ih fun c hc => h c (by simp [hc]))).mono (by rw [List.length_cons]; omega)

theorem writeUncodedStateSets_writes (sets : List QuantTableSet) :
    Writes ([32] :: rest) sets.length (writeUncodedStateSets sets) ([32] :: rest) () := by
  induction sets with
  | nil => exact Writes.pure
  | cons set sets ih =>
    exact ((writeB_writes false).bind ih).mono (by rw [List.length_cons]; omega)

theorem writeStateTransitions_writes (table : StateTransitionTable) (count state : Nat) :
    Writes ([32] :: rest) (127 * count) (writeStateTransitions table count state)
      ([32] :: rest) () := by
  induction count generalizing state with
  | zero => exact Writes.pure
  | succ count ih =>
    have hdelta (x y : UInt8) : ((x.toNat : Int) - (y.toNat : Int)).natAbs ≤
        RangeEncoder.int64Max := by
      have := x.toNat_lt
      have := y.toNat_lt
      unfold RangeEncoder.int64Max
      omega
    have hwrite : Writes ([32] :: rest) 127 (RangeEncoder.writeSigned 0 0 _) _ () :=
      RangeEncoder.writeSigned_writes rest (by simp) (by simp)
        (hdelta (table[state]?.getD 0) (defaultStateTransition[state]?.getD 0))
    exact (hwrite.bind (ih (state + 1))).mono (by omega)

end Progress

/-- Some 2^49 bytes are enough for any valid profile. -/
theorem writeParameterList_writes {s : StreamParameters} (hs : ValidProfile s)
    (h : ∀ set ∈ s.quantTableSets, setEncodable set = true) :
    Writes [[32]] (2 ^ 49) (writeParameterList s) [[32]] () := by
  have hsets := hs.setCount.2
  have hcolorspace : s.colorspaceType.toNat < 2 ^ 63 := by
    have := hs.colorspace
    simp only [isSupportedSyntaxColorspace, Bool.or_eq_true, decide_eq_true_eq] at this
    omega
  have h8 (x : UInt8) : x.toNat < 2 ^ 63 := Nat.lt_of_lt_of_le x.toNat_lt (by norm_num)
  have h32 (x : UInt32) : x.toNat < 2 ^ 63 := Nat.lt_of_lt_of_le x.toNat_lt (by norm_num)
  have hcoder : coderType s < 2 ^ 63 := by
    unfold coderType
    split
    · norm_num
    · split <;> norm_num
  have hu {value : Nat} (hv : value < 2 ^ 63) :
      Writes [[32]] 127 (writeU value) [[32]] () := writeU_writes (by omega) hv
  have htransitions : Writes [[32]] (127 * 255)
      (if hasCustomStateTransition s then writeStateTransitions s.stateTransition 255 1
        else return ()) [[32]] () := by
    split
    · exact writeStateTransitions_writes _ _ _
    · exact Writes.pure.mono (by omega)
  have hstates : Writes [[32]] (2 ^ 48)
      (if s.initialStates = [] then writeUncodedStateSets s.quantTableSets
        else writeInitialStateSets s.initialStates) [[32]] () := by
    split
    · exact (writeUncodedStateSets_writes _).mono (by omega)
    · rename_i hne
      have hlen := hs.stateSetCount.resolve_left hne
      exact (writeInitialStateSets_writes _ (initialStatesMatch_length hs.initialStates)).mono
        (by omega)
  have hflag (b : Bool) : (if b then 1 else 0) < 2 ^ 63 := by cases b <;> norm_num
  exact (((hu (by norm_num)).bind <| (hu (by norm_num)).bind <| (hu hcoder).bind <|
    htransitions.bind <| (hu hcolorspace).bind <| (hu (h8 _)).bind <| (writeB_writes _).bind <|
    (hu (h8 _)).bind <| (hu (h8 _)).bind <| (writeB_writes _).bind <| (hu (h32 _)).bind <|
    (hu (h32 _)).bind <| (hu (Nat.lt_of_le_of_lt hsets (by norm_num))).bind <|
    (writeQuantTableSets_writes [32] s.quantTableSets h).bind <| hstates.bind <|
    (hu (hflag _)).bind (hu (hflag _)))).mono (by omega)

/-- Nothing stops the writer on a valid profile of encodable table sets. -/
theorem write_of_encodable {s : StreamParameters} (hs : ValidProfile s)
    (h : ∀ set ∈ s.quantTableSets, setEncodable set = true) : ∃ record, write s = .ok record := by
  obtain ⟨start, hstart, hhealthy, hcount⟩ :=
    RangeEncoder.reset_healthy 32 (by omega) (by decide) {}
  obtain ⟨written, hwritten, hhealthy', hcount'⟩ :=
    writeParameterList_writes hs h start hhealthy (by rw [hcount]; decide)
  have hvalid := (validateInitialProfile_ok_iff s).mpr hs
  have hparameters : writeParameters s start = .ok () written := by
    unfold writeParameters
    rw [hvalid]
    exact hwritten
  have hcoded : (codedParameters s).valueOn {} = .ok written.lowBytes := by
    have hstart' : RangeEncoder.reset [scalarContextSize] [] defaultStateTransition {} =
        .ok () start := hstart
    have hrun : codedParameters s {} = .ok written.lowBytes { written with finalized := true } := by
      unfold codedParameters
      rw [Mirror.bind_ok hstart', Mirror.bind_ok hparameters]
      exact finalize_of_ready hhealthy'.ready
    exact valueOn_of_ok hrun
  refine ⟨written.lowBytes ++ bigEndian32 (crc32IeeeMsb written.lowBytes), ?_⟩
  unfold write appendCrcParity
  rw [hvalid, hcoded]
  have hspace : ¬maxByteVectorSize - 4 < written.lowBytes.length := by
    rw [hcount] at hcount'
    unfold RangeEncoder.byteCount at hcount'
    unfold maxByteVectorSize
    omega
  simp only [bind, Except.bind]
  rw [failIf_of_not hspace]
  rfl

end ConfigurationRecordWriter

/-- A table of `runs` runs: one entry each, and the rest of the half for the last. -/
def steppedTable (scale runs : Nat) : QuantTable :=
  mirrorTable (Vector.ofFn fun k => Int32.ofNat (scale * min k.val (runs - 1)))

theorem steppedTable_entry (scale runs : Nat) {k : Nat} (hk : k < 128) :
    (steppedTable scale runs).entry k = Int32.ofNat (scale * min k (runs - 1)) := by
  unfold steppedTable
  rw [mirrorTable_entry _ hk, QuantTable.entry_ofFn _ (by omega)]

theorem steppedTable_runs {scale runs : Nat} (hscale : 0 < scale) (hruns : runs ≤ 128)
    (hmax : scale * (runs - 1) ≤ int32Max) (fuel k : Nat) (hk : k < runs)
    (hfuel : 128 ≤ k + fuel) :
    runsEncodable (steppedTable scale runs) scale fuel k k = true ∧
      runCount (steppedTable scale runs) scale fuel k k = runs := by
  have hentry {i : Nat} (hi : i < 128) :
      ((steppedTable scale runs).entry i).toInt = ((scale * min i (runs - 1) : Nat) : Int) := by
    rw [steppedTable_entry _ _ hi,
      int32_toInt_ofNat ((Nat.mul_le_mul_left scale (Nat.min_le_right _ _)).trans hmax)]
  induction fuel generalizing k with
  | zero => omega
  | succ fuel ih =>
    have hfirst : ((steppedTable scale runs).entry k).toInt = (scale : Int) * k := by
      rw [hentry (by omega), Nat.min_eq_left (by omega)]
      push_cast
      rfl
    rw [runsEncodable, runCount, if_neg (by omega), decide_eq_true hfirst, Bool.true_and]
    by_cases hlast : k = runs - 1
    · have hrun : runLength (steppedTable scale runs) (scale * k) (128 - k) k = 128 - k :=
        runLength_eq _ _ (Nat.le_refl _)
          (fun i h₁ h₂ => by rw [hentry (by omega), Nat.min_eq_right (by omega), hlast])
          (fun h => absurd h (Nat.lt_irrefl _))
      rw [hrun, show k + (128 - k) = 128 by omega]
      cases fuel with
      | zero => exact ⟨by simp [runsEncodable], by simp only [runCount]; omega⟩
      | succ fuel => exact ⟨by simp [runsEncodable], by simp only [runCount, Nat.le_refl, if_true]; omega⟩
    · have hrun : runLength (steppedTable scale runs) (scale * k) (128 - k) k = 1 := by
        refine runLength_eq _ _ (by omega) (fun i h₁ h₂ => ?_) fun h => ?_
        · rw [show i = k by omega, hentry (by omega), Nat.min_eq_left (by omega)]
        · rw [hentry (by omega), Nat.min_eq_left (by omega)]
          intro heq
          have hnat : scale * (k + 1) = scale * k := by exact_mod_cast heq
          rw [Nat.mul_add] at hnat
          omega
      rw [hrun]
      obtain ⟨hencodable, hcount⟩ := ih (k + 1) (by omega) (by omega)
      exact ⟨by rw [hencodable, Bool.or_true], hcount⟩

theorem steppedTable_encodable {scale runs : Nat} (hscale : 0 < scale) (hruns : runs ≤ 128)
    (hpos : 0 < runs) (hmax : scale * (runs - 1) ≤ int32Max)
    (hover : ¬ConfigurationParser.scaleOverflows scale runs) :
    tableEncodable (steppedTable scale runs) scale = true ∧
      runCount (steppedTable scale runs) scale 128 0 0 = runs := by
  obtain ⟨hencodable, hcount⟩ := steppedTable_runs hscale hruns hmax 128 0 hpos (by omega)
  refine ⟨?_, hcount⟩
  rw [tableEncodable, hcount, hencodable, decide_eq_false hover]
  simp [steppedTable, mirrorTable_validates]

/-- Four tables of `runs` runs and one of `lastRuns`. -/
def steppedSet (runs lastRuns : Nat) : QuantTableSet :=
  let step := 2 * runs - 1
  { tables := #v[steppedTable 1 runs, steppedTable step runs, steppedTable (step * step) runs,
      steppedTable (step * step * step) runs, steppedTable (step * step * step * step) lastRuns]
    contextCount := ((step * step * step * step * (2 * lastRuns - 1) + 1) / 2).toUInt32 }

theorem steppedSet_encodable {runs lastRuns : Nat} (hpos : 0 < runs) (hruns : runs ≤ 6)
    (hlast : 0 < lastRuns) (hlastRuns : lastRuns ≤ 6) :
    setEncodable (steppedSet runs lastRuns) = true := by
  have htable {scale count : Nat} (hscale : 0 < scale ∧ scale ≤ 11 * 11 * 11 * 11)
      (hcount : 0 < count) (hcount' : count ≤ 6) :
      tableEncodable (steppedTable scale count) scale = true ∧
        runCount (steppedTable scale count) scale 128 0 0 = count := by
    refine steppedTable_encodable hscale.1 (by omega) hcount ?_ ?_
    · exact (Nat.mul_le_mul hscale.2 (show count - 1 ≤ 5 by omega)).trans (by decide)
    · rintro (hzero | hlt)
      · omega
      · have : ConfigurationParser.int64Max / 11 ≤
            ConfigurationParser.int64Max / (2 * count - 1) :=
          Nat.div_le_div_left (by omega) (by omega)
        unfold ConfigurationParser.int64Max at this hlt
        omega
  obtain ⟨step, hstep⟩ : ∃ step, step = 2 * runs - 1 := ⟨_, rfl⟩
  have hgrow {scale bound : Nat} (h : 0 < scale ∧ scale ≤ bound) :
      0 < scale * step ∧ scale * step ≤ bound * 11 :=
    ⟨Nat.mul_pos h.1 (by omega), Nat.mul_le_mul h.2 (by omega)⟩
  have hscale₁ : 0 < step ∧ step ≤ 11 := by omega
  have hscale₂ := hgrow hscale₁
  have hscale₃ := hgrow hscale₂
  have hscale₄ := hgrow hscale₃
  obtain ⟨h₀, c₀⟩ := htable ⟨Nat.one_pos, by norm_num⟩ hpos hruns
  obtain ⟨h₁, c₁⟩ := htable ⟨hscale₁.1, hscale₁.2.trans (by norm_num)⟩ hpos hruns
  obtain ⟨h₂, c₂⟩ := htable ⟨hscale₂.1, hscale₂.2.trans (by norm_num)⟩ hpos hruns
  obtain ⟨h₃, c₃⟩ := htable ⟨hscale₃.1, hscale₃.2.trans (by norm_num)⟩ hpos hruns
  obtain ⟨h₄, c₄⟩ := htable hscale₄ hlast hlastRuns
  simp [setEncodable, tablesEncodable, finalScale, steppedSet, tableAt, ← hstep, h₀, c₀, h₁, c₁,
    h₂, c₂, h₃, c₃, h₄, c₄]

def steppedStream (runs lastRuns : Nat) : StreamParameters :=
  { microVersion := 4, quantTableSets := [steppedSet runs lastRuns] }

/-- The writer takes every stream of a few runs. -/
theorem write_steppedStream {runs lastRuns : Nat} (hpos : 0 < runs) (hruns : runs ≤ 6)
    (hlast : 0 < lastRuns) (hlastRuns : lastRuns ≤ 6)
    (hcontexts : (steppedSet runs lastRuns).contextCount ≠ 0) :
    ∃ record, ConfigurationRecordWriter.write (steppedStream runs lastRuns) = .ok record := by
  refine ConfigurationRecordWriter.write_of_encodable ?_ fun set hset => ?_
  · refine ⟨rfl, rfl, rfl, rfl, rfl, rfl, rfl, ⟨by simp [steppedStream], by simp [steppedStream]⟩,
      ⟨by simp [steppedStream], by simp [steppedStream]⟩, fun set hset => ?_, .inl rfl, rfl⟩
    rwa [List.mem_singleton.mp hset]
  · rw [List.mem_singleton.mp hset]
    exact steppedSet_encodable hpos hruns hlast hlastRuns

/-- Whether every table set has few enough contexts for the parser. -/
def ContextsSupported (s : StreamParameters) : Prop :=
  ∀ set ∈ s.quantTableSets, set.contextCount.toNat ≤ ConfigurationParser.maxContextCount

instance (s : StreamParameters) : Decidable (ContextsSupported s) :=
  inferInstanceAs (Decidable (∀ _ ∈ _, _))

/-- What a record carries survives writing and parsing, and a parsed stream that the
writer accepts survives parsing and writing. -/
theorem configuration_record_roundtrip :
    (∀ (s : StreamParameters) (record : Bytes) (parsed : StreamParameters),
      ConfigurationRecordWriter.write s = .ok record →
      ConfigurationRecordParser.parse record = .ok parsed → parsed = s.recorded) ∧
    (∀ (record : Bytes) (stream : StreamParameters),
      ConfigurationRecordParser.parse record = .ok stream →
      ConfigurationRecordWriter.validateInitialProfile stream = .ok () →
      ∃ record', ConfigurationRecordWriter.write stream = .ok record' ∧
        ConfigurationRecordParser.parse record' = .ok stream) := by
  constructor
  · intro s record parsed hwrite hparse
    exact (parse_written (F := True) (fun _ _ _ => True.intro) hwrite).1 parsed hparse
  · intro record stream hparse hvalid
    have hs := (validateInitialProfile_ok_iff stream).mp hvalid
    have hparsed := parse_parsed hparse
    obtain ⟨record', hwrite⟩ :=
      ConfigurationRecordWriter.write_of_encodable hs hparsed.encodable
    have hsupported : ∀ set ∈ stream.quantTableSets,
        ConfigurationParser.maxContextCount < set.contextCount.toNat → False :=
      fun set hset hlt => absurd (hparsed.contexts set hset) (by omega)
    have hback := (parse_written hsupported hwrite).2.resolve_left id
    rw [hparsed.recorded_eq hs] at hback
    exact ⟨record', hwrite, hback⟩

theorem configuration_record_roundtrip_stepped :
    ∃ record, ConfigurationRecordWriter.write (steppedStream 3 4) = .ok record ∧
      ConfigurationRecordParser.parse record = .ok (steppedStream 3 4).recorded ∧
      ∃ record', ConfigurationRecordWriter.write (steppedStream 3 4).recorded = .ok record' ∧
        ConfigurationRecordParser.parse record' = .ok (steppedStream 3 4).recorded := by
  obtain ⟨record, hwrite⟩ := write_steppedStream (show 0 < 3 by decide) (by decide)
    (show 0 < 4 by decide) (by decide) (by decide)
  have hsmall : ∀ set ∈ (steppedStream 3 4).quantTableSets,
      ConfigurationParser.maxContextCount < set.contextCount.toNat → False := by
    intro set hset
    rw [List.mem_singleton.mp hset]
    decide
  have hparse := (parse_written hsmall hwrite).2.resolve_left id
  have hvalid : ConfigurationRecordWriter.validateInitialProfile (steppedStream 3 4).recorded =
      .ok () := by
    refine (validateInitialProfile_ok_iff _).mpr ⟨rfl, rfl, by decide, by decide, by decide,
      by decide, by decide, by decide, ⟨by simp [steppedStream, StreamParameters.recorded],
      Nat.le_of_ble_eq_true rfl⟩, fun set hset => ?_, .inr rfl, rfl⟩
    rw [List.mem_singleton.mp hset]
    decide
  obtain ⟨hforth, hback⟩ := configuration_record_roundtrip
  exact ⟨record, hwrite, hforth _ record _ hwrite hparse ▸ hparse, hback record _ hparse hvalid⟩

/-- An accepted record was written for table sets that the parser supports. -/
theorem contextsSupported_of_parse {s parsed : StreamParameters} {record : Bytes}
    (hwrite : ConfigurationRecordWriter.write s = .ok record)
    (hparse : ConfigurationRecordParser.parse record = .ok parsed) : ContextsSupported s := by
  have hrecorded :=
    (parse_written (F := True) (fun _ _ _ => True.intro) hwrite).1 parsed hparse
  have hcontexts := (parse_parsed hparse).contexts
  rw [hrecorded] at hcontexts
  exact hcontexts

/-- A written record is accepted exactly when no table set has more contexts than the
parser supports, a limit that the writer does not check. -/
theorem parse_written_ok_iff (s : StreamParameters) (record : Bytes)
    (hwrite : ConfigurationRecordWriter.write s = .ok record) :
    (∃ parsed, ConfigurationRecordParser.parse record = .ok parsed) ↔ ContextsSupported s := by
  constructor
  · rintro ⟨parsed, hparse⟩
    exact contextsSupported_of_parse hwrite hparse
  · intro hsupported
    have hsmall : ∀ set ∈ s.quantTableSets,
        ConfigurationParser.maxContextCount < set.contextCount.toNat → False :=
      fun set hset hlt => absurd (hsupported set hset) (by omega)
    exact ⟨_, (parse_written hsmall hwrite).2.resolve_left id⟩

theorem parse_written_ok_iff_stepped :
    ∃ record, ConfigurationRecordWriter.write (steppedStream 3 4) = .ok record ∧
      ((∃ parsed, ConfigurationRecordParser.parse record = .ok parsed) ↔
        ContextsSupported (steppedStream 3 4)) := by
  obtain ⟨record, hwrite⟩ := write_steppedStream (show 0 < 3 by decide) (by decide)
    (show 0 < 4 by decide) (by decide) (by decide)
  exact ⟨record, hwrite, parse_written_ok_iff (steppedStream 3 4) record hwrite⟩

/-- Tables of 5, 5, 5, 5 and 6 runs make 36086 contexts: the writer accepts them and the
parser does not. -/
theorem steppedStream_rejected :
    ∃ record, ConfigurationRecordWriter.write (steppedStream 5 6) = .ok record ∧
      ¬∃ parsed, ConfigurationRecordParser.parse record = .ok parsed := by
  obtain ⟨record, hwrite⟩ := write_steppedStream (show 0 < 5 by decide) (by decide)
    (show 0 < 6 by decide) (by decide) (by decide)
  refine ⟨record, hwrite, ?_⟩
  rintro ⟨parsed, hparse⟩
  have hle := contextsSupported_of_parse hwrite hparse (steppedSet 5 6) (by simp [steppedStream])
  exact absurd hle (by decide)

end Mffv1
