import Mffv1.RangeSymbols

/-!
# The range encoder does not get stuck under the default transitions

Under the default transition table a state never leaves 8..248, so that no
decision has a zero-width range; the lower end never overflows its bytes. A
write then fails only for want of space, which `Writes` accounts for.
-/
namespace Mffv1

open ByteValue (value)

/-- A state from which the default table never reaches the ends. -/
def Live (state : UInt8) : Prop := 8 ≤ state.toNat ∧ state.toNat ≤ 248

instance (state : UInt8) : Decidable (Live state) := inferInstanceAs (Decidable (_ ∧ _))

theorem live_entry {state : UInt8} (h : Live state) :
    Live (defaultStateTransition.entry state) := by
  have hall : ∀ x ∈ (defaultStateTransition.toList.drop 8).take 241, Live x := by decide +kernel
  obtain ⟨hlo, hhi⟩ := h
  apply hall
  rw [List.mem_iff_getElem]
  refine ⟨state.toNat - 8, by simp; omega, ?_⟩
  simp only [List.getElem_take, List.getElem_drop, Vector.getElem_toList,
    show 8 + (state.toNat - 8) = state.toNat by omega]
  rfl

theorem live_next {state : UInt8} (h : Live state) (bit : Bool) :
    Live (RangeEncoder.nextState defaultStateTransition state bit) := by
  cases bit with
  | true => exact live_entry h
  | false =>
    have hne : state ≠ 0 := fun hz => by
      have := h.1
      rw [hz] at this
      exact absurd this (by decide)
    have hmirror : (256 - state.toNat).toUInt8.toNat = 256 - state.toNat := by
      have := h.1
      rw [Nat.toUInt8_eq, UInt8.toNat_ofNat']
      omega
    obtain ⟨hlo, hhi⟩ : Live (defaultStateTransition.entry (256 - state.toNat).toUInt8) :=
      live_entry (by unfold Live at h ⊢; omega)
    simp only [RangeEncoder.nextState, Bool.false_eq_true, if_false, rangeZeroState, hne]
    unfold Live
    rw [Nat.toUInt8_eq, UInt8.toNat_ofNat']
    omega

def LiveContext (states : ScalarContextStates) : Prop := ∀ index, Live (states.get index)

def LiveBanks (banks : ContextStateBanks) : Prop :=
  ∀ bank ∈ banks, ∀ states ∈ bank, LiveContext states

theorem liveContext_set {states : ScalarContextStates} (h : LiveContext states) (index : Fin 32)
    {state : UInt8} (hs : Live state) : LiveContext (states.setState index state) := by
  intro i
  change Live ((states.set index state)[i.val])
  rw [Vector.getElem_set]
  split
  · exact hs
  · exact h i

theorem liveBanks_set {banks : ContextStateBanks} (h : LiveBanks banks) (bank context : Nat)
    (index : Fin 32) {state : UInt8} (hs : Live state) :
    LiveBanks (banks.setStateAt bank context index state) := by
  intro contexts hcontexts states hstates
  obtain ⟨i, hi, rfl⟩ := List.mem_iff_getElem.mp hcontexts
  simp only [ContextStateBanks.setStateAt, List.getElem_modify, List.length_modify] at hstates hi
  have hold := h _ (List.getElem_mem (by simpa using hi))
  split at hstates
  · obtain ⟨j, hj, rfl⟩ := List.mem_iff_getElem.mp hstates
    simp only [List.getElem_modify, List.length_modify] at hj ⊢
    have hctx := hold _ (List.getElem_mem hj)
    split
    · exact liveContext_set hctx index hs
    · exact hctx
  · exact hold _ hstates

theorem liveBanks_get {banks : ContextStateBanks} (h : LiveBanks banks) {bank context : Nat}
    (hbank : bank < banks.length) (hcontext : context < (banks.getD bank []).length) :
    LiveContext ((banks.getD bank []).getD context (filledContext 0)) := by
  rw [List.getD_eq_getElem _ _ hcontext]
  refine h (banks.getD bank []) ?_ _ (List.getElem_mem hcontext)
  rw [List.getD_eq_getElem _ _ hbank]
  exact List.getElem_mem hbank

theorem live_stateAt {banks : ContextStateBanks} (h : LiveBanks banks) {bank context : Nat}
    (hbank : bank < banks.length) (hcontext : context < (banks.getD bank []).length)
    (index : Fin 32) : Live (banks.stateAt bank context index) :=
  liveBanks_get h hbank hcontext index

@[simp] theorem setStateAt_sizes (banks : ContextStateBanks) (bank context : Nat) (index : Fin 32)
    (state : UInt8) : (banks.setStateAt bank context index state).sizes = banks.sizes := by
  apply List.ext_getElem
  · simp [ContextStateBanks.sizes, ContextStateBanks.setStateAt]
  · intro i h₁ h₂
    simp only [ContextStateBanks.sizes, ContextStateBanks.setStateAt, List.getElem_map,
      List.getElem_modify]
    split
    · simp
    · rfl

namespace RangeEncoder

/-- An encoder that never gets stuck; `shape` gives the sizes of its banks and of its
snapshots. -/
structure Healthy (shape : List (List Nat)) (e : RangeEncoder) : Prop where
  ready : e.Ready
  table : e.stateTransition = defaultStateTransition
  states : ∀ banks ∈ e.scalarContexts :: e.scalarContextSnapshots, LiveBanks banks
  shape : (e.scalarContexts :: e.scalarContextSnapshots).map ContextStateBanks.sizes = shape
  headroom : value e.lowBytes + e.range.toNat ≤ 0xff00 * 256 ^ (e.lowBytes.length - 2)

theorem nextRange_ne_zero {range : UInt32} {state : UInt8} (bit : Bool)
    (hlo : 256 ≤ range.toNat) (hhi : range.toNat ≤ 0xff00) (hs : Live state) :
    nextRange range state bit ≠ 0 := by
  intro hzero
  have hz := congrArg UInt32.toNat hzero
  obtain ⟨h₁, h₂⟩ := hs
  cases bit with
  | false =>
    rw [nextRange_zero_toNat state hhi] at hz
    have hlt : range.toNat * state.toNat / 256 < range.toNat :=
      Nat.div_lt_of_lt_mul (by nlinarith)
    change range.toNat - _ = 0 at hz
    omega
  | true =>
    rw [nextRange_one_toNat state hhi] at hz
    have hge : 1 ≤ range.toNat * state.toNat / 256 := by
      rw [Nat.le_div_iff_mul_le (by omega)]
      nlinarith
    change _ = 0 at hz
    omega

/-- What a write needs besides a part of the range: a byte of space and room for the carry. -/
theorem writeRac_of {e : RangeEncoder} {state : UInt8} {bit : Bool}
    (hne : nextRange e.range state bit ≠ 0)
    (hspace : ¬(nextRange e.range state bit < 256 ∧ e.lowBytes.length = maxByteVectorSize))
    (hcarry : value e.lowBytes + cut e.range state bit < 256 ^ e.lowBytes.length) :
    writeRac state bit e = .ok (nextState e.stateTransition state bit) (stepped e state bit) := by
  unfold writeRac
  rw [Mirror.get_bind, failIf_of_not hne, failIf_of_not hspace, pure_bind, pure_bind]
  cases bit with
  | false => rfl
  | true =>
    have hadd : addToLow (nextRange e.range state false) e = .ok () (raised e state true) := by
      unfold addToLow
      rw [Mirror.get_bind, Mirror.set_bind, failIf_of_not]
      · rfl
      · rw [not_not]
        exact ByteValue.addCarry_fits (by simpa only [cut, if_true] using hcarry)
    simp only [if_true]
    rw [Mirror.bind_ok hadd]
    rfl

theorem headroom_lt {e : RangeEncoder} (hr : e.Ready)
    (h : value e.lowBytes + e.range.toNat ≤ 0xff00 * 256 ^ (e.lowBytes.length - 2)) :
    value e.lowBytes + e.range.toNat < 256 ^ e.lowBytes.length := by
  have hlen := hr.length_ge
  have hpow : 256 ^ e.lowBytes.length = 256 ^ (e.lowBytes.length - 2) * 65536 := by
    rw [show 65536 = 256 ^ 2 by norm_num, ← pow_add]
    congr 1
    omega
  have hpos : 0 < 256 ^ (e.lowBytes.length - 2) := by positivity
  omega

theorem stepped_headroom {e : RangeEncoder} {state : UInt8} {bit : Bool} (hr : e.Ready)
    (hv : value (raised e state bit).lowBytes = value e.lowBytes + cut e.range state bit)
    (h : value e.lowBytes + e.range.toNat ≤ 0xff00 * 256 ^ (e.lowBytes.length - 2)) :
    value (stepped e state bit).lowBytes + (stepped e state bit).range.toNat ≤
      0xff00 * 256 ^ ((stepped e state bit).lowBytes.length - 2) := by
  have hcut := cut_add_nextRange state bit hr.range_le
  have hlen := hr.length_ge
  by_cases hlt : nextRange e.range state bit < 256
  · simp only [stepped, renormalize, hlt, if_true, shiftRange_toNat hlt,
      ByteValue.value_append_singleton, hv, List.length_append, raised_length,
      List.length_singleton, UInt8.toNat_zero]
    have hpow : 256 ^ (e.lowBytes.length + 1 - 2) = 256 * 256 ^ (e.lowBytes.length - 2) := by
      rw [← pow_succ']
      congr 1
      omega
    rw [hpow]
    omega
  · simp only [stepped, renormalize, hlt, if_false, hv, raised_length]
    omega

theorem stepped_byteCount (e : RangeEncoder) (state : UInt8) (bit : Bool) :
    (stepped e state bit).byteCount ≤ e.byteCount + 1 := by
  unfold stepped renormalize byteCount
  split <;> simp

/-- On a healthy encoder `w` returns `a` and appends at most `n` bytes, if they fit. -/
def Writes {α : Type} (shape : List (List Nat)) (n : Nat) (w : Call RangeEncoder α)
    (shape' : List (List Nat)) (a : α) : Prop :=
  ∀ e, Healthy shape e → e.byteCount + n ≤ maxByteVectorSize →
    ∃ e', w e = .ok a e' ∧ Healthy shape' e' ∧ e'.byteCount ≤ e.byteCount + n

section Rules

variable {α β : Type} {shape shape' shape'' : List (List Nat)} {m n : Nat}
  {w : Call RangeEncoder α} {a : α} {b : β}

theorem Writes.pure : Writes shape 0 (Pure.pure a) shape a :=
  fun e he _ => ⟨e, rfl, he, Nat.le_refl _⟩

theorem Writes.bind {f : α → Call RangeEncoder β} (h₁ : Writes shape m w shape' a)
    (h₂ : Writes shape' n (f a) shape'' b) : Writes shape (m + n) (w >>= f) shape'' b := by
  intro e he hspace
  obtain ⟨e₁, hw, he₁, hcount⟩ := h₁ e he (by omega)
  obtain ⟨e₂, hf, he₂, hcount₂⟩ := h₂ e₁ he₁ (by omega)
  exact ⟨e₂, by rw [Mirror.bind_ok hw, hf], he₂, by omega⟩

theorem Writes.mono (h : Writes shape m w shape' a) (hmn : m ≤ n) : Writes shape n w shape' a := by
  intro e he hspace
  obtain ⟨e', hw, he', hcount⟩ := h e he (by omega)
  exact ⟨e', hw, he', by omega⟩

theorem Writes.passes {condition : Prop} [Decidable condition] {error : Error}
    {f : PUnit → Call RangeEncoder α} (hnot : ¬condition) (h : Writes shape n (f ⟨⟩) shape' a) :
    Writes shape n (failIf condition error >>= f) shape' a := by
  rwa [failIf_of_not hnot, pure_bind]

theorem Writes.check {condition : Prop} [Decidable condition] {error : Error} (hnot : ¬condition) :
    Writes shape 0 (failIf condition error) shape ⟨⟩ := by
  rw [failIf_of_not hnot]
  exact Writes.pure

theorem Writes.checkOpen {f : Unit → Call RangeEncoder α} (h : Writes shape n (f ()) shape' a) :
    Writes shape n (RangeEncoder.checkOpen >>= f) shape' a := by
  intro e he hspace
  have hopen : RangeEncoder.checkOpen e = .ok () e := by
    unfold RangeEncoder.checkOpen
    rw [Mirror.get_bind, failIf_of_not (by simp [he.ready.initialized]),
      failIf_of_not (by simp [he.ready.unfinalized])]
    rfl
  rw [Mirror.bind_ok hopen]
  exact h e he hspace

end Rules

section Symbols

variable {shape : List (List Nat)}

theorem Healthy.step {e : RangeEncoder} (he : Healthy shape e) {state : UInt8} (hs : Live state)
    (bit : Bool) (hspace : e.byteCount + 1 ≤ maxByteVectorSize) :
    writeRac state bit e = .ok (nextState defaultStateTransition state bit) (stepped e state bit) ∧
      Healthy shape (stepped e state bit) := by
  have hne := nextRange_ne_zero bit he.ready.range_ge he.ready.range_le hs
  have hcut := cut_add_nextRange state bit he.ready.range_le
  have hwrite := writeRac_of hne (by unfold byteCount at hspace; omega)
    (Nat.lt_of_le_of_lt (by omega) (headroom_lt he.ready he.headroom))
  obtain ⟨-, -, -, hv⟩ := writeRac_ok hwrite
  refine ⟨he.table ▸ hwrite, ⟨stepped_ready he.ready hne, ?_, ?_, ?_,
    stepped_headroom he.ready hv he.headroom⟩⟩
  · rw [stepped_frame]
    exact he.table
  · rw [stepped_frame]
    exact he.states
  · rw [stepped_frame]
    exact he.shape

theorem racAt_writes {bank context : Nat} {sizes : List Nat} (rest : List (List Nat))
    (hbank : bank < sizes.length) (hcontext : context < sizes.getD bank 0) (index : Fin 32)
    (bit : Bool) : Writes (sizes :: rest) 1 (racAt bank context index bit) (sizes :: rest) () := by
  intro e he hspace
  have hshape : e.scalarContexts.sizes = sizes := (List.cons.inj he.shape).1
  have hb : bank < e.scalarContexts.length := by
    rw [← hshape] at hbank
    simpa [ContextStateBanks.sizes] using hbank
  have hc : context < (e.scalarContexts.getD bank []).length := by
    rw [← hshape, List.getD_eq_getElem _ _ (by simpa [ContextStateBanks.sizes] using hb)] at hcontext
    rw [List.getD_eq_getElem _ _ hb]
    simpa [ContextStateBanks.sizes] using hcontext
  have hlive := live_stateAt (he.states _ (by simp)) hb hc index
  obtain ⟨hwrite, hstep⟩ := he.step hlive bit hspace
  refine ⟨_, by unfold racAt; rw [Mirror.get_bind, Mirror.bind_ok hwrite]; rfl, ?_, ?_⟩
  · rw [stepped_frame] at hstep ⊢
    refine ⟨⟨hstep.ready.1, hstep.ready.2, hstep.ready.3, hstep.ready.4, hstep.ready.5⟩,
      hstep.table, ?_, ?_, hstep.headroom⟩
    · intro banks hbanks
      rcases List.mem_cons.mp hbanks with rfl | hmem
      · exact liveBanks_set (he.states _ (by simp)) bank context index (live_next hlive bit)
      · exact he.states banks (by simp [hmem])
    · simpa only [List.map_cons, setStateAt_sizes] using he.shape
  · have := stepped_byteCount e (e.scalarContexts.stateAt bank context index) bit
    exact this

theorem writeDecisions_writes {bank context : Nat} {sizes : List Nat} (rest : List (List Nat))
    (hbank : bank < sizes.length) (hcontext : context < sizes.getD bank 0)
    (decisions : List Decision) :
    Writes (sizes :: rest) decisions.length (writeDecisions bank context decisions)
      (sizes :: rest) () := by
  induction decisions with
  | nil => exact Writes.pure
  | cons decision decisions ih =>
    exact ((racAt_writes rest hbank hcontext decision.1 decision.2).bind ih).mono
      (by rw [List.length_cons]; omega)

/-- The trial pass finds no zero-width range either. -/
theorem trialDecisions_of_live (decisions : List Decision) {states : ScalarContextStates}
    (hlive : LiveContext states) {range : UInt32} (hlo : 256 ≤ range.toNat)
    (hhi : range.toNat ≤ 0xff00) (appended : Nat) :
    ∃ n, trialDecisions defaultStateTransition decisions states range appended = .ok n ∧
      n ≤ appended + decisions.length := by
  induction decisions generalizing states range appended with
  | nil => exact ⟨appended, rfl, Nat.le_refl _⟩
  | cons decision decisions ih =>
    obtain ⟨index, bit⟩ := decision
    have hs := hlive index
    have hne := nextRange_ne_zero bit hlo hhi hs
    have hnext := cut_add_nextRange (states.get index) bit hhi
    have hpos : 0 < (nextRange range (states.get index) bit).toNat :=
      Nat.pos_of_ne_zero fun h => hne (UInt32.toNat_inj.mp h)
    have hset := liveContext_set hlive index (live_next hs bit)
    unfold trialDecisions
    simp only [hne, if_false, List.length_cons]
    by_cases hlt : nextRange range (states.get index) bit < 256
    · have hnat : (nextRange range (states.get index) bit).toNat < 256 :=
        UInt32.lt_iff_toNat_lt.mp hlt
      simp only [hlt, if_true]
      have hge : 256 ≤ (nextRange range (states.get index) bit <<< 8).toNat := by
        rw [shiftRange_toNat hlt]
        omega
      obtain ⟨n, hn, hle⟩ := ih hset hge (by rw [shiftRange_toNat hlt]; omega) (appended + 1)
      exact ⟨n, hn, by omega⟩
    · have hnat : ¬(nextRange range (states.get index) bit).toNat < 256 :=
        fun h => hlt (UInt32.lt_iff_toNat_lt.mpr h)
      simp only [hlt, if_false]
      have hge : 256 ≤ (nextRange range (states.get index) bit).toNat := by omega
      obtain ⟨n, hn, hle⟩ := ih hset hge (by omega) appended
      exact ⟨n, hn, by omega⟩

theorem exponentDecisions_length (exponent count : Nat) :
    (exponentDecisions exponent count).length = count + 1 := by
  induction count generalizing exponent with
  | zero => rfl
  | succ count ih => rw [exponentDecisions, List.length_cons, ih]

theorem mantissaDecisions_length (magnitude count : Nat) :
    (mantissaDecisions magnitude count).length = count := by
  induction count with
  | zero => rfl
  | succ count ih => rw [mantissaDecisions, List.length_cons, ih]

theorem symbolDecisions_length (isSigned negative : Bool) {magnitude : Nat}
    (h : magnitude ≤ int64Max) : (symbolDecisions isSigned magnitude negative).length ≤ 127 := by
  unfold symbolDecisions
  by_cases hzero : magnitude = 0
  · simp [hzero]
  · have hlog := log2_lt_of_le_int64Max hzero h
    simp only [hzero, if_false, List.length_cons, List.length_append, exponentDecisions_length,
      mantissaDecisions_length]
    split <;> simp <;> omega

theorem writeSymbol_writes {bank context : Nat} {sizes : List Nat} (rest : List (List Nat))
    (hbank : bank < sizes.length) (hcontext : context < sizes.getD bank 0)
    (isSigned negative : Bool) {magnitude : Nat} (hmax : magnitude ≤ int64Max) :
    Writes (sizes :: rest) 127 (writeSymbol bank context isSigned magnitude negative)
      (sizes :: rest) () := by
  have hlen := symbolDecisions_length isSigned negative hmax
  have hdecisions := (writeDecisions_writes rest hbank hcontext
    (symbolDecisions isSigned magnitude negative)).mono hlen
  intro e he hspace
  have hshape : e.scalarContexts.sizes = sizes := (List.cons.inj he.shape).1
  have hb : bank < e.scalarContexts.length := by
    rw [← hshape] at hbank
    simpa [ContextStateBanks.sizes] using hbank
  have hc : context < (e.scalarContexts.getD bank []).length := by
    rw [← hshape, List.getD_eq_getElem _ _ (by simpa [ContextStateBanks.sizes] using hb)] at hcontext
    rw [List.getD_eq_getElem _ _ hb]
    simpa [ContextStateBanks.sizes] using hcontext
  obtain ⟨n, htrial, hn⟩ := trialDecisions_of_live (symbolDecisions isSigned magnitude negative)
    (liveBanks_get (he.states _ (by simp)) hb hc) he.ready.range_ge he.ready.range_le 0
  obtain ⟨e', hwrite, he', hcount⟩ := hdecisions e he hspace
  refine ⟨e', ?_, he', hcount⟩
  unfold writeSymbol
  rw [Mirror.get_bind, failIf_of_not (by omega), failIf_of_not (by omega), pure_bind, pure_bind]
  simp only [he.table, htrial]
  rw [failIf_of_not (by unfold byteCount at hspace; omega), pure_bind]
  exact Mirror.adaptExcept_ok_iff.mpr hwrite

theorem writeUnsigned_writes {bank context : Nat} {sizes : List Nat} (rest : List (List Nat))
    (hbank : bank < sizes.length) (hcontext : context < sizes.getD bank 0) {value : Nat}
    (hmax : value ≤ int64Max) :
    Writes (sizes :: rest) 127 (writeUnsigned bank context value) (sizes :: rest) () :=
  Writes.checkOpen (Writes.passes (by omega)
    (writeSymbol_writes rest hbank hcontext false false hmax))

theorem writeSigned_writes {bank context : Nat} {sizes : List Nat} (rest : List (List Nat))
    (hbank : bank < sizes.length) (hcontext : context < sizes.getD bank 0) {value : Int}
    (hmax : value.natAbs ≤ int64Max) :
    Writes (sizes :: rest) 127 (writeSigned bank context value) (sizes :: rest) () :=
  Writes.checkOpen (Writes.passes (by omega) (writeSymbol_writes rest hbank hcontext true _ hmax))

theorem writeBool_writes {size : Nat} {sizes : List Nat} (rest : List (List Nat)) (hsize : 0 < size)
    (bit : Bool) : Writes ((size :: sizes) :: rest) 1 (writeBool bit) ((size :: sizes) :: rest) () := by
  refine Writes.checkOpen fun e he hspace => ?_
  have hshape : e.scalarContexts.sizes = size :: sizes := (List.cons.inj he.shape).1
  have hne : e.scalarContexts.getD 0 [] ≠ [] := by
    cases hbanks : e.scalarContexts with
    | nil => simp [ContextStateBanks.sizes, hbanks] at hshape
    | cons bank banks =>
      simp only [ContextStateBanks.sizes, hbanks, List.map_cons, List.cons.injEq] at hshape
      rintro rfl
      simp at hshape
      omega
  have hbank : 0 < (size :: sizes).length := by simp
  have hcontext : 0 < (size :: sizes).getD 0 0 := by simpa using hsize
  obtain ⟨e', hwrite, hrest⟩ := racAt_writes rest hbank hcontext 0 bit e he hspace
  refine ⟨e', ?_, hrest⟩
  rw [Mirror.get_bind, failIf_of_not hne, pure_bind]
  exact hwrite

theorem liveContext_default : LiveContext (filledContext defaultInitialState) := by
  intro index
  simp only [filledContext, Vector.get, Vector.toArray_replicate]
  simp [Live, defaultInitialState]

/-- Fresh contexts of one bank. -/
theorem initializeContexts_single (count : Nat) (hpos : 0 < count)
    (hle : count ≤ maxScalarContextCount) :
    RangeEncoder.initializeContexts [count] [] defaultInitialState =
      .ok [List.replicate count (filledContext defaultInitialState)] := by
  refine RangeEncoder.initializeContexts_of_coder ?_
  refine initializeContexts_of_valid defaultInitialState ?_ (fun _ _ _ _ => rfl)
  exact ⟨by simp, by simp [maxContextBankCount], .inl rfl, hpos, hle, .inl rfl, trivial⟩

theorem liveBanks_single (count : Nat) :
    LiveBanks [List.replicate count (filledContext defaultInitialState)] := by
  intro bank hbank states hstates
  rw [List.mem_singleton.mp hbank] at hstates
  rw [List.eq_of_mem_replicate hstates]
  exact liveContext_default

theorem beginIndependent_writes (count : Nat) (hpos : 0 < count)
    (hle : count ≤ maxScalarContextCount) :
    Writes shape 0 (beginIndependentScalarContexts count) ([count] :: shape) () := by
  refine Writes.checkOpen fun e he _ => ?_
  rw [Mirror.get_bind, initializeContexts_single count hpos hle]
  refine ⟨_, rfl, ⟨⟨he.ready.1, he.ready.2, he.ready.3, he.ready.4, he.ready.5⟩, he.table, ?_, ?_,
    he.headroom⟩, Nat.le_refl _⟩
  · intro banks hbanks
    rcases List.mem_cons.mp hbanks with rfl | hmem
    · exact liveBanks_single count
    · exact he.states banks hmem
  · simp only [List.map_cons, ContextStateBanks.sizes, List.map_nil, List.length_replicate,
      List.cons.injEq, true_and]
    exact he.shape

theorem endIndependent_writes (sizes : List Nat) (saved : List Nat) (rest : List (List Nat)) :
    Writes (sizes :: saved :: rest) 0 endIndependentScalarContexts (saved :: rest) () := by
  refine Writes.checkOpen fun e he _ => ?_
  rw [Mirror.get_bind]
  cases hsnap : e.scalarContextSnapshots with
  | nil =>
    have := he.shape
    simp [hsnap] at this
  | cons snapshot snapshots =>
    have hshape := he.shape
    have hstates := he.states
    rw [hsnap] at hshape hstates
    refine ⟨_, rfl, ⟨⟨he.ready.1, he.ready.2, he.ready.3, he.ready.4, he.ready.5⟩, he.table, ?_, ?_,
      he.headroom⟩, Nat.le_refl _⟩
    · exact fun banks hbanks => hstates banks (List.mem_cons_of_mem _ hbanks)
    · exact (List.cons.inj hshape).2

end Symbols

end RangeEncoder

theorem liveBanks_initial {counts : List Nat} {banks : ContextStateBanks} (h : LiveBanks banks) :
    LiveBanks (initialContextBanks defaultInitialState counts banks) := by
  induction counts generalizing banks with
  | nil => exact fun bank hbank => absurd hbank List.not_mem_nil
  | cons count counts ih =>
    have htail : LiveBanks banks.tail := fun bank hbank => h bank (List.mem_of_mem_tail hbank)
    intro bank hbank states hstates
    rcases List.mem_cons.mp hbank with rfl | hrest
    · split at hstates
      · rw [List.eq_of_mem_replicate hstates]
        exact RangeEncoder.liveContext_default
      · refine h _ ?_ states hstates
        cases banks with
        | nil => exact absurd rfl ‹_›
        | cons first banks => exact List.mem_cons_self
    · exact ih htail bank hrest states hstates

theorem initializeContexts_valid {counts : List Nat} {banks : ContextStateBanks} (state : UInt8)
    (h : ContextsValid counts banks) :
    RangeEncoder.initializeContexts counts banks state =
      .ok (initialContextBanks state counts banks) :=
  RangeEncoder.initializeContexts_of_coder (initializeContexts_of_valid state h fun _ _ _ _ => rfl)

namespace RangeEncoder

/-- A fresh encoder under the default table is healthy. -/
theorem reset_healthy_of {counts : List Nat} {banks : ContextStateBanks}
    (hvalid : ContextsValid counts banks) (hlive : LiveBanks banks) (unused : RangeEncoder) :
    ∃ e, RangeEncoder.reset counts banks defaultStateTransition unused = .ok () e ∧
      Healthy [counts] e ∧ e.byteCount = 2 := by
  have hcontexts := initializeContexts_valid defaultInitialState hvalid
  have hreset : ∃ e, RangeEncoder.reset counts banks defaultStateTransition unused = .ok () e := by
    unfold RangeEncoder.reset RangeEncoder.resetImpl
    rw [hcontexts]
    exact ⟨_, rfl⟩
  obtain ⟨e, he⟩ := hreset
  have hready := reset_ready he
  obtain ⟨contexts, hassigned, rfl⟩ := reset_ok he
  obtain rfl := Except.ok.inj (hcontexts.symm.trans hassigned)
  refine ⟨_, he, ⟨hready, rfl, ?_, ?_, ?_⟩, rfl⟩
  · intro banks hbanks
    rw [List.mem_singleton.mp hbanks]
    exact liveBanks_initial hlive
  · exact congrArg ([·]) (initialContextBanks_sizes defaultInitialState hvalid.2.2.2)
  · change 0 + 65280 ≤ 0xff00 * 256 ^ 0
    omega

theorem reset_healthy (count : Nat) (hpos : 0 < count) (hle : count ≤ maxScalarContextCount)
    (unused : RangeEncoder) :
    ∃ e, RangeEncoder.reset [count] [] defaultStateTransition unused = .ok () e ∧
      Healthy [[count]] e ∧ e.byteCount = 2 := by
  have hvalid : ContextsValid [count] [] :=
    ⟨by simp, by simp [maxContextBankCount], .inl rfl, hpos, hle, .inl rfl, trivial⟩
  exact reset_healthy_of hvalid (fun bank hbank => absurd hbank List.not_mem_nil) unused

end RangeEncoder

end Mffv1
