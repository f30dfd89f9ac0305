import Mffv1.StateTransition

/-!
# Scalar contexts of the range coder and encoder

Both classes keep banks of contexts, a context being thirty-two adaptive
states. Their `initialize_contexts` methods check the same limits under two
names; the encoder's checks one more.
-/
namespace Mffv1

def scalarContextSize : Nat := 32
def maxScalarContextCount : Nat := 32768
def maxContextBankCount : Nat := 4
def defaultInitialState : UInt8 := 128

abbrev ScalarContextStates := Vector UInt8 32
abbrev ContextStateBank := List ScalarContextStates
abbrev ContextStateBanks := List ContextStateBank

/-- The literal `0` of both coders, the state of a first decision, is an index by this. -/
instance scalarContextNonempty : NeZero 32 := ⟨by decide⟩

/-- `states[index] = state` -/
abbrev ScalarContextStates.setState (states : ScalarContextStates) (index : Fin 32)
    (state : UInt8) : ScalarContextStates := states.set index state

def filledContext (state : UInt8) : ScalarContextStates := Vector.replicate 32 state

namespace ContextStateBanks

def stateAt (banks : ContextStateBanks) (bank context : Nat) (index : Fin 32) : UInt8 :=
  ((banks.getD bank []).getD context (filledContext 0)).get index

def setStateAt (banks : ContextStateBanks) (bank context : Nat) (index : Fin 32)
    (state : UInt8) : ContextStateBanks :=
  banks.modify bank (fun contexts => contexts.modify context (fun states =>
    states.setState index state))

def sizes (banks : ContextStateBanks) : List Nat := banks.map List.length

end ContextStateBanks

/-- State index of the `exponent`-th unary bit of a scalar. -/
def exponentIndex (exponent : Nat) : Fin 32 := ⟨1 + min exponent 9, by omega⟩

def mantissaIndex (bit : Nat) : Fin 32 := ⟨22 + min bit 9, by omega⟩

def signIndex (exponent : Nat) : Fin 32 := ⟨11 + min exponent 10, by omega⟩

section Initialize

/-- The per-bank checks of `initialize_contexts`, with the running total. -/
def checkContextCounts (name : String) (checkTotal : Nat → Nat → Status) :
    List Nat → List ContextStateBank → Nat → Status
  | [], _, _ => .ok ()
  | contextCount :: counts, initialStateBanks, totalContextCount => do
    failIf (contextCount = 0) (makeError .invalidArgument
      (name ++ " context banks must have at least one scalar context"))
    failIf (maxScalarContextCount < contextCount) (makeError .resourceExhausted
      (name ++ " scalar context count exceeds the supported limit"))
    checkTotal totalContextCount contextCount
    failIf (initialStateBanks.headD [] ≠ [] ∧
        (initialStateBanks.headD []).length ≠ contextCount) (makeError .invalidArgument
      (name ++ " initial state count does not match scalar context count"))
    checkContextCounts name checkTotal counts initialStateBanks.tail
      (totalContextCount + contextCount)

/-- A bank without initial states is filled with `initialState`. -/
def initialContextBanks (initialState : UInt8) :
    List Nat → List ContextStateBank → ContextStateBanks
  | [], _ => []
  | contextCount :: counts, initialStateBanks =>
    (if initialStateBanks.headD [] = [] then
      List.replicate contextCount (filledContext initialState)
    else initialStateBanks.headD []) ::
      initialContextBanks initialState counts initialStateBanks.tail

def initializeContexts (name : String) (checkTotal : Nat → Nat → Status)
    (scalarContextCounts : List Nat) (initialStateBanks : List ContextStateBank)
    (initialState : UInt8) : Except Error ContextStateBanks := do
  failIf (scalarContextCounts = []) (makeError .invalidArgument
    (name ++ " must have at least one context bank"))
  failIf (maxContextBankCount < scalarContextCounts.length) (makeError .resourceExhausted
    (name ++ " context bank count exceeds the supported limit"))
  failIf (initialStateBanks ≠ [] ∧ initialStateBanks.length ≠ scalarContextCounts.length)
    (makeError .invalidArgument
      (name ++ " initial state bank count does not match context bank count"))
  checkContextCounts name checkTotal scalarContextCounts initialStateBanks 0
  return initialContextBanks initialState scalarContextCounts initialStateBanks

variable {name name' : String} {checkTotal checkTotal' : Nat → Nat → Status}

/-- What `initialize_contexts` accepts, bank by bank. -/
def ContextCountsMatch : List Nat → List ContextStateBank → Prop
  | [], _ => True
  | contextCount :: counts, banks =>
    0 < contextCount ∧ contextCount ≤ maxScalarContextCount ∧
      (banks.headD [] = [] ∨ (banks.headD []).length = contextCount) ∧
      ContextCountsMatch counts banks.tail

theorem checkContextCounts_ok (counts : List Nat) (banks : List ContextStateBank) (total : Nat)
    (h : checkContextCounts name checkTotal counts banks total = .ok ()) :
    ContextCountsMatch counts banks := by
  induction counts generalizing banks total with
  | nil => trivial
  | cons count counts ih =>
    unfold checkContextCounts at h
    simp only [except_bind_ok, exists_unit, failIf_ok_iff] at h
    obtain ⟨hpos, hle, _, hmatch, hrest⟩ := h
    refine ⟨by omega, by omega, ?_, ih _ _ hrest⟩
    by_cases hnil : banks.headD [] = []
    · exact .inl hnil
    · exact .inr (by simpa only [ne_eq, hnil, not_false_iff, true_and, not_not] using hmatch)

theorem checkContextCounts_of_match {counts : List Nat} {banks : List ContextStateBank}
    (h : ContextCountsMatch counts banks) (total : Nat)
    (hcheck : ∀ t c, t ≤ total + counts.sum → c ≤ maxScalarContextCount → checkTotal t c = .ok ()) :
    checkContextCounts name checkTotal counts banks total = .ok () := by
  induction counts generalizing banks total with
  | nil => rfl
  | cons count counts ih =>
    obtain ⟨hpos, hle, hmatch, hrest⟩ := h
    unfold checkContextCounts
    simp only [except_bind_ok, exists_unit, failIf_ok_iff]
    have hsum : (count :: counts).sum = count + counts.sum := List.sum_cons
    refine ⟨by omega, by omega, hcheck _ _ (by omega) hle, ?_, ih hrest _ ?_⟩
    · rintro ⟨hne, hlen⟩
      exact hmatch.elim hne hlen
    · intro t c ht hc
      exact hcheck t c (by omega) hc

/-- The arguments that `initialize_contexts` accepts. -/
def ContextsValid (counts : List Nat) (initial : List ContextStateBank) : Prop :=
  counts ≠ [] ∧ counts.length ≤ maxContextBankCount ∧
    (initial = [] ∨ initial.length = counts.length) ∧ ContextCountsMatch counts initial

theorem initializeContexts_ok {counts : List Nat} {initial : List ContextStateBank}
    {state : UInt8} {banks : ContextStateBanks}
    (h : initializeContexts name checkTotal counts initial state = .ok banks) :
    ContextsValid counts initial ∧ banks = initialContextBanks state counts initial := by
  unfold initializeContexts at h
  simp only [except_bind_ok, exists_unit, failIf_ok_iff] at h
  obtain ⟨hne, hlen, hinit, hcounts, heq⟩ := h
  refine ⟨⟨hne, by omega, ?_, checkContextCounts_ok _ _ _ hcounts⟩, (Except.ok.inj heq).symm⟩
  by_cases h : initial = []
  · exact .inl h
  · exact .inr (by simpa only [ne_eq, h, not_false_iff, true_and, not_not] using hinit)

theorem initializeContexts_of_valid {counts : List Nat} {initial : List ContextStateBank}
    (state : UInt8) (h : ContextsValid counts initial)
    (hcheck : ∀ t c, t ≤ counts.sum → c ≤ maxScalarContextCount → checkTotal t c = .ok ()) :
    initializeContexts name checkTotal counts initial state =
      .ok (initialContextBanks state counts initial) := by
  obtain ⟨hne, hlen, hinit, hmatch⟩ := h
  unfold initializeContexts
  simp only [except_bind_ok, exists_unit, failIf_ok_iff]
  refine ⟨hne, by omega, ?_, checkContextCounts_of_match hmatch 0 (by simpa using hcheck), rfl⟩
  rintro ⟨h₁, h₂⟩
  exact hinit.elim h₁ h₂

theorem contextCountsMatch_sum {counts : List Nat} {banks : List ContextStateBank}
    (h : ContextCountsMatch counts banks) :
    counts.sum ≤ counts.length * maxScalarContextCount := by
  induction counts generalizing banks with
  | nil => simp
  | cons count counts ih =>
    have := ih h.2.2.2
    rw [List.sum_cons, List.length_cons, Nat.succ_mul]
    have := h.2.1
    omega

theorem ContextCountsMatch.size {counts : List Nat} {banks : List ContextStateBank}
    (h : ContextCountsMatch counts banks) {size : Nat} (hmem : size ∈ counts) :
    0 < size ∧ size ≤ maxScalarContextCount := by
  induction counts generalizing banks with
  | nil => cases hmem
  | cons count counts ih =>
    obtain ⟨hpos, hle, -, hrest⟩ := h
    cases hmem with
    | head => exact ⟨hpos, hle⟩
    | tail _ hmem => exact ih hrest hmem

theorem contextCountsMatch_self {banks : ContextStateBanks}
    (h : ∀ size ∈ banks.sizes, 0 < size ∧ size ≤ maxScalarContextCount) :
    ContextCountsMatch banks.sizes banks := by
  induction banks with
  | nil => trivial
  | cons bank banks ih =>
    obtain ⟨hpos, hle⟩ := h bank.length List.mem_cons_self
    exact ⟨hpos, hle, .inr rfl, ih fun size hmem => h size (List.mem_cons_of_mem _ hmem)⟩

/-- Full banks given as initial states are taken over unchanged. -/
theorem initialContextBanks_self (state : UInt8) (banks : ContextStateBanks)
    (h : ∀ bank ∈ banks, bank ≠ []) : initialContextBanks state banks.sizes banks = banks := by
  induction banks with
  | nil => rfl
  | cons bank banks ih =>
    have hbank : bank ≠ [] := h bank (by simp)
    have hrest := ih (fun b hb => h b (by simp [hb]))
    simp only [ContextStateBanks.sizes] at hrest ⊢
    simp [initialContextBanks, hbank, hrest]

@[simp] theorem initialContextBanks_sizes (state : UInt8) {counts : List Nat}
    {banks : List ContextStateBank} (h : ContextCountsMatch counts banks) :
    (initialContextBanks state counts banks).sizes = counts := by
  induction counts generalizing banks with
  | nil => rfl
  | cons count counts ih =>
    have hrest := ih h.2.2.2
    simp only [ContextStateBanks.sizes] at hrest ⊢
    simp only [initialContextBanks, List.map_cons, hrest, List.cons.injEq, and_true]
    split
    · simp
    · exact h.2.2.1.resolve_left ‹_›

end Initialize

end Mffv1
