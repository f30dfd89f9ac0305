import Mffv1.Lib.Mirror

/-!
# Triples

A triple says of a call on a mutable state what holds when it returns and what holds
when it fails. A call always ends, so that nothing is said about other runs.
-/
namespace Hoare

variable {ε E D α β γ : Type}

/-- What holds of the outcome of a call. -/
def Ends (Q : α → E → Prop) (R : ε → E → Prop) : EStateM.Result ε E α → Prop
  | .ok a e => Q a e
  | .error s e => R s e

/-- Started in `P`, the call returns in `Q` or fails in `R`. -/
def Triple (P : E → Prop) (call : EStateM ε E α) (Q : α → E → Prop) (R : ε → E → Prop) : Prop :=
  ∀ e, P e → Ends Q R (call e)

variable {P P' : E → Prop} {call : EStateM ε E α} {Q Q' : α → E → Prop} {R R' : ε → E → Prop}

theorem Triple.ok (h : Triple P call Q R) {e e' : E} {a : α} (he : P e)
    (hcall : call e = .ok a e') : Q a e' := by
  have hends := h e he
  rwa [hcall] at hends

theorem Triple.error (h : Triple P call Q R) {e e' : E} {s : ε} (he : P e)
    (hcall : call e = .error s e') : R s e' := by
  have hends := h e he
  rwa [hcall] at hends

theorem Triple.of_cases (hok : ∀ e a e', P e → call e = .ok a e' → Q a e')
    (herror : ∀ e s e', P e → call e = .error s e' → R s e') : Triple P call Q R := by
  intro e he
  cases hcall : call e with
  | ok a e' => exact hok e a e' he hcall
  | error s e' => exact herror e s e' he hcall

theorem Triple.consequence (h : Triple P call Q R) (hP : ∀ e, P' e → P e)
    (hQ : ∀ a e, Q a e → Q' a e) (hR : ∀ s e, R s e → R' s e) : Triple P' call Q' R' :=
  Triple.of_cases (fun e a e' he hcall => hQ a e' (h.ok (hP e he) hcall))
    fun e s e' he hcall => hR s e' (h.error (hP e he) hcall)

theorem Triple.pre (h : Triple P call Q R) (hP : ∀ e, P' e → P e) : Triple P' call Q R :=
  h.consequence hP (fun _ _ h => h) fun _ _ h => h

/-- From one state only. -/
theorem Triple.start (h : Triple P call Q R) {e₀ : E} (he₀ : P e₀) :
    Triple (fun e => e = e₀) call Q R := by
  rintro e rfl
  exact h e he₀

theorem Triple.post (h : Triple P call Q R) (hQ : ∀ a e, Q a e → Q' a e) : Triple P call Q' R :=
  h.consequence (fun _ h => h) hQ fun _ _ h => h

/-- The errors may be told otherwise. -/
theorem Triple.telling (h : Triple P call Q R) (f : E → E → ε → ε)
    (hf : ∀ e s e', R s e' → R (f e e' s) e') : Triple P (Mirror.telling f call) Q R := by
  intro e he
  have hends := h e he
  unfold Mirror.telling
  cases hcall : call e with
  | ok a e' =>
    rw [hcall] at hends
    exact hends
  | error s e' =>
    rw [hcall] at hends
    exact hf e s e' hends

/-- A fact that does not concern the state. -/
theorem Triple.given {φ : Prop} (h : φ → Triple P call Q R) :
    Triple (fun e => φ ∧ P e) call Q R :=
  fun e he => h he.1 e he.2

/-- The state before may be in any of several kinds. -/
theorem Triple.any {ι : Type} {P : ι → E → Prop} (h : ∀ i, Triple (P i) call Q R) :
    Triple (fun e => ∃ i, P i e) call Q R :=
  fun e he => he.elim fun i hi => h i e hi

theorem Triple.returns {a : α} (h : ∀ e, P e → Q a e) :
    Triple P (Pure.pure a : EStateM ε E α) Q R := h

theorem Triple.fails {s : ε} (h : ∀ e, P e → R s e) :
    Triple P (throw s : EStateM ε E α) Q R := h

theorem Triple.bind {f : α → EStateM ε E β} {S : β → E → Prop} (h : Triple P call Q R)
    (hf : ∀ a, Triple (Q a) (f a) S R) : Triple P (call >>= f) S R := by
  intro e he
  cases hcall : call e with
  | ok a e' =>
    rw [Mirror.bind_ok hcall]
    exact hf a e' (h.ok he hcall)
  | error s e' =>
    rw [Mirror.bind_error hcall]
    exact h.error he hcall

/-- What comes after looking at the state may depend on it. -/
theorem Triple.look {f : E → EStateM ε E β} {S : β → E → Prop}
    (h : ∀ e₀, P e₀ → Triple (fun e => e = e₀) (f e₀) S R) : Triple P (get >>= f) S R :=
  fun e he => h e he e rfl

theorem Triple.update {f : E → E} {S : PUnit → E → Prop} (h : ∀ e, P e → S ⟨⟩ (f e)) :
    Triple P (modify f : EStateM ε E PUnit) S R := h

theorem Triple.replace {e' : E} {S : PUnit → E → Prop} (h : ∀ e, P e → S ⟨⟩ e') :
    Triple P (set e' : EStateM ε E PUnit) S R := h

theorem Triple.ofExcept {x : Except ε α} (hok : ∀ a, x = .ok a → ∀ e, P e → Q a e)
    (herror : ∀ s, x = .error s → ∀ e, P e → R s e) :
    Triple P (MonadExcept.ofExcept x : EStateM ε E α) Q R := by
  cases x with
  | ok a => exact hok a rfl
  | error s => exact herror s rfl

/-- A computation that is known to succeed. -/
theorem Triple.computes {x : Except ε α} {a : α} (hx : x = .ok a) {f : α → EStateM ε E β}
    {S : β → E → Prop} (h : Triple P (f a) S R) :
    Triple P (MonadExcept.ofExcept x >>= f) S R := by
  subst hx
  exact h

/-- What holds of the value of a computation, or of its error. -/
def Settles (φ : α → Prop) (ρ : ε → Prop) : Except ε α → Prop
  | .ok a => φ a
  | .error s => ρ s

section Settles

variable {x : Except ε α} {φ φ' : α → Prop} {ρ : ε → Prop}

theorem Settles.bind {f : α → Except ε β} {ψ : β → Prop} (h : Settles φ ρ x)
    (hf : ∀ a, φ a → Settles ψ ρ (f a)) : Settles ψ ρ (x >>= f) := by
  cases x with
  | ok a => exact hf a h
  | error s => exact h

theorem Settles.mapError {g : ε → ε} (h : Settles φ ρ x) (hg : ∀ s, ρ s → ρ (g s)) :
    Settles φ ρ (x.mapError g) := by
  cases x with
  | ok a => exact h
  | error s => exact hg s h

end Settles

/-- A call succeeds only where `φ` holds. -/
def Demands (φ : Prop) (call : EStateM ε E α) : Prop := ∀ ⦃e a e'⦄, call e = .ok a e' → φ

section Demands

variable {φ ψ : Prop}

theorem Demands.imp (h : Demands φ call) (hφ : φ → ψ) : Demands ψ call :=
  fun _ _ _ hcall => hφ (h hcall)

theorem Demands.first {f : α → EStateM ε E β} (h : Demands φ call) : Demands φ (call >>= f) := by
  intro e b e'' hbind
  cases hcall : call e with
  | ok a e' => exact h hcall
  | error s e' =>
    rw [Mirror.bind_error hcall] at hbind
    cases hbind

theorem Demands.rest {f : α → EStateM ε E β} (h : ∀ a, Demands φ (f a)) :
    Demands φ (call >>= f) := by
  intro e b e'' hbind
  cases hcall : call e with
  | ok a e' =>
    rw [Mirror.bind_ok hcall] at hbind
    exact h a hbind
  | error s e' =>
    rw [Mirror.bind_error hcall] at hbind
    cases hbind

theorem Demands.ofExcept {x : Except ε α} (h : ∀ a, x = .ok a → φ) :
    Demands φ (MonadExcept.ofExcept x : EStateM ε E α) := by
  cases x with
  | ok a => exact fun _ _ _ _ => h a rfl
  | error s =>
    intro e a e' hcall
    cases hcall

theorem Demands.ofValue {x : Except ε α} {f : α → EStateM ε E β}
    (h : ∀ a, x = .ok a → Demands φ (f a)) :
    Demands φ (MonadExcept.ofExcept x >>= f) := by
  cases x with
  | ok a => exact h a rfl
  | error s =>
    intro e a e' hcall
    cases hcall

/-- A loop succeeds only where every round does. -/
theorem Demands.forLoop {φ : Nat → Prop} {w : Nat → EStateM ε E PUnit} {start count : Nat}
    (h : ∀ i, Demands (φ i) (w i)) :
    Demands (∀ i, start ≤ i → i < start + count → φ i) (Mirror.forLoop start count w) := by
  induction count generalizing start with
  | zero => exact fun _ _ _ _ i hlo hhi => absurd hhi (by omega)
  | succ count ih =>
    intro e u e'' hloop
    have hfirst : φ start := by
      rw [Mirror.forLoop_succ] at hloop
      exact (h start).first hloop
    have hrest : ∀ i, start + 1 ≤ i → i < start + 1 + count → φ i := by
      rw [Mirror.forLoop_succ] at hloop
      exact Demands.rest (fun _ => ih) hloop
    intro i hlo hhi
    rcases Nat.eq_or_lt_of_le hlo with rfl | hlt
    · exact hfirst
    · exact hrest i hlt (by omega)

end Demands

/-- An invariant that counts the rounds of a loop. -/
theorem Triple.forLoop {I : Nat → E → Prop} {w : Nat → EStateM ε E PUnit} (start count : Nat)
    (h : ∀ i, start ≤ i → i < start + count → Triple (I i) (w i) (fun _ => I (i + 1)) R) :
    Triple (I start) (Mirror.forLoop start count w) (fun _ => I (start + count)) R := by
  induction count generalizing start with
  | zero => exact Triple.returns fun _ he => he
  | succ count ih =>
    rw [Mirror.forLoop_succ]
    refine (h start (Nat.le_refl _) (by omega)).bind fun _ => ?_
    have hrest := ih (start + 1) fun i hlo hhi => h i (by omega) (by omega)
    rwa [show start + 1 + count = start + (count + 1) by omega] at hrest

/-- `I` holds again however the call ends. -/
def Maintains (I : E → Prop) (call : EStateM ε E α) : Prop :=
  Triple I call (fun _ => I) fun _ => I

section Maintains

variable {I : E → Prop}

theorem Maintains.pure {a : α} : Maintains I (Pure.pure a : EStateM ε E α) := fun _ he => he

theorem Maintains.throws (s : ε) : Maintains I (throw s : EStateM ε E α) := fun _ he => he

theorem Maintains.bind {f : α → EStateM ε E β} (h : Maintains I call)
    (hf : ∀ a, Maintains I (f a)) : Maintains I (call >>= f) :=
  Triple.bind h hf

theorem Maintains.update {f : E → E} (h : ∀ e, I e → I (f e)) :
    Maintains I (modify f : EStateM ε E PUnit) := h

/-- What the call does may depend on the state it starts from. -/
theorem Maintains.view {f : E → EStateM ε E α} (h : ∀ e, I e → Maintains I (f e)) :
    Maintains I (get >>= f) :=
  fun e he => h e he e he

theorem Maintains.telling (h : Maintains I call) (f : E → E → ε → ε) :
    Maintains I (Mirror.telling f call) :=
  Triple.telling h f fun _ _ _ he => he

theorem Maintains.ofExcept (x : Except ε α) :
    Maintains I (MonadExcept.ofExcept x : EStateM ε E α) :=
  Triple.ofExcept (fun _ _ _ he => he) fun _ _ _ he => he

theorem Maintains.replace {e' : E} (h : I e') : Maintains I (set e' : EStateM ε E PUnit) :=
  fun _ _ => h

theorem Maintains.forLoop {w : Nat → EStateM ε E PUnit} (start count : Nat)
    (h : ∀ i, start ≤ i → i < start + count → Maintains I (w i)) :
    Maintains I (Mirror.forLoop start count w) :=
  Triple.forLoop start count h

theorem Maintains.finalState (h : Maintains I call) {e : E} (he : I e) :
    I (Mirror.finalState (call e)) := by
  have hends := h e he
  cases hcall : call e with
  | ok a e' =>
    rw [hcall] at hends
    exact hends
  | error s e' =>
    rw [hcall] at hends
    exact hends

end Maintains

end Hoare
