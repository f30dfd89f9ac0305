import Mffv1.Lib.Mirror

/-!
# Calls that read forwards

A call that goes through an input depends on what it has gone through only: two inputs
that agree up to where it ends are the same to it. The input is part of the state, and a
relation says which states agree.
-/
namespace Forwards

variable {ε E α β : Type}

/-- The same outcome in related states. -/
inductive SameEnds (R : E → E → Prop) :
    EStateM.Result ε E α → EStateM.Result ε E α → Prop where
  | ok (a : α) {e e' : E} (h : R e e') : SameEnds R (.ok a e) (.ok a e')
  | error (s : ε) {e e' : E} (h : R e e') : SameEnds R (.error s e) (.error s e')

/-- The call does not go back, and related states are the same to it where it ends within
`bound`. -/
structure GoesOn (position : E → Nat) (bound : Nat) (R : E → E → Prop)
    (call : EStateM ε E α) : Prop where
  onwards : ∀ e, position e ≤ position (Mirror.finalState (call e))
  alike : ∀ e e', R e e' → position (Mirror.finalState (call e)) ≤ bound →
    SameEnds R (call e) (call e')

variable {position : E → Nat} {bound : Nat} {R : E → E → Prop} {call : EStateM ε E α}

theorem GoesOn.onwards_ok (h : GoesOn position bound R call) {e next : E} {a : α}
    (hcall : call e = .ok a next) : position e ≤ position next := by
  have honwards := h.onwards e
  rwa [hcall] at honwards

theorem GoesOn.alike_ok (h : GoesOn position bound R call) {e e' next : E} {a : α} (hR : R e e')
    (hcall : call e = .ok a next) (hbound : position next ≤ bound) :
    ∃ next', call e' = .ok a next' ∧ R next next' := by
  have hsame := h.alike e e' hR
  rw [hcall] at hsame
  cases hends : call e' with
  | ok a' next' =>
    rw [hends] at hsame
    cases hsame hbound with
    | ok _ hnext => exact ⟨next', rfl, hnext⟩
  | error s' next' =>
    rw [hends] at hsame
    cases hsame hbound

theorem GoesOn.pure (a : α) : GoesOn position bound R (Pure.pure a : EStateM ε E α) where
  onwards _ := Nat.le_refl _
  alike _ _ h _ := .ok a h

theorem GoesOn.throws (s : ε) : GoesOn position bound R (throw s : EStateM ε E α) where
  onwards _ := Nat.le_refl _
  alike _ _ h _ := .error s h

theorem GoesOn.ofExcept (x : Except ε α) :
    GoesOn position bound R (MonadExcept.ofExcept x : EStateM ε E α) := by
  cases x with
  | ok a => exact GoesOn.pure a
  | error s => exact GoesOn.throws s

theorem GoesOn.bind {f : α → EStateM ε E β} (h : GoesOn position bound R call)
    (hf : ∀ a, GoesOn position bound R (f a)) : GoesOn position bound R (call >>= f) where
  onwards e := by
    have hcall := h.onwards e
    cases hends : call e with
    | ok a next =>
      rw [Mirror.bind_ok hends]
      rw [hends] at hcall
      exact hcall.trans ((hf a).onwards next)
    | error s next =>
      rw [Mirror.bind_error hends]
      rw [hends] at hcall
      exact hcall
  alike e e' hR hbound := by
    have hcall := h.alike e e' hR
    cases hends : call e with
    | ok a next =>
      rw [hends] at hcall
      rw [Mirror.bind_ok hends] at hbound ⊢
      have hsame := hcall (((hf a).onwards next).trans hbound)
      cases hends' : call e' with
      | ok a' next' =>
        rw [hends'] at hsame
        cases hsame with
        | ok _ hnext =>
          rw [Mirror.bind_ok hends']
          exact (hf a).alike next next' hnext hbound
      | error s' next' =>
        rw [hends'] at hsame
        cases hsame
    | error s next =>
      rw [hends] at hcall
      rw [Mirror.bind_error hends] at hbound ⊢
      have hsame := hcall hbound
      cases hends' : call e' with
      | ok a' next' =>
        rw [hends'] at hsame
        cases hsame
      | error s' next' =>
        rw [hends'] at hsame
        cases hsame with
        | error _ hnext =>
          rw [Mirror.bind_error hends']
          exact .error s hnext

theorem GoesOn.update {f : E → E} (honwards : ∀ e, position e ≤ position (f e))
    (halike : ∀ e e', R e e' → position (f e) ≤ bound → R (f e) (f e')) :
    GoesOn position bound R (modify f : EStateM ε E PUnit) where
  onwards := honwards
  alike e e' hR hbound := .ok _ (halike e e' hR hbound)

/-- What comes after looking at a state looks the same in related ones. -/
theorem GoesOn.look {f : E → EStateM ε E α} (h : ∀ e, GoesOn position bound R (f e))
    (hsame : ∀ e e', R e e' → f e = f e') : GoesOn position bound R (get >>= f) where
  onwards e := (h e).onwards e
  alike e e' hR hbound := by
    have hcall := (h e).alike e e' hR hbound
    rw [hsame e e' hR] at hcall
    rw [Mirror.get_bind, Mirror.get_bind, hsame e e' hR]
    exact hcall

theorem GoesOn.adapt {ε' : Type} (g : ε → ε') (h : GoesOn position bound R call) :
    GoesOn position bound R (EStateM.adaptExcept g call) where
  onwards e := by
    have hcall := h.onwards e
    unfold EStateM.adaptExcept
    cases hends : call e with
    | ok a next =>
      rw [hends] at hcall
      exact hcall
    | error s next =>
      rw [hends] at hcall
      exact hcall
  alike e e' hR hbound := by
    have hcall := h.alike e e' hR
    unfold EStateM.adaptExcept at hbound ⊢
    cases hends : call e with
    | ok a next =>
      rw [hends] at hcall hbound
      have hsame := hcall hbound
      cases hends' : call e' with
      | ok a' next' =>
        rw [hends'] at hsame
        cases hsame with
        | ok _ hnext => exact .ok a hnext
      | error s' next' =>
        rw [hends'] at hsame
        cases hsame
    | error s next =>
      rw [hends] at hcall hbound
      have hsame := hcall hbound
      cases hends' : call e' with
      | ok a' next' =>
        rw [hends'] at hsame
        cases hsame
      | error s' next' =>
        rw [hends'] at hsame
        cases hsame with
        | error _ hnext => exact .error (g s) hnext

end Forwards
