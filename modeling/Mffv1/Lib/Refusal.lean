import Mffv1.Lib.Mirror

/-!
# Refusals

A call refuses cleanly at a state when its errors are of a given kind and leave the
state as it was. A call that first looks and then changes the state without a further
error is clean.
-/
namespace Refusal

variable {ε E α β : Type} {Q : ε → Prop} {e : E}

/-- Every error of the call at `e` is in `Q` and leaves `e` as it was. -/
def Clean (Q : ε → Prop) (call : EStateM ε E α) (e : E) : Prop :=
  ∀ s e', call e = .error s e' → e' = e ∧ Q s

theorem Clean.of_ok {call : EStateM ε E α} {a : α} {e' : E} (h : call e = .ok a e') :
    Clean Q call e := by
  intro s e'' herror
  rw [h] at herror
  cases herror

theorem Clean.throw {s : ε} (h : Q s) : Clean Q (throw s : EStateM ε E α) e := by
  intro s' e' herror
  obtain ⟨rfl, rfl⟩ := EStateM.Result.error.inj herror
  exact ⟨rfl, h⟩

/-- A look that leaves the state alone may come first. -/
theorem Clean.bind_look {w : EStateM ε E α} {f : α → EStateM ε E β} (h : Clean Q w e)
    (hlook : ∀ a e', w e = .ok a e' → e' = e ∧ Clean Q (f a) e) : Clean Q (w >>= f) e := by
  intro s e' herror
  cases hw : w e with
  | error s' e'' =>
    rw [Mirror.bind_error hw] at herror
    obtain ⟨rfl, rfl⟩ := EStateM.Result.error.inj herror
    exact h s' e'' hw
  | ok a e'' =>
    rw [Mirror.bind_ok hw] at herror
    obtain ⟨rfl, hrest⟩ := hlook a e'' hw
    exact hrest s e' herror

/-- Behind a change nothing may fail. -/
theorem Clean.bind_change {w : EStateM ε E α} {f : α → EStateM ε E β} (h : Clean Q w e)
    (hchange : ∀ a e', w e = .ok a e' → ∃ b e'', f a e' = .ok b e'') : Clean Q (w >>= f) e := by
  intro s e' herror
  cases hw : w e with
  | error s' e'' =>
    rw [Mirror.bind_error hw] at herror
    obtain ⟨rfl, rfl⟩ := EStateM.Result.error.inj herror
    exact h s' e'' hw
  | ok a e'' =>
    rw [Mirror.bind_ok hw] at herror
    obtain ⟨b, e₂, hok⟩ := hchange a e'' hw
    rw [hok] at herror
    cases herror

/-- Every error of a computation is in `Q`. -/
def Raises (Q : ε → Prop) (x : Except ε α) : Prop := ∀ s, x = .error s → Q s

theorem Raises.ok (a : α) : Raises Q (.ok a) := fun _ h => by cases h

theorem Raises.error {s : ε} (h : Q s) : Raises Q (.error s : Except ε α) :=
  fun _ heq => Except.error.inj heq ▸ h

theorem Raises.bind {x : Except ε α} {f : α → Except ε β} (h : Raises Q x)
    (hf : ∀ a, Raises Q (f a)) : Raises Q (x >>= f) := by
  intro s herror
  cases hx : x with
  | error s' =>
    rw [hx] at herror
    exact Except.error.inj herror ▸ h s' hx
  | ok a =>
    rw [hx] at herror
    exact hf a s herror

end Refusal
