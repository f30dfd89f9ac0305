import Mffv1.Lib.Mirror

/-!
# Observing objects

Two objects are alike when no sequence of calls tells them apart. The sequence goes on
behind a call that fails, so that what an object keeps is observed as well.
-/
namespace Observer

variable {ε E C V : Type}

/-- What a caller sees of a call. -/
def outcome : EStateM.Result ε E V → Except ε V
  | .ok value _ => .ok value
  | .error s _ => .error s

variable (perform : C → EStateM ε E V)

/-- The object behind a sequence of calls. -/
def after (calls : List C) (e : E) : E :=
  calls.foldl (fun e call => Mirror.finalState (perform call e)) e

def results : List C → E → List (Except ε V)
  | [], _ => []
  | call :: calls, e =>
    outcome (perform call e) :: results calls (Mirror.finalState (perform call e))

@[simp] theorem after_cons (call : C) (calls : List C) (e : E) :
    after perform (call :: calls) e = after perform calls (Mirror.finalState (perform call e)) := rfl

@[simp] theorem results_cons (call : C) (calls : List C) (e : E) :
    results perform (call :: calls) e =
      outcome (perform call e) :: results perform calls (Mirror.finalState (perform call e)) := rfl

def Alike (e e' : E) : Prop := ∀ calls, results perform calls e = results perform calls e'

variable {perform} {e e' : E}

theorem Alike.outcome_eq (h : Alike perform e e') (call : C) :
    outcome (perform call e) = outcome (perform call e') :=
  (List.cons.inj (h [call])).1

theorem Alike.step (h : Alike perform e e') (call : C) :
    Alike perform (Mirror.finalState (perform call e)) (Mirror.finalState (perform call e')) :=
  fun calls => (List.cons.inj (h (call :: calls))).2

/-- A map of objects that commutes with every permitted call is seen in no result of
permitted calls. -/
theorem results_of_commutes {π : E → E} {P : C → E → Prop}
    (h : ∀ call e, P call (π e) →
      perform call (π e) = Mirror.mapState π (perform call e))
    {calls : List C} {e : E}
    (hcalls : ∀ earlier call later, calls = earlier ++ call :: later →
      P call (Observer.after perform earlier (π e))) :
    results perform calls (π e) = results perform calls e ∧
      Observer.after perform calls (π e) = π (Observer.after perform calls e) := by
  induction calls generalizing e with
  | nil => exact ⟨rfl, rfl⟩
  | cons call calls ih =>
    have hperform := h call e (hcalls [] call calls rfl)
    have hstate : Mirror.finalState (perform call (π e)) =
        π (Mirror.finalState (perform call e)) := by
      rw [hperform]
      cases perform call e <;> rfl
    have houtcome : outcome (perform call (π e)) = outcome (perform call e) := by
      rw [hperform]
      cases perform call e <;> rfl
    have hrest := ih (e := Mirror.finalState (perform call e)) fun earlier next later heq => by
      have hnext := hcalls (call :: earlier) next later (congrArg (call :: ·) heq)
      rw [← hstate]
      exact hnext
    constructor
    · rw [results_cons, results_cons, houtcome, hstate, hrest.1]
    · rw [after_cons, after_cons, hstate, hrest.2]

/-- What every call keeps holds behind every sequence of calls. -/
theorem after_maintains {I : E → Prop}
    (h : ∀ call e, I e → I (Mirror.finalState (perform call e))) {e : E} (he : I e)
    (calls : List C) : I (Observer.after perform calls e) := by
  induction calls generalizing e with
  | nil => exact he
  | cons call calls ih => exact ih (h call e he)

end Observer
