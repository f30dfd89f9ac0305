import Mathlib.Data.List.Perm.Basic
import Mathlib.Data.List.Nodup

/-!
# Workers on cells of their own

Every task reads and writes the cell of its position only. Whatever order the tasks
complete in, each cell ends up as its task leaves it.
-/
namespace Workers

variable {σ : Type} (task : Nat → σ → σ)

/-- The tasks, one after another in the order of their completion. -/
def run (order : List Nat) (cells : List σ) : List σ :=
  order.foldl (fun cells position => cells.modify position (task position)) cells

@[simp] theorem run_nil (cells : List σ) : run task [] cells = cells := rfl

@[simp] theorem run_cons (position : Nat) (order : List Nat) (cells : List σ) :
    run task (position :: order) cells =
      run task order (cells.modify position (task position)) := rfl

/-- Each task has run once on the cell of its position. -/
theorem run_get {order : List Nat} (hnodup : order.Nodup) (cells : List σ) (position : Nat) :
    (run task order cells)[position]? =
      if position ∈ order then cells[position]?.map (task position) else cells[position]? := by
  induction order generalizing cells with
  | nil => simp
  | cons first order ih =>
    obtain ⟨hfresh, hrest⟩ := List.nodup_cons.mp hnodup
    rw [run_cons, ih hrest, List.getElem?_modify]
    by_cases heq : first = position
    · subst heq
      simp [hfresh]
    · have hne : position ≠ first := fun h => heq h.symm
      simp [heq, hne]

/-- All tasks, in any order. -/
theorem run_perm {order : List Nat} {cells : List σ} (h : order.Perm (List.range cells.length)) :
    run task order cells = cells.mapIdx task := by
  refine List.ext_getElem? fun position => ?_
  rw [run_get task (h.nodup_iff.mpr List.nodup_range), List.getElem?_mapIdx]
  by_cases hmem : position ∈ order
  · rw [if_pos hmem]
  · have hlength : cells.length ≤ position := by
      rw [h.mem_iff, List.mem_range] at hmem
      exact Nat.not_lt.mp hmem
    rw [if_neg hmem, List.getElem?_eq_none hlength]
    rfl

end Workers
