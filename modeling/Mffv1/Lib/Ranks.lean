import Mathlib.Data.List.Nodup
import Mathlib.Data.List.Sort

/-!
# Pairing by rank

Two lists are sorted by their positions, and the positions of one rank are paired. Under
a linear order the keys of every pair agree exactly when the lists are permutations of
each other, so that the pairing can be read as a look-up by key.
-/
namespace Ranks

variable {κ : Type} (le : κ → κ → Prop) [DecidableRel le]

/-- The positions below `count`, by their keys. -/
def order (keyAt : Nat → κ) (count : Nat) : List Nat :=
  (List.range count).insertionSort fun left right => le (keyAt left) (keyAt right)

theorem order_perm (keyAt : Nat → κ) (count : Nat) : (order le keyAt count).Perm (List.range count) :=
  List.perm_insertionSort _ _

@[simp] theorem order_length (keyAt : Nat → κ) (count : Nat) :
    (order le keyAt count).length = count := by
  simp [order]

theorem order_nodup (keyAt : Nat → κ) (count : Nat) : (order le keyAt count).Nodup :=
  (order_perm le keyAt count).nodup_iff.mpr List.nodup_range

theorem mem_order {keyAt : Nat → κ} {count position : Nat} :
    position ∈ order le keyAt count ↔ position < count := by
  rw [(order_perm le keyAt count).mem_iff, List.mem_range]

theorem keys_perm (keyAt : Nat → κ) (count : Nat) :
    ((order le keyAt count).map keyAt).Perm ((List.range count).map keyAt) :=
  (order_perm le keyAt count).map keyAt

variable {le}

theorem keys_sorted [Std.Total le] [IsTrans κ le] (keyAt : Nat → κ) (count : Nat) :
    ((order le keyAt count).map keyAt).Pairwise le := by
  have htotal : Std.Total fun left right => le (keyAt left) (keyAt right) :=
    ⟨fun left right => Std.Total.total (keyAt left) (keyAt right)⟩
  have htrans : IsTrans Nat fun left right => le (keyAt left) (keyAt right) :=
    ⟨fun _ _ _ => IsTrans.trans _ _ _⟩
  rw [List.pairwise_map]
  exact List.pairwise_insertionSort _ _

/-- The sorted keys are those of any list with the same keys. -/
theorem keys_eq_iff [Std.Total le] [IsTrans κ le] [Std.Antisymm le] {keyAt keyAt' : Nat → κ}
    {count count' : Nat} :
    (order le keyAt count).map keyAt = (order le keyAt' count').map keyAt' ↔
      ((List.range count).map keyAt).Perm ((List.range count').map keyAt') := by
  constructor
  · intro h
    exact (keys_perm le keyAt count).symm.trans (h ▸ keys_perm le keyAt' count')
  · intro h
    have hperm := ((keys_perm le keyAt count).trans h).trans (keys_perm le keyAt' count').symm
    exact hperm.eq_of_pairwise' (keys_sorted keyAt count) (keys_sorted keyAt' count')

/-- Two lists of one length agree when their pairs do. -/
theorem map_eq_map_iff_zip {α β : Type} {f : α → κ} {g : β → κ} {left : List α} {right : List β}
    (hlength : left.length = right.length) :
    left.map f = right.map g ↔ ∀ pair ∈ left.zip right, f pair.1 = g pair.2 := by
  induction left generalizing right with
  | nil =>
    obtain rfl := List.eq_nil_of_length_eq_zero hlength.symm
    simp
  | cons a left ih =>
    cases right with
    | nil => cases hlength
    | cons b right =>
      rw [List.map_cons, List.map_cons, List.cons_eq_cons, ih (Nat.succ.inj hlength),
        List.zip_cons_cons, List.forall_mem_cons]

/-- The positions of a rank have the same key, at every rank or the keys differ. -/
theorem matched_iff [Std.Total le] [IsTrans κ le] [Std.Antisymm le] {keyAt keyAt' : Nat → κ}
    {count : Nat} :
    (∀ pair ∈ (order le keyAt count).zip (order le keyAt' count),
      keyAt pair.1 = keyAt' pair.2) ↔
        ((List.range count).map keyAt).Perm ((List.range count).map keyAt') := by
  rw [← @keys_eq_iff _ le, map_eq_map_iff_zip (by simp)]

section Assigning

variable {ν : Type}

theorem foldl_set_of_fresh {pairs : List (Nat × ν)} {values : List ν} {position : Nat}
    (h : position ∉ pairs.map Prod.fst) :
    (pairs.foldl (fun values pair => values.set pair.1 pair.2) values)[position]? =
      values[position]? := by
  induction pairs generalizing values with
  | nil => rfl
  | cons pair pairs ih =>
    rw [List.map_cons, List.mem_cons, not_or] at h
    rw [List.foldl_cons, ih h.2, List.getElem?_set_ne (Ne.symm h.1)]

/-- Positions that are assigned once hold what they were assigned. -/
theorem foldl_set_get {pairs : List (Nat × ν)} {values : List ν} {position : Nat} {value : ν}
    (hnodup : (pairs.map Prod.fst).Nodup) (hmem : (position, value) ∈ pairs)
    (hlt : position < values.length) :
    (pairs.foldl (fun values pair => values.set pair.1 pair.2) values)[position]? = some value := by
  induction pairs generalizing values with
  | nil => exact absurd hmem List.not_mem_nil
  | cons pair pairs ih =>
    obtain ⟨hfresh, hrest⟩ := List.nodup_cons.mp hnodup
    rw [List.foldl_cons]
    rcases List.mem_cons.mp hmem with rfl | hmem
    · rw [foldl_set_of_fresh hfresh, List.getElem?_set_self hlt]
    · exact ih hrest hmem (by simpa using hlt)

theorem foldl_set_length (pairs : List (Nat × ν)) (values : List ν) :
    (pairs.foldl (fun values pair => values.set pair.1 pair.2) values).length = values.length := by
  induction pairs generalizing values with
  | nil => rfl
  | cons pair pairs ih => rw [List.foldl_cons, ih, List.length_set]

end Assigning

end Ranks
