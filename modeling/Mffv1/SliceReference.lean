import Mathlib.Data.Prod.Lex
import Mffv1.Lib.Ranks
import Mffv1.SliceExecutor

/-!
# Reference states by rectangle

The slices of a frame and of its reference are paired by the ranks of their layouts.
Every pair has one layout exactly when both frames have the same layouts, and then a
slice is handed the state that was kept for its layout, wherever it stands.
-/
namespace Mffv1

namespace SliceLayout

/-- The four numbers in lexicographic order. -/
def key (layout : SliceLayout) : ℕ ×ₗ ℕ ×ₗ ℕ ×ₗ ℕ :=
  toLex (layout.x.toNat, toLex (layout.y.toNat, toLex (layout.width.toNat, layout.height.toNat)))

theorem key_injective : Function.Injective key := by
  intro left right h
  cases left
  cases right
  simp only [key, EmbeddingLike.apply_eq_iff_eq, Prod.mk.injEq, UInt32.toNat_inj] at h
  obtain ⟨rfl, rfl, rfl, rfl⟩ := h
  rfl

theorem before_iff (left right : SliceLayout) : left.before right = true ↔ left.key < right.key := by
  have hne (a b : UInt32) : a ≠ b ↔ a.toNat ≠ b.toNat := by rw [ne_eq, ← UInt32.toNat_inj]
  simp only [before, key, Prod.Lex.toLex_lt_toLex, hne]
  split
  · rename_i hx
    simp [UInt32.lt_iff_toNat_lt, hx]
  · rename_i hx
    rw [not_not] at hx
    split
    · rename_i hy
      simp [UInt32.lt_iff_toNat_lt, hx, hy]
    · rename_i hy
      rw [not_not] at hy
      split
      · rename_i hwidth
        simp [UInt32.lt_iff_toNat_lt, hx, hy, hwidth]
      · rename_i hwidth
        rw [not_not] at hwidth
        simp [UInt32.lt_iff_toNat_lt, hx, hy, hwidth]

/-- `left` does not come after `right`. -/
def NotAfter (left right : SliceLayout) : Prop := right.before left = false

instance : DecidableRel NotAfter := fun left right =>
  inferInstanceAs (Decidable (right.before left = false))

theorem notAfter_iff {left right : SliceLayout} : NotAfter left right ↔ left.key ≤ right.key := by
  unfold NotAfter
  rw [← Bool.not_eq_true, before_iff, not_lt]

instance : Std.Total NotAfter where
  total left right := by
    rw [notAfter_iff, notAfter_iff]
    exact le_total _ _

instance : IsTrans SliceLayout NotAfter where
  trans _ _ _ h₁ h₂ := notAfter_iff.mpr (le_trans (notAfter_iff.mp h₁) (notAfter_iff.mp h₂))

instance : Std.Antisymm NotAfter where
  antisymm _ _ h₁ h₂ := key_injective (le_antisymm (notAfter_iff.mp h₁) (notAfter_iff.mp h₂))

end SliceLayout

namespace SliceExecutor

theorem sortedOrder_eq (layouts : List SliceLayout) :
    sortedOrder layouts = Ranks.order SliceLayout.NotAfter (layoutAt layouts) layouts.length := rfl

theorem mem_sortedOrder {layouts : List SliceLayout} {position : Nat} :
    position ∈ sortedOrder layouts ↔ position < layouts.length := by
  rw [sortedOrder_eq]
  exact Ranks.mem_order _

theorem map_layoutAt (layouts : List SliceLayout) :
    (List.range layouts.length).map (layoutAt layouts) = layouts := by
  refine List.ext_getElem (by simp) fun position hlt hlt' => ?_
  simp [layoutAt, hlt']

theorem layoutAt_map {slices : List SliceDescriptor} {position : Nat} (h : position < slices.length) :
    layoutAt (slices.map sliceLayout) position = sliceLayout (sliceAt slices position) := by
  simp [layoutAt, sliceAt, h]

section Ranks

variable {executor : SliceExecutor} {slices : List SliceDescriptor}

/-- The slice and its reference have one layout. -/
def RankMatches (executor : SliceExecutor) (slices : List SliceDescriptor) (rank : Nat × Nat) : Prop :=
  sliceLayout (sliceAt slices rank.1) = layoutAt executor.sliceLayouts rank.2

instance (rank : Nat × Nat) : Decidable (RankMatches executor slices rank) :=
  inferInstanceAs (Decidable (_ = _))

/-- What the loop assigns: a position and the state of its reference. -/
def assignment (executor : SliceExecutor) (rank : Nat × Nat) : Nat × SliceState :=
  (rank.1, executor.sliceStates.getD rank.2 {})

theorem matchRanks_of_matches {ranks : List (Nat × Nat)} (states : List SliceState)
    (h : ∀ rank ∈ ranks, RankMatches executor slices rank) :
    matchRanks executor slices ranks states =
      .ok ((ranks.map (assignment executor)).foldl
        (fun states pair => states.set pair.1 pair.2) states) := by
  induction ranks generalizing states with
  | nil => rfl
  | cons rank ranks ih =>
    obtain ⟨hrank, hrest⟩ := List.forall_mem_cons.mp h
    rw [List.map_cons, List.foldl_cons, ← ih _ hrest]
    exact congrArg (· >>= _) (failIf_of_not (not_not.mpr hrank))

/-- The first pair of different layouts is reported, whatever was assigned before. -/
theorem matchRanks_of_mismatch {ranks : List (Nat × Nat)} (states : List SliceState)
    (h : ¬∀ rank ∈ ranks, RankMatches executor slices rank) :
    ∃ status, matchRanks executor slices ranks states = .error status ∧
      status.code = .syntaxError := by
  induction ranks generalizing states with
  | nil => exact absurd (fun rank hrank => absurd hrank List.not_mem_nil) h
  | cons rank ranks ih =>
    rw [List.forall_mem_cons, not_and_or] at h
    by_cases hrank : RankMatches executor slices rank
    · obtain ⟨status, hstatus, hcode⟩ :=
        ih (states.set rank.1 (executor.sliceStates.getD rank.2 {})) (h.resolve_left (not_not.mpr hrank))
      refine ⟨status, ?_, hcode⟩
      rw [← hstatus]
      exact congrArg (· >>= _) (failIf_of_not (not_not.mpr hrank))
    · exact ⟨_, congrArg (· >>= _) (failIf_of hrank), rfl⟩

end Ranks

/-- The state that was kept for a layout. -/
def heldState (executor : SliceExecutor) (layout : SliceLayout) : SliceState :=
  executor.sliceStates.getD (executor.sliceLayouts.idxOf layout) {}

section Reference

variable {executor : SliceExecutor} {slices : List SliceDescriptor}

/-- The ranks match at every rank exactly when the layouts are the same. -/
theorem ranks_match_iff (hcount : slices.length = executor.sliceLayouts.length) :
    (∀ rank ∈ (sortedOrder (slices.map sliceLayout)).zip (sortedOrder executor.sliceLayouts),
      RankMatches executor slices rank) ↔
        (slices.map sliceLayout).Perm executor.sliceLayouts := by
  have hlength : (slices.map sliceLayout).length = executor.sliceLayouts.length := by simp [hcount]
  have hkeys : (List.range executor.sliceLayouts.length).map (layoutAt (slices.map sliceLayout)) =
      slices.map sliceLayout := by
    rw [← hlength, map_layoutAt]
  have hmatched := @Ranks.matched_iff _ SliceLayout.NotAfter _ _ _ _
    (layoutAt (slices.map sliceLayout)) (layoutAt executor.sliceLayouts)
    executor.sliceLayouts.length
  rw [map_layoutAt, hkeys] at hmatched
  rw [← hmatched, sortedOrder_eq, sortedOrder_eq, hlength]
  refine forall₂_congr fun rank hrank => ?_
  have hposition : rank.1 < slices.length := by
    rw [hcount]
    exact (Ranks.mem_order _).mp (List.of_mem_zip hrank).1
  unfold RankMatches
  rw [layoutAt_map hposition]

/-- The position at a rank holds the state that was kept for its layout. -/
theorem assigned_heldState (hnodup : executor.sliceLayouts.Nodup) {rank : Nat × Nat}
    (hposition : rank.1 < slices.length) (hreference : rank.2 < executor.sliceLayouts.length)
    (hrank : RankMatches executor slices rank) :
    (assignment executor rank).2 = executor.heldState (sliceLayout slices[rank.1]) := by
  have hslice : sliceAt slices rank.1 = slices[rank.1] := by simp [sliceAt, hposition]
  have hlayout : layoutAt executor.sliceLayouts rank.2 = executor.sliceLayouts[rank.2] := by
    simp [layoutAt, hreference]
  unfold RankMatches at hrank
  rw [hslice, hlayout] at hrank
  unfold heldState assignment
  rw [hrank, hnodup.idxOf_getElem rank.2 hreference]

theorem assigned_get {ranks : List (Nat × Nat)} {states : List SliceState} {rank : Nat × Nat}
    (hnodup : (ranks.map Prod.fst).Nodup) (hmem : rank ∈ ranks) (hlt : rank.1 < states.length) :
    ((ranks.map (assignment executor)).foldl (fun states pair => states.set pair.1 pair.2)
      states)[rank.1]? = some (assignment executor rank).2 := by
  have hassigned : (rank.1, (assignment executor rank).2) ∈ ranks.map (assignment executor) :=
    List.mem_map_of_mem hmem
  refine Ranks.foldl_set_get ?_ hassigned hlt
  rw [List.map_map]
  exact hnodup

/-- Slices with the layouts of the reference are handed its states. -/
theorem referenceStates_of_perm (hsome : executor.sliceStates ≠ [])
    (hstates : executor.sliceLayouts.length = executor.sliceStates.length)
    (hnodup : executor.sliceLayouts.Nodup)
    (hperm : (slices.map sliceLayout).Perm executor.sliceLayouts) :
    executor.referenceStates slices =
      .ok (slices.map fun slice => executor.heldState (sliceLayout slice)) := by
  have hcount : slices.length = executor.sliceLayouts.length := by simpa using hperm.length_eq
  have hmatches := (ranks_match_iff hcount).mpr hperm
  unfold referenceStates
  rw [failIf_of_not hsome, failIf_of_not (by omega), failIf_of_not (not_not.mpr hstates)]
  change matchRanks _ _ _ _ = _
  rw [matchRanks_of_matches _ hmatches]
  refine congrArg Except.ok (List.ext_getElem? fun position => ?_)
  have horders : (sortedOrder (slices.map sliceLayout)).length =
      (sortedOrder executor.sliceLayouts).length := by
    simp [sortedOrder_eq, hcount]
  have hfirst : (((sortedOrder (slices.map sliceLayout)).zip
      (sortedOrder executor.sliceLayouts)).map Prod.fst).Nodup := by
    rw [List.map_fst_zip (le_of_eq horders)]
    exact Ranks.order_nodup SliceLayout.NotAfter _ _
  rcases Nat.lt_or_ge position slices.length with hlt | hge
  · have hmem : position ∈ sortedOrder (slices.map sliceLayout) := by
      rw [mem_sortedOrder, List.length_map]
      exact hlt
    obtain ⟨k, hk, rfl⟩ := List.mem_iff_getElem.mp hmem
    have hk' : k < (sortedOrder executor.sliceLayouts).length := horders ▸ hk
    have hrank : ((sortedOrder (slices.map sliceLayout))[k], (sortedOrder executor.sliceLayouts)[k]) ∈
        (sortedOrder (slices.map sliceLayout)).zip (sortedOrder executor.sliceLayouts) := by
      rw [← List.getElem_zip (h := by simp [hk, hk'])]
      exact List.getElem_mem _
    have hreference := mem_sortedOrder.mp (List.of_mem_zip hrank).2
    rw [assigned_get hfirst hrank (by simpa using hlt),
      assigned_heldState hnodup hlt hreference (hmatches _ hrank), List.getElem?_map,
      List.getElem?_eq_getElem hlt]
    rfl
  · rw [List.getElem?_eq_none (by simpa [Ranks.foldl_set_length] using hge),
      List.getElem?_eq_none (by simpa using hge)]

/-- Slices with other layouts than the reference are refused. -/
theorem referenceStates_of_not_perm (hsome : executor.sliceStates ≠ [])
    (hstates : executor.sliceLayouts.length = executor.sliceStates.length)
    (hperm : ¬(slices.map sliceLayout).Perm executor.sliceLayouts) :
    ∃ status, executor.referenceStates slices = .error status ∧ status.code = .syntaxError := by
  unfold referenceStates
  rw [failIf_of_not hsome]
  by_cases hcount : executor.sliceStates.length = slices.length
  · rw [failIf_of_not (not_not.mpr hcount), failIf_of_not (not_not.mpr hstates)]
    refine matchRanks_of_mismatch _ fun hmatches => hperm ?_
    exact (ranks_match_iff (hcount.symm.trans hstates.symm)).mp hmatches
  · rw [failIf_of hcount]
    exact ⟨_, rfl, rfl⟩

end Reference

end SliceExecutor

end Mffv1
