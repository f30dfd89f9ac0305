import Mathlib.Data.List.Perm.Basic
import Mathlib.Data.List.Pairwise
import Mffv1.Lib.Mirror

/-!
# Patches of a memory

A write to a memory of several banks, as the partial function of what it puts where.
Writes to different places commute, so that a list of them can be applied in any
order.
-/

/-- What a write puts at every address of every bank, `none` where it writes nothing. -/
abbrev Patch (ι α β : Type) := ι → α → Option β

namespace Patch

variable {ι α β : Type}

def apply (patch : Patch ι α β) (memory : ι → α → β) : ι → α → β :=
  fun bank address => (patch bank address).getD (memory bank address)

/-- The write that writes nothing. -/
def nothing : Patch ι α β := fun _ _ => none

/-- One write after another. -/
def andThen (earlier later : Patch ι α β) : Patch ι α β :=
  fun bank address => (later bank address).or (earlier bank address)

/-- A write of which only a part is visible: the places in `region`. -/
def Within (patch : Patch ι α β) (region : ι → α → Prop) : Prop :=
  ∀ bank address, patch bank address ≠ none → region bank address

def Disjoint (left right : Patch ι α β) : Prop :=
  ∀ bank address, left bank address = none ∨ right bank address = none

theorem apply_andThen (earlier later : Patch ι α β) (memory : ι → α → β) :
    (earlier.andThen later).apply memory = later.apply (earlier.apply memory) := by
  funext bank address
  unfold apply andThen
  cases later bank address <;> rfl

theorem Disjoint.symm {left right : Patch ι α β} (h : left.Disjoint right) : right.Disjoint left :=
  fun bank address => (h bank address).symm

/-- Writes into disjoint regions do not meet. -/
theorem Within.disjoint {left right : Patch ι α β} {region other : ι → α → Prop}
    (hleft : left.Within region) (hright : right.Within other)
    (h : ∀ bank address, region bank address → ¬other bank address) : left.Disjoint right := by
  intro bank address
  by_contra hboth
  rw [not_or] at hboth
  exact h bank address (hleft bank address hboth.1) (hright bank address hboth.2)

theorem Within.mono {patch : Patch ι α β} {region other : ι → α → Prop} (h : patch.Within region)
    (hregion : ∀ bank address, region bank address → other bank address) : patch.Within other :=
  fun bank address hwrites => hregion bank address (h bank address hwrites)

theorem nothing_within (region : ι → α → Prop) : (nothing : Patch ι α β).Within region :=
  fun _ _ h => absurd rfl h

theorem Within.andThen {earlier later : Patch ι α β} {region : ι → α → Prop}
    (hearlier : earlier.Within region) (hlater : later.Within region) :
    (earlier.andThen later).Within region := by
  intro bank address h
  unfold Patch.andThen at h
  cases hwrite : later bank address with
  | some _ => exact hlater bank address (by simp [hwrite])
  | none =>
    rw [hwrite, Option.none_or] at h
    exact hearlier bank address h

theorem apply_comm {left right : Patch ι α β} (h : left.Disjoint right) (memory : ι → α → β) :
    left.apply (right.apply memory) = right.apply (left.apply memory) := by
  funext bank address
  unfold apply
  rcases h bank address with hnone | hnone
  · simp [hnone]
  · simp [hnone]

def applyAll (patches : List (Patch ι α β)) (memory : ι → α → β) : ι → α → β :=
  patches.foldl (fun memory patch => patch.apply memory) memory

/-- The writes of a list, one after another. -/
def sequence (patches : List (Patch ι α β)) : Patch ι α β := patches.foldl andThen nothing

theorem foldl_andThen_apply (patches : List (Patch ι α β)) (patch : Patch ι α β)
    (memory : ι → α → β) :
    (patches.foldl andThen patch).apply memory = applyAll patches (patch.apply memory) := by
  induction patches generalizing patch with
  | nil => rfl
  | cons next patches ih =>
    rw [List.foldl_cons, ih, apply_andThen]
    rfl

theorem sequence_apply (patches : List (Patch ι α β)) (memory : ι → α → β) :
    (sequence patches).apply memory = applyAll patches memory :=
  foldl_andThen_apply patches nothing memory

theorem andThen_ne_none {earlier later : Patch ι α β} {bank : ι} {address : α} :
    earlier.andThen later bank address ≠ none ↔
      earlier bank address ≠ none ∨ later bank address ≠ none := by
  unfold andThen
  cases later bank address <;> simp

theorem foldl_andThen_ne_none {patches : List (Patch ι α β)} {patch : Patch ι α β} {bank : ι}
    {address : α} : patches.foldl andThen patch bank address ≠ none ↔
      patch bank address ≠ none ∨ ∃ other ∈ patches, other bank address ≠ none := by
  induction patches generalizing patch with
  | nil => simp
  | cons next patches ih =>
    rw [List.foldl_cons, ih, andThen_ne_none, or_assoc, List.exists_mem_cons_iff]

/-- A sequence writes where one of its patches does. -/
theorem sequence_ne_none {patches : List (Patch ι α β)} {bank : ι} {address : α} :
    sequence patches bank address ≠ none ↔ ∃ patch ∈ patches, patch bank address ≠ none := by
  rw [sequence, foldl_andThen_ne_none]
  simp [nothing]

theorem sequence_within {patches : List (Patch ι α β)} {region : ι → α → Prop}
    (h : ∀ patch ∈ patches, patch.Within region) : (sequence patches).Within region := by
  intro bank address hwrites
  obtain ⟨patch, hmem, hpatch⟩ := sequence_ne_none.mp hwrites
  exact h patch hmem bank address hpatch

/-- The write covers every place that the other one writes. -/
def Covers (patch other : Patch ι α β) : Prop :=
  ∀ bank address, other bank address ≠ none → patch bank address ≠ none

/-- Nothing is left of a write that a later one covers. -/
theorem Covers.apply_apply {patch other : Patch ι α β} (h : patch.Covers other)
    (memory : ι → α → β) : patch.apply (other.apply memory) = patch.apply memory := by
  funext bank address
  unfold apply
  cases hwrite : patch bank address with
  | some _ => rfl
  | none =>
    have hother : other bank address = none := by
      by_contra hne
      exact h bank address hne hwrite
    rw [hother]
    rfl

/-- Writes that do not meet may be applied in any order. -/
theorem applyAll_perm {patches others : List (Patch ι α β)} (h : patches.Perm others)
    (hdisjoint : patches.Pairwise Disjoint) (memory : ι → α → β) :
    applyAll patches memory = applyAll others memory := by
  induction h generalizing memory with
  | nil => rfl
  | cons patch _ ih =>
    exact ih (List.Pairwise.of_cons hdisjoint) (patch.apply memory)
  | swap first second rest =>
    have hmeet := (List.pairwise_cons.mp hdisjoint).1 first List.mem_cons_self
    change applyAll rest (first.apply (second.apply memory)) =
      applyAll rest (second.apply (first.apply memory))
    rw [apply_comm hmeet.symm]
  | trans hfirst _ ih₁ ih₂ =>
    rw [ih₁ hdisjoint]
    exact ih₂ (hfirst.pairwise hdisjoint Disjoint.symm) memory

/-- Any one of writes that do not meet may be applied last. -/
theorem applyAll_mem {patches : List (Patch ι α β)} (hdisjoint : patches.Pairwise Disjoint)
    {patch : Patch ι α β} (hmem : patch ∈ patches) (memory : ι → α → β) :
    ∃ before, applyAll patches memory = patch.apply before := by
  obtain ⟨earlier, later, rfl⟩ := List.append_of_mem hmem
  have hperm : (earlier ++ patch :: later).Perm ((earlier ++ later) ++ [patch]) :=
    List.perm_middle.trans (List.perm_append_singleton _ _).symm
  refine ⟨applyAll (earlier ++ later) memory, ?_⟩
  rw [applyAll_perm hperm hdisjoint]
  unfold applyAll
  rw [List.foldl_append, List.foldl_cons, List.foldl_nil]

section Calls

variable {ε κ : Type} {region : ι → α → Prop}

/-- A call that fails on every memory, or writes the same to every memory. -/
def Writes (region : ι → α → Prop) (call : EStateM ε (ι → α → β) PUnit) : Prop :=
  (∃ patch : Patch ι α β, patch.Within region ∧
      ∀ memory, call memory = .ok ⟨⟩ (patch.apply memory)) ∨
    ∃ status, ∀ memory, ∃ memory', call memory = .error status memory'

theorem Writes.pure : Writes region (Pure.pure ⟨⟩ : EStateM ε (ι → α → β) PUnit) :=
  .inl ⟨nothing, nothing_within region, fun _ => rfl⟩

theorem Writes.throws (status : ε) : Writes region (throw status : EStateM ε (ι → α → β) PUnit) :=
  .inr ⟨status, fun memory => ⟨memory, rfl⟩⟩

theorem Writes.update {f : (ι → α → β) → ι → α → β} {patch : Patch ι α β}
    (hwithin : patch.Within region) (h : ∀ memory, f memory = patch.apply memory) :
    Writes region (modify f : EStateM ε (ι → α → β) PUnit) := by
  refine .inl ⟨patch, hwithin, fun memory => ?_⟩
  rw [Mirror.modify_apply, h]

theorem Writes.bind {call : EStateM ε (ι → α → β) PUnit}
    {next : PUnit → EStateM ε (ι → α → β) PUnit} (hcall : Writes region call)
    (hnext : Writes region (next ⟨⟩)) : Writes region (call >>= next) := by
  rcases hcall with ⟨patch, hwithin, hok⟩ | ⟨status, herror⟩
  · rcases hnext with ⟨later, hlater, hokNext⟩ | ⟨status, herrorNext⟩
    · refine .inl ⟨patch.andThen later, hwithin.andThen hlater, fun memory => ?_⟩
      rw [Mirror.bind_ok (hok memory), hokNext, apply_andThen]
    · refine .inr ⟨status, fun memory => ?_⟩
      obtain ⟨memory', hstatus⟩ := herrorNext (patch.apply memory)
      exact ⟨memory', by rw [Mirror.bind_ok (hok memory), hstatus]⟩
  · refine .inr ⟨status, fun memory => ?_⟩
    obtain ⟨memory', hstatus⟩ := herror memory
    exact ⟨memory', Mirror.bind_error hstatus⟩

theorem Writes.forLoop {body : Nat → EStateM ε (ι → α → β) PUnit} (start count : Nat)
    (h : ∀ i, start ≤ i → i < start + count → Writes region (body i)) :
    Writes region (Mirror.forLoop start count body) := by
  induction count generalizing start with
  | zero => exact Writes.pure
  | succ count ih =>
    rw [Mirror.forLoop_succ]
    exact (h start (Nat.le_refl _) (by omega)).bind
      (ih (start + 1) fun i hlo hhi => h i (by omega) (by omega))

end Calls

/-- Nothing outside of the region has changed. -/
def SameOutside (region : ι → α → Prop) (before after : ι → α → β) : Prop :=
  ∀ bank address, ¬region bank address → after bank address = before bank address

theorem SameOutside.refl (region : ι → α → Prop) (memory : ι → α → β) :
    SameOutside region memory memory := fun _ _ _ => rfl

theorem SameOutside.trans {region : ι → α → Prop} {before between after : ι → α → β}
    (h : SameOutside region before between) (h' : SameOutside region between after) :
    SameOutside region before after :=
  fun bank address houtside =>
    (h' bank address houtside).trans (h bank address houtside)

theorem SameOutside.mono {region other : ι → α → Prop} {before after : ι → α → β}
    (h : SameOutside region before after)
    (hregion : ∀ bank address, region bank address → other bank address) :
    SameOutside other before after :=
  fun bank address houtside => h bank address fun hinside =>
    houtside (hregion bank address hinside)

/-- A write inside of the region. -/
theorem SameOutside.write {region : ι → α → Prop} {before after : ι → α → β}
    (h : SameOutside region before after) {patch : Patch ι α β} (hwithin : patch.Within region) :
    SameOutside region before (patch.apply after) := by
  intro bank address houtside
  have hnothing : patch bank address = none := by
    by_contra hwrites
    exact houtside (hwithin bank address hwrites)
  rw [← h bank address houtside]
  unfold apply
  rw [hnothing]
  rfl

end Patch
