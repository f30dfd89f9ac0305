import Mathlib.Data.List.Induction

/-!
# Blocks that end with their own size

A frame is a concatenation of blocks, each a body followed by a trailer of fixed
length from which the size of the body is known. Such a frame can only be taken
apart from its end, and in one way.
-/

/-- How long the body before a trailer is; `none` is a trailer that makes no sense. -/
structure Framing (α : Type) where
  trailer : Nat
  trailer_pos : 0 < trailer
  bodySize : List α → Option Nat

namespace Framing

variable {α : Type} (F : Framing α)

def IsBlock (block : List α) : Prop :=
  ∃ body trailer, block = body ++ trailer ∧ trailer.length = F.trailer ∧
    F.bodySize trailer = some body.length

/-- Blocks that make up a frame, in order. -/
def Decomposes (frame : List α) (blocks : List (List α)) : Prop :=
  blocks.flatten = frame ∧ ∀ block ∈ blocks, F.IsBlock block

/-- What is before the last block, and the last block. -/
def trailing (frame : List α) : Option (List α × List α) :=
  if frame.length < F.trailer then none
  else
    let bodies := frame.length - F.trailer
    match F.bodySize (frame.drop bodies) with
    | none => none
    | some size => if bodies < size then none else some (frame.splitAt (bodies - size))

variable {F} {frame rest block : List α}

theorem IsBlock.trailer_le (h : F.IsBlock block) : F.trailer ≤ block.length := by
  obtain ⟨body, trailer, rfl, hlen, _⟩ := h
  simp [hlen]

theorem IsBlock.ne_nil (h : F.IsBlock block) : block ≠ [] := by
  have hpos := F.trailer_pos
  have hle := h.trailer_le
  rintro rfl
  simp at hle
  omega

theorem trailing_append (h : F.IsBlock block) : F.trailing (rest ++ block) = some (rest, block) := by
  obtain ⟨body, trailer, rfl, hlen, hsize⟩ := h
  have hbodies : (rest ++ (body ++ trailer)).length - F.trailer = (rest ++ body).length := by
    simp only [List.length_append]
    omega
  unfold trailing
  rw [if_neg (by simp only [List.length_append]; omega), hbodies]
  simp only [← List.append_assoc, List.drop_left, hsize]
  rw [if_neg (by simp), List.splitAt_eq]
  simp

theorem isBlock_of_trailing (h : F.trailing frame = some (rest, block)) :
    frame = rest ++ block ∧ F.IsBlock block := by
  unfold trailing at h
  by_cases hshort : frame.length < F.trailer
  · simp [hshort] at h
  · rw [if_neg hshort] at h
    cases hsize : F.bodySize (frame.drop (frame.length - F.trailer)) with
    | none => simp [hsize] at h
    | some size =>
      simp only [hsize] at h
      by_cases hlarge : frame.length - F.trailer < size
      · simp [hlarge] at h
      · rw [if_neg hlarge, List.splitAt_eq, Option.some.injEq, Prod.mk.injEq] at h
        obtain ⟨rfl, rfl⟩ := h
        refine ⟨(List.take_append_drop _ _).symm,
          (frame.drop (frame.length - F.trailer - size)).take size,
          frame.drop (frame.length - F.trailer), ?_, ?_, ?_⟩
        · have hdrop : frame.drop (frame.length - F.trailer) =
              (frame.drop (frame.length - F.trailer - size)).drop size := by
            rw [List.drop_drop]
            congr 1
            omega
          rw [hdrop, List.take_append_drop]
        · rw [List.length_drop]
          omega
        · rw [hsize, List.length_take, List.length_drop]
          congr 1
          omega

/-- The last block is found exactly where there is one. -/
theorem trailing_iff :
    F.trailing frame = some (rest, block) ↔ frame = rest ++ block ∧ F.IsBlock block :=
  ⟨isBlock_of_trailing, fun ⟨hframe, hblock⟩ => hframe ▸ trailing_append hblock⟩

theorem Decomposes.snoc {blocks : List (List α)} (h : F.Decomposes rest blocks)
    (hblock : F.IsBlock block) : F.Decomposes (rest ++ block) (blocks ++ [block]) := by
  obtain ⟨hflat, hall⟩ := h
  refine ⟨by simp [hflat], fun b hb => ?_⟩
  rcases List.mem_append.mp hb with hb | hb
  · exact hall b hb
  · exact List.mem_singleton.mp hb ▸ hblock

/-- A frame that is not empty splits off its last block. -/
theorem Decomposes.cases {blocks : List (List α)} (h : F.Decomposes frame blocks)
    (hne : frame ≠ []) : ∃ rest block init, blocks = init ++ [block] ∧
      F.trailing frame = some (rest, block) ∧ F.Decomposes rest init := by
  obtain ⟨hflat, hall⟩ := h
  induction blocks using List.reverseRecOn with
  | nil => exact absurd hflat.symm hne
  | append_singleton init block _ =>
    refine ⟨init.flatten, block, init, rfl, ?_, rfl, fun b hb => hall b (by simp [hb])⟩
    rw [trailing_iff]
    exact ⟨by rw [← hflat]; simp, hall block (by simp)⟩

theorem Decomposes.nil_blocks {blocks : List (List α)} (h : F.Decomposes [] blocks) :
    blocks = [] := by
  obtain ⟨hflat, hall⟩ := h
  cases blocks with
  | nil => rfl
  | cons block blocks =>
    rw [List.flatten_cons, List.append_eq_nil_iff] at hflat
    exact absurd hflat.1 (hall block (by simp)).ne_nil

/-- A frame decomposes in at most one way. -/
theorem Decomposes.unique {blocks blocks' : List (List α)} (h : F.Decomposes frame blocks)
    (h' : F.Decomposes frame blocks') : blocks = blocks' := by
  induction blocks using List.reverseRecOn generalizing frame blocks' with
  | nil =>
    obtain ⟨rfl, -⟩ := h
    exact h'.nil_blocks.symm
  | append_singleton init block ih =>
    have hne : frame ≠ [] := by
      rw [← h.1]
      simp [(h.2 block (by simp)).ne_nil]
    obtain ⟨rest, last, init₁, hinit, htrailing, hrest⟩ := h.cases hne
    obtain ⟨rest', last', init', rfl, htrailing', hrest'⟩ := h'.cases hne
    obtain ⟨rfl, rfl⟩ := List.append_singleton_inj.mp hinit
    rw [htrailing, Option.some.injEq, Prod.mk.injEq] at htrailing'
    obtain ⟨rfl, rfl⟩ := htrailing'
    rw [ih hrest hrest']

/-- A trailer that makes no sense, behind anything. -/
def Unreadable (F : Framing α) (block : List α) : Prop :=
  F.trailer ≤ block.length ∧ F.bodySize (block.drop (block.length - F.trailer)) = none

theorem Unreadable.trailing_eq (h : F.Unreadable block) : F.trailing (rest ++ block) = none := by
  obtain ⟨hlong, hnone⟩ := h
  have hdrop : (rest ++ block).drop ((rest ++ block).length - F.trailer) =
      block.drop (block.length - F.trailer) := by
    rw [List.length_append, Nat.add_sub_assoc hlong, ← List.drop_drop, List.drop_left]
  unfold trailing
  rw [if_neg (by rw [List.length_append]; omega)]
  simp only [hdrop, hnone]

/-- Blocks that end with their own size or with a trailer that makes no sense are found again
or not at all. -/
theorem Decomposes.eq_of_readable {blocks blocks' : List (List α)}
    (hblocks : ∀ block ∈ blocks, F.IsBlock block ∨ F.Unreadable block)
    (h : F.Decomposes blocks.flatten blocks') : blocks' = blocks := by
  induction blocks using List.reverseRecOn generalizing blocks' with
  | nil => exact h.nil_blocks
  | append_singleton init block ih =>
    have hflat : (init ++ [block]).flatten = init.flatten ++ block := by simp
    have hlast := hblocks block (by simp)
    have hpos := F.trailer_pos
    have hne : (init ++ [block]).flatten ≠ [] := by
      rw [hflat]
      intro hnil
      obtain rfl := (List.append_eq_nil_iff.mp hnil).2
      rcases hlast with hblock | hnone
      · exact hblock.ne_nil rfl
      · have := hnone.1
        rw [List.length_nil] at this
        omega
    obtain ⟨rest, last, init', rfl, htrailing, hrest⟩ := h.cases hne
    rw [hflat] at htrailing
    rcases hlast with hblock | hnone
    · rw [trailing_append hblock, Option.some.injEq, Prod.mk.injEq] at htrailing
      obtain ⟨rfl, rfl⟩ := htrailing
      rw [ih (fun b hb => hblocks b (List.mem_append_left _ hb)) hrest]
    · rw [hnone.trailing_eq] at htrailing
      cases htrailing

end Framing
