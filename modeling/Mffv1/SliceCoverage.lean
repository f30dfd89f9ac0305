import Mathlib.Algebra.BigOperators.Fin
import Mathlib.Data.List.TakeWhile
import Mffv1.SliceRaster

/-!
# The sweep finds every overlap

Behind every prefix of the sorted edges the sweep holds the intervals of exactly
the slices that have begun and not ended. Two slices that overlap would meet when
the later of them begins.
-/
namespace Mffv1

def startEdge (slices : List SliceDescriptor) (position : Nat) : SweepEvent :=
  { x := (sliceAt slices position).rasterX, slicePosition := position, starts := true }

def endEdge (slices : List SliceDescriptor) (position : Nat) : SweepEvent :=
  { x := (sliceAt slices position).rasterX + (sliceAt slices position).rasterWidth
    slicePosition := position
    starts := false }

/-- The order of the sweep as an order on triples. -/
theorem before_eq_false_iff (left right : SweepEvent) :
    right.before left = false ↔ left.x.toNat < right.x.toNat ∨ left.x = right.x ∧
      (left.starts = false ∧ right.starts = true ∨
        left.starts = right.starts ∧ left.slicePosition ≤ right.slicePosition) := by
  unfold SweepEvent.before
  by_cases hx : right.x = left.x
  · rw [if_neg (by simpa using hx)]
    cases hl : left.starts <;> cases hr : right.starts <;> simp [hx]
  · have hne : right.x.toNat ≠ left.x.toNat := fun h => hx (UInt32.toNat_inj.mp h)
    rw [if_pos (by simpa using hx), decide_eq_false_iff_not, UInt32.lt_iff_toNat_lt]
    constructor
    · intro h
      exact .inl (by omega)
    · rintro (h | ⟨h, -⟩)
      · omega
      · exact absurd h.symm hx

theorem before_total (left right : SweepEvent) :
    right.before left = false ∨ left.before right = false := by
  rw [before_eq_false_iff, before_eq_false_iff, ← UInt32.toNat_inj, ← UInt32.toNat_inj]
  cases left.starts <;> cases right.starts <;> simp <;> omega

theorem before_trans {a b c : SweepEvent} (h₁ : b.before a = false) (h₂ : c.before b = false) :
    c.before a = false := by
  rw [before_eq_false_iff, ← UInt32.toNat_inj] at *
  cases ha : a.starts <;> cases hb : b.starts <;> cases hc : c.starts <;> simp_all <;> omega

theorem sortEvents_sorted (events : List SweepEvent) :
    (sortEvents events).Pairwise fun left right => right.before left = false := by
  have htotal : Std.Total fun left right : SweepEvent => right.before left = false :=
    ⟨before_total⟩
  have htrans : IsTrans SweepEvent fun left right => right.before left = false :=
    ⟨fun _ _ _ => before_trans⟩
  exact List.pairwise_insertionSort _ events

theorem mem_sortEvents {events : List SweepEvent} {event : SweepEvent} :
    event ∈ sortEvents events ↔ event ∈ events := List.mem_insertionSort _

/-- Intervals in ascending order, without overlap. -/
structure ActiveIntervals.Ordered (active : ActiveIntervals) : Prop where
  nonempty : ∀ interval ∈ active, interval.1.toNat < interval.2.toNat
  ascending : active.Pairwise fun a b => a.2.toNat ≤ b.1.toNat

namespace ActiveIntervals

variable {active : ActiveIntervals} {y yEnd : UInt32}

theorem below_of_no_overlap (h : active.Ordered) (hno : active.overlaps y yEnd = false) :
    ∀ interval ∈ active.takeWhile (fun interval => interval.1 < y), interval.2.toNat ≤ y.toNat := by
  obtain ⟨below, hbelow⟩ : ∃ below, below = active.takeWhile fun interval => interval.1 < y :=
    ⟨_, rfl⟩
  have hsub : below.Sublist active := hbelow ▸ List.takeWhile_sublist _
  unfold overlaps beforeLowerBound at hno
  rw [Bool.or_eq_false_iff] at hno
  rw [← hbelow] at hno ⊢
  cases below using List.reverseRecOn with
  | nil => exact fun _ h => absurd h List.not_mem_nil
  | append_singleton init last =>
    have hlast : ¬y < last.2 := by simpa using hno.2
    rw [UInt32.lt_iff_toNat_lt] at hlast
    have hascending := h.ascending.sublist hsub
    intro interval hmem
    rcases List.mem_append.mp hmem with hinit | hmem
    · have hle := (List.pairwise_append.mp hascending).2.2 interval hinit last (by simp)
      have hlt := h.nonempty last (hsub.subset (by simp))
      omega
    · rw [List.mem_singleton.mp hmem]
      omega

theorem above_of_no_overlap (h : active.Ordered) (hno : active.overlaps y yEnd = false) :
    ∀ interval ∈ active.dropWhile (fun interval => interval.1 < y), yEnd.toNat ≤ interval.1.toNat := by
  obtain ⟨above, habove⟩ : ∃ above, above = active.dropWhile fun interval => interval.1 < y :=
    ⟨_, rfl⟩
  have hsub : above.Sublist active := habove ▸ List.dropWhile_sublist _
  unfold overlaps lowerBound at hno
  rw [Bool.or_eq_false_iff] at hno
  rw [← habove]
  cases above with
  | nil => exact fun _ h => absurd h List.not_mem_nil
  | cons next rest =>
    have hnext : active.find? (fun interval => y ≤ interval.1) = some next := by
      have hpred : (fun interval : UInt32 × UInt32 => !decide (y ≤ interval.1)) =
          fun interval => decide (interval.1 < y) := by
        funext interval
        simp only [← decide_not, UInt32.not_le]
      rw [List.find?_eq_head?_dropWhile_not, hpred, ← habove]
      rfl
    rw [hnext] at hno
    have hge : ¬next.1 < yEnd := by simpa using hno.1
    rw [UInt32.lt_iff_toNat_lt] at hge
    have hascending := h.ascending.sublist hsub
    have hlt := h.nonempty next (hsub.subset (by simp))
    intro interval hmem
    rcases List.mem_cons.mp hmem with rfl | hmem
    · omega
    · have hle := (List.pairwise_cons.mp hascending).1 interval hmem
      omega

/-- Without overlap the new interval goes between the others. -/
theorem emplace_of_no_overlap (h : active.Ordered) (hlt : y.toNat < yEnd.toNat)
    (hno : active.overlaps y yEnd = false) :
    (active.emplace y yEnd).Ordered ∧
      (∀ interval, interval ∈ active.emplace y yEnd ↔ interval = (y, yEnd) ∨ interval ∈ active) ∧
      ∀ interval ∈ active, interval.2.toNat ≤ y.toNat ∨ yEnd.toNat ≤ interval.1.toNat := by
  have hbelow := below_of_no_overlap h hno
  have habove := above_of_no_overlap h hno
  have hsplit : (active.takeWhile fun interval => interval.1 < y) ++
      (active.dropWhile fun interval => interval.1 < y) = active := List.takeWhile_append_dropWhile
  have hapart : ∀ interval ∈ active,
      interval.2.toNat ≤ y.toNat ∨ yEnd.toNat ≤ interval.1.toNat := by
    intro interval hmem
    rw [← hsplit] at hmem
    exact (List.mem_append.mp hmem).imp (hbelow interval) (habove interval)
  have hfresh : ¬(active.any fun interval => interval.1 == y) = true := by
    rw [List.any_eq_true]
    rintro ⟨interval, hmem, heq⟩
    have hy : interval.1 = y := by simpa using heq
    have := h.nonempty interval hmem
    rw [hy] at this
    rcases hapart interval hmem with hle | hle
    · omega
    · rw [hy] at hle
      omega
  unfold emplace
  rw [if_neg hfresh]
  have hmem (interval : UInt32 × UInt32) :
      interval ∈ (active.takeWhile fun interval => interval.1 < y) ++ (y, yEnd) ::
        (active.dropWhile fun interval => interval.1 < y) ↔ interval = (y, yEnd) ∨ interval ∈ active := by
    conv_rhs => rw [← hsplit]
    simp only [List.mem_append, List.mem_cons]
    tauto
  refine ⟨⟨fun interval hinterval => ?_, ?_⟩, hmem, hapart⟩
  · rcases (hmem interval).mp hinterval with rfl | hold
    · exact hlt
    · exact h.nonempty interval hold
  · rw [List.pairwise_append, List.pairwise_cons]
    have hascending := h.ascending
    rw [← hsplit, List.pairwise_append] at hascending
    obtain ⟨hfirst, hsecond, hcross⟩ := hascending
    refine ⟨hfirst, ⟨habove, hsecond⟩, fun a ha b hb => ?_⟩
    rcases List.mem_cons.mp hb with rfl | hb
    · exact hbelow a ha
    · exact hcross a ha b hb

theorem erase_ordered (h : active.Ordered) (y : UInt32) : (active.erase y).Ordered :=
  ⟨fun interval hmem => h.nonempty interval (List.mem_of_mem_filter hmem),
    h.ascending.sublist List.filter_sublist⟩

theorem mem_erase {y : UInt32} {interval : UInt32 × UInt32} :
    interval ∈ active.erase y ↔ interval ∈ active ∧ interval.1 ≠ y := by
  simp [erase]

end ActiveIntervals

/-- A slice whose raster rectangle is not empty and inside the raster. -/
structure InRaster (stream : StreamParameters) (slice : SliceDescriptor) : Prop where
  width_pos : 0 < slice.rasterRect.width
  height_pos : 0 < slice.rasterRect.height
  inside : slice.rasterRect.Inside stream.numHSlices.toNat stream.numVSlices.toNat

section Sweep

variable {stream : StreamParameters} {slices : List SliceDescriptor} {done : List SweepEvent}

def rectAt (slices : List SliceDescriptor) (position : Nat) : Tiling.Rect :=
  (sliceAt slices position).rasterRect

/-- The rows of a slice, as the sweep keeps them. -/
def rowInterval (slices : List SliceDescriptor) (position : Nat) : UInt32 × UInt32 :=
  ((sliceAt slices position).rasterY,
    (sliceAt slices position).rasterY + (sliceAt slices position).rasterHeight)

def RowsApart (slices : List SliceDescriptor) (p q : Nat) : Prop :=
  (rectAt slices p).y + (rectAt slices p).height ≤ (rectAt slices q).y ∨
    (rectAt slices q).y + (rectAt slices q).height ≤ (rectAt slices p).y

/-- A slice that has begun and not ended. -/
def Started (slices : List SliceDescriptor) (done : List SweepEvent) (position : Nat) : Prop :=
  position < slices.length ∧ startEdge slices position ∈ done ∧ endEdge slices position ∉ done

structure SweepInvariant (slices : List SliceDescriptor) (done : List SweepEvent)
    (active : ActiveIntervals) : Prop where
  ordered : active.Ordered
  mem : ∀ interval, interval ∈ active ↔
    ∃ position, Started slices done position ∧ interval = rowInterval slices position
  apart : ∀ p q, Started slices done p → Started slices done q → p ≠ q → RowsApart slices p q

variable (hraster : ∀ slice ∈ slices, InRaster stream slice)

include hraster

theorem inRaster_at {position : Nat} (h : position < slices.length) :
    InRaster stream (sliceAt slices position) := by
  unfold sliceAt
  rw [List.getD_eq_getElem _ _ h]
  exact hraster _ (List.getElem_mem h)

/-- Sums of coordinates do not wrap. -/
theorem edge_toNat {position : Nat} (h : position < slices.length) :
    (endEdge slices position).x.toNat = (rectAt slices position).x + (rectAt slices position).width ∧
      (rowInterval slices position).2.toNat =
        (rectAt slices position).y + (rectAt slices position).height := by
  have hin := (inRaster_at hraster h).inside
  have hh := stream.numHSlices.toNat_lt
  have hv := stream.numVSlices.toNat_lt
  unfold Tiling.Rect.Inside SliceDescriptor.rasterRect at hin
  simp only at hin
  constructor
  · change ((sliceAt slices position).rasterX + (sliceAt slices position).rasterWidth).toNat = _
    rw [UInt32.toNat_add]
    exact Nat.mod_eq_of_lt (by omega)
  · change ((sliceAt slices position).rasterY + (sliceAt slices position).rasterHeight).toNat = _
    rw [UInt32.toNat_add]
    exact Nat.mod_eq_of_lt (by omega)

theorem not_end_before_start {position : Nat} (h : position < slices.length) :
    ¬(startEdge slices position).before (endEdge slices position) = false := by
  have hin := (inRaster_at hraster h).width_pos
  have hx := (edge_toNat hraster h).1
  rw [before_eq_false_iff, hx]
  have hstart : (startEdge slices position).x.toNat = (rectAt slices position).x := rfl
  rintro (hlt | ⟨heq, -⟩)
  · rw [hstart] at hlt
    change 0 < (rectAt slices position).width at hin
    omega
  · have heq := congrArg UInt32.toNat heq
    rw [hx, hstart] at heq
    change 0 < (rectAt slices position).width at hin
    omega

theorem row_lt {position : Nat} (h : position < slices.length) :
    (rowInterval slices position).1.toNat < (rowInterval slices position).2.toNat := by
  have hin := (inRaster_at hraster h).height_pos
  rw [(edge_toNat hraster h).2]
  change (rectAt slices position).y < _
  change 0 < (rectAt slices position).height at hin
  omega

/-- What ends leaves the active intervals. -/
theorem SweepInvariant.end_step {active : ActiveIntervals} {position : Nat}
    (hinv : SweepInvariant slices done active) (hpos : position < slices.length)
    (hstarted : startEdge slices position ∈ done) (hfresh : endEdge slices position ∉ done) :
    SweepInvariant slices (done ++ [endEdge slices position])
      (active.erase (sliceAt slices position).rasterY) := by
  have hlive (p : Nat) : Started slices (done ++ [endEdge slices position]) p ↔
      Started slices done p ∧ p ≠ position := by
    have hne : startEdge slices p ≠ endEdge slices position := fun h => by
      cases congrArg SweepEvent.starts h
    have heq : endEdge slices p = endEdge slices position ↔ p = position :=
      ⟨fun h => congrArg SweepEvent.slicePosition h, fun h => h ▸ rfl⟩
    simp only [Started, List.mem_append, List.mem_singleton, hne, heq, or_false, not_or]
    tauto
  have hself : Started slices done position := ⟨hpos, hstarted, hfresh⟩
  refine ⟨ActiveIntervals.erase_ordered hinv.ordered _, fun interval => ?_, fun p q hp hq hne => ?_⟩
  · rw [ActiveIntervals.mem_erase, hinv.mem]
    constructor
    · rintro ⟨⟨p, hp, rfl⟩, hrow⟩
      exact ⟨p, (hlive p).mpr ⟨hp, fun h => hrow (h ▸ rfl)⟩, rfl⟩
    · rintro ⟨p, hp, rfl⟩
      obtain ⟨hp, hne⟩ := (hlive p).mp hp
      refine ⟨⟨p, hp, rfl⟩, fun hrow => ?_⟩
      have hrow' : (rectAt slices p).y = (rectAt slices position).y := congrArg UInt32.toNat hrow
      have h₁ := (inRaster_at hraster hp.1).height_pos
      have h₂ := (inRaster_at hraster hpos).height_pos
      change 0 < (rectAt slices p).height at h₁
      change 0 < (rectAt slices position).height at h₂
      have hapart := hinv.apart p position hp hself hne
      unfold RowsApart at hapart
      omega
  · exact hinv.apart p q ((hlive p).mp hp).1 ((hlive q).mp hq).1 hne

/-- What begins is apart from everything that is active, and becomes active. -/
theorem SweepInvariant.start_step {active : ActiveIntervals} {position : Nat}
    (hinv : SweepInvariant slices done active) (hpos : position < slices.length)
    (hno : active.overlaps (rowInterval slices position).1 (rowInterval slices position).2 = false)
    (hfresh : endEdge slices position ∉ done) :
    SweepInvariant slices (done ++ [startEdge slices position])
        (active.emplace (rowInterval slices position).1 (rowInterval slices position).2) ∧
      ∀ p, Started slices done p → RowsApart slices p position := by
  obtain ⟨hordered, hmem, hbetween⟩ :=
    ActiveIntervals.emplace_of_no_overlap hinv.ordered (row_lt hraster hpos) hno
  have hapart (p : Nat) (hp : Started slices done p) : RowsApart slices p position := by
    have h := hbetween _ ((hinv.mem _).mpr ⟨p, hp, rfl⟩)
    rw [(edge_toNat hraster hp.1).2, (edge_toNat hraster hpos).2] at h
    exact h
  have hlive (p : Nat) : Started slices (done ++ [startEdge slices position]) p ↔
      Started slices done p ∨ p = position := by
    have hne : endEdge slices p ≠ startEdge slices position := fun h => by
      cases congrArg SweepEvent.starts h
    have heq : startEdge slices p = startEdge slices position ↔ p = position :=
      ⟨fun h => congrArg SweepEvent.slicePosition h, fun h => h ▸ rfl⟩
    simp only [Started, List.mem_append, List.mem_singleton, hne, heq, or_false]
    constructor
    · rintro ⟨hlt, hstart | rfl, hend⟩
      · exact .inl ⟨hlt, hstart, hend⟩
      · exact .inr rfl
    · rintro (⟨hlt, hstart, hend⟩ | rfl)
      · exact ⟨hlt, .inl hstart, hend⟩
      · exact ⟨hpos, .inr rfl, hfresh⟩
  refine ⟨⟨hordered, fun interval => ?_, fun p q hp hq hne => ?_⟩, hapart⟩
  · rw [hmem, hinv.mem]
    constructor
    · rintro (rfl | ⟨p, hp, rfl⟩)
      · exact ⟨position, (hlive position).mpr (.inr rfl), rfl⟩
      · exact ⟨p, (hlive p).mpr (.inl hp), rfl⟩
    · rintro ⟨p, hp, rfl⟩
      rcases (hlive p).mp hp with hp | rfl
      · exact .inr ⟨p, hp, rfl⟩
      · exact .inl rfl
  · rcases (hlive p).mp hp with hp' | hp'
    · rcases (hlive q).mp hq with hq' | hq'
      · exact hinv.apart p q hp' hq' hne
      · exact hq' ▸ hapart p hp'
    · rcases (hlive q).mp hq with hq' | hq'
      · exact hp' ▸ (hapart q hq').symm
      · exact absurd (hp'.trans hq'.symm) hne

omit hraster in
theorem sweep_start (position : Nat) (todo : List SweepEvent) (active : ActiveIntervals)
    (h : sweep slices (startEdge slices position :: todo) active = .ok ()) :
    active.overlaps (rowInterval slices position).1 (rowInterval slices position).2 = false ∧
      sweep slices todo
        (active.emplace (rowInterval slices position).1 (rowInterval slices position).2) =
          .ok () := by
  have hstep : (if active.overlaps (rowInterval slices position).1 (rowInterval slices position).2 = true
      then .error (makeSliceError .syntaxError "slice raster rectangles overlap"
        (sliceAt slices position).index)
      else sweep slices todo (active.emplace (rowInterval slices position).1
        (rowInterval slices position).2)) = (.ok () : Status) := h
  cases hover : active.overlaps (rowInterval slices position).1 (rowInterval slices position).2 with
  | true =>
    rw [hover] at hstep
    cases hstep
  | false =>
    rw [hover] at hstep
    exact ⟨rfl, hstep⟩

omit hraster in
theorem sweep_end (position : Nat) (todo : List SweepEvent) (active : ActiveIntervals) :
    sweep slices (endEdge slices position :: todo) active =
      sweep slices todo (active.erase (sliceAt slices position).rasterY) := rfl

/-- Whatever begins in a sweep that ends well is apart from what is active then. -/
theorem sweep_apart {todo : List SweepEvent} {active : ActiveIntervals}
    (hedges : ∀ event ∈ todo, ∃ p < slices.length,
      event = startEdge slices p ∨ event = endEdge slices p)
    (hnodup : (done ++ todo).Nodup)
    (hstarts : ∀ pre post p, done ++ todo = pre ++ endEdge slices p :: post →
      startEdge slices p ∈ pre)
    (hinv : SweepInvariant slices done active) (h : sweep slices todo active = .ok ()) :
    ∀ pre post q, todo = pre ++ startEdge slices q :: post →
      ∀ p, Started slices (done ++ pre) p → RowsApart slices p q := by
  induction todo generalizing done active with
  | nil => simp
  | cons event todo ih =>
    obtain ⟨position, hpos, hevent⟩ := hedges event (by simp)
    have hassoc : done ++ event :: todo = (done ++ [event]) ++ todo := by simp
    have hfresh : event ∉ done := fun hmem =>
      (List.nodup_append.mp hnodup).2.2 event hmem event (by simp) rfl
    have hedges' := fun e he => hedges e (List.mem_cons_of_mem event he)
    rcases hevent with rfl | rfl
    · have hend : endEdge slices position ∉ done := fun hmem => by
        obtain ⟨pre, post, rfl⟩ := List.append_of_mem hmem
        have := hstarts pre (post ++ startEdge slices position :: todo) position (by simp)
        exact hfresh (by simp [this])
      obtain ⟨hno, hsweep⟩ := sweep_start position todo active h
      obtain ⟨hinv', hapart⟩ := hinv.start_step hraster hpos hno hend
      have ih' := ih hedges' (hassoc ▸ hnodup) (hassoc ▸ hstarts) hinv' hsweep
      intro pre post q heq p hlive
      cases pre with
      | nil =>
        obtain ⟨hq, -⟩ := List.cons.inj heq
        have hq : position = q := congrArg SweepEvent.slicePosition hq
        rw [List.append_nil] at hlive
        exact hq ▸ hapart p hlive
      | cons first pre =>
        obtain ⟨rfl, hrest⟩ := List.cons.inj heq
        exact ih' pre post q hrest p (by simpa using hlive)
    · have hstarted := hstarts done todo position rfl
      rw [sweep_end] at h
      have hinv' := hinv.end_step hraster hpos hstarted hfresh
      have ih' := ih hedges' (hassoc ▸ hnodup) (hassoc ▸ hstarts) hinv' h
      intro pre post q heq p hlive
      cases pre with
      | nil =>
        obtain ⟨hq, -⟩ := List.cons.inj heq
        cases congrArg SweepEvent.starts hq
      | cons first pre =>
        obtain ⟨rfl, hrest⟩ := List.cons.inj heq
        exact ih' pre post q hrest p (by simpa using hlive)

end Sweep

section Edges

variable {stream : StreamParameters} {slices : List SliceDescriptor}

theorem mem_edges_from (slices : List SliceDescriptor) (position : Nat) (event : SweepEvent) :
    event ∈ edges slices position ↔ ∃ p < slices.length,
      event = { startEdge slices p with slicePosition := position + p } ∨
        event = { endEdge slices p with slicePosition := position + p } := by
  induction slices generalizing position with
  | nil => simp [edges]
  | cons slice slices ih =>
    rw [edges, List.mem_append, ih]
    constructor
    · rintro (hmem | ⟨p, hp, h⟩)
      · refine ⟨0, by simp, ?_⟩
        simp only [List.mem_cons, List.not_mem_nil, or_false] at hmem
        exact hmem
      · refine ⟨p + 1, by simpa using hp, ?_⟩
        rw [show position + (p + 1) = position + 1 + p by omega]
        exact h
    · rintro ⟨p, hp, h⟩
      cases p with
      | zero =>
        refine .inl ?_
        simp only [List.mem_cons, List.not_mem_nil, or_false]
        exact h
      | succ p =>
        refine .inr ⟨p, by simpa using hp, ?_⟩
        rw [show position + 1 + p = position + (p + 1) by omega]
        exact h

theorem mem_edges {event : SweepEvent} : event ∈ edges slices 0 ↔
    ∃ p < slices.length, event = startEdge slices p ∨ event = endEdge slices p := by
  rw [mem_edges_from]
  simp only [Nat.zero_add]
  rfl

theorem edges_nodup (slices : List SliceDescriptor) (position : Nat) :
    (edges slices position).Nodup := by
  induction slices generalizing position with
  | nil => exact List.nodup_nil
  | cons slice slices ih =>
    rw [edges, List.nodup_append]
    refine ⟨by simp, ih (position + 1), fun a ha b hb heq => ?_⟩
    obtain ⟨p, -, hb⟩ := (mem_edges_from slices (position + 1) b).mp hb
    have hb : b.slicePosition = position + 1 + p := by rcases hb with rfl | rfl <;> rfl
    have ha : a.slicePosition = position := by
      rcases List.mem_cons.mp ha with rfl | ha
      · rfl
      · rw [List.mem_singleton.mp ha]
    rw [heq, hb] at ha
    omega

theorem sorted_edge_order {slices : List SliceDescriptor} {pre post : List SweepEvent}
    {event other : SweepEvent} (hsplit : sortEvents (edges slices 0) = pre ++ event :: post)
    (hmem : other ∈ post) : other.before event = false := by
  have hsorted := sortEvents_sorted (edges slices 0)
  rw [hsplit, List.pairwise_append, List.pairwise_cons] at hsorted
  exact hsorted.2.1.1 other hmem

theorem edges_mem_sorted {position : Nat} (h : position < slices.length) :
    startEdge slices position ∈ sortEvents (edges slices 0) ∧
      endEdge slices position ∈ sortEvents (edges slices 0) :=
  ⟨mem_sortEvents.mpr (mem_edges.mpr ⟨position, h, .inl rfl⟩),
    mem_sortEvents.mpr (mem_edges.mpr ⟨position, h, .inr rfl⟩)⟩

theorem sorted_edges_nodup (slices : List SliceDescriptor) :
    (sortEvents (edges slices 0)).Nodup :=
  (List.perm_insertionSort _ _).nodup_iff.mpr (edges_nodup slices 0)

/-- What ends has begun before. -/
theorem start_before_end (hraster : ∀ slice ∈ slices, InRaster stream slice)
    (pre post : List SweepEvent) (position : Nat)
    (hsplit : [] ++ sortEvents (edges slices 0) = pre ++ endEdge slices position :: post) :
    startEdge slices position ∈ pre := by
  rw [List.nil_append] at hsplit
  have hpos : position < slices.length := by
    have hend : endEdge slices position ∈ sortEvents (edges slices 0) := by simp [hsplit]
    obtain ⟨p, hp, hedge⟩ := mem_edges.mp (mem_sortEvents.mp hend)
    rcases hedge with h | h
    · cases congrArg SweepEvent.starts h
    · have heq : position = p := congrArg SweepEvent.slicePosition h
      exact heq ▸ hp
  have hstart := (edges_mem_sorted hpos).1
  rw [hsplit] at hstart
  rcases List.mem_append.mp hstart with hpre | hpost
  · exact hpre
  · rcases List.mem_cons.mp hpost with heq | hpost
    · cases congrArg SweepEvent.starts heq
    · exact absurd (sorted_edge_order hsplit hpost) (not_end_before_start hraster hpos)

theorem SweepInvariant.initial (slices : List SliceDescriptor) : SweepInvariant slices [] [] :=
  ⟨⟨nofun, List.Pairwise.nil⟩, fun _ => ⟨nofun, fun ⟨_, hlive, _⟩ => nomatch hlive.2.1⟩,
    fun _ _ hlive => nomatch hlive.2.1⟩

/-- Slices of a sweep that ends well do not share a cell. -/
theorem sweep_disjoint (hraster : ∀ slice ∈ slices, InRaster stream slice)
    (h : sweep slices (sortEvents (edges slices 0)) [] = .ok ()) {p q : Nat}
    (hp : p < slices.length) (hq : q < slices.length) (hne : p ≠ q) (i j : Nat)
    (hcell : (rectAt slices p).Contains i j) : ¬(rectAt slices q).Contains i j := by
  have hapart := sweep_apart hraster (fun event he => mem_edges.mp (mem_sortEvents.mp he))
    (sorted_edges_nodup slices) (start_before_end hraster) (SweepInvariant.initial slices) h
  -- whichever of two slices begins later meets the other or comes after its end
  have hpair (r s : Nat) (hr : r < slices.length) (pre post : List SweepEvent)
      (hsplit : sortEvents (edges slices 0) = pre ++ startEdge slices s :: post)
      (hpre : startEdge slices r ∈ pre) (hs : (rectAt slices s).Contains i j) :
      ¬(rectAt slices r).Contains i j := by
    intro hin
    unfold Tiling.Rect.Contains at hs hin
    by_cases hend : endEdge slices r ∈ pre
    · obtain ⟨before, after, rfl⟩ := List.append_of_mem hend
      rw [List.append_assoc, List.cons_append] at hsplit
      have horder := sorted_edge_order hsplit (by simp : startEdge slices s ∈ _)
      rw [before_eq_false_iff, (edge_toNat hraster hr).1] at horder
      have hx : (startEdge slices s).x.toNat = (rectAt slices s).x := rfl
      rcases horder with hlt | ⟨heq, -⟩
      · omega
      · have heq := congrArg UInt32.toNat heq
        rw [(edge_toNat hraster hr).1] at heq
        omega
    · have hrows := hapart pre post s hsplit r ⟨hr, by simpa using hpre, by simpa using hend⟩
      unfold RowsApart at hrows
      omega
  intro hcell'
  obtain ⟨pre, post, hsplit⟩ := List.append_of_mem (edges_mem_sorted hq).1
  have hstart := (edges_mem_sorted hp).1
  rw [hsplit] at hstart
  rcases List.mem_append.mp hstart with hpre | hpost
  · exact hpair p q hp pre post hsplit hpre hcell' hcell
  · rcases List.mem_cons.mp hpost with heq | hpost
    · exact hne (congrArg SweepEvent.slicePosition heq)
    · obtain ⟨mid, after, rfl⟩ := List.append_of_mem hpost
      have hsplit' : sortEvents (edges slices 0) =
          (pre ++ startEdge slices q :: mid) ++ startEdge slices p :: after := by simp [hsplit]
      exact hpair q p hq _ after hsplit' (by simp) hcell hcell'

end Edges

/-- The area limit of version 3 for frames larger than CIF. -/
def WithinAreaLimit (stream : StreamParameters) (slice : SliceDescriptor) : Prop :=
  3 ≤ stream.version → 352 * 288 < stream.width.toNat * stream.height.toNat →
    slice.rasterRect.area ≤ stream.numHSlices.toNat * stream.numVSlices.toNat / 4

section Check

variable {stream : StreamParameters} {slices : List SliceDescriptor}

theorem requiresLimit_iff (version : Int) (width height : UInt32) :
    requiresVersion3ParallelSliceLimit version width height = true ↔
      3 ≤ version ∧ 352 * 288 < width.toNat * height.toNat := by
  have h := Nat.mul_lt_mul'' width.toNat_lt height.toNat_lt
  have hcif : version3CifPixelCount.toNat = 352 * 288 := rfl
  have hmul : (width.toUInt64 * height.toUInt64).toNat = width.toNat * height.toNat := by
    rw [UInt64.toNat_mul, UInt32.toNat_toUInt64, UInt32.toNat_toUInt64]
    exact Nat.mod_eq_of_lt (by omega)
  unfold requiresVersion3ParallelSliceLimit
  rw [Bool.and_eq_true, decide_eq_true_iff, decide_eq_true_iff, UInt64.lt_iff_toNat_lt, hcif, hmul]

theorem checkSlice_ok_iff (slice : SliceDescriptor) :
    checkSlice stream slice = .ok () ↔ InRaster stream slice ∧ WithinAreaLimit stream slice := by
  have hdims (n : UInt32) : n = 0 ↔ n.toNat = 0 := UInt32.toNat_inj.symm
  have hlimit : cellCount64 stream / 4 < sliceArea slice ↔
      stream.numHSlices.toNat * stream.numVSlices.toNat / 4 < slice.rasterRect.area := by
    rw [UInt64.lt_iff_toNat_lt, UInt64.toNat_div, cellCount64_toNat, sliceArea_toNat]
    rfl
  simp only [checkSlice, except_bind_ok, exists_unit, failIf_ok_iff, requiresLimit_iff, hlimit,
    hdims]
  constructor
  · rintro ⟨hzero, hrect, harea⟩
    refine ⟨⟨?_, ?_, ?_, ?_⟩, fun hversion hcif => ?_⟩
    · exact Nat.pos_of_ne_zero fun hz => hzero (.inl hz)
    · exact Nat.pos_of_ne_zero fun hz => hzero (.inr hz)
    · exact add_le_of_not_sub_lt (fun h => hrect (.inl h)) (fun h => hrect (.inr (.inr (.inl h))))
    · exact add_le_of_not_sub_lt (fun h => hrect (.inr (.inl h)))
        (fun h => hrect (.inr (.inr (.inr h))))
    · exact Nat.le_of_not_lt fun h => harea ⟨⟨hversion, hcif⟩, h⟩
  · rintro ⟨⟨hw, hh, hx, hy⟩, harea⟩
    change slice.rasterX.toNat + slice.rasterWidth.toNat ≤ _ at hx
    change slice.rasterY.toNat + slice.rasterHeight.toNat ≤ _ at hy
    change 0 < slice.rasterWidth.toNat at hw
    change 0 < slice.rasterHeight.toNat at hh
    have hxle : slice.rasterX ≤ stream.numHSlices := UInt32.le_iff_toNat_le.mpr (by omega)
    have hyle : slice.rasterY ≤ stream.numVSlices := UInt32.le_iff_toNat_le.mpr (by omega)
    simp only [UInt32.lt_iff_toNat_lt, UInt32.toNat_sub_of_le _ _ hxle,
      UInt32.toNat_sub_of_le _ _ hyle]
    refine ⟨by omega, by omega, fun h => ?_⟩
    have := harea h.1.1 h.1.2
    omega

theorem scanSlices_checked {scan scan' : CoverageScan} {position : Nat}
    (h : scanSlices stream slices position scan = .ok scan') :
    ∀ slice ∈ slices, InRaster stream slice ∧ WithinAreaLimit stream slice := by
  induction slices generalizing position scan with
  | nil => exact fun _ h => absurd h List.not_mem_nil
  | cons slice slices ih =>
    simp only [scanSlices, except_bind_ok, exists_unit] at h
    exact List.forall_mem_cons.mpr ⟨(checkSlice_ok_iff slice).mp h.1, ih h.2⟩

theorem sum_rect_area (slices : List SliceDescriptor) :
    ∑ k : Fin slices.length, (slices.get k).rasterRect.area =
      (slices.map fun slice => slice.rasterRect.area).sum :=
  Fin.sum_univ_fun_getElem slices fun slice => slice.rasterRect.area

theorem get_rasterRect (slices : List SliceDescriptor) (k : Fin slices.length) :
    (slices.get k).rasterRect = rectAt slices k := by
  unfold rectAt sliceAt
  rw [List.getD_eq_getElem _ _ k.isLt]
  rfl

end Check

/-- Slices that pass the validator cover every cell of the raster once. -/
theorem validated_exactCover {stream : StreamParameters} {slices : List SliceDescriptor}
    (h : validateSliceRasterCoverage stream slices = .ok ()) :
    (∀ slice ∈ slices, InRaster stream slice) ∧
      Tiling.ExactCover (fun k : Fin slices.length => (slices.get k).rasterRect)
        stream.numHSlices.toNat stream.numVSlices.toNat := by
  simp only [validateSliceRasterCoverage, except_bind_ok, exists_unit, failIf_ok_iff] at h
  obtain ⟨-, -, scan, hscan, hsweep, hcovered⟩ := h
  rw [not_or, not_not, Bool.not_eq_true] at hcovered
  have hraster := fun slice hmem => (scanSlices_checked hscan slice hmem).1
  have hevents : scan.events = edges slices 0 := scanSlices_events hscan
  have harea := scanSlices_area hscan hcovered.1 (by simp)
  rw [hcovered.2, cellCount64_toNat] at harea
  rw [hevents] at hsweep
  refine ⟨hraster, Tiling.exactCover_of_area (fun k => ?_) (fun k l hne i j hk => ?_) ?_⟩
  · exact (hraster _ (List.getElem_mem k.isLt)).inside
  · rw [get_rasterRect] at hk ⊢
    exact sweep_disjoint hraster hsweep k.isLt l.isLt (fun h => hne (Fin.ext h)) i j hk
  · rw [harea]
    simp only [UInt64.toNat_zero, Nat.zero_add]
    exact sum_rect_area slices

end Mffv1
