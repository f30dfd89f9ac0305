import Mffv1.SliceCoverage

/-!
# The raster check is exact

Slices that do not overlap pass the sweep, so the check accepts exactly the frames
whose slices are well placed and cover every cell once.
-/
namespace Mffv1

/-- A reported overlap is one. -/
theorem ActiveIntervals.exists_of_overlaps {active : ActiveIntervals} {y yEnd : UInt32}
    (h : active.Ordered) (hlt : y.toNat < yEnd.toNat) (hover : active.overlaps y yEnd = true) :
    ∃ interval ∈ active, interval.1.toNat < yEnd.toNat ∧ y.toNat < interval.2.toNat := by
  unfold overlaps lowerBound beforeLowerBound at hover
  rcases Bool.or_eq_true_iff.mp hover with hnext | hprevious
  · cases hfind : active.find? (fun interval => decide (y ≤ interval.1)) with
    | none =>
      rw [hfind] at hnext
      cases hnext
    | some next =>
      rw [hfind, Option.any_some, decide_eq_true_iff, UInt32.lt_iff_toNat_lt] at hnext
      have hmem := List.mem_of_find?_eq_some hfind
      have hle : y ≤ next.1 := by simpa using List.find?_some hfind
      have hne := h.nonempty next hmem
      rw [UInt32.le_iff_toNat_le] at hle
      exact ⟨next, hmem, hnext, by omega⟩
  · cases hlast : (active.takeWhile fun interval => decide (interval.1 < y)).getLast? with
    | none =>
      rw [hlast] at hprevious
      cases hprevious
    | some previous =>
      rw [hlast, Option.any_some, decide_eq_true_iff, UInt32.lt_iff_toNat_lt] at hprevious
      have hmem := List.mem_of_getLast? hlast
      have hbelow : previous.1 < y := by simpa using List.mem_takeWhile_imp hmem
      rw [UInt32.lt_iff_toNat_lt] at hbelow
      exact ⟨previous, List.takeWhile_subset _ hmem, by omega, hprevious⟩

section Complete

variable {stream : StreamParameters} {slices : List SliceDescriptor} {done : List SweepEvent}

theorem sweep_start_of_no_overlap {position : Nat} {todo : List SweepEvent}
    {active : ActiveIntervals} (hno : active.overlaps (rowInterval slices position).1
      (rowInterval slices position).2 = false) :
    sweep slices (startEdge slices position :: todo) active =
      sweep slices todo (active.emplace (rowInterval slices position).1
        (rowInterval slices position).2) := by
  change (if active.overlaps (rowInterval slices position).1 (rowInterval slices position).2 = true
    then _ else _) = _
  rw [hno]
  rfl

variable (hraster : ∀ slice ∈ slices, InRaster stream slice)

include hraster

/-- The sweep ends well when what begins is apart from what is active then. -/
theorem sweep_complete {todo : List SweepEvent} {active : ActiveIntervals}
    (hedges : ∀ event ∈ todo, ∃ p < slices.length,
      event = startEdge slices p ∨ event = endEdge slices p)
    (hnodup : (done ++ todo).Nodup)
    (hstarts : ∀ pre post p, done ++ todo = pre ++ endEdge slices p :: post →
      startEdge slices p ∈ pre)
    (hinv : SweepInvariant slices done active)
    (hapart : ∀ pre post q, todo = pre ++ startEdge slices q :: post →
      ∀ p, Started slices (done ++ pre) p → RowsApart slices p q) :
    sweep slices todo active = .ok () := by
  induction todo generalizing done active with
  | nil => rfl
  | cons event todo ih =>
    obtain ⟨position, hpos, hevent⟩ := hedges event (by simp)
    have hassoc : done ++ event :: todo = (done ++ [event]) ++ todo := by simp
    have hfresh : event ∉ done := fun hmem =>
      (List.nodup_append.mp hnodup).2.2 event hmem event (by simp) rfl
    have hedges' := fun e he => hedges e (List.mem_cons_of_mem event he)
    have hapart' : ∀ pre post q, todo = pre ++ startEdge slices q :: post →
        ∀ p, Started slices (done ++ [event] ++ pre) p → RowsApart slices p q := by
      intro pre post q heq p hp
      exact hapart (event :: pre) post q (by rw [heq, List.cons_append]) p (by simpa using hp)
    rcases hevent with rfl | rfl
    · have hend : endEdge slices position ∉ done := fun hmem => by
        obtain ⟨pre, post, rfl⟩ := List.append_of_mem hmem
        have := hstarts pre (post ++ startEdge slices position :: todo) position (by simp)
        exact hfresh (by simp [this])
      have hno : active.overlaps (rowInterval slices position).1
          (rowInterval slices position).2 = false := by
        rw [← Bool.not_eq_true]
        intro hover
        obtain ⟨interval, hmem, hlo, hhi⟩ :=
          ActiveIntervals.exists_of_overlaps hinv.ordered (row_lt hraster hpos) hover
        obtain ⟨p, hp, rfl⟩ := (hinv.mem interval).mp hmem
        have hrows := hapart [] todo position rfl p (by simpa using hp)
        rw [(edge_toNat hraster hpos).2] at hlo
        rw [(edge_toNat hraster hp.1).2] at hhi
        have h₁ : (rowInterval slices p).1.toNat = (rectAt slices p).y := rfl
        have h₂ : (rowInterval slices position).1.toNat = (rectAt slices position).y := rfl
        unfold RowsApart at hrows
        omega
      rw [sweep_start_of_no_overlap hno]
      exact ih hedges' (hassoc ▸ hnodup) (hassoc ▸ hstarts)
        (hinv.start_step hraster hpos hno hend).1 hapart'
    · rw [sweep_end]
      exact ih hedges' (hassoc ▸ hnodup) (hassoc ▸ hstarts)
        (hinv.end_step hraster hpos (hstarts done todo position rfl) hfresh) hapart'

omit hraster in
theorem pre_before_start {pre post : List SweepEvent} {event other : SweepEvent}
    (hsplit : sortEvents (edges slices 0) = pre ++ event :: post) (hmem : other ∈ pre) :
    event.before other = false := by
  have hsorted := sortEvents_sorted (edges slices 0)
  rw [hsplit, List.pairwise_append] at hsorted
  exact hsorted.2.2 other hmem event (by simp)

/-- Slices that share no cell pass the sweep. -/
theorem sweep_ok_of_disjoint
    (hdisjoint : ∀ p < slices.length, ∀ q < slices.length, p ≠ q → ∀ i j,
      (rectAt slices p).Contains i j → ¬(rectAt slices q).Contains i j) :
    sweep slices (sortEvents (edges slices 0)) [] = .ok () := by
  refine sweep_complete hraster (fun event he => mem_edges.mp (mem_sortEvents.mp he))
    (sorted_edges_nodup slices) (start_before_end hraster) (SweepInvariant.initial slices) ?_
  intro pre post q hsplit p hp
  rw [List.nil_append] at hp
  obtain ⟨hlt, hstart, hend⟩ := hp
  have hq : q < slices.length := by
    obtain ⟨r, hr, hedge⟩ := mem_edges.mp (mem_sortEvents.mp
      (by simp [hsplit] : startEdge slices q ∈ sortEvents (edges slices 0)))
    rcases hedge with h | h
    · have heq : q = r := congrArg SweepEvent.slicePosition h
      exact heq ▸ hr
    · cases congrArg SweepEvent.starts h
  have hne : p ≠ q := by
    rintro rfl
    have hnodup := sorted_edges_nodup slices
    rw [hsplit] at hnodup
    exact (List.nodup_append.mp hnodup).2.2 _ hstart _ List.mem_cons_self rfl
  -- `p` has begun and not ended, so the columns of the two meet where `q` begins
  have hlo : (rectAt slices p).x ≤ (rectAt slices q).x := by
    have horder := pre_before_start hsplit hstart
    rw [before_eq_false_iff] at horder
    rcases horder with h | ⟨h, -⟩
    · exact Nat.le_of_lt h
    · exact Nat.le_of_eq (congrArg UInt32.toNat h)
  have hhi : (rectAt slices q).x < (rectAt slices p).x + (rectAt slices p).width := by
    have hmem := (edges_mem_sorted hlt).2
    rw [hsplit] at hmem
    rcases List.mem_append.mp hmem with h | h
    · exact absurd h hend
    rcases List.mem_cons.mp h with h | h
    · cases congrArg SweepEvent.starts h
    have horder := sorted_edge_order hsplit h
    rw [before_eq_false_iff, (edge_toNat hraster hlt).1] at horder
    rcases horder with h | ⟨-, ⟨h, -⟩ | ⟨h, -⟩⟩
    · exact h
    · cases h
    · cases h
  by_contra hrows
  unfold RowsApart at hrows
  have hw : 0 < (rectAt slices q).width := (inRaster_at hraster hq).width_pos
  have hhp : 0 < (rectAt slices p).height := (inRaster_at hraster hlt).height_pos
  have hhq : 0 < (rectAt slices q).height := (inRaster_at hraster hq).height_pos
  refine hdisjoint p hlt q hq hne (rectAt slices q).x
    (max (rectAt slices p).y (rectAt slices q).y) ?_ ?_
  · unfold Tiling.Rect.Contains
    omega
  · unfold Tiling.Rect.Contains
    omega

end Complete

section Check

variable {stream : StreamParameters} {slices : List SliceDescriptor}

/-- The scan succeeds when every slice passes on its own. -/
theorem scanSlices_ok (hslices : ∀ slice ∈ slices, InRaster stream slice ∧ WithinAreaLimit stream slice)
    (position : Nat) (scan : CoverageScan) :
    ∃ scan', scanSlices stream slices position scan = .ok scan' := by
  induction slices generalizing position scan with
  | nil => exact ⟨scan, rfl⟩
  | cons slice slices ih =>
    obtain ⟨hslice, hslices⟩ := List.forall_mem_cons.mp hslices
    rw [scanSlices, (checkSlice_ok_iff slice).mpr hslice]
    exact ih hslices _ _

/-- Areas that fit in the raster together never exceed it. -/
theorem scanSlices_fits {scan scan' : CoverageScan} {position : Nat}
    (h : scanSlices stream slices position scan = .ok scan') (hexceeds : scan.exceedsRaster = false)
    (hfits : scan.coveredArea.toNat + (slices.map fun slice => slice.rasterRect.area).sum ≤
      stream.numHSlices.toNat * stream.numVSlices.toNat) :
    scan'.exceedsRaster = false := by
  induction slices generalizing position scan with
  | nil => exact Except.ok.inj h ▸ hexceeds
  | cons slice slices ih =>
    simp only [scanSlices, except_bind_ok, exists_unit] at h
    rw [List.map_cons, List.sum_cons] at hfits
    have hle : scan.coveredArea ≤ cellCount64 stream :=
      UInt64.le_iff_toNat_le.mpr (by rw [cellCount64_toNat]; omega)
    have hroom : ¬cellCount64 stream - scan.coveredArea < sliceArea slice := by
      rw [UInt64.lt_iff_toNat_lt, UInt64.toNat_sub_of_le _ _ hle, sliceArea_toNat, cellCount64_toNat]
      omega
    have hsum : (scan.coveredArea + sliceArea slice).toNat =
        scan.coveredArea.toNat + slice.rasterRect.area := by
      have hlt := (cellCount64 stream).toNat_lt
      rw [cellCount64_toNat] at hlt
      rw [UInt64.toNat_add, sliceArea_toNat]
      exact Nat.mod_eq_of_lt (by omega)
    refine ih h.2 ?_ ?_
    · simp [hexceeds, hroom]
    · simp only [hroom, decide_false, Bool.false_eq_true, if_false, hsum]
      omega

/-- Slices that share no cell leave only the comparison of the areas to decide. -/
theorem validate_of_disjoint (hgrid : stream.numHSlices ≠ 0 ∧ stream.numVSlices ≠ 0)
    (hlen : slices.length ≤ maxSweepEvents / 2)
    (hslices : ∀ slice ∈ slices, InRaster stream slice ∧ WithinAreaLimit stream slice)
    (hdisjoint : ∀ k l : Fin slices.length, k ≠ l → ∀ i j,
      (slices.get k).rasterRect.Contains i j → ¬(slices.get l).rasterRect.Contains i j) :
    validateSliceRasterCoverage stream slices =
      if ∑ k : Fin slices.length, (slices.get k).rasterRect.area =
          stream.numHSlices.toNat * stream.numVSlices.toNat then .ok ()
      else .error (makeError .syntaxError "slice raster coverage has missing cells") := by
  have hraster := fun slice hmem => (hslices slice hmem).1
  have hinside (k : Fin slices.length) : (slices.get k).rasterRect.Inside stream.numHSlices.toNat
      stream.numVSlices.toNat := (hraster _ (List.getElem_mem k.isLt)).inside
  obtain ⟨scan, hscan⟩ := scanSlices_ok hslices 0 {}
  have hevents : scan.events = edges slices 0 := scanSlices_events hscan
  have hsweep : sweep slices (sortEvents scan.events) [] = .ok () := by
    rw [hevents]
    refine sweep_ok_of_disjoint hraster fun p hp q hq hne i j hcell => ?_
    have h := hdisjoint ⟨p, hp⟩ ⟨q, hq⟩ (fun h => hne (congrArg Fin.val h)) i j
    rw [get_rasterRect, get_rasterRect] at h
    exact h hcell
  have hle : ∑ k : Fin slices.length, (slices.get k).rasterRect.area ≤
      stream.numHSlices.toNat * stream.numVSlices.toNat := by
    rw [← Tiling.card_coveredCells hdisjoint]
    have hcard := Finset.card_le_card (Tiling.coveredCells_subset hinside)
    rwa [Finset.card_product, Finset.card_range, Finset.card_range] at hcard
  rw [sum_rect_area] at hle ⊢
  have hfits := scanSlices_fits hscan rfl (by simpa using hle)
  have harea := scanSlices_area hscan hfits (by simp)
  have hcompare : (scan.exceedsRaster = true ∨ scan.coveredArea ≠ cellCount64 stream) ↔
      ¬(slices.map fun slice => slice.rasterRect.area).sum =
        stream.numHSlices.toNat * stream.numVSlices.toNat := by
    rw [hfits, ne_eq, ← UInt64.toNat_inj, cellCount64_toNat, harea]
    simp
  simp only [validateSliceRasterCoverage]
  rw [failIf_of_not (by simpa using hgrid), failIf_of_not (by omega), hscan]
  change (sweep slices (sortEvents scan.events) [] >>= fun _ => _) = _
  rw [hsweep]
  change failIf _ _ = _
  unfold failIf
  by_cases heq : (slices.map fun slice => slice.rasterRect.area).sum =
      stream.numHSlices.toNat * stream.numVSlices.toNat
  · rw [if_neg (by rw [hcompare]; exact not_not.mpr heq), if_pos heq]
    rfl
  · rw [if_pos (hcompare.mpr heq), if_neg heq]
    rfl

end Check

/-- The check accepts exactly the slices that are in the raster, respect the area
limit and cover every cell once; slices that are in the raster, share no cell and
leave a cell out are reported as incomplete. No span of descriptors is longer than
`maxSweepEvents / 2`: a descriptor takes more memory than two events. -/
theorem validateSliceRasterCoverage_exact (stream : StreamParameters) (slices : List SliceDescriptor)
    (hgrid : stream.numHSlices ≠ 0 ∧ stream.numVSlices ≠ 0)
    (hlen : slices.length ≤ maxSweepEvents / 2) :
    (validateSliceRasterCoverage stream slices = .ok () ↔
      (∀ slice ∈ slices, InRaster stream slice ∧ WithinAreaLimit stream slice) ∧
        ∀ i < stream.numHSlices.toNat, ∀ j < stream.numVSlices.toNat,
          ∃! k : Fin slices.length, (slices.get k).rasterRect.Contains i j) ∧
      ((∀ slice ∈ slices, InRaster stream slice ∧ WithinAreaLimit stream slice) →
        (∀ k l : Fin slices.length, k ≠ l → ∀ i j,
          (slices.get k).rasterRect.Contains i j → ¬(slices.get l).rasterRect.Contains i j) →
        (∃ i < stream.numHSlices.toNat, ∃ j < stream.numVSlices.toNat,
          ∀ k : Fin slices.length, ¬(slices.get k).rasterRect.Contains i j) →
        ∃ status, validateSliceRasterCoverage stream slices = .error status ∧
          isIncompleteSliceRasterCoverageStatus status = true) := by
  have hinside (hslices : ∀ slice ∈ slices, InRaster stream slice ∧ WithinAreaLimit stream slice)
      (k : Fin slices.length) : (slices.get k).rasterRect.Inside stream.numHSlices.toNat
        stream.numVSlices.toNat := (hslices _ (List.getElem_mem k.isLt)).1.inside
  refine ⟨⟨fun h => ⟨?_, (validated_exactCover h).2⟩, fun ⟨hslices, hcover⟩ => ?_⟩,
    fun hslices hdisjoint ⟨i, hi, j, hj, hmiss⟩ => ?_⟩
  · simp only [validateSliceRasterCoverage, except_bind_ok, exists_unit, failIf_ok_iff] at h
    obtain ⟨-, -, scan, hscan, -⟩ := h
    exact scanSlices_checked hscan
  · have hcover : Tiling.ExactCover (fun k : Fin slices.length => (slices.get k).rasterRect) _ _ :=
      hcover
    rw [validate_of_disjoint hgrid hlen hslices (hcover.disjoint (hinside hslices)),
      if_pos (hcover.area (hinside hslices))]
  · have harea := Tiling.area_lt_of_uncovered (hinside hslices) hdisjoint hi hj hmiss
    rw [validate_of_disjoint hgrid hlen hslices hdisjoint, if_neg (Nat.ne_of_lt harea)]
    exact ⟨_, rfl, rfl⟩

/-- Two columns of a raster of two by one. -/
def columnSlice (x : UInt32) : SliceDescriptor :=
  { rasterX := x, rasterY := 0, rasterWidth := 1, rasterHeight := 1 }

theorem validateSliceRasterCoverage_exact_columns :
    validateSliceRasterCoverage { numHSlices := 2 } [columnSlice 0, columnSlice 1] = .ok () := by
  refine (validateSliceRasterCoverage_exact { numHSlices := 2 } [columnSlice 0, columnSlice 1]
    (by decide) (by decide)).1.mpr ⟨fun slice hslice => ?_, ?_⟩
  · rcases List.mem_pair.mp hslice with rfl | rfl
    · exact (checkSlice_ok_iff _).mp (by decide)
    · exact (checkSlice_ok_iff _).mp (by decide)
  · intro i hi j hj
    obtain rfl : j = 0 := by
      change j < 1 at hj
      omega
    change i < 2 at hi
    rcases (by omega : i = 0 ∨ i = 1) with rfl | rfl
    · exact ⟨0, by decide, by decide⟩
    · exact ⟨1, by decide, by decide⟩

end Mffv1
