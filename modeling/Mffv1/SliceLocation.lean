import Mathlib.Data.List.Forall2
import Mffv1.SlicePayloadLocator

/-!
# Slice location inverts concatenation

The locator takes a frame apart from its end. What it does with the last block is
said once, and the loops follow by induction on the number of slices still allowed.
-/
namespace Mffv1

open SlicePayloadLocator

variable {stream : StreamParameters} {framePayload rest block suffix : Bytes} {blocks : List Bytes}

/-- A frame without a trailing block is refused, and not for its parity. -/
theorem locateTrailing_none (verifyCrc : Bool)
    (h : (sliceFraming stream).trailing framePayload = none) :
    ∃ status, locateTrailingSliceCandidate framePayload stream verifyCrc none =
      { status := .error status, descriptor := none } := by
  unfold Framing.trailing at h
  unfold locateTrailingSliceCandidate
  by_cases hshort : framePayload.length < SliceFooterParser.footerSize stream
  · simp only [hshort, if_true]
    exact ⟨_, rfl⟩
  · simp only [hshort, if_false]
    rw [if_neg (show ¬framePayload.length < (sliceFraming stream).trailer from hshort)] at h
    obtain ⟨footer, hfooter⟩ : ∃ footer, footer =
      framePayload.drop (framePayload.length - SliceFooterParser.footerSize stream) := ⟨_, rfl⟩
    have hlen : footer.length = SliceFooterParser.footerSize stream := by
      rw [hfooter, List.length_drop]
      omega
    dsimp only [sliceFraming] at h
    rw [← hfooter] at h ⊢
    cases hsize : footerBodySize stream footer with
    | none =>
      rw [readFooter_none _ hlen hsize]
      exact ⟨_, rfl⟩
    | some size =>
      have hlarge : framePayload.length - SliceFooterParser.footerSize stream < size := by
        by_contra hle
        simp only [hsize, hle, if_false, reduceCtorEq] at h
      rw [readFooter_some _ hlen (by rw [hsize]; simp)]
      simp only [withFooter_sliceSize, footerBodySize_some hsize, hlarge, if_true]
      exact ⟨_, rfl⟩

/-- A trailing block is described, and refused only for its parity. -/
theorem locateTrailing_append (verifyCrc : Bool) (h : IsSliceBlock stream block) :
    locateTrailingSliceCandidate (rest ++ block) stream verifyCrc none =
      { status :=
          if verifyCrc = true ∧ ¬CrcValid stream block then
            .error (makeByteError .crcMismatch "slice CRC remainder is non-zero"
              ((blockDescriptor stream rest.length block).footerByteOffset + 4))
          else .ok ()
        descriptor := some (blockDescriptor stream rest.length block) } := by
  obtain ⟨body, footer, rfl, hlen, hsize⟩ := isSliceBlock_iff.mp h
  change footer.length = SliceFooterParser.footerSize stream at hlen
  change footerBodySize stream footer = _ at hsize
  have hfooter : (rest ++ body ++ footer).length - SliceFooterParser.footerSize stream =
      (rest ++ body).length := by
    simp only [List.length_append]
    omega
  have hbody : (body ++ footer).length - SliceFooterParser.footerSize stream = body.length := by
    simp only [List.length_append]
    omega
  have htotal : (rest ++ body ++ footer).length -
      (body.length + SliceFooterParser.footerSize stream) = rest.length := by
    simp only [List.length_append]
    omega
  have hpayload : ((rest ++ body ++ footer).drop rest.length).take
      (body.length + SliceFooterParser.footerSize stream) = body ++ footer := by
    rw [List.append_assoc, List.drop_left, List.take_of_length_le]
    rw [List.length_append, hlen]
  have hdescriptor (footerByteOffset : Nat) :
      (SliceDescriptor.withFooter stream { footerByteOffset } footer).locatedAt rest.length
        (body ++ footer) = blockDescriptor stream rest.length (body ++ footer) := by
    unfold blockDescriptor SliceDescriptor.withFooter
    rw [hbody]
    simp only [List.drop_left]
    cases stream.errorStatusEnabled <;> rfl
  have hcrc : (verifyCrc = true ∧ stream.errorStatusEnabled = true ∧
      crc32IeeeMsb (body ++ footer) ≠ 0) ↔ verifyCrc = true ∧ ¬CrcValid stream (body ++ footer) := by
    simp only [CrcValid, Classical.not_imp, ne_eq]
  rw [← List.append_assoc]
  unfold locateTrailingSliceCandidate
  rw [if_neg (by simp only [List.length_append]; omega)]
  simp only [hfooter]
  rw [List.drop_left, readFooter_some _ hlen (by rw [hsize]; simp)]
  simp only [withFooter_sliceSize, footerBodySize_some hsize, htotal, hpayload, Option.getD_none,
    hdescriptor, blockDescriptor_payload, blockDescriptor_hasCrc, hcrc]
  rw [if_neg (by simp only [List.length_append]; omega)]
  split <;> rfl

/-- Descriptors of contiguous blocks before they are numbered. -/
def plainDescriptors (stream : StreamParameters) : (offset : Nat) → List Bytes → List SliceDescriptor
  | _, [] => []
  | offset, block :: blocks =>
    blockDescriptor stream offset block :: plainDescriptors stream (offset + block.length) blocks

theorem plainDescriptors_append (offset : Nat) (blocks blocks' : List Bytes) :
    plainDescriptors stream offset (blocks ++ blocks') =
      plainDescriptors stream offset blocks ++
        plainDescriptors stream (offset + blocks.flatten.length) blocks' := by
  induction blocks generalizing offset with
  | nil => simp [plainDescriptors]
  | cons block blocks ih =>
    simp only [List.cons_append, plainDescriptors, ih, List.flatten_cons, List.length_append,
      Nat.add_assoc]

theorem plainDescriptors_mapIdx (start offset : Nat) (blocks : List Bytes) :
    ((plainDescriptors stream offset blocks).mapIdx fun index descriptor =>
      { descriptor with index := start + index }) = blockDescriptors stream start offset blocks := by
  induction blocks generalizing start offset with
  | nil => rfl
  | cons block blocks ih =>
    simp only [plainDescriptors, blockDescriptors, List.mapIdx_cons, Nat.add_zero]
    rw [← ih (start + 1)]
    simp only [Nat.add_assoc, Nat.add_comm 1]

/-- The blocks of a frame that is not empty, with the last one apart. -/
theorem concatenates_snoc (h : ConcatenatesTo stream blocks framePayload)
    (hne : framePayload ≠ []) : ∃ rest block init, blocks = init ++ [block] ∧
      framePayload = rest ++ block ∧ IsSliceBlock stream block ∧ ConcatenatesTo stream init rest := by
  obtain ⟨rest, block, init, hblocks, htrailing, hrest⟩ := (concatenatesTo_iff.mp h).cases hne
  obtain ⟨hframe, hblock⟩ := Framing.trailing_iff.mp htrailing
  exact ⟨rest, block, init, hblocks, hframe, isSliceBlock_iff.mpr hblock,
    concatenatesTo_iff.mpr hrest⟩

theorem concatenates_nil (h : ConcatenatesTo stream blocks []) : blocks = [] :=
  (concatenatesTo_iff.mp h).nil_blocks

theorem IsSliceBlock.pos (h : IsSliceBlock stream block) : 0 < block.length :=
  List.length_pos_iff.mpr (isSliceBlock_iff.mp h).ne_nil

theorem countPreceding_eq (limit outCount : Nat) (h : ConcatenatesTo stream blocks rest)
    (hlimit : blocks.length ≤ limit) :
    countPrecedingSlices (rest ++ suffix) stream limit rest.length outCount =
      some (outCount + blocks.length) := by
  induction limit generalizing blocks rest suffix outCount with
  | zero =>
    have hnil : blocks = [] := List.length_eq_zero_iff.mp (Nat.le_zero.mp hlimit)
    subst hnil
    have hrest : rest = [] := h.1.symm
    subst hrest
    rfl
  | succ limit ih =>
    by_cases hne : rest = []
    · subst hne
      rw [concatenates_nil h]
      rfl
    · obtain ⟨before, block, init, rfl, rfl, hblock, hinit⟩ := concatenates_snoc h hne
      have hpos := hblock.pos
      have hcount := @ih _ (block ++ suffix) _ (outCount + 1) hinit
        (by rw [List.length_append, List.length_singleton] at hlimit; omega)
      unfold countPrecedingSlices
      rw [if_neg (by rw [List.length_append]; omega), List.take_left]
      simp only [locateTrailing_append false hblock, Bool.false_eq_true, false_and, if_false,
        blockDescriptor_payloadByteOffset]
      rw [List.append_assoc, hcount, List.length_append, List.length_singleton]
      congr 1
      omega

theorem locateLoop_located (verifyCrc : Bool) (limit : Nat) (located : List SliceDescriptor)
    (h : ConcatenatesTo stream blocks rest) (hlimit : blocks.length ≤ limit)
    (hcrc : verifyCrc = true → ∀ block ∈ blocks, CrcValid stream block) :
    locateLoop (rest ++ suffix) stream verifyCrc limit rest.length located =
      .ok (located ++ (plainDescriptors stream 0 blocks).reverse) := by
  induction limit generalizing blocks rest suffix located with
  | zero =>
    have hnil : blocks = [] := List.length_eq_zero_iff.mp (Nat.le_zero.mp hlimit)
    subst hnil
    have hrest : rest = [] := h.1.symm
    subst hrest
    simp [locateLoop, plainDescriptors]
  | succ limit ih =>
    by_cases hne : rest = []
    · subst hne
      rw [concatenates_nil h]
      simp [locateLoop, plainDescriptors]
    · obtain ⟨before, block, init, rfl, rfl, hblock, hinit⟩ := concatenates_snoc h hne
      have hpos := hblock.pos
      have hvalid : ¬(verifyCrc = true ∧ ¬CrcValid stream block) :=
        fun ⟨hverify, hbad⟩ => hbad (hcrc hverify block (by simp))
      have hloop := @ih _ (block ++ suffix) _
        (located ++ [blockDescriptor stream before.length block]) hinit
        (by rw [List.length_append, List.length_singleton] at hlimit; omega)
        (fun hverify b hb => hcrc hverify b (by simp [hb]))
      unfold locateLoop
      rw [if_neg (by rw [List.length_append]; omega), List.take_left]
      simp only [locateTrailing_append verifyCrc hblock, hvalid, if_false, Option.getD_some,
        blockDescriptor_payloadByteOffset]
      rw [List.append_assoc before, hloop, plainDescriptors_append, hinit.1]
      simp [plainDescriptors]

/-- Whatever is located is a concatenation of blocks. -/
theorem locateLoop_sound (verifyCrc : Bool) (limit : Nat) (located found : List SliceDescriptor)
    (h : locateLoop (rest ++ suffix) stream verifyCrc limit rest.length located = .ok found) :
    ∃ blocks, ConcatenatesTo stream blocks rest ∧ blocks.length ≤ limit ∧
      (verifyCrc = true → ∀ block ∈ blocks, CrcValid stream block) := by
  induction limit generalizing rest suffix located with
  | zero =>
    unfold locateLoop at h
    split at h
    · rename_i hzero
      rw [List.length_eq_zero_iff] at hzero
      subst hzero
      exact ⟨[], ⟨rfl, nofun⟩, Nat.le_refl _, nofun⟩
    · cases h
  | succ limit ih =>
    by_cases hne : rest = []
    · subst hne
      exact ⟨[], ⟨rfl, nofun⟩, Nat.zero_le _, nofun⟩
    · unfold locateLoop at h
      rw [if_neg (by simpa using hne), List.take_left] at h
      cases htrailing : (sliceFraming stream).trailing rest with
      | none =>
        obtain ⟨status, hstatus⟩ := locateTrailing_none verifyCrc htrailing
        simp only [hstatus, reduceCtorEq] at h
      | some split =>
        obtain ⟨before, block⟩ := split
        obtain ⟨rfl, hblock⟩ := Framing.trailing_iff.mp htrailing
        have hblock' := isSliceBlock_iff.mpr hblock
        by_cases hbad : verifyCrc = true ∧ ¬CrcValid stream block
        · simp only [locateTrailing_append verifyCrc hblock'] at h
          rw [if_pos hbad] at h
          cases h
        · simp only [locateTrailing_append verifyCrc hblock', hbad, if_false, Option.getD_some,
            blockDescriptor_payloadByteOffset] at h
          rw [List.append_assoc] at h
          obtain ⟨init, hinit, hlen, hcrc⟩ := ih _ h
          refine ⟨init ++ [block], concatenatesTo_iff.mpr
            ((concatenatesTo_iff.mp hinit).snoc hblock), ?_, fun hverify b hb => ?_⟩
          · rw [List.length_append, List.length_singleton]
            omega
          · rcases List.mem_append.mp hb with hb | hb
            · exact hcrc hverify b hb
            · rw [List.mem_singleton.mp hb]
              exact not_not.mp fun hnot => hbad ⟨hverify, hnot⟩

/-- The last block with wrong parity stops the search, and is counted from the start. -/
theorem locateLoop_wrong (limit : Nat) (located : List SliceDescriptor) {init tail : List Bytes}
    (h : ConcatenatesTo stream (init ++ block :: tail) rest)
    (hlimit : (init ++ block :: tail).length ≤ limit) (hwrong : ¬CrcValid stream block)
    (htail : ∀ b ∈ tail, CrcValid stream b) :
    ∃ status, locateLoop (rest ++ suffix) stream true limit rest.length located = .error status ∧
      status.code = .crcMismatch ∧ status.location.sliceIndex = some init.length := by
  induction limit generalizing rest suffix located tail with
  | zero => simp at hlimit
  | succ limit ih =>
    have hne : rest ≠ [] := by
      rintro rfl
      exact absurd (concatenates_nil h) (by simp)
    obtain ⟨before, last, front, hblocks, rfl, hlast, hfront⟩ := concatenates_snoc h hne
    have hpos := hlast.pos
    unfold locateLoop
    rw [if_neg (by rw [List.length_append]; omega), List.take_left]
    cases htails : tail.reverse with
    | nil =>
      have hnil : tail = [] := List.reverse_eq_nil_iff.mp htails
      subst hnil
      obtain ⟨rfl, rfl⟩ := List.append_singleton_inj.mp hblocks
      have hcount := @countPreceding_eq _ _ (block ++ suffix) _ limit 0 hfront
        (by rw [List.length_append, List.length_singleton] at hlimit; omega)
      simp only [locateTrailing_append true hlast, hwrong, and_self, if_true, not_false_eq_true]
      refine ⟨_, rfl, ?_⟩
      unfold locateError
      simp only [blockDescriptor_payloadByteOffset, makeByteError, makeError,
        setByteLocationIfMissing]
      rw [List.append_assoc, hcount, Nat.zero_add]
      exact ⟨rfl, rfl⟩
    | cons last' front' =>
      obtain ⟨mid, rfl⟩ : ∃ mid, tail = mid ++ [last'] :=
        ⟨front'.reverse, by rw [← List.reverse_reverse tail, htails, List.reverse_cons]⟩
      rw [← List.cons_append, ← List.append_assoc] at hblocks
      obtain ⟨rfl, rfl⟩ := List.append_singleton_inj.mp hblocks
      have hvalid : CrcValid stream last' := htail last' (by simp)
      simp only [locateTrailing_append true hlast, hvalid, not_true_eq_false, and_false, if_false,
        Option.getD_some, blockDescriptor_payloadByteOffset]
      rw [List.append_assoc before]
      exact ih _ hfront (by simp only [List.length_append, List.length_cons] at hlimit ⊢; omega)
        fun b hb => htail b (by simp [hb])

theorem locateSlices_eq {maximum : Nat} (hpos : 1 ≤ maximum) (hmax : maximum < 2 ^ 32)
    (verifyCrc : Bool) :
    locateSlices framePayload stream maximum verifyCrc =
      (locateLoop framePayload stream verifyCrc maximum framePayload.length []).map fun located =>
        located.reverse.mapIdx fun index descriptor => { descriptor with index } := by
  unfold locateSlices
  rw [failIf_of_not (by omega), failIf_of_not (by omega)]
  rfl

theorem locateSlices_ok_iff {maximum : Nat} (hpos : 1 ≤ maximum) (hmax : maximum < 2 ^ 32)
    (verifyCrc : Bool) (descriptors : List SliceDescriptor) :
    locateSlices framePayload stream maximum verifyCrc = .ok descriptors ↔
      ∃ blocks, ConcatenatesTo stream blocks framePayload ∧ blocks.length ≤ maximum ∧
        (verifyCrc = true → ∀ block ∈ blocks, CrcValid stream block) ∧
        descriptors = blockDescriptors stream 0 0 blocks := by
  have hlocated {blocks : List Bytes} (h : ConcatenatesTo stream blocks framePayload)
      (hlen : blocks.length ≤ maximum)
      (hcrc : verifyCrc = true → ∀ block ∈ blocks, CrcValid stream block) :
      locateSlices framePayload stream maximum verifyCrc =
        .ok (blockDescriptors stream 0 0 blocks) := by
    have hloop := @locateLoop_located _ _ [] _ verifyCrc maximum [] h hlen hcrc
    rw [List.append_nil] at hloop
    rw [locateSlices_eq hpos hmax, hloop]
    simp only [Except.map, List.nil_append, List.reverse_reverse]
    rw [← plainDescriptors_mapIdx]
    simp only [Nat.zero_add]
  constructor
  · intro h
    have hmap := h
    rw [locateSlices_eq hpos hmax] at hmap
    cases hloop : locateLoop framePayload stream verifyCrc maximum framePayload.length [] with
    | error status =>
      rw [hloop] at hmap
      cases hmap
    | ok found =>
      have hsound := @locateLoop_sound _ _ [] verifyCrc maximum [] found
        (by rw [List.append_nil]; exact hloop)
      obtain ⟨blocks, hblocks, hlen, hcrc⟩ := hsound
      rw [hlocated hblocks hlen hcrc] at h
      exact ⟨blocks, hblocks, hlen, hcrc, (Except.ok.inj h).symm⟩
  · rintro ⟨blocks, hblocks, hlen, hcrc, rfl⟩
    exact hlocated hblocks hlen hcrc

theorem append_isSliceBlock {errorStatus : UInt8} {slicePayload : Bytes}
    (h : SliceFooterWriter.append stream errorStatus slicePayload = .ok block) :
    IsSliceBlock stream block ∧ CrcValid stream block := by
  obtain ⟨_, _, footer, _, _, _, hcrc⟩ := append_ok h
  exact ⟨isSliceBlock_iff.mpr (append_isBlock h), fun hec => (hcrc hec).2⟩

/-- Locating is the inverse of concatenating: what is accepted is a concatenation of
slice blocks, its decomposition is unique, footers that were appended are always found,
and of several wrong parities the last is reported. -/
theorem locateSlices_inverts_concatenation (stream : StreamParameters) (maximum : Nat)
    (hpos : 1 ≤ maximum) (hmax : maximum < 2 ^ 32) :
    (∀ (framePayload : Bytes) (verifyCrc : Bool) (descriptors : List SliceDescriptor),
      locateSlices framePayload stream maximum verifyCrc = .ok descriptors ↔
        ∃ blocks, ConcatenatesTo stream blocks framePayload ∧ blocks.length ≤ maximum ∧
          (verifyCrc = true → ∀ block ∈ blocks, CrcValid stream block) ∧
          descriptors = blockDescriptors stream 0 0 blocks) ∧
    (∀ (framePayload : Bytes) (blocks blocks' : List Bytes),
      ConcatenatesTo stream blocks framePayload → ConcatenatesTo stream blocks' framePayload →
        blocks = blocks') ∧
    (∀ (slices : List (UInt8 × Bytes)) (blocks : List Bytes) (verifyCrc : Bool),
      List.Forall₂ (fun slice block =>
        SliceFooterWriter.append stream slice.1 slice.2 = .ok block) slices blocks →
      slices.length ≤ maximum →
        locateSlices blocks.flatten stream maximum verifyCrc =
          .ok (blockDescriptors stream 0 0 blocks)) ∧
    (∀ (init tail : List Bytes) (wrong : Bytes),
      (∀ block ∈ init ++ wrong :: tail, IsSliceBlock stream block) →
      (init ++ wrong :: tail).length ≤ maximum → ¬CrcValid stream wrong →
      (∀ block ∈ tail, CrcValid stream block) →
        ∃ status, locateSlices (init ++ wrong :: tail).flatten stream maximum true =
            .error status ∧
          status.code = .crcMismatch ∧ status.location.sliceIndex = some init.length) := by
  refine ⟨fun _ verifyCrc descriptors => locateSlices_ok_iff hpos hmax verifyCrc descriptors,
    ?_, ?_, ?_⟩
  · intro framePayload blocks blocks' h h'
    exact (concatenatesTo_iff.mp h).unique (concatenatesTo_iff.mp h')
  · intro slices blocks verifyCrc hwritten hlen
    have hall : ∀ block ∈ blocks, IsSliceBlock stream block ∧ CrcValid stream block := by
      induction hwritten with
      | nil => exact fun _ h => absurd h List.not_mem_nil
      | cons hblock _ ih =>
        rw [List.length_cons] at hlen
        exact List.forall_mem_cons.mpr ⟨append_isSliceBlock hblock, ih (by omega)⟩
    refine (locateSlices_ok_iff hpos hmax verifyCrc _).mpr
      ⟨blocks, ⟨rfl, fun block hb => (hall block hb).1⟩, ?_, fun _ block hb => (hall block hb).2, rfl⟩
    rwa [← hwritten.length_eq]
  · intro init tail wrong hblocks hlen hwrong htail
    obtain ⟨status, hloop, hcode, hindex⟩ := @locateLoop_wrong _ _ _ [] maximum [] _ _
      ⟨rfl, hblocks⟩ hlen hwrong htail
    rw [List.append_nil] at hloop
    refine ⟨status, ?_, hcode, hindex⟩
    rw [locateSlices_eq hpos hmax, hloop]
    rfl

/-- Two slices with parity. -/
theorem locateSlices_inverts_two_slices :
    ∃ first second,
      SliceFooterWriter.append { errorStatusEnabled := true } 0 [1, 2] = .ok first ∧
      SliceFooterWriter.append { errorStatusEnabled := true } 1 [] = .ok second ∧
      locateSlices (first ++ second) { errorStatusEnabled := true } 2 true =
        .ok (blockDescriptors { errorStatusEnabled := true } 0 0 [first, second]) := by
  obtain ⟨first, hfirst⟩ : ∃ block, SliceFooterWriter.append { errorStatusEnabled := true } 0 [1, 2] =
    .ok block := ⟨_, rfl⟩
  obtain ⟨second, hsecond⟩ : ∃ block, SliceFooterWriter.append { errorStatusEnabled := true } 1 [] =
    .ok block := ⟨_, rfl⟩
  obtain ⟨-, -, hfound, -⟩ := locateSlices_inverts_concatenation { errorStatusEnabled := true } 2
    (by decide) (by decide)
  have hlocated := hfound [(0, [1, 2]), (1, [])] [first, second] true
    (.cons hfirst (.cons hsecond .nil)) (by decide)
  exact ⟨first, second, hfirst, hsecond, by simpa using hlocated⟩

end Mffv1
