import Mffv1.CorruptionDetection
import Mffv1.FooterData

/-!
# Damaged frames

Where the parities are checked, a frame with slices that are each damaged within thirty-two
consecutive bits is refused before anything of it is decoded, as long as the sizes are intact
that the slices are found by.
-/
namespace Mffv1

open ShiftRegister (Burst)

/-- Damage within thirty-two consecutive bits of a block, but not to its size. -/
structure BlockDamage (block pattern : Bytes) : Prop where
  length : block.length = pattern.length
  burst : Burst 32 (BitString.bits pattern)
  size : (pattern.drop (pattern.length - 8)).take 3 = [0, 0, 0]

/-- A block that may be damaged. -/
inductive MaybeDamaged (block : Bytes) : Bytes → Prop
  | intact : MaybeDamaged block block
  | damaged {pattern : Bytes} (h : BlockDamage block pattern) :
    MaybeDamaged block (corrupted block pattern)

section Blocks

variable {stream : StreamParameters} {block block' pattern : Bytes}

theorem footerSize_protected (hec : stream.errorStatusEnabled = true) :
    SliceFooterParser.footerSize stream = 8 := by
  unfold SliceFooterParser.footerSize
  rw [hec]
  rfl

theorem corrupted_zeros {bytes : Bytes} (h : bytes.length = 3) :
    corrupted bytes [0, 0, 0] = bytes := by
  obtain ⟨a, b, c, rfl⟩ := List.length_eq_three.mp h
  simp [corrupted]

/-- The size of a damaged block is still the one in its footer. -/
theorem BlockDamage.size_eq (h : BlockDamage block pattern) (hlong : 8 ≤ block.length) :
    ((corrupted block pattern).drop (block.length - 8)).take 3 =
      (block.drop (block.length - 8)).take 3 := by
  have hlength : ((block.drop (block.length - 8)).take 3).length = 3 := by
    rw [List.length_take, List.length_drop]
    omega
  have hsize := h.size
  rw [← h.length] at hsize
  unfold corrupted
  rw [List.drop_zipWith, List.take_zipWith, hsize]
  exact corrupted_zeros hlength

/-- The block of a footer and of the bytes that its size says. -/
theorem isBlock_of_size (hec : stream.errorStatusEnabled = true) (hlong : 8 ≤ block.length)
    (hsize : footerBodySize stream (block.drop (block.length - 8)) = some (block.length - 8)) :
    (sliceFraming stream).IsBlock block := by
  refine ⟨block.take (block.length - 8), block.drop (block.length - 8),
    (List.take_append_drop _ _).symm, ?_, ?_⟩
  · change _ = SliceFooterParser.footerSize stream
    rw [footerSize_protected hec, List.length_drop]
    omega
  · change footerBodySize stream _ = _
    rw [hsize, List.length_take, Nat.min_eq_left (Nat.sub_le _ _)]

/-- The size of a block, where it is read. -/
theorem size_of_isSliceBlock (hec : stream.errorStatusEnabled = true)
    (h : IsSliceBlock stream block) : 8 ≤ block.length ∧
      ByteValue.value ((block.drop (block.length - 8)).take 3) = block.length - 8 := by
  obtain ⟨body, footer, rfl, hlength, hsize⟩ := isSliceBlock_iff.mp h
  change footer.length = SliceFooterParser.footerSize stream at hlength
  change footerBodySize stream footer = some body.length at hsize
  rw [footerSize_protected hec] at hlength
  have hbody : (body ++ footer).length - 8 = body.length := by
    rw [List.length_append]
    omega
  rw [hbody, List.drop_left]
  exact ⟨by rw [List.length_append]; omega, footerBodySize_some hsize⟩

/-- A block that takes over the size of another one ends with its size, or with an error status
that is reserved. -/
theorem readable_of_size (hec : stream.errorStatusEnabled = true)
    (hblock : IsSliceBlock stream block) (hlength : block'.length = block.length)
    (hsize : (block'.drop (block'.length - 8)).take 3 = (block.drop (block.length - 8)).take 3) :
    (sliceFraming stream).IsBlock block' ∨ (sliceFraming stream).Unreadable block' := by
  obtain ⟨hlong, hvalue⟩ := size_of_isSliceBlock hec hblock
  have hlong' : 8 ≤ block'.length := hlength ▸ hlong
  cases hread : footerBodySize stream (block'.drop (block'.length - 8)) with
  | none =>
    refine .inr ⟨?_, ?_⟩
    · change SliceFooterParser.footerSize stream ≤ _
      rw [footerSize_protected hec]
      exact hlong'
    · change footerBodySize stream
        (block'.drop (block'.length - SliceFooterParser.footerSize stream)) = none
      rw [footerSize_protected hec]
      exact hread
  | some size =>
    have hfound := footerBodySize_some hread
    rw [hsize, hvalue] at hfound
    refine .inl (isBlock_of_size hec hlong' ?_)
    rw [hread, hlength, hfound]

theorem BlockDamage.readable (hec : stream.errorStatusEnabled = true)
    (h : BlockDamage block pattern) (hblock : IsSliceBlock stream block) :
    (sliceFraming stream).IsBlock (corrupted block pattern) ∨
      (sliceFraming stream).Unreadable (corrupted block pattern) := by
  have hlength := corrupted_length h.length
  refine readable_of_size hec hblock hlength ?_
  rw [hlength]
  exact h.size_eq (size_of_isSliceBlock hec hblock).1

/-- Damage is seen by the parity. -/
theorem BlockDamage.crc_ne_zero (hec : stream.errorStatusEnabled = true)
    (h : BlockDamage block pattern) (hcrc : CrcValid stream block) :
    ¬CrcValid stream (corrupted block pattern) :=
  fun hdamaged => crc32_corrupted h.length h.burst (hcrc hec) (hdamaged hec)

end Blocks

section Frames

variable {stream : StreamParameters} {blocks damaged : List Bytes}

theorem readable_of_maybeDamaged (hec : stream.errorStatusEnabled = true)
    (hblocks : ∀ block ∈ blocks, IsSliceBlock stream block)
    (hdamage : List.Forall₂ MaybeDamaged blocks damaged) :
    ∀ block ∈ damaged, (sliceFraming stream).IsBlock block ∨
      (sliceFraming stream).Unreadable block := by
  induction hdamage with
  | nil => exact fun block hblock => absurd hblock List.not_mem_nil
  | cons hfirst _ ih =>
    obtain ⟨hblock, hrest⟩ := List.forall_mem_cons.mp hblocks
    refine List.forall_mem_cons.mpr ⟨?_, ih hrest⟩
    cases hfirst with
    | intact => exact .inl (isSliceBlock_iff.mp hblock)
    | damaged h => exact h.readable hec hblock

/-- One of the slices is damaged. -/
theorem exists_damaged (hec : stream.errorStatusEnabled = true)
    (hcrc : ∀ block ∈ blocks, CrcValid stream block)
    (hdamage : List.Forall₂ MaybeDamaged blocks damaged) (hsome : damaged ≠ blocks) :
    ∃ block ∈ damaged, ¬CrcValid stream block := by
  induction hdamage with
  | nil => exact absurd rfl hsome
  | @cons block block' blocks damaged hfirst _ ih =>
    obtain ⟨hblock, hrest⟩ := List.forall_mem_cons.mp hcrc
    cases hfirst with
    | intact =>
      obtain ⟨other, hmem, hother⟩ := ih hrest fun heq => hsome (heq ▸ rfl)
      exact ⟨other, List.mem_cons_of_mem _ hmem, hother⟩
    | damaged h => exact ⟨_, List.mem_cons_self, h.crc_ne_zero hec hblock⟩

/-- A frame that is read consists of blocks, which are not damaged where they are checked. -/
theorem Decoder.readFrame_blocks {decoder : Decoder} (hstream : decoder.stream = some stream)
    (hversion : 3 ≤ stream.version) {payload : Bytes} {read : StreamParameters × FrameDecodeContext}
    (h : decoder.readFrame payload = .ok read) :
    ∃ blocks, ConcatenatesTo stream blocks payload ∧
      (decoder.options.verifyCrc = true → ∀ block ∈ blocks, CrcValid stream block) := by
  unfold Decoder.readFrame at h
  simp only [hstream, except_bind_ok, exists_unit] at h
  obtain ⟨-, -, frame, hparse, -⟩ := h
  unfold Decoder.parseFrame at hparse
  rw [if_pos hversion] at hparse
  simp only [FrameParser.parseWithRangeHeader, FrameParser.parseLocatedRangeSlices,
    except_bind_ok] at hparse
  obtain ⟨_, _, located, hlocated, -⟩ := hparse
  have hlimits : 1 ≤ FrameParser.maximumSliceCount stream ∧
      FrameParser.maximumSliceCount stream < 2 ^ 32 := by
    simp only [SlicePayloadLocator.locateSlices, except_bind_ok, exists_unit, failIf_ok_iff]
      at hlocated
    obtain ⟨hpos, hmax, -⟩ := hlocated
    omega
  obtain ⟨blocks, hblocks, -, hcrc, -⟩ :=
    (locateSlices_ok_iff hlimits.1 hlimits.2 _ located).mp hlocated
  exact ⟨blocks, hblocks, hcrc⟩

theorem Decoder.readFrame_damaged {decoder : Decoder} (hstream : decoder.stream = some stream)
    (hversion : 3 ≤ stream.version) (hec : stream.errorStatusEnabled = true)
    (hverify : decoder.options.verifyCrc = true)
    (hblocks : ∀ block ∈ blocks, IsSliceBlock stream block ∧ CrcValid stream block)
    (hdamage : List.Forall₂ MaybeDamaged blocks damaged) (hsome : damaged ≠ blocks) :
    ∃ status, decoder.readFrame damaged.flatten = .error status := by
  cases hread : decoder.readFrame damaged.flatten with
  | error status => exact ⟨status, rfl⟩
  | ok read =>
    obtain ⟨found, hfound, hcrc⟩ := readFrame_blocks hstream hversion hread
    have hreadable := readable_of_maybeDamaged hec (fun block hmem => (hblocks block hmem).1) hdamage
    obtain rfl := (concatenatesTo_iff.mp hfound).eq_of_readable hreadable
    obtain ⟨block, hmem, hwrong⟩ :=
      exists_damaged hec (fun block hmem => (hblocks block hmem).2) hdamage hsome
    exact absurd (hcrc hverify block hmem) hwrong

/-- A frame of slices that may be damaged, each within thirty-two consecutive bits, is neither
inspected nor decoded, and it leaves the decoder and its output as they were. -/
theorem damaged_frame_refused {run : Decoder.Run} (hstream : run.decoder.stream = some stream)
    (hversion : 3 ≤ stream.version) (hec : stream.errorStatusEnabled = true)
    (hverify : run.decoder.options.verifyCrc = true)
    (hblocks : ∀ block ∈ blocks, IsSliceBlock stream block ∧ CrcValid stream block)
    (hdamage : List.Forall₂ MaybeDamaged blocks damaged) (hsome : damaged ≠ blocks)
    (hardwareConcurrency : Nat) (order : List Nat) (output : FrameView) :
    ∃ status,
      Decoder.decodeFrame hardwareConcurrency order damaged.flatten output run =
        .error status run ∧
      run.decoder.inspectFrame damaged.flatten = .error status := by
  obtain ⟨status, hread⟩ := Decoder.readFrame_damaged hstream hversion hec hverify hblocks hdamage
    hsome
  refine ⟨status, ?_, ?_⟩
  · unfold Decoder.decodeFrame
    rw [Mirror.get_bind, hread]
    rfl
  · unfold Decoder.inspectFrame
    rw [hread]
    rfl

end Frames

/-- Two slices with parities, which the decoder checks. -/
def checkedHalvesRun : Decoder.Run :=
  { decoder := { options := { threadCount := 2 }, stream := some protectedHalves }
    memory := SliceExecutor.emptyMemory }

def checkedLeft : Bytes := [254, 120, 115, 0, 0, 3, 0, 187, 66, 196, 125]

def checkedRight : Bytes := [63, 116, 29, 0, 0, 3, 0, 14, 5, 172, 174]

/-- In the content of the slice. -/
def leftDamage : Bytes := [0, 1, 128, 0, 0, 0, 0, 0, 0, 0, 0]

/-- The error status becomes a reserved one. -/
def rightDamage : Bytes := [0, 0, 0, 0, 0, 0, 3, 255, 0, 1, 0]

theorem leftDamage_block : BlockDamage checkedLeft leftDamage :=
  ⟨rfl, Burst.of_clear 15 (by decide) (by decide) (by decide), rfl⟩

theorem rightDamage_block : BlockDamage checkedRight rightDamage :=
  ⟨rfl, Burst.of_clear 54 (by decide) (by decide) (by decide), rfl⟩

theorem checkedHalves_blocks : ∀ block ∈ [checkedLeft, checkedRight],
    IsSliceBlock protectedHalves block ∧ CrcValid protectedHalves block := by
  have hshort : 3 ≤ SliceFooterWriter.maximumSliceSize := by decide
  refine List.forall_mem_cons.mpr ⟨⟨⟨[254, 120, 115], hshort, 0, [187, 66, 196, 125], by decide,
    rfl, by decide⟩, by decide +kernel⟩, List.forall_mem_singleton.mpr ⟨⟨[63, 116, 29], hshort, 0,
      [14, 5, 172, 174], by decide, rfl, by decide⟩, by decide +kernel⟩⟩

/-- The frame is decoded where it is intact, and refused where both halves are damaged. -/
theorem damaged_frame_refused_halves :
    Mirror.succeeded (Decoder.decodeFrame 8 [1, 0] [checkedLeft, checkedRight].flatten halvesOutput
      checkedHalvesRun) = true ∧
    ∃ status,
      Decoder.decodeFrame 8 [1, 0] [corrupted checkedLeft leftDamage,
        corrupted checkedRight rightDamage].flatten halvesOutput checkedHalvesRun =
          .error status checkedHalvesRun ∧
      checkedHalvesRun.decoder.inspectFrame [corrupted checkedLeft leftDamage,
        corrupted checkedRight rightDamage].flatten = .error status :=
  ⟨by decide +kernel,
    @damaged_frame_refused protectedHalves _ _ checkedHalvesRun rfl (by decide) rfl rfl
      checkedHalves_blocks
      (.cons (.damaged leftDamage_block) (.cons (.damaged rightDamage_block) .nil)) (by decide) 8
      [1, 0] halvesOutput⟩

end Mffv1
