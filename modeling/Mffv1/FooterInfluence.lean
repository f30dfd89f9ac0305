import Mffv1.DamagedFrames

/-!
# The influence of the footers

Frames that differ in the error statuses and parities of their footers only are decoded alike
where their first slice has a body. The footer of a slice without one is at the offset 0 of a
frame and of the size 0, as if there were none: there the decoder reads on into the footer.
-/
namespace Mffv1

/-- Frames that differ in the error statuses and parities of the slice footers. -/
def DifferInFooters (stream : StreamParameters) (payload payload' : Bytes) : Prop :=
  ∃ blocks blocks', ConcatenatesTo stream blocks payload ∧ blocks'.flatten = payload' ∧
    List.Forall₂ SameBlock blocks blocks'

/-- The first slice of a frame is more than its footer. -/
def FirstSliceHasBody (stream : StreamParameters) (payload : Bytes) : Prop :=
  ∀ blocks, ConcatenatesTo stream blocks payload → HasBody 0 blocks

section Frames

variable {stream : StreamParameters} {payload payload' : Bytes} {decoder : Decoder}

/-- Such blocks end with their sizes, or with error statuses that are reserved. -/
theorem readable_of_sameBlocks (hec : stream.errorStatusEnabled = true) {blocks blocks' : List Bytes}
    (hblocks : ∀ block ∈ blocks, IsSliceBlock stream block)
    (hsame : List.Forall₂ SameBlock blocks blocks') :
    ∀ block ∈ blocks', (sliceFraming stream).IsBlock block ∨
      (sliceFraming stream).Unreadable block := by
  induction hsame with
  | nil => exact fun block hblock => absurd hblock List.not_mem_nil
  | cons hfirst _ ih =>
    obtain ⟨hblock, hrest⟩ := List.forall_mem_cons.mp hblocks
    exact List.forall_mem_cons.mpr ⟨readable_of_size hec hblock hfirst.length
      (hfirst.size_eq (size_of_isSliceBlock hec hblock).1), ih hrest⟩

/-- What is read of the second frame are the blocks of the first one. -/
theorem DifferInFooters.exists_blocks (h : DifferInFooters stream payload payload')
    (hec : stream.errorStatusEnabled = true) (hversion : 3 ≤ stream.version)
    (hstream : decoder.stream = some stream) {read : StreamParameters × FrameDecodeContext}
    (hread : decoder.readFrame payload' = .ok read) :
    ∃ blocks blocks', ConcatenatesTo stream blocks payload ∧
      ConcatenatesTo stream blocks' payload' ∧ List.Forall₂ SameBlock blocks blocks' := by
  obtain ⟨blocks, blocks', hblocks, rfl, hsame⟩ := h
  obtain ⟨found, hfound, -⟩ := Decoder.readFrame_blocks hstream hversion hread
  obtain rfl := (concatenatesTo_iff.mp hfound).eq_of_readable
    (readable_of_sameBlocks hec hblocks.2 hsame)
  exact ⟨blocks, found, hblocks, hfound, hsame⟩

/-- Two frames that a decoder accepts without a check of their parities, and that differ in the
data of their footers only, leave the same samples and the same reference states. -/
theorem footers_without_influence {run next next' : Decoder.Run}
    (hstream : run.decoder.stream = some stream) (hversion : 3 ≤ stream.version)
    (hec : stream.errorStatusEnabled = true) (hverify : run.decoder.options.verifyCrc = false)
    (hdiffer : DifferInFooters stream payload payload') (hbody : FirstSliceHasBody stream payload)
    {hardwareConcurrency : Nat} {order : List Nat} {output : FrameView}
    (h : Decoder.decodeFrame hardwareConcurrency order payload output run = .ok () next)
    (h' : Decoder.decodeFrame hardwareConcurrency order payload' output run = .ok () next') :
    next' = next := by
  obtain ⟨frame, hread, hvalid⟩ := decodeFrame_validated hstream h
  obtain ⟨frame', hread', -⟩ := decodeFrame_validated hstream h'
  obtain ⟨blocks, blocks', hblocks, hblocks', hsame⟩ :=
    hdiffer.exists_blocks hec hversion hstream hread'
  obtain ⟨hfooted, other, hother, hkeyframe, hsames⟩ := readFrame_same hstream hversion hec hverify
    hblocks hblocks' hsame (hbody blocks hblocks) hread hvalid
  rw [decodeFrame_congr hread hother fun threadCount => by
    rw [hkeyframe]
    exact SliceExecutor.decode_same hsames hfooted threadCount order output frame.keyframe, h] at h'
  exact (EStateM.Result.ok.inj h').2.symm

end Frames

/-- The halves with other error statuses and parities. -/
theorem footers_without_influence_halves :
    Mirror.finalState (Decoder.decodeFrame 8 [1, 0]
      (protectedHalvesBlocks [0, 1, 2, 3, 4] [2, 7, 7, 7, 7]).flatten halvesOutput
      protectedHalvesRun) =
    Mirror.finalState (Decoder.decodeFrame 8 [1, 0]
      (protectedHalvesBlocks [0, 0, 0, 0, 0] [0, 0, 0, 0, 0]).flatten halvesOutput
      protectedHalvesRun) := by
  have hblocks : ConcatenatesTo protectedHalves
      (protectedHalvesBlocks [0, 0, 0, 0, 0] [0, 0, 0, 0, 0]) _ :=
    protectedHalves_blocks (by decide) (by decide)
  have hdiffer : DifferInFooters protectedHalves
      (protectedHalvesBlocks [0, 0, 0, 0, 0] [0, 0, 0, 0, 0]).flatten
      (protectedHalvesBlocks [0, 1, 2, 3, 4] [2, 7, 7, 7, 7]).flatten :=
    ⟨_, _, hblocks, rfl, .cons ⟨rfl, rfl⟩ (.cons ⟨rfl, rfl⟩ .nil)⟩
  have hbody : FirstSliceHasBody protectedHalves
      (protectedHalvesBlocks [0, 0, 0, 0, 0] [0, 0, 0, 0, 0]).flatten := by
    intro blocks hfound
    obtain rfl := (concatenatesTo_iff.mp hfound).unique (concatenatesTo_iff.mp hblocks)
    exact .inr (by decide)
  exact footers_without_influence rfl (by decide) rfl rfl hdiffer hbody
    (Mirror.eq_ok_of_succeeded (by decide +kernel)) (Mirror.eq_ok_of_succeeded (by decide +kernel))

/-- Three slices on a grid of nine cells. -/
def corneredStream : StreamParameters :=
  { width := 3, height := 3, numHSlices := 3, numVSlices := 3, chromaPlanes := false
    errorStatusEnabled := true, quantTableSets := [makeZeroQuantTableSet, makeZeroQuantTableSet] }

def corneredOutput : FrameView :=
  { planes := some [{ hasData := true, info := makePlaneInfo corneredStream 0 }], planeCount := 1 }

def corneredRun : Decoder.Run :=
  { decoder := { options := { threadCount := 1, verifyCrc := false }, stream := some corneredStream }
    memory := SliceExecutor.emptyMemory }

/-- The slices of the upper row and of the left column. -/
def corneredSlices : List Bytes :=
  [[207, 7, 49, 0, 0, 0, 0, 0, 6, 0, 0, 0, 0, 0], [146, 110, 50, 0, 0, 0, 0, 0, 6, 0, 0, 0, 0, 0]]

def corneredKeyframe : Bytes :=
  ([127, 128, 0, 0, 0, 0, 0, 0, 0, 7, 0, 0, 0, 0, 0] :: corneredSlices).flatten

/-- The first slice is nothing but its footer, with this parity. -/
def corneredInter (crc : Bytes) : Bytes := (([0, 0, 0, 0] ++ crc) :: corneredSlices).flatten

def corneredReached : Decoder.Run :=
  Mirror.finalState (Decoder.decodeFrame 1 [] corneredKeyframe corneredOutput corneredRun)

def corneredDecoded (crc : Bytes) : Decoder.Run :=
  Mirror.finalState (Decoder.decodeFrame 1 [] (corneredInter crc) corneredOutput corneredReached)

/-- The parity of a slice without a body is decoded as its samples. -/
theorem parity_read_as_content :
    Decoder.decodeFrame 1 [] corneredKeyframe corneredOutput corneredRun =
      .ok () corneredReached ∧
    DifferInFooters corneredStream (corneredInter [0, 0, 0, 0])
      (corneredInter [255, 255, 255, 255]) ∧
    Decoder.decodeFrame 1 [] (corneredInter [0, 0, 0, 0]) corneredOutput corneredReached =
      .ok () (corneredDecoded [0, 0, 0, 0]) ∧
    Decoder.decodeFrame 1 [] (corneredInter [255, 255, 255, 255]) corneredOutput corneredReached =
      .ok () (corneredDecoded [255, 255, 255, 255]) ∧
    (corneredDecoded [0, 0, 0, 0]).memory 0 8 = 3 ∧
    (corneredDecoded [255, 255, 255, 255]).memory 0 8 = 1 := by
  have hblock (body crc : Bytes) (hbody : body.length ≤ 7) (hcrc : crc.length = 4) :
      IsSliceBlock corneredStream
        (body ++ SliceFooterWriter.bigEndian24 body.length ++ 0 :: crc) := by
    have hshort : 7 ≤ SliceFooterWriter.maximumSliceSize := by decide
    exact ⟨body, by omega, 0, crc, by decide, hcrc, rfl⟩
  have hblocks : ConcatenatesTo corneredStream ([0, 0, 0, 0, 0, 0, 0, 0] :: corneredSlices)
      (corneredInter [0, 0, 0, 0]) :=
    ⟨rfl, List.forall_mem_cons.mpr ⟨hblock [] [0, 0, 0, 0] (by decide) rfl,
      List.forall_mem_cons.mpr ⟨hblock [207, 7, 49, 0, 0, 0] [0, 0, 0, 0] (by decide) rfl,
        List.forall_mem_singleton.mpr
          (hblock [146, 110, 50, 0, 0, 0] [0, 0, 0, 0] (by decide) rfl)⟩⟩⟩
  have hruns : Mirror.succeeded (Decoder.decodeFrame 1 [] corneredKeyframe corneredOutput
        corneredRun) = true ∧
      Mirror.succeeded (Decoder.decodeFrame 1 [] (corneredInter [0, 0, 0, 0]) corneredOutput
        corneredReached) = true ∧
      Mirror.succeeded (Decoder.decodeFrame 1 [] (corneredInter [255, 255, 255, 255])
        corneredOutput corneredReached) = true ∧
      (corneredDecoded [0, 0, 0, 0]).memory 0 8 = 3 ∧
      (corneredDecoded [255, 255, 255, 255]).memory 0 8 = 1 := by
    decide +kernel
  obtain ⟨hreached, hplain, hother, hdecoded⟩ := hruns
  exact ⟨Mirror.eq_ok_of_succeeded hreached,
    ⟨_, _, hblocks, rfl, .cons ⟨rfl, rfl⟩ (.cons ⟨rfl, rfl⟩ (.cons ⟨rfl, rfl⟩ .nil))⟩,
    Mirror.eq_ok_of_succeeded hplain, Mirror.eq_ok_of_succeeded hother, hdecoded⟩

end Mffv1
