import Mffv1.FrameParser
import Mffv1.SliceHeaderRoundTrip

/-!
# The boundary behind a slice header

A header has no terminator. The coder that has read it back has taken in exactly the
bytes of the header, so that its window is empty where the content begins.
-/
namespace Mffv1

def SliceDescriptor.headerValues (slice : SliceDescriptor) : SliceHeaderValues where
  x := slice.rasterX
  y := slice.rasterY
  width := slice.rasterWidth
  height := slice.rasterHeight
  quantTableSetIndexes := slice.quantTableSetIndexes
  pictureStructure := slice.pictureStructure
  sarNum := slice.sarNum
  sarDen := slice.sarDen

theorem applyRaster_headerValues {stream : StreamParameters} {values : SliceHeaderValues}
    {descriptor slice : SliceDescriptor}
    (h : SliceHeaderParser.applyRaster stream values descriptor = .ok slice) :
    slice.headerValues = values := by
  simp only [SliceHeaderParser.applyRaster, except_bind_ok, exists_unit, failIf_ok_iff] at h
  obtain ⟨-, -, -, -, -, hslice⟩ := h
  obtain rfl := Except.ok.inj hslice
  rfl

/-- Placing a header does not look at the descriptor that it fills. -/
theorem applyRaster_other {stream : StreamParameters} {values : SliceHeaderValues}
    {descriptor slice : SliceDescriptor}
    (h : SliceHeaderParser.applyRaster stream values descriptor = .ok slice)
    (other : SliceDescriptor) :
    ∃ placed, SliceHeaderParser.applyRaster stream values other = .ok placed := by
  simp only [SliceHeaderParser.applyRaster, except_bind_ok, exists_unit, failIf_ok_iff] at h ⊢
  obtain ⟨hdims, hrect, hne, hindexes, hpicture, -⟩ := h
  exact ⟨_, hdims, hrect, hne, hindexes, hpicture, rfl⟩

section Parsing

variable {stream : StreamParameters} {values : SliceHeaderValues} {located : SliceDescriptor}
  {sliceIndex : Nat} {keyframe flag : Bool} {start reader : RangeCoder}

theorem readDescriptor_of_read {descriptor placed : SliceDescriptor}
    (hread : SliceHeaderParser.read stream start = .ok values reader)
    (hplaced : SliceHeaderParser.applyRaster stream values descriptor = .ok placed) :
    SliceHeaderParser.readDescriptor stream descriptor start =
      .ok { placed with
        headerByteOffset := start.bytePosition
        contentByteOffset := reader.bytePosition
        payloadByteOffset := start.bytePosition } reader := by
  unfold SliceHeaderParser.readDescriptor
  rw [Mirror.get_bind, Mirror.bind_ok hread]
  simp only [hplaced]
  rfl

/-- Where the parser takes the content of a slice to begin. -/
def contentPosition (stream : StreamParameters) (headerReader : RangeCoder) : Nat :=
  if stream.entropyMode = .golombRice then golombRiceContentBytePosition headerReader
  else headerReader.bytePosition

theorem readFrameKeyframe_of_read {middle : RangeCoder}
    (hread : (do
      let keyframe ← RangeCoder.readBool
      RangeCoder.reconfigureContexts [1] []
      return keyframe : Call RangeCoder Bool) start = .ok keyframe middle)
    (hintra : keyframe = false → stream.intraOnly = false) :
    FrameParser.readFrameKeyframe stream located start = .ok keyframe middle := by
  simp only [Mirror.bind_ok_iff, Mirror.pure_apply, EStateM.Result.ok.injEq] at hread
  obtain ⟨coded, after, hbool, _, last, hcontexts, rfl, rfl⟩ := hread
  have hkeyframe : FrameParser.validateKeyframe stream coded located.payloadByteOffset =
      .ok () := by
    refine failIf_of_not fun h => ?_
    rw [hintra h.1] at h
    exact Bool.false_ne_true h.2
  unfold FrameParser.readFrameKeyframe
  refine Mirror.bind_ok_iff.mpr ⟨coded, after, Mirror.adaptExcept_ok_iff.mpr hbool, ?_⟩
  refine Mirror.bind_ok_iff.mpr ⟨(), after, Mirror.adaptExcept_ok_iff.mpr
    (Mirror.ofExcept_ok_iff.mpr ⟨hkeyframe, rfl⟩), ?_⟩
  exact Mirror.bind_ok_iff.mpr ⟨(), last, Mirror.adaptExcept_ok_iff.mpr hcontexts, rfl⟩

/-- The parser of a located slice, on a coder that reads a start of a slice. -/
theorem parseLocatedSlice_of_start
    (hreset : RangeCoder.resetSingle located.payload stream.stateTransition {} = .ok () start)
    (hread : readStart stream (decide (sliceIndex = 0)) flag start = .ok (keyframe, values) reader)
    (hintra : sliceIndex = 0 → keyframe = false → stream.intraOnly = false)
    (hplaced : ∃ slice, SliceHeaderParser.applyRaster stream values {} = .ok slice)
    (hroom : contentPosition stream reader ≤ located.payload.length) :
    ∃ parsed, FrameParser.parseLocatedSlice stream sliceIndex flag located {} =
        .ok (keyframe, FrameParser.placeHeader located parsed (contentPosition stream reader))
          reader ∧
      parsed.headerValues = values ∧ Placed stream parsed := by
  obtain ⟨slice, hslice⟩ := hplaced
  obtain ⟨placed, hplaced⟩ := applyRaster_other hslice { index := located.index }
  obtain ⟨coded, middle, hflag, hvalues⟩ := Mirror.bind_ok_iff.mp hread
  simp only [Mirror.bind_ok_iff, Mirror.pure_apply, EStateM.Result.ok.injEq, Prod.mk.injEq] at hvalues
  obtain ⟨_, reader, hheader, ⟨rfl, rfl⟩, rfl⟩ := hvalues
  have hdescriptor := readDescriptor_of_read hheader hplaced
  have hkeyframe {β : Type} (f : Bool → Call RangeCoder β) :
      (if sliceIndex = 0 then FrameParser.readFrameKeyframe stream located >>= f
        else pure flag >>= f) start = f coded middle := by
    by_cases hfirst : sliceIndex = 0
    · simp only [hfirst, decide_true, if_true] at hflag ⊢
      exact Mirror.bind_ok (readFrameKeyframe_of_read hflag (hintra hfirst))
    · simp only [hfirst, decide_false, if_false, Bool.false_eq_true] at hflag ⊢
      exact Mirror.bind_ok hflag
  have hheaderValues := applyRaster_headerValues hplaced
  refine ⟨{ placed with
    headerByteOffset := middle.bytePosition
    contentByteOffset := reader.bytePosition
    payloadByteOffset := middle.bytePosition }, ?_, hheaderValues,
    { applyRaster_placed hplaced with }⟩
  unfold FrameParser.parseLocatedSlice
  refine Mirror.bind_ok_iff.mpr ⟨(), start, Mirror.adaptExcept_ok_iff.mpr hreset, ?_⟩
  refine (hkeyframe _).trans ?_
  refine Mirror.bind_ok_iff.mpr ⟨_, _, Mirror.adaptExcept_ok_iff.mpr hdescriptor, ?_⟩
  rw [Mirror.get_bind]
  simp only [contentPosition] at hroom ⊢
  rw [failIf_of_not (Nat.not_lt.mpr hroom)]
  rfl

end Parsing

/-- The window of a coder that stands behind the bytes of `finalize` shows no byte ahead. -/
theorem golombRiceContentBytePosition_of_low {reader : RangeCoder} (h : reader.low = 0) :
    golombRiceContentBytePosition reader = reader.bytePosition := by
  unfold golombRiceContentBytePosition RangeCoder.arithmeticState
  simp [h]

/-- The header of a written slice is read back with its flag, and its content is found to
begin behind the bytes that `finalize` made of the header. -/
theorem parseLocatedSlice_recovers_boundary {stream : StreamParameters} {header : SliceHeaderValues}
    {located : SliceDescriptor} {sliceIndex : Nat} {keyframe : Bool} {headerBytes content payload : Bytes}
    {closed : RangeEncoder} (flag : Bool) (hmode : stream.entropyMode = .golombRice)
    (hindexes : ∀ index ∈ header.quantTableSetIndexes, index < 2 ^ 32)
    (hintra : sliceIndex = 0 → keyframe = false → stream.intraOnly = false)
    (hheader : (do
      SliceEncoder.writeHeader stream header (decide (sliceIndex = 0)) keyframe
      RangeEncoder.finalize : Call RangeEncoder Bytes) {} = .ok headerBytes closed)
    (hfooter : SliceFooterWriter.append stream 0 (headerBytes ++ content) = .ok payload)
    (hlocated : located.payload = payload) :
    ∃ parsed reader,
      FrameParser.parseLocatedSlice stream sliceIndex flag located {} =
        .ok (if sliceIndex = 0 then keyframe else flag, parsed) reader ∧
      parsed.headerValues = header ∧
      golombRiceContentBytePosition reader = headerBytes.length ∧
      parsed.contentByteOffset = headerBytes.length + located.payloadByteOffset := by
  obtain ⟨_, written, hwrite, hfinalize⟩ := Mirror.bind_ok_iff.mp hheader
  obtain ⟨rfl, -⟩ := finalize_ok hfinalize
  obtain ⟨-, -, footer, rfl, -⟩ := append_ok hfooter
  rw [List.append_assoc] at hlocated
  obtain ⟨hwritable, hready⟩ := writeHeader_checked hindexes hwrite
  have hlength : written.lowBytes.length ≤ (written.lowBytes ++ (content ++ footer)).length := by
    rw [List.length_append]
    exact Nat.le_add_right _ _
  -- The flag of a later slice is not written, so that it may be any.
  have hwritten : SliceEncoder.writeHeader stream header (decide (sliceIndex = 0))
      (if sliceIndex = 0 then keyframe else flag) {} = .ok () written := by
    by_cases hfirst : sliceIndex = 0
    · simp only [hfirst, if_true] at hwrite ⊢
      exact hwrite
    · simp only [hfirst, decide_false, if_false] at hwrite ⊢
      exact hwrite
  obtain ⟨start, reader, hstart, hread, htracks⟩ := start_read_back hindexes hwritten
    (finalize_fits hready (content ++ footer)) (hready.length_ge.trans hlength)
  have hflag : readStart stream (decide (sliceIndex = 0)) flag start =
      .ok (if sliceIndex = 0 then keyframe else flag, header) reader := by
    by_cases hfirst : sliceIndex = 0
    · simp only [hfirst, decide_true, if_true] at hread ⊢
      exact hread
    · simp only [hfirst, decide_false, if_false] at hread ⊢
      exact hread
  obtain ⟨hposition, hlow⟩ := tracks_finalized htracks
  have hboundary := (golombRiceContentBytePosition_of_low hlow).trans hposition
  have hcontent : contentPosition stream reader = written.lowBytes.length := by
    rw [contentPosition, if_pos hmode, hboundary]
  obtain ⟨parsed, hparse, hvalues, -⟩ := parseLocatedSlice_of_start (hlocated ▸ hstart) hflag
    (fun hfirst hkey => hintra hfirst (by rwa [if_pos hfirst] at hkey)) hwritable.placed
    (by rw [hcontent, hlocated]; exact hlength)
  refine ⟨_, reader, hparse, hvalues, hboundary, ?_⟩
  rw [← hcontent]
  rfl

/-- A second slice of a frame, with one byte of content. -/
def lowerStream : StreamParameters :=
  { numVSlices := 2, entropyMode := .golombRice, quantTableSets := [makeZeroQuantTableSet] }

def lowerHeader : SliceHeaderValues :=
  { y := 1, width := 1, height := 1, quantTableSetIndexes := [0, 0], sarNum := 4, sarDen := 3 }

def lowerWriter : RangeEncoder :=
  Mirror.finalState (SliceEncoder.writeHeader lowerStream lowerHeader false false {})

def lowerSlice : SliceDescriptor :=
  { index := 1, payloadByteOffset := 9, payload := [156, 228, 70, 96, 255, 0, 0, 5] }

theorem parseLocatedSlice_recovers_boundary_lower :
    ∃ parsed reader,
      FrameParser.parseLocatedSlice lowerStream 1 true lowerSlice {} = .ok (true, parsed) reader ∧
      parsed.headerValues = lowerHeader ∧ golombRiceContentBytePosition reader = 4 ∧
      parsed.contentByteOffset = 4 + 9 := by
  have hwrite : SliceEncoder.writeHeader lowerStream lowerHeader false false {} = .ok () lowerWriter :=
    Mirror.eq_ok_of_succeeded (by decide +kernel)
  have hbytes : lowerWriter.lowBytes = [156, 228, 70, 96] := by decide +kernel
  have hready := (writeHeader_checked (by decide) hwrite).2
  have hparse := @parseLocatedSlice_recovers_boundary lowerStream lowerHeader lowerSlice 1 false
    [156, 228, 70, 96] [255] [156, 228, 70, 96, 255, 0, 0, 5] _ true rfl (by decide) nofun
    (Mirror.bind_ok_iff.mpr ⟨(), lowerWriter, hwrite, hbytes ▸ finalize_of_ready hready⟩)
    (by decide) rfl
  exact hparse

/-- The first slice of a frame that is no keyframe, of a stream that has keyframes only. -/
def intraStream : StreamParameters := { lowerStream with intraOnly := true }

def intraHeader : SliceHeaderValues := { lowerHeader with y := 0 }

def intraWriter : RangeEncoder :=
  Mirror.finalState (SliceEncoder.writeHeader intraStream intraHeader true false {})

def intraSlice : SliceDescriptor := { payload := [125, 189, 10, 204, 255, 0, 0, 5] }

/-- The writer of headers does not look at the frames that the stream has; the parser
refuses a flag that the stream excludes. -/
theorem intraStart_refused :
    (do
      SliceEncoder.writeHeader intraStream intraHeader true false
      RangeEncoder.finalize : Call RangeEncoder Bytes) {} =
        .ok [125, 189, 10, 204] (Mirror.finalState (RangeEncoder.finalize intraWriter)) ∧
      SliceFooterWriter.append intraStream 0 ([125, 189, 10, 204] ++ [255]) =
        .ok intraSlice.payload ∧
      Mirror.failure (FrameParser.parseLocatedSlice intraStream 0 false intraSlice {}) =
        some { code := .syntaxError
               message := "non-keyframe is invalid for an intra-only stream"
               location := { byteOffset := some 0, sliceIndex := some 0 } } := by
  have hwrite : SliceEncoder.writeHeader intraStream intraHeader true false {} =
      .ok () intraWriter := Mirror.eq_ok_of_succeeded (by decide +kernel)
  have hbytes : intraWriter.lowBytes = [125, 189, 10, 204] := by decide +kernel
  have hready := (writeHeader_checked (by decide) hwrite).2
  have hclosed := hbytes ▸ finalize_of_ready hready
  refine ⟨Mirror.bind_ok_iff.mpr ⟨(), intraWriter, hwrite, ?_⟩, by decide, by decide +kernel⟩
  rw [hclosed]
  rfl

end Mffv1
