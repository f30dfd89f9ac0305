import Mffv1.ContentRoundTrip
import Mffv1.EncoderProgress
import Mffv1.ReadBack
import Mffv1.SliceBoundary

/-!
# The slices of a frame are read back

A cell that is encoded becomes a block: a code and a footer. The parser finds the
content behind the header of the block, and the decoder, which reads the header once
more, comes to the samples of the cell and to the state that the encoder keeps.
-/
namespace Mffv1

open SliceEncodeExecutor (cellHeader)

section Coding

variable {stream : StreamParameters} {input : FrameView} {memory : FrameMemory}
  {sliceIndex : Nat} {keyframe : Bool} {state after : SliceState} {block : Bytes}

/-- The code of a cell by the entropy mode. -/
def encodeContent (stream : StreamParameters) (memory : FrameMemory) (inputs : List PlaneWindow)
    (sliceIndex : Nat) (keyframe : Bool) (started : SliceState) : Except Error (SliceState × Bytes) :=
  match stream.entropyMode with
  | .golombRice => SliceEncoder.encodeGolombRiceSlice stream memory inputs
      (cellHeader stream sliceIndex) (decide (sliceIndex = 0)) keyframe started
  | .range => SliceEncoder.encodeRangeSlice stream memory inputs
      (cellHeader stream sliceIndex) (decide (sliceIndex = 0)) keyframe started

/-- A cell with its windows, the state that it starts from, its code and its block. -/
structure CellCoding (stream : StreamParameters) (input : FrameView) (memory : FrameMemory)
    (sliceIndex : Nat) (keyframe : Bool) (state after : SliceState) (block : Bytes)
    (inputs : List PlaneWindow) (started : SliceState) (code : Bytes) : Prop where
  windows : SliceInputWindow.validate stream input (cellSlice stream sliceIndex) = .ok inputs
  reset : state.reset stream inputs = .ok started
  content : encodeContent stream memory inputs sliceIndex keyframe started = .ok (after, code)
  footer : SliceFooterWriter.append stream 0 code = .ok block
  intra : sliceIndex = 0 → keyframe = false → stream.intraOnly = false

/-- A keyframe starts from fresh states. -/
theorem encodeCell_coding (h : ProfileStream stream) (hcell : sliceIndex < cellCount stream)
    (hfresh : keyframe = true → state = {})
    (hencode : SliceEncodeExecutor.encodeSlice stream input memory keyframe sliceIndex state =
      .ok (after, block)) :
    ∃ inputs started code,
      CellCoding stream input memory sliceIndex keyframe state after block inputs started code := by
  have hworking {working : SliceState}
      (h : SliceEncoder.workingState stream keyframe state = .ok working) : working = state := by
    unfold SliceEncoder.workingState at h
    cases hkey : keyframe with
    | true =>
      rw [hkey, if_pos rfl] at h
      rw [hfresh hkey] at h ⊢
      exact (Except.ok.inj h).symm
    | false =>
      rw [hkey, if_neg Bool.false_ne_true] at h
      simp only [except_bind_ok, exists_unit, failIf_ok_iff] at h
      exact (Except.ok.inj h.2).symm
  unfold SliceEncodeExecutor.encodeSlice SliceEncoder.encodeSlice at hencode
  rw [applyRaster_cell h.sets_ne hcell] at hencode
  simp only [except_bind_ok, exists_unit, failIf_ok_iff] at hencode
  obtain ⟨-, -, hintra, -, slice, hslice, inputs, hinputs, working, hstate, started, hreset,
    hcontent⟩ := hencode
  obtain rfl := Except.ok.inj hslice
  obtain rfl := hworking hstate
  have hkeyframe : sliceIndex = 0 → keyframe = false → stream.intraOnly = false :=
    fun hfirst hinter => Bool.eq_false_iff.mpr fun honly =>
      hintra ⟨decide_eq_true hfirst, hinter, honly⟩
  cases hmode : stream.entropyMode with
  | range =>
    rw [hmode] at hcontent
    simp only [except_bind_ok] at hcontent
    obtain ⟨⟨content, code⟩, hcode, completed, hfooter, hresult⟩ := hcontent
    obtain ⟨rfl, rfl⟩ := Prod.mk.inj (Except.ok.inj hresult)
    refine ⟨inputs, started, code, hinputs, hreset, ?_, hfooter, hkeyframe⟩
    unfold encodeContent
    rw [hmode]
    exact hcode
  | golombRice =>
    rw [hmode] at hcontent
    simp only [except_bind_ok] at hcontent
    obtain ⟨⟨content, code⟩, hcode, completed, hfooter, hresult⟩ := hcontent
    obtain ⟨rfl, rfl⟩ := Prod.mk.inj (Except.ok.inj hresult)
    refine ⟨inputs, started, code, hinputs, hreset, ?_, hfooter, hkeyframe⟩
    unfold encodeContent
    rw [hmode]
    exact hcode

end Coding

section Headers

variable {stream : StreamParameters} {located : SliceDescriptor} {sliceIndex : Nat}
  {keyframe flag : Bool} {written : RangeEncoder}

/-- The slice of a cell whose block was located, with the offsets of its header and of its
content in the block. -/
def locatedCell (stream : StreamParameters) (sliceIndex : Nat) (located : SliceDescriptor)
    (headerOffset contentOffset : Nat) : SliceDescriptor :=
  FrameParser.placeHeader located
    { cellSlice stream sliceIndex with headerByteOffset := headerOffset } contentOffset

variable {headerOffset contentOffset : Nat}

theorem locatedCell_placed (hsets : stream.quantTableSets ≠ [])
    (hcell : sliceIndex < cellCount stream) :
    Placed stream (locatedCell stream sliceIndex located headerOffset contentOffset) :=
  { cell_placed hsets hcell with }

theorem cellHeader_indexes (stream : StreamParameters) (sliceIndex : Nat) :
    ∀ index ∈ (cellHeader stream sliceIndex).quantTableSetIndexes, index < 2 ^ 32 := by
  intro index hmem
  rw [List.eq_of_mem_replicate hmem]
  decide

theorem applyRaster_indexed (hsets : stream.quantTableSets ≠ [])
    (hcell : sliceIndex < cellCount stream) (index : Nat) :
    SliceHeaderParser.applyRaster stream (cellHeader stream sliceIndex) { index } =
      .ok { cellSlice stream sliceIndex with index } := by
  have h := applyRaster_cell hsets hcell
  simp only [SliceHeaderParser.applyRaster, except_bind_ok, exists_unit, failIf_ok_iff] at h ⊢
  obtain ⟨hdims, hrect, hne, hindexes, hpicture, -⟩ := h
  exact ⟨hdims, hrect, hne, hindexes, hpicture, rfl⟩

/-- What a coder goes through from the bytes of a cell to the end of its header. -/
structure StartRead (stream : StreamParameters) (sliceIndex : Nat) (keyframe : Bool)
    (start middle reader : RangeCoder) : Prop where
  flag : sliceIndex = 0 → ∃ coded, RangeCoder.readBool start = .ok keyframe coded ∧
    RangeCoder.reconfigureContexts [1] [] coded = .ok () middle
  later : sliceIndex ≠ 0 → middle = start
  values : SliceHeaderParser.read stream middle = .ok (cellHeader stream sliceIndex) reader

/-- The start of a cell is read from any bytes that its writer fits. -/
theorem cellStart_read {bytes : Bytes} (hwrite : SliceEncoder.writeHeader stream
      (cellHeader stream sliceIndex) (decide (sliceIndex = 0)) keyframe {} = .ok () written)
    (hfits : written.Fits bytes) (hlength : 2 ≤ bytes.length) :
    ∃ start middle reader,
      RangeCoder.resetSingle bytes stream.stateTransition {} = .ok () start ∧
        StartRead stream sliceIndex keyframe start middle reader ∧
        Tracks bytes [] written reader := by
  obtain ⟨start, reader, hstart, hread, htracks⟩ := start_read_back
    (cellHeader_indexes stream sliceIndex) hwrite hfits hlength
  obtain ⟨coded, middle, hflag, hvalues⟩ := Mirror.bind_ok_iff.mp hread
  simp only [Mirror.bind_ok_iff, Mirror.pure_apply, EStateM.Result.ok.injEq, Prod.mk.injEq]
    at hvalues
  obtain ⟨_, _, hheader, ⟨rfl, rfl⟩, rfl⟩ := hvalues
  refine ⟨start, middle, _, hstart, ⟨fun hfirst => ?_, fun hlater => ?_, hheader⟩, htracks⟩
  · simp only [hfirst, decide_true, if_true, Mirror.bind_ok_iff, Mirror.pure_apply,
      EStateM.Result.ok.injEq] at hflag
    obtain ⟨_, after, hbool, _, _, hcontexts, rfl, rfl⟩ := hflag
    exact ⟨after, hbool, hcontexts⟩
  · simp only [hlater, decide_false, if_false, Bool.false_eq_true, Mirror.pure_apply,
      EStateM.Result.ok.injEq] at hflag
    exact hflag.2.symm

variable {start middle reader : RangeCoder}

/-- The parser of a located block. -/
theorem parseLocatedSlice_cell (hsets : stream.quantTableSets ≠ [])
    (hcell : sliceIndex < cellCount stream)
    (hreset : RangeCoder.resetSingle located.payload stream.stateTransition {} = .ok () start)
    (hstart : StartRead stream sliceIndex keyframe start middle reader)
    (hintra : sliceIndex = 0 → keyframe = false → stream.intraOnly = false)
    (hflag : sliceIndex ≠ 0 → flag = keyframe)
    (hroom : contentPosition stream reader ≤ located.payload.length) :
    FrameParser.parseLocatedSlice stream sliceIndex flag located {} =
      .ok (keyframe, locatedCell stream sliceIndex located middle.bytePosition
        (contentPosition stream reader)) reader := by
  have hdescriptor := readDescriptor_of_read hstart.values
    (applyRaster_indexed hsets hcell located.index)
  have hkeyframe {β : Type} (f : Bool → Call RangeCoder β) :
      (if sliceIndex = 0 then FrameParser.readFrameKeyframe stream located >>= f
        else pure flag >>= f) start = f keyframe middle := by
    by_cases hfirst : sliceIndex = 0
    · obtain ⟨coded, hbool, hcontexts⟩ := hstart.flag hfirst
      rw [if_pos hfirst]
      refine Mirror.bind_ok (readFrameKeyframe_of_read ?_ (hintra hfirst))
      exact Mirror.bind_ok_iff.mpr ⟨keyframe, coded, hbool,
        Mirror.bind_ok_iff.mpr ⟨(), middle, hcontexts, rfl⟩⟩
    · rw [if_neg hfirst, hflag hfirst, hstart.later hfirst]
      rfl
  unfold FrameParser.parseLocatedSlice
  refine Mirror.bind_ok_iff.mpr ⟨(), start, Mirror.adaptExcept_ok_iff.mpr hreset, ?_⟩
  refine (hkeyframe _).trans ?_
  refine Mirror.bind_ok_iff.mpr ⟨_, _, Mirror.adaptExcept_ok_iff.mpr hdescriptor, ?_⟩
  rw [Mirror.get_bind]
  simp only [contentPosition] at hroom ⊢
  rw [failIf_of_not (Nat.not_lt.mpr hroom)]
  rfl

end Headers

section Located

variable {stream : StreamParameters} {located : SliceDescriptor} {code block : Bytes}
  {sliceIndex headerOffset contentOffset : Nat} {windows : List PlaneWindow}

/-- A located block is a code in front of its footer. -/
structure LocatedCode (located : SliceDescriptor) (code : Bytes) : Prop where
  payload : ∃ footer, located.payload = code ++ footer
  size : located.sliceSize = code.length
  footer : located.footerByteOffset = located.payloadByteOffset + code.length
  code_ne : code ≠ []

theorem locatedCode_of_append (hfooter : SliceFooterWriter.append stream 0 code = .ok block)
    (hne : code ≠ []) (offset index : Nat) :
    LocatedCode { blockDescriptor stream offset block with index } code := by
  obtain ⟨hsize, -, footer, rfl, hlength, htake, -⟩ := append_ok hfooter
  have hbody : (code ++ footer).length - SliceFooterParser.footerSize stream = code.length := by
    rw [List.length_append, hlength]
    exact Nat.add_sub_cancel _ _
  have hsliceSize : (blockDescriptor stream offset (code ++ footer)).sliceSize = code.length := by
    unfold blockDescriptor
    rw [hbody, List.drop_left]
    change (SliceDescriptor.withFooter stream {} footer).sliceSize = _
    rw [withFooter_sliceSize, htake, value_bigEndian24 hsize]
  exact ⟨⟨footer, rfl⟩, hsliceSize, congrArg (offset + ·) hsliceSize, hne⟩

namespace LocatedCode

theorem size_ne (h : LocatedCode located code) : located.sliceSize ≠ 0 := by
  rw [h.size]
  exact fun hzero => h.code_ne (List.eq_nil_of_length_eq_zero hzero)

theorem length_le (h : LocatedCode located code) : code.length ≤ located.payload.length := by
  obtain ⟨footer, hpayload⟩ := h.payload
  rw [hpayload, List.length_append]
  exact Nat.le_add_right _ _

theorem take_payload (h : LocatedCode located code) :
    located.payload.take (located.footerByteOffset - located.payloadByteOffset) = code := by
  obtain ⟨footer, hpayload⟩ := h.payload
  rw [h.footer, Nat.add_sub_cancel_left, hpayload, List.take_left]

theorem cell (h : LocatedCode located code) :
    LocatedCode (locatedCell stream sliceIndex located headerOffset contentOffset) code :=
  { h with }

variable {slice : SliceDescriptor}

/-- The content begins in front of the footer where the code is as long as its header. -/
theorem reaches_iff (h : LocatedCode located code) :
    (locatedCell stream sliceIndex located headerOffset contentOffset).contentByteOffset ≤
        (locatedCell stream sliceIndex located headerOffset contentOffset).footerByteOffset ↔
      contentOffset ≤ code.length := by
  change contentOffset + located.payloadByteOffset ≤ located.footerByteOffset ↔ _
  rw [h.footer]
  omega

/-- The content ends at the footer, behind which it must not begin. -/
theorem contentEnd_eq (h : LocatedCode slice code) :
    SliceDecoder.contentEnd slice contentOffset =
      if code.length < contentOffset then .error (makeByteError .syntaxError
        "slice footer offset is before content" slice.footerByteOffset)
      else .ok code.length := by
  have hlength := h.length_le
  have hlocal : slice.footerByteOffset - slice.payloadByteOffset = code.length := by
    rw [h.footer]
    exact Nat.add_sub_cancel_left _ _
  unfold SliceDecoder.contentEnd
  rw [if_pos (Or.inr h.size_ne), failIf_of_not (by rw [h.footer]; omega)]
  simp only [hlocal]
  rw [failIf_of_not (Nat.not_lt.mpr hlength)]
  by_cases hshort : code.length < contentOffset
  · rw [if_pos hshort, failIf_of hshort]
    rfl
  · rw [if_neg hshort, failIf_of_not hshort]
    rfl

/-- Where the code is cut behind its header, the slice has no content. -/
theorem resolveContentPayload_short (h : LocatedCode slice code)
    (hposition : slice.contentByteOffset = contentOffset + slice.payloadByteOffset)
    (hroom : contentOffset ≤ slice.payload.length) (hshort : code.length < contentOffset) :
    SliceDecoder.resolveContentPayload stream slice =
      .error (makeByteError .syntaxError "slice footer offset is before content"
        slice.footerByteOffset) := by
  unfold SliceDecoder.resolveContentPayload
  simp only [hposition, Nat.add_sub_cancel]
  rw [failIf_of_not (by omega), failIf_of_not (by omega), h.contentEnd_eq, if_pos hshort]
  rfl

/-- Otherwise it is what the code has behind the header. -/
theorem resolveContentPayload_eq (h : LocatedCode slice code)
    (hposition : slice.contentByteOffset = contentOffset + slice.payloadByteOffset)
    (hreach : contentOffset ≤ code.length)
    (hsome : contentOffset < code.length ∨ stream.entropyMode = .range ∧ stream.version = 3) :
    SliceDecoder.resolveContentPayload stream slice = .ok (code.drop contentOffset) := by
  obtain ⟨footer, hpayload⟩ := h.payload
  have hlength := h.length_le
  have hcontent : (slice.payload.drop contentOffset).take (code.length - contentOffset) =
      code.drop contentOffset := by
    rw [hpayload, List.drop_append_of_le_length hreach, List.take_left' List.length_drop]
  have hcontinuous : ¬(code.drop contentOffset = [] ∧
      SliceDecoder.hasContinuousRangeState stream slice = false) := by
    rintro ⟨hempty, hfresh⟩
    rcases hsome with hlt | ⟨hmode, hversion⟩
    · rw [List.drop_eq_nil_iff] at hempty
      omega
    · simp [SliceDecoder.hasContinuousRangeState, hmode, hversion, h.size_ne] at hfresh
  unfold SliceDecoder.resolveContentPayload
  simp only [hposition, Nat.add_sub_cancel]
  rw [failIf_of_not (by omega), failIf_of_not (by omega), h.contentEnd_eq,
    if_neg (Nat.not_lt.mpr hreach)]
  change (failIf ((slice.payload.drop contentOffset).take (code.length - contentOffset) = [] ∧ _) _
    >>= fun _ => Except.ok ((slice.payload.drop contentOffset).take
      (code.length - contentOffset))) = _
  simp only [hcontent]
  rw [failIf_of_not hcontinuous]
  rfl

end LocatedCode

end Located

section Validation

variable {stream : StreamParameters} {located : SliceDescriptor} {code : Bytes}
  {sliceIndex headerOffset contentOffset : Nat} {windows : List PlaneWindow}

theorem validateTableSetIndexes_zero (h : WrittenStream stream) (count : Nat) :
    SliceDecoder.validateTableSetIndexes stream (List.replicate count 0) = .ok () := by
  have hindex : SliceDecoder.validateTableSetIndex stream 0 = .ok () := by
    unfold SliceDecoder.validateTableSetIndex SliceDecoder.initialStatesOf
    rw [h.model, h.states, failIf_of_not (by decide)]
    by_cases hmode : stream.entropyMode = .range
    · rw [hmode]
      rfl
    · rw [if_neg fun hrange => hmode hrange.1]
      rfl
  induction count with
  | zero => rfl
  | succ count ih =>
    rw [List.replicate_succ]
    unfold SliceDecoder.validateTableSetIndexes
    rw [hindex]
    exact ih

/-- The decoder accepts a cell whose content it finds. -/
theorem validate_cell (h : WrittenStream stream) {content : Bytes}
    (hcontent : SliceDecoder.resolveContentPayload stream
      (locatedCell stream sliceIndex located headerOffset contentOffset) = .ok content)
    (hwindows : windows.length = stream.codedPlaneCount) :
    SliceDecoder.validate stream
      (locatedCell stream sliceIndex located headerOffset contentOffset) windows = .ok () := by
  have hdepth := (validateStream_ok h.valid).1
  have hcount := quantTableSetIndexCount_pos stream
  have hindexes : (locatedCell stream sliceIndex located headerOffset
      contentOffset).quantTableSetIndexes = List.replicate stream.quantTableSetIndexCount 0 := rfl
  have hbits : (locatedCell stream sliceIndex located headerOffset
      contentOffset).contentBitOffset = 0 := rfl
  simp only [SliceDecoder.validate, except_bind_ok, exists_unit, failIf_ok_iff, hindexes, hbits]
  refine ⟨content, hcontent, by decide, fun hbad => hbad.2 rfl, fun hbad => hbad hwindows,
    ne_false_of_eq_true hdepth, h.sets_ne, ?_, ?_, validateTableSetIndexes_zero h _⟩
  · rw [List.replicate_eq_nil_iff]
    omega
  · rw [h.version, if_pos (by decide), List.length_replicate]
    exact fun hbad => hbad rfl

/-- The lines that the encoder reset are those of the output. -/
theorem lineGeometry_cell {width height : Nat → Nat} {state : SliceState}
    (hshape : WindowShape stream windows width height)
    (hsized : state.LinesSized stream.codedPlaneCount width) :
    SliceDecoder.validateStateLineGeometry windows state = .ok () := by
  have hplanes : windows.length = state.lineStates.length := hshape.planes.trans hsized.planes.symm
  unfold SliceDecoder.validateStateLineGeometry
  rw [failIf_of_not fun hbad => hbad hplanes]
  refine failIf_of_not fun hbad => hbad (List.ext_getElem ?_ fun planeIndex hline hwindow => ?_)
  · rw [List.length_map, List.length_map, hplanes]
  · rw [List.length_map] at hline hwindow
    have hplane : planeIndex < stream.codedPlaneCount := hshape.planes ▸ hwindow
    have hwidth := hshape.width planeIndex hplane
    have hcurrent := (hsized.sized planeIndex hplane).current
    unfold planeWindow at hwidth
    unfold SliceState.lineState at hcurrent
    rw [List.getD_eq_getElem _ _ hwindow] at hwidth
    rw [List.getD_eq_getElem _ _ hline] at hcurrent
    rw [List.getElem_map, List.getElem_map, hwidth]
    exact hcurrent

end Validation

end Mffv1
