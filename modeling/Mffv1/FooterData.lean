import Mffv1.DecoderHistory
import Mffv1.RangePrefix
import Mffv1.SliceBoundary
import Mffv1.SliceLocation

/-!
# Error statuses and parities

Without a check of the parity nothing of a frame depends on the error statuses and the
parities of its footers: the header coder of a slice, which runs into the footer, is refused
where it gets as far as these.
-/
namespace Mffv1

open SliceFooterWriter (bigEndian24)

/-- A slice with another payload and what the end of its footer says. -/
def SliceDescriptor.withTail (slice : SliceDescriptor) (payload : Bytes)
    (errorStatus expectedCrc : Nat) : SliceDescriptor :=
  { slice with payload, errorStatus, expectedCrc }

/-- The slices differ in the last five bytes of their payloads, which are the error status
and the parity. -/
structure SameBody (slice other : SliceDescriptor) : Prop where
  same : other = slice.withTail other.payload other.errorStatus other.expectedCrc
  length : other.payload.length = slice.payload.length
  bytes : other.payload.take (slice.payload.length - 5) =
    slice.payload.take (slice.payload.length - 5)

/-- A slice with a footer of eight bytes, behind a header of its own. -/
structure Footed (slice : SliceDescriptor) : Prop where
  footer : slice.footerByteOffset - slice.payloadByteOffset + 8 = slice.payload.length
  present : slice.footerByteOffset ≠ 0 ∨ slice.sliceSize ≠ 0
  plain : slice.continuesFrameRangeState = false

section Slices

variable {stream : StreamParameters} {slice other : SliceDescriptor}

theorem SameBody.exists_tail (h : SameBody slice other) :
    ∃ (payload : Bytes) (errorStatus expectedCrc : Nat),
      other = slice.withTail payload errorStatus expectedCrc ∧
        payload.length = slice.payload.length ∧
          payload.take (slice.payload.length - 5) = slice.payload.take (slice.payload.length - 5) :=
  ⟨_, _, _, h.same, h.length, h.bytes⟩

/-- Where they are the same. -/
theorem take_of_sameBody {payload payload' : Bytes} {bound count : Nat}
    (h : payload'.take bound = payload.take bound) (hcount : count ≤ bound) :
    payload'.take count = payload.take count := by
  have htake := congrArg (List.take count) h
  rwa [List.take_take, List.take_take, Nat.min_eq_left hcount] at htake

theorem contentEnd_le (hfooted : Footed slice) {localContentOffset localContentEnd : Nat}
    (h : SliceDecoder.contentEnd slice localContentOffset = .ok localContentEnd) :
    localContentOffset ≤ localContentEnd ∧
      localContentEnd = slice.footerByteOffset - slice.payloadByteOffset := by
  unfold SliceDecoder.contentEnd at h
  rw [if_pos hfooted.present] at h
  simp only [except_bind_ok, exists_unit, failIf_ok_iff] at h
  obtain ⟨-, -, hcontent, hend⟩ := h
  obtain rfl := Except.ok.inj hend
  exact ⟨Nat.not_lt.mp hcontent, rfl⟩

variable (stream) in
theorem SameBody.resolveContentPayload (h : SameBody slice other) (hfooted : Footed slice) :
    SliceDecoder.resolveContentPayload stream other =
      SliceDecoder.resolveContentPayload stream slice := by
  obtain ⟨payload, errorStatus, expectedCrc, rfl, hlength, hbytes⟩ := h.exists_tail
  have hends (localContentOffset : Nat) : SliceDecoder.contentEnd
      (slice.withTail payload errorStatus expectedCrc) localContentOffset =
        SliceDecoder.contentEnd slice localContentOffset := by
    unfold SliceDecoder.contentEnd SliceDescriptor.withTail
    dsimp only
    rw [hlength]
  have hcontinuous : SliceDecoder.hasContinuousRangeState stream
      (slice.withTail payload errorStatus expectedCrc) =
        SliceDecoder.hasContinuousRangeState stream slice := rfl
  unfold SliceDecoder.resolveContentPayload
  rw [hcontinuous]
  unfold SliceDescriptor.withTail at hends ⊢
  dsimp only
  rw [hlength, hends]
  refine except_bind_congr fun _ _ => except_bind_congr fun _ _ =>
    except_bind_congr fun localContentEnd hend => ?_
  obtain ⟨hle, hfooter⟩ := contentEnd_le hfooted hend
  have hshort : localContentEnd ≤ slice.payload.length - 5 := by
    have := hfooted.footer
    omega
  have hcontent : (payload.drop (slice.contentByteOffset - slice.payloadByteOffset)).take
      (localContentEnd - (slice.contentByteOffset - slice.payloadByteOffset)) =
        (slice.payload.drop (slice.contentByteOffset - slice.payloadByteOffset)).take
          (localContentEnd - (slice.contentByteOffset - slice.payloadByteOffset)) := by
    rw [← List.drop_take, ← List.drop_take, take_of_sameBody hbytes hshort]
  rw [hcontent]

variable (stream) in
theorem SameBody.validate (h : SameBody slice other) (hfooted : Footed slice)
    (windows : List PlaneWindow) :
    SliceDecoder.validate stream other windows = SliceDecoder.validate stream slice windows := by
  have hcontent := h.resolveContentPayload stream hfooted
  obtain ⟨payload, errorStatus, expectedCrc, rfl, -, -⟩ := h.exists_tail
  unfold SliceDecoder.validate
  rw [hcontent]
  rfl

variable (stream) in
theorem SameBody.startReader (h : SameBody slice other) (hfooted : Footed slice) (content : Bytes)
    (contextCounts : List Nat) (initialStateBanks : List ContextStateBank) :
    SliceDecoder.startReader stream other content contextCounts initialStateBanks =
      SliceDecoder.startReader stream slice content contextCounts initialStateBanks := by
  obtain ⟨payload, errorStatus, expectedCrc, rfl, -, hbytes⟩ := h.exists_tail
  have hheader : SliceDecoder.startBehindHeader stream
      (slice.withTail payload errorStatus expectedCrc) contextCounts initialStateBanks =
        SliceDecoder.startBehindHeader stream slice contextCounts initialStateBanks := by
    have htake : payload.take (slice.footerByteOffset - slice.payloadByteOffset) =
        slice.payload.take (slice.footerByteOffset - slice.payloadByteOffset) :=
      take_of_sameBody hbytes (by
        have := hfooted.footer
        omega)
    unfold SliceDecoder.startBehindHeader
    unfold SliceDescriptor.withTail
    dsimp only
    rw [htake]
    rfl
  have hplain : (slice.withTail payload errorStatus expectedCrc).continuesFrameRangeState = false :=
    hfooted.plain
  unfold SliceDecoder.startReader
  rw [hheader, hplain, hfooted.plain]
  rfl

/-- The decoder does not look at what the slices differ in. -/
theorem SameBody.decode (h : SameBody slice other) (hfooted : Footed slice) (allowReadAhead : Bool)
    (windows : List PlaneWindow) :
    SliceDecoder.decode stream allowReadAhead other windows =
      SliceDecoder.decode stream allowReadAhead slice windows := by
  have hrange (content : Bytes) : SliceDecoder.decodeRange stream other content windows =
      SliceDecoder.decodeRange stream slice content windows := by
    have hstart := h.startReader stream hfooted content
    obtain ⟨payload, errorStatus, expectedCrc, rfl, -, -⟩ := h.exists_tail
    unfold SliceDecoder.decodeRange
    simp only [hstart]
    rfl
  have hvalid := h.validate stream hfooted windows
  have hcontent := h.resolveContentPayload stream hfooted
  unfold SliceDecoder.decode
  simp only [hvalid, hcontent, hrange]
  obtain ⟨payload, errorStatus, expectedCrc, rfl, -, -⟩ := h.exists_tail
  rfl

theorem SameBody.readAhead (h : SameBody slice other) :
    SameBody (makeGolombRiceReadAheadBoundary slice) (makeGolombRiceReadAheadBoundary other) := by
  obtain ⟨payload, errorStatus, expectedCrc, rfl, hlength, hbytes⟩ := h.exists_tail
  exact ⟨rfl, hlength, hbytes⟩

theorem Footed.readAhead (h : Footed slice) : Footed (makeGolombRiceReadAheadBoundary slice) :=
  ⟨h.footer, h.present, h.plain⟩

theorem SameBody.canTry (h : SameBody slice other) :
    canTryGolombRiceReadAheadBoundary stream other =
      canTryGolombRiceReadAheadBoundary stream slice := by
  rw [h.same]
  rfl

variable (stream) in
theorem SameBody.candidates (h : SameBody slice other) :
    List.Forall₂ SameBody (makeGolombRiceContentCandidates stream slice)
      (makeGolombRiceContentCandidates stream other) := by
  unfold makeGolombRiceContentCandidates
  rw [h.canTry]
  split
  · split
    · exact .cons h.readAhead (.cons h .nil)
    · exact .cons h (.cons h.readAhead .nil)
  · exact .cons h .nil

theorem Footed.candidates (h : Footed slice) :
    ∀ candidate ∈ makeGolombRiceContentCandidates stream slice, Footed candidate := by
  unfold makeGolombRiceContentCandidates
  split
  · split
    · exact List.forall_mem_cons.mpr ⟨h.readAhead, List.forall_mem_singleton.mpr h⟩
    · exact List.forall_mem_cons.mpr ⟨h, List.forall_mem_singleton.mpr h.readAhead⟩
  · exact List.forall_mem_singleton.mpr h

/-- An error tells where the content of a candidate begins. -/
theorem SameBody.context (h : SameBody slice other) (status : Error) :
    SliceExecutor.appendGolombRiceCandidateContext status other =
      SliceExecutor.appendGolombRiceCandidateContext status slice := by
  rw [h.same]
  rfl

theorem decodeCandidates_same {windows : List PlaneWindow} {state : SliceState}
    {candidate candidate' : SliceDescriptor} {others others' : List SliceDescriptor}
    (h : SameBody candidate candidate') (hfooted : Footed candidate)
    (hsame : List.Forall₂ SameBody others others') (hothers : ∀ other ∈ others, Footed other)
    (temporary : FrameMemory) :
    SliceExecutor.decodeCandidates stream windows state candidate' others' temporary =
      SliceExecutor.decodeCandidates stream windows state candidate others temporary := by
  induction hsame generalizing candidate candidate' temporary with
  | nil =>
    unfold SliceExecutor.decodeCandidates
    simp only [h.decode hfooted, h.context]
  | cons hnext _ ih =>
    obtain ⟨hfirst, hrest⟩ := List.forall_mem_cons.mp hothers
    unfold SliceExecutor.decodeCandidates
    simp only [h.decode hfooted, h.context, ih hnext hfirst hrest]

theorem SameBody.windows (h : SameBody slice other) (output : FrameView) :
    SliceOutputWindow.validate stream output other =
      SliceOutputWindow.validate stream output slice := by
  rw [h.same]
  rfl

theorem SameBody.decodeWithCandidates (h : SameBody slice other) (hfooted : Footed slice)
    (output : FrameView) (windows : List PlaneWindow) :
    SliceExecutor.decodeWithCandidates stream output windows other =
      SliceExecutor.decodeWithCandidates stream output windows slice := by
  have hsame := h.candidates stream
  have hfooteds := @Footed.candidates stream _ hfooted
  unfold SliceExecutor.decodeWithCandidates
  generalize makeGolombRiceContentCandidates stream slice = candidates at hsame hfooteds
  generalize makeGolombRiceContentCandidates stream other = candidates' at hsame
  cases hsame with
  | nil => rfl
  | cons hfirst hrest =>
    obtain ⟨hfooted, hothers⟩ := List.forall_mem_cons.mp hfooteds
    simp only [decodeCandidates_same hfirst hfooted hrest hothers]

theorem SameBody.decodeSlice (h : SameBody slice other) (hfooted : Footed slice)
    (output : FrameView) : SliceExecutor.decodeSlice stream output other =
      SliceExecutor.decodeSlice stream output slice := by
  have hdirect (windows : List PlaneWindow) : SliceExecutor.decodeDirectly stream windows other =
      SliceExecutor.decodeDirectly stream windows slice := by
    unfold SliceExecutor.decodeDirectly
    rw [h.decode hfooted]
  unfold SliceExecutor.decodeSlice
  simp only [h.windows, h.canTry, h.decodeWithCandidates hfooted, hdirect]

theorem any_sameBody {p : SliceDescriptor → Bool} {slices others : List SliceDescriptor}
    (h : List.Forall₂ SameBody slices others) (hfooted : ∀ slice ∈ slices, Footed slice)
    (hp : ∀ slice other, SameBody slice other → Footed slice → p other = p slice) :
    others.any p = slices.any p := by
  induction h with
  | nil => rfl
  | cons hfirst _ ih =>
    obtain ⟨hslice, hrest⟩ := List.forall_mem_cons.mp hfooted
    rw [List.any_cons, List.any_cons, hp _ _ hfirst hslice, ih hrest]

/-- The check of a slice or of one of its candidates. -/
def checkCandidate (stream : StreamParameters) (output : FrameView) (candidate : SliceDescriptor) :
    Status := do
  let windows ← SliceOutputWindow.validate stream output candidate
  SliceDecoder.validate stream candidate windows

variable (stream) in
theorem SameBody.checkCandidate (h : SameBody slice other) (hfooted : Footed slice)
    (output : FrameView) :
    Mffv1.checkCandidate stream output other = Mffv1.checkCandidate stream output slice := by
  unfold Mffv1.checkCandidate
  rw [h.windows]
  simp only [h.validate stream hfooted]

theorem SameBody.validateSlice (h : SameBody slice other) (hfooted : Footed slice)
    (output : FrameView) : SliceExecutor.validateSlice stream output other =
      SliceExecutor.validateSlice stream output slice := by
  have hindex : other.index = slice.index := by rw [h.same]; rfl
  have hany := @any_sameBody (fun candidate => (Mffv1.checkCandidate stream output candidate).isOk)
    _ _
    (h.candidates stream) hfooted.candidates fun candidate candidate' h hfooted => by
      rw [h.checkCandidate stream hfooted]
  have hcheck := h.checkCandidate stream hfooted output
  unfold Mffv1.checkCandidate at hany hcheck
  unfold SliceExecutor.validateSlice
  simp only [hcheck, hany, hindex]

theorem checkCandidate_content (hfooted : Footed slice) {output : FrameView}
    (h : checkCandidate stream output slice = .ok ()) :
    slice.contentByteOffset - slice.payloadByteOffset ≤
      slice.footerByteOffset - slice.payloadByteOffset := by
  simp only [checkCandidate, SliceDecoder.validate, SliceDecoder.resolveContentPayload,
    except_bind_ok] at h
  obtain ⟨_, -, _, ⟨_, -, _, -, localContentEnd, hend, -⟩, -⟩ := h
  obtain ⟨hle, rfl⟩ := contentEnd_le hfooted hend
  exact hle

/-- A slice that is accepted has its content in front of its footer, but for the byte that
its header coder may have read ahead. -/
theorem validateSlice_content (hfooted : Footed slice) {output : FrameView}
    (h : SliceExecutor.validateSlice stream output slice = .ok ()) :
    slice.contentByteOffset - slice.payloadByteOffset ≤
      slice.footerByteOffset - slice.payloadByteOffset + 1 := by
  have hchecked : checkCandidate stream output slice = .ok () ∨
      (makeGolombRiceContentCandidates stream slice).any
        (fun candidate => (checkCandidate stream output candidate).isOk) = true := by
    unfold SliceExecutor.validateSlice at h
    unfold checkCandidate
    dsimp only at h ⊢
    split at h
    · exact .inl ‹_›
    · split at h
      · exact .inr ‹_›
      · cases h
  rcases hchecked with hslice | hany
  · exact (checkCandidate_content hfooted hslice).trans (Nat.le_succ _)
  · obtain ⟨candidate, hmem, hcandidate⟩ := List.any_eq_true.mp hany
    have hok : checkCandidate stream output candidate = .ok () := by
      cases hcheck : checkCandidate stream output candidate with
      | ok _ => rfl
      | error status =>
        rw [hcheck] at hcandidate
        cases hcandidate
    have hcontent := checkCandidate_content (hfooted.candidates candidate hmem) hok
    have hcases : candidate = slice ∨ candidate = makeGolombRiceReadAheadBoundary slice := by
      unfold makeGolombRiceContentCandidates at hmem
      split at hmem
      · split at hmem <;> simp at hmem <;> tauto
      · exact .inl (List.mem_singleton.mp hmem)
    rcases hcases with rfl | rfl
    · exact hcontent.trans (Nat.le_succ _)
    · unfold makeGolombRiceReadAheadBoundary at hcontent
      dsimp only at hcontent
      omega

end Slices

section Frames

variable {stream : StreamParameters} {slices others : List SliceDescriptor}

theorem sliceAt_sameBody (h : List.Forall₂ SameBody slices others) (position : Nat) :
    SameBody (sliceAt slices position) (sliceAt others position) := by
  induction h generalizing position with
  | nil => exact ⟨rfl, rfl, rfl⟩
  | cons hfirst _ ih =>
    cases position with
    | zero => exact hfirst
    | succ position => exact ih position

theorem SameBody.index_eq {slice other : SliceDescriptor} (h : SameBody slice other) :
    other.index = slice.index := by
  rw [h.same]
  rfl

theorem SameBody.layout_eq {slice other : SliceDescriptor} (h : SameBody slice other) :
    sliceLayout other = sliceLayout slice := by
  rw [h.same]
  rfl

theorem layouts_same (h : List.Forall₂ SameBody slices others) :
    others.map sliceLayout = slices.map sliceLayout := by
  induction h with
  | nil => rfl
  | cons hfirst _ ih => rw [List.map_cons, List.map_cons, hfirst.layout_eq, ih]

theorem scanSlices_same (h : List.Forall₂ SameBody slices others) (position : Nat)
    (scan : CoverageScan) :
    scanSlices stream others position scan = scanSlices stream slices position scan := by
  induction h generalizing position scan with
  | nil => rfl
  | @cons slice other slices others hfirst _ ih =>
    have hcheck : checkSlice stream other = checkSlice stream slice := by
      rw [hfirst.same]
      rfl
    have harea : sliceArea other = sliceArea slice := by
      rw [hfirst.same]
      rfl
    have hx : other.rasterX = slice.rasterX := by rw [hfirst.same]; rfl
    have hwidth : other.rasterWidth = slice.rasterWidth := by rw [hfirst.same]; rfl
    unfold scanSlices
    simp only [hcheck, harea, hx, hwidth, ih]

theorem sweep_same (h : List.Forall₂ SameBody slices others) (events : List SweepEvent)
    (active : ActiveIntervals) : sweep others events active = sweep slices events active := by
  induction events generalizing active with
  | nil => rfl
  | cons event events ih =>
    have hslice := sliceAt_sameBody h event.slicePosition
    have hy : (sliceAt others event.slicePosition).rasterY =
        (sliceAt slices event.slicePosition).rasterY := by rw [hslice.same]; rfl
    have hheight : (sliceAt others event.slicePosition).rasterHeight =
        (sliceAt slices event.slicePosition).rasterHeight := by rw [hslice.same]; rfl
    unfold sweep
    simp only [hy, hheight, hslice.index_eq, ih]

theorem validateSliceRasterCoverage_same (h : List.Forall₂ SameBody slices others) :
    validateSliceRasterCoverage stream others = validateSliceRasterCoverage stream slices := by
  unfold validateSliceRasterCoverage
  simp only [h.length_eq, scanSlices_same h, sweep_same h]

namespace SliceExecutor

theorem validateEach_same (h : List.Forall₂ SameBody slices others)
    (hfooted : ∀ slice ∈ slices, Footed slice) (output : FrameView) :
    validateEach stream output others = validateEach stream output slices := by
  induction h with
  | nil => rfl
  | cons hfirst _ ih =>
    obtain ⟨hslice, hrest⟩ := List.forall_mem_cons.mp hfooted
    unfold validateEach
    rw [hfirst.validateSlice hslice, ih hrest]

theorem nil_same (h : List.Forall₂ SameBody slices others) : others = [] ↔ slices = [] := by
  rw [← List.length_eq_zero_iff, ← List.length_eq_zero_iff, h.length_eq]

theorem rasterLayout_same (h : List.Forall₂ SameBody slices others) :
    slicesHaveRasterLayout others = slicesHaveRasterLayout slices := by
  induction h with
  | nil => rfl
  | @cons slice other slices others hfirst _ ih =>
    have hwidth : other.rasterWidth = slice.rasterWidth := by rw [hfirst.same]; rfl
    have hheight : other.rasterHeight = slice.rasterHeight := by rw [hfirst.same]; rfl
    unfold slicesHaveRasterLayout at ih ⊢
    rw [List.all_cons, List.all_cons, hwidth, hheight, ih]

theorem isParallel_same (h : List.Forall₂ SameBody slices others) (threadCount : Nat) :
    isParallel stream threadCount others = isParallel stream threadCount slices := by
  unfold isParallel canDecodeParallelSafely
  simp only [h.length_eq, rasterLayout_same h, nil_same h, validateSliceRasterCoverage_same h]

theorem matchRanks_same (executor : SliceExecutor) (h : List.Forall₂ SameBody slices others)
    (ranks : List (Nat × Nat)) (states : List SliceState) :
    executor.matchRanks others ranks states = executor.matchRanks slices ranks states := by
  induction ranks generalizing states with
  | nil => rfl
  | cons rank ranks ih =>
    have hslice := sliceAt_sameBody h rank.1
    unfold matchRanks
    simp only [hslice.layout_eq, hslice.index_eq, ih]

theorem workingStates_same (executor : SliceExecutor) (h : List.Forall₂ SameBody slices others)
    (keyframe : Bool) :
    executor.workingStates others keyframe = executor.workingStates slices keyframe := by
  unfold workingStates referenceStates
  simp only [h.length_eq, layouts_same h, matchRanks_same executor h]

theorem decodeAt_same (h : List.Forall₂ SameBody slices others)
    (hfooted : ∀ slice ∈ slices, Footed slice) (output : FrameView) (position : Nat) :
    decodeAt stream output others position = decodeAt stream output slices position := by
  have hslice := sliceAt_sameBody h position
  have hdecode : decodeSlice stream output (sliceAt others position) =
      decodeSlice stream output (sliceAt slices position) := by
    by_cases hposition : position < slices.length
    · exact hslice.decodeSlice (hfooted _ (sliceAt_mem hposition)) output
    · have hout : sliceAt slices position = {} :=
        List.getD_eq_default _ _ (Nat.not_lt.mp hposition)
      have hout' : sliceAt others position = {} :=
        List.getD_eq_default _ _ (h.length_eq ▸ Nat.not_lt.mp hposition)
      rw [hout, hout']
  funext progress
  unfold decodeAt
  dsimp only
  rw [hdecode, hslice.index_eq]

theorem decodeSlices_same (h : List.Forall₂ SameBody slices others)
    (hfooted : ∀ slice ∈ slices, Footed slice) (threadCount : Nat) (order : List Nat)
    (output : FrameView) : decodeSlices stream threadCount order output others =
      decodeSlices stream threadCount order output slices := by
  have htasks (order : List Nat) (progress : FrameProgress) :
      runTasks stream output others order progress = runTasks stream output slices order progress := by
    induction order generalizing progress with
    | nil => rfl
    | cons position order ih =>
      unfold runTasks
      simp only [decodeAt_same h hfooted, ih]
  have hserial : decodeSerial stream output others = decodeSerial stream output slices := by
    unfold decodeSerial
    rw [h.length_eq, funext (decodeAt_same h hfooted output)]
  unfold decodeSlices decodeParallel
  simp only [isParallel_same h, htasks, hserial, h.length_eq]

/-- A frame is decoded without what its slices differ in. -/
theorem decode_same (h : List.Forall₂ SameBody slices others)
    (hfooted : ∀ slice ∈ slices, Footed slice) (threadCount : Nat) (order : List Nat)
    (output : FrameView) (keyframe : Bool) :
    decode stream threadCount order output others keyframe =
      decode stream threadCount order output slices keyframe := by
  have hvalid : validateSlices stream threadCount output others =
      validateSlices stream threadCount output slices := by
    unfold validateSlices validateParallelSliceLayout
    simp only [h.length_eq, nil_same h, rasterLayout_same h, validateSliceRasterCoverage_same h,
      validateEach_same h hfooted]
  unfold decode
  simp only [hvalid, workingStates_same _ h, decodeSlices_same h hfooted, layouts_same h]

end SliceExecutor

end Frames

namespace FrameParser

open RangeCoder (SharesPrefix ReadsPrefix)

section Parsing

variable {stream : StreamParameters} {sliceIndex : Nat} {keyframe flag : Bool}
  {located located' slice : SliceDescriptor} {bound : Nat}

/-- The flag, which the first slice has. -/
def readFlag (stream : StreamParameters) (sliceIndex : Nat) (keyframe : Bool)
    (located : SliceDescriptor) : Call RangeCoder Bool :=
  if sliceIndex = 0 then readFrameKeyframe stream located else pure keyframe

/-- The header behind the flag. -/
def readPlaced (stream : StreamParameters) (located : SliceDescriptor) (keyframe : Bool) :
    Call RangeCoder (Bool × SliceDescriptor) := do
  let parsed ← EStateM.adaptExcept (locatedError located)
    (SliceHeaderParser.readDescriptor stream { index := located.index })
  let headerReader ← get
  let contentByteOffset :=
    if stream.entropyMode = .golombRice then golombRiceContentBytePosition headerReader
    else parsed.contentByteOffset
  failIf (located.payload.length < contentByteOffset) (setSliceLocationIfMissing
    (makeByteError .syntaxError "slice header consumes more bytes than the slice payload contains"
      (located.payloadByteOffset + contentByteOffset)) located.index)
  return (keyframe, placeHeader located parsed contentByteOffset)

theorem parseLocatedSlice_eq : parseLocatedSlice stream sliceIndex keyframe located =
    EStateM.adaptExcept (locatedError located)
        (RangeCoder.resetSingle located.payload stream.stateTransition) >>= fun _ =>
      readFlag stream sliceIndex keyframe located >>= readPlaced stream located := by
  unfold parseLocatedSlice readFlag
  refine congrArg _ (funext fun _ => ?_)
  by_cases hfirst : sliceIndex = 0
  · simp only [hfirst, if_true]
    rfl
  · simp only [hfirst, if_false]
    rfl

/-- The header is parsed where the coder can read it and its content begins in the payload. -/
theorem parseLocatedSlice_ok_iff {reader : RangeCoder} :
    parseLocatedSlice stream sliceIndex keyframe located {} = .ok (flag, slice) reader ↔
      ∃ start middle parsed,
        RangeCoder.resetSingle located.payload stream.stateTransition {} = .ok () start ∧
        readFlag stream sliceIndex keyframe located start = .ok flag middle ∧
        SliceHeaderParser.readDescriptor stream { index := located.index } middle =
          .ok parsed reader ∧
        contentPosition stream reader ≤ located.payload.length ∧
        slice = placeHeader located parsed (contentPosition stream reader) := by
  have hposition {middle reader : RangeCoder} {parsed : SliceDescriptor}
      (h : SliceHeaderParser.readDescriptor stream { index := located.index } middle =
        .ok parsed reader) :
      (if stream.entropyMode = .golombRice then golombRiceContentBytePosition reader
        else parsed.contentByteOffset) = contentPosition stream reader := by
    rw [(SliceHeaderParser.readDescriptor_position stream h).1]
    rfl
  rw [parseLocatedSlice_eq]
  simp only [readPlaced, Mirror.bind_ok_iff, Mirror.adaptExcept_ok_iff, Mirror.get_bind,
    failIf_call_ok_iff, Mirror.pure_apply, EStateM.Result.ok.injEq, Prod.mk.injEq]
  constructor
  · rintro ⟨_, start, hstart, _, middle, hflag, parsed, _, hparsed, _, _, ⟨hroom, rfl⟩, ⟨rfl, rfl⟩,
      rfl⟩
    rw [hposition hparsed] at hroom ⊢
    exact ⟨start, middle, parsed, hstart, hflag, hparsed, Nat.not_lt.mp hroom, rfl⟩
  · rintro ⟨start, middle, parsed, hstart, hflag, hparsed, hroom, rfl⟩
    refine ⟨(), start, hstart, flag, middle, hflag, parsed, reader, hparsed, (), reader, ⟨?_, rfl⟩,
      ⟨rfl, ?_⟩, rfl⟩
    · rw [hposition hparsed]
      exact Nat.not_lt.mpr hroom
    · rw [hposition hparsed]

theorem readFlag_readsPrefix :
    ReadsPrefix bound (readFlag stream sliceIndex keyframe located) := by
  unfold readFlag
  split
  · exact (RangeCoder.readBool_readsPrefix.adapt _).bind fun _ =>
      ((Forwards.GoesOn.ofExcept _).adapt _).bind fun _ =>
        ((RangeCoder.reconfigureContexts_readsPrefix _ _).adapt _).bind fun _ =>
          Forwards.GoesOn.pure _
  · exact Forwards.GoesOn.pure _

theorem contentPosition_ge (stream : StreamParameters) (reader : RangeCoder) :
    reader.bytePosition ≤ contentPosition stream reader + 1 := by
  unfold contentPosition golombRiceContentBytePosition
  dsimp only [RangeCoder.arithmeticState]
  split
  · split <;> omega
  · omega

/-- Slices of one body have the same header, where it ends in front of what they differ in. -/
theorem parseLocatedSlice_same (h : SameBody located located') (hfooted : Footed located)
    (hparse : (parseLocatedSlice stream sliceIndex keyframe located).valueOn {} =
      .ok (flag, slice))
    (hcontent : slice.contentByteOffset - slice.payloadByteOffset ≤
      slice.footerByteOffset - slice.payloadByteOffset + 1) :
    ∃ slice', (parseLocatedSlice stream sliceIndex keyframe located').valueOn {} =
      .ok (flag, slice') ∧ SameBody slice slice' := by
  obtain ⟨reader, hrun⟩ := valueOn_ok hparse
  obtain ⟨start, middle, parsed, hstart, hflag, hparsed, hroom, rfl⟩ :=
    parseLocatedSlice_ok_iff.mp hrun
  have hfooter := hfooted.footer
  have hend : reader.bytePosition ≤ located.payload.length - 5 := by
    have hge := contentPosition_ge stream reader
    unfold placeHeader at hcontent
    dsimp only at hcontent
    omega
  have hbytes : ∀ i < located.payload.length - 5,
      located'.payload.getD i 0 = located.payload.getD i 0 := by
    intro i hi
    have hget := congrArg (fun bytes => List.getD bytes i 0) h.bytes
    simp only [List.getD_eq_getElem?_getD, List.getElem?_take, hi, if_true] at hget ⊢
    exact hget
  obtain ⟨start', hstart', hshares⟩ := RangeCoder.resetSingle_shares h.length hbytes
    (by omega) hstart
  have hflags : ReadsPrefix (located.payload.length - 5)
      (readFlag stream sliceIndex keyframe located) := readFlag_readsPrefix
  have hheaders : ReadsPrefix (located.payload.length - 5)
      (SliceHeaderParser.readDescriptor stream { index := located.index }) :=
    SliceHeaderParser.readDescriptor_readsPrefix stream _
  obtain ⟨middle', hflag', hmiddle⟩ := hflags.alike_ok hshares hflag
    ((hheaders.onwards_ok hparsed).trans hend)
  obtain ⟨reader', hparsed', hreader⟩ := hheaders.alike_ok hmiddle hparsed hend
  have hposition : contentPosition stream reader' = contentPosition stream reader := by
    rw [hreader.same]
    rfl
  have hother : readFlag stream sliceIndex keyframe located' =
      readFlag stream sliceIndex keyframe located := by
    rw [h.same]
    rfl
  have hrun' : parseLocatedSlice stream sliceIndex keyframe located' {} =
      .ok (flag, placeHeader located' parsed (contentPosition stream reader')) reader' := by
    refine parseLocatedSlice_ok_iff.mpr ⟨start', middle', parsed, hstart', ?_, ?_, ?_, rfl⟩
    · rw [hother]
      exact hflag'
    · rw [h.index_eq]
      exact hparsed'
    · rw [hposition, h.length]
      exact hroom
  refine ⟨_, valueOn_of_ok hrun', ?_⟩
  rw [hposition]
  obtain ⟨payload, errorStatus, expectedCrc, rfl, hlength, hsame⟩ := h.exists_tail
  exact ⟨rfl, hlength, hsame⟩

theorem parseLocatedSlice_footed (hfooted : Footed located)
    (hparse : (parseLocatedSlice stream sliceIndex keyframe located).valueOn {} =
      .ok (flag, slice)) : Footed slice := by
  obtain ⟨reader, hrun⟩ := valueOn_ok hparse
  obtain ⟨start, middle, parsed, -, -, hparsed, -, rfl⟩ := parseLocatedSlice_ok_iff.mp hrun
  exact ⟨hfooted.footer, hfooted.present,
    (SliceHeaderParser.readDescriptor_position stream hparsed).2⟩

theorem parseLocatedSlices_same {located located' : List SliceDescriptor}
    (h : List.Forall₂ SameBody located located') (hfooted : ∀ slice ∈ located, Footed slice)
    {slices : List SliceDescriptor}
    (hparse : parseLocatedSlices stream located sliceIndex keyframe = .ok (flag, slices))
    (hcontent : ∀ slice ∈ slices, Footed slice → slice.contentByteOffset - slice.payloadByteOffset ≤
      slice.footerByteOffset - slice.payloadByteOffset + 1) :
    (∀ slice ∈ slices, Footed slice) ∧
      ∃ slices', parseLocatedSlices stream located' sliceIndex keyframe = .ok (flag, slices') ∧
        List.Forall₂ SameBody slices slices' := by
  induction h generalizing sliceIndex keyframe flag slices with
  | nil =>
    obtain ⟨rfl, rfl⟩ := Prod.mk.inj (Except.ok.inj hparse)
    exact ⟨fun slice hslice => absurd hslice List.not_mem_nil, [], rfl, .nil⟩
  | cons hfirst _ ih =>
    simp only [parseLocatedSlices, except_bind_ok] at hparse
    obtain ⟨⟨next, slice⟩, hslice, ⟨last, rest⟩, hrest, hslices⟩ := hparse
    obtain ⟨rfl, rfl⟩ := Prod.mk.inj (Except.ok.inj hslices)
    obtain ⟨hfootedFirst, hfootedRest⟩ := List.forall_mem_cons.mp hfooted
    obtain ⟨hcontentFirst, hcontentRest⟩ := List.forall_mem_cons.mp hcontent
    have hfootedSlice := parseLocatedSlice_footed hfootedFirst hslice
    obtain ⟨slice', hslice', hsame⟩ := parseLocatedSlice_same hfirst hfootedFirst hslice
      (hcontentFirst hfootedSlice)
    obtain ⟨hfooteds, rest', hrest', hsames⟩ := ih hfootedRest hrest hcontentRest
    refine ⟨List.forall_mem_cons.mpr ⟨hfootedSlice, hfooteds⟩, slice' :: rest', ?_,
      .cons hsame hsames⟩
    simp only [parseLocatedSlices, except_bind_ok]
    exact ⟨_, hslice', _, hrest', rfl⟩

end Parsing

end FrameParser

/-- Blocks that differ in their last five bytes, the error status and the parity. -/
structure SameBlock (block block' : Bytes) : Prop where
  length : block'.length = block.length
  bytes : block'.take (block.length - 5) = block.take (block.length - 5)

section Blocks

variable {stream : StreamParameters}

theorem blockDescriptor_sliceSize (offset : Nat) (block : Bytes) :
    (blockDescriptor stream offset block).sliceSize = ByteValue.value
      ((block.drop (block.length - SliceFooterParser.footerSize stream)).take 3) :=
  withFooter_sliceSize stream {} _

/-- The size of a block and of its footer. -/
theorem blockDescriptor_size (hec : stream.errorStatusEnabled = true) (offset : Nat) {block : Bytes}
    (h : IsSliceBlock stream block) : (blockDescriptor stream offset block).sliceSize + 8 =
      block.length := by
  obtain ⟨body, hbody, hblock⟩ := h
  simp only [hec, if_true] at hblock
  obtain ⟨errorStatus, crc, -, hcrc, rfl⟩ := hblock
  have hlength : (body ++ bigEndian24 body.length ++ errorStatus :: crc).length =
      body.length + 8 := by
    simp [bigEndian24, hcrc]
  have hfooter : ((body ++ bigEndian24 body.length ++ errorStatus :: crc).drop body.length).take 3 =
      bigEndian24 body.length := by
    rw [List.append_assoc, List.drop_left]
    rfl
  have hsize : SliceFooterParser.footerSize stream = 8 := by
    unfold SliceFooterParser.footerSize
    rw [hec]
    rfl
  rw [blockDescriptor_sliceSize, hsize, hlength, Nat.add_sub_cancel, hfooter,
    value_bigEndian24 hbody]

/-- The size is in front of what such blocks differ in. -/
theorem SameBlock.size_eq {block block' : Bytes} (h : SameBlock block block')
    (hlong : 8 ≤ block.length) : (block'.drop (block'.length - 8)).take 3 =
      (block.drop (block.length - 8)).take 3 := by
  have htake (bytes : Bytes) (hbytes : bytes.length = block.length) :
      (bytes.drop (bytes.length - 8)).take 3 =
        (bytes.take (block.length - 5)).drop (block.length - 8) := by
    rw [List.take_drop, hbytes, show block.length - 8 + 3 = block.length - 5 by omega]
  rw [htake block' h.length, htake block rfl, h.bytes]

theorem blockDescriptor_same (hec : stream.errorStatusEnabled = true) (index offset : Nat)
    {block block' : Bytes} (h : IsSliceBlock stream block) (hsame : SameBlock block block') :
    SameBody { blockDescriptor stream offset block with index }
      { blockDescriptor stream offset block' with index } := by
  have hlong := blockDescriptor_size hec offset h
  have hsize : SliceFooterParser.footerSize stream = 8 := by
    unfold SliceFooterParser.footerSize
    rw [hec]
    rfl
  have hsizes : (blockDescriptor stream offset block').sliceSize =
      (blockDescriptor stream offset block).sliceSize := by
    rw [blockDescriptor_sliceSize, blockDescriptor_sliceSize, hsize,
      hsame.size_eq (hlong ▸ Nat.le_add_left 8 _)]
  refine ⟨?_, hsame.length, hsame.bytes⟩
  unfold blockDescriptor SliceDescriptor.locatedAt at hsizes ⊢
  unfold SliceDescriptor.withFooter SliceDescriptor.withTail at *
  simp only [hec, if_true] at hsizes ⊢
  rw [hsizes]

/-- The first block has a body, so that its footer is not taken for none. -/
def HasBody (offset : Nat) (blocks : List Bytes) : Prop :=
  offset ≠ 0 ∨ ∀ block ∈ blocks.head?, 8 < block.length

theorem blockDescriptors_footed (hec : stream.errorStatusEnabled = true) {blocks : List Bytes}
    (hblocks : ∀ block ∈ blocks, IsSliceBlock stream block) (index : Nat) {offset : Nat}
    (hbody : HasBody offset blocks) :
    ∀ slice ∈ blockDescriptors stream index offset blocks, Footed slice := by
  induction blocks generalizing index offset with
  | nil => exact fun slice hslice => absurd hslice List.not_mem_nil
  | cons block blocks ih =>
    obtain ⟨hblock, hrest⟩ := List.forall_mem_cons.mp hblocks
    have hsize := blockDescriptor_size hec offset hblock
    have hfooter : (blockDescriptor stream offset block).footerByteOffset =
        offset + (blockDescriptor stream offset block).sliceSize := rfl
    refine List.forall_mem_cons.mpr ⟨⟨?_, ?_, ?_⟩, ih hrest (index + 1) (.inl ?_)⟩
    · dsimp only
      rw [hfooter, blockDescriptor_payloadByteOffset, Nat.add_sub_cancel_left, hsize,
        blockDescriptor_payload]
    · dsimp only
      rw [hfooter]
      rcases hbody with hoffset | hhead
      · exact .inl (by omega)
      · have := hhead block rfl
        exact .inr (by omega)
    · unfold blockDescriptor SliceDescriptor.locatedAt SliceDescriptor.withFooter
      rw [hec]
      rfl
    · have := hblock.pos
      omega

theorem blockDescriptors_same (hec : stream.errorStatusEnabled = true) {blocks blocks' : List Bytes}
    (hsame : List.Forall₂ SameBlock blocks blocks')
    (hblocks : ∀ block ∈ blocks, IsSliceBlock stream block) (index offset : Nat) :
    List.Forall₂ SameBody (blockDescriptors stream index offset blocks)
      (blockDescriptors stream index offset blocks') := by
  induction hsame generalizing index offset with
  | nil => exact .nil
  | cons hfirst _ ih =>
    obtain ⟨hblock, hrest⟩ := List.forall_mem_cons.mp hblocks
    unfold blockDescriptors
    rw [hfirst.length]
    exact .cons (blockDescriptor_same hec index offset hblock hfirst) (ih hrest _ _)

end Blocks

section Payloads

variable {stream : StreamParameters} {blocks blocks' : List Bytes} {payload payload' : Bytes}
  {output : FrameView}

theorem flatten_same (hsame : List.Forall₂ SameBlock blocks blocks') :
    blocks'.flatten.length = blocks.flatten.length := by
  induction hsame with
  | nil => rfl
  | cons hfirst _ ih =>
    rw [List.flatten_cons, List.flatten_cons, List.length_append, List.length_append,
      hfirst.length, ih]

theorem payload_same (hblocks : ConcatenatesTo stream blocks payload)
    (hblocks' : ConcatenatesTo stream blocks' payload')
    (hsame : List.Forall₂ SameBlock blocks blocks') : payload' = [] ↔ payload = [] := by
  rw [← List.length_eq_zero_iff, ← List.length_eq_zero_iff, ← hblocks.1, ← hblocks'.1,
    flatten_same hsame]

theorem locateSlices_same (hblocks : ConcatenatesTo stream blocks payload)
    (hblocks' : ConcatenatesTo stream blocks' payload')
    (hsame : List.Forall₂ SameBlock blocks blocks') {maximum : Nat}
    {located : List SliceDescriptor}
    (h : SlicePayloadLocator.locateSlices payload stream maximum false = .ok located) :
    located = blockDescriptors stream 0 0 blocks ∧
      SlicePayloadLocator.locateSlices payload' stream maximum false =
        .ok (blockDescriptors stream 0 0 blocks') := by
  have hlimits : 1 ≤ maximum ∧ maximum < 2 ^ 32 := by
    simp only [SlicePayloadLocator.locateSlices, except_bind_ok, exists_unit, failIf_ok_iff] at h
    obtain ⟨hpos, hmax, -⟩ := h
    omega
  obtain ⟨found, hfound, hcount, -, rfl⟩ :=
    (locateSlices_ok_iff hlimits.1 hlimits.2 false located).mp h
  obtain rfl : found = blocks :=
    (concatenatesTo_iff.mp hfound).unique (concatenatesTo_iff.mp hblocks)
  refine ⟨rfl, (locateSlices_ok_iff hlimits.1 hlimits.2 false _).mpr
    ⟨blocks', hblocks', hsame.length_eq ▸ hcount, fun hverify => ?_, rfl⟩⟩
  cases hverify

/-- The slices of an accepted frame have their contents in front of their footers. -/
theorem validateEach_content {slices : List SliceDescriptor}
    (h : SliceExecutor.validateEach stream output slices = .ok ()) :
    ∀ slice ∈ slices, Footed slice → slice.contentByteOffset - slice.payloadByteOffset ≤
      slice.footerByteOffset - slice.payloadByteOffset + 1 := by
  induction slices with
  | nil => exact fun slice hslice => absurd hslice List.not_mem_nil
  | cons slice slices ih =>
    simp only [SliceExecutor.validateEach, except_bind_ok, exists_unit] at h
    exact List.forall_mem_cons.mpr
      ⟨fun hfooted => validateSlice_content hfooted h.1, ih h.2⟩

/-- The frames have the same slices, but for what their blocks differ in. -/
theorem parseWithRangeHeader_same (hec : stream.errorStatusEnabled = true)
    (hblocks : ConcatenatesTo stream blocks payload)
    (hblocks' : ConcatenatesTo stream blocks' payload')
    (hsame : List.Forall₂ SameBlock blocks blocks') (hbody : HasBody 0 blocks)
    {frame : FrameDecodeContext}
    (hparse : FrameParser.parseWithRangeHeader stream false payload = .ok frame)
    (hvalid : SliceExecutor.validateEach stream output frame.slices = .ok ()) :
    (∀ slice ∈ frame.slices, Footed slice) ∧
      ∃ frame', FrameParser.parseWithRangeHeader stream false payload' = .ok frame' ∧
        frame'.keyframe = frame.keyframe ∧ List.Forall₂ SameBody frame.slices frame'.slices := by
  simp only [FrameParser.parseWithRangeHeader, FrameParser.parseLocatedRangeSlices,
    FrameParser.initializeFrame, except_bind_ok, exists_unit, failIf_ok_iff] at hparse
  obtain ⟨_, ⟨hsome, hsize, hgrid, hinit⟩, located, hlocated, ⟨flag, slices⟩, hslices, hcover,
    hframe⟩ := hparse
  obtain rfl := Except.ok.inj hinit
  obtain rfl := Except.ok.inj hframe
  obtain ⟨rfl, hlocated'⟩ := locateSlices_same hblocks hblocks' hsame hlocated
  obtain ⟨hfooted, slices', hslices', hsames⟩ := FrameParser.parseLocatedSlices_same
    (blockDescriptors_same hec hsame hblocks.2 0 0)
    (blockDescriptors_footed hec hblocks.2 0 hbody) hslices (validateEach_content hvalid)
  refine ⟨hfooted, FrameParser.finalizeFrameMetadata
    { slices := slices', frameInfo := makeFrameInfo stream } flag, ?_, rfl, hsames⟩
  simp only [FrameParser.parseWithRangeHeader, FrameParser.parseLocatedRangeSlices,
    FrameParser.initializeFrame, except_bind_ok, exists_unit, failIf_ok_iff]
  refine ⟨_, ⟨mt (payload_same hblocks hblocks' hsame).mp hsome, hsize, hgrid, rfl⟩, _, hlocated',
    (flag, slices'), hslices', ?_, rfl⟩
  rw [validateSliceRasterCoverage_same hsames]
  exact hcover

theorem readFrame_same {decoder : Decoder} (hstream : decoder.stream = some stream)
    (hversion : 3 ≤ stream.version) (hec : stream.errorStatusEnabled = true)
    (hverify : decoder.options.verifyCrc = false)
    (hblocks : ConcatenatesTo stream blocks payload)
    (hblocks' : ConcatenatesTo stream blocks' payload')
    (hsame : List.Forall₂ SameBlock blocks blocks') (hbody : HasBody 0 blocks)
    {frame : FrameDecodeContext} (hread : decoder.readFrame payload = .ok (stream, frame))
    (hvalid : SliceExecutor.validateEach stream output frame.slices = .ok ()) :
    (∀ slice ∈ frame.slices, Footed slice) ∧
      ∃ frame', decoder.readFrame payload' = .ok (stream, frame') ∧
        frame'.keyframe = frame.keyframe ∧ List.Forall₂ SameBody frame.slices frame'.slices := by
  have hparser (bytes : Bytes) : Decoder.parseFrame decoder.options stream bytes =
      FrameParser.parseWithRangeHeader stream false bytes := by
    unfold Decoder.parseFrame
    rw [if_pos hversion, hverify]
  unfold Decoder.readFrame at hread ⊢
  simp only [hstream, hparser, except_bind_ok, exists_unit, failIf_ok_iff] at hread ⊢
  obtain ⟨hsize, hsome, parsed, hparsed, hpair⟩ := hread
  obtain rfl := (Prod.mk.inj (Except.ok.inj hpair)).2
  obtain ⟨hfooted, frame', hframe', hkeyframe, hsames⟩ :=
    parseWithRangeHeader_same hec hblocks hblocks' hsame hbody hparsed hvalid
  exact ⟨hfooted, frame', ⟨hsize, mt (payload_same hblocks hblocks' hsame).mp hsome, frame', hframe',
    rfl⟩, hkeyframe, hsames⟩

variable {hardwareConcurrency : Nat} {order : List Nat} {run next : Decoder.Run}
  {frame frame' : FrameDecodeContext}

theorem decodeFrame_congr (hread : run.decoder.readFrame payload = .ok (stream, frame))
    (hread' : run.decoder.readFrame payload' = .ok (stream, frame'))
    (hdecode : ∀ threadCount, SliceExecutor.decode stream threadCount order output frame'.slices
      frame'.keyframe = SliceExecutor.decode stream threadCount order output frame.slices
        frame.keyframe) :
    Decoder.decodeFrame hardwareConcurrency order payload' output run =
      Decoder.decodeFrame hardwareConcurrency order payload output run := by
  unfold Decoder.decodeFrame
  rw [Mirror.get_bind, Mirror.get_bind, hread, hread',
    Mirror.bind_ok (Mirror.ofExcept_ok_iff.mpr ⟨rfl, rfl⟩),
    Mirror.bind_ok (Mirror.ofExcept_ok_iff.mpr ⟨rfl, rfl⟩)]
  dsimp only
  rw [hdecode]

/-- A frame that is decoded was read, and its slices were accepted. -/
theorem decodeFrame_validated (hstream : run.decoder.stream = some stream)
    (h : Decoder.decodeFrame hardwareConcurrency order payload output run = .ok () next) :
    ∃ frame, run.decoder.readFrame payload = .ok (stream, frame) ∧
      SliceExecutor.validateEach stream output frame.slices = .ok () := by
  unfold Decoder.decodeFrame at h
  simp only [Mirror.get_bind, Mirror.bind_ok_iff, Mirror.ofExcept_ok_iff] at h
  obtain ⟨⟨read, frame⟩, _, ⟨hread, rfl⟩, _, _, ⟨-, rfl⟩, hrest⟩ := h
  obtain rfl : read = stream := by
    have hconfigured := hread
    unfold Decoder.readFrame at hconfigured
    simp only [hstream, except_bind_ok, exists_unit] at hconfigured
    obtain ⟨-, -, _, -, hpair⟩ := hconfigured
    exact (Prod.mk.inj (Except.ok.inj hpair)).1.symm
  refine ⟨frame, hread, ?_⟩
  dsimp only at hrest
  generalize hdecode : SliceExecutor.decode read _ order output frame.slices frame.keyframe _ =
    result at hrest
  cases result with
  | ok _ execution =>
    unfold SliceExecutor.decode at hdecode
    obtain ⟨_, _, hvalid, -⟩ := Mirror.bind_ok_iff.mp hdecode
    have hslices := (Mirror.ofExcept_ok_iff.mp hvalid).1
    simp only [SliceExecutor.validateSlices, except_bind_ok, exists_unit] at hslices
    exact hslices.2
  | error status execution => cases hrest

end Payloads

/-- A frame that is decoded without a check of its parities is decoded to the same samples and
the same reference states whatever error statuses and parities its footers have, if its first
slice has a body. -/
theorem decodeFrame_ignores_footer_data {hardwareConcurrency : Nat} {order : List Nat}
    {run next : Decoder.Run} {stream : StreamParameters} (hstream : run.decoder.stream = some stream)
    (hversion : 3 ≤ stream.version) (hec : stream.errorStatusEnabled = true)
    (hverify : run.decoder.options.verifyCrc = false) {blocks blocks' : List Bytes}
    {payload payload' : Bytes} (hblocks : ConcatenatesTo stream blocks payload)
    (hblocks' : ConcatenatesTo stream blocks' payload')
    (hsame : List.Forall₂ SameBlock blocks blocks')
    (hbody : ∀ block ∈ blocks.head?, 8 < block.length) {output : FrameView}
    (h : Decoder.decodeFrame hardwareConcurrency order payload output run = .ok () next) :
    Decoder.decodeFrame hardwareConcurrency order payload' output run = .ok () next := by
  obtain ⟨frame, hread, hvalid⟩ := decodeFrame_validated hstream h
  obtain ⟨hfooted, frame', hread', hkeyframe, hsames⟩ := readFrame_same hstream hversion hec hverify
    hblocks hblocks' hsame (.inr hbody) hread hvalid
  rw [decodeFrame_congr hread hread' fun threadCount => by
    rw [hkeyframe]
    exact SliceExecutor.decode_same hsames hfooted threadCount order output frame.keyframe]
  exact h

/-- Two slices with error statuses and parities, which the decoder does not check. -/
def protectedHalves : StreamParameters := { halvesStream with errorStatusEnabled := true }

def protectedHalvesRun : Decoder.Run :=
  { decoder :=
      { options := { threadCount := 2, verifyCrc := false }, stream := some protectedHalves }
    memory := SliceExecutor.emptyMemory }

/-- The blocks of a frame, with what their footers end with. -/
def protectedHalvesBlocks (left right : Bytes) : List Bytes :=
  [[254, 120, 115, 0, 0, 3] ++ left, [63, 116, 29, 0, 0, 3] ++ right]

theorem protectedHalves_blocks {left right : UInt8} {leftCrc rightCrc : Bytes}
    (hleft : left.toNat ≤ 2 ∧ leftCrc.length = 4) (hright : right.toNat ≤ 2 ∧ rightCrc.length = 4) :
    ConcatenatesTo protectedHalves (protectedHalvesBlocks (left :: leftCrc) (right :: rightCrc))
      (protectedHalvesBlocks (left :: leftCrc) (right :: rightCrc)).flatten := by
  have hshort : 3 ≤ SliceFooterWriter.maximumSliceSize := by decide
  exact ⟨rfl, List.forall_mem_cons.mpr
    ⟨⟨[254, 120, 115], hshort, left, leftCrc, hleft.1, hleft.2, rfl⟩,
      List.forall_mem_singleton.mpr
        ⟨[63, 116, 29], hshort, right, rightCrc, hright.1, hright.2, rfl⟩⟩⟩

/-- The right half is marked as damaged, and both parities are other ones. -/
theorem decodeFrame_ignores_footer_data_halves :
    Mirror.succeeded (Decoder.decodeFrame 8 [1, 0]
      (protectedHalvesBlocks [0, 0, 0, 0, 0] [0, 0, 0, 0, 0]).flatten halvesOutput
      protectedHalvesRun) = true ∧
    Mirror.succeeded (Decoder.decodeFrame 8 [1, 0]
      (protectedHalvesBlocks [0, 1, 2, 3, 4] [2, 7, 7, 7, 7]).flatten halvesOutput
      protectedHalvesRun) = true := by
  have hdecoded : Mirror.succeeded (Decoder.decodeFrame 8 [1, 0]
      (protectedHalvesBlocks [0, 0, 0, 0, 0] [0, 0, 0, 0, 0]).flatten halvesOutput
      protectedHalvesRun) = true := by decide +kernel
  have hplain : ConcatenatesTo protectedHalves
      (protectedHalvesBlocks [0, 0, 0, 0, 0] [0, 0, 0, 0, 0]) _ :=
    protectedHalves_blocks (by decide) (by decide)
  have hmarked : ConcatenatesTo protectedHalves
      (protectedHalvesBlocks [0, 1, 2, 3, 4] [2, 7, 7, 7, 7]) _ :=
    protectedHalves_blocks (by decide) (by decide)
  refine ⟨hdecoded, ?_⟩
  rw [@decodeFrame_ignores_footer_data 8 [1, 0] protectedHalvesRun _ protectedHalves rfl (by decide)
    rfl rfl _ _ _ _
    hplain hmarked
    (.cons ⟨rfl, rfl⟩ (.cons ⟨rfl, rfl⟩ .nil)) (by decide) halvesOutput
    (Mirror.eq_ok_of_succeeded hdecoded)]
  rfl

end Mffv1
