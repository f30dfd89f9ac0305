import Mffv1.ConfigurationRecord
import Mffv1.Decoder
import Mffv1.SampleChecks

/-!
# The stream that a decoder reads back

The record of an encoder leaves out the dimensions, which the container repeats, and
comes back with a list of empty initial states. Neither side looks at that difference.
-/
namespace Mffv1

open ConfigurationRecordWriter (write)

/-- The stream of an encoder as its record is read back. -/
def StreamParameters.readBack (stream : StreamParameters) : StreamParameters :=
  { stream with initialStates := [[]] }

section Records

variable {stream : StreamParameters} {options : DecoderOptions} {record : Bytes}

/-- The container repeats the dimensions of the stream. -/
structure DecoderOptions.Repeats (options : DecoderOptions) (stream : StreamParameters) : Prop where
  width : options.frameWidth = stream.width
  height : options.frameHeight = stream.height
  extent : stream.width ≠ 0 ∧ stream.height ≠ 0

theorem recorded_readBack (h : ProfileStream stream) (hrepeats : options.Repeats stream) :
    Decoder.withFrameDimensions options stream.recorded = stream.readBack := by
  have hstates : codedInitialStates stream = [[]] := by
    unfold codedInitialStates
    rw [if_pos h.initialStates, h.model]
    rfl
  have htransition : codedTransition stream = stream.stateTransition := by
    unfold codedTransition
    split
    · exact h.transition.symm
    · rw [h.transition, default_transition_zero]
  unfold Decoder.withFrameDimensions StreamParameters.recorded StreamParameters.readBack
  rw [if_pos (by rw [hrepeats.width, hrepeats.height]; exact hrepeats.extent), hrepeats.width,
    hrepeats.height, hstates, htransition]

/-- A decoder takes the record of an encoder. -/
theorem configure_written (h : ProfileStream stream) (hwrite : write stream = .ok record)
    {decoder : Decoder} (hrepeats : decoder.options.Repeats stream) :
    Decoder.configure record decoder =
      .ok () { decoder with stream := some stream.readBack, executor := {} } := by
  have hsmall : ∀ tableSet ∈ stream.quantTableSets,
      ConfigurationParser.maxContextCount < tableSet.contextCount.toNat → False := by
    rw [h.model]
    intro tableSet hmem hlarge
    rw [List.mem_singleton.mp hmem] at hlarge
    exact absurd hlarge (by decide)
  have hparse := (parse_written hsmall hwrite).2.resolve_left id
  unfold Decoder.configure
  rw [hparse, Mirror.bind_ok (Mirror.ofExcept_ok_iff.mpr ⟨rfl, rfl⟩), Mirror.modify_apply,
    recorded_readBack h hrepeats]

end Records

/-- A stream that was read from the record of an encoder. -/
structure WrittenStream (stream : StreamParameters) : Prop where
  version : stream.version = 3
  model : stream.quantTableSets = [makeZeroQuantTableSet]
  states : stream.initialStates = [[]]
  valid : SliceEncoder.validateStream stream = .ok ()

section SameEncoder

variable {stream : StreamParameters}

theorem WrittenStream.sets_ne (h : WrittenStream stream) : stream.quantTableSets ≠ [] := by
  rw [h.model]
  exact List.cons_ne_nil _ _

theorem ProfileStream.readBack (h : ProfileStream stream) : WrittenStream stream.readBack where
  version := h.profile.version
  model := h.model
  states := rfl
  valid := by
    have hvalid := h.validStream
    simp only [SliceEncoder.validateStream, except_bind_ok, exists_unit, failIf_ok_iff] at hvalid ⊢
    obtain ⟨hcolour, hdepth, hrgb, hsub, hchroma, hsets, -, hcontexts, -⟩ := hvalid
    refine ⟨hcolour, hdepth, hrgb, hsub, hchroma, hsets, ?_, hcontexts, ?_⟩
    · change ¬([[]] ≠ [] ∧ ([[]] : List InitialStateSet).length ≠ stream.quantTableSets.length)
      rw [h.model]
      decide
    · exact fun hbad => hbad.2.1 rfl

theorem reset_readBack (windows : List PlaneWindow) (state : SliceState) :
    state.reset stream.readBack windows = state.reset stream windows := by
  have hlines (planeIndex : Nat) : SliceState.resetLines stream.readBack planeIndex windows =
      SliceState.resetLines stream planeIndex windows := by
    induction windows generalizing planeIndex with
    | nil => rfl
    | cons window windows ih =>
      unfold SliceState.resetLines
      rw [ih]
      rfl
  unfold SliceState.reset
  rw [hlines]

end SameEncoder

end Mffv1
