import Mffv1.ConfigurationRecord
import Mffv1.Encoder

/-!
# The profile of an encoder

The streams that an encoder can be configured with. All of them have the table set of
zeros, so that a record of the profile can always be written: an encoder is configured
exactly with what its profile accepts.
-/
namespace Mffv1

open ConfigurationParser (mirrorTable int32Max)
open ConfigurationRecordWriter (runLength)

/-- A single run fills a table with zeros. -/
theorem steppedTable_one (scale : Nat) : steppedTable scale 1 = Vector.replicate 256 0 := by
  have hfilled (k : Nat) : QuantTable.entry
      (Vector.ofFn fun i : Fin 256 => Int32.ofNat (scale * min i.val (1 - 1))) k = 0 := by
    by_cases hk : k < 256
    · rw [QuantTable.entry_ofFn _ hk, Nat.sub_self, Nat.min_zero, Nat.mul_zero]
      rfl
    · unfold QuantTable.entry
      rw [Vector.getElem?_eq_none (Nat.le_of_not_lt hk)]
      rfl
  have hneg : -(0 : Int32) = 0 := by decide
  unfold steppedTable mirrorTable
  refine Vector.ext fun i hi => ?_
  rw [Vector.getElem_ofFn, Vector.getElem_replicate]
  simp only [hfilled, hneg, ite_self]

theorem replicate_five {α : Type} (a : α) : Vector.replicate 5 a = #v[a, a, a, a, a] := by
  refine Vector.ext fun i hi => ?_
  rw [Vector.getElem_replicate]
  match i, hi with
  | 0, _ | 1, _ | 2, _ | 3, _ | 4, _ => rfl

theorem makeZeroQuantTableSet_eq : makeZeroQuantTableSet = steppedSet 1 1 := by
  have hset : steppedSet 1 1 = ⟨#v[steppedTable 1 1, steppedTable 1 1, steppedTable 1 1,
      steppedTable 1 1, steppedTable 1 1], 1⟩ := by
    unfold steppedSet
    simp only [Nat.mul_one, Nat.add_one_sub_one]
    rfl
  rw [hset, ← replicate_five, steppedTable_one]
  rfl

theorem makeZeroQuantTableSet_encodable : setEncodable makeZeroQuantTableSet = true := by
  rw [makeZeroQuantTableSet_eq]
  exact steppedSet_encodable Nat.one_pos (by decide) Nat.one_pos (by decide)

/-- What `normalize_encoder_profile` accepts. -/
structure AcceptedProfile (options : EncoderOptions) (info : StreamInfo) : Prop where
  extent : info.width ≠ 0 ∧ info.height ≠ 0
  version : options.version = 3 ∧ info.version = 3
  bitDepth : isSupportedBitDepth info.bitsPerRawSample = true
  rgbGeometry : hasInvalidRgbGeometry (decide (info.colorSpace = .rgb)) info.hasChromaPlanes
    info.log2HChromaSubsample info.log2VChromaSubsample = false
  subsamplingChroma : hasSubsamplingWithoutChroma info.hasChromaPlanes info.log2HChromaSubsample
    info.log2VChromaSubsample = false
  subsampling : isSupportedChromaSubsampling info.log2HChromaSubsample
    info.log2VChromaSubsample = true
  grid : info.numHSlices ≠ 0 ∧ info.numVSlices ≠ 0
  parallel : requiresVersion3ParallelSliceLimit 3 info.width info.height = true →
    4 ≤ cellCount64 (profileStream options info)
  regions : ¬hasEmptyPlaneRegion (profileStream options info)

/-- The stream of an accepted profile. -/
def encoderStream (options : EncoderOptions) (info : StreamInfo) : StreamParameters :=
  { profileStream options info with
    quantTableSets := [makeZeroQuantTableSet]
    intraOnly := decide (options.keyframeInterval = 1) }

theorem normalizeEncoderProfile_ok_iff (options : EncoderOptions) (info : StreamInfo)
    (stream : StreamParameters) : normalizeEncoderProfile options info = .ok stream ↔
      AcceptedProfile options info ∧ stream = encoderStream options info := by
  have hversion (n : UInt8) : (3 : Int) = n.toNat ↔ n = 3 := by
    rw [← UInt8.toNat_inj]
    exact ⟨fun h => by exact_mod_cast h.symm, fun h => by rw [h]; rfl⟩
  have hpure : (pure (encoderStream options info) : Except Error StreamParameters) = .ok stream ↔
      stream = encoderStream options info := ⟨fun h => (Except.ok.inj h).symm, fun h => by rw [h]; rfl⟩
  unfold normalizeEncoderProfile
  simp only [except_bind_ok, exists_unit, failIf_ok_iff, ← and_assoc]
  refine and_congr ?_ hpure
  constructor
  · rintro ⟨⟨⟨⟨⟨⟨⟨⟨⟨hextent, hmatch⟩, hthree⟩, hdepth⟩, hrgb⟩, hchroma⟩, hsubsampling⟩, hgrid⟩,
      hparallel⟩, hregions⟩
    have hoption : options.version = 3 := not_not.mp hthree
    rw [hoption] at hmatch
    exact
      { extent := not_or.mp hextent
        version := ⟨hoption, (hversion _).mp (not_not.mp hmatch)⟩
        bitDepth := eq_true_of_ne_false hdepth
        rgbGeometry := eq_false_of_ne_true hrgb
        subsamplingChroma := eq_false_of_ne_true hchroma
        subsampling := eq_true_of_ne_false hsubsampling
        grid := not_or.mp hgrid
        parallel := fun hlarge => UInt64.not_lt.mp fun hfew => hparallel ⟨hlarge, hfew⟩
        regions := hregions }
  · intro h
    have hmatch : options.version = info.version.toNat := by rw [h.version.1, h.version.2]; rfl
    exact ⟨⟨⟨⟨⟨⟨⟨⟨⟨not_or.mpr h.extent, not_not.mpr hmatch⟩, not_not.mpr h.version.1⟩,
      ne_false_of_eq_true h.bitDepth⟩, ne_true_of_eq_false h.rgbGeometry⟩,
      ne_true_of_eq_false h.subsamplingChroma⟩, ne_false_of_eq_true h.subsampling⟩,
      not_or.mpr h.grid⟩, fun hlarge => absurd hlarge.2 (UInt64.not_lt.mpr (h.parallel hlarge.1))⟩,
      h.regions⟩

section Accepted

variable {options : EncoderOptions} {info : StreamInfo} {encoder : Encoder}

theorem AcceptedProfile.validProfile (h : AcceptedProfile options info) :
    ValidProfile (encoderStream options info) := by
  have hcolorspace : decide ((encoderStream options info).colorspaceType = 1) =
      decide (info.colorSpace = .rgb) := by
    unfold encoderStream profileStream
    cases info.colorSpace <;> rfl
  refine
    { version := rfl
      microVersion := rfl
      colorspace := ?_
      bitDepth := h.bitDepth
      rgbGeometry := ?_
      subsamplingChroma := h.subsamplingChroma
      subsampling := h.subsampling
      grid := h.grid
      setCount := ⟨List.cons_ne_nil _ _, Nat.le_of_ble_eq_true rfl⟩
      contexts := ?_
      stateSetCount := .inl rfl
      initialStates := rfl }
  · unfold encoderStream profileStream
    cases info.colorSpace <;> rfl
  · rw [hcolorspace]
    exact h.rgbGeometry
  · intro tableSet hset
    rw [List.mem_singleton.mp hset]
    unfold makeZeroQuantTableSet
    decide

theorem AcceptedProfile.written (h : AcceptedProfile options info) :
    ∃ record, ConfigurationRecordWriter.write (encoderStream options info) = .ok record := by
  refine ConfigurationRecordWriter.write_of_encodable h.validProfile fun tableSet hset => ?_
  rw [List.mem_singleton.mp hset]
  exact makeZeroQuantTableSet_encodable

theorem AcceptedProfile.normalized (h : AcceptedProfile options info) :
    normalizeEncoderProfile options info = .ok (encoderStream options info) :=
  (normalizeEncoderProfile_ok_iff options info _).mpr ⟨h, rfl⟩

/-- A configuration by what it computes. -/
theorem Encoder.configure_eq (info : StreamInfo) (encoder : Encoder) :
    Encoder.configure info encoder =
      match normalizeEncoderProfile encoder.options info with
      | .error status => .error status encoder
      | .ok stream => match ConfigurationRecordWriter.write stream with
        | .error status => .error status encoder
        | .ok record =>
          .ok record { encoder with stream := some stream, executor := {}, nextFrameIndex := 0 } := by
  unfold Encoder.configure
  rw [Mirror.get_bind]
  cases normalizeEncoderProfile encoder.options info with
  | error status => rfl
  | ok stream =>
    rw [Mirror.bind_ok (Mirror.ofExcept_ok_iff.mpr ⟨rfl, rfl⟩)]
    dsimp only
    cases ConfigurationRecordWriter.write stream with
    | error status => rfl
    | ok record => rfl

/-- An accepted profile configures the encoder from its first frame on. -/
theorem AcceptedProfile.configured (h : AcceptedProfile encoder.options info) :
    ∃ record, Encoder.configure info encoder = .ok record { encoder with
      stream := some (encoderStream encoder.options info), executor := {}, nextFrameIndex := 0 } := by
  obtain ⟨record, hwrite⟩ := h.written
  refine ⟨record, ?_⟩
  rw [Encoder.configure_eq, h.normalized]
  dsimp only
  rw [hwrite]

end Accepted

end Mffv1
