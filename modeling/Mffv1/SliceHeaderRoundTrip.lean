import Mffv1.RangeSymbols
import Mffv1.SliceEncoder

/-!
# Slice headers are read back

The reader of a header, line by line against its writer. The checks of the reader
hold of every header that the writer accepts.
-/
namespace Mffv1

section Fields

variable {payload : Bytes} {base : List ContextStateBanks} {F : Prop} {α β : Type}
  {w : Call RangeEncoder α} {k : α → β}

open SliceHeaderParser (failHereIf readPosition readExtent readQuantTableSetIndexes uint32Max)

theorem Reads.passesHere {condition : Prop} [Decidable condition] {message : String}
    {g : Unit → Call RangeCoder β} (hnot : ¬condition) (h : Reads payload base F w (g ()) k) :
    Reads payload base F w (failHereIf condition message >>= g) k := by
  have hpass : failHereIf condition message = (Pure.pure () : Call RangeCoder Unit) := by
    funext reader
    unfold failHereIf
    rw [Mirror.get_bind, failIf_of_not hnot]
  rw [hpass, pure_bind]
  exact h

theorem position_reads {value count : UInt32} (h : value.toNat ≤ count.toNat) (message : String) :
    Reads payload base F (RangeEncoder.writeUnsigned 0 0 value.toNat) (readPosition count message)
      (fun _ => value) := by
  have hlt := value.toNat_lt
  refine (unsigned_reads 0 0 value.toNat).bind_last fun _ => Reads.passesHere ?_ ?_
  · unfold uint32Max
    omega
  · exact Reads.pure (by simp)

theorem extent_reads {value : UInt32} (h : value ≠ 0) (message : String) :
    Reads payload base F (RangeEncoder.writeUnsigned 0 0 (value - 1).toNat) (readExtent message)
      (fun _ => value) := by
  have hlt := value.toNat_lt
  have hpos : 1 ≤ value.toNat := Nat.pos_of_ne_zero fun hz => h (UInt32.toNat_inj.mp hz)
  have hsub : (value - 1).toNat = value.toNat - 1 :=
    UInt32.toNat_sub_of_le _ _ (UInt32.le_iff_toNat_le.mpr hpos)
  refine (unsigned_reads 0 0 (value - 1).toNat).bind_last fun _ => Reads.passesHere ?_ ?_
  · unfold uint32Max
    omega
  · refine Reads.pure ?_
    rw [hsub, Nat.sub_add_cancel hpos]
    simp

theorem indexes_reads {stream : StreamParameters} {indexes : List Nat}
    (hindexes : ∀ index ∈ indexes, index < stream.quantTableSets.length ∧ index < 2 ^ 32) :
    Reads payload base F (SliceHeaderWriter.writeQuantTableSetIndexes indexes)
      (readQuantTableSetIndexes stream indexes.length) (fun _ => indexes) := by
  induction indexes with
  | nil => exact Reads.pure rfl
  | cons index indexes ih =>
    obtain ⟨hlength, hsize⟩ := hindexes index List.mem_cons_self
    refine (unsigned_reads 0 0 index).bind fun _ => Reads.passesHere ?_ (Reads.passesHere ?_ ?_)
    · unfold uint32Max
      omega
    · omega
    · exact (ih fun other hmem => hindexes other (List.mem_cons_of_mem _ hmem)).map (index :: ·)

end Fields

section Headers

variable {payload : Bytes} {base : List ContextStateBanks} {F : Prop} {stream : StreamParameters}
  {values : SliceHeaderValues}

/-- What the writer checks of a header. Indexes are 32 bits wide in the source. -/
structure WritableHeader (stream : StreamParameters) (values : SliceHeaderValues) : Prop where
  placed : ∃ slice, SliceHeaderParser.applyRaster stream values {} = .ok slice
  index_count : values.quantTableSetIndexes.length = stream.quantTableSetIndexCount
  index_lt : ∀ index ∈ values.quantTableSetIndexes, index < 2 ^ 32
  aspect_ratio : values.sarNum = 0 ↔ values.sarDen = 0

/-- The raster rectangle of a writable header. -/
theorem WritableHeader.raster (h : WritableHeader stream values) :
    values.width ≠ 0 ∧ values.height ≠ 0 ∧
      values.x.toNat + values.width.toNat ≤ stream.numHSlices.toNat ∧
      values.y.toNat + values.height.toNat ≤ stream.numVSlices.toNat ∧
      (∀ index ∈ values.quantTableSetIndexes, index < stream.quantTableSets.length) ∧
      values.pictureStructure ≤ 3 := by
  obtain ⟨slice, hslice⟩ := h.placed
  simp only [SliceHeaderParser.applyRaster, SliceHeaderParser.validatePictureStructure,
    except_bind_ok, exists_unit, failIf_ok_iff, not_or, not_exists, not_and, Nat.not_le,
    Nat.not_lt] at hslice
  obtain ⟨⟨hwidth, hheight⟩, ⟨hx, hy, hright, hbottom⟩, -, hindexes, hpicture, -⟩ := hslice
  exact ⟨hwidth, hheight, add_le_of_not_sub_lt hx hright, add_le_of_not_sub_lt hy hbottom,
    hindexes, hpicture⟩

theorem values_reads (h : WritableHeader stream values) :
    Reads payload base F (SliceHeaderWriter.writeValues values) (SliceHeaderParser.read stream)
      (fun _ => values) := by
  obtain ⟨hwidth, hheight, hright, hbottom, hindexes, hpicture⟩ := h.raster
  have hindexes' : ∀ index ∈ values.quantTableSetIndexes,
      index < stream.quantTableSets.length ∧ index < 2 ^ 32 :=
    fun index hmem => ⟨hindexes index hmem, h.index_lt index hmem⟩
  have hrect : ¬(stream.numHSlices - values.x < values.width ∨
      stream.numVSlices - values.y < values.height) := by
    rw [UInt32.lt_iff_toNat_lt, UInt32.lt_iff_toNat_lt,
      UInt32.toNat_sub_of_le _ _ (UInt32.le_iff_toNat_le.mpr (by omega)),
      UInt32.toNat_sub_of_le _ _ (UInt32.le_iff_toNat_le.mpr (by omega))]
    omega
  unfold SliceHeaderWriter.writeValues SliceHeaderParser.read
  rw [← h.index_count]
  refine (position_reads (by omega) _).bind fun _ => ?_
  refine (position_reads (by omega) _).bind fun _ => ?_
  refine (extent_reads hwidth _).bind fun _ => ?_
  refine (extent_reads hheight _).bind fun _ => ?_
  refine Reads.passesHere hrect ?_
  refine (indexes_reads hindexes').bind fun _ => ?_
  refine (unsigned_reads 0 0 values.pictureStructure).bind fun _ => ?_
  refine Reads.passesHere (by omega) ?_
  refine (unsigned_reads 0 0 values.sarNum).bind fun _ => ?_
  refine (unsigned_reads 0 0 values.sarDen).bind_last fun _ => ?_
  by_cases hnum : values.sarNum = 0
  · have hden := h.aspect_ratio.mp hnum
    rw [if_pos (.inl hnum)]
    refine Reads.pure ?_
    cases values
    simp only at hnum hden
    subst hnum hden
    rfl
  · have hden : values.sarDen ≠ 0 := fun hz => hnum (h.aspect_ratio.mpr hz)
    rw [if_neg (by simp [hnum, hden])]
    exact Reads.pure rfl

/-- A header that is written was checked. -/
theorem writableHeader_of_write {writer written : RangeEncoder} {u : Unit}
    (hindexes : ∀ index ∈ values.quantTableSetIndexes, index < 2 ^ 32)
    (h : SliceHeaderWriter.write stream values writer = .ok u written) :
    WritableHeader stream values := by
  cases hslice : SliceHeaderParser.applyRaster stream values {} with
  | error status =>
    simp only [SliceHeaderWriter.write, hslice, Mirror.throw_apply] at h
    cases h
  | ok slice =>
    simp only [SliceHeaderWriter.write, hslice, Mirror.bind_ok_iff, failIf_call_ok_iff, exists_unit, and_assoc, exists_and_left,
      exists_eq_left, not_not] at h
    exact ⟨⟨slice, hslice⟩, h.1, hindexes, h.2.1⟩

theorem header_reads (hindexes : ∀ index ∈ values.quantTableSetIndexes, index < 2 ^ 32) :
    Reads payload base F (SliceHeaderWriter.write stream values) (SliceHeaderParser.read stream)
      (fun _ => values) := by
  by_cases hwritable : WritableHeader stream values
  · obtain ⟨slice, hslice⟩ := hwritable.placed
    unfold SliceHeaderWriter.write
    rw [hslice]
    exact Reads.checks fun _ => Reads.checks fun _ => values_reads hwritable
  · exact Mirror.Mirrors.of_error fun _ _ _ h => hwritable (writableHeader_of_write hindexes h)

/-- What a reader does with the start of a slice: the flag, where there is one, then the
header. -/
def readStart (stream : StreamParameters) (hasKeyframe keyframe : Bool) :
    Call RangeCoder (Bool × SliceHeaderValues) := do
  let keyframe ← (if hasKeyframe then do
      let keyframe ← RangeCoder.readBool
      RangeCoder.reconfigureContexts [1] []
      return keyframe
    else pure keyframe)
  let values ← SliceHeaderParser.read stream
  return (keyframe, values)

theorem start_reads (hindexes : ∀ index ∈ values.quantTableSetIndexes, index < 2 ^ 32)
    (writeKeyframe keyframe : Bool) :
    Reads payload base F (do
        (if writeKeyframe then do
          RangeEncoder.writeBool keyframe
          RangeEncoder.reconfigureContexts [1] []
        else pure ())
        SliceHeaderWriter.write stream values)
      (readStart stream writeKeyframe keyframe) (fun _ => (keyframe, values)) := by
  unfold readStart
  refine Reads.bind (k := fun _ => keyframe) ?_ fun _ => (header_reads hindexes).map (keyframe, ·)
  cases writeKeyframe with
  | false => exact Reads.pure rfl
  | true =>
    refine (bool_reads keyframe).bind fun _ => ?_
    exact (reconfigureContexts_reads [1] []).map fun _ => keyframe

/-- A start of a slice that is written was checked, and its writer can be finalized. -/
theorem writeHeader_checked {writeKeyframe keyframe : Bool} {u : Unit} {written : RangeEncoder}
    (hindexes : ∀ index ∈ values.quantTableSetIndexes, index < 2 ^ 32)
    (hwrite : SliceEncoder.writeHeader stream values writeKeyframe keyframe {} = .ok u written) :
    WritableHeader stream values ∧ written.Ready := by
  obtain ⟨_, started, hreset, hbody⟩ := Mirror.bind_ok_iff.mp hwrite
  obtain ⟨_, _, -, hheader⟩ := Mirror.bind_ok_iff.mp hbody
  have hreads : Reads [] [] False _ (readStart stream writeKeyframe keyframe) _ :=
    start_reads hindexes writeKeyframe keyframe
  exact ⟨writableHeader_of_write hindexes hheader,
    (hreads started _ written (RangeEncoder.resetImpl_ready hreset) hbody).1⟩

/-- The start of a slice is read back by a coder on any bytes that the writer fits. -/
theorem start_read_back {bytes : Bytes} {writeKeyframe keyframe : Bool} {written : RangeEncoder}
    (hindexes : ∀ index ∈ values.quantTableSetIndexes, index < 2 ^ 32)
    (hwrite : SliceEncoder.writeHeader stream values writeKeyframe keyframe {} = .ok () written)
    (hfits : written.Fits bytes) (hlength : 2 ≤ bytes.length) :
    ∃ start reader, RangeCoder.resetSingle bytes stream.stateTransition {} = .ok () start ∧
      readStart stream writeKeyframe keyframe start = .ok (keyframe, values) reader ∧
      Tracks bytes [] written reader := by
  obtain ⟨_, started, hreset, hbody⟩ := Mirror.bind_ok_iff.mp hwrite
  have hreads : Reads bytes [] False _ (readStart stream writeKeyframe keyframe) _ :=
    start_reads hindexes writeKeyframe keyframe
  obtain ⟨-, hback⟩ := hreads started () written (RangeEncoder.resetImpl_ready hreset) hbody
  obtain ⟨hstarted, hread⟩ := hback hfits
  have hplain : ({} : RangeCoder).legacyV0Arithmetic = false := rfl
  obtain ⟨start, hstart, htracks⟩ := resetImpl_tracks hreset hstarted hlength hplain rfl
  obtain ⟨_, reader, hrun, rfl, hend⟩ := (hread start htracks).result
  exact ⟨start, reader, hstart, hrun, hend⟩

/-- Behind the bytes of `finalize` the coder has read all of them and nothing else. -/
theorem tracks_finalized {written : RangeEncoder} {tail : Bytes} {reader : RangeCoder}
    (h : Tracks (written.lowBytes ++ tail) [] written reader) :
    reader.bytePosition = written.lowBytes.length ∧ reader.low = 0 := by
  constructor
  · rw [h.window.position, List.length_append]
    exact Nat.min_eq_left (Nat.le_add_right _ _)
  · have hlow := h.window.low
    simp only [RangeEncoder.interval, ByteValue.prefixValue_append _ _ (Nat.le_refl _),
      ByteValue.prefixValue_length] at hlow
    exact UInt32.toNat_inj.mp (by simpa using hlow)

end Headers

end Mffv1
