import Mffv1.RangeProgress
import Mffv1.RangeSlices

/-!
# The length of a range code

A decision appends at most one byte, so that a header is short, and what follows it makes
the code no shorter than the header. Closing the code can drop one zero: then the code ends
within the last byte of its header, and the size in the footer stands for the zero.
-/
namespace Mffv1

open SliceEncodeExecutor (cellHeader)

/-- A call appends at most `count` bytes. -/
def Appends {α : Type} (count : Nat) (call : Call RangeEncoder α) : Prop :=
  ∀ e a e', call e = .ok a e' →
    e.lowBytes.length ≤ e'.lowBytes.length ∧ e'.lowBytes.length ≤ e.lowBytes.length + count

namespace Appends

variable {α β : Type} {count later : Nat} {call : Call RangeEncoder α}

theorem mono (h : Appends count call) (hle : count ≤ later) : Appends later call := by
  intro e a e' hcall
  obtain ⟨hlow, hhigh⟩ := h e a e' hcall
  exact ⟨hlow, by omega⟩

theorem bind (h : Appends count call) {f : α → Call RangeEncoder β}
    (hf : ∀ a, Appends later (f a)) : Appends (count + later) (call >>= f) := by
  intro e b e' hboth
  obtain ⟨a, middle, hcall, hrest⟩ := Mirror.bind_ok_iff.mp hboth
  obtain ⟨hlow, hhigh⟩ := h e a middle hcall
  obtain ⟨hlow', hhigh'⟩ := hf a middle b e' hrest
  exact ⟨by omega, by omega⟩

theorem pure (a : α) : Appends 0 (Pure.pure a : Call RangeEncoder α) := by
  intro e a e' hcall
  obtain ⟨-, rfl⟩ := EStateM.Result.ok.inj hcall
  exact ⟨Nat.le_refl _, Nat.le_refl _⟩

theorem fails (status : Error) : Appends 0 (throw status : Call RangeEncoder α) := by
  intro e a e' hcall
  cases hcall

/-- A check appends nothing. -/
theorem first {check : Call RangeEncoder α} (hcheck : Appends 0 check) {f : α → Call RangeEncoder β}
    (hf : ∀ a, Appends later (f a)) : Appends later (check >>= f) :=
  (hcheck.bind hf).mono (by omega)

theorem failIf {condition : Prop} [Decidable condition] {error : Error} :
    Appends 0 (Mffv1.failIf condition error : Call RangeEncoder PUnit) := by
  intro e a e' hcall
  obtain ⟨-, rfl⟩ := failIf_call_ok_iff.mp hcall
  exact ⟨Nat.le_refl _, Nat.le_refl _⟩

theorem checkOpen : Appends 0 RangeEncoder.checkOpen := by
  intro e a e' hcall
  obtain ⟨rfl, -⟩ := checkOpen_ok hcall
  exact ⟨Nat.le_refl _, Nat.le_refl _⟩

end Appends

theorem writeRac_appends (state : UInt8) (bit : Bool) :
    Appends 1 (RangeEncoder.writeRac state bit) := by
  intro e a e' hcall
  obtain ⟨-, -, rfl, -⟩ := RangeEncoder.writeRac_ok hcall
  have hraised := RangeEncoder.raised_length e state bit
  unfold RangeEncoder.stepped RangeEncoder.renormalize
  split
  · simp only [List.length_append, List.length_singleton, hraised]
    omega
  · simp only [hraised]
    omega

theorem racAt_appends (bank context : Nat) (index : Fin 32) (bit : Bool) :
    Appends 1 (RangeEncoder.racAt bank context index bit) := by
  intro e a e' hcall
  unfold RangeEncoder.racAt at hcall
  rw [Mirror.get_bind] at hcall
  obtain ⟨state, written, hrac, hupdate⟩ := Mirror.bind_ok_iff.mp hcall
  rw [Mirror.modify_apply] at hupdate
  obtain ⟨-, rfl⟩ := EStateM.Result.ok.inj hupdate
  exact writeRac_appends _ _ e state written hrac

theorem writeDecisions_appends (bank context : Nat) (decisions : List RangeEncoder.Decision) :
    Appends decisions.length (RangeEncoder.writeDecisions bank context decisions) := by
  induction decisions with
  | nil => exact Appends.pure ()
  | cons decision decisions ih =>
    have hstep := (racAt_appends bank context decision.1 decision.2).bind fun _ => ih
    rw [Nat.add_comm] at hstep
    exact hstep

theorem writeUnsigned_appends (bank context value : Nat) :
    Appends 127 (RangeEncoder.writeUnsigned bank context value) := by
  refine Appends.first Appends.checkOpen fun _ e u e' hcall => ?_
  obtain ⟨_, middle, hcheck, hsymbol⟩ := Mirror.bind_ok_iff.mp hcall
  obtain ⟨hmax, rfl⟩ := failIf_call_ok_iff.mp hcheck
  obtain ⟨-, -, hwrite⟩ := writeSymbol_ok _ _ hsymbol
  exact (writeDecisions_appends bank context _).mono
    (RangeEncoder.symbolDecisions_length false false (Nat.le_of_not_lt hmax)) middle u e' hwrite

theorem writeQuantTableSetIndexes_appends (indexes : List Nat) :
    Appends (127 * indexes.length) (SliceHeaderWriter.writeQuantTableSetIndexes indexes) := by
  induction indexes with
  | nil => exact Appends.pure ()
  | cons index indexes ih =>
    exact ((writeUnsigned_appends 0 0 index).bind fun _ => ih).mono (by
      rw [List.length_cons]
      omega)

theorem writeBool_appends (bit : Bool) : Appends 1 (RangeEncoder.writeBool bit) := by
  refine Appends.first Appends.checkOpen fun _ e u e' hcall => ?_
  rw [Mirror.get_bind] at hcall
  exact Appends.first Appends.failIf (fun _ => racAt_appends 0 0 0 bit) e u e' hcall

theorem reconfigureContexts_appends (counts : List Nat) (initial : List ContextStateBank) :
    Appends 0 (RangeEncoder.reconfigureContexts counts initial) := by
  refine Appends.first Appends.checkOpen fun _ e u e' hcall => ?_
  unfold RangeEncoder.assignContexts at hcall
  cases hcontexts : RangeEncoder.initializeContexts counts initial defaultInitialState with
  | error status =>
    rw [hcontexts] at hcall
    cases hcall
  | ok contexts =>
    rw [hcontexts] at hcall
    dsimp only at hcall
    rw [Mirror.modify_apply] at hcall
    obtain ⟨-, rfl⟩ := EStateM.Result.ok.inj hcall
    exact ⟨Nat.le_refl _, Nat.le_refl _⟩

theorem writeValues_appends (values : SliceHeaderValues) :
    Appends (889 + 127 * values.quantTableSetIndexes.length)
      (SliceHeaderWriter.writeValues values) := by
  have hnumber := writeUnsigned_appends 0 0
  refine Appends.mono ((hnumber _).bind fun _ => (hnumber _).bind fun _ => (hnumber _).bind fun _ =>
    (hnumber _).bind fun _ => (writeQuantTableSetIndexes_appends _).bind fun _ =>
      (hnumber _).bind fun _ => (hnumber _).bind fun _ => hnumber _) ?_
  omega

theorem writeHeader_length {stream : StreamParameters} {values : SliceHeaderValues}
    {writeKeyframe keyframe : Bool} {u : Unit} {written : RangeEncoder}
    (hindexes : ∀ index ∈ values.quantTableSetIndexes, index < 2 ^ 32)
    (hwrite : SliceEncoder.writeHeader stream values writeKeyframe keyframe {} = .ok u written) :
    written.lowBytes.length < 2 ^ 16 := by
  have hcount := (writeHeader_checked hindexes hwrite).1.index_count
  have hle := quantTableSetIndexCount_le stream
  obtain ⟨_, started, hreset, hbody⟩ := Mirror.bind_ok_iff.mp hwrite
  have hstarted : started.lowBytes.length = 2 := by
    unfold RangeEncoder.resetSingle RangeEncoder.resetImpl at hreset
    cases hcontexts : RangeEncoder.initializeContexts [1] [] defaultInitialState with
    | error status =>
      rw [hcontexts] at hreset
      cases hreset
    | ok contexts =>
      rw [hcontexts] at hreset
      obtain ⟨-, rfl⟩ := EStateM.Result.ok.inj hreset
      rfl
  have hflag : Appends 1 (if writeKeyframe = true then do
      RangeEncoder.writeBool keyframe
      RangeEncoder.reconfigureContexts [1] []
    else pure () : Call RangeEncoder Unit) := by
    cases writeKeyframe with
    | true => exact (writeBool_appends keyframe).bind fun _ => reconfigureContexts_appends [1] []
    | false => exact (Appends.pure ()).mono (Nat.zero_le 1)
  have hvalues : Appends (889 + 127 * values.quantTableSetIndexes.length)
      (SliceHeaderWriter.write stream values) := by
    unfold SliceHeaderWriter.write
    cases SliceHeaderParser.applyRaster stream values {} with
    | error status => exact (Appends.fails status).mono (Nat.zero_le _)
    | ok slice =>
      exact Appends.first Appends.failIf fun _ => Appends.first Appends.failIf fun _ =>
        writeValues_appends values
  obtain ⟨-, hhigh⟩ := (hflag.bind fun _ => hvalues) started u written hbody
  omega

section Codes

variable {stream : StreamParameters} {memory : FrameMemory} {inputs : List PlaneWindow}
  {sliceIndex : Nat} {keyframe : Bool} {started after : SliceState} {code block : Bytes}
  {written configured : RangeEncoder} {banks : List ContextStateBank}
  {encoding : Encoding RangeEncoder}

theorem dropTrailingZero_length_ge (bytes : Bytes) :
    bytes.length ≤ (RangeEncoder.dropTrailingZero bytes).length + 1 := by
  unfold RangeEncoder.dropTrailingZero
  split
  · rw [List.length_dropLast]
    omega
  · omega

/-- The code of a cell misses at most one byte of its header. -/
theorem RangeCoding.header_length_le (coding : RangeCoding stream memory inputs sliceIndex keyframe
    started after code written configured banks encoding) :
    written.lowBytes.length ≤ code.length + 1 := by
  have hconfigured := (reconfigureContexts_appends _ _ written () configured coding.contexts).1
  have hwrite (bank context : Nat) (value : Int) :
      Mirror.Keeps (fun writer : RangeEncoder => written.lowBytes.length ≤ writer.lowBytes.length)
        (RangeEncoder.writeSigned bank context value) :=
    Mirror.Keeps.bind RangeEncoder.checkOpen_keeps fun _ =>
      Mirror.Keeps.bind RangeEncoder.failIf_keeps fun _ =>
        RangeEncoder.writeSymbol_keeps (fun _ _ _ hlow => hlow)
          (fun state bit e s e' hlow hrac => Nat.le_trans hlow (writeRac_appends state bit e s e' hrac).1)
          bank context true _ _
  have hend := encodeSamples_keeps hwrite stream memory inputs
    { writer := configured, state := started } () encoding hconfigured coding.samples
  have hclosed := dropTrailingZero_length_ge (ByteValue.addCarry encoding.writer.lowBytes
    (RangeEncoder.closingDelta encoding.writer.lowBytes encoding.writer.range.toNat)).1
  rw [ByteValue.addCarry_length] at hclosed
  rw [coding.code]
  exact Nat.le_trans hend hclosed

/-- The block of a cell continues the header, also where the code ends within it. -/
theorem RangeCoding.fits_block (coding : RangeCoding stream memory inputs sliceIndex keyframe
      started after code written configured banks encoding) (hfits : written.Fits code)
    (hfooter : SliceFooterWriter.append stream 0 code = .ok block) :
    written.Fits block ∧ written.lowBytes.length ≤ block.length := by
  have hlength := coding.header_length_le
  have hshort := writeHeader_length (cellHeader_indexes stream sliceIndex) coding.header
  obtain ⟨-, -, footer, rfl, hfooterLength, htake, -⟩ := append_ok hfooter
  have hprefix : ByteValue.prefixValue (code ++ footer) written.lowBytes.length =
      ByteValue.prefixValue code written.lowBytes.length := by
    refine ByteValue.prefixValue_congr fun i hi => ?_
    by_cases hinside : i < code.length
    · exact List.getD_append _ _ _ _ hinside
    · -- the footer begins with a zero, as the code is short
      have hend : i = code.length := by omega
      have hsize : code.length / 2 ^ 16 = 0 := Nat.div_eq_of_lt (by omega)
      rw [List.getD_append_right _ _ _ _ (by omega), List.getD_eq_default code 0 (by omega), hend,
        Nat.sub_self]
      cases footer with
      | nil => rfl
      | cons byte rest =>
        unfold SliceFooterWriter.bigEndian24 at htake
        rw [hsize, List.take_succ_cons] at htake
        exact (List.cons.inj htake).1
  have hroom : 1 ≤ footer.length := by
    rw [hfooterLength]
    unfold SliceFooterParser.footerSize
    split <;> omega
  constructor
  · unfold RangeEncoder.Fits RangeCoding.Interval.Holds at hfits ⊢
    rw [expansion_head] at hfits ⊢
    exact hprefix ▸ hfits
  · rw [List.length_append]
    omega

end Codes

end Mffv1
