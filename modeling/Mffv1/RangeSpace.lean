import Mffv1.RangeAtomicity
import Mffv1.ContentRoundTrip

/-!
# Want of space

Under the default transition table a write of the range encoder fails for want of
space only, and so does the coding of samples: every context it asks for is there, and no
difference leaves the scalars that can be coded.
-/
namespace Mffv1

open Hoare (Settles Triple)

/-- The capacities that a frame can exceed: those of its vectors and counters, the table of
run lengths, and the 24 bits of a slice size. -/
inductive Capacity where
  | rangeOutput
  | bitPosition
  | bitstream
  | runTable
  | golombRicePayload
  | sliceSize
  | sliceCount
  | frameSize
  | frame

def Capacity.message : Capacity → String
  | rangeOutput => "range encoder output exceeds vector capacity"
  | bitPosition => "bitstream position exceeds uint64_t"
  | bitstream => "bitstream exceeds vector capacity"
  | runTable => "Golomb-Rice run index exceeds the supported table"
  | golombRicePayload => "Golomb-Rice slice payload exceeds vector capacity"
  | sliceSize => "slice payload exceeds the 24-bit slice size limit"
  | sliceCount => "encoder slice count exceeds container capacity"
  | frameSize => "encoded frame size is not representable"
  | frame => "encoded frame exceeds vector capacity"

/-- One of the capacities was exceeded. -/
def Error.Exhausted (status : Error) : Prop :=
  status.code = .resourceExhausted ∧ ∃ capacity : Capacity, status.message = capacity.message

/-- A call that goes from `P` to `Q` unless space runs out. -/
def Progresses {σ α : Type} (P : σ → Prop) (call : Call σ α) (Q : α → σ → Prop) : Prop :=
  Triple P call Q fun status _ => status.Exhausted

/-- A computation with a result in `φ` unless space runs out. -/
def Yields {α : Type} (φ : α → Prop) (x : Except Error α) : Prop := Settles φ Error.Exhausted x

section Progress

variable {σ α β : Type} {P : σ → Prop} {Q : α → σ → Prop} {S : β → σ → Prop} {condition : Prop}
  [Decidable condition] {error : Error}

theorem Progresses.bind {call : Call σ α} {f : α → Call σ β} (h : Progresses P call Q)
    (hf : ∀ a, Progresses (Q a) (f a) S) : Progresses P (call >>= f) S :=
  Triple.bind h hf

/-- A check that is passed. -/
theorem Progresses.passes {f : PUnit → Call σ α} (hnot : ¬condition)
    (h : Progresses P (f ⟨⟩) Q) : Progresses P (failIf condition error >>= f) Q := by
  rwa [failIf_of_not hnot, pure_bind]

/-- A check of a capacity. -/
theorem Progresses.limits {f : PUnit → Call σ α} (herror : error.Exhausted)
    (h : ¬condition → Progresses P (f ⟨⟩) Q) : Progresses P (failIf condition error >>= f) Q := by
  by_cases hc : condition
  · rw [failIf_of hc]
    exact fun e _ => herror
  · exact Progresses.passes hc (h hc)

theorem Yields.passes {f : PUnit → Except Error α} {φ : α → Prop} (hnot : ¬condition)
    (h : Yields φ (f ⟨⟩)) : Yields φ (failIf condition error >>= f) := by
  rwa [failIf_of_not hnot, pure_bind]

theorem Yields.limits {f : PUnit → Except Error α} {φ : α → Prop} (herror : error.Exhausted)
    (h : ¬condition → Yields φ (f ⟨⟩)) : Yields φ (failIf condition error >>= f) := by
  by_cases hc : condition
  · rw [failIf_of hc]
    exact herror
  · exact Yields.passes hc (h hc)

theorem Yields.computes {x : Except Error β} {f : β → Except Error α} {b : β} {φ : α → Prop}
    (hx : x = .ok b) (h : Yields φ (f b)) : Yields φ (x >>= f) := by
  rw [hx]
  exact h

theorem Progresses.valueOn {call : Call σ α} (h : Progresses P call Q) {e : σ} (he : P e)
    {φ : α → Prop} (hφ : ∀ a e', Q a e' → φ a) : Yields φ (call.valueOn e) := by
  have hends := h e he
  unfold Call.valueOn
  cases hcall : call e with
  | ok a e' =>
    rw [hcall] at hends
    exact hφ a e' hends
  | error status e' =>
    rw [hcall] at hends
    exact hends

end Progress

namespace RangeEncoder

/-- An encoder that only space can stop; `sizes` are those of its banks. -/
structure Lively (sizes : List Nat) (e : RangeEncoder) : Prop where
  roomy : e.Roomy
  table : e.stateTransition = defaultStateTransition
  states : LiveBanks e.scalarContexts
  sizes : e.scalarContexts.sizes = sizes

section Writes

variable {sizes : List Nat} {e : RangeEncoder} {bank context : Nat}

theorem Lively.bank_lt (h : e.Lively sizes) (hbank : bank < sizes.length) :
    bank < e.scalarContexts.length := by
  rw [← h.sizes] at hbank
  simpa [ContextStateBanks.sizes] using hbank

theorem Lively.context_lt (h : e.Lively sizes) (hbank : bank < sizes.length)
    (hcontext : context < sizes.getD bank 0) :
    context < (e.scalarContexts.getD bank []).length := by
  have hb := h.bank_lt hbank
  rw [← h.sizes, List.getD_eq_getElem _ _ (by simpa [ContextStateBanks.sizes] using hb)] at hcontext
  rw [List.getD_eq_getElem _ _ hb]
  simpa [ContextStateBanks.sizes] using hcontext

theorem Lively.withContexts (h : e.Lively sizes) {contexts : ContextStateBanks} {counts : List Nat}
    (hstates : LiveBanks contexts) (hsizes : contexts.sizes = counts) :
    Lively counts { e with scalarContexts := contexts } :=
  ⟨h.roomy.withContexts e contexts e.scalarContextSnapshots, h.table, hstates, hsizes⟩

/-- A live decision fails for want of space only. -/
theorem writeRac_progresses {state : UInt8} (hs : Live state) (bit : Bool) :
    Progresses (Lively sizes) (writeRac state bit) fun next e => Lively sizes e ∧ Live next := by
  intro e he
  have hready := he.roomy.bounded.ready
  have hne := nextRange_ne_zero bit hready.range_ge hready.range_le hs
  by_cases hspace : e.lowBytes.length + appended e.range state bit ≤ maxByteVectorSize
  · have hwrite := writeRac_of_roomy he.roomy hne hspace
    have hframe := stepped_frame e state bit
    rw [hwrite]
    refine ⟨⟨writeRac_roomy state bit e _ _ he.roomy hwrite, ?_, ?_, ?_⟩, ?_⟩
    · rw [hframe]
      exact he.table
    · rw [hframe]
      exact he.states
    · rw [hframe]
      exact he.sizes
    · rw [he.table]
      exact live_next hs bit
  · have hfull : nextRange e.range state bit < 256 ∧ e.lowBytes.length = maxByteVectorSize := by
      have hroom := he.roomy.room
      unfold appended at hspace
      split at hspace
      · exact ⟨‹_›, by omega⟩
      · omega
    unfold writeRac
    rw [Mirror.get_bind, failIf_of_not hne, failIf_of hfull]
    exact ⟨rfl, .rangeOutput, rfl⟩

theorem racAt_progresses (hbank : bank < sizes.length) (hcontext : context < sizes.getD bank 0)
    (index : Fin 32) (bit : Bool) :
    Progresses (Lively sizes) (racAt bank context index bit) fun _ => Lively sizes := by
  refine Triple.look fun e he => ?_
  have hlive := live_stateAt he.states (he.bank_lt hbank) (he.context_lt hbank hcontext) index
  refine ((writeRac_progresses hlive bit).pre fun e' heq => heq ▸ he).bind fun next => ?_
  refine Triple.update fun e' he' => ?_
  exact he'.1.withContexts (liveBanks_set he'.1.states bank context index he'.2)
    (by rw [setStateAt_sizes, he'.1.sizes])

theorem writeDecisions_progresses (hbank : bank < sizes.length)
    (hcontext : context < sizes.getD bank 0) (decisions : List Decision) :
    Progresses (Lively sizes) (writeDecisions bank context decisions) fun _ => Lively sizes := by
  induction decisions with
  | nil => exact Triple.returns fun _ he => he
  | cons decision decisions ih =>
    exact (racAt_progresses hbank hcontext decision.1 decision.2).bind fun _ => ih

/-- The trial pass finds every range, so that only its space can be missing. -/
theorem writeSymbol_progresses (hbank : bank < sizes.length)
    (hcontext : context < sizes.getD bank 0) (isSigned : Bool) (magnitude : Nat)
    (negative : Bool) :
    Progresses (Lively sizes) (writeSymbol bank context isSigned magnitude negative)
      fun _ => Lively sizes := by
  refine Triple.look fun e he => ?_
  have hb := he.bank_lt hbank
  have hc := he.context_lt hbank hcontext
  have hready := he.roomy.bounded.ready
  obtain ⟨total, htrial, -⟩ := trialDecisions_of_live (symbolDecisions isSigned magnitude negative)
    (liveBanks_get he.states hb hc) hready.range_ge hready.range_le 0
  rw [← he.table] at htrial
  refine Progresses.passes (by omega) (Progresses.passes (by omega) ?_)
  dsimp only
  rw [htrial]
  refine Progresses.limits ⟨rfl, .rangeOutput, rfl⟩ fun hspace => ?_
  rintro e' rfl
  have hroom := he.roomy.room
  obtain ⟨written, hwrite⟩ := writeDecisions_of_trial he.roomy hb hc htrial (by omega)
  rw [Mirror.adaptExcept_ok_iff.mpr hwrite]
  exact (writeDecisions_progresses hbank hcontext _).ok he hwrite

theorem checkOpen_progresses {α : Type} {f : Unit → Call RangeEncoder α}
    {Q : α → RangeEncoder → Prop} (h : Progresses (Lively sizes) (f ()) Q) :
    Progresses (Lively sizes) (checkOpen >>= f) Q := by
  intro e he
  have hready := he.roomy.bounded.ready
  have hopen : checkOpen e = .ok () e := by
    unfold checkOpen
    rw [Mirror.get_bind, failIf_of_not (by rw [hready.initialized]; decide),
      failIf_of_not (by rw [hready.unfinalized]; decide)]
    rfl
  rw [Mirror.bind_ok hopen]
  exact h e he

theorem writeUnsigned_progresses (hbank : bank < sizes.length)
    (hcontext : context < sizes.getD bank 0) {number : Nat} (hmax : number ≤ int64Max) :
    Progresses (Lively sizes) (writeUnsigned bank context number) fun _ => Lively sizes :=
  checkOpen_progresses (Progresses.passes (by omega)
    (writeSymbol_progresses hbank hcontext false number false))

theorem writeSigned_progresses (hbank : bank < sizes.length)
    (hcontext : context < sizes.getD bank 0) {number : Int} (hmax : number.natAbs ≤ int64Max) :
    Progresses (Lively sizes) (writeSigned bank context number) fun _ => Lively sizes :=
  checkOpen_progresses (Progresses.passes (by omega)
    (writeSymbol_progresses hbank hcontext true _ _))

end Writes

end RangeEncoder

section Lifting

variable {W α : Type} {call : Call W α} {P : W → Prop} {Q : α → W → Prop}

theorem onWriter_progresses (h : Progresses P call Q) (S : SliceState → Prop) :
    Progresses (fun encoding => P encoding.writer ∧ S encoding.state) (onWriter call)
      fun a encoding => Q a encoding.writer ∧ S encoding.state := by
  intro encoding he
  have hends := h encoding.writer he.1
  unfold onWriter
  cases hcall : call encoding.writer with
  | ok a writer =>
    rw [hcall] at hends
    exact ⟨hends, he.2⟩
  | error status writer =>
    rw [hcall] at hends
    exact hends

end Lifting

/-- A window of a stream with the table set of zeros whose samples fit the depth. -/
structure InputFits (stream : StreamParameters) (memory : FrameMemory) (windows : List PlaneWindow)
    (width height : Nat → Nat) : Prop where
  model : stream.quantTableSets = [makeZeroQuantTableSet]
  depth : isSupportedBitDepth stream.bitsPerRawSample = true
  chroma : stream.colorspaceType = 1 → stream.chromaPlanes = true
  shape : WindowShape stream windows width height
  rgb : stream.colorspaceType = 1 → ∀ planeIndex < stream.codedPlaneCount,
    width planeIndex = width 0 ∧ height planeIndex = height 0
  samples : ∀ planeIndex < stream.codedPlaneCount, ∀ x < width planeIndex,
    ∀ y < height planeIndex,
      (inputSample stream memory windows planeIndex x y).toNat ≤ maximumSample stream

section Inputs

variable {stream : StreamParameters} {memory : FrameMemory} {windows : List PlaneWindow}
  {width height : Nat → Nat} {planeIndex x y : Nat}

theorem InputFits.read (h : InputFits stream memory windows width height)
    (hplane : planeIndex < stream.codedPlaneCount) (hx : x < width planeIndex)
    (hy : y < height planeIndex) : readInputSample stream memory windows planeIndex x y =
      .ok (inputSample stream memory windows planeIndex x y) :=
  readInputSample_ok_iff.mpr ⟨rfl, h.samples planeIndex hplane x hx y hy⟩

theorem InputFits.codedPlanes (h : InputFits stream memory windows width height)
    (hcolor : stream.colorspaceType = 1) : 3 ≤ stream.codedPlaneCount := by
  simp only [StreamParameters.codedPlaneCount, h.chroma hcolor, if_true]
  omega

theorem InputFits.readRgb (h : InputFits stream memory windows width height)
    (hcolor : stream.colorspaceType = 1) (hx : x < width 0) (hy : y < height 0) :
    readRgbSample stream memory windows y x = .ok (inputRgb stream memory windows y x) := by
  have hplanes := h.codedPlanes hcolor
  have hsame := h.rgb hcolor
  have hread (planeIndex : Nat) (hplane : planeIndex < 3) :
      readInputSample stream memory windows planeIndex x y =
        .ok (inputSample stream memory windows planeIndex x y) := by
    have hcoded : planeIndex < stream.codedPlaneCount := by omega
    exact h.read hcoded (by rw [(hsame planeIndex hcoded).1]; exact hx)
      (by rw [(hsame planeIndex hcoded).2]; exact hy)
  unfold readRgbSample
  rw [hread 0 (by decide), hread 1 (by decide), hread 2 (by decide)]
  rfl

/-- Every element of a row can be read. -/
theorem mapM_of_ok {α : Type} {f : Nat → Except Error α} {g : Nat → α} {indexes : List Nat}
    (h : ∀ index ∈ indexes, f index = .ok (g index)) :
    indexes.mapM f = .ok (indexes.map g) := by
  induction indexes with
  | nil => rfl
  | cons index indexes ih =>
    obtain ⟨hfirst, hrest⟩ := List.forall_mem_cons.mp h
    rw [List.mapM_cons, hfirst, ih hrest]
    rfl

theorem InputFits.readRgbRow (h : InputFits stream memory windows width height)
    (hcolor : stream.colorspaceType = 1) (hy : y < height 0) :
    (List.range (width 0)).mapM (readRgbSample stream memory windows y) =
      .ok ((List.range (width 0)).map (inputRgb stream memory windows y)) :=
  mapM_of_ok fun _ hx => h.readRgb hcolor (List.mem_range.mp hx) hy

end Inputs

section Loops

variable {stream : StreamParameters} {memory : FrameMemory} {windows : List PlaneWindow}
  {width height : Nat → Nat} {sizes : List Nat}

/-- An encoding whose writer only space can stop. -/
def WritesSamples (sizes : List Nat) (encoding : Encoding RangeEncoder) : Prop :=
  encoding.writer.Lively sizes

theorem difference_natAbs {bits : Nat} (hbits : 1 ≤ bits ∧ bits ≤ 17) (sample prediction : Int) :
    (Predictor.difference sample prediction bits).natAbs ≤ RangeEncoder.int64Max := by
  have hdepth : ¬(bits = 0 ∨ 31 ≤ bits) := by omega
  obtain ⟨-, hlow, hhigh⟩ := wrapSampleDifference_spec hdepth (sample - prediction)
  have hpow : (2 : Int) ^ (bits - 1) ≤ 2 ^ 16 := pow_le_pow_right₀ (by decide) (by omega)
  have hmax : RangeEncoder.int64Max = 2 ^ 63 - 1 := rfl
  unfold Predictor.difference
  simp only [if_neg hdepth]
  omega

theorem encodeSample_progresses {bank bits : Nat} (hbank : bank < sizes.length)
    (hcontext : 0 < sizes.getD bank 0) (hbits : 1 ≤ bits ∧ bits ≤ 17) (sample : Int)
    (signed16bit : Bool) (planeIndex x : Nat) :
    Progresses (WritesSamples sizes)
      (encodeSample makeZeroQuantTableSet bank sample bits signed16bit planeIndex x)
      fun _ => WritesSamples sizes := by
  refine Triple.look fun encoding he => ?_
  unfold encodeResidual
  refine Triple.computes (ContextModel.deriveContext_zero _) ?_
  have hwrite := onWriter_progresses (RangeEncoder.writeSigned_progresses hbank hcontext
    (difference_natAbs hbits sample
      (medianPrediction signed16bit ((encoding.state.lineState planeIndex).neighbors x))))
    fun _ => True
  refine Progresses.bind (Triple.pre hwrite ?_) fun _ => Triple.update fun _ h => h.1
  rintro encoding' rfl
  exact ⟨he, trivial⟩

variable (h : InputFits stream memory windows width height)
  (hsizes : ∀ planeIndex < stream.codedPlaneCount,
    encoderContextBank stream planeIndex < sizes.length ∧
      0 < sizes.getD (encoderContextBank stream planeIndex) 0)
include h hsizes

theorem encodePlaneRow_progresses {planeIndex y : Nat} (hplane : planeIndex < stream.codedPlaneCount)
    (hy : y < height planeIndex) : Progresses (WritesSamples sizes)
      (encodePlaneRow stream memory windows planeIndex y) fun _ => WritesSamples sizes := by
  unfold encodePlaneRow
  refine Progresses.bind ?_ fun _ => Triple.update fun _ h => h
  refine Triple.forLoop (I := fun _ => WritesSamples sizes) 0 _ fun x _ hx => ?_
  rw [h.shape.width planeIndex hplane, Nat.zero_add] at hx
  refine Triple.computes (h.read hplane hx hy) ?_
  have hbits := supported_depth h.depth
  rw [h.model]
  exact encodeSample_progresses (hsizes planeIndex hplane).1 (hsizes planeIndex hplane).2
    (by omega) _ _ _ _

theorem encodePlanes_progresses : Progresses (WritesSamples sizes)
    (encodePlanes stream memory windows) fun _ => WritesSamples sizes := by
  refine Triple.forLoop (I := fun _ => WritesSamples sizes) 0 _ fun planeIndex _ hplane => ?_
  rw [Nat.zero_add] at hplane
  refine Triple.forLoop (I := fun _ => WritesSamples sizes) 0 _ fun y _ hy => ?_
  rw [h.shape.height planeIndex hplane, Nat.zero_add] at hy
  exact encodePlaneRow_progresses h hsizes hplane hy

theorem encodeRgbPlaneRow_progresses (hcolor : stream.colorspaceType = 1) {planeIndex y : Nat}
    (hplane : planeIndex < stream.codedPlaneCount) (hy : y < height 0)
    (transformed : List RgbCode) : Progresses (WritesSamples sizes)
      (encodeRgbPlaneRow stream memory windows transformed (width 0) y planeIndex)
      fun _ => WritesSamples sizes := by
  have hbits := supported_depth h.depth
  have hcoded : 1 ≤ rgbReconstructionBits stream planeIndex ∧
      rgbReconstructionBits stream planeIndex ≤ 17 := by
    unfold rgbReconstructionBits
    split <;> omega
  obtain ⟨hwidth, hheight⟩ := h.rgb hcolor planeIndex hplane
  obtain ⟨hbank, hcontext⟩ := hsizes planeIndex hplane
  refine Triple.forLoop (I := fun _ => WritesSamples sizes) 0 _ fun x _ hx => ?_
  rw [Nat.zero_add] at hx
  rw [h.model]
  by_cases hcolorPlane : planeIndex < 3
  · rw [if_pos hcolorPlane, pure_bind]
    exact encodeSample_progresses hbank hcontext hcoded _ _ _ _
  · rw [if_neg hcolorPlane]
    refine Triple.computes (h.read hplane (hwidth ▸ hx) (hheight ▸ hy)) ?_
    rw [pure_bind]
    exact encodeSample_progresses hbank hcontext hcoded _ _ _ _

theorem encodeRgbRows_progresses (hcolor : stream.colorspaceType = 1) :
    Progresses (WritesSamples sizes) (encodeRgbRows stream memory windows)
      fun _ => WritesSamples sizes := by
  have hplanes := h.codedPlanes hcolor
  have hwidth := h.shape.width 0 (by omega)
  have hheight := h.shape.height 0 (by omega)
  refine Triple.forLoop (I := fun _ => WritesSamples sizes) 0 _ fun y _ hy => ?_
  rw [hheight, Nat.zero_add] at hy
  unfold encodeRgbRow
  simp only [hwidth]
  refine Triple.computes (h.readRgbRow hcolor hy) ?_
  refine Progresses.bind ?_ fun _ => Triple.update fun _ h => h
  refine Triple.forLoop (I := fun _ => WritesSamples sizes) 0 _ fun planeIndex _ hplane => ?_
  exact encodeRgbPlaneRow_progresses h hsizes hcolor (by omega) hy _

/-- Samples that fit are coded unless space runs out. -/
theorem encodeSamples_progresses : Progresses (WritesSamples sizes)
    (encodeSamples stream memory windows) fun _ => WritesSamples sizes := by
  unfold encodeSamples
  by_cases hcolor : stream.colorspaceType = 1
  · rw [if_pos hcolor]
    exact encodeRgbRows_progresses h hsizes hcolor
  · rw [if_neg hcolor]
    exact encodePlanes_progresses h hsizes

end Loops

end Mffv1
