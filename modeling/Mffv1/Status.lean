import Mffv1.Lib.Hoare

/-!
# Status values

A source `Status` is `Except Error Unit`: `Ok` carries nothing, every other code
carries its message and its optional location. A method that mutates an object
is an `EStateM`: a failed call keeps whatever it had already written.
-/
namespace Mffv1

inductive ErrorCode where
  | invalidArgument
  | invalidState
  | unsupportedFeature
  | syntaxError
  | crcMismatch
  | resourceExhausted
  | notImplemented
  | internalError
  deriving DecidableEq, Repr

/-- `none` is a location whose `has_` flag is false. -/
structure ErrorLocation where
  byteOffset : Option Nat := none
  frameIndex : Option Nat := none
  sliceIndex : Option Nat := none
  deriving DecidableEq, Repr

structure Error where
  code : ErrorCode
  message : String
  location : ErrorLocation := {}
  deriving DecidableEq, Repr

abbrev Status := Except Error Unit

/-- A call on an object of type `σ`. -/
abbrev Call (σ α : Type) := EStateM Error σ α

/-- The value of a call on an object that is not used afterwards. -/
def Call.valueOn {σ α : Type} (call : Call σ α) (object : σ) : Except Error α :=
  match call object with
  | .ok a _ => .ok a
  | .error status _ => .error status

theorem valueOn_ok {σ α : Type} {call : Call σ α} {object : σ} {a : α}
    (h : call.valueOn object = .ok a) : ∃ object', call object = .ok a object' := by
  unfold Call.valueOn at h
  cases hcall : call object with
  | ok a' object' =>
    rw [hcall] at h
    exact ⟨object', by rw [Except.ok.inj h]⟩
  | error status object' =>
    rw [hcall] at h
    cases h

theorem valueOn_of_ok {σ α : Type} {call : Call σ α} {object object' : σ} {a : α}
    (h : call object = .ok a object') : call.valueOn object = .ok a := by
  unfold Call.valueOn
  rw [h]

abbrev Bytes := List UInt8

/-- `std::vector<std::byte>::max_size()`. -/
def maxByteVectorSize : Nat := 2 ^ 63 - 1

def makeError (code : ErrorCode) (message : String) : Error := { code, message }

def setByteLocationIfMissing (status : Error) (byteOffset : Nat) : Error :=
  { status with
    location := { status.location with
      byteOffset := status.location.byteOffset.or (some byteOffset) } }

def setSliceLocationIfMissing (status : Error) (sliceIndex : Nat) : Error :=
  { status with
    location := { status.location with
      sliceIndex := status.location.sliceIndex.or (some sliceIndex) } }

def makeByteError (code : ErrorCode) (message : String) (byteOffset : Nat) : Error :=
  setByteLocationIfMissing (makeError code message) byteOffset

def appendStatusMessage (status : Error) (message : String) : Error :=
  { status with message := status.message ++ message }

section Failing

variable {σ α : Type}

/-- `if (condition) return error;` -/
def failIf {m : Type → Type} [Monad m] [MonadExcept Error m] (condition : Prop)
    [Decidable condition] (error : Error) : m PUnit :=
  if condition then throw error else pure ⟨⟩

theorem failIf_of_not {m : Type → Type} [Monad m] [MonadExcept Error m] {condition : Prop}
    [Decidable condition] {error : Error} (h : ¬condition) :
    (failIf condition error : m PUnit) = pure ⟨⟩ := if_neg h

theorem failIf_of {m : Type → Type} [Monad m] [MonadExcept Error m] {condition : Prop}
    [Decidable condition] {error : Error} (h : condition) :
    (failIf condition error : m PUnit) = throw error := if_pos h

theorem failIf_ok_iff {condition : Prop} [Decidable condition] {error : Error} {u : PUnit} :
    (failIf condition error : Except Error PUnit) = .ok u ↔ ¬condition := by
  unfold failIf
  by_cases h : condition <;>
    simp [h, pure, Except.pure, throw, throwThe, MonadExceptOf.throw]

theorem failIf_call_ok_iff {condition : Prop} [Decidable condition] {error : Error}
    {u : PUnit} {s s' : σ} :
    (failIf condition error : Call σ PUnit) s = .ok u s' ↔ ¬condition ∧ s' = s := by
  unfold failIf
  by_cases h : condition <;>
    simp [h, eq_comm]

theorem keeps_failIf {I : σ → Prop} {condition : Prop} [Decidable condition] {error : Error} :
    Mirror.Keeps I (failIf condition error : Call σ PUnit) := by
  intro e u e' he h
  exact (failIf_call_ok_iff.mp h).2 ▸ he

theorem failIf_maintains {I : σ → Prop} {condition : Prop} [Decidable condition] {error : Error} :
    Hoare.Maintains I (failIf condition error : Call σ PUnit) := by
  intro e he
  by_cases h : condition
  · rw [failIf_of h]
    exact he
  · rw [failIf_of_not h]
    exact he

theorem failIf_projects {τ : Type} {π : σ → τ} {condition : Prop} [Decidable condition]
    {error : Error} :
    Mirror.Projects π (failIf condition error : Call σ PUnit) (failIf condition error) := by
  intro e
  by_cases h : condition
  · rw [failIf_of h, failIf_of h]
    rfl
  · rw [failIf_of_not h, failIf_of_not h]
    rfl

theorem except_bind_ok {x : Except Error σ} {f : σ → Except Error α} {a : α} :
    (x >>= f) = .ok a ↔ ∃ s, x = .ok s ∧ f s = .ok a := by
  cases x <;> simp [bind, Except.bind]

theorem except_bind_congr {β : Type} {x : Except Error α} {f g : α → Except Error β}
    (h : ∀ a, x = .ok a → f a = g a) : x >>= f = x >>= g := by
  cases x with
  | ok a => exact h a rfl
  | error status => rfl

theorem except_mapM_ok {β : Type} {f : β → Except Error α} {g : β → α} {φ : β → Prop}
    (hf : ∀ b a, f b = .ok a → a = g b ∧ φ b) {l : List β} {r : List α} (h : l.mapM f = .ok r) :
    r = l.map g ∧ ∀ b ∈ l, φ b := by
  induction l generalizing r with
  | nil =>
    rw [List.mapM_nil] at h
    obtain rfl := Except.ok.inj h
    exact ⟨rfl, fun _ h => absurd h List.not_mem_nil⟩
  | cons b l ih =>
    simp only [List.mapM_cons, except_bind_ok] at h
    obtain ⟨a, ha, rest, hrest, hr⟩ := h
    obtain rfl := Except.ok.inj hr
    obtain ⟨rfl, hb⟩ := hf b a ha
    obtain ⟨rfl, hall⟩ := ih hrest
    exact ⟨rfl, List.forall_mem_cons.mpr ⟨hb, hall⟩⟩

theorem exists_unit {p : PUnit → Prop} : (∃ u, p u) ↔ p ⟨⟩ :=
  ⟨fun ⟨_, h⟩ => h, fun h => ⟨_, h⟩⟩

end Failing

section Copying

variable {E D α β : Type} {C : Mirror.Channel E} {F : Prop} {P : E → D → Prop} {w : Call E α}
  {r : Call D β} {k : α → β} {condition : Prop} [Decidable condition] {error : Error}

/-- A check that the reader passes. -/
theorem copies_passes {g : PUnit → Call D β} (hnot : ¬condition)
    (h : Mirror.Copies C F P w (g ⟨⟩) k) : Mirror.Copies C F P w (failIf condition error >>= g) k := by
  rwa [failIf_of_not hnot, pure_bind]

/-- A check that the writer passes, or else the program is not written. -/
theorem mirrors_checks {Q : α → β → E → D → Prop} {f : PUnit → Call E α}
    (h : ¬condition → Mirror.Mirrors C F P (f ⟨⟩) r Q) :
    Mirror.Mirrors C F P (failIf condition error >>= f) r Q := by
  by_cases hcond : condition
  · refine Mirror.Mirrors.of_error fun e a e' hw => ?_
    simp only [Mirror.bind_ok_iff, failIf_call_ok_iff] at hw
    obtain ⟨_, _, ⟨hnot, _⟩, _⟩ := hw
    exact hnot hcond
  · rw [failIf_of_not hcond, pure_bind]
    exact h hcond

theorem copies_checks {f : PUnit → Call E α} (h : ¬condition → Mirror.Copies C F P (f ⟨⟩) r k) :
    Mirror.Copies C F P (failIf condition error >>= f) r k :=
  mirrors_checks h

end Copying

end Mffv1
