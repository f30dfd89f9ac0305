import Mathlib.Tactic.Linarith
import Mathlib.Tactic.Ring

/-!
# Writers mirrored by readers

A writer mutates an encoder state `E`, a reader a decoder state `D`. The final
byte string is only known after the whole writer has run, so "the final bytes
agree with this encoder state" (`fits`) is derived backwards through the
writer, while the coupling of the two states is carried forwards.
-/
namespace Mirror

variable {ε δ E D α β γ κ : Type}

def succeeded : EStateM.Result ε E α → Bool
  | .ok _ _ => true
  | .error _ _ => false

/-- The state a call ends in, whether it succeeds or fails. -/
def finalState : EStateM.Result ε E α → E
  | .ok _ e => e
  | .error _ e => e

theorem eq_ok_of_succeeded {x : EStateM.Result ε E PUnit} (h : succeeded x = true) :
    x = .ok ⟨⟩ (finalState x) := by
  cases x with
  | ok _ _ => rfl
  | error _ _ => cases h

theorem exists_ok_of_succeeded {x : EStateM.Result ε E α} (h : succeeded x = true) :
    ∃ a e, x = .ok a e := by
  cases x with
  | ok a e => exact ⟨a, e, rfl⟩
  | error _ _ => cases h

def failure : EStateM.Result ε E α → Option ε
  | .ok _ _ => none
  | .error s _ => some s

theorem exists_error_of_failure {x : EStateM.Result ε E α} {s : ε} (h : failure x = some s) :
    ∃ e, x = .error s e := by
  cases x with
  | ok _ _ => cases h
  | error s' e =>
    obtain rfl := Option.some.inj h
    exact ⟨e, rfl⟩

/-- The errors of a call, retold with the states that it has started and ended in. -/
def telling (f : E → E → ε → ε) (call : EStateM ε E α) : EStateM ε E α := fun e =>
  match call e with
  | .ok a e' => .ok a e'
  | .error s e' => .error (f e e' s) e'

theorem telling_ok_iff {f : E → E → ε → ε} {call : EStateM ε E α} {e e' : E} {a : α} :
    telling f call e = .ok a e' ↔ call e = .ok a e' := by
  unfold telling
  cases call e with
  | ok _ _ => rfl
  | error _ _ => simp

theorem adaptExcept_eq (f : ε → ε) (call : EStateM ε E α) :
    telling (fun _ _ => f) call = call.adaptExcept f := by
  funext e
  unfold telling EStateM.adaptExcept
  cases call e <;> rfl

theorem telling_error {f : E → E → ε → ε} {call : EStateM ε E α} {e e' : E} {s : ε}
    (h : call e = .error s e') : telling f call e = .error (f e e' s) e' := by
  unfold telling
  rw [h]

/-- An encoder-side invariant (forwards) and compatibility with the final bytes (backwards). -/
structure Channel (E : Type) where
  inv : E → Prop
  fits : E → Prop

/-- What a reader's outcome must satisfy: a result in `Q`, or an error that `F` allows. -/
def Outcome (F : Prop) (Q : β → D → Prop) : EStateM.Result δ D β → Prop
  | .ok b d => Q b d
  | .error _ _ => F

/-- Whenever the writer succeeds and the final bytes fit its last state, they
fit its first state too, and the reader started at a coupled state ends coupled.
`F` is the condition under which the reader may refuse instead. -/
def Mirrors (C : Channel E) (F : Prop) (P : E → D → Prop) (w : EStateM ε E α)
    (r : EStateM δ D β) (Q : α → β → E → D → Prop) : Prop :=
  ∀ e a e', C.inv e → w e = .ok a e' → C.inv e' ∧
    (C.fits e' → C.fits e ∧ ∀ d, P e d → Outcome F (fun b d' => Q a b e' d') (r d))

theorem bind_ok_iff {x : EStateM ε E α} {f : α → EStateM ε E β} {e e' : E} {b : β} :
    (x >>= f) e = .ok b e' ↔ ∃ a e₁, x e = .ok a e₁ ∧ f a e₁ = .ok b e' := by
  change EStateM.bind x f e = _ ↔ _
  unfold EStateM.bind
  cases x e <;> simp

theorem bind_ok {x : EStateM ε E α} {f : α → EStateM ε E β} {e e₁ : E} {a : α}
    (h : x e = .ok a e₁) : (x >>= f) e = f a e₁ := by
  change EStateM.bind x f e = _
  simp [EStateM.bind, h]

theorem bind_error {x : EStateM ε E α} {f : α → EStateM ε E β} {e e₁ : E} {s : ε}
    (h : x e = .error s e₁) : (x >>= f) e = .error s e₁ := by
  change EStateM.bind x f e = _
  simp [EStateM.bind, h]

@[simp] theorem pure_apply (a : α) (e : E) : (pure a : EStateM ε E α) e = .ok a e := rfl
@[simp] theorem throw_apply (s : ε) (e : E) :
    (throw s : EStateM ε E α) e = .error s e := rfl
@[simp] theorem get_apply (e : E) : (get : EStateM ε E E) e = .ok e e := rfl
@[simp] theorem set_apply (e e' : E) : (set e' : EStateM ε E PUnit) e = .ok ⟨⟩ e' := rfl
@[simp] theorem modify_apply (f : E → E) (e : E) :
    (modify f : EStateM ε E PUnit) e = .ok ⟨⟩ (f e) := rfl

@[simp] theorem get_bind (f : E → EStateM ε E α) (e : E) : (get >>= f) e = f e e := rfl
@[simp] theorem set_bind (e' : E) (f : PUnit → EStateM ε E α) (e : E) :
    (set e' >>= f) e = f ⟨⟩ e' := rfl
@[simp] theorem modify_bind (g : E → E) (f : PUnit → EStateM ε E α) (e : E) :
    (modify g >>= f) e = f ⟨⟩ (g e) := rfl
@[simp] theorem pure_bind (a : β) (f : β → EStateM ε E α) (e : E) :
    ((pure a : EStateM ε E β) >>= f) e = f a e := rfl

theorem adaptExcept_ok_iff {ε' : Type} {f : ε → ε'} {x : EStateM ε E α} {e e' : E} {a : α} :
    x.adaptExcept f e = .ok a e' ↔ x e = .ok a e' := by
  unfold EStateM.adaptExcept
  cases x e <;> simp

variable {C : Channel E} {F : Prop} {P P' : E → D → Prop}
  {w : EStateM ε E α} {r : EStateM δ D β}
  {Q Q' : α → β → E → D → Prop}

theorem Outcome.imp {F' : Prop} {Q Q' : β → D → Prop} {x : EStateM.Result δ D β}
    (h : Outcome F Q x) (hF : F → F') (hQ : ∀ b d, Q b d → Q' b d) : Outcome F' Q' x := by
  cases x with
  | ok b d => exact hQ b d h
  | error s d => exact hF h

/-- With no allowed refusal an outcome is a successful result. -/
theorem Outcome.result {Q : β → D → Prop} {x : EStateM.Result δ D β}
    (h : Outcome False Q x) : ∃ b d, x = .ok b d ∧ Q b d := by
  cases x with
  | ok b d => exact ⟨b, d, rfl, h⟩
  | error s d => exact False.elim h

theorem Mirrors.consequence {F' : Prop} (h : Mirrors C F P w r Q) (hF : F → F')
    (hP : ∀ e d, P' e d → P e d) (hQ : ∀ a b e d, Q a b e d → Q' a b e d) :
    Mirrors C F' P' w r Q' := by
  intro e a e' hi hw
  obtain ⟨hi', hf⟩ := h e a e' hi hw
  refine ⟨hi', fun hfit => ⟨(hf hfit).1, fun d hd => ?_⟩⟩
  exact ((hf hfit).2 d (hP e d hd)).imp hF (fun b d' => hQ a b e' d')

theorem Mirrors.pure {a : α} {b : β} (h : ∀ e d, P e d → Q a b e d) :
    Mirrors C F P (Pure.pure a : EStateM ε E α) (Pure.pure b : EStateM δ D β) Q := by
  intro e a' e' hi hw
  simp only [pure_apply, EStateM.Result.ok.injEq] at hw
  obtain ⟨rfl, rfl⟩ := hw
  exact ⟨hi, fun hfit => ⟨hfit, fun d hd => h e d hd⟩⟩

/-- The writer half of `Mirrors`: what fits at its end fitted at its start. -/
def Narrows (C : Channel E) (w : EStateM ε E α) : Prop :=
  ∀ e a e', C.inv e → w e = .ok a e' → C.inv e' ∧ (C.fits e' → C.fits e)

theorem Mirrors.narrows (h : Mirrors C F P w r Q) : Narrows C w := by
  intro e a e' hi hw
  obtain ⟨hi', hf⟩ := h e a e' hi hw
  exact ⟨hi', fun hfit => (hf hfit).1⟩

theorem Narrows.bind {f : α → EStateM ε E γ} (h₁ : Narrows C w) (h₂ : ∀ a, Narrows C (f a)) :
    Narrows C (w >>= f) := by
  intro e c e' hi hw
  obtain ⟨a, e₁, hw₁, hw₂⟩ := bind_ok_iff.mp hw
  obtain ⟨hi₁, hf₁⟩ := h₁ e a e₁ hi hw₁
  obtain ⟨hi', hf'⟩ := h₂ a e₁ c e' hi₁ hw₂
  exact ⟨hi', fun hfit => hf₁ (hf' hfit)⟩

/-- Sequencing. The invariant and the fit of the second writer do not depend on
what the first reader returned, so any value of its type serves for them. -/
theorem Mirrors.bind [Nonempty β] {R : γ → κ → E → D → Prop}
    {f : α → EStateM ε E γ} {g : β → EStateM δ D κ}
    (h₁ : Mirrors C F P w r Q)
    (h₂ : ∀ a b, Mirrors C F (Q a b) (f a) (g b) R) :
    Mirrors C F P (w >>= f) (r >>= g) R := by
  intro e c e' hi hw
  obtain ⟨a, e₁, hw₁, hw₂⟩ := bind_ok_iff.mp hw
  obtain ⟨hi₁, hf₁⟩ := h₁ e a e₁ hi hw₁
  obtain ⟨hi', hf'⟩ := h₂ a (Classical.arbitrary β) e₁ c e' hi₁ hw₂
  refine ⟨hi', fun hfit => ?_⟩
  obtain ⟨hfit₀, hr⟩ := hf₁ (hf' hfit).1
  refine ⟨hfit₀, fun d hd => ?_⟩
  have ho := hr d hd
  cases hx : r d with
  | ok b d₁ =>
    rw [hx] at ho
    rw [bind_ok hx]
    exact ((h₂ a b e₁ c e' hi₁ hw₂).2 hfit).2 d₁ ho
  | error s d₁ =>
    rw [hx] at ho
    rw [bind_error hx]
    exact ho

/-- Every value that the call returns satisfies `φ`. -/
def Returns (w : EStateM ε E α) (φ : α → Prop) : Prop :=
  ∀ e a e', w e = .ok a e' → φ a

theorem Returns.pure {φ : α → Prop} {a : α} (h : φ a) :
    Returns (Pure.pure a : EStateM ε E α) φ := by
  intro e a' e' hw
  simp only [pure_apply, EStateM.Result.ok.injEq] at hw
  exact hw.1 ▸ h

theorem Returns.bind {φ : α → Prop} {ψ : γ → Prop} {f : α → EStateM ε E γ}
    (h₁ : Returns w φ) (h₂ : ∀ a, φ a → Returns (f a) ψ) : Returns (w >>= f) ψ := by
  intro e c e' hw
  obtain ⟨a, e₁, hw₁, hw₂⟩ := bind_ok_iff.mp hw
  exact h₂ a (h₁ e a e₁ hw₁) e₁ c e' hw₂

/-- What follows need only agree on what is returned. -/
theorem Returns.bind_congr {φ : α → Prop} {f g : α → EStateM ε E γ} (h : Returns w φ)
    (hfg : ∀ a, φ a → f a = g a) : w >>= f = w >>= g := by
  funext e
  cases hw : w e with
  | ok a e' => rw [bind_ok hw, bind_ok hw, hfg a (h e a e' hw)]
  | error s e' => rw [bind_error hw, bind_error hw]

theorem Returns.trivial : Returns w (fun _ => True) := fun _ _ _ _ => True.intro

theorem Returns.imp {φ ψ : α → Prop} (h : Returns w φ) (hφ : ∀ a, φ a → ψ a) : Returns w ψ :=
  fun e a e' hw => hφ a (h e a e' hw)

theorem Returns.telling {φ : α → Prop} (h : Returns w φ) (f : E → E → ε → ε) :
    Returns (telling f w) φ :=
  fun e a e' hw => h e a e' (telling_ok_iff.mp hw)

/-- A successful call keeps `I`. -/
def Keeps (I : E → Prop) (w : EStateM ε E α) : Prop :=
  ∀ e a e', I e → w e = .ok a e' → I e'

section Keeps

variable {I : E → Prop}

theorem Keeps.pure {a : α} : Keeps I (Pure.pure a : EStateM ε E α) := by
  intro e a' e' he hw
  simp only [pure_apply, EStateM.Result.ok.injEq] at hw
  exact hw.2 ▸ he

theorem Keeps.bind {f : α → EStateM ε E γ} (h₁ : Keeps I w) (h₂ : ∀ a, Keeps I (f a)) :
    Keeps I (w >>= f) := by
  intro e c e' he hw
  obtain ⟨a, e₁, hw₁, hw₂⟩ := bind_ok_iff.mp hw
  exact h₂ a e₁ c e' (h₁ e a e₁ he hw₁) hw₂

theorem Keeps.update {f : E → E} (h : ∀ e, I e → I (f e)) :
    Keeps I (modify f : EStateM ε E PUnit) := by
  intro e a e' he hw
  simp only [modify_apply, EStateM.Result.ok.injEq] at hw
  exact hw.2 ▸ h e he

theorem Keeps.replace {e₁ : E} (h : I e₁) : Keeps I (set e₁ : EStateM ε E PUnit) := by
  intro e a e' _ hw
  simp only [set_apply, EStateM.Result.ok.injEq] at hw
  exact hw.2 ▸ h

/-- What the call does may depend on the state it starts from. -/
theorem Keeps.view {f : E → EStateM ε E α} (h : ∀ e, I e → Keeps I (f e)) :
    Keeps I (get >>= f) :=
  fun e a e' he hw => h e he e a e' he hw

theorem Keeps.telling (h : Keeps I w) (f : E → E → ε → ε) : Keeps I (telling f w) :=
  fun e a e' he hw => h e a e' he (telling_ok_iff.mp hw)

theorem Keeps.throws (s : ε) : Keeps I (throw s : EStateM ε E α) :=
  fun _ _ _ _ hw => by cases hw

end Keeps

/-- Sequencing when the first reader's value is a function of the writer's, with a
fact about the latter. -/
theorem Mirrors.bind_eq_of {k : α → β} {φ : α → Prop} {Q : α → E → D → Prop}
    {R : γ → κ → E → D → Prop} {f : α → EStateM ε E γ} {g : β → EStateM δ D κ}
    (hφ : Returns w φ) (h₁ : Mirrors C F P w r (fun a b e d => b = k a ∧ Q a e d))
    (h₂ : ∀ a, φ a → Mirrors C F (Q a) (f a) (g (k a)) R) :
    Mirrors C F P (w >>= f) (r >>= g) R := by
  intro e c e' hi hw
  obtain ⟨a, e₁, hw₁, hw₂⟩ := bind_ok_iff.mp hw
  obtain ⟨hi₁, hf₁⟩ := h₁ e a e₁ hi hw₁
  obtain ⟨hi', hf'⟩ := h₂ a (hφ e a e₁ hw₁) e₁ c e' hi₁ hw₂
  refine ⟨hi', fun hfit => ?_⟩
  obtain ⟨hfit₁, hr'⟩ := hf' hfit
  obtain ⟨hfit₀, hr⟩ := hf₁ hfit₁
  refine ⟨hfit₀, fun d hd => ?_⟩
  have ho := hr d hd
  cases hx : r d with
  | ok b d₁ =>
    rw [hx] at ho
    rw [bind_ok hx, ho.1]
    exact hr' d₁ ho.2
  | error s d₁ =>
    rw [hx] at ho
    rw [bind_error hx]
    exact ho

theorem Mirrors.bind_eq (k : α → β) {Q : α → E → D → Prop} {R : γ → κ → E → D → Prop}
    {f : α → EStateM ε E γ} {g : β → EStateM δ D κ}
    (h₁ : Mirrors C F P w r (fun a b e d => b = k a ∧ Q a e d))
    (h₂ : ∀ a, Mirrors C F (Q a) (f a) (g (k a)) R) :
    Mirrors C F P (w >>= f) (r >>= g) R :=
  Mirrors.bind_eq_of Returns.trivial h₁ fun a _ => h₂ a

/-- Both sides read the same view of their states. -/
theorem Mirrors.view (k : E → κ) (k' : D → κ) (f : κ → EStateM ε E α) (g : κ → EStateM δ D β)
    (hk : ∀ e d, P e d → k e = k' d) (h : ∀ x, Mirrors C F P (f x) (g x) Q) :
    Mirrors C F P (get >>= fun e => f (k e)) (get >>= fun d => g (k' d)) Q := by
  intro e a e' hi hw
  rw [get_bind] at hw
  obtain ⟨hi', hf⟩ := h (k e) e a e' hi hw
  refine ⟨hi', fun hfit => ⟨(hf hfit).1, fun d hd => ?_⟩⟩
  rw [get_bind, ← hk e d hd]
  exact (hf hfit).2 d hd

/-- State updates that keep the invariant and need nothing of the final bytes. -/
theorem Mirrors.update {f : E → E} {g : D → D} {Q : PUnit → PUnit → E → D → Prop}
    (hinv : ∀ e, C.inv e → C.inv (f e)) (hfits : ∀ e, C.fits (f e) → C.fits e)
    (h : ∀ e d, P e d → Q ⟨⟩ ⟨⟩ (f e) (g d)) :
    Mirrors C F P (modify f : EStateM ε E PUnit)
      (modify g : EStateM δ D PUnit) Q := by
  intro e a e' hi hw
  simp only [modify_apply, EStateM.Result.ok.injEq] at hw
  obtain ⟨_, rfl⟩ := hw
  exact ⟨hinv e hi, fun hfit => ⟨hfits e hfit, fun d hd => h e d hd⟩⟩

/-- Both sides read the same view of their states, which is then known. -/
theorem Mirrors.view_of (k : E → κ) (k' : D → κ) (f : κ → EStateM ε E α) (g : κ → EStateM δ D β)
    (hk : ∀ e d, P e d → k e = k' d)
    (h : ∀ x, Mirrors C F (fun e d => k e = x ∧ P e d) (f x) (g x) Q) :
    Mirrors C F P (get >>= fun e => f (k e)) (get >>= fun d => g (k' d)) Q := by
  intro e a e' hi hw
  rw [get_bind] at hw
  obtain ⟨hi', hf⟩ := h (k e) e a e' hi hw
  refine ⟨hi', fun hfit => ⟨(hf hfit).1, fun d hd => ?_⟩⟩
  rw [get_bind, ← hk e d hd]
  exact (hf hfit).2 d ⟨rfl, hd⟩

/-- The writer reads a view of its own state. -/
theorem Mirrors.view_writer (k : E → κ) (f : κ → EStateM ε E α)
    (h : ∀ x, Mirrors C F (fun e d => k e = x ∧ P e d) (f x) r Q) :
    Mirrors C F P (get >>= fun e => f (k e)) r Q := by
  intro e a e' hi hw
  rw [get_bind] at hw
  obtain ⟨hi', hf⟩ := h (k e) e a e' hi hw
  exact ⟨hi', fun hfit => ⟨(hf hfit).1, fun d hd => (hf hfit).2 d ⟨rfl, hd⟩⟩⟩

/-- The writer updates its state ahead of the reader. -/
theorem Mirrors.update_writer {S : E → D → Prop} {f : E → E}
    (hinv : ∀ e, C.inv e → C.inv (f e)) (hfits : ∀ e, C.fits (f e) → C.fits e)
    (hP : ∀ e d, P e d → S (f e) d) (h : Mirrors C F S w r Q) :
    Mirrors C F P ((modify f : EStateM ε E PUnit) >>= fun _ => w) r Q := by
  intro e a e' hi hw
  rw [modify_bind] at hw
  obtain ⟨hi', hf⟩ := h (f e) a e' (hinv e hi) hw
  exact ⟨hi', fun hfit => ⟨hfits e (hf hfit).1, fun d hd => (hf hfit).2 d (hP e d hd)⟩⟩

/-- The reader updates its state ahead of the writer. -/
theorem Mirrors.update_reader {S : E → D → Prop} {g : D → D} (hP : ∀ e d, P e d → S e (g d))
    (h : Mirrors C F S w r Q) :
    Mirrors C F P w ((modify g : EStateM δ D PUnit) >>= fun _ => r) Q := by
  intro e a e' hi hw
  obtain ⟨hi', hf⟩ := h e a e' hi hw
  refine ⟨hi', fun hfit => ⟨(hf hfit).1, fun d hd => ?_⟩⟩
  rw [modify_bind]
  exact (hf hfit).2 (g d) (hP e d hd)

/-- The writer updates its state behind the reader. -/
theorem Mirrors.then_update {f : α → E → E} {Q' : PUnit → β → E → D → Prop}
    (h : Mirrors C F P w r Q) (hinv : ∀ a e, C.inv e → C.inv (f a e))
    (hfits : ∀ a e, C.fits (f a e) → C.fits e) (hQ : ∀ a b e d, Q a b e d → Q' ⟨⟩ b (f a e) d) :
    Mirrors C F P (w >>= fun a => (modify (f a) : EStateM ε E PUnit)) r Q' := by
  intro e u e' hi hw
  obtain ⟨a, e₁, hw₁, hw₂⟩ := bind_ok_iff.mp hw
  rw [modify_apply] at hw₂
  obtain ⟨-, rfl⟩ := EStateM.Result.ok.inj hw₂
  obtain ⟨hi₁, hf⟩ := h e a e₁ hi hw₁
  refine ⟨hinv a e₁ hi₁, fun hfit => ⟨(hf (hfits a e₁ hfit)).1, fun d hd => ?_⟩⟩
  exact ((hf (hfits a e₁ hfit)).2 d hd).imp id fun b d' => hQ a b e₁ d'

/-- A reader that, where the states are coupled, does what a mirroring one does. -/
theorem Mirrors.of_reader {s : EStateM δ D β} (h : ∀ e d, P e d → r d = s d)
    (hs : Mirrors C F P w s Q) : Mirrors C F P w r Q := by
  intro e a e' hi hw
  obtain ⟨hi', hf⟩ := hs e a e' hi hw
  refine ⟨hi', fun hfit => ⟨(hf hfit).1, fun d hd => ?_⟩⟩
  rw [h e d hd]
  exact (hf hfit).2 d hd

/-- The reader updates its state behind the writer. -/
theorem Mirrors.then_update_reader {g : D → D} {Q' : α → PUnit → E → D → Prop}
    (h : Mirrors C F P w r Q) (hQ : ∀ a b e d, Q a b e d → Q' a ⟨⟩ e (g d)) :
    Mirrors C F P w (r >>= fun _ => (modify g : EStateM δ D PUnit)) Q' := by
  intro e a e' hi hw
  obtain ⟨hi', hf⟩ := h e a e' hi hw
  refine ⟨hi', fun hfit => ⟨(hf hfit).1, fun d hd => ?_⟩⟩
  have ho := (hf hfit).2 d hd
  cases hx : r d with
  | ok b d' =>
    rw [hx] at ho
    rw [bind_ok hx, modify_apply]
    exact hQ a b e' d' ho
  | error s d' =>
    rw [hx] at ho
    rw [bind_error hx]
    exact ho

/-- The writer returns something made of its last value. -/
theorem Mirrors.map_writer {f : α → γ} {Q' : γ → β → E → D → Prop} (h : Mirrors C F P w r Q)
    (hQ : ∀ a b e d, Q a b e d → Q' (f a) b e d) :
    Mirrors C F P (w >>= fun a => Pure.pure (f a)) r Q' := by
  intro e c e' hi hw
  obtain ⟨a, e₁, hw₁, hw₂⟩ := bind_ok_iff.mp hw
  obtain ⟨rfl, rfl⟩ := EStateM.Result.ok.inj hw₂
  obtain ⟨hi₁, hf⟩ := h e a e₁ hi hw₁
  refine ⟨hi₁, fun hfit => ⟨(hf hfit).1, fun d hd => ?_⟩⟩
  exact ((hf hfit).2 d hd).imp id fun b d' => hQ a b e₁ d'

/-- A fact that does not concern the states is carried along. -/
theorem Mirrors.frame (φ : Prop) (h : Mirrors C F P w r Q) :
    Mirrors C F (fun e d => φ ∧ P e d) w r (fun a b e d => φ ∧ Q a b e d) := by
  intro e a e' hi hw
  obtain ⟨hi', hf⟩ := h e a e' hi hw
  refine ⟨hi', fun hfit => ⟨(hf hfit).1, fun d hd => ?_⟩⟩
  exact ((hf hfit).2 d hd.2).imp id fun b d' hq => ⟨hd.1, hq⟩

/-- The reader may tell its errors otherwise. -/
theorem Mirrors.telling (h : Mirrors C F P w r Q) (f : D → D → δ → δ) :
    Mirrors C F P w (telling f r) Q := by
  intro e a e' hi hw
  obtain ⟨hi', hf⟩ := h e a e' hi hw
  refine ⟨hi', fun hfit => ⟨(hf hfit).1, fun d hd => ?_⟩⟩
  have ho := (hf hfit).2 d hd
  unfold Mirror.telling
  cases hx : r d with
  | ok b d₁ =>
    rw [hx] at ho
    exact ho
  | error s d₁ =>
    rw [hx] at ho
    exact ho

/-- A writer that cannot succeed is mirrored by anything. -/
theorem Mirrors.of_error (h : ∀ e a e', w e ≠ .ok a e') : Mirrors C F P w r Q :=
  fun e a e' _ hw => (h e a e' hw).elim

/-- A writer that, where it succeeds, does what a mirrored one does. -/
theorem Mirrors.of_success {w' : EStateM ε E α}
    (h : ∀ e a e', w e = .ok a e' → w' e = .ok a e') (hw' : Mirrors C F P w' r Q) :
    Mirrors C F P w r Q :=
  fun e a e' hi hw => hw' e a e' hi (h e a e' hw)

/-- The reader returns a function of what the writer returns and keeps the coupling. -/
def Copies (C : Channel E) (F : Prop) (P : E → D → Prop) (w : EStateM ε E α)
    (r : EStateM δ D β) (k : α → β) : Prop :=
  Mirrors C F P w r (fun a x e d => x = k a ∧ P e d)

section Copies

variable {k : α → β} {k' : γ → κ}

theorem Copies.bind {f : α → EStateM ε E γ} {g : β → EStateM δ D κ} (h₁ : Copies C F P w r k)
    (h₂ : ∀ a, Copies C F P (f a) (g (k a)) k') : Copies C F P (w >>= f) (r >>= g) k' :=
  Mirrors.bind_eq k h₁ h₂

/-- Sequencing with a fact about what the first writer returns. -/
theorem Copies.bind_of {φ : α → Prop} {f : α → EStateM ε E γ} {g : β → EStateM δ D κ}
    (hφ : Returns w φ) (h₁ : Copies C F P w r k)
    (h₂ : ∀ a, φ a → Copies C F P (f a) (g (k a)) k') : Copies C F P (w >>= f) (r >>= g) k' :=
  Mirrors.bind_eq_of hφ h₁ h₂

theorem Copies.pure {a : α} {b : β} (h : b = k a) :
    Copies C F P (Pure.pure a : EStateM ε E α) (Pure.pure b : EStateM δ D β) k :=
  Mirrors.pure fun _ _ hP => ⟨h, hP⟩

theorem Copies.congr {k₂ : α → β} (h : Copies C F P w r k) (hk : ∀ a, k a = k₂ a) :
    Copies C F P w r k₂ := by
  rwa [show k = k₂ from funext hk] at h

/-- What the reader does after the writer's last step. -/
theorem Copies.bind_last {g : β → EStateM δ D κ} {k' : α → κ} (h₁ : Copies C F P w r k)
    (h₂ : ∀ a, Copies C F P (Pure.pure a : EStateM ε E α) (g (k a)) k') :
    Copies C F P w (r >>= g) k' := by
  have hbind : Copies C F P (w >>= Pure.pure) (r >>= g) k' := h₁.bind h₂
  rwa [bind_pure] at hbind

/-- The reader may compute with what it read. -/
theorem Copies.map (f : β → κ) (h : Copies C F P w r k) :
    Copies C F P w (do return f (← r)) (fun a => f (k a)) :=
  h.bind_last fun _ => Copies.pure rfl

/-- The reader may name its errors otherwise. -/
theorem Copies.adapt {f : δ → δ} (h : Copies C F P w r k) :
    Copies C F P w (r.adaptExcept f) k :=
  (adaptExcept_eq f r) ▸ Mirrors.telling h fun _ _ => f

end Copies

section Values

variable {R : γ → κ → E → D → Prop}

theorem ofExcept_ok_iff {x : Except ε α} {e e' : E} {a : α} :
    (MonadExcept.ofExcept x : EStateM ε E α) e = .ok a e' ↔ x = .ok a ∧ e' = e := by
  cases x with
  | error s =>
    change (EStateM.Result.error s e : EStateM.Result ε E α) = .ok a e' ↔ _
    simp
  | ok b =>
    change (EStateM.Result.ok b e : EStateM.Result ε E α) = .ok a e' ↔ _
    simp [eq_comm]

theorem Keeps.ofExcept {I : E → Prop} (x : Except ε α) :
    Keeps I (MonadExcept.ofExcept x : EStateM ε E α) := by
  intro e a e' he hw
  rw [ofExcept_ok_iff] at hw
  exact hw.2 ▸ he

/-- A writer that computes a value, or else the program is not written. -/
theorem Mirrors.ofExcept_writer {x : Except ε α} {f : α → EStateM ε E γ} {r : EStateM δ D κ}
    (h : ∀ a, x = .ok a → Mirrors C F P (f a) r R) :
    Mirrors C F P (MonadExcept.ofExcept x >>= f) r R := by
  intro e c e' hi hw
  obtain ⟨a, e₁, hcall, hf⟩ := bind_ok_iff.mp hw
  obtain ⟨hvalue, rfl⟩ := ofExcept_ok_iff.mp hcall
  exact h a hvalue e₁ c e' hi hf

/-- A reader that computes a value. -/
theorem Mirrors.ofExcept_reader {x : Except δ β} {b : β} (hx : x = .ok b)
    {w : EStateM ε E γ} {g : β → EStateM δ D κ} (h : Mirrors C F P w (g b) R) :
    Mirrors C F P w (MonadExcept.ofExcept x >>= g) R := by
  subst hx
  exact h

end Values

/-- `body start`, `body (start + 1)`, ... for `count` indices, in order. -/
def forLoop {m : Type → Type} [Monad m] (start : Nat) :
    (count : Nat) → (body : Nat → m PUnit) → m PUnit
  | 0, _ => Pure.pure ⟨⟩
  | count + 1, body => do
    body start
    forLoop (start + 1) count body

theorem forLoop_succ {m : Type → Type} [Monad m] (start count : Nat) (body : Nat → m PUnit) :
    forLoop start (count + 1) body = (do body start; forLoop (start + 1) count body) := rfl

/-- Synchronous loops: an index-dependent coupling carried by every iteration. -/
theorem Mirrors.forLoop {I : Nat → E → D → Prop} {w : Nat → EStateM ε E PUnit}
    {r : Nat → EStateM δ D PUnit} (start count : Nat)
    (h : ∀ i, start ≤ i → i < start + count →
      Mirrors C F (I i) (w i) (r i) (fun _ _ => I (i + 1))) :
    Mirrors C F (I start) (Mirror.forLoop start count w) (Mirror.forLoop start count r)
      (fun _ _ => I (start + count)) := by
  induction count generalizing start with
  | zero => exact Mirrors.pure (fun e d hd => hd)
  | succ n ih =>
    rw [forLoop_succ, forLoop_succ]
    refine Mirrors.bind (h start (Nat.le_refl _) (by omega)) (fun _ _ => ?_)
    have hrest := ih (start + 1) (fun i hlo hhi => h i (by omega) (by omega))
    rwa [show start + 1 + n = start + (n + 1) by omega] at hrest

theorem Keeps.forLoop {I : E → Prop} {body : Nat → EStateM ε E PUnit} (start count : Nat)
    (h : ∀ i, start ≤ i → i < start + count → Keeps I (body i)) :
    Keeps I (Mirror.forLoop start count body) := by
  induction count generalizing start with
  | zero => exact Keeps.pure
  | succ count ih =>
    rw [forLoop_succ]
    exact (h start (Nat.le_refl _) (by omega)).bind fun _ =>
      ih (start + 1) fun i hlo hhi => h i (by omega) (by omega)

def mapState (π : E → D) : EStateM.Result ε E α → EStateM.Result ε D α
  | .ok a e => .ok a (π e)
  | .error s e => .error s (π e)

/-- A call on states with more in them does on their projections what another call does. -/
def Projects (π : E → D) (w : EStateM ε E α) (r : EStateM ε D α) : Prop :=
  ∀ e, r (π e) = mapState π (w e)

section Projects

variable {π : E → D} {w : EStateM ε E α} {r : EStateM ε D α}

theorem Projects.ok {e : E} {a : α} {d : D} (h : Projects π w r) (hr : r (π e) = .ok a d) :
    ∃ e', w e = .ok a e' ∧ π e' = d := by
  rw [h e] at hr
  cases hw : w e with
  | ok b e' =>
    rw [hw] at hr
    obtain ⟨rfl, hd⟩ := EStateM.Result.ok.inj hr
    exact ⟨e', rfl, hd⟩
  | error s e' =>
    rw [hw] at hr
    cases hr

theorem Projects.pure (a : α) :
    Projects π (Pure.pure a : EStateM ε E α) (Pure.pure a : EStateM ε D α) := fun _ => rfl

theorem Projects.modify {f : E → E} {g : D → D} (h : ∀ e, g (π e) = π (f e)) :
    Projects π (modify f : EStateM ε E PUnit) (modify g : EStateM ε D PUnit) := by
  intro e
  rw [modify_apply, modify_apply, h]
  rfl

theorem Projects.ofExcept (x : Except ε α) :
    Projects π (MonadExcept.ofExcept x : EStateM ε E α) (MonadExcept.ofExcept x) := by
  intro e
  cases x with
  | ok a => rfl
  | error s => rfl

/-- Sequencing, from one state only. -/
theorem mapState_bind {f : α → EStateM ε E β} {g : α → EStateM ε D β} {e : E}
    (hr : r (π e) = mapState π (w e)) (h : ∀ a, Projects π (f a) (g a)) :
    (r >>= g) (π e) = mapState π ((w >>= f) e) := by
  cases hw : w e with
  | ok a e' =>
    rw [hw] at hr
    rw [bind_ok hw, bind_ok hr, h a e']
  | error s e' =>
    rw [hw] at hr
    rw [bind_error hw, bind_error hr]
    rfl

theorem Projects.bind {f : α → EStateM ε E β} {g : α → EStateM ε D β} (h₁ : Projects π w r)
    (h₂ : ∀ a, Projects π (f a) (g a)) : Projects π (w >>= f) (r >>= g) :=
  fun e => mapState_bind (h₁ e) h₂

/-- Both calls look at the same view of their states. -/
theorem Projects.view (k : E → κ) (k' : D → κ) (f : κ → EStateM ε E α) (g : κ → EStateM ε D α)
    (hk : ∀ e, k' (π e) = k e) (h : ∀ x, Projects π (f x) (g x)) :
    Projects π (get >>= fun e => f (k e)) (get >>= fun d => g (k' d)) := by
  intro e
  rw [get_bind, get_bind, hk]
  exact h (k e) e

/-- A call that looks at a view which the projection does not change. -/
theorem Projects.view_same {π : E → E} (k : E → κ) (f : κ → EStateM ε E α)
    (hk : ∀ e, k (π e) = k e) (h : ∀ x, Projects π (f x) (f x)) :
    Projects π (get >>= fun e => f (k e)) (get >>= fun e => f (k e)) :=
  Projects.view k k f f hk h

theorem Projects.forLoop {wb : Nat → EStateM ε E PUnit} {rb : Nat → EStateM ε D PUnit}
    (start count : Nat) (h : ∀ i, Projects π (wb i) (rb i)) :
    Projects π (Mirror.forLoop start count wb) (Mirror.forLoop start count rb) := by
  induction count generalizing start with
  | zero => exact Projects.pure _
  | succ count ih => exact (h start).bind fun _ => ih (start + 1)

end Projects

end Mirror
