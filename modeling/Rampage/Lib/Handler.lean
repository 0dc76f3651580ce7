/-
Request handlers: computations on a state that answer or fail, and that keep what they changed
when they fail (no rollback). `Keeps R` says that a handler relates every state to the one it leaves,
whether it answers or fails; for a preorder `R` it composes along `bind` and the loops, so a
frame condition is proved once for each primitive. `bind_ok` and its companions take an answered
run apart step by step.
-/
import Mathlib.Order.Defs.Unbundled
import Mathlib.Data.List.Basic

/-- A computation on `σ` that answers with an `α` or fails with an `ε`. -/
def Handler (σ ε α : Type) : Type := σ → Except ε α × σ

namespace Handler

variable {σ ε α β : Type}

instance : Monad (Handler σ ε) where
  pure a := fun s => (.ok a, s)
  bind x f := fun s =>
    match x s with
    | (.ok a, s') => f a s'
    | (.error e, s') => (.error e, s')

/-- Fail, keeping the state. -/
def fail (e : ε) : Handler σ ε α := fun s => (.error e, s)

/-- Read the state. -/
def get : Handler σ ε σ := fun s => (.ok s, s)

/-- Change the state. -/
def modify (f : σ → σ) : Handler σ ε Unit := fun s => (.ok (), f s)

/-- Go on if the test passes, fail otherwise. -/
def ensure (c : Bool) (e : ε) : Handler σ ε Unit := if c then pure () else fail e

/-- A result computed without the state. -/
def ofExcept : Except ε α → Handler σ ε α
  | .ok a => pure a
  | .error e => fail e

/-- Rewrite the failure. -/
def mapError (f : ε → ε) (x : Handler σ ε α) : Handler σ ε α := fun s =>
  match x s with
  | (.ok a, s') => (.ok a, s')
  | (.error e, s') => (.error (f e), s')

/-- The result as a value: a failure does not end the run. -/
def result {ε' : Type} (x : Handler σ ε α) : Handler σ ε' (Except ε α) := fun s => (.ok (x s).1, (x s).2)

/-- Run a handler for every element of a list, in order, and stop at the first failure. -/
def forEach (f : α → Handler σ ε Unit) : List α → Handler σ ε Unit
  | [] => pure ()
  | a :: l => f a >>= fun _ => forEach f l

/-- `forEach` with the answers. -/
def mapEach (f : α → Handler σ ε β) : List α → Handler σ ε (List β)
  | [] => pure []
  | a :: l => f a >>= fun b => mapEach f l >>= fun bs => pure (b :: bs)

/-! ## Answered runs -/

theorem pure_ok {a b : α} {s s' : σ} (h : (pure a : Handler σ ε α) s = (.ok b, s')) : a = b ∧ s = s' := by
  have h' : ((.ok a : Except ε α), s) = (.ok b, s') := h
  simp only [Prod.mk.injEq, Except.ok.injEq] at h'
  exact h'

theorem bind_ok {x : Handler σ ε α} {f : α → Handler σ ε β} {s s' : σ} {b : β}
    (h : (x >>= f) s = (.ok b, s')) : ∃ a s₁, x s = (.ok a, s₁) ∧ f a s₁ = (.ok b, s') := by
  have h' : (match x s with
    | (.ok a, s₁) => f a s₁
    | (.error e, s₁) => (.error e, s₁)) = (.ok b, s') := h
  rcases hx : x s with ⟨a | a, s₁⟩
  · rw [hx] at h'
    cases h'
  · rw [hx] at h'
    exact ⟨a, s₁, rfl, h'⟩

theorem bind_of_ok {x : Handler σ ε α} {f : α → Handler σ ε β} {s s₁ : σ} {a : α} (h : x s = (.ok a, s₁)) :
    (x >>= f) s = f a s₁ := by
  show (match x s with
    | (.ok a, s₁) => f a s₁
    | (.error e, s₁) => (.error e, s₁)) = f a s₁
  rw [h]

theorem bind_of_error {x : Handler σ ε α} {f : α → Handler σ ε β} {s s₁ : σ} {e : ε} (h : x s = (.error e, s₁)) :
    (x >>= f) s = (.error e, s₁) := by
  show (match x s with
    | (.ok a, s₁) => f a s₁
    | (.error e, s₁) => (.error e, s₁)) = (.error e, s₁)
  rw [h]

theorem bind_bind {γ : Type} (x : Handler σ ε α) (f : α → Handler σ ε β) (g : β → Handler σ ε γ) (s : σ) :
    ((x >>= f) >>= g) s = (x >>= fun a => f a >>= g) s := by
  rcases h : x s with ⟨e | a, s₁⟩
  · rw [bind_of_error h, bind_of_error (bind_of_error h)]
  · rw [bind_of_ok h]
    rcases h' : f a s₁ with ⟨e | b, s₂⟩
    · rw [bind_of_error h', bind_of_error ((bind_of_ok h).trans h')]
    · rw [bind_of_ok h', bind_of_ok ((bind_of_ok h).trans h')]

/-- A list is run in two parts. -/
theorem forEach_append (f : α → Handler σ ε Unit) (l l' : List α) :
    forEach f (l ++ l') = (forEach f l >>= fun _ => forEach f l') := by
  induction l with
  | nil => rfl
  | cons a l ih =>
    rw [List.cons_append, forEach, ih]
    funext s
    exact (bind_bind (f a) (fun _ => forEach f l) (fun _ => forEach f l') s).symm

/-- An answer after the last effect changes nothing. -/
theorem bind_pure_state (x : Handler σ ε α) (b : α → β) (s : σ) : ((x >>= fun a => pure (b a)) s).2 = (x s).2 := by
  rcases h : x s with ⟨e | a, s₁⟩
  · rw [bind_of_error h]
  · rw [bind_of_ok h]
    rfl

theorem get_bind (f : σ → Handler σ ε β) (s : σ) : (get >>= f) s = f s s := rfl

theorem modify_bind (g : σ → σ) (f : Unit → Handler σ ε β) (s : σ) : (modify g >>= f) s = f () (g s) := rfl

theorem ensure_true_bind (e : ε) (f : Unit → Handler σ ε β) (s : σ) : (ensure true e >>= f) s = f () s := rfl

theorem ensure_false_bind {e : ε} (f : Unit → Handler σ ε β) (s : σ) : (ensure false e >>= f) s = (.error e, s) := rfl

theorem ensure_ok {c : Bool} {e : ε} {s s' : σ} {u : Unit} (h : ensure c e s = (.ok u, s')) : c = true ∧ s = s' := by
  unfold ensure at h
  split at h
  · rename_i hc
    exact ⟨hc, (pure_ok h).2⟩
  · cases h

theorem ofExcept_ok {r : Except ε α} {a : α} {s s' : σ} (h : ofExcept r s = (.ok a, s')) : r = .ok a ∧ s = s' := by
  cases r with
  | error e => cases h
  | ok b =>
    obtain ⟨rfl, rfl⟩ := pure_ok h
    exact ⟨rfl, rfl⟩

/-- A sequence whose second part answers under a condition that does not depend on the first. -/
theorem bind_isOk_iff {P : Prop} {x : Handler σ ε α} {f : α → Handler σ ε β} {s : σ}
    (hf : ∀ a s₁, (f a s₁).1.isOk = true ↔ P) : ((x >>= f) s).1.isOk = true ↔ (x s).1.isOk = true ∧ P := by
  rcases h : x s with ⟨e | a, s₁⟩
  · rw [bind_of_error h]
    simp [Except.isOk, Except.toBool]
  · rw [bind_of_ok h, hf]
    simp [Except.isOk, Except.toBool]

theorem ensure_bind_isOk {c : Bool} {e : ε} {f : Unit → Handler σ ε β} {s : σ} :
    ((ensure c e >>= f) s).1.isOk = true ↔ c = true ∧ (f () s).1.isOk = true := by
  cases c with
  | false => simp [ensure_false_bind, Except.isOk, Except.toBool]
  | true => simp [ensure_true_bind]

/-! ## Relations every run keeps -/

/-- The handler relates every state to the one it leaves, answered or failed. -/
def Keeps (R : σ → σ → Prop) (x : Handler σ ε α) : Prop := ∀ s, R s (x s).2

section Keeps

variable {R : σ → σ → Prop}

theorem Keeps.mono {S : σ → σ → Prop} {x : Handler σ ε α} (h : Keeps R x) (hRS : ∀ s t, R s t → S s t) :
    Keeps S x :=
  fun s => hRS s _ (h s)

theorem Keeps.modify {f : σ → σ} (h : ∀ s, R s (f s)) : Keeps R (modify f : Handler σ ε Unit) := h

theorem Keeps.pure [Std.Refl R] (a : α) : Keeps R (Pure.pure a : Handler σ ε α) :=
  fun s => refl_of R s

theorem Keeps.fail [Std.Refl R] (e : ε) : Keeps R (fail e : Handler σ ε α) := fun s => refl_of R s

theorem Keeps.get [Std.Refl R] : Keeps R (get : Handler σ ε σ) := fun s => refl_of R s

theorem Keeps.ensure [Std.Refl R] (c : Bool) (e : ε) : Keeps R (ensure c e : Handler σ ε Unit) := by
  intro s
  unfold Handler.ensure
  split
  · exact refl_of R s
  · exact refl_of R s

theorem Keeps.ofExcept [Std.Refl R] (r : Except ε α) : Keeps R (ofExcept r : Handler σ ε α) := by
  intro s
  cases r with
  | error e => exact refl_of R s
  | ok a => exact refl_of R s

theorem Keeps.bind [IsTrans σ R] {x : Handler σ ε α} {f : α → Handler σ ε β} (hx : Keeps R x)
    (hf : ∀ a, Keeps R (f a)) : Keeps R (x >>= f) := by
  intro s
  have h1 := hx s
  rcases h : x s with ⟨e | a, s₁⟩
  · rw [h] at h1
    rw [bind_of_error h]
    exact h1
  · rw [h] at h1
    rw [bind_of_ok h]
    exact trans_of R h1 (hf a s₁)

theorem Keeps.mapError {f : ε → ε} {x : Handler σ ε α} (hx : Keeps R x) : Keeps R (mapError f x) := by
  intro s
  have h1 := hx s
  unfold Handler.mapError
  rcases h : x s with ⟨e | a, s₁⟩
  · rw [h] at h1
    exact h1
  · rw [h] at h1
    exact h1

theorem Keeps.ite {c : Prop} [Decidable c] {x y : Handler σ ε α} (hx : Keeps R x) (hy : Keeps R y) :
    Keeps R (if c then x else y) := by
  split
  · exact hx
  · exact hy

variable [Std.Refl R] [IsTrans σ R]

theorem Keeps.forEach {f : α → Handler σ ε Unit} (hf : ∀ a, Keeps R (f a)) : ∀ l : List α, Keeps R (forEach f l)
  | [] => Keeps.pure ()
  | a :: l => Keeps.bind (hf a) fun _ => Keeps.forEach hf l

theorem Keeps.mapEach {f : α → Handler σ ε β} (hf : ∀ a, Keeps R (f a)) : ∀ l : List α, Keeps R (mapEach f l)
  | [] => Keeps.pure []
  | a :: l => Keeps.bind (hf a) fun _ => Keeps.bind (Keeps.mapEach hf l) fun _ => Keeps.pure _

end Keeps

end Handler
