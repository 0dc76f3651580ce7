/-
Operations on durable state. An operation is planned on the state it finds: the effects it makes
durable one after the other, and its result. `applyAll` does them all; `crash` stops after
any number of effects, possibly inside the next one. A property that every effect of a plan keeps, also
when it is cut, holds whether the operation ends or crashes.
-/
import Mathlib.Data.List.Basic

/-- Effects on states `σ`: what each does, and what it can leave when it is cut. -/
structure Effects (σ : Type) where
  Effect : Type
  apply : Effect → σ → σ
  cut : Effect → Nat → σ → σ

/-- The effects of an operation, in order, and its result. -/
structure Plan {σ : Type} (E : Effects σ) (ε α : Type) where
  effects : List E.Effect
  result : Except ε α

namespace Effects

variable {σ : Type} (E : Effects σ)

/-- Effects one after the other. -/
def applyAll : List E.Effect → σ → σ
  | [], s => s
  | e :: l, s => applyAll l (E.apply e s)

theorem applyAll_append (l l' : List E.Effect) (s : σ) : E.applyAll (l ++ l') s = E.applyAll l' (E.applyAll l s) := by
  induction l generalizing s with
  | nil => rfl
  | cons e l ih => exact ih (E.apply e s)

/-- The state a crash leaves: the first `k` effects are done, and the next one is cut at `j` if it had begun. -/
def crash (l : List E.Effect) (k : Nat) (j : Option Nat) (s : σ) : σ :=
  match l[k]?, j with
  | some e, some j => E.cut e j (E.applyAll (l.take k) s)
  | _, _ => E.applyAll (l.take k) s

/-- Effects that are done whole or not at all. -/
theorem crash_of_uncut {l : List E.Effect} (h : ∀ e ∈ l, ∀ j s, E.cut e j s = s) (k : Nat) (j : Option Nat) (s : σ) :
    E.crash l k j s = E.applyAll (l.take k) s := by
  unfold crash
  split
  · rename_i e j he
    exact h e (List.mem_of_getElem? he) j _
  · rfl

/-- Every effect of the list keeps `I`, whole or cut, in the state in which it happens. -/
def Keep (I : σ → Prop) : List E.Effect → σ → Prop
  | [], _ => True
  | e :: l, s => (I s → I (E.apply e s) ∧ ∀ j, I (E.cut e j s)) ∧ Keep I l (E.apply e s)

variable {E} {I : σ → Prop}

theorem Keep.applyAll {l : List E.Effect} {s : σ} (h : E.Keep I l s) (hs : I s) : I (E.applyAll l s) := by
  induction l generalizing s with
  | nil => exact hs
  | cons e l ih => exact ih h.2 (h.1 hs).1

theorem Keep.take {l : List E.Effect} {s : σ} (h : E.Keep I l s) (k : Nat) : E.Keep I (l.take k) s := by
  induction l generalizing s k with
  | nil => simpa using h
  | cons e l ih =>
    cases k with
    | zero => trivial
    | succ k => exact ⟨h.1, ih h.2 k⟩

theorem keep_append {l l' : List E.Effect} {s : σ} (h : E.Keep I l s) (h' : E.Keep I l' (E.applyAll l s)) :
    E.Keep I (l ++ l') s := by
  induction l generalizing s with
  | nil => exact h'
  | cons e l ih => exact ⟨h.1, ih h.2 h'⟩

/-- Effects of a kind that always keeps `I`. -/
theorem keep_of_forall {P : E.Effect → Prop} (h : ∀ e s, P e → I s → I (E.apply e s) ∧ ∀ j, I (E.cut e j s))
    {l : List E.Effect} (hl : ∀ e ∈ l, P e) (s : σ) : E.Keep I l s := by
  induction l generalizing s with
  | nil => trivial
  | cons e l ih =>
    exact ⟨fun hs => h e s (hl e (List.mem_cons_self ..)) hs, ih (fun e' he' => hl e' (List.mem_cons_of_mem _ he')) _⟩

/-- A crash keeps what every effect keeps. -/
theorem Keep.crash {l : List E.Effect} {s : σ} (h : E.Keep I l s) (hs : I s) (k : Nat) (j : Option Nat) :
    I (E.crash l k j s) := by
  have hdone := (h.take k).applyAll hs
  unfold Effects.crash
  split
  · rename_i e j he
    -- the effect that is cut is the next one of the plan
    have hnext : ∀ {l : List E.Effect} {s : σ} {k : Nat}, E.Keep I l s → l[k]? = some e →
        I (E.applyAll (l.take k) s) → I (E.cut e j (E.applyAll (l.take k) s)) := by
      intro l
      induction l with
      | nil => intro s k _ hk; simp at hk
      | cons a l ih =>
        intro s k hkeep hk
        cases k with
        | zero =>
          cases hk
          exact fun hs => (hkeep.1 hs).2 j
        | succ k => exact ih hkeep.2 hk
    exact hnext h he hdone
  · exact hdone

end Effects

namespace Plan

variable {σ : Type} {E : Effects σ} {ε α : Type}

/-- Refuse without any effect. -/
def fail (e : ε) : Plan E ε α := ⟨[], .error e⟩

/-- Do some effects first. -/
def after (l : List E.Effect) (p : Plan E ε α) : Plan E ε α := ⟨l ++ p.effects, p.result⟩

end Plan
