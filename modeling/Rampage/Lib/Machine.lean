/-
Machines: a step function that takes an input in a state and answers with an output and the next
state. A run is the list of its inputs; `trace` lists the inputs with the outputs they got and
`exec` is the state reached. `Meets C` says that every step of a run meets a condition on its
input and the state before it, and `invariant` is the induction rule for properties of the whole
history: they hold initially and every step that meets the condition keeps them.
-/
import Mathlib.Data.List.Basic

/-- A deterministic machine with states `σ`, inputs `ι` and outputs `ο`. -/
structure Machine (σ ι ο : Type) where
  step : ι → σ → ο × σ

namespace Machine

variable {σ ι ο : Type} (m : Machine σ ι ο)

/-- The state after a run. -/
def exec : List ι → σ → σ
  | [], s => s
  | i :: is, s => exec is (m.step i s).2

/-- The inputs of a run with the outputs they got. -/
def trace : List ι → σ → List (ι × ο)
  | [], _ => []
  | i :: is, s => (i, (m.step i s).1) :: trace is (m.step i s).2

/-- Every step of the run meets `C`, at its input and the state before it. -/
def Meets (C : σ → ι → Prop) : List ι → σ → Prop
  | [], _ => True
  | i :: is, s => C s i ∧ Meets C is (m.step i s).2

/-- Whether the steps of a run meet a decidable condition can be computed. -/
instance instDecidableMeets (C : σ → ι → Prop) [∀ s i, Decidable (C s i)] : ∀ (is : List ι) (s : σ), Decidable (m.Meets C is s)
  | [], _ => isTrue trivial
  | i :: is, s =>
    have : Decidable (m.Meets C is (m.step i s).2) := instDecidableMeets C is _
    inferInstanceAs (Decidable (C s i ∧ m.Meets C is (m.step i s).2))

theorem exec_append (is js : List ι) (s : σ) : m.exec (is ++ js) s = m.exec js (m.exec is s) := by
  induction is generalizing s with
  | nil => rfl
  | cons i is ih => exact ih (m.step i s).2

theorem trace_append (is js : List ι) (s : σ) :
    m.trace (is ++ js) s = m.trace is s ++ m.trace js (m.exec is s) := by
  induction is generalizing s with
  | nil => rfl
  | cons i is ih => simp only [List.cons_append, trace, exec, ih]

theorem meets_append (C : σ → ι → Prop) (is js : List ι) (s : σ) :
    m.Meets C (is ++ js) s ↔ m.Meets C is s ∧ m.Meets C js (m.exec is s) := by
  induction is generalizing s with
  | nil => simp [Meets, exec]
  | cons i is ih => simp only [List.cons_append, Meets, exec, ih, and_assoc]

theorem meets_of_forall {C : σ → ι → Prop} (h : ∀ s i, C s i) :
    ∀ (is : List ι) (s : σ), m.Meets C is s
  | [], _ => trivial
  | i :: is, s => ⟨h s i, meets_of_forall h is (m.step i s).2⟩

/-- A run meets a condition if every step of it does, wherever the run is cut. -/
theorem meets_of_splits {m : Machine σ ι ο} {C : σ → ι → Prop} {is : List ι} {s : σ}
    (h : ∀ pre i post, is = pre ++ i :: post → C (m.exec pre s) i) : m.Meets C is s := by
  induction is generalizing s with
  | nil => trivial
  | cons i is ih =>
    refine ⟨h [] i is rfl, ih fun pre j post hsplit => ?_⟩
    exact h (i :: pre) j post (by rw [hsplit, List.cons_append])

/-- The invariant rule: a property of the history so far and the state holds after every run
whose steps meet `C`, if it holds at the start and every step that meets `C` keeps it. -/
theorem invariant {C : σ → ι → Prop} {I : List (ι × ο) → σ → Prop}
    (step : ∀ tr s i, I tr s → C s i → I (tr ++ [(i, (m.step i s).1)]) (m.step i s).2) :
    ∀ (is : List ι) (tr : List (ι × ο)) (s : σ), I tr s → m.Meets C is s →
      I (tr ++ m.trace is s) (m.exec is s)
  | [], tr, s, h, _ => by simpa [trace, exec] using h
  | i :: is, tr, s, h, hm => by
    have := invariant step is (tr ++ [(i, (m.step i s).1)]) (m.step i s).2 (step tr s i h hm.1) hm.2
    simpa [trace, exec] using this

/-- The invariant rule for properties of the state alone. -/
theorem state_invariant {C : σ → ι → Prop} {I : σ → Prop}
    (step : ∀ s i, I s → C s i → I (m.step i s).2) (is : List ι) {s : σ} (h : I s)
    (hm : m.Meets C is s) : I (m.exec is s) :=
  m.invariant (I := fun _ s => I s) (fun _ s i hs hc => step s i hs hc) is [] s h hm

/-- Every entry of a trace was answered in a state the run passed through. -/
theorem mem_trace {is : List ι} {s : σ} {e : ι × ο} (h : e ∈ m.trace is s) :
    ∃ pre post, is = pre ++ e.1 :: post ∧ e.2 = (m.step e.1 (m.exec pre s)).1 := by
  induction is generalizing s with
  | nil => cases h
  | cons i is ih =>
    rcases List.mem_cons.1 h with rfl | h
    · exact ⟨[], is, rfl, rfl⟩
    · obtain ⟨pre, post, rfl, he⟩ := ih h
      exact ⟨i :: pre, post, rfl, he⟩

/-- What holds after a run and did not before came true in one of its steps. -/
theorem exists_step_of_exec {P : σ → Prop} {is : List ι} {s : σ} (hno : ¬ P s) (h : P (m.exec is s)) :
    ∃ pre i post, is = pre ++ i :: post ∧ ¬ P (m.exec pre s) ∧ P (m.step i (m.exec pre s)).2 := by
  induction is generalizing s with
  | nil => exact absurd h hno
  | cons i is ih =>
    by_cases hnext : P (m.step i s).2
    · exact ⟨[], i, is, rfl, hno, hnext⟩
    · obtain ⟨pre, j, post, rfl, hbefore, hafter⟩ := ih hnext h
      exact ⟨i :: pre, j, post, rfl, hbefore, hafter⟩

end Machine
