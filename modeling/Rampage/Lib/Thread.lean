/-
Threads over a shared state. A thread stands at a point of its program, with its local data, and carries a mark that
other threads set when they overtake it: what it has read is no longer so. `advance` moves the thread at an index to its
next point or ends it, and `overtake` marks threads; `mem_advance` and `mem_overtake` say where the threads of the new
list come from.
-/
import Mathlib.Data.List.Basic

/-- A thread at a point of its program. -/
structure Thread (P : Type) where
  point : P
  overtaken : Bool

namespace Thread

variable {P : Type}

/-- A thread that has just arrived. -/
def start (p : P) : Thread P := ⟨p, false⟩

/-- The thread at `i` goes on to its next point, or ends. -/
def advance (i : Nat) (next : Option P) (ts : List (Thread P)) : List (Thread P) :=
  match next with
  | some p => ts.modify i fun t => { t with point := p }
  | none => ts.eraseIdx i

/-- Mark the threads at the points that `f` picks. -/
def overtake (f : P → Bool) (ts : List (Thread P)) : List (Thread P) :=
  ts.map fun t => { t with overtaken := t.overtaken || f t.point }

/-- A thread after a step was there before, or is the one that moved. -/
theorem mem_advance {i : Nat} {next : Option P} {ts : List (Thread P)} {t : Thread P} (h : t ∈ advance i next ts) :
    t ∈ ts ∨ ∃ t₀, ts[i]? = some t₀ ∧ next = some t.point ∧ t.overtaken = t₀.overtaken := by
  cases next with
  | none => exact Or.inl (List.mem_of_mem_eraseIdx h)
  | some p =>
    obtain ⟨j, hj⟩ := List.mem_iff_getElem?.1 h
    change (ts.modify i fun t => { t with point := p })[j]? = some t at hj
    rw [List.getElem?_modify] at hj
    by_cases hij : i = j
    · -- the thread that moved
      subst hij
      cases ht : ts[i]? with
      | none => simp [ht] at hj
      | some t₀ =>
        rw [ht] at hj
        simp only [if_true, Option.map_eq_map, Option.map_some, Option.some.injEq] at hj
        subst hj
        exact Or.inr ⟨t₀, rfl, rfl, rfl⟩
    · exact Or.inl (List.mem_iff_getElem?.2 ⟨j, by simpa [hij] using hj⟩)

theorem mem_overtake {f : P → Bool} {ts : List (Thread P)} {t : Thread P} (h : t ∈ overtake f ts) :
    ∃ t₀ ∈ ts, t.point = t₀.point ∧ t.overtaken = (t₀.overtaken || f t₀.point) := by
  obtain ⟨t₀, ht₀, rfl⟩ := List.mem_map.1 h
  exact ⟨t₀, ht₀, rfl, rfl⟩

end Thread
