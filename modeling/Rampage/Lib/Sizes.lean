/-
Sizes of keyed things. A list of keys with sizes may name a key several times, with different sizes; its
total counts every key once, with the largest size it has. The total is at most the plain sum, and grows
only when a key gets a larger size.
-/
import Mathlib.Algebra.BigOperators.Group.List.Basic
import Mathlib.Algebra.BigOperators.Group.Finset.Basic
import Mathlib.Algebra.BigOperators.Group.Finset.Piecewise
import Mathlib.Algebra.Order.BigOperators.Group.Finset
import Mathlib.Algebra.Order.Ring.Nat

namespace Sizes

variable {K : Type} [DecidableEq K] {k : K} {l l' : List (K × Nat)}

/-- The largest size of a key, zero if it has none. -/
def largest (k : K) (l : List (K × Nat)) : Nat := ((l.filter (·.1 = k)).map (·.2)).foldr max 0

/-- The total size of the distinct keys. -/
def total (l : List (K × Nat)) : Nat := ∑ k ∈ (l.map (·.1)).toFinset, largest k l

theorem largest_cons (k : K) (e : K × Nat) (l : List (K × Nat)) :
    largest k (e :: l) = if e.1 = k then max e.2 (largest k l) else largest k l := by
  unfold largest
  rw [List.filter_cons]
  by_cases h : e.1 = k
  · simp [h]
  · simp [h]

theorem le_largest {e : K × Nat} (h : e ∈ l) : e.2 ≤ largest e.1 l := by
  induction l with
  | nil => cases h
  | cons e' l ih =>
    rw [largest_cons]
    rcases List.mem_cons.1 h with rfl | h
    · rw [if_pos rfl]
      exact le_max_left _ _
    · have := ih h
      split
      · exact this.trans (le_max_right _ _)
      · exact this

theorem largest_le {m : Nat} (h : ∀ e ∈ l, e.1 = k → e.2 ≤ m) : largest k l ≤ m := by
  induction l with
  | nil => exact Nat.zero_le m
  | cons e l ih =>
    have hrest := ih fun e' he' => h e' (List.mem_cons_of_mem e he')
    rw [largest_cons]
    split
    · rename_i hk
      exact max_le (h e (List.mem_cons_self ..) hk) hrest
    · exact hrest

theorem largest_of_notMem (h : k ∉ l.map (·.1)) : largest k l = 0 := by
  refine Nat.le_zero.1 (largest_le fun e he hk => absurd ?_ h)
  rw [← hk]
  exact List.mem_map_of_mem he

/-- Every entry of the one list has its key in the other, with a size that is no smaller. -/
def Covered (l l' : List (K × Nat)) : Prop := ∀ e ∈ l, ∃ e' ∈ l', e'.1 = e.1 ∧ e.2 ≤ e'.2

omit [DecidableEq K] in
theorem Covered.of_subset (h : l ⊆ l') : Covered l l' := fun e he => ⟨e, h he, rfl, le_refl _⟩

omit [DecidableEq K] in
theorem Covered.trans {l'' : List (K × Nat)} (h : Covered l l') (h' : Covered l' l'') : Covered l l'' := by
  intro e he
  obtain ⟨e', he', hkey, hle⟩ := h e he
  obtain ⟨e'', he'', hkey', hle'⟩ := h' e' he'
  exact ⟨e'', he'', hkey'.trans hkey, hle.trans hle'⟩

omit [DecidableEq K] in
theorem Covered.append {l₁ l₂ : List (K × Nat)} (h₁ : Covered l₁ l) (h₂ : Covered l₂ l) : Covered (l₁ ++ l₂) l := by
  intro e he
  rcases List.mem_append.1 he with he | he
  · exact h₁ e he
  · exact h₂ e he

theorem Covered.largest_le (h : Covered l l') (k : K) : largest k l ≤ largest k l' := by
  refine Sizes.largest_le fun e he hk => ?_
  obtain ⟨e', he', hkey, hle⟩ := h e he
  have hlargest := le_largest he'
  rw [hkey, hk] at hlargest
  exact hle.trans hlargest

theorem Covered.total_le (h : Covered l l') : total l ≤ total l' := by
  have hkeys : (l.map (·.1)).toFinset ⊆ (l'.map (·.1)).toFinset := by
    intro k hk
    rw [List.mem_toFinset] at hk ⊢
    obtain ⟨e, he, rfl⟩ := List.mem_map.1 hk
    obtain ⟨e', he', hkey, _⟩ := h e he
    rw [← hkey]
    exact List.mem_map_of_mem he'
  calc total l ≤ ∑ k ∈ (l.map (·.1)).toFinset, largest k l' := Finset.sum_le_sum fun k _ => h.largest_le k
    _ ≤ total l' := Finset.sum_le_sum_of_subset hkeys

theorem total_cons_le (e : K × Nat) (l : List (K × Nat)) : total (e :: l) ≤ e.2 + total l := by
  have hkeys : ((e :: l).map (·.1)).toFinset = insert e.1 (l.map (·.1)).toFinset := by simp
  have hbound : ∀ k, largest k (e :: l) ≤ (if k = e.1 then e.2 else 0) + largest k l := by
    intro k
    rw [largest_cons]
    by_cases hk : e.1 = k
    · rw [if_pos hk, if_pos hk.symm]
      omega
    · rw [if_neg hk]
      omega
  calc total (e :: l) ≤ ∑ k ∈ insert e.1 (l.map (·.1)).toFinset, ((if k = e.1 then e.2 else 0) + largest k l) := by
        rw [total, hkeys]
        exact Finset.sum_le_sum fun k _ => hbound k
    _ = e.2 + ∑ k ∈ insert e.1 (l.map (·.1)).toFinset, largest k l := by
        rw [Finset.sum_add_distrib, Finset.sum_ite_eq', if_pos (Finset.mem_insert_self _ _)]
    _ = e.2 + total l := by
        have hzero : e.1 ∉ (l.map (·.1)).toFinset → largest e.1 l = 0 := fun h =>
          largest_of_notMem fun hm => h (List.mem_toFinset.2 hm)
        rw [Finset.sum_insert_of_eq_zero_if_notMem hzero]
        rfl

/-- Counting every key once is no more than adding up all sizes. -/
theorem total_le_sum (l : List (K × Nat)) : total l ≤ (l.map (·.2)).sum := by
  induction l with
  | nil => exact le_refl 0
  | cons e l ih =>
    have := total_cons_le e l
    rw [List.map_cons, List.sum_cons]
    omega

end Sizes
