/-
Lists ranked by a key, equal keys in their old order. Of a descending ranking the first member has the greatest key, and no
choice of `n` members weighs more than the `n` members that are ranked first (`sum_le_sum_heaviest`). If the key tells the
members apart, the ranking does not depend on the order of the list (`byKey_eq_of_perm`).
-/
import Mathlib.Data.List.Sort
import Mathlib.Algebra.BigOperators.Group.List.Basic
import Mathlib.Algebra.Order.Ring.Nat

namespace Ranking

variable {α β : Type} [LinearOrder β] {key : α → β} {l : List α} {a b : α}

/-- The stable sort by descending key: `sort_by_key` with `Reverse`. -/
def byKeyDesc (key : α → β) (l : List α) : List α := l.insertionSort fun a b => key b ≤ key a

theorem byKeyDesc_perm (key : α → β) (l : List α) : (byKeyDesc key l).Perm l := List.perm_insertionSort _ l

@[simp] theorem mem_byKeyDesc : a ∈ byKeyDesc key l ↔ a ∈ l := (byKeyDesc_perm key l).mem_iff

@[simp] theorem length_byKeyDesc : (byKeyDesc key l).length = l.length := (byKeyDesc_perm key l).length_eq

theorem byKeyDesc_pairwise (key : α → β) (l : List α) : (byKeyDesc key l).Pairwise fun a b => key b ≤ key a := by
  have : IsTrans α fun a b => key b ≤ key a := ⟨fun _ _ _ hab hbc => le_trans hbc hab⟩
  have : Std.Total fun a b => key b ≤ key a := ⟨fun a b => le_total (key b) (key a)⟩
  exact List.pairwise_insertionSort _ l

/-- The stable sort by ascending key: `sort_by_key`. -/
def byKey (key : α → β) (l : List α) : List α := l.insertionSort fun a b => key a ≤ key b

theorem byKey_perm (key : α → β) (l : List α) : (byKey key l).Perm l := List.perm_insertionSort _ l

@[simp] theorem mem_byKey : a ∈ byKey key l ↔ a ∈ l := (byKey_perm key l).mem_iff

theorem byKey_pairwise (key : α → β) (l : List α) : (byKey key l).Pairwise fun a b => key a ≤ key b := by
  have : IsTrans α fun a b => key a ≤ key b := ⟨fun _ _ _ hab hbc => le_trans hab hbc⟩
  have : Std.Total fun a b => key a ≤ key b := ⟨fun a b => le_total (key a) (key b)⟩
  exact List.pairwise_insertionSort _ l

/-- If no two members share a key, only the members matter. -/
theorem byKey_eq_of_perm {l' : List α} (hkey : ∀ a ∈ l, ∀ b ∈ l, key a = key b → a = b) (h : l.Perm l') :
    byKey key l = byKey key l' := by
  refine List.Perm.eq_of_pairwise ?_ (byKey_pairwise key l) (byKey_pairwise key l')
    ((byKey_perm key l).trans (h.trans (byKey_perm key l').symm))
  intro a b ha hb hab hba
  exact hkey a (mem_byKey.1 ha) b (h.mem_iff.2 (mem_byKey.1 hb)) (le_antisymm hab hba)

/-- The first member has the greatest key. -/
theorem le_first {rest : List α} (h : byKeyDesc key l = a :: rest) (hb : b ∈ l) : key b ≤ key a := by
  have hsorted := byKeyDesc_pairwise key l
  rw [h] at hsorted
  rcases List.mem_cons.1 (h ▸ mem_byKeyDesc.2 hb) with rfl | hb
  · exact le_refl _
  · exact List.rel_of_pairwise_cons hsorted hb

/-- Of a descending list, the first `n` numbers have the greatest sum of all choices of `n`. -/
theorem sum_le_sum_take {l s : List Nat} (hl : l.Pairwise fun a b => b ≤ a) (hs : s.Sublist l) {n : Nat}
    (hn : s.length ≤ n) : s.sum ≤ (l.take n).sum := by
  induction l generalizing s n with
  | nil =>
    rw [List.sublist_nil.1 hs]
    exact Nat.zero_le _
  | cons a l ih =>
    obtain ⟨ha, hl⟩ := List.pairwise_cons.1 hl
    cases s with
    | nil => exact Nat.zero_le _
    | cons b s =>
      cases n with
      | zero => exact absurd hn (by simp)
      | succ n =>
        rw [List.take_succ_cons, List.sum_cons, List.sum_cons]
        have hlen : s.length ≤ n := by simpa using hn
        -- the first choice is the first number or one after it
        cases hs with
        | cons _ hs =>
          have hb := ha b (hs.subset (List.mem_cons_self ..))
          exact Nat.add_le_add hb (ih hl ((List.sublist_cons_self b s).trans hs) hlen)
        | cons_cons _ hs => exact Nat.add_le_add_left (ih hl hs hlen) a

/-- No choice of at most `n` members weighs more than the `n` heaviest. -/
theorem sum_le_sum_heaviest {weight : α → Nat} {s : List α} (hs : s.Subperm l) {n : Nat} (hn : s.length ≤ n) :
    (s.map weight).sum ≤ (((byKeyDesc weight l).take n).map weight).sum := by
  obtain ⟨s', hperm, hsub⟩ := hs.trans (byKeyDesc_perm weight l).symm.subperm
  have hsorted : ((byKeyDesc weight l).map weight).Pairwise fun a b => b ≤ a :=
    List.pairwise_map.2 (byKeyDesc_pairwise weight l)
  rw [← (hperm.map weight).sum_nat, List.map_take]
  refine sum_le_sum_take hsorted (hsub.map weight) ?_
  rw [List.length_map, hperm.length_eq]
  exact hn

/-- A member above a bound has one above it among the first `n`, of any positive `n`. -/
theorem exists_mem_take (ha : a ∈ l) {bound : β} (hb : bound ≤ key a) {n : Nat} (hn : 0 < n) :
    ∃ a' ∈ (byKeyDesc key l).take n, bound ≤ key a' := by
  cases n with
  | zero => exact absurd hn (Nat.lt_irrefl 0)
  | succ n =>
    cases hl : byKeyDesc key l with
    | nil =>
      have hmem : a ∈ byKeyDesc key l := mem_byKeyDesc.2 ha
      rw [hl] at hmem
      cases hmem
    | cons first rest => exact ⟨first, List.mem_cons_self .., hb.trans (le_first hl ha)⟩

end Ranking
