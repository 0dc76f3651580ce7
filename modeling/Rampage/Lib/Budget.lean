/-
Choosing from a list within a budget: what still fits is taken, up to a number of items, and what does not fit is
passed over (`Budget.pick`). `Budget.Chosen` says which items these are: the first that fits, the first after it that
fits in what it leaves, and so on. Whatever is passed over before an item that is taken is larger than it
(`size_lt_of_passed`), and a start of the list that fits as a whole is taken as a whole (`pick_append_of_fits`). `Stride.exists_mul_mod_eq` is about worklists that are read from every multiple of a
stride: the starts are the multiples of the greatest common divisor of the stride and the length.
-/
import Mathlib.Algebra.BigOperators.Group.List.Basic
import Mathlib.Data.Nat.ModEq
import Mathlib.Data.Int.GCD

namespace Budget

variable {α : Type} (size : α → Nat) (limit : Nat)

/-- Take up to `n` items that fit, after `used` of the limit is spent. -/
def pick : List α → Nat → Nat → List α
  | [], _, _ => []
  | _ :: _, 0, _ => []
  | a :: l, n + 1, used => if used + size a ≤ limit then a :: pick l n (used + size a) else pick l (n + 1) used

/-- An item is among the next `n` that fit. -/
def Chosen : Nat → Nat → List α → α → Prop
  | 0, _, _, _ => False
  | n + 1, used, l, c => ∃ a y b, l = a ++ y :: b ∧ (∀ x ∈ a, limit < used + size x) ∧ used + size y ≤ limit ∧
      (c = y ∨ Chosen n (used + size y) b c)

variable {size limit}

theorem pick_zero (l : List α) (used : Nat) : pick size limit l 0 used = [] := by
  cases l <;> rfl

theorem pick_sublist : ∀ (l : List α) (n used : Nat), List.Sublist (pick size limit l n used) l
  | [], _, _ => .slnil
  | a :: l, 0, _ => List.nil_sublist _
  | a :: l, n + 1, used => by
    rw [pick]
    split
    · exact (pick_sublist l n _).cons_cons a
    · exact (pick_sublist l (n + 1) used).cons a

theorem length_pick_le : ∀ (l : List α) (n used : Nat), (pick size limit l n used).length ≤ n
  | [], _, _ => Nat.zero_le _
  | a :: l, 0, _ => Nat.le_refl 0
  | a :: l, n + 1, used => by
    rw [pick]
    split
    · exact Nat.succ_le_succ (length_pick_le l n _)
    · exact length_pick_le l (n + 1) used

/-- What is taken stays within the limit. -/
theorem sum_pick_le : ∀ (l : List α) (n used : Nat), used ≤ limit → used + ((pick size limit l n used).map size).sum ≤ limit
  | [], _, _, h => h
  | a :: l, 0, _, h => h
  | a :: l, n + 1, used, h => by
    rw [pick]
    split
    · rename_i hfits
      rw [List.map_cons, List.sum_cons, ← Nat.add_assoc]
      exact sum_pick_le l n _ hfits
    · exact sum_pick_le l (n + 1) used h

/-- Nothing is taken once the limit is passed. -/
theorem pick_of_lt : ∀ (l : List α) (n : Nat) {used : Nat}, limit < used → pick size limit l n used = []
  | [], _, _, _ => rfl
  | _ :: _, 0, _, _ => rfl
  | a :: l, n + 1, used, h => by
    rw [pick, if_neg (by omega)]
    exact pick_of_lt l (n + 1) h

/-- What is taken fits. -/
theorem fits_of_mem_pick {c : α} : ∀ {l : List α} {n used : Nat}, c ∈ pick size limit l n used → used + size c ≤ limit
  | [], _, _, h => by cases h
  | _ :: _, 0, _, h => by cases h
  | a :: l, n + 1, used, h => by
    rw [pick] at h
    split at h
    · rename_i hfits
      rcases List.mem_cons.1 h with rfl | h
      · exact hfits
      · have := fits_of_mem_pick h
        omega
    · exact fits_of_mem_pick h

/-- An item that is passed over is larger than every later one that is taken: it did not fit in what was left then, and
less is left since. -/
theorem size_lt_of_passed {x c : α} {a b : List α} {n used : Nat} (hn : (a ++ x :: b).Nodup) (hc : c ∈ b)
    (htaken : c ∈ pick size limit (a ++ x :: b) n used) (hpassed : x ∉ pick size limit (a ++ x :: b) n used) :
    size c < size x := by
  induction a generalizing n used with
  | nil =>
    rw [List.nil_append] at htaken hpassed
    cases n with
    | zero => cases htaken
    | succ n =>
      rw [pick] at htaken hpassed
      split at htaken
      · rename_i hfits
        rw [if_pos hfits] at hpassed
        exact absurd List.mem_cons_self hpassed
      · have := fits_of_mem_pick htaken
        omega
  | cons y a ih =>
    rw [List.cons_append] at hn htaken hpassed
    obtain ⟨hy, hn⟩ := List.nodup_cons.1 hn
    cases n with
    | zero => cases htaken
    | succ n =>
      rw [pick] at htaken hpassed
      split at htaken
      · rename_i hfits
        rw [if_pos hfits] at hpassed
        rcases List.mem_cons.1 htaken with rfl | htaken
        · exact absurd (List.mem_append_right a (List.mem_cons_of_mem x hc)) hy
        · exact ih hn htaken fun h => hpassed (List.mem_cons_of_mem _ h)
      · rename_i hlarge
        rw [if_neg hlarge] at hpassed
        exact ih hn htaken hpassed

/-- A start of the list that fits as a whole is taken as a whole. -/
theorem pick_append_of_fits {l : List α} : ∀ {a : List α} {n used : Nat}, used + (a.map size).sum ≤ limit → a.length ≤ n →
    pick size limit (a ++ l) n used = a ++ pick size limit l (n - a.length) (used + (a.map size).sum)
  | [], _, _, _, _ => rfl
  | x :: a, 0, _, _, hlen => absurd hlen (Nat.not_succ_le_zero _)
  | x :: a, n + 1, used, hfits, hlen => by
    rw [List.map_cons, List.sum_cons, ← Nat.add_assoc] at hfits
    rw [List.cons_append, pick, if_pos (by omega), pick_append_of_fits hfits (Nat.le_of_succ_le_succ hlen), List.length_cons,
      Nat.add_sub_add_right, List.map_cons, List.sum_cons, ← Nat.add_assoc, List.cons_append]

/-- Items that do not fit are passed over. -/
theorem pick_append_of_large {n used : Nat} : ∀ {a : List α} {l : List α}, (∀ x ∈ a, limit < used + size x) →
    pick size limit (a ++ l) (n + 1) used = pick size limit l (n + 1) used
  | [], _, _ => rfl
  | x :: a, l, h => by
    rw [List.cons_append, pick, if_neg (Nat.not_le.2 (h x (List.mem_cons_self ..)))]
    exact pick_append_of_large fun y hy => h y (List.mem_cons_of_mem _ hy)

/-- The items that are taken are the chosen ones. -/
theorem mem_pick_iff {c : α} : ∀ {n used : Nat} {l : List α}, c ∈ pick size limit l n used ↔ Chosen size limit n used l c
  | 0, used, l => by simp [pick_zero, Chosen]
  | n + 1, used, l => by
    constructor
    · intro h
      -- the items before the first that fits are passed over
      induction l with
      | nil => cases h
      | cons x l ih =>
        rw [pick] at h
        split at h
        · rename_i hfits
          refine ⟨[], x, l, rfl, by simp, hfits, ?_⟩
          rcases List.mem_cons.1 h with rfl | h
          · exact Or.inl rfl
          · exact Or.inr (mem_pick_iff.1 h)
        · rename_i hlarge
          obtain ⟨a, y, b, rfl, ha, hy, hc⟩ := ih h
          refine ⟨x :: a, y, b, rfl, ?_, hy, hc⟩
          rintro z hz
          rcases List.mem_cons.1 hz with rfl | hz
          · exact Nat.not_le.1 hlarge
          · exact ha z hz
    · rintro ⟨a, y, b, rfl, ha, hy, hc⟩
      rw [pick_append_of_large ha, pick, if_pos hy, List.mem_cons]
      exact hc.imp id mem_pick_iff.2

end Budget

namespace Stride

/-- The multiples of a stride reach every multiple of its greatest common divisor with the length. -/
theorem exists_mul_mod_eq {stride length i : Nat} (hi : i < length) (hdvd : Nat.gcd stride length ∣ i) :
    ∃ n, stride * n % length = i := by
  obtain ⟨k, rfl⟩ := hdvd
  by_cases hlt : Nat.gcd stride length < length
  · obtain ⟨m, -, hm⟩ := Nat.exists_mul_mod_eq_gcd hlt
    refine ⟨m * k, ?_⟩
    calc stride * (m * k) % length = (stride * m % length) * k % length := by
          rw [← Nat.mul_assoc, Nat.mod_mul_mod]
      _ = Nat.gcd stride length * k := by rw [hm, Nat.mod_eq_of_lt hi]
  · have hk : k = 0 := by
      by_contra hne
      have := Nat.le_mul_of_pos_right (Nat.gcd stride length) (Nat.pos_of_ne_zero hne)
      omega
    exact ⟨0, by simp [hk]⟩

end Stride
