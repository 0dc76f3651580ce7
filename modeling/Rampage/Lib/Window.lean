/-
Sliding windows over a list of times. `Spread w n l` says that no half-open interval of width `w` contains more than `n` of the
times. A limiter that admits a time only if fewer than `n` of the earlier ones are still in the window before it keeps a list
spread (`Spread.admit`); what it must remember are the times that still count, in any list that has them in order.
-/
import Mathlib.Data.List.Basic
import Mathlib.Tactic.Common

namespace Window

/-- The times that lie in the interval of width `w` from `t` on. -/
def within (w t : Nat) (l : List Nat) : List Nat := l.filter fun a => t ≤ a ∧ a < t + w

/-- The times that still count at `now`. -/
def counting (w now : Nat) (l : List Nat) : List Nat := l.filter fun a => now < a + w

/-- No interval of width `w` contains more than `n` of the times. -/
def Spread (w n : Nat) (l : List Nat) : Prop := ∀ t, (within w t l).length ≤ n

variable {w n now later : Nat} {l q : List Nat}

@[simp] theorem within_append (t : Nat) (l₁ l₂ : List Nat) : within w t (l₁ ++ l₂) = within w t l₁ ++ within w t l₂ :=
  List.filter_append ..

@[simp] theorem counting_append (l₁ l₂ : List Nat) : counting w now (l₁ ++ l₂) = counting w now l₁ ++ counting w now l₂ :=
  List.filter_append ..

theorem spread_nil : Spread w n [] := by simp [Spread, within]

/-- Whatever lies in an interval around `now` still counts at `now`. -/
theorem length_within_le {t : Nat} (h : t ≤ now ∧ now < t + w) : (within w t l).length ≤ (counting w now l).length := by
  refine (List.monotone_filter_right l fun a ha => ?_).length_le
  simp only [decide_eq_true_eq] at ha ⊢
  omega

/-- One more time, while fewer than `n` of the earlier ones still count. -/
theorem Spread.admit (h : Spread w n l) (hroom : (counting w now l).length < n) : Spread w n (l ++ [now]) := by
  intro t
  rw [within_append, List.length_append]
  by_cases ht : t ≤ now ∧ now < t + w
  · have hbefore := length_within_le (l := l) ht
    have hone : (within w t [now]).length ≤ 1 := List.length_filter_le ..
    omega
  · have hnone : within w t [now] = [] := by simpa [within] using ht
    rw [hnone]
    exact h t

/-- What counts later counts now. -/
theorem counting_sublist (h : now ≤ later) (hq : (counting w now l).Sublist q) : (counting w later l).Sublist (counting w later q) := by
  have hcounting : counting w later l = counting w later (counting w now l) := by
    unfold counting
    rw [List.filter_filter]
    refine List.filter_congr fun a _ => ?_
    rw [Bool.eq_iff_iff]
    simp only [decide_eq_true_eq, Bool.and_eq_true]
    omega
  rw [hcounting]
  exact hq.filter _

/-- Times that no longer count may be dropped from the front. -/
theorem counting_sublist_dropWhile {p : Nat → Bool} (hp : ∀ a, p a = true → a + w ≤ now) (l : List Nat) :
    (counting w now l).Sublist (l.dropWhile p) := by
  induction l with
  | nil => exact List.Sublist.refl _
  | cons a l ih =>
    rw [List.dropWhile_cons]
    split
    · rename_i ha
      have hout : ¬ now < a + w := Nat.not_lt.2 (hp a ha)
      rw [counting, List.filter_cons_of_neg (by simpa using hout)]
      exact ih
    · exact List.filter_sublist

end Window
