/-
Cutting a list into pieces of bounded weight: each piece is as long as the bound lets it be, and has one element at
least. The pieces together are the list (`Cut.flatten_pieces`), and one over the bound is a single element
(`Cut.mem_pieces`).
-/
import Mathlib.Algebra.BigOperators.Group.List.Basic
import Mathlib.Algebra.Order.Ring.Nat

namespace Cut

variable {α : Type} (weight : α → Nat)

/-- The longest beginning within a bound, and the rest. -/
def takeWithin : Nat → List α → List α × List α
  | _, [] => ([], [])
  | n, a :: l =>
    if weight a ≤ n then (a :: (takeWithin (n - weight a) l).1, (takeWithin (n - weight a) l).2) else ([], a :: l)

theorem takeWithin_append : ∀ (n : Nat) (l : List α), (takeWithin weight n l).1 ++ (takeWithin weight n l).2 = l
  | _, [] => rfl
  | n, a :: l => by
    rw [takeWithin]
    split
    · rw [List.cons_append, takeWithin_append]
    · rfl

theorem length_takeWithin (n : Nat) (l : List α) : (takeWithin weight n l).2.length ≤ l.length := by
  have h := congrArg List.length (takeWithin_append weight n l)
  rw [List.length_append] at h
  omega

theorem weight_takeWithin : ∀ (n : Nat) (l : List α), ((takeWithin weight n l).1.map weight).sum ≤ n
  | _, [] => Nat.zero_le _
  | n, a :: l => by
    have ih := weight_takeWithin (n - weight a) l
    rw [takeWithin]
    split
    · rw [List.map_cons, List.sum_cons]
      omega
    · exact Nat.zero_le _

/-- The pieces of a list. -/
def pieces (n : Nat) : List α → List (List α)
  | [] => []
  | a :: l => (a :: (takeWithin weight (n - weight a) l).1) :: pieces n (takeWithin weight (n - weight a) l).2
termination_by l => l.length
decreasing_by exact Nat.lt_succ_of_le (length_takeWithin weight _ l)

variable {weight}

theorem flatten_pieces (n : Nat) (l : List α) : (pieces weight n l).flatten = l := by
  fun_induction pieces weight n l with
  | case1 => rfl
  | case2 a l ih => rw [List.flatten_cons, ih, List.cons_append, takeWithin_append]

/-- Every piece has an element, and a piece over the bound has no other. -/
theorem mem_pieces (hpos : ∀ a, 0 < weight a) {n : Nat} {l piece : List α} (h : piece ∈ pieces weight n l) :
    piece ≠ [] ∧ ((piece.map weight).sum ≤ n ∨ piece.length = 1) := by
  fun_induction pieces weight n l with
  | case1 => cases h
  | case2 a l ih =>
    rcases List.mem_cons.1 h with rfl | h
    · constructor
      · simp
      · have hfits := weight_takeWithin weight (n - weight a) l
        by_cases ha : weight a ≤ n
        · left
          rw [List.map_cons, List.sum_cons]
          omega
        · right
          cases l with
          | nil => rfl
          | cons b l =>
            have hb := hpos b
            rw [takeWithin, if_neg (by omega)]
            rfl
    · exact ih h

end Cut
