/-
Arithmetic of unsigned 64-bit amounts, on natural numbers: saturating, wrapping and checked. A chain of checked additions
succeeds exactly if the total is an amount (`checkedSum_eq`), and then the wrapping one gives the same (`wrappingSum_eq_iff`).
-/
import Mathlib.Algebra.Order.Ring.Nat

namespace U64

/-- The largest 64-bit amount. -/
def max : Nat := 2 ^ 64 - 1

/-- `u64::saturating_add`. -/
def satAdd (a b : Nat) : Nat := Nat.min (a + b) max

/-- `u64::saturating_mul`. -/
def satMul (a b : Nat) : Nat := Nat.min (a * b) max

/-- `u64::div_ceil`. -/
def divCeil (a b : Nat) : Nat := (a + b - 1) / b

/-- The sum of a list as an unchecked release build computes it. -/
def wrappingSum (l : List Nat) : Nat := l.sum % 2 ^ 64

theorem wrappingSum_eq_iff {l : List Nat} : wrappingSum l = l.sum ↔ l.sum < 2 ^ 64 :=
  Nat.mod_eq_iff_lt (by decide)

/-- `u64::checked_add`. -/
def checkedAdd (a b : Nat) : Option Nat := if a + b < 2 ^ 64 then some (a + b) else none

/-- The sum of a list with every addition checked. -/
def checkedSum (l : List Nat) : Option Nat := l.foldl (fun total n => total.bind (checkedAdd · n)) (some 0)

theorem foldl_checkedAdd_none (l : List Nat) : l.foldl (fun total n => total.bind (checkedAdd · n)) none = none := by
  induction l with
  | nil => rfl
  | cons _ l ih => exact ih

/-- The additions onto a total fail exactly if the sum of all is too large. -/
theorem foldl_checkedAdd (l : List Nat) {total : Nat} (h : total < 2 ^ 64) :
    l.foldl (fun total n => total.bind (checkedAdd · n)) (some total) =
      if total + l.sum < 2 ^ 64 then some (total + l.sum) else none := by
  induction l generalizing total with
  | nil => exact (if_pos h).symm
  | cons n l ih =>
    rw [List.foldl_cons, List.sum_cons, Option.bind_some, ← Nat.add_assoc]
    by_cases hn : total + n < 2 ^ 64
    · rw [show checkedAdd total n = some (total + n) from if_pos hn]
      exact ih hn
    · rw [show checkedAdd total n = none from if_neg hn, foldl_checkedAdd_none, if_neg (by omega)]

theorem checkedSum_eq (l : List Nat) : checkedSum l = if l.sum < 2 ^ 64 then some l.sum else none := by
  have h := foldl_checkedAdd l (by decide : 0 < 2 ^ 64)
  rwa [Nat.zero_add] at h

theorem checkedSum_isSome_iff {l : List Nat} : (checkedSum l).isSome = true ↔ l.sum < 2 ^ 64 := by
  rw [checkedSum_eq]
  split
  · exact ⟨fun _ => by assumption, fun _ => rfl⟩
  · exact ⟨nofun, fun h => absurd h (by assumption)⟩

end U64
