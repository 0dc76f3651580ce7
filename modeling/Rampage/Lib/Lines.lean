/-
Splitting a list at a separator, piece by piece. Splitting an appended list splits its first part, and then the rest
together with the last piece (`Lines.splitOn_append`): what a reader with a carry buffer does.
-/
import Mathlib.Data.List.Basic

namespace Lines

variable {α : Type} [BEq α] [LawfulBEq α] (a : α)

/-- The last piece of a list: what follows its last separator. -/
def lastPiece (l : List α) : List α := (l.splitOn a).getLastD []

/-- The pieces before the last one. -/
def closedPieces (l : List α) : List (List α) := (l.splitOn a).dropLast

/-- A list has no separator, or its last piece follows one. -/
theorem lastPiece_cases (l : List α) : (a ∉ l ∧ closedPieces a l = [] ∧ lastPiece a l = l) ∨
    ∃ u, l = u ++ a :: lastPiece a l ∧ closedPieces a l = u.splitOn a ∧ a ∉ lastPiece a l := by
  by_cases h : a ∈ l
  · right
    -- the last separator is the first one from behind
    obtain ⟨v, u, hl, hv⟩ := List.eq_append_cons_of_mem (List.mem_reverse.2 h)
    have hl : l = u.reverse ++ a :: v.reverse := by
      rw [← List.reverse_reverse l, hl, List.reverse_append, List.reverse_cons, List.append_assoc, List.singleton_append]
    have hv : a ∉ v.reverse := fun h => hv (List.mem_reverse.1 h)
    have hsplit : l.splitOn a = u.reverse.splitOn a ++ [v.reverse] := by
      rw [hl, List.splitOn_append_cons_self, List.splitOn_eq_singleton hv]
    have hlast : lastPiece a l = v.reverse := by
      rw [lastPiece, hsplit, List.getLastD_concat]
    refine ⟨u.reverse, ?_, ?_, ?_⟩
    · rw [hlast]
      exact hl
    · rw [closedPieces, hsplit, List.dropLast_concat]
    · rw [hlast]
      exact hv
  · left
    have hsplit := List.splitOn_eq_singleton h
    refine ⟨h, ?_, ?_⟩
    · rw [closedPieces, hsplit]
      rfl
    · rw [lastPiece, hsplit]
      rfl

/-- An appended list is split with the last piece of its first part in front of the rest. -/
theorem splitOn_append (l l' : List α) : (l ++ l').splitOn a = closedPieces a l ++ (lastPiece a l ++ l').splitOn a := by
  rcases lastPiece_cases a l with ⟨-, hclosed, hlast⟩ | ⟨u, hl, hclosed, -⟩
  · rw [hclosed, hlast, List.nil_append]
  · rw [hclosed, ← List.splitOn_append_cons_self, ← List.cons_append, ← List.append_assoc, ← hl]

theorem notMem_lastPiece (l : List α) : a ∉ lastPiece a l := by
  rcases lastPiece_cases a l with ⟨h, -, hlast⟩ | ⟨u, -, -, h⟩
  · rw [hlast]
    exact h
  · exact h

theorem length_lastPiece_le (l : List α) : (lastPiece a l).length ≤ l.length := by
  rcases lastPiece_cases a l with ⟨-, -, hlast⟩ | ⟨u, hl, -, -⟩
  · exact Nat.le_of_eq (congrArg List.length hlast)
  · have hlen := congrArg List.length hl
    rw [List.length_append, List.length_cons] at hlen
    omega

/-- The pieces of a list, the last one apart. -/
theorem splitOn_eq (l : List α) : l.splitOn a = closedPieces a l ++ [lastPiece a l] := by
  have h := splitOn_append a l []
  rwa [List.append_nil, List.append_nil, List.splitOn_eq_singleton (notMem_lastPiece a l)] at h

theorem closedPieces_append (l l' : List α) :
    closedPieces a (l ++ l') = closedPieces a l ++ closedPieces a (lastPiece a l ++ l') := by
  rw [closedPieces, splitOn_append, List.dropLast_append_of_ne_nil (List.splitOn_ne_nil a _), ← closedPieces]

theorem lastPiece_append (l l' : List α) : lastPiece a (l ++ l') = lastPiece a (lastPiece a l ++ l') := by
  rw [lastPiece, splitOn_append, splitOn_eq a (lastPiece a l ++ l'), ← List.append_assoc, List.getLastD_concat]

theorem closedPieces_of_notMem {l : List α} (h : a ∉ l) : closedPieces a l = [] := by
  rw [closedPieces, List.splitOn_eq_singleton h]
  rfl

theorem lastPiece_of_notMem {l : List α} (h : a ∉ l) : lastPiece a l = l := by
  rw [lastPiece, List.splitOn_eq_singleton h]
  rfl

/-- The first separator closes the first piece. -/
theorem closedPieces_append_cons {u : List α} (h : a ∉ u) (v : List α) :
    closedPieces a (u ++ a :: v) = u :: closedPieces a v := by
  rw [closedPieces, List.splitOn_append_cons_self, List.splitOn_eq_singleton h,
    List.dropLast_append_of_ne_nil (List.splitOn_ne_nil a v)]
  rfl

theorem closedPieces_replicate (n : Nat) : closedPieces a (List.replicate n a) = List.replicate n [] := by
  induction n with
  | zero => rfl
  | succ n ih =>
    have h := closedPieces_append_cons a (List.not_mem_nil) (List.replicate n a)
    rw [List.replicate_succ, List.replicate_succ, ← ih]
    exact h

theorem lastPiece_replicate (n : Nat) : lastPiece a (List.replicate n a) = [] := by
  have hnone := notMem_lastPiece a (List.replicate n a)
  rcases lastPiece_cases a (List.replicate n a) with ⟨habsent, -, hlast⟩ | ⟨u, hu, -, -⟩
  · cases n with
    | zero => rfl
    | succ n => exact absurd (List.mem_cons_self ..) habsent
  · refine List.eq_nil_iff_forall_not_mem.2 fun b hb => hnone ?_
    have hmem : b ∈ List.replicate n a := by
      rw [hu]
      exact List.mem_append_right _ (List.mem_cons_of_mem _ hb)
    have hb' : b = a := List.eq_of_mem_replicate hmem
    rwa [hb'] at hb

theorem length_le_of_mem_splitOn {l piece : List α} (h : piece ∈ l.splitOn a) : piece.length ≤ l.length := by
  rw [splitOn_eq, List.mem_append, List.mem_singleton] at h
  rcases h with h | rfl
  · rcases lastPiece_cases a l with ⟨-, hclosed, -⟩ | ⟨u, hl, hclosed, -⟩
    · rw [hclosed] at h
      cases h
    · have hlen := congrArg List.length hl
      rw [List.length_append, List.length_cons] at hlen
      rw [hclosed] at h
      have hpiece := length_le_of_mem_splitOn h
      omega
  · exact length_lastPiece_le a l
termination_by l.length
decreasing_by
  rw [List.length_append, List.length_cons] at hlen
  omega

/-- A closed piece is shorter than the list: its separator is there too. -/
theorem length_lt_of_mem_closedPieces {l piece : List α} (h : piece ∈ closedPieces a l) : piece.length < l.length := by
  rcases lastPiece_cases a l with ⟨-, hclosed, -⟩ | ⟨u, hl, hclosed, -⟩
  · rw [hclosed] at h
    cases h
  · have hlen := congrArg List.length hl
    rw [List.length_append, List.length_cons] at hlen
    rw [hclosed] at h
    have hpiece := length_le_of_mem_splitOn a h
    omega

end Lines
