/-
Selection by key over a list, with the tie rules of Rust's iterators: `minByKey` keeps the first
of several least elements, `maxByKey` the last of several greatest ones. `filter_key_eq` selects by a key that is unique.
-/
import Mathlib.Order.Lattice
import Mathlib.Data.List.Basic

namespace Select

/-- A key that is unique in a list picks its element. -/
theorem filter_key_eq {α β : Type} [DecidableEq β] {f : α → β} : ∀ {l : List α} {a : α}, (l.map f).Nodup → a ∈ l →
    l.filter (fun x => f x == f a) = [a]
  | x :: l, a, hn, h => by
    rw [List.map_cons, List.nodup_cons] at hn
    rcases List.mem_cons.1 h with rfl | h
    · have hnil : l.filter (fun x => f x == f a) = [] := by
        rw [List.filter_eq_nil_iff]
        intro y hy he
        exact hn.1 (List.mem_map.2 ⟨y, hy, by simpa using he⟩)
      rw [List.filter_cons, hnil]
      simp
    · have hne : f x ≠ f a := fun he => hn.1 (List.mem_map.2 ⟨a, h, he.symm⟩)
      rw [List.filter_cons, filter_key_eq hn.2 h]
      simp [hne]

variable {α β : Type} [LinearOrder β]

/-- `Iterator::min_by_key`: the first element with the least key. -/
def minByKey (key : α → β) : List α → Option α
  | [] => none
  | a :: l =>
    match minByKey key l with
    | none => some a
    | some b => if key a ≤ key b then some a else some b

/-- `Iterator::max_by_key`: the last element with the greatest key. -/
def maxByKey (key : α → β) : List α → Option α
  | [] => none
  | a :: l =>
    match maxByKey key l with
    | none => some a
    | some b => if key a ≤ key b then some b else some a

theorem minByKey_mem {key : α → β} : ∀ {l : List α} {a : α}, minByKey key l = some a → a ∈ l
  | [], _, h => by cases h
  | b :: l, a, h => by
    unfold minByKey at h
    split at h
    · cases h; exact List.mem_cons_self ..
    · rename_i c hc
      split at h
      · cases h; exact List.mem_cons_self ..
      · cases h; exact List.mem_cons_of_mem _ (minByKey_mem hc)

theorem minByKey_eq_none {key : α → β} : ∀ {l : List α}, minByKey key l = none ↔ l = []
  | [] => by simp [minByKey]
  | a :: l => by
    unfold minByKey
    split
    · simp
    · split <;> simp

theorem maxByKey_eq_none {key : α → β} : ∀ {l : List α}, maxByKey key l = none ↔ l = []
  | [] => by simp [maxByKey]
  | a :: l => by
    unfold maxByKey
    split
    · simp
    · split <;> simp

/-- The selected element is in the list, and every occurrence of another element is before it with
a key at most its own, or after it with a smaller key. -/
theorem maxByKey_spec {key : α → β} : ∀ {l : List α} {m : α}, maxByKey key l = some m →
    ∃ l₁ l₂, l = l₁ ++ m :: l₂ ∧ (∀ a ∈ l₁, key a ≤ key m) ∧ ∀ a ∈ l₂, key a < key m
  | [], _, h => by cases h
  | a :: l, m, h => by
    unfold maxByKey at h
    split at h
    · rename_i hn
      cases h
      rw [maxByKey_eq_none] at hn
      subst hn
      exact ⟨[], [], rfl, by simp, by simp⟩
    · rename_i b hb
      obtain ⟨l₁, l₂, rfl, h1, h2⟩ := maxByKey_spec hb
      split at h
      · rename_i hle
        cases h
        refine ⟨a :: l₁, l₂, rfl, ?_, h2⟩
        intro x hx
        rcases List.mem_cons.1 hx with rfl | hx
        · exact hle
        · exact h1 x hx
      · rename_i hle
        cases h
        have hlt : key b < key a := not_le.1 hle
        refine ⟨[], l₁ ++ b :: l₂, rfl, by simp, ?_⟩
        intro x hx
        rcases List.mem_append.1 hx with hx | hx
        · exact lt_of_le_of_lt (h1 x hx) hlt
        · rcases List.mem_cons.1 hx with rfl | hx
          · exact hlt
          · exact lt_trans (h2 x hx) hlt

theorem maxByKey_mem {key : α → β} {l : List α} {m : α} (h : maxByKey key l = some m) : m ∈ l := by
  obtain ⟨l₁, l₂, rfl, _, _⟩ := maxByKey_spec h
  simp

/-- No element has a greater key. -/
theorem maxByKey_le {key : α → β} {l : List α} {m a : α} (h : maxByKey key l = some m) (ha : a ∈ l) :
    key a ≤ key m := by
  obtain ⟨l₁, l₂, rfl, h1, h2⟩ := maxByKey_spec h
  rcases List.mem_append.1 ha with ha | ha
  · exact h1 a ha
  · rcases List.mem_cons.1 ha with rfl | ha
    · exact le_rfl
    · exact (h2 a ha).le

end Select
