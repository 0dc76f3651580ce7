/-
Secondary indexes. A program that keeps a table and, beside it, a second table from one attribute of
the stored values back to their keys has to change both together. `Indexes` says that they agree; the
rules say which paired changes keep the agreement.
-/
import Rampage.Lib.Table

namespace Table

variable {K V A : Type} [DecidableEq K] [DecidableEq A]

/-- The index holds exactly the pairs of an attribute and a key whose value has the attribute. -/
def Indexes (f : V → A) (index : Table A K) (t : Table K V) : Prop :=
  ∀ a k, AList.lookup a index = some k ↔ ∃ v, AList.lookup k t = some v ∧ f v = a

variable {f : V → A} {index : Table A K} {t : Table K V}

theorem indexes_empty : Indexes f (∅ : Table A K) (∅ : Table K V) := by
  intro a k
  constructor
  · intro h
    cases h
  · rintro ⟨v, h, _⟩
    cases h

/-- Values stored under new keys or in the place of values with the same attribute, each under an
attribute that no other key has. -/
theorem Indexes.insertAll (h : Indexes f index t) {l : List (K × V)} (hkeys : (l.map (·.1)).Nodup)
    (hattrs : (l.map fun e => f e.2).Nodup) (hsame : ∀ e ∈ l, ∀ v, AList.lookup e.1 t = some v → f v = f e.2)
    (hown : ∀ e ∈ l, ∀ k, AList.lookup (f e.2) index = some k → k = e.1) :
    Indexes f (Table.insertAll (l.map fun e => (f e.2, e.1)) index) (Table.insertAll l t) := by
  have hattrs' : ((l.map fun e => (f e.2, e.1)).map (·.1)).Nodup := by
    rw [List.map_map]
    exact hattrs
  intro a k
  constructor
  · intro hl
    rcases lookup_insertAll_cases hl with hm | ⟨hn, hold⟩
    · obtain ⟨e, he, heq⟩ := List.mem_map.1 hm
      rw [Prod.mk.injEq] at heq
      refine ⟨e.2, ?_, heq.1⟩
      rw [← heq.2]
      exact lookup_insertAll_of_mem hkeys he
    · obtain ⟨v, hv, hf⟩ := (h a k).1 hold
      refine ⟨v, ?_, hf⟩
      rw [lookup_insertAll_of_notMem, hv]
      -- an entry with this key has the attribute too, so the index would have changed there
      intro hk
      obtain ⟨e, he, rfl⟩ := List.mem_map.1 hk
      apply hn
      rw [List.map_map]
      exact List.mem_map.2 ⟨e, he, by rw [← hf, hsame e he v hv]; rfl⟩
  · rintro ⟨v, hv, hf⟩
    rcases lookup_insertAll_cases hv with hm | ⟨hn, hold⟩
    · refine lookup_insertAll_of_mem hattrs' (List.mem_map.2 ⟨(k, v), hm, ?_⟩)
      rw [← hf]
    · have hindex := (h a k).2 ⟨v, hold, hf⟩
      rw [lookup_insertAll_of_notMem, hindex]
      intro ha
      rw [List.map_map] at ha
      obtain ⟨e, he, hea⟩ := List.mem_map.1 ha
      have hfa : f e.2 = a := hea
      rw [← hfa] at hindex
      exact hn (List.mem_map.2 ⟨e, he, (hown e he k hindex).symm⟩)

/-- A value taken out together with its attribute. -/
theorem Indexes.erase (h : Indexes f index t) {k : K} {v : V} (hv : AList.lookup k t = some v) :
    Indexes f (AList.erase (f v) index) (AList.erase k t) := by
  have hk := (h (f v) k).2 ⟨v, hv, rfl⟩
  intro a k'
  rw [lookup_erase', lookup_erase']
  constructor
  · intro hl
    split at hl
    · cases hl
    rename_i ha
    obtain ⟨v', hv', hf⟩ := (h a k').1 hl
    refine ⟨v', ?_, hf⟩
    rw [if_neg, hv']
    rintro rfl
    rw [hv] at hv'
    cases hv'
    exact ha hf.symm
  · rintro ⟨v', hv', hf⟩
    split at hv'
    · cases hv'
    rename_i hne
    have hl := (h a k').2 ⟨v', hv', hf⟩
    rw [if_neg, hl]
    rintro rfl
    rw [hk, Option.some.injEq] at hl
    exact hne hl.symm

/-- A value replaced by one with the same attribute. -/
theorem Indexes.replace (h : Indexes f index t) {k : K} {v v' : V} (hv : AList.lookup k t = some v)
    (hf : f v' = f v) : Indexes f index (AList.insert k v' t) := by
  intro a k'
  rw [h a k', lookup_insert']
  by_cases hk : k' = k
  · subst hk
    rw [if_pos rfl, hv]
    simp [hf]
  · rw [if_neg hk]

/-- Entries of the table dropped, and none of them was stored. -/
theorem Indexes.retain (h : Indexes f index t) {p : K → V → Bool}
    (hp : ∀ k v, AList.lookup k t = some v → p k v = true) : Indexes f index (Table.retain p t) := by
  intro a k
  rw [h a k, lookup_retain]
  constructor
  · rintro ⟨v, hv, hf⟩
    exact ⟨v, by rw [hv, Option.filter_some, if_pos (hp k v hv)], hf⟩
  · rintro ⟨v, hv, hf⟩
    rw [Option.filter_eq_some_iff] at hv
    exact ⟨v, hv.1, hf⟩

/-- An index entry whose key has no value with the attribute. -/
theorem not_indexes {a : A} {k : K} (ha : AList.lookup a index = some k)
    (hk : ∀ v, AList.lookup k t = some v → f v ≠ a) : ¬ Indexes f index t := by
  intro h
  obtain ⟨v, hv, hf⟩ := (h a k).1 ha
  exact hk v hv hf

end Table
