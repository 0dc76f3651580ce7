/-
Finite tables: association lists with distinct keys (`AList` at a constant family), as a hash map
of a program is modelled. `lookup`, `insert` and `erase` are Mathlib's; this file adds `retain`
(keep the entries a predicate accepts) and `values`, with the lemmas that say what each operation
does to `lookup`, and the facts that two tables with the same lookups list the same values up to
order. `IterOrder` is the unspecified order in which a program iterates over such a table.
-/
import Mathlib.Data.List.AList
import Mathlib.Data.List.Perm.Basic

/-- A finite table from `K` to `V`. -/
abbrev Table (K V : Type) := AList (fun _ : K => V)

namespace Table

section Plain

variable {K V : Type}

/-- Keep the entries that `p` accepts. -/
def retain (p : K → V → Bool) (t : Table K V) : Table K V :=
  ⟨t.entries.filter fun e => p e.1 e.2, t.nodupKeys.sublist List.filter_sublist⟩

/-- Change every value. -/
def mapValues (f : V → V) (t : Table K V) : Table K V :=
  ⟨t.entries.map fun e => ⟨e.1, f e.2⟩, by
    have h := t.nodupKeys
    rw [List.NodupKeys, List.keys] at h ⊢
    simpa [List.map_map, Function.comp_def] using h⟩

/-- The values of a table, in the order of its entries. -/
def values (t : Table K V) : List V := t.entries.map (·.2)

theorem length_retain_le (p : K → V → Bool) (t : Table K V) : (retain p t).entries.length ≤ t.entries.length :=
  List.length_filter_le ..

theorem length_values (t : Table K V) : (values t).length = t.entries.length := List.length_map ..

end Plain

variable {K V : Type} [DecidableEq K]

/-! ## Lookups after an update -/

theorem lookup_insert' (t : Table K V) (k k' : K) (v : V) :
    AList.lookup k' (AList.insert k v t) = if k' = k then some v else AList.lookup k' t := by
  by_cases h : k' = k
  · subst h; simp
  · rw [if_neg h, AList.lookup_insert_ne h]

theorem lookup_erase' (t : Table K V) (k k' : K) :
    AList.lookup k' (AList.erase k t) = if k' = k then none else AList.lookup k' t := by
  by_cases h : k' = k
  · subst h; simp
  · rw [if_neg h, AList.lookup_erase_ne h]

theorem erase_eq_self {t : Table K V} {k : K} (h : AList.lookup k t = none) : AList.erase k t = t := by
  refine AList.ext ?_
  exact List.kerase_of_notMem_keys (AList.lookup_eq_none.1 h)

/-- What is left after an erasure was there before. -/
theorem lookup_of_erase {t : Table K V} {k k' : K} {v : V} (h : AList.lookup k' (AList.erase k t) = some v) :
    AList.lookup k' t = some v := by
  rw [lookup_erase'] at h
  by_cases hk : k' = k
  · rw [if_pos hk] at h
    cases h
  · rw [if_neg hk] at h
    exact h

theorem mem_lookup (t : Table K V) (k : K) (v : V) :
    AList.lookup k t = some v ↔ (⟨k, v⟩ : Sigma fun _ : K => V) ∈ t.entries :=
  AList.mem_lookup_iff

theorem lookup_retain (p : K → V → Bool) (t : Table K V) (k : K) :
    AList.lookup k (retain p t) = (AList.lookup k t).filter (p k) := by
  apply Option.ext
  intro v
  rw [mem_lookup, Option.filter_eq_some_iff, mem_lookup]
  simp [retain]

/-! ## Inserting several entries -/

/-- Insert entries one after the other. -/
def insertAll : List (K × V) → Table K V → Table K V
  | [], t => t
  | e :: l, t => insertAll l (AList.insert e.1 e.2 t)

theorem lookup_insertAll_of_notMem {k : K} : ∀ {l : List (K × V)} {t : Table K V}, k ∉ l.map (·.1) →
    AList.lookup k (insertAll l t) = AList.lookup k t
  | [], _, _ => rfl
  | e :: l, t, h => by
    rw [List.map_cons, List.mem_cons, not_or] at h
    rw [insertAll, lookup_insertAll_of_notMem h.2, lookup_insert', if_neg h.1]

theorem lookup_insertAll_of_mem {k : K} {v : V} : ∀ {l : List (K × V)} {t : Table K V}, (l.map (·.1)).Nodup →
    (k, v) ∈ l → AList.lookup k (insertAll l t) = some v
  | e :: l, t, hn, h => by
    rw [List.map_cons, List.nodup_cons] at hn
    rcases List.mem_cons.1 h with rfl | h
    · rw [insertAll, lookup_insertAll_of_notMem hn.1, lookup_insert', if_pos rfl]
    · rw [insertAll, lookup_insertAll_of_mem hn.2 h]

/-- A lookup after several insertions finds a new entry or an old one. -/
theorem lookup_insertAll_cases {k : K} {v : V} {l : List (K × V)} {t : Table K V}
    (h : AList.lookup k (insertAll l t) = some v) : (k, v) ∈ l ∨ (k ∉ l.map (·.1) ∧ AList.lookup k t = some v) := by
  induction l generalizing t with
  | nil => exact Or.inr ⟨by simp, h⟩
  | cons e l ih =>
    rcases ih h with hm | ⟨hn, ht⟩
    · exact Or.inl (List.mem_cons_of_mem _ hm)
    · rw [lookup_insert'] at ht
      by_cases hk : k = e.1
      · rw [if_pos hk, Option.some.injEq] at ht
        refine Or.inl (List.mem_cons.2 (Or.inl ?_))
        rw [hk, ← ht]
      · rw [if_neg hk] at ht
        refine Or.inr ⟨?_, ht⟩
        rw [List.map_cons, List.mem_cons, not_or]
        exact ⟨hk, hn⟩

/-- The last of several insertions under a key counts. -/
theorem lookup_insertAll (k : K) : ∀ (l : List (K × V)) (t : Table K V),
    AList.lookup k (insertAll l t) = (((l.filter (·.1 == k)).getLast?).map (·.2)).or (AList.lookup k t)
  | [], _ => rfl
  | e :: l, t => by
    rw [insertAll, lookup_insertAll k l, lookup_insert']
    by_cases hk : e.1 = k
    · rw [List.filter_cons_of_pos (by simpa using hk), List.getLast?_cons, if_pos hk.symm]
      cases (l.filter (·.1 == k)).getLast? <;> rfl
    · rw [List.filter_cons_of_neg (by simpa using hk), if_neg (Ne.symm hk)]

/-! ## Values -/

theorem mem_values (t : Table K V) (v : V) : v ∈ values t ↔ ∃ k, AList.lookup k t = some v := by
  constructor
  · intro h
    obtain ⟨⟨k, w⟩, hm, rfl⟩ := List.mem_map.1 h
    exact ⟨k, (mem_lookup t k w).2 hm⟩
  · rintro ⟨k, h⟩
    exact List.mem_map.2 ⟨⟨k, v⟩, (mem_lookup t k v).1 h, rfl⟩

/-- Two tables with the same lookups have the same entries up to order. -/
theorem entries_perm {s t : Table K V} (h : ∀ k, AList.lookup k s = AList.lookup k t) :
    s.entries.Perm t.entries :=
  List.lookup_ext s.nodupKeys t.nodupKeys fun k v => by
    have := h k
    unfold AList.lookup at this
    rw [this]

theorem values_perm {s t : Table K V} (h : ∀ k, AList.lookup k s = AList.lookup k t) :
    (values s).Perm (values t) :=
  (entries_perm h).map _

theorem values_insert (t : Table K V) (k : K) (v : V) :
    values (AList.insert k v t) = v :: values (AList.erase k t) :=
  rfl

/-- Taking out the value stored under a key leaves the others, up to order. -/
theorem values_perm_cons_erase {t : Table K V} {k : K} {v : V} (h : AList.lookup k t = some v) :
    (values t).Perm (v :: values (AList.erase k t)) := by
  rw [← values_insert]
  apply values_perm
  intro k'
  rw [lookup_insert']
  by_cases hk : k' = k
  · subst hk; simp [h]
  · simp [hk]

theorem erase_of_lookup_none {t : Table K V} {k : K} (h : AList.lookup k t = none) :
    (values (AList.erase k t)).Perm (values t) := by
  rw [erase_eq_self h]

/-- The values after several insertions under new keys. -/
theorem values_insertAll : ∀ {l : List (K × V)} {t : Table K V}, (l.map (·.1)).Nodup →
    (∀ e ∈ l, AList.lookup e.1 t = none) → (values (insertAll l t)).Perm (l.map (·.2) ++ values t)
  | [], _, _, _ => List.Perm.refl _
  | e :: l, t, hn, h => by
    rw [List.map_cons, List.nodup_cons] at hn
    have hrest : ∀ e' ∈ l, AList.lookup e'.1 (AList.insert e.1 e.2 t) = none := by
      intro e' he'
      rw [lookup_insert', if_neg, h e' (List.mem_cons_of_mem _ he')]
      rintro heq
      exact hn.1 (List.mem_map.2 ⟨e', he', heq⟩)
    have hhead : (values (AList.insert e.1 e.2 t)).Perm (e.2 :: values t) := by
      rw [values_insert]
      exact (erase_of_lookup_none (h e (List.mem_cons_self ..))).cons e.2
    calc (values (insertAll l (AList.insert e.1 e.2 t))).Perm (l.map (·.2) ++ values (AList.insert e.1 e.2 t)) :=
          values_insertAll hn.2 hrest
      List.Perm _ (l.map (·.2) ++ (e.2 :: values t)) := hhead.append_left _
      List.Perm _ (e.2 :: (l.map (·.2) ++ values t)) := List.perm_middle

/-- What the kept values give is what all values give, filtered alike. -/
theorem flatMap_values_retain {R : Type} {f : V → List R} {p : K → V → Bool} {q : R → Bool} {t : Table K V}
    (h : ∀ k v, AList.lookup k t = some v → ∀ r ∈ f v, q r = p k v) :
    (values (retain p t)).flatMap f = ((values t).flatMap f).filter q := by
  have hlist : ∀ l : List (Sigma fun _ : K => V), (∀ e ∈ l, ∀ r ∈ f e.2, q r = p e.1 e.2) →
      ((l.filter fun e => p e.1 e.2).map (·.2)).flatMap f = ((l.map (·.2)).flatMap f).filter q := by
    intro l
    induction l with
    | nil => exact fun _ => rfl
    | cons e l ih =>
      intro hl
      have he := hl e (List.mem_cons_self ..)
      rw [List.map_cons, List.flatMap_cons, List.filter_append, ← ih fun e' he' => hl e' (List.mem_cons_of_mem _ he')]
      by_cases hp : p e.1 e.2 = true
      · have hall : (f e.2).filter q = f e.2 := List.filter_eq_self.2 fun r hr => (he r hr).trans hp
        rw [List.filter_cons, if_pos hp, List.map_cons, List.flatMap_cons, hall]
      · have hnone : (f e.2).filter q = [] := List.filter_eq_nil_iff.2 fun r hr hq => hp ((he r hr).symm.trans hq)
        rw [List.filter_cons, if_neg hp, hnone, List.nil_append]
  exact hlist t.entries fun e he => h e.1 e.2 ((mem_lookup t e.1 e.2).2 he)

/-! ## Sizes -/

theorem length_insert_of_some {t : Table K V} {k : K} {v w : V} (h : AList.lookup k t = some w) :
    (AList.insert k v t).entries.length = t.entries.length := by
  rw [← length_values, ← length_values, values_insert, (values_perm_cons_erase h).length_eq]
  rfl

theorem length_insert_of_none {t : Table K V} {k : K} {v : V} (h : AList.lookup k t = none) :
    (AList.insert k v t).entries.length = t.entries.length + 1 := by
  rw [← length_values, ← length_values, values_insert, List.length_cons, (erase_of_lookup_none h).length_eq]

theorem length_erase_le (t : Table K V) (k : K) : (AList.erase k t).entries.length ≤ t.entries.length := by
  cases h : AList.lookup k t with
  | none => rw [erase_eq_self h]
  | some v =>
    rw [← length_values t, (values_perm_cons_erase h).length_eq, List.length_cons, length_values]
    exact Nat.le_succ _

theorem lookup_mapValues (f : V → V) (t : Table K V) (k : K) :
    AList.lookup k (mapValues f t) = (AList.lookup k t).map f := by
  apply Option.ext
  intro v
  rw [mem_lookup, Option.map_eq_some_iff]
  constructor
  · intro h
    obtain ⟨⟨k', w⟩, hm, heq⟩ := List.mem_map.1 h
    cases heq
    exact ⟨w, (mem_lookup ..).2 hm, rfl⟩
  · rintro ⟨w, hw, rfl⟩
    exact List.mem_map.2 ⟨⟨k, w⟩, (mem_lookup t k w).1 hw, rfl⟩

end Table

/-- The order in which a program iterates over a table or a set whose order is not specified: some
rearrangement of every list of entries. -/
structure IterOrder where
  apply : {α : Type} → List α → List α
  perm : ∀ {α : Type} (l : List α), (apply l).Perm l

namespace IterOrder

/-- The order of the entries themselves. -/
def entries : IterOrder := ⟨id, fun _ => List.Perm.refl _⟩

theorem mem_apply (o : IterOrder) {α : Type} {l : List α} {a : α} : a ∈ o.apply l ↔ a ∈ l :=
  (o.perm l).mem_iff

/-- The order of the entries with the one at a position last. -/
def moveLast (i : Nat) : IterOrder where
  apply := fun l => l.eraseIdx i ++ l[i]?.toList
  perm := by
    intro α l
    by_cases hi : i < l.length
    · rw [List.getElem?_eq_getElem hi]
      exact (List.perm_append_singleton _ _).trans (List.getElem_cons_eraseIdx_perm hi)
    · rw [List.eraseIdx_of_length_le (not_lt.1 hi), List.getElem?_eq_none (not_lt.1 hi)]
      exact List.Perm.of_eq (List.append_nil l)

/-- Any element can come last. -/
theorem exists_moveLast {α : Type} {l : List α} {a : α} (h : a ∈ l) :
    ∃ i rest, (moveLast i).apply l = rest ++ [a] := by
  obtain ⟨i, hi, rfl⟩ := List.mem_iff_getElem.1 h
  refine ⟨i, l.eraseIdx i, ?_⟩
  show l.eraseIdx i ++ l[i]?.toList = _
  rw [List.getElem?_eq_getElem hi]
  rfl

end IterOrder
