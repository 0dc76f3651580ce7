/-
The storage quota. `ensure_storage_capacity` adds up the index rows and the active sessions of a class, so
what it sees is what the index knows. A put publishes its object before it indexes it: when it ends
between the two, by a crash or because it does not verify what it has just published, the object is there
and is not counted. A session for an indexed digest is admitted whatever size it declares. In runs without
these steps the distinct digests of a class stay within its limit.
-/
import Rampage.Lib.Sizes
import Rampage.Storage.Put

namespace Rampage.Storage

open Rampage.Protocol Sizes

/-! ## What a class holds -/

/-- The index rows of a class: digests with their sizes. -/
def rowSizes (c : StorageClass) (ix : Index) : List (String × Nat) :=
  (ix.artifacts.entries.filter fun e => e.2.storageClass = c).map fun e => (e.1, e.2.sizeBytes)

/-- The active sessions of a class: the digests they announce, with the sizes they declare. -/
def sessionSizes (c : StorageClass) (ix : Index) : List (String × Nat) :=
  ((Table.values ix.sessions).filter fun r => r.storageClass = c ∧ r.state = .active).map fun r => (r.digest, r.sizeBytes)

/-- What the index knows of a class. -/
def accounted (c : StorageClass) (ix : Index) : List (String × Nat) := rowSizes c ix ++ sessionSizes c ix

/-- The class and the size of a committed object. -/
def Dir.contract (dir : Dir) : Option (StorageClass × Nat) :=
  match dir.manifest with
  | some (.json m) => some (m.storageClass, m.plaintextSize)
  | _ => none

/-- The committed objects of a class. -/
def objectSizes (c : StorageClass) (s : Store) : List (String × Nat) :=
  s.objects.entries.filterMap fun e => (e.2.contract.filter fun k => k.1 = c).map fun k => (e.1, k.2)

/-- The total size of the distinct digests of a class that have an object, an index row or an active session. -/
def occupied (c : StorageClass) (s : Store) : Nat := total (objectSizes c s ++ accounted c s.index)

section

variable {c : StorageClass} {ix ix' : Index} {s : Store} {d : String} {n : Nat}

theorem mem_rowSizes : (d, n) ∈ rowSizes c ix ↔
    ∃ row, AList.lookup d ix.artifacts = some row ∧ row.storageClass = c ∧ row.sizeBytes = n := by
  unfold rowSizes
  rw [List.mem_map]
  constructor
  · rintro ⟨⟨d', row⟩, hm, heq⟩
    rw [List.mem_filter, decide_eq_true_eq] at hm
    rw [Prod.mk.injEq] at heq
    obtain ⟨rfl, hn⟩ := heq
    exact ⟨row, (Table.mem_lookup _ _ _).2 hm.1, hm.2, hn⟩
  · rintro ⟨row, hrow, hc, rfl⟩
    refine ⟨⟨d, row⟩, ?_, rfl⟩
    rw [List.mem_filter, decide_eq_true_eq]
    exact ⟨(Table.mem_lookup _ _ _).1 hrow, hc⟩

theorem mem_sessionSizes : (d, n) ∈ sessionSizes c ix ↔ ∃ sid session, AList.lookup sid ix.sessions = some session ∧
    session.storageClass = c ∧ session.state = .active ∧ session.digest = d ∧ session.sizeBytes = n := by
  unfold sessionSizes
  rw [List.mem_map]
  constructor
  · rintro ⟨session, hm, heq⟩
    rw [List.mem_filter, Table.mem_values, decide_eq_true_eq] at hm
    obtain ⟨⟨sid, hsid⟩, hc, hactive⟩ := hm
    rw [Prod.mk.injEq] at heq
    exact ⟨sid, session, hsid, hc, hactive, heq⟩
  · rintro ⟨sid, session, hsid, hc, hactive, hd, hn⟩
    refine ⟨session, ?_, by rw [hd, hn]⟩
    rw [List.mem_filter, Table.mem_values, decide_eq_true_eq]
    exact ⟨⟨sid, hsid⟩, hc, hactive⟩

theorem mem_accounted : (d, n) ∈ accounted c ix ↔
    (∃ row, AList.lookup d ix.artifacts = some row ∧ row.storageClass = c ∧ row.sizeBytes = n) ∨
      ∃ sid session, AList.lookup sid ix.sessions = some session ∧ session.storageClass = c ∧
        session.state = .active ∧ session.digest = d ∧ session.sizeBytes = n := by
  rw [accounted, List.mem_append, mem_rowSizes, mem_sessionSizes]

theorem mem_objectSizes : (d, n) ∈ objectSizes c s ↔
    ∃ dir, AList.lookup d s.objects = some dir ∧ dir.contract = some (c, n) := by
  unfold objectSizes
  rw [List.mem_filterMap]
  constructor
  · rintro ⟨⟨d', dir⟩, hm, heq⟩
    obtain ⟨k, hk, heq⟩ := Option.map_eq_some_iff.1 heq
    rw [Option.filter_eq_some_iff, decide_eq_true_eq] at hk
    rw [Prod.mk.injEq] at heq
    obtain ⟨rfl, rfl⟩ := heq
    exact ⟨dir, (Table.mem_lookup _ _ _).2 hm, by rw [hk.1, ← hk.2]⟩
  · rintro ⟨dir, hdir, hk⟩
    exact ⟨⟨d, dir⟩, (Table.mem_lookup _ _ _).1 hdir, by simp [hk]⟩

/-! ## The capacity check -/

theorem sum_sessionSizes (c : StorageClass) (ix : Index) : ((sessionSizes c ix).map (·.2)).sum =
    (((Table.values ix.sessions).filter fun r => r.storageClass = c ∧ r.state = .active).map (·.sizeBytes)).sum := by
  rw [sessionSizes, List.map_map]
  rfl

/-- Without the digest's own row of the class, the rows that are added up are all rows of the class. -/
theorem sum_rowSizes (h : ∀ row, AList.lookup d ix.artifacts = some row → row.storageClass ≠ c) :
    ((rowSizes c ix).map (·.2)).sum = ((((AList.erase d ix.artifacts).entries.map (·.2)).filter
      fun r => r.storageClass = c).map (·.sizeBytes)).sum := by
  have hall : (rowSizes c ix).map (·.2) =
      ((Table.values ix.artifacts).filter fun r => r.storageClass = c).map (·.sizeBytes) := by
    rw [rowSizes, Table.values, List.map_map, List.filter_map, List.map_map]
    rfl
  rw [hall]
  cases hrow : AList.lookup d ix.artifacts with
  | none =>
    rw [Table.erase_eq_self hrow]
    rfl
  | some row =>
    have hperm := ((Table.values_perm_cons_erase hrow).filter fun r => r.storageClass = c).map (·.sizeBytes)
    rw [List.filter_cons_of_neg (by simpa using h row hrow)] at hperm
    exact hperm.sum_eq

/-- A request that passes the check, for a digest without a row of the class, fits beside what the index knows. -/
theorem ensureStorageCapacity_ok {limits : StorageLimits}
    (h : ensureStorageCapacity (some limits) c n d ix = .ok ())
    (hrow : ∀ row, AList.lookup d ix.artifacts = some row → row.storageClass ≠ c) :
    total ((d, n) :: accounted c ix) ≤ limits.forClass c := by
  have hno : (AList.lookup d ix.artifacts).any (·.storageClass = c) = false := by
    cases hr : AList.lookup d ix.artifacts with
    | none => rfl
    | some row => simpa using hrow row hr
  have hsum := total_le_sum ((d, n) :: accounted c ix)
  rw [List.map_cons, List.sum_cons, accounted, List.map_append, List.sum_append, sum_rowSizes hrow,
    sum_sessionSizes] at hsum
  unfold ensureStorageCapacity at h
  simp only [Option.map_some, hno, Bool.false_eq_true, if_false] at h
  split at h
  · cases h
  · rename_i hle
    push Not at hle
    have hfits := hle.2
    simp only [accounted]
    omega

end

/-! ## The invariant -/

/-- What the index knows is within the limits, and every object is known to it. Only objects that verify have a row. -/
structure Counted (cas : CasStore) (limits : StorageLimits) (s : Store) : Prop where
  within : ∀ c, total (accounted c s.index) ≤ limits.forClass c
  objects : ∀ c, Covered (objectSizes c s) (accounted c s.index)
  rows : ∀ d row, AList.lookup d s.index.artifacts = some row → ∃ k, verifyObject cas d s = .ok k

section

variable {cas : CasStore} {limits : StorageLimits} {s t : Store} {d sid : String} {session : DurablePutSession}
  {k : ArtifactContract}

theorem counted_empty (cas : CasStore) (limits : StorageLimits) : Counted cas limits Store.empty := by
  refine ⟨fun c => Nat.zero_le _, ?_, ?_⟩
  · intro c e he
    cases he
  · intro d row h
    cases h

theorem Counted.occupied_le (h : Counted cas limits s) (c : StorageClass) : occupied c s ≤ limits.forClass c :=
  ((h.objects c).append (Covered.of_subset (List.Subset.refl _))).total_le.trans (h.within c)

/-- The transfers do not count. -/
theorem Counted.of_eq (h : Counted cas limits s) (hi : t.index = s.index) (ho : t.objects = s.objects) :
    Counted cas limits t := by
  refine ⟨?_, ?_, ?_⟩
  · rw [hi]
    exact h.within
  · intro c
    have hsame : objectSizes c t = objectSizes c s := by rw [objectSizes, objectSizes, ho]
    rw [hi, hsame]
    exact h.objects c
  · intro d row hrow
    rw [hi] at hrow
    obtain ⟨k, hk⟩ := h.rows d row hrow
    exact ⟨k, by rw [verifyObject_congr ho, hk]⟩

/-- The object of a digest decides whether it verifies. -/
theorem verifyObject_of_lookup (h : AList.lookup d t.objects = AList.lookup d s.objects) :
    verifyObject cas d t = verifyObject cas d s := by
  have hdir : dirOf t.objects d = dirOf s.objects d := by rw [dirOf, dirOf, h]
  unfold verifyObject readManifest
  rw [hdir]

/-- What verifies is an object, of the class and size it is verified to have. -/
theorem mem_objectSizes_of_verifyObject (h : verifyObject cas d s = .ok k) :
    (d, k.artifact.sizeBytes) ∈ objectSizes k.artifact.storageClass s := by
  obtain ⟨dir, hdir⟩ := Option.isSome_iff_exists.1 (isSome_of_verifyObject h)
  have hread : dirOf s.objects d = dir := by rw [dirOf, hdir]; rfl
  obtain ⟨m, ps, -, hholds, -, -, rfl⟩ := verifyObject_ok h
  rw [hread] at hholds
  refine mem_objectSizes.2 ⟨dir, hdir, ?_⟩
  unfold Dir.contract
  rw [hholds.manifest]
  rfl

/-- An object that does not verify is taken away. -/
theorem Counted.quarantine (h : Counted cas limits s) (hbad : ∀ k, verifyObject cas d s ≠ .ok k) :
    Counted cas limits (Effect.apply (.quarantine d) s) := by
  refine ⟨h.within, ?_, ?_⟩
  · intro c
    refine Covered.trans (Covered.of_subset ?_) (h.objects c)
    rintro ⟨d', n⟩ hm
    obtain ⟨dir, hdir, hc⟩ := mem_objectSizes.1 hm
    exact mem_objectSizes.2 ⟨dir, Table.lookup_of_erase hdir, hc⟩
  · intro d' row hrow
    obtain ⟨k, hk⟩ := h.rows d' row hrow
    have hne : d' ≠ d := by
      rintro rfl
      exact hbad k hk
    refine ⟨k, ?_⟩
    rw [verifyObject_of_lookup (AList.lookup_erase_ne hne), hk]

/-- An object is put in a place where none verifies, and the index of the new state knows it. -/
theorem Counted.place (h : Counted cas limits s) (hbad : ∀ k, verifyObject cas d s ≠ .ok k) {dir : Dir}
    (ho : t.objects = AList.insert d dir s.objects) (hwithin : ∀ c, total (accounted c t.index) ≤ limits.forClass c)
    (hkept : ∀ c, accounted c s.index ⊆ accounted c t.index)
    (hdir : ∀ c n, dir.contract = some (c, n) → ∃ e ∈ accounted c t.index, e.1 = d ∧ n ≤ e.2)
    (hrows : ∀ d' row, AList.lookup d' t.index.artifacts = some row →
      AList.lookup d' s.index.artifacts = some row ∨ ∃ k, verifyObject cas d' t = .ok k) : Counted cas limits t := by
  refine ⟨hwithin, ?_, ?_⟩
  · rintro c ⟨d', n⟩ hm
    obtain ⟨dir', hdir', hc⟩ := mem_objectSizes.1 hm
    rw [ho, Table.lookup_insert'] at hdir'
    split at hdir'
    · rename_i hd
      cases hdir'
      obtain ⟨e, he, hkey, hle⟩ := hdir c n hc
      exact ⟨e, he, hkey.trans hd.symm, hle⟩
    · obtain ⟨e, he, hkey, hle⟩ := h.objects c (d', n) (mem_objectSizes.2 ⟨dir', hdir', hc⟩)
      exact ⟨e, hkept c he, hkey, hle⟩
  · intro d' row hrow
    rcases hrows d' row hrow with hold | hnew
    · obtain ⟨k, hk⟩ := h.rows d' row hold
      have hne : d' ≠ d := by
        rintro rfl
        exact hbad k hk
      have hsame : AList.lookup d' t.objects = AList.lookup d' s.objects := by
        rw [ho]
        exact AList.lookup_insert_ne hne
      exact ⟨k, by rw [verifyObject_of_lookup hsame, hk]⟩
    · exact hnew

/-! ## Changes of the index -/

theorem accounted_congr {ix ix' : Index} (ha : ix'.artifacts = ix.artifacts) (hs : ix'.sessions = ix.sessions)
    (c : StorageClass) : accounted c ix' = accounted c ix := by
  rw [accounted, accounted, rowSizes, rowSizes, sessionSizes, sessionSizes, ha, hs]

/-- A new index beside the same objects. -/
theorem Counted.reindex (h : Counted cas limits s) {ix : Index} (hwithin : ∀ c, total (accounted c ix) ≤ limits.forClass c)
    (hkept : ∀ c, Covered (objectSizes c s) (accounted c ix))
    (hrows : ∀ d row, AList.lookup d ix.artifacts = some row →
      AList.lookup d s.index.artifacts = some row ∨ ∃ k, verifyObject cas d s = .ok k) :
    Counted cas limits (Effect.apply (.commit ix) s) := by
  refine ⟨hwithin, hkept, ?_⟩
  intro d row hrow
  rcases hrows d row hrow with hold | hnew
  · exact h.rows d row hold
  · exact hnew

/-- Indexing keeps the rows that are there. -/
theorem indexArtifact_kept {artifact : ArtifactRefV1} {replicas : Nat} {ix ix' : Index} {row : ArtifactRow}
    (h : indexArtifactInTransaction artifact replicas ix = .ok ix') (hrow : AList.lookup d ix.artifacts = some row) :
    AList.lookup d ix'.artifacts = some row := by
  unfold indexArtifactInTransaction at h
  split at h
  · rename_i hnone
    cases h
    have hne : d ≠ artifact.digest := by
      rintro rfl
      rw [hnone] at hrow
      cases hrow
    exact (AList.lookup_insert_ne hne).trans hrow
  · split at h
    · cases h
    · cases h
      exact hrow

theorem accounted_index_subset {artifact : ArtifactRefV1} {replicas : Nat} {ix ix' : Index}
    (h : indexArtifactInTransaction artifact replicas ix = .ok ix') (c : StorageClass) :
    accounted c ix ⊆ accounted c ix' := by
  obtain ⟨hsessions, _, _⟩ := indexArtifact_ok h
  rintro ⟨d, n⟩ hm
  rcases mem_accounted.1 hm with ⟨row, hrow, hc, hn⟩ | ⟨sid, session, hs, hsession⟩
  · exact mem_accounted.2 (Or.inl ⟨row, indexArtifact_kept h hrow, hc, hn⟩)
  · exact mem_accounted.2 (Or.inr ⟨sid, session, by rw [hsessions, hs], hsession⟩)

/-- Indexing makes at most one digest known. -/
theorem accounted_index_cases {artifact : ArtifactRefV1} {replicas : Nat} {ix ix' : Index}
    (h : indexArtifactInTransaction artifact replicas ix = .ok ix') {c : StorageClass} {e : String × Nat}
    (he : e ∈ accounted c ix') :
    e ∈ accounted c ix ∨ artifact.storageClass = c ∧ e = (artifact.digest, artifact.sizeBytes) := by
  obtain ⟨hsessions, _, hartifacts⟩ := indexArtifact_ok h
  obtain ⟨d, n⟩ := e
  rcases mem_accounted.1 he with ⟨row, hrow, hc, hn⟩ | ⟨sid, session, hs, hsession⟩
  · rw [hartifacts] at hrow
    split at hrow
    · rename_i hd
      cases hrow
      right
      exact ⟨hc, by rw [← hn, hd]⟩
    · exact Or.inl (mem_accounted.2 (Or.inl ⟨row, hrow, hc, hn⟩))
  · rw [hsessions] at hs
    exact Or.inl (mem_accounted.2 (Or.inr ⟨sid, session, hs, hsession⟩))

/-- An object that verifies is indexed: it was known already. -/
theorem Counted.index (h : Counted cas limits s) (hv : verifyObject cas d s = .ok k) {replicas : Nat} {ix : Index}
    (hix : indexArtifactInTransaction k.artifact replicas s.index = .ok ix) :
    Counted cas limits (Effect.apply (.commit ix) s) := by
  have hdigest := verifyObject_digest hv
  have hknown : ∀ c, Covered (accounted c ix) (accounted c s.index) := by
    intro c e he
    rcases accounted_index_cases hix he with hold | ⟨rfl, rfl⟩
    · exact ⟨e, hold, rfl, le_refl _⟩
    · rw [hdigest]
      exact h.objects _ _ (mem_objectSizes_of_verifyObject hv)
  refine h.reindex (fun c => (hknown c).total_le.trans (h.within c)) ?_ ?_
  · exact fun c => (h.objects c).trans (Covered.of_subset (accounted_index_subset hix c))
  · intro d' row hrow
    obtain ⟨_, _, hartifacts⟩ := indexArtifact_ok hix
    rw [hartifacts] at hrow
    split at hrow
    · rename_i hd
      rw [hd, hdigest]
      exact Or.inr ⟨k, hv⟩
    · exact Or.inl hrow

/-- A session is completed whose digest has its row. -/
theorem Counted.complete (h : Counted cas limits s) (hs : AList.lookup sid s.index.sessions = some session)
    {row : ArtifactRow} (hrow : AList.lookup session.digest s.index.artifacts = some row)
    (hclass : row.storageClass = session.storageClass) (hsize : row.sizeBytes = session.sizeBytes) :
    Counted cas limits (Effect.apply (.commit (completedIndex sid session s.index)) s) := by
  have hsub : ∀ c, accounted c (completedIndex sid session s.index) ⊆ accounted c s.index := by
    rintro c ⟨d, n⟩ hm
    rcases mem_accounted.1 hm with hrow | ⟨sid', session', hs', hc, hactive, hrest⟩
    · exact mem_accounted.2 (Or.inl hrow)
    · change AList.lookup sid' (AList.insert sid { session with state := .complete } s.index.sessions) = _ at hs'
      rw [Table.lookup_insert'] at hs'
      split at hs'
      · cases hs'
        cases hactive
      · exact mem_accounted.2 (Or.inr ⟨sid', session', hs', hc, hactive, hrest⟩)
  have hkept : ∀ c, Covered (accounted c s.index) (accounted c (completedIndex sid session s.index)) := by
    rintro c ⟨d, n⟩ hm
    rcases mem_accounted.1 hm with hold | ⟨sid', session', hs', hc, hactive, hd, hn⟩
    · exact ⟨(d, n), mem_accounted.2 (Or.inl hold), rfl, le_refl _⟩
    · by_cases hsid : sid' = sid
      · -- the row of its digest takes the place of the session
        subst hsid
        rw [hs] at hs'
        cases hs'
        refine ⟨(d, n), mem_accounted.2 (Or.inl ⟨row, ?_, ?_, ?_⟩), rfl, le_refl _⟩
        · rw [← hd]
          exact hrow
        · rw [hclass, hc]
        · rw [hsize, hn]
      · refine ⟨(d, n), mem_accounted.2 (Or.inr ⟨sid', session', ?_, hc, hactive, hd, hn⟩), rfl, le_refl _⟩
        exact (AList.lookup_insert_ne hsid).trans hs'
  refine h.reindex (fun c => (Covered.of_subset (hsub c)).total_le.trans (h.within c)) ?_ fun d row hrow => Or.inl hrow
  exact fun c => (h.objects c).trans (hkept c)

/-! ## Sessions -/

/-- A session is inserted or renewed. -/
theorem Counted.insertSession (h : Counted cas limits s) {ix : Index} (ha : ix.artifacts = s.index.artifacts)
    (hs : ix.sessions = AList.insert sid session s.index.sessions)
    (hwithin : total ((session.digest, session.sizeBytes) :: accounted session.storageClass s.index) ≤
      limits.forClass session.storageClass)
    (hold : ∀ existing, AList.lookup sid s.index.sessions = some existing → existing.state = .active →
      session.state = .active ∧ session.storageClass = existing.storageClass ∧ session.digest = existing.digest ∧
        session.sizeBytes = existing.sizeBytes) : Counted cas limits (Effect.apply (.commit ix) s) := by
  -- only the session's own artifact is counted anew
  have hnew : ∀ c, ∀ e ∈ accounted c ix, e ∈ accounted c s.index ∨
      session.storageClass = c ∧ e = (session.digest, session.sizeBytes) := by
    rintro c ⟨d, n⟩ hm
    rcases mem_accounted.1 hm with hrow | ⟨sid', session', hs', hc, hactive, hd, hn⟩
    · rw [ha] at hrow
      exact Or.inl (mem_accounted.2 (Or.inl hrow))
    · rw [hs, Table.lookup_insert'] at hs'
      split at hs'
      · cases hs'
        exact Or.inr ⟨hc, by rw [hd, hn]⟩
      · exact Or.inl (mem_accounted.2 (Or.inr ⟨sid', session', hs', hc, hactive, hd, hn⟩))
  -- and what was counted stays so
  have hkept : ∀ c, accounted c s.index ⊆ accounted c ix := by
    rintro c ⟨d, n⟩ hm
    rcases mem_accounted.1 hm with hrow | ⟨sid', session', hs', hc, hactive, hd, hn⟩
    · rw [← ha] at hrow
      exact mem_accounted.2 (Or.inl hrow)
    · refine mem_accounted.2 (Or.inr ?_)
      by_cases hsid : sid' = sid
      · subst hsid
        obtain ⟨hstate, hclass, hdigest, hsize⟩ := hold session' hs' hactive
        refine ⟨sid', session, ?_, hclass.trans hc, hstate, hdigest.trans hd, hsize.trans hn⟩
        rw [hs]
        exact AList.lookup_insert _
      · refine ⟨sid', session', ?_, hc, hactive, hd, hn⟩
        rw [hs]
        exact (AList.lookup_insert_ne hsid).trans hs'
  refine h.reindex ?_ (fun c => (h.objects c).trans (Covered.of_subset (hkept c))) fun d row hrow => Or.inl ?_
  · intro c
    by_cases hc : session.storageClass = c
    · subst hc
      refine le_trans (Covered.total_le ?_) hwithin
      refine Covered.of_subset fun e he => ?_
      rcases hnew _ e he with hin | ⟨_, rfl⟩
      · exact List.mem_cons_of_mem _ hin
      · exact List.mem_cons_self ..
    · refine le_trans (Covered.total_le (Covered.of_subset fun e he => ?_)) (h.within c)
      rcases hnew c e he with hin | ⟨heq, _⟩
      · exact hin
      · exact absurd heq hc
  · rw [← ha]
    exact hrow

/-- A new session for an indexed digest declares no more than the row has. -/
def Declared (spec : ResumablePutSpec) (ix : Index) : Prop :=
  AList.lookup spec.sessionId ix.sessions = none → ∀ row, AList.lookup spec.digest ix.artifacts = some row →
    row.storageClass = spec.storageClass → spec.sizeBytes ≤ row.sizeBytes

/-- A new session has passed the capacity check. -/
theorem begin_capacity {now : Int} {spec : ResumablePutSpec} {ix : Index} {rest : List Effect}
    (h : (beginResumablePut cas now spec s).effects = .commit ix :: rest)
    (hnone : AList.lookup spec.sessionId s.index.sessions = none) :
    ensureStorageCapacity cas.limits spec.storageClass spec.sizeBytes spec.digest s.index = .ok () := by
  unfold beginResumablePut at h
  split at h
  · cases h
  split at h
  · cases h
  · cases h
  · cases h
  · rename_i hb
    unfold beginLocked at hb
    rw [hnone] at hb
    dsimp only at hb
    split at hb
    · cases hb
    · assumption

theorem Counted.keep_begin (hl : cas.limits = some limits) {now : Int} {spec : ResumablePutSpec}
    (hfit : Declared spec s.index) : storeEffects.Keep (Counted cas limits) (beginResumablePut cas now spec s).effects s := by
  -- a directory without chunks counts for nothing
  have hdir : ∀ t : Store, (Counted cas limits t →
      Counted cas limits (Effect.apply (.createTransferDir spec.sessionId) t) ∧ ∀ j, Counted cas limits
        (Effect.cut (.createTransferDir spec.sessionId) j t)) := fun t ht => ⟨ht.of_eq rfl rfl, fun _ => ht⟩
  generalize heffects : (beginResumablePut cas now spec s).effects = effects
  have hcases := @begin_effects cas now spec s
  rw [heffects] at hcases
  cases hcases with
  | none => trivial
  | unchanged => exact ⟨hdir s, trivial⟩
  | @accepted count session taken arrive accept row =>
    refine ⟨fun h => ⟨?_, fun _ => h⟩, hdir _, trivial⟩
    obtain ⟨hsessions, _, hartifacts⟩ := accept_index accept
    have hinsert : (AList.insert spec.sessionId session taken.sessions) =
        AList.insert spec.sessionId session s.index.sessions := by rw [hsessions]
    refine h.insertSession hartifacts hinsert ?_ ?_
    · rcases row with ⟨hnone, rfl⟩ | ⟨existing, hexisting, hcontract, hactive, rfl⟩
      · -- an object stored already is counted once, so the session adds nothing to it
        by_cases hrow : ∃ row, AList.lookup spec.digest s.index.artifacts = some row ∧ row.storageClass = spec.storageClass
        · obtain ⟨row, hrow, hclass⟩ := hrow
          refine le_trans (Covered.total_le ?_) (h.within spec.storageClass)
          intro e he
          rcases List.mem_cons.1 he with rfl | he
          · exact ⟨(spec.digest, row.sizeBytes), mem_accounted.2 (Or.inl ⟨row, hrow, hclass, rfl⟩), rfl,
              hfit hnone row hrow hclass⟩
          · exact ⟨e, he, rfl, le_refl _⟩
        · push Not at hrow
          have hcapacity := begin_capacity heffects hnone
          rw [hl] at hcapacity
          exact ensureStorageCapacity_ok hcapacity hrow
      · -- the renewed session was counted before
        refine le_trans (Covered.total_le (Covered.of_subset fun e he => ?_)) (h.within existing.storageClass)
        rcases List.mem_cons.1 he with rfl | he
        · exact mem_accounted.2 (Or.inr ⟨spec.sessionId, existing, hexisting, rfl, hactive, rfl, rfl⟩)
        · exact he
    · intro existing hexisting hactive
      rcases row with ⟨hnone, _⟩ | ⟨existing', hexisting', _, hactive', rfl⟩
      · rw [hnone] at hexisting
        cases hexisting
      · rw [hexisting'] at hexisting
        cases hexisting
        exact ⟨hactive, rfl, rfl, rfl⟩

/-! ## Chunks and commits -/

/-- An effect that leaves the objects alone, and changes at most the transfers, chunks and authority of the index. -/
theorem Counted.keep_aside {e : Effect} (hi : ∀ c, accounted c (Effect.apply e s).index = accounted c s.index)
    (ha : (Effect.apply e s).index.artifacts = s.index.artifacts) (ho : (Effect.apply e s).objects = s.objects)
    (hcut : ∀ j, (Effect.cut e j s).index = s.index ∧ (Effect.cut e j s).objects = s.objects) :
    Counted cas limits s → Counted cas limits (Effect.apply e s) ∧ ∀ j, Counted cas limits (Effect.cut e j s) := by
  intro h
  refine ⟨⟨?_, ?_, ?_⟩, fun j => h.of_eq (hcut j).1 (hcut j).2⟩
  · intro c
    rw [hi]
    exact h.within c
  · intro c
    have hsame : objectSizes c (Effect.apply e s) = objectSizes c s := by rw [objectSizes, objectSizes, ho]
    rw [hi, hsame]
    exact h.objects c
  · intro d row hrow
    rw [ha] at hrow
    obtain ⟨k, hk⟩ := h.rows d row hrow
    exact ⟨k, by rw [verifyObject_congr ho, hk]⟩

theorem Counted.keep_putChunk {now : Int} {nonce : Nonce} {i : Nat} {digest : String} {p : Bytes} :
    storeEffects.Keep (Counted cas limits) (putResumableChunk cas now nonce sid i digest p s).effects s := by
  have hfile : ∀ (e : Effect) (t : Store), (Effect.apply e t).index = t.index → (Effect.apply e t).objects = t.objects →
      (∀ j, Effect.cut e j t = t) → Counted cas limits t →
        Counted cas limits (Effect.apply e t) ∧ ∀ j, Counted cas limits (Effect.cut e j t) := by
    intro e t hi ho hcut
    refine Counted.keep_aside ?_ ?_ ho fun j => by rw [hcut]; exact ⟨rfl, rfl⟩
    · intro c
      rw [hi]
    · rw [hi]
  have hrow : ∀ (t : Store) (size : Nat), t.index = s.index → Counted cas limits t →
      let e := Effect.commit { s.index with chunks := AList.insert (sid, i) (chunkRow cas nonce p size) s.index.chunks }
      Counted cas limits (Effect.apply e t) ∧ ∀ j, Counted cas limits (Effect.cut e j t) := by
    intro t size hi
    refine Counted.keep_aside (fun c => ?_) ?_ rfl fun _ => ⟨rfl, rfl⟩
    · rw [hi]
      exact accounted_congr rfl rfl c
    · rw [hi]
      rfl
  have hstore : ∀ size, storeEffects.Keep (Counted cas limits) (storeChunk cas nonce sid i p size s) s := by
    intro size
    unfold storeChunk
    split
    · exact ⟨hfile (.createTransferDir sid) _ rfl rfl fun _ => rfl, hfile (.removeChunk sid i) _ rfl rfl fun _ => rfl,
        hfile (.renameChunk sid i (cas.encrypt nonce p)) _ rfl rfl fun _ => rfl, hrow _ size rfl, trivial⟩
    · exact ⟨hfile (.createTransferDir sid) _ rfl rfl fun _ => rfl,
        hfile (.renameChunk sid i (cas.encrypt nonce p)) _ rfl rfl fun _ => rfl, hrow _ size rfl, trivial⟩
  rcases @putChunk_cases cas now s sid i digest p nonce with ⟨e, heq⟩ | ⟨_, heq⟩ | ⟨_, size, _, ⟨_, _, _, heq⟩ | ⟨_, heq⟩⟩
  · rw [heq]
    trivial
  · rw [heq]
    trivial
  · rw [heq]
    trivial
  · rw [heq]
    exact hstore size

theorem Counted.keep_acceptAuthority {now expiresAt : Int} {scope nonce : String} {epoch : Nat} :
    storeEffects.Keep (Counted cas limits) (acceptAuthority now scope epoch nonce expiresAt s).effects s := by
  unfold acceptAuthority
  split
  · trivial
  split
  · trivial
  · rename_i ix hix
    obtain ⟨hsessions, _, hartifacts⟩ := accept_index hix
    exact ⟨Counted.keep_aside (e := .commit ix) (accounted_congr hartifacts hsessions) hartifacts rfl fun _ => ⟨rfl, rfl⟩,
      trivial⟩

/-- The manifest a commit arrives at is of the session's class and size. -/
theorem assemble_contract {now createdAt : Int} {m : Manifest} (h : assemble cas now createdAt sid session s = .ok m) :
    session.state = .active ∧ m.storageClass = session.storageClass ∧ m.plaintextSize = session.sizeBytes := by
  unfold assemble at h
  split at h
  · cases h
  rename_i hactive
  split at h
  · cases h
  split at h
  · cases h
  split at h
  · cases h
  split at h
  · cases h
  split at h
  · cases h
  rename_i hsame
  push Not at hsame
  cases h
  exact ⟨SessionState.eq_active_of_ne hactive, rfl, hsame.2⟩

theorem Counted.keep_settle (hs : AList.lookup sid s.index.sessions = some session)
    (hv : verifyObject cas session.digest s = .ok k) :
    storeEffects.Keep (Counted cas limits) (settle sid session k s).effects s := by
  rcases @settle_cases sid session s k with ⟨e, heq⟩ | ⟨ix, hcontract, hix, heq⟩
  · rw [heq]
    trivial
  rw [heq]
  refine ⟨fun h => ⟨?_, fun _ => h⟩, trivial⟩
  obtain ⟨hsessions, _, hartifacts⟩ := indexArtifact_ok hix
  have hsame := ensureArtifactContract_ok hcontract
  have hrow : AList.lookup session.digest ix.artifacts = some (sessionArtifact session) := by
    rw [hartifacts, if_pos (verifyObject_digest hv).symm, hsame]
  have hsession : AList.lookup sid ix.sessions = some session := by rw [hsessions, hs]
  exact (h.index hv hix).complete hsession hrow rfl rfl

theorem Counted.keep_promoteTransfer {now createdAt : Int} (hs : AList.lookup sid s.index.sessions = some session)
    (hbad : ∀ k, verifyObject cas session.digest s ≠ .ok k) :
    storeEffects.Keep (Counted cas limits) (promoteTransfer cas now createdAt sid session s).effects s := by
  rcases @promoteTransfer_cases cas now createdAt sid session s with ⟨e, heq⟩ | ⟨m, written, hm, hw, hdone⟩
  · rw [heq]
    trivial
  have hpromotion : storeEffects.Keep (Counted cas limits) (promotion sid session.digest written) s := by
    obtain ⟨hactive, hclass, hsize⟩ := assemble_contract hm
    obtain ⟨m', hdoc, _, hagrees, _⟩ := promoted_dir hw
    obtain ⟨_, hsize', _, hclass', _⟩ := Manifest.eq_of_agrees hagrees
    -- the promoted object is the one the session announces
    have hpromote : ∀ t : Store, t.index = s.index → t.objects = s.objects →
        storeEffects.applyAll (promotion sid session.digest written) s = Effect.apply (.promote sid session.digest) t →
        Counted cas limits t → Counted cas limits (Effect.apply (.promote sid session.digest) t) ∧
          ∀ j, Counted cas limits (Effect.cut (.promote sid session.digest) j t) := by
      intro t hi ho heq h
      refine ⟨h.place (d := session.digest) ?_ rfl h.within (fun _ => List.Subset.refl _) ?_ fun _ _ => Or.inl, fun _ => h⟩
      · intro k
        rw [verifyObject_congr ho]
        exact hbad k
      · intro c n hc
        have hdir : dirOf (Effect.apply (.promote sid session.digest) t).objects session.digest = t.transfer sid := by
          simp [dirOf, Effect.apply]
        rw [heq, hdir] at hdoc
        simp only [Dir.contract, hdoc, Option.some.injEq, Prod.mk.injEq] at hc
        refine ⟨(session.digest, n), mem_accounted.2 (Or.inr ⟨sid, session, ?_, ?_, hactive, rfl, ?_⟩), rfl, le_refl _⟩
        · show AList.lookup sid t.index.sessions = some session
          rw [hi, hs]
        · rw [← hc.1, hclass', hclass]
        · rw [← hc.2, hsize', hsize]
    rcases writeManifest_effects hw with rfl | rfl
    · exact ⟨hpromote s rfl rfl rfl, trivial⟩
    · have hwrite := @Counted.keep_aside cas limits s (.writeManifest sid m) (fun _ => rfl) rfl rfl fun _ => ⟨rfl, rfl⟩
      exact ⟨hwrite, hpromote (Effect.apply (.writeManifest sid m) s) rfl rfl rfl, trivial⟩
  rcases hdone with ⟨e, _, heq⟩ | ⟨k, hk, heq⟩
  · rw [heq]
    exact hpromotion
  · rw [heq]
    refine Effects.keep_append hpromotion (Counted.keep_settle ?_ hk)
    rw [index_promotion hw, hs]

theorem Counted.keep_commit {now createdAt : Int} :
    storeEffects.Keep (Counted cas limits) (commitResumablePut cas now createdAt sid s).effects s := by
  rcases @commit_cases cas now createdAt sid s with ⟨e, heq⟩ | ⟨session, hs, _, _, hcases⟩
  · rw [heq]
    trivial
  rcases hcases with ⟨k, hk, heq⟩ | ⟨hnone, heq⟩ | ⟨e, he, _, heq⟩
  · rw [heq]
    exact Counted.keep_settle hs hk
  · rw [heq]
    refine Counted.keep_promoteTransfer hs fun k hk => ?_
    have := isSome_of_verifyObject hk
    rw [hnone] at this
    cases this
  · rw [heq]
    have hbad : ∀ k, verifyObject cas session.digest s ≠ .ok k := by
      intro k hk
      rw [he] at hk
      cases hk
    refine ⟨fun h => ⟨h.quarantine hbad, fun _ => h⟩, Counted.keep_promoteTransfer hs ?_⟩
    intro k hk
    have hsome := isSome_of_verifyObject hk
    change (AList.lookup session.digest (AList.erase session.digest s.objects)).isSome = true at hsome
    rw [AList.lookup_erase] at hsome
    cases hsome

end

/-! ## Puts -/

section

variable {cas : CasStore} {limits : StorageLimits} {s : Store} {createdAt : Int} {nonces : Nat → Nonce}
  {plaintext : Bytes} {options : PutOptions}

theorem Counted.keep_removals (hrep : replaces cas (sha256Digest cas plaintext) s = true) :
    storeEffects.Keep (Counted cas limits) (removals cas plaintext s) s := by
  unfold removals
  split
  · exact ⟨fun hs => ⟨hs.quarantine (not_verifies_of_replaces hrep), fun _ => hs⟩, trivial⟩
  · trivial

/-- A put that publishes nothing. -/
theorem Counted.keep_put (h : publishes cas plaintext options s = false) :
    storeEffects.Keep (Counted cas limits) (put cas createdAt nonces plaintext options s).effects s := by
  rcases @put_of_not_publishes cas s createdAt nonces plaintext options h with
    ⟨e, heq⟩ | ⟨hrep, e, heq⟩ | ⟨c, ix, hverify, -, hix, heq⟩
  · rw [heq]
    trivial
  · rw [heq]
    exact Counted.keep_removals hrep
  · rw [heq]
    exact ⟨fun hs => ⟨hs.index hverify hix, fun _ => hs⟩, trivial⟩

/-- An object is published and indexed: it fits beside what the index knew. -/
theorem Counted.publish (h : Counted cas limits s) (hl : cas.limits = some limits)
    (hver : Verifiable cas createdAt nonces plaintext options)
    (hclass : ¬ (options.storageClass = .«protected» ∧ options.requiredReplicas < 2))
    (hbad : ∀ k, verifyObject cas (sha256Digest cas plaintext) s ≠ .ok k)
    (hcap : ensureStorageCapacity cas.limits options.storageClass plaintext.length (sha256Digest cas plaintext) s.index = .ok ())
    {ix : Index} (hix : indexArtifactInTransaction (artifactContractFromManifest (sha256Digest cas plaintext)
      (stagedManifest cas createdAt nonces plaintext options)).artifact options.requiredReplicas s.index = .ok ix) :
    Counted cas limits (Effect.apply (.commit ix) (Effect.apply
      (.publish (sha256Digest cas plaintext) (stage cas createdAt nonces plaintext options)) s)) := by
  obtain ⟨_, _, hartifacts⟩ := indexArtifact_ok hix
  -- what has a row verifies, and this object did not
  have hnorow : ∀ row, AList.lookup (sha256Digest cas plaintext) s.index.artifacts = some row →
      row.storageClass ≠ options.storageClass := by
    intro row hrow
    obtain ⟨k, hk⟩ := h.rows _ _ hrow
    exact absurd hk (hbad k)
  rw [hl] at hcap
  have hfits := ensureStorageCapacity_ok hcap hnorow
  refine h.place hbad rfl ?_ (accounted_index_subset hix) ?_ ?_
  · intro c
    show total (accounted c ix) ≤ limits.forClass c
    by_cases hc : options.storageClass = c
    · subst hc
      refine le_trans (Covered.total_le (Covered.of_subset fun e he => ?_)) hfits
      rcases accounted_index_cases hix he with hold | ⟨_, rfl⟩
      · exact List.mem_cons_of_mem _ hold
      · exact List.mem_cons_self ..
    · refine le_trans (Covered.total_le (Covered.of_subset fun e he => ?_)) (h.within c)
      rcases accounted_index_cases hix he with hold | ⟨heq, _⟩
      · exact hold
      · exact absurd heq hc
  · intro c n hdir
    simp only [Dir.contract, stage_manifest, Option.some.injEq, Prod.mk.injEq] at hdir
    refine ⟨(sha256Digest cas plaintext, n), mem_accounted.2 (Or.inl ⟨⟨plaintext.length, options.mediaType,
      options.storageClass, options.requiredReplicas⟩, ?_, hdir.1, hdir.2⟩), rfl, le_refl _⟩
    show AList.lookup (sha256Digest cas plaintext) ix.artifacts = _
    rw [hartifacts]
    exact if_pos rfl
  · intro d row hrow
    change AList.lookup d ix.artifacts = some row at hrow
    rw [hartifacts] at hrow
    split at hrow
    · rename_i hd
      right
      rw [hd]
      exact ⟨_, hver.verifyObject hclass s⟩
    · exact Or.inl hrow

/-! ## Runs -/

/-- The steps that leave nothing uncounted. A put that goes on to publish stages an object which verifies, and does not
die after the rename and before its row is committed; a new session for an indexed digest declares no more than the
row has. -/
def Kept (cas : CasStore) (s : Store) : Event → Prop
  | .call (.put createdAt nonces plaintext options) =>
    publishes cas plaintext options s = true → Verifiable cas createdAt nonces plaintext options
  | .crash (.put createdAt nonces plaintext options) done _ =>
    publishes cas plaintext options s = true → done ≤ (removals cas plaintext s).length ∨
      (removals cas plaintext s).length + 1 < done ∧ Verifiable cas createdAt nonces plaintext options
  | .call (.begin _ spec) => Declared spec s.index
  | .crash (.begin _ spec) _ _ => Declared spec s.index
  | _ => True

/-- The effects of a put are done whole or not at all. -/
theorem cut_put : ∀ e ∈ (put cas createdAt nonces plaintext options s).effects, ∀ j t, storeEffects.cut e j t = t := by
  intro e he
  rcases mem_put_effects he with rfl | rfl | ⟨artifact, replicas, ix, -, rfl⟩
  · exact fun _ _ => rfl
  · exact fun _ _ => rfl
  · exact fun _ _ => rfl

/-- A put that publishes, seen after some of its effects. -/
theorem Counted.crash_put (h : Counted cas limits s) (hl : cas.limits = some limits)
    (hpub : publishes cas plaintext options s = true) {done : Nat}
    (hdone : done ≤ (removals cas plaintext s).length ∨
      (removals cas plaintext s).length + 1 < done ∧ Verifiable cas createdAt nonces plaintext options) :
    Counted cas limits (storeEffects.applyAll ((put cas createdAt nonces plaintext options s).effects.take done) s) := by
  obtain ⟨hclass, hrep, hcap⟩ := publishes_ok hpub
  have hcases := @publishing_put cas s createdAt nonces plaintext options hpub
  generalize put cas createdAt nonces plaintext options s = op at hcases ⊢
  rcases hdone with hbefore | ⟨hafter, hver⟩
  · obtain ⟨rest, hrest⟩ := hcases.effects
    have htake : List.take done op.effects = List.take done (removals cas plaintext s) :=
      (congrArg (List.take done) hrest).trans (List.take_append_of_le_length hbefore)
    exact (congrArg (fun l : List Effect => Counted cas limits (storeEffects.applyAll l s)) htake).mpr
      (((Counted.keep_removals hrep).take done).applyAll h)
  · have hclean : Counted cas limits (storeEffects.applyAll (removals cas plaintext s) s) :=
      (Counted.keep_removals hrep).applyAll h
    have hindex := @index_removals cas s plaintext
    have hbad : ∀ k, verifyObject cas (sha256Digest cas plaintext)
        (storeEffects.applyAll (removals cas plaintext s) s) ≠ .ok k := by
      intro k hk
      have hsome := isSome_of_verifyObject hk
      rw [lookup_removals] at hsome
      cases hsome
    cases hcases with
    | invalid hno => exact absurd hver hno
    | conflict _ row hrow _ =>
      -- a row is there for objects that verify only
      rw [← hindex] at hrow
      obtain ⟨k, hk⟩ := hclean.rows _ row hrow
      exact absurd hk (hbad k)
    | indexed _ _ ix hix =>
      -- all effects are done
      rw [← hindex] at hcap hix
      have hfinal := hclean.publish hl hver hclass hbad hcap hix
      have hlen : (removals cas plaintext s ++ [staged cas createdAt nonces plaintext options, .commit ix]).length ≤ done := by
        rw [List.length_append]
        exact hafter
      refine (congrArg (fun l : List Effect => Counted cas limits (storeEffects.applyAll l s)) (List.take_of_length_le hlen)).mpr ?_
      rw [applyAll_removals]
      exact hfinal

theorem Counted.event (h : Counted cas limits s) (hl : cas.limits = some limits) {e : Event} (hk : Kept cas s e) :
    Counted cas limits (e.apply cas s) := by
  have hop : ∀ op : Op, storeEffects.Keep (Counted cas limits) (op.effects cas s) s →
      Counted cas limits (storeEffects.applyAll (op.effects cas s) s) ∧
        ∀ done cut, Counted cas limits (storeEffects.crash (op.effects cas s) done cut s) :=
    fun op hkeep => ⟨hkeep.applyAll h, hkeep.crash h⟩
  have hput : ∀ createdAt nonces plaintext options, publishes cas plaintext options s = false →
      storeEffects.Keep (Counted cas limits) (Op.effects cas s (.put createdAt nonces plaintext options)) s :=
    fun _ _ _ _ hpub => Counted.keep_put hpub
  cases e with
  | call op =>
    cases op with
    | begin now spec => exact (hop (.begin now spec) (Counted.keep_begin hl hk)).1
    | putChunk now nonce sid i d p => exact (hop (.putChunk now nonce sid i d p) Counted.keep_putChunk).1
    | commit now createdAt sid => exact (hop (.commit now createdAt sid) Counted.keep_commit).1
    | acceptAuthority now scope epoch nonce expiresAt =>
      exact (hop (.acceptAuthority now scope epoch nonce expiresAt) Counted.keep_acceptAuthority).1
    | restart => exact h
    | put createdAt nonces plaintext options =>
      cases hpub : publishes cas plaintext options s with
      | false => exact (hop _ (hput createdAt nonces plaintext options hpub)).1
      | true =>
        -- the call is seen after all of its effects
        have hlen := @length_removals_le cas s plaintext
        have hall := h.crash_put hl hpub (Or.inr ⟨(by omega : _ < (put cas createdAt nonces plaintext options s).effects.length + 3),
          hk hpub⟩)
        rwa [List.take_of_length_le (by omega)] at hall
  | crash op done cut =>
    cases op with
    | begin now spec => exact (hop (.begin now spec) (Counted.keep_begin hl hk)).2 done cut
    | putChunk now nonce sid i d p => exact (hop (.putChunk now nonce sid i d p) Counted.keep_putChunk).2 done cut
    | commit now createdAt sid => exact (hop (.commit now createdAt sid) Counted.keep_commit).2 done cut
    | acceptAuthority now scope epoch nonce expiresAt =>
      exact (hop (.acceptAuthority now scope epoch nonce expiresAt) Counted.keep_acceptAuthority).2 done cut
    | restart => exact (hop .restart trivial).2 done cut
    | put createdAt nonces plaintext options =>
      cases hpub : publishes cas plaintext options s with
      | false => exact (hop _ (hput createdAt nonces plaintext options hpub)).2 done cut
      | true =>
        have hpart := h.crash_put hl hpub (hk hpub)
        rwa [← Effects.crash_of_uncut storeEffects cut_put done cut s] at hpart
  | damage sid what =>
    obtain ⟨hindex, hobjects⟩ := damageTransfer_rest sid what s
    exact h.of_eq hindex hobjects

/-- In a run whose puts leave no object unindexed, and whose sessions for indexed digests declare no more than their
rows, the distinct digests of a class that have an object, an index row or an active session stay within its limit. -/
theorem quota_holds_unless_uncounted (cas : CasStore) (limits : StorageLimits) (hl : cas.limits = some limits)
    (events : List Event) (hkept : (faulty cas).Meets (Kept cas) events Store.empty) (c : StorageClass) :
    occupied c ((faulty cas).exec events Store.empty) ≤ limits.forClass c :=
  ((faulty cas).state_invariant (fun _ _ h hc => h.event hl hc) events (counted_empty cas limits) hkept).occupied_le c

end

/-! ## One byte too many -/

namespace Scenario

/-- The store with room for one byte in the cache. -/
def bounded : CasStore := { cas with limits := some ⟨1, 0, 0⟩ }

/-- A byte of the cache, under the nonce that ends in the byte before it. -/
def putByte (b : UInt8) (mediaType : String) : Op := .put 0 (fun _ => nonce (b - 1)) [b] ⟨mediaType, .cache, 1⟩

end Scenario

open Scenario

theorem quota_holds_unless_uncounted_byte :
    occupied .cache ((faulty bounded).exec [.call (putByte 1 "text/plain")] Store.empty) = 1 ∧
      occupied .cache ((faulty bounded).exec [.call (putByte 1 "text/plain")] Store.empty) ≤ 1 := by
  have hkept : (faulty bounded).Meets (Kept bounded) [.call (putByte 1 "text/plain")] Store.empty :=
    ⟨fun _ => ⟨by decide, by decide, by decide, by decide⟩, trivial⟩
  exact ⟨by decide +kernel, quota_holds_unless_uncounted bounded ⟨1, 0, 0⟩ rfl _ hkept .cache⟩

/-- The process dies after the rename; a put is refused after the rename, for its media type; a session declares five
bytes for an indexed digest of one. Each time a class with room for one byte holds more. -/
theorem quota_is_exceeded :
    1 < occupied .cache ((faulty bounded).exec
      [.crash (putByte 1 "text/plain") 1 none, .call (putByte 2 "text/plain")] Store.empty) ∧
    1 < occupied .cache ((faulty bounded).exec
      [.call (putByte 1 ""), .call (putByte 2 "text/plain")] Store.empty) ∧
    1 < occupied .cache ((faulty bounded).exec [.call (putByte 1 "text/plain"),
      .call (.begin 0 { spec 1 "n1" (millis 1000) with digest := sha256Digest cas [1], sizeBytes := 5 })] Store.empty) := by
  refine ⟨?_, ?_, ?_⟩
  · decide +kernel
  · decide +kernel
  · decide +kernel

end Rampage.Storage
