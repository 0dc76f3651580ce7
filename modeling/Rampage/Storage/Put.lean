/-
What `put` does in each case, and what it leaves when it fails. The options are checked only in part before the object is
published; the manifest is validated and the index asked after the rename. So a put that fails leaves the store as it was
exactly if it does not go on to publish, or what it stages verifies and no other row is indexed under its content address
(`failed_put_leaves_the_store_iff`).
-/
import Rampage.Storage.Interrupted
import Rampage.Storage.Staged

namespace Rampage.Storage

open Rampage.Protocol

/-- No usable object is in place: there is none, or one that is taken away. -/
def replaces (cas : CasStore) (digest : String) (s : Store) : Bool :=
  match AList.lookup digest s.objects with
  | none => true
  | some _ =>
    match verifyObject cas digest s with
    | .ok _ => false
    | .error e => isRepairableObjectError e

/-- The put goes on to publish its object. -/
def publishes (cas : CasStore) (plaintext : Bytes) (options : PutOptions) (s : Store) : Bool :=
  !(decide (options.storageClass = .«protected» ∧ options.requiredReplicas < 2)) &&
    replaces cas (sha256Digest cas plaintext) s &&
    (ensureStorageCapacity cas.limits options.storageClass plaintext.length (sha256Digest cas plaintext) s.index).isOk

/-- The effects of a put before it publishes: an object that does not verify is quarantined. -/
def removals (cas : CasStore) (plaintext : Bytes) (s : Store) : List Effect :=
  if (AList.lookup (sha256Digest cas plaintext) s.objects).isSome then [.quarantine (sha256Digest cas plaintext)] else []

/-- The row of `artifacts` for a put. -/
def optionsRow (plaintext : Bytes) (options : PutOptions) : ArtifactRow :=
  ⟨plaintext.length, options.mediaType, options.storageClass, options.requiredReplicas⟩

/-- The class may not be asked for with so few replicas. -/
abbrev needsReplication (options : PutOptions) : Prop := options.storageClass = .«protected» ∧ options.requiredReplicas < 2

variable {cas : CasStore} {s t : Store} {createdAt : Int} {nonces : Nat → Nonce} {plaintext : Bytes} {options : PutOptions}

/-! ## What is in place -/

theorem not_verifies_of_replaces {d : String} (h : replaces cas d s = true) : ∀ k, verifyObject cas d s ≠ .ok k := by
  intro k hk
  obtain ⟨dir, hdir⟩ := Option.isSome_iff_exists.1 (isSome_of_verifyObject hk)
  unfold replaces at h
  rw [hdir, hk] at h
  cases h

theorem replaces_of_none {d : String} (h : AList.lookup d s.objects = none) : replaces cas d s = true := by
  unfold replaces
  rw [h]

theorem replaces_of_repairable {d : String} {e : StorageError} (h : verifyObject cas d s = .error e)
    (he : isRepairableObjectError e = true) : replaces cas d s = true := by
  unfold replaces
  split
  · rfl
  · rw [h]
    exact he

/-- A put that goes on to publish passes the class guard and the quota, with no usable object in place. -/
theorem publishes_ok (h : publishes cas plaintext options s = true) : ¬ needsReplication options ∧
    replaces cas (sha256Digest cas plaintext) s = true ∧
    ensureStorageCapacity cas.limits options.storageClass plaintext.length (sha256Digest cas plaintext) s.index = .ok () := by
  simp only [publishes, Bool.and_eq_true, Bool.not_eq_true', decide_eq_false_iff_not] at h
  obtain ⟨⟨hclass, hrep⟩, hcapacity⟩ := h
  refine ⟨hclass, hrep, ?_⟩
  cases hc : ensureStorageCapacity cas.limits options.storageClass plaintext.length (sha256Digest cas plaintext) s.index with
  | ok u => rfl
  | error e =>
    rw [hc] at hcapacity
    cases hcapacity

theorem put_of_publishes (h : publishes cas plaintext options s = true) :
    put cas createdAt nonces plaintext options s =
      (publishArtifact cas createdAt nonces plaintext options
        (storeEffects.applyAll (removals cas plaintext s) s)).after (removals cas plaintext s) := by
  obtain ⟨hclass, hrep, -⟩ := publishes_ok h
  unfold put removals
  rw [if_neg hclass]
  unfold replaces at hrep
  cases hdir : AList.lookup (sha256Digest cas plaintext) s.objects with
  | none => rfl
  | some dir =>
    rw [hdir] at hrep
    dsimp only at hrep
    cases hv : verifyObject cas (sha256Digest cas plaintext) s with
    | ok k =>
      rw [hv] at hrep
      cases hrep
    | error e =>
      rw [hv] at hrep
      simp only [Option.isSome_some, if_true]
      dsimp only at hrep
      rw [if_pos hrep]
      rfl

theorem lookup_removals : AList.lookup (sha256Digest cas plaintext)
    (storeEffects.applyAll (removals cas plaintext s) s).objects = none := by
  unfold removals
  split
  · exact AList.lookup_erase _ _
  · rename_i hnone
    exact Option.not_isSome_iff_eq_none.1 hnone

theorem index_removals : (storeEffects.applyAll (removals cas plaintext s) s).index = s.index := by
  unfold removals
  split <;> rfl

/-- What follows the removals starts where they end. -/
theorem applyAll_removals (l : List Effect) : storeEffects.applyAll (removals cas plaintext s ++ l) s =
    storeEffects.applyAll l (storeEffects.applyAll (removals cas plaintext s) s) :=
  Effects.applyAll_append storeEffects _ _ s

theorem length_removals_le : (removals cas plaintext s).length ≤ 1 := by
  unfold removals
  split
  · exact le_refl 1
  · exact Nat.zero_le 1

/-! ## Publishing -/

/-- What is staged for an invalid request does not verify in its place. -/
theorem verifyObject_of_not_verifiable (h : ¬ Verifiable cas createdAt nonces plaintext options) (s : Store) :
    verifyObject cas (sha256Digest cas plaintext)
        (Effect.apply (.publish (sha256Digest cas plaintext) (stage cas createdAt nonces plaintext options)) s) =
      .error .invalidManifest := by
  have hdir : dirOf (Effect.apply (.publish (sha256Digest cas plaintext) (stage cas createdAt nonces plaintext options)) s).objects
      (sha256Digest cas plaintext) = stage cas createdAt nonces plaintext options := by
    simp [dirOf, Effect.apply]
  have hread : readManifest cas (sha256Digest cas plaintext)
      (Effect.apply (.publish (sha256Digest cas plaintext) (stage cas createdAt nonces plaintext options)) s) =
        .error .invalidManifest := by
    unfold readManifest objectDir
    rw [if_pos (isSha256Digest_sha256Digest _), hdir, stage_manifest]
    dsimp only
    -- the manifest is over its bound, or its header shows what is invalid
    by_cases hsize : cas.manifestSize (stagedManifest cas createdAt nonces plaintext options) ≤ maxManifestBytes
    · have hheader : (stagedManifest cas createdAt nonces plaintext options).headerIsValid (sha256Digest cas plaintext) = false := by
        rw [← Bool.not_eq_true]
        intro hvalid
        simp only [Manifest.headerIsValid, stagedManifest, Bool.and_eq_true] at hvalid
        obtain ⟨⟨⟨⟨⟨⟨-, -⟩, hlength⟩, hmedia⟩, hreplicas⟩, -⟩, -⟩ := hvalid
        exact h ⟨of_decide_eq_true hlength, hmedia, by simpa using hreplicas, hsize⟩
      have hdocument : readDocument cas (.json (stagedManifest cas createdAt nonces plaintext options)) =
          .ok (stagedManifest cas createdAt nonces plaintext options) := if_neg (Nat.not_lt.2 hsize)
      rw [hdocument]
      dsimp only
      unfold validateManifest
      rw [if_pos hheader]
      rfl
    · have hdocument : readDocument cas (.json (stagedManifest cas createdAt nonces plaintext options)) =
          .error .invalidManifest := if_pos (Nat.not_le.1 hsize)
      rw [hdocument]
  unfold verifyObject
  rw [hread]

/-- A put's object is renamed into its place. -/
abbrev staged (cas : CasStore) (createdAt : Int) (nonces : Nat → Nonce) (plaintext : Bytes) (options : PutOptions) : Effect :=
  .publish (sha256Digest cas plaintext) (stage cas createdAt nonces plaintext options)

/-- The contract of a put. -/
def optionsContract (cas : CasStore) (plaintext : Bytes) (options : PutOptions) : ArtifactContract :=
  ⟨⟨"rampage.artifact-ref.v1", sha256Digest cas plaintext, plaintext.length, options.mediaType, options.storageClass, true⟩,
    options.requiredReplicas⟩

/-- A contract passes the check against the put's exactly if it agrees with it. -/
theorem ensureArtifactContract_options (options' : PutOptions) :
    ensureArtifactContract (optionsContract cas plaintext options) plaintext.length options'.mediaType options'.storageClass
      options'.requiredReplicas = if options' = options then .ok () else .error .artifactConflict := by
  unfold ensureArtifactContract optionsContract
  dsimp only
  obtain ⟨mediaType, storageClass, requiredReplicas⟩ := options
  obtain ⟨mediaType', storageClass', requiredReplicas'⟩ := options'
  by_cases h : mediaType = mediaType' ∧ storageClass = storageClass' ∧ requiredReplicas = requiredReplicas'
  · obtain ⟨rfl, rfl, rfl⟩ := h
    simp
  · rw [if_pos, if_neg]
    · rw [PutOptions.mk.injEq]
      rintro ⟨rfl, rfl, rfl⟩
      exact h ⟨rfl, rfl, rfl⟩
    · dsimp only
      tauto

/-- For the put's own contract the index alone decides. -/
theorem indexObject_of_error {u : Store} {e : StorageError} (h : indexArtifactInTransaction
      (optionsContract cas plaintext options).artifact options.requiredReplicas u.index = .error e) :
    indexObject plaintext options (optionsContract cas plaintext options) u = .fail e := by
  have hcontract := @ensureArtifactContract_options cas plaintext options options
  rw [if_pos rfl] at hcontract
  unfold indexObject
  simp only [hcontract, h]

theorem indexObject_of_ok {u : Store} {ix : Index} (h : indexArtifactInTransaction
      (optionsContract cas plaintext options).artifact options.requiredReplicas u.index = .ok ix) :
    indexObject plaintext options (optionsContract cas plaintext options) u =
      ⟨[Effect.commit ix], .ok (optionsContract cas plaintext options).artifact⟩ := by
  have hcontract := @ensureArtifactContract_options cas plaintext options options
  rw [if_pos rfl] at hcontract
  unfold indexObject
  simp only [hcontract, h]

/-- From the rename on, after some effects: what is staged does not verify, or the index has another row, or it is indexed. -/
inductive Publishing (cas : CasStore) (s : Store) (createdAt : Int) (nonces : Nat → Nonce) (plaintext : Bytes)
    (options : PutOptions) (before : List Effect) : Operation ArtifactRefV1 → Prop
  | invalid (h : ¬ Verifiable cas createdAt nonces plaintext options) :
    Publishing cas s createdAt nonces plaintext options before
      ⟨before ++ [staged cas createdAt nonces plaintext options], .error .invalidManifest⟩
  | conflict (h : Verifiable cas createdAt nonces plaintext options) (row : ArtifactRow)
    (hrow : AList.lookup (sha256Digest cas plaintext) s.index.artifacts = some row) (hne : row ≠ optionsRow plaintext options) :
    Publishing cas s createdAt nonces plaintext options before
      ⟨before ++ [staged cas createdAt nonces plaintext options], .error .artifactConflict⟩
  | indexed (h : Verifiable cas createdAt nonces plaintext options)
    (hrow : ∀ row, AList.lookup (sha256Digest cas plaintext) s.index.artifacts = some row → row = optionsRow plaintext options)
    (ix : Index) (hix : indexArtifactInTransaction (optionsContract cas plaintext options).artifact options.requiredReplicas
      s.index = .ok ix) :
    Publishing cas s createdAt nonces plaintext options before
      ⟨before ++ [staged cas createdAt nonces plaintext options, .commit ix],
        .ok (optionsContract cas plaintext options).artifact⟩

/-- The object is published first. -/
theorem Publishing.effects {before : List Effect} {op : Operation ArtifactRefV1}
    (h : Publishing cas s createdAt nonces plaintext options before op) :
    ∃ rest : List Effect, op.effects = before ++ staged cas createdAt nonces plaintext options :: rest := by
  cases h with
  | invalid => exact ⟨[], rfl⟩
  | conflict => exact ⟨[], rfl⟩
  | indexed _ _ ix _ => exact ⟨[.commit ix], rfl⟩

theorem publishing_publishArtifact (hclass : ¬ needsReplication options)
    (hcap : ensureStorageCapacity cas.limits options.storageClass plaintext.length (sha256Digest cas plaintext) s.index = .ok ()) :
    Publishing cas s createdAt nonces plaintext options [] (publishArtifact cas createdAt nonces plaintext options s) := by
  by_cases hver : Verifiable cas createdAt nonces plaintext options
  · have hverify := hver.verifyObject hclass s
    have hpublish : publishArtifact cas createdAt nonces plaintext options s =
        (indexObject plaintext options (optionsContract cas plaintext options)
          (Effect.apply (staged cas createdAt nonces plaintext options) s)).after
            [staged cas createdAt nonces plaintext options] := by
      unfold publishArtifact
      rw [hcap]
      dsimp only
      split
      · rename_i e he
        cases he.symm.trans hverify
      · rename_i k hk
        obtain rfl := Except.ok.inj (hk.symm.trans hverify)
        rfl
    rw [hpublish]
    -- what is staged is of the put's contract, so the index alone decides
    rcases indexArtifact_cases (optionsContract cas plaintext options).artifact options.requiredReplicas s.index
      with ⟨row, hrow, hne, heq⟩ | ⟨hrow, ix, heq⟩
    · rw [indexObject_of_error (u := Effect.apply (staged cas createdAt nonces plaintext options) s) heq]
      exact .conflict hver row hrow hne
    · rw [indexObject_of_ok (u := Effect.apply (staged cas createdAt nonces plaintext options) s) heq]
      exact .indexed hver hrow ix heq
  · have hpublish : publishArtifact cas createdAt nonces plaintext options s =
        ⟨[staged cas createdAt nonces plaintext options], .error .invalidManifest⟩ := by
      unfold publishArtifact
      rw [hcap]
      dsimp only
      split
      · rename_i e he
        obtain rfl := Except.error.inj (he.symm.trans (verifyObject_of_not_verifiable hver s))
        rfl
      · rename_i k hk
        cases hk.symm.trans (verifyObject_of_not_verifiable hver s)
    rw [hpublish]
    exact .invalid hver

/-! ## Putting -/

theorem publishing_put (h : publishes cas plaintext options s = true) :
    Publishing cas s createdAt nonces plaintext options (removals cas plaintext s)
      (put cas createdAt nonces plaintext options s) := by
  obtain ⟨hclass, -, hcap⟩ := publishes_ok h
  have hindex := @index_removals cas s plaintext
  rw [put_of_publishes h]
  have hcases := @publishing_publishArtifact cas (storeEffects.applyAll (removals cas plaintext s) s) createdAt nonces plaintext
    options hclass (by rw [hindex]; exact hcap)
  generalize publishArtifact cas createdAt nonces plaintext options (storeEffects.applyAll (removals cas plaintext s) s) = op
    at hcases ⊢
  cases hcases with
  | invalid hver => exact .invalid hver
  | conflict hver row hrow hne =>
    rw [hindex] at hrow
    exact .conflict hver row hrow hne
  | indexed hver hrow ix hix =>
    rw [hindex] at hrow hix
    exact .indexed hver hrow ix hix

/-- Short of publishing, a put is refused before any effect, or for the quota after a corrupt object was taken away, or it
settles on the object in place. -/
theorem put_of_not_publishes (h : publishes cas plaintext options s = false) :
    (∃ e, put cas createdAt nonces plaintext options s = .fail e) ∨
      (replaces cas (sha256Digest cas plaintext) s = true ∧
        ∃ e, put cas createdAt nonces plaintext options s = ⟨removals cas plaintext s, .error e⟩) ∨
      ∃ c ix, verifyObject cas (sha256Digest cas plaintext) s = .ok c ∧
        ensureArtifactContract c plaintext.length options.mediaType options.storageClass options.requiredReplicas = .ok () ∧
        indexArtifactInTransaction c.artifact options.requiredReplicas s.index = .ok ix ∧
        put cas createdAt nonces plaintext options s = ⟨[.commit ix], .ok c.artifact⟩ := by
  -- with no usable object in place only the quota can stop the put
  have hrefused : ¬ needsReplication options → replaces cas (sha256Digest cas plaintext) s = true →
      ∃ e, ensureStorageCapacity cas.limits options.storageClass plaintext.length (sha256Digest cas plaintext) s.index =
        .error e := by
    intro hclass hrep
    unfold needsReplication at hclass
    cases hcap : ensureStorageCapacity cas.limits options.storageClass plaintext.length (sha256Digest cas plaintext) s.index with
    | error e => exact ⟨e, rfl⟩
    | ok u =>
      simp only [publishes, hclass, hrep, hcap] at h
      cases h
  unfold put
  split
  · exact Or.inl ⟨_, rfl⟩
  rename_i hclass
  split
  · rename_i hsome
    split
    · rename_i c hc
      unfold indexObject
      split
      · exact Or.inl ⟨_, rfl⟩
      rename_i hcontract
      split
      · exact Or.inl ⟨_, rfl⟩
      rename_i ix hix
      exact Or.inr (Or.inr ⟨c, ix, hc, hcontract, hix, rfl⟩)
    · rename_i e he
      split
      · rename_i hrepairable
        have hrep := replaces_of_repairable he hrepairable
        obtain ⟨e', he'⟩ := hrefused hclass hrep
        refine Or.inr (Or.inl ⟨hrep, e', ?_⟩)
        unfold publishArtifact removals
        rw [show (Effect.apply (.quarantine (sha256Digest cas plaintext)) s).index = s.index from rfl, he', if_pos hsome]
        rfl
      · exact Or.inl ⟨_, rfl⟩
  · rename_i hnone
    have hnone := Option.not_isSome_iff_eq_none.1 hnone
    have hrep := @replaces_of_none cas s _ hnone
    obtain ⟨e', he'⟩ := hrefused hclass hrep
    refine Or.inr (Or.inl ⟨hrep, e', ?_⟩)
    unfold publishArtifact removals
    rw [he', hnone]
    rfl

/-! ## Failing -/

/-- The store a failed put may leave: as it was, but for an object that did not verify and was taken away. -/
def LeftAsItWas (cas : CasStore) (digest : String) (s t : Store) : Prop :=
  t.index = s.index ∧ t.transfers = s.transfers ∧
    (t.objects = s.objects ∨
      (∃ e, verifyObject cas digest s = .error e) ∧ t.objects = AList.erase digest s.objects)

/-- Unless the disk fails, a put that fails publishes nothing and leaves the store as it was. -/
def FailsCleanly (cas : CasStore) (digest : String) (s : Store) (op : Operation ArtifactRefV1) : Prop :=
  ∀ e, op.result = .error e → (∀ kind, e ≠ .io kind) →
    (∀ d dir, Effect.publish d dir ∉ op.effects) ∧ LeftAsItWas cas digest s (storeEffects.applyAll op.effects s)

theorem leftAsItWas_refl (cas : CasStore) (digest : String) (s : Store) : LeftAsItWas cas digest s s :=
  ⟨rfl, rfl, Or.inl rfl⟩

theorem publish_not_mem_removals {d : String} {dir : Dir} : Effect.publish d dir ∉ removals cas plaintext s := by
  unfold removals
  split
  · rw [List.mem_singleton]
    intro h
    cases h
  · exact List.not_mem_nil

theorem leftAsItWas_removals (h : replaces cas (sha256Digest cas plaintext) s = true) :
    LeftAsItWas cas (sha256Digest cas plaintext) s (storeEffects.applyAll (removals cas plaintext s) s) := by
  unfold removals
  split
  · refine ⟨rfl, rfl, Or.inr ⟨?_, rfl⟩⟩
    cases hv : verifyObject cas (sha256Digest cas plaintext) s with
    | ok k => exact absurd hv (not_verifies_of_replaces h k)
    | error e => exact ⟨e, rfl⟩
  · exact leftAsItWas_refl _ _ _

/-- A put that does not go on to publish fails cleanly. -/
theorem failsCleanly_of_not_publishes (h : publishes cas plaintext options s = false) :
    FailsCleanly cas (sha256Digest cas plaintext) s (put cas createdAt nonces plaintext options s) := by
  intro e he _
  rcases @put_of_not_publishes cas s createdAt nonces plaintext options h with
    ⟨e', heq⟩ | ⟨hrep, e', heq⟩ | ⟨c, ix, -, -, -, heq⟩
  · rw [heq]
    exact ⟨fun _ _ => List.not_mem_nil, leftAsItWas_refl _ _ _⟩
  · rw [heq]
    exact ⟨fun _ _ => publish_not_mem_removals, leftAsItWas_removals hrep⟩
  · rw [heq] at he
    cases he

/-- From the rename on, a put fails cleanly only by not failing. -/
theorem failsCleanly_of_publishes (h : publishes cas plaintext options s = true) :
    FailsCleanly cas (sha256Digest cas plaintext) s (put cas createdAt nonces plaintext options s) ↔
      Verifiable cas createdAt nonces plaintext options ∧
        ∀ row, AList.lookup (sha256Digest cas plaintext) s.index.artifacts = some row → row = optionsRow plaintext options := by
  -- a failure after the rename has published
  have hno : ∀ (e : StorageError), (∀ kind, e ≠ .io kind) → ¬ FailsCleanly cas (sha256Digest cas plaintext) s
      ⟨removals cas plaintext s ++ [staged cas createdAt nonces plaintext options], .error e⟩ := by
    intro e he hclean
    refine (hclean e rfl he).1 (sha256Digest cas plaintext) (stage cas createdAt nonces plaintext options) ?_
    exact List.mem_append_right _ (List.mem_singleton_self _)
  have hcases := @publishing_put cas s createdAt nonces plaintext options h
  generalize put cas createdAt nonces plaintext options s = op at hcases ⊢
  cases hcases with
  | invalid hbad =>
    constructor
    · intro hclean
      exact absurd hclean (hno .invalidManifest fun _ hio => by cases hio)
    · intro hgood
      exact absurd hgood.1 hbad
  | conflict hver row hrow hne =>
    constructor
    · intro hclean
      exact absurd hclean (hno .artifactConflict fun _ hio => by cases hio)
    · intro hgood
      exact absurd (hgood.2 row hrow) hne
  | indexed hver hrow ix hix =>
    constructor
    · intro _
      exact ⟨hver, hrow⟩
    · intro _ e he
      cases he

/-- A put that fails leaves the store as it was exactly if it is refused before it publishes, or cannot fail from there on:
what it stages verifies, and the index has no other row for it. -/
theorem failed_put_leaves_the_store_iff (cas : CasStore) (s : Store) (createdAt : Int) (nonces : Nat → Nonce)
    (plaintext : Bytes) (options : PutOptions) :
    FailsCleanly cas (sha256Digest cas plaintext) s (put cas createdAt nonces plaintext options s) ↔
      (publishes cas plaintext options s = true → Verifiable cas createdAt nonces plaintext options ∧
        ∀ row, AList.lookup (sha256Digest cas plaintext) s.index.artifacts = some row → row = optionsRow plaintext options) := by
  cases h : publishes cas plaintext options s with
  | true =>
    rw [failsCleanly_of_publishes h]
    exact ⟨fun hgood _ => hgood, fun hgood => hgood rfl⟩
  | false =>
    refine iff_of_true (failsCleanly_of_not_publishes h) ?_
    intro hpublishes
    cases hpublishes

/-- A put without a media type is refused as invalid, with its object published. -/
theorem refused_put_is_published :
    let op := put Scenario.cas 0 (fun _ => Scenario.nonce 0) [1] ⟨"", .cache, 1⟩ Store.empty
    let digest := sha256Digest Scenario.cas [1]
    op.result = .error .invalidManifest ∧ (AList.lookup digest Store.empty.objects).isSome = false ∧
      (AList.lookup digest (storeEffects.applyAll op.effects Store.empty).objects).isSome = true := by
  decide +kernel

end Rampage.Storage
