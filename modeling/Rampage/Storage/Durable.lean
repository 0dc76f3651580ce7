/-
What a store can give back it gives back for good. An operation takes an object away, or puts one in place, only where
none verifies, and it never rewrites the row of an indexed artifact; both hold of every single effect, so crashes inside
an operation and lost transfer files change nothing about artifacts that verify (`verified_artifact_is_durable`).
-/
import Rampage.Storage.Interrupted
import Rampage.Storage.Quota

namespace Rampage.Storage

open Rampage.Protocol

variable {cas : CasStore} {s t u s₀ : Store}

/-! ## Keeping what verifies -/

/-- An index that keeps the rows of the artifacts, and the contracts of the sessions, of another. -/
structure IndexKept (ix ix' : Index) : Prop where
  row : ∀ d row, AList.lookup d ix.artifacts = some row → AList.lookup d ix'.artifacts = some row
  session : ∀ sid session, AList.lookup sid ix.sessions = some session →
    ∃ session', AList.lookup sid ix'.sessions = some session' ∧ SameContract session' session

theorem indexKept_of_eq {ix ix' : Index} (hartifacts : ix'.artifacts = ix.artifacts) (hsessions : ix'.sessions = ix.sessions) :
    IndexKept ix ix' := by
  refine ⟨fun d row hr => by rwa [hartifacts], fun sid session hs => ⟨session, ?_, rfl, rfl, rfl⟩⟩
  rwa [hsessions]

theorem IndexKept.trans {ix ix' ix'' : Index} (h : IndexKept ix ix') (h' : IndexKept ix' ix'') : IndexKept ix ix'' := by
  refine ⟨fun d row hr => h'.row d row (h.row d row hr), fun sid session hs => ?_⟩
  obtain ⟨session', hs', hsame⟩ := h.session sid session hs
  obtain ⟨session'', hs'', hsame'⟩ := h'.session sid session' hs'
  exact ⟨session'', hs'', hsame'.digest.trans hsame.digest, hsame'.chunkCount.trans hsame.chunkCount,
    hsame'.artifact.trans hsame.artifact⟩

/-- Objects that verify stay where they are, and the index keeps what it says about artifacts and sessions. -/
structure Durable (cas : CasStore) (s t : Store) : Prop where
  object : ∀ d c, verifyObject cas d s = .ok c → AList.lookup d t.objects = AList.lookup d s.objects
  index : IndexKept s.index t.index

theorem Durable.refl (cas : CasStore) (s : Store) : Durable cas s s := ⟨fun _ _ _ => rfl, indexKept_of_eq rfl rfl⟩

theorem Durable.verified (h : Durable cas s t) {d : String} {c : ArtifactContract} (hc : verifyObject cas d s = .ok c) :
    verifyObject cas d t = .ok c :=
  (verifyObject_of_lookup (h.object d c hc)).trans hc

theorem Durable.trans (h : Durable cas s t) (h' : Durable cas t u) : Durable cas s u :=
  ⟨fun d c hc => (h'.object d c (h.verified hc)).trans (h.object d c hc), h.index.trans h'.index⟩

/-- A change of transfer files. -/
theorem durable_of_eq (hobjects : t.objects = s.objects) (hindex : t.index = s.index) : Durable cas s t :=
  ⟨fun _ _ _ => by rw [hobjects], indexKept_of_eq (by rw [hindex]) (by rw [hindex])⟩

/-- What a store says about an artifact depends on its directory and its row. -/
theorem readManifest_of_lookup {d : String} (h : AList.lookup d t.objects = AList.lookup d s.objects) :
    readManifest cas d t = readManifest cas d s := by
  have hdir : dirOf t.objects d = dirOf s.objects d := by rw [dirOf, dirOf, h]
  unfold readManifest
  rw [hdir]

/-- An artifact that verifies is given back as before. -/
theorem Durable.get (h : Durable cas s t) {d : String} {c : ArtifactContract} (hc : verifyObject cas d s = .ok c) :
    get cas d t = get cas d s := by
  have hlookup := h.object d c hc
  have hdir : dirOf t.objects d = dirOf s.objects d := by rw [dirOf, dirOf, hlookup]
  unfold Storage.get
  rw [readManifest_of_lookup hlookup, hdir]

/-- And so are its chunks. -/
theorem Durable.getChunk (h : Durable cas s t) {d : String} {c : ArtifactContract} (hc : verifyObject cas d s = .ok c) (i : Nat) :
    getChunk cas d i t = getChunk cas d i s := by
  have hlookup := h.object d c hc
  have hdir : dirOf t.objects d = dirOf s.objects d := by rw [dirOf, dirOf, hlookup]
  unfold Storage.getChunk
  rw [readManifest_of_lookup hlookup, hdir]

theorem verify_ok {d : String} {a : ArtifactRefV1} (h : verify cas d s = .ok a) :
    ∃ c row, verifyObject cas d s = .ok c ∧ AList.lookup d s.index.artifacts = some row ∧ a = c.artifact := by
  unfold verify at h
  split at h
  · cases h
  rename_i c hc
  cases hhead : head cas d s with
  | error e =>
    rw [hhead] at h
    cases h
  | ok a' =>
    rw [hhead] at h
    unfold head at hhead
    split at hhead
    · cases hhead
    split at hhead
    · cases hhead
    · rename_i row hrow
      exact ⟨c, row, hc, hrow, (Except.ok.inj h).symm⟩

theorem Durable.verify (h : Durable cas s t) {d : String} {a : ArtifactRefV1} (ha : verify cas d s = .ok a) :
    verify cas d t = .ok a := by
  obtain ⟨c, row, hc, hrow, -⟩ := verify_ok ha
  have hhead : head cas d t = head cas d s := by
    unfold head
    rw [readManifest_of_lookup (h.object d c hc), h.index.row d row hrow, hrow]
  unfold Storage.verify at ha ⊢
  rw [h.verified hc, hhead]
  rw [hc] at ha
  exact ha

/-- An artifact that verifies is given back with the bytes its digest stands for. -/
theorem get_of_verify {d : String} {a : ArtifactRefV1} (h : verify cas d s = .ok a) :
    ∃ bytes, get cas d s = .ok bytes ∧ sha256Digest cas bytes = d ∧ bytes.length = a.sizeBytes := by
  obtain ⟨c, row, hc, -, rfl⟩ := verify_ok h
  obtain ⟨m, ps, -, hholds, -⟩ := verifyObject_ok hc
  exact ⟨ps.flatten, get_of_verifyObject hc hholds⟩

/-! ## One effect -/

/-- An effect that keeps what verifies: an index that keeps its rows, and no object touched that verifies. -/
def Effect.Spares (cas : CasStore) (s : Store) : Effect → Prop
  | .commit ix => IndexKept s.index ix
  | .promote _ d => ∀ c, verifyObject cas d s ≠ .ok c
  | .publish d _ => ∀ c, verifyObject cas d s ≠ .ok c
  | .quarantine d => ∀ c, verifyObject cas d s ≠ .ok c
  | _ => True

theorem durable_effect {e : Effect} (h : e.Spares cas s) : Durable cas s (e.apply s) := by
  cases e with
  | commit ix => exact ⟨fun _ _ _ => rfl, h⟩
  | createTransferDir sid => exact durable_of_eq rfl rfl
  | removeChunk sid i => exact durable_of_eq rfl rfl
  | renameChunk sid i c => exact durable_of_eq rfl rfl
  | writeManifest sid m => exact durable_of_eq rfl rfl
  | promote sid d =>
    refine ⟨fun d' c hc => AList.lookup_insert_ne ?_, indexKept_of_eq rfl rfl⟩
    rintro rfl
    exact h c hc
  | publish d dir =>
    refine ⟨fun d' c hc => AList.lookup_insert_ne ?_, indexKept_of_eq rfl rfl⟩
    rintro rfl
    exact h c hc
  | quarantine d =>
    refine ⟨fun d' c hc => AList.lookup_erase_ne ?_, indexKept_of_eq rfl rfl⟩
    rintro rfl
    exact h c hc

theorem durable_cut (e : Effect) (j : Nat) (s : Store) : Durable cas s (e.cut j s) := by
  cases e with
  | writeManifest sid m => exact durable_of_eq rfl rfl
  | _ => exact Durable.refl cas s

/-- Effects that spare what verifies, each in the state in which it happens. -/
def Spares (cas : CasStore) : List Effect → Store → Prop
  | [], _ => True
  | e :: l, s => e.Spares cas s ∧ Spares cas l (e.apply s)

theorem spares_append {l l' : List Effect} {s : Store} (h : Spares cas l s)
    (h' : Spares cas l' (storeEffects.applyAll l s)) : Spares cas (l ++ l') s := by
  induction l generalizing s with
  | nil => exact h'
  | cons e l ih => exact ⟨h.1, ih h.2 h'⟩

theorem Spares.keep {l : List Effect} {s : Store} (h : Spares cas l s) (s₀ : Store) :
    storeEffects.Keep (Durable cas s₀) l s := by
  induction l generalizing s with
  | nil => trivial
  | cons e l ih => exact ⟨fun hs => ⟨hs.trans (durable_effect h.1), fun j => hs.trans (durable_cut e j s)⟩, ih h.2⟩

/-! ## Every operation -/

theorem indexKept_indexArtifact {artifact : ArtifactRefV1} {replicas : Nat} {ix ix' : Index}
    (h : indexArtifactInTransaction artifact replicas ix = .ok ix') : IndexKept ix ix' := by
  refine ⟨fun d row hr => indexArtifact_kept h hr, fun sid session hs => ⟨session, ?_, rfl, rfl, rfl⟩⟩
  rwa [(indexArtifact_index h).1]

/-- A session row that is inserted again keeps its contract. -/
theorem indexKept_insert {ix ix' : Index} (h : IndexKept ix ix') {sid : String} {session : DurablePutSession}
    (hsame : ∀ existing, AList.lookup sid ix.sessions = some existing → SameContract session existing) :
    IndexKept ix { ix' with sessions := AList.insert sid session ix'.sessions } := by
  refine ⟨h.row, fun sid' existing hs => ?_⟩
  by_cases heq : sid' = sid
  · subst heq
    exact ⟨session, AList.lookup_insert _, hsame existing hs⟩
  · obtain ⟨session', hs', hsame'⟩ := h.session sid' existing hs
    exact ⟨session', (AList.lookup_insert_ne heq).trans hs', hsame'⟩

theorem spares_begin (now : Int) (spec : ResumablePutSpec) (s : Store) :
    Spares cas (beginResumablePut cas now spec s).effects s := by
  generalize heffects : (beginResumablePut cas now spec s).effects = l
  have hbegin : BeginEffects cas now spec s l := heffects ▸ begin_effects
  cases hbegin with
  | none => trivial
  | unchanged => exact ⟨trivial, trivial⟩
  | accepted _ haccept hrow =>
    obtain ⟨hsessions, -, hartifacts⟩ := accept_index haccept
    refine ⟨indexKept_insert (indexKept_of_eq hartifacts hsessions) fun existing hexisting => ?_, trivial, trivial⟩
    rcases hrow with ⟨hnone, -⟩ | ⟨existing', hexisting', -, -, rfl⟩
    · rw [hnone] at hexisting
      cases hexisting
    · rw [hexisting'] at hexisting
      cases hexisting
      exact ⟨rfl, rfl, rfl⟩

theorem spares_storeChunk (nonce : Nonce) (sid : String) (i : Nat) (p : Bytes) (size : Nat) (s : Store) :
    Spares cas (storeChunk cas nonce sid i p size s) s := by
  unfold storeChunk
  split
  · exact ⟨trivial, trivial, trivial, indexKept_of_eq rfl rfl, trivial⟩
  · exact ⟨trivial, trivial, indexKept_of_eq rfl rfl, trivial⟩

theorem spares_putChunk (now : Int) (nonce : Nonce) (sid : String) (i : Nat) (d : String) (p : Bytes) (s : Store) :
    Spares cas (putResumableChunk cas now nonce sid i d p s).effects s := by
  unfold putResumableChunk
  split
  · trivial
  · trivial
  · trivial
  · exact spares_storeChunk _ _ _ _ _ _

section

variable {now createdAt : Int} {sid : String} {session : DurablePutSession}

theorem spares_settle (hs : AList.lookup sid s.index.sessions = some session) (c : ArtifactContract) :
    Spares cas (settle sid session c s).effects s := by
  rcases @settle_cases sid session s c with ⟨e, heq⟩ | ⟨ix, -, hix, heq⟩
  · rw [heq]
    trivial
  · rw [heq]
    refine ⟨indexKept_insert (indexKept_indexArtifact hix) fun existing hexisting => ?_, trivial⟩
    rw [hs] at hexisting
    cases hexisting
    exact sameContract_complete session

theorem spares_promoteTransfer (hs : AList.lookup sid s.index.sessions = some session)
    (hnone : ∀ c, verifyObject cas session.digest s ≠ .ok c) :
    Spares cas (promoteTransfer cas now createdAt sid session s).effects s := by
  rcases @promoteTransfer_cases cas now createdAt sid session s with ⟨e, heq⟩ | ⟨m, written, -, hw, hdone⟩
  · rw [heq]
    trivial
  have hpromotion : Spares cas (promotion sid session.digest written) s := by
    rcases writeManifest_effects hw with rfl | rfl
    · exact ⟨hnone, trivial⟩
    · refine ⟨trivial, fun c => ?_, trivial⟩
      show verifyObject cas session.digest (Effect.apply (.writeManifest sid m) s) ≠ _
      rw [verifyObject_congr rfl]
      exact hnone c
  rcases hdone with ⟨e, -, heq⟩ | ⟨c, -, heq⟩
  · rw [heq]
    exact hpromotion
  · rw [heq]
    refine spares_append hpromotion (spares_settle ?_ c)
    rw [index_promotion hw]
    exact hs

/-- Without an object there is nothing to verify. -/
theorem not_verified_of_none {d : String} (h : AList.lookup d s.objects = none) (c : ArtifactContract) :
    verifyObject cas d s ≠ .ok c := by
  intro hc
  have hsome := isSome_of_verifyObject hc
  rw [h] at hsome
  cases hsome

theorem not_verified_of_error {d : String} {e : StorageError} (h : verifyObject cas d s = .error e) (c : ArtifactContract) :
    verifyObject cas d s ≠ .ok c := by
  rw [h]
  exact fun hc => by cases hc

theorem spares_commit (now createdAt : Int) (sid : String) (s : Store) :
    Spares cas (commitResumablePut cas now createdAt sid s).effects s := by
  rcases @commit_cases cas now createdAt sid s with ⟨e, heq⟩ | ⟨session, hs, -, -, hcases⟩
  · rw [heq]
    trivial
  rcases hcases with ⟨c, -, heq⟩ | ⟨hnone, heq⟩ | ⟨e, he, -, heq⟩
  · rw [heq]
    exact spares_settle hs c
  · rw [heq]
    exact spares_promoteTransfer hs (not_verified_of_none hnone)
  · rw [heq]
    refine ⟨not_verified_of_error he, spares_promoteTransfer hs (not_verified_of_none ?_)⟩
    exact AList.lookup_erase _ _

end

section

variable {createdAt : Int} {nonces : Nat → Nonce} {plaintext : Bytes} {options : PutOptions}

theorem spares_indexObject (c : ArtifactContract) (s : Store) : Spares cas (indexObject plaintext options c s).effects s := by
  unfold indexObject
  split
  · trivial
  split
  · trivial
  · rename_i ix hix
    exact ⟨indexKept_indexArtifact hix, trivial⟩

theorem spares_publishArtifact (hnone : ∀ c, verifyObject cas (sha256Digest cas plaintext) s ≠ .ok c) :
    Spares cas (publishArtifact cas createdAt nonces plaintext options s).effects s := by
  unfold publishArtifact
  split
  · trivial
  dsimp only
  split
  · exact ⟨hnone, trivial⟩
  · exact spares_append (l := [_]) ⟨hnone, trivial⟩ (spares_indexObject _ _)

theorem spares_put (createdAt : Int) (nonces : Nat → Nonce) (plaintext : Bytes) (options : PutOptions) (s : Store) :
    Spares cas (put cas createdAt nonces plaintext options s).effects s := by
  unfold put
  split
  · trivial
  split
  · split
    · exact spares_indexObject _ _
    rename_i e he
    split
    · refine ⟨not_verified_of_error he, spares_publishArtifact (not_verified_of_none ?_)⟩
      exact AList.lookup_erase _ _
    · trivial
  · rename_i hnone
    refine spares_publishArtifact (not_verified_of_none ?_)
    simpa using hnone

end

/-- Every operation, whatever it is called with, spares what verifies. -/
theorem spares_op (op : Op) (s : Store) : Spares cas (op.effects cas s) s := by
  cases op with
  | begin now spec => exact spares_begin now spec s
  | putChunk now nonce sid i d p => exact spares_putChunk now nonce sid i d p s
  | commit now createdAt sid => exact spares_commit now createdAt sid s
  | acceptAuthority now scope epoch nonce expiresAt =>
    simp only [Op.effects, acceptAuthority]
    split
    · trivial
    split
    · trivial
    · rename_i ix hix
      obtain ⟨hsessions, -, hartifacts⟩ := accept_index hix
      exact ⟨indexKept_of_eq hartifacts hsessions, trivial⟩
  | put createdAt nonces plaintext options => exact spares_put createdAt nonces plaintext options s
  | restart => trivial

/-! ## Runs -/

theorem durable_damage (sid : String) (what : Damage) (s : Store) : Durable cas s (damageTransfer sid what s) := by
  obtain ⟨hindex, hobjects⟩ := damageTransfer_rest sid what s
  exact durable_of_eq hobjects hindex

theorem durable_event (e : Event) (s : Store) : Durable cas s (e.apply cas s) := by
  cases e with
  | call op => exact ((spares_op op s).keep s).applyAll (Durable.refl cas s)
  | crash op done cut => exact ((spares_op op s).keep s).crash (Durable.refl cas s) done cut
  | damage sid what => exact durable_damage sid what s

theorem durable_run (events : List Event) (s : Store) : Durable cas s ((faulty cas).exec events s) := by
  induction events generalizing s with
  | nil => exact Durable.refl cas s
  | cons e events ih => exact (durable_event e s).trans (ih _)

/-- **Verified artifacts are durable.** Whatever is called on a store from then on, wherever the process dies, and
whichever transfer files are lost or damaged: an artifact that verified once verifies under the same reference, and is given
back as the bytes its digest stands for, whole and, under the chunk layout the store gives for it, chunk by chunk. -/
theorem verified_artifact_is_durable (cas : CasStore) (s : Store) (d : String) (a : ArtifactRefV1)
    (h : verify cas d s = .ok a) (events : List Event) :
    let t := (faulty cas).exec events s
    verify cas d t = .ok a ∧ (∀ i, getChunk cas d i t = getChunk cas d i s) ∧
      ∃ bytes, get cas d t = .ok bytes ∧ get cas d s = .ok bytes ∧ sha256Digest cas bytes = d ∧
        bytes.length = a.sizeBytes ∧
        ∃ layout, chunkLayout cas d t = .ok layout ∧ layout.digest = d ∧ layout.sizeBytes = bytes.length ∧
          (∃ chunks, List.Forall₂ (fun i p => getChunk cas d i t = .ok p) (List.range layout.chunkCount) chunks ∧
            chunks.flatten = bytes) ∧
          ∀ i, layout.chunkCount ≤ i → getChunk cas d i t = .error .chunkOutOfRange := by
  intro t
  have hdurable : Durable cas s t := durable_run events s
  obtain ⟨c, row, hc, -, -⟩ := verify_ok h
  obtain ⟨bytes, hget, hdigest, hlength⟩ := get_of_verify h
  have hlater : get cas d t = .ok bytes := (hdurable.get hc).trans hget
  exact ⟨hdurable.verify h, fun i => hdurable.getChunk hc i, bytes, hlater, hget, hdigest, hlength,
    layout_of_verifyObject (hdurable.verified hc) hlater⟩

namespace Scenario

/-- The artifact of two bytes is transferred. -/
def transferred : List Event :=
  [.call (.begin 0 (spec 1 "n1" (millis 1000))), .call (.putChunk 0 (nonce 0) session 0 (sha256Digest Scenario.cas [1]) [1]),
    .call (.putChunk 0 (nonce 1) session 1 (sha256Digest Scenario.cas [2]) [2]), .call (.commit 0 0 session)]

/-- Another transfer of it dies in its first call, loses a chunk and its manifest, and dies in the commit. -/
def mishaps : List Event :=
  [.crash (.begin 0 (spec 2 "n2" (millis 2000))) 1 none, .damage session (.chunk 0 none), .damage session (.manifest none),
    .crash (.commit 0 0 session) 0 (some 3)]

end Scenario

/-- The artifact of two bytes is still there. -/
theorem verified_artifact_is_durable_two_bytes :
    let s := (faulty Scenario.cas).exec Scenario.transferred Store.empty
    ∃ bytes, get Scenario.cas Scenario.digest ((faulty Scenario.cas).exec Scenario.mishaps s) = .ok bytes ∧
      get Scenario.cas Scenario.digest s = .ok bytes ∧ sha256Digest Scenario.cas bytes = Scenario.digest ∧ bytes.length = 2 := by
  obtain ⟨-, -, bytes, hlater, hget, hdigest, hlength, -⟩ := verified_artifact_is_durable Scenario.cas
    ((faulty Scenario.cas).exec Scenario.transferred Store.empty) Scenario.digest
    ⟨"rampage.artifact-ref.v1", Scenario.digest, 2, "application/octet-stream", .cache, true⟩ (by decide +kernel)
    Scenario.mishaps
  exact ⟨bytes, hlater, hget, hdigest, hlength⟩

/-! ## Answered calls -/

theorem ensureSessionContract_ok {existing : DurablePutSession} {spec : ResumablePutSpec} {count : Nat}
    (h : ensureSessionContract existing spec count = .ok ()) : existing.digest = spec.digest ∧
      sessionArtifact existing = ⟨spec.sizeBytes, spec.mediaType, spec.storageClass, spec.requiredReplicas⟩ := by
  unfold ensureSessionContract at h
  split at h
  · cases h
  rename_i hsame
  push Not at hsame
  obtain ⟨-, hdigest, hsize, hmedia, hclass, hreplicas, -⟩ := hsame
  refine ⟨hdigest, ?_⟩
  rw [sessionArtifact, hsize, hmedia, hclass, hreplicas]

/-- A session that was begun has the contract it was asked for. -/
theorem begin_contract {now : Int} {spec : ResumablePutSpec} {st : ResumablePutStatus}
    (h : (beginResumablePut cas now spec s).result = .ok st) : ∃ session,
      AList.lookup spec.sessionId (storeEffects.applyAll (beginResumablePut cas now spec s).effects s).index.sessions =
        some session ∧
      session.digest = spec.digest ∧
      sessionArtifact session = ⟨spec.sizeBytes, spec.mediaType, spec.storageClass, spec.requiredReplicas⟩ := by
  unfold beginResumablePut at h ⊢
  split at h
  · cases h
  rename_i count harrive
  split at h
  · cases h
  all_goals rename_i hbegun
  all_goals rcases beginLocked_ok hbegun with
    ⟨existing, hexisting, hcontract, -, hb⟩ | ⟨existing, hexisting, hcontract, -, -, -, hb⟩ | ⟨session, taken, -, hb, hrow⟩
  all_goals cases hb
  · exact ⟨existing, hexisting, ensureSessionContract_ok hcontract⟩
  · exact ⟨existing, hexisting, ensureSessionContract_ok hcontract⟩
  · refine ⟨session, AList.lookup_insert _, ?_⟩
    rcases hrow with ⟨-, rfl⟩ | ⟨existing, -, hcontract, -, rfl⟩
    · exact ⟨rfl, rfl⟩
    · exact ensureSessionContract_ok hcontract

section

variable {now createdAt : Int} {sid : String} {session : DurablePutSession} {artifact : ArtifactRefV1}

/-- What an answered settlement leaves. -/
theorem settle_answer {c : ArtifactContract} (hc : verifyObject cas session.digest s = .ok c)
    (hr : (settle sid session c s).result = .ok artifact) :
    verify cas session.digest (storeEffects.applyAll (settle sid session c s).effects s) = .ok artifact ∧
      artifact.digest = session.digest ∧ artifact.sizeBytes = session.sizeBytes ∧ artifact.mediaType = session.mediaType ∧
      artifact.storageClass = session.storageClass ∧ artifact.encrypted = true := by
  rcases @settle_cases sid session s c with ⟨e, heq⟩ | ⟨ix, hcontract, hix, heq⟩
  · rw [heq] at hr
    cases hr
  rw [heq] at hr ⊢
  cases hr
  obtain ⟨m, ps, hread, -, -, -, rfl⟩ := verifyObject_ok hc
  have hrow := ensureArtifactContract_ok hcontract
  simp only [sessionArtifact, ArtifactRow.mk.injEq] at hrow
  refine ⟨?_, rfl, hrow.1, hrow.2.1, hrow.2.2.1, rfl⟩
  have hindexed : AList.lookup session.digest ix.artifacts =
      some ⟨m.plaintextSize, m.mediaType, m.storageClass, m.requiredReplicas⟩ :=
    ((indexArtifact_ok hix).2.2 session.digest).trans (if_pos rfl)
  have hhead : head cas session.digest (Effect.apply (.commit (completedIndex sid session ix)) s) =
      .ok (artifactContractFromManifest session.digest m).artifact := by
    have hread' : readManifest cas session.digest (Effect.apply (.commit (completedIndex sid session ix)) s) = .ok m := hread
    unfold head
    rw [hread']
    dsimp only
    rw [show AList.lookup session.digest (Effect.apply (.commit (completedIndex sid session ix)) s).index.artifacts = _ from hindexed]
    simp [ensureArtifactContract, artifactContractFromManifest, Except.map]
  have hverified : verifyObject cas session.digest (Effect.apply (.commit (completedIndex sid session ix)) s) =
      .ok (artifactContractFromManifest session.digest m) := (verifyObject_congr rfl _).trans hc
  show verify cas session.digest (Effect.apply (.commit (completedIndex sid session ix)) s) = _
  unfold verify
  rw [hverified, hhead]
  rfl

/-- What an answered commit leaves: the artifact of the session verifies, under the reference that was answered. -/
theorem commit_answer (hs : AList.lookup sid s.index.sessions = some session)
    (hr : (commitResumablePut cas now createdAt sid s).result = .ok artifact) :
    verify cas session.digest (storeEffects.applyAll (commitResumablePut cas now createdAt sid s).effects s) = .ok artifact ∧
      artifact.digest = session.digest ∧ artifact.sizeBytes = session.sizeBytes ∧ artifact.mediaType = session.mediaType ∧
      artifact.storageClass = session.storageClass ∧ artifact.encrypted = true := by
  have promoted : ∀ {t : Store}, (promoteTransfer cas now createdAt sid session t).result = .ok artifact →
      verify cas session.digest (storeEffects.applyAll (promoteTransfer cas now createdAt sid session t).effects t) = .ok artifact ∧
        artifact.digest = session.digest ∧ artifact.sizeBytes = session.sizeBytes ∧ artifact.mediaType = session.mediaType ∧
        artifact.storageClass = session.storageClass ∧ artifact.encrypted = true := by
    intro t hres
    rcases @promoteTransfer_cases cas now createdAt sid session t with ⟨e, heq⟩ | ⟨m, written, -, -, hdone⟩
    · rw [heq] at hres
      cases hres
    rcases hdone with ⟨e, -, heq⟩ | ⟨c, hc, heq⟩
    · rw [heq] at hres
      cases hres
    · rw [heq] at hres ⊢
      rw [applyAll_after]
      exact settle_answer hc hres
  rcases @commit_cases cas now createdAt sid s with ⟨e, heq⟩ | ⟨session', hs', -, -, hcases⟩
  · rw [heq] at hr
    cases hr
  rw [hs] at hs'
  cases hs'
  rcases hcases with ⟨c, hc, heq⟩ | ⟨-, heq⟩ | ⟨e, -, -, heq⟩
  · rw [heq] at hr ⊢
    exact settle_answer hc hr
  · rw [heq] at hr ⊢
    exact promoted hr
  · rw [heq] at hr ⊢
    exact promoted (t := Effect.apply (.quarantine session.digest) s) hr

end

end Rampage.Storage
