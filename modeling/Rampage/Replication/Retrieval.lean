/-
Retrieving artifacts. Whatever a worker sends, a retrieval that is answered answers with bytes that have the content
address asked for, under the class the controller already gives the artifact, and the controller's store gives them back
from then on; a retrieval that fails costs no artifact that verified (`retrieved_artifact_is_genuine`).
-/
import Rampage.Replication.Evidence
import Rampage.Storage.Durable

namespace Rampage.Replication

open Rampage.Protocol Rampage.Mesh
open Rampage.Storage (Durable ResumablePutSpec ResumablePutStatus verify sha256Digest storeEffects)
open Rampage.Agent (simple)
open Handler (Keeps)

variable {P α : Type} {x : Setting} {peer : Peer P} {s t : Replicator P}

/-! ## Every handler -/

section

variable {M : P → P → Prop} {R : Replicator P → Replicator P → Prop} [Std.Refl M] [IsTrans P M] [Std.Refl R]
  [IsTrans (Replicator P) R] (h : Ambient x M R) (hpeer : peer.Within M) (haccept : Accepting R)
include h hpeer haccept

theorem keeps_retrieveFrom (hevidence : ∀ s e, R s { s with replicaEvidence := e }) (offer : ResourceOfferV1)
    (endpoint : MeshEndpointRecordV1) (remote : ArtifactRefV1) (nodeId : Uuid) :
    Keeps R (retrieveFrom x peer offer endpoint remote nodeId) := by
  refine .bind (fun s => refl_of R s) fun found => .bind (keeps_orAnswer (.ofExcept _)) fun sink => ?_
  refine .bind (keeps_leaseToRead h _ _) fun lease => .bind (keeps_orAnswer (keeps_beginSink h _)) fun progress => ?_
  refine .bind (keeps_fetchChunks h hpeer _ _ _ _ _ _ _) fun _ => .bind (keeps_orAnswer (keeps_commitSink h _)) fun stored => ?_
  refine .bind (.ensure _ _) fun _ => .bind (keeps_orAnswer (keeps_probeReplica h hpeer haccept _ _)) fun receipt => ?_
  refine .bind (.modify fun s => hevidence s _) fun _ => .bind (keeps_orAnswer (keeps_readStore _)) fun _ => ?_
  exact .bind (keeps_orAnswer (keeps_append h _)) fun _ => .pure _

/-- A relation that holds across all that a handler is made of holds across every act of the controller. -/
theorem keeps_act (hevidence : ∀ s e, R s { s with replicaEvidence := e })
    (hrecord : ∀ s artifact nodeId r, R s (recordReplica artifact nodeId r s)) {act : Act P}
    (helsewhere : ∀ t, act = .elsewhere t → R s t) : R s (actStep x peer act s).2 := by
  cases act with
  | stage offer job =>
    refine Keeps.forEach (fun input => ?_) job.inputs s
    refine .bind (keeps_orAnswer (keeps_readStore _)) fun source => .bind (.ensure _ _) fun _ => ?_
    split
    · exact .pure _
    refine .bind .get fun s => .ite (.pure _) ?_
    refine .bind (keeps_orAnswer (keeps_endpoint h _)) fun _ => ?_
    refine .bind (keeps_orAnswer (keeps_replicateToOffer h hpeer haccept _ _ _ _)) fun outcome => ?_
    exact .bind (.modify fun s => hrecord s _ _ _) fun _ => keeps_orAnswer (keeps_append h _)
  | replicate request =>
    refine (Keeps.bind keeps_refuseWhileKilled fun _ => .bind (keeps_orAnswer (keeps_readStore _)) fun source =>
      .bind (.ensure _ _) fun _ => .bind (keeps_remoteOffer h _) fun target => ?_) s
    refine .bind (keeps_orAnswer (keeps_replicateToOffer h hpeer haccept _ _ _ _)) fun outcome => ?_
    refine .bind (.modify fun s => hrecord s _ _ _) fun _ => ?_
    exact .bind (keeps_orAnswer (keeps_append h _)) fun _ => .pure _
  | probe offer artifact =>
    have hprobe : Keeps R (probeAndRecord x peer offer artifact) :=
      .bind (keeps_probeReplica h hpeer haccept _ _) fun _ => .modify fun s => hevidence s _
    exact hprobe s
  | retrieve request =>
    refine (Keeps.bind keeps_refuseWhileKilled fun _ => .bind .get fun s => ?_) s
    split
    · exact .fail _
    · exact .bind (keeps_remoteOffer h _) fun _ => keeps_retrieveFrom h hpeer haccept hevidence _ _ _ _
  | elsewhere t => exact helsewhere t rfl

end

/-! ## What no handler costs -/

/-- What verifies in the controller's store still does. -/
def StoreKept (x : Setting) (s t : Replicator P) : Prop := Durable x.cas s.artifactStore t.artifactStore

instance : Std.Refl (StoreKept (P := P) x) := ⟨fun s => Durable.refl x.cas s.artifactStore⟩

instance : IsTrans (Replicator P) (StoreKept x) := ⟨fun _ _ _ => Durable.trans⟩

theorem storeKept_of_eq (h : t.artifactStore = s.artifactStore) : StoreKept x s t := by
  unfold StoreKept
  rw [h]
  exact Durable.refl x.cas s.artifactStore

theorem ambient_storeKept (x : Setting) : Ambient x Anything (StoreKept (P := P) x) where
  draw := fun _ _ _ _ => storeKept_of_eq rfl
  append := fun _ _ _ => storeKept_of_eq rfl
  nonce := fun _ _ => storeKept_of_eq rfl
  mesh := fun _ _ _ => storeKept_of_eq rfl
  store := fun _ _ h => h

theorem accepting_storeKept : Accepting (StoreKept (P := P) x) := fun _ _ => storeKept_of_eq rfl

theorem storeKept_fetchChunks (offer : ResourceOfferV1) (endpoint : MeshEndpointRecordV1) (remote : ArtifactRefV1)
    (sink : StorageClass × Nat) (sessionId : Uuid) (lease : StorageLeaseV1) (indexes : List Nat) :
    Keeps (StoreKept x) (fetchChunks x peer offer endpoint remote sink sessionId lease indexes) :=
  keeps_fetchChunks (ambient_storeKept x) (within_anything peer) _ _ _ _ _ _ _

theorem storeKept_probeReplica (offer : ResourceOfferV1) (artifact : ArtifactRefV1) :
    Keeps (StoreKept x) (probeReplica x peer offer artifact) :=
  keeps_probeReplica (ambient_storeKept x) (within_anything peer) accepting_storeKept _ _

/-- What happens besides costs nothing that verifies either. -/
def SparesStore (x : Setting) (s : Replicator P) : Act P → Prop
  | .elsewhere t => StoreKept x s t
  | _ => True

theorem storeKept_act {act : Act P} (h : SparesStore x s act) : StoreKept x s (actStep x peer act s).2 :=
  keeps_act (ambient_storeKept x) (within_anything peer) accepting_storeKept (fun _ _ => storeKept_of_eq rfl)
    (fun _ _ _ _ => storeKept_of_eq rfl) fun t heq => by
      subst heq
      exact h

theorem storeKept_run {acts : List (Act P)} (h : (replication x peer).Meets (SparesStore x) acts s) :
    StoreKept x s ((replication x peer).exec acts s) := by
  induction acts generalizing s with
  | nil => exact refl_of (StoreKept x) s
  | cons act acts ih => exact trans_of (StoreKept x) (storeKept_act h.1) (ih h.2)

/-! ## An answered retrieval -/

theorem sameStore_remoteOffer (nodeId : Uuid) :
    Keeps (fun s t : Replicator P => t.artifactStore = s.artifactStore) (remoteOffer x nodeId) := by
  have : Std.Refl fun s t : Replicator P => t.artifactStore = s.artifactStore := ⟨fun _ => rfl⟩
  have : IsTrans (Replicator P) fun s t => t.artifactStore = s.artifactStore := ⟨fun _ _ _ h h' => h'.trans h⟩
  refine .bind .get fun s => .bind (keeps_orAnswer fun s => rfl) fun now => ?_
  split
  · exact .fail _
  split
  · exact .fail _
  · refine .bind (keeps_orAnswer fun s => ?_) fun _ => .pure _
    unfold hosted
    split <;> rfl

theorem orAnswer_ok {status : Controller.StatusCode} {y : Transfer P α} {a : α} (h : orAnswer status y s = (.ok a, t)) :
    y s = (.ok a, t) := by
  unfold orAnswer at h
  rcases hy : y s with ⟨e | b, u⟩
  · rw [hy] at h
    cases h
  · rw [hy] at h
    cases h
    rfl

/-- A handler that answered left a related state. -/
theorem keeps_ok {ε : Type} {R : Replicator P → Replicator P → Prop} {y : Handler (Replicator P) ε α} (hy : Keeps R y) {a : α}
    (h : y s = (.ok a, t)) : R s t := by
  have hs := hy s
  rwa [h] at hs

theorem onStore_ok {operation : Storage.Store → Storage.Operation α} {a : α} (h : onStore operation s = (.ok a, t)) :
    (operation s.artifactStore).result = .ok a ∧
      t.artifactStore = storeEffects.applyAll (operation s.artifactStore).effects s.artifactStore := by
  unfold onStore at h
  rw [Prod.mk.injEq] at h
  obtain ⟨hresult, rfl⟩ := h
  cases hr : (operation s.artifactStore).result with
  | error e =>
    rw [hr] at hresult
    cases hresult
  | ok b =>
    rw [hr] at hresult
    cases hresult
    exact ⟨rfl, rfl⟩

/-- The session of the sink was begun with the contract of the retrieval. -/
theorem beginSink_ok {spec : ResumablePutSpec} {st : ResumablePutStatus} (h : beginSink x spec s = (.ok st, t)) :
    ∃ session, AList.lookup spec.sessionId t.artifactStore.index.sessions = some session ∧ session.digest = spec.digest ∧
      Storage.sessionArtifact session = ⟨spec.sizeBytes, spec.mediaType, spec.storageClass, spec.requiredReplicas⟩ := by
  obtain ⟨now, s₁, -, h⟩ := Handler.bind_ok h
  obtain ⟨hresult, hstore⟩ := onStore_ok h
  rw [hstore]
  exact Storage.begin_contract hresult

/-- The artifact of a commit verifies under the reference that was answered. -/
theorem commitSink_ok {sessionId : String} {session : Storage.DurablePutSession} {stored : ArtifactRefV1}
    (hs : AList.lookup sessionId s.artifactStore.index.sessions = some session)
    (h : commitSink x sessionId s = (.ok stored, t)) :
    verify x.cas session.digest t.artifactStore = .ok stored ∧ stored.digest = session.digest ∧
      stored.sizeBytes = session.sizeBytes ∧ stored.mediaType = session.mediaType ∧
      stored.storageClass = session.storageClass ∧ stored.encrypted = true := by
  obtain ⟨now, s₁, hnow, h⟩ := Handler.bind_ok h
  obtain ⟨createdAt, s₂, hcreated, h⟩ := Handler.bind_ok h
  obtain ⟨hresult, hstore⟩ := onStore_ok h
  have hsame : s₂.artifactStore = s.artifactStore := by
    cases hnow
    cases hcreated
    rfl
  rw [hsame] at hresult hstore
  rw [hstore]
  exact Storage.commit_answer hs hresult

/-- The class the controller's store gives a retrieved artifact: the one it has there, or the replica's. -/
def sinkClass (x : Setting) (remote : ArtifactRefV1) (s : Replicator P) : StorageClass :=
  ((Storage.head x.cas remote.digest s.artifactStore).toOption.map (·.storageClass)).getD remote.storageClass

theorem retrievalSinkContract_ok {remote : ArtifactRefV1} {found : Option ArtifactRefV1} {sink : StorageClass × Nat}
    (h : retrievalSinkContract remote found = .ok sink) :
    sink.1 = (found.map (·.storageClass)).getD remote.storageClass := by
  unfold retrievalSinkContract at h
  split at h
  · split at h
    · cases h
    · cases h
      rfl
  · cases h
    rfl

theorem readStore_ok {f : Storage.Store → Except Storage.StorageError α} {a : α} (h : readStore f s = (.ok a, t)) :
    f s.artifactStore = .ok a ∧ t = s := by
  unfold readStore at h
  rw [Prod.mk.injEq] at h
  obtain ⟨hresult, rfl⟩ := h
  cases hf : f s.artifactStore with
  | error e =>
    rw [hf] at hresult
    cases hresult
  | ok b =>
    rw [hf] at hresult
    cases hresult
    exact ⟨rfl, rfl⟩

/-- What an answered retrieval answers with, and what it leaves. -/
theorem retrieveFrom_ok {offer : ResourceOfferV1} {endpoint : MeshEndpointRecordV1} {remote : ArtifactRefV1} {nodeId : Uuid}
    {payload : ArtifactPayload} (h : retrieveFrom x peer offer endpoint remote nodeId s = (.ok payload, t)) :
    payload.artifact = { remote with
      schema := payload.artifact.schema, storageClass := sinkClass x remote s, encrypted := true } ∧
      verify x.cas remote.digest t.artifactStore = .ok payload.artifact ∧
      ∃ bytes, Storage.get x.cas remote.digest t.artifactStore = .ok bytes ∧ payload.dataBase64 = Base64.encode bytes := by
  obtain ⟨found, s₁, hfound, h⟩ := Handler.bind_ok h
  cases hfound
  obtain ⟨sink, s₂, hsink, h⟩ := Handler.bind_ok h
  obtain ⟨hcontracted, rfl⟩ := Handler.ofExcept_ok (orAnswer_ok hsink)
  obtain ⟨lease, s₃, hlease, h⟩ := Handler.bind_ok h
  obtain ⟨progress, s₄, hprogress, h⟩ := Handler.bind_ok h
  obtain ⟨session, hs, hdigest, hcontract⟩ := beginSink_ok (orAnswer_ok hprogress)
  obtain ⟨_, s₅, hfetched, h⟩ := Handler.bind_ok h
  -- the session keeps its contract while the chunks come in
  have hfetch : StoreKept x s₄ s₅ := keeps_ok (storeKept_fetchChunks _ _ _ _ _ _ _) hfetched
  obtain ⟨session', hs', hsame⟩ := hfetch.index.session _ _ hs
  obtain ⟨stored, s₆, hstored, h⟩ := Handler.bind_ok h
  obtain ⟨hverify, hd, hsize, hmedia, hclass, hencrypted⟩ := commitSink_ok hs' (orAnswer_ok hstored)
  have hremote : session'.digest = remote.digest := hsame.digest.trans hdigest
  have hartifact := hsame.artifact.trans hcontract
  simp only [Storage.sessionArtifact, Storage.ArtifactRow.mk.injEq] at hartifact
  obtain ⟨hsize', hmedia', hclass', -⟩ := hartifact
  rw [hremote] at hverify hd
  obtain ⟨_, s₇, hensured, h⟩ := Handler.bind_ok h
  obtain ⟨-, rfl⟩ := Handler.ensure_ok hensured
  obtain ⟨receipt, s₈, hreceipt, h⟩ := Handler.bind_ok h
  have hprobe : StoreKept x s₆ s₈ := keeps_ok (storeKept_probeReplica _ _) (orAnswer_ok hreceipt)
  obtain ⟨_, s₉, hrecord, h⟩ := Handler.bind_ok h
  cases hrecord
  obtain ⟨bytes, s₁₀, hbytes, h⟩ := Handler.bind_ok h
  obtain ⟨hget, rfl⟩ := readStore_ok (orAnswer_ok hbytes)
  obtain ⟨_, s₁₁, happend, h⟩ := Handler.bind_ok h
  have happended := keeps_ok (keeps_append (ambient_storeKept x) _) (orAnswer_ok happend)
  have hlast : StoreKept x s₈ s₁₁ := happended
  obtain ⟨rfl, rfl⟩ := Handler.pure_ok h
  have hgot : Storage.get x.cas stored.digest s₈.artifactStore = .ok bytes := hget
  rw [hd] at hgot
  obtain ⟨c, row, hc, -, -⟩ := Storage.verify_ok (hprobe.verify hverify)
  refine ⟨?_, hlast.verify (hprobe.verify hverify), bytes, (hlast.get hc).trans hgot, rfl⟩
  have hsunk := retrievalSinkContract_ok hcontracted
  obtain ⟨schema, digest, size, media, cls, encrypted⟩ := stored
  simp only [ArtifactRefV1.mk.injEq, true_and]
  exact ⟨hd, hsize.trans hsize', hmedia.trans hmedia', (hclass.trans hclass').trans hsunk, hencrypted⟩

/-- **Retrieved artifacts are genuine, and are kept.** In every state and whatever the workers answer: the payload of an
answered retrieval decodes to bytes of the size and with the content address of the replica on record; its reference is the
replica's, under the class the controller's own store gives the artifact, and unchanged if the artifact verified before;
and after every further run, whatever fails in it, the store verifies it and gives the same bytes back. -/
theorem retrieved_artifact_is_genuine (x : Setting) (peer : Peer P) (s t : Replicator P) (request : ArtifactRetrieveRequest)
    (payload : ArtifactPayload) (h : retrieveArtifact x peer request s = (.ok payload, t)) (acts : List (Act P))
    (hacts : (replication x peer).Meets (SparesStore x) acts t) :
    ∃ remote bytes, s.artifactReplicas.lookup (request.digest, request.nodeId) = some remote ∧
      Base64.decode payload.dataBase64 = some bytes ∧ sha256Digest x.cas bytes = remote.digest ∧
      bytes.length = remote.sizeBytes ∧
      payload.artifact = { remote with
        schema := payload.artifact.schema, storageClass := sinkClass x remote s, encrypted := true } ∧
      (∀ a, verify x.cas remote.digest s.artifactStore = .ok a → payload.artifact = a) ∧
      let u := (replication x peer).exec acts t
      verify x.cas remote.digest u.artifactStore = .ok payload.artifact ∧
        Storage.get x.cas remote.digest u.artifactStore = .ok bytes := by
  have hall : StoreKept x s t := by
    have hact : StoreKept x s (actStep x peer (.retrieve request) s).2 := storeKept_act trivial
    have hstep : (actStep x peer (.retrieve request) s).2 = t := congrArg Prod.snd h
    rwa [hstep] at hact
  obtain ⟨_, s₁, hlatch, hfrom⟩ := Handler.bind_ok h
  have hsame₁ : s₁ = s := by
    obtain ⟨_, s', hget, hensure⟩ := Handler.bind_ok hlatch
    cases hget
    exact (Handler.ensure_ok hensure).2.symm
  rw [hsame₁, Handler.get_bind] at hfrom
  rcases hremote : AList.lookup (request.digest, request.nodeId) s.artifactReplicas with _ | remote
  · simp only [hremote] at hfrom
    cases hfrom
  simp only [hremote] at hfrom
  obtain ⟨target, s₂, htarget, hrest⟩ := Handler.bind_ok hfrom
  have hsame₂ : s₂.artifactStore = s.artifactStore := keeps_ok (sameStore_remoteOffer _) htarget
  obtain ⟨hartifact, hverify, bytes, hget, hdata⟩ := retrieveFrom_ok hrest
  have hsink : sinkClass x remote s₂ = sinkClass x remote s := by rw [sinkClass, sinkClass, hsame₂]
  rw [hsink] at hartifact
  obtain ⟨bytes', hget', hdigest, hlength⟩ := Storage.get_of_verify hverify
  rw [hget] at hget'
  cases hget'
  have hrun : StoreKept x t ((replication x peer).exec acts t) := storeKept_run hacts
  obtain ⟨c, -, hc, -, -⟩ := Storage.verify_ok hverify
  refine ⟨remote, bytes, rfl, ?_, hdigest, ?_, hartifact, ?_, hrun.verify hverify, (hrun.get hc).trans hget⟩
  · rw [hdata, Base64.decode_encode]
  · rw [hlength, hartifact]
  · intro a ha
    have hbefore := hall.verify ha
    rw [hverify] at hbefore
    exact Except.ok.inj hbefore

/-- The byte is retrieved from the node that holds it, under its recorded contract. -/
theorem retrieved_artifact_is_genuine_one_byte :
    let retrieved := retrieveArtifact Scenario.setting Scenario.serving ⟨Scenario.digest, 77⟩ (Scenario.start ())
    retrieved.1 = .ok ⟨Scenario.artifact, 77, artifactTransferSessionId Scenario.cas 77 Scenario.digest .get, 0,
      ['A', 'Q', '=', '=']⟩ ∧
    ∃ bytes, Base64.decode ['A', 'Q', '=', '='] = some bytes ∧ sha256Digest Scenario.cas bytes = Scenario.digest ∧
      Storage.get Scenario.cas Scenario.digest ((replication Scenario.setting Scenario.serving).exec
        [.probe Scenario.offer Scenario.artifact] retrieved.2).artifactStore = .ok bytes := by
  intro retrieved
  have hpayload : retrieved.1 = .ok ⟨Scenario.artifact, 77, artifactTransferSessionId Scenario.cas 77 Scenario.digest .get, 0,
      ['A', 'Q', '=', '=']⟩ := by decide +kernel
  generalize hretrieved : retrieved = r at *
  obtain ⟨payload, t⟩ := r
  obtain ⟨remote, bytes, -, hdecode, hdigest, -, hartifact, -, -, hget⟩ := retrieved_artifact_is_genuine Scenario.setting
    Scenario.serving (Scenario.start ()) t ⟨Scenario.digest, 77⟩ _ (hretrieved.trans (Prod.ext hpayload rfl))
    [.probe Scenario.offer Scenario.artifact] ⟨trivial, trivial⟩
  have hremote : Scenario.digest = remote.digest := congrArg ArtifactRefV1.digest hartifact
  rw [← hremote] at hdigest hget
  exact ⟨hpayload, bytes, hdecode, hdigest, hget⟩

end Rampage.Replication
