/-
Evidence of replicas. A receipt counts only if it answers the challenge of the exchange that brought it: every challenge is
drawn anew, so of the receipts that were ever accepted no two answer the same one, and a receipt from before the last draw
is never accepted again, whatever the workers answer (`evidence_answers_its_own_challenge`). The lease a receipt names is
on record before the worker is asked, and the key it has to pass under is the one its node is enrolled with at that time.
-/
import Rampage.Lib.Machine
import Rampage.Lib.Triple
import Rampage.Replication.Scenario
import Rampage.Replication.Steps

namespace Rampage.Replication

open Rampage.Protocol Rampage.Ledger Rampage.Mesh
open Rampage.Controller (World Host StatusCode)
open Handler (Keeps Triple)

variable {P α : Type} {x : Setting} {peer : Peer P} {s t u s₀ : Replicator P}

/-! ## Between two states -/

/-- No receipt was accepted from `s` to `t`. -/
structure Silent (s t : Replicator P) : Prop where
  texts : s.texts ≤ t.texts
  ledger : s.ledger <+: t.ledger
  nodes : t.nodes = s.nodes
  accepted : t.accepted = s.accepted
  evidence : t.replicaEvidence = s.replicaEvidence

/-- The receipts that were accepted from `s` to `t` answer challenges drawn in between, in this order; each names a lease
on record; and only these became evidence. -/
structure Gathers (x : Setting) (s t : Replicator P) : Prop where
  texts : s.texts ≤ t.texts
  ledger : s.ledger <+: t.ledger
  accepted : ∃ (rs : List ArtifactReplicaReceiptV1) (ks : List Nat), t.accepted = s.accepted ++ rs ∧ rs.map (·.challengeNonce) = ks.map x.world.text ∧
    ks.Pairwise (· < ·) ∧ ∀ k ∈ ks, s.texts ≤ k ∧ k < t.texts
  leased : ∀ r ∈ t.accepted, r ∈ s.accepted ∨ Event.storageLeaseIssued r.leaseId ∈ t.ledger
  evidence : ∀ key r, t.replicaEvidence.lookup key = some r → s.replicaEvidence.lookup key = some r ∨ r ∈ t.accepted

/-- The receipt passes under the key of the node it names, as the table of the enrolled nodes has it. -/
def SignedForNode (x : Setting) (s : Replicator P) (r : ArtifactReplicaReceiptV1) : Prop :=
  ∃ identity, s.nodes.lookup r.nodeId = some identity ∧ x.verifyReceipt identity.publicKey r = true

/-- And while a handler runs the nodes stay as they are, and each of these receipts is signed for its node. -/
structure Answers (x : Setting) (s t : Replicator P) : Prop extends Gathers x s t where
  nodes : t.nodes = s.nodes
  signed : ∀ r ∈ t.accepted, r ∈ s.accepted ∨ SignedForNode x s r

theorem Silent.refl (s : Replicator P) : Silent s s := ⟨le_rfl, List.prefix_rfl, rfl, rfl, rfl⟩

theorem Silent.trans (h : Silent s t) (h' : Silent t u) : Silent s u :=
  ⟨h.texts.trans h'.texts, h.ledger.trans h'.ledger, h'.nodes.trans h.nodes, h'.accepted.trans h.accepted,
    h'.evidence.trans h.evidence⟩

theorem Gathers.refl (s : Replicator P) : Gathers x s s :=
  ⟨le_rfl, List.prefix_rfl, ⟨[], [], (List.append_nil _).symm, rfl, List.Pairwise.nil, fun _ hk => nomatch hk⟩,
    fun _ => Or.inl, fun _ _ => Or.inl⟩

theorem Gathers.trans (h : Gathers x s t) (h' : Gathers x t u) : Gathers x s u := by
  obtain ⟨rs, ks, hrs, hnonces, hks, hrange⟩ := h.accepted
  obtain ⟨rs', ks', hrs', hnonces', hks', hrange'⟩ := h'.accepted
  have hsub : ∀ r ∈ t.accepted, r ∈ u.accepted := by
    intro r hr
    rw [hrs']
    exact List.mem_append_left _ hr
  refine ⟨h.texts.trans h'.texts, h.ledger.trans h'.ledger, ⟨rs ++ rs', ks ++ ks', ?_, ?_, ?_, ?_⟩, ?_, ?_⟩
  · rw [hrs', hrs, List.append_assoc]
  · rw [List.map_append, List.map_append, hnonces, hnonces']
  · rw [List.pairwise_append]
    refine ⟨hks, hks', fun k hk k' hk' => ?_⟩
    exact lt_of_lt_of_le (hrange k hk).2 (hrange' k' hk').1
  · intro k hk
    rcases List.mem_append.1 hk with hk | hk
    · exact ⟨(hrange k hk).1, (hrange k hk).2.trans_le h'.texts⟩
    · exact ⟨h.texts.trans (hrange' k hk).1, (hrange' k hk).2⟩
  · intro r hr
    rcases h'.leased r hr with hr | hr
    · exact (h.leased r hr).imp_right fun hlease => h'.ledger.subset hlease
    · exact Or.inr hr
  · intro key r hr
    rcases h'.evidence key r hr with hr | hr
    · exact (h.evidence key r hr).imp_right (hsub r)
    · exact Or.inr hr

theorem Answers.of_silent (h : Silent s t) : Answers x s t := by
  refine ⟨⟨h.texts, h.ledger, ⟨[], [], ?_, rfl, List.Pairwise.nil, fun k hk => by cases hk⟩, ?_, ?_⟩, h.nodes, ?_⟩
  · rw [h.accepted, List.append_nil]
  · intro r hr
    rw [h.accepted] at hr
    exact Or.inl hr
  · intro key r hr
    rw [h.evidence] at hr
    exact Or.inl hr
  · intro r hr
    rw [h.accepted] at hr
    exact Or.inl hr

theorem Answers.trans (h : Answers x s t) (h' : Answers x t u) : Answers x s u := by
  refine ⟨h.toGathers.trans h'.toGathers, h'.nodes.trans h.nodes, fun r hr => ?_⟩
  rcases h'.signed r hr with hr | ⟨identity, hidentity, hpass⟩
  · exact h.signed r hr
  · rw [h.nodes] at hidentity
    exact Or.inr ⟨identity, hidentity, hpass⟩

instance : Std.Refl (Silent (P := P)) := ⟨Silent.refl⟩

instance : IsTrans (Replicator P) Silent := ⟨fun _ _ _ => Silent.trans⟩

instance : Std.Refl (Answers (P := P) x) := ⟨fun s => .of_silent (Silent.refl s)⟩

instance : IsTrans (Replicator P) (Answers x) := ⟨fun _ _ _ => Answers.trans⟩

/-- A worker may do whatever it likes. -/
def Anything : P → P → Prop := fun _ _ => True

instance : Std.Refl (Anything (P := P)) := ⟨fun _ => trivial⟩

instance : IsTrans P Anything := ⟨fun _ _ _ _ _ => trivial⟩

theorem within_anything (peer : Peer P) : peer.Within Anything := fun _ _ _ _ => trivial

theorem ambient_silent (x : Setting) : Ambient x Anything (Silent (P := P)) where
  draw := fun s h happ htexts => ⟨htexts, by
    show s.ledger <+: h.ledger
    rw [happ], congrArg (·.nodes) happ, rfl, rfl⟩
  append := fun _ _ _ => ⟨le_rfl, List.prefix_append _ _, rfl, rfl, rfl⟩
  nonce := fun s _ => ⟨le_rfl, List.prefix_rfl, rfl, rfl, rfl⟩
  mesh := fun s _ _ => ⟨le_rfl, List.prefix_rfl, rfl, rfl, rfl⟩
  store := fun s _ _ => ⟨le_rfl, List.prefix_rfl, rfl, rfl, rfl⟩

/-- A step that accepts nothing, whatever it is about. -/
theorem silent_triple {ε : Type} {y : Handler (Replicator P) ε α} (h : Keeps Silent y) :
    Triple (Answers x s₀) y (fun _ => Answers x s₀) (Answers x s₀) :=
  h.triple_of fun _ _ hs hst => hs.trans (.of_silent hst)

/-- Whatever a handler does from any state on. -/
theorem answers_of_triple {ε : Type} {y : Handler (Replicator P) ε α}
    (h : ∀ s₀, Triple (Answers x s₀) y (fun _ => Answers x s₀) (Answers x s₀)) : Keeps (Answers x) y :=
  Triple.keeps fun s₀ => (h s₀).pre fun s hs => by
    rw [hs]
    exact .of_silent (Silent.refl s₀)

/-! ## One challenge -/

/-- A challenge of an exchange is open: it was drawn after everything that was accepted, and its lease is on record. -/
def Challenged (x : Setting) (s₀ : Replicator P) (leaseId : Uuid) (nonce : String) (s : Replicator P) : Prop :=
  ∃ u k, Answers x s₀ u ∧ Event.storageLeaseIssued leaseId ∈ u.ledger ∧ u.texts ≤ k ∧ x.world.text k = nonce ∧
    k < s.texts ∧ Silent u s

/-- The lease is on record. -/
def Leased (x : Setting) (s₀ : Replicator P) (leaseId : Uuid) (s : Replicator P) : Prop :=
  Answers x s₀ s ∧ Event.storageLeaseIssued leaseId ∈ s.ledger

theorem Challenged.answers {leaseId : Uuid} {nonce : String} (h : Challenged x s₀ leaseId nonce s) : Answers x s₀ s := by
  obtain ⟨u, k, hu, -, -, -, -, hsilent⟩ := h
  exact hu.trans (.of_silent hsilent)

theorem triple_recordLease (lease : StorageLeaseV1) : Triple (Answers x s₀) (recordLease x lease)
    (fun _ => Leased x s₀ lease.leaseId) (Answers x s₀) := by
  intro s hs
  have hkeep : Triple (Answers x s₀) (recordLease x lease) (fun _ => Answers x s₀) (Answers x s₀) :=
    silent_triple (keeps_append (ambient_silent x) _)
  refine ⟨fun a t h => ⟨(hkeep s hs).1 a t h, ?_⟩, (hkeep s hs).2⟩
  unfold recordLease hosted Controller.append at h
  rcases hfail : x.world.appendFailure s.appends with _ | text
  · simp only [hfail] at h
    cases h
    exact List.mem_append_right _ (List.mem_singleton.2 rfl)
  · simp only [hfail] at h
    cases h

/-- A step that accepts nothing leaves the lease on record. -/
theorem leased_triple {leaseId : Uuid} {y : Transfer P α} (h : Keeps Silent y) :
    Triple (Leased x s₀ leaseId) y (fun _ => Leased x s₀ leaseId) (Answers x s₀) :=
  (h.triple_of fun _ _ hs hst => ⟨hs.1.trans (.of_silent hst), hst.ledger.subset hs.2⟩ : Triple (Leased x s₀ leaseId) y
    (fun _ => Leased x s₀ leaseId) (Leased x s₀ leaseId)).weaken (fun _ => id) (fun _ _ => id) fun _ hs => hs.1

/-- And the challenge open. -/
theorem challenged_triple {leaseId : Uuid} {nonce : String} {y : Transfer P α} (h : Keeps Silent y) :
    Triple (Challenged x s₀ leaseId nonce) y (fun _ => Challenged x s₀ leaseId nonce) (Answers x s₀) := by
  refine (h.triple_of fun s t hs hst => ?_ : Triple (Challenged x s₀ leaseId nonce) y
    (fun _ => Challenged x s₀ leaseId nonce) (Challenged x s₀ leaseId nonce)).weaken (fun _ => id) (fun _ _ => id)
    fun _ hs => hs.answers
  obtain ⟨u, k, hu, hlease, hk, htext, hlt, hsilent⟩ := hs
  exact ⟨u, k, hu, hlease, hk, htext, hlt.trans_le hst.texts, hsilent.trans hst⟩

theorem triple_newChallenge {leaseId : Uuid} : Triple (Leased x s₀ leaseId) (hosted (Controller.newText x.world))
    (Challenged x s₀ leaseId) (Answers x s₀) := by
  intro s hs
  refine ⟨fun nonce t h => ?_, fun e t h => (by cases h)⟩
  cases h
  exact ⟨s, s.texts, hs.1, hs.2, le_rfl, rfl, Nat.lt_succ_self _, Nat.le_succ _, List.prefix_rfl, rfl, rfl, rfl⟩

/-- The receipt that answers the open challenge is accepted. -/
theorem Challenged.accept {leaseId : Uuid} {r : ArtifactReplicaReceiptV1} (h : Challenged x s₀ leaseId r.challengeNonce s)
    (hlease : r.leaseId = leaseId) (hsigned : SignedForNode x s r) : Answers x s₀ { s with accepted := s.accepted ++ [r] } := by
  obtain ⟨u, k, hu, hrecord, hk, htext, hlt, hsilent⟩ := h
  have hnew : ∀ r' ∈ s.accepted ++ [r], r' ∈ u.accepted ∨ r' = r := by
    intro r' hr'
    rw [hsilent.accepted] at hr'
    exact (List.mem_append.1 hr').imp_right List.mem_singleton.1
  refine hu.trans ⟨⟨hsilent.texts, hsilent.ledger, ⟨[r], [k], ?_, ?_, List.pairwise_singleton _ _, ?_⟩, ?_, ?_⟩, hsilent.nodes, ?_⟩
  · rw [hsilent.accepted]
  · rw [List.map_singleton, List.map_singleton, htext]
  · intro k' hk'
    rw [List.mem_singleton.1 hk']
    exact ⟨hk, hlt⟩
  · intro r' hr'
    refine (hnew r' hr').imp_right fun heq => ?_
    rw [heq, hlease]
    exact hsilent.ledger.subset hrecord
  · intro key r' hr'
    have hsame : s.replicaEvidence.lookup key = some r' := hr'
    rw [hsilent.evidence] at hsame
    exact Or.inl hsame
  · intro r' hr'
    refine (hnew r' hr').imp_right fun heq => ?_
    obtain ⟨identity, hidentity, hpass⟩ := hsigned
    rw [hsilent.nodes] at hidentity
    rw [heq]
    exact ⟨identity, hidentity, hpass⟩

theorem triple_verifyReplicaEvidence (offer : ResourceOfferV1) (lease : StorageLeaseV1) (sessionId : Uuid)
    (nonce : String) (receipt : ArtifactReplicaReceiptV1) :
    Triple (Challenged x s₀ lease.leaseId nonce) (verifyReplicaEvidence x offer lease sessionId nonce receipt)
      (fun _ s => Answers x s₀ s ∧ receipt ∈ s.accepted) (Answers x s₀) := by
  -- the key is looked up first, and the nodes stay as they are until the receipt is accepted
  refine .of_forall fun s hs => ?_
  let At := fun t : Replicator P => t.nodes = s.nodes ∧ Challenged x s₀ lease.leaseId nonce t
  refine .bind (Triple.get (G := fun s' t => s' = s ∧ At t) fun t ht => by
    subst ht
    exact ⟨rfl, rfl, hs⟩) fun s' => .of_fact fun hsame => ?_
  subst hsame
  split
  · exact .fail fun _ ht => ht.2.answers
  rename_i identity hidentity
  have hclock : Triple At (hosted (Controller.utcNow x.world)) (fun _ => At) (Answers x s₀) := by
    have hkeep : Triple (Challenged x s₀ lease.leaseId nonce) (hosted (Controller.utcNow x.world))
        (fun _ => Challenged x s₀ lease.leaseId nonce) (Answers x s₀) :=
      challenged_triple (keeps_utcNow (ambient_silent x))
    intro t ht
    refine ⟨fun now u hu => ⟨?_, (hkeep t ht.2).1 now u hu⟩, (hkeep t ht.2).2⟩
    have hsilent := keeps_utcNow (ambient_silent x) t
    rw [hu] at hsilent
    exact hsilent.nodes.trans ht.1
  have hverified : Triple At (verifyArtifactReplicaReceipt x identity receipt)
      (fun _ t => x.verifyReceipt identity.publicKey receipt = true ∧ At t) (Answers x s₀) := by
    refine .bind hclock fun now => ?_
    refine .bind (Triple.ensure (G := fun _ => At) (fun t ht _ => ht) fun _ ht _ => ht.2.answers) fun _ => ?_
    exact Triple.ensure (fun t ht hc => ⟨hc, ht⟩) fun _ ht _ => ht.2.answers
  refine hverified.bind fun _ => .of_fact fun hpass => ?_
  refine .bind (Triple.ensure (G := fun _ t => IsBound offer lease sessionId nonce receipt ∧ At t)
    (fun t ht hc => ⟨of_decide_eq_true hc, ht⟩) fun _ ht _ => ht.2.answers) fun _ => ?_
  refine .of_fact fun hbound => .modify fun t ht => ⟨?_, List.mem_append_right _ (List.mem_singleton.2 rfl)⟩
  have hopen := ht.2
  rw [← hbound.challenge] at hopen
  refine hopen.accept hbound.leaseId ⟨identity, ?_, hpass⟩
  rw [ht.1, hbound.node]
  exact hidentity

/-! ## Every handler -/

/-- The accepted receipt becomes evidence. -/
theorem Answers.insert {r : ArtifactReplicaReceiptV1} (h : Answers x s₀ s) (hr : r ∈ s.accepted) (key : String × Uuid) :
    Answers x s₀ { s with replicaEvidence := s.replicaEvidence.insert key r } := by
  refine ⟨⟨h.texts, h.ledger, h.accepted, h.leased, ?_⟩, h.nodes, h.signed⟩
  intro key' r' hr'
  have hlookup : AList.lookup key' (AList.insert key r s.replicaEvidence) = some r' := hr'
  rw [Table.lookup_insert'] at hlookup
  split at hlookup
  · cases hlookup
    exact Or.inr hr
  · exact h.evidence key' r' hlookup

theorem triple_insertEvidence {ε : Type} (r : ArtifactReplicaReceiptV1) (key : String × Uuid) :
    Triple (fun s => Answers x s₀ s ∧ r ∈ s.accepted)
      (Handler.modify fun s => { s with replicaEvidence := s.replicaEvidence.insert key r } : Handler (Replicator P) ε Unit)
      (fun _ => Answers x s₀) (Answers x s₀) :=
  .modify fun _ hs => hs.1.insert hs.2 key

theorem triple_recordReplica {ε : Type} (artifact : ArtifactRefV1) (nodeId : Uuid) (r : ArtifactReplicaReceiptV1) :
    Triple (fun s => Answers x s₀ s ∧ r ∈ s.accepted)
      (Handler.modify (recordReplica artifact nodeId r) : Handler (Replicator P) ε Unit)
      (fun _ => Answers x s₀) (Answers x s₀) := by
  refine .modify fun s hs => ?_
  have h := hs.1.insert hs.2 (artifact.digest, nodeId)
  exact ⟨⟨h.texts, h.ledger, h.accepted, h.leased, h.evidence⟩, h.nodes, h.signed⟩

theorem triple_replicateToOffer (offer : ResourceOfferV1) (endpoint : MeshEndpointRecordV1) (source : ArtifactRefV1)
    (storageClass : StorageClass) : Triple (Answers x s₀) (replicateToOffer x peer offer endpoint source storageClass)
      (fun o s => Answers x s₀ s ∧ o.receipt ∈ s.accepted) (Answers x s₀) := by
  refine .bind (silent_triple (keeps_authorizeStorage (ambient_silent x) _ _ _ _ _)) fun lease => ?_
  refine .bind (triple_recordLease lease) fun _ => ?_
  refine .bind (leased_triple (keeps_newText (ambient_silent x))) fun _ => ?_
  refine .bind (leased_triple (keeps_newUuid (ambient_silent x))) fun _ => ?_
  refine .bind (leased_triple (keeps_put (ambient_silent x) (within_anything peer) _ _)) fun progress => ?_
  refine .bind (leased_triple (.ensure _ _)) fun _ => ?_
  refine .bind (leased_triple (.forEach (fun _ => keeps_sendChunk (ambient_silent x) (within_anything peer) _ _ _ _ _) _)) fun _ => ?_
  refine .bind triple_newChallenge fun nonce => ?_
  refine .bind (challenged_triple (keeps_newUuid (ambient_silent x))) fun _ => ?_
  refine .bind (challenged_triple (keeps_commit (ambient_silent x) (within_anything peer) _ _)) fun committed => ?_
  refine .bind (challenged_triple (.ensure _ _)) fun _ => ?_
  exact .bind (triple_verifyReplicaEvidence _ _ _ _ _) fun _ => .pure fun _ hs => hs

theorem triple_probeReplica (offer : ResourceOfferV1) (artifact : ArtifactRefV1) :
    Triple (Answers x s₀) (probeReplica x peer offer artifact) (fun r s => Answers x s₀ s ∧ r ∈ s.accepted) (Answers x s₀) := by
  unfold probeReplica
  split
  · exact .fail fun _ hs => hs
  refine .bind (silent_triple (keeps_endpoint (ambient_silent x) _)) fun _ => ?_
  refine .bind (silent_triple (keeps_authorizeStorage (ambient_silent x) _ _ _ _ _)) fun lease => ?_
  refine .bind (triple_recordLease lease) fun _ => ?_
  refine .bind triple_newChallenge fun nonce => ?_
  refine .bind (challenged_triple (keeps_newUuid (ambient_silent x))) fun _ => ?_
  refine .bind (challenged_triple (keeps_head (ambient_silent x) (within_anything peer) _ _)) fun found => ?_
  refine .bind (challenged_triple (.ensure _ _)) fun _ => ?_
  exact .bind (triple_verifyReplicaEvidence _ _ _ _ _) fun _ => .pure fun _ hs => hs

theorem triple_orAnswer {y : Transfer P α} {I : Replicator P → Prop} {Q : α → Replicator P → Prop} {E : Replicator P → Prop}
    (h : Triple I y Q E) (status : StatusCode) : Triple I (orAnswer status y) Q E := by
  intro s hs
  unfold Replication.orAnswer
  rcases hy : y s with ⟨e | a, t⟩
  · refine ⟨fun b v hb => (by cases hb), fun e' v he => ?_⟩
    cases he
    exact (h s hs).2 e t hy
  · refine ⟨fun b v hb => ?_, fun e' v he => (by cases he)⟩
    cases hb
    exact (h s hs).1 a t hy

theorem answers_stageJobInputs (offer : ResourceOfferV1) (job : JobSpecV1) :
    Keeps (Answers x) (stageJobInputs x peer offer job) := by
  refine .forEach (fun input => answers_of_triple fun s₀ => ?_) _
  refine .bind (silent_triple (keeps_orAnswer (keeps_readStore _))) fun source => ?_
  refine .bind (silent_triple (.ensure _ _)) fun _ => ?_
  split
  · exact .pure fun _ hs => hs
  refine .bind (silent_triple .get) fun s => .ite (fun _ => .pure fun _ hs => hs) fun _ => ?_
  refine .bind (silent_triple (keeps_orAnswer (keeps_endpoint (ambient_silent x) _))) fun _ => ?_
  refine .bind (triple_orAnswer (triple_replicateToOffer _ _ _ _) _) fun outcome => ?_
  refine .bind (triple_recordReplica _ _ _) fun _ => ?_
  exact silent_triple (keeps_orAnswer (keeps_append (ambient_silent x) _))

theorem answers_replicateArtifact (request : ArtifactReplicateRequest) : Keeps (Answers x) (replicateArtifact x peer request) := by
  refine answers_of_triple fun s₀ => ?_
  refine .bind (silent_triple keeps_refuseWhileKilled) fun _ => ?_
  refine .bind (silent_triple (keeps_orAnswer (keeps_readStore _))) fun source => ?_
  refine .bind (silent_triple (.ensure _ _)) fun _ => ?_
  refine .bind (silent_triple (keeps_remoteOffer (ambient_silent x) _)) fun target => ?_
  refine .bind (triple_orAnswer (triple_replicateToOffer _ _ _ _) _) fun outcome => ?_
  refine .bind (triple_recordReplica _ _ _) fun _ => ?_
  exact .bind (silent_triple (keeps_orAnswer (keeps_append (ambient_silent x) _))) fun _ => .pure fun _ hs => hs

theorem answers_retrieveArtifact (request : ArtifactRetrieveRequest) : Keeps (Answers x) (retrieveArtifact x peer request) := by
  refine answers_of_triple fun s₀ => ?_
  refine .bind (silent_triple keeps_refuseWhileKilled) fun _ => .bind (silent_triple .get) fun s => ?_
  split
  · exact .fail fun _ hs => hs
  rename_i remote _
  refine .bind (silent_triple (keeps_remoteOffer (ambient_silent x) _)) fun target => ?_
  refine .bind (silent_triple fun s => Silent.refl s) fun found => ?_
  refine .bind (silent_triple (keeps_orAnswer (.ofExcept _))) fun sink => ?_
  refine .bind (silent_triple (keeps_leaseToRead (ambient_silent x) _ _)) fun lease => ?_
  refine .bind (silent_triple (keeps_orAnswer (keeps_beginSink (ambient_silent x) _))) fun progress => ?_
  refine .bind (silent_triple (keeps_fetchChunks (ambient_silent x) (within_anything peer) _ _ _ _ _ _ _)) fun _ => ?_
  refine .bind (silent_triple (keeps_orAnswer (keeps_commitSink (ambient_silent x) _))) fun stored => ?_
  refine .bind (silent_triple (.ensure _ _)) fun _ => ?_
  refine .bind (triple_orAnswer (triple_probeReplica _ _) _) fun receipt => ?_
  refine .bind (triple_insertEvidence _ _) fun _ => ?_
  refine .bind (silent_triple (keeps_orAnswer (keeps_readStore _))) fun payload => ?_
  exact .bind (silent_triple (keeps_orAnswer (keeps_append (ambient_silent x) _))) fun _ => .pure fun _ hs => hs

/-! ## Runs -/

/-- What the controller does with its workers, in any order, and what happens to it besides. -/
inductive Act (P : Type)
  | stage (offer : ResourceOfferV1) (job : JobSpecV1)
  | replicate (request : ArtifactReplicateRequest)
  | probe (offer : ResourceOfferV1) (artifact : ArtifactRefV1)
  | retrieve (request : ArtifactRetrieveRequest)
  /-- Anything else, on the controller or on the workers. -/
  | elsewhere (next : Replicator P)

/-- What happens besides accepts nothing as evidence; it may forget evidence. A restart of the controller, which restores
evidence from its ledger, is not among it. -/
def Elsewhere (s : Replicator P) : Act P → Prop
  | .elsewhere t => s.texts ≤ t.texts ∧ s.ledger <+: t.ledger ∧ t.accepted = s.accepted ∧
      ∀ key r, t.replicaEvidence.lookup key = some r → s.replicaEvidence.lookup key = some r
  | _ => True

/-- A probe of the reconciliation cycle: what it brings is recorded as evidence. -/
def probeAndRecord (x : Setting) (peer : Peer P) (offer : ResourceOfferV1) (artifact : ArtifactRefV1) : Transfer P Unit := do
  let receipt ← probeReplica x peer offer artifact
  Handler.modify fun s => { s with replicaEvidence := s.replicaEvidence.insert (artifact.digest, offer.nodeId) receipt }

/-- What an act does to the replicator. -/
def actStep (x : Setting) (peer : Peer P) : Act P → Replicator P → Unit × Replicator P
  | .stage offer job, s => ((), (stageJobInputs x peer offer job s).2)
  | .replicate request, s => ((), (replicateArtifact x peer request s).2)
  | .probe offer artifact, s => ((), (probeAndRecord x peer offer artifact s).2)
  | .retrieve request, s => ((), (retrieveArtifact x peer request s).2)
  | .elsewhere t, _ => ((), t)

/-- The replicator under acts. -/
def replication (x : Setting) (peer : Peer P) : Machine (Replicator P) (Act P) Unit := ⟨actStep x peer⟩

theorem answers_probeAndRecord (offer : ResourceOfferV1) (artifact : ArtifactRefV1) :
    Keeps (Answers x) (probeAndRecord x peer offer artifact) :=
  answers_of_triple fun _ => .bind (triple_probeReplica _ _) fun _ => triple_insertEvidence _ _

/-- Every act but what happens elsewhere leaves the nodes as they are. -/
theorem answers_act {act : Act P} (h : ∀ t, act ≠ .elsewhere t) : Answers x s (actStep x peer act s).2 := by
  cases act with
  | stage offer job => exact answers_stageJobInputs offer job s
  | replicate request => exact answers_replicateArtifact request s
  | probe offer artifact => exact answers_probeAndRecord offer artifact s
  | retrieve request => exact answers_retrieveArtifact request s
  | elsewhere t => exact absurd rfl (h t)

theorem gathers_act {act : Act P} (h : Elsewhere s act) : Gathers x s (actStep x peer act s).2 := by
  by_cases helse : ∀ t, act ≠ .elsewhere t
  · exact (answers_act helse).toGathers
  · push Not at helse
    obtain ⟨t, rfl⟩ := helse
    obtain ⟨htexts, hledger, haccepted, hevidence⟩ := h
    refine ⟨htexts, hledger, ⟨[], [], ?_, rfl, List.Pairwise.nil, fun k hk => by cases hk⟩, ?_, ?_⟩
    · exact haccepted.trans (List.append_nil _).symm
    · intro r hr
      have hr' : r ∈ t.accepted := hr
      rw [haccepted] at hr'
      exact Or.inl hr'
    · exact fun key r hr => Or.inl (hevidence key r hr)

theorem gathers_run {acts : List (Act P)} (h : (replication x peer).Meets Elsewhere acts s) :
    Gathers x s ((replication x peer).exec acts s) := by
  induction acts generalizing s with
  | nil => exact Gathers.refl s
  | cons act acts ih => exact (gathers_act h.1).trans (ih h.2)

/-- A receipt that a run accepted passed in one of its acts, under the key its node was enrolled with then. -/
theorem signed_run {acts : List (Act P)} (h : (replication x peer).Meets Elsewhere acts s) {r : ArtifactReplicaReceiptV1}
    (hno : r ∉ s.accepted) (hr : r ∈ ((replication x peer).exec acts s).accepted) :
    ∃ pre act post, acts = pre ++ act :: post ∧ r ∉ ((replication x peer).exec pre s).accepted ∧
      r ∈ ((replication x peer).exec (pre ++ [act]) s).accepted ∧ SignedForNode x ((replication x peer).exec pre s) r := by
  obtain ⟨pre, act, post, rfl, hbefore, hafter⟩ :=
    (replication x peer).exists_step_of_exec (P := fun t => r ∈ t.accepted) hno hr
  have hact : Elsewhere ((replication x peer).exec pre s) act := (((replication x peer).meets_append _ _ _ _).1 h).2.1
  refine ⟨pre, act, post, rfl, hbefore, ?_, ?_⟩
  · rw [Machine.exec_append]
    exact hafter
  by_cases helse : ∀ t, act ≠ .elsewhere t
  · exact ((answers_act helse).signed r hafter).resolve_left hbefore
  · push Not at helse
    obtain ⟨t, rfl⟩ := helse
    -- nothing is accepted elsewhere
    have hsame : r ∈ t.accepted := hafter
    rw [hact.2.2.1] at hsame
    exact absurd hsame hbefore

/-- **Evidence answers its own challenge.** In every run, whatever the workers answer: every receipt that was accepted
answers a challenge drawn after the accepted ones before it, so no receipt is accepted twice and none of a part of the run
answers a challenge of an earlier part; each names a lease that is on record and passed, in the act that accepted it, under
the key the table of nodes had for its node; and what the table of evidence holds was accepted. -/
theorem evidence_answers_its_own_challenge (x : Setting) (peer : Peer P) (hfresh : Function.Injective x.world.text)
    (acts : List (Act P)) (s : Replicator P) (hs : s.accepted = []) (hnone : s.replicaEvidence = ∅)
    (h : (replication x peer).Meets Elsewhere acts s) :
    let t := (replication x peer).exec acts s
    (t.accepted.map (·.challengeNonce)).Nodup ∧
    (∀ pre post, acts = pre ++ post → ∃ rs, t.accepted = ((replication x peer).exec pre s).accepted ++ rs ∧
      ∀ r ∈ rs, ∃ k, ((replication x peer).exec pre s).texts ≤ k ∧ k < t.texts ∧ r.challengeNonce = x.world.text k) ∧
    (∀ r ∈ t.accepted, Event.storageLeaseIssued r.leaseId ∈ t.ledger ∧
      ∃ pre act post, acts = pre ++ act :: post ∧ r ∉ ((replication x peer).exec pre s).accepted ∧
        r ∈ ((replication x peer).exec (pre ++ [act]) s).accepted ∧ SignedForNode x ((replication x peer).exec pre s) r) ∧
    ∀ key r, t.replicaEvidence.lookup key = some r → r ∈ t.accepted := by
  intro t
  have hrun : Gathers x s t := gathers_run h
  have hempty : ∀ r, r ∉ s.accepted := by
    intro r
    rw [hs]
    exact List.not_mem_nil
  refine ⟨?_, ?_, ?_, ?_⟩
  · obtain ⟨rs, ks, hrs, hnonces, hks, -⟩ := hrun.accepted
    rw [hrs, hs, List.nil_append, hnonces]
    exact (hks.imp fun hlt => Nat.ne_of_lt hlt).map _ fun a b hne heq => hne (hfresh heq)
  · rintro pre post rfl
    obtain ⟨hpre, hpost⟩ := ((replication x peer).meets_append _ pre post s).1 h
    have hlater : Gathers x ((replication x peer).exec pre s) t := by
      show Gathers x _ ((replication x peer).exec (pre ++ post) s)
      rw [Machine.exec_append]
      exact gathers_run hpost
    obtain ⟨rs, ks, hrs, hnonces, -, hrange⟩ := hlater.accepted
    refine ⟨rs, hrs, fun r hr => ?_⟩
    have hmem : r.challengeNonce ∈ ks.map x.world.text := hnonces ▸ List.mem_map_of_mem hr
    obtain ⟨k, hk, htext⟩ := List.mem_map.1 hmem
    exact ⟨k, (hrange k hk).1, (hrange k hk).2, htext.symm⟩
  · intro r hr
    exact ⟨(hrun.leased r hr).resolve_left (hempty r), signed_run h (hempty r) hr⟩
  · intro key r hr
    refine (hrun.evidence key r hr).resolve_left fun hold => ?_
    rw [hnone] at hold
    cases hold

/-- Two probes of a worker that keeps answering with its first receipt: the first answer is evidence, the second is not. -/
theorem evidence_answers_its_own_challenge_replayed :
    let t := (replication Scenario.setting Scenario.replaying).exec
      [.probe Scenario.offer Scenario.artifact, .probe Scenario.offer Scenario.artifact] (Scenario.start none)
    t.accepted.map (·.challengeNonce) = [Scenario.world.text 1] ∧
      (t.accepted.map (·.challengeNonce)).Nodup := by
  refine ⟨by decide +kernel, ?_⟩
  exact (evidence_answers_its_own_challenge Scenario.setting Scenario.replaying Scenario.world_text_injective
    [.probe Scenario.offer Scenario.artifact, .probe Scenario.offer Scenario.artifact] (Scenario.start none) rfl rfl
    ⟨trivial, trivial, trivial⟩).1

end Rampage.Replication
