/-
Evidence means possession. The network between the controller and its workers may lose, repeat, reorder or invent
messages, and anything may happen at the workers, as long as no signature of a worker is forged (`Unforgeable`). Then
for every entry of the controller's evidence the node it names has the artifact and gives it back, at that time and at
any later one (`evidence_means_possession`). A fleet of workers that serve requests with their gateways, over links that
lose requests and answers, is such a network (`fleet_unforgeable`). The runs are those of one process of the controller:
what a restart restores as evidence from the ledger is not covered here.
-/
import Rampage.Agent.Custody
import Rampage.Replication.Retrieval

namespace Rampage.Replication

open Rampage.Protocol Rampage.Ledger Rampage.Mesh
open Rampage.Agent (Worker Gateway Happening happens Draws gatewayStep)
open Rampage.Storage (verify sha256Digest)
open Handler (Keeps Triple)

variable {P α : Type} {x : Setting} {peer : Peer P} {worker : Uuid → Worker} {key : Uuid → String}
  {site : P → Uuid → Gateway} {s t : Replicator P}

/-! ## The network -/

/-- The workers of `q` are those of `p` some happenings later. -/
def Later (worker : Uuid → Worker) (site : P → Uuid → Gateway) (p q : P) : Prop :=
  ∀ node, ∃ hs, site q node = happens (worker node) hs (site p node)

instance : Std.Refl (Later worker site) := ⟨fun _ _ => ⟨[], rfl⟩⟩

instance : IsTrans P (Later worker site) := by
  refine ⟨fun p q r h h' node => ?_⟩
  obtain ⟨hs, hq⟩ := h node
  obtain ⟨hs', hr⟩ := h' node
  exact ⟨hs ++ hs', by rw [hr, hq, Agent.happens_append]⟩

/-- Whatever the network does, a receipt that passes under the key of a node was signed by the node's worker. -/
structure Unforgeable (x : Setting) (peer : Peer P) (worker : Uuid → Worker) (key : Uuid → String)
    (site : P → Uuid → Gateway) : Prop where
  later : peer.Within (Later worker site)
  signed : ∀ {destination request payload p response body q r}, peer destination request payload p = (some (response, body), q) →
    response.replicaReceipt = some r → x.verifyReceipt (key r.nodeId) r = true → r ∈ (site q r.nodeId).signed

/-! ## The controller -/

/-- The node's worker has signed the receipt, which is for this artifact. -/
def Vouches (site : P → Uuid → Gateway) (digest : String) (node : Uuid) (r : ArtifactReplicaReceiptV1) (s : Replicator P) : Prop :=
  r.digest = digest ∧ r.nodeId = node ∧ r ∈ (site s.peer node).signed

/-- The tables of nodes and offers are keyed by node, and the enrolled keys are the workers'. -/
structure Enrolled (key : Uuid → String) (s : Replicator P) : Prop where
  nodes : ∀ node identity, s.nodes.lookup node = some identity → identity.nodeId = node ∧ identity.publicKey = key node
  offers : ∀ node offer, s.offers.lookup node = some offer → offer.nodeId = node

/-- And every entry of the evidence was signed by the worker of its node. -/
structure Vouched (key : Uuid → String) (site : P → Uuid → Gateway) (s : Replicator P) : Prop extends Enrolled key s where
  evidence : ∀ digest node r, s.replicaEvidence.lookup (digest, node) = some r → Vouches site digest node r s

/-- Nothing but the workers has moved on, as far as the evidence is concerned. -/
structure Quiet (worker : Uuid → Worker) (site : P → Uuid → Gateway) (s t : Replicator P) : Prop where
  nodes : t.nodes = s.nodes
  offers : t.offers = s.offers
  evidence : t.replicaEvidence = s.replicaEvidence
  workers : Later worker site s.peer t.peer

instance : Std.Refl (Quiet worker site) := ⟨fun s => ⟨rfl, rfl, rfl, refl_of (Later worker site) s.peer⟩⟩

instance : IsTrans (Replicator P) (Quiet worker site) := ⟨fun _ _ _ h h' => ⟨h'.nodes.trans h.nodes, h'.offers.trans h.offers,
  h'.evidence.trans h.evidence, trans_of (Later worker site) h.workers h'.workers⟩⟩

theorem ambient_quiet (worker : Uuid → Worker) (site : P → Uuid → Gateway) (x : Setting) : Ambient x (Later worker site) (Quiet worker site) where
  draw := fun s _ happ _ => ⟨congrArg (·.nodes) happ, congrArg (·.offers) happ, rfl, refl_of (Later worker site) s.peer⟩
  append := fun s _ _ => ⟨rfl, rfl, rfl, refl_of (Later worker site) s.peer⟩
  nonce := fun s _ => ⟨rfl, rfl, rfl, refl_of (Later worker site) s.peer⟩
  mesh := fun _ _ h => ⟨rfl, rfl, rfl, h⟩
  store := fun s _ _ => ⟨rfl, rfl, rfl, refl_of (Later worker site) s.peer⟩

/-- What was signed stays signed. -/
theorem Later.signed {p q : P} (h : Later worker site p q) (node : Uuid) : (site p node).signed ⊆ (site q node).signed := by
  obtain ⟨hs, heq⟩ := h node
  rw [heq]
  exact (Agent.grows_happens hs _).subset

theorem Vouched.quiet (h : Vouched key site s) (hq : Quiet worker site s t) : Vouched key site t := by
  refine ⟨⟨?_, ?_⟩, ?_⟩
  · rw [hq.nodes]
    exact h.nodes
  · rw [hq.offers]
    exact h.offers
  · intro digest node r hr
    rw [hq.evidence] at hr
    obtain ⟨hdigest, hnode, hsigned⟩ := h.evidence digest node r hr
    exact ⟨hdigest, hnode, hq.workers.signed node hsigned⟩

theorem Vouched.insert {digest : String} {node : Uuid} {r : ArtifactReplicaReceiptV1} (h : Vouched key site s)
    (hr : Vouches site digest node r s) : Vouched key site { s with replicaEvidence := s.replicaEvidence.insert (digest, node) r } := by
  refine ⟨⟨h.nodes, h.offers⟩, ?_⟩
  intro digest' node' r' hr'
  have hlookup : AList.lookup (digest', node') (AList.insert (digest, node) r s.replicaEvidence) = some r' := hr'
  rw [Table.lookup_insert'] at hlookup
  split at hlookup
  · rename_i heq
    rw [Prod.mk.injEq] at heq
    obtain ⟨rfl, rfl⟩ := heq
    cases hlookup
    exact hr
  · exact h.evidence digest' node' r' hlookup

/-! ## Steps -/

/-- A step that is quiet. -/
theorem quiet_triple (worker : Uuid → Worker) {ε : Type} {y : Handler (Replicator P) ε α} (h : Keeps (Quiet worker site) y) :
    Triple (Vouched key site) y (fun _ => Vouched key site) (Vouched key site) :=
  h.triple_of fun _ _ hs hq => hs.quiet hq

theorem triple_authorizeStorage (worker : Uuid → Worker) (offer : ResourceOfferV1) (digest : String) (sizeBytes : Nat) (storageClass : StorageClass)
    (operation : ArtifactTransferOperation) : Triple (Vouched key site)
      (authorizeStorage x offer digest sizeBytes storageClass operation)
      (fun lease s => lease.digest = digest ∧ Vouched key site s) (Vouched key site) := by
  have hq := ambient_quiet worker site x
  refine .bind (quiet_triple worker .get) fun s => .bind (quiet_triple worker (keeps_utcNow hq)) fun now => ?_
  refine .bind (quiet_triple worker (keeps_newUuid hq)) fun leaseId => .bind (quiet_triple worker (keeps_newText hq)) fun nonce => ?_
  cases hlease : Governor.authorizeStorageAtEpoch x.config.governor x.config.signStorage offer digest sizeBytes storageClass
      operation s.fencingEpoch now leaseId nonce with
  | error denial => exact .fail fun _ hs => hs
  | ok lease =>
    refine .pure fun _ hs => ⟨?_, hs⟩
    unfold Governor.authorizeStorageAtEpoch at hlease
    repeat' split at hlease
    all_goals cases hlease
    rfl

/-- The receipt that came with the last answer was signed by the worker of its node, if it passes under that key. -/
def Came (x : Setting) (key : Uuid → String) (site : P → Uuid → Gateway) (r : ArtifactReplicaReceiptV1) (s : Replicator P) : Prop :=
  Vouched key site s ∧ (x.verifyReceipt (key r.nodeId) r = true → r ∈ (site s.peer r.nodeId).signed)

theorem triple_onMesh {y : Exchange P (ArtifactRefV1 × ArtifactReplicaReceiptV1)} (hkeeps : Keeps (Quiet worker site) (onMesh y))
    (h : ∀ p q a, y p = (.ok a, q) → x.verifyReceipt (key a.2.nodeId) a.2 = true → a.2 ∈ (site q a.2.nodeId).signed) :
    Triple (Vouched key site) (onMesh y) (fun a => Came x key site a.2) (Vouched key site) := by
  intro s hs
  have hquiet := hkeeps s
  refine ⟨fun a t ha => ?_, fun e t he => ?_⟩
  · rw [ha] at hquiet
    refine ⟨hs.quiet hquiet, ?_⟩
    unfold onMesh at ha
    rcases hy : y s.peer with ⟨e | b, q⟩
    · rw [hy] at ha
      cases ha
    · rw [hy] at ha
      cases ha
      exact h s.peer q _ hy
  · rw [he] at hquiet
    exact hs.quiet hquiet

/-- The checks of a receipt: one that passes is vouched for by the node of the offer. -/
theorem triple_vouched (offer : ResourceOfferV1) (lease : StorageLeaseV1) (sessionId : Uuid) (nonce : String)
    (receipt : ArtifactReplicaReceiptV1) :
    Triple (Came x key site receipt) (verifyReplicaEvidence x offer lease sessionId nonce receipt)
      (fun _ s => Vouched key site s ∧ Vouches site lease.digest offer.nodeId receipt s) (Vouched key site) := by
  refine .of_forall fun s hs => ?_
  refine .bind (.get (G := fun s' s'' => s' = s ∧ Came x key site receipt s'') fun s' hs' => by
    subst hs'
    exact ⟨rfl, hs⟩) fun s' => .of_fact fun hsame => ?_
  subst hsame
  split
  · exact .fail fun _ hc => hc.1
  rename_i identity hidentity
  obtain ⟨hnode, hkey⟩ := hs.1.nodes offer.nodeId identity hidentity
  -- reading the clock changes nothing
  have hclock : Triple (Came x key site receipt) (hosted (Controller.utcNow x.world)) (fun _ => Came x key site receipt)
      (Vouched key site) := fun u hu => by
    refine ⟨fun a v h => ?_, fun e v h => (by cases h)⟩
    cases h
    exact ⟨⟨⟨hu.1.nodes, hu.1.offers⟩, hu.1.evidence⟩, hu.2⟩
  have hverified : Triple (Came x key site receipt) (verifyArtifactReplicaReceipt x identity receipt)
      (fun _ s => receipt ∈ (site s.peer receipt.nodeId).signed ∧ identity.nodeId = receipt.nodeId ∧ Vouched key site s)
      (Vouched key site) := by
    refine .bind hclock fun now => ?_
    refine .bind (Triple.ensure (G := fun _ s => identity.nodeId = receipt.nodeId ∧ Came x key site receipt s)
      (fun s hs hc => ⟨(of_decide_eq_true hc).1, hs⟩) fun _ hs _ => hs.1) fun _ => ?_
    refine Triple.ensure (fun s hs hc => ⟨hs.2.2 ?_, hs.1, hs.2.1⟩) fun _ hs _ => hs.2.1
    rw [← hs.1, hnode, ← hkey]
    exact hc
  refine hverified.bind fun _ => ?_
  refine .bind (Triple.ensure (G := fun _ s => IsBound offer lease sessionId nonce receipt ∧
      receipt ∈ (site s.peer receipt.nodeId).signed ∧ Vouched key site s)
    (fun s hs hc => ⟨of_decide_eq_true hc, hs.1, hs.2.2⟩) fun _ hs _ => hs.2.2) fun _ => .of_fact fun hbound => ?_
  refine .modify fun s hs => ⟨⟨⟨hs.2.nodes, hs.2.offers⟩, hs.2.evidence⟩, hbound.digest, hbound.node, ?_⟩
  rw [← hbound.node]
  exact hs.1

section

variable (hnet : Unforgeable x peer worker key site)
include hnet

theorem triple_commit (context : ArtifactTransferContext) (requestId : Uuid) :
    Triple (Vouched key site) (onMesh (artifactCommit peer context requestId)) (fun a => Came x key site a.2) (Vouched key site) := by
  refine triple_onMesh (keeps_commit (ambient_quiet worker site x) hnet.later _ _) fun p q a h hpass => ?_
  obtain ⟨response, rest, hpeer, -, hreceipt⟩ := artifactCommit_ok h
  exact hnet.signed hpeer hreceipt hpass

theorem triple_head (context : ArtifactTransferContext) (requestId : Uuid) :
    Triple (Vouched key site) (onMesh (artifactHead peer context requestId)) (fun a => Came x key site a.2) (Vouched key site) := by
  refine triple_onMesh (keeps_head (ambient_quiet worker site x) hnet.later _ _) fun p q a h hpass => ?_
  obtain ⟨response, rest, hpeer, -, hreceipt⟩ := artifactHead_ok h
  exact hnet.signed hpeer hreceipt hpass

theorem vouched_replicateToOffer (offer : ResourceOfferV1) (endpoint : MeshEndpointRecordV1) (source : ArtifactRefV1)
    (storageClass : StorageClass) : Triple (Vouched key site) (replicateToOffer x peer offer endpoint source storageClass)
      (fun o s => Vouched key site s ∧ Vouches site o.artifact.digest offer.nodeId o.receipt s) (Vouched key site) := by
  have hq := ambient_quiet worker site x
  refine .bind (triple_authorizeStorage worker _ _ _ _ _) fun lease => .of_fact fun hlease => ?_
  refine .bind (quiet_triple worker (keeps_append hq _)) fun _ => .bind (quiet_triple worker (keeps_newText hq)) fun _ => ?_
  refine .bind (quiet_triple worker (keeps_newUuid hq)) fun _ => .bind (quiet_triple worker (keeps_put hq hnet.later _ _)) fun progress => ?_
  refine .bind (quiet_triple worker (.ensure _ _)) fun _ => ?_
  refine .bind (quiet_triple worker (.forEach (fun _ => keeps_sendChunk hq hnet.later _ _ _ _ _) _)) fun _ => ?_
  refine .bind (quiet_triple worker (keeps_newText hq)) fun nonce => .bind (quiet_triple worker (keeps_newUuid hq)) fun _ => ?_
  refine .bind (triple_commit hnet _ _) fun committed => ?_
  refine .bind (Triple.ensure (G := fun _ s => committed.1.digest = source.digest ∧ Came x key site committed.2 s)
    (fun s hs hc => ⟨?_, hs⟩) fun _ hs _ => hs.1) fun _ => .of_fact fun hdigest => ?_
  · simp only [sameContract, Bool.and_eq_true, beq_iff_eq] at hc
    exact hc.1.1.1.1
  refine .bind (triple_vouched _ _ _ _ _) fun _ => .pure fun s hs => ⟨hs.1, ?_⟩
  rw [hlease, ← hdigest] at hs
  exact hs.2

theorem vouched_probeReplica (offer : ResourceOfferV1) (artifact : ArtifactRefV1) :
    Triple (Vouched key site) (probeReplica x peer offer artifact)
      (fun r s => Vouched key site s ∧ Vouches site artifact.digest offer.nodeId r s) (Vouched key site) := by
  have hq := ambient_quiet worker site x
  unfold probeReplica
  split
  · exact .fail fun _ hs => hs
  refine .bind (quiet_triple worker (keeps_endpoint hq _)) fun _ => ?_
  refine .bind (triple_authorizeStorage worker _ _ _ _ _) fun lease => .of_fact fun hlease => ?_
  refine .bind (quiet_triple worker (keeps_append hq _)) fun _ => .bind (quiet_triple worker (keeps_newText hq)) fun nonce => ?_
  refine .bind (quiet_triple worker (keeps_newUuid hq)) fun _ => .bind (triple_head hnet _ _) fun found => ?_
  refine .bind (Triple.ensure (G := fun _ => Came x key site found.2) (fun _ hs _ => hs) fun _ hs _ => hs.1) fun _ => ?_
  refine .bind (triple_vouched _ _ _ _ _) fun _ => .pure fun s hs => ⟨hs.1, ?_⟩
  rw [hlease] at hs
  exact hs.2

/-! ## Handlers -/

omit hnet in
theorem triple_record {ε : Type} (artifact : ArtifactRefV1) (node : Uuid) (r : ArtifactReplicaReceiptV1) :
    Triple (fun s => Vouched key site s ∧ Vouches site artifact.digest node r s)
      (Handler.modify (recordReplica artifact node r) : Handler (Replicator P) ε Unit)
      (fun _ => Vouched key site) (Vouched key site) := by
  refine .modify fun s hs => ?_
  have hinserted := hs.1.insert hs.2
  exact ⟨⟨hinserted.nodes, hinserted.offers⟩, hinserted.evidence⟩

omit hnet in
/-- The offer of a node is the node's. -/
theorem triple_remoteOffer (worker : Uuid → Worker) (node : Uuid) : Triple (Vouched key site) (remoteOffer x node)
    (fun target s => target.1.nodeId = node ∧ Vouched key site s) (Vouched key site) := by
  have hq := ambient_quiet worker site x
  refine .of_forall fun s hs => ?_
  refine .bind (.get (G := fun s' s'' => s' = s ∧ Vouched key site s'') fun s' hs' => by
    subst hs'
    exact ⟨rfl, hs⟩) fun s' => .of_fact fun hsame => ?_
  subst hsame
  refine .bind (quiet_triple worker (keeps_orAnswer (keeps_utcNow hq))) fun now => ?_
  split
  · exact .fail fun _ hs => hs
  rename_i offer hoffer
  split
  · exact .fail fun _ hs => hs
  · refine .bind (quiet_triple worker (keeps_orAnswer (keeps_endpoint hq _))) fun _ => .pure fun _ hs' => ⟨?_, hs'⟩
    obtain ⟨hlookup, -⟩ := Option.filter_eq_some_iff.1 hoffer
    exact hs.offers node offer hlookup

/-- A probe whose receipt becomes evidence. -/
theorem vouched_probeAndRecord (offer : ResourceOfferV1) (artifact : ArtifactRefV1) :
    Triple (Vouched key site) (probeAndRecord x peer offer artifact) (fun _ => Vouched key site) (Vouched key site) :=
  .bind (vouched_probeReplica hnet _ _) fun _ => .modify fun _ hs => hs.1.insert hs.2

theorem vouched_stageJobInputs (offer : ResourceOfferV1) (job : JobSpecV1) :
    Triple (Vouched key site) (stageJobInputs x peer offer job) (fun _ => Vouched key site) (Vouched key site) := by
  have hq := ambient_quiet worker site x
  refine @Triple.forEach (Replicator P) _ _ _ _ (fun _ => Vouched key site) [] _ fun _ input _ _ => ?_
  refine .bind (quiet_triple worker (keeps_orAnswer (keeps_readStore _))) fun source => ?_
  refine .bind (quiet_triple worker (.ensure _ _)) fun _ => ?_
  split
  · exact .pure fun _ hs => hs
  refine .bind (quiet_triple worker .get) fun s => .ite (fun _ => .pure fun _ hs => hs) fun _ => ?_
  refine .bind (quiet_triple worker (keeps_orAnswer (keeps_endpoint hq _))) fun _ => ?_
  refine .bind (triple_orAnswer (vouched_replicateToOffer hnet _ _ _ _) _) fun outcome => ?_
  exact .bind (triple_record _ _ _) fun _ => quiet_triple worker (keeps_orAnswer (keeps_append hq _))

theorem vouched_replicateArtifact (request : ArtifactReplicateRequest) :
    Triple (Vouched key site) (replicateArtifact x peer request) (fun _ => Vouched key site) (Vouched key site) := by
  have hq := ambient_quiet worker site x
  refine .bind (quiet_triple worker keeps_refuseWhileKilled) fun _ => ?_
  refine .bind (quiet_triple worker (keeps_orAnswer (keeps_readStore _))) fun source => ?_
  refine .bind (quiet_triple worker (.ensure _ _)) fun _ => ?_
  refine .bind (triple_remoteOffer worker _) fun target => .of_fact fun hnode => ?_
  refine .bind (triple_orAnswer (vouched_replicateToOffer hnet _ _ _ _) _) fun outcome => ?_
  rw [hnode]
  refine .bind (triple_record _ _ _) fun _ => ?_
  exact .bind (quiet_triple worker (keeps_orAnswer (keeps_append hq _))) fun _ => .pure fun _ hs => hs

theorem vouched_retrieveFrom (offer : ResourceOfferV1) (endpoint : MeshEndpointRecordV1) (remote : ArtifactRefV1) :
    Triple (Vouched key site) (retrieveFrom x peer offer endpoint remote offer.nodeId)
      (fun _ => Vouched key site) (Vouched key site) := by
  have hq := ambient_quiet worker site x
  refine .bind (quiet_triple worker fun s => refl_of (Quiet worker site) s) fun found => ?_
  refine .bind (quiet_triple worker (keeps_orAnswer (.ofExcept _))) fun sink => ?_
  refine .bind (quiet_triple worker (keeps_leaseToRead hq _ _)) fun lease => ?_
  refine .bind (quiet_triple worker (keeps_orAnswer (keeps_beginSink hq _))) fun progress => ?_
  refine .bind (quiet_triple worker (keeps_fetchChunks hq hnet.later _ _ _ _ _ _ _)) fun _ => ?_
  refine .bind (quiet_triple worker (keeps_orAnswer (keeps_commitSink hq _))) fun stored => ?_
  refine .bind (quiet_triple worker (.ensure _ _)) fun _ => ?_
  refine .bind (triple_orAnswer (vouched_probeReplica hnet _ _) _) fun receipt => ?_
  refine .bind (.modify (G := fun _ => Vouched key site) fun _ hs => hs.1.insert hs.2) fun _ => ?_
  refine .bind (quiet_triple worker (keeps_orAnswer (keeps_readStore _))) fun payload => ?_
  exact .bind (quiet_triple worker (keeps_orAnswer (keeps_append hq _))) fun _ => .pure fun _ hs => hs

theorem vouched_retrieveArtifact (request : ArtifactRetrieveRequest) :
    Triple (Vouched key site) (retrieveArtifact x peer request) (fun _ => Vouched key site) (Vouched key site) := by
  refine .bind (quiet_triple worker keeps_refuseWhileKilled) fun _ => .bind (quiet_triple worker .get) fun s => ?_
  split
  · exact .fail fun _ hs => hs
  refine .bind (triple_remoteOffer worker _) fun target => .of_fact fun hnode => ?_
  rw [← hnode]
  exact vouched_retrieveFrom hnet _ _ _

end

/-! ## Runs -/

/-- What happens besides may forget evidence, and anything may happen at the workers; the tables stay keyed by node and
the enrolled keys the workers'. A restart of the controller brings evidence back from the ledger and is not among it. -/
def Besides (worker : Uuid → Worker) (key : Uuid → String) (site : P → Uuid → Gateway) (s : Replicator P) : Act P → Prop
  | .elsewhere t => Enrolled key t ∧ Later worker site s.peer t.peer ∧
      ∀ digest node r, t.replicaEvidence.lookup (digest, node) = some r → s.replicaEvidence.lookup (digest, node) = some r
  | _ => True

theorem vouched_act (hnet : Unforgeable x peer worker key site) {act : Act P} (hs : Vouched key site s)
    (h : Besides worker key site s act) : Vouched key site (actStep x peer act s).2 := by
  have hends : ∀ {ε β : Type} {y : Handler (Replicator P) ε β},
      Triple (Vouched key site) y (fun _ => Vouched key site) (Vouched key site) → Vouched key site (y s).2 := by
    intro ε β y hy
    rcases hrun : y s with ⟨e | a, t⟩
    · exact (hy s hs).2 e t hrun
    · exact (hy s hs).1 a t hrun
  cases act with
  | stage offer job => exact hends (vouched_stageJobInputs hnet offer job)
  | replicate request => exact hends (vouched_replicateArtifact hnet request)
  | probe offer artifact => exact hends (vouched_probeAndRecord hnet offer artifact)
  | retrieve request => exact hends (vouched_retrieveArtifact hnet request)
  | elsewhere t =>
    obtain ⟨henrolled, hlater, hforgets⟩ := h
    refine ⟨henrolled, fun digest node r hr => ?_⟩
    obtain ⟨hdigest, hnode, hsigned⟩ := hs.evidence digest node r (hforgets digest node r hr)
    exact ⟨hdigest, hnode, hlater.signed node hsigned⟩

/-- The workers of a state are those of another some happenings later. -/
def LaterState (worker : Uuid → Worker) (site : P → Uuid → Gateway) (s t : Replicator P) : Prop :=
  Later worker site s.peer t.peer

instance : Std.Refl (LaterState worker site) := ⟨fun s => refl_of (Later worker site) s.peer⟩

instance : IsTrans (Replicator P) (LaterState worker site) := ⟨fun _ _ _ => trans_of (Later worker site)⟩

theorem later_act (hnet : Unforgeable x peer worker key site) {act : Act P} (h : Besides worker key site s act) :
    LaterState worker site s (actStep x peer act s).2 := by
  have hsame : ∀ {s t : Replicator P}, t.peer = s.peer → LaterState worker site s t := by
    intro s t heq
    unfold LaterState
    rw [heq]
    exact refl_of (Later worker site) s.peer
  refine keeps_act (M := Later worker site) ⟨fun _ _ _ _ => hsame rfl, fun _ _ _ => hsame rfl, fun _ _ => hsame rfl,
    fun _ _ h => h, fun _ _ _ => hsame rfl⟩ hnet.later (fun _ _ => hsame rfl) (fun _ _ => hsame rfl)
    (fun _ _ _ _ => hsame rfl) fun t heq => ?_
  subst heq
  exact h.2.1

theorem vouched_run (hnet : Unforgeable x peer worker key site) {acts : List (Act P)} (hs : Vouched key site s)
    (h : (replication x peer).Meets (Besides worker key site) acts s) :
    Vouched key site ((replication x peer).exec acts s) ∧ LaterState worker site s ((replication x peer).exec acts s) := by
  induction acts generalizing s with
  | nil => exact ⟨hs, refl_of (LaterState worker site) s⟩
  | cons act acts ih =>
    obtain ⟨hvouched, hlater⟩ := ih (vouched_act hnet hs h.1) h.2
    exact ⟨hvouched, trans_of (LaterState worker site) (later_act hnet h.1) hlater⟩

/-- **Evidence means possession.** A controller starts without evidence, its workers without signatures. After every run of
its handlers, over a network that may do anything but forge signatures, with anything else happening at the controller and
the workers: whatever the evidence names, the worker of the node has, and gives back whole from then on. -/
theorem evidence_means_possession (x : Setting) (peer : Peer P) (worker : Uuid → Worker) (key : Uuid → String)
    (site : P → Uuid → Gateway) (hnet : Unforgeable x peer worker key site) (acts : List (Act P)) (s : Replicator P)
    (henrolled : Enrolled key s) (hnone : s.replicaEvidence = ∅) (hfresh : ∀ node, (site s.peer node).signed = [])
    (h : (replication x peer).Meets (Besides worker key site) acts s) :
    let t := (replication x peer).exec acts s
    ∀ digest node r, t.replicaEvidence.lookup (digest, node) = some r →
      node = (worker node).nodeId ∧ ∀ hs, let store := (happens (worker node) hs (site t.peer node)).store
        ∃ a bytes, verify (worker node).cas digest store = .ok a ∧ a.sizeBytes = r.sizeBytes ∧
          a.storageClass = r.storageClass ∧ Storage.get (worker node).cas digest store = .ok bytes ∧
          sha256Digest (worker node).cas bytes = digest ∧ bytes.length = r.sizeBytes := by
  intro t digest node r hr
  have hs : Vouched key site s := ⟨henrolled, fun digest node r hr => by
    rw [hnone] at hr
    cases hr⟩
  obtain ⟨hvouched, hlater⟩ := vouched_run hnet hs h
  obtain ⟨rfl, hnode, hsigned⟩ := hvouched.evidence digest node r hr
  obtain ⟨hs₀, hsite⟩ := hlater node
  have hfirst : Agent.Backed (worker node) (site s.peer node) := fun r hr => by
    rw [hfresh] at hr
    cases hr
  have hbacked : Agent.Backed (worker node) (site t.peer node) := by
    rw [hsite]
    exact Agent.backed_happens hs₀ hfirst
  refine ⟨hnode.symm.trans (hbacked r hsigned).1, fun hs => ?_⟩
  obtain ⟨-, a, hverify, hsize, hclass⟩ := Agent.backed_happens hs hbacked r ((Agent.grows_happens hs _).subset hsigned)
  obtain ⟨bytes, hget, hdigest, hlength⟩ := Storage.get_of_verify hverify
  exact ⟨a, bytes, hverify, hsize, hclass, hget, hdigest, hlength.trans hsize⟩

/-! ## A fleet -/

/-- Workers that serve requests with their gateways, each reached by its endpoint, and what happens to the n-th request:
what happens at the worker before it, whether it arrives and whether its answer does. -/
structure Fleet where
  worker : Uuid → Worker
  workerId : ∀ node, (worker node).nodeId = node
  route : String → Option Uuid
  /-- The endpoint of the controller. -/
  controller : String
  errorText : Agent.GatewayError → String
  before : Nat → List Happening
  arrives : Nat → Bool
  answered : Nat → Bool
  draws : Nat → Draws

/-- The gateways, and the number of requests so far. -/
structure Sites where
  gateway : Uuid → Gateway
  requests : Nat

/-- `write_artifact_response`: the header and the bytes after it. -/
def writeArtifactResponse (errorText : Agent.GatewayError → String) (r : Agent.ArtifactTransferResponseV2) :
    ArtifactTransferResponseV2 × List UInt8 :=
  (⟨ArtifactTransferResponseV2.schemaName, r.requestId, r.status, r.artifact, r.progress, r.chunkIndex, r.chunkDigest,
    r.payload.length, r.replicaReceipt, r.error.map errorText⟩, r.payload)

/-- One request to a worker. -/
def Fleet.serve (f : Fleet) (n : Nat) (node : Uuid) (request : ArtifactTransferRequestV2) (payload : List UInt8) (g : Gateway) :
    Option Agent.ArtifactTransferResponseV2 × Gateway :=
  let g := happens (f.worker node) (f.before n) g
  if f.arrives n then gatewayStep (f.worker node) (.request (f.draws n) ⟨f.controller, some request, payload⟩) g else (none, g)

/-- The mesh between the controller and the fleet: a request that is served may go without its
answer. -/
def Fleet.network (f : Fleet) : Peer Sites := fun destination request payload p =>
  match f.route destination.endpointId with
  | none => (none, { p with requests := p.requests + 1 })
  | some node =>
    let served := f.serve p.requests node request payload (p.gateway node)
    (if f.answered p.requests then served.1.map (writeArtifactResponse f.errorText) else none,
      ⟨Function.update p.gateway node served.2, p.requests + 1⟩)

theorem Fleet.serve_happens (f : Fleet) (n : Nat) (node : Uuid) (request : ArtifactTransferRequestV2) (payload : List UInt8)
    (g : Gateway) : ∃ hs, (f.serve n node request payload g).2 = happens (f.worker node) hs g := by
  unfold Fleet.serve
  dsimp only
  split
  · refine ⟨f.before n ++ [.input (.request (f.draws n) ⟨f.controller, some request, payload⟩)], ?_⟩
    rw [Agent.happens_append]
    rfl
  · exact ⟨f.before n, rfl⟩

/-- A fleet is a network in which no receipt is forged, whichever receipts pass. -/
theorem fleet_unforgeable (x : Setting) (f : Fleet) (key : Uuid → String) :
    Unforgeable x f.network f.worker key Sites.gateway where
  -- a request changes the worker it reaches and no other
  later := by
    intro destination request payload p node
    unfold Fleet.network
    split
    · exact ⟨[], rfl⟩
    · rename_i served _
      dsimp only
      by_cases heq : node = served
      · subst heq
        rw [Function.update_self]
        exact f.serve_happens _ _ _ _ _
      · rw [Function.update_of_ne heq]
        exact ⟨[], rfl⟩
  -- the worker that answers signed the receipt in the answer
  signed := by
    intro destination request payload p response body q r h hr _
    unfold Fleet.network at h
    split at h
    · cases h
    rename_i node _
    dsimp only at h
    rw [Prod.mk.injEq] at h
    obtain ⟨hanswer, rfl⟩ := h
    split at hanswer
    · rcases hserved : f.serve p.requests node request payload (p.gateway node) with ⟨_ | answer, g⟩
      · rw [hserved] at hanswer
        cases hanswer
      · rw [hserved] at hanswer
        cases hanswer
        unfold Fleet.serve at hserved
        dsimp only at hserved
        split at hserved
        · obtain ⟨hnode, hsigned⟩ := Agent.receipt_of_response hserved hr
          rw [f.workerId] at hnode
          show r ∈ (Function.update p.gateway node g r.nodeId).signed
          rw [hnode, Function.update_self]
          exact hsigned
        · cases hserved
    · cases hanswer

/-! ## A run -/

namespace Scenario

/-- One worker, whose first answer is lost. -/
def fleet : Fleet where
  worker := fun node =>
    { cas := cas
      controllerEndpointId := "controller"
      nodeId := node
      verifyStorageLease := fun lease => lease.signature == "signature"
      signReplicaReceipt := fun _ => "receipt" }
  workerId := fun _ => rfl
  route := fun endpointId => if endpointId = endpoint.endpointId then some 77 else none
  controller := "controller"
  errorText := fun _ => "refused"
  before := fun _ => []
  arrives := fun _ => true
  answered := fun n => n != 0
  draws := fun n => ⟨0, 0, 0, 0, 0, Storage.Scenario.nonce 0, BitVec.ofNat 128 (n + 1)⟩

/-- The byte is in the controller's store, and the node has room for it. -/
def holding : Replicator Sites :=
  let s := start (⟨fun _ => Gateway.initial Storage.Store.empty, 0⟩ : Sites)
  { s with
    offers := (∅ : Table Uuid ResourceOfferV1).insert 77 { offer with resources := [⟨.storageCache, 10, 10, "bytes", []⟩] }
    artifactStore := Storage.storeEffects.applyAll
      (Storage.put cas 0 (fun _ => Storage.Scenario.nonce 0) [1] ⟨"application/octet-stream", .cache, 1⟩ Storage.Store.empty).effects
      Storage.Store.empty }

/-- The byte is to be on node 77. -/
def request : ArtifactReplicateRequest := ⟨digest, 77, "application/octet-stream", .cache⟩

theorem enrolled_holding : Enrolled (fun _ => Controller.Scenario.identity.publicKey) holding := by
  constructor
  · intro node identity h
    change AList.lookup node ((∅ : Table Uuid NodeIdentityV1).insert 77 Controller.Scenario.identity) = some identity at h
    rw [Table.lookup_insert'] at h
    split at h
    · rename_i heq
      cases h
      exact ⟨heq.symm, rfl⟩
    · cases h
  · intro node offer h
    change AList.lookup node ((∅ : Table Uuid ResourceOfferV1).insert 77 _) = some offer at h
    rw [Table.lookup_insert'] at h
    split at h
    · rename_i heq
      cases h
      exact heq.symm
    · cases h

end Scenario

/-- The byte is replicated twice, since the first answer is lost; then it is evidence, and the worker has it, also after a
put of it has crashed. -/
theorem evidence_means_possession_second_attempt :
    let t := (replication Scenario.setting Scenario.fleet.network).exec [.replicate Scenario.request, .replicate Scenario.request]
      Scenario.holding
    let later := happens (Scenario.fleet.worker 77)
      [.fault (.crash (.put 0 (fun _ => Storage.Scenario.nonce 2) [1] ⟨"text/plain", .cache, 1⟩) 1 none)] (t.peer.gateway 77)
    (t.replicaEvidence.lookup (Scenario.digest, 77)).map (·.sizeBytes) = some 1 ∧
      ∃ bytes, Storage.get (Scenario.fleet.worker 77).cas Scenario.digest later.store = .ok bytes ∧
        sha256Digest (Scenario.fleet.worker 77).cas bytes = Scenario.digest ∧ bytes.length = 1 := by
  have hsize : (((replication Scenario.setting Scenario.fleet.network).exec [.replicate Scenario.request, .replicate Scenario.request]
      Scenario.holding).replicaEvidence.lookup (Scenario.digest, 77)).map (·.sizeBytes) = some 1 := by decide +kernel
  have hheld := evidence_means_possession Scenario.setting Scenario.fleet.network Scenario.fleet.worker _ Sites.gateway
    (fleet_unforgeable _ _ fun _ => Controller.Scenario.identity.publicKey)
    [.replicate Scenario.request, .replicate Scenario.request] Scenario.holding Scenario.enrolled_holding rfl (fun _ => rfl)
    ⟨trivial, trivial, trivial⟩ Scenario.digest 77
  generalize (replication Scenario.setting Scenario.fleet.network).exec
    [.replicate Scenario.request, .replicate Scenario.request] Scenario.holding = t at hsize hheld ⊢
  obtain ⟨r, hr, hone⟩ := Option.map_eq_some_iff.1 hsize
  obtain ⟨a, bytes, -, -, -, hget, hdigest, hlength⟩ := (hheld r hr).2 _
  exact ⟨hsize, bytes, hget, hdigest, hlength.trans hone⟩

end Rampage.Replication
