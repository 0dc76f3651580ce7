/-
What the steps of a transfer keep. A relation between states of the controller that holds across everything that is
drawn, put on the ledger, exchanged with a worker or written to the controller's store (`Ambient`) holds across whole
transfers, however they end; one that also holds when a receipt is accepted (`Accepting`) holds across replications and
probes. The relation of the workers' states is a parameter: `Peer.Within` says that every request keeps it.
-/
import Rampage.Replication.Transfer
import Rampage.Storage.Durable

namespace Rampage.Mesh

variable {P : Type}

/-- Whatever is sent to the peer, its states stay related. -/
def Peer.Within (peer : Peer P) (M : P → P → Prop) : Prop :=
  ∀ destination request payload p, M p (peer destination request payload p).2

end Rampage.Mesh

namespace Rampage.Replication

open Rampage.Protocol Rampage.Ledger Rampage.Mesh
open Rampage.Controller (Host StatusCode utcNow newUuid newText)
open Rampage.Storage (Durable Spares ResumablePutSpec)
open Handler (Keeps)

variable {P α : Type} {x : Setting} {peer : Peer P} {M : P → P → Prop} {R : Replicator P → Replicator P → Prop}

theorem keeps_onMesh {y : Exchange P α} (h : ∀ s : Replicator P, R s { s with peer := (y s.peer).2 }) : Keeps R (onMesh y) := by
  intro s
  have hs := h s
  unfold onMesh
  rcases hy : y s.peer with ⟨e | a, p⟩
  all_goals
    rw [hy] at hs
    exact hs

theorem keeps_orAnswer {status : StatusCode} {y : Transfer P α} (h : Keeps R y) : Keeps R (orAnswer status y) := by
  intro s
  have hs := h s
  unfold orAnswer
  rcases hy : y s with ⟨e | a, t⟩
  all_goals
    rw [hy] at hs
    exact hs

theorem keeps_readStore [Std.Refl R] (f : Storage.Store → Except Storage.StorageError α) : Keeps R (readStore f) :=
  fun s => refl_of R s

/-- The relation holds across what a transfer is made of. -/
structure Ambient (x : Setting) (M : P → P → Prop) (R : Replicator P → Replicator P → Prop) : Prop where
  draw : ∀ (s : Replicator P) (h : Host), h.toAppState = s.toAppState → s.texts ≤ h.texts → R s { s with toHost := h }
  append : ∀ (s : Replicator P) (e : Event) (n : Nat), R s { s with ledger := s.ledger ++ [e], appends := n }
  nonce : ∀ (s : Replicator P) (n : Nat), R s { s with nonces := n }
  mesh : ∀ (s : Replicator P) (p : P), M s.peer p → R s { s with peer := p }
  store : ∀ (s : Replicator P) (a : Storage.Store), Durable x.cas s.artifactStore a → R s { s with artifactStore := a }

section

variable (h : Ambient x M R)
include h

theorem keeps_utcNow : Keeps R (hosted (utcNow x.world)) := fun s => h.draw s _ rfl le_rfl

theorem keeps_newUuid : Keeps R (hosted (newUuid x.world)) := fun s => h.draw s _ rfl le_rfl

theorem keeps_newText : Keeps R (hosted (newText x.world)) := fun s => h.draw s _ rfl (Nat.le_succ _)

theorem keeps_append (e : Event) : Keeps R (hosted (Controller.append x.world e)) := by
  intro s
  unfold hosted Controller.append
  rcases x.world.appendFailure s.appends with _ | text
  · exact h.append s e _
  · exact h.draw s _ rfl le_rfl

theorem keeps_endpoint (record : MeshEndpointRecordV1) :
    Keeps R (hosted (Controller.endpointAddrFromRecord x.config x.world record)) := by
  intro s
  unfold hosted Controller.endpointAddrFromRecord
  rw [Controller.utcNow_bind]
  cases record.schema == "rampage.mesh-endpoint.v1" && decide (x.world.clock s.reads < record.expiresAt) &&
    x.config.endpointIsWellFormed record
  · exact h.draw s _ rfl le_rfl
  · exact h.draw s _ rfl le_rfl

theorem keeps_onStore {operation : Storage.Store → Storage.Operation α} (hspares : ∀ s, Spares x.cas (operation s).effects s) :
    Keeps R (onStore operation) :=
  fun s => h.store s _ (((hspares s.artifactStore).keep s.artifactStore).applyAll (Durable.refl x.cas s.artifactStore))

theorem keeps_exchange {y : Exchange P α} (hy : Keeps M y) : Keeps R (onMesh y) :=
  keeps_onMesh fun s => h.mesh s _ (hy s.peer)

section

variable [Std.Refl M] [IsTrans P M] (hpeer : peer.Within M)
include hpeer

theorem keeps_put (context : ArtifactTransferContext) (requestId : Uuid) : Keeps R (onMesh (artifactPut peer context requestId)) :=
  keeps_exchange h (keeps_artifactPut fun _ _ _ p => hpeer _ _ _ p)

theorem keeps_putChunk (context : ArtifactTransferContext) (requestId : Uuid) (index : Nat) (digest : String)
    (chunk : Storage.Bytes) : Keeps R (onMesh (artifactPutChunk peer context requestId index digest chunk)) :=
  keeps_exchange h (keeps_artifactPutChunk fun _ _ _ p => hpeer _ _ _ p)

theorem keeps_commit (context : ArtifactTransferContext) (requestId : Uuid) :
    Keeps R (onMesh (artifactCommit peer context requestId)) :=
  keeps_exchange h (keeps_artifactCommit fun _ _ _ p => hpeer _ _ _ p)

theorem keeps_head (context : ArtifactTransferContext) (requestId : Uuid) : Keeps R (onMesh (artifactHead peer context requestId)) :=
  keeps_exchange h (keeps_artifactHead fun _ _ _ p => hpeer _ _ _ p)

theorem keeps_getChunk (context : ArtifactTransferContext) (requestId : Uuid) (index : Nat) :
    Keeps R (onMesh (artifactGetChunk peer context requestId index)) :=
  keeps_exchange h (keeps_artifactGetChunk fun _ _ _ p => hpeer _ _ _ p)

end

variable [IsTrans (Replicator P) R]

theorem keeps_beginSink (spec : ResumablePutSpec) : Keeps R (beginSink x spec) :=
  .bind (keeps_utcNow h) fun now => keeps_onStore h fun s => Storage.spares_begin now spec s

theorem keeps_putSinkChunk (sessionId : String) (index : Nat) (digest : String) (chunk : Storage.Bytes) :
    Keeps R (putSinkChunk x sessionId index digest chunk) :=
  .bind (keeps_utcNow h) fun _ => .bind (fun s => h.nonce s _) fun _ =>
    keeps_onStore h fun s => Storage.spares_putChunk _ _ _ _ _ _ s

theorem keeps_commitSink (sessionId : String) : Keeps R (commitSink x sessionId) :=
  .bind (keeps_utcNow h) fun _ => .bind (keeps_utcNow h) fun _ => keeps_onStore h fun s => Storage.spares_commit _ _ _ s

variable [Std.Refl R]

theorem keeps_authorizeStorage (offer : ResourceOfferV1) (digest : String) (sizeBytes : Nat)
    (storageClass : StorageClass) (operation : ArtifactTransferOperation) :
    Keeps R (authorizeStorage x offer digest sizeBytes storageClass operation) := by
  refine .bind .get fun s => .bind (keeps_utcNow h) fun now => .bind (keeps_newUuid h) fun leaseId =>
    .bind (keeps_newText h) fun nonce => ?_
  cases Governor.authorizeStorageAtEpoch x.config.governor x.config.signStorage offer digest sizeBytes storageClass operation
      s.fencingEpoch now leaseId nonce with
  | error denial => exact .fail _
  | ok lease => exact .pure _

theorem keeps_verifyArtifactReplicaReceipt (identity : NodeIdentityV1) (receipt : ArtifactReplicaReceiptV1) :
    Keeps R (verifyArtifactReplicaReceipt x identity receipt) :=
  .bind (keeps_utcNow h) fun _ => .bind (.ensure _ _) fun _ => .ensure _ _

theorem keeps_remoteOffer (nodeId : Uuid) : Keeps R (remoteOffer x nodeId) := by
  refine .bind .get fun s => .bind (keeps_orAnswer (keeps_utcNow h)) fun now => ?_
  split
  · exact .fail _
  split
  · exact .fail _
  · exact .bind (keeps_orAnswer (keeps_endpoint h _)) fun _ => .pure _

omit h in
theorem keeps_refuseWhileKilled : Keeps R (refuseWhileKilled (P := P)) := .bind .get fun _ => .ensure _ _

theorem keeps_leaseToRead (offer : ResourceOfferV1) (remote : ArtifactRefV1) : Keeps R (leaseToRead x offer remote) :=
  .bind (keeps_orAnswer (keeps_authorizeStorage h _ _ _ _ _)) fun _ =>
    .bind (keeps_orAnswer (keeps_append h _)) fun _ => .pure _

/-! ## Chunks -/

variable [Std.Refl M] [IsTrans P M] (hpeer : peer.Within M)
include hpeer

theorem keeps_sendChunk (endpoint : MeshEndpointRecordV1) (lease : StorageLeaseV1) (source : ArtifactRefV1)
    (sessionId : Uuid) (index : Nat) : Keeps R (sendChunk x peer endpoint lease source sessionId index) :=
  .bind (keeps_readStore _) fun _ => .bind (keeps_newText h) fun _ => .bind (keeps_newUuid h) fun _ =>
    .bind (keeps_putChunk h hpeer _ _ _ _ _) fun _ => .ensure _ _

theorem keeps_fetchChunk (endpoint : MeshEndpointRecordV1) (remote : ArtifactRefV1) (sink : StorageClass × Nat)
    (sessionId : Uuid) (lease : StorageLeaseV1) (index : Nat) :
    Keeps R (fetchChunk x peer endpoint remote sink sessionId lease index) :=
  .bind (keeps_orAnswer (keeps_newText h)) fun _ => .bind (keeps_orAnswer (keeps_newUuid h)) fun _ =>
    .bind (keeps_orAnswer (keeps_getChunk h hpeer _ _ _)) fun _ => .bind (.ensure _ _) fun _ =>
    .bind (keeps_orAnswer (keeps_beginSink h _)) fun _ =>
    .bind (keeps_orAnswer (keeps_putSinkChunk h _ _ _ _)) fun _ => .pure _

theorem keeps_fetchChunks (offer : ResourceOfferV1) (endpoint : MeshEndpointRecordV1) (remote : ArtifactRefV1)
    (sink : StorageClass × Nat) (sessionId : Uuid) (lease : StorageLeaseV1) (indexes : List Nat) :
    Keeps R (fetchChunks x peer offer endpoint remote sink sessionId lease indexes) := by
  cases indexes with
  | nil => exact .pure _
  | cons index rest =>
    refine .bind (keeps_fetchChunk h hpeer _ _ _ _ _ _) fun _ => .forEach (fun i => ?_) rest
    exact .bind (keeps_leaseToRead h _ _) fun _ => keeps_fetchChunk h hpeer _ _ _ _ _ _

/-! ## Accepting evidence -/

/-- And it holds when a receipt is accepted. -/
def Accepting (R : Replicator P → Replicator P → Prop) : Prop :=
  ∀ (s : Replicator P) (rs : List ArtifactReplicaReceiptV1), R s { s with accepted := rs }

variable (haccept : Accepting R)
include haccept

omit hpeer [Std.Refl M] [IsTrans P M] in
theorem keeps_verifyReplicaEvidence (offer : ResourceOfferV1) (lease : StorageLeaseV1) (sessionId : Uuid)
    (nonce : String) (receipt : ArtifactReplicaReceiptV1) :
    Keeps R (verifyReplicaEvidence x offer lease sessionId nonce receipt) := by
  refine .bind .get fun s => ?_
  split
  · exact .fail _
  · exact .bind (keeps_verifyArtifactReplicaReceipt h _ _) fun _ => .bind (.ensure _ _) fun _ => .modify fun s => haccept s _

theorem keeps_replicateUnder (offer : ResourceOfferV1) (endpoint : MeshEndpointRecordV1) (source : ArtifactRefV1)
    (storageClass : StorageClass) (lease : StorageLeaseV1) :
    Keeps R (replicateUnder x peer offer endpoint source storageClass lease) := by
  refine .bind (keeps_append h _) fun _ => .bind (keeps_newText h) fun _ => .bind (keeps_newUuid h) fun _ => ?_
  refine .bind (keeps_put h hpeer _ _) fun _ => .bind (.ensure _ _) fun _ => ?_
  refine .bind (.forEach (fun _ => keeps_sendChunk h hpeer _ _ _ _ _) _) fun _ => ?_
  refine .bind (keeps_newText h) fun _ => .bind (keeps_newUuid h) fun _ => .bind (keeps_commit h hpeer _ _) fun _ => ?_
  exact .bind (.ensure _ _) fun _ => .bind (keeps_verifyReplicaEvidence h haccept _ _ _ _ _) fun _ => .pure _

theorem keeps_replicateToOffer (offer : ResourceOfferV1) (endpoint : MeshEndpointRecordV1) (source : ArtifactRefV1)
    (storageClass : StorageClass) : Keeps R (replicateToOffer x peer offer endpoint source storageClass) :=
  .bind (keeps_authorizeStorage h _ _ _ _ _) fun _ => keeps_replicateUnder h hpeer haccept _ _ _ _ _

theorem keeps_probeReplica (offer : ResourceOfferV1) (artifact : ArtifactRefV1) :
    Keeps R (probeReplica x peer offer artifact) := by
  unfold probeReplica
  split
  · exact .fail _
  refine .bind (keeps_endpoint h _) fun _ => .bind (keeps_authorizeStorage h _ _ _ _ _) fun lease => ?_
  refine .bind (keeps_append h _) fun _ => .bind (keeps_newText h) fun _ => .bind (keeps_newUuid h) fun _ => ?_
  refine .bind (keeps_head h hpeer _ _) fun _ => .bind (.ensure _ _) fun _ => ?_
  exact .bind (keeps_verifyReplicaEvidence h haccept _ _ _ _ _) fun _ => .pure _

end

end Rampage.Replication
