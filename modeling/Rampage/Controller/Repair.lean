/-
The reconciliation cycle of protected storage, `reconcile_protected_artifacts`: it probes the stale replicas that
`select_replica_probes` selected, and copies an artifact with fewer than two verified holders to nodes that are not
recorded to hold it. A repair is decided only in a cycle in which every recorded holder is fresh or selected; for
replicas that stay stale `repair_is_reached_iff` says when there is such a cycle.

What a remote store answers is drawn from `Stores`; an answer stands for what is left of it after the signature and the
bindings of its receipt are verified.
-/
import Rampage.Controller.Probes
import Rampage.Controller.Scenario
import Mathlib.Tactic.Ring

namespace Rampage.Controller

open Rampage.Protocol Rampage.Planner Rampage.Governor Rampage.Ledger Handler

/-! ## The state of the reconciler -/

/-- The controller with the evidence of its replicas, kept by artifact and node. -/
structure Reconciler extends Host where
  replicaEvidence : Table (String × Uuid) ArtifactReplicaReceiptV1
  storageProbeCursor : Nat
  /-- Exchanges with remote stores so far. -/
  exchanges : Nat

/-- The n-th exchange with a remote store: the artifact a probe finds with its receipt, and the receipt of a copy. -/
structure Stores where
  artifactHead : Nat → Except String (ArtifactRefV1 × ArtifactReplicaReceiptV1)
  commitReceipt : Nat → Except String ArtifactReplicaReceiptV1

/-- A cycle acts on the reconciler or fails. -/
abbrev Cycle (α : Type) := Handler Reconciler String α

/-- A request's work in a cycle. -/
def hosted {α : Type} (x : Request α) : Cycle α := fun s =>
  match x s.toHost with
  | (.ok a, h) => (.ok a, { s with toHost := h })
  | (.error e, h) => (.error e.error, { s with toHost := h })

variable (cfg : Config) (w : World) (x : Stores)

/-- The answer of the next exchange. -/
def exchange {α : Type} (answer : Nat → Except String α) : Cycle α := fun s =>
  (answer s.exchanges, { s with exchanges := s.exchanges + 1 })

/-! ## Probes and copies -/

/-- `probe_replica`. -/
def probeReplica (offer : ResourceOfferV1) (artifact : ArtifactRefV1) : Cycle ArtifactReplicaReceiptV1 :=
  match offer.meshEndpoint with
  | none => fail "replica has no signed mesh endpoint"
  | some record => do
    hosted (endpointAddrFromRecord cfg w record)
    let s ← get
    let now ← hosted (utcNow w)
    let leaseId ← hosted (newUuid w)
    let nonce ← hosted (newText w)
    let lease ← hosted (orRefuse .internalServerError Denial.text (authorizeStorageAtEpoch cfg.governor cfg.signStorage
      offer artifact.digest artifact.sizeBytes artifact.storageClass .get s.fencingEpoch now leaseId nonce))
    hosted (append w (.storageLeaseIssued lease.leaseId))
    let _ ← hosted (newText w)
    let (remote, receipt) ← exchange x.artifactHead
    ensure (remote.digest == artifact.digest && remote.sizeBytes == artifact.sizeBytes &&
        remote.mediaType == artifact.mediaType && remote.storageClass == artifact.storageClass && remote.encrypted)
      "replica probe returned a different artifact contract"
    pure receipt

/-- `replicate_to_offer`, with the receipt of the copy. -/
def copyToOffer (offer : ResourceOfferV1) (source : ArtifactRefV1) : Cycle (ArtifactRefV1 × ArtifactReplicaReceiptV1) := do
  let artifact ← hosted (replicateToOffer cfg w offer source .protected)
  let receipt ← exchange x.commitReceipt
  pure (artifact, receipt)

/-- `invalidate_replica`: the evidence goes, the replica stays recorded. -/
def invalidateReplica (digest : String) (nodeId : Uuid) : Cycle Unit := do
  modify fun s => { s with replicaEvidence := s.replicaEvidence.erase (digest, nodeId) }
  hosted (append w (.artifactReplicaInvalidated digest nodeId))

/-! ## The plan of a cycle -/

/-- The recorded holders of one artifact. -/
structure ReplicaGroup where
  digest : String
  artifact : ArtifactRefV1
  nodes : List Uuid
deriving DecidableEq

/-- What a cycle reads before its first probe. -/
structure CyclePlan where
  now : Int
  offers : List ResourceOfferV1
  evidence : Table (String × Uuid) ArtifactReplicaReceiptV1
  selected : Finset (String × Uuid)
  groups : List ReplicaGroup

/-- The replica has a receipt that is valid at this time. -/
def isFresh (evidence : Table (String × Uuid) ArtifactReplicaReceiptV1) (now : Int) (key : String × Uuid) : Bool :=
  (evidence.lookup key).any (·.isValidAt now)

/-- The protected replicas, sorted by digest and node. -/
def protectedReplicas (order : IterOrder) (s : AppState) : List Replica :=
  (((order.apply s.artifactReplicas.entries).filter fun e => e.2.storageClass == .protected).map
    fun e => ⟨e.1.1, e.1.2, e.2⟩).insertionSort fun a b => a.digest < b.digest ∨ a.digest = b.digest ∧ a.nodeId ≤ b.nodeId

/-- The replicas without fresh evidence. -/
def staleReplicas (order : IterOrder) (now : Int) (s : Reconciler) : List Replica :=
  (protectedReplicas order s.toAppState).filter fun r => !isFresh s.replicaEvidence now r.key

/-- The replicas by digest; of several artifacts recorded for a digest the first counts. -/
def groupByDigest (replicas : List Replica) : List ReplicaGroup :=
  (replicas.map (·.digest)).dedup.filterMap fun digest =>
    match replicas.filter (·.digest == digest) with
    | [] => none
    | first :: rest => some ⟨digest, first.artifact, (first :: rest).map (·.nodeId)⟩

/-- The first half of `reconcile_protected_artifacts`. -/
def planCycle (order : IterOrder) (now : Int) (s : Reconciler) : CyclePlan where
  now := now
  offers := (order.apply s.offers.values).filter fun offer => decide (now < offer.expiresAt) && offer.meshEndpoint.isSome
  evidence := s.replicaEvidence
  selected := selectReplicaProbes (staleReplicas order now s) s.storageProbeCursor
  groups := groupByDigest (protectedReplicas order s.toAppState)

/-- The holders with fresh evidence when the cycle starts. -/
def ReplicaGroup.verifiedNodes (g : ReplicaGroup) (p : CyclePlan) : Finset Uuid :=
  (g.nodes.filter fun node => isFresh p.evidence p.now (g.digest, node)).toFinset

/-- `verification_complete`. -/
def ReplicaGroup.verificationComplete (g : ReplicaGroup) (p : CyclePlan) : Bool :=
  g.nodes.all fun node => decide (node ∈ g.verifiedNodes p) || decide ((g.digest, node) ∈ p.selected)

/-! ## The cycle -/

/-- The most repairs in one cycle. -/
def maxAutonomousRepairsPerCycle : Nat := 4

/-- The probes of one artifact's holders. -/
def probeHolders (p : CyclePlan) (g : ReplicaGroup) : List Uuid → Finset Uuid → Cycle (Finset Uuid)
  | [], verified => pure verified
  | node :: rest, verified =>
    if (g.digest, node) ∈ p.selected then
      match p.offers.find? (·.nodeId == node) with
      | none => probeHolders p g rest verified
      | some offer => do
        match ← result (probeReplica cfg w x offer g.artifact) with
        | .ok receipt => do
          modify fun s => { s with replicaEvidence := s.replicaEvidence.insert (g.digest, node) receipt }
          hosted (append w (.artifactHeld .replicaVerified g.artifact node))
          probeHolders p g rest (insert node verified)
        | .error _ => do
          invalidateReplica w g.digest node
          probeHolders p g rest verified
    else probeHolders p g rest verified

/-- The copies of one artifact to nodes that are not recorded to hold it. -/
def repairFrom (digest : String) (source : ArtifactRefV1) : List ResourceOfferV1 → Finset Uuid → Nat → Cycle Nat
  | [], _, repairs => pure repairs
  | offer :: rest, verified, repairs =>
    if 2 ≤ verified.card ∨ maxAutonomousRepairsPerCycle ≤ repairs then pure repairs
    else
      match offer.meshEndpoint with
      | none => repairFrom digest source rest verified repairs
      | some record => do
        match ← result (hosted (endpointAddrFromRecord cfg w record)) with
        | .error _ => repairFrom digest source rest verified repairs
        | .ok _ => do
          match ← result (copyToOffer cfg w x offer source) with
          | .ok (artifact, receipt) => do
            modify fun s =>
              { s with
                artifactReplicas := s.artifactReplicas.insert (digest, offer.nodeId) artifact
                replicaEvidence := s.replicaEvidence.insert (digest, offer.nodeId) receipt }
            hosted (append w (.artifactHeld .repaired artifact offer.nodeId))
            repairFrom digest source rest (insert offer.nodeId verified) (repairs + 1)
          | .error _ => do
            hosted (append w (.other "artifact.repair.attempt_failed" (.text digest)))
            repairFrom digest source rest verified repairs

/-- The part of a cycle for one artifact, after so many repairs. -/
def reconcileGroup (p : CyclePlan) (g : ReplicaGroup) (repairs : Nat) : Cycle Nat := do
  let verified ← probeHolders cfg w x p g g.nodes (g.verifiedNodes p)
  if g.verificationComplete p = false ∨ 2 ≤ verified.card ∨ maxAutonomousRepairsPerCycle ≤ repairs then pure repairs
  else
    let s ← get
    match s.artifactHead g.digest with
    | .error _ => do
      hosted (append w (.other "artifact.repair.blocked" (.text g.digest)))
      pure repairs
    | .ok source =>
      repairFrom cfg w x g.digest source (p.offers.filter fun offer => !g.nodes.contains offer.nodeId) verified repairs

/-- The loop over the groups of a cycle. -/
def reconcileGroups (p : CyclePlan) : List ReplicaGroup → Nat → Cycle Unit
  | [], _ => pure ()
  | g :: rest, repairs => do
    let repairs ← reconcileGroup cfg w x p g repairs
    reconcileGroups p rest repairs

/-- `reconcile_protected_artifacts`. -/
def reconcileProtectedArtifacts : Cycle Unit := do
  let s ← get
  if s.killLatch then pure ()
  else
    let now ← hosted (utcNow w)
    let p := planCycle (w.order s.reads) now s
    modify fun s => { s with storageProbeCursor := s.storageProbeCursor + maxReplicaProbesPerCycle }
    reconcileGroups cfg w x p p.groups 0

/-! ## When verification is complete -/

theorem protectedReplicas_nodup (order : IterOrder) (s : AppState) :
    ((protectedReplicas order s).map Replica.key).Nodup := by
  unfold protectedReplicas
  rw [((List.perm_insertionSort _ _).map Replica.key).nodup_iff, List.map_map]
  have hkeys : (s.artifactReplicas.entries.map fun e => e.1).Nodup := s.artifactReplicas.nodupKeys
  have horder := ((order.perm s.artifactReplicas.entries).map fun e => e.1).nodup_iff.2 hkeys
  exact horder.sublist (List.filter_sublist.map _)

theorem staleReplicas_nodup (order : IterOrder) (now : Int) (s : Reconciler) :
    ((staleReplicas order now s).map Replica.key).Nodup :=
  (protectedReplicas_nodup order s.toAppState).sublist (List.filter_sublist.map _)

/-- A group has the nodes that are recorded for its digest. -/
theorem nodes_of_mem_groups {replicas : List Replica} {g : ReplicaGroup} (h : g ∈ groupByDigest replicas) :
    g.nodes = (replicas.filter (·.digest == g.digest)).map (·.nodeId) := by
  obtain ⟨digest, -, hg⟩ := List.mem_filterMap.1 h
  split at hg
  · cases hg
  · rename_i first rest hmembers
    cases hg
    rw [hmembers]

/-- Every recorded digest has its group. -/
theorem exists_group {replicas : List Replica} {r : Replica} (h : r ∈ replicas) :
    ∃ g ∈ groupByDigest replicas, g.digest = r.digest := by
  have hdigest : r.digest ∈ (replicas.map (·.digest)).dedup := List.mem_dedup.2 (List.mem_map_of_mem h)
  cases hmembers : replicas.filter (·.digest == r.digest) with
  | nil => exact absurd (beq_self_eq_true r.digest) (List.filter_eq_nil_iff.1 hmembers r h)
  | cons first rest =>
    refine ⟨⟨r.digest, first.artifact, (first :: rest).map (·.nodeId)⟩, List.mem_filterMap.2 ⟨_, hdigest, ?_⟩, rfl⟩
    rw [hmembers]

section

variable {cfg w x}

/-- Verification of an artifact is complete if every stale replica of it is selected. -/
theorem verificationComplete_iff {order : IterOrder} {now : Int} {s : Reconciler} {g : ReplicaGroup}
    (h : g ∈ (planCycle order now s).groups) : g.verificationComplete (planCycle order now s) = true ↔
      ∀ c ∈ staleReplicas order now s, c.digest = g.digest → c.key ∈ (planCycle order now s).selected := by
  unfold ReplicaGroup.verificationComplete ReplicaGroup.verifiedNodes
  rw [nodes_of_mem_groups h, List.all_eq_true]
  simp only [List.mem_map, List.mem_filter, beq_iff_eq, Bool.or_eq_true, decide_eq_true_eq, List.mem_toFinset]
  constructor
  · intro hall c hc hdigest
    obtain ⟨hc, hstale⟩ := List.mem_filter.1 hc
    have hkey : (g.digest, c.nodeId) = c.key := by rw [← hdigest]; rfl
    rcases hall c.nodeId ⟨c, ⟨hc, hdigest⟩, rfl⟩ with ⟨_, hfresh⟩ | hsel
    · have hstale : isFresh s.replicaEvidence now c.key = false := by simpa using hstale
      rw [hkey, show isFresh (planCycle order now s).evidence (planCycle order now s).now c.key = false from hstale] at hfresh
      cases hfresh
    · rw [hkey] at hsel
      exact hsel
  · rintro hall node ⟨c, ⟨hc, hdigest⟩, rfl⟩
    have hkey : (g.digest, c.nodeId) = c.key := by rw [← hdigest]; rfl
    rw [hkey]
    by_cases hfresh : isFresh s.replicaEvidence now c.key = true
    · exact Or.inl ⟨⟨c, ⟨hc, hdigest⟩, rfl⟩, hfresh⟩
    · exact Or.inr (hall c (List.mem_filter.2 ⟨hc, by simpa using hfresh⟩) hdigest)

/-- It is complete exactly if the worklist takes every stale replica of the artifact. -/
theorem verificationComplete_iff_probed {order : IterOrder} {now : Int} {s : Reconciler} {g : ReplicaGroup}
    (h : g ∈ (planCycle order now s).groups) : g.verificationComplete (planCycle order now s) = true ↔
      ∀ c ∈ staleReplicas order now s, c.digest = g.digest →
        IsProbed ((staleReplicas order now s).rotate s.storageProbeCursor) c := by
  rw [verificationComplete_iff h]
  refine forall₃_congr fun c hc _ => ?_
  rw [← mem_probed_iff]
  exact mem_selectReplicaProbes (staleReplicas_nodup order now s) hc _

/-- Five stale replicas of an artifact are more than any cycle takes. -/
theorem not_verificationComplete_of_many {order : IterOrder} {now : Int} {s : Reconciler} {g : ReplicaGroup}
    (h : g ∈ (planCycle order now s).groups)
    (hmany : 4 < ((staleReplicas order now s).filter (·.digest == g.digest)).length) :
    g.verificationComplete (planCycle order now s) = false := by
  rw [Bool.eq_false_iff]
  intro hcomplete
  rw [verificationComplete_iff_probed h] at hcomplete
  have hsub : (staleReplicas order now s).filter (·.digest == g.digest) ⊆
      probed (staleReplicas order now s) s.storageProbeCursor := by
    intro c hc
    obtain ⟨hc, hdigest⟩ := List.mem_filter.1 hc
    exact mem_probed_iff.2 (hcomplete c hc (beq_iff_eq.1 hdigest))
  have hnodup : ((staleReplicas order now s).filter (·.digest == g.digest)).Nodup :=
    (List.Nodup.of_map _ (staleReplicas_nodup order now s)).filter _
  have hle := (hnodup.subperm hsub).length_le
  have := length_probed_le (staleReplicas order now s) s.storageProbeCursor
  omega

/-! ## What a cycle does to the cursor and the ledger -/

/-- The cursor stays and the ledger only grows. -/
structure Grows (s t : Reconciler) : Prop where
  cursor : t.storageProbeCursor = s.storageProbeCursor
  ledger : ∃ es, t.ledger = s.ledger ++ es

instance : Std.Refl Grows := ⟨fun s => ⟨rfl, [], (List.append_nil s.ledger).symm⟩⟩

instance : IsTrans Reconciler Grows := ⟨fun s t u h h' => by
  obtain ⟨es, hes⟩ := h.ledger
  obtain ⟨es', hes'⟩ := h'.ledger
  exact ⟨h'.cursor.trans h.cursor, es ++ es', by rw [hes', hes, List.append_assoc]⟩⟩

theorem grows_hosted {α : Type} {K : EventKind → Prop} {y : Request α} (h : Keeps (Quiet K) y) : Keeps Grows (hosted y) := by
  intro s
  have hq := h s.toHost
  unfold hosted
  rcases hy : y s.toHost with ⟨e | a, t⟩
  all_goals
    rw [hy] at hq
    obtain ⟨es, hes, -⟩ := hq.events
    exact ⟨rfl, es, hes⟩

theorem grows_append (e : Event) : Keeps Grows (hosted (append w e)) := grows_hosted (K := fun _ => True) (quiet_append w trivial)

theorem grows_exchange {α : Type} (answer : Nat → Except String α) : Keeps Grows (exchange answer) :=
  fun s => ⟨rfl, [], (List.append_nil s.ledger).symm⟩

/-- A change of the tables that are not about the ledger. -/
theorem grows_modify {f : Reconciler → Reconciler} (hcursor : ∀ s, (f s).storageProbeCursor = s.storageProbeCursor)
    (hledger : ∀ s, (f s).ledger = s.ledger) : Keeps Grows (modify f : Cycle Unit) :=
  fun s => ⟨hcursor s, [], by rw [List.append_nil]; exact hledger s⟩

theorem quiet_endpointAddrFromRecord (record : MeshEndpointRecordV1) :
    Keeps (Quiet fun _ => True) (endpointAddrFromRecord cfg w record) :=
  Keeps.bind (quiet_utcNow w) fun _ => Keeps.ensure _ _

theorem grows_result {α : Type} {y : Cycle α} (h : Keeps Grows y) : Keeps Grows (result y : Cycle (Except String α)) := h

theorem grows_probeReplica (offer : ResourceOfferV1) (artifact : ArtifactRefV1) :
    Keeps Grows (probeReplica cfg w x offer artifact) := by
  unfold probeReplica
  split
  · exact Keeps.fail _
  · refine Keeps.bind (grows_hosted (quiet_endpointAddrFromRecord _)) fun _ => ?_
    refine Keeps.bind Keeps.get fun s => ?_
    refine Keeps.bind (grows_hosted (K := fun _ => True) (quiet_utcNow w)) fun _ => ?_
    refine Keeps.bind (grows_hosted (K := fun _ => True) (quiet_newUuid w)) fun _ => ?_
    refine Keeps.bind (grows_hosted (K := fun _ => True) (quiet_newText w)) fun _ => ?_
    refine Keeps.bind (grows_hosted (K := fun _ => True) (quiet_orRefuse _ _ _)) fun _ => ?_
    refine Keeps.bind (grows_append _) fun _ => ?_
    refine Keeps.bind (grows_hosted (K := fun _ => True) (quiet_newText w)) fun _ => ?_
    refine Keeps.bind (grows_exchange _) fun _ => ?_
    exact Keeps.bind (Keeps.ensure _ _) fun _ => Keeps.pure _

theorem grows_copyToOffer (offer : ResourceOfferV1) (source : ArtifactRefV1) :
    Keeps Grows (copyToOffer cfg w x offer source) :=
  Keeps.bind (grows_hosted (quiet_replicateToOffer cfg w offer source .protected)) fun _ =>
    Keeps.bind (grows_exchange _) fun _ => Keeps.pure _

theorem grows_probeHolders (p : CyclePlan) (g : ReplicaGroup) : ∀ (nodes : List Uuid) (verified : Finset Uuid),
    Keeps Grows (probeHolders cfg w x p g nodes verified)
  | [], verified => Keeps.pure verified
  | node :: rest, verified => by
    have ih := grows_probeHolders p g rest
    unfold probeHolders
    refine Keeps.ite ?_ (ih verified)
    split
    · exact ih verified
    · refine Keeps.bind (grows_result (grows_probeReplica _ _)) fun answer => ?_
      cases answer with
      | ok receipt =>
        refine Keeps.bind (grows_modify (fun _ => rfl) fun _ => rfl) fun _ => ?_
        exact Keeps.bind (grows_append _) fun _ => ih _
      | error e =>
        refine Keeps.bind (Keeps.bind (grows_modify (fun _ => rfl) fun _ => rfl) fun _ => ?_) fun _ => ih verified
        exact grows_append _

theorem grows_repairFrom (digest : String) (source : ArtifactRefV1) :
    ∀ (offers : List ResourceOfferV1) (verified : Finset Uuid) (repairs : Nat),
      Keeps Grows (repairFrom cfg w x digest source offers verified repairs)
  | [], _, repairs => Keeps.pure repairs
  | offer :: rest, verified, repairs => by
    have ih := grows_repairFrom digest source rest
    unfold repairFrom
    refine Keeps.ite (Keeps.pure _) ?_
    split
    · exact ih _ _
    · refine Keeps.bind (grows_result (grows_hosted (quiet_endpointAddrFromRecord _))) fun reachable => ?_
      cases reachable with
      | error e => exact ih _ _
      | ok u =>
        refine Keeps.bind (grows_result (grows_copyToOffer _ _)) fun copied => ?_
        cases copied with
        | ok outcome =>
          refine Keeps.bind (grows_modify (fun _ => rfl) fun _ => rfl) fun _ => ?_
          exact Keeps.bind (grows_append _) fun _ => ih _ _
        | error e => exact Keeps.bind (grows_append _) fun _ => ih _ _

theorem grows_reconcileGroup (p : CyclePlan) (g : ReplicaGroup) (repairs : Nat) :
    Keeps Grows (reconcileGroup cfg w x p g repairs) := by
  refine Keeps.bind (grows_probeHolders p g _ _) fun verified => Keeps.ite (Keeps.pure _) ?_
  refine Keeps.bind Keeps.get fun s => ?_
  split
  · exact Keeps.bind (grows_append _) fun _ => Keeps.pure _
  · exact grows_repairFrom _ _ _ _ _

theorem grows_reconcileGroups (p : CyclePlan) : ∀ (groups : List ReplicaGroup) (repairs : Nat),
    Keeps Grows (reconcileGroups cfg w x p groups repairs)
  | [], _ => Keeps.pure ()
  | g :: rest, _ => Keeps.bind (grows_reconcileGroup p g _) fun _ => grows_reconcileGroups p rest _

/-- A cycle moves the cursor by four, whatever it probed. -/
theorem cursor_reconcile {s : Reconciler} (h : s.killLatch = false) :
    (reconcileProtectedArtifacts cfg w x s).2.storageProbeCursor = s.storageProbeCursor + 4 := by
  unfold reconcileProtectedArtifacts
  rw [get_bind, h, if_neg Bool.false_ne_true]
  exact (grows_reconcileGroups _ _ _ _).cursor

/-! ## An offer is tried -/

/-- The record of a copy that was tried: one of these offers took it, or it failed. -/
def IsAttempt (digest : String) (offers : List ResourceOfferV1) (e : Event) : Prop :=
  e = .other "artifact.repair.attempt_failed" (.text digest) ∨
    ∃ offer ∈ offers, ∃ artifact, e = .artifactHeld .repaired artifact offer.nodeId

theorem IsAttempt.mono {digest : String} {offers offers' : List ResourceOfferV1} {e : Event}
    (h : IsAttempt digest offers e) (hsub : offers ⊆ offers') : IsAttempt digest offers' e :=
  h.imp id fun ⟨offer, ho, artifact, he⟩ => ⟨offer, hsub ho, artifact, he⟩

/-- The endpoint of the offer passes its check at these readings of the clock. -/
def IsReachable (cfg : Config) (w : World) (first last : Nat) (offer : ResourceOfferV1) : Prop :=
  ∃ record, offer.meshEndpoint = some record ∧ record.schema = "rampage.mesh-endpoint.v1" ∧
    cfg.endpointIsWellFormed record = true ∧ ∀ n, first ≤ n → n < last → w.clock n < record.expiresAt

theorem IsReachable.mono {first last first' last' : Nat} {offer : ResourceOfferV1} (h : IsReachable cfg w first last offer)
    (hfirst : first ≤ first') (hlast : last' ≤ last) : IsReachable cfg w first' last' offer := by
  obtain ⟨record, hrecord, hschema, hformed, hclock⟩ := h
  exact ⟨record, hrecord, hschema, hformed, fun n h1 h2 => hclock n (hfirst.trans h1) (lt_of_lt_of_le h2 hlast)⟩

/-- What the check of an endpoint looks at. -/
def endpointPasses (cfg : Config) (w : World) (s : Reconciler) (record : MeshEndpointRecordV1) : Bool :=
  record.schema == "rampage.mesh-endpoint.v1" && decide (w.clock s.reads < record.expiresAt) &&
    cfg.endpointIsWellFormed record

/-- The check of an endpoint reads the clock once. -/
theorem result_endpointAddrFromRecord (record : MeshEndpointRecordV1) (s : Reconciler) :
    (result (hosted (endpointAddrFromRecord cfg w record)) : Cycle (Except String Unit)) s =
      (.ok (if endpointPasses cfg w s record = true then .ok () else
        .error "mesh endpoint record has expired or is malformed"), { s with reads := s.reads + 1 }) := by
  unfold endpointPasses
  by_cases h : (record.schema == "rampage.mesh-endpoint.v1" && decide (w.clock s.reads < record.expiresAt) &&
      cfg.endpointIsWellFormed record) = true
  · rw [if_pos h]
    unfold result hosted endpointAddrFromRecord
    rw [utcNow_bind, h]
    rfl
  · rw [if_neg h]
    rw [Bool.not_eq_true] at h
    unfold result hosted endpointAddrFromRecord
    rw [utcNow_bind, h]
    rfl

theorem hosted_append (hok : ∀ n, w.appendFailure n = none) (e : Event) (s : Reconciler) :
    hosted (append w e) s = (.ok (), { s with ledger := s.ledger ++ [e], appends := s.appends + 1 }) := by
  unfold hosted Controller.append
  rw [hok]

/-- What follows the record of an attempt keeps it. -/
theorem attempt_recorded {digest : String} {offers : List ResourceOfferV1} {e : Event} {s t u : Reconciler}
    (he : IsAttempt digest offers e) (hst : Grows s t) (hu : Grows { t with ledger := t.ledger ++ [e], appends := t.appends + 1 } u) :
    ∃ es, u.ledger = s.ledger ++ es ∧ ∃ e ∈ es, IsAttempt digest offers e := by
  obtain ⟨es, hes⟩ := hst.ledger
  obtain ⟨es', hes'⟩ := hu.ledger
  refine ⟨es ++ e :: es', ?_, e, by simp, he⟩
  rw [hes', hes, List.append_assoc, List.append_assoc, List.singleton_append]

/-- With fewer than two verified holders and a repair to spare, one of the offers is tried if one is reachable. -/
theorem repairFrom_tries (hok : ∀ n, w.appendFailure n = none) (digest : String) (source : ArtifactRefV1) :
    ∀ (offers : List ResourceOfferV1) {verified : Finset Uuid} {repairs : Nat} {s : Reconciler}, verified.card < 2 →
      repairs < maxAutonomousRepairsPerCycle →
      (∃ offer ∈ offers, IsReachable cfg w s.reads (s.reads + offers.length) offer) →
      ∃ es, (repairFrom cfg w x digest source offers verified repairs s).2.ledger = s.ledger ++ es ∧
        ∃ e ∈ es, IsAttempt digest offers e
  | [], _, _, _, _, _, h => by
    obtain ⟨_, hmem, _⟩ := h
    cases hmem
  | offer :: rest, verified, repairs, s, hcard, hrepairs, h => by
    have hrest : ∀ {t : Reconciler}, t.ledger = s.ledger → s.reads ≤ t.reads → t.reads ≤ s.reads + 1 →
        (∃ o ∈ rest, IsReachable cfg w s.reads (s.reads + (offer :: rest).length) o) →
        ∃ es, (repairFrom cfg w x digest source rest verified repairs t).2.ledger = s.ledger ++ es ∧
          ∃ e ∈ es, IsAttempt digest (offer :: rest) e := by
      rintro t hl hfrom hto ⟨o, ho, hreach⟩
      have hlength : (offer :: rest).length = rest.length + 1 := rfl
      obtain ⟨es, hes, e, he, hattempt⟩ := repairFrom_tries hok digest source rest (s := t) hcard hrepairs
        ⟨o, ho, hreach.mono hfrom (by omega)⟩
      exact ⟨es, by rw [hes, hl], e, he, hattempt.mono (List.subset_cons_self _ _)⟩
    -- an offer that is passed over is not the reachable one
    have hskip : ¬ IsReachable cfg w s.reads (s.reads + (offer :: rest).length) offer →
        ∃ o ∈ rest, IsReachable cfg w s.reads (s.reads + (offer :: rest).length) o := by
      obtain ⟨o, ho, hreach⟩ := h
      intro hno
      rcases List.mem_cons.1 ho with rfl | ho
      · exact absurd hreach hno
      · exact ⟨o, ho, hreach⟩
    unfold repairFrom
    rw [if_neg (by omega)]
    cases hendpoint : offer.meshEndpoint with
    | none =>
      refine hrest rfl (Nat.le_refl _) (Nat.le_succ _) (hskip ?_)
      rintro ⟨record, hrecord, -⟩
      rw [hendpoint] at hrecord
      cases hrecord
    | some record =>
      dsimp only
      rw [bind_of_ok (result_endpointAddrFromRecord record s)]
      by_cases hpasses : endpointPasses cfg w s record = true
      · rw [if_pos hpasses]
        dsimp only
        have hgrows := @grows_copyToOffer cfg w x offer source { s with reads := s.reads + 1 }
        rcases hcopy : copyToOffer cfg w x offer source { s with reads := s.reads + 1 } with ⟨e | ⟨artifact, receipt⟩, t⟩
        · have hresult : (result (copyToOffer cfg w x offer source) : Cycle (Except String _)) { s with reads := s.reads + 1 } =
              (.ok (.error e), t) := by
            unfold result
            rw [hcopy]
          rw [hcopy] at hgrows
          rw [bind_of_ok hresult]
          dsimp only
          rw [bind_of_ok (hosted_append hok _ _)]
          exact attempt_recorded (s := s) (Or.inl rfl) ⟨hgrows.cursor, hgrows.ledger⟩ (grows_repairFrom _ _ _ _ _ _)
        · have hresult : (result (copyToOffer cfg w x offer source) : Cycle (Except String _)) { s with reads := s.reads + 1 } =
              (.ok (.ok (artifact, receipt)), t) := by
            unfold result
            rw [hcopy]
          rw [hcopy] at hgrows
          rw [bind_of_ok hresult]
          dsimp only
          rw [modify_bind, bind_of_ok (hosted_append hok _ _)]
          refine attempt_recorded (s := s) (Or.inr ⟨offer, List.mem_cons_self .., artifact, rfl⟩) ?_
            (grows_repairFrom _ _ _ _ _ _)
          exact ⟨hgrows.cursor, hgrows.ledger⟩
      · rw [if_neg hpasses]
        refine hrest rfl (Nat.le_succ _) (Nat.le_refl _) (hskip ?_)
        rintro ⟨record', hrecord, hschema, hformed, hclock⟩
        rw [hendpoint] at hrecord
        cases hrecord
        refine hpasses ?_
        have hlength : (offer :: rest).length = rest.length + 1 := rfl
        have hnow := hclock s.reads (Nat.le_refl _) (by omega)
        simp [endpointPasses, hschema, hformed, hnow]

/-- Wherever the cycle comes to the artifact: if the probes leave fewer than two verified holders, there is a repair to spare
and a source to copy, a reachable offer of a node that is not recorded to hold it makes the cycle try one. -/
def TriesOffer (cfg : Config) (w : World) (x : Stores) (p : CyclePlan) (g : ReplicaGroup) : Prop :=
  ∀ (s t : Reconciler) (repairs : Nat) (verified : Finset Uuid) (source : ArtifactRefV1),
    probeHolders cfg w x p g g.nodes (g.verifiedNodes p) s = (.ok verified, t) → verified.card < 2 →
    repairs < maxAutonomousRepairsPerCycle → t.artifactHead g.digest = .ok source →
    (∃ offer ∈ p.offers, offer.nodeId ∉ g.nodes ∧ IsReachable cfg w t.reads (t.reads + p.offers.length) offer) →
    (∀ n, w.appendFailure n = none) →
    ∃ es, (reconcileGroup cfg w x p g repairs s).2.ledger = t.ledger ++ es ∧
      ∃ e ∈ es, IsAttempt g.digest (p.offers.filter fun offer => !g.nodes.contains offer.nodeId) e

/-- When verification is complete, an offer is tried. -/
theorem triesOffer_of_complete {p : CyclePlan} {g : ReplicaGroup} (h : g.verificationComplete p = true) :
    TriesOffer cfg w x p g := by
  rintro s t repairs verified source hprobes hcard hrepairs hhead ⟨offer, ho, hnew, hreach⟩ hok
  have hsub : (p.offers.filter fun offer => !g.nodes.contains offer.nodeId).length ≤ p.offers.length :=
    List.length_filter_le ..
  have hnode : offer ∈ p.offers.filter fun offer => !g.nodes.contains offer.nodeId := by
    rw [List.mem_filter]
    exact ⟨ho, by simpa using hnew⟩
  have hgo : ¬ (g.verificationComplete p = false ∨ 2 ≤ verified.card ∨ maxAutonomousRepairsPerCycle ≤ repairs) := by
    rintro (hno | hno)
    · rw [h] at hno
      cases hno
    · omega
  unfold reconcileGroup
  rw [bind_of_ok hprobes, if_neg hgo, get_bind, hhead]
  exact repairFrom_tries hok g.digest source _ hcard hrepairs
    ⟨offer, hnode, hreach.mono (Nat.le_refl _) (by omega)⟩

/-! ## Repeated cycles -/

/-- The replicas that are stale when a cycle starts. -/
def staleAt (w : World) (s : Reconciler) : List Replica := staleReplicas (w.order s.reads) (w.clock s.reads) s

/-- The plan of the cycle that starts here. -/
def planAt (w : World) (s : Reconciler) : CyclePlan := planCycle (w.order s.reads) (w.clock s.reads) s

/-- The states in which one cycle after another starts: whatever else happens between them, owner STOP is not active, the
cursor is where the last cycle left it, and the same replicas are stale. -/
structure RepeatedCycles (cfg : Config) (w : World) (x : Stores) (stale : List Replica) (s : Nat → Reconciler) : Prop where
  started : 4 ∣ (s 0).storageProbeCursor
  next : ∀ n, (s (n + 1)).storageProbeCursor = (reconcileProtectedArtifacts cfg w x (s n)).2.storageProbeCursor
  running : ∀ n, (s n).killLatch = false
  stale : ∀ n, staleAt w (s n) = stale

/-- In the cycle that starts here the verification of the artifact is complete, and an offer is tried. -/
def RepairReached (cfg : Config) (w : World) (x : Stores) (s : Reconciler) (digest : String) : Prop :=
  ∃ g ∈ (planAt w s).groups, g.digest = digest ∧ g.verificationComplete (planAt w s) = true ∧
    TriesOffer cfg w x (planAt w s) g

theorem RepeatedCycles.cursor {stale : List Replica} {s : Nat → Reconciler} (h : RepeatedCycles cfg w x stale s) :
    ∃ k, ∀ n, (s n).storageProbeCursor = 4 * (k + n) := by
  obtain ⟨k, hk⟩ := h.started
  refine ⟨k, fun n => ?_⟩
  induction n with
  | zero => exact hk
  | succ n ih =>
    rw [h.next, cursor_reconcile (h.running n), ih]
    omega

/-- A cycle reaches the repair of a recorded artifact if its worklist takes every stale replica of it. -/
theorem repairReached_iff {s : Reconciler} {digest : String}
    (hrecorded : ∃ r ∈ protectedReplicas (w.order s.reads) s.toAppState, r.digest = digest) :
    RepairReached cfg w x s digest ↔
      ∀ c ∈ staleAt w s, c.digest = digest → IsProbed ((staleAt w s).rotate s.storageProbeCursor) c := by
  constructor
  · rintro ⟨g, hg, rfl, hcomplete, -⟩
    exact (verificationComplete_iff_probed hg).1 hcomplete
  · intro h
    obtain ⟨r, hr, rfl⟩ := hrecorded
    obtain ⟨g, hg, hdigest⟩ := exists_group hr
    have hcomplete : g.verificationComplete (planAt w s) = true :=
      (verificationComplete_iff_probed (g := g) hg).2 (by rw [hdigest]; exact h)
    exact ⟨g, hg, hdigest, hcomplete, triesOffer_of_complete hcomplete⟩

/-- Whole turns of the worklist change nothing. -/
theorem rotate_add_turns (l : List Replica) (n k : Nat) : l.rotate (4 * (n + k * l.length)) = l.rotate (4 * n) := by
  rw [← List.rotate_mod, show 4 * (n + k * l.length) = 4 * n + l.length * (4 * k) by ring, Nat.add_mul_mod_self_left,
    List.rotate_mod]

end

/-- While the same replicas stay stale, the repair of an artifact is reached in some cycle exactly if the worklist, read
from some multiple of four, takes every stale replica of it. -/
theorem repair_is_reached_iff (cfg : Config) (w : World) (x : Stores) (s : Nat → Reconciler) (stale : List Replica)
    (h : RepeatedCycles cfg w x stale s) (digest : String)
    (hrecorded : ∀ n, ∃ r ∈ protectedReplicas (w.order (s n).reads) (s n).toAppState, r.digest = digest) :
    (∃ n, RepairReached cfg w x (s n) digest) ↔
      ∃ n, ∀ c ∈ stale, c.digest = digest → IsProbed (stale.rotate (4 * n)) c := by
  obtain ⟨k, hcursor⟩ := h.cursor
  have hcycle : ∀ n, RepairReached cfg w x (s n) digest ↔
      ∀ c ∈ stale, c.digest = digest → IsProbed (stale.rotate (4 * (k + n))) c := by
    intro n
    rw [repairReached_iff (hrecorded n), h.stale, hcursor]
  simp only [hcycle]
  constructor
  · rintro ⟨n, hn⟩
    exact ⟨k + n, hn⟩
  · rintro ⟨n, hn⟩
    -- the start comes up again after as many turns as cycles have gone before
    by_cases hnil : stale = []
    · exact ⟨0, by simp [hnil]⟩
    · have hpos : 0 < stale.length := List.length_pos_iff.2 hnil
      have hge : k ≤ n + k * stale.length := (Nat.le_mul_of_pos_right k hpos).trans (Nat.le_add_left _ _)
      refine ⟨n + k * stale.length - k, ?_⟩
      rw [Nat.add_sub_cancel' hge, rotate_add_turns]
      exact hn

/-! ## Holders that are offline for good -/

section

open Scenario

/-- No remote store answers. -/
def offline : Stores where
  artifactHead := fun _ => .error "offline"
  commitReceipt := fun _ => .error "offline"

/-- A large artifact is recorded at these nodes, without any evidence, and its source is at hand. -/
def heldBy (nodes : List Uuid) (n : Nat) : Reconciler :=
  { start with
    artifactReplicas := Table.insertAll (nodes.map fun node => ((largeReplica node).key, (largeReplica node).artifact)) ∅
    artifactHead := fun _ => .ok (largeReplica 0).artifact
    replicaEvidence := ∅
    storageProbeCursor := 4 * n
    exchanges := 0 }

theorem repeatedCycles_heldBy (nodes : List Uuid) :
    RepeatedCycles config world offline (staleAt world (heldBy nodes 0)) (heldBy nodes) where
  started := ⟨0, rfl⟩
  next := fun n => (cursor_reconcile (s := heldBy nodes n) rfl).symm
  running := fun _ => rfl
  stale := fun _ => rfl

/-- Two dead holders are both probed in the first cycle. -/
theorem repair_is_reached_two : ∃ n, RepairReached config world offline (heldBy [1, 2] n) (largeReplica 0).digest := by
  have hrecorded : ∃ r ∈ protectedReplicas (world.order 0) (heldBy [1, 2] 0).toAppState, r.digest = (largeReplica 0).digest :=
    ⟨largeReplica 1, by decide +kernel, rfl⟩
  refine (repair_is_reached_iff config world offline (heldBy [1, 2]) _ (repeatedCycles_heldBy [1, 2])
    (largeReplica 0).digest fun _ => hrecorded).2 ⟨0, fun c hc _ => mem_probed_iff.1 ?_⟩
  have hstale : staleAt world (heldBy [1, 2] 0) = [largeReplica 1, largeReplica 2] := by decide +kernel
  rw [hstale] at hc ⊢
  revert c
  decide

/-- With five dead holders no cycle comes to the repair. -/
theorem dead_holders_starve_repair : ¬ ∀ (cfg : Config) (w : World) (x : Stores) (s : Nat → Reconciler)
    (stale : List Replica), RepeatedCycles cfg w x stale s → ∀ digest : String,
    (∀ n, ∃ r ∈ protectedReplicas (w.order (s n).reads) (s n).toAppState, r.digest = digest) →
    (∀ n, ∃ source, (s n).artifactHead digest = .ok source) →
    (∀ n, ((protectedReplicas (w.order (s n).reads) (s n).toAppState).filter fun r => r.digest == digest &&
      isFresh (s n).replicaEvidence (w.clock (s n).reads) r.key).length < 2) →
    ∃ n, RepairReached cfg w x (s n) digest := by
  intro h
  have hheld : largeReplica 1 ∈ protectedReplicas (world.order 0) (heldBy [1, 2, 3, 4, 5] 0).toAppState ∧
      ((protectedReplicas (world.order 0) (heldBy [1, 2, 3, 4, 5] 0).toAppState).filter fun r =>
        r.digest == (largeReplica 0).digest && isFresh (heldBy [1, 2, 3, 4, 5] 0).replicaEvidence (world.clock 0) r.key).length < 2 ∧
      4 < ((staleAt world (heldBy [1, 2, 3, 4, 5] 0)).filter (·.digest == (largeReplica 0).digest)).length := by
    decide +kernel
  obtain ⟨hmem, hfew, hmany⟩ := hheld
  obtain ⟨n, g, hg, hdigest, hcomplete, -⟩ := h config world offline (heldBy [1, 2, 3, 4, 5]) _ (repeatedCycles_heldBy _)
    (largeReplica 0).digest (fun _ => ⟨largeReplica 1, hmem, rfl⟩) (fun _ => ⟨_, rfl⟩) fun _ => hfew
  replace hmany : 4 < ((staleAt world (heldBy [1, 2, 3, 4, 5] n)).filter (·.digest == (largeReplica 0).digest)).length := hmany
  rw [← hdigest] at hmany
  cases hcomplete.symm.trans (not_verificationComplete_of_many hg hmany)

end

end Rampage.Controller
