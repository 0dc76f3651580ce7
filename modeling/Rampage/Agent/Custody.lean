/-
Custody: a worker has what it signed for. A replica receipt is signed only for an artifact that has just verified, and
what verifies is never given up, so of every receipt a worker ever signed it can give the artifact back, whatever
reached its gateway since and wherever its process died (`signed_artifact_is_held`).
-/
import Rampage.Agent.Gateway
import Rampage.Lib.Triple
import Rampage.Storage.Durable

namespace Rampage.Agent

open Rampage.Protocol Rampage.Storage
open Handler (Keeps Triple)

variable {w : Worker} {g g' g'' : Gateway} {α : Type}

/-! ## What happens at a worker -/

/-- Something reaches the gateway, the process dies inside a call of the store, or a file of a transfer is lost. -/
inductive Happening
  | input (i : Input)
  | fault (e : Event)

/-- What a happening does to the worker. -/
def happen (w : Worker) : Happening → Gateway → Gateway
  | .input i, g => (gatewayStep w i g).2
  | .fault e, g => { g with store := e.apply w.cas g.store }

/-- One thing after the other. -/
def happens (w : Worker) (hs : List Happening) (g : Gateway) : Gateway := hs.foldl (fun g h => happen w h g) g

theorem happens_append (hs hs' : List Happening) (g : Gateway) : happens w (hs ++ hs') g = happens w hs' (happens w hs g) :=
  List.foldl_append ..

/-! ## Receipts and artifacts -/

/-- The artifact of a receipt is in the store. -/
def Held (w : Worker) (r : ArtifactReplicaReceiptV1) (s : Store) : Prop :=
  ∃ a, verify w.cas r.digest s = .ok a ∧ a.sizeBytes = r.sizeBytes ∧ a.storageClass = r.storageClass

/-- Every receipt that was signed is the node's, and its artifact is in the store. -/
def Backed (w : Worker) (g : Gateway) : Prop := ∀ r ∈ g.signed, r.nodeId = w.nodeId ∧ Held w r g.store

/-- What was held is held, and no receipt was signed. -/
structure Calm (w : Worker) (g g' : Gateway) : Prop where
  store : Durable w.cas g.store g'.store
  signed : g'.signed = g.signed

instance : Std.Refl (Calm w) := ⟨fun g => ⟨Durable.refl w.cas g.store, rfl⟩⟩

instance : IsTrans Gateway (Calm w) := ⟨fun _ _ _ h h' => ⟨h.store.trans h'.store, h'.signed.trans h.signed⟩⟩

theorem Held.durable {r : ArtifactReplicaReceiptV1} {s t : Store} (h : Held w r s) (hd : Durable w.cas s t) : Held w r t := by
  obtain ⟨a, ha, hrest⟩ := h
  exact ⟨a, hd.verify ha, hrest⟩

theorem Backed.calm (h : Backed w g) (hc : Calm w g g') : Backed w g' := by
  intro r hr
  rw [hc.signed] at hr
  exact ⟨(h r hr).1, (h r hr).2.durable hc.store⟩

theorem calm_perform {operation : Store → Operation α} {authorities : Store → List (String × Nat)}
    (h : ∀ s, Spares w.cas (operation s).effects s) : Keeps (Calm w) (perform operation authorities) :=
  fun g => ⟨((h g.store).keep g.store).applyAll (Durable.refl w.cas g.store), rfl⟩

theorem calm_readStore (f : Store → Except StorageError α) : Keeps (Calm w) (readStore f) := fun g => refl_of (Calm w) g

theorem calm_beginPut (now : Int) (spec : ResumablePutSpec) : Keeps (Calm w) (beginPut w now spec) :=
  calm_perform fun s => spares_begin now spec s

theorem calm_acceptLease (now : Int) (lease : StorageLeaseV1) : Keeps (Calm w) (acceptLease now lease) :=
  calm_perform fun s => spares_op (.acceptAuthority now "governor" lease.fencingEpoch lease.nonce lease.expiresAt) s

/-- A step that signs nothing. -/
theorem backed_triple {y : Serve α} (h : Keeps (Calm w) y) : Triple (Backed w) y (fun _ => Backed w) (Backed w) :=
  h.triple_of fun _ _ hg hc => hg.calm hc

/-! ## One request -/

theorem perform_ok {operation : Store → Operation α} {authorities : Store → List (String × Nat)} {a : α}
    (h : perform operation authorities g = (.ok a, g')) : (operation g.store).result = .ok a ∧
      g'.store = storeEffects.applyAll (operation g.store).effects g.store := by
  unfold perform at h
  rw [Prod.mk.injEq] at h
  obtain ⟨hresult, rfl⟩ := h
  cases hr : (operation g.store).result with
  | error e =>
    rw [hr] at hresult
    cases hresult
  | ok b =>
    rw [hr] at hresult
    cases hresult
    exact ⟨rfl, rfl⟩

theorem readStore_ok {f : Store → Except StorageError α} {a : α} (h : readStore f g = (.ok a, g')) :
    f g.store = .ok a ∧ g' = g := by
  unfold readStore at h
  rw [Prod.mk.injEq] at h
  obtain ⟨hresult, rfl⟩ := h
  cases hf : f g.store with
  | error e =>
    rw [hf] at hresult
    cases hresult
  | ok b =>
    rw [hf] at hresult
    cases hresult
    exact ⟨rfl, rfl⟩

/-- The artifact of a lease is in the store. -/
def HeldFor (w : Worker) (lease : StorageLeaseV1) (a : ArtifactRefV1) (g : Gateway) : Prop :=
  verify w.cas lease.digest g.store = .ok a ∧ a.sizeBytes = lease.sizeBytes ∧ a.storageClass = lease.storageClass

theorem triple_signedReplicaReceipt (request : ArtifactTransferRequestV2) (d : Draws) (a : ArtifactRefV1) :
    Triple (fun g => HeldFor w request.lease a g ∧ Backed w g) (signedReplicaReceipt w request d) (fun _ => Backed w) (Backed w) := by
  intro g hg
  refine ⟨fun r g' h => ?_, fun e g' h => (by cases h)⟩
  cases h
  intro r hr
  rcases List.mem_append.1 hr with hr | hr
  · exact hg.2 r hr
  · obtain rfl := List.mem_singleton.1 hr
    exact ⟨rfl, a, hg.1⟩

/-- A commit puts the artifact of its lease in the store. -/
theorem triple_commitPut (d : Draws) (request : ArtifactTransferRequestV2) :
    Triple (fun g => Backed w g ∧ ∃ session, AList.lookup (simple request.sessionId) g.store.index.sessions = some session ∧
        session.digest = request.lease.digest ∧ session.sizeBytes = request.lease.sizeBytes ∧
        session.storageClass = request.lease.storageClass)
      (commitPut w d.storedAt d.createdAt (simple request.sessionId))
      (fun a g => HeldFor w request.lease a g ∧ Backed w g) (Backed w) := by
  intro g ⟨hg, session, hs, hdigest, hsize, hclass⟩
  have hcalm : Calm w g (commitPut w d.storedAt d.createdAt (simple request.sessionId) g).2 :=
    calm_perform (fun s => spares_commit _ _ _ s) g
  refine ⟨fun a g' h => ?_, fun e g' h => ?_⟩
  · rw [h] at hcalm
    obtain ⟨hresult, hstore⟩ := perform_ok h
    obtain ⟨hverify, -, hsize', -, hclass', -⟩ := commit_answer hs hresult
    rw [← hstore, hdigest] at hverify
    exact ⟨⟨hverify, hsize'.trans hsize, hclass'.trans hclass⟩, hg.calm hcalm⟩
  · rw [h] at hcalm
    exact hg.calm hcalm

theorem triple_beginPut (d : Draws) (request : ArtifactTransferRequestV2) :
    Triple (Backed w) (beginPut w d.acceptedAt (resumableSpec request))
      (fun _ g => Backed w g ∧ ∃ session, AList.lookup (simple request.sessionId) g.store.index.sessions = some session ∧
        session.digest = request.lease.digest ∧ session.sizeBytes = request.lease.sizeBytes ∧
        session.storageClass = request.lease.storageClass) (Backed w) := by
  intro g hg
  have hcalm := calm_beginPut (w := w) d.acceptedAt (resumableSpec request) g
  refine ⟨fun st g' h => ?_, fun e g' h => ?_⟩
  · rw [h] at hcalm
    obtain ⟨hresult, hstore⟩ := perform_ok h
    obtain ⟨session, hs, hdigest, hcontract⟩ := begin_contract hresult
    simp only [sessionArtifact, ArtifactRow.mk.injEq] at hcontract
    rw [← hstore] at hs
    exact ⟨hg.calm hcalm, session, hs, hdigest, hcontract.1, hcontract.2.2.1⟩
  · rw [h] at hcalm
    exact hg.calm hcalm

theorem triple_verifyStored (request : ArtifactTransferRequestV2) :
    Triple (Backed w) (readStore (verify w.cas request.lease.digest))
      (fun a g => verify w.cas request.lease.digest g.store = .ok a ∧ Backed w g) (Backed w) := by
  intro g hg
  have hcalm : Calm w g (readStore (verify w.cas request.lease.digest) g).2 := calm_readStore _ g
  refine ⟨fun a g' h => ?_, fun e g' h => ?_⟩
  · obtain ⟨hverify, rfl⟩ := readStore_ok h
    exact ⟨hverify, hg⟩
  · rw [h] at hcalm
    exact hg.calm hcalm

/-- Every checked request keeps receipts backed. -/
theorem triple_serveAction (d : Draws) (request : ArtifactTransferRequestV2) (payload : Bytes) :
    Triple (Backed w) (serveAction w d request payload) (fun _ => Backed w) (Backed w) := by
  have hbegin : Triple (Backed w) (serveBegin w d request) (fun _ => Backed w) (Backed w) :=
    backed_triple (.bind (calm_beginPut _ _) fun _ => .pure _)
  unfold serveAction
  cases request.action with
  | begin => exact hbegin
  | status => exact hbegin
  | putChunk =>
    exact backed_triple (.bind (calm_beginPut _ _) fun _ =>
      .bind (calm_perform fun s => spares_putChunk _ _ _ _ _ _ s) fun _ => .pure _)
  | commit =>
    refine .bind (triple_beginPut d request) fun _ => .bind (triple_commitPut d request) fun a => ?_
    refine .bind (Triple.ensure (G := fun _ g => HeldFor w request.lease a g ∧ Backed w g) (fun _ hg _ => hg)
      fun _ hg _ => hg.2) fun _ => .bind (triple_signedReplicaReceipt request d a) fun _ => ?_
    exact .bind (backed_triple (calm_readStore _)) fun _ => .pure fun _ hg => hg
  | getChunk =>
    exact backed_triple (.bind (calm_acceptLease _ _) fun _ => .bind (calm_readStore _) fun _ => .bind (.ensure _ _) fun _ =>
      .bind (calm_readStore _) fun _ => .pure _)
  | head =>
    refine .bind (backed_triple (calm_acceptLease _ _)) fun _ => .bind (triple_verifyStored request) fun a => ?_
    refine .bind (Triple.ensure (G := fun _ g => HeldFor w request.lease a g ∧ Backed w g) (fun g hg hc => ?_)
      fun _ hg _ => hg.2) fun _ => ?_
    · obtain ⟨hclass, hsize⟩ := of_decide_eq_true hc
      exact ⟨⟨hg.1, hsize, hclass⟩, hg.2⟩
    · exact .bind (triple_signedReplicaReceipt request d a) fun _ => .pure fun _ hg => hg

/-! ## Runs -/

theorem backed_happen (h : Happening) (hg : Backed w g) : Backed w (happen w h g) := by
  cases h with
  | fault e => exact hg.calm ⟨durable_event e g.store, rfl⟩
  | input i =>
    cases i with
    | store op => exact hg.calm ⟨durable_event (.call op) g.store, rfl⟩
    | request d incoming =>
      unfold happen gatewayStep
      dsimp only
      split
      · exact hg
      have hserve : Triple (Backed w) (serveRequest w d incoming) (fun _ => Backed w) (Backed w) := by
        refine .bind (.ofExcept (fun _ _ _ hg => hg) fun _ _ _ hg => hg) fun _ => ?_
        exact .bind (.ofExcept (fun _ _ _ hg => hg) fun _ _ _ hg => hg) fun _ => triple_serveAction _ _ _
      rcases hx : serveRequest w d incoming g with ⟨e | a, g'⟩
      · exact (hserve g hg).2 e g' hx
      · exact (hserve g hg).1 a g' hx

theorem backed_happens (hs : List Happening) (hg : Backed w g) : Backed w (happens w hs g) := by
  induction hs generalizing g with
  | nil => exact hg
  | cons h hs ih => exact ih (backed_happen h hg)

/-! ## Signed receipts stay on record -/

/-- No signed receipt is forgotten. -/
def Grows (g g' : Gateway) : Prop := g.signed <+: g'.signed

instance : Std.Refl Grows := ⟨fun _ => List.prefix_rfl⟩

instance : IsTrans Gateway Grows := ⟨fun _ _ _ => List.IsPrefix.trans⟩

theorem grows_perform {operation : Store → Operation α} {authorities : Store → List (String × Nat)} :
    Keeps Grows (perform operation authorities) := fun g => List.prefix_refl g.signed

theorem grows_readStore (f : Store → Except StorageError α) : Keeps Grows (readStore f) := fun g => List.prefix_refl g.signed

theorem grows_signedReplicaReceipt (request : ArtifactTransferRequestV2) (d : Draws) :
    Keeps Grows (signedReplicaReceipt w request d) := fun _ => List.prefix_append _ _

theorem grows_serveAction (d : Draws) (request : ArtifactTransferRequestV2) (payload : Bytes) :
    Keeps Grows (serveAction w d request payload) := by
  have hbegin : Keeps Grows (serveBegin w d request) := .bind grows_perform fun _ => .pure _
  unfold serveAction
  cases request.action with
  | begin => exact hbegin
  | status => exact hbegin
  | putChunk => exact .bind grows_perform fun _ => .bind grows_perform fun _ => .pure _
  | commit =>
    exact .bind grows_perform fun _ => .bind grows_perform fun _ => .bind (.ensure _ _) fun _ =>
      .bind (grows_signedReplicaReceipt _ _) fun _ => .bind (grows_readStore _) fun _ => .pure _
  | getChunk =>
    exact .bind grows_perform fun _ => .bind (grows_readStore _) fun _ => .bind (.ensure _ _) fun _ =>
      .bind (grows_readStore _) fun _ => .pure _
  | head =>
    exact .bind grows_perform fun _ => .bind (grows_readStore _) fun _ => .bind (.ensure _ _) fun _ =>
      .bind (grows_signedReplicaReceipt _ _) fun _ => .pure _

theorem grows_happen (h : Happening) (g : Gateway) : Grows g (happen w h g) := by
  cases h with
  | fault e => exact List.prefix_refl g.signed
  | input i =>
    cases i with
    | store op => exact List.prefix_refl g.signed
    | request d incoming =>
      unfold happen gatewayStep
      dsimp only
      split
      · exact List.prefix_refl g.signed
      · exact Keeps.bind (.ofExcept _) (fun _ => .bind (.ofExcept _) fun _ => grows_serveAction _ _ _) g

theorem grows_happens (hs : List Happening) (g : Gateway) : Grows g (happens w hs g) := by
  induction hs generalizing g with
  | nil => exact List.prefix_refl g.signed
  | cons h hs ih => exact (grows_happen h g).trans (ih _)

/-! ## Receipts that are answered -/

/-- A receipt that is answered is the node's, and on record. -/
def Answered (w : Worker) (result : ArtifactOperationResult) (g : Gateway) : Prop :=
  ∀ r, result.replicaReceipt = some r → r.nodeId = w.nodeId ∧ r ∈ g.signed

theorem triple_answered (d : Draws) (request : ArtifactTransferRequestV2) (payload : Bytes) :
    Triple (fun _ => True) (serveAction w d request payload) (Answered w) fun _ => True := by
  have hstep : ∀ {β : Type} (y : Serve β), Triple (fun _ => True) y (fun _ _ => True) fun _ => True :=
    fun _ _ _ => ⟨fun _ _ _ => trivial, fun _ _ _ => trivial⟩
  have hsilent : ∀ {result : ArtifactOperationResult}, result.replicaReceipt = none →
      Triple (fun _ => True) (pure result : Serve ArtifactOperationResult) (Answered w) fun _ => True :=
    fun hnone => .pure fun _ _ r hr => by
      rw [hnone] at hr
      cases hr
  -- only commit and head sign a receipt
  have hsigned : Triple (fun _ => True) (signedReplicaReceipt w request d)
      (fun r g => r.nodeId = w.nodeId ∧ r ∈ g.signed) fun _ => True := by
    intro g _
    refine ⟨fun r g' h => ?_, fun e g' h => (by cases h)⟩
    cases h
    exact ⟨rfl, List.mem_append_right _ (List.mem_singleton.2 rfl)⟩
  have hbegin : Triple (fun _ => True) (serveBegin w d request) (Answered w) fun _ => True :=
    .bind (hstep _) fun _ => hsilent rfl
  unfold serveAction
  cases request.action with
  | begin => exact hbegin
  | status => exact hbegin
  | putChunk => exact .bind (hstep _) fun _ => .bind (hstep _) fun _ => hsilent rfl
  | getChunk =>
    exact .bind (hstep _) fun _ => .bind (hstep _) fun _ => .bind (hstep _) fun _ => .bind (hstep _) fun _ => hsilent rfl
  | commit =>
    refine .bind (hstep _) fun _ => .bind (hstep _) fun _ => .bind (hstep _) fun _ => .bind hsigned fun receipt => ?_
    have hread : Triple (fun g => receipt.nodeId = w.nodeId ∧ receipt ∈ g.signed)
        (readStore (resumablePutStatus (simple request.sessionId)) : Serve ResumablePutStatus)
        (fun _ g => receipt.nodeId = w.nodeId ∧ receipt ∈ g.signed) fun _ => True :=
      fun g hg => ⟨fun a g' h => (readStore_ok h).2 ▸ hg, fun _ _ _ => trivial⟩
    exact hread.bind fun _ => .pure fun g hg r hr => by
      cases hr
      exact hg
  | head =>
    refine .bind (hstep _) fun _ => .bind (hstep _) fun _ => .bind (hstep _) fun _ => .bind hsigned fun receipt => ?_
    exact .pure fun g hg r hr => by
      cases hr
      exact hg

/-- A receipt in a response is the node's, and on record. -/
theorem receipt_of_response {d : Draws} {incoming : Incoming} {response : ArtifactTransferResponseV2} {r : ArtifactReplicaReceiptV1}
    (h : gatewayStep w (.request d incoming) g = (some response, g')) (hr : response.replicaReceipt = some r) :
    r.nodeId = w.nodeId ∧ r ∈ g'.signed := by
  unfold gatewayStep at h
  dsimp only at h
  split at h
  · cases h
  have hserve : Triple (fun _ => True) (serveRequest w d incoming) (Answered w) fun _ => True :=
    .bind (.ofExcept (Q := fun _ _ => True) (fun _ _ _ _ => trivial) fun _ _ _ _ => trivial) fun _ =>
      .bind (.ofExcept (Q := fun _ _ => True) (fun _ _ _ _ => trivial) fun _ _ _ _ => trivial) fun _ => triple_answered _ _ _
  rcases hx : serveRequest w d incoming g with ⟨e | result, g₁⟩
  · rw [hx] at h
    cases h
    cases hr
  · rw [hx] at h
    cases h
    exact (hserve g trivial).1 result _ hx r hr

/-- **A worker has what it signed for.** Take any time at which a worker with a fresh record has served for a while: of
every receipt it has signed by then, at that time and at any later one, the artifact verifies in its store with the
receipt's size and class, and the store gives it back as the bytes its digest stands for. -/
theorem signed_artifact_is_held (w : Worker) (s : Store) (before after : List Happening) (r : ArtifactReplicaReceiptV1)
    (hr : r ∈ (happens w before (Gateway.initial s)).signed) :
    r.nodeId = w.nodeId ∧
      let later := (happens w after (happens w before (Gateway.initial s))).store
      ∃ a bytes, verify w.cas r.digest later = .ok a ∧ a.sizeBytes = r.sizeBytes ∧ a.storageClass = r.storageClass ∧
        get w.cas r.digest later = .ok bytes ∧ sha256Digest w.cas bytes = r.digest ∧ bytes.length = r.sizeBytes := by
  have hinitial : Backed w (Gateway.initial s) := fun r hr => by cases hr
  have hbacked : Backed w (happens w after (happens w before (Gateway.initial s))) :=
    backed_happens after (backed_happens before hinitial)
  obtain ⟨hnode, a, hverify, hsize, hclass⟩ := hbacked r ((grows_happens after _).subset hr)
  obtain ⟨bytes, hget, hdigest, hlength⟩ := get_of_verify hverify
  exact ⟨hnode, a, bytes, hverify, hsize, hclass, hget, hdigest, hlength.trans hsize⟩

/-- The byte is committed and signed for; then the session is begun again under the old lease and a put of it crashes. -/
theorem signed_artifact_is_held_one_byte :
    let before : List Happening := [.input (.request draws (incomingStale .putChunk)), .input (.request draws (incomingStale .commit))]
    let after : List Happening := [.input acceptNewer, .input (.request draws (incomingStale .begin)),
      .fault (.crash (.put 0 (fun _ => Scenario.nonce 2) [1] ⟨"text/plain", .cache, 1⟩) 1 none)]
    ∃ bytes, get worker.cas (sha256Digest Scenario.cas [1])
        (happens worker after (happens worker before (Gateway.initial Store.empty))).store = .ok bytes ∧
      sha256Digest worker.cas bytes = sha256Digest Scenario.cas [1] ∧ bytes.length = 1 := by
  intro before after
  obtain ⟨-, a, bytes, -, -, -, hbytes⟩ := signed_artifact_is_held worker Store.empty before after
    ⟨ArtifactReplicaReceiptV1.schemaName, 11, 1, 5, 7, sha256Digest Scenario.cas [1], 1, .cache, "challenge", 0, minutes 10, 1,
      "receipt"⟩ (by decide +kernel)
  exact ⟨bytes, hbytes⟩

end Rampage.Agent
