/-
The controller at the granularity of its locks, for the handlers that run beside the admission gate: `register_offer`,
the Remote Assist handlers and `close_remote_desktop`, with `local_stop` and `revoke_node`, which hold the gate over
many locks. A handler is a thread whose points are its lock acquisitions; the scheduler picks the next thread, so every
interleaving is a list of acts. A thread that has read something keeps it across the locks it takes next, and is marked
when STOP, a close or a revocation overtakes it.
-/
import Rampage.Governor.Remote
import Rampage.Controller.Run
import Rampage.Lib.Thread

namespace Rampage.Controller

open Rampage.Protocol Rampage.Planner Rampage.Governor Rampage.Ledger Handler

/-- `RemoteDesktopSession`. -/
structure RemoteDesktopSession where
  lease : RemoteDesktopLeaseV1
  controlStarted : Bool
deriving DecidableEq

/-- The controller with the two tables that do not survive the process. -/
structure Desk extends Host where
  remoteDesktopSessions : Table Uuid RemoteDesktopSession
  offerEvidenceRecordedAt : Table Uuid Int

/-- The controller's own endpoint, and the schemes and contracts an offer is checked against. -/
structure Peers where
  endpointId : String
  signRemoteDesktop : RemoteDesktopLeaseV1 → String
  verifyOfferSignature : String → ResourceOfferV1 → Bool
  verifyMeshEndpoint : String → MeshEndpointRecordV1 → Except Denial Unit
  /-- `validate_model_runtime_contracts`. -/
  validateModelRuntimeContracts : ResourceOfferV1 → Except String Unit
  benchmarkIsValid : ResourceOfferV1 → LinkBenchmarkV1 → Bool

/-- A thread acts on the desk or fails. -/
abbrev Task (α : Type) := Handler Desk HttpError α

/-- A request that does not see the two tables. -/
def onHost {α : Type} (x : Request α) : Task α := fun d =>
  ((x d.toHost).1, { d with toHost := (x d.toHost).2 })

variable (cfg : Config) (x : Peers) (w : World)

/-! ## Offers -/

/-- `verify_offer`. -/
def verifyOffer (identity : NodeIdentityV1) (offer : ResourceOfferV1) : Except Denial Unit :=
  if identity.nodeId ≠ offer.nodeId then .error .nodeMismatch
  else if x.verifyOfferSignature identity.publicKey offer then .ok ()
  else .error .invalidSignature

/-- `device_kind_label`. -/
def deviceKindLabel : DeviceKind → String
  | .desktop => "desktop"
  | .laptop => "laptop"
  | .server => "server"
  | .steamDeck => "steam_deck"
  | .phone => "phone"
  | .tablet => "tablet"
  | .console => "console"

/-- `validate_offer_identity_binding`. -/
def validateOfferIdentityBinding (identity : NodeIdentityV1) (offer : ResourceOfferV1) : Except String Unit :=
  if offer.resources = [] then .error "resource offer must contain at least one exact resource"
  else if offer.resources.any (fun r => label r.labels "device_kind" != some (deviceKindLabel identity.deviceKind)) then
    .error "resource device class does not match the enrolled native identity"
  else if identity.deviceKind ∈ [DeviceKind.phone, .tablet, .console] ∧ offer.availability.batteryPercent = none then
    .error "edge offers must include a native battery observation"
  else .ok ()

/-- The checks of `register_offer` on the endpoint an offer brings. -/
def checkEndpoint (identity : NodeIdentityV1) (offer : ResourceOfferV1) : Except HttpError Unit :=
  match offer.meshEndpoint with
  | none => .ok ()
  | some endpoint =>
    if endpoint.endpointId ≠ identity.publicKey then
      .error { status := .unauthorized, error := "worker endpoint and enrolled identity differ" }
    else do
      (x.verifyMeshEndpoint identity.publicKey endpoint).mapError fun d => { status := .unauthorized, error := d.text }
      if endpoint.expiresAt ≠ offer.expiresAt then
        .error { status := .badRequest, error := "worker endpoint and resource offer expiries differ" }
      else .ok ()

/-- The checks of `register_offer` against the enrolled identity. -/
def checkOffer (identity : NodeIdentityV1) (offer : ResourceOfferV1) : Except HttpError Unit := do
  (verifyOffer x identity offer).mapError fun d => { status := .unauthorized, error := d.text }
  (validateOfferIdentityBinding identity offer).mapError fun e => { status := .unauthorized, error := e }
  (x.validateModelRuntimeContracts offer).mapError fun e => { status := .badRequest, error := e }
  if offer.linkBenchmark.all (x.benchmarkIsValid offer) then .ok ()
  else .error { status := .badRequest, error := "link benchmark is stale, malformed, or targets another controller" }
  checkEndpoint x identity offer

/-- `should_record_offer_evidence`. -/
def shouldRecordOfferEvidence (recordedAt : Option Int) (now : Int) : Bool :=
  recordedAt.all fun t => decide (minutes 60 ≤ now - t)

/-- What an evidence checkpoint appends. -/
def recordEvidence (offer : ResourceOfferV1) : Request Unit := do
  match offer.linkBenchmark with
  | some _ => append w (.other "network.benchmark.recorded" (.id offer.nodeId))
  | none => pure ()
  append w (.resourceOfferRegistered offer)

/-- `remote_offer`. -/
def remoteOffer (nodeId : Uuid) : Request ResourceOfferV1 := do
  let s ← get
  match s.offers.lookup nodeId with
  | none => fail { status := .conflict, error := "node has no current resource offer" }
  | some offer => do
    let now ← utcNow w
    ensure (decide (now < offer.expiresAt)) { status := .conflict, error := "node has no current resource offer" }
    match offer.meshEndpoint with
    | none => fail { status := .conflict, error := "node does not advertise an authenticated mesh endpoint" }
    | some record => do
      endpointAddrFromRecord cfg w record
      pure offer

/-! ## The handlers beside the gate -/

/-- What a Remote Assist request wants of its session: a frame, or to send a batch of input. -/
inductive Use
  | frame
  | input (batchIsValid : Bool)
deriving DecidableEq

/-- The points of a handler that does not hold the gate, one for each lock it takes. -/
inductive Point
  /-- `remote_desktop_frame` and `remote_desktop_input` look at the latch. -/
  | assist (use : Use) (sessionId : Uuid)
  | readSession (use : Use) (sessionId : Uuid)
  | dropExpired (sessionId : Uuid)
  | findOffer (use : Use) (sessionId : Uuid) (current : RemoteDesktopSession) (now : Int)
  | renew (use : Use) (sessionId : Uuid) (current : RemoteDesktopSession) (offer : ResourceOfferV1)
  | storeRenewed (use : Use) (sessionId : Uuid) (current : RemoteDesktopSession) (renewed : RemoteDesktopLeaseV1)
  | callWorker (use : Use) (sessionId : Uuid) (lease : RemoteDesktopLeaseV1)
  | markControl (sessionId : Uuid)
  | recordControl (sessionId : Uuid)
  | close (sessionId : Uuid)
  | recordClose (sessionId : Uuid)
  | registerOffer (offer : ResourceOfferV1)
  | readIdentity (offer : ResourceOfferV1)
  | recordOffer (offer : ResourceOfferV1)
  | storeOffer (offer : ResourceOfferV1)
  | revoke (nodeId : Uuid) (confirmed : Bool)
  | awaitStop
  | awaitRevoke (nodeId : Uuid)

/-- The part of `current_remote_desktop_session` that mints the renewed lease, at the epoch of the moment. -/
def renewLease (sessionId : Uuid) (current : RemoteDesktopSession) (offer : ResourceOfferV1) :
    Request RemoteDesktopLeaseV1 := do
  let s ← get
  let now ← utcNow w
  let leaseId ← newUuid w
  let nonce ← newText w
  orRefuse .conflict Denial.text (authorizeRemoteDesktopAtEpoch cfg.governor x.signRemoteDesktop offer x.endpointId
    sessionId current.lease.mode ⟨current.lease.maxWidth, current.lease.maxHeight, current.lease.maxFps⟩ s.fencingEpoch
    now leaseId nonce)

/-- The request to the worker, with the checks before it; `answered` says whether the worker acknowledges it in time. -/
def callWorker (answered : Bool) (sessionId : Uuid) (lease : RemoteDesktopLeaseV1) : Use → Task (Option Point)
  | .frame => do
    ensure answered { status := .badGateway, error := "worker frame request timed out" }
    pure none
  | .input batchIsValid => do
    ensure (lease.mode == .control) { status := .forbidden, error := "this remote assist session is view-only" }
    ensure batchIsValid { status := .badRequest, error := "invalid remote input batch" }
    ensure answered { status := .badGateway, error := "worker input request timed out" }
    pure (some (.markControl sessionId))

/-- The lock a thread takes at its point, and its next point. -/
def Point.run (answered : Bool) : Point → Task (Option Point)
  | .assist use sessionId => do
    onHost refuseWhileKilled
    pure (some (.readSession use sessionId))
  | .readSession use sessionId => do
    let now ← onHost (utcNow w)
    let d ← get
    match d.remoteDesktopSessions.lookup sessionId with
    | none => fail { status := .notFound, error := "remote assist session was not found" }
    | some current =>
      if current.lease.expiresAt ≤ now then pure (some (.dropExpired sessionId))
      else pure (some (.findOffer use sessionId current now))
  | .dropExpired sessionId => do
    modify fun d => { d with remoteDesktopSessions := d.remoteDesktopSessions.erase sessionId }
    fail { status := .gone, error := "remote assist session expired" }
  | .findOffer use sessionId current now => do
    let offer ← onHost (remoteOffer cfg w current.lease.nodeId)
    if seconds 10 < current.lease.expiresAt - now then pure (some (.callWorker use sessionId current.lease))
    else pure (some (.renew use sessionId current offer))
  | .renew use sessionId current offer => do
    let renewed ← onHost (renewLease cfg x w sessionId current offer)
    pure (some (.storeRenewed use sessionId current renewed))
  | .storeRenewed use sessionId current renewed => do
    modify fun d =>
      { d with remoteDesktopSessions := d.remoteDesktopSessions.insert sessionId ⟨renewed, current.controlStarted⟩ }
    pure (some (.callWorker use sessionId renewed))
  | .callWorker use sessionId lease => Controller.callWorker answered sessionId lease use
  | .markControl sessionId => do
    let d ← get
    match d.remoteDesktopSessions.lookup sessionId with
    | none => pure none
    | some session => do
      modify fun d =>
        { d with remoteDesktopSessions := d.remoteDesktopSessions.insert sessionId { session with controlStarted := true } }
      pure (if session.controlStarted then none else some (.recordControl sessionId))
  | .recordControl sessionId => do
    onHost (append w (.other "remote_assist.control.started" (.id sessionId)))
    pure none
  | .close sessionId => do
    let d ← get
    match d.remoteDesktopSessions.lookup sessionId with
    | none => pure none
    | some _ => do
      modify fun d => { d with remoteDesktopSessions := d.remoteDesktopSessions.erase sessionId }
      pure (some (.recordClose sessionId))
  -- telling the worker first changes nothing here
  | .recordClose sessionId => do
    onHost (append w (.other "remote_assist.session.closed" (.id sessionId)))
    pure none
  | .registerOffer offer => do
    let now ← onHost (utcNow w)
    ensure (offer.signature != "" && decide (now < offer.expiresAt))
      { status := .badRequest, error := "invalid or expired offer" }
    pure (some (.readIdentity offer))
  | .readIdentity offer => do
    let d ← get
    match d.nodes.lookup offer.nodeId with
    | none => fail { status := .unauthorized, error := "node is not enrolled" }
    | some identity => do
      ofExcept (checkOffer x identity offer)
      pure (some (.recordOffer offer))
  | .recordOffer offer => do
    let now ← onHost (utcNow w)
    let d ← get
    if shouldRecordOfferEvidence (d.offerEvidenceRecordedAt.lookup offer.nodeId) now then do
      onHost (recordEvidence w offer)
      modify fun d => { d with offerEvidenceRecordedAt := d.offerEvidenceRecordedAt.insert offer.nodeId now }
      pure (some (.storeOffer offer))
    else pure (some (.storeOffer offer))
  | .storeOffer offer => do
    onHost (modify fun s => { s with offers := s.offers.insert offer.nodeId offer })
    pure none
  | .revoke nodeId confirmed => do
    ensure confirmed { status := .forbidden, error := "exact device revocation confirmation is required" }
    pure (some (.awaitRevoke nodeId))
  -- a thread that waits for the gate moves when it is given the gate
  | .awaitStop => pure (some .awaitStop)
  | .awaitRevoke nodeId => pure (some (.awaitRevoke nodeId))

/-! ## The handlers under the gate -/

/-- The points of `local_stop` and `revoke_node` under the gate. -/
inductive Held
  | stop
  | createLatch
  | advanceEpoch
  | writeMarker (epoch : Nat)
  | drainSessions (epoch : Nat)
  | recordStop (epoch : Nat)
  | findNode (nodeId : Uuid)
  | recordRevocation (nodeId : Uuid) (identity : NodeIdentityV1)
  | forgetIdentity (nodeId : Uuid)
  | forgetOffer (nodeId : Uuid)
  | forgetAssignments (nodeId : Uuid)
  | forgetReservations (nodeId : Uuid)
  | forgetShardSets (nodeId : Uuid)
  | forgetSessions (nodeId : Uuid)
  | forgetReplicas (nodeId : Uuid)
  | scan (nodeId : Uuid)
deriving DecidableEq

/-- What is done with the gate in hand, one step at a time. -/
def Held.run : Held → Task (Option Held)
  | .stop => do
    let d ← get
    pure (if isStopped d.toAppState then none else some .createLatch)
  | .createLatch => do
    onHost (createKillLatch w)
    pure (some .advanceEpoch)
  | .advanceEpoch => do
    let epoch ← onHost (advanceFencingEpoch w)
    pure (some (.writeMarker epoch))
  | .writeMarker epoch => do
    onHost (writeStopEpochMarker w epoch)
    pure (some (.drainSessions epoch))
  | .drainSessions epoch => do
    modify fun d => { d with remoteDesktopSessions := ∅ }
    pure (some (.recordStop epoch))
  | .recordStop epoch => do
    onHost (append w (.ownerStop epoch))
    pure none
  | .findNode nodeId => do
    let d ← get
    match d.nodes.lookup nodeId with
    | none => fail { status := .notFound, error := "node is not enrolled" }
    | some identity => pure (some (.recordRevocation nodeId identity))
  | .recordRevocation nodeId identity => do
    let _ ← onHost (utcNow w)
    onHost (append w (.nodeRevoked nodeId identity.displayName identity.publicKey))
    pure (some (.forgetIdentity nodeId))
  | .forgetIdentity nodeId => do
    modify fun d => { d with nodes := d.nodes.erase nodeId }
    pure (some (.forgetOffer nodeId))
  | .forgetOffer nodeId => do
    modify fun d => { d with offers := d.offers.erase nodeId }
    pure (some (.forgetAssignments nodeId))
  | .forgetAssignments nodeId => do
    modify fun d => { d with assignments := d.assignments.retain fun _ a => a.lease.nodeId != nodeId }
    pure (some (.forgetReservations nodeId))
  | .forgetReservations nodeId => do
    modify fun d => { d with reservations := d.reservations.filter (·.nodeId != nodeId) }
    pure (some (.forgetShardSets nodeId))
  | .forgetShardSets nodeId => do
    modify fun d => { d with shardSets := d.shardSets.retain fun _ r => r.leases.all (·.nodeId != nodeId) }
    pure (some (.forgetSessions nodeId))
  | .forgetSessions nodeId => do
    modify fun d =>
      { d with remoteDesktopSessions := d.remoteDesktopSessions.retain fun _ session => session.lease.nodeId != nodeId }
    pure (some (.forgetReplicas nodeId))
  | .forgetReplicas nodeId => do
    modify fun d => { d with artifactReplicas := d.artifactReplicas.retain fun k _ => k.2 != nodeId }
    pure (some (.scan nodeId))
  | .scan _ => do
    onHost (refreshDiagnostics w)
    pure none

/-! ## The fabric -/

/-- A handler as it arrives. -/
inductive Call
  | frame (sessionId : Uuid)
  | input (sessionId : Uuid) (batchIsValid : Bool)
  | close (sessionId : Uuid)
  | registerOffer (offer : ResourceOfferV1)
  | stop
  | revoke (nodeId : Uuid) (confirmed : Bool)

/-- Where a thread begins. -/
def Call.point : Call → Point
  | .frame sessionId => .assist .frame sessionId
  | .input sessionId batchIsValid => .assist (.input batchIsValid) sessionId
  | .close sessionId => .close sessionId
  | .registerOffer offer => .registerOffer offer
  | .stop => .awaitStop
  | .revoke nodeId confirmed => .revoke nodeId confirmed

/-- The session a thread has read and not yet written back, with its node. -/
def Point.renewing : Point → Option (Uuid × Uuid)
  | .findOffer _ sessionId current _ => some (sessionId, current.lease.nodeId)
  | .renew _ sessionId current _ => some (sessionId, current.lease.nodeId)
  | .storeRenewed _ sessionId current _ => some (sessionId, current.lease.nodeId)
  | _ => none

/-- The node a thread has found enrolled and whose offer it has not yet stored. -/
def Point.registering : Point → Option Uuid
  | .recordOffer offer => some offer.nodeId
  | .storeOffer offer => some offer.nodeId
  | _ => none

/-- The threads a close overtakes: those that renew the session it removes. -/
def Point.overtakes (d : Desk) (p q : Point) : Bool :=
  match p with
  | .close sessionId => (d.remoteDesktopSessions.lookup sessionId).isSome && q.renewing.any (·.1 == sessionId)
  | _ => false

/-- The threads STOP and a revocation overtake: those that renew a session whose removal they have just made, and those
that register an offer for a node that is gone. -/
def Held.overtakes (d : Desk) (p : Held) (q : Point) : Bool :=
  match p with
  | .drainSessions _ => q.renewing.isSome
  | .forgetSessions nodeId => q.renewing.any (·.2 == nodeId)
  | .forgetOffer nodeId => (d.nodes.lookup nodeId).isNone && q.registering == some nodeId
  | _ => false

/-- The handlers in flight around the shared tables: the threads, the one that holds the gate, and which sessions have
been opened so far, for which node. -/
structure Fabric where
  desk : Desk
  threads : List (Thread Point)
  holder : Option Held
  opened : Table Uuid Uuid

/-- What can happen next: a request arrives, a thread takes its next lock, a waiting one is given the gate, or the
holder of the gate goes on; and, in one piece, what the other handlers do: a session is opened, a device is invited or
enrols, the owner resumes, the desktop shell sets the latch, the controller restarts. -/
inductive Act
  | arrive (call : Call)
  | run (i : Nat) (answered : Bool)
  | acquire (i : Nat)
  | proceed
  | openSession (sessionId : Uuid) (session : RemoteDesktopSession)
  | createInvite
  | enroll (request : EnrollmentRequestV1)
  | resume
  | shellStop
  | restart

/-- The lock that was taken, and how its handler went on. -/
inductive Ran
  | thread (p : Point) (r : Except HttpError (Option Point))
  | held (p : Held) (r : Except HttpError (Option Held))

/-- The next point, or none if the handler has answered or failed. -/
def next {P : Type} : Except HttpError (Option P) → Option P
  | .ok p => p
  | .error _ => none

/-- A thread takes its next lock. -/
def runThread (i : Nat) (answered : Bool) (f : Fabric) : Option Ran × Fabric :=
  match f.threads[i]? with
  | none => (none, f)
  | some t =>
    let (r, desk) := t.point.run cfg x w answered f.desk
    (some (.thread t.point r), { f with
      desk := desk
      threads := Thread.overtake (t.point.overtakes f.desk) (Thread.advance i (next r) f.threads) })

/-- A waiting thread is given the free gate. -/
def acquireGate (i : Nat) (f : Fabric) : Fabric :=
  match f.holder, f.threads[i]? with
  | none, some ⟨.awaitStop, _⟩ => { f with threads := f.threads.eraseIdx i, holder := some .stop }
  | none, some ⟨.awaitRevoke nodeId, _⟩ => { f with threads := f.threads.eraseIdx i, holder := some (.findNode nodeId) }
  | _, _ => f

/-- The holder of the gate takes its next lock. -/
def runHeld (f : Fabric) : Option Ran × Fabric :=
  match f.holder with
  | none => (none, f)
  | some p =>
    let (r, desk) := p.run w f.desk
    (some (.held p r), { f with
      desk := desk
      holder := next r
      threads := Thread.overtake (p.overtakes f.desk) f.threads })

/-- `open_remote_desktop`, under the gate and not while the latch is set. A session id is generated once. -/
def openSession (sessionId : Uuid) (session : RemoteDesktopSession) (f : Fabric) : Fabric :=
  if f.holder.isNone && !f.desk.killLatch && (f.opened.lookup sessionId).isNone then
    { f with
      desk := { f.desk with
        remoteDesktopSessions := f.desk.remoteDesktopSessions.insert sessionId session }
      opened := f.opened.insert sessionId session.lease.nodeId }
  else f

/-- `local_resume`, under the gate. -/
def resume (f : Fabric) : Fabric :=
  if f.holder.isNone then { f with desk := (onHost (localResumeGated w) f.desk).2 } else f

/-- A new process: what was in flight is gone, and so are the two tables. -/
def restartFabric (f : Fabric) : Fabric :=
  { f with
    desk := { toHost := (restart w f.desk.toHost).2, remoteDesktopSessions := ∅, offerEvidenceRecordedAt := ∅ }
    threads := []
    holder := none }

/-- An act of the fabric. -/
def fabricStep : Act → Fabric → Option Ran × Fabric
  | .arrive call, f => (none, { f with threads := f.threads ++ [.start call.point] })
  | .run i answered, f => runThread cfg x w i answered f
  | .acquire i, f => (none, acquireGate i f)
  | .proceed, f => runHeld w f
  | .openSession sessionId session, f => (none, openSession sessionId session f)
  | .createInvite, f => (none, { f with desk := (onHost (createInvite cfg w) f.desk).2 })
  | .enroll request, f => (none, { f with desk := (onHost (enrollNode cfg w request) f.desk).2 })
  | .resume, f => (none, resume w f)
  | .shellStop, f => (none, { f with desk := { f.desk with killLatch := true } })
  | .restart, f => (none, restartFabric w f)

/-- The controller's threads under the gate and the session table's lock. -/
def fabric : Machine Fabric Act (Option Ran) := ⟨fabricStep cfg x w⟩

/-- A controller on a fresh data directory, with nothing in flight. -/
def Fabric.initial (epoch : Nat) (head : String → Except String ArtifactRefV1) : Fabric where
  desk := { toHost := Controller.initial epoch head, remoteDesktopSessions := ∅, offerEvidenceRecordedAt := ∅ }
  threads := []
  holder := none
  opened := ∅

end Rampage.Controller
