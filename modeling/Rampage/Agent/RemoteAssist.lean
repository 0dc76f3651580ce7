/-
Remote Assist on a worker: `handle_request` serves one request for a frame, input, a heartbeat or the close of a
session. A lease is accepted in the durable store when it is new to its session; a session that already holds the
lease goes on without asking the store again. `remote_assist_is_fenced_iff` says exactly when that keeps the fence:
below an accepted epoch no request succeeds, in every run in which no session goes on with a lease that is below one.
-/
import Rampage.Agent.Gateway
import Rampage.Governor.Remote

namespace Rampage.Agent.RemoteAssist

open Rampage.Protocol Rampage.Governor Rampage.Storage

/-! ## Requests -/

/-- What a request of the controller wants: a picture, input, a sign of life, or the end. -/
inductive RemoteDesktopActionV1
  | frame | input | heartbeat | close
deriving DecidableEq

/-- A button of the mouse. -/
inductive RemoteMouseButtonV1
  | left | right | middle
deriving DecidableEq

/-- One event of the keyboard or the mouse. -/
inductive RemoteInputEventV1
  | mouseMove (x y : Nat)
  | mouseButton (button : RemoteMouseButtonV1) (pressed : Bool)
  | mouseWheel (delta : Int)
  | key (virtualKey : Nat) (pressed : Bool)
deriving DecidableEq

/-- `RemoteInputEventV1::is_valid`. -/
def RemoteInputEventV1.isValid : RemoteInputEventV1 → Bool
  | .mouseMove _ _ | .mouseButton _ _ => true
  | .mouseWheel delta => delta != 0 && -1920 ≤ delta && delta ≤ 1920
  | .key virtualKey _ => 1 ≤ virtualKey && virtualKey ≤ 254

/-- The most events in one request. -/
def maxRemoteDesktopInputEvents : Nat := 64

/-- A request of the controller, with the lease it rests on. -/
structure RemoteDesktopRequestV1 where
  schema : String
  requestId : Uuid
  lease : RemoteDesktopLeaseV1
  action : RemoteDesktopActionV1
  inputSequence : Option Nat
  events : List RemoteInputEventV1
deriving DecidableEq

/-- `RemoteDesktopRequestV1::SCHEMA`. -/
def RemoteDesktopRequestV1.schemaName : String := "rampage.remote-desktop-request.v1"

/-- The part of `is_valid_for` that depends on the action. -/
def RemoteDesktopRequestV1.inputShape (r : RemoteDesktopRequestV1) : Bool :=
  match r.action with
  | .input =>
    decide (r.lease.mode = .control) && r.inputSequence.any (0 < ·) && !r.events.isEmpty &&
      r.events.length ≤ maxRemoteDesktopInputEvents && r.events.all RemoteInputEventV1.isValid
  | _ => r.inputSequence.isNone && r.events.isEmpty

/-- `RemoteDesktopRequestV1::is_valid_for`. -/
def RemoteDesktopRequestV1.isValidFor (r : RemoteDesktopRequestV1) (nodeId : Uuid) (controllerEndpointId : String) : Bool :=
  r.schema == schemaName && r.lease.nodeId == nodeId && r.lease.controllerEndpointId == controllerEndpointId &&
    r.inputShape

/-- `RemoteDesktopLeaseV1::is_active_at`. -/
def isActiveAt (lease : RemoteDesktopLeaseV1) (now : Int) (currentEpoch : Nat) : Bool :=
  lease.schema == RemoteDesktopLeaseV1.schemaName && leaseHasStarted lease.issuedAt now && now < lease.expiresAt &&
    -- `num_seconds` cuts a duration off toward zero
    (lease.expiresAt - lease.issuedAt).tdiv (seconds 1) ≤ maxRemoteDesktopLeaseSeconds &&
    lease.fencingEpoch == currentEpoch && lease.controllerEndpointId != "" && isAscii lease.controllerEndpointId &&
    1 ≤ lease.maxWidth && lease.maxWidth ≤ maxRemoteDesktopDimension && 1 ≤ lease.maxHeight &&
    lease.maxHeight ≤ maxRemoteDesktopDimension && 1 ≤ lease.maxFps && lease.maxFps ≤ maxRemoteDesktopFps &&
    lease.nonce != "" && lease.nonce.utf8ByteSize ≤ 128 && isAscii lease.nonce && lease.signature != ""

/-- The largest picture, in bytes. -/
def maxRemoteDesktopFrameBytes : Nat := 4 * 1024 * 1024

/-- What goes with a picture: its number, its size and its digest. -/
structure RemoteDesktopFrameV1 where
  sequence : Nat
  capturedAt : Int
  width : Nat
  height : Nat
  mediaType : String
  payloadSize : Nat
  payloadDigest : String
deriving DecidableEq

/-- `RemoteDesktopFrameV1::is_valid_for`. -/
def RemoteDesktopFrameV1.isValidFor (f : RemoteDesktopFrameV1) (lease : RemoteDesktopLeaseV1) : Bool :=
  0 < f.sequence && 0 < f.width && f.width ≤ lease.maxWidth && 0 < f.height && f.height ≤ lease.maxHeight &&
    f.mediaType == "image/jpeg" && 0 < f.payloadSize && f.payloadSize ≤ maxRemoteDesktopFrameBytes &&
    isSha256Digest f.payloadDigest

/-- What the worker answers; the picture is the payload. -/
structure RemoteDesktopResponseV1 where
  requestId : Uuid
  status : Nat
  frame : Option RemoteDesktopFrameV1
  appliedEvents : Nat
  payload : Bytes
deriving DecidableEq

/-! ## The worker -/

/-- Who the worker is, whom it serves, and the Governor's signature it checks. -/
structure Worker where
  cas : CasStore
  nodeId : Uuid
  controllerEndpointId : String
  /-- `verify_remote_desktop_lease_with_key` under the Governor's public key. -/
  verifyRemoteDesktopLease : RemoteDesktopLeaseV1 → Bool

/-- What the gateway keeps of a session: the last lease and the last sequence number of its input. -/
structure SessionState where
  leaseId : Uuid
  lastInputSequence : Nat
deriving DecidableEq

/-- The activity file. -/
structure RemoteAssistActiveV1 where
  sessionId : Uuid
  mode : RemoteDesktopModeV1
  controllerEndpointId : String
  updatedAt : Int
  expiresAt : Int
deriving DecidableEq

/-- The store and the activity file, the `SessionAuthority` of the process, and the epochs accepted so far. -/
structure Desk where
  store : Store
  active : Option RemoteAssistActiveV1
  sessions : Table Uuid SessionState
  frameSequence : Nat
  accepted : List Nat

/-- What a request fails with. -/
inductive RemoteAssistError
  /-- "local owner STOP is active" -/
  | stopped
  /-- "Remote Assist is disabled on this worker" -/
  | disabled
  /-- The signature of the lease is not the Governor's. -/
  | denial
  /-- "Remote Assist request is outside its signed authority" -/
  | outsideAuthority
  | storage (e : StorageError)
  | capture
  /-- "captured desktop frame is outside the signed payload limit" -/
  | outsidePayloadLimit
  /-- "captured frame is invalid" -/
  | invalidFrame
  | activity
  /-- "view-only Remote Assist session cannot inject input" -/
  | viewOnly
  /-- "input sequence is missing" -/
  | sequenceMissing
  /-- "Remote Assist session is unavailable" -/
  | sessionUnavailable
  /-- "Remote Assist input sequence was replayed or reordered" -/
  | sequenceReplayed
  | apply
deriving DecidableEq

/-- How the replacement of the activity file ends. -/
inductive Written
  | done
  /-- It fails with the old file in place. -/
  | kept
  /-- It fails after the old file was removed. -/
  | removed
deriving DecidableEq

/-- What a request finds: the KILL file, the policy, the clock, and what the platform and the file system answer. -/
structure Draws where
  killed : Bool
  enabled : Bool
  activeAt : Int
  acceptedAt : Int
  capturedAt : Int
  updatedAt : Int
  /-- `platform::capture_jpeg`. -/
  captured : Option (Nat × Nat × Bytes)
  /-- `platform::apply_input`. -/
  applied : Bool
  written : Written
  /-- On a close, the activity file can be read and removed. -/
  cleared : Bool

/-- A request acts on the desk or fails. -/
abbrev Serve (α : Type) := Handler Desk RemoteAssistError α

/-- The authority scope the fence of the store knows Remote Assist by. -/
def scope : String := "governor.remote-assist"

section

variable (w : Worker)

/-- The checks before the session table is locked. -/
def checkRequest (d : Draws) (request : RemoteDesktopRequestV1) : Except RemoteAssistError Unit :=
  if d.killed then .error .stopped
  else if d.enabled = false then .error .disabled
  else if w.verifyRemoteDesktopLease request.lease = false then .error .denial
  else if isActiveAt request.lease d.activeAt request.lease.fencingEpoch = true ∧
      request.isValidFor w.nodeId w.controllerEndpointId = true then .ok ()
  else .error .outsideAuthority

/-- The session holds the lease of the request: the store is not asked again. -/
def holdsLease (lease : RemoteDesktopLeaseV1) (sessions : Table Uuid SessionState) : Bool :=
  (AList.lookup lease.sessionId sessions).any fun state => state.leaseId = lease.leaseId

/-- `store.accept_authority("governor.remote-assist", ..)?`. -/
def acceptLease (now : Int) (lease : RemoteDesktopLeaseV1) : Serve Unit := fun g =>
  let plan := acceptAuthority now scope lease.fencingEpoch lease.nonce lease.expiresAt g.store
  (plan.result.mapError .storage,
    { g with
      store := storeEffects.applyAll plan.effects g.store
      accepted := match plan.result with
        | .ok () => g.accepted ++ [lease.fencingEpoch]
        | .error _ => g.accepted })

/-- What happens under the session lock. -/
def admitLease (d : Draws) (lease : RemoteDesktopLeaseV1) : Serve Unit := do
  let g ← Handler.get
  let previousSequence := ((AList.lookup lease.sessionId g.sessions).map (·.lastInputSequence)).getD 0
  if holdsLease lease g.sessions then pure ()
  else do
    acceptLease d.acceptedAt lease
    Handler.modify fun g =>
      { g with sessions := AList.insert lease.sessionId ⟨lease.leaseId, previousSequence⟩ g.sessions }

/-- `write_active`. -/
def writeActive (d : Draws) (request : RemoteDesktopRequestV1) : Serve Unit := fun g =>
  match d.written with
  | .done =>
    (.ok (), { g with active := some ⟨request.lease.sessionId, request.lease.mode, request.lease.controllerEndpointId,
      d.updatedAt, request.lease.expiresAt⟩ })
  | .kept => (.error .activity, g)
  | .removed => (.error .activity, { g with active := none })

/-- `success`. -/
def success (requestId : Uuid) (frame : Option RemoteDesktopFrameV1) (appliedEvents : Nat) (payload : Bytes) :
    RemoteDesktopResponseV1 :=
  ⟨requestId, 200, frame, appliedEvents, payload⟩

/-- The number the next frame gets: a `u64` that wraps. -/
def nextFrame (n : Nat) : Nat := (n + 1) % 2 ^ 64

/-- The description of a captured frame. -/
def describeFrame (sequence : Nat) (d : Draws) (width height : Nat) (payload : Bytes) : RemoteDesktopFrameV1 where
  sequence := sequence
  capturedAt := d.capturedAt
  width := width
  height := height
  mediaType := "image/jpeg"
  payloadSize := payload.length
  payloadDigest := sha256Digest w.cas payload

/-- The branch of `handle_request` for a picture. -/
def serveFrame (d : Draws) (request : RemoteDesktopRequestV1) : Serve RemoteDesktopResponseV1 :=
  match d.captured with
  | none => Handler.fail .capture
  | some (width, height, payload) => do
    Handler.ensure (!payload.isEmpty && payload.length ≤ maxRemoteDesktopFrameBytes) .outsidePayloadLimit
    Handler.modify fun g => { g with frameSequence := nextFrame g.frameSequence }
    let g ← Handler.get
    let frame := describeFrame w g.frameSequence d width height payload
    Handler.ensure (frame.isValidFor request.lease) .invalidFrame
    writeActive d request
    return success request.requestId (some frame) 0 payload

/-- The input of a request is applied and its number recorded. -/
def applyInput (d : Draws) (request : RemoteDesktopRequestV1) (sequence : Nat) : Serve Unit := fun g =>
  match AList.lookup request.lease.sessionId g.sessions with
  | none => (.error .sessionUnavailable, g)
  | some state =>
    if sequence ≤ state.lastInputSequence then (.error .sequenceReplayed, g)
    else if d.applied = false then (.error .apply, g)
    else (.ok (), { g with sessions := AList.insert request.lease.sessionId ⟨state.leaseId, sequence⟩ g.sessions })

/-- The branch for input. -/
def serveInput (d : Draws) (request : RemoteDesktopRequestV1) : Serve RemoteDesktopResponseV1 := do
  Handler.ensure (request.lease.mode = .control) .viewOnly
  let sequence ← Handler.ofExcept (match request.inputSequence with
    | some sequence => .ok sequence
    | none => .error .sequenceMissing)
  applyInput d request sequence
  writeActive d request
  return success request.requestId none request.events.length []

/-- The branch for a sign of life: only the lease is made the active one. -/
def serveHeartbeat (d : Draws) (request : RemoteDesktopRequestV1) : Serve RemoteDesktopResponseV1 := do
  writeActive d request
  return success request.requestId none 0 []

/-- The session is dropped, and the activity file if it is the session's. -/
def serveClose (d : Draws) (request : RemoteDesktopRequestV1) : Serve RemoteDesktopResponseV1 := do
  Handler.modify fun g => { g with sessions := AList.erase request.lease.sessionId g.sessions }
  Handler.modify fun g =>
    if d.cleared && g.active.any (fun a => a.sessionId = request.lease.sessionId) then { g with active := none } else g
  return success request.requestId none 0 []

/-- The `match` on the action. -/
def serveAction (d : Draws) (request : RemoteDesktopRequestV1) : Serve RemoteDesktopResponseV1 :=
  match request.action with
  | .frame => serveFrame w d request
  | .input => serveInput d request
  | .heartbeat => serveHeartbeat d request
  | .close => serveClose d request

/-- `handle_request`. -/
def handleRequest (d : Draws) (request : RemoteDesktopRequestV1) : Serve RemoteDesktopResponseV1 := do
  Handler.ofExcept (checkRequest w d request)
  admitLease d request.lease
  serveAction w d request

/-! ## Runs -/

/-- A request, a call of the store by another part of the worker, or a restart of the worker. -/
inductive Input
  | request (d : Draws) (request : RemoteDesktopRequestV1)
  | store (op : Op)
  | restart

/-- A restart keeps what is on disk. -/
def step : Input → Desk → Option (Except RemoteAssistError RemoteDesktopResponseV1) × Desk
  | .request d request, g =>
    let (result, g) := handleRequest w d request g
    (some result, g)
  | .store op, g => (none, { g with store := (Storage.step w.cas op g.store).2 })
  | .restart, g => (none, { g with sessions := ∅, frameSequence := 0 })

/-- The worker's desk under requests and time. -/
def machine : Machine Desk Input (Option (Except RemoteAssistError RemoteDesktopResponseV1)) := ⟨step w⟩

end

/-- A worker that has just started on a store. -/
def Desk.initial (s : Store) : Desk := ⟨s, none, ∅, 0, []⟩

/-! ## What a request needs -/

section

variable (w : Worker)

/-- The action of a request can be carried out. -/
def canServe (d : Draws) (request : RemoteDesktopRequestV1) (g : Desk) : Bool :=
  match request.action with
  | .frame =>
    d.captured.any (fun (width, height, payload) =>
      !payload.isEmpty && payload.length ≤ maxRemoteDesktopFrameBytes &&
        (describeFrame w (nextFrame g.frameSequence) d width height payload).isValidFor request.lease) &&
      decide (d.written = .done)
  | .input =>
    decide (request.lease.mode = .control) && request.inputSequence.any (fun sequence =>
      (AList.lookup request.lease.sessionId g.sessions).any fun state => state.lastInputSequence < sequence) &&
      d.applied && decide (d.written = .done)
  | .heartbeat => decide (d.written = .done)
  | .close => true

/-- A request goes on with the lease its session holds, although an authority of a higher epoch was accepted, and
every other check of it passes. -/
def reusesFencedLease (g : Desk) : Input → Bool
  | .request d request =>
    (checkRequest w d request).isOk && holdsLease request.lease g.sessions &&
      g.accepted.any (fun e => request.lease.fencingEpoch < e) && canServe w d request g
  | _ => false

end

section

variable {w : Worker} {d : Draws} {request : RemoteDesktopRequestV1} {g : Desk}

theorem writeActive_isOk_iff : (writeActive d request g).1.isOk = true ↔ d.written = .done := by
  unfold writeActive
  cases d.written with
  | done => simp [Except.isOk, Except.toBool]
  | kept => simp [Except.isOk, Except.toBool]
  | removed => simp [Except.isOk, Except.toBool]

/-- An action that ends with the activity file is answered if the file is written. -/
theorem thenWrite_isOk_iff {α : Type} {a : α} :
    ((do writeActive d request; return a : Serve α) g).1.isOk = true ↔ d.written = .done := by
  rw [Handler.bind_isOk_iff (P := True) fun _ _ => by simp [pure, Except.isOk, Except.toBool], and_true]
  exact writeActive_isOk_iff

theorem applyInput_isOk_iff {sequence : Nat} : (applyInput d request sequence g).1.isOk = true ↔
    (AList.lookup request.lease.sessionId g.sessions).any (fun state => state.lastInputSequence < sequence) = true ∧
      d.applied = true := by
  unfold applyInput
  cases AList.lookup request.lease.sessionId g.sessions with
  | none => simp [Except.isOk, Except.toBool]
  | some state =>
    dsimp only
    split
    · rename_i hle
      simp [Except.isOk, Except.toBool, Nat.not_lt.2 hle]
    · rename_i hlt
      split
      · rename_i happly
        simp [Except.isOk, Except.toBool, happly]
      · rename_i happly
        simp [Except.isOk, Except.toBool, happly, Nat.not_le.1 hlt]

/-- What an action needs is enough for it to be answered, and without it the request fails. -/
theorem serveAction_isOk_iff : (serveAction w d request g).1.isOk = true ↔ canServe w d request g = true := by
  unfold serveAction canServe
  cases request.action with
  | frame =>
    unfold serveFrame
    cases d.captured with
    | none => simp [Handler.fail, Except.isOk, Except.toBool]
    | some c =>
      obtain ⟨width, height, payload⟩ := c
      simp only [Handler.ensure_bind_isOk, Handler.modify_bind, Handler.get_bind, thenWrite_isOk_iff, Option.any_some,
        Bool.and_eq_true, decide_eq_true_eq, and_assoc]
  | input =>
    unfold serveInput
    rw [Handler.ensure_bind_isOk]
    cases hn : request.inputSequence with
    | none => simp [Handler.ofExcept, Handler.fail, bind, Except.isOk, Except.toBool]
    | some n =>
      show _ ∧ ((applyInput d request n >>= _) g).1.isOk = true ↔ _
      rw [Handler.bind_isOk_iff fun _ _ => thenWrite_isOk_iff, applyInput_isOk_iff]
      simp only [Option.any_some, Bool.and_eq_true, decide_eq_true_eq, and_assoc]
  | heartbeat =>
    rw [decide_eq_true_eq]
    exact thenWrite_isOk_iff
  | close => exact iff_of_true rfl rfl

/-! ## Accepted authorities stay on record -/

/-- The fence of the scope is at every accepted epoch or above. -/
def Desk.Covered (g : Desk) : Prop :=
  ∀ e ∈ g.accepted, ∃ f, AList.lookup scope g.store.index.fences = some f ∧ e ≤ f

/-- Everything the fence depends on is kept. -/
structure SameFence (g g' : Desk) : Prop where
  store : g'.store = g.store
  accepted : g'.accepted = g.accepted

instance : Std.Refl SameFence := ⟨fun _ => ⟨rfl, rfl⟩⟩

instance : IsTrans Desk SameFence :=
  ⟨fun _ _ _ h h' => ⟨h'.store.trans h.store, h'.accepted.trans h.accepted⟩⟩

theorem Desk.Covered.of_same {g g' : Desk} (h : g.Covered) (hs : SameFence g g') : g'.Covered := by
  intro e he
  rw [hs.accepted] at he
  rw [hs.store]
  exact h e he

/-- A store with fences as high or higher, and an accepted epoch that they cover. -/
theorem Desk.Covered.raise {g : Desk} (h : g.Covered) {store : Store} {accepted : List Nat}
    (hr : Raised g.store.index.fences store.index.fences)
    (ha : ∀ e ∈ accepted, e ∈ g.accepted ∨ ∃ f, AList.lookup scope store.index.fences = some f ∧ e ≤ f) :
    ({ g with store := store, accepted := accepted } : Desk).Covered := by
  intro e he
  rcases ha e he with hold | hnew
  · obtain ⟨f, hf, hle⟩ := h e hold
    obtain ⟨f', hf', hle'⟩ := hr scope f hf
    exact ⟨f', hf', hle.trans hle'⟩
  · exact hnew

theorem keeps_writeActive : Handler.Keeps SameFence (writeActive d request) := by
  intro g
  unfold writeActive
  split
  · exact ⟨rfl, rfl⟩
  · exact ⟨rfl, rfl⟩
  · exact ⟨rfl, rfl⟩

theorem keeps_applyInput (sequence : Nat) : Handler.Keeps SameFence (applyInput d request sequence) := by
  intro g
  unfold applyInput
  split
  · exact ⟨rfl, rfl⟩
  split
  · exact ⟨rfl, rfl⟩
  split
  · exact ⟨rfl, rfl⟩
  · exact ⟨rfl, rfl⟩

/-- The action of a request leaves the store alone. -/
theorem keeps_serveAction : Handler.Keeps SameFence (serveAction w d request) := by
  unfold serveAction
  cases request.action with
  | frame =>
    show Handler.Keeps SameFence (serveFrame w d request)
    unfold serveFrame
    split
    · exact .fail _
    · exact .bind (.ensure _ _) fun _ => .bind (.modify fun _ => ⟨rfl, rfl⟩) fun _ => .bind .get fun _ =>
        .bind (.ensure _ _) fun _ => .bind keeps_writeActive fun _ => .pure _
  | input =>
    exact .bind (.ensure _ _) fun _ => .bind (.ofExcept _) fun n => .bind (keeps_applyInput n) fun _ =>
      .bind keeps_writeActive fun _ => .pure _
  | heartbeat => exact .bind keeps_writeActive fun _ => .pure _
  | close =>
    refine .bind (.modify fun _ => ⟨rfl, rfl⟩) fun _ => .bind (.modify fun g => ?_) fun _ => .pure _
    split
    · exact ⟨rfl, rfl⟩
    · exact ⟨rfl, rfl⟩

theorem covered_acceptLease (h : g.Covered) (now : Int) (lease : RemoteDesktopLeaseV1) (cas : CasStore) :
    (acceptLease now lease g).2.Covered := by
  refine h.raise (@raised_op cas g.store (.acceptAuthority now scope lease.fencingEpoch lease.nonce lease.expiresAt)) ?_
  intro e he
  split at he
  · rename_i hok
    rcases List.mem_append.1 he with he | he
    · exact Or.inl he
    · obtain rfl := List.mem_singleton.1 he
      exact Or.inr (covered_accept hok)
  · exact Or.inl he

theorem covered_admitLease (h : g.Covered) (lease : RemoteDesktopLeaseV1) (cas : CasStore) :
    (admitLease d lease g).2.Covered := by
  unfold admitLease
  rw [Handler.get_bind]
  split
  · exact h
  · have haccept := covered_acceptLease h d.acceptedAt lease cas
    rcases hx : acceptLease d.acceptedAt lease g with ⟨e | u, g₁⟩
    · rw [Handler.bind_of_error hx]
      rw [hx] at haccept
      exact haccept
    · rw [Handler.bind_of_ok hx]
      rw [hx] at haccept
      exact haccept.of_same ⟨rfl, rfl⟩

theorem covered_handleRequest (h : g.Covered) : (handleRequest w d request g).2.Covered := by
  unfold handleRequest
  cases hcheck : checkRequest w d request with
  | error e => exact h
  | ok u =>
    show ((admitLease d request.lease >>= fun _ => serveAction w d request) g).2.Covered
    have hadmit := @covered_admitLease d g h request.lease w.cas
    rcases hx : admitLease d request.lease g with ⟨e | u, g₁⟩
    · rw [Handler.bind_of_error hx]
      rw [hx] at hadmit
      exact hadmit
    · rw [Handler.bind_of_ok hx]
      rw [hx] at hadmit
      exact hadmit.of_same (keeps_serveAction g₁)

theorem covered_step (h : g.Covered) (i : Input) : (step w i g).2.Covered := by
  cases i with
  | request d request => exact covered_handleRequest h
  | store op => exact h.raise (@raised_op w.cas g.store op) fun e he => Or.inl he
  | restart => exact h.of_same ⟨rfl, rfl⟩

/-- After every run the accepted epochs are under the fence. -/
theorem covered_exec (s : Store) (inputs : List Input) : ((machine w).exec inputs (Desk.initial s)).Covered := by
  refine (machine w).state_invariant (I := Desk.Covered) (C := fun _ _ => True) (fun g i hg _ => covered_step hg i) inputs ?_
    ((machine w).meets_of_forall (fun _ _ => trivial) _ _)
  intro e he
  cases he

/-! ## The fence -/

/-- Below the fence a lease is not accepted again. -/
theorem admitLease_fenced (h : g.Covered) {lease : RemoteDesktopLeaseV1} {e : Nat} (he : e ∈ g.accepted)
    (hlt : lease.fencingEpoch < e) (hnew : holdsLease lease g.sessions = false) :
    ∃ err g', admitLease d lease g = (.error err, g') := by
  obtain ⟨f, hf, hle⟩ := h e he
  have hfenced : isFenced scope lease.fencingEpoch g.store = true := by
    unfold isFenced
    rw [hf]
    simp only [Option.any_some, decide_eq_true_eq]
    omega
  obtain ⟨err, hfail⟩ := @acceptAuthority_fenced g.store d.acceptedAt scope lease.nonce lease.fencingEpoch lease.expiresAt hfenced
  have haccept : ∃ g', acceptLease d.acceptedAt lease g = (.error (.storage err), g') := by
    unfold acceptLease
    rw [hfail]
    exact ⟨_, rfl⟩
  obtain ⟨g', hg'⟩ := haccept
  refine ⟨.storage err, g', ?_⟩
  unfold admitLease
  rw [Handler.get_bind]
  rw [if_neg (by simp [hnew])]
  exact Handler.bind_of_error hg'

/-- A session that holds the lease goes on. -/
theorem admitLease_held {lease : RemoteDesktopLeaseV1} (h : holdsLease lease g.sessions = true) :
    admitLease d lease g = (.ok (), g) := by
  unfold admitLease
  rw [Handler.get_bind]
  rw [if_pos h]
  rfl

/-- Below an accepted epoch a request succeeds exactly if it reuses the lease its session holds. -/
theorem handleRequest_isOk_iff (h : g.Covered) {e : Nat} (he : e ∈ g.accepted) (hlt : request.lease.fencingEpoch < e) :
    (handleRequest w d request g).1.isOk = true ↔ reusesFencedLease w g (.request d request) = true := by
  have hany : g.accepted.any (fun e => request.lease.fencingEpoch < e) = true := by
    rw [List.any_eq_true]
    exact ⟨e, he, by simpa using hlt⟩
  have hreuse : reusesFencedLease w g (.request d request) =
      ((checkRequest w d request).isOk && holdsLease request.lease g.sessions && canServe w d request g) := by
    simp [reusesFencedLease, hany]
  rw [hreuse]
  unfold handleRequest
  cases hcheck : checkRequest w d request with
  | error err => simp [Handler.ofExcept, Handler.fail, bind, Except.isOk, Except.toBool]
  | ok u =>
    show ((admitLease d request.lease >>= fun _ => serveAction w d request) g).1.isOk = true ↔ _
    cases hheld : holdsLease request.lease g.sessions with
    | true =>
      rw [Handler.bind_of_ok (admitLease_held hheld), serveAction_isOk_iff]
      simp [Except.isOk, Except.toBool]
    | false =>
      obtain ⟨err, g', hfail⟩ := @admitLease_fenced d g h request.lease e he hlt hheld
      rw [Handler.bind_of_error hfail]
      simp [Except.isOk, Except.toBool]

end

/-- In a run, no request below an epoch that was accepted before it succeeds. -/
def IsFenced (w : Worker) (s : Store) (inputs : List Input) : Prop :=
  ∀ pre d request post, inputs = pre ++ .request d request :: post →
    (∃ e ∈ ((machine w).exec pre (Desk.initial s)).accepted, request.lease.fencingEpoch < e) →
    (handleRequest w d request ((machine w).exec pre (Desk.initial s))).1.isOk = false

/-- A run keeps the fence of Remote Assist if and only if no request in it goes on with the lease its session holds
after an authority of a higher epoch was accepted. -/
theorem remote_assist_is_fenced_iff (w : Worker) (s : Store) (inputs : List Input) :
    IsFenced w s inputs ↔
      (machine w).Meets (fun g i => reusesFencedLease w g i = false) inputs (Desk.initial s) := by
  constructor
  · intro h
    refine Machine.meets_of_splits fun pre i post hsplit => ?_
    cases i with
    | request d request =>
      by_contra hreuse
      rw [Bool.not_eq_false] at hreuse
      have hany : ∃ e ∈ ((machine w).exec pre (Desk.initial s)).accepted, request.lease.fencingEpoch < e := by
        simp only [reusesFencedLease, Bool.and_eq_true, List.any_eq_true, decide_eq_true_eq] at hreuse
        exact hreuse.1.2
      obtain ⟨e, he, hlt⟩ := hany
      have hok := (handleRequest_isOk_iff (covered_exec s pre) he hlt).2 hreuse
      rw [h pre d request post hsplit ⟨e, he, hlt⟩] at hok
      cases hok
    | store op => rfl
    | restart => rfl
  · rintro hm pre d request post rfl ⟨e, he, hlt⟩
    have hstep := ((Machine.meets_append _ _ _ _ _).1 hm).2.1
    rw [← Bool.not_eq_true, handleRequest_isOk_iff (covered_exec s pre) he hlt, hstep]
    exact Bool.false_ne_true

/-! ## Two sessions -/

section

open Scenario

/-- The lease of a session at an epoch, as the Governor signs it at time zero for 30 seconds. -/
def leaseAt (session : Nat) (epoch : Nat) : RemoteDesktopLeaseV1 where
  schema := RemoteDesktopLeaseV1.schemaName
  leaseId := BitVec.ofNat 128 (100 + session)
  sessionId := BitVec.ofNat 128 session
  nodeId := 7
  controllerEndpointId := "controller"
  mode := .view
  maxWidth := 1280
  maxHeight := 720
  maxFps := 10
  issuedAt := 0
  expiresAt := seconds 30
  nonce := if session = 1 then "first" else "second"
  fencingEpoch := epoch
  signature := "signed"

/-- A worker for which the Governor has signed two leases, of epochs 1 and 2. -/
def worker : Worker where
  cas := cas
  nodeId := 7
  controllerEndpointId := "controller"
  verifyRemoteDesktopLease := fun lease => lease = leaseAt 1 1 ∨ lease = leaseAt 2 2

/-- What requests find at a second. -/
def drawsAt (second : Int) : Draws where
  killed := false
  enabled := true
  activeAt := seconds second
  acceptedAt := seconds second
  capturedAt := seconds second
  updatedAt := seconds second
  captured := none
  applied := true
  written := .done
  cleared := true

/-- A sign of life under a lease. -/
def heartbeat (lease : RemoteDesktopLeaseV1) : RemoteDesktopRequestV1 where
  schema := RemoteDesktopRequestV1.schemaName
  requestId := 1
  lease := lease
  action := .heartbeat
  inputSequence := none
  events := []

/-- The first session opens at epoch 1 and the second at epoch 2. -/
def twoSessions : List Input :=
  [.request (drawsAt 1) (heartbeat (leaseAt 1 1)), .request (drawsAt 2) (heartbeat (leaseAt 2 2))]

/-- Then a heartbeat of the first session, under the lease it holds, succeeds below the accepted epoch 2. -/
theorem overtaken_session_goes_on : ¬ ∀ (w : Worker) (s : Store) (inputs : List Input), IsFenced w s inputs := by
  intro h
  have hlast := h worker Store.empty (twoSessions ++ [.request (drawsAt 3) (heartbeat (leaseAt 1 1))]) twoSessions
    (drawsAt 3) (heartbeat (leaseAt 1 1)) [] rfl ⟨2, by decide +kernel, by decide⟩
  revert hlast
  decide +kernel

end

end Rampage.Agent.RemoteAssist
