/-
The controller's state and the primitives its request handlers are made of.

`AppState` holds the tables the source keeps behind locks, the evidence ledger and the three
facts kept outside the process (the kill latch, its epoch marker and the fencing epoch).
A handler is a `Request`: a computation on `Host`, which is the state together with how far the
process has consumed the streams of its surroundings. `World` fixes those streams: the successive
clock readings, generated identifiers and texts, whether the n-th append or file operation fails,
what a remote store answers, and in which order a hash map is iterated. Lock poisoning and the
JSON encoding of requests and events are not modelled.
-/
import Rampage.Ledger.Events
import Rampage.Governor.Promotion
import Rampage.Governor.Storage
import Rampage.Lib.Table
import Rampage.Lib.Handler
import Mathlib.Data.Int.ConditionallyCompleteOrder
import Mathlib.Order.SuccPred.CompleteLinearOrder

namespace Rampage.Controller

open Rampage.Protocol Rampage.Planner Rampage.Governor Rampage.Ledger

/-- An invitation that has not been used, by the hash of its secret. -/
structure InviteRecord where
  secretHash : String
  expiresAt : Int
deriving DecidableEq

/-- A job with its lease, and whether a node has got it. -/
structure Assignment where
  job : JobSpecV1
  lease : CapabilityLeaseV1
  claimed : Bool
deriving DecidableEq

/-- A set that was admitted, with the leases of its shards. -/
structure ShardSetRecord where
  spec : ShardSetV1
  leases : List CapabilityLeaseV1
deriving DecidableEq

/-- The controller's tables, and the ledger they are replayed from. -/
structure AppState where
  ledger : List Event
  offers : Table Uuid ResourceOfferV1
  nodes : Table Uuid NodeIdentityV1
  invites : Table Uuid InviteRecord
  assignments : Table Uuid Assignment
  idempotency : Table String Uuid
  reservations : List ResourceReservation
  completedReceipts : Table Uuid Uuid
  shardSets : Table Uuid ShardSetRecord
  artifactReplicas : Table (String × Uuid) ArtifactRefV1
  /-- The nodes the autonomous constraints exclude from placement. -/
  excludedNodes : Finset Uuid
  /-- `artifact_store.head`. -/
  artifactHead : String → Except String ArtifactRefV1
  /-- `kill_latch_path.is_file()`. -/
  killLatch : Bool
  /-- The epoch marker beside the latch: whether the file exists, and the epoch it holds. -/
  stopEpochMarker : Option (Option Nat)
  fencingEpoch : Nat

/-- The state of the process with its position in the streams of `World`. -/
structure Host extends AppState where
  reads : Nat
  appends : Nat
  files : Nat
  uuids : Nat
  texts : Nat
  transfers : Nat

/-- What a running controller is configured with, the signature schemes included. -/
structure Config where
  governor : GovernorConfig
  admissionPolicy : AdmissionPolicy
  localEnrollmentEnabled : Bool
  governorPublicKey : String
  hashSecret : String → String
  signLease : CapabilityLeaseV1 → String
  signCanary : PromotionCanaryLeaseV1 → String
  signStorage : StorageLeaseV1 → String
  verifyEnrollmentSignature : EnrollmentRequestV1 → Bool
  verifyReceiptSignature : String → ExecutionReceiptV1 → Bool
  /-- A mesh record has the shape and the addresses of a reachable endpoint. -/
  endpointIsWellFormed : MeshEndpointRecordV1 → Bool

/-- What a self-scan of the fabric finds: the nodes to exclude, and whether that is news. -/
structure Diagnosis where
  evidenceDigest : String
  excludedNodes : Finset Uuid
  constraintsChanged : Bool
  reportChanged : Bool

/-- The surroundings of a run. -/
structure World where
  clock : Nat → Int
  uuid : Nat → Uuid
  text : Nat → String
  /-- The failure of the n-th append, if it fails. -/
  appendFailure : Nat → Option String
  /-- The failure of the n-th file operation, and whether it had its effect before it failed. -/
  fileFailure : Nat → Option (String × Bool)
  /-- What the n-th transfer to a remote store ends with: the artifact it committed, or an error. -/
  remote : Nat → ArtifactRefV1 → Except String ArtifactRefV1
  diagnosis : Nat → Diagnosis
  order : Nat → IterOrder

/-- The HTTP statuses the handlers answer with. -/
inductive StatusCode
  | ok | created | accepted | badRequest | unauthorized | forbidden | notFound | conflict | gone | locked
  | internalServerError | badGateway | serviceUnavailable
deriving DecidableEq

/-- An error answer: its status, its text and the further fields of its body. -/
structure HttpError where
  status : StatusCode
  error : String
  blockedJobId : Option Uuid := none
  plannedShards : Option Nat := none
  authorityIssued : Option Bool := none
  authorityPersisted : Option Bool := none
deriving DecidableEq

/-- A handler acts on the host or fails with a status. -/
abbrev Request (α : Type) := Handler Host HttpError α

/-- `internal_error`. -/
def internalError (text : String) : HttpError := { status := .internalServerError, error := text }

/-- The answer while the kill latch is set. -/
def killLatchError : HttpError := { status := .locked, error := "owner kill latch is active" }

/-! ## Primitives -/

section

variable (w : World)

/-- `chrono::Utc::now()`. -/
def utcNow : Request Int := fun s => (.ok (w.clock s.reads), { s with reads := s.reads + 1 })

/-- `Uuid::now_v7()`. -/
def newUuid : Request Uuid := fun s => (.ok (w.uuid s.uuids), { s with uuids := s.uuids + 1 })

/-- `Uuid::new_v4().simple().to_string()`. -/
def newText : Request String := fun s => (.ok (w.text s.texts), { s with texts := s.texts + 1 })

/-- `state.ledger.append(..).map_err(internal_error)`. -/
def append (e : Event) : Request Unit := fun s =>
  match w.appendFailure s.appends with
  | none => (.ok (), { s with ledger := s.ledger ++ [e], appends := s.appends + 1 })
  | some text => (.error (internalError text), { s with appends := s.appends + 1 })

/-- A file operation that fails or has the given effect. -/
def fileOperation (effect : Host → Host) : Request Unit := fun s =>
  match w.fileFailure s.files with
  | none => (.ok (), effect { s with files := s.files + 1 })
  | some (text, done) =>
    let s := { s with files := s.files + 1 }
    (.error (internalError text), if done then effect s else s)

/-- The transfer of an artifact to a remote store. -/
def transfer (source : ArtifactRefV1) : Request (Except String ArtifactRefV1) := fun s =>
  (.ok (w.remote s.transfers source), { s with transfers := s.transfers + 1 })

end

/-- The handlers that answer `LOCKED` while the kill latch is set. -/
def refuseWhileKilled : Request Unit := fun s => if s.killLatch then (.error killLatchError, s) else (.ok (), s)

/-- `map_err` with a status: a contract or a denial as an error answer. -/
def orRefuse {ε α : Type} (status : StatusCode) (text : ε → String) (r : Except ε α) : Request α :=
  Handler.ofExcept (r.mapError fun e => { status := status, error := text e })

/-! ## Running time -/

/-- Positions in the streams only move forward. -/
structure Later (s t : Host) : Prop where
  reads : s.reads ≤ t.reads
  appends : s.appends ≤ t.appends
  uuids : s.uuids ≤ t.uuids

theorem Later.refl (s : Host) : Later s s := ⟨le_rfl, le_rfl, le_rfl⟩

theorem Later.trans {s t u : Host} (h : Later s t) (h' : Later t u) : Later s u :=
  ⟨h.reads.trans h'.reads, h.appends.trans h'.appends, h.uuids.trans h'.uuids⟩

/-! ## Quiet steps

Most of a handler runs before it changes a table: it reads the clock, generates identifiers and
appends events that the tables do not depend on. -/

/-- Between `s` and `t` only events of the classes `K` were appended; the tables about jobs and the
authority facts did not change. -/
structure Frame (K : EventKind → Prop) (s t : Host) : Prop where
  later : Later s t
  events : ∃ es, t.ledger = s.ledger ++ es ∧ ∀ e ∈ es, K e.kind
  assignments : t.assignments = s.assignments
  idempotency : t.idempotency = s.idempotency
  reservations : t.reservations = s.reservations
  completedReceipts : t.completedReceipts = s.completedReceipts
  shardSets : t.shardSets = s.shardSets
  killLatch : t.killLatch = s.killLatch
  stopEpochMarker : t.stopEpochMarker = s.stopEpochMarker
  fencingEpoch : t.fencingEpoch = s.fencingEpoch

/-- A frame that leaves the nodes and the invites alone too. -/
structure Quiet (K : EventKind → Prop) (s t : Host) : Prop extends Frame K s t where
  nodes : t.nodes = s.nodes
  invites : t.invites = s.invites

variable {K L : EventKind → Prop}

theorem Frame.refl (s : Host) : Frame K s s :=
  ⟨Later.refl s, ⟨[], by simp⟩, rfl, rfl, rfl, rfl, rfl, rfl, rfl, rfl⟩

theorem Frame.trans {s t u : Host} (h : Frame K s t) (h' : Frame K t u) : Frame K s u := by
  obtain ⟨es, hes, hK⟩ := h.events
  obtain ⟨es', hes', hK'⟩ := h'.events
  refine ⟨h.later.trans h'.later, ⟨es ++ es', ?_, ?_⟩, h'.assignments.trans h.assignments,
    h'.idempotency.trans h.idempotency, h'.reservations.trans h.reservations,
    h'.completedReceipts.trans h.completedReceipts, h'.shardSets.trans h.shardSets,
    h'.killLatch.trans h.killLatch, h'.stopEpochMarker.trans h.stopEpochMarker,
    h'.fencingEpoch.trans h.fencingEpoch⟩
  · rw [hes', hes, List.append_assoc]
  · intro e he
    rcases List.mem_append.1 he with he | he
    · exact hK e he
    · exact hK' e he

theorem Frame.mono (hKL : ∀ k, K k → L k) {s t : Host} (h : Frame K s t) : Frame L s t := by
  obtain ⟨es, hes, hK⟩ := h.events
  exact { h with events := ⟨es, hes, fun e he => hKL _ (hK e he)⟩ }

theorem Quiet.refl (s : Host) : Quiet K s s := ⟨Frame.refl s, rfl, rfl⟩

theorem Quiet.trans {s t u : Host} (h : Quiet K s t) (h' : Quiet K t u) : Quiet K s u :=
  ⟨h.toFrame.trans h'.toFrame, h'.nodes.trans h.nodes, h'.invites.trans h.invites⟩

theorem Quiet.mono (hKL : ∀ k, K k → L k) {s t : Host} (h : Quiet K s t) : Quiet L s t :=
  ⟨h.toFrame.mono hKL, h.nodes, h.invites⟩

/-- A frame without events leaves the ledger as it is. -/
theorem Frame.ledger_eq {s t : Host} (h : Frame (fun _ => False) s t) : t.ledger = s.ledger := by
  obtain ⟨es, hes, hno⟩ := h.events
  have : es = [] := List.eq_nil_iff_forall_not_mem.2 fun e he => hno e he
  rw [hes, this, List.append_nil]

instance : Std.Refl (Frame K) := ⟨Frame.refl⟩

instance : IsTrans Host (Frame K) := ⟨fun _ _ _ => Frame.trans⟩

instance : Std.Refl (Quiet K) := ⟨Quiet.refl⟩

instance : IsTrans Host (Quiet K) := ⟨fun _ _ _ => Quiet.trans⟩

section

variable (w : World)

open Handler

/-- A change of the stream positions, forward, is quiet. -/
theorem Quiet.of_later {s t : Host} (h : Later s t) (ha : t.toAppState = s.toAppState) : Quiet K s t := by
  refine ⟨⟨h, ⟨[], ?_, by simp⟩, ?_, ?_, ?_, ?_, ?_, ?_, ?_, ?_⟩, ?_, ?_⟩ <;> simp [ha]

theorem quiet_utcNow : Keeps (Quiet K) (utcNow w) := fun _ =>
  Quiet.of_later ⟨Nat.le_succ _, le_rfl, le_rfl⟩ rfl

theorem quiet_newUuid : Keeps (Quiet K) (newUuid w) := fun _ =>
  Quiet.of_later ⟨le_rfl, le_rfl, Nat.le_succ _⟩ rfl

theorem quiet_newText : Keeps (Quiet K) (newText w) := fun _ =>
  Quiet.of_later ⟨le_rfl, le_rfl, le_rfl⟩ rfl

theorem quiet_transfer (source : ArtifactRefV1) : Keeps (Quiet K) (transfer w source) := fun _ =>
  Quiet.of_later ⟨le_rfl, le_rfl, le_rfl⟩ rfl

theorem quiet_append {e : Event} (he : K e.kind) : Keeps (Quiet K) (append w e) := by
  intro s
  unfold append
  split
  · exact ⟨⟨⟨le_rfl, Nat.le_succ _, le_rfl⟩, ⟨[e], rfl, by simpa using he⟩, rfl, rfl, rfl, rfl, rfl, rfl, rfl, rfl⟩,
      rfl, rfl⟩
  · exact Quiet.of_later ⟨le_rfl, Nat.le_succ _, le_rfl⟩ rfl

theorem quiet_refuseWhileKilled : Keeps (Quiet K) refuseWhileKilled := by
  intro s
  unfold refuseWhileKilled
  split <;> exact Quiet.refl s

theorem quiet_orRefuse {ε α : Type} (status : StatusCode) (text : ε → String) (r : Except ε α) :
    Keeps (Quiet K) (orRefuse status text r) :=
  Keeps.ofExcept _

end

/-! ## Answered primitives -/

section

variable {w : World} {s t : Host}

theorem utcNow_ok {now : Int} (h : utcNow w s = (.ok now, t)) :
    now = w.clock s.reads ∧ t = { s with reads := s.reads + 1 } := by
  cases h
  exact ⟨rfl, rfl⟩

theorem utcNow_bind {α : Type} (f : Int → Request α) (s : Host) :
    (utcNow w >>= f) s = f (w.clock s.reads) { s with reads := s.reads + 1 } := rfl

theorem append_ok {e : Event} {u : Unit} (h : append w e s = (.ok u, t)) :
    w.appendFailure s.appends = none ∧ t = { s with ledger := s.ledger ++ [e], appends := s.appends + 1 } := by
  unfold append at h
  split at h
  · rename_i hf
    cases h
    exact ⟨hf, rfl⟩
  · cases h

/-- An append the ledger takes. -/
theorem append_bind {α : Type} {e : Event} (f : Unit → Request α) (h : w.appendFailure s.appends = none) :
    (append w e >>= f) s = f () { s with ledger := s.ledger ++ [e], appends := s.appends + 1 } := by
  refine Handler.bind_of_ok ?_
  simp only [append, h]

theorem append_error {e : Event} {err : HttpError} (h : append w e s = (.error err, t)) :
    w.appendFailure s.appends ≠ none ∧ t = { s with appends := s.appends + 1 } := by
  unfold append at h
  split at h
  · cases h
  · rename_i text hf
    cases h
    exact ⟨by simp [hf], rfl⟩

theorem refuseWhileKilled_ok {u : Unit} (h : refuseWhileKilled s = (.ok u, t)) : s.killLatch = false ∧ t = s := by
  unfold refuseWhileKilled at h
  split at h
  · cases h
  · rename_i hk
    cases h
    exact ⟨by simpa using hk, rfl⟩

theorem orRefuse_ok {ε α : Type} {status : StatusCode} {text : ε → String} {r : Except ε α} {a : α}
    (h : orRefuse status text r s = (.ok a, t)) : r = .ok a ∧ t = s := by
  obtain ⟨hr, hs⟩ := Handler.ofExcept_ok h
  refine ⟨?_, hs.symm⟩
  cases r with
  | error e => cases hr
  | ok b =>
    cases hr
    rfl

end

end Rampage.Controller
