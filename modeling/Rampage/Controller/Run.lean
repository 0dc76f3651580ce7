/-
Runs of the controller: a machine whose inputs are the requests of its handlers, restarts, and the
background work of the handlers that are not modelled (offer registration, replication, model and
remote sessions), which changes offers, constraints and replicas at will and appends events of
its own. Requests run one after the other, as the admission gate makes the gated ones do.
-/
import Rampage.Controller.Effects.Admission
import Rampage.Controller.Effects.Handlers
import Rampage.Controller.Restore
import Rampage.Lib.Machine

namespace Rampage.Controller

open Rampage.Protocol Rampage.Planner Rampage.Governor Rampage.Ledger Handler

/-- The classes of events that the unmodelled handlers append. -/
def backgroundKinds : List EventKind :=
  [.resourceOfferRegistered, .storageLeaseIssued, .artifactReplicated, .artifactReplicaVerified, .artifactRepaired,
    .artifactReplicaInvalidated, .other]

/-- What the unmodelled handlers leave behind. -/
structure Background where
  offers : Table Uuid ResourceOfferV1
  excludedNodes : Finset Uuid
  artifactReplicas : Table (String × Uuid) ArtifactRefV1
  artifactHead : String → Except String ArtifactRefV1
  events : List Event
  kinds : ∀ e ∈ events, e.kind ∈ backgroundKinds
  readings : Nat
  ids : Nat

/-- What the tasks outside the handlers leave, as far as the handlers see it. -/
def background (b : Background) (s : Host) : Host :=
  { s with
    offers := b.offers
    excludedNodes := b.excludedNodes
    artifactReplicas := b.artifactReplicas
    artifactHead := b.artifactHead
    ledger := s.ledger ++ b.events
    appends := s.appends + b.events.length
    reads := s.reads + b.readings
    uuids := s.uuids + b.ids }

/-- A request to the controller, or something that happens to its process. -/
inductive Op
  | createInvite
  | enrollNode (request : EnrollmentRequestV1)
  | revokeNode (nodeId : Uuid) (confirmed : Bool)
  | submitJob (job : JobSpecV1)
  | submitShardSet (set : ShardSetV1)
  | claimWork (nodeId : Uuid)
  | submitReceipt (receipt : ExecutionReceiptV1)
  | authorizePromotionCanary (candidate : PromotionCandidateV1)
  | localStop
  | localResume (confirmation : String)
  | background (b : Background)
  | restart

/-- What the request is answered with. -/
inductive Reply
  | invite (r : Except HttpError EnrollmentInvite)
  | enrolled (r : Except HttpError (Uuid × Nat))
  | revoked (r : Except HttpError Unit)
  | job (r : Except HttpError (StatusCode × CapabilityLeaseV1))
  | shardSet (r : Except HttpError ShardSetAdmission)
  | claim (r : Except HttpError (Option WorkClaimV1))
  | receipt (r : Except HttpError ReceiptReply)
  | canary (r : Except HttpError (StatusCode × PromotionCanaryLeaseV1))
  | stopped (r : Except HttpError StopReply)
  | resumed (r : Except HttpError Nat)
  | done

/-- The answer of a request as a reply. -/
def reply {α : Type} (f : Except HttpError α → Reply) (x : Request α) (s : Host) : Reply × Host :=
  (f (x s).1, (x s).2)

/-- One input of the machine. -/
def step (cfg : Config) (w : World) : Op → Host → Reply × Host
  | .createInvite => reply .invite (createInvite cfg w)
  | .enrollNode request => reply .enrolled (enrollNode cfg w request)
  | .revokeNode nodeId confirmed => reply .revoked (revokeNode w nodeId confirmed)
  | .submitJob job => reply .job (submitJob cfg w job)
  | .submitShardSet set => reply .shardSet (submitShardSet cfg w set)
  | .claimWork nodeId => reply .claim (claimWork cfg w nodeId)
  | .submitReceipt receipt => reply .receipt (submitReceipt cfg w receipt)
  | .authorizePromotionCanary candidate => reply .canary (authorizePromotionCanary cfg w candidate)
  | .localStop => reply .stopped (localStop w)
  | .localResume confirmation =>
    reply .resumed (localResumeArrive confirmation >>= fun _ => localResumeGated w)
  | .background b => fun s => (.done, Controller.background b s)
  | .restart => fun s => (.done, (Controller.restart w s).2)

/-- The controller under requests. -/
def machine (cfg : Config) (w : World) : Machine Host Op Reply := ⟨step cfg w⟩

/-- A controller on a fresh data directory. -/
def initial (epoch : Nat) (artifactHead : String → Except String ArtifactRefV1) : Host where
  ledger := []
  offers := ∅
  nodes := ∅
  invites := ∅
  assignments := ∅
  idempotency := ∅
  reservations := []
  completedReceipts := ∅
  shardSets := ∅
  artifactReplicas := ∅
  excludedNodes := ∅
  artifactHead := artifactHead
  killLatch := false
  stopEpochMarker := none
  fencingEpoch := epoch
  reads := 0
  appends := 0
  files := 0
  uuids := 0
  texts := 0
  transfers := 0

/-! ## STOP and resume -/

/-- Between `s` and `t` at most the latch, its marker and the epoch changed, the epoch only forward. -/
structure Halting (s t : Host) : Prop where
  later : Later s t
  events : ∃ es, t.ledger = s.ledger ++ es ∧
    ∀ e ∈ es, e.kind = .epochAdvanced ∨ e.kind = .ownerStop ∨ e.kind = .ownerResume
  nodes : t.nodes = s.nodes
  invites : t.invites = s.invites
  assignments : t.assignments = s.assignments
  idempotency : t.idempotency = s.idempotency
  reservations : t.reservations = s.reservations
  completedReceipts : t.completedReceipts = s.completedReceipts
  shardSets : t.shardSets = s.shardSets
  fencingEpoch : s.fencingEpoch ≤ t.fencingEpoch

theorem Halting.of_quiet {s t : Host} (h : Quiet (fun k => k = .epochAdvanced ∨ k = .ownerStop ∨ k = .ownerResume) s t) :
    Halting s t :=
  ⟨h.later, h.events, h.nodes, h.invites, h.assignments, h.idempotency, h.reservations, h.completedReceipts,
    h.shardSets, h.fencingEpoch ▸ le_rfl⟩

theorem Halting.trans {s t u : Host} (h : Halting s t) (h' : Halting t u) : Halting s u := by
  obtain ⟨es, hes, hK⟩ := h.events
  obtain ⟨es', hes', hK'⟩ := h'.events
  refine ⟨h.later.trans h'.later, ⟨es ++ es', by rw [hes', hes, List.append_assoc], ?_⟩, h'.nodes.trans h.nodes,
    h'.invites.trans h.invites, h'.assignments.trans h.assignments, h'.idempotency.trans h.idempotency,
    h'.reservations.trans h.reservations, h'.completedReceipts.trans h.completedReceipts,
    h'.shardSets.trans h.shardSets, h.fencingEpoch.trans h'.fencingEpoch⟩
  intro e he
  rcases List.mem_append.1 he with he | he
  · exact hK e he
  · exact hK' e he

instance : Std.Refl Halting := ⟨fun s => Halting.of_quiet (Quiet.refl s)⟩

instance : IsTrans Host Halting := ⟨fun _ _ _ => Halting.trans⟩

variable {w : World}

/-- A file operation leaves its effect or not. -/
theorem fileOperation_cases (f : Host → Host) (s : Host) :
    (fileOperation w f s = (.ok (), f { s with files := s.files + 1 })) ∨ ∃ e,
      (fileOperation w f s = (.error e, f { s with files := s.files + 1 }) ∨
        fileOperation w f s = (.error e, { s with files := s.files + 1 })) := by
  unfold fileOperation
  split
  · exact Or.inl rfl
  · rename_i text done _
    refine Or.inr ⟨internalError text, ?_⟩
    cases done with
    | true => exact Or.inl rfl
    | false => exact Or.inr rfl

/-- A file operation on the latch or the marker. -/
theorem halting_fileOperation {f : Host → Host} (hf : ∀ s, Halting s (f s)) : Keeps Halting (fileOperation w f) := by
  have hlater : ∀ s : Host, Halting s { s with files := s.files + 1 } := fun s =>
    Halting.of_quiet (Quiet.of_later ⟨le_rfl, le_rfl, le_rfl⟩ rfl)
  intro s
  unfold fileOperation
  split
  · exact (hlater s).trans (hf _)
  · rename_i text done _
    cases done with
    | true => exact (hlater s).trans (hf _)
    | false => exact hlater s

theorem halting_latch (latch : Bool) (marker : Option (Option Nat)) (s : Host) :
    Halting s { s with killLatch := latch, stopEpochMarker := marker } :=
  ⟨⟨le_rfl, le_rfl, le_rfl⟩, ⟨[], (List.append_nil s.ledger).symm, by simp⟩, rfl, rfl, rfl, rfl, rfl, rfl, rfl, le_rfl⟩

theorem halting_append {e : Event} (he : e.kind = .epochAdvanced ∨ e.kind = .ownerStop ∨ e.kind = .ownerResume) :
    Keeps Halting (append w e) :=
  (quiet_append w he).mono fun _ _ => Halting.of_quiet

theorem halting_advanceFencingEpoch : Keeps Halting (advanceFencingEpoch w) := by
  intro s
  unfold advanceFencingEpoch
  rw [get_bind]
  rcases h1 : (ensure (s.fencingEpoch + 1 < 2 ^ 63)
    (internalError "fencing epoch overflow for authority scope controller") : Request Unit) s with ⟨e | u, s₁⟩
  · have q := Keeps.ensure (R := Halting) (s.fencingEpoch + 1 < 2 ^ 63)
      (internalError "fencing epoch overflow for authority scope controller") s
    rw [h1] at q
    rw [bind_of_error h1]
    exact q
  obtain ⟨_, rfl⟩ := ensure_ok h1
  rw [bind_of_ok h1]
  have q := halting_append (w := w) (e := .epochAdvanced "controller" (s.fencingEpoch + 1)) (Or.inl rfl) s
  rcases h2 : append w (.epochAdvanced "controller" (s.fencingEpoch + 1)) s with ⟨e | u, s₂⟩
  · rw [h2] at q
    rw [bind_of_error h2]
    exact q
  · obtain ⟨_, rfl⟩ := append_ok h2
    rw [h2] at q
    rw [bind_of_ok h2, modify_bind]
    exact ⟨⟨q.later.reads, q.later.appends, q.later.uuids⟩, q.events, rfl, rfl, rfl, rfl, rfl, rfl, rfl,
      Nat.le_succ s.fencingEpoch⟩

theorem halting_localStop : Keeps Halting (localStop w) := by
  refine Keeps.bind Keeps.get fun s => Keeps.ite (Keeps.pure _) ?_
  refine Keeps.bind (Keeps.bind Keeps.get fun s => Keeps.ite (Keeps.pure ()) ?_) fun _ => ?_
  · exact halting_fileOperation fun s => halting_latch true s.stopEpochMarker s
  refine Keeps.bind halting_advanceFencingEpoch fun epoch => ?_
  refine Keeps.bind (Keeps.bind ?_ fun _ => ?_) fun _ => ?_
  · exact halting_fileOperation fun s => halting_latch s.killLatch _ s
  · exact halting_fileOperation fun s => halting_latch s.killLatch _ s
  · exact Keeps.bind (halting_append (Or.inr (Or.inl rfl))) fun _ => Keeps.pure _

theorem halting_localResumeGated : Keeps Halting (localResumeGated w) := by
  refine Keeps.bind (Keeps.bind Keeps.get fun _ => Keeps.ite ?_ (Keeps.pure ())) fun _ => ?_
  · exact halting_fileOperation fun s => halting_latch s.killLatch none s
  refine Keeps.bind (Keeps.bind Keeps.get fun _ => Keeps.ite ?_ (Keeps.pure ())) fun _ => ?_
  · exact halting_fileOperation fun s => halting_latch false s.stopEpochMarker s
  refine Keeps.bind (halting_append (Or.inr (Or.inr rfl))) fun _ => ?_
  exact Keeps.bind Keeps.get fun _ => Keeps.pure _

end Rampage.Controller
