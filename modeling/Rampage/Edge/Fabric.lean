/-
An edge worker and its controller. The worker's requests go to the controller's handlers, unless they or
their answers are lost on the way; between two pulses the controller does anything else it can.
A pulse delivers the receipt in the outbox before everything else and ends at the first error, so a
receipt that the controller refuses for good keeps every later pulse from renewing the offer and from
asking for work.
-/
import Rampage.Edge.Worker
import Rampage.Controller.Refused
import Rampage.Storage.Scenario

namespace Rampage.Edge

open Rampage.Protocol Rampage.Agent Rampage.Controller
open Rampage.Storage (Store)

/-! ## The joint system -/

/-- What a pulse has posted. -/
inductive Sent
  | receipt
  | offer
  | claim
deriving DecidableEq

/-- The controller and the worker, with what the worker has sent so far. -/
structure Fabric where
  controller : Host
  worker : EdgeWorker
  sent : List Sent

/-- How a request fares: it does not reach the controller (or is turned away as temporarily unavailable), its answer is
lost, or it is answered. -/
inductive Transit
  | lost
  | unanswered
  | answered
deriving DecidableEq

/-- What a pulse meets. -/
structure PulseDraws where
  killLatch : Bool
  telemetry : EdgeTelemetry
  pending : Transit
  /-- The outbox file is removed after its receipt was answered. -/
  removed : Bool
  offerExpiresAt : Int
  /-- What the registration of the offer leaves at the controller, and whether it was accepted. -/
  offer : Background
  offering : Transit
  offerAccepted : Bool
  claiming : Transit
  d : ExecutionDraws
  stored : Bool
  submitting : Transit
  submittedRemoved : Bool

/-- The controller serves another request, or the edge worker pulses. -/
inductive FabricOp
  | controller (op : Op)
  | pulse (q : PulseDraws)

/-- A pulse acts on both ends or fails. -/
abbrev FabricM (α : Type) := Handler Fabric EdgeError α

/-- An answer with a success status. -/
def isSuccess : Reply → Bool
  | .receipt r => r.isOk
  | _ => false

/-- A part of the pulse that stays on the device. -/
def onWorker {α : Type} (x : PulseM α) : FabricM α := fun f => ((x f.worker).1, { f with worker := (x f.worker).2 })

section

variable (cfg : Config) (w : World)

/-- A request: the answer, if it comes back. -/
def request (what : Sent) (op : Op) (transit : Transit) : FabricM (Option Reply) := fun f =>
  match transit with
  | .lost => (.ok none, { f with sent := f.sent ++ [what] })
  | .unanswered => (.ok none, { f with sent := f.sent ++ [what], controller := (step cfg w op f.controller).2 })
  | .answered =>
    (.ok (some (step cfg w op f.controller).1),
      { f with sent := f.sent ++ [what], controller := (step cfg w op f.controller).2 })

/-- `flush_receipt_outbox`. -/
def flushOutbox (q : PulseDraws) : FabricM Unit := do
  let f ← Handler.get
  match f.worker.outbox with
  | none => pure ()
  | some receipt => do
    let answer ← request cfg w .receipt (.submitReceipt receipt) q.pending
    onWorker (flushReceiptOutbox (answer.any isSuccess && q.removed))

/-- `persist_and_submit_receipt`, and the rest of the pulse. -/
def persistAndSubmit (q : PulseDraws) (receipt : ExecutionReceiptV1) : FabricM Unit := do
  let answer ← if q.stored then request cfg w .receipt (.submitReceipt receipt) q.submitting else pure none
  onWorker (persistAndSubmitReceipt q.stored (answer.any isSuccess && q.submittedRemoved) receipt)
  onWorker (Handler.modify fun w =>
    { w with receiptsSubmitted := U64.satAdd w.receiptsSubmitted 1, lastResult := some receipt })

variable (x : Executor) (deviceKind platform : String)

/-- The part of a pulse after the claim was answered. -/
def work (q : PulseDraws) : Option WorkClaimV1 → FabricM Unit
  | some claim => onWorker (executeClaim x q.d claim) >>= persistAndSubmit cfg w q
  | none => onWorker (Handler.modify fun w => { w with lastResult := none })

/-- The part of a pulse after the outbox was flushed: the offer, and the poll for work. -/
def offerAndClaim (q : PulseDraws) : FabricM Unit := do
  let offered ← request cfg w .offer (.background q.offer) q.offering
  Handler.ensure (offered.isSome && q.offerAccepted) .controller
  onWorker (Handler.modify fun w => { w with offerExpiresAt := some q.offerExpiresAt })
  let claimed ← request cfg w .claim (.claimWork x.nodeId) q.claiming
  match claimed with
  | some (.claim (.ok claim)) => work cfg w x q claim
  | _ => Handler.fail .controller

/-- `pulse`. -/
def fabricPulse (q : PulseDraws) : FabricM Unit := do
  Handler.ensure (!q.killLatch) .stopLatch
  Handler.ensure q.telemetry.eligible (.denied (q.telemetry.denial.getD "edge policy denied"))
  Handler.ensure (q.telemetry.deviceKind == deviceKind && q.telemetry.platform == platform) .telemetryMismatch
  flushOutbox cfg w q
  offerAndClaim cfg w x q

/-- The controller and one edge worker. -/
def fabric : Machine Fabric FabricOp (Except EdgeError Unit) where
  step
    | .controller op, f => (.ok (), { f with controller := (step cfg w op f.controller).2 })
    | .pulse q, f => fabricPulse cfg w x deviceKind platform q f

end

/-! ## The controller's runs -/

section

variable {cfg : Config} {w : World} {x : Executor} {deviceKind platform : String}

/-- The controller was run from the one state to the other. -/
def Ran (cfg : Config) (w : World) (f g : Fabric) : Prop := ∃ ops, g.controller = (machine cfg w).exec ops f.controller

instance : Std.Refl (Ran cfg w) := ⟨fun _ => ⟨[], rfl⟩⟩

instance : IsTrans Fabric (Ran cfg w) := ⟨fun _ _ _ ⟨ops, h⟩ ⟨ops', h'⟩ =>
  ⟨ops ++ ops', by rw [h', h, Machine.exec_append]⟩⟩

theorem ran_onWorker {α : Type} (y : PulseM α) : Handler.Keeps (Ran cfg w) (onWorker y) := fun _ => ⟨[], rfl⟩

theorem ran_request (what : Sent) (op : Op) (transit : Transit) :
    Handler.Keeps (Ran cfg w) (request cfg w what op transit) := by
  intro f
  cases transit with
  | lost => exact ⟨[], rfl⟩
  | unanswered => exact ⟨[op], rfl⟩
  | answered => exact ⟨[op], rfl⟩

theorem ran_flushOutbox (q : PulseDraws) : Handler.Keeps (Ran cfg w) (flushOutbox cfg w q) := by
  refine Handler.Keeps.bind Handler.Keeps.get fun f => ?_
  cases f.worker.outbox with
  | none => exact Handler.Keeps.pure ()
  | some receipt => exact Handler.Keeps.bind (ran_request _ _ _) fun _ => ran_onWorker _

theorem ran_work (q : PulseDraws) (claim : Option WorkClaimV1) :
    Handler.Keeps (Ran cfg w) (work cfg w x q claim) := by
  cases claim with
  | none => exact ran_onWorker _
  | some claim =>
    refine Handler.Keeps.bind (ran_onWorker _) fun receipt => ?_
    unfold persistAndSubmit
    split
    · refine Handler.Keeps.bind (ran_request _ _ _) fun _ => ?_
      exact Handler.Keeps.bind (ran_onWorker _) fun _ => ran_onWorker _
    · refine Handler.Keeps.bind (Handler.Keeps.pure none) fun _ => ?_
      exact Handler.Keeps.bind (ran_onWorker _) fun _ => ran_onWorker _

theorem ran_offerAndClaim (q : PulseDraws) : Handler.Keeps (Ran cfg w) (offerAndClaim cfg w x q) := by
  refine Handler.Keeps.bind (ran_request _ _ _) fun offered => ?_
  refine Handler.Keeps.bind (Handler.Keeps.ensure _ _) fun _ => ?_
  refine Handler.Keeps.bind (ran_onWorker _) fun _ => ?_
  refine Handler.Keeps.bind (ran_request _ _ _) fun claimed => ?_
  split
  · exact ran_work q _
  · exact Handler.Keeps.fail _

theorem ran_step (op : FabricOp) (f : Fabric) : Ran cfg w f ((fabric cfg w x deviceKind platform).step op f).2 := by
  cases op with
  | controller op => exact ⟨[op], rfl⟩
  | pulse q =>
    have hpulse : Handler.Keeps (Ran cfg w) (fabricPulse cfg w x deviceKind platform q) :=
      Handler.Keeps.bind (Handler.Keeps.ensure _ _) fun _ => Handler.Keeps.bind (Handler.Keeps.ensure _ _) fun _ =>
        Handler.Keeps.bind (Handler.Keeps.ensure _ _) fun _ =>
          Handler.Keeps.bind (ran_flushOutbox q) fun _ => ran_offerAndClaim q
    exact hpulse f

theorem ran_exec : ∀ (ops : List FabricOp) (f : Fabric), Ran cfg w f ((fabric cfg w x deviceKind platform).exec ops f)
  | [], f => refl_of (Ran cfg w) f
  | op :: ops, f => trans_of (Ran cfg w) (ran_step op f) (ran_exec ops _)

end

/-! ## The worker's side -/

section

variable (cfg : Config) (w : World) (x : Executor) (deviceKind platform : String)

theorem flushOutbox_worker (q : PulseDraws) (f : Fabric) : ∃ flushed,
    flushReceiptOutbox flushed f.worker = ((flushOutbox cfg w q f).1, (flushOutbox cfg w q f).2.worker) := by
  unfold flushOutbox
  rw [Handler.get_bind]
  cases hout : f.worker.outbox with
  | none =>
    refine ⟨false, ?_⟩
    simp only [flushReceiptOutbox, hout]
    rfl
  | some receipt =>
    dsimp only
    cases ht : q.pending with
    | lost => exact ⟨_, rfl⟩
    | unanswered => exact ⟨_, rfl⟩
    | answered => exact ⟨_, rfl⟩

theorem persistAndSubmit_worker (q : PulseDraws) (receipt : ExecutionReceiptV1) (f : Fabric) : ∃ submitted,
    ∀ p : Pulse, p.stored = q.stored → p.submitted = submitted → pulseReceipt p receipt f.worker =
      ((persistAndSubmit cfg w q receipt f).1, (persistAndSubmit cfg w q receipt f).2.worker) := by
  have hworker : ∀ (answer : Option Reply) (g : Fabric), g.worker = f.worker → ∀ p : Pulse, p.stored = q.stored →
      p.submitted = (answer.any isSuccess && q.submittedRemoved) → pulseReceipt p receipt f.worker =
        (((onWorker (persistAndSubmitReceipt q.stored (answer.any isSuccess && q.submittedRemoved) receipt) >>= fun _ =>
          onWorker (Handler.modify fun w => { w with
            receiptsSubmitted := U64.satAdd w.receiptsSubmitted 1, lastResult := some receipt })) g).1,
        ((onWorker (persistAndSubmitReceipt q.stored (answer.any isSuccess && q.submittedRemoved) receipt) >>= fun _ =>
          onWorker (Handler.modify fun w => { w with
            receiptsSubmitted := U64.satAdd w.receiptsSubmitted 1, lastResult := some receipt })) g).2.worker) := by
    intro answer g hg p hstored hsubmitted
    unfold pulseReceipt
    rw [hstored, hsubmitted, ← hg]
    rcases hp : persistAndSubmitReceipt q.stored (answer.any isSuccess && q.submittedRemoved) receipt g.worker
      with ⟨err | u, w'⟩
    · have hlift : onWorker (persistAndSubmitReceipt q.stored (answer.any isSuccess && q.submittedRemoved) receipt) g =
          (.error err, { g with worker := w' }) := by simp only [onWorker, hp]
      rw [Handler.bind_of_error hp, Handler.bind_of_error hlift]
    · have hlift : onWorker (persistAndSubmitReceipt q.stored (answer.any isSuccess && q.submittedRemoved) receipt) g =
          (.ok u, { g with worker := w' }) := by simp only [onWorker, hp]
      rw [Handler.bind_of_ok hp, Handler.bind_of_ok hlift]
      rfl
  unfold persistAndSubmit
  cases hstored : q.stored with
  | false =>
    rw [hstored] at hworker
    exact ⟨_, hworker none f rfl⟩
  | true =>
    rw [hstored] at hworker
    cases ht : q.submitting with
    | lost => exact ⟨_, hworker none { f with sent := f.sent ++ [.receipt] } rfl⟩
    | unanswered => exact ⟨_, hworker none ⟨_, f.worker, _⟩ rfl⟩
    | answered => exact ⟨_, hworker (some _) ⟨_, f.worker, _⟩ rfl⟩

/-- A request leaves the worker alone. -/
theorem request_worker (what : Sent) (op : Op) (transit : Transit) (f : Fabric) :
    ∃ answer g, request cfg w what op transit f = (.ok answer, g) ∧ g.worker = f.worker := by
  cases transit with
  | lost => exact ⟨_, _, rfl, rfl⟩
  | unanswered => exact ⟨_, _, rfl, rfl⟩
  | answered => exact ⟨_, _, rfl, rfl⟩

theorem work_worker (q : PulseDraws) (claim : Option WorkClaimV1) (f : Fabric) : ∃ submitted,
    ∀ p : Pulse, p.d = q.d → p.stored = q.stored → p.submitted = submitted → pulseWork x p claim f.worker =
      ((work cfg w x q claim f).1, (work cfg w x q claim f).2.worker) := by
  cases claim with
  | none => exact ⟨false, fun _ _ _ _ => rfl⟩
  | some claim =>
    rcases he : executeClaim x q.d claim f.worker with ⟨err | receipt, w'⟩
    · have hlift : onWorker (executeClaim x q.d claim) f = (.error err, { f with worker := w' }) := by
        simp only [onWorker, he]
      refine ⟨false, fun p hd _ _ => ?_⟩
      dsimp only [pulseWork, work]
      rw [hd, Handler.bind_of_error he, Handler.bind_of_error hlift]
    · have hlift : onWorker (executeClaim x q.d claim) f = (.ok receipt, { f with worker := w' }) := by
        simp only [onWorker, he]
      obtain ⟨submitted, hsub⟩ := persistAndSubmit_worker cfg w q receipt { f with worker := w' }
      refine ⟨submitted, fun p hd hstored hsubmitted => ?_⟩
      dsimp only [pulseWork, work]
      rw [hd, Handler.bind_of_ok he, Handler.bind_of_ok hlift]
      exact hsub p hstored hsubmitted

/-- The answer to the poll, as a pulse knows it. -/
theorem claimed_worker (q : PulseDraws) (claimed : Option Reply) (f : Fabric) : ∃ answer submitted,
    ∀ p : Pulse, p.claim = answer → p.d = q.d → p.stored = q.stored → p.submitted = submitted →
      (match p.claim with
        | none => (Handler.fail .controller : PulseM Unit)
        | some claim => pulseWork x p claim) f.worker =
      (((match claimed with
        | some (.claim (.ok claim)) => work cfg w x q claim
        | _ => Handler.fail .controller : FabricM Unit) f).1,
      ((match claimed with
        | some (.claim (.ok claim)) => work cfg w x q claim
        | _ => Handler.fail .controller : FabricM Unit) f).2.worker) := by
  split
  · rename_i claim
    obtain ⟨submitted, hwork⟩ := work_worker cfg w x q claim f
    refine ⟨some claim, submitted, fun p hc hd hstored hsubmitted => ?_⟩
    rw [hc]
    exact hwork p hd hstored hsubmitted
  · refine ⟨none, false, fun p hc _ _ _ => ?_⟩
    rw [hc]
    rfl

/-- What the worker does in the joint system is a pulse, with the answers the controller gave. -/
theorem fabricPulse_worker (q : PulseDraws) (f : Fabric) : ∃ p : Pulse,
    p.killLatch = q.killLatch ∧ p.telemetry = q.telemetry ∧ pulse x deviceKind platform p f.worker =
      ((fabricPulse cfg w x deviceKind platform q f).1, (fabricPulse cfg w x deviceKind platform q f).2.worker) := by
  obtain ⟨flushed, hflush⟩ := flushOutbox_worker cfg w q f
  rcases hf : flushOutbox cfg w q f with ⟨err | u, f₁⟩
  · refine ⟨⟨q.killLatch, q.telemetry, flushed, 0, false, none, q.d, q.stored, false⟩, rfl, rfl, ?_⟩
    rw [hf] at hflush
    unfold pulse fabricPulse
    dsimp only
    cases q.killLatch with
    | true => rfl
    | false =>
      cases q.telemetry.eligible with
      | false => rfl
      | true =>
        cases (q.telemetry.deviceKind == deviceKind && q.telemetry.platform == platform) with
        | false => rfl
        | true =>
          simp only [Bool.not_false, Handler.ensure_true_bind]
          rw [Handler.bind_of_error hflush, Handler.bind_of_error hf]
  · rw [hf] at hflush
    -- the pulse is given what the controller would answer, also where the worker does not ask
    obtain ⟨offered, f₂, hoffer, hworker₂⟩ :=
      request_worker cfg w .offer (.background q.offer) q.offering f₁
    obtain ⟨claimed, f₃, hclaim, hworker₃⟩ := request_worker cfg w .claim (.claimWork x.nodeId)
      q.claiming { f₂ with worker := { f₂.worker with offerExpiresAt := some q.offerExpiresAt } }
    obtain ⟨answer, submitted, hpoll⟩ := claimed_worker cfg w x q claimed f₃
    have hoffered : f₃.worker = { f₂.worker with offerExpiresAt := some q.offerExpiresAt } := hworker₃
    rw [hoffered, hworker₂] at hpoll
    refine ⟨⟨q.killLatch, q.telemetry, flushed, q.offerExpiresAt, offered.isSome && q.offerAccepted, answer, q.d,
      q.stored, submitted⟩, rfl, rfl, ?_⟩
    unfold pulse fabricPulse offerAndClaim
    dsimp only
    cases q.killLatch with
    | true => rfl
    | false =>
      cases q.telemetry.eligible with
      | false => rfl
      | true =>
        cases (q.telemetry.deviceKind == deviceKind && q.telemetry.platform == platform) with
        | false => rfl
        | true =>
          simp only [Bool.not_false, Handler.ensure_true_bind]
          rw [Handler.bind_of_ok hflush, Handler.bind_of_ok hf, Handler.bind_of_ok hoffer]
          cases hacc : (offered.isSome && q.offerAccepted) with
          | false =>
            rw [Handler.ensure_false_bind, Handler.ensure_false_bind, hworker₂]
          | true =>
            have hmodify : onWorker (Handler.modify fun w => { w with offerExpiresAt := some q.offerExpiresAt }) f₂ =
                (.ok (), { f₂ with worker := { f₂.worker with offerExpiresAt := some q.offerExpiresAt } }) := rfl
            rw [Handler.ensure_true_bind, Handler.ensure_true_bind, Handler.modify_bind, Handler.bind_of_ok hmodify,
              Handler.bind_of_ok hclaim]
            exact hpoll ⟨false, q.telemetry, flushed, q.offerExpiresAt, true, answer, q.d, q.stored, submitted⟩
              rfl rfl rfl rfl

end

/-! ## A refused receipt in the outbox -/

section

variable {cfg : Config} {w : World} {x : Executor} {deviceKind platform : String}

/-- The answer to a receipt that is refused is no success. -/
theorem isSuccess_step_of_refused {receipt : ExecutionReceiptV1} {s : Host}
    (h : (submitReceipt cfg w receipt s).1.isOk = false) :
    isSuccess (step cfg w (.submitReceipt receipt) s).1 = false := h

/-- A flush of a refused receipt fails, and only the receipt was sent. -/
theorem flushOutbox_of_refused {q : PulseDraws} {f : Fabric} {receipt : ExecutionReceiptV1}
    (hout : f.worker.outbox = some receipt) (hno : (submitReceipt cfg w receipt f.controller).1.isOk = false) :
    ∃ controller, (controller = f.controller ∨ controller = (step cfg w (.submitReceipt receipt) f.controller).2) ∧
      flushOutbox cfg w q f = (.error .controller, ⟨controller, f.worker, f.sent ++ [.receipt]⟩) := by
  have hfails : ∀ (answer : Option Reply) (controller : Host), answer.any isSuccess = false →
      onWorker (flushReceiptOutbox (answer.any isSuccess && q.removed)) ⟨controller, f.worker, f.sent ++ [.receipt]⟩ =
        (.error .controller, ⟨controller, f.worker, f.sent ++ [.receipt]⟩) := by
    intro answer controller hanswer
    rw [hanswer, Bool.false_and]
    simp only [onWorker, flushReceiptOutbox, hout]
    rfl
  unfold flushOutbox
  rw [Handler.get_bind, hout]
  dsimp only
  cases ht : q.pending with
  | lost => exact ⟨f.controller, Or.inl rfl, hfails none f.controller rfl⟩
  | unanswered => exact ⟨_, Or.inr rfl, hfails none _ rfl⟩
  | answered =>
    exact ⟨_, Or.inr rfl, hfails (some (step cfg w (.submitReceipt receipt) f.controller).1) _
      (isSuccess_step_of_refused hno)⟩

/-- A pulse with a refused receipt in the outbox sends at most the receipt, and leaves the worker as it was. -/
theorem fabricPulse_of_refused {f : Fabric} {receipt : ExecutionReceiptV1} (hout : f.worker.outbox = some receipt)
    (hno : (submitReceipt cfg w receipt f.controller).1.isOk = false) (q : PulseDraws) :
    (fabricPulse cfg w x deviceKind platform q f).2.worker = f.worker ∧
      ((fabricPulse cfg w x deviceKind platform q f).2.sent = f.sent ∨
        (fabricPulse cfg w x deviceKind platform q f).2.sent = f.sent ++ [.receipt]) ∧
      ((fabricPulse cfg w x deviceKind platform q f).2.controller = f.controller ∨
        (fabricPulse cfg w x deviceKind platform q f).2.controller =
          (step cfg w (.submitReceipt receipt) f.controller).2) := by
  unfold fabricPulse
  cases q.killLatch with
  | true => exact ⟨rfl, Or.inl rfl, Or.inl rfl⟩
  | false =>
    cases q.telemetry.eligible with
    | false => exact ⟨rfl, Or.inl rfl, Or.inl rfl⟩
    | true =>
      cases (q.telemetry.deviceKind == deviceKind && q.telemetry.platform == platform) with
      | false => exact ⟨rfl, Or.inl rfl, Or.inl rfl⟩
      | true =>
        obtain ⟨controller, hc, hflush⟩ := flushOutbox_of_refused (q := q) hout hno
        simp only [Bool.not_false, Handler.ensure_true_bind]
        rw [Handler.bind_of_error hflush]
        exact ⟨rfl, Or.inr rfl, hc⟩

/-! ## Runs -/

/-- The controller of a later state was run from the earlier one, with no other receipt under the id of this one, and the
receipt is still in the outbox. -/
structure Wedged (cfg : Config) (w : World) (receipt : ExecutionReceiptV1) (f g : Fabric) : Prop where
  outbox : g.worker.outbox = some receipt
  ran : ∃ ops, g.controller = (machine cfg w).exec ops f.controller ∧
    ∀ r, .submitReceipt r ∈ ops → r.receiptId = receipt.receiptId → r = receipt

/-- In a wedged state whose lease ids are distinct the receipt is refused. -/
theorem Wedged.answer {receipt : ExecutionReceiptV1} {f g : Fabric} (h : Wedged cfg w receipt f g)
    (hrefused : Refused cfg w receipt f.controller) (hids : (issuedIds g.controller.ledger).Nodup) :
    (submitReceipt cfg w receipt g.controller).1.isOk = false := by
  obtain ⟨ops, hops, hreceipts⟩ := h.ran
  rw [hops] at hids ⊢
  exact hrefused ops ⟨hids, hreceipts⟩

/-- One more operation of the controller. -/
theorem Wedged.extend {receipt : ExecutionReceiptV1} {f g g' : Fabric} {op : Op} (h : Wedged cfg w receipt f g)
    (hc : g'.controller = (step cfg w op g.controller).2) (hout : g'.worker.outbox = g.worker.outbox)
    (hreceipt : ∀ r, op = .submitReceipt r → r.receiptId = receipt.receiptId → r = receipt) :
    Wedged cfg w receipt f g' := by
  obtain ⟨ops, hops, hreceipts⟩ := h.ran
  refine ⟨hout.trans h.outbox, ops ++ [op], ?_, ?_⟩
  · rw [hc, hops, Machine.exec_append]
    rfl
  · intro r hr
    rcases List.mem_append.1 hr with hr | hr
    · exact hreceipts r hr
    · exact hreceipt r (List.mem_singleton.1 hr).symm

theorem Wedged.step {receipt : ExecutionReceiptV1} {f g : Fabric} (h : Wedged cfg w receipt f g)
    (hrefused : Refused cfg w receipt f.controller) (op : FabricOp) (hids : (issuedIds g.controller.ledger).Nodup)
    (hreceipt : ∀ r, op = .controller (.submitReceipt r) → r.receiptId = receipt.receiptId → r = receipt) :
    Wedged cfg w receipt f ((fabric cfg w x deviceKind platform).step op g).2 := by
  cases op with
  | controller op =>
    refine @Wedged.extend _ _ _ _ _ _ op h rfl rfl fun r hop => ?_
    exact hreceipt r (by rw [hop])
  | pulse q =>
    obtain ⟨hworker, _, hc | hc⟩ :=
      @fabricPulse_of_refused _ _ x deviceKind platform _ _ h.outbox (h.answer hrefused hids) q
    · exact ⟨(congrArg EdgeWorker.outbox hworker).trans h.outbox, hc ▸ h.ran⟩
    · refine h.extend hc (congrArg EdgeWorker.outbox hworker) fun r hop _ => ?_
      cases hop
      rfl

theorem wedged_exec {receipt : ExecutionReceiptV1} {f : Fabric} (hout : f.worker.outbox = some receipt)
    (hrefused : Refused cfg w receipt f.controller) (ops : List FabricOp)
    (hids : (issuedIds ((fabric cfg w x deviceKind platform).exec ops f).controller.ledger).Nodup)
    (hreceipts : ∀ r, .controller (.submitReceipt r) ∈ ops → r.receiptId = receipt.receiptId → r = receipt) :
    Wedged cfg w receipt f ((fabric cfg w x deviceKind platform).exec ops f) := by
  induction ops using List.reverseRecOn with
  | nil => exact ⟨hout, [], rfl, fun _ h => absurd h List.not_mem_nil⟩
  | append_singleton ops op ih =>
    rw [Machine.exec_append] at hids ⊢
    have hstep : Ran cfg w ((fabric cfg w x deviceKind platform).exec ops f) ((fabric cfg w x deviceKind platform).exec [op]
        ((fabric cfg w x deviceKind platform).exec ops f)) := ran_step op _
    have hbefore : (issuedIds ((fabric cfg w x deviceKind platform).exec ops f).controller.ledger).Nodup := by
      obtain ⟨cops, hcops⟩ := hstep
      rw [hcops] at hids
      exact issuedIds_nodup_exec cops _ hids
    exact (ih hbefore fun r hr => hreceipts r (List.mem_append_left _ hr)).step hrefused op hbefore
      fun r hop => hreceipts r (by simp [hop])

/-- A receipt that the controller refuses for good wedges the worker: it stays in the outbox, and no later pulse,
however eligible, publishes an offer or asks for work. -/
theorem refused_receipt_wedges_worker (cfg : Config) (w : World) (x : Executor) (deviceKind platform : String)
    (f : Fabric) (receipt : ExecutionReceiptV1) (hout : f.worker.outbox = some receipt)
    (hrefused : Refused cfg w receipt f.controller) (ops : List FabricOp) (q : PulseDraws)
    (hids : (issuedIds ((fabric cfg w x deviceKind platform).exec ops f).controller.ledger).Nodup)
    (hreceipts : ∀ r, .controller (.submitReceipt r) ∈ ops → r.receiptId = receipt.receiptId → r = receipt) :
    let g := (fabric cfg w x deviceKind platform).exec ops f
    g.worker.outbox = some receipt ∧ ∃ sent, (fabricPulse cfg w x deviceKind platform q g).2.sent = g.sent ++ sent ∧
      Sent.offer ∉ sent ∧ Sent.claim ∉ sent := by
  intro g
  have hwedged : Wedged cfg w receipt f g := wedged_exec hout hrefused ops hids hreceipts
  obtain ⟨_, hsent, _⟩ :=
    @fabricPulse_of_refused _ _ x deviceKind platform _ _ hwedged.outbox (hwedged.answer hrefused hids) q
  refine ⟨hwedged.outbox, ?_⟩
  rcases hsent with hsent | hsent
  · exact ⟨[], by rw [hsent, List.append_nil], List.not_mem_nil, List.not_mem_nil⟩
  · exact ⟨[.receipt], hsent, by decide, by decide⟩

end

/-! ## A STOP before the delivery -/

namespace Scenario

/-- A phone that runs every claim without an output. -/
def phone : Executor where
  cas := Storage.Scenario.cas
  nodeId := 77
  verifyLease := fun _ _ => true
  signReceipt := fun _ => "signature"
  runAdapter := fun _ s => (.ok [], s)

/-- A phone in its owner's hand, with battery to spare. -/
def telemetry : EdgeTelemetry where
  platform := "android"
  deviceKind := "phone"
  foreground := true
  donationRequested := true
  batteryPercent := 80
  onExternalPower := false
  lowPowerMode := false
  thermalHeadroomPercent := 100

/-- A pulse in which everything but the submission of the receipt goes well. -/
def draws : PulseDraws where
  killLatch := false
  telemetry := telemetry
  pending := .answered
  removed := true
  offerExpiresAt := seconds 1000
  offer := Controller.Scenario.offered
  offering := .answered
  offerAccepted := true
  claiming := .answered
  d := ⟨seconds 1, seconds 1, seconds 1, seconds 2, 40⟩
  stored := true
  submitting := .lost
  submittedRemoved := true

/-- The phone runs job 9 and cannot deliver the receipt; the owner presses STOP and resumes. -/
def stopped : List FabricOp :=
  (Controller.Scenario.setup ++ [Op.submitJob (Controller.Scenario.job 9 "a")]).map .controller ++
    [.pulse draws, .controller .localStop, .controller (.localResume "OWNER_RESUME")]

end Scenario
/-- In a run from the start the controller's tables are as its records say. -/
theorem outrun_of_run {cfg : Config} {w : World} {x : Executor} {deviceKind platform : String} {epoch : Nat}
    {head : String → Except String ArtifactRefV1} {ops : List FabricOp} {worker : EdgeWorker} {sent : List Sent} {receipt : ExecutionReceiptV1} {f : Fabric}
    (hf : f = (fabric cfg w x deviceKind platform).exec ops ⟨initial epoch head, worker, sent⟩)
    (hids : (issuedIds f.controller.ledger).Nodup)
    (hunrecorded : ∀ r ∈ recordedReceipts f.controller.ledger, r.receiptId = receipt.receiptId → r.jobId ≠ receipt.jobId)
    (hended : ∃ lease ∈ issued f.controller.ledger, lease.leaseId = receipt.leaseId ∧
      lease.fencingEpoch < f.controller.fencingEpoch) : Outrun receipt f.controller := by
  obtain ⟨cops, hcops⟩ := ran_exec (x := x) ops ⟨initial epoch head, worker, sent⟩
  subst hf
  rw [hcops] at hids
  refine ⟨?_, ?_, fun r hr => hunrecorded r (mem_recordedReceipts.2 hr), hended⟩
  · rw [hcops]
    exact (history_exec cops epoch head hids).authority
  · rw [hcops]
    exact completedRecorded_exec cops epoch head

section

open Controller.Scenario (config world receipt)
open Scenario

/-- The state of the joint system after the STOP: the receipt is still in the outbox, its lease is of an ended epoch and
nothing is on record under its id. -/
theorem stopped_facts : ∀ f, f = (fabric config world phone "phone" "android").exec stopped
      ⟨initial 0 fun _ => .error "missing", EdgeWorker.initial Store.empty, []⟩ →
    f.worker.outbox = some (receipt 2) ∧ (issuedIds f.controller.ledger).Nodup ∧ Outrun (receipt 2) f.controller ∧
      (fabricPulse config world phone "phone" "android" draws f).2.sent = f.sent ++ [.receipt] := by
  intro f hf
  have hout : f.worker.outbox = some (receipt 2) := by
    rw [hf]
    decide +kernel
  have hids : (issuedIds f.controller.ledger).Nodup := by
    rw [hf]
    decide +kernel
  have hnone : recordedReceipts f.controller.ledger = [] := by
    rw [hf]
    decide +kernel
  have hended : ∃ lease ∈ issued f.controller.ledger, lease.leaseId = (receipt 2).leaseId ∧
      lease.fencingEpoch < f.controller.fencingEpoch := by
    rw [hf]
    decide +kernel
  refine ⟨hout, hids, outrun_of_run hf hids ?_ hended, ?_⟩
  · rw [hnone]
    exact fun r hr => absurd hr List.not_mem_nil
  · rw [hf]
    decide +kernel

/-- The phone has run its job and could not deliver the receipt, then the owner stopped and resumed the fabric. The
receipt is refused for good, and an eligible pulse sends nothing else. -/
theorem stopped_receipt_is_all_the_phone_sends : ∃ f, f = (fabric config world phone "phone" "android").exec stopped
      ⟨initial 0 fun _ => .error "missing", EdgeWorker.initial Store.empty, []⟩ ∧
    f.worker.outbox = some (receipt 2) ∧ Refused config world (receipt 2) f.controller ∧
      draws.telemetry.eligible = true ∧
      (fabricPulse config world phone "phone" "android" draws f).2.sent = f.sent ++ [.receipt] := by
  obtain ⟨hout, _, houtrun, hsent⟩ := stopped_facts _ rfl
  exact ⟨_, rfl, hout, houtrun.refused, by decide, hsent⟩

theorem stopped_phone_is_wedged : ∃ f : Fabric, f.worker.outbox = some (receipt 2) ∧
    Refused config world (receipt 2) f.controller ∧
      ∃ sent, (fabricPulse config world phone "phone" "android" draws f).2.sent = f.sent ++ sent ∧
        Sent.offer ∉ sent ∧ Sent.claim ∉ sent := by
  obtain ⟨f, hf⟩ : ∃ f, f = (fabric config world phone "phone" "android").exec stopped
    ⟨initial 0 fun _ => .error "missing", EdgeWorker.initial Store.empty, []⟩ := ⟨_, rfl⟩
  obtain ⟨hout, hids, houtrun, _⟩ := stopped_facts f hf
  refine ⟨f, hout, houtrun.refused, ?_⟩
  exact (refused_receipt_wedges_worker config world phone "phone" "android" f (receipt 2) hout houtrun.refused [] draws
    hids fun _ h => absurd h List.not_mem_nil).2

end

end Rampage.Edge
