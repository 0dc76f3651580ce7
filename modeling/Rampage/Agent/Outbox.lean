/-
The polling loop of the desktop agent with its receipt outbox: deliver what is in the outbox, collect a finished
execution into it, claim new work. A turn of the loop is `deliver`, `collect` and `claim` in this order; executions
finish and the process restarts in between, and a process may be started with `--work-once` instead
(`execute_one_work_item`). `outbox_keeps_receipts_iff` says in which runs no written receipt is lost: those in which no
finished execution is collected over another receipt that was not yet answered with success.
-/
import Rampage.Lib.Machine
import Rampage.Agent.Execute
import Rampage.Storage.Scenario

namespace Rampage.Agent

open Rampage.Protocol Rampage.Storage

/-! ## The loop -/

/-- The agent: the authority store and the outbox file are durable, the execution thread, its channel and
`work_in_flight` are not. The state records which receipts were written to the outbox and which submissions the
controller has answered with success. -/
structure Loop where
  executing : Executing
  outbox : Option ExecutionReceiptV1
  written : List ExecutionReceiptV1
  delivered : List ExecutionReceiptV1
  running : Option WorkClaimV1
  finished : List (Except ExecutionError ExecutionReceiptV1)
  workInFlight : Bool

/-- How a submission ends: with an error or a transport failure, or with success, after which the file is removed or
cannot be. -/
inductive Delivery
  | failed
  | accepted (removed : Bool)
deriving DecidableEq

/-- What the controller and the file system answer to a process started with `--work-once`. -/
structure WorkOnce where
  pending : Delivery
  claim : Option (Option WorkClaimV1)
  d : ExecutionDraws
  stored : Bool
  posted : Delivery

/-- What happens next in the agent's loop. -/
inductive Turn
  | deliver (answer : Delivery)
  | collect (stored : Bool)
  /-- The answer to a claim: none if it fails. -/
  | claim (answer : Option (Option WorkClaimV1))
  | finish (d : ExecutionDraws)
  | restart
  | workOnce (o : WorkOnce)

/-- The process ends. -/
def Loop.forget (l : Loop) : Loop := { l with running := none, finished := [], workInFlight := false }

/-- The pending receipt is posted, and its file removed if that succeeds. -/
def Loop.deliver (answer : Delivery) (l : Loop) : Loop :=
  match l.outbox, answer with
  | none, _ => l
  | some _, .failed => l
  | some pending, .accepted true => { l with outbox := none, delivered := l.delivered ++ [pending] }
  -- `fs::remove_file(..)?` ends the process
  | some pending, .accepted false => { l with delivered := l.delivered ++ [pending] }.forget

/-- A receipt is renamed into the outbox. -/
def Loop.store (receipt : ExecutionReceiptV1) (l : Loop) : Loop :=
  { l with outbox := some receipt, written := l.written ++ [receipt] }

/-- `execution_rx.try_recv()`. -/
def Loop.collect (stored : Bool) (l : Loop) : Loop :=
  match l.finished with
  | [] => l
  | .ok receipt :: rest =>
    if stored then { l.store receipt with finished := rest, workInFlight := false } else l.forget
  | .error _ :: rest => { l with finished := rest, workInFlight := false }

/-- The poll for work, which spawns the execution thread. -/
def Loop.claim (answer : Option (Option WorkClaimV1)) (l : Loop) : Loop :=
  match l.workInFlight, answer with
  | false, some (some claim) => { l with running := some claim, workInFlight := true }
  | _, _ => l

section

variable (x : Executor)

/-- The execution thread ends and sends its result. -/
def Loop.finish (d : ExecutionDraws) (l : Loop) : Loop :=
  match l.running with
  | none => l
  | some claim =>
    let (result, executing) := executeClaimWithStore x d claim claim.lease.fencingEpoch l.executing
    { l with executing := executing, running := none, finished := l.finished ++ [result] }

/-- `execute_one_work_item` from the point where the outbox is empty. -/
def Loop.workOnceClaim (o : WorkOnce) (l : Loop) : Loop :=
  match o.claim with
  | some (some claim) =>
    let (result, executing) := executeClaimWithStore x o.d claim claim.lease.fencingEpoch l.executing
    let l := { l with executing := executing }
    match result with
    | .error _ => l
    | .ok receipt => if o.stored then ((l.store receipt).deliver o.posted).forget else l
  | _ => l

/-- `execute_one_work_item`, in a process of its own: a pending receipt that cannot be delivered ends it. -/
def Loop.workOnce (o : WorkOnce) (l : Loop) : Loop :=
  let l := l.forget
  match (l.deliver o.pending).outbox with
  | some _ => l.deliver o.pending
  | none => (l.deliver o.pending).workOnceClaim x o

/-- A turn of the loop. -/
def loopStep : Turn → Loop → Unit × Loop
  | .deliver answer, l => ((), l.deliver answer)
  | .collect stored, l => ((), l.collect stored)
  | .claim answer, l => ((), l.claim answer)
  | .finish d, l => ((), l.finish x d)
  | .restart, l => ((), l.forget)
  | .workOnce o, l => ((), l.workOnce x o)

/-- The agent's loop under turns. -/
def loop : Machine Loop Turn Unit := ⟨loopStep x⟩

end

/-- An agent that has just been started, with the given authority store. -/
def Loop.initial (s : Store) : Loop := ⟨⟨s, []⟩, none, [], [], none, [], false⟩

/-! ## What a turn does to the outbox -/

/-- Every receipt that was written is in the outbox or was answered with success. -/
def Loop.Kept (l : Loop) : Prop := ∀ r ∈ l.written, r ∈ l.delivered ∨ l.outbox = some r

/-- What is in the outbox was written there. -/
def Loop.Recorded (l : Loop) : Prop := ∀ r, l.outbox = some r → r ∈ l.written

/-- No finished execution is collected over another receipt that was not answered with success. -/
def collectsIntoFree (l : Loop) : Turn → Bool
  | .collect true =>
    match l.finished, l.outbox with
    | .ok receipt :: _, some pending => pending ∈ l.delivered ∨ pending = receipt
    | _, _ => true
  | _ => true

section

variable {x : Executor} {l : Loop}

theorem kept_forget (h : l.Kept) : l.forget.Kept := h

theorem recorded_forget (h : l.Recorded) : l.forget.Recorded := h

theorem kept_deliver (answer : Delivery) (h : l.Kept) : (l.deliver answer).Kept := by
  unfold Loop.deliver
  split
  · exact h
  · exact h
  · rename_i pending heq
    intro r hr
    rcases h r hr with hd | ho
    · exact Or.inl (List.mem_append_left _ hd)
    · rw [heq] at ho
      cases ho
      exact Or.inl (List.mem_append_right _ (List.mem_singleton.2 rfl))
  · intro r hr
    rcases h r hr with hd | ho
    · exact Or.inl (List.mem_append_left _ hd)
    · exact Or.inr ho

theorem recorded_deliver (answer : Delivery) (h : l.Recorded) : (l.deliver answer).Recorded := by
  unfold Loop.deliver
  split
  · exact h
  · exact h
  · intro r hr
    cases hr
  · exact h

/-- A receipt is stored without loss where the outbox is free. -/
theorem kept_store {receipt : ExecutionReceiptV1} (h : l.Kept)
    (hfree : ∀ r, l.outbox = some r → r ∈ l.delivered ∨ r = receipt) : (l.store receipt).Kept := by
  intro r hr
  rcases List.mem_append.1 hr with hr | hr
  · rcases h r hr with hd | ho
    · exact Or.inl hd
    · rcases hfree r ho with hd | rfl
      · exact Or.inl hd
      · exact Or.inr rfl
  · rw [List.mem_singleton.1 hr]
    exact Or.inr rfl

theorem recorded_store (receipt : ExecutionReceiptV1) : (l.store receipt).Recorded := by
  intro r hr
  cases hr
  exact List.mem_append_right _ (List.mem_singleton.2 rfl)

/-- The process with `--work-once` writes into an empty outbox only. -/
theorem kept_workOnce (o : WorkOnce) (h : l.Kept) (hr : l.Recorded) : (l.workOnce x o).Kept ∧ (l.workOnce x o).Recorded := by
  have hkept := kept_deliver o.pending (kept_forget h)
  have hrecorded := recorded_deliver o.pending (recorded_forget hr)
  unfold Loop.workOnce
  dsimp only
  split
  · exact ⟨hkept, hrecorded⟩
  rename_i hempty
  unfold Loop.workOnceClaim
  split
  · dsimp only
    split
    · exact ⟨hkept, hrecorded⟩
    split
    · refine ⟨kept_forget (kept_deliver _ (kept_store hkept ?_)), recorded_forget (recorded_deliver _ (recorded_store _))⟩
      intro r hout
      change (l.forget.deliver o.pending).outbox = some r at hout
      rw [hempty] at hout
      cases hout
    · exact ⟨hkept, hrecorded⟩
  · exact ⟨hkept, hrecorded⟩

theorem recorded_collect (stored : Bool) (h : l.Recorded) : (l.collect stored).Recorded := by
  unfold Loop.collect
  split
  · exact h
  · split
    · exact recorded_store _
    · exact h
  · exact h

/-- One turn that collects into a free outbox only. -/
theorem kept_turn {t : Turn} (h : l.Kept) (hr : l.Recorded) (hc : collectsIntoFree l t = true) : (loopStep x t l).2.Kept := by
  cases t with
  | deliver answer => exact kept_deliver answer h
  | collect stored =>
    show (l.collect stored).Kept
    unfold Loop.collect
    split
    · exact h
    · rename_i receipt rest hfinished
      split
      · rename_i hstored
        refine kept_store h ?_
        intro r hout
        simpa [collectsIntoFree, hstored, hfinished, hout] using hc
      · exact h
    · exact h
  | claim answer =>
    show (l.claim answer).Kept
    unfold Loop.claim
    split
    · exact h
    · exact h
  | finish d =>
    show (l.finish x d).Kept
    unfold Loop.finish
    split
    · exact h
    · exact h
  | restart => exact h
  | workOnce o => exact (kept_workOnce o h hr).1

theorem recorded_turn {t : Turn} (h : l.Kept) (hr : l.Recorded) : (loopStep x t l).2.Recorded := by
  cases t with
  | deliver answer => exact recorded_deliver answer hr
  | collect stored => exact recorded_collect stored hr
  | claim answer =>
    show (l.claim answer).Recorded
    unfold Loop.claim
    split
    · exact hr
    · exact hr
  | finish d =>
    show (l.finish x d).Recorded
    unfold Loop.finish
    split
    · exact hr
    · exact hr
  | restart => exact hr
  | workOnce o => exact (kept_workOnce o h hr).2

/-- A turn that collects over another undelivered receipt loses it. -/
theorem lost_turn {t : Turn} (hr : l.Recorded) (hc : collectsIntoFree l t = false) : ¬ (loopStep x t l).2.Kept := by
  intro hkept
  unfold collectsIntoFree at hc
  split at hc
  · split at hc
    · rename_i receipt rest pending hfinished hout
      simp only [decide_eq_false_iff_not, not_or] at hc
      have hstep : (loopStep x (.collect true) l).2 = { l.store receipt with finished := rest, workInFlight := false } := by
        show l.collect true = _
        unfold Loop.collect
        rw [hfinished]
        rfl
      rw [hstep] at hkept
      rcases hkept pending (List.mem_append_left _ (hr pending hout)) with hd | ho
      · exact hc.1 hd
      · cases ho
        exact hc.2 rfl
    · cases hc
  · cases hc

end

/-- No receipt that was written to the outbox is ever lost in a run, if and only if no finished execution is collected
over another receipt whose submission was not answered with success. -/
theorem outbox_keeps_receipts_iff (x : Executor) (s : Store) (turns : List Turn) :
    (∀ past, past <+: turns → ((loop x).exec past (Loop.initial s)).Kept) ↔
      (loop x).Meets (fun l t => collectsIntoFree l t = true) turns (Loop.initial s) := by
  have hstart : (Loop.initial s).Kept ∧ (Loop.initial s).Recorded :=
    ⟨fun r hr => (by cases hr), fun r hr => (by cases hr)⟩
  -- what is in the outbox was written, as long as nothing was lost
  have hrecorded : ∀ turns : List Turn, (∀ past, past <+: turns → ((loop x).exec past (Loop.initial s)).Kept) →
      ((loop x).exec turns (Loop.initial s)).Recorded := by
    intro turns
    induction turns using List.reverseRecOn with
    | nil => exact fun _ => hstart.2
    | append_singleton turns t ih =>
      intro hkept
      rw [Machine.exec_append]
      refine recorded_turn (hkept turns (List.prefix_append _ _)) (ih ?_)
      intro past hpast
      exact hkept past (hpast.trans (List.prefix_append _ _))
  induction turns using List.reverseRecOn with
  | nil =>
    refine ⟨fun _ => trivial, ?_⟩
    intro _ past hpast
    rw [List.prefix_nil.1 hpast]
    exact hstart.1
  | append_singleton turns t ih =>
    rw [Machine.meets_append]
    constructor
    · intro hkept
      have hpast : ∀ past, past <+: turns → ((loop x).exec past (Loop.initial s)).Kept := fun past hpast =>
        hkept past (hpast.trans (List.prefix_append _ _))
      refine ⟨ih.1 hpast, ?_, trivial⟩
      by_contra hn
      refine lost_turn (x := x) (hrecorded turns hpast) (by simpa using hn) ?_
      have := hkept (turns ++ [t]) List.prefix_rfl
      rw [Machine.exec_append] at this
      exact this
    · rintro ⟨hmeets, hc, _⟩ past hprefix
      have hpast := ih.2 hmeets
      rcases List.prefix_concat_iff.1 hprefix with rfl | hprefix
      · rw [Machine.exec_append]
        exact kept_turn (hpast turns List.prefix_rfl) (hrecorded turns hpast) hc
      · exact hpast past hprefix

section

/-- A claim of the node, with its lease. -/
def claimOf (job : Uuid) (nonce : String) (governorPublicKey : String) : WorkClaimV1 where
  schema := WorkClaimV1.schemaName
  job :=
    { schema := JobSpecV1.schemaName, jobId := job, projectId := 1, submittedBy := 2, adapter := "rampage.echo.v1",
      operation := "echo", arguments := [("value", "x")], inputs := [], requests := [], trust := .nativeTrusted,
      restartTolerant := true, networkAllowlist := ∅, deadline := seconds 60, idempotencyKey := "k" }
  lease :=
    { schema := CapabilityLeaseV1.schemaName, leaseId := job, jobId := job, nodeId := 7, projectId := 1,
      adapter := "rampage.echo.v1", operation := "echo", inputDigests := ∅, granted := [], networkAllowlist := ∅,
      issuedAt := 0, expiresAt := seconds 60, nonce := nonce, fencingEpoch := 1, signature := "signed by " ++ governorPublicKey }
  governorPublicKey := governorPublicKey

/-- A worker on which the echo adapter succeeds; a signature names its key. -/
def echoWorker : Executor where
  cas := Scenario.cas
  nodeId := 7
  verifyLease := fun key lease => lease.signature = "signed by " ++ key
  signReceipt := fun _ => "receipt"
  runAdapter := fun _ s => (.ok [], s)

/-- Every clock reads 0. -/
def executionDraws (receiptId : Uuid) : ExecutionDraws := ⟨0, 0, 0, 0, receiptId⟩

/-- The first receipt is not delivered because the controller answers that it is busy, while the claim path keeps
giving work: the second receipt takes the place of the first. -/
def busyRun : List Turn :=
  [.deliver .failed, .collect true, .claim (some (some (claimOf 11 "n1" "governor"))), .finish (executionDraws 101),
    .deliver .failed, .collect true, .claim (some (some (claimOf 12 "n2" "governor"))), .finish (executionDraws 102),
    .deliver .failed, .collect true, .claim (some none), .deliver (.accepted true), .collect true, .claim (some none)]

theorem busy_controller_loses_receipt :
    let l := (loop echoWorker).exec busyRun (Loop.initial Store.empty)
    l.written.map (·.receiptId) = [101, 102] ∧ l.delivered.map (·.receiptId) = [102] ∧ l.outbox = none := by
  decide +kernel

end

end Rampage.Agent
