/-
For whom workers execute. Both workers check the lease of a claim under the Governor key that the claim itself carries.
Where every claim the controller answers with carries the key pinned at enrolment, only claims whose lease verifies under
the pinned key are executed and receipted (`workers_execute_for_pinned_governor`); a claim with another key is executed
as well (`claim_of_other_governor_is_executed`).
-/
import Rampage.Agent.Outbox
import Rampage.Edge.Worker

namespace Rampage.Agent

open Rampage.Protocol Rampage.Storage Rampage.Edge

/-- The claim a turn of the agent's loop is answered with. -/
def Turn.claimed : Turn → Option WorkClaimV1
  | .claim answer => answer.bind id
  | .workOnce o => o.claim.bind id
  | _ => none

/-- The receipt is of an executed claim. -/
def ReceiptOf (executed : List WorkClaimV1) (r : ExecutionReceiptV1) : Prop :=
  ∃ c ∈ executed, r.leaseId = c.lease.leaseId ∧ r.jobId = c.job.jobId

/-- Every executed claim carries the pinned key and verified under it, and every receipt is of an executed claim, also
those still in the channel. -/
structure ForGovernor (x : Executor) (pinned : String) (l : Loop) : Prop where
  executed : ∀ c ∈ l.executing.executed, x.verifyLease pinned c.lease = true
  written : ∀ r ∈ l.written, ReceiptOf l.executing.executed r
  running : ∀ c, l.running = some c → c.governorPublicKey = pinned
  finished : ∀ r, .ok r ∈ l.finished → ReceiptOf l.executing.executed r

section

variable {x : Executor} {pinned : String} {l : Loop}

theorem ReceiptOf.mono {executed executed' : List WorkClaimV1} {r : ExecutionReceiptV1} (h : ReceiptOf executed r)
    (hsub : ∀ c ∈ executed, c ∈ executed') : ReceiptOf executed' r := by
  obtain ⟨c, hc, heq⟩ := h
  exact ⟨c, hsub c hc, heq⟩

theorem ForGovernor.forget (h : ForGovernor x pinned l) : ForGovernor x pinned l.forget :=
  ⟨h.executed, h.written, fun c hc => (by cases hc), fun r hr => (by cases hr)⟩

theorem ForGovernor.deliver (h : ForGovernor x pinned l) (answer : Delivery) : ForGovernor x pinned (l.deliver answer) := by
  unfold Loop.deliver
  split
  · exact h
  · exact h
  · exact ⟨h.executed, h.written, h.running, h.finished⟩
  · exact ⟨h.executed, h.written, fun c hc => (by cases hc), fun r hr => (by cases hr)⟩

/-- Executing a claim that carries the pinned key. -/
theorem forGovernor_execute (h : ForGovernor x pinned l) {d : ExecutionDraws} {claim : WorkClaimV1}
    (hkey : claim.governorPublicKey = pinned) :
    let run := executeClaimWithStore x d claim claim.lease.fencingEpoch l.executing
    (∀ c ∈ run.2.executed, x.verifyLease pinned c.lease = true) ∧ (∀ c ∈ l.executing.executed, c ∈ run.2.executed) ∧
      ∀ r, run.1 = .ok r → ReceiptOf run.2.executed r := by
  intro run
  rcases @executeClaim_cases x d claim claim.lease.fencingEpoch l.executing with ⟨⟨err, herr⟩, hsame⟩ | ⟨hverified, hrun, outcome, hok⟩
  · have hsame' : run.2.executed = l.executing.executed := hsame
    have herr' : run.1 = .error err := herr
    rw [hsame', herr']
    exact ⟨h.executed, fun _ => id, fun r hr => (by cases hr)⟩
  · have hrun' : run.2.executed = l.executing.executed ++ [claim] := hrun
    have hok' : run.1 = .ok (executionReceipt x d claim outcome) := hok
    rw [hrun', hok']
    refine ⟨?_, fun c hc => List.mem_append_left _ hc, ?_⟩
    · intro c hc
      rcases List.mem_append.1 hc with hc | hc
      · exact h.executed c hc
      · obtain rfl := List.mem_singleton.1 hc
        rw [← hkey]
        exact hverified
    · rintro r hr
      cases hr
      exact ⟨claim, by simp, rfl, rfl⟩

/-- A receipt of an executed claim is written. -/
theorem ForGovernor.store (h : ForGovernor x pinned l) {receipt : ExecutionReceiptV1}
    (hr : ReceiptOf l.executing.executed receipt) : ForGovernor x pinned (l.store receipt) := by
  refine ⟨h.executed, ?_, h.running, h.finished⟩
  intro r hmem
  rcases List.mem_append.1 hmem with hmem | hmem
  · exact h.written r hmem
  · obtain rfl := List.mem_singleton.1 hmem
    exact hr

theorem ForGovernor.collect (h : ForGovernor x pinned l) (stored : Bool) : ForGovernor x pinned (l.collect stored) := by
  unfold Loop.collect
  split
  · exact h
  · rename_i receipt rest hfinished
    have hrest : ∀ r, .ok r ∈ rest → ReceiptOf l.executing.executed r := by
      intro r hr
      exact h.finished r (by simp [hfinished, hr])
    split
    · have hstored := h.store (h.finished receipt (by simp [hfinished]))
      exact ⟨hstored.executed, hstored.written, hstored.running, hrest⟩
    · exact h.forget
  · rename_i e rest hfinished
    refine ⟨h.executed, h.written, h.running, ?_⟩
    intro r hr
    exact h.finished r (by simp [hfinished, hr])

theorem ForGovernor.finish (h : ForGovernor x pinned l) (d : ExecutionDraws) : ForGovernor x pinned (l.finish x d) := by
  unfold Loop.finish
  split
  · exact h
  rename_i claim hrunning
  obtain ⟨hexecuted, hkept, hreceipt⟩ := forGovernor_execute (d := d) h (h.running claim hrunning)
  refine ⟨hexecuted, ?_, fun c hc => (by cases hc), ?_⟩
  · intro r hr
    exact (h.written r hr).mono hkept
  · intro r hr
    rcases List.mem_append.1 hr with hr | hr
    · exact (h.finished r hr).mono hkept
    · exact hreceipt r (List.mem_singleton.1 hr).symm

theorem ForGovernor.workOnce (h : ForGovernor x pinned l) (o : WorkOnce)
    (hkey : ∀ c, o.claim.bind id = some c → c.governorPublicKey = pinned) : ForGovernor x pinned (l.workOnce x o) := by
  have hfirst := h.forget.deliver o.pending
  unfold Loop.workOnce
  dsimp only
  split
  · exact hfirst
  unfold Loop.workOnceClaim
  split
  · rename_i claim hclaim
    have hpin : claim.governorPublicKey = pinned := hkey claim (by simp [hclaim])
    obtain ⟨hexecuted, hkept, hreceipt⟩ := forGovernor_execute (d := o.d) hfirst hpin
    have hran : ForGovernor x pinned { l.forget.deliver o.pending with
        executing := (executeClaimWithStore x o.d claim claim.lease.fencingEpoch (l.forget.deliver o.pending).executing).2 } := by
      refine ⟨hexecuted, ?_, hfirst.running, ?_⟩
      · intro r hr
        exact (hfirst.written r hr).mono hkept
      · intro r hr
        exact (hfirst.finished r hr).mono hkept
    dsimp only
    split
    · exact hran
    · rename_i receipt hresult
      split
      · exact ((hran.store (hreceipt receipt hresult)).deliver o.posted).forget
      · exact hran
  · exact hfirst

/-- One turn whose claim carries the pinned key. -/
theorem forGovernor_turn {t : Turn} (h : ForGovernor x pinned l)
    (hkey : ∀ c, t.claimed = some c → c.governorPublicKey = pinned) : ForGovernor x pinned (loopStep x t l).2 := by
  cases t with
  | deliver answer => exact h.deliver answer
  | collect stored => exact h.collect stored
  | claim answer =>
    show ForGovernor x pinned (l.claim answer)
    unfold Loop.claim
    split
    · rename_i claim _
      refine ⟨h.executed, h.written, ?_, h.finished⟩
      rintro c hc
      cases hc
      exact hkey claim rfl
    · exact h
  | finish d => exact h.finish d
  | restart => exact h.forget
  | workOnce o => exact h.workOnce o hkey

end

/-- The desktop agent and the edge worker, in every run in which each claim the controller answers with carries the
pinned Governor key: a claim is executed only if its lease verifies under the pinned key, and a receipt is written only
for an executed claim. -/
theorem workers_execute_for_pinned_governor (x : Executor) (pinned : String) (s : Store) :
    (∀ turns : List Turn, (∀ t ∈ turns, ∀ c, t.claimed = some c → c.governorPublicKey = pinned) →
      let l := (loop x).exec turns (Loop.initial s)
      (∀ c ∈ l.executing.executed, x.verifyLease pinned c.lease = true) ∧
        ∀ r ∈ l.written, ReceiptOf l.executing.executed r) ∧
    ∀ (deviceKind platform : String) (pulses : List Pulse),
      (∀ p ∈ pulses, ∀ c, p.claim = some (some c) → c.governorPublicKey = pinned) →
      let w := (edge x deviceKind platform).exec pulses (EdgeWorker.initial s)
      (∀ c ∈ w.executing.executed, x.verifyLease pinned c.lease = true) ∧
        ∀ r ∈ w.written, ReceiptOf w.executing.executed r := by
  constructor
  · intro turns hkey
    suffices h : ForGovernor x pinned ((loop x).exec turns (Loop.initial s)) from ⟨h.executed, h.written⟩
    induction turns using List.reverseRecOn with
    | nil =>
      exact ⟨fun c hc => (by cases hc), fun r hr => (by cases hr), fun c hc => (by cases hc), fun r hr => (by cases hr)⟩
    | append_singleton turns t ih =>
      rw [Machine.exec_append]
      exact forGovernor_turn (ih fun t' ht' => hkey t' (by simp [ht'])) (hkey t (by simp))
  · intro deviceKind platform pulses hkey
    induction pulses using List.reverseRecOn with
    | nil => exact ⟨fun c hc => (by cases hc), fun r hr => (by cases hr)⟩
    | append_singleton pulses p ih =>
      obtain ⟨hexecuted, hwritten⟩ := ih fun p' hp' => hkey p' (by simp [hp'])
      rw [Machine.exec_append]
      obtain ⟨h1, h2, h3⟩ := @executes_pulse x deviceKind platform p ((edge x deviceKind platform).exec pulses (EdgeWorker.initial s))
      constructor
      · intro c hc
        rcases h1 c hc with hold | ⟨hclaim, hverified⟩
        · exact hexecuted c hold
        · have hanswer : p.claim = some (some c) := by
            obtain ⟨answer, hp, rfl⟩ := Option.bind_eq_some_iff.1 hclaim
            exact hp
          rw [← hkey p (by simp) c hanswer]
          exact hverified
      · intro r hr
        rcases h3 r hr with hold | hnew
        · exact (hwritten r hold).mono h2
        · exact hnew

/-- The worker is pinned to the key "governor". A claim that carries another key, with a lease signed by that key, is
executed and receipted by the agent and by the edge worker. -/
theorem claim_of_other_governor_is_executed :
    let claim := claimOf 11 "n1" "other"
    let l := (loop echoWorker).exec [.claim (some (some claim)), .finish (executionDraws 101), .collect true] (Loop.initial Store.empty)
    let telemetry : EdgeTelemetry := ⟨"android", "phone", true, true, 90, false, false, 90⟩
    let w := (edge echoWorker "phone" "android").exec
      [⟨false, telemetry, true, seconds 20, true, some (some claim), executionDraws 101, true, true⟩] (EdgeWorker.initial Store.empty)
    echoWorker.verifyLease "governor" claim.lease = false ∧
      l.executing.executed = [claim] ∧ l.written.map (·.jobId) = [11] ∧
      w.executing.executed = [claim] ∧ w.written.map (·.jobId) = [11] := by
  decide +kernel

theorem workers_execute_for_pinned_governor_echo :
    echoWorker.verifyLease "governor" (claimOf 11 "n1" "governor").lease = true ∧
      ∀ c ∈ ((loop echoWorker).exec [.claim (some (some (claimOf 11 "n1" "governor"))), .finish (executionDraws 101)]
        (Loop.initial Store.empty)).executing.executed, echoWorker.verifyLease "governor" c.lease = true := by
  refine ⟨by decide, ?_⟩
  exact ((workers_execute_for_pinned_governor echoWorker "governor" Store.empty).1
    [.claim (some (some (claimOf 11 "n1" "governor"))), .finish (executionDraws 101)] (by
      intro t ht c hc
      simp only [List.mem_cons, List.not_mem_nil, or_false] at ht
      rcases ht with rfl | rfl
      · simp only [Turn.claimed, Option.bind_some, id, Option.some.injEq] at hc
        rw [← hc]
        rfl
      · cases hc)).1

end Rampage.Agent
