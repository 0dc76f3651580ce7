/-
The edge worker of a phone or tablet: one `pulse` delivers the receipt in the outbox, renews the offer, and claims and
executes one job in the foreground. The controller's answers, the telemetry and the file system are the inputs of a
pulse.
-/
import Rampage.Lib.Machine
import Rampage.Agent.Execute

namespace Rampage.Edge

open Rampage.Protocol Rampage.Storage Rampage.Agent

/-- A phone on battery below it does no work. -/
def minimumBatteryPercent : Nat := 40

/-- A phone that is warmer does no work. -/
def minimumThermalHeadroomPercent : Nat := 35

/-- What the host app says about the device. -/
structure EdgeTelemetry where
  platform : String
  deviceKind : String
  foreground : Bool
  donationRequested : Bool
  batteryPercent : Nat
  onExternalPower : Bool
  lowPowerMode : Bool
  thermalHeadroomPercent : Nat

/-- `EdgeTelemetry::eligible`. -/
def EdgeTelemetry.eligible (t : EdgeTelemetry) : Bool :=
  t.foreground && t.donationRequested && !t.lowPowerMode &&
    (t.onExternalPower || minimumBatteryPercent ≤ t.batteryPercent) &&
    minimumThermalHeadroomPercent ≤ t.thermalHeadroomPercent && (t.deviceKind == "phone" || t.deviceKind == "tablet") &&
    (t.platform == "android" || t.platform == "ios")

/-- `EdgeTelemetry::denial`. -/
def EdgeTelemetry.denial (t : EdgeTelemetry) : Option String :=
  if !(t.platform == "android" || t.platform == "ios") then some "unsupported mobile platform"
  else if !(t.deviceKind == "phone" || t.deviceKind == "tablet") then some "native device class is not phone or tablet"
  else if !t.foreground || !t.donationRequested then some "foreground donation is not active"
  else if t.lowPowerMode then some "low-power mode is active"
  else if !t.onExternalPower && t.batteryPercent < minimumBatteryPercent then
    some "battery reserve is below the owner floor"
  else if t.thermalHeadroomPercent < minimumThermalHeadroomPercent then
    some "thermal headroom is below the owner floor"
  else none

/-- What a pulse fails with. -/
inductive EdgeError
  | stopLatch
  | denied (text : String)
  | telemetryMismatch
  | controller
  | io
  | execution (e : ExecutionError)

/-- The worker: what is durable (the authority store and the outbox) and what it reports. The state records which
receipts were written to the outbox. -/
structure EdgeWorker where
  executing : Executing
  outbox : Option ExecutionReceiptV1
  written : List ExecutionReceiptV1
  receiptsSubmitted : Nat
  offerExpiresAt : Option Int
  lastResult : Option ExecutionReceiptV1

/-- What a pulse meets. -/
structure Pulse where
  killLatch : Bool
  telemetry : EdgeTelemetry
  /-- The pending receipt is answered with success. -/
  flushed : Bool
  offerExpiresAt : Int
  offerAccepted : Bool
  /-- The answer to the claim: none if it fails. -/
  claim : Option (Option WorkClaimV1)
  d : ExecutionDraws
  /-- The receipt is written to the outbox file. -/
  stored : Bool
  submitted : Bool

/-- A pulse acts on the edge worker or fails. -/
abbrev PulseM (α : Type) := Handler EdgeWorker EdgeError α

section

variable (x : Executor) (deviceKind platform : String)

/-- `flush_receipt_outbox`. -/
def flushReceiptOutbox (accepted : Bool) : PulseM Unit := fun w =>
  match w.outbox with
  | none => (.ok (), w)
  | some _ =>
    if accepted then (.ok (), { w with outbox := none, receiptsSubmitted := U64.satAdd w.receiptsSubmitted 1 })
    else (.error .controller, w)

/-- `execute_claim_with_store` on the worker's authority store. -/
def executeClaim (d : ExecutionDraws) (claim : WorkClaimV1) : PulseM ExecutionReceiptV1 := fun w =>
  let (result, executing) := executeClaimWithStore x d claim claim.lease.fencingEpoch w.executing
  (result.mapError .execution, { w with executing := executing })

/-- `persist_and_submit_receipt`. -/
def persistAndSubmitReceipt (stored accepted : Bool) (receipt : ExecutionReceiptV1) : PulseM Unit := fun w =>
  if stored then
    let w := { w with outbox := some receipt, written := w.written ++ [receipt] }
    if accepted then (.ok (), { w with outbox := none }) else (.error .controller, w)
  else (.error .io, w)

/-- The part of a pulse after the job was executed. -/
def pulseReceipt (p : Pulse) (receipt : ExecutionReceiptV1) : PulseM Unit := do
  persistAndSubmitReceipt p.stored p.submitted receipt
  Handler.modify fun w => { w with receiptsSubmitted := U64.satAdd w.receiptsSubmitted 1, lastResult := some receipt }

/-- The part of a pulse after the claim was answered. -/
def pulseWork (p : Pulse) : Option WorkClaimV1 → PulseM Unit
  | some claim => executeClaim x p.d claim >>= pulseReceipt p
  | none => Handler.modify fun w => { w with lastResult := none }

/-- `pulse`. -/
def pulse (p : Pulse) : PulseM Unit := do
  Handler.ensure (!p.killLatch) .stopLatch
  Handler.ensure p.telemetry.eligible (.denied (p.telemetry.denial.getD "edge policy denied"))
  Handler.ensure (p.telemetry.deviceKind == deviceKind && p.telemetry.platform == platform) .telemetryMismatch
  flushReceiptOutbox p.flushed
  Handler.ensure p.offerAccepted .controller
  Handler.modify fun w => { w with offerExpiresAt := some p.offerExpiresAt }
  match p.claim with
  | none => Handler.fail .controller
  | some claim => pulseWork x p claim

/-- Pulses one after the other. What is not durable is only reported, so a restart changes nothing that is
executed. -/
def edge : Machine EdgeWorker Pulse (Except EdgeError Unit) := ⟨pulse x deviceKind platform⟩

end

/-- A worker with the given authority store. -/
def EdgeWorker.initial (s : Store) : EdgeWorker := ⟨⟨s, []⟩, none, [], 0, none, none⟩

/-! ## What a pulse executes -/

section

variable {x : Executor} {deviceKind platform : String} {p : Pulse} {w : EdgeWorker}

/-- A pulse executes at most the claim it was answered with, under the key that claim carries, and writes at most the
receipt of that claim. -/
structure Executes (x : Executor) (claimed : Option WorkClaimV1) (w w' : EdgeWorker) : Prop where
  executed : ∀ c ∈ w'.executing.executed, c ∈ w.executing.executed ∨
    (claimed = some c ∧ x.verifyLease c.governorPublicKey c.lease = true)
  kept : ∀ c ∈ w.executing.executed, c ∈ w'.executing.executed
  written : ∀ r ∈ w'.written, r ∈ w.written ∨
    ∃ c ∈ w'.executing.executed, r.leaseId = c.lease.leaseId ∧ r.jobId = c.job.jobId

theorem executes_pulseWork (claim : Option WorkClaimV1) : Executes x claim w (pulseWork x p claim w).2 := by
  cases claim with
  | none => exact ⟨fun _ => Or.inl, fun _ => id, fun _ => Or.inl⟩
  | some claim =>
    have hcases := @executeClaim_cases x p.d claim claim.lease.fencingEpoch w.executing
    show Executes x (some claim) w ((executeClaim x p.d claim >>= pulseReceipt p) w).2
    rcases hexec : executeClaim x p.d claim w with ⟨err | receipt, w₁⟩
    · -- nothing was run
      rw [Handler.bind_of_error hexec]
      simp only [executeClaim, Prod.mk.injEq] at hexec
      obtain ⟨hresult, rfl⟩ := hexec
      rcases hcases with ⟨_, hsame⟩ | ⟨_, _, outcome, hok⟩
      · refine ⟨?_, ?_, fun _ => Or.inl⟩
        · intro c hc
          change c ∈ (executeClaimWithStore x p.d claim claim.lease.fencingEpoch w.executing).2.executed at hc
          rw [hsame] at hc
          exact Or.inl hc
        · intro c hc
          show c ∈ (executeClaimWithStore x p.d claim claim.lease.fencingEpoch w.executing).2.executed
          rw [hsame]
          exact hc
      · rw [hok] at hresult
        cases hresult
    · rw [Handler.bind_of_ok hexec]
      simp only [executeClaim, Prod.mk.injEq] at hexec
      obtain ⟨hresult, rfl⟩ := hexec
      rcases hcases with ⟨⟨e, herr⟩, _⟩ | ⟨hverified, hrun, outcome, hok⟩
      · rw [herr] at hresult
        cases hresult
      · rw [hok] at hresult
        cases hresult
        -- the adapter was run, and the receipt may be in the outbox
        have hstate : ∀ w' : EdgeWorker, w'.executing.executed = w.executing.executed ++ [claim] →
            (w'.written = w.written ∨ w'.written = w.written ++ [executionReceipt x p.d claim outcome]) →
            Executes x (some claim) w w' := by
          intro w' hexecuted hwritten
          have hmem : claim ∈ w'.executing.executed := by simp [hexecuted]
          refine ⟨?_, ?_, ?_⟩
          · intro c hc
            rw [hexecuted] at hc
            rcases List.mem_append.1 hc with hc | hc
            · exact Or.inl hc
            · obtain rfl := List.mem_singleton.1 hc
              exact Or.inr ⟨rfl, hverified⟩
          · intro c hc
            simp [hexecuted, hc]
          · intro r hr
            rcases hwritten with heq | heq
            · rw [heq] at hr
              exact Or.inl hr
            · rw [heq] at hr
              rcases List.mem_append.1 hr with hr | hr
              · exact Or.inl hr
              · obtain rfl := List.mem_singleton.1 hr
                exact Or.inr ⟨claim, hmem, rfl, rfl⟩
        unfold pulseReceipt
        cases hstored : p.stored with
        | false => exact hstate _ hrun (Or.inl rfl)
        | true =>
          cases hsubmitted : p.submitted with
          | false => exact hstate _ hrun (Or.inr rfl)
          | true => exact hstate _ hrun (Or.inr rfl)

theorem executes_pulse : Executes x (p.claim.bind id) w (pulse x deviceKind platform p w).2 := by
  have hflush : ∀ w : EdgeWorker, (flushReceiptOutbox p.flushed w).2.executing = w.executing ∧
      (flushReceiptOutbox p.flushed w).2.written = w.written := by
    intro w
    unfold flushReceiptOutbox
    cases w.outbox with
    | none => exact ⟨rfl, rfl⟩
    | some r => cases p.flushed <;> exact ⟨rfl, rfl⟩
  -- a pulse that stops early has executed and written nothing
  have hstop : ∀ (claimed : Option WorkClaimV1) (w' : EdgeWorker), w'.executing = w.executing → w'.written = w.written →
      Executes x claimed w w' := by
    intro claimed w' hexec hwritten
    refine ⟨?_, ?_, ?_⟩
    · intro c hc
      rw [hexec] at hc
      exact Or.inl hc
    · intro c hc
      rw [hexec]
      exact hc
    · intro r hr
      rw [hwritten] at hr
      exact Or.inl hr
  unfold pulse
  cases hkill : p.killLatch with
  | true => exact hstop _ _ rfl rfl
  | false =>
    cases heligible : p.telemetry.eligible with
    | false => exact hstop _ _ rfl rfl
    | true =>
      cases hsame : (p.telemetry.deviceKind == deviceKind && p.telemetry.platform == platform) with
      | false => exact hstop _ _ rfl rfl
      | true =>
        simp only [Bool.not_false, Handler.ensure_true_bind]
        obtain ⟨hexec, hwritten⟩ := hflush w
        rcases hf : flushReceiptOutbox p.flushed w with ⟨err | u, w₁⟩
        · rw [hf] at hexec hwritten
          rw [Handler.bind_of_error hf]
          exact hstop _ _ hexec hwritten
        · rw [hf] at hexec hwritten
          rw [Handler.bind_of_ok hf]
          cases hoffer : p.offerAccepted with
          | false => exact hstop _ _ hexec hwritten
          | true =>
            simp only [Handler.ensure_true_bind, Handler.modify_bind]
            cases hclaim : p.claim with
            | none => exact hstop _ _ hexec hwritten
            | some claim =>
              obtain ⟨h1, h2, h3⟩ := @executes_pulseWork x p { w₁ with offerExpiresAt := some p.offerExpiresAt } claim
              refine ⟨?_, ?_, ?_⟩
              · intro c hc
                rw [← hexec]
                exact h1 c hc
              · intro c hc
                rw [← hexec] at hc
                exact h2 c hc
              · intro r hr
                rw [← hwritten]
                exact h3 r hr

end

end Rampage.Edge
