/-
What a lease grants. The check accepts a job if for every request some offered resource meets it; the lease lists, for every
request, its amount with the labels of the first offered resource of its class. `lease_serves_job_iff` says when the two
agree: exactly if that first resource has the labels of one that meets the request.
-/
import Rampage.Governor.Check

namespace Rampage.Governor

open Rampage.Protocol

/-- The entry is what the request asked for, and has the labels of an offered resource that meets it on its own. -/
structure Serves (offer : ResourceOfferV1) (request : ResourceRequestV1) (entry : ResourceQuantityV1) : Prop where
  cls : entry.cls = request.cls
  unit : entry.unit = request.unit
  available : entry.available = request.minimum
  capacity : entry.capacity = request.minimum
  labels : labelsMatch request entry = true
  source : ∃ resource ∈ offer.resources, meets request resource = true ∧ entry.labels = resource.labels

/-- The lease gives every request its entry, ends by the deadline and names the inputs of the job. -/
structure LeaseServes (job : JobSpecV1) (offer : ResourceOfferV1) (lease : CapabilityLeaseV1) : Prop where
  granted : List.Forall₂ (Serves offer) job.requests lease.granted
  expiresAt : lease.expiresAt ≤ job.deadline
  inputDigests : lease.inputDigests = (job.inputs.map (·.digest)).toFinset

/-- The first offered resource of the request's class has the labels of an offered resource that meets the request. -/
def SourceMeets (offer : ResourceOfferV1) (request : ResourceRequestV1) : Prop :=
  ∃ resource ∈ offer.resources, meets request resource = true ∧
    (offer.resources.find? (·.cls == request.cls)).map (·.labels) = some resource.labels

section

variable {config : GovernorConfig} {sign : CapabilityLeaseV1 → String} {job : JobSpecV1}
  {offer : ResourceOfferV1} {node : Uuid} {epoch : Nat} {now : Int} {leaseId : Uuid} {nonce : String}
  {lease : CapabilityLeaseV1}

theorem labels_grantedFor {request : ResourceRequestV1} {resource : ResourceQuantityV1} (hm : resource ∈ offer.resources)
    (hc : resource.cls = request.cls) : ∃ first, offer.resources.find? (·.cls == request.cls) = some first ∧
      (grantedFor offer request).labels = first.labels := by
  cases hf : offer.resources.find? (·.cls == request.cls) with
  | none =>
    rw [List.find?_eq_none] at hf
    exact absurd (beq_iff_eq.2 hc) (hf resource hm)
  | some first =>
    refine ⟨first, rfl, ?_⟩
    unfold grantedFor
    rw [hf]
    rfl

/-- A grant serves a request exactly if its source does. -/
theorem serves_grantedFor_iff (request : ResourceRequestV1) :
    Serves offer request (grantedFor offer request) ↔ SourceMeets offer request := by
  constructor
  · intro h
    obtain ⟨resource, hm, hmeets, hlabels⟩ := h.source
    have hc : resource.cls = request.cls := by
      simp only [meets, Bool.and_eq_true, beq_iff_eq] at hmeets
      exact hmeets.1.1.1
    obtain ⟨first, hf, hgrant⟩ := labels_grantedFor hm hc
    refine ⟨resource, hm, hmeets, ?_⟩
    rw [hf, Option.map_some, ← hgrant, hlabels]
  · rintro ⟨resource, hm, hmeets, hlabels⟩
    have hmeets' := hmeets
    simp only [meets, Bool.and_eq_true, beq_iff_eq] at hmeets'
    obtain ⟨first, hf, hgrant⟩ := labels_grantedFor hm hmeets'.1.1.1
    rw [hf, Option.map_some] at hlabels
    have hsame : (grantedFor offer request).labels = resource.labels := hgrant.trans (Option.some.inj hlabels)
    refine ⟨rfl, rfl, rfl, rfl, ?_, resource, hm, hmeets, hsame⟩
    unfold labelsMatch
    rw [hsame]
    exact hmeets'.2

/-- A lease gives every request what it asked for exactly if, for every request, the first offered resource of its class
has the labels of one that meets it. -/
theorem lease_serves_job_iff (h : authorizeJobAtEpoch config sign job offer node epoch now leaseId nonce = .ok lease) :
    LeaseServes job offer lease ↔ ∀ request ∈ job.requests, SourceMeets offer request := by
  obtain ⟨-, rfl⟩ := authorizeJobAtEpoch_ok h
  have hgranted : List.Forall₂ (Serves offer) job.requests (job.requests.map (grantedFor offer)) ↔
      ∀ request ∈ job.requests, SourceMeets offer request := by
    rw [List.forall₂_map_right_iff, List.forall₂_same]
    exact forall₂_congr fun request _ => serves_grantedFor_iff request
  constructor
  · intro hs
    exact hgranted.1 hs.granted
  · intro hall
    exact ⟨hgranted.2 hall, min_le_left _ _, rfl⟩

end

namespace Granted

/-- Two groups of cores, the second of them labelled. -/
def offer : ResourceOfferV1 where
  schema := "rampage.resource-offer.v1"
  offerId := 5
  nodeId := 1
  observedAt := 0
  expiresAt := seconds 1000
  resources := [⟨.cpuCompute, 4, 4, "logical_core", []⟩, ⟨.cpuCompute, 4, 4, "logical_core", [("pool", "fast")]⟩]
  availability := ⟨true, none, 100, true, true⟩
  adapters := {"rampage.echo.v1"}
  workloadCapabilities := []
  linkBenchmark := none
  meshEndpoint := none
  signature := "signature"

/-- A job for two cores with the given labels. -/
def job (labels : List (String × String)) : JobSpecV1 where
  schema := "rampage.job-spec.v1"
  jobId := 9
  projectId := 1
  submittedBy := 1
  adapter := "rampage.echo.v1"
  operation := "echo"
  arguments := []
  inputs := []
  requests := [⟨.cpuCompute, 2, 2, "logical_core", labels⟩]
  trust := .nativeTrusted
  restartTolerant := true
  networkAllowlist := ∅
  deadline := seconds 100
  idempotencyKey := "key"

/-- The lease of the job. -/
def lease (labels : List (String × String)) : CapabilityLeaseV1 :=
  { unsignedLease .default (job labels) offer 1 0 0 7 "nonce" with signature := "signed" }

theorem authorized : authorizeJobAtEpoch .default (fun _ => "signed") (job []) offer 1 0 0 7 "nonce" = .ok (lease []) ∧
    authorizeJobAtEpoch .default (fun _ => "signed") (job [("pool", "fast")]) offer 1 0 0 7 "nonce" =
      .ok (lease [("pool", "fast")]) := by decide

end Granted

theorem lease_serves_job_iff_unlabelled : LeaseServes (Granted.job []) Granted.offer (Granted.lease []) ↔
    ∀ request ∈ (Granted.job []).requests, SourceMeets Granted.offer request :=
  lease_serves_job_iff Granted.authorized.1

/-- A job that asks for the labelled cores is granted cores without the label. -/
theorem lease_misses_required_label :
    ¬ ∀ (config : GovernorConfig) (sign : CapabilityLeaseV1 → String) (job : JobSpecV1) (offer : ResourceOfferV1)
      (node : Uuid) (epoch : Nat) (now : Int) (leaseId : Uuid) (nonce : String) (lease : CapabilityLeaseV1),
      authorizeJobAtEpoch config sign job offer node epoch now leaseId nonce = .ok lease → LeaseServes job offer lease := by
  intro hall
  obtain ⟨hgranted, -, -⟩ := hall _ _ _ _ _ _ _ _ _ _ Granted.authorized.2
  cases hgranted with
  | cons hserves _ => exact absurd hserves.labels (by decide)

end Rampage.Governor
