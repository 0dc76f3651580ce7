/-
The adapters of a worker and what they read. A lease names the digests of a job's inputs, but the job that comes with it is
not signed, and `execute_claim_inner` compares only ids, adapter and operation: `stays_inside_lease_iff` says for which
claims an execution reads leased artifacts only and other inputs are refused.
-/
import Rampage.Agent.Execute
import Rampage.Lib.Json
import Rampage.Storage.Scenario

namespace Rampage.Agent

open Rampage.Protocol Rampage.Storage

/-! ## Adapters -/

/-- What the adapters call besides the store. -/
structure Backends where
  /-- The mean of the numbers of a list, as text. -/
  evalScore : String → Except ExecutionError String
  /-- `run_cpu_benchmark`. -/
  runCpuBenchmark : WorkClaimV1 → Except ExecutionError String
  /-- `run_ollama`. -/
  runOllama : WorkClaimV1 → Except ExecutionError String
  storageErrorText : StorageError → String

/-- What an adapter leaves: a text, and the artifacts it has stored. -/
structure AdapterOutput where
  text : String
  artifacts : List ArtifactRefV1

/-- The store, and the digests that were looked up in it. -/
structure AdapterState where
  store : Store
  reads : List String

/-- An adapter acts on the worker's store or fails. -/
abbrev AdapterRun (α : Type) := Handler AdapterState ExecutionError α

/-- The clock reading and the nonces of an output that is stored. -/
structure AdapterDraws where
  createdAt : Int
  nonces : Nat → Nonce

section

variable (cas : CasStore) (b : Backends) (d : AdapterDraws)

/-- An error of the store, as the adapter reports it. -/
def backendError (e : StorageError) : ExecutionError := .backendUnavailable (b.storageErrorText e)

/-- `store.head(..)`. -/
def readHead (digest : String) : AdapterRun ArtifactRefV1 := fun s =>
  ((head cas digest s.store).mapError (backendError b), { s with reads := s.reads ++ [digest] })

/-- `store.get(..)`. -/
def readPayload (digest : String) : AdapterRun Bytes := fun s =>
  ((get cas digest s.store).mapError (backendError b), { s with reads := s.reads ++ [digest] })

/-- `store.put(..)` of a report. -/
def putReport (report : String) : AdapterRun ArtifactRefV1 := fun s =>
  let plan := put cas d.createdAt d.nonces (utf8 report) ⟨"application/json", .cache, 1⟩ s.store
  (plan.result.mapError (backendError b), { s with store := storeEffects.applyAll plan.effects s.store })

/-- The report of an artifact that was hashed. -/
def artifactHashReport (input : ArtifactRefV1) (observedDigest : String) : String :=
  Json.toText (.obj [("input_digest", .str input.digest), ("input_size_bytes", .num (.ofNat input.sizeBytes)),
    ("observed_digest", .str observedDigest), ("schema", .str "rampage.artifact-hash-result.v1")])

/-- `hash_artifact`, of the only input of the job. -/
def hashArtifact (input : ArtifactRefV1) : AdapterRun AdapterOutput := do
  let stored ← readHead cas b input.digest
  Handler.ensure (stored.sizeBytes == input.sizeBytes && stored.mediaType == input.mediaType)
    (.invalidArgument "input artifact metadata")
  let payload ← readPayload cas b input.digest
  Handler.ensure (sha256Digest cas payload == input.digest) (.invalidArgument "input artifact digest")
  let report := artifactHashReport input (sha256Digest cas payload)
  let output ← putReport cas b d report
  pure ⟨report, [output]⟩

/-- A text that an adapter computes without the store. -/
def textOutput (text : Except ExecutionError String) : AdapterRun AdapterOutput := do
  let text ← Handler.ofExcept text
  pure ⟨text, []⟩

/-- An argument of a job. -/
def argument (claim : WorkClaimV1) (name : String) : Except ExecutionError String :=
  match claim.job.arguments.lookup name with
  | some value => .ok value
  | none => .error (.missingArgument name)

/-- `run_adapter`. -/
def runAdapter (claim : WorkClaimV1) : AdapterRun AdapterOutput :=
  if claim.job.adapter = "rampage.echo.v1" ∧ claim.job.operation = "echo" then textOutput (argument claim "value")
  else if claim.job.adapter = "rampage.hash.v1" ∧ claim.job.operation = "hash" then
    textOutput ((argument claim "value").map fun value => sha256Hex cas (utf8 value))
  else if claim.job.adapter = "rampage.eval-shard.v1" ∧ claim.job.operation = "score" then
    textOutput ((argument claim "values").bind b.evalScore)
  else if claim.job.adapter = "rampage.benchmark.v1" ∧ claim.job.operation = "sha256_chain" then
    textOutput (b.runCpuBenchmark claim)
  else if claim.job.adapter = "rampage.ollama.v1" ∧ claim.job.operation = "generate" then textOutput (b.runOllama claim)
  else if claim.job.adapter = "rampage.artifact-hash.v1" ∧ claim.job.operation = "hash_artifact" then
    match claim.job.inputs with
    | [input] => hashArtifact cas b d input
    | _ => Handler.fail (.missingArgument "one input artifact")
  else Handler.fail .unsupportedAdapter

end

/-- A worker whose adapters are these. -/
def Executor.withAdapters (x : Executor) (b : Backends) (d : AdapterDraws) : Executor :=
  { x with
    runAdapter := fun claim s =>
      let (outcome, s') := Agent.runAdapter x.cas b d claim ⟨s, []⟩
      (outcome.map (·.artifacts), s'.store) }

/-! ## What an execution reads -/

section

variable (x : Executor) (b : Backends) (a : AdapterDraws) (d : ExecutionDraws) (claim : WorkClaimV1) (fencingEpoch : Nat)
  (e : Executing)

/-- The checks pass and the lease is consumed. -/
def Admits : Prop := checkClaim x d claim fencingEpoch = .ok () ∧ (acceptClaim d claim e).1 = .ok ()

/-- The digests that the execution of a claim looks up: those of its adapter, on the store after the lease was consumed. -/
def claimReads : List String :=
  match checkClaim x d claim fencingEpoch, acceptClaim d claim e with
  | .ok (), (.ok (), e') => (runAdapter x.cas b a claim ⟨e'.store, []⟩).2.reads
  | _, _ => []

/-- The inputs of the job are exactly the leased ones. -/
def InputsAreLeased : Prop := (claim.job.inputs.map (·.digest)).toFinset = claim.lease.inputDigests

/-- An execution stays inside its lease: it reads leased artifacts only, and a job with other inputs is refused before
its adapter is run. -/
structure StaysInside : Prop where
  reads : ∀ digest ∈ claimReads x b a d claim fencingEpoch e, digest ∈ claim.lease.inputDigests
  refuses : ¬ InputsAreLeased claim → (∃ err, (executeClaimWithStore (x.withAdapters b a) d claim fencingEpoch e).1 = .error err) ∧
    (executeClaimWithStore (x.withAdapters b a) d claim fencingEpoch e).2.executed = e.executed

end

/-! ## What an adapter reads -/

/-- Nothing is looked up but the given digests. -/
def ReadsOnly (digests : List String) (s t : AdapterState) : Prop := ∀ digest ∈ t.reads, digest ∈ s.reads ∨ digest ∈ digests

instance (digests : List String) : Std.Refl (ReadsOnly digests) := ⟨fun _ _ h => Or.inl h⟩

instance (digests : List String) : IsTrans AdapterState (ReadsOnly digests) :=
  ⟨fun _ _ _ hst htu digest h => (htu digest h).elim (hst digest) Or.inr⟩

section

variable {cas : CasStore} {b : Backends} {d : AdapterDraws} {claim : WorkClaimV1}

theorem readsOnly_of_append {digests : List String} {digest : String} (h : digest ∈ digests) {s t : AdapterState}
    (ht : t.reads = s.reads ++ [digest]) : ReadsOnly digests s t := by
  intro other hother
  rw [ht, List.mem_append, List.mem_singleton] at hother
  rcases hother with hother | rfl
  · exact Or.inl hother
  · exact Or.inr h

theorem hashArtifact_reads (input : ArtifactRefV1) : Handler.Keeps (ReadsOnly [input.digest]) (hashArtifact cas b d input) := by
  have hdigest : input.digest ∈ [input.digest] := List.mem_singleton_self _
  have hput : ∀ report, Handler.Keeps (ReadsOnly [input.digest]) (putReport cas b d report) :=
    fun _ _ _ h => Or.inl h
  unfold hashArtifact
  refine .bind (fun s => readsOnly_of_append hdigest rfl) fun _ => ?_
  refine .bind (.ensure _ _) fun _ => ?_
  refine .bind (fun s => readsOnly_of_append hdigest rfl) fun _ => ?_
  refine .bind (.ensure _ _) fun _ => ?_
  exact .bind (hput _) fun _ => .pure _

theorem textOutput_reads (digests : List String) (text : Except ExecutionError String) :
    Handler.Keeps (ReadsOnly digests) (textOutput text) :=
  .bind (.ofExcept _) fun _ => .pure _

/-- An adapter looks up inputs of its job only. -/
theorem runAdapter_reads : Handler.Keeps (ReadsOnly (claim.job.inputs.map (·.digest))) (runAdapter cas b d claim) := by
  unfold runAdapter
  refine .ite (textOutput_reads _ _) (.ite (textOutput_reads _ _) (.ite (textOutput_reads _ _) (.ite (textOutput_reads _ _)
    (.ite (textOutput_reads _ _) (.ite ?_ (.fail _))))))
  split
  · rename_i input hinputs
    rw [hinputs]
    exact hashArtifact_reads input
  · exact .fail _

end

/-- What was looked up stays on record. -/
def MoreRead (s t : AdapterState) : Prop := s.reads <+: t.reads

instance : Std.Refl MoreRead := ⟨fun _ => List.prefix_rfl⟩

instance : IsTrans AdapterState MoreRead := ⟨fun _ _ _ h h' => List.IsPrefix.trans h h'⟩

/-- The adapter that hashes an artifact looks it up. -/
theorem mem_hashArtifact_reads {cas : CasStore} {b : Backends} {d : AdapterDraws} (input : ArtifactRefV1) (s : AdapterState) :
    input.digest ∈ (hashArtifact cas b d input s).2.reads := by
  have hhead : input.digest ∈ (readHead cas b input.digest s).2.reads :=
    List.mem_append_right _ (List.mem_singleton_self _)
  unfold hashArtifact
  rcases hfirst : readHead cas b input.digest s with ⟨e | stored, s'⟩
  · rw [hfirst] at hhead
    rw [Handler.bind_of_error hfirst]
    exact hhead
  · rw [hfirst] at hhead
    rw [Handler.bind_of_ok hfirst]
    refine List.IsPrefix.mem hhead (?_ : MoreRead s' _)
    refine Handler.Keeps.bind (R := MoreRead) (.ensure _ _) (fun _ => ?_) s'
    refine .bind (fun t => List.prefix_append _ _) fun _ => ?_
    refine .bind (.ensure _ _) fun _ => ?_
    exact .bind (fun t => List.prefix_rfl) fun _ => .pure _

/-! ## Which claims stay inside -/

section

variable {x : Executor} {b : Backends} {a : AdapterDraws} {d : ExecutionDraws} {claim : WorkClaimV1} {fencingEpoch : Nat}
  {e : Executing}

/-- What an execution reads is among the inputs of its job. -/
theorem mem_claimReads {digest : String} (h : digest ∈ claimReads x b a d claim fencingEpoch e) :
    digest ∈ claim.job.inputs.map (·.digest) := by
  unfold claimReads at h
  split at h
  · rcases runAdapter_reads _ digest h with hnone | hinput
    · cases hnone
    · exact hinput
  · cases h

/-- A claim that is not admitted is refused, and nothing is read. -/
theorem refused_of_not_admits (h : ¬ Admits x d claim fencingEpoch e) :
    claimReads x b a d claim fencingEpoch e = [] ∧
      (∃ err, (executeClaimWithStore (x.withAdapters b a) d claim fencingEpoch e).1 = .error err) ∧
      (executeClaimWithStore (x.withAdapters b a) d claim fencingEpoch e).2.executed = e.executed := by
  have hsame : checkClaim (x.withAdapters b a) d claim fencingEpoch = checkClaim x d claim fencingEpoch := rfl
  unfold claimReads executeClaimWithStore
  rw [hsame]
  cases hcheck : checkClaim x d claim fencingEpoch with
  | error err => exact ⟨rfl, ⟨err, rfl⟩, rfl⟩
  | ok u =>
    rw [Handler.bind_of_ok (rfl : Handler.ofExcept (.ok u) e = (.ok u, e))]
    have hexecuted : (acceptClaim d claim e).2.executed = e.executed := rfl
    rcases haccept : acceptClaim d claim e with ⟨err | u', e'⟩
    · rw [haccept] at hexecuted
      rw [Handler.bind_of_error haccept]
      exact ⟨rfl, ⟨err, rfl⟩, hexecuted⟩
    · -- checked and accepted would be admitted
      exact absurd ⟨hcheck, by rw [haccept]⟩ h

/-- A claim that is admitted is executed. -/
theorem executed_of_admits (h : Admits x d claim fencingEpoch e) :
    (executeClaimWithStore (x.withAdapters b a) d claim fencingEpoch e).2.executed = e.executed ++ [claim] := by
  obtain ⟨hcheck, haccept⟩ := h
  have hsame : checkClaim (x.withAdapters b a) d claim fencingEpoch = .ok () := hcheck
  have hexecuted : (acceptClaim d claim e).2.executed = e.executed := rfl
  have haccepted : acceptClaim d claim e = (.ok (), (acceptClaim d claim e).2) := Prod.ext haccept rfl
  unfold executeClaimWithStore
  rw [hsame, Handler.bind_of_ok (rfl : Handler.ofExcept (.ok ()) e = (.ok (), e)), Handler.bind_of_ok haccepted]
  show (acceptClaim d claim e).2.executed ++ [claim] = _
  rw [hexecuted]

/-- The input of an admitted claim that hashes it is read. -/
theorem mem_claimReads_of_hash (h : Admits x d claim fencingEpoch e)
    (hadapter : claim.job.adapter = "rampage.artifact-hash.v1" ∧ claim.job.operation = "hash_artifact") {input : ArtifactRefV1}
    (hinput : claim.job.inputs = [input]) : input.digest ∈ claimReads x b a d claim fencingEpoch e := by
  obtain ⟨hcheck, haccept⟩ := h
  have haccepted : acceptClaim d claim e = (.ok (), (acceptClaim d claim e).2) := Prod.ext haccept rfl
  have hrun : runAdapter x.cas b a claim = hashArtifact x.cas b a input := by
    unfold runAdapter
    rw [hadapter.1, hadapter.2, hinput]
    rfl
  unfold claimReads
  rw [hcheck, haccepted]
  dsimp only
  rw [hrun]
  exact mem_hashArtifact_reads input _

/-- An execution stays inside its lease exactly if the claim is refused for another reason, or its job has exactly the leased
inputs. -/
theorem stays_inside_lease_iff (x : Executor) (b : Backends) (a : AdapterDraws) (d : ExecutionDraws) (claim : WorkClaimV1)
    (fencingEpoch : Nat) (e : Executing) :
    StaysInside x b a d claim fencingEpoch e ↔ (Admits x d claim fencingEpoch e → InputsAreLeased claim) := by
  constructor
  · intro h hadmits
    by_contra hother
    have hrefused := (h.refuses hother).2
    rw [executed_of_admits hadmits] at hrefused
    -- an admitted claim is in the list of those executed, so it was not refused
    have hlength := congrArg List.length hrefused
    rw [List.length_append, List.length_singleton] at hlength
    omega
  · intro h
    by_cases hadmits : Admits x d claim fencingEpoch e
    · have hleased := h hadmits
      refine ⟨fun digest hdigest => ?_, fun hother => absurd hleased hother⟩
      rw [← hleased, List.mem_toFinset]
      exact mem_claimReads hdigest
    · obtain ⟨hnone, herror, hexecuted⟩ := @refused_of_not_admits x b a d claim fencingEpoch e hadmits
      refine ⟨fun digest hdigest => ?_, fun _ => ⟨herror, hexecuted⟩⟩
      rw [hnone] at hdigest
      cases hdigest

end

/-! ## A job with another input -/

namespace Scenario

open Storage.Scenario

/-- An artifact of one byte that the worker has stored. -/
def stored : Store :=
  storeEffects.applyAll (put cas 0 (fun _ => nonce 0) [1] ⟨"application/octet-stream", .cache, 1⟩ .empty).effects .empty

/-- The one byte the store has. -/
def storedArtifact : ArtifactRefV1 :=
  ⟨"rampage.artifact-ref.v1", sha256Digest cas [1], 1, "application/octet-stream", .cache, true⟩

/-- A job that hashes the stored artifact. -/
def hashJob : JobSpecV1 where
  schema := JobSpecV1.schemaName
  jobId := 9
  projectId := 1
  submittedBy := 2
  adapter := "rampage.artifact-hash.v1"
  operation := "hash_artifact"
  arguments := []
  inputs := [storedArtifact]
  requests := []
  trust := .nativeTrusted
  restartTolerant := true
  networkAllowlist := ∅
  deadline := seconds 60
  idempotencyKey := "k"

/-- Its lease names the artifact of another job. -/
def otherLease : CapabilityLeaseV1 where
  schema := CapabilityLeaseV1.schemaName
  leaseId := 9
  jobId := 9
  nodeId := 7
  projectId := 1
  adapter := "rampage.artifact-hash.v1"
  operation := "hash_artifact"
  inputDigests := {digest}
  granted := []
  networkAllowlist := ∅
  issuedAt := 0
  expiresAt := seconds 60
  nonce := "nonce"
  fencingEpoch := 1
  signature := "signed by governor"

/-- The example's job under another lease. -/
def otherClaim : WorkClaimV1 := ⟨WorkClaimV1.schemaName, hashJob, otherLease, "governor"⟩

/-- A worker that checks who signed a lease. -/
def hashWorker : Executor where
  cas := cas
  nodeId := 7
  verifyLease := fun key lease => lease.signature == "signed by " ++ key
  signReceipt := fun _ => "receipt"
  runAdapter := fun _ s => (.ok [], s)

/-- No backend does anything. -/
def backends : Backends where
  evalScore := fun _ => .error .unsupportedAdapter
  runCpuBenchmark := fun _ => .error (.invalidArgument "benchmark CPU grant")
  runOllama := fun _ => .error (.missingArgument "model")
  storageErrorText := fun _ => "artifact was not found"

end Scenario

open Scenario in
/-- An artifact that the lease does not name is read, under a lease that is signed and active. -/
theorem unleased_artifact_is_read :
    hashWorker.verifyLease "governor" otherLease = true ∧ storedArtifact.digest ∉ otherLease.inputDigests ∧
      storedArtifact.digest ∈
        claimReads hashWorker backends ⟨0, fun _ => Storage.Scenario.nonce 1⟩ ⟨0, 0, 0, 0, 100⟩ otherClaim 1 ⟨stored, []⟩ ∧
      ¬ StaysInside hashWorker backends ⟨0, fun _ => Storage.Scenario.nonce 1⟩ ⟨0, 0, 0, 0, 100⟩ otherClaim 1 ⟨stored, []⟩ := by
  have hadmits : Admits hashWorker ⟨0, 0, 0, 0, 100⟩ otherClaim 1 ⟨stored, []⟩ := by
    refine ⟨by decide +kernel, ?_⟩
    decide +kernel
  have hother : storedArtifact.digest ∉ otherLease.inputDigests := by decide +kernel
  have hread := @mem_claimReads_of_hash hashWorker backends ⟨0, fun _ => Storage.Scenario.nonce 1⟩ _ _ _ _ hadmits ⟨rfl, rfl⟩
    _ rfl
  exact ⟨by decide, hother, hread, fun h => hother (h.reads _ hread)⟩

end Rampage.Agent
