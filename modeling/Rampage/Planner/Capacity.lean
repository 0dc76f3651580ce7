/-
Capacity. An offer that satisfies the planner has the adapter and the resources the Governor asks for, whatever the topology
adds to its score. A plan of a shard set is measured against what the offered nodes can give: `plan_is_within_capacity_iff`
says that no class is overcommitted on any node exactly if every shard, when it is placed, fits with all its requests
of a class together. The planner itself compares them one by one.
-/
import Rampage.Planner.Score

namespace Rampage.Planner

open Rampage.Protocol Rampage.Governor

/-! ## The Governor on a satisfying offer -/

theorem checkMobile_error {config : GovernorConfig} {job : JobSpecV1} {offer : ResourceOfferV1} {d : Denial}
    (h : checkMobile config job offer = .error d) : d ≠ .offerAdapterMismatch ∧ d ≠ .offerResourceMismatch := by
  unfold checkMobile at h
  repeat' split at h
  all_goals cases h
  all_goals simp

/-- An offer with the adapter and the resources of a job is refused for something else, if at all. -/
theorem checkJobAt_error {config : GovernorConfig} {job : JobSpecV1} {offer : ResourceOfferV1} {node : Uuid} {now : Int}
    {d : Denial} (ha : job.adapter ∈ offer.adapters)
    (hr : ∀ request ∈ job.requests, ∃ resource ∈ offer.resources, meets request resource = true)
    (h : checkJobAt config job offer node now = .error d) : d ≠ .offerAdapterMismatch ∧ d ≠ .offerResourceMismatch := by
  have hresources : job.requests.any (fun r => offer.resources.all fun q => !meets r q) = false := by
    rw [List.any_eq_false]
    intro request hm
    obtain ⟨resource, hres, hmeets⟩ := hr request hm
    simp only [List.all_eq_true, Bool.not_eq_true', not_forall, Bool.not_eq_false]
    exact ⟨resource, hres, hmeets⟩
  unfold checkJobAt at h
  rw [hresources] at h
  simp only [ha, not_true_eq_false, if_false, Bool.false_eq_true] at h
  split at h
  · cases h
    simp
  split at h
  · cases h
    simp
  split at h
  · cases h
    simp
  split at h
  · cases h
    simp
  split at h
  · cases h
    simp
  split at h
  · cases h
    simp
  split at h
  · cases h
    simp
  split at h
  · cases h
    simp
  split at h
  · exact checkMobile_error h
  · cases h

/-- The Governor never refuses a satisfying offer for its adapter or its resources, and the topology decides nothing about
satisfaction. -/
theorem satisfying_offer_passes_governor (offer : ResourceOfferV1) (reservations : List ResourceReservation)
    (policy : AdmissionPolicy) (now : Int) (job : JobSpecV1) :
    ((scoreOfferWithAdmission offer reservations policy now job).satisfies = true →
        ∀ (config : GovernorConfig) (node : Uuid) (checkedAt : Int),
          checkJobAt config job offer node checkedAt ≠ .error .offerAdapterMismatch ∧
            checkJobAt config job offer node checkedAt ≠ .error .offerResourceMismatch) ∧
      ∀ localDigests : Finset String,
        (scoreOfferWithTopology offer reservations policy now job localDigests).satisfies = true ↔
          (scoreOfferWithAdmission offer reservations policy now job).satisfies = true := by
  refine ⟨?_, ?_⟩
  · intro h config node checkedAt
    obtain ⟨ha, hr⟩ := scoreOfferWithAdmission_satisfies h
    refine ⟨?_, ?_⟩
    · intro herror
      exact (checkJobAt_error ha hr herror).1 rfl
    · intro herror
      exact (checkJobAt_error ha hr herror).2 rfl
  · intro localDigests
    rw [scoreOfferWithTopology_satisfies]

namespace Scenario

/-- A node with CPU cores. -/
def coreOffer (nodeId : Uuid) (cores : Nat) : ResourceOfferV1 where
  schema := "rampage.resource-offer.v1"
  offerId := 5
  nodeId := nodeId
  observedAt := 0
  expiresAt := seconds 1000
  resources := [⟨.cpuCompute, cores, cores, "logical_core", []⟩]
  availability := ⟨true, none, 100, true, true⟩
  adapters := {"rampage.echo.v1"}
  workloadCapabilities := []
  linkBenchmark := none
  meshEndpoint := none
  signature := "signature"

/-- A shard that requests CPU cores, once for each number of the list. -/
def coreShard (jobId : Uuid) (key : String) (cores : List Nat) : JobSpecV1 where
  schema := "rampage.job-spec.v1"
  jobId := jobId
  projectId := 1
  submittedBy := 1
  adapter := "rampage.echo.v1"
  operation := "echo"
  arguments := []
  inputs := []
  requests := cores.map fun n => ⟨.cpuCompute, n, n, "logical_core", []⟩
  trust := .nativeTrusted
  restartTolerant := true
  networkAllowlist := ∅
  deadline := seconds 100
  idempotencyKey := key

/-- A set of these jobs, of which one has to succeed. -/
def coreSet (shards : List JobSpecV1) : ShardSetV1 where
  schema := "rampage.shard-set.v1"
  setId := 20
  projectId := 1
  submittedBy := 1
  shards := shards
  minimumSuccesses := 1
  deadline := seconds 100
  idempotencyKey := "set"

/-- No reserve and no guardband. -/
def openPolicy : AdmissionPolicy := ⟨fun _ => 0, 0⟩

end Scenario

open Scenario in
theorem satisfying_offer_passes_default_governor :
    checkJobAt .default (coreShard 9 "k" [4, 4]) (coreOffer 77 5) 77 0 ≠ .error .offerAdapterMismatch ∧
      checkJobAt .default (coreShard 9 "k" [4, 4]) (coreOffer 77 5) 77 0 ≠ .error .offerResourceMismatch :=
  (satisfying_offer_passes_governor (coreOffer 77 5) [] openPolicy 0 (coreShard 9 "k" [4, 4])).1 (by decide +kernel) .default 77 0

/-! ## Amounts -/

/-- What a job requests of a class, altogether. -/
def demand (job : JobSpecV1) (cls : ResourceClass) : Nat := ((job.requests.filter (·.cls == cls)).map (·.minimum)).sum

/-- What is reserved of a class on a node and has not expired. -/
def liveAmount (reservations : List ResourceReservation) (now : Int) (node : Uuid) (cls : ResourceClass) : Nat :=
  ((reservations.filter fun r => r.nodeId == node && r.cls == cls && decide (now < r.expiresAt)).map (·.amount)).sum

/-- What the placed shards request of a class on a node, altogether. -/
def placedDemand (shards : List JobSpecV1) (placements : List ShardPlacement) (node : Uuid) (cls : ResourceClass) : Nat :=
  (((shards.zip placements).filter (·.2.nodeId == node)).map fun p => demand p.1 cls).sum

/-- What a resource can give at most: available, less the owner's reserve and the guardband. -/
def usable (policy : AdmissionPolicy) (resource : ResourceQuantityV1) (cls : ResourceClass) : Nat :=
  resource.available - policy.protectedOwnerReserve cls -
    U64.satMul resource.capacity (Nat.min policy.safetyGuardbandPercent 100) / 100

theorem foldl_satAdd (l : List Nat) (n : Nat) : l.foldl U64.satAdd (Nat.min n U64.max) = Nat.min (n + l.sum) U64.max := by
  induction l generalizing n with
  | nil => simp
  | cons a l ih =>
    have hstep : U64.satAdd (Nat.min n U64.max) a = Nat.min (n + a) U64.max := by
      show min (min n U64.max + a) U64.max = min (n + a) U64.max
      omega
    rw [List.foldl_cons, hstep, ih, List.sum_cons, Nat.add_assoc]

theorem pending_eq (offer : ResourceOfferV1) (reservations : List ResourceReservation) (now : Int) (cls : ResourceClass) :
    pending offer reservations now cls = Nat.min (liveAmount reservations now offer.nodeId cls) U64.max := by
  have h := foldl_satAdd ((reservations.filter fun r =>
    r.nodeId == offer.nodeId && r.cls == cls && decide (now < r.expiresAt)).map (·.amount)) 0
  rw [Nat.zero_add] at h
  exact h

theorem admissible_eq (offer : ResourceOfferV1) (reservations : List ResourceReservation) (policy : AdmissionPolicy) (now : Int)
    (resource : ResourceQuantityV1) (cls : ResourceClass) :
    admissible offer reservations policy now resource cls = usable policy resource cls - pending offer reservations now cls := by
  unfold admissible usable
  omega

theorem usable_le_available (policy : AdmissionPolicy) (resource : ResourceQuantityV1) (cls : ResourceClass) :
    usable policy resource cls ≤ resource.available := by
  unfold usable
  omega

theorem liveAmount_append (l l' : List ResourceReservation) (now : Int) (node : Uuid) (cls : ResourceClass) :
    liveAmount (l ++ l') now node cls = liveAmount l now node cls + liveAmount l' now node cls := by
  unfold liveAmount
  rw [List.filter_append, List.map_append, List.sum_append]

theorem liveAmount_filter (l : List ResourceReservation) (now : Int) (node : Uuid) (cls : ResourceClass) :
    liveAmount (l.filter (now < ·.expiresAt)) now node cls = liveAmount l now node cls := by
  unfold liveAmount
  rw [List.filter_filter]
  congr 3
  funext r
  by_cases h : now < r.expiresAt <;> simp [h]

/-- The reservations of a placed job that has not expired are its demand, on its node. -/
theorem liveAmount_reservationsOf {job : JobSpecV1} {node : Uuid} {now expiresAt : Int} (h : now < expiresAt) (node' : Uuid)
    (cls : ResourceClass) :
    liveAmount (reservationsOf job node expiresAt) now node' cls = if node = node' then demand job cls else 0 := by
  unfold liveAmount reservationsOf demand
  rw [List.filter_map, List.map_map]
  by_cases hnode : node = node'
  · rw [if_pos hnode]
    simp [Function.comp_def, hnode, h]
  · have hother : (node == node') = false := by simpa using hnode
    rw [if_neg hnode]
    simp [Function.comp_def, hother]

theorem placedDemand_cons (job : JobSpecV1) (shards : List JobSpecV1) (p : ShardPlacement) (placements : List ShardPlacement)
    (node : Uuid) (cls : ResourceClass) :
    placedDemand (job :: shards) (p :: placements) node cls =
      (if p.nodeId = node then demand job cls else 0) + placedDemand shards placements node cls := by
  unfold placedDemand
  rw [List.zip_cons_cons, List.filter_cons]
  by_cases h : p.nodeId = node <;> simp [h]

/-! ## Plans step by step -/

section

variable (set : ShardSetV1) (offers : List ResourceOfferV1) (policy : AdmissionPolicy) (now : Int)
  (locality : Uuid → Uuid → Finset String)

/-- The book after a shard is placed. -/
def bookAfter (book : List ResourceReservation) (job : JobSpecV1) (node : Uuid) : List ResourceReservation :=
  book ++ reservationsOf job node (min set.deadline job.deadline)

/-- The placements of shards, each chosen against the book that the earlier ones leave. -/
def Planned : List JobSpecV1 → List ResourceReservation → List ShardPlacement → Prop
  | [], _, placements => placements = []
  | job :: rest, book, placements => ∃ offer score later,
    chooseOfferWithTopology book policy now job offers (locality job.jobId) = some (offer, score) ∧
      placements = ⟨job.jobId, offer.nodeId, score⟩ :: later ∧ Planned rest (bookAfter set book job offer.nodeId) later

/-- The requests of a job fit an offer together: all those of a class into what the offer's node has left of it, and it has
not already reserved more than it can give. -/
def FitsTogether (offer : ResourceOfferV1) (book : List ResourceReservation) (job : JobSpecV1) : Prop :=
  ∀ request ∈ job.requests, ∀ resource, resourceOf offer request.cls = some resource →
    demand job request.cls ≤ admissible offer book policy now resource request.cls ∧
      liveAmount book now offer.nodeId request.cls ≤ usable policy resource request.cls

/-- Every shard fits together the offer it is placed on, at its turn. -/
def StepsFit : List JobSpecV1 → List ResourceReservation → Prop
  | [], _ => True
  | job :: rest, book => ∀ offer score,
    chooseOfferWithTopology book policy now job offers (locality job.jobId) = some (offer, score) →
      FitsTogether policy now offer book job ∧ StepsFit rest (bookAfter set book job offer.nodeId)

/-- A request of the class is placed on the node. -/
def IsPlaced (shards : List JobSpecV1) (placements : List ShardPlacement) (node : Uuid) (cls : ResourceClass) : Prop :=
  ∃ p ∈ shards.zip placements, p.2.nodeId = node ∧ ∃ request ∈ p.1.requests, request.cls = cls

/-- What is placed on a node and what is reserved there stay within what it can give, for every class that is placed. -/
def WithinCapacity (shards : List JobSpecV1) (placements : List ShardPlacement) (reservations : List ResourceReservation) :
    Prop :=
  ∀ offer ∈ offers, ∀ cls, IsPlaced shards placements offer.nodeId cls →
    ∃ resource, resourceOf offer cls = some resource ∧
      placedDemand shards placements offer.nodeId cls + liveAmount reservations now offer.nodeId cls ≤
        usable policy resource cls

end

section

variable {set : ShardSetV1} {offers : List ResourceOfferV1} {policy : AdmissionPolicy} {now : Int}
  {locality : Uuid → Uuid → Finset String}

theorem planShards_planned {shards : List JobSpecV1} {book : List ResourceReservation} {acc placements : List ShardPlacement}
    (h : planShards set offers policy now locality shards book acc = .ok placements) :
    ∃ later, placements = acc ++ later ∧ Planned set offers policy now locality shards book later := by
  induction shards generalizing book acc with
  | nil =>
    cases h
    exact ⟨[], by simp, rfl⟩
  | cons job rest ih =>
    unfold planShards at h
    split at h
    · cases h
    · rename_i offer score hchoose
      obtain ⟨later, hlater, hplanned⟩ := ih h
      refine ⟨⟨job.jobId, offer.nodeId, score⟩ :: later, ?_, offer, score, later, hchoose, rfl, hplanned⟩
      rw [hlater, List.append_assoc, List.singleton_append]

theorem choose_mem {book : List ResourceReservation} {job : JobSpecV1} {digests : Uuid → Finset String} {offer : ResourceOfferV1}
    {score : PlacementScore} (h : chooseOfferWithTopology book policy now job offers digests = some (offer, score)) :
    offer ∈ offers ∧ (scoreOfferWithAdmission offer book policy now job).satisfies = true := by
  have hmem := List.mem_filter.1 (Select.maxByKey_mem h)
  obtain ⟨o, ho, heq⟩ := List.mem_map.1 hmem.1
  rw [Prod.mk.injEq] at heq
  obtain ⟨rfl, rfl⟩ := heq
  refine ⟨ho, ?_⟩
  rw [← scoreOfferWithTopology_satisfies o book policy now job (digests o.nodeId)]
  exact hmem.2

/-- Every placement is on an offered node. -/
theorem Planned.offered {shards : List JobSpecV1} {book : List ResourceReservation} {placements : List ShardPlacement}
    (h : Planned set offers policy now locality shards book placements) :
    ∀ p ∈ placements, ∃ offer ∈ offers, offer.nodeId = p.nodeId := by
  induction shards generalizing book placements with
  | nil =>
    obtain rfl := h
    simp
  | cons job rest ih =>
    obtain ⟨offer, score, later, hchoose, rfl, hplanned⟩ := h
    intro p hp
    rcases List.mem_cons.1 hp with rfl | hp
    · exact ⟨offer, (choose_mem hchoose).1, rfl⟩
    · exact ih hplanned p hp

/-- A request that the planner accepts has its resource. -/
theorem scoreRequests_resource {offer : ResourceOfferV1} {book : List ResourceReservation} {requests : List ResourceRequestV1}
    {headroom fit : Nat} {r : Nat × Nat} (h : scoreRequests offer book policy now requests headroom fit = .ok r) :
    ∀ request ∈ requests, ∃ resource, resourceOf offer request.cls = some resource ∧
      request.minimum ≤ admissible offer book policy now resource request.cls := by
  induction requests generalizing headroom fit with
  | nil => simp
  | cons q rest ih =>
    unfold scoreRequests at h
    split at h
    · cases h
    rename_i resource hresource
    simp only at h
    split at h
    · cases h
    rename_i hfits
    simp only [not_or, not_not, not_lt] at hfits
    intro request hm
    rcases List.mem_cons.1 hm with rfl | hm
    · exact ⟨resource, hresource, hfits.2.1⟩
    · exact ih h request hm

theorem satisfies_resource {offer : ResourceOfferV1} {book : List ResourceReservation} {job : JobSpecV1}
    (h : (scoreOfferWithAdmission offer book policy now job).satisfies = true) :
    ∀ request ∈ job.requests, ∃ resource, resourceOf offer request.cls = some resource ∧
      request.minimum ≤ admissible offer book policy now resource request.cls := by
  unfold scoreOfferWithAdmission at h
  split at h
  · simp [deniedScore] at h
  · split at h
    · simp [deniedScore] at h
    · rename_i hscored
      exact scoreRequests_resource hscored

theorem placedDemand_eq_zero {shards : List JobSpecV1} {placements : List ShardPlacement} {node : Uuid} {cls : ResourceClass}
    (h : ¬ IsPlaced shards placements node cls) : placedDemand shards placements node cls = 0 := by
  unfold placedDemand
  rw [List.sum_eq_zero_iff_forall_eq_nat]
  intro n hn
  obtain ⟨p, hp, rfl⟩ := List.mem_map.1 hn
  obtain ⟨hp, hnode⟩ := List.mem_filter.1 hp
  have hnone : p.1.requests.filter (·.cls == cls) = [] := by
    rw [List.filter_eq_nil_iff]
    intro request hrequest hcls
    exact h ⟨p, hp, beq_iff_eq.1 hnode, request, hrequest, beq_iff_eq.1 hcls⟩
  simp [demand, hnone]

/-- Placing a shard moves its demand from what is to be placed into the book. -/
theorem total_cons {job : JobSpecV1} (hlive : now < min set.deadline job.deadline) (shards : List JobSpecV1)
    (p : ShardPlacement) (later : List ShardPlacement) (book : List ResourceReservation) (node : Uuid) (cls : ResourceClass) :
    placedDemand (job :: shards) (p :: later) node cls + liveAmount book now node cls =
      placedDemand shards later node cls + liveAmount (bookAfter set book job p.nodeId) now node cls := by
  unfold bookAfter
  rw [placedDemand_cons, liveAmount_append, liveAmount_reservationsOf hlive]
  omega

theorem isPlaced_cons {job : JobSpecV1} {shards : List JobSpecV1} {p : ShardPlacement} {later : List ShardPlacement}
    {node : Uuid} {cls : ResourceClass} :
    IsPlaced (job :: shards) (p :: later) node cls ↔
      (p.nodeId = node ∧ ∃ request ∈ job.requests, request.cls = cls) ∨ IsPlaced shards later node cls := by
  unfold IsPlaced
  rw [List.zip_cons_cons]
  constructor
  · rintro ⟨q, hq, hplaced⟩
    rcases List.mem_cons.1 hq with rfl | hq
    · exact Or.inl hplaced
    · exact Or.inr ⟨q, hq, hplaced⟩
  · rintro (hplaced | ⟨q, hq, hplaced⟩)
    · exact ⟨(job, p), List.mem_cons_self .., hplaced⟩
    · exact ⟨q, List.mem_cons_of_mem _ hq, hplaced⟩

theorem eq_of_nodeId_eq (hnodup : (offers.map (·.nodeId)).Nodup) {a b : ResourceOfferV1} (ha : a ∈ offers) (hb : b ∈ offers)
    (h : a.nodeId = b.nodeId) : a = b :=
  List.inj_on_of_nodup_map hnodup ha hb h

theorem resourceOf_mem {offer : ResourceOfferV1} {cls : ResourceClass} {resource : ResourceQuantityV1}
    (h : resourceOf offer cls = some resource) : resource ∈ offer.resources :=
  (List.mem_filter.1 (List.mem_of_getLast? h)).1

theorem withinCapacity_iff (hnodup : (offers.map (·.nodeId)).Nodup)
    (hbound : ∀ offer ∈ offers, ∀ resource ∈ offer.resources, resource.available ≤ U64.max) {shards : List JobSpecV1}
    (hlive : ∀ job ∈ shards, now < min set.deadline job.deadline) {book : List ResourceReservation}
    {placements : List ShardPlacement} (h : Planned set offers policy now locality shards book placements) :
    WithinCapacity offers policy now shards placements book ↔ StepsFit set offers policy now locality shards book := by
  induction shards generalizing book placements with
  | nil =>
    refine ⟨fun _ => trivial, fun _ => ?_⟩
    rintro offer - cls ⟨p, hp, -⟩
    simp at hp
  | cons job rest ih =>
    obtain ⟨offer, score, later, hchoose, rfl, hplanned⟩ := h
    obtain ⟨hoffer, hsatisfies⟩ := choose_mem hchoose
    have hnow : now < min set.deadline job.deadline := hlive job (List.mem_cons_self ..)
    have ih := ih (fun j hj => hlive j (List.mem_cons_of_mem _ hj)) hplanned
    have htotal := total_cons hnow rest ⟨job.jobId, offer.nodeId, score⟩ later book
    constructor
    · intro hwithin offer' score' hchoose'
      rw [hchoose, Option.some.injEq, Prod.mk.injEq] at hchoose'
      obtain ⟨rfl, rfl⟩ := hchoose'
      refine ⟨?_, ih.1 ?_⟩
      · intro request hrequest resource hresource
        obtain ⟨resource', hresource', hle⟩ :=
          hwithin offer hoffer request.cls (isPlaced_cons.2 (Or.inl ⟨rfl, request, hrequest, rfl⟩))
        rw [hresource, Option.some.injEq] at hresource'
        subst hresource'
        rw [placedDemand_cons, if_pos rfl] at hle
        have hpending : pending offer book now request.cls ≤ liveAmount book now offer.nodeId request.cls := by
          rw [pending_eq]
          exact Nat.min_le_left _ _
        rw [admissible_eq]
        omega
      · intro offer' hoffer' cls hplaced
        obtain ⟨resource, hresource, hle⟩ := hwithin offer' hoffer' cls (isPlaced_cons.2 (Or.inr hplaced))
        rw [htotal] at hle
        exact ⟨resource, hresource, hle⟩
    · intro hsteps
      obtain ⟨hfits, hrest⟩ := hsteps offer score hchoose
      intro offer' hoffer' cls hplaced
      rw [htotal]
      by_cases hlater : IsPlaced rest later offer'.nodeId cls
      · exact ih.2 hrest offer' hoffer' cls hlater
      -- the shard is the last one that is placed there
      rcases isPlaced_cons.1 hplaced with ⟨hnode, request, hrequest, rfl⟩ | hplaced
      · obtain rfl := eq_of_nodeId_eq hnodup hoffer hoffer' hnode
        obtain ⟨resource, hresource, -⟩ := satisfies_resource hsatisfies request hrequest
        obtain ⟨hdemand, hreserved⟩ := hfits request hrequest resource hresource
        have havailable := hbound offer hoffer resource (resourceOf_mem hresource)
        have husable := usable_le_available policy resource request.cls
        have hpending : pending offer book now request.cls = liveAmount book now offer.nodeId request.cls := by
          rw [pending_eq]
          exact Nat.min_eq_left (by omega)
        rw [admissible_eq, hpending] at hdemand
        refine ⟨resource, hresource, ?_⟩
        unfold bookAfter
        rw [placedDemand_eq_zero hlater, liveAmount_append, liveAmount_reservationsOf hnow, if_pos rfl]
        omega
      · exact absurd hplaced hlater

theorem validateShards_deadlines {shards : List JobSpecV1} {ids : List Uuid} {keys : List String}
    (h : set.validateShards now shards ids keys = .ok ()) : ∀ job ∈ shards, now < job.deadline := by
  induction shards generalizing ids keys with
  | nil => simp
  | cons shard rest ih =>
    unfold ShardSetV1.validateShards at h
    split at h
    · cases h
    rename_i hvalid
    split at h
    · cases h
    split at h
    · cases h
    split at h
    · cases h
    intro job hjob
    rcases List.mem_cons.1 hjob with rfl | hjob
    · exact JobSpecV1.validateAt_deadline hvalid
    · exact ih h job hjob

theorem validateAt_live (h : set.validateAt now = .ok ()) : ∀ job ∈ set.shards, now < min set.deadline job.deadline := by
  have hset : now < set.deadline := by
    unfold ShardSetV1.validateAt at h
    split at h
    · cases h
    split at h
    · cases h
    · omega
  intro job hjob
  exact lt_min hset (validateShards_deadlines (ShardSetV1.validateAt_shards h) job hjob)

/-- A job that requests nothing twice and nothing empty fits together where it fits one by one. -/
theorem fitsTogether_of_distinct {offer : ResourceOfferV1} {book : List ResourceReservation} {job : JobSpecV1}
    (hbound : ∀ resource ∈ offer.resources, resource.available ≤ U64.max)
    (hsatisfies : (scoreOfferWithAdmission offer book policy now job).satisfies = true)
    (hdistinct : (job.requests.map (·.cls)).Nodup) (hpositive : ∀ request ∈ job.requests, 0 < request.minimum) :
    FitsTogether policy now offer book job := by
  intro request hrequest resource hresource
  obtain ⟨resource', hresource', hle⟩ := satisfies_resource hsatisfies request hrequest
  rw [hresource, Option.some.injEq] at hresource'
  subst hresource'
  have hdemand : demand job request.cls = request.minimum := by
    unfold demand
    rw [Select.filter_key_eq hdistinct hrequest]
    simp
  have hmin := hpositive request hrequest
  have havailable := hbound resource (resourceOf_mem hresource)
  have husable := usable_le_available policy resource request.cls
  refine ⟨by rw [hdemand]; exact hle, ?_⟩
  rw [admissible_eq, pending_eq] at hle
  have hcases : Nat.min (liveAmount book now offer.nodeId request.cls) U64.max =
      min (liveAmount book now offer.nodeId request.cls) U64.max := rfl
  omega

/-- So a set of such shards never overcommits. -/
theorem stepsFit_of_distinct (hbound : ∀ offer ∈ offers, ∀ resource ∈ offer.resources, resource.available ≤ U64.max)
    {shards : List JobSpecV1} (hdistinct : ∀ job ∈ shards, (job.requests.map (·.cls)).Nodup)
    (hpositive : ∀ job ∈ shards, ∀ request ∈ job.requests, 0 < request.minimum) (book : List ResourceReservation) :
    StepsFit set offers policy now locality shards book := by
  induction shards generalizing book with
  | nil => trivial
  | cons job rest ih =>
    intro offer score hchoose
    obtain ⟨hoffer, hsatisfies⟩ := choose_mem hchoose
    refine ⟨?_, ?_⟩
    · exact fitsTogether_of_distinct (hbound offer hoffer) hsatisfies (hdistinct job (List.mem_cons_self ..))
        (hpositive job (List.mem_cons_self ..))
    · exact ih (fun j hj => hdistinct j (List.mem_cons_of_mem _ hj)) (fun j hj => hpositive j (List.mem_cons_of_mem _ hj)) _

end

/-- A plan has one placement for each shard, in order, each on an offered node. It stays within the capacity of every node
exactly if every shard fits together the offer it is placed on, at its turn. -/
theorem plan_is_within_capacity_iff (set : ShardSetV1) (offers : List ResourceOfferV1) (reservations : List ResourceReservation)
    (policy : AdmissionPolicy) (now : Int) (locality : Uuid → Uuid → Finset String) (placements : List ShardPlacement)
    (hvalid : set.validateAt now = .ok ()) (hnodup : (offers.map (·.nodeId)).Nodup)
    (hbound : ∀ offer ∈ offers, ∀ resource ∈ offer.resources, resource.available ≤ U64.max)
    (hplan : planShardSet set offers reservations policy now locality = .ok placements) :
    placements.map (·.jobId) = set.shards.map (·.jobId) ∧ (∀ p ∈ placements, ∃ offer ∈ offers, offer.nodeId = p.nodeId) ∧
      (WithinCapacity offers policy now set.shards placements reservations ↔
        StepsFit set offers policy now locality set.shards (reservations.filter (now < ·.expiresAt))) := by
  obtain ⟨later, hlater, hplanned⟩ := planShards_planned hplan
  rw [List.nil_append] at hlater
  subst hlater
  refine ⟨planShardSet_jobs hplan, hplanned.offered, ?_⟩
  rw [← withinCapacity_iff hnodup hbound (validateAt_live hvalid) hplanned]
  unfold WithinCapacity
  simp only [liveAmount_filter]

open Scenario in
/-- Two shards of four and five cores share a node of ten. -/
theorem plan_is_within_capacity_two_shards :
    ∃ placements, planShardSet (coreSet [coreShard 9 "a" [4], coreShard 10 "b" [5]]) [coreOffer 77 10] [] openPolicy 0
        (fun _ _ => ∅) = .ok placements ∧
      WithinCapacity [coreOffer 77 10] openPolicy 0 [coreShard 9 "a" [4], coreShard 10 "b" [5]] placements [] := by
  have hok : (planShardSet (coreSet [coreShard 9 "a" [4], coreShard 10 "b" [5]]) [coreOffer 77 10] [] openPolicy 0
      fun _ _ => ∅).isOk = true := by
    decide +kernel
  cases hplan : planShardSet (coreSet [coreShard 9 "a" [4], coreShard 10 "b" [5]]) [coreOffer 77 10] [] openPolicy 0
      fun _ _ => ∅ with
  | error failure =>
    rw [hplan] at hok
    cases hok
  | ok placements =>
    have hbound : ∀ offer ∈ [coreOffer 77 10], ∀ resource ∈ offer.resources, resource.available ≤ U64.max := by
      decide
    refine ⟨placements, rfl, ?_⟩
    obtain ⟨-, -, hcapacity⟩ := plan_is_within_capacity_iff (coreSet [coreShard 9 "a" [4], coreShard 10 "b" [5]])
      [coreOffer 77 10] [] openPolicy 0 (fun _ _ => ∅) placements (by decide +kernel) (by decide) hbound hplan
    exact hcapacity.2 (stepsFit_of_distinct hbound (by decide) (by decide) _)

open Scenario in
/-- A shard that requests six cores twice is placed on a node of ten. -/
theorem repeated_class_overcommits :
    ¬ ∀ (set : ShardSetV1) (offers : List ResourceOfferV1) (reservations : List ResourceReservation) (policy : AdmissionPolicy)
      (now : Int) (locality : Uuid → Uuid → Finset String) (placements : List ShardPlacement),
      set.validateAt now = .ok () → (offers.map (·.nodeId)).Nodup →
      (∀ offer ∈ offers, ∀ resource ∈ offer.resources, resource.available ≤ U64.max) →
      planShardSet set offers reservations policy now locality = .ok placements →
      WithinCapacity offers policy now set.shards placements reservations := by
  intro hall
  have hnodes : (planShardSet (coreSet [coreShard 9 "a" [6, 6]]) [coreOffer 77 10] [] openPolicy 0
      fun _ _ => ∅).toOption.map (fun placements => placements.map (·.nodeId)) = some [77] := by
    decide +kernel
  cases hplan : planShardSet (coreSet [coreShard 9 "a" [6, 6]]) [coreOffer 77 10] [] openPolicy 0 fun _ _ => ∅ with
  | error failure =>
    rw [hplan] at hnodes
    cases hnodes
  | ok placements =>
    rw [hplan] at hnodes
    have hone : placements.map (·.nodeId) = [77] := Option.some.inj hnodes
    obtain ⟨p, rfl, hp⟩ := List.map_eq_singleton_iff.1 hone
    have hwithin := hall _ _ _ _ _ _ _ (by decide +kernel) (by decide) (by decide) hplan
    have hplaced : IsPlaced [coreShard 9 "a" [6, 6]] [p] 77 .cpuCompute :=
      ⟨(coreShard 9 "a" [6, 6], p), List.mem_singleton_self _, hp, ⟨.cpuCompute, 6, 6, "logical_core", []⟩,
        List.mem_cons_self .., rfl⟩
    obtain ⟨resource, hresource, hle⟩ := hwithin (coreOffer 77 10) (List.mem_singleton_self _) .cpuCompute hplaced
    obtain rfl := Option.some.inj hresource
    have hdemand : placedDemand [coreShard 9 "a" [6, 6]] [p] 77 .cpuCompute = 12 := by
      rw [placedDemand_cons, if_pos hp]
      rfl
    have hten : usable openPolicy ⟨.cpuCompute, 10, 10, "logical_core", []⟩ .cpuCompute = 10 := by decide
    have hover : 12 + 0 ≤ 10 := by
      rw [← hdemand, ← hten]
      exact hle
    omega

end Rampage.Planner
