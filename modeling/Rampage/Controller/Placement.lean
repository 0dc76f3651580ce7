/-
The planner against the Governor. `submit_job` commits to the offer with the best rank before the
Governor is asked, and the planner does not look at an offer's expiry, at its workload capabilities
or at the rules for mobile devices. `planner_is_complete_iff` says exactly when that is harmless: every
satisfying offer that fails one of these tests is outranked by one that passes them all.
-/
import Rampage.Controller.Admitted
import Rampage.Controller.Assist
import Rampage.Controller.Scenario

namespace Rampage.Controller

open Rampage.Protocol Rampage.Planner Rampage.Governor

/-! ## The Governor's tests, by what they look at -/

section

variable (config : GovernorConfig) (job : JobSpecV1) (now : Int)

/-- The tests of `check_job_at` that look at the job alone. -/
def isJobAdmissible : Bool :=
  !config.killed && (job.validateAt now matches .ok _) && decide (job.adapter ∈ config.trustedAdapters) &&
    job.requests.all (fun r => adapterAllowsResource job.adapter r.cls) &&
    decide (job.deadline ≤ now + seconds config.maxJobTtlSeconds)

/-- The tests of `check_job_at` on an offer that the planner does not make: expiry, workload capabilities
and the rules for mobile devices. -/
def isOfferBlocked (offer : ResourceOfferV1) : Bool :=
  decide (offer.expiresAt ≤ now) ||
    (!offer.workloadCapabilities.isEmpty && !offer.workloadCapabilities.any (·.authorizes job.adapter job.operation)) ||
    (isMobile offer && !(checkMobile config job offer matches .ok _))

end

section

variable {config : GovernorConfig} {job : JobSpecV1} {now : Int} {offer : ResourceOfferV1}

/-- For an offer with the adapter and the resources of the job, the Governor accepts exactly what passes the
tests on the job and those the planner does not make. -/
theorem checkJobAt_ok_iff (ha : job.adapter ∈ offer.adapters)
    (hr : ∀ request ∈ job.requests, ∃ resource ∈ offer.resources, meets request resource = true) :
    checkJobAt config job offer offer.nodeId now = .ok () ↔
      isJobAdmissible config job now = true ∧ isOfferBlocked config job now offer = false := by
  -- the resource checks pass for a planned offer
  have hresources : job.requests.any (fun r => offer.resources.all fun q => !meets r q) = false := by
    rw [List.any_eq_false]
    intro request hm
    obtain ⟨resource, hres, hmeets⟩ := hr request hm
    simp only [List.all_eq_true, Bool.not_eq_true', not_forall, Bool.not_eq_false]
    exact ⟨resource, hres, hmeets⟩
  unfold checkJobAt isJobAdmissible isOfferBlocked
  -- the checks in the order the Governor makes them
  cases hk : config.killed with
  | true => simp
  | false =>
    cases hv : job.validateAt now with
    | error e => simp
    | ok u =>
      by_cases ht : job.adapter ∈ config.trustedAdapters
      swap
      · simp [ht]
      by_cases hq : job.requests.any (fun r => !adapterAllowsResource job.adapter r.cls) = true
      · have hq' : job.requests.all (fun r => adapterAllowsResource job.adapter r.cls) = false := by
          rw [List.all_eq_not_any_not, hq]
          rfl
        simp [ht, hq, hq']
      have hq' : job.requests.all (fun r => adapterAllowsResource job.adapter r.cls) = true := by
        rw [List.all_eq_not_any_not, Bool.eq_false_iff.2 hq]
        rfl
      have hc : (offer.workloadCapabilities.isEmpty = false ∧
          offer.workloadCapabilities.any (·.authorizes job.adapter job.operation) = false) ↔
          (!offer.workloadCapabilities.isEmpty &&
            !offer.workloadCapabilities.any (·.authorizes job.adapter job.operation)) = true := by
        rw [Bool.and_eq_true, Bool.not_eq_true', Bool.not_eq_true']
      simp only [Bool.false_eq_true, if_false, ht, not_true, hq, ha, hresources, ne_eq, hq', Bool.not_false, decide_true,
        Bool.and_self, Bool.true_and, hc]
      cases (!offer.workloadCapabilities.isEmpty &&
        !offer.workloadCapabilities.any (·.authorizes job.adapter job.operation)) with
      | true => simp
      | false =>
        by_cases hx : offer.expiresAt ≤ now
        · simp [hx]
        by_cases hd : now + seconds config.maxJobTtlSeconds < job.deadline
        · simp [hx, hd]
        have hd' : job.deadline ≤ now + seconds config.maxJobTtlSeconds := not_lt.1 hd
        cases isMobile offer with
        | false => simp [hx, hd, hd']
        | true =>
          cases checkMobile config job offer with
          | error d => simp [hx, hd, hd']
          | ok u => simp [hx, hd, hd']

/-! ## Candidates -/

section

variable (cfg : Config) (s : AppState) (job : JobSpecV1) (now : Int)

/-- The score of an offer, with the inputs its node holds. -/
def scoreOf (offer : ResourceOfferV1) : PlacementScore :=
  scoreOfferWithTopology offer s.reservations cfg.admissionPolicy now job (localInputs s job offer)

/-- A stored offer of a node that is not excluded, and that satisfies the planner. -/
def Candidate (offer : ResourceOfferV1) : Prop :=
  (∃ node, s.offers.lookup node = some offer) ∧ offer.nodeId ∉ s.excludedNodes ∧
    (scoreOf cfg s job now offer).satisfies = true

/-- The candidates with their scores, in an order of iteration over the offers. -/
def candidates (order : IterOrder) : List (ResourceOfferV1 × PlacementScore) :=
  ((placementOffers order s).map fun o => (o, scoreOf cfg s job now o)).filter (·.2.satisfies)

/-- The choice of `submit_job`, for an order of iteration over the offers. -/
def choice (order : IterOrder) : Option (ResourceOfferV1 × PlacementScore) :=
  chooseOfferWithTopology s.reservations cfg.admissionPolicy now job (placementOffers order s)
    (inputLocality s (placementOffers order s) job)

/-- It is the choice `placeJob` makes, at its clock reading and in the order of its world. -/
theorem placeJob_eq (w : World) (s : Host) : placeJob cfg w job s =
    match choice cfg s.toAppState job (w.clock s.reads) (w.order s.reads) with
    | none => (append w (.jobBlocked job.jobId "no admissible offer") >>= fun _ =>
        Handler.fail { status := .conflict, error := "no admissible offer" }) { s with reads := s.reads + 1 }
    | some choice => (.ok choice, { s with reads := s.reads + 1 }) := by
  unfold placeJob
  rw [Handler.get_bind, utcNow_bind]
  unfold choice
  split
  · rename_i h
    simp only [h]
  · rename_i h
    simp only [h]
    rfl

/-- Whenever the Governor would accept some candidate it accepts the chosen one, whatever the order of
iteration. -/
def GovernorFollows : Prop :=
  (∃ offer, Candidate cfg s job now offer ∧ checkJobAt cfg.governor job offer offer.nodeId now = .ok ()) →
    ∀ order, ∃ chosen, choice cfg s job now order = some chosen ∧
      checkJobAt cfg.governor job chosen.1 chosen.1.nodeId now = .ok ()

end

variable {cfg : Config} {s : AppState}

theorem Candidate.checkJobAt_ok_iff (h : Candidate cfg s job now offer) :
    checkJobAt cfg.governor job offer offer.nodeId now = .ok () ↔
      isJobAdmissible cfg.governor job now = true ∧ isOfferBlocked cfg.governor job now offer = false := by
  have hs := h.2.2
  rw [scoreOf, scoreOfferWithTopology_satisfies] at hs
  obtain ⟨ha, hr⟩ := scoreOfferWithAdmission_satisfies hs
  exact Controller.checkJobAt_ok_iff ha hr

/-- Offers are stored under their node. -/
def OffersKeyed (s : AppState) : Prop := ∀ node offer, s.offers.lookup node = some offer → offer.nodeId = node

/-- They are in every state the controller reaches. -/
theorem offersKeyed_exec (cfg : Config) (x : Peers) (w : World) (epoch : Nat) (head : String → Except String ArtifactRefV1)
    (acts : List Act) : OffersKeyed ((fabric cfg x w).exec acts (.initial epoch head)).desk.toAppState :=
  fun node offer h => (traced_exec epoch head acts).keyed node offer h

theorem mem_placementOffers {order : IterOrder} :
    offer ∈ placementOffers order s ↔ (∃ node, s.offers.lookup node = some offer) ∧ offer.nodeId ∉ s.excludedNodes := by
  unfold placementOffers
  rw [List.mem_filter, order.mem_apply, Table.mem_values]
  simp

/-- No two placement offers are of one node. -/
theorem placementOffers_nodup (hk : OffersKeyed s) (order : IterOrder) :
    ((placementOffers order s).map (·.nodeId)).Nodup := by
  have hkeys : s.offers.values.map (·.nodeId) = s.offers.keys := by
    unfold Table.values AList.keys List.keys
    rw [List.map_map]
    apply List.map_congr_left
    intro e he
    exact hk e.1 e.2 ((Table.mem_lookup _ _ _).2 he)
  have hall : ((order.apply s.offers.values).map (·.nodeId)).Nodup := by
    rw [((order.perm s.offers.values).map _).nodup_iff, hkeys]
    exact s.offers.keys_nodup
  exact hall.sublist (List.filter_sublist.map _)

/-- The inputs the planner counts as local to an offer are those of its node. -/
theorem inputLocality_eq (hk : OffersKeyed s) {order : IterOrder} (ho : offer ∈ placementOffers order s) :
    inputLocality s (placementOffers order s) job offer.nodeId = localInputs s job offer := by
  have hfilter : (placementOffers order s).filter (fun o => o.nodeId == offer.nodeId) = [offer] :=
    Select.filter_key_eq (placementOffers_nodup hk order) ho
  unfold inputLocality
  rw [hfilter]
  rfl

/-- The choice is the best of the candidates. -/
theorem choice_eq (hk : OffersKeyed s) (order : IterOrder) :
    choice cfg s job now order =
      Select.maxByKey (fun c => placementRank c.2) (candidates cfg s job now order) := by
  unfold choice chooseOfferWithTopology scored candidates
  congr 2
  apply List.map_congr_left
  intro o ho
  rw [inputLocality_eq hk ho]
  rfl

theorem mem_candidates {order : IterOrder} {c : ResourceOfferV1 × PlacementScore} :
    c ∈ candidates cfg s job now order ↔ Candidate cfg s job now c.1 ∧ c.2 = scoreOf cfg s job now c.1 := by
  unfold candidates
  rw [List.mem_filter, List.mem_map]
  constructor
  · rintro ⟨⟨o, ho, rfl⟩, hsat⟩
    obtain ⟨hstored, hex⟩ := mem_placementOffers.1 ho
    exact ⟨⟨hstored, hex, hsat⟩, rfl⟩
  · rintro ⟨⟨hstored, hex, hsat⟩, hscore⟩
    refine ⟨⟨c.1, mem_placementOffers.2 ⟨hstored, hex⟩, by rw [← hscore]⟩, ?_⟩
    rw [hscore]
    exact hsat

/-- An order in which a given candidate comes last. -/
theorem exists_order_last {b : ResourceOfferV1} (h : Candidate cfg s job now b) : ∃ order rest,
    candidates cfg s job now order = rest ++ [(b, scoreOf cfg s job now b)] := by
  obtain ⟨hstored, hex, hsat⟩ := h
  obtain ⟨i, rest, hi⟩ := IterOrder.exists_moveLast ((Table.mem_values s.offers b).2 hstored)
  refine ⟨IterOrder.moveLast i, (((rest.filter (·.nodeId ∉ s.excludedNodes)).map fun o =>
    (o, scoreOf cfg s job now o)).filter (·.2.satisfies)), ?_⟩
  unfold candidates placementOffers
  rw [hi, List.filter_append, List.map_append, List.filter_append]
  congr 1
  simp [hex, hsat]

/-- The Governor follows the planner exactly when every blocked candidate is outranked by one that is not
blocked, if there is one at all and the job itself is admissible. -/
theorem planner_is_complete_iff (cfg : Config) (s : AppState) (job : JobSpecV1) (now : Int) (hk : OffersKeyed s) :
    GovernorFollows cfg s job now ↔
      (isJobAdmissible cfg.governor job now = true →
        (∃ a, Candidate cfg s job now a ∧ isOfferBlocked cfg.governor job now a = false) →
        ∀ b, Candidate cfg s job now b → isOfferBlocked cfg.governor job now b = true →
          ∃ a, Candidate cfg s job now a ∧ isOfferBlocked cfg.governor job now a = false ∧
            placementRank (scoreOf cfg s job now b) < placementRank (scoreOf cfg s job now a)) := by
  constructor
  · rintro h hjob ⟨a, ha, hfree⟩ b hb hblocked
    -- let the blocked candidate come last, so that it wins every tie
    obtain ⟨order, rest, horder⟩ := exists_order_last hb
    obtain ⟨chosen, hchosen, hok⟩ := h ⟨a, ha, ha.checkJobAt_ok_iff.2 ⟨hjob, hfree⟩⟩ order
    rw [choice_eq hk] at hchosen
    obtain ⟨hcand, hscore⟩ := mem_candidates.1 (Select.maxByKey_mem hchosen)
    have hfree' := (hcand.checkJobAt_ok_iff.1 hok).2
    refine ⟨chosen.1, hcand, hfree', ?_⟩
    obtain ⟨l₁, l₂, hl, _, hlater⟩ := Select.maxByKey_spec hchosen
    rw [horder] at hl
    rcases List.eq_nil_or_concat l₂ with rfl | ⟨l₂, last, rfl⟩
    · obtain ⟨_, hlast⟩ := List.append_inj' hl rfl
      simp only [List.cons.injEq, and_true] at hlast
      rw [← hlast] at hfree'
      rw [hblocked] at hfree'
      cases hfree'
    · have hsnoc : rest ++ [(b, scoreOf cfg s job now b)] = (l₁ ++ chosen :: l₂) ++ [last] := by simpa using hl
      obtain ⟨_, hlast⟩ := List.append_inj' hsnoc rfl
      simp only [List.cons.injEq, and_true] at hlast
      subst hlast
      rw [← hscore]
      exact hlater (b, scoreOf cfg s job now b) (by simp)
  · rintro h ⟨a, ha, hok⟩ order
    obtain ⟨hjob, hfree⟩ := ha.checkJobAt_ok_iff.1 hok
    cases hchoice : choice cfg s job now order with
    | none =>
      rw [choice_eq hk, Select.maxByKey_eq_none] at hchoice
      have : (a, scoreOf cfg s job now a) ∈ candidates cfg s job now order := mem_candidates.2 ⟨ha, rfl⟩
      rw [hchoice] at this
      cases this
    | some chosen =>
      refine ⟨chosen, rfl, ?_⟩
      rw [choice_eq hk] at hchoice
      obtain ⟨hcand, hscore⟩ := mem_candidates.1 (Select.maxByKey_mem hchoice)
      refine hcand.checkJobAt_ok_iff.2 ⟨hjob, ?_⟩
      by_contra hblocked
      rw [Bool.not_eq_false] at hblocked
      obtain ⟨better, hbetter, _, hrank⟩ := h hjob ⟨a, ha, hfree⟩ chosen.1 hcand hblocked
      have hin : (better, scoreOf cfg s job now better) ∈ candidates cfg s job now order :=
        mem_candidates.2 ⟨hbetter, rfl⟩
      have hle := Select.maxByKey_le hchoice hin
      rw [hscore] at hle
      exact absurd hrank (not_lt.2 hle)

end

/-! ## Two fabrics -/

section

open Scenario

/-- An offer of CPU cores on a node. -/
def cpuOffer (node : Uuid) (cores : Nat) (expiresAt : Int) : ResourceOfferV1 :=
  { offer with
    nodeId := node
    expiresAt := expiresAt
    resources := [⟨.cpuCompute, cores, cores, "cores", []⟩] }

/-- A job that needs two cores and prefers a hundred. -/
def cpuJob : JobSpecV1 := { job 9 "k1" with requests := [⟨.cpuCompute, 2, 100, "cores", []⟩] }

/-- A small offer that is fresh and a large one that expires at the given time. -/
def cpuFabric (largeExpiresAt : Int) : AppState :=
  { start.toAppState with
    offers := ((∅ : Table Uuid ResourceOfferV1).insert 77 (cpuOffer 77 20 (seconds 100))).insert 78
      (cpuOffer 78 100 largeExpiresAt) }

theorem cpuFabric_keyed (largeExpiresAt : Int) : OffersKeyed (cpuFabric largeExpiresAt) := by
  intro node offer h
  change ((AList.insert 77 _ ∅).insert 78 _ : Table Uuid ResourceOfferV1).lookup node = some offer at h
  rw [Table.lookup_insert', Table.lookup_insert'] at h
  split at h
  · rename_i hnode
    cases h
    exact hnode.symm
  · split at h
    · rename_i hnode
      cases h
      exact hnode.symm
    · simp at h

/-- While both offers are fresh the Governor follows the planner. -/
theorem planner_is_complete_fresh : GovernorFollows config (cpuFabric (seconds 100)) cpuJob 10 := by
  refine (planner_is_complete_iff config (cpuFabric (seconds 100)) cpuJob 10 (cpuFabric_keyed _)).2 ?_
  intro _ _ b hb hblocked
  obtain ⟨node, hnode⟩ := hb.1
  have hfresh : ∀ e ∈ (cpuFabric (seconds 100)).offers.entries,
      isOfferBlocked config.governor cpuJob 10 e.2 = false := by
    decide +kernel
  rw [hfresh _ ((Table.mem_lookup _ _ _).1 hnode)] at hblocked
  cases hblocked

/-- The large offer has expired: it is chosen all the same and the Governor refuses it, though it would accept
the small one. -/
theorem expired_offer_masks_fresh_one : ¬ GovernorFollows config (cpuFabric 5) cpuJob 10 := by
  intro h
  have hsmall : Candidate config (cpuFabric 5) cpuJob 10 (cpuOffer 77 20 (seconds 100)) :=
    ⟨⟨77, by decide +kernel⟩, by decide +kernel, by decide +kernel⟩
  have haccepted : checkJobAt config.governor cpuJob (cpuOffer 77 20 (seconds 100)) 77 10 = .ok () :=
    hsmall.checkJobAt_ok_iff.2 ⟨by decide +kernel, by decide +kernel⟩
  obtain ⟨chosen, hchosen, hok⟩ := h ⟨_, hsmall, haccepted⟩ .entries
  have hlarge : (some chosen).map (·.1) = some (cpuOffer 78 100 5) := by
    rw [← hchosen]
    decide +kernel
  simp only [Option.map_some, Option.some.injEq] at hlarge
  rw [hlarge] at hok
  have hcandidate : Candidate config (cpuFabric 5) cpuJob 10 (cpuOffer 78 100 5) :=
    ⟨⟨78, by decide +kernel⟩, by decide +kernel, by decide +kernel⟩
  have := (hcandidate.checkJobAt_ok_iff.1 hok).2
  revert this
  decide +kernel

end

end Rampage.Controller
