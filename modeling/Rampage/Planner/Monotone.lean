/-
The score is monotone. Reservations, the owner's reserve and the guardband only take away: with more of them an offer that
was refused stays refused, and one that is still admitted has no more headroom, fit or utility (`scoring_is_monotone`).
Inputs that a node holds only add to its rank (`rank_grows_with_locality`). The number of local inputs is kept in
32 bits, so this needs a job with fewer inputs than that.
-/
import Rampage.Planner.Capacity
import Mathlib.Algebra.Order.BigOperators.Group.List

namespace Rampage.Planner

open Rampage.Protocol Rampage.Governor

/-! ## Saturating arithmetic -/

theorem satAdd_mono {a b c d : Nat} (h : a ≤ c) (h' : b ≤ d) : U64.satAdd a b ≤ U64.satAdd c d := by
  show min (a + b) U64.max ≤ min (c + d) U64.max
  omega

theorem satMul_mono {a b c d : Nat} (h : a ≤ c) (h' : b ≤ d) : U64.satMul a b ≤ U64.satMul c d := by
  have := Nat.mul_le_mul h h'
  show min (a * b) U64.max ≤ min (c * d) U64.max
  omega

theorem divCeil_mono {a b : Nat} (h : a ≤ b) (d : Nat) : U64.divCeil a d ≤ U64.divCeil b d := by
  unfold U64.divCeil
  exact Nat.div_le_div_right (by omega)

/-- A saturating sum grows with the list. -/
theorem foldl_satAdd_mono {l l' : List Nat} (h : l.Subperm l') : l.foldl U64.satAdd 0 ≤ l'.foldl U64.satAdd 0 := by
  obtain ⟨k, hperm, hsub⟩ := h
  have hle : l.sum ≤ l'.sum := by
    rw [← hperm.sum_nat]
    exact hsub.sum_le_sum fun _ _ => Nat.zero_le _
  have hl := foldl_satAdd l 0
  have hl' := foldl_satAdd l' 0
  rw [Nat.zero_add] at hl hl'
  refine le_trans (le_of_eq hl) (le_trans ?_ (le_of_eq hl'.symm))
  show min l.sum U64.max ≤ min l'.sum U64.max
  omega

/-! ## More reservations and a larger reserve -/

/-- The second policy takes at least as much away. -/
structure AdmissionPolicy.Stricter (policy policy' : AdmissionPolicy) : Prop where
  reserve : ∀ cls, policy.protectedOwnerReserve cls ≤ policy'.protectedOwnerReserve cls
  guardband : policy.safetyGuardbandPercent ≤ policy'.safetyGuardbandPercent

section

variable {offer : ResourceOfferV1} {reservations reservations' : List ResourceReservation} {policy policy' : AdmissionPolicy}
  {now : Int} {job : JobSpecV1}

theorem pending_mono (offer : ResourceOfferV1) (now : Int) (hr : reservations.Subperm reservations') (cls : ResourceClass) :
    pending offer reservations now cls ≤ pending offer reservations' now cls := by
  obtain ⟨k, hperm, hsub⟩ := hr.filter fun r => r.nodeId == offer.nodeId && r.cls == cls && decide (now < r.expiresAt)
  exact foldl_satAdd_mono ⟨k.map (·.amount), hperm.map _, hsub.map _⟩

theorem admissible_anti (offer : ResourceOfferV1) (now : Int) (hr : reservations.Subperm reservations') (hp : policy.Stricter policy')
    (resource : ResourceQuantityV1) (cls : ResourceClass) :
    admissible offer reservations' policy' now resource cls ≤ admissible offer reservations policy now resource cls := by
  have hpending := pending_mono offer now hr cls
  have hreserve := hp.reserve cls
  have hguard : U64.satMul resource.capacity (Nat.min policy.safetyGuardbandPercent 100) / 100 ≤
      U64.satMul resource.capacity (Nat.min policy'.safetyGuardbandPercent 100) / 100 := by
    refine Nat.div_le_div_right (satMul_mono (le_refl _) ?_)
    have := hp.guardband
    show min policy.safetyGuardbandPercent 100 ≤ min policy'.safetyGuardbandPercent 100
    omega
  unfold admissible
  omega

theorem fitMilli_mono (request : ResourceRequestV1) {a b : Nat} (h : a ≤ b) : fitMilli request a ≤ fitMilli request b := by
  have := Nat.div_le_div_right (c := Nat.max (Nat.max request.preferred request.minimum) 1)
    (satMul_mono h (le_refl 1000))
  show min _ 4000 ≤ min _ 4000
  omega

/-- The loop over the requests: what passes with less passes with more, and with no smaller headroom and fit. -/
theorem scoreRequests_anti (hr : reservations.Subperm reservations') (hp : policy.Stricter policy') :
    ∀ {requests : List ResourceRequestV1} {h h' f f' : Nat} {r' : Nat × Nat}, h' ≤ h → f' ≤ f →
      scoreRequests offer reservations' policy' now requests h' f' = .ok r' →
      ∃ r, scoreRequests offer reservations policy now requests h f = .ok r ∧ r'.1 ≤ r.1 ∧ r'.2 ≤ r.2
  | [], h, h', f, f', r', hh, hf, hs => by
    cases hs
    exact ⟨(h, f), rfl, hh, hf⟩
  | request :: rest, h, h', f, f', r', hh, hf, hs => by
    unfold scoreRequests at hs ⊢
    cases hres : resourceOf offer request.cls with
    | none =>
      rw [hres] at hs
      cases hs
    | some resource =>
      rw [hres] at hs
      dsimp only at hs ⊢
      have hle := admissible_anti offer now hr hp resource request.cls
      by_cases hbad : ¬ labelsMatch request resource ∨
          admissible offer reservations' policy' now resource request.cls < request.minimum ∨ resource.unit ≠ request.unit
      · rw [if_pos hbad] at hs
        cases hs
      · rw [if_neg hbad] at hs
        push Not at hbad
        obtain ⟨hlabels, hamount, hunit⟩ := hbad
        rw [if_neg]
        · exact scoreRequests_anti hr hp (satAdd_mono hh (Nat.sub_le_sub_right hle _))
            (by
              have := fitMilli_mono request hle
              show min f' _ ≤ min f _
              omega) hs
        · push Not
          exact ⟨hlabels, le_trans hamount hle, hunit⟩

/-- The fit of a job with requests is capped. -/
theorem scoreRequests_fit_le : ∀ {requests : List ResourceRequestV1} {h f : Nat} {r : Nat × Nat},
    scoreRequests offer reservations policy now requests h f = .ok r → r.2 ≤ f ∧ (requests ≠ [] → r.2 ≤ 4000)
  | [], h, f, r, hs => by
    cases hs
    exact ⟨le_refl _, fun hne => absurd rfl hne⟩
  | request :: rest, h, f, r, hs => by
    unfold scoreRequests at hs
    cases hres : resourceOf offer request.cls with
    | none =>
      rw [hres] at hs
      cases hs
    | some resource =>
      rw [hres] at hs
      dsimp only at hs
      split at hs
      · cases hs
      · have hle := (scoreRequests_fit_le hs).1
        have hmin : Nat.min f (fitMilli request (admissible offer reservations policy now resource request.cls)) ≤ f ∧
            Nat.min f (fitMilli request (admissible offer reservations policy now resource request.cls)) ≤ 4000 := by
          have : fitMilli request (admissible offer reservations policy now resource request.cls) ≤ 4000 :=
            Nat.min_le_right _ _
          show min f _ ≤ f ∧ min f _ ≤ 4000
          omega
        exact ⟨le_trans hle hmin.1, fun _ => le_trans hle hmin.2⟩

/-- The second score is admitted only if the first is, and then it is no better in headroom, fit and utility. -/
structure PlacementScore.Covers (score score' : PlacementScore) : Prop where
  satisfies : score'.satisfies = true → score.satisfies = true
  headroom : score'.satisfies = true → score'.capacityHeadroom ≤ score.capacityHeadroom
  fit : score'.satisfies = true → score'.capacityFitMilli ≤ score.capacityFitMilli
  utility : score'.satisfies = true → score'.utilityMilli ≤ score.utilityMilli

theorem admission_covers (offer : ResourceOfferV1) (now : Int) (job : JobSpecV1) (hr : reservations.Subperm reservations') (hp : policy.Stricter policy') :
    (scoreOfferWithAdmission offer reservations policy now job).Covers
      (scoreOfferWithAdmission offer reservations' policy' now job) := by
  unfold scoreOfferWithAdmission
  split
  · exact ⟨id, fun _ => le_refl _, fun _ => le_refl _, fun _ => le_refl _⟩
  cases hs : scoreRequests offer reservations' policy' now job.requests 0 U64.max with
  | error reason => exact ⟨nofun, nofun, nofun, nofun⟩
  | ok r' =>
    obtain ⟨r, hr', hhead, hfit⟩ := scoreRequests_anti hr hp (le_refl 0) (le_refl U64.max) hs
    rw [hr']
    -- a job without requests is scored 1000 on both sides; the others have a capped fit
    have hscaled : (if r'.2 = U64.max then 1000 else r'.2) ≤ if r.2 = U64.max then 1000 else r.2 := by
      by_cases hnone : job.requests = []
      · rw [hnone] at hs hr'
        cases hs
        cases hr'
        exact le_refl _
      · have hcap := (scoreRequests_fit_le hr').2 hnone
        have hcap' := (scoreRequests_fit_le hs).2 hnone
        have hbig : 4000 < U64.max := by decide
        rw [if_neg (by omega), if_neg (by omega)]
        exact hfit
    exact ⟨fun _ => rfl, fun _ => hhead, fun _ => hscaled, fun _ => Int.ofNat_le.2 hscaled⟩

/-- More reservations, a larger reserve or a larger guardband make no refused offer admissible, and leave no more headroom,
fit or utility, with and without the topology. -/
theorem topology_covers (hr : reservations.Subperm reservations') (hp : policy.Stricter policy')
    (localDigests : Finset String) :
    (scoreOfferWithTopology offer reservations policy now job localDigests).Covers
      (scoreOfferWithTopology offer reservations' policy' now job localDigests) := by
  have h := admission_covers offer now job hr hp
  unfold scoreOfferWithTopology
  dsimp only
  by_cases hs' : (scoreOfferWithAdmission offer reservations' policy' now job).satisfies = false
  · rw [if_pos hs']
    have hnot : ¬ (scoreOfferWithAdmission offer reservations' policy' now job).satisfies = true := by simp [hs']
    exact ⟨fun hc => absurd hc hnot, fun hc => absurd hc hnot, fun hc => absurd hc hnot, fun hc => absurd hc hnot⟩
  · have htrue' : (scoreOfferWithAdmission offer reservations' policy' now job).satisfies = true := by
      rwa [← Bool.not_eq_false]
    have htrue := h.satisfies htrue'
    rw [if_neg hs', if_neg (by rw [htrue]; exact Bool.noConfusion)]
    -- the staging time does not depend on what is reserved
    refine ⟨fun _ => htrue, fun _ => h.headroom htrue', fun _ => h.fit htrue', fun _ => ?_⟩
    have hfit := h.fit htrue'
    dsimp only
    omega

end

/-! ## More local inputs -/

section

variable {offer : ResourceOfferV1} {reservations : List ResourceReservation} {policy : AdmissionPolicy}
  {now : Int} {job : JobSpecV1} {localDigests localDigests' : Finset String}

theorem transferMillis_mono {missing missing' : Nat} (h : missing' ≤ missing) (rtt bps : Nat) :
    transferMillis missing' rtt bps ≤ transferMillis missing rtt bps := by
  unfold transferMillis
  by_cases hzero : missing' = 0
  · rw [if_pos hzero]
    exact Nat.zero_le _
  · rw [if_neg hzero, if_neg (by omega)]
    exact satAdd_mono (divCeil_mono (satMul_mono (satMul_mono h (le_refl 8)) (le_refl 1000)) _) (le_refl _)

/-- The inputs that are not local become fewer. -/
theorem missing_anti (job : JobSpecV1) (h : localDigests ⊆ localDigests') :
    ((job.inputs.filter (·.digest ∉ localDigests')).map (·.sizeBytes)).foldl U64.satAdd 0 ≤
      ((job.inputs.filter (·.digest ∉ localDigests)).map (·.sizeBytes)).foldl U64.satAdd 0 := by
  refine foldl_satAdd_mono ((List.monotone_filter_right _ ?_).map _).subperm
  intro input hi
  simp only [decide_eq_true_eq] at hi ⊢
  exact fun hm => hi (h hm)

theorem local_mono (job : JobSpecV1) (h : localDigests ⊆ localDigests') :
    (job.inputs.filter (·.digest ∈ localDigests)).length ≤ (job.inputs.filter (·.digest ∈ localDigests')).length := by
  refine (List.monotone_filter_right _ ?_).length_le
  intro input hi
  simp only [decide_eq_true_eq] at hi ⊢
  exact h hi

/-- With more local inputs the rank is no lower. -/
theorem rank_mono (hsmall : job.inputs.length < 2 ^ 32) (h : localDigests ⊆ localDigests') :
    placementRank (scoreOfferWithTopology offer reservations policy now job localDigests) ≤
      placementRank (scoreOfferWithTopology offer reservations policy now job localDigests') := by
  unfold scoreOfferWithTopology
  dsimp only
  by_cases hs : (scoreOfferWithAdmission offer reservations policy now job).satisfies = false
  · rw [if_pos hs, if_pos hs]
  · rw [if_neg hs, if_neg hs]
    have hcount := local_mono job h
    have hless : (job.inputs.filter (·.digest ∈ localDigests')).length ≤ job.inputs.length := List.length_filter_le ..
    have hmillis := transferMillis_mono (missing_anti job h) (linkOf offer now).1 (linkOf offer now).2.1
    have hpenalty := divCeil_mono hmillis 10
    have hcapped : ∀ {a b : Nat}, a ≤ b → Nat.min a 10000 ≤ Nat.min b 10000 := by
      intro a b hab
      show min a 10000 ≤ min b 10000
      omega
    -- every component of the rank is as good
    refine Prod.Lex.toLex_mono ⟨?_, Prod.Lex.toLex_mono ⟨?_, Prod.Lex.toLex_mono ⟨le_refl _, Prod.Lex.toLex_mono
      ⟨?_, le_refl _⟩⟩⟩⟩
    · exact Int.sub_le_sub_left (Int.ofNat_le.2 (hcapped hpenalty)) _
    · dsimp only
      rw [Nat.mod_eq_of_lt (by omega), Nat.mod_eq_of_lt (by omega)]
      exact hcount
    · exact OrderDual.toDual_le_toDual.2 hmillis

end

/-- Scoring is monotone: against reservations, reserve and guardband for every job, and in the local inputs for every
job with fewer than 2 ^ 32 of them. -/
theorem scoring_is_monotone (job : JobSpecV1) (offer : ResourceOfferV1) (reservations : List ResourceReservation)
    (policy : AdmissionPolicy) (now : Int) :
    (∀ (reservations' : List ResourceReservation) (policy' : AdmissionPolicy), reservations.Subperm reservations' →
        policy.Stricter policy' →
        (scoreOfferWithAdmission offer reservations policy now job).Covers
            (scoreOfferWithAdmission offer reservations' policy' now job) ∧
          ∀ localDigests, (scoreOfferWithTopology offer reservations policy now job localDigests).Covers
            (scoreOfferWithTopology offer reservations' policy' now job localDigests)) ∧
      (job.inputs.length < 2 ^ 32 → ∀ localDigests localDigests' : Finset String, localDigests ⊆ localDigests' →
        placementRank (scoreOfferWithTopology offer reservations policy now job localDigests) ≤
          placementRank (scoreOfferWithTopology offer reservations policy now job localDigests')) :=
  ⟨fun _ _ hr hp => ⟨admission_covers offer now job hr hp, topology_covers hr hp⟩, fun hsmall _ _ h => rank_mono hsmall h⟩

namespace Scenario

/-- A stored input of no bytes. -/
def emptyInput (digest : String) : ArtifactRefV1 := ⟨"rampage.artifact-ref.v1", digest, 0, "text/plain", .cache, true⟩

/-- A job that requests nothing and reads an input `n` times, and then another one. -/
def inputJob (n : Nat) : JobSpecV1 :=
  { coreShard 30 "key" [] with inputs := List.replicate n (emptyInput "sha256:a") ++ [emptyInput "sha256:b"] }

end Scenario

theorem scoring_is_monotone_two_inputs :
    (scoreOfferWithTopology (Scenario.coreOffer 1 4) [] .default 0 (Scenario.coreShard 30 "key" [2]) ∅).Covers
        (scoreOfferWithTopology (Scenario.coreOffer 1 4) [⟨31, 1, .cpuCompute, 1, seconds 100⟩] .default 0
          (Scenario.coreShard 30 "key" [2]) ∅) ∧
      placementRank (scoreOfferWithTopology (Scenario.coreOffer 1 4) [] .default 0 (Scenario.inputJob 1) ∅) ≤
        placementRank (scoreOfferWithTopology (Scenario.coreOffer 1 4) [] .default 0 (Scenario.inputJob 1)
          {"sha256:b"}) :=
  ⟨((scoring_is_monotone (Scenario.coreShard 30 "key" [2]) (Scenario.coreOffer 1 4) [] .default 0).1 _ .default
      (List.nil_subperm) ⟨fun _ => le_refl _, le_refl _⟩).2 ∅,
    (scoring_is_monotone (Scenario.inputJob 1) (Scenario.coreOffer 1 4) [] .default 0).2 (by decide) ∅ {"sha256:b"}
      (Finset.empty_subset _)⟩

/-- The rank of the job with `n + 1` empty inputs on a node that holds the repeated one. -/
theorem rank_inputJob (n : Nat) {localDigests : Finset String} (ha : "sha256:a" ∈ localDigests) :
    placementRank (scoreOfferWithTopology (Scenario.coreOffer 1 4) [] .default 0 (Scenario.inputJob n) localDigests) =
      toLex (1000, toLex ((n + if "sha256:b" ∈ localDigests then 1 else 0) % 2 ^ 32, toLex (1000,
        toLex (OrderDual.toDual 0, 0)))) := by
  have hcount : ((Scenario.inputJob n).inputs.filter (·.digest ∈ localDigests)).length =
      n + if "sha256:b" ∈ localDigests then 1 else 0 := by
    by_cases hb : "sha256:b" ∈ localDigests
    · simp [Scenario.inputJob, Scenario.emptyInput, ha, hb]
    · simp [Scenario.inputJob, Scenario.emptyInput, ha, hb]
  have hmissing : (((Scenario.inputJob n).inputs.filter (·.digest ∉ localDigests)).map (·.sizeBytes)).foldl U64.satAdd 0 = 0 := by
    have hzero : (((Scenario.inputJob n).inputs.filter (·.digest ∉ localDigests)).map (·.sizeBytes)).sum = 0 := by
      refine List.sum_eq_zero fun x hx => ?_
      obtain ⟨input, hm, rfl⟩ := List.mem_map.1 hx
      rcases List.mem_append.1 (List.mem_filter.1 hm).1 with hm | hm
      · rw [List.eq_of_mem_replicate hm]
        rfl
      · rw [List.mem_singleton.1 hm]
        rfl
    have h := foldl_satAdd (((Scenario.inputJob n).inputs.filter (·.digest ∉ localDigests)).map (·.sizeBytes)) 0
    rw [hzero] at h
    exact h
  have hsatisfies : (scoreOfferWithAdmission (Scenario.coreOffer 1 4) [] .default 0 (Scenario.inputJob n)).satisfies = true :=
    rfl
  unfold scoreOfferWithTopology
  dsimp only
  rw [hcount, hmissing, if_neg (by rw [hsatisfies]; exact Bool.noConfusion)]
  rfl

/-- The count of local inputs wraps: a node that holds one more of 2 ^ 32 empty inputs holds none by its score. -/
theorem local_inputs_wrap :
    ¬ ∀ (job : JobSpecV1) (offer : ResourceOfferV1) (reservations : List ResourceReservation) (policy : AdmissionPolicy)
      (now : Int) (localDigests localDigests' : Finset String), localDigests ⊆ localDigests' →
      placementRank (scoreOfferWithTopology offer reservations policy now job localDigests) ≤
        placementRank (scoreOfferWithTopology offer reservations policy now job localDigests') := by
  intro hall
  have hle := hall (Scenario.inputJob (2 ^ 32 - 1)) (Scenario.coreOffer 1 4) [] .default 0 {"sha256:a"}
    {"sha256:a", "sha256:b"} (by simp)
  rw [rank_inputJob _ (by simp), rank_inputJob _ (by simp), if_neg (by simp), if_pos (by simp)] at hle
  have hsecond := (Prod.Lex.toLex_le_toLex'.1 hle).2 rfl
  have hcount := (Prod.Lex.toLex_le_toLex'.1 hsecond).1
  revert hcount
  decide

end Rampage.Planner
