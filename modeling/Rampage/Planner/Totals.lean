/-
The sums of the planner. `planSums` and `scoreSums` list the addends of every plain 64-bit sum that a plan and a score compute;
nothing bounds the amounts of a signed offer or of a job's inputs, so the sums can overflow. They do not exactly if the
memory of the live offers, the groups that are summed and the inputs of a served job stay below 2^64
(`planner_sums_do_not_overflow_iff`).
-/
import Rampage.Planner.Blocked
import Rampage.Planner.Capacity

namespace Rampage.Planner

open Rampage.Protocol

/-! ## Sums -/

/-- The sums of a ranking. A single group is compared with no other, so its key is not computed. -/
def rankingSums (groups : List RuntimeGroup) : List (List Nat) :=
  if groups.length < 2 then [] else groups.map (capacities ·.2)

/-- The sums of a selection: the capacity it supports, and the total of `allocate_pipeline`. -/
def Selection.sums (s : Selection) : List (List Nat) :=
  match s.parallelism with
  | .replica => []
  | .tensor => [capacities s.selected]
  | _ => [capacities s.selected, capacities s.placed]

/-- The sums of `plan_model_session` and `allocate_pipeline`. -/
def planSums (request : ModelSessionRequestV1) (offers : List ResourceOfferV1) (now : Int) : List (List Nat) :=
  (liveOffers offers now).map observedModelMemory ::
    (rankingSums (truncatedGroups request.maxNodes (runtimeGroups offers now)) ++
      ((selection request offers now).map (·.sums)).getD [])

/-- The sums of `score_offer_with_admission`: an offer that is refused is not summed for. -/
def scoreSums (offer : ResourceOfferV1) (reservations : List ResourceReservation) (policy : AdmissionPolicy) (now : Int)
    (job : JobSpecV1) : List (List Nat) :=
  if (scoreOfferWithAdmission offer reservations policy now job).satisfies then [job.inputs.map (·.sizeBytes)] else []

/-! ## Plans -/

section

variable {requiredBytes : Nat} {top : RuntimeGroup} {rest : List RuntimeGroup} {strategy : ComputeStrategy} {s : Selection}

/-- The strategy takes a group as a whole, so that its capacities are summed. -/
def TakesGroup (requiredBytes : Nat) (top : RuntimeGroup) (rest : List RuntimeGroup) : ComputeStrategy → Prop
  | .maximumModelSize => True
  | .speedBoost =>
    (∃ group ∈ top :: rest, tensorReady requiredBytes group.2 = true) ∨ NoneFits requiredBytes (top :: rest)
  | .autonomousBalanced => NoneFits requiredBytes (top :: rest)
  | .maximumThroughput | .efficiency => False

/-- A single runtime is an amount. -/
theorem sum_single_lt (c : RuntimeCandidate) : (capacities [c]).sum < 2 ^ 64 := by
  rw [capacities, List.map_singleton, List.sum_singleton]
  exact availableBytes_lt c

theorem sum_take_one_lt (runtimes : List RuntimeCandidate) : (capacities (runtimes.take 1)).sum < 2 ^ 64 := by
  cases runtimes with
  | nil => exact Nat.two_pow_pos 64
  | cons c runtimes => exact sum_single_lt c

/-- The sums of a selection are of single runtimes, or of a group that the strategy takes. -/
theorem selection_sums (h : Choice requiredBytes top rest strategy s) :
    (¬ TakesGroup requiredBytes top rest strategy ∧ ∀ l ∈ s.sums, l.sum < 2 ^ 64) ∨
    TakesGroup requiredBytes top rest strategy ∧ ∃ group ∈ top :: rest,
      ((∀ l ∈ s.sums, l.sum < 2 ^ 64) ↔ (capacities group.2).sum < 2 ^ 64) := by
  have hhead : top ∈ top :: rest := List.mem_cons_self ..
  have hpair : ∀ {a b : List Nat}, (∀ l ∈ [a, b], l.sum < 2 ^ 64) ↔ a.sum < 2 ^ 64 ∧ b.sum < 2 ^ 64 := by
    intro a b
    simp
  cases h with
  | split hsplits =>
    refine .inr ⟨?_, top, hhead, hpair.trans and_self_iff⟩
    cases strategy with
    | maximumModelSize => trivial
    | speedBoost => exact .inr hsplits.2
    | autonomousBalanced => exact hsplits
    | maximumThroughput => exact hsplits
    | efficiency => exact hsplits
  | wholeGroup _ =>
    refine .inr ⟨trivial, top, hhead, hpair.trans (and_iff_left ?_)⟩
    exact sum_take_one_lt top.2
  | single hs hnoTensor hfound =>
    obtain ⟨group, hgroup, -, hmem, hfits⟩ := mem_singles.1 hfound
    have hsome := not_noneFits hgroup hmem hfits
    refine .inl ⟨?_, hpair.2 ⟨sum_single_lt _, sum_take_one_lt _⟩⟩
    rcases hs with rfl | rfl | rfl
    · rintro (⟨tensor, htensor, hready⟩ | hnone)
      · rw [hnoTensor rfl tensor htensor] at hready
        cases hready
      · exact hsome hnone
    · exact id
    · exact hsome
  | tooSmall _ _ => exact .inl ⟨id, hpair.2 ⟨sum_single_lt _, sum_take_one_lt _⟩⟩
  | @tensor group hgroup hready =>
    exact .inr ⟨.inl ⟨group, hgroup, hready⟩, group, hgroup, List.forall_mem_singleton⟩
  | replicas _ _ => exact .inl ⟨id, nofun⟩
  | noReplica _ => exact .inl ⟨id, nofun⟩

end

section

variable {request : ModelSessionRequestV1} {offers : List ResourceOfferV1} {now : Int}

/-- The amounts that a plan adds up stay amounts. -/
structure TotalsFit (request : ModelSessionRequestV1) (offers : List ResourceOfferV1) (now : Int) : Prop where
  observed : ((liveOffers offers now).map observedModelMemory).sum < 2 ^ 64
  compared : 2 ≤ (ranking request offers now).length → ∀ group ∈ ranking request offers now,
    (capacities group.2).sum < 2 ^ 64
  taken : ∀ top, ranking request offers now = [top] → TakesGroup request.requiredBytes top [] request.strategy →
    (capacities top.2).sum < 2 ^ 64

theorem rankingSums_iff : (∀ l ∈ rankingSums (truncatedGroups request.maxNodes (runtimeGroups offers now)), l.sum < 2 ^ 64) ↔
    (2 ≤ (ranking request offers now).length → ∀ group ∈ ranking request offers now, (capacities group.2).sum < 2 ^ 64) := by
  have hlen : (ranking request offers now).length = (truncatedGroups request.maxNodes (runtimeGroups offers now)).length :=
    Ranking.length_byKeyDesc
  have hmem : ∀ group, group ∈ ranking request offers now ↔
      group ∈ truncatedGroups request.maxNodes (runtimeGroups offers now) := fun _ => Ranking.mem_byKeyDesc
  unfold rankingSums
  rw [hlen]
  split
  · rename_i hlt
    exact ⟨fun _ hle => absurd hlt (Nat.not_lt.2 hle), fun _ => nofun⟩
  · rename_i hle
    rw [List.forall_mem_map]
    simp only [hmem]
    exact ⟨fun hall _ => hall, fun hall => hall (Nat.not_lt.1 hle)⟩

theorem planSums_iff : (∀ l ∈ planSums request offers now, l.sum < 2 ^ 64) ↔ TotalsFit request offers now := by
  unfold planSums
  rw [List.forall_mem_cons, List.forall_mem_append, rankingSums_iff]
  -- a request that selects nothing forms no sum
  have hselection : (∀ l ∈ ((selection request offers now).map (·.sums)).getD [], l.sum < 2 ^ 64) ↔
      ∀ s, selection request offers now = some s → ∀ l ∈ s.sums, l.sum < 2 ^ 64 := by
    cases selection request offers now with
    | none => exact ⟨fun _ _ => nofun, fun _ => nofun⟩
    | some s =>
      refine ⟨fun h s' hs' => ?_, fun h => h s rfl⟩
      cases hs'
      exact h
  rw [hselection]
  constructor
  · rintro ⟨hobserved, hcompared, hselected⟩
    refine ⟨hobserved, hcompared, fun top hranking htakes => ?_⟩
    have hstrategy : request.strategy ≠ .efficiency := by
      intro he
      rw [he] at htakes
      exact htakes
    obtain ⟨s, hs⟩ : ∃ s, select request.requiredBytes request.strategy top [] = some s := select_isSome hstrategy
    have hs' : selection request offers now = some s := by
      unfold selection
      rw [hranking]
      exact hs
    rcases selection_sums (choice_of_select hs) with ⟨hnot, -⟩ | ⟨-, group, hgroup, hiff⟩
    · exact absurd htakes hnot
    · rw [List.mem_singleton.1 hgroup] at hiff
      exact hiff.1 (hselected s hs')
  · intro hfit
    refine ⟨hfit.observed, hfit.compared, fun s hs => ?_⟩
    obtain ⟨top, rest, hranking, hchoice⟩ := choice_of_selection hs
    -- a group alone in the ranking is compared with none, so its sum is bounded apart
    rcases selection_sums hchoice with ⟨-, hsums⟩ | ⟨htakes, group, hgroup, hiff⟩
    · exact hsums
    · rw [hiff]
      cases rest with
      | nil =>
        rw [List.mem_singleton.1 hgroup]
        exact hfit.taken top hranking htakes
      | cons next rest =>
        refine hfit.compared ?_ group (hranking ▸ hgroup)
        rw [hranking]
        exact Nat.le_add_left 2 _

end

/-! ## Scores -/

section

variable {offer : ResourceOfferV1} {reservations : List ResourceReservation} {policy : AdmissionPolicy} {now : Int}

/-- The resource that the score takes for a request serves it. -/
def ServesRequest (offer : ResourceOfferV1) (reservations : List ResourceReservation) (policy : AdmissionPolicy) (now : Int)
    (request : ResourceRequestV1) : Prop :=
  ∃ resource, resourceOf offer request.cls = some resource ∧ Governor.labelsMatch request resource = true ∧
    request.minimum ≤ admissible offer reservations policy now resource request.cls ∧ resource.unit = request.unit

theorem scoreRequests_ok_iff : ∀ {requests : List ResourceRequestV1} {headroom fit : Nat},
    (∃ r, scoreRequests offer reservations policy now requests headroom fit = .ok r) ↔
      ∀ request ∈ requests, ServesRequest offer reservations policy now request
  | [], headroom, fit => ⟨fun _ _ hmem => absurd hmem List.not_mem_nil, fun _ => ⟨_, rfl⟩⟩
  | request :: rest, headroom, fit => by
    rw [List.forall_mem_cons]
    unfold scoreRequests ServesRequest
    cases hr : resourceOf offer request.cls with
    | none =>
      constructor
      · rintro ⟨_, h⟩
        cases h
      · rintro ⟨⟨_, h, -⟩, -⟩
        cases h
    | some resource =>
      dsimp only
      by_cases hbad : ¬ Governor.labelsMatch request resource ∨
          admissible offer reservations policy now resource request.cls < request.minimum ∨ resource.unit ≠ request.unit
      · rw [if_pos hbad]
        constructor
        · rintro ⟨_, h⟩
          cases h
        · rintro ⟨⟨_, heq, hlabels, hle, hunit⟩, -⟩
          cases heq
          rcases hbad with h | h | h
          · exact absurd hlabels h
          · exact absurd hle (Nat.not_le.2 h)
          · exact absurd hunit h
      · rw [if_neg hbad, scoreRequests_ok_iff]
        push Not at hbad
        obtain ⟨hlabels, hle, hunit⟩ := hbad
        exact (and_iff_right ⟨resource, rfl, hlabels, hle, hunit⟩).symm

theorem satisfies_iff {job : JobSpecV1} : (scoreOfferWithAdmission offer reservations policy now job).satisfies = true ↔
    job.adapter ∈ offer.adapters ∧ ∀ request ∈ job.requests, ServesRequest offer reservations policy now request := by
  unfold scoreOfferWithAdmission
  by_cases hadapter : job.adapter ∈ offer.adapters
  · rw [if_neg (not_not.2 hadapter), ← @scoreRequests_ok_iff offer reservations policy now job.requests 0 U64.max]
    cases scoreRequests offer reservations policy now job.requests 0 U64.max with
    | error reason => exact ⟨nofun, fun h => nomatch h.2⟩
    | ok r => exact ⟨fun _ => ⟨hadapter, r, rfl⟩, fun _ => rfl⟩
  · rw [if_pos hadapter]
    exact ⟨nofun, fun h => absurd h.1 hadapter⟩

theorem scoreSums_iff {job : JobSpecV1} : (∀ l ∈ scoreSums offer reservations policy now job, l.sum < 2 ^ 64) ↔
    (job.adapter ∈ offer.adapters → (∀ request ∈ job.requests, ServesRequest offer reservations policy now request) →
      (job.inputs.map (·.sizeBytes)).sum < 2 ^ 64) := by
  unfold scoreSums
  rw [← and_imp, ← satisfies_iff]
  split
  · rename_i h
    exact ⟨fun hall _ => hall _ (List.mem_singleton_self _), fun hsum => List.forall_mem_singleton.2 (hsum h)⟩
  · rename_i h
    exact ⟨fun _ hserved => absurd hserved h, fun _ => nofun⟩

end

/-- No sum of a plan and of the scores of a job overflows, exactly if the totals of the plan fit and so do the inputs of the job
if some offer serves it. -/
theorem planner_sums_do_not_overflow_iff (request : ModelSessionRequestV1) (job : JobSpecV1) (offers : List ResourceOfferV1)
    (reservations : List ResourceReservation) (policy : AdmissionPolicy) (now : Int) :
    ((∀ l ∈ planSums request offers now, (U64.checkedSum l).isSome = true) ∧ ∀ offer ∈ offers,
        ∀ l ∈ scoreSums offer reservations policy now job, (U64.checkedSum l).isSome = true) ↔
      TotalsFit request offers now ∧ ∀ offer ∈ offers, job.adapter ∈ offer.adapters →
        (∀ request ∈ job.requests, ServesRequest offer reservations policy now request) →
        (job.inputs.map (·.sizeBytes)).sum < 2 ^ 64 := by
  simp only [U64.checkedSum_isSome_iff]
  exact and_congr planSums_iff (forall₂_congr fun _ _ => scoreSums_iff)

/-- Three nodes with 2^63 bytes of memory each. -/
theorem observed_memory_overflows :
    ¬ ∀ (request : ModelSessionRequestV1) (job : JobSpecV1) (offers : List ResourceOfferV1)
      (reservations : List ResourceReservation) (policy : AdmissionPolicy) (now : Int),
      request.validateAt now = .ok () → job.validateAt now = .ok () →
      (∀ l ∈ planSums request offers now, (U64.checkedSum l).isSome = true) ∧ ∀ offer ∈ offers,
        ∀ l ∈ scoreSums offer reservations policy now job, (U64.checkedSum l).isSome = true := by
  intro hall
  have hnone : (U64.checkedSum ((liveOffers (Sessions.unevenOffers 2) 0).map observedModelMemory)).isSome = false := by
    decide +kernel
  have hplan := (hall (Sessions.request .efficiency 5) (Scenario.coreShard 21 "shard" [4]) (Sessions.unevenOffers 2) []
    Scenario.openPolicy 0 (by decide +kernel) (by decide +kernel)).1 _ (List.mem_cons_self ..)
  rw [hplan] at hnone
  cases hnone

end Rampage.Planner
