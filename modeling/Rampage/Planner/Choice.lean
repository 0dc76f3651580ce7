/-
What a strategy can select. `Choice` lists the selections by strategy: a pipeline of the top group, a whole model on the
top group or on one runtime, tensor shards, replicas. `choice_of_select` is the one place where the strategies of
`plan_model_session` are unfolded; what is proved about plans goes by cases on it.
-/
import Rampage.Planner.Session

namespace Rampage.Planner

open Rampage.Protocol

/-! ## Groups -/

section

variable {request : ModelSessionRequestV1} {offers : List ResourceOfferV1} {now : Int} {group top : RuntimeGroup}
  {rest : List RuntimeGroup} {c : RuntimeCandidate}

theorem mem_runtimeGroups : group ∈ runtimeGroups offers now ↔
    ∃ c ∈ runtimeCandidates offers now, group = (c.key, (runtimeCandidates offers now).filter (·.key = c.key)) := by
  unfold runtimeGroups
  constructor
  · intro h
    obtain ⟨key, hkey, rfl⟩ := List.mem_map.1 h
    rw [List.mem_insertionSort, List.mem_dedup] at hkey
    obtain ⟨c, hc, rfl⟩ := List.mem_map.1 hkey
    exact ⟨c, hc, rfl⟩
  · rintro ⟨c, hc, rfl⟩
    refine List.mem_map.2 ⟨c.key, ?_, rfl⟩
    rw [List.mem_insertionSort, List.mem_dedup]
    exact List.mem_map_of_mem hc

/-- A ranked group is a group with only its largest runtimes. -/
theorem mem_ranking : group ∈ ranking request offers now ↔ ∃ g ∈ runtimeGroups offers now,
    group = (g.1, (Ranking.byKeyDesc (·.availableBytes) g.2).take request.maxNodes) := by
  unfold ranking rankedGroups truncatedGroups
  rw [Ranking.mem_byKeyDesc, List.mem_map]
  exact exists_congr fun g => and_congr_right fun _ => eq_comm

theorem length_le_maxNodes (h : group ∈ ranking request offers now) : group.2.length ≤ request.maxNodes := by
  obtain ⟨g, -, rfl⟩ := mem_ranking.1 h
  exact List.length_take_le _ _

/-- The runtimes of a ranked group have its key and come from the live offers. -/
theorem mem_of_ranked (h : group ∈ ranking request offers now) (hc : c ∈ group.2) :
    c ∈ runtimeCandidates offers now ∧ c.key = group.1 := by
  obtain ⟨g, hg, rfl⟩ := mem_ranking.1 h
  obtain ⟨c', -, rfl⟩ := mem_runtimeGroups.1 hg
  obtain ⟨hmem, hkey⟩ := List.mem_filter.1 (Ranking.mem_byKeyDesc.1 (List.mem_of_mem_take hc))
  exact ⟨hmem, of_decide_eq_true hkey⟩

theorem offer_mem_liveOffers (h : c ∈ runtimeCandidates offers now) : c.offer ∈ liveOffers offers now := by
  unfold runtimeCandidates at h
  obtain ⟨offer, hoffer, h⟩ := List.mem_flatMap.1 h
  obtain ⟨runtime, -, rfl⟩ := List.mem_map.1 (List.mem_filter.1 h).1
  exact hoffer

/-- The runtimes of a ranked group are in descending order. -/
theorem ranked_pairwise (h : group ∈ ranking request offers now) :
    group.2.Pairwise fun a b => b.availableBytes ≤ a.availableBytes := by
  obtain ⟨g, -, rfl⟩ := mem_ranking.1 h
  exact (Ranking.byKeyDesc_pairwise _ g.2).sublist (List.take_sublist ..)

/-- No ranked group has a greater total than the first. -/
theorem groupTotal_le_top (h : ranking request offers now = top :: rest) (hg : group ∈ ranking request offers now) :
    groupTotal group ≤ groupTotal top :=
  Ranking.le_first h (Ranking.mem_byKeyDesc.1 hg)

theorem ranking_eq_nil : ranking request offers now = [] ↔ runtimeGroups offers now = [] := by
  unfold ranking rankedGroups truncatedGroups
  rw [← List.length_eq_zero_iff, Ranking.length_byKeyDesc, List.length_map, List.length_eq_zero_iff]

end

/-! ## Strategies -/

section

variable {requiredBytes : Nat} {ranked : List RuntimeGroup} {group top : RuntimeGroup} {rest : List RuntimeGroup}
  {found : (ModelBackend × String) × RuntimeCandidate} {strategy : ComputeStrategy} {s : Selection}

theorem mem_singles : found ∈ singles requiredBytes ranked ↔
    ∃ group ∈ ranked, found.1 = group.1 ∧ found.2 ∈ group.2 ∧ requiredBytes ≤ found.2.availableBytes := by
  unfold singles
  rw [List.mem_flatMap]
  refine exists_congr fun group => and_congr_right fun _ => ?_
  constructor
  · intro h
    obtain ⟨c, hc, rfl⟩ := List.mem_map.1 h
    obtain ⟨hmem, hfits⟩ := List.mem_filter.1 hc
    exact ⟨rfl, hmem, of_decide_eq_true hfits⟩
  · rintro ⟨hkey, hmem, hfits⟩
    exact List.mem_map.2 ⟨found.2, List.mem_filter.2 ⟨hmem, decide_eq_true hfits⟩, Prod.ext hkey.symm rfl⟩

/-- No runtime of the groups fits the model on its own. -/
def NoneFits (requiredBytes : Nat) (ranked : List RuntimeGroup) : Prop :=
  ∀ group ∈ ranked, ∀ c ∈ group.2, c.availableBytes < requiredBytes

theorem noneFits_of_singles (h : singles requiredBytes ranked = []) : NoneFits requiredBytes ranked := by
  intro group hgroup c hc
  rw [← Nat.not_le]
  intro hfits
  have hmem : (group.1, c) ∈ singles requiredBytes ranked := mem_singles.2 ⟨group, hgroup, rfl, hc, hfits⟩
  rw [h] at hmem
  cases hmem

/-- What the loop of `SpeedBoost` knows of the groups it has seen. -/
structure SpeedSearch.Knows (requiredBytes : Nat) (seen : List RuntimeGroup) (search : SpeedSearch) : Prop where
  single : ∀ found, search.bestSingle = some found → found ∈ singles requiredBytes seen
  noSingle : search.bestSingle = none → NoneFits requiredBytes seen
  tensor : ∀ group speedup, search.bestDistributed = some (group, speedup) → group ∈ seen ∧
    tensorReady requiredBytes group.2 = true ∧ speedup = predictedTensorSpeedupMilli group.2
  noTensor : search.bestDistributed = none → ∀ group ∈ seen, tensorReady requiredBytes group.2 = false

theorem singles_mono {seen : List RuntimeGroup} (h : found ∈ singles requiredBytes seen) :
    found ∈ singles requiredBytes (seen ++ [group]) := by
  obtain ⟨g, hg, hrest⟩ := mem_singles.1 h
  exact mem_singles.2 ⟨g, List.mem_append_left _ hg, hrest⟩

/-- One more group. -/
theorem SpeedSearch.Knows.step {seen : List RuntimeGroup} {search : SpeedSearch} (h : search.Knows requiredBytes seen)
    (group : RuntimeGroup) : (search.step requiredBytes group).Knows requiredBytes (seen ++ [group]) := by
  have hlast : group ∈ seen ++ [group] := List.mem_append_right _ (List.mem_singleton_self _)
  constructor
  case single =>
    intro found hfound
    unfold SpeedSearch.step at hfound
    dsimp only at hfound
    split at hfound
    · exact singles_mono (h.single found hfound)
    · rename_i c hc
      split at hfound
      · cases hfound
        exact mem_singles.2 ⟨group, hlast, rfl, List.mem_of_find?_eq_some hc, of_decide_eq_true (List.find?_some hc :)⟩
      · exact singles_mono (h.single found hfound)
  case noSingle =>
    intro hnone
    unfold SpeedSearch.step at hnone
    dsimp only at hnone
    split at hnone
    · rename_i hfind
      intro g hg
      rcases List.mem_append.1 hg with hg | hg
      · exact h.noSingle hnone g hg
      · intro c hc
        rw [List.mem_singleton.1 hg] at hc
        simpa using List.find?_eq_none.1 hfind c hc
    · rename_i hfind
      split at hnone
      · cases hnone
      · -- nothing was found before, so the runtime at hand would have been taken
        rename_i hall
        rw [hnone] at hall
        exact absurd rfl hall
  case tensor =>
    intro g speedup hbest
    unfold SpeedSearch.step at hbest
    dsimp only at hbest
    split at hbest
    · rename_i hready
      cases hbest
      exact ⟨hlast, hready.1, rfl⟩
    · obtain ⟨hg, hrest⟩ := h.tensor g speedup hbest
      exact ⟨List.mem_append_left _ hg, hrest⟩
  case noTensor =>
    intro hnone g hg
    unfold SpeedSearch.step at hnone
    dsimp only at hnone
    split at hnone
    · cases hnone
    · rename_i hready
      rcases List.mem_append.1 hg with hg | hg
      · exact h.noTensor hnone g hg
      · rw [List.mem_singleton.1 hg]
        rw [hnone] at hready
        simpa using hready

/-- All groups. -/
theorem speedSearch_knows (requiredBytes : Nat) (ranked : List RuntimeGroup) :
    (speedSearch requiredBytes ranked).Knows requiredBytes ranked := by
  have hrun : ∀ (todo seen : List RuntimeGroup) (search : SpeedSearch), search.Knows requiredBytes seen →
      (todo.foldl (SpeedSearch.step requiredBytes) search).Knows requiredBytes (seen ++ todo) := by
    intro todo
    induction todo with
    | nil =>
      intro seen search h
      rw [List.append_nil]
      exact h
    | cons group todo ih =>
      intro seen search h
      rw [List.append_cons]
      exact ih _ _ (h.step group)
  refine hrun ranked [] ⟨none, none⟩ ⟨?_, ?_, ?_, ?_⟩
  · intro found h
    cases h
  · intro _ group h
    cases h
  · intro group speedup h
    cases h
  · intro _ group h
    cases h

/-- The strategy makes a pipeline of the top group. -/
def SplitsTop (requiredBytes : Nat) (top : RuntimeGroup) (rest : List RuntimeGroup) : ComputeStrategy → Prop
  | .maximumModelSize => formsPipeline top = true
  | .speedBoost =>
    (∀ group ∈ top :: rest, tensorReady requiredBytes group.2 = false) ∧ NoneFits requiredBytes (top :: rest)
  | .autonomousBalanced => NoneFits requiredBytes (top :: rest)
  | .maximumThroughput | .efficiency => False

/-- The selections a strategy can make. -/
inductive Choice (requiredBytes : Nat) (top : RuntimeGroup) (rest : List RuntimeGroup) : ComputeStrategy → Selection → Prop
  | split {strategy : ComputeStrategy} (h : SplitsTop requiredBytes top rest strategy) :
    Choice requiredBytes top rest strategy (.pipeline top)
  | wholeGroup (h : formsPipeline top = false) :
    Choice requiredBytes top rest .maximumModelSize ⟨top.1, top.2, .wholeModel, 1000⟩
  | single {strategy : ComputeStrategy} {found : (ModelBackend × String) × RuntimeCandidate}
    (hs : strategy = .speedBoost ∨ strategy = .efficiency ∨ strategy = .autonomousBalanced)
    (hnoTensor : strategy = .speedBoost → ∀ group ∈ top :: rest, tensorReady requiredBytes group.2 = false)
    (h : found ∈ singles requiredBytes (top :: rest)) : Choice requiredBytes top rest strategy (.single found)
  | tooSmall {c : RuntimeCandidate} (h : NoneFits requiredBytes (top :: rest)) (hc : c ∈ top.2) :
    Choice requiredBytes top rest .efficiency (.single (top.1, c))
  | tensor {group : RuntimeGroup} (hg : group ∈ top :: rest) (h : tensorReady requiredBytes group.2 = true) :
    Choice requiredBytes top rest .speedBoost ⟨group.1, group.2, .tensor, predictedTensorSpeedupMilli group.2⟩
  | replicas {group : RuntimeGroup} {n : Nat} (hg : group ∈ replicaGroups requiredBytes (top :: rest)) (h : group.2 ≠ []) :
    Choice requiredBytes top rest .maximumThroughput ⟨group.1, group.2, .replica, n⟩
  | noReplica {n : Nat} (h : NoneFits requiredBytes (top :: rest)) :
    Choice requiredBytes top rest .maximumThroughput ⟨top.1, top.2, .replica, n⟩

/-- The selection is a pipeline exactly if the strategy makes one of the top group. -/
theorem Choice.splitsTop_iff (h : Choice requiredBytes top rest strategy s) :
    SplitsTop requiredBytes top rest strategy ↔ s.parallelism = .pipeline := by
  cases h with
  | split h => exact ⟨fun _ => rfl, fun _ => h⟩
  | wholeGroup h =>
    refine ⟨fun hsplits => ?_, nofun⟩
    rw [SplitsTop, h] at hsplits
    cases hsplits
  | single hs _ h =>
    obtain ⟨group, hgroup, -, hmem, hfits⟩ := mem_singles.1 h
    refine ⟨fun hsplits => ?_, nofun⟩
    rcases hs with rfl | rfl | rfl
    · exact absurd hfits (Nat.not_le.2 (hsplits.2 group hgroup _ hmem))
    · exact hsplits.elim
    · exact absurd hfits (Nat.not_le.2 (hsplits group hgroup _ hmem))
  | tooSmall _ _ => exact ⟨False.elim, nofun⟩
  | tensor hg h =>
    refine ⟨fun hsplits => ?_, nofun⟩
    rw [hsplits.1 _ hg] at h
    cases h
  | replicas _ _ => exact ⟨False.elim, nofun⟩
  | noReplica _ => exact ⟨False.elim, nofun⟩

/-- If the group with the most replicas has none, no runtime fits. -/
theorem noneFits_of_replicas {best : RuntimeGroup}
    (h : Select.maxByKey (·.2.length) (replicaGroups requiredBytes ranked) = some best) (hempty : best.2.isEmpty = true) :
    NoneFits requiredBytes ranked := by
  intro group hgroup c hc
  rw [← Nat.not_le]
  intro hfits
  have hle := Select.maxByKey_le h (List.mem_map_of_mem hgroup)
  dsimp only at hle
  rw [List.isEmpty_iff.1 hempty, List.length_nil, Nat.le_zero, List.length_eq_zero_iff, List.filter_eq_nil_iff] at hle
  exact hle c hc (decide_eq_true hfits)

/-- Only the search for the smallest runtime can fail, on a group without one. -/
theorem select_isSome (hs : strategy ≠ .efficiency) : ∃ s, select requiredBytes strategy top rest = some s := by
  cases strategy with
  | maximumModelSize => exact ⟨_, rfl⟩
  | maximumThroughput => exact ⟨_, rfl⟩
  | efficiency => exact absurd rfl hs
  | speedBoost =>
    unfold select
    dsimp only
    split <;> exact ⟨_, rfl⟩
  | autonomousBalanced =>
    unfold select
    dsimp only
    split <;> exact ⟨_, rfl⟩

theorem choice_of_select (h : select requiredBytes strategy top rest = some s) : Choice requiredBytes top rest strategy s := by
  cases strategy with
  | maximumModelSize =>
    unfold select at h
    cases h
    cases hforms : formsPipeline top with
    | true => exact .split hforms
    | false => exact .wholeGroup hforms
  | speedBoost =>
    have hknows := speedSearch_knows requiredBytes (top :: rest)
    unfold select at h
    dsimp only at h
    split at h
    · rename_i group speedup hbest
      obtain ⟨hg, hready, hspeed⟩ := hknows.tensor group speedup hbest
      cases h
      rw [hspeed]
      exact .tensor hg hready
    · rename_i found hnone hfound
      cases h
      exact .single (.inl rfl) (fun _ => hknows.noTensor hnone) (hknows.single found hfound)
    · rename_i hnoTensor hnoSingle
      cases h
      exact .split ⟨hknows.noTensor hnoTensor, hknows.noSingle hnoSingle⟩
  | maximumThroughput =>
    unfold select at h
    dsimp only at h
    cases hbest : Select.maxByKey (·.2.length) (replicaGroups requiredBytes (top :: rest)) with
    | none =>
      -- there is a first group
      have hnil := Select.maxByKey_eq_none.1 hbest
      cases hnil
    | some best =>
      rw [hbest] at h
      dsimp only at h
      cases hempty : best.2.isEmpty with
      | true =>
        rw [if_pos hempty] at h
        cases h
        exact .noReplica (noneFits_of_replicas hbest hempty)
      | false =>
        rw [if_neg (by rw [hempty]; exact Bool.false_ne_true)] at h
        cases h
        refine .replicas (Select.maxByKey_mem hbest) fun hnil => ?_
        rw [hnil] at hempty
        cases hempty
  | efficiency =>
    unfold select at h
    dsimp only at h
    split at h
    · rename_i found hfound
      cases h
      exact .single (.inr (.inl rfl)) nofun (Select.minByKey_mem hfound)
    · rename_i hnone
      obtain ⟨c, hc, rfl⟩ := Option.map_eq_some_iff.1 h
      exact .tooSmall (noneFits_of_singles (Select.minByKey_eq_none.1 hnone)) (List.mem_of_mem_head? hc)
  | autonomousBalanced =>
    unfold select at h
    dsimp only at h
    split at h
    · rename_i found hfound
      cases h
      exact .single (.inr (.inr rfl)) nofun (List.mem_of_mem_head? hfound)
    · rename_i hnone
      cases h
      exact .split (noneFits_of_singles (List.head?_eq_none_iff.1 hnone))

end

/-! ## Plans -/

section

variable {request : ModelSessionRequestV1} {offers : List ResourceOfferV1} {now : Int} {plan : ModelSessionPlan}

/-- What a request selects is a choice among its ranked groups. -/
theorem choice_of_selection {s : Selection} (h : selection request offers now = some s) :
    ∃ top rest, ranking request offers now = top :: rest ∧ Choice request.requiredBytes top rest request.strategy s := by
  unfold selection at h
  cases hr : ranking request offers now with
  | nil =>
    rw [hr] at h
    cases h
  | cons top rest =>
    rw [hr] at h
    exact ⟨top, rest, rfl, choice_of_select h⟩

/-- A plan is that of a fabric without runtimes or that of a choice. -/
theorem plan_cases (h : planModelSession request offers now = some plan) :
    (ranking request offers now = [] ∧ plan = emptyPlan request offers now) ∨
    ∃ top rest s, ranking request offers now = top :: rest ∧ selection request offers now = some s ∧
      Choice request.requiredBytes top rest request.strategy s ∧ plan = s.plan request offers now := by
  unfold planModelSession at h
  by_cases hr : ranking request offers now = []
  · rw [if_pos hr] at h
    exact .inl ⟨hr, (Option.some_inj.1 h).symm⟩
  · rw [if_neg hr] at h
    obtain ⟨s, hs, rfl⟩ := Option.map_eq_some_iff.1 h
    obtain ⟨top, rest, hranking, hchoice⟩ := choice_of_selection hs
    exact .inr ⟨top, rest, s, hranking, hs, hchoice, rfl⟩

end

end Rampage.Planner
