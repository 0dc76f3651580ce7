/-
Eligible promotions on the Governor's side. `evaluate_promotion` looks at the last gate of each required name and takes
any evidence that is not empty; the Governor asks for exactly eight gates with content addresses and sets limits of its
own. `eligible_candidate_is_authorized_iff` lists what an eligible proposal must meet beyond the service's checks.
-/
import Rampage.Intelligence.Promotion

namespace Rampage.Intelligence

open Rampage.Protocol Rampage.Governor

/-! ## What an eligible proposal has passed -/

section

variable {py : Casefold} {now : Int} {proposal : ImprovementProposal} {envelope : AutonomyEnvelope}

/-- A check that passed and the rest of the checks. -/
theorem passed_of_ok {ε α : Type} {c : Prop} [Decidable c] {e : ε} {x : Except ε α} {a : α}
    (h : (if c then .error e else x) = .ok a) : ¬ c ∧ x = .ok a := by
  split at h
  · cases h
  · rename_i hc
    exact ⟨hc, h⟩

theorem checkEnvelope_ok (h : checkEnvelope py proposal envelope = .ok ()) :
    (∀ p ∈ proposal.changedPaths, isRelative p.1 = true) ∧
      classifyPaths py (proposal.changedPaths.map (·.1)) = proposal.risk ∧ proposal.risk ≠ .r3AuthorityCritical := by
  unfold checkEnvelope at h
  obtain ⟨-, h⟩ := passed_of_ok h
  obtain ⟨-, h⟩ := passed_of_ok h
  obtain ⟨-, h⟩ := passed_of_ok h
  obtain ⟨hcanonical, h⟩ := passed_of_ok h
  obtain ⟨hrisk, h⟩ := passed_of_ok h
  obtain ⟨hcritical, -⟩ := passed_of_ok h
  refine ⟨?_, not_not.1 hrisk, hcritical⟩
  intro p hp
  by_contra hrel
  refine hcanonical (List.any_eq_true.2 ⟨p.1, List.mem_map_of_mem hp, ?_⟩)
  rw [canonicalRepoPath_eq, if_neg hrel]
  rfl

theorem checkGates_ok (h : checkGates proposal envelope = .ok ()) :
    ∀ name ∈ PromotionCandidateV1.requiredGates, isMissing proposal.gates name = false := by
  unfold checkGates at h
  obtain ⟨hmissing, -⟩ := passed_of_ok h
  intro name hname
  have hnil := List.filter_eq_nil_iff.1 (not_not.1 hmissing) name hname
  simpa using hnil

/-- The candidate of an eligible proposal: the service adds only the times. -/
def candidateAt (now : Int) (proposal : ImprovementProposal) : GovernorPromotionCandidate where
  proposalId := proposal.proposalId
  projectId := proposal.projectId
  baseRevision := proposal.baseRevision
  candidateDigest := proposal.candidateDigest
  changedPaths := proposal.changedPaths
  risk := proposal.risk
  gates := proposal.gates
  requestedAt := now
  expiresAt := now + minutes 10

theorem evaluatePromotion_ok {candidate : GovernorPromotionCandidate}
    (h : evaluatePromotion py now proposal envelope = .ok candidate) :
    checkEnvelope py proposal envelope = .ok () ∧ checkGates proposal envelope = .ok () ∧
      candidate = candidateAt now proposal := by
  unfold evaluatePromotion at h
  cases henvelope : checkEnvelope py proposal envelope with
  | error e =>
    rw [henvelope] at h
    cases h
  | ok u =>
    cases hgates : checkGates proposal envelope with
    | error e =>
      rw [henvelope, hgates] at h
      cases h
    | ok v =>
      rw [henvelope, hgates] at h
      cases h
      exact ⟨rfl, rfl, rfl⟩

end

/-! ## Gates -/

section

variable {gates : List EvidenceGate}

theorem gateNamed_mem {name : String} {g : EvidenceGate} (h : gateNamed gates name = some g) :
    g ∈ gates ∧ g.name.1 = name := by
  unfold gateNamed at h
  exact ⟨List.mem_reverse.1 (List.mem_of_find?_eq_some h), by simpa using List.find?_some h⟩

/-- If no name occurs twice, every gate is the one of its name. -/
theorem gateNamed_of_nodup (hn : (gates.map (·.name.1)).Nodup) {g : EvidenceGate} (hg : g ∈ gates) :
    gateNamed gates g.name.1 = some g := by
  unfold gateNamed
  cases hfind : gates.reverse.find? (fun g' => g'.name.1 == g.name.1) with
  | none =>
    have := List.find?_eq_none.1 hfind g (List.mem_reverse.2 hg)
    simp at this
  | some g' =>
    obtain ⟨hg', hname⟩ := gateNamed_mem hfind
    rw [List.inj_on_of_nodup_map hn hg' hg hname]

/-- Eight gates that hold every required one are exactly these, each passed. -/
theorem gates_of_length (hlen : gates.length = PromotionCandidateV1.requiredGates.length)
    (hreq : ∀ name ∈ PromotionCandidateV1.requiredGates, isMissing gates name = false) :
    (gates.map (·.name.1)).toFinset.card = PromotionCandidateV1.requiredGates.length ∧
      (∀ name ∈ PromotionCandidateV1.requiredGates, name ∈ (gates.map (·.name.1)).toFinset) ∧
      ∀ g ∈ gates, g.passed = true := by
  have hmem : ∀ name ∈ PromotionCandidateV1.requiredGates, name ∈ (gates.map (·.name.1)).toFinset := by
    intro name hname
    have hpresent := hreq name hname
    unfold isMissing at hpresent
    split at hpresent
    · cases hpresent
    · rename_i g hg
      obtain ⟨hin, rfl⟩ := gateNamed_mem hg
      exact List.mem_toFinset.2 (List.mem_map_of_mem hin)
  have hsub : PromotionCandidateV1.requiredGates.toFinset ⊆ (gates.map (·.name.1)).toFinset := by
    intro name hname
    exact hmem name (List.mem_toFinset.1 hname)
  have height : PromotionCandidateV1.requiredGates.toFinset.card = PromotionCandidateV1.requiredGates.length := by
    decide
  have hle : (gates.map (·.name.1)).toFinset.card ≤ PromotionCandidateV1.requiredGates.length := by
    have hcard := List.toFinset_card_le (gates.map (·.name.1))
    rwa [List.length_map, hlen] at hcard
  have hge := Finset.card_le_card hsub
  have hcard : (gates.map (·.name.1)).toFinset.card = PromotionCandidateV1.requiredGates.length := by omega
  refine ⟨hcard, hmem, ?_⟩
  -- no name is taken twice, so the last gate of a name is its only one
  have hnodup : (gates.map (·.name.1)).Nodup := by
    refine Multiset.coe_nodup.1 (Multiset.toFinset_card_eq_card_iff_nodup.1 ?_)
    rw [Multiset.coe_card, List.length_map, hlen]
    exact hcard
  have hsame : PromotionCandidateV1.requiredGates.toFinset = (gates.map (·.name.1)).toFinset :=
    Finset.eq_of_subset_of_card_le hsub (by omega)
  intro g hg
  have hname : g.name.1 ∈ PromotionCandidateV1.requiredGates := by
    rw [← List.mem_toFinset, hsame, List.mem_toFinset]
    exact List.mem_map_of_mem hg
  have hpresent := hreq _ hname
  unfold isMissing at hpresent
  rw [gateNamed_of_nodup hnodup hg] at hpresent
  simp only [Bool.or_eq_false_iff, Bool.not_eq_false'] at hpresent
  exact hpresent.1

/-- A gate as the Governor reads it, with no digest for missing evidence. -/
def gateRead (g : EvidenceGate) : PromotionEvidenceGateV1 := ⟨g.name.1, g.passed, g.evidenceDigest.getD "", g.independent⟩

theorem mapM_readGate {l : List PromotionEvidenceGateV1} (h : gates.mapM readGate = some l) :
    l = gates.map gateRead ∧ ∀ g ∈ gates, g.evidenceDigest.isSome = true := by
  induction gates generalizing l with
  | nil =>
    cases h
    exact ⟨rfl, by simp⟩
  | cons g gates ih =>
    rw [List.mapM_cons] at h
    cases hd : g.evidenceDigest with
    | none =>
      simp [readGate, hd] at h
    | some d =>
      cases hr : gates.mapM readGate with
      | none => simp [hr] at h
      | some rest =>
        obtain ⟨rfl, hrest⟩ := ih hr
        simp only [readGate, hd, hr, Option.map_some, Option.bind_eq_bind, Option.bind_some, Option.pure_def,
          Option.some.injEq] at h
        subst h
        refine ⟨by simp [gateRead, hd], ?_⟩
        rintro g' (_ | ⟨_, hg'⟩)
        · simp [hd]
        · exact hrest g' hg'

theorem mapM_readGate_of_isSome (h : ∀ g ∈ gates, g.evidenceDigest.isSome = true) :
    gates.mapM readGate = some (gates.map gateRead) := by
  induction gates with
  | nil => rfl
  | cons g gates ih =>
    obtain ⟨d, hd⟩ := Option.isSome_iff_exists.1 (h g (List.mem_cons_self ..))
    rw [List.mapM_cons, ih fun g' hg' => h g' (List.mem_cons_of_mem _ hg')]
    simp [readGate, gateRead, hd]

end

/-! ## The Governor's answer -/

/-- What the Governor asks of a proposal beyond the checks of the service: a short ASCII base revision, between one and
32 short ASCII paths, exactly eight gates, each with a content address and the replication independent, and no
`migrations` directory at the edge of a path that decides the class. -/
def meetsGovernor (proposal : ImprovementProposal) : Bool :=
  proposal.baseRevision.1.utf8ByteSize ≤ 128 && isAscii proposal.baseRevision.1 && proposal.changedPaths != [] &&
    proposal.changedPaths.length ≤ 32 &&
    proposal.changedPaths.all (fun p => p.1.utf8ByteSize ≤ 260 && isAscii p.1) &&
    proposal.gates.length == PromotionCandidateV1.requiredGates.length &&
    proposal.gates.all (fun g => g.evidenceDigest.any isSha256Digest &&
      (g.name.1 != "g5_independent_replication" || g.independent)) &&
    !edgeMigrationsDecide (proposal.changedPaths.map fun p => normalizePath p.1)

/-- At every time in its window the candidate is a valid promotion candidate, and a Governor that trusts the project
with source and protected changes grants it a canary. -/
def IsAuthorized (candidate : GovernorPromotionCandidate) : Prop :=
  ∀ t, candidate.requestedAt ≤ t → t < candidate.expiresAt →
    ∃ c, readCandidate candidate = some c ∧ c.isValidAt t = true ∧
      ∀ (config : GovernorConfig) (sign : PromotionCanaryLeaseV1 → String) (epoch : Nat) (canaryId : Uuid) (nonce : String),
        c.projectId ∈ config.trustedAutopilotProjects → c.projectId ∈ config.autonomousProtectedProjects →
        (authorizePromotionCanaryAtEpoch config sign c epoch t canaryId nonce).isOk = true

section

variable {py : Casefold} {now : Int} {proposal : ImprovementProposal} {envelope : AutonomyEnvelope}

/-- The candidate as the Governor reads it when every gate has evidence. -/
def candidateRead (now : Int) (proposal : ImprovementProposal) : PromotionCandidateV1 where
  schema := "rampage.promotion-candidate.v1"
  proposalId := proposal.proposalId
  projectId := proposal.projectId
  baseRevision := proposal.baseRevision.1
  candidateDigest := proposal.candidateDigest.1
  changedPaths := proposal.changedPaths.map (·.1)
  risk := readRisk proposal.risk
  gates := proposal.gates.map gateRead
  requestedAt := now
  expiresAt := now + minutes 10

theorem readCandidate_iff {c : PromotionCandidateV1} : readCandidate (candidateAt now proposal) = some c ↔
    (∀ g ∈ proposal.gates, g.evidenceDigest.isSome = true) ∧ c = candidateRead now proposal := by
  unfold readCandidate
  constructor
  · intro h
    obtain ⟨l, hl, hc⟩ := Option.map_eq_some_iff.1 h
    obtain ⟨rfl, hsome⟩ := mapM_readGate hl
    exact ⟨hsome, hc.symm⟩
  · rintro ⟨hsome, rfl⟩
    show ((proposal.gates.mapM readGate).map _) = _
    rw [mapM_readGate_of_isSome hsome]
    rfl

theorem names_candidateRead : (candidateRead now proposal).gates.map (·.name) = proposal.gates.map (·.name.1) := by
  simp [candidateRead, gateRead, Function.comp_def]

/-- In its window, the candidate of an eligible proposal is valid exactly if it keeps the Governor's own limits. -/
theorem isValidAt_candidateRead_iff (hpaths : ∀ p ∈ proposal.changedPaths, isRelative p.1 = true)
    (hreq : ∀ name ∈ PromotionCandidateV1.requiredGates, isMissing proposal.gates name = false) {t : Int}
    (hfrom : now ≤ t) (hto : t < now + minutes 10) :
    (candidateRead now proposal).isValidAt t = true ↔
      proposal.baseRevision.1.utf8ByteSize ≤ 128 ∧ isAscii proposal.baseRevision.1 = true ∧ proposal.changedPaths ≠ [] ∧
        proposal.changedPaths.length ≤ 32 ∧
        (∀ p ∈ proposal.changedPaths, p.1.utf8ByteSize ≤ 260 ∧ isAscii p.1 = true) ∧
        proposal.gates.length = PromotionCandidateV1.requiredGates.length ∧
        ∀ g ∈ proposal.gates, isSha256Digest (g.evidenceDigest.getD "") = true ∧
          (g.name.1 ≠ "g5_independent_replication" ∨ g.independent = true) := by
  unfold PromotionCandidateV1.isValidAt
  rw [names_candidateRead]
  simp only [candidateRead, gateRead, Bool.and_eq_true, decide_eq_true_eq, beq_iff_eq, bne_iff_ne, ne_eq, List.map_eq_nil_iff,
    List.length_map, List.all_map, List.all_eq_true, Function.comp_apply, Bool.or_eq_true]
  constructor
  · rintro ⟨⟨⟨⟨⟨⟨⟨⟨⟨⟨⟨⟨⟨⟨-, -⟩, hsize⟩, hascii⟩, -⟩, hne⟩, hlen⟩, hchanged⟩, -⟩, -⟩, -⟩, hgates⟩, -⟩, -⟩, heach⟩
    refine ⟨of_decide_eq_true hsize, hascii, hne, hlen, ?_, hgates, ?_⟩
    · exact fun p hp => (isChangedPath_iff.1 (hchanged p hp)).2
    · exact fun g hg => ⟨(heach g hg).1.2, (heach g hg).2⟩
  · rintro ⟨hsize, hascii, hne, hlen, hchanged, hgates, heach⟩
    obtain ⟨hcard, hmem, hpassed⟩ := gates_of_length hgates hreq
    have hwindow : (now + minutes 10 - now).tdiv (seconds 1) ≤ 1800 := by
      have hten : now + minutes 10 - now = minutes 10 := by omega
      rw [hten]
      decide
    refine ⟨⟨⟨⟨⟨⟨⟨⟨⟨⟨⟨⟨⟨⟨trivial, proposal.baseRevision.2.1⟩, decide_eq_true hsize⟩, hascii⟩, proposal.candidateDigest.2⟩,
      hne⟩, hlen⟩, ?_⟩, decide_eq_true hfrom⟩, decide_eq_true hto⟩, decide_eq_true hwindow⟩, hgates⟩, hcard⟩, hmem⟩, ?_⟩
    · exact fun p hp => isChangedPath_iff.2 ⟨hpaths p hp, hchanged p hp⟩
    · exact fun g hg => ⟨⟨hpassed g hg, (heach g hg).1⟩, (heach g hg).2⟩

theorem promotionRisk_readRisk (r : RiskClass) : promotionRisk (readRisk r) = r := by
  cases r with
  | r0Configuration => rfl
  | r1AllowlistedSource => rfl
  | r2ProtectedChange => rfl
  | r3AuthorityCritical => rfl

theorem risk_candidateRead (h : proposal.risk ≠ .r3AuthorityCritical) :
    (candidateRead now proposal).risk ≠ .r3AuthorityCritical := by
  intro heq
  refine h ?_
  rw [← promotionRisk_readRisk proposal.risk]
  show promotionRisk (candidateRead now proposal).risk = _
  rw [heq]
  rfl

/-- On paths the Governor admits, the class the service found is the Governor's. -/
theorem promotionRisk_candidateRead_iff (hpaths : ∀ p ∈ proposal.changedPaths, isRelative p.1 = true)
    (hclass : classifyPaths py (proposal.changedPaths.map (·.1)) = proposal.risk)
    (hshort : ∀ p ∈ proposal.changedPaths, p.1.utf8ByteSize ≤ 260 ∧ isAscii p.1 = true) :
    promotionRisk (candidateRead now proposal).risk = classifyPromotionPaths (candidateRead now proposal).changedPaths ↔
      edgeMigrationsDecide (proposal.changedPaths.map fun p => normalizePath p.1) = false := by
  have hchanged : ∀ p ∈ proposal.changedPaths.map (·.1), isChangedPath p = true := by
    intro p hp
    obtain ⟨q, hq, rfl⟩ := List.mem_map.1 hp
    exact isChangedPath_iff.2 ⟨hpaths q hq, hshort q hq⟩
  show promotionRisk (readRisk proposal.risk) = classifyPromotionPaths (proposal.changedPaths.map (·.1)) ↔ _
  rw [promotionRisk_readRisk, ← hclass, classifyPaths_eq hchanged, classifyPromotionPaths_eq, classifyNormalized_eq_iff,
    List.map_map]
  rfl

/-- A valid candidate of a project the Governor trusts is authorized exactly if its class is the Governor's own. -/
theorem authorize_isOk_iff {c : PromotionCandidateV1} {config : GovernorConfig} {sign : PromotionCanaryLeaseV1 → String}
    {epoch : Nat} {t : Int} {canaryId : Uuid} {nonce : String} (hvalid : c.isValidAt t = true)
    (hcritical : c.risk ≠ .r3AuthorityCritical) (htrusted : c.projectId ∈ config.trustedAutopilotProjects)
    (hprotected : c.projectId ∈ config.autonomousProtectedProjects) :
    (authorizePromotionCanaryAtEpoch config sign c epoch t canaryId nonce).isOk = true ↔
      promotionRisk c.risk = classifyPromotionPaths c.changedPaths := by
  unfold authorizePromotionCanaryAtEpoch
  rw [if_neg (by simp [hvalid])]
  by_cases hrisk : promotionRisk c.risk = classifyPromotionPaths c.changedPaths
  · rw [if_neg (by simp [hrisk])]
    cases hr : c.risk with
    | r0Configuration => simp [promotionRisk, authorizePromotion, maxTraffic, Except.isOk, Except.toBool, ← hrisk, hr]
    | r1AllowlistedSource =>
      simp [promotionRisk, authorizePromotion, maxTraffic, Except.isOk, Except.toBool, ← hrisk, hr, htrusted]
    | r2ProtectedChange =>
      simp [promotionRisk, authorizePromotion, maxTraffic, Except.isOk, Except.toBool, ← hrisk, hr, hprotected]
    | r3AuthorityCritical => exact absurd hr hcritical
  · rw [if_pos hrisk]
    simp [hrisk, Except.isOk, Except.toBool]

end

/-- A Governor that trusts one project with source and protected changes. -/
def trusting (project : Uuid) : GovernorConfig :=
  { GovernorConfig.default with
    trustedAutopilotProjects := {project}
    autonomousProtectedProjects := {project} }

/-- The candidate of an eligible proposal is authorized by every Governor that trusts the project, at every time in its
window, if and only if the proposal meets what the Governor asks beyond the checks of the service. -/
theorem eligible_candidate_is_authorized_iff (py : Casefold) (now : Int) (proposal : ImprovementProposal)
    (envelope : AutonomyEnvelope) (candidate : GovernorPromotionCandidate)
    (h : evaluatePromotion py now proposal envelope = .ok candidate) :
    IsAuthorized candidate ↔ meetsGovernor proposal = true := by
  obtain ⟨henvelope, hgates, rfl⟩ := evaluatePromotion_ok h
  obtain ⟨hpaths, hclass, hcritical⟩ := checkEnvelope_ok henvelope
  have hreq := checkGates_ok hgates
  have hwindow : now < now + minutes 10 := by
    have : (0 : Int) < minutes 10 := by decide
    omega
  simp only [meetsGovernor, Bool.and_eq_true, decide_eq_true_eq, beq_iff_eq, bne_iff_ne, ne_eq, List.all_eq_true,
    Bool.or_eq_true, Bool.not_eq_true']
  constructor
  · intro hauth
    -- now, and by a Governor that trusts nothing but the project
    obtain ⟨c, hread, hvalid, hgrant⟩ := hauth now (Int.le_refl now) hwindow
    obtain ⟨hsome, rfl⟩ := readCandidate_iff.1 hread
    obtain ⟨hsize, hascii, hne, hlen, hshort, hcount, heach⟩ :=
      (isValidAt_candidateRead_iff hpaths hreq (Int.le_refl now) hwindow).1 hvalid
    have hgranted := (authorize_isOk_iff hvalid (risk_candidateRead hcritical) (Finset.mem_singleton_self _)
      (Finset.mem_singleton_self _)).1 (hgrant (trusting proposal.projectId) (fun _ => "") 0 0 ""
        (Finset.mem_singleton_self _) (Finset.mem_singleton_self _))
    refine ⟨⟨⟨⟨⟨⟨⟨hsize, hascii⟩, hne⟩, hlen⟩, hshort⟩, hcount⟩, ?_⟩,
      (promotionRisk_candidateRead_iff hpaths hclass hshort).1 hgranted⟩
    intro g hg
    obtain ⟨d, hd⟩ := Option.isSome_iff_exists.1 (hsome g hg)
    have := heach g hg
    rw [hd] at this ⊢
    exact this
  · rintro ⟨⟨⟨⟨⟨⟨⟨hsize, hascii⟩, hne⟩, hlen⟩, hshort⟩, hcount⟩, heach⟩, hedge⟩ t hfrom hto
    -- the checks of the service do not look into the digests
    have hdigest : ∀ g ∈ proposal.gates, ∃ d, g.evidenceDigest = some d ∧ isSha256Digest d = true := by
      intro g hg
      cases hd : g.evidenceDigest with
      | none =>
        have := (heach g hg).1
        rw [hd] at this
        cases this
      | some d => exact ⟨d, rfl, by simpa [hd] using (heach g hg).1⟩
    have hvalid : (candidateRead now proposal).isValidAt t = true := by
      refine (isValidAt_candidateRead_iff hpaths hreq hfrom hto).2 ⟨hsize, hascii, hne, hlen, hshort, hcount, ?_⟩
      intro g hg
      obtain ⟨d, hd, hsha⟩ := hdigest g hg
      refine ⟨?_, (heach g hg).2⟩
      rw [hd]
      exact hsha
    refine ⟨candidateRead now proposal, readCandidate_iff.2 ⟨?_, rfl⟩, hvalid, ?_⟩
    · intro g hg
      obtain ⟨d, hd, -⟩ := hdigest g hg
      rw [hd]
      rfl
    · intro config sign epoch canaryId nonce htrusted hprotected
      refine (authorize_isOk_iff hvalid (risk_candidateRead hcritical) htrusted hprotected).2 ?_
      exact (promotionRisk_candidateRead_iff hpaths hclass hshort).2 hedge

/-! ## Two proposals -/

/-- The eight required gates, passed with the given evidence and the replication independent. -/
def gatesWith (digest : String) : List EvidenceGate :=
  let gate (name : NonEmpty) : EvidenceGate := ⟨name, true, some digest, name.1 == "g5_independent_replication"⟩
  [gate ⟨"g0_schema_policy_static", by decide⟩, gate ⟨"g1_deterministic_replay", by decide⟩,
    gate ⟨"g2_quality_reliability_cost", by decide⟩, gate ⟨"g3_sealed_holdout", by decide⟩,
    gate ⟨"g4_adversarial_security", by decide⟩, gate ⟨"g5_independent_replication", by decide⟩,
    gate ⟨"g6_shadow", by decide⟩, gate ⟨"g7_canary_rollback", by decide⟩]

/-- A content address. -/
def digest : String := "sha256:ffffffffffffffffffffffffffffffffffffffffffffffffffffffffffffffff"

/-- A change of one source file with the given evidence for all its gates. -/
def sourceChange (evidence : String) : ImprovementProposal where
  proposalId := 1
  projectId := 2
  baseRevision := ⟨"abc123", by decide⟩
  candidateDigest := ⟨digest, by decide⟩
  changedPaths := [⟨"src/cache_tuning.py", by decide⟩]
  risk := .r1AllowlistedSource
  gates := gatesWith evidence

/-- The default envelope of the project. -/
def envelope : AutonomyEnvelope where
  projectId := 2
  enabled := true
  maxRisk := .r1AllowlistedSource
  allowedPathPrefixes := []
  allowProtectedChanges := false
  maxChangedPaths := 32
  maxChangedPaths_range := by decide
  requireIndependentReplication := true

theorem eligible_candidate_is_authorized_source_change : IsAuthorized (candidateAt 0 (sourceChange digest)) := by
  refine (eligible_candidate_is_authorized_iff asciiFold 0 (sourceChange digest) envelope _ ?_).2 ?_
  · decide +kernel
  · decide +kernel

/-- Evidence that is no content address passes the service, and the candidate is not authorized. -/
theorem unaddressed_evidence_is_eligible : ¬ ∀ (py : Casefold) (now : Int) (proposal : ImprovementProposal)
    (envelope : AutonomyEnvelope) (candidate : GovernorPromotionCandidate),
    evaluatePromotion py now proposal envelope = .ok candidate → IsAuthorized candidate := by
  intro h
  obtain ⟨c, hread, hvalid, -⟩ := h asciiFold 0 (sourceChange "replayed twice") envelope
    (candidateAt 0 (sourceChange "replayed twice")) (by decide +kernel) 0 (by decide) (by decide)
  obtain ⟨-, rfl⟩ := readCandidate_iff.1 hread
  revert hvalid
  decide +kernel

end Rampage.Intelligence
