/-
The promotion evaluator of the intelligence service: `classify_paths`, which must agree with the Governor's
`classify_promotion_paths`, and `evaluate_promotion`, whose eligible candidates the Governor checks again.
`classifiers_agree_iff` and `eligible_candidate_is_authorized_iff` say exactly when the two sides agree.
-/
import Rampage.Governor.Promotion
import Mathlib.Data.List.DropRight

namespace Rampage.Intelligence

open Rampage.Protocol Rampage.Governor

/-! ## Models -/

/-- Neither the first nor the last character is white space. -/
def isStripped (s : String) : Bool :=
  s.toList.head?.all (fun c => !isWhiteSpace c) && s.toList.getLast?.all fun c => !isWhiteSpace c

/-- `NonEmpty`: what a text is after validation, stripped of white space and not empty. -/
abbrev NonEmpty := {s : String // s ≠ "" ∧ isStripped s = true}

/-- `Sha256Digest`. -/
abbrev Sha256Digest := {s : String // isSha256Digest s = true}

/-- A gate of a proposal, with what it rests on. -/
structure EvidenceGate where
  name : NonEmpty
  passed : Bool
  evidenceDigest : Option String
  independent : Bool
deriving DecidableEq

/-- A change and the gates it has gone through. -/
structure ImprovementProposal where
  proposalId : Uuid
  projectId : Uuid
  baseRevision : NonEmpty
  candidateDigest : Sha256Digest
  changedPaths : List NonEmpty
  risk : RiskClass
  gates : List EvidenceGate
deriving DecidableEq

/-- What the owner lets a project change without asking. -/
structure AutonomyEnvelope where
  projectId : Uuid
  enabled : Bool
  maxRisk : RiskClass
  allowedPathPrefixes : List NonEmpty
  allowProtectedChanges : Bool
  maxChangedPaths : Nat
  maxChangedPaths_range : 1 ≤ maxChangedPaths ∧ maxChangedPaths ≤ 256
  requireIndependentReplication : Bool
deriving DecidableEq

/-- What is handed to the Governor. -/
structure GovernorPromotionCandidate where
  proposalId : Uuid
  projectId : Uuid
  baseRevision : NonEmpty
  candidateDigest : Sha256Digest
  changedPaths : List NonEmpty
  risk : RiskClass
  gates : List EvidenceGate
  requestedAt : Int
  expiresAt : Int
deriving DecidableEq

/-- `str.casefold`: the full Unicode folding, which on ASCII text is `str.lower`. -/
structure Casefold where
  fold : List Char → List Char
  ascii : ∀ cs : List Char, (∀ c ∈ cs, c.toNat < 128) → fold cs = cs.map toAsciiLowercase

/-! ## Paths -/

/-- `path.replace("\\", "/")`. -/
def replaceBackslash (cs : List Char) : List Char := cs.map fun c => if c = '\\' then '/' else c

/-- `str.split("/")`. -/
def splitSlash : List Char → List (List Char)
  | [] => [[]]
  | c :: cs =>
    if c = '/' then [] :: splitSlash cs
    else match splitSlash cs with
    | [] => [[c]]
    | segment :: rest => (c :: segment) :: rest

/-- `"/".join`. -/
def joinSlash : List (List Char) → List Char
  | [] => []
  | [segment] => segment
  | segment :: rest => segment ++ '/' :: joinSlash rest

/-- `PurePosixPath(path).as_posix()` of a relative path: empty and `.` segments are dropped. -/
def asPosix (cs : List Char) : List Char :=
  match (splitSlash cs).filter fun s => s != [] && s != ['.'] with
  | [] => ['.']
  | segments => joinSlash segments

section

variable (py : Casefold)

/-- `_canonical_repo_path`. -/
def canonicalRepoPath (path : List Char) : Option (List Char) :=
  let normalized := replaceBackslash path
  let segments := splitSlash normalized
  if normalized = [] ∨ startsWith ['/'] normalized = true ∨ ':' ∈ normalized ∨
      segments.any (fun s => s == [] || s == ['.'] || s == ['.', '.']) = true then none
  else some (py.fold (asPosix normalized))

/-- `_canonical_repo_path(path) or ""`. -/
def canonicalOrEmpty (path : String) : List Char := (canonicalRepoPath py path.toList).getD []

/-- A path of `PROTECTED_PREFIXES`, the same list as the Governor's. -/
def isAuthorityCritical (path : List Char) : Bool := authorityCritical.any fun p => startsWith p.toList path

/-- A manifest, a migration or a contract. The migrations are looked for in the path between two slashes. -/
def isProtectedPath (path : List Char) : Bool :=
  endsWith "pyproject.toml".toList path || endsWith "Cargo.toml".toList path || endsWith "package.json".toList path ||
    containsText "/migrations/".toList ('/' :: (path ++ ['/'])) || startsWith "contracts/".toList path

/-- The path lies under a directory of configuration. -/
def isConfiguration (path : List Char) : Bool :=
  startsWith "prompts/".toList path || startsWith "routing/".toList path || startsWith "cache/".toList path

/-- `classify_paths`. -/
def classifyPaths (paths : List String) : RiskClass :=
  let normalized := paths.map (canonicalOrEmpty py)
  if normalized.any isAuthorityCritical then .r3AuthorityCritical
  else if normalized.any isProtectedPath then .r2ProtectedChange
  else if normalized.all isConfiguration then .r0Configuration
  else .r1AllowlistedSource

/-! ## Evaluation -/

/-- Why a promotion is denied. -/
inductive Denied
  /-- "Proposal and autonomy envelope project identities differ" -/
  | projectsDiffer
  /-- "Autonomous promotion is disabled for this project envelope" -/
  | disabled
  /-- "Candidate exceeds the envelope's changed-path threshold" -/
  | tooManyPaths
  /-- "Candidate contains a non-canonical repository path" -/
  | nonCanonicalPath
  /-- "Declared risk .. does not match classified risk .." -/
  | riskMismatch (declared classified : RiskClass)
  /-- "Authority-critical changes are outside every autonomous envelope" -/
  | authorityCritical
  /-- "Candidate risk exceeds the autonomous envelope ceiling" -/
  | riskCeiling
  /-- "Protected changes are disabled in this autonomy envelope" -/
  | protectedDisabled
  /-- "Autonomy envelope contains a non-canonical path prefix" -/
  | nonCanonicalPrefix
  /-- "Candidate changes a path outside the autonomy envelope" -/
  | outsideEnvelope
  /-- "Required evidence gates are missing or failed" -/
  | gatesMissing (missing : List String)
  /-- "Independent replication is required by the autonomy envelope" -/
  | notIndependent
deriving DecidableEq

/-- `risk_rank`. -/
def riskRank : RiskClass → Nat
  | .r0Configuration => 0
  | .r1AllowlistedSource => 1
  | .r2ProtectedChange => 2
  | .r3AuthorityCritical => 3

/-- `{gate.name: gate for gate in proposal.gates}`: the last gate of a name stays. -/
def gateNamed (gates : List EvidenceGate) (name : String) : Option EvidenceGate :=
  gates.reverse.find? fun g => g.name.1 == name

/-- A required gate that is absent, failed or without evidence. -/
def isMissing (gates : List EvidenceGate) (name : String) : Bool :=
  match gateNamed gates name with
  | none => true
  | some g => !g.passed || g.evidenceDigest.getD "" == ""

/-- The prefixes of the envelope, without trailing separators. -/
def canonicalPrefixes (envelope : AutonomyEnvelope) : List (Option (List Char)) :=
  envelope.allowedPathPrefixes.map fun p => canonicalRepoPath py (p.1.toList.rdropWhile isSeparator)

/-- The path is one of the prefixes or below one. -/
def isAllowed (prefixes : List (List Char)) (path : List Char) : Bool :=
  prefixes.any fun p => path == p || startsWith (p ++ ['/']) path

/-- The checks of `evaluate_promotion` up to the evidence. -/
def checkEnvelope (proposal : ImprovementProposal) (envelope : AutonomyEnvelope) : Except Denied Unit :=
  let paths := proposal.changedPaths.map (·.1)
  if proposal.projectId ≠ envelope.projectId then .error .projectsDiffer
  else if envelope.enabled = false then .error .disabled
  else if envelope.maxChangedPaths < paths.length then .error .tooManyPaths
  else if paths.any (fun p => (canonicalRepoPath py p.toList).isNone) then .error .nonCanonicalPath
  else if classifyPaths py paths ≠ proposal.risk then .error (.riskMismatch proposal.risk (classifyPaths py paths))
  else if proposal.risk = .r3AuthorityCritical then .error .authorityCritical
  else if riskRank envelope.maxRisk < riskRank proposal.risk then .error .riskCeiling
  else if proposal.risk = .r2ProtectedChange ∧ envelope.allowProtectedChanges = false then .error .protectedDisabled
  else if envelope.allowedPathPrefixes = [] then .ok ()
  else if (canonicalPrefixes py envelope).any Option.isNone then .error .nonCanonicalPrefix
  else if paths.any fun p => !isAllowed ((canonicalPrefixes py envelope).filterMap id) (canonicalOrEmpty py p) then
    .error .outsideEnvelope
  else .ok ()

/-- The checks of the evidence. -/
def checkGates (proposal : ImprovementProposal) (envelope : AutonomyEnvelope) : Except Denied Unit :=
  let missing := PromotionCandidateV1.requiredGates.filter (isMissing proposal.gates)
  if missing ≠ [] then .error (.gatesMissing missing)
  else if envelope.requireIndependentReplication = true ∧
      (gateNamed proposal.gates "g5_independent_replication").any (·.independent) = false then .error .notIndependent
  else .ok ()

/-- `evaluate_promotion`, at the clock reading `now`. -/
def evaluatePromotion (now : Int) (proposal : ImprovementProposal) (envelope : AutonomyEnvelope) :
    Except Denied GovernorPromotionCandidate := do
  checkEnvelope py proposal envelope
  checkGates proposal envelope
  return {
    proposalId := proposal.proposalId
    projectId := proposal.projectId
    baseRevision := proposal.baseRevision
    candidateDigest := proposal.candidateDigest
    changedPaths := proposal.changedPaths
    risk := proposal.risk
    gates := proposal.gates
    requestedAt := now
    expiresAt := now + minutes 10 }

end

/-! ## The candidate on the Governor's side -/

/-- The risk class under its name on the wire. -/
def readRisk : RiskClass → PromotionRiskV1
  | .r0Configuration => .r0Configuration
  | .r1AllowlistedSource => .r1AllowlistedSource
  | .r2ProtectedChange => .r2ProtectedChange
  | .r3AuthorityCritical => .r3AuthorityCritical

/-- A gate without evidence is sent with `null` for its digest, which does not read as a text. -/
def readGate (g : EvidenceGate) : Option PromotionEvidenceGateV1 :=
  g.evidenceDigest.map fun digest => ⟨g.name.1, g.passed, digest, g.independent⟩

/-- A `governor_candidate` read as a `PromotionCandidateV1`. -/
def readCandidate (c : GovernorPromotionCandidate) : Option PromotionCandidateV1 :=
  (c.gates.mapM readGate).map fun gates =>
    { schema := "rampage.promotion-candidate.v1"
      proposalId := c.proposalId
      projectId := c.projectId
      baseRevision := c.baseRevision.1
      candidateDigest := c.candidateDigest.1
      changedPaths := c.changedPaths.map (·.1)
      risk := readRisk c.risk
      gates := gates
      requestedAt := c.requestedAt
      expiresAt := c.expiresAt }

/-! ## Texts -/

theorem startsWith_iff {p cs : List Char} : startsWith p cs = true ↔ p <+: cs := by
  unfold startsWith
  induction p generalizing cs with
  | nil => simp [stripPrefix]
  | cons a p ih =>
    cases cs with
    | nil => simp [stripPrefix]
    | cons c cs =>
      unfold stripPrefix
      rw [List.cons_prefix_cons]
      split
      · rename_i heq
        simpa [heq] using ih
      · rename_i hne
        simp [hne]

theorem endsWith_iff {p cs : List Char} : endsWith p cs = true ↔ p <:+ cs := by
  rw [endsWith, startsWith_iff, List.reverse_prefix]

theorem containsText_iff {p cs : List Char} : containsText p cs = true ↔ p <:+: cs := by
  induction cs with
  | nil => simp [containsText]
  | cons c cs ih => rw [containsText, Bool.or_eq_true, startsWith_iff, ih, List.infix_cons_iff]

/-- A directory name as the first or the last segment of a path, or as the whole path. -/
def isEdgeSegment (name path : List Char) : Bool :=
  startsWith (name ++ ['/']) path || endsWith ('/' :: name) path || path == name

/-- Between two slashes a directory is also found at the edges of the path. -/
theorem containsText_between (name path : List Char) :
    containsText ('/' :: (name ++ ['/'])) ('/' :: (path ++ ['/'])) =
      (containsText ('/' :: (name ++ ['/'])) path || isEdgeSegment name path) := by
  rw [Bool.eq_iff_iff]
  simp only [isEdgeSegment, Bool.or_eq_true, containsText_iff, startsWith_iff, endsWith_iff, beq_iff_eq]
  rw [List.infix_cons_iff, List.cons_prefix_cons, List.infix_concat_iff, ← List.cons_append]
  have hpre : name ++ ['/'] <+: path ++ ['/'] ↔ path = name ∨ name ++ ['/'] <+: path := by
    rw [List.prefix_concat_iff]
    simp only [List.append_cancel_right_eq, eq_comm]
  have hsuf : '/' :: name ++ ['/'] <:+ path ++ ['/'] ↔ '/' :: name <:+ path := by
    rw [← List.reverse_prefix, ← List.reverse_prefix]
    simp
  rw [hpre, hsuf]
  tauto

/-! ## Canonical paths -/

theorem splitSlash_ne_nil (cs : List Char) : splitSlash cs ≠ [] := by
  cases cs with
  | nil => simp [splitSlash]
  | cons c cs =>
    unfold splitSlash
    split
    · simp
    · split <;> simp

/-- Splitting at the replaced separators is splitting at both. -/
theorem splitSlash_replaceBackslash (cs : List Char) : splitSlash (replaceBackslash cs) = pathSegments cs := by
  induction cs with
  | nil => rfl
  | cons c cs ih =>
    have hcons : replaceBackslash (c :: cs) = (if c = '\\' then '/' else c) :: replaceBackslash cs := rfl
    rw [hcons, splitSlash, ih, pathSegments]
    by_cases hb : c = '\\'
    · simp [hb, isSeparator]
    · by_cases hs : c = '/'
      · simp [hs, isSeparator]
      · have hplain : ¬ isSeparator c = true := by simp [isSeparator, hb, hs]
        cases pathSegments cs with
        | nil => simp [hb, hs, hplain]
        | cons segment rest => simp [hb, hs, hplain]

theorem joinSlash_cons (segment : List Char) {rest : List (List Char)} (h : rest ≠ []) :
    joinSlash (segment :: rest) = segment ++ '/' :: joinSlash rest := by
  cases rest with
  | nil => exact absurd rfl h
  | cons a rest => rfl

theorem joinSlash_splitSlash (cs : List Char) : joinSlash (splitSlash cs) = cs := by
  induction cs with
  | nil => rfl
  | cons c cs ih =>
    unfold splitSlash
    split
    · rename_i hs
      rw [joinSlash_cons _ (splitSlash_ne_nil cs), ih, hs]
      rfl
    · split
      · rename_i hnil
        exact absurd hnil (splitSlash_ne_nil cs)
      · rename_i segment rest hsplit
        rw [hsplit] at ih
        cases rest with
        | nil => rw [← ih]; rfl
        | cons a rest =>
          rw [joinSlash_cons _ (by simp)] at ih ⊢
          rw [← ih]
          rfl

/-- `as_posix` changes nothing in a path without empty and `.` segments. -/
theorem asPosix_eq {cs : List Char} (h : ∀ s ∈ splitSlash cs, s ≠ [] ∧ s ≠ ['.']) : asPosix cs = cs := by
  have hfilter : (splitSlash cs).filter (fun s => s != [] && s != ['.']) = splitSlash cs := by
    rw [List.filter_eq_self]
    intro s hs
    simpa using h s hs
  unfold asPosix
  rw [hfilter]
  split
  · rename_i hnil
    exact absurd hnil (splitSlash_ne_nil cs)
  · exact joinSlash_splitSlash cs

section

variable {py : Casefold} {path : String}

/-- What both sides ask of a path, its length and alphabet apart. -/
def isRelative (path : String) : Bool :=
  path != "" && !path.toList.head?.any isSeparator && !path.toList.contains ':' &&
    (pathSegments path.toList).all fun s => s != [] && s != ['.'] && s != ['.', '.']

theorem isChangedPath_iff : isChangedPath path = true ↔
    isRelative path = true ∧ path.utf8ByteSize ≤ 260 ∧ isAscii path = true := by
  simp only [isChangedPath, isRelative, Bool.and_eq_true, decide_eq_true_eq]
  tauto

theorem startsWith_slash_replaceBackslash (cs : List Char) :
    startsWith ['/'] (replaceBackslash cs) = cs.head?.any isSeparator := by
  cases cs with
  | nil => rfl
  | cons c cs =>
    by_cases hb : c = '\\'
    · simp [replaceBackslash, startsWith, stripPrefix, isSeparator, hb]
    · by_cases hs : c = '/'
      · simp [replaceBackslash, startsWith, stripPrefix, isSeparator, hs]
      · simp [replaceBackslash, startsWith, stripPrefix, isSeparator, hb, hs, Ne.symm hs]

theorem colon_mem_replaceBackslash (cs : List Char) : ':' ∈ replaceBackslash cs ↔ ':' ∈ cs := by
  simp only [replaceBackslash, List.mem_map]
  constructor
  · rintro ⟨c, hc, heq⟩
    split at heq
    · cases heq
    · exact heq ▸ hc
  · intro h
    exact ⟨':', h, rfl⟩

/-- A path is canonical for the service if it is relative for the Governor; it is then only folded. -/
theorem canonicalRepoPath_eq : canonicalRepoPath py path.toList =
    if isRelative path then some (py.fold (replaceBackslash path.toList)) else none := by
  unfold canonicalRepoPath
  simp only [splitSlash_replaceBackslash, startsWith_slash_replaceBackslash, colon_mem_replaceBackslash]
  cases hrel : isRelative path with
  | true =>
    simp only [isRelative, Bool.and_eq_true, List.all_eq_true] at hrel
    obtain ⟨⟨⟨hne, hhead⟩, hcolon⟩, hsegments⟩ := hrel
    -- no segment is empty or a dot, so the posix form changes nothing
    have hplain : ∀ s ∈ splitSlash (replaceBackslash path.toList), s ≠ [] ∧ s ≠ ['.'] := by
      intro s hs
      rw [splitSlash_replaceBackslash] at hs
      have := hsegments s hs
      simp only [bne_iff_ne, ne_eq] at this
      exact ⟨this.1.1, this.1.2⟩
    rw [if_neg, asPosix_eq hplain]
    · rfl
    · rintro (h | h | h | h)
      · simp only [replaceBackslash, List.map_eq_nil_iff, String.toList_eq_nil_iff] at h
        simp [h] at hne
      · simp [h] at hhead
      · simp [h] at hcolon
      · obtain ⟨s, hs, hbad⟩ := List.any_eq_true.1 h
        have := hsegments s hs
        simp only [Bool.or_eq_true, beq_iff_eq] at hbad
        rcases hbad with (rfl | rfl) | rfl
        all_goals simp at this
  | false =>
    rw [if_pos]
    · rfl
    · -- a path that passes every check of the service is relative
      by_contra hno
      simp only [not_or] at hno
      obtain ⟨hne, hhead, hcolon, hsegments⟩ := hno
      have : isRelative path = true := by
        simp only [isRelative, Bool.and_eq_true, List.all_eq_true]
        refine ⟨⟨⟨?_, by simpa using hhead⟩, by simpa using hcolon⟩, ?_⟩
        · simp only [replaceBackslash, List.map_eq_nil_iff, String.toList_eq_nil_iff] at hne
          simpa using hne
        · intro s hs
          have := fun h => hsegments (List.any_eq_true.2 ⟨s, hs, h⟩)
          simpa [and_assoc] using this
      rw [hrel] at this
      cases this

theorem toNat_replaceBackslash_lt (h : isAscii path = true) : ∀ c ∈ replaceBackslash path.toList, c.toNat < 128 := by
  intro c hc
  simp only [isAscii, List.all_eq_true, decide_eq_true_eq] at h
  obtain ⟨b, hb, rfl⟩ := List.mem_map.1 hc
  split
  · decide
  · exact h b hb

/-- A path the Governor admits has the same normal form on both sides. -/
theorem canonicalOrEmpty_eq (py : Casefold) (h : isChangedPath path = true) : canonicalOrEmpty py path = normalizePath path := by
  obtain ⟨hrel, -, hascii⟩ := isChangedPath_iff.1 h
  rw [canonicalOrEmpty, canonicalRepoPath_eq, if_pos hrel, Option.getD_some,
    py.ascii _ (toNat_replaceBackslash_lt hascii), replaceBackslash, List.map_map]
  rfl

end

/-! ## The two classifiers -/

/-- What the Governor takes for a protected change. -/
def isProtectedChange (path : List Char) : Bool :=
  endsWith "pyproject.toml".toList path || endsWith "Cargo.toml".toList path || endsWith "package.json".toList path ||
    containsText "/migrations/".toList path || startsWith "contracts/".toList path

/-- The cascade both classifiers follow, on normalised paths. -/
def classifyNormalized (isProtected : List Char → Bool) (normalized : List (List Char)) : RiskClass :=
  if normalized.any isAuthorityCritical then .r3AuthorityCritical
  else if normalized.any isProtected then .r2ProtectedChange
  else if normalized.all isConfiguration then .r0Configuration
  else .r1AllowlistedSource

theorem classifyPromotionPaths_eq (paths : List String) :
    classifyPromotionPaths paths = classifyNormalized isProtectedChange (paths.map normalizePath) :=
  rfl

theorem classifyPaths_eq {py : Casefold} {paths : List String} (h : ∀ p ∈ paths, isChangedPath p = true) :
    classifyPaths py paths = classifyNormalized isProtectedPath (paths.map normalizePath) := by
  rw [← List.map_congr_left fun p hp => canonicalOrEmpty_eq py (h p hp)]
  rfl

/-- The service protects what the Governor protects, and a `migrations` directory at an edge of the path. -/
theorem isProtectedPath_eq (path : List Char) :
    isProtectedPath path = (isProtectedChange path || isEdgeSegment "migrations".toList path) := by
  have hbetween := containsText_between "migrations".toList path
  unfold isProtectedPath isProtectedChange
  rw [show "/migrations/".toList = '/' :: ("migrations".toList ++ ['/']) from rfl, hbetween]
  simp only [Bool.or_assoc, Bool.or_comm, Bool.or_left_comm]

/-- No path is authority critical or protected for the Governor, and one has `migrations` as its first or last segment:
`migrations/..`, `../migrations` or `migrations`. -/
def edgeMigrationsDecide (normalized : List (List Char)) : Bool :=
  !normalized.any isAuthorityCritical && !normalized.any isProtectedChange &&
    normalized.any (isEdgeSegment "migrations".toList)

theorem classifyNormalized_eq_iff (normalized : List (List Char)) :
    classifyNormalized isProtectedPath normalized = classifyNormalized isProtectedChange normalized ↔
      edgeMigrationsDecide normalized = false := by
  have hany : normalized.any isProtectedPath =
      (normalized.any isProtectedChange || normalized.any (isEdgeSegment "migrations".toList)) := by
    induction normalized with
    | nil => rfl
    | cons path rest ih =>
      rw [List.any_cons, List.any_cons, List.any_cons, ih, isProtectedPath_eq]
      simp only [Bool.or_assoc, Bool.or_left_comm]
  unfold classifyNormalized edgeMigrationsDecide
  rw [hany]
  cases normalized.any isAuthorityCritical with
  | true => simp
  | false =>
    cases normalized.any isProtectedChange with
    | true => simp
    | false =>
      cases normalized.any (isEdgeSegment "migrations".toList) with
      | false => simp
      | true =>
        -- the service says protected, the Governor configuration or source
        simp only [Bool.false_or, Bool.not_false, Bool.and_self, if_true, reduceCtorEq, if_false, iff_false]
        split
        · simp
        · simp

/-- On paths that a promotion candidate may name, the service and the Governor classify a change the same exactly if no
`migrations` directory at the edge of a path decides its class. -/
theorem classifiers_agree_iff (py : Casefold) (paths : List String) (h : ∀ p ∈ paths, isChangedPath p = true) :
    classifyPaths py paths = classifyPromotionPaths paths ↔ edgeMigrationsDecide (paths.map normalizePath) = false := by
  rw [classifyPaths_eq h, classifyPromotionPaths_eq]
  exact classifyNormalized_eq_iff _

/-- The folding of a service that only meets ASCII text. -/
def asciiFold : Casefold := ⟨fun cs => cs.map toAsciiLowercase, fun _ _ => rfl⟩

theorem classifiers_agree_on_sources :
    classifyPaths asciiFold ["Src\\app\\Main.py", "db/migrations/0001.sql"] =
        classifyPromotionPaths ["Src\\app\\Main.py", "db/migrations/0001.sql"] ∧
      classifyPromotionPaths ["Src\\app\\Main.py", "db/migrations/0001.sql"] = .r2ProtectedChange := by
  refine ⟨?_, by decide +kernel⟩
  refine (classifiers_agree_iff asciiFold ["Src\\app\\Main.py", "db/migrations/0001.sql"] ?_).2 ?_
  · decide +kernel
  · decide +kernel

/-- A migration at the root of the repository is a protected change for the service and allowlisted source for the
Governor. -/
theorem root_migrations_are_classified_apart : ¬ ∀ (py : Casefold) (paths : List String), paths ≠ [] → paths.length ≤ 32 →
    (∀ p ∈ paths, isChangedPath p = true) → classifyPaths py paths = classifyPromotionPaths paths := by
  intro h
  have hroot := h asciiFold ["migrations/0001.sql"] (by decide) (by decide) (by decide +kernel)
  revert hroot
  decide +kernel

end Rampage.Intelligence
