/-
What an idle fabric records. Between two instants that leave every offer, receipt, event and dividend on its side of its
threshold, two reports of one fabric have the same findings and the same metrics, whatever order the maps are iterated in,
except that the age of the newest dividend is reported in whole seconds (`diagnosticBody_eq_iff`). A scan that follows
another writes nothing exactly if that age did not move and the first scan's own records displaced no event it counted.
-/
import Rampage.Controller.Assist
import Rampage.Controller.Diagnostics

namespace Rampage.Controller

open Rampage.Protocol Rampage.Planner Rampage.Governor Handler

variable {x : DiagnosticCrates} {order order' : IterOrder} {now now' : Int} {i : DiagnosticInput}

/-- Between two instants no threshold changes side: no offer or receipt runs out, no event leaves the last fifteen minutes,
no dividend gets older than a day. -/
structure SameSides (now now' : Int) (i : DiagnosticInput) : Prop where
  offers : ∀ offer ∈ i.offers.table.values, now < offer.expiresAt ↔ now' < offer.expiresAt
  receipts : ∀ key, isFresh i.evidence now key = isFresh i.evidence now' key
  events : ∀ event ∈ i.events, isRecent now event = isRecent now' event
  dividends : ∀ event ∈ i.dividends, 24 * 60 * 60 < ageSeconds now event ↔ 24 * 60 * 60 < ageSeconds now' event

/-- Both instants see the newest dividend at the same age in whole seconds. -/
def SameSecond (now now' : Int) (dividends : List RecordedEvent) : Prop :=
  ∀ event, dividends.getLast? = some event → ageSeconds now event = ageSeconds now' event

theorem latestDividendAge_eq_iff {dividends : List RecordedEvent} :
    latestDividendAge now dividends = latestDividendAge now' dividends ↔ SameSecond now now' dividends := by
  unfold latestDividendAge SameSecond
  rcases dividends.getLast? with _ | event
  · simp
  · simp

/-! ## Codes and scopes -/

/-- The codes about the fabric as a whole. -/
def fabricCodes : List String := ["OWNER_STOP_ACTIVE", "NO_ENROLLED_CONTRIBUTORS"]

/-- The codes about one offer. -/
def offerCodes : List String :=
  ["MISSING_WORKLOAD_CAPABILITY_CONTRACT", "THERMAL_HEADROOM_CONSTRAINED", "BATTERY_RESERVE_CONSTRAINED"] ++
    ["LOOPBACK_POLLING_ONLY", "AUTHENTICATED_ROUTE_EMPTY"] ++
    ["LINK_QUALIFICATION_MISSING", "HIGH_LINK_LATENCY", "LOW_LINK_BANDWIDTH"] ++
    ["LOCAL_MODEL_INVENTORY_EMPTY"] ++ ["IDLE_CAPACITY_AVAILABLE"]

/-- The codes about the compute dividend. -/
def dividendCodes : List String :=
  ["COMPUTE_DIVIDEND_MISSING", "COMPUTE_DIVIDEND_CONTRACT_INVALID", "COMPUTE_DIVIDEND_STALE",
    "COMPUTE_DIVIDEND_TOPOLOGY_CHANGED"]

/-- The codes about what the ledger and the replicas say. -/
def evidenceCodes : List String :=
  ["REPEATED_AUTHORITY_DENIALS", "REPEATED_EXECUTION_FAILURES", "PROTECTED_ARTIFACT_UNDER_REPLICATED"]

/-- Which part of a scan a code belongs to. -/
def codePart (code : String) : Nat :=
  if fabricCodes.contains code then 0 else if code = "NODE_WITHOUT_LIVE_OFFER" then 1
  else if offerCodes.contains code then 2 else if dividendCodes.contains code then 3 else 4

@[simp] theorem diagnosticFinding_scope (severity : DiagnosticSeverity) (code scope evidence action risk : String)
    (autoEligible : Bool) (threshold : String) :
    (diagnosticFinding severity code scope evidence action risk autoEligible threshold).scope = scope := rfl

theorem pushIf_codes (c : Bool) (f : DiagnosticFinding) : ((pushIf c f).map (·.code)).Sublist [f.code] := by
  cases c
  · exact List.nil_sublist _
  · exact List.Sublist.refl _

theorem eq_of_mem_pushIf {c : Bool} {f g : DiagnosticFinding} (h : g ∈ pushIf c f) : g = f := by
  cases c
  · simp [pushIf] at h
  · simpa [pushIf] using h

theorem fabricFindings_codes (i : DiagnosticInput) : ((fabricFindings i).map (·.code)).Sublist fabricCodes := by
  unfold fabricFindings
  rw [List.map_append]
  exact (pushIf_codes _ _).append (pushIf_codes _ _)

theorem evidenceFindings_codes (denials failures under : Nat) :
    ((evidenceFindings denials failures under).map (·.code)).Sublist evidenceCodes := by
  unfold evidenceFindings
  rw [List.map_append, List.map_append]
  exact ((pushIf_codes _ _).append (pushIf_codes _ _)).append (pushIf_codes _ _)

theorem offerFindings_codes (x : DiagnosticCrates) (offer : ResourceOfferV1) :
    ((offerFindings x offer).map (·.code)).Sublist offerCodes := by
  have hroute : ((routeFindings offer).map (·.code)).Sublist ["LOOPBACK_POLLING_ONLY", "AUTHENTICATED_ROUTE_EMPTY"] := by
    unfold routeFindings
    split
    · exact List.Sublist.cons_cons _ (List.nil_sublist _)
    · exact (pushIf_codes _ _).cons _
  have hlink : ((linkFindings x offer).map (·.code)).Sublist
      ["LINK_QUALIFICATION_MISSING", "HIGH_LINK_LATENCY", "LOW_LINK_BANDWIDTH"] := by
    unfold linkFindings
    split
    · exact List.Sublist.cons_cons _ (List.nil_sublist _)
    · rw [List.map_append]
      exact ((pushIf_codes _ _).append (pushIf_codes _ _)).cons _
  unfold offerFindings
  simp only [List.map_append]
  exact ((((((pushIf_codes _ _).append (pushIf_codes _ _)).append (pushIf_codes _ _)).append hroute).append hlink).append
    (pushIf_codes _ _)).append (pushIf_codes _ _)

theorem offerFindings_scope {offer : ResourceOfferV1} {f : DiagnosticFinding} (h : f ∈ offerFindings x offer) :
    f.scope = Uuid.hyphenated offer.nodeId := by
  unfold offerFindings at h
  simp only [List.mem_append] at h
  rcases h with (((((h | h) | h) | h) | h) | h) | h
  · rw [eq_of_mem_pushIf h, diagnosticFinding_scope]
  · rw [eq_of_mem_pushIf h, diagnosticFinding_scope]
  · rw [eq_of_mem_pushIf h, diagnosticFinding_scope]
  · unfold routeFindings at h
    split at h
    · rw [List.mem_singleton.1 h, diagnosticFinding_scope]
    · rw [eq_of_mem_pushIf h, diagnosticFinding_scope]
  · unfold linkFindings at h
    split at h
    · rw [List.mem_singleton.1 h, diagnosticFinding_scope]
    · rcases List.mem_append.1 h with h | h
      · rw [eq_of_mem_pushIf h, diagnosticFinding_scope]
      · rw [eq_of_mem_pushIf h, diagnosticFinding_scope]
  · rw [eq_of_mem_pushIf h, diagnosticFinding_scope]
  · rw [eq_of_mem_pushIf h, diagnosticFinding_scope]

/-- The newest dividend gives at most one finding. -/
theorem dividendFindings_cases (now : Int) (liveOffers : Nat) (ids : Finset Uuid) (dividends : List RecordedEvent) :
    dividendFindings now liveOffers ids dividends = [] ∨
      ∃ f, f.code ∈ dividendCodes ∧ dividendFindings now liveOffers ids dividends = [f] := by
  have hpush : ∀ (c : Bool) (f : DiagnosticFinding), f.code ∈ dividendCodes →
      pushIf c f = [] ∨ ∃ g, g.code ∈ dividendCodes ∧ pushIf c f = [g] := by
    intro c f hf
    cases c
    · exact Or.inl rfl
    · exact Or.inr ⟨f, hf, rfl⟩
  unfold dividendFindings
  split
  · exact hpush _ _ (by simp [dividendCodes, diagnosticFinding])
  · split
    · exact Or.inr ⟨_, by simp [dividendCodes, diagnosticFinding], rfl⟩
    · split
      · exact Or.inr ⟨_, by simp [dividendCodes, diagnosticFinding], rfl⟩
      · exact hpush _ _ (by simp [dividendCodes, diagnosticFinding])

/-- Of two findings with distinct codes in a list, the code tells which is which. -/
theorem eq_of_code_eq {l : List DiagnosticFinding} {codes : List String} (hl : (l.map (·.code)).Sublist codes)
    (hcodes : codes.Nodup) {f g : DiagnosticFinding} (hf : f ∈ l) (hg : g ∈ l) (h : f.code = g.code) : f = g :=
  List.inj_on_of_nodup_map (hl.nodup hcodes) hf hg h

theorem codePart_of_sublist {l : List DiagnosticFinding} {codes : List String} {part : Nat}
    (hl : (l.map (·.code)).Sublist codes) (hcodes : codes.all (fun code => codePart code == part) = true)
    {f : DiagnosticFinding} (hf : f ∈ l) : codePart f.code = part :=
  eq_of_beq (List.all_eq_true.1 hcodes _ (hl.subset (List.mem_map_of_mem hf)))

/-! ## One finding for a code and a scope -/

/-- The parts of a scan. -/
theorem mem_findings {f : DiagnosticFinding} : f ∈ i.findings x order now ↔
    f ∈ fabricFindings i ∨ (∃ nodeId ∈ i.nodes.keys, nodeId ∉ i.liveNodeIds order now ∧ nodeFinding nodeId = f) ∨
      (∃ offer ∈ i.liveOffers order now, f ∈ offerFindings x offer) ∨
      f ∈ dividendFindings now (i.liveOffers order now).length (i.liveNodeIds order now) i.dividends ∨
      f ∈ evidenceFindings (recentDenials now i.events) (recentFailedReceipts now i.events) (i.underReplicated order now) := by
  unfold DiagnosticInput.findings
  simp only [List.mem_append, List.mem_map, List.mem_filter, IterOrder.mem_apply, List.mem_flatMap, decide_eq_true_eq,
    or_assoc, and_assoc]

theorem mem_liveOffers {offer : ResourceOfferV1} :
    offer ∈ i.liveOffers order now ↔ offer ∈ i.offers.table.values ∧ now < offer.expiresAt := by
  unfold DiagnosticInput.liveOffers
  rw [List.mem_filter, IterOrder.mem_apply, decide_eq_true_eq]

/-- The offers of every state the controller reaches are such a table. -/
theorem offerTable_exec (cfg : Config) (peers : Peers) (w : World) (epoch : Nat) (head : String → Except String ArtifactRefV1)
    (acts : List Act) : ∃ t : OfferTable, t.table = ((fabric cfg peers w).exec acts (.initial epoch head)).desk.offers :=
  ⟨⟨_, (traced_exec epoch head acts).keyed⟩, rfl⟩

/-- An offer is filed under its node, so the node tells which offer it is. -/
theorem offer_eq_of_nodeId {t : OfferTable} {offer offer' : ResourceOfferV1} (h : offer ∈ t.table.values)
    (h' : offer' ∈ t.table.values) (hn : offer.nodeId = offer'.nodeId) : offer = offer' := by
  obtain ⟨key, hk⟩ := (Table.mem_values _ _).1 h
  obtain ⟨key', hk'⟩ := (Table.mem_values _ _).1 h'
  have hkeys : key = key' := by rw [← t.keyed key offer hk, ← t.keyed key' offer' hk', hn]
  rw [hkeys, hk'] at hk
  exact (Option.some.inj hk).symm

theorem nodeFinding_part (nodeId : Uuid) : codePart (nodeFinding nodeId).code = 1 := by
  have h : codePart "NODE_WITHOUT_LIVE_OFFER" = 1 := by decide
  exact h

/-- Which part of the scan a finding is from shows in its code. -/
theorem codePart_of_mem {f : DiagnosticFinding} (h : f ∈ i.findings x order now) :
    codePart f.code = 0 ∧ f ∈ fabricFindings i ∨
      codePart f.code = 1 ∧ (∃ nodeId, nodeFinding nodeId = f) ∨
      codePart f.code = 2 ∧ (∃ offer ∈ i.liveOffers order now, f ∈ offerFindings x offer) ∨
      codePart f.code = 3 ∧ f ∈ dividendFindings now (i.liveOffers order now).length (i.liveNodeIds order now) i.dividends ∨
      codePart f.code = 4 ∧ f ∈ evidenceFindings (recentDenials now i.events) (recentFailedReceipts now i.events)
        (i.underReplicated order now) := by
  rcases mem_findings.1 h with h | ⟨nodeId, -, -, rfl⟩ | ⟨offer, ho, h⟩ | h | h
  · exact Or.inl ⟨codePart_of_sublist (fabricFindings_codes i) (by decide) h, h⟩
  · exact Or.inr (Or.inl ⟨nodeFinding_part nodeId, nodeId, rfl⟩)
  · exact Or.inr (Or.inr (Or.inl ⟨codePart_of_sublist (offerFindings_codes x offer) (by decide) h, offer, ho, h⟩))
  · refine Or.inr (Or.inr (Or.inr (Or.inl ⟨?_, h⟩)))
    rcases dividendFindings_cases now (i.liveOffers order now).length (i.liveNodeIds order now) i.dividends
      with hnil | ⟨g, hg, hone⟩
    · rw [hnil] at h
      cases h
    · rw [hone, List.mem_singleton] at h
      have hall : dividendCodes.all (fun code => codePart code == 3) = true := by decide
      rw [h]
      exact eq_of_beq (List.all_eq_true.1 hall _ hg)
  · exact Or.inr (Or.inr (Or.inr (Or.inr ⟨codePart_of_sublist (evidenceFindings_codes _ _ _) (by decide) h, h⟩)))

/-- No two findings of a scan share severity, code and scope. -/
theorem findings_key {f g : DiagnosticFinding} (hf : f ∈ i.findings x order now) (hg : g ∈ i.findings x order now)
    (h : f.sortKey = g.sortKey) : f = g := by
  have hinner := congrArg (fun key => (ofLex key).2) h
  have hcode : f.code = g.code := congrArg (fun key => (ofLex key).1) hinner
  have hscope : f.scope = g.scope := congrArg (fun key => (ofLex key).2) hinner
  -- the parts of a scan use different codes, so both findings are of one part
  rcases codePart_of_mem hf with ⟨pf, hf⟩ | ⟨pf, hf⟩ | ⟨pf, hf⟩ | ⟨pf, hf⟩ | ⟨pf, hf⟩ <;>
    rcases codePart_of_mem hg with ⟨pg, hg⟩ | ⟨pg, hg⟩ | ⟨pg, hg⟩ | ⟨pg, hg⟩ | ⟨pg, hg⟩ <;>
    first
      | (rw [hcode, pg] at pf; omega)
      | skip
  · exact eq_of_code_eq (fabricFindings_codes i) (by decide) hf hg hcode
  · obtain ⟨nodeId, rfl⟩ := hf
    obtain ⟨nodeId', rfl⟩ := hg
    have hs : Uuid.hyphenated nodeId = Uuid.hyphenated nodeId' := hscope
    unfold nodeFinding
    rw [hs]
  · obtain ⟨offer, ho, hf⟩ := hf
    obtain ⟨offer', ho', hg⟩ := hg
    rw [offerFindings_scope hf, offerFindings_scope hg] at hscope
    have hsame : offer = offer' :=
      offer_eq_of_nodeId (mem_liveOffers.1 ho).1 (mem_liveOffers.1 ho').1 (Uuid.hyphenated_injective hscope)
    rw [← hsame] at hg
    exact eq_of_code_eq (offerFindings_codes x offer) (by decide) hf hg hcode
  · rcases dividendFindings_cases now (i.liveOffers order now).length (i.liveNodeIds order now) i.dividends
      with hnil | ⟨only, -, hone⟩
    · rw [hnil] at hf
      cases hf
    · rw [hone, List.mem_singleton] at hf hg
      rw [hf, hg]
  · exact eq_of_code_eq (evidenceFindings_codes _ _ _) (by decide) hf hg hcode

/-! ## Two reports of one fabric -/

theorem liveOffers_perm (h : SameSides now now' i) (order order' : IterOrder) :
    (i.liveOffers order now).Perm (i.liveOffers order' now') := by
  unfold DiagnosticInput.liveOffers
  have hsides : ∀ offer ∈ order'.apply i.offers.table.values,
      decide (now < offer.expiresAt) = decide (now' < offer.expiresAt) :=
    fun offer ho => decide_eq_decide.2 (h.offers offer (order'.mem_apply.1 ho))
  rw [← List.filter_congr hsides]
  exact ((order.perm _).trans (order'.perm _).symm).filter _

theorem liveNodeIds_eq (h : SameSides now now' i) (order order' : IterOrder) :
    i.liveNodeIds order now = i.liveNodeIds order' now' :=
  List.toFinset_eq_of_perm _ _ ((liveOffers_perm h order order').map _)

theorem protectedDigests_perm (i : DiagnosticInput) (order order' : IterOrder) :
    (i.protectedDigests order).Perm (i.protectedDigests order') := by
  unfold DiagnosticInput.protectedDigests
  exact ((((order.perm _).trans (order'.perm _).symm).filter _).map _).dedup

theorem evidencedReplicas_eq (h : SameSides now now' i) (order order' : IterOrder) (digest : String) :
    i.evidencedReplicas order now digest = i.evidencedReplicas order' now' digest := by
  unfold DiagnosticInput.evidencedReplicas
  simp only [h.receipts]
  exact ((order.perm _).trans (order'.perm _).symm).countP_eq _

theorem underReplicated_eq (h : SameSides now now' i) (order order' : IterOrder) :
    i.underReplicated order now = i.underReplicated order' now' := by
  unfold DiagnosticInput.underReplicated
  simp only [evidencedReplicas_eq h order order']
  exact (protectedDigests_perm i order order').countP_eq _

theorem satAdd_right_comm (a b c : Nat) : U64.satAdd (U64.satAdd a b) c = U64.satAdd (U64.satAdd a c) b := by
  simp only [U64.satAdd, Nat.min_def]
  split_ifs <;> omega

/-- The saturating sums do not depend on the order of the offers. -/
theorem availableResources_eq {l l' : List ResourceOfferV1} (h : l.Perm l') : availableResources l = availableResources l' := by
  unfold availableResources
  congr 1
  funext cls
  have hp := (h.flatMap_right (·.resources)).filter (·.cls == cls)
  have hsum := (hp.map (·.available)).foldl_eq' (f := U64.satAdd) (fun a _ b _ z => satAdd_right_comm z a b) 0
  split
  case h_1 hnil =>
    rw [hnil] at hp
    rw [hp.symm.eq_nil]
  case h_2 hne =>
    rw [hsum]
    split
    case h_1 hnil =>
      rw [hnil] at hp
      exact absurd hp.eq_nil hne
    case h_2 => rfl

/-- The age of the newest dividend apart, it is found or not found for the same reason. -/
theorem dividendFindings_eq (h : SameSides now now' i) (liveOffers : Nat) (ids : Finset Uuid) :
    dividendFindings now liveOffers ids i.dividends = dividendFindings now' liveOffers ids i.dividends := by
  unfold dividendFindings
  rcases hlast : i.dividends.getLast? with _ | latest
  · rfl
  · have hage := h.dividends latest (List.mem_of_getLast? hlast)
    rcases hnodes : latest.dividendNodes with _ | nodes
    · simp only [hnodes]
    · simp only [hnodes]
      rw [if_congr hage rfl rfl]

/-- The findings are pushed in another order. -/
theorem findings_perm (h : SameSides now now' i) (order order' : IterOrder) {n : Nat} {es : List RecordedEvent}
    (hd : recentDenials now i.events = recentDenials now' es)
    (hf : recentFailedReceipts now i.events = recentFailedReceipts now' es) :
    (i.findings x order now).Perm ({ i with activeAssignments := n, events := es }.findings x order' now') := by
  have hids : i.liveNodeIds order now = { i with activeAssignments := n, events := es }.liveNodeIds order' now' :=
    liveNodeIds_eq h order order'
  have hlive : (i.liveOffers order now).Perm ({ i with activeAssignments := n, events := es }.liveOffers order' now') :=
    liveOffers_perm h order order'
  have hunder : i.underReplicated order now = { i with activeAssignments := n, events := es }.underReplicated order' now' :=
    underReplicated_eq h order order'
  unfold DiagnosticInput.findings
  rw [hids, hlive.length_eq, hd, hf, hunder, dividendFindings_eq h]
  have hnodes : (order.apply i.nodes.keys).Perm (order'.apply i.nodes.keys) := (order.perm _).trans (order'.perm _).symm
  exact ((((List.Perm.refl _).append ((hnodes.filter _).map _)).append (hlive.flatMap_right _)).append
    (List.Perm.refl _)).append (List.Perm.refl _)

/-- Two reports of one fabric are equal exactly if the counts and the age they carry are. -/
theorem diagnosticBody_eq_iff (h : SameSides now now' i) (x : DiagnosticCrates) (order order' : IterOrder) (n : Nat)
    (es : List RecordedEvent) :
    diagnosticBody x order now i = diagnosticBody x order' now' { i with activeAssignments := n, events := es } ↔
      SameSecond now now' i.dividends ∧ i.activeAssignments = n ∧ recentDenials now i.events = recentDenials now' es ∧
        recentFailedReceipts now i.events = recentFailedReceipts now' es := by
  constructor
  · intro heq
    have hm := congrArg DiagnosticBody.metrics heq
    exact ⟨latestDividendAge_eq_iff.1 (congrArg DiagnosticMetrics.latestDividendAgeSeconds hm),
      congrArg DiagnosticMetrics.activeAssignments hm, congrArg DiagnosticMetrics.recentDenials hm,
      congrArg DiagnosticMetrics.recentFailedReceipts hm⟩
  · rintro ⟨hage, hn, hd, hf⟩
    have hfound : sortFindings (i.findings x order now) =
        sortFindings ({ i with activeAssignments := n, events := es }.findings x order' now') :=
      Ranking.byKey_eq_of_perm (fun _ hf _ hg hk => findings_key hf hg hk) (findings_perm h order order' hd hf)
    have hmetrics : i.metrics order now = { i with activeAssignments := n, events := es }.metrics order' now' := by
      have hlive : (i.liveOffers order now).Perm ({ i with activeAssignments := n, events := es }.liveOffers order' now') :=
        liveOffers_perm h order order'
      have hunder : i.underReplicated order now =
          { i with activeAssignments := n, events := es }.underReplicated order' now' := underReplicated_eq h order order'
      have hprotected : (i.protectedDigests order).length =
          ({ i with activeAssignments := n, events := es }.protectedDigests order').length :=
        (protectedDigests_perm i order order').length_eq
      unfold DiagnosticInput.metrics
      rw [hlive.length_eq, hunder, hprotected, hn, hd, hf, latestDividendAge_eq_iff.2 hage, availableResources_eq hlive]
    unfold diagnosticBody
    rw [hfound, hmetrics]

/-! ## A scan and the one after it -/

/-- The record of a scan: not one of the events that scans count. -/
def isOwnRecord (event : RecordedEvent) : Bool :=
  ["diagnostic.autonomy.applied", "diagnostic.self_scan.completed"].contains event.eventType

/-- A state after a scan wrote these records and left this report and these constraints. -/
def Scan.after (s : ScanState) (own : List RecordedEvent) (constraints : AutonomousConstraints) (digest : Option String) :
    ScanState :=
  { s with
    ledger := s.ledger ++ own
    appends := s.appends + own.length
    autonomousConstraints := constraints
    diagnosticDigest := digest }

variable {y : ScanWorld} {s t : ScanState}

theorem Scan.append_ok {eventType subjectId failure : String} (h : Scan.append y eventType subjectId failure s = (.ok (), t)) :
    t = Scan.after s [⟨y.stamp s.appends, eventType, subjectId, none, none⟩] s.autonomousConstraints s.diagnosticDigest := by
  unfold Scan.append at h
  split at h
  · cases h
    rfl
  · cases h

theorem Scan.applyConstraints_ok {constraints : AutonomousConstraints}
    (h : Scan.applyConstraints y constraints s = (.ok (), t)) :
    ∃ own, t = Scan.after s own constraints s.diagnosticDigest ∧ (own = [] ↔ s.autonomousConstraints = constraints) ∧
      own.length ≤ 1 ∧ own.all isOwnRecord = true := by
  unfold Scan.applyConstraints at h
  rw [get_bind] at h
  by_cases hc : s.autonomousConstraints = constraints
  · rw [if_neg (not_not.2 hc)] at h
    refine ⟨[], ?_, by simp [hc], Nat.zero_le _, rfl⟩
    rw [← (pure_ok h).2, ← hc]
    simp [Scan.after]
  · rw [if_pos hc] at h
    obtain ⟨_, s₁, happend, h⟩ := bind_ok h
    refine ⟨[⟨y.stamp s.appends, "diagnostic.autonomy.applied", constraints.evidenceDigest, none, none⟩], ?_, by simp [hc],
      le_refl _, rfl⟩
    rw [Scan.append_ok happend] at h
    cases h
    rfl

theorem Scan.recordReport_ok {report : FabricDiagnosticReport} (h : Scan.recordReport y report s = (.ok (), t)) :
    ∃ own, t = Scan.after s own s.autonomousConstraints (some report.evidenceDigest) ∧
      (own = [] ↔ s.diagnosticDigest = some report.evidenceDigest) ∧ own.length ≤ 1 ∧ own.all isOwnRecord = true := by
  unfold Scan.recordReport at h
  rw [get_bind] at h
  by_cases hc : s.diagnosticDigest = some report.evidenceDigest
  · rw [if_neg (not_not.2 hc)] at h
    refine ⟨[], ?_, by simp [hc], Nat.zero_le _, rfl⟩
    rw [← (pure_ok h).2, ← hc]
    simp [Scan.after]
  · rw [if_pos hc] at h
    obtain ⟨_, s₁, happend, h⟩ := bind_ok h
    refine ⟨[⟨y.stamp s.appends, "diagnostic.self_scan.completed", report.evidenceDigest, none, none⟩], ?_, by simp [hc],
      le_refl _, rfl⟩
    rw [Scan.append_ok happend] at h
    cases h
    rfl

/-- What an answered scan leaves: its constraints, its digest, and at most two records of its own, none if both were there. -/
theorem Scan.refreshDiagnostics_ok (h : Scan.refreshDiagnostics y order now s = (.ok (), t)) :
    let report := buildDiagnosticReport y.toDiagnosticCrates order now (Scan.input now s)
    ∃ own, t = Scan.after s own (deriveAutonomousConstraints y.governor report) (some report.evidenceDigest) ∧
      (own = [] ↔ s.autonomousConstraints = deriveAutonomousConstraints y.governor report ∧
        s.diagnosticDigest = some report.evidenceDigest) ∧
      own.length ≤ 2 ∧ own.all isOwnRecord = true := by
  intro report
  unfold Scan.refreshDiagnostics at h
  rw [get_bind] at h
  obtain ⟨_, s₁, hconstraints, hreport⟩ := bind_ok h
  obtain ⟨own, rfl, hown, hlen, hrecords⟩ := Scan.applyConstraints_ok hconstraints
  obtain ⟨own', rfl, hown', hlen', hrecords'⟩ := Scan.recordReport_ok hreport
  refine ⟨own ++ own', ?_, ?_, ?_, ?_⟩
  · simp only [Scan.after, List.append_assoc, List.length_append, Nat.add_assoc]
    rfl
  · rw [List.append_eq_nil_iff, hown, hown']
    rfl
  · rw [List.length_append]
    omega
  · rw [List.all_append, hrecords, hrecords', Bool.and_self]

/-- A scan writes nothing exactly if its constraints and its digest are in place. -/
theorem Scan.refreshDiagnostics_idle_iff :
    Scan.refreshDiagnostics y order now s = (.ok (), s) ↔
      s.autonomousConstraints = deriveAutonomousConstraints y.governor
          (buildDiagnosticReport y.toDiagnosticCrates order now (Scan.input now s)) ∧
        s.diagnosticDigest = some (buildDiagnosticReport y.toDiagnosticCrates order now (Scan.input now s)).evidenceDigest := by
  constructor
  · intro h
    obtain ⟨own, hs, hown, -, -⟩ := Scan.refreshDiagnostics_ok h
    have happends : s.appends = s.appends + own.length := congrArg ScanState.appends hs
    exact hown.1 (List.length_eq_zero_iff.1 (by omega))
  · rintro ⟨hc, hd⟩
    have hconstraints : Scan.applyConstraints y (deriveAutonomousConstraints y.governor
        (buildDiagnosticReport y.toDiagnosticCrates order now (Scan.input now s))) s = (.ok (), s) := by
      unfold Scan.applyConstraints
      rw [get_bind, if_neg (not_not.2 hc)]
      rfl
    unfold Scan.refreshDiagnostics
    rw [get_bind, bind_of_ok hconstraints]
    unfold Scan.recordReport
    rw [get_bind, if_neg (not_not.2 hd)]
    rfl

/-- The events the first of two scans read and its own records pushed out of the reach of the second. -/
def Scan.displaced (s t : ScanState) : List RecordedEvent :=
  (Scan.latest 512 s.ledger).take ((Scan.latest 512 s.ledger).length + (t.ledger.length - s.ledger.length) - 512)

theorem Scan.latest_append {n : Nat} {l own : List RecordedEvent} (h : own.length ≤ n) :
    Scan.latest n (l ++ own) = (Scan.latest n l).drop ((Scan.latest n l).length + own.length - n) ++ own := by
  have hlen : (Scan.latest n l).length = l.length - (l.length - n) := List.length_drop
  have hindex : l.length - n + ((Scan.latest n l).length + own.length - n) = l.length + own.length - n := by
    omega
  unfold Scan.latest at *
  rw [List.drop_drop, hindex, List.length_append, List.drop_append_of_le_length (by omega)]

/-- Without what is left out, a count is the same exactly if nothing counted is left out. -/
theorem countP_drop_append_eq_iff {p : RecordedEvent → Bool} {l own : List RecordedEvent} {n : Nat}
    (hown : own.countP p = 0) : l.countP p = (l.drop n ++ own).countP p ↔ ∀ event ∈ l.take n, p event = false := by
  have hsplit : l.countP p = (l.take n).countP p + (l.drop n).countP p := by
    rw [← List.countP_append, List.take_append_drop]
  rw [List.countP_append, hown, hsplit]
  constructor
  · intro h event he
    have hzero : (l.take n).countP p = 0 := by omega
    exact Bool.eq_false_iff.2 (List.countP_eq_zero.1 hzero event he)
  · intro h
    have hzero : (l.take n).countP p = 0 := List.countP_eq_zero.2 fun event he => by rw [h event he]; decide
    omega

theorem isOwnRecord_uncounted {event : RecordedEvent} (h : isOwnRecord event = true) :
    isDenial event = false ∧ isFailedReceipt event = false ∧ (event.eventType == "fabric.dividend.recorded") = false := by
  unfold isOwnRecord at h
  simp only [List.contains_cons, List.contains_nil, Bool.or_false, Bool.or_eq_true, beq_iff_eq] at h
  rcases h with h | h
  · unfold isDenial isFailedReceipt
    rw [h]
    exact ⟨rfl, rfl, rfl⟩
  · unfold isDenial isFailedReceipt
    rw [h]
    exact ⟨rfl, rfl, rfl⟩

/-- What the scan after another reads: of what the first read only the events differ, and the count of assignments. -/
theorem Scan.input_after {own : List RecordedEvent} (h : own.all isOwnRecord = true) (constraints : AutonomousConstraints)
    (digest : Option String) :
    Scan.input now' (Scan.after s own constraints digest) =
      { Scan.input now s with
        activeAssignments := Scan.activeAssignments now' s
        events := Scan.latest 512 (s.ledger ++ own) } := by
  have hnone : own.filter (·.eventType == "fabric.dividend.recorded") = [] := by
    rw [List.filter_eq_nil_iff]
    intro event he hd
    rw [(isOwnRecord_uncounted (List.all_eq_true.1 h event he)).2.2] at hd
    cases hd
  unfold Scan.input Scan.after
  simp only [List.filter_append, hnone, List.append_nil]
  rfl

/-- What the scan after an answered scan reads. -/
theorem Scan.input_second (hfirst : Scan.refreshDiagnostics y order now s = (.ok (), t)) :
    Scan.input now' t =
      { Scan.input now s with
        activeAssignments := Scan.activeAssignments now' s
        events := Scan.latest 512 t.ledger } := by
  obtain ⟨own, ht, -, -, hown⟩ := Scan.refreshDiagnostics_ok hfirst
  rw [ht]
  exact Scan.input_after hown _ _

/-- A count of recent events is the same for both scans exactly if none that counts was displaced. -/
theorem Scan.recent_count_eq_iff {own : List RecordedEvent} {counts : RecordedEvent → Bool}
    (h : SameSides now now' (Scan.input now s)) (hlen : own.length ≤ 512) (hown : ∀ event ∈ own, counts event = false)
    (ht : t.ledger = s.ledger ++ own) :
    (Scan.input now s).events.countP (fun event => isRecent now event && counts event) =
        (Scan.latest 512 t.ledger).countP (fun event => isRecent now' event && counts event) ↔
      ∀ event ∈ Scan.displaced s t, (isRecent now event && counts event) = false := by
  have hpushed : t.ledger.length - s.ledger.length = own.length := by
    rw [ht, List.length_append]
    omega
  have hnone : own.countP (fun event => isRecent now event && counts event) = 0 := by
    rw [List.countP_eq_zero]
    intro event he
    rw [hown event he, Bool.and_false]
    decide
  unfold Scan.displaced
  have hevents : (Scan.input now s).events = Scan.latest 512 s.ledger := by simp only [Scan.input]
  have hrecent := h.events
  rw [hevents] at hrecent
  rw [hpushed, ← countP_drop_append_eq_iff hnone, ht, Scan.latest_append hlen, hevents]
  -- what is left of the first reading is followed by the scan's own records
  generalize hread : (Scan.latest 512 s.ledger).drop ((Scan.latest 512 s.ledger).length + own.length - 512) = rest
  have hsides : (rest ++ own).countP (fun event => isRecent now' event && counts event) =
      (rest ++ own).countP (fun event => isRecent now event && counts event) := by
    refine List.countP_congr fun event he => ?_
    rcases List.mem_append.1 he with he | he
    · rw [← hread] at he
      rw [hrecent event (List.mem_of_mem_drop he)]
    · rw [hown event he, Bool.and_false, Bool.and_false]
  rw [hsides]

/-- The hash tells these two bodies apart if they differ. -/
def NoCollision (x : DiagnosticCrates) (b b' : DiagnosticBody) : Prop := x.evidenceDigest b = x.evidenceDigest b' → b = b'

/-- A second answered scan with nothing to write found the body of the first. -/
theorem Scan.idle_iff_body_eq {own : List RecordedEvent} {b' : DiagnosticBody}
    (ht : t = Scan.after s own (deriveAutonomousConstraints y.governor
        (buildDiagnosticReport y.toDiagnosticCrates order now (Scan.input now s)))
      (some (buildDiagnosticReport y.toDiagnosticCrates order now (Scan.input now s)).evidenceDigest))
    (hb' : diagnosticBody y.toDiagnosticCrates order' now' (Scan.input now' t) = b')
    (hx : NoCollision y.toDiagnosticCrates (diagnosticBody y.toDiagnosticCrates order now (Scan.input now s)) b') :
    Scan.refreshDiagnostics y order' now' t = (.ok (), t) ↔
      diagnosticBody y.toDiagnosticCrates order now (Scan.input now s) = b' := by
  have hconstraints : t.autonomousConstraints = deriveAutonomousConstraints y.governor
      (buildDiagnosticReport y.toDiagnosticCrates order now (Scan.input now s)) := by
    rw [ht]
    rfl
  have hdigest : t.diagnosticDigest =
      some (buildDiagnosticReport y.toDiagnosticCrates order now (Scan.input now s)).evidenceDigest := by
    rw [ht]
    rfl
  rw [Scan.refreshDiagnostics_idle_iff, hconstraints, hdigest]
  constructor
  · rintro ⟨-, h⟩
    have hsame : y.evidenceDigest (diagnosticBody y.toDiagnosticCrates order now (Scan.input now s)) = y.evidenceDigest b' := by
      rw [← hb']
      exact Option.some.inj h
    exact hx hsame
  · intro h
    unfold deriveAutonomousConstraints buildDiagnosticReport
    rw [hb', h]
    exact ⟨rfl, rfl⟩

/-- No recent event is of either kind. -/
theorem uncounted_iff (now : Int) (p q : RecordedEvent → Bool) (events : List RecordedEvent) :
    ((∀ event ∈ events, (isRecent now event && p event) = false) ∧
      ∀ event ∈ events, (isRecent now event && q event) = false) ↔
    ∀ event ∈ events, isRecent now event = true → p event = false ∧ q event = false := by
  constructor
  · rintro ⟨hp, hq⟩ event he hrecent
    have hp := hp event he
    have hq := hq event he
    rw [hrecent, Bool.true_and] at hp hq
    exact ⟨hp, hq⟩
  · intro hnone
    constructor
    · intro event he
      cases hrecent : isRecent now event
      · rfl
      · exact (hnone event he hrecent).1
    · intro event he
      cases hrecent : isRecent now event
      · rfl
      · exact (hnone event he hrecent).2

/-- **What an idle fabric records.** Between two instants that leave every threshold on its side, and in any orders of the
maps, two reports of one input have the same digest exactly if the newest dividend has the same age in whole seconds; and
the scan after an answered scan writes nothing exactly if moreover as many assignments are active and the first scan's own
records pushed no recent denial and no recent failure out of the events that are read. -/
theorem idle_scan_writes_nothing_iff (y : ScanWorld) :
    (∀ (order order' : IterOrder) (now now' : Int) (i : DiagnosticInput), SameSides now now' i →
      NoCollision y.toDiagnosticCrates (diagnosticBody y.toDiagnosticCrates order now i)
        (diagnosticBody y.toDiagnosticCrates order' now' i) →
      ((buildDiagnosticReport y.toDiagnosticCrates order now i).evidenceDigest =
          (buildDiagnosticReport y.toDiagnosticCrates order' now' i).evidenceDigest ↔
        SameSecond now now' i.dividends)) ∧
    ∀ (order order' : IterOrder) (now now' : Int) (s t : ScanState),
      Scan.refreshDiagnostics y order now s = (.ok (), t) → SameSides now now' (Scan.input now s) →
      NoCollision y.toDiagnosticCrates (diagnosticBody y.toDiagnosticCrates order now (Scan.input now s))
        (diagnosticBody y.toDiagnosticCrates order' now' (Scan.input now' t)) →
      (Scan.refreshDiagnostics y order' now' t = (.ok (), t) ↔
        SameSecond now now' (Scan.input now s).dividends ∧
          Scan.activeAssignments now s = Scan.activeAssignments now' s ∧
          ∀ event ∈ Scan.displaced s t, isRecent now event = true → isDenial event = false ∧ isFailedReceipt event = false) := by
  constructor
  · intro order order' now now' i h hx
    have hbody := diagnosticBody_eq_iff h y.toDiagnosticCrates order order' i.activeAssignments i.events
    have hcounts : recentDenials now i.events = recentDenials now' i.events ∧
        recentFailedReceipts now i.events = recentFailedReceipts now' i.events := by
      unfold recentDenials recentFailedReceipts
      exact ⟨List.countP_congr fun event he => by rw [h.events event he],
        List.countP_congr fun event he => by rw [h.events event he]⟩
    constructor
    · intro heq
      exact (hbody.1 (hx heq)).1
    · intro hage
      have hb := hbody.2 ⟨hage, rfl, hcounts⟩
      exact congrArg y.evidenceDigest hb
  · intro order order' now now' s t hfirst h hx
    obtain ⟨own, ht, -, hlen, hown⟩ := Scan.refreshDiagnostics_ok hfirst
    have hledger : t.ledger = s.ledger ++ own := by
      rw [ht]
      rfl
    have hmany : own.length ≤ 512 := by omega
    -- the own records count as neither, so only what they displaced can change a count
    have hdenial := @Scan.recent_count_eq_iff now now' s t own isDenial h hmany
      (fun event he => (isOwnRecord_uncounted (List.all_eq_true.1 hown event he)).1) hledger
    have hfailed := @Scan.recent_count_eq_iff now now' s t own isFailedReceipt h hmany
      (fun event he => (isOwnRecord_uncounted (List.all_eq_true.1 hown event he)).2.1) hledger
    rw [Scan.idle_iff_body_eq ht rfl hx, Scan.input_second hfirst, diagnosticBody_eq_iff h]
    unfold recentDenials recentFailedReceipts
    rw [hdenial, hfailed]
    exact and_congr Iff.rfl (and_congr Iff.rfl (uncounted_iff now isDenial isFailedReceipt (Scan.displaced s t)))

/-- A controller whose digests print the age of the newest dividend. -/
def quietWorld : ScanWorld where
  evidenceDigest := fun body => Nat.repr (body.metrics.latestDividendAgeSeconds.getD 0)
  millis := Nat.repr
  megabits := Nat.repr
  stamp := fun _ => 0
  appendFailure := fun _ => none
  governor := GovernorConfig.default

theorem quietWorld_digest (order : IterOrder) (now : Int) (i : DiagnosticInput) :
    (buildDiagnosticReport quietWorld.toDiagnosticCrates order now i).evidenceDigest =
      Nat.repr ((latestDividendAge now i.dividends).getD 0) := rfl

/-- Receipts that keep their validity keep their replicas fresh. -/
theorem isFresh_congr {evidence : Table (String × Uuid) ArtifactReplicaReceiptV1}
    (h : ∀ receipt ∈ evidence.values, receipt.isValidAt now = receipt.isValidAt now') (key : String × Uuid) :
    isFresh evidence now key = isFresh evidence now' key := by
  unfold isFresh
  cases hkey : AList.lookup key evidence with
  | none => rfl
  | some receipt => exact h receipt ((Table.mem_values _ _).2 ⟨key, hkey⟩)

/-- A receipt for the artifact of `largeReplica`, valid until second 200. -/
def freshReceipt : ArtifactReplicaReceiptV1 where
  schema := ArtifactReplicaReceiptV1.schemaName
  receiptId := 1
  sessionId := 2
  leaseId := 3
  nodeId := 77
  digest := (largeReplica 77).digest
  sizeBytes := (largeReplica 77).size
  storageClass := .protected
  challengeNonce := "challenge"
  verifiedAt := seconds 90
  expiresAt := seconds 200
  fencingEpoch := 0
  signature := "signature"

/-- Two nodes, one with a live offer and one whose offer has run out; a protected artifact at both, with a fresh receipt of
one; and a denial long ago, a recent one, a failed job and a dividend. -/
def busyFabric : ScanState where
  nodes := ((∅ : Table Uuid NodeIdentityV1).insert 77 Scenario.identity).insert 78 { Scenario.identity with nodeId := 78 }
  offers :=
    { table := ((∅ : Table Uuid ResourceOfferV1).insert 77 Scenario.offer).insert 78
        { Scenario.offer with nodeId := 78, expiresAt := seconds 50 }
      keyed := by
        intro nodeId offer h
        rw [Table.lookup_insert', Table.lookup_insert'] at h
        split at h
        · rename_i hnode
          rw [← Option.some.inj h, hnode]
        split at h
        · rename_i hnode
          rw [← Option.some.inj h, hnode]
          rfl
        · cases h }
  assignments := ∅
  artifactReplicas := ((∅ : Table (String × Uuid) ArtifactRefV1).insert (largeReplica 77).key (largeReplica 77).artifact).insert
    (largeReplica 78).key (largeReplica 78).artifact
  replicaEvidence := (∅ : Table (String × Uuid) ArtifactReplicaReceiptV1).insert (largeReplica 77).key freshReceipt
  ledger := [⟨seconds (-2000), "job.blocked", "old", none, none⟩, ⟨seconds 95, "job.blocked", "new", none, none⟩,
    ⟨seconds 96, "job.receipted", "job", some "failed", none⟩,
    ⟨seconds 97, "fabric.dividend.recorded", "set", none, some [77]⟩]
  killLatch := false
  autonomousConstraints := ⟨"", []⟩
  diagnosticDigest := none
  appends := 0

/-- Half a second. -/
def half : Int := 500000000

theorem busyFabric_sameSides : SameSides (seconds 100) (seconds 100 + half) (Scan.input (seconds 100) busyFabric) where
  offers := by decide +kernel
  receipts := isFresh_congr (by decide +kernel)
  events := by decide +kernel
  dividends := by decide +kernel

/-- Half a second later, in another order of the maps, the fabric has the same digest, and a scan writes nothing. -/
theorem idle_scan_writes_nothing_busy :
    (buildDiagnosticReport quietWorld.toDiagnosticCrates .entries (seconds 100) (Scan.input (seconds 100) busyFabric)).evidenceDigest =
        (buildDiagnosticReport quietWorld.toDiagnosticCrates (.moveLast 0) (seconds 100 + half)
          (Scan.input (seconds 100) busyFabric)).evidenceDigest ∧
      Scan.refreshDiagnostics quietWorld (.moveLast 0) (seconds 100 + half)
          (Scan.refreshDiagnostics quietWorld .entries (seconds 100) busyFabric).2 =
        (.ok (), (Scan.refreshDiagnostics quietWorld .entries (seconds 100) busyFabric).2) := by
  have hsecond : SameSecond (seconds 100) (seconds 100 + half) (Scan.input (seconds 100) busyFabric).dividends := by
    rw [← latestDividendAge_eq_iff]
    decide +kernel
  have hfirst : Scan.refreshDiagnostics quietWorld .entries (seconds 100) busyFabric =
      (.ok (), (Scan.refreshDiagnostics quietWorld .entries (seconds 100) busyFabric).2) := Prod.ext (by rfl) rfl
  constructor
  · refine ((idle_scan_writes_nothing_iff quietWorld).1 .entries (.moveLast 0) (seconds 100) (seconds 100 + half) _
      busyFabric_sameSides fun _ => ?_).2 hsecond
    exact (diagnosticBody_eq_iff busyFabric_sameSides quietWorld.toDiagnosticCrates .entries (.moveLast 0) _ _).2
      ⟨hsecond, rfl, by decide +kernel, by decide +kernel⟩
  · refine ((idle_scan_writes_nothing_iff quietWorld).2 .entries (.moveLast 0) (seconds 100) (seconds 100 + half) busyFabric
      (Scan.refreshDiagnostics quietWorld .entries (seconds 100) busyFabric).2 hfirst busyFabric_sameSides fun _ => ?_).2
      ⟨hsecond, by decide +kernel, by decide +kernel⟩
    rw [Scan.input_second hfirst]
    exact (diagnosticBody_eq_iff busyFabric_sameSides quietWorld.toDiagnosticCrates .entries (.moveLast 0) _ _).2
      ⟨hsecond, by decide +kernel, by decide +kernel, by decide +kernel⟩

/-- One dividend without a valid contract. -/
def oneDividend : DiagnosticInput where
  nodes := ∅
  offers := ⟨∅, fun _ _ h => by cases h⟩
  activeAssignments := 0
  replicas := ∅
  evidence := ∅
  events := []
  dividends := [⟨0, "fabric.dividend.recorded", "", none, none⟩]
  killLatch := false

/-- One second is enough: the age of the newest dividend is part of what is hashed. -/
theorem one_second_changes_the_digest :
    ¬ ∀ (order order' : IterOrder) (now now' : Int) (i : DiagnosticInput), SameSides now now' i →
      (buildDiagnosticReport quietWorld.toDiagnosticCrates order now i).evidenceDigest =
        (buildDiagnosticReport quietWorld.toDiagnosticCrates order' now' i).evidenceDigest := by
  intro h
  have hsides : SameSides 0 1000000000 oneDividend :=
    { offers := fun _ ho => by cases ho
      receipts := isFresh_congr fun _ hr => by cases hr
      events := fun _ he => by cases he
      dividends := fun event he => by
        rw [List.mem_singleton.1 he]
        decide }
  have hfirst : latestDividendAge 0 oneDividend.dividends = some 0 := by decide
  have hsecond : latestDividendAge 1000000000 oneDividend.dividends = some 1 := by decide
  have hsame := h .entries .entries 0 1000000000 oneDividend hsides
  rw [quietWorld_digest, quietWorld_digest, hfirst, hsecond] at hsame
  exact absurd hsame (by decide)

end Rampage.Controller
