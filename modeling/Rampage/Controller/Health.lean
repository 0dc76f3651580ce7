/-
The health score against the problems it summarizes. The findings of a severity are counted (`countP_critical`,
`countP_warning`), but the score is computed from the counts as bytes. It never rises with more problems exactly if the
counts fit a byte or what is left of them costs all hundred points (`more_problems_never_help_iff`).
-/
import Rampage.Controller.Idle

namespace Rampage.Controller

open Rampage.Protocol Rampage.Planner Rampage.Governor

variable {x : DiagnosticCrates} {order order' : IterOrder} {now now' : Int} {i : DiagnosticInput}

/-! ## The problems of an input -/

/-- The signed endpoint of the offer exposes no address. -/
def hasNoRoute (offer : ResourceOfferV1) : Bool :=
  offer.meshEndpoint.any fun endpoint => endpoint.directAddresses.isEmpty && endpoint.relayUrls.isEmpty

/-- The warnings about a live offer. -/
def offerWarnings (offer : ResourceOfferV1) : Nat :=
  offer.workloadCapabilities.isEmpty.toNat +
    (decide (offer.availability.thermalHeadroomPercent < 35)).toNat +
    (!offer.availability.onAcPower && offer.availability.batteryPercent.any (· < 40)).toNat +
    (offer.linkBenchmark.any fun link => decide (75000 < link.rttMicrosP50)).toNat +
    (offer.linkBenchmark.any fun link => decide (min link.uplinkBps link.downlinkBps < 25000000)).toNat +
    (decide ("rampage.ollama.v1" ∈ offer.adapters) && offer.modelRuntimes.all (·.installedModels.isEmpty)).toNat

/-- The newest dividend has no valid contract. -/
def dividendInvalid (i : DiagnosticInput) : Bool := i.dividends.getLast?.any (·.dividendNodes.isNone)

/-- The newest dividend is valid and older than a day. -/
def dividendStale (now : Int) (i : DiagnosticInput) : Bool :=
  i.dividends.getLast?.any fun latest => latest.dividendNodes.isSome && decide (24 * 60 * 60 < ageSeconds now latest)

/-- The live offers, in the order of the table. -/
def DiagnosticInput.live (i : DiagnosticInput) (now : Int) : List ResourceOfferV1 := i.liveOffers .entries now

/-- The critical problems of an input. -/
def DiagnosticInput.criticals (i : DiagnosticInput) (now : Int) : Nat :=
  i.killLatch.toNat + (i.live now).countP hasNoRoute + (dividendInvalid i).toNat +
    (decide (2 ≤ recentFailedReceipts now i.events)).toNat

/-- The problems of an input that are worth a warning. -/
def DiagnosticInput.warnings (i : DiagnosticInput) (now : Int) : Nat :=
  i.nodes.keys.isEmpty.toNat + (i.nodes.keys.countP fun nodeId => decide (nodeId ∉ i.liveNodeIds .entries now)) +
    ((i.live now).map offerWarnings).sum + (dividendStale now i).toNat +
    (decide (3 ≤ recentDenials now i.events)).toNat + (decide (0 < i.underReplicated .entries now)).toNat

/-! ## Counting findings -/

theorem sum_map_toNat {α : Type} (p : α → Bool) (l : List α) : (l.map fun a => (p a).toNat).sum = l.countP p := by
  induction l with
  | nil => rfl
  | cons a l ih =>
    rw [List.map_cons, List.sum_cons, ih, List.countP_cons, Nat.add_comm]
    cases p a <;> rfl

theorem countP_pushIf (c : Bool) (f : DiagnosticFinding) (severity : DiagnosticSeverity) :
    (pushIf c f).countP (·.severity == severity) = (c && decide (f.severity = severity)).toNat := by
  cases c
  · rfl
  · unfold pushIf
    rw [if_pos rfl, List.countP_singleton, Bool.true_and]
    by_cases hsame : f.severity = severity <;> simp [hsame]

theorem countP_fabricFindings (severity : DiagnosticSeverity) (i : DiagnosticInput) :
    (fabricFindings i).countP (·.severity == severity) =
      (i.killLatch && decide (DiagnosticSeverity.critical = severity)).toNat +
        (i.nodes.keys.isEmpty && decide (DiagnosticSeverity.warning = severity)).toNat := by
  unfold fabricFindings
  rw [List.countP_append, countP_pushIf, countP_pushIf]
  rfl

theorem countP_offerFindings_critical (offer : ResourceOfferV1) :
    (offerFindings x offer).countP (·.severity == .critical) = (hasNoRoute offer).toNat := by
  have hroute : (routeFindings offer).countP (·.severity == .critical) = (hasNoRoute offer).toNat := by
    unfold routeFindings hasNoRoute
    rcases offer.meshEndpoint with _ | endpoint
    · rfl
    · simp [countP_pushIf, diagnosticFinding]
  have hlink : (linkFindings x offer).countP (·.severity == .critical) = 0 := by
    unfold linkFindings
    rcases offer.linkBenchmark with _ | link
    · rfl
    · simp [countP_pushIf, diagnosticFinding]
  unfold offerFindings
  simp [List.countP_append, countP_pushIf, hroute, hlink, diagnosticFinding]

theorem countP_offerFindings_warning (offer : ResourceOfferV1) :
    (offerFindings x offer).countP (·.severity == .warning) = offerWarnings offer := by
  have hroute : (routeFindings offer).countP (·.severity == .warning) = 0 := by
    unfold routeFindings
    rcases offer.meshEndpoint with _ | endpoint
    · rfl
    · simp [countP_pushIf, diagnosticFinding]
  have hlink : (linkFindings x offer).countP (·.severity == .warning) =
      (offer.linkBenchmark.any fun link => decide (75000 < link.rttMicrosP50)).toNat +
        (offer.linkBenchmark.any fun link => decide (min link.uplinkBps link.downlinkBps < 25000000)).toNat := by
    unfold linkFindings
    rcases offer.linkBenchmark with _ | link
    · rfl
    · simp [List.countP_append, countP_pushIf, diagnosticFinding]
  unfold offerFindings offerWarnings
  simp [List.countP_append, countP_pushIf, hroute, hlink, Nat.add_assoc, diagnosticFinding]

theorem countP_dividendFindings_critical (now : Int) (liveOffers : Nat) (ids : Finset Uuid) (i : DiagnosticInput) :
    (dividendFindings now liveOffers ids i.dividends).countP (·.severity == .critical) = (dividendInvalid i).toNat := by
  unfold dividendFindings dividendInvalid
  rcases i.dividends.getLast? with _ | latest
  · simp [countP_pushIf, diagnosticFinding]
  · rcases hnodes : latest.dividendNodes with _ | nodes
    · simp [hnodes, diagnosticFinding]
    · simp only [hnodes]
      split
      · simp [hnodes, diagnosticFinding]
      · simp [countP_pushIf, hnodes, diagnosticFinding]

theorem countP_dividendFindings_warning (now : Int) (liveOffers : Nat) (ids : Finset Uuid) (i : DiagnosticInput) :
    (dividendFindings now liveOffers ids i.dividends).countP (·.severity == .warning) = (dividendStale now i).toNat := by
  unfold dividendFindings dividendStale
  rcases i.dividends.getLast? with _ | latest
  · simp [countP_pushIf, diagnosticFinding]
  · rcases hnodes : latest.dividendNodes with _ | nodes
    · simp [hnodes, diagnosticFinding]
    · simp only [hnodes]
      split
      case isTrue hage => simp [hnodes, hage, diagnosticFinding]
      case isFalse hage => simp [countP_pushIf, hnodes, hage, diagnosticFinding]

/-- The critical findings of a scan are the critical problems of its input, in any order of the maps. -/
theorem countP_critical (x : DiagnosticCrates) (order : IterOrder) (now : Int) (i : DiagnosticInput) :
    (sortFindings (i.findings x order now)).countP (·.severity == .critical) = i.criticals now := by
  have hself : SameSides now now i := ⟨fun _ _ => Iff.rfl, fun _ => rfl, fun _ _ => rfl, fun _ _ => Iff.rfl⟩
  -- the order of the offers does not change what is counted
  have hoffers : ((i.liveOffers order now).flatMap (offerFindings x)).countP (·.severity == .critical) =
      (i.live now).countP hasNoRoute := by
    rw [((liveOffers_perm hself order .entries).flatMap_right _).countP_eq, List.countP_flatMap]
    have hone : (List.countP (fun f : DiagnosticFinding => f.severity == .critical) ∘ offerFindings x) =
        fun offer => (hasNoRoute offer).toNat := funext countP_offerFindings_critical
    rw [hone]
    exact sum_map_toNat hasNoRoute _
  -- a node without an offer is a warning
  have hnodes : ((((order.apply i.nodes.keys).filter fun nodeId => decide (nodeId ∉ i.liveNodeIds order now))).map
      nodeFinding).countP (·.severity == .critical) = 0 := by
    rw [List.countP_map]
    exact List.countP_eq_zero.2 fun _ _ => Bool.false_ne_true
  unfold sortFindings DiagnosticInput.findings DiagnosticInput.criticals
  rw [(Ranking.byKey_perm _ _).countP_eq, List.countP_append, List.countP_append, List.countP_append, List.countP_append,
    hoffers, hnodes, countP_fabricFindings, countP_dividendFindings_critical]
  simp [evidenceFindings, countP_pushIf, diagnosticFinding]

/-- The warnings of a scan are the problems of its input that are worth one, in any order of the maps. -/
theorem countP_warning (x : DiagnosticCrates) (order : IterOrder) (now : Int) (i : DiagnosticInput) :
    (sortFindings (i.findings x order now)).countP (·.severity == .warning) = i.warnings now := by
  have hself : SameSides now now i := ⟨fun _ _ => Iff.rfl, fun _ => rfl, fun _ _ => rfl, fun _ _ => Iff.rfl⟩
  have hoffers : ((i.liveOffers order now).flatMap (offerFindings x)).countP (·.severity == .warning) =
      ((i.live now).map offerWarnings).sum := by
    rw [((liveOffers_perm hself order .entries).flatMap_right _).countP_eq, List.countP_flatMap]
    have hone : (List.countP (fun f : DiagnosticFinding => f.severity == .warning) ∘ offerFindings x) = offerWarnings :=
      funext countP_offerFindings_warning
    rw [hone]
    rfl
  have hnodes : ((((order.apply i.nodes.keys).filter fun nodeId => decide (nodeId ∉ i.liveNodeIds order now))).map
      nodeFinding).countP (·.severity == .warning) =
        i.nodes.keys.countP fun nodeId => decide (nodeId ∉ i.liveNodeIds .entries now) := by
    have hall : ∀ nodeId : Uuid, ((fun f : DiagnosticFinding => f.severity == .warning) ∘ nodeFinding) nodeId = true :=
      fun _ => rfl
    rw [List.countP_map, List.countP_eq_length.2 fun nodeId _ => hall nodeId, ← List.countP_eq_length_filter,
      (order.perm _).countP_eq, liveNodeIds_eq hself order .entries]
  unfold sortFindings DiagnosticInput.findings DiagnosticInput.warnings
  rw [(Ranking.byKey_perm _ _).countP_eq, List.countP_append, List.countP_append, List.countP_append, List.countP_append,
    hoffers, hnodes, countP_fabricFindings, countP_dividendFindings_warning, underReplicated_eq hself order .entries]
  simp [evidenceFindings, countP_pushIf, Nat.add_assoc, diagnosticFinding]

/-! ## The score -/

/-- The statuses from worst to best. -/
def FabricStatus.rank : FabricStatus → Nat
  | .stopped => 0
  | .degraded => 1
  | .attention => 2
  | .healthy => 3

theorem fabricStatus_mono {a b : Nat} (h : a ≤ b) : (fabricStatus false a).rank ≤ (fabricStatus false b).rank := by
  unfold fabricStatus
  simp only [Bool.false_eq_true, if_false]
  split_ifs <;> first | decide | omega

/-- The score is computed from what a byte keeps of the counts. -/
theorem healthScore_eq (x : DiagnosticCrates) (order : IterOrder) (now : Int) {i : DiagnosticInput} (h : i.killLatch = false) :
    (diagnosticBody x order now i).healthScore =
      100 - min (i.criticals now % 256 * 25) 255 - min (i.warnings now % 256 * 8) 255 := by
  have hscore : (diagnosticBody x order now i).healthScore =
      healthScore i.killLatch (countAsByte .critical (sortFindings (i.findings x order now)))
        (countAsByte .warning (sortFindings (i.findings x order now))) := rfl
  rw [hscore, h]
  unfold countAsByte
  rw [countP_critical, countP_warning]
  rfl

theorem status_eq (x : DiagnosticCrates) (order : IterOrder) (now : Int) {i : DiagnosticInput} (h : i.killLatch = false) :
    (diagnosticBody x order now i).status = fabricStatus false (diagnosticBody x order now i).healthScore := by
  have hstatus : (diagnosticBody x order now i).status =
      fabricStatus i.killLatch (diagnosticBody x order now i).healthScore := rfl
  rw [hstatus, h]

/-! ## Inputs with given problems -/

/-- A table with a row for each of some keys. -/
def spread {V : Type} (f : Uuid → V) (l : List Uuid) (h : l.Nodup) : Table Uuid V where
  entries := l.map fun nodeId => ⟨nodeId, f nodeId⟩
  nodupKeys := by
    unfold List.NodupKeys List.keys
    rw [List.map_map]
    exact (List.map_id l).symm ▸ h

theorem spread_keys {V : Type} (f : Uuid → V) {l : List Uuid} (h : l.Nodup) : (spread f l h).keys = l := by
  have hkeys : (spread f l h).keys = (l.map fun nodeId => (⟨nodeId, f nodeId⟩ : Sigma fun _ : Uuid => V)).map Sigma.fst := rfl
  rw [hkeys, List.map_map]
  exact List.map_id l

theorem spread_values {V : Type} (f : Uuid → V) {l : List Uuid} (h : l.Nodup) : Table.values (spread f l h) = l.map f := by
  have hvalues : Table.values (spread f l h) =
      (l.map fun nodeId => (⟨nodeId, f nodeId⟩ : Sigma fun _ : Uuid => V)).map (·.2) := rfl
  rw [hvalues, List.map_map]
  rfl

theorem spread_lookup {V : Type} {f : Uuid → V} {l : List Uuid} {h : l.Nodup} {nodeId : Uuid} {v : V}
    (hv : (spread f l h).lookup nodeId = some v) : v = f nodeId := by
  have hmem := (Table.mem_lookup (spread f l h) nodeId v).1 hv
  obtain ⟨key, -, hkey⟩ := List.mem_map.1 hmem
  cases hkey
  rfl

/-- The first node identifiers. -/
def ids (n : Nat) : List Uuid := ((List.range n).map (BitVec.ofNat 128)).dedup

theorem ids_nodup (n : Nat) : (ids n).Nodup := List.nodup_dedup _

theorem length_ids {n : Nat} (h : n ≤ 256) : (ids n).length = n := by
  have hnodup : ((List.range n).map (BitVec.ofNat 128)).Nodup := by
    refine List.Nodup.map_on ?_ List.nodup_range
    intro a ha b hb hab
    have hsmall : 256 ≤ 2 ^ 128 := by norm_num
    have hval := congrArg BitVec.toNat hab
    rw [BitVec.toNat_ofNat, BitVec.toNat_ofNat, Nat.mod_eq_of_lt ((List.mem_range.1 ha).trans_le (h.trans hsmall)),
      Nat.mod_eq_of_lt ((List.mem_range.1 hb).trans_le (h.trans hsmall))] at hval
    exact hval
  unfold ids
  rw [hnodup.dedup, List.length_map, List.length_range]

/-- Enrolled nodes, and an offer of some of them. -/
def crowd (nodes : List Uuid) (hnodes : nodes.Nodup) (offering : List Uuid) (hoffering : offering.Nodup)
    (offer : Uuid → ResourceOfferV1) (hoffer : ∀ nodeId, (offer nodeId).nodeId = nodeId) : DiagnosticInput where
  nodes := spread (fun nodeId => { Scenario.identity with nodeId := nodeId }) nodes hnodes
  offers := ⟨spread offer offering hoffering, fun nodeId _ h => by rw [spread_lookup h]; exact hoffer nodeId⟩
  activeAssignments := 0
  replicas := ∅
  evidence := ∅
  events := []
  dividends := []
  killLatch := false

/-- Of a crowd without artifacts and events, the offers and the nodes without one are the problems. -/
theorem crowd_problems {nodes offering : List Uuid} (hnodes : nodes.Nodup) (hoffering : offering.Nodup)
    {offer : Uuid → ResourceOfferV1} (hoffer : ∀ nodeId, (offer nodeId).nodeId = nodeId)
    (hlive : ∀ nodeId ∈ offering, now < (offer nodeId).expiresAt) :
    (crowd nodes hnodes offering hoffering offer hoffer).criticals now = (offering.map offer).countP hasNoRoute ∧
      (crowd nodes hnodes offering hoffering offer hoffer).warnings now =
        nodes.isEmpty.toNat + nodes.countP (fun nodeId => decide (nodeId ∉ offering)) +
          ((offering.map offer).map offerWarnings).sum := by
  have hoffers : (crowd nodes hnodes offering hoffering offer hoffer).live now = offering.map offer := by
    have hvalues : (crowd nodes hnodes offering hoffering offer hoffer).live now =
        (Table.values (spread offer offering hoffering)).filter fun offer => decide (now < offer.expiresAt) := rfl
    rw [hvalues, spread_values, List.filter_eq_self]
    intro o ho
    obtain ⟨nodeId, hn, rfl⟩ := List.mem_map.1 ho
    exact decide_eq_true (hlive nodeId hn)
  have hids : (crowd nodes hnodes offering hoffering offer hoffer).liveNodeIds .entries now = offering.toFinset := by
    have hmap : (crowd nodes hnodes offering hoffering offer hoffer).liveNodeIds .entries now =
        (((crowd nodes hnodes offering hoffering offer hoffer).live now).map (·.nodeId)).toFinset := rfl
    have hsame : (fun offer : ResourceOfferV1 => offer.nodeId) ∘ offer = id := funext hoffer
    rw [hmap, hoffers, List.map_map, hsame, List.map_id]
  have hkeys : (crowd nodes hnodes offering hoffering offer hoffer).nodes.keys = nodes := spread_keys _ hnodes
  unfold DiagnosticInput.criticals DiagnosticInput.warnings
  rw [hoffers, hids, hkeys]
  simp only [List.mem_toFinset]
  constructor
  · exact (Nat.zero_add _)
  · exact rfl

/-- A live offer whose endpoint exposes no address, without any other problem. -/
def unroutable (nodeId : Uuid) : ResourceOfferV1 :=
  { Scenario.offer with
    nodeId := nodeId
    workloadCapabilities := [⟨"", "rampage.echo.v1", ∅, 0, 0, "", .shipped, none⟩]
    meshEndpoint := some ⟨"", "", [], [], 0, 0, ""⟩ }

theorem unroutable_nodeId (nodeId : Uuid) : (unroutable nodeId).nodeId = nodeId := rfl

/-- Enrolled nodes without an offer: so many warnings. -/
def lonely (n : Nat) : DiagnosticInput := crowd (ids n) (ids_nodup n) [] List.nodup_nil unroutable unroutable_nodeId

theorem ids_isEmpty {n : Nat} (h : n ≤ 256) (hn : 0 < n) : (ids n).isEmpty = false := by
  rw [List.isEmpty_eq_false_iff, ← List.length_pos_iff, length_ids h]
  exact hn

theorem lonely_problems {n : Nat} (h : n ≤ 256) (hn : 0 < n) (now : Int) :
    (lonely n).criticals now = 0 ∧ (lonely n).warnings now = n := by
  obtain ⟨hc, hw⟩ := @crowd_problems now (ids n) [] (ids_nodup n) List.nodup_nil unroutable unroutable_nodeId
    (fun _ hnone => by cases hnone)
  have hall : (ids n).countP (fun nodeId => decide (nodeId ∉ ([] : List Uuid))) = (ids n).length :=
    List.countP_eq_length.2 fun _ _ => by simp
  rw [ids_isEmpty h hn, hall, length_ids h] at hw
  exact ⟨hc, hw.trans (by simp)⟩

/-- Enrolled nodes with an unroutable offer each: so many critical problems. -/
def cutOff (n : Nat) : DiagnosticInput := crowd (ids n) (ids_nodup n) (ids n) (ids_nodup n) unroutable unroutable_nodeId

theorem cutOff_problems {n : Nat} (h : n ≤ 256) (hn : 0 < n) :
    (cutOff n).criticals 0 = n ∧ (cutOff n).warnings 0 = 0 := by
  have hlive : ∀ nodeId ∈ ids n, (0 : Int) < (unroutable nodeId).expiresAt := fun nodeId _ => by
    have hexpires : (unroutable nodeId).expiresAt = seconds 1000 := rfl
    rw [hexpires]
    decide
  obtain ⟨hc, hw⟩ := crowd_problems (ids_nodup n) (ids_nodup n) unroutable_nodeId hlive
  have hroutes : ((ids n).map unroutable).countP hasNoRoute = ((ids n).map unroutable).length := by
    refine List.countP_eq_length.2 fun offer ho => ?_
    obtain ⟨nodeId, -, rfl⟩ := List.mem_map.1 ho
    rfl
  have hnone : (ids n).countP (fun nodeId => decide (nodeId ∉ ids n)) = 0 :=
    List.countP_eq_zero.2 fun nodeId hnode => by simp [hnode]
  have hwarnings : (((ids n).map unroutable).map offerWarnings).sum = 0 := by
    have hzero : offerWarnings ∘ unroutable = fun _ => 0 := funext fun nodeId => rfl
    rw [List.map_map, hzero]
    simp
  rw [hroutes, List.length_map, length_ids h] at hc
  rw [ids_isEmpty h hn, hnone, hwarnings] at hw
  exact ⟨hc, hw⟩

/-! ## More problems -/

/-- The findings of a severity in a report. -/
def FabricDiagnosticReport.count (report : FabricDiagnosticReport) (severity : DiagnosticSeverity) : Nat :=
  report.body.findings.countP (·.severity == severity)

theorem count_critical (x : DiagnosticCrates) (order : IterOrder) (now : Int) (i : DiagnosticInput) :
    (buildDiagnosticReport x order now i).count .critical = i.criticals now := countP_critical x order now i

theorem count_warning (x : DiagnosticCrates) (order : IterOrder) (now : Int) (i : DiagnosticInput) :
    (buildDiagnosticReport x order now i).count .warning = i.warnings now := countP_warning x order now i

/-- The score of the second report is not higher and its status not better. -/
def NotHealthier (a b : FabricDiagnosticReport) : Prop :=
  b.body.healthScore ≤ a.body.healthScore ∧ b.body.status.rank ≤ a.body.status.rank

/-- **More problems never help.** Against every input with no more critical and no more warning findings, the score of this
one is not higher and its status not better, exactly if both its counts fit a byte or what a byte keeps of them costs all
hundred points. -/
theorem more_problems_never_help_iff (x : DiagnosticCrates) (order : IterOrder) (now : Int) {b : DiagnosticInput}
    (hb : b.killLatch = false) :
    (∀ (order' : IterOrder) (now' : Int) (a : DiagnosticInput), a.killLatch = false →
      (buildDiagnosticReport x order' now' a).count .critical ≤ (buildDiagnosticReport x order now b).count .critical →
      (buildDiagnosticReport x order' now' a).count .warning ≤ (buildDiagnosticReport x order now b).count .warning →
      NotHealthier (buildDiagnosticReport x order' now' a) (buildDiagnosticReport x order now b)) ↔
      (b.criticals now < 256 ∧ b.warnings now < 256) ∨
        100 ≤ b.criticals now % 256 * 25 + b.warnings now % 256 * 8 := by
  simp only [count_critical, count_warning]
  have hscore := healthScore_eq x order now hb
  constructor
  · intro h
    by_contra hcond
    rw [not_or, not_le] at hcond
    obtain ⟨hbyte, hcost⟩ := hcond
    by_cases hc : b.criticals now < 256
    · have hw : 256 ≤ b.warnings now := not_lt.1 fun hw => hbyte ⟨hc, hw⟩
      obtain ⟨pc, pw⟩ := @lonely_problems 13 (by decide) (by decide) 0
      have hle : (diagnosticBody x order now b).healthScore ≤ (diagnosticBody x .entries 0 (lonely 13)).healthScore :=
        (h .entries 0 (lonely 13) rfl (by omega) (by omega)).1
      rw [hscore, healthScore_eq x .entries 0 rfl, pc, pw] at hle
      omega
    · obtain ⟨pc, pw⟩ := @cutOff_problems 4 (by decide) (by decide)
      have hle : (diagnosticBody x order now b).healthScore ≤ (diagnosticBody x .entries 0 (cutOff 4)).healthScore :=
        (h .entries 0 (cutOff 4) rfl (by omega) (by omega)).1
      rw [hscore, healthScore_eq x .entries 0 rfl, pc, pw] at hle
      omega
  · intro hcond order' now' a ha hc hw
    have hle : (diagnosticBody x order now b).healthScore ≤ (diagnosticBody x order' now' a).healthScore := by
      rw [hscore, healthScore_eq x order' now' ha]
      rcases hcond with ⟨hcb, hwb⟩ | hcost
      · rw [Nat.mod_eq_of_lt hcb, Nat.mod_eq_of_lt hwb, Nat.mod_eq_of_lt (hc.trans_lt hcb),
          Nat.mod_eq_of_lt (hw.trans_lt hwb)]
        omega
      · omega
    have hrank : (diagnosticBody x order now b).status.rank ≤ (diagnosticBody x order' now' a).status.rank := by
      rw [status_eq x order now hb, status_eq x order' now' ha]
      exact fabricStatus_mono hle
    exact ⟨hle, hrank⟩

theorem more_problems_never_help_lonely :
    NotHealthier (buildDiagnosticReport quietWorld.toDiagnosticCrates .entries 0 (lonely 1))
      (buildDiagnosticReport quietWorld.toDiagnosticCrates .entries 0 (lonely 2)) := by
  obtain ⟨pc, pw⟩ := @lonely_problems 2 (by decide) (by decide) 0
  obtain ⟨qc, qw⟩ := @lonely_problems 1 (by decide) (by decide) 0
  refine (more_problems_never_help_iff quietWorld.toDiagnosticCrates .entries 0 rfl).2 (Or.inl ?_) .entries 0 (lonely 1) rfl
    ?_ ?_
  · rw [pc, pw]
    decide
  · rw [count_critical, count_critical, pc, qc]
  · rw [count_warning, count_warning, pw, qw]
    decide

/-- With 256 nodes that make no offer the fabric is as healthy as can be; with one it is not. -/
theorem lonely_fabric_is_healthy :
    ¬ ∀ (order order' : IterOrder) (now now' : Int) (a b : DiagnosticInput), a.killLatch = false → b.killLatch = false →
      (buildDiagnosticReport quietWorld.toDiagnosticCrates order now a).count .critical ≤
        (buildDiagnosticReport quietWorld.toDiagnosticCrates order' now' b).count .critical →
      (buildDiagnosticReport quietWorld.toDiagnosticCrates order now a).count .warning ≤
        (buildDiagnosticReport quietWorld.toDiagnosticCrates order' now' b).count .warning →
      NotHealthier (buildDiagnosticReport quietWorld.toDiagnosticCrates order now a)
        (buildDiagnosticReport quietWorld.toDiagnosticCrates order' now' b) := by
  intro h
  obtain ⟨pc, pw⟩ := @lonely_problems 1 (by decide) (by decide) 0
  obtain ⟨qc, qw⟩ := @lonely_problems 256 (by decide) (by decide) 0
  have hle : (diagnosticBody quietWorld.toDiagnosticCrates .entries 0 (lonely 256)).healthScore ≤
      (diagnosticBody quietWorld.toDiagnosticCrates .entries 0 (lonely 1)).healthScore := by
    refine (h .entries .entries 0 0 (lonely 1) (lonely 256) rfl rfl ?_ ?_).1
    · rw [count_critical, count_critical, pc, qc]
    · rw [count_warning, count_warning, pw, qw]
      decide
  rw [healthScore_eq quietWorld.toDiagnosticCrates .entries 0 rfl, healthScore_eq quietWorld.toDiagnosticCrates .entries 0 rfl,
    pc, pw, qc, qw] at hle
  exact absurd hle (by decide)

end Rampage.Controller
