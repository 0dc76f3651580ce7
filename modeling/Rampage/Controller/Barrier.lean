/-
STOP as a barrier for issuance. `Fenced` is the invariant of the latch, its marker, the epoch and the
leases on record; every move of the gate keeps it as long as no suspended submission is given the
gate while the latch is set, and it gives `stop_is_a_barrier`. Without that condition a request that
was suspended while STOP ran issues a lease of the new epoch under the latch
(`stop_lets_suspended_request_through`).
-/
import Rampage.Controller.Gate
import Rampage.Controller.Scenario

namespace Rampage.Controller

open Rampage.Protocol Rampage.Planner Rampage.Governor Rampage.Ledger Handler

/-- No submission that is suspended at the gate is given it while the latch is set. -/
def respectsLatch (g : Gate) : Move → Bool
  | .acquire i => !(g.waiting[i]?.any Waiting.isSubmission && g.holder.isNone && g.host.killLatch)
  | _ => true

/-! ## Issued authority -/

/-- The epochs of the leases an event issues: of jobs, of shard sets and of promotion canaries. -/
def leaseEpochsOf : Event → List Nat
  | .leaseIssued lease _ => [lease.fencingEpoch]
  | .shardSetAdmitted _ leases _ => leases.map (·.fencingEpoch)
  | .promotionCanaryLeaseIssued lease => [lease.fencingEpoch]
  | _ => []

/-- The epochs of all leases on record. -/
def leaseEpochs (l : List Event) : List Nat := l.flatMap leaseEpochsOf

theorem leaseEpochs_append (l l' : List Event) : leaseEpochs (l ++ l') = leaseEpochs l ++ leaseEpochs l' := by
  simp [leaseEpochs]

/-- Events that issue no lease. -/
def Unissuing (k : EventKind) : Prop :=
  k ∉ [EventKind.leaseIssued, .shardSetAdmitted, .promotionCanaryLeaseIssued]

theorem leaseEpochs_unissuing {es : List Event} (h : ∀ e ∈ es, Unissuing e.kind) : leaseEpochs es = [] := by
  rw [leaseEpochs, List.flatMap_eq_nil_iff]
  intro e he
  have := h e he
  cases e with
  | leaseIssued | shardSetAdmitted | promotionCanaryLeaseIssued => exact absurd (by simp [Event.kind]) this
  | _ => rfl

/-- The latch, its marker and the epoch are as before; the leases issued in between carry the epoch. -/
structure Issues (s t : Host) : Prop where
  killLatch : t.killLatch = s.killLatch
  stopEpochMarker : t.stopEpochMarker = s.stopEpochMarker
  fencingEpoch : t.fencingEpoch = s.fencingEpoch
  leases : ∃ es, leaseEpochs t.ledger = leaseEpochs s.ledger ++ es ∧ ∀ e ∈ es, e = s.fencingEpoch

/-- As `Issues`, with no lease issued. -/
structure Calm (s t : Host) : Prop where
  killLatch : t.killLatch = s.killLatch
  stopEpochMarker : t.stopEpochMarker = s.stopEpochMarker
  fencingEpoch : t.fencingEpoch = s.fencingEpoch
  leases : leaseEpochs t.ledger = leaseEpochs s.ledger

theorem Calm.issues {s t : Host} (h : Calm s t) : Issues s t :=
  ⟨h.killLatch, h.stopEpochMarker, h.fencingEpoch, [], by rw [h.leases, List.append_nil], by simp⟩

theorem Calm.trans {s t u : Host} (h : Calm s t) (h' : Calm t u) : Calm s u :=
  ⟨h'.killLatch.trans h.killLatch, h'.stopEpochMarker.trans h.stopEpochMarker, h'.fencingEpoch.trans h.fencingEpoch,
    h'.leases.trans h.leases⟩

theorem Frame.calm {K : EventKind → Prop} {s t : Host} (h : Frame K s t) (hK : ∀ k, K k → Unissuing k) : Calm s t := by
  obtain ⟨es, hes, hk⟩ := h.events
  refine ⟨h.killLatch, h.stopEpochMarker, h.fencingEpoch, ?_⟩
  rw [hes, leaseEpochs_append, leaseEpochs_unissuing fun e he => hK _ (hk e he), List.append_nil]

theorem unissuing_of_submitting {k : EventKind} (h : Submitting k) : Unissuing k := by
  rcases h with rfl | rfl | rfl | rfl <;> simp [Unissuing]

theorem unissuing_of_staging {k : EventKind} (h : Staging k) : Unissuing k := unissuing_of_submitting (Or.inr h)

section

variable {cfg : Config} {w : World}

/-- A job under the gate issues a lease of the current epoch, or none. -/
theorem issues_submitJobGated (job : JobSpecV1) (s : Host) : Issues s (submitJobGated cfg w job s).2 := by
  rcases @submitJobGated_cases cfg w job s with ⟨h, _⟩ | ⟨lease, score, s₁, _, h⟩
  · exact (h.toFrame.calm fun _ => unissuing_of_submitting).issues
  · have hcalm : Calm s s₁ := h.quiet.toFrame.calm fun _ => unissuing_of_submitting
    rw [h.result]
    refine ⟨hcalm.killLatch, hcalm.stopEpochMarker, hcalm.fencingEpoch, [lease.fencingEpoch], ?_, ?_⟩
    · show leaseEpochs (s₁.ledger ++ [.leaseIssued lease score]) = _
      rw [leaseEpochs_append, hcalm.leases]
      rfl
    · intro e he
      rw [List.mem_singleton.1 he]
      exact h.minted.epoch lease (List.mem_singleton_self lease)

/-- A shard set under the gate issues leases of the current epoch, or none. -/
theorem issues_submitShardSetGated {set : ShardSetV1} {now : Int} (hv : set.validateAt now = .ok ()) (s : Host) :
    Issues s (submitShardSetGated cfg w set now s).2 := by
  rcases @submitShardSetGated_cases cfg w set now hv s with ⟨h, _⟩ | ⟨leases, placements, s₁, _, h⟩
  · exact (h.toFrame.calm fun _ => unissuing_of_staging).issues
  · have hcalm : Calm s s₁ := h.quiet.toFrame.calm fun _ => unissuing_of_staging
    rw [h.result, recordShardSet, recordShards_eq]
    refine ⟨hcalm.killLatch, hcalm.stopEpochMarker, hcalm.fencingEpoch, leases.map (·.fencingEpoch), ?_, ?_⟩
    · show leaseEpochs (s₁.ledger ++ [.shardSetAdmitted set leases placements]) = _
      rw [leaseEpochs_append, hcalm.leases]
      simp [leaseEpochs, leaseEpochsOf]
    · intro e he
      obtain ⟨lease, hl, rfl⟩ := List.mem_map.1 he
      exact h.minted.epoch lease hl

/-- A promotion canary under the gate issues a lease of the current epoch, or none. -/
theorem issues_authorizePromotionCanaryGated (candidate : PromotionCandidateV1) (s : Host) :
    Issues s (authorizePromotionCanaryGated cfg w candidate s).2 := by
  -- nothing is issued before the last of the two appends
  have calm : ∀ {t u : Host}, Quiet (fun _ => False) t u → Calm t u := fun h => h.toFrame.calm fun _ => False.elim
  unfold authorizePromotionCanaryGated
  rw [get_bind]
  have q1 := quiet_scanPromotionEvents (w := w) (K := fun _ => False) candidate s.fencingEpoch
    (eventsForSubject s.ledger (.id candidate.proposalId) 128) s
  rcases h1 : scanPromotionEvents w candidate s.fencingEpoch
    (eventsForSubject s.ledger (.id candidate.proposalId) 128) s with ⟨e | existing, s₁⟩
  · rw [h1] at q1
    rw [bind_of_error h1]
    exact (calm q1).issues
  rw [h1] at q1
  rw [bind_of_ok h1]
  cases existing with
  | some lease => exact (calm q1).issues
  | none =>
    have hmint : Calm s { s₁ with reads := s₁.reads + 1, uuids := s₁.uuids + 1, texts := s₁.texts + 1 } :=
      (calm q1).trans ⟨rfl, rfl, rfl, rfl⟩
    cases hauth : authorizePromotionCanaryAtEpoch cfg.governor cfg.signCanary candidate s.fencingEpoch
        (w.clock s₁.reads) (w.uuid s₁.uuids) (w.text s₁.texts) with
    | error d =>
      show Issues s ((ofExcept ((authorizePromotionCanaryAtEpoch cfg.governor cfg.signCanary candidate s.fencingEpoch
        (w.clock s₁.reads) (w.uuid s₁.uuids) (w.text s₁.texts)).mapError _) >>= _ : Request _)
        { s₁ with reads := s₁.reads + 1, uuids := s₁.uuids + 1, texts := s₁.texts + 1 }).2
      rw [hauth]
      exact hmint.issues
    | ok lease =>
      have hepoch : lease.fencingEpoch = s.fencingEpoch := (authorizePromotionCanaryAtEpoch_spec hauth).1
      show Issues s ((ofExcept ((authorizePromotionCanaryAtEpoch cfg.governor cfg.signCanary candidate s.fencingEpoch
        (w.clock s₁.reads) (w.uuid s₁.uuids) (w.text s₁.texts)).mapError _) >>= _ : Request _)
        { s₁ with reads := s₁.reads + 1, uuids := s₁.uuids + 1, texts := s₁.texts + 1 }).2
      rw [hauth]
      show Issues s ((append w (.promotionCandidateProposed candidate) >>= _ : Request _)
        { s₁ with reads := s₁.reads + 1, uuids := s₁.uuids + 1, texts := s₁.texts + 1 }).2
      have q2 := (quiet_append (K := Unissuing) w (e := .promotionCandidateProposed candidate)
        (by simp [Unissuing, Event.kind])
        { s₁ with reads := s₁.reads + 1, uuids := s₁.uuids + 1, texts := s₁.texts + 1 }).toFrame.calm fun _ => id
      rcases h2 : append w (.promotionCandidateProposed candidate)
        { s₁ with reads := s₁.reads + 1, uuids := s₁.uuids + 1, texts := s₁.texts + 1 } with ⟨e | u, s₂⟩
      · rw [h2] at q2
        rw [bind_of_error h2]
        exact (hmint.trans q2).issues
      rw [h2] at q2
      rw [bind_of_ok h2]
      have hcalm : Calm s s₂ := hmint.trans q2
      rcases h3 : append w (.promotionCanaryLeaseIssued lease) s₂ with ⟨e | u, s₃⟩
      · obtain ⟨_, rfl⟩ := append_error h3
        rw [bind_of_error h3]
        exact (hcalm.trans (u := { s₂ with appends := s₂.appends + 1 }) ⟨rfl, rfl, rfl, rfl⟩).issues
      · obtain ⟨_, rfl⟩ := append_ok h3
        rw [bind_of_ok h3]
        refine ⟨hcalm.killLatch, hcalm.stopEpochMarker, hcalm.fencingEpoch, [lease.fencingEpoch], ?_, ?_⟩
        · show leaseEpochs (s₂.ledger ++ [.promotionCanaryLeaseIssued lease]) = _
          rw [leaseEpochs_append, hcalm.leases]
          rfl
        · intro x hx
          rw [List.mem_singleton.1 hx]
          exact hepoch

/-- The handlers that do not wait for the gate issue nothing and leave the latch alone. -/
theorem calm_step {op : Op} (hop : op.isGated = false) (s : Host) : Calm s (step cfg w op s).2 := by
  cases op with
  | createInvite =>
    refine (@frame_createInvite cfg w s).calm ?_
    rintro k (rfl | rfl | rfl) <;> simp [Unissuing]
  | enrollNode request =>
    refine (@frame_enrollNode cfg w request s).calm ?_
    rintro k (rfl | rfl | rfl) <;> simp [Unissuing]
  | revokeNode nodeId confirmed =>
    have hother : ∀ k, Other k → Unissuing k := by
      rintro k rfl
      simp [Unissuing]
    rcases revokeNode_cases (w := w) nodeId confirmed s with h | ⟨name, key, h⟩
    · exact h.toFrame.calm hother
    · refine Calm.trans ?_ (h.toFrame.calm hother)
      refine ⟨rfl, rfl, rfl, ?_⟩
      show leaseEpochs (s.ledger ++ [.nodeRevoked nodeId name key]) = _
      rw [leaseEpochs_append]
      exact List.append_nil _
  | claimWork nodeId =>
    rcases @claimWork_cases cfg w nodeId s with ⟨h, _⟩ | ⟨jobId, a, _, ⟨_, _, ht⟩ | ⟨_, _, ht⟩⟩
    · exact h.toFrame.calm fun _ => False.elim
    · show Calm s (claimWork cfg w nodeId s).2
      rw [ht]
      refine ⟨rfl, rfl, rfl, ?_⟩
      show leaseEpochs (s.ledger ++ [.jobClaimed _]) = _
      rw [leaseEpochs_append]
      exact List.append_nil _
    · show Calm s (claimWork cfg w nodeId s).2
      rw [ht]
      exact ⟨rfl, rfl, rfl, rfl⟩
  | submitReceipt receipt =>
    rcases @submitReceipt_cases cfg w receipt s with ⟨h, _⟩ | ⟨a, _, _, ⟨_, _, ht⟩ | ⟨_, h⟩⟩
    · exact h.toFrame.calm fun _ => False.elim
    · show Calm s (submitReceipt cfg w receipt s).2
      rw [ht]
      exact ⟨rfl, rfl, rfl, rfl⟩
    · refine Calm.trans (t := receipted a receipt s) ⟨rfl, rfl, rfl, ?_⟩ (h.toFrame.calm ?_)
      · show leaseEpochs (s.ledger ++ [.jobReceipted receipt]) = _
        rw [leaseEpochs_append]
        exact List.append_nil _
      · rintro k rfl
        simp [Unissuing]
  | background b =>
    -- none of what the background records is a lease
    have hnone : leaseEpochs b.events = [] := by
      apply leaseEpochs_unissuing
      intro e he
      have hk := b.kinds e he
      simp only [backgroundKinds, List.mem_cons, List.not_mem_nil, or_false] at hk
      rcases hk with hk | hk | hk | hk | hk | hk | hk <;> rw [hk] <;> simp [Unissuing]
    refine ⟨rfl, rfl, rfl, ?_⟩
    show leaseEpochs (s.ledger ++ b.events) = _
    rw [leaseEpochs_append, hnone, List.append_nil]
  | submitJob | submitShardSet | authorizePromotionCanary | localStop | localResume | restart => cases hop

end

/-! ## The barrier -/

/-- No lease is of a future epoch; the marker is there only under the latch and names no future epoch; and when
it names the current one, no lease carries that epoch. -/
structure Fenced (s : Host) : Prop where
  epochs : ∀ e ∈ leaseEpochs s.ledger, e ≤ s.fencingEpoch
  latched : s.stopEpochMarker ≠ none → s.killLatch = true
  marker : ∀ m, s.stopEpochMarker = some (some m) → m ≤ s.fencingEpoch
  stopped : s.stopEpochMarker = some (some s.fencingEpoch) → ∀ e ∈ leaseEpochs s.ledger, e < s.fencingEpoch

/-- What STOP and resume rely on between their effects. -/
def Stage.Holds (s : Host) : Stage → Prop
  | .advanceEpoch => s.killLatch = true
  | .writeMarker epoch =>
    s.killLatch = true ∧ epoch = s.fencingEpoch ∧ ∀ e ∈ leaseEpochs s.ledger, e < s.fencingEpoch
  | .removeLatch => s.stopEpochMarker = none
  | _ => True

section

variable {w : World} {s t : Host}

theorem Fenced.calm (h : Fenced s) (hc : Calm s t) : Fenced t := by
  refine ⟨?_, ?_, ?_, ?_⟩
  · rw [hc.leases, hc.fencingEpoch]
    exact h.epochs
  · rw [hc.stopEpochMarker, hc.killLatch]
    exact h.latched
  · rw [hc.stopEpochMarker, hc.fencingEpoch]
    exact h.marker
  · rw [hc.stopEpochMarker, hc.leases, hc.fencingEpoch]
    exact h.stopped

theorem Stage.Holds.calm {stage : Stage} (h : stage.Holds s) (hc : Calm s t) : stage.Holds t := by
  cases stage with
  | advanceEpoch =>
    show t.killLatch = true
    rw [hc.killLatch]
    exact h
  | writeMarker epoch =>
    obtain ⟨hk, he, hl⟩ := h
    refine ⟨?_, ?_, ?_⟩
    · rw [hc.killLatch]
      exact hk
    · rw [hc.fencingEpoch]
      exact he
    · rw [hc.leases, hc.fencingEpoch]
      exact hl
  | removeLatch =>
    show t.stopEpochMarker = none
    rw [hc.stopEpochMarker]
    exact h
  | _ => trivial

/-- Leases issued while the latch is not set: then there is no marker either. -/
theorem Fenced.issues (h : Fenced s) (hi : Issues s t) (hk : s.killLatch = false) : Fenced t := by
  have hmarker : s.stopEpochMarker = none := by
    by_contra hne
    rw [h.latched hne] at hk
    cases hk
  obtain ⟨es, hes, hepoch⟩ := hi.leases
  refine ⟨?_, ?_, ?_, ?_⟩
  · rw [hes, hi.fencingEpoch]
    intro e he
    rcases List.mem_append.1 he with he | he
    · exact h.epochs e he
    · exact (hepoch e he).le
  · rw [hi.stopEpochMarker, hmarker]
    exact fun hne => absurd rfl hne
  · rw [hi.stopEpochMarker, hmarker]
    rintro m hm
    cases hm
  · rw [hi.stopEpochMarker, hmarker]
    intro hm
    cases hm

/-- The latch and the marker may be changed as long as the marker stays under the latch, and names nothing or
an epoch that no lease carries. -/
theorem Fenced.files (h : Fenced s) {latch : Bool} {marker : Option (Option Nat)} (n : Nat)
    (hlatched : marker ≠ none → latch = true)
    (hmarker : ∀ m, marker = some (some m) → m ≤ s.fencingEpoch ∧
      (m = s.fencingEpoch → ∀ e ∈ leaseEpochs s.ledger, e < s.fencingEpoch)) :
    Fenced { s with killLatch := latch, stopEpochMarker := marker, files := n } :=
  ⟨h.epochs, hlatched, fun m hm => (hmarker m hm).1, fun hm => (hmarker _ hm).2 rfl⟩

/-- A move of STOP or resume keeps the fence, issues nothing and hands the next effect what it relies on. -/
structure Kept (w : World) (stage : Stage) (s : Host) : Prop where
  fenced : Fenced (stage.run w s).2
  leases : leaseEpochs (stage.run w s).2.ledger = leaseEpochs s.ledger
  next : ∀ next, (stage.run w s).1 = .ok (some next) → next.Holds (stage.run w s).2

/-- A stage that runs a request and goes on by its answer. -/
theorem kept_of_run {α : Type} {x : Request α} {f : α → Option Stage} {stage : Stage}
    (heq : stage.run w s = (x >>= fun a => pure (f a)) s)
    (hrun : ∀ r t, x s = (r, t) → Fenced t ∧ leaseEpochs t.ledger = leaseEpochs s.ledger ∧
      ∀ a next, r = .ok a → f a = some next → next.Holds t) : Kept w stage s := by
  rcases h1 : x s with ⟨e | a, t⟩
  · obtain ⟨hf, hl, _⟩ := hrun _ _ h1
    rw [bind_of_error h1] at heq
    refine ⟨by rw [heq]; exact hf, by rw [heq]; exact hl, ?_⟩
    rw [heq]
    intro next hn
    cases hn
  · obtain ⟨hf, hl, hnext⟩ := hrun _ _ h1
    rw [bind_of_ok h1] at heq
    refine ⟨by rw [heq]; exact hf, by rw [heq]; exact hl, ?_⟩
    rw [heq]
    intro next hn
    obtain ⟨hfa, _⟩ := pure_ok (show (pure (f a) : Request (Option Stage)) t = (.ok (some next), t) from
      Prod.ext hn rfl)
    exact hnext a next rfl hfa

theorem kept_createLatch (h : Fenced s) : Kept w .createLatch s := by
  have hfiles : ∀ latch, (s.stopEpochMarker ≠ none → latch = true) →
      Fenced { s with killLatch := latch, files := s.files + 1 } := by
    intro latch hl
    exact h.files (s.files + 1) hl fun m hm => ⟨h.marker m hm, by rintro rfl; exact h.stopped hm⟩
  refine kept_of_run (x := createKillLatch w) (f := fun _ => some .advanceEpoch) rfl ?_
  intro r t hr
  unfold createKillLatch at hr
  rw [get_bind] at hr
  split at hr
  · rename_i hk
    cases hr
    refine ⟨h, rfl, ?_⟩
    rintro _ _ - ⟨⟩
    exact hk
  · rcases @fileOperation_cases w (fun s => { s with killLatch := true }) s with hf | ⟨e, hf | hf⟩
    · rw [hf] at hr
      cases hr
      refine ⟨hfiles true fun _ => rfl, rfl, ?_⟩
      rintro _ _ - ⟨⟩
      exact rfl
    · rw [hf] at hr
      cases hr
      refine ⟨hfiles true fun _ => rfl, rfl, ?_⟩
      rintro _ _ ⟨⟩
    · rw [hf] at hr
      cases hr
      refine ⟨hfiles s.killLatch h.latched, rfl, ?_⟩
      rintro _ _ ⟨⟩

theorem kept_advanceEpoch (h : Fenced s) (hk : s.killLatch = true) : Kept w .advanceEpoch s := by
  refine kept_of_run (x := advanceFencingEpoch w) (f := fun epoch => some (.writeMarker epoch)) rfl ?_
  intro r t hr
  unfold advanceFencingEpoch at hr
  rw [get_bind] at hr
  cases hlt : decide (s.fencingEpoch + 1 < 2 ^ 63) with
  | false =>
    rw [hlt, ensure_false_bind] at hr
    cases hr
    refine ⟨h, rfl, ?_⟩
    rintro _ _ ⟨⟩
  | true =>
    rw [hlt, ensure_true_bind] at hr
    have hledger : leaseEpochs (s.ledger ++ [.epochAdvanced "controller" (s.fencingEpoch + 1)]) = leaseEpochs s.ledger := by
      rw [leaseEpochs_append]
      exact List.append_nil _
    rcases h1 : append w (.epochAdvanced "controller" (s.fencingEpoch + 1)) s with ⟨e | u, s₁⟩
    · rw [bind_of_error h1] at hr
      obtain ⟨_, rfl⟩ := append_error h1
      cases hr
      refine ⟨h.calm ⟨rfl, rfl, rfl, rfl⟩, rfl, ?_⟩
      rintro _ _ ⟨⟩
    · rw [bind_of_ok h1, modify_bind] at hr
      obtain ⟨_, rfl⟩ := append_ok h1
      cases hr
      -- every lease and the marker are of the old epoch at most
      have hold : ∀ e ∈ leaseEpochs (s.ledger ++ [.epochAdvanced "controller" (s.fencingEpoch + 1)]),
          e ≤ s.fencingEpoch := by
        rw [hledger]
        exact h.epochs
      refine ⟨⟨?_, h.latched, ?_, ?_⟩, hledger, ?_⟩
      · intro e he
        have := hold e he
        show e ≤ s.fencingEpoch + 1
        omega
      · intro m hm
        have := h.marker m hm
        show m ≤ s.fencingEpoch + 1
        omega
      · intro hm
        exact absurd (h.marker _ hm) (Nat.not_succ_le_self s.fencingEpoch)
      · rintro epoch _ ⟨⟩ ⟨⟩
        refine ⟨hk, rfl, ?_⟩
        intro e he
        have := hold e he
        show e < s.fencingEpoch + 1
        omega

theorem kept_writeMarker {epoch : Nat} (h : Fenced s) (hh : (Stage.writeMarker epoch).Holds s) :
    Kept w (.writeMarker epoch) s := by
  obtain ⟨hk, rfl, hleases⟩ := hh
  have hfiles : ∀ marker n, (∀ m, marker = some (some m) → m = s.fencingEpoch) →
      Fenced { s with stopEpochMarker := marker, files := n } := by
    intro marker n hm
    exact h.files n (fun _ => hk) fun m hmark => ⟨(hm m hmark).le, fun _ => hleases⟩
  -- a marker that was cut short is no epoch
  have htruncated : ∀ n, Fenced { s with stopEpochMarker := some none, files := n } := by
    intro n
    refine hfiles _ n ?_
    rintro m ⟨⟩
  have hwritten : ∀ n, Fenced { s with stopEpochMarker := some (some s.fencingEpoch), files := n } := by
    intro n
    refine hfiles _ n ?_
    rintro m ⟨⟩
    rfl
  refine kept_of_run (x := writeStopEpochMarker w s.fencingEpoch) (f := fun _ => some (.recordStop s.fencingEpoch)) rfl ?_
  have hdone : ∀ (r : Except HttpError Unit) (t : Host) (a : Unit) (next : Stage), r = .ok a →
      some (Stage.recordStop s.fencingEpoch) = some next → next.Holds t := by
    rintro _ _ _ _ - ⟨⟩
    trivial
  intro r t hr
  unfold writeStopEpochMarker at hr
  -- the write may fail before or after it truncates the file
  rcases @fileOperation_cases w (fun s => { s with stopEpochMarker := some none }) s with hf | ⟨e, hf | hf⟩
  · rw [bind_of_ok hf] at hr
    rcases @fileOperation_cases w (fun t => { t with stopEpochMarker := some (some s.fencingEpoch) })
      { s with stopEpochMarker := some none, files := s.files + 1 } with hf | ⟨e, hf | hf⟩
    · rw [hf] at hr
      cases hr
      exact ⟨hwritten _, rfl, hdone _ _⟩
    · rw [hf] at hr
      cases hr
      exact ⟨hwritten _, rfl, hdone _ _⟩
    · rw [hf] at hr
      cases hr
      exact ⟨htruncated _, rfl, hdone _ _⟩
  · rw [bind_of_error hf] at hr
    cases hr
    exact ⟨htruncated _, rfl, hdone _ _⟩
  · rw [bind_of_error hf] at hr
    cases hr
    exact ⟨h.calm ⟨rfl, rfl, rfl, rfl⟩, rfl, hdone _ _⟩

/-- The last effect of STOP and of resume is a record. -/
theorem kept_record {stage : Stage} {e : Event} (he : leaseEpochsOf e = [])
    (heq : stage.run w s = (append w e >>= fun _ => pure none) s) (h : Fenced s) : Kept w stage s := by
  refine kept_of_run (x := append w e) (f := fun _ => none) heq ?_
  intro r t hr
  have hledger : leaseEpochs (s.ledger ++ [e]) = leaseEpochs s.ledger := by
    rw [leaseEpochs_append]
    simp [leaseEpochs, he]
  rcases r with err | u
  · obtain ⟨_, rfl⟩ := append_error hr
    refine ⟨h.calm ⟨rfl, rfl, rfl, rfl⟩, rfl, ?_⟩
    rintro _ _ - ⟨⟩
  · obtain ⟨_, rfl⟩ := append_ok hr
    refine ⟨h.calm ⟨rfl, rfl, rfl, hledger⟩, hledger, ?_⟩
    rintro _ _ - ⟨⟩

theorem kept_removeMarker (h : Fenced s) : Kept w .removeMarker s := by
  have hgone : ∀ n, Fenced { s with stopEpochMarker := none, files := n } := by
    intro n
    refine h.files n (fun hne => absurd rfl hne) ?_
    rintro m ⟨⟩
  refine kept_of_run (x := removeStopEpochMarker w) (f := fun _ => some .removeLatch) rfl ?_
  intro r t hr
  unfold removeStopEpochMarker at hr
  rw [get_bind] at hr
  split at hr
  · rcases @fileOperation_cases w (fun s => { s with stopEpochMarker := none }) s with hf | ⟨e, hf | hf⟩
    · rw [hf] at hr
      cases hr
      refine ⟨hgone _, rfl, ?_⟩
      rintro _ _ - ⟨⟩
      exact rfl
    · rw [hf] at hr
      cases hr
      refine ⟨hgone _, rfl, ?_⟩
      rintro _ _ ⟨⟩
    · rw [hf] at hr
      cases hr
      refine ⟨h.calm ⟨rfl, rfl, rfl, rfl⟩, rfl, ?_⟩
      rintro _ _ ⟨⟩
  · rename_i hnone
    cases hr
    refine ⟨h, rfl, ?_⟩
    rintro _ _ - ⟨⟩
    show s.stopEpochMarker = none
    simpa using hnone

theorem kept_removeLatch (h : Fenced s) (hm : s.stopEpochMarker = none) : Kept w .removeLatch s := by
  have hfree : ∀ n, Fenced { s with killLatch := false, files := n } := by
    intro n
    refine h.files n (fun hne => absurd hm hne) ?_
    rw [hm]
    rintro m ⟨⟩
  have hdone : ∀ (r : Except HttpError Unit) (t : Host) (a : Unit) (next : Stage), r = .ok a →
      some Stage.recordResume = some next → next.Holds t := by
    rintro _ _ _ _ - ⟨⟩
    trivial
  refine kept_of_run (x := removeKillLatch w) (f := fun _ => some .recordResume) rfl ?_
  intro r t hr
  unfold removeKillLatch at hr
  rw [get_bind] at hr
  split at hr
  · rcases @fileOperation_cases w (fun s => { s with killLatch := false }) s with hf | ⟨e, hf | hf⟩
    · rw [hf] at hr
      cases hr
      exact ⟨hfree _, rfl, hdone _ _⟩
    · rw [hf] at hr
      cases hr
      exact ⟨hfree _, rfl, hdone _ _⟩
    · rw [hf] at hr
      cases hr
      exact ⟨h.calm ⟨rfl, rfl, rfl, rfl⟩, rfl, hdone _ _⟩
  · cases hr
    exact ⟨h, rfl, hdone _ _⟩

/-- Every effect of STOP and resume. -/
theorem kept_stage {stage : Stage} (h : Fenced s) (hh : stage.Holds s) : Kept w stage s := by
  cases stage with
  | createLatch => exact kept_createLatch h
  | advanceEpoch => exact kept_advanceEpoch h hh
  | writeMarker epoch => exact kept_writeMarker h hh
  | recordStop epoch => exact kept_record rfl rfl h
  | removeMarker => exact kept_removeMarker h
  | removeLatch => exact kept_removeLatch h hh
  | recordResume => exact kept_record rfl rfl h

end

/-! ## Runs -/

/-- The fence, and what the holder of the gate relies on. -/
structure GateFenced (g : Gate) : Prop where
  fenced : Fenced g.host
  holder : ∀ stage, g.holder = some stage → stage.Holds g.host

section

variable {cfg : Config} {w : World}

theorem gateFenced_initial (epoch : Nat) (head : String → Except String ArtifactRefV1) :
    GateFenced (Gate.initial epoch head) := by
  refine ⟨⟨?_, ?_, ?_, ?_⟩, ?_⟩
  · intro e he
    cases he
  · intro hne
    exact absurd rfl hne
  · rintro m ⟨⟩
  · rintro ⟨⟩
  · rintro stage ⟨⟩

/-- Before the gate a request changes nothing. -/
theorem calm_arrive (g : Gate) (request : Arrival) :
    Calm g.host (arrive w g request).2.host ∧ (arrive w g request).2.holder = g.holder := by
  have calm : ∀ {s t : Host}, Quiet (fun _ => False) s t → Calm s t := fun h => h.toFrame.calm fun _ => False.elim
  have same : Calm g.host g.host := ⟨rfl, rfl, rfl, rfl⟩
  cases request with
  | submitJob job =>
    have q := calm (quiet_submitJobArrive (w := w) job g.host)
    unfold arrive
    dsimp only
    split <;> rename_i h <;> rw [h] at q <;> exact ⟨q, rfl⟩
  | submitShardSet set =>
    have q := calm (quiet_submitShardSetArrive (w := w) set g.host)
    unfold arrive
    dsimp only
    split <;> rename_i h <;> rw [h] at q <;> exact ⟨q, rfl⟩
  | authorizePromotionCanary candidate =>
    have q := calm (quiet_refuseWhileKilled g.host)
    unfold arrive
    dsimp only
    split <;> rename_i h <;> rw [h] at q <;> exact ⟨q, rfl⟩
  | localStop => exact ⟨same, rfl⟩
  | localResume confirmation =>
    have quiet : Keeps (Quiet fun _ => False) (localResumeArrive confirmation) := Keeps.ensure _ _
    have q := calm (quiet g.host)
    unfold arrive
    dsimp only
    split <;> rename_i h <;> rw [h] at q <;> exact ⟨q, rfl⟩

/-- What a request does under the gate: it issues leases of the current epoch, if it is a submission. -/
theorem issues_enter (g : Gate) (p : Waiting) : Issues g.host (enter cfg w g p).2.host := by
  have same : Calm g.host g.host := ⟨rfl, rfl, rfl, rfl⟩
  cases p with
  | job job => exact issues_submitJobGated job g.host
  | shardSet set now valid => exact issues_submitShardSetGated valid g.host
  | canary candidate => exact issues_authorizePromotionCanaryGated candidate g.host
  | stop =>
    unfold enter
    dsimp only
    split <;> exact same.issues
  | resume => exact same.issues

theorem host_enter {g : Gate} {p : Waiting} (hp : p.isSubmission = false) : (enter cfg w g p).2.host = g.host := by
  cases p with
  | stop =>
    unfold enter
    dsimp only
    split <;> rfl
  | resume => rfl
  | job | shardSet | canary => cases hp

theorem holder_enter {g : Gate} {p : Waiting} (hh : g.holder = none) {stage : Stage}
    (h : (enter cfg w g p).2.holder = some stage) : stage = .createLatch ∨ stage = .removeMarker := by
  cases p with
  | stop =>
    unfold enter at h
    dsimp only at h
    split at h
    · rw [hh] at h
      cases h
    · cases h
      exact Or.inl rfl
  | resume =>
    cases h
    exact Or.inr rfl
  | job | shardSet | canary =>
    change g.holder = some stage at h
    rw [hh] at h
    cases h

/-- Nobody is given the gate, or a suspended request enters it. -/
theorem acquire_cases (g : Gate) (i : Nat) : (acquire cfg w g i).2 = g ∨ ∃ g' p, g.waiting[i]? = some p ∧
    g.holder = none ∧ g'.host = g.host ∧ g'.holder = none ∧ acquire cfg w g i = enter cfg w g' p := by
  cases hh : g.holder with
  | some stage =>
    refine Or.inl ?_
    simp only [acquire, hh]
  | none =>
    cases hp : g.waiting[i]? with
    | none =>
      refine Or.inl ?_
      simp only [acquire, hh, hp]
    | some p =>
      refine Or.inr ⟨{ g with waiting := g.waiting.eraseIdx i }, p, rfl, rfl, rfl, hh, ?_⟩
      simp only [acquire, hh, hp]

/-- A move that meets the condition keeps the fence, and issues a lease only if the latch is not set. -/
theorem gateStep_fenced {g : Gate} {m : Move} (h : GateFenced g) (hc : respectsLatch g m = true) :
    GateFenced (gateStep cfg w m g).2 ∧
      (g.host.killLatch = true → leaseEpochs (gateStep cfg w m g).2.host.ledger = leaseEpochs g.host.ledger) := by
  cases m with
  | arrive request =>
    obtain ⟨hcalm, hholder⟩ := calm_arrive (w := w) g request
    refine ⟨⟨h.fenced.calm hcalm, ?_⟩, fun _ => hcalm.leases⟩
    intro stage hs
    exact (h.holder stage (by rw [← hholder]; exact hs)).calm hcalm
  | acquire i =>
    show GateFenced (acquire cfg w g i).2 ∧ _
    rcases @acquire_cases cfg w g i with hidle | ⟨g', p, hp, hh, hhost, hholder, henter⟩
    · rw [hidle]
      refine ⟨h, fun _ => ?_⟩
      show leaseEpochs (acquire cfg w g i).2.host.ledger = _
      rw [hidle]
    have hleases : leaseEpochs (gateStep cfg w (.acquire i) g).2.host.ledger =
        leaseEpochs (enter cfg w g' p).2.host.ledger := by
      show leaseEpochs (acquire cfg w g i).2.host.ledger = _
      rw [henter]
    rw [hleases, henter]
    have hstage : ∀ stage, (enter cfg w g' p).2.holder = some stage → stage.Holds (enter cfg w g' p).2.host := by
      intro stage hs
      rcases holder_enter hholder hs with rfl | rfl <;> trivial
    cases hsub : p.isSubmission with
    | false =>
      have hsame : (enter cfg w g' p).2.host = g.host := (host_enter hsub).trans hhost
      refine ⟨⟨?_, hstage⟩, fun _ => by rw [hsame]⟩
      rw [hsame]
      exact h.fenced
    | true =>
      -- the condition: the submission is given the gate only when the latch is not set
      have hk : g.host.killLatch = false := by
        simpa [respectsLatch, hp, hh, hsub] using hc
      have hissues : Issues g.host (enter cfg w g' p).2.host := by
        rw [← hhost]
        exact issues_enter g' p
      refine ⟨⟨h.fenced.issues hissues hk, hstage⟩, ?_⟩
      rw [hk]
      intro hlatch
      cases hlatch
  | proceed =>
    unfold gateStep proceed
    dsimp only
    cases hh : g.holder with
    | none => exact ⟨⟨h.fenced, fun stage hs => h.holder stage hs⟩, fun _ => rfl⟩
    | some stage =>
      have hkept : Kept w stage g.host := kept_stage h.fenced (h.holder stage hh)
      dsimp only
      split
      · rename_i next s hr
        have hn := hkept.next next
        have hf := hkept.fenced
        have hl := hkept.leases
        rw [hr] at hn hf hl
        refine ⟨⟨hf, ?_⟩, fun _ => hl⟩
        rintro stage' ⟨⟩
        exact hn rfl
      · rename_i s hr
        have hf := hkept.fenced
        have hl := hkept.leases
        rw [hr] at hf hl
        refine ⟨⟨hf, ?_⟩, fun _ => hl⟩
        rintro stage' ⟨⟩
      · rename_i e s hr
        have hf := hkept.fenced
        have hl := hkept.leases
        rw [hr] at hf hl
        refine ⟨⟨hf, ?_⟩, fun _ => hl⟩
        rintro stage' ⟨⟩
  | other op =>
    unfold gateStep
    dsimp only
    cases hop : op.isGated with
    | true => exact ⟨h, fun _ => rfl⟩
    | false =>
      have hcalm : Calm g.host (step cfg w op g.host).2 := calm_step hop g.host
      exact ⟨⟨h.fenced.calm hcalm, fun stage hs => (h.holder stage hs).calm hcalm⟩, fun _ => hcalm.leases⟩

end

/-- In every interleaving of requests at the gate in which no suspended submission is given the gate while the
latch is set: no move issues a lease while the latch is set, and whenever STOP has completed and was not
undone, no lease on record carries the epoch it created. -/
theorem stop_is_a_barrier (cfg : Config) (w : World) (epoch : Nat) (head : String → Except String ArtifactRefV1)
    (moves : List Move)
    (hm : (gateMachine cfg w).Meets (fun g m => respectsLatch g m = true) moves (Gate.initial epoch head)) :
    (∀ before m after, moves = before ++ m :: after →
      let g := (gateMachine cfg w).exec before (Gate.initial epoch head)
      g.host.killLatch = true → leaseEpochs (gateStep cfg w m g).2.host.ledger = leaseEpochs g.host.ledger) ∧
    let g := (gateMachine cfg w).exec moves (Gate.initial epoch head)
    isStopped g.host.toAppState = true → ∀ e ∈ leaseEpochs g.host.ledger, e < g.host.fencingEpoch := by
  have hrun : ∀ moves, (gateMachine cfg w).Meets (fun g m => respectsLatch g m = true) moves (Gate.initial epoch head) →
      GateFenced ((gateMachine cfg w).exec moves (Gate.initial epoch head)) := by
    intro moves hmeets
    exact (gateMachine cfg w).state_invariant (I := GateFenced) (fun g m hg hc => (gateStep_fenced hg hc).1) moves
      (gateFenced_initial epoch head) hmeets
  constructor
  · intro before m after hsplit
    subst hsplit
    rw [Machine.meets_append] at hm
    exact (gateStep_fenced (hrun before hm.1) hm.2.1).2
  · intro g hs
    refine (hrun moves hm).fenced.stopped ?_
    simp only [isStopped, Bool.and_eq_true, beq_iff_eq] at hs
    exact Option.join_eq_some_iff.1 hs.2

/-! ## Two interleavings -/

section

open Scenario

/-- The store has no artifact. -/
def noHead : String → Except String ArtifactRefV1 := fun _ => .error "missing"

/-- A submission is given the gate before STOP, which then completes. -/
theorem stop_is_a_barrier_clear :
    let moves := setup.map Move.other ++ [.arrive (.submitJob (job 9 "k1")), .arrive .localStop, .acquire 0, .acquire 0,
      .proceed, .proceed, .proceed, .proceed]
    let g := (gateMachine config world).exec moves (Gate.initial 0 noHead)
    isStopped g.host.toAppState = true ∧ leaseEpochs g.host.ledger = [0] ∧ g.host.fencingEpoch = 1 ∧
      ∀ e ∈ leaseEpochs g.host.ledger, e < g.host.fencingEpoch := by
  intro moves g
  have hm : (gateMachine config world).Meets (fun g m => respectsLatch g m = true) moves (Gate.initial 0 noHead) := by
    decide +kernel
  have hs : isStopped g.host.toAppState = true := by decide +kernel
  have hbarrier := (stop_is_a_barrier config world 0 noHead moves hm).2 hs
  refine ⟨hs, by decide +kernel, by decide +kernel, hbarrier⟩

/-- The submission arrives, STOP is given the gate first and completes; then the submission is given the gate
and issues a lease of the epoch STOP created, under the latch. -/
theorem stop_lets_suspended_request_through :
    let moves := setup.map Move.other ++ [.arrive (.submitJob (job 9 "k1")), .arrive .localStop, .acquire 1,
      .proceed, .proceed, .proceed, .proceed]
    let g := (gateMachine config world).exec moves (Gate.initial 0 noHead)
    let g' := (gateStep config world (.acquire 0) g).2
    g.holder = none ∧ isStopped g.host.toAppState = true ∧ leaseEpochs g.host.ledger = [] ∧
      g'.host.killLatch = true ∧ isStopped g'.host.toAppState = true ∧
      leaseEpochs g'.host.ledger = [g'.host.fencingEpoch] := by
  decide +kernel

end

end Rampage.Controller
