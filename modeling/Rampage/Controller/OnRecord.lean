/-
What the ledger has on record about a node: the identity a restart restores for it, and its newest recorded offer with
whether a revocation came after it. `restore_state` looks the offers up outside the ordered replay, so nothing ties the
newest offer of a node to the enrolment it was recorded under; `authentic_iff` says what has to hold of the record for
every restored offer to verify under the restored identity and to be younger than the last revocation.
-/
import Rampage.Controller.Locks

namespace Rampage.Controller

open Rampage.Protocol Rampage.Planner Rampage.Governor Rampage.Ledger

/-! ## The record -/

/-- One event of the record of a node's identity. -/
def noteIdentity (nodeId : Uuid) (r : Option NodeIdentityV1) : Event → Option NodeIdentityV1
  | .nodeEnrolled identity => if identity.nodeId = nodeId then some identity else r
  | .nodeRevoked n _ _ => if n = nodeId then none else r
  | _ => r

/-- The identity a node was last enrolled with, unless a revocation came after it. -/
def identityOnRecord (nodeId : Uuid) (l : List Event) : Option NodeIdentityV1 := l.foldl (noteIdentity nodeId) none

/-- One event of the record of a node's offers. -/
def noteOffer (nodeId : Uuid) (r : Option (ResourceOfferV1 × Bool)) : Event → Option (ResourceOfferV1 × Bool)
  | .resourceOfferRegistered offer => if offer.nodeId = nodeId then some (offer, true) else r
  | .nodeRevoked n _ _ => if n = nodeId then r.map fun p => (p.1, false) else r
  | _ => r

/-- The newest recorded offer of a node, and whether no revocation of the node came after it. -/
def offerOnRecord (nodeId : Uuid) (l : List Event) : Option (ResourceOfferV1 × Bool) := l.foldl (noteOffer nodeId) none

/-- The events about nodes and their offers. -/
def deviceKinds : List EventKind := [.nodeEnrolled, .nodeRevoked, .resourceOfferRegistered]

section

variable {now : Int} {epoch : Nat} {nodeId : Uuid} {l : List Event}

theorem identityOnRecord_snoc (l : List Event) (e : Event) :
    identityOnRecord nodeId (l ++ [e]) = noteIdentity nodeId (identityOnRecord nodeId l) e := by
  rw [identityOnRecord, List.foldl_append]
  rfl

theorem offerOnRecord_snoc (l : List Event) (e : Event) :
    offerOnRecord nodeId (l ++ [e]) = noteOffer nodeId (offerOnRecord nodeId l) e := by
  rw [offerOnRecord, List.foldl_append]
  rfl

/-- Other events are on neither record. -/
theorem note_eq {e : Event} (he : e.kind ∉ deviceKinds) (r : Option NodeIdentityV1) (o : Option (ResourceOfferV1 × Bool)) :
    noteIdentity nodeId r e = r ∧ noteOffer nodeId o e = o := by
  cases e with
  | nodeEnrolled | nodeRevoked | resourceOfferRegistered => exact absurd (by simp [Event.kind, deviceKinds]) he
  | _ => exact ⟨rfl, rfl⟩

theorem onRecord_append {es : List Event} (hes : ∀ e ∈ es, e.kind ∉ deviceKinds) :
    identityOnRecord nodeId (l ++ es) = identityOnRecord nodeId l ∧ offerOnRecord nodeId (l ++ es) = offerOnRecord nodeId l := by
  induction es using List.reverseRecOn with
  | nil => simp
  | append_singleton es e ih =>
    obtain ⟨hi, ho⟩ := ih fun e' he' => hes e' (List.mem_append_left _ he')
    have he : e.kind ∉ deviceKinds := hes e (by simp)
    rw [← List.append_assoc, identityOnRecord_snoc, offerOnRecord_snoc, hi, ho]
    exact note_eq he _ _

/-- The replay restores the identities on record. -/
theorem replay_nodes (now : Int) (epoch : Nat) (nodeId : Uuid) (l : List Event) :
    (replay now epoch l).nodes.lookup nodeId = identityOnRecord nodeId l := by
  induction l using List.reverseRecOn with
  | nil =>
    rw [replay_nil]
    rfl
  | append_singleton l e ih =>
    rw [identityOnRecord_snoc, replay_snoc, ← ih]
    cases e with
    | nodeEnrolled identity =>
      show ((replay now epoch l).nodes.insert _ _).lookup nodeId = _
      rw [Table.lookup_insert']
      simp only [noteIdentity, eq_comm]
    | nodeRevoked n name key =>
      show ((replay now epoch l).nodes.erase _).lookup nodeId = _
      rw [Table.lookup_erase']
      simp only [noteIdentity, eq_comm]
    | inviteCreated i expires hash =>
      simp only [replayEvent]
      split <;> rfl
    | _ => rfl

/-- The offer on record is the node's. -/
theorem offerOnRecord_nodeId {p : ResourceOfferV1 × Bool} (h : offerOnRecord nodeId l = some p) : p.1.nodeId = nodeId := by
  induction l using List.reverseRecOn generalizing p with
  | nil => cases h
  | append_singleton l e ih =>
    rw [offerOnRecord_snoc] at h
    cases e with
    | resourceOfferRegistered offer =>
      simp only [noteOffer] at h
      split at h
      · rename_i hn
        cases h
        exact hn
      · exact ih h
    | nodeRevoked n name key =>
      simp only [noteOffer] at h
      split at h
      · obtain ⟨q, hq, rfl⟩ := Option.map_eq_some_iff.1 h
        exact @ih q hq
      · exact ih h
    | _ => exact ih h

/-- The index lookup of `restore_state` finds the newest recorded offer. -/
theorem latest_eq (nodeId : Uuid) (l : List Event) :
    latestEventForSubjectOfType l (.id nodeId) .resourceOfferRegistered =
      (offerOnRecord nodeId l).map fun p => .resourceOfferRegistered p.1 := by
  induction l using List.reverseRecOn with
  | nil => rfl
  | append_singleton l e ih =>
    unfold latestEventForSubjectOfType at ih ⊢
    rw [List.filter_append, offerOnRecord_snoc]
    cases e with
    | resourceOfferRegistered offer =>
      by_cases hn : offer.nodeId = nodeId
      · have hf : [Event.resourceOfferRegistered offer].filter
            (fun e => e.subject == .id nodeId && e.kind == .resourceOfferRegistered) = [.resourceOfferRegistered offer] := by
          simp [Event.subject, Event.kind, hn]
        rw [hf, List.getLast?_append]
        simp [noteOffer, hn]
      · have hf : [Event.resourceOfferRegistered offer].filter
            (fun e => e.subject == .id nodeId && e.kind == .resourceOfferRegistered) = [] := by
          simp [Event.subject, hn]
        rw [hf, List.append_nil, ih]
        simp [noteOffer, hn]
    | nodeRevoked n name key =>
      have hf : [Event.nodeRevoked n name key].filter
          (fun e => e.subject == .id nodeId && e.kind == .resourceOfferRegistered) = [] := by
        simp [Event.kind]
      rw [hf, List.append_nil, ih]
      simp only [noteOffer]
      split
      · rw [Option.map_map]
        rfl
      · rfl
    | artifactHeld held artifact n =>
      have hk : held.kind ≠ .resourceOfferRegistered := by cases held <;> simp [HeldKind.kind]
      have hf : [Event.artifactHeld held artifact n].filter
          (fun e => e.subject == .id nodeId && e.kind == .resourceOfferRegistered) = [] := by
        simp [Event.kind, hk]
      rw [hf, List.append_nil, ih]
      rfl
    | _ =>
      rw [List.filter_cons_of_neg (by simp [Event.kind]), List.filter_nil, List.append_nil, ih]
      rfl

/-- The offer on record is younger than the last revocation exactly if it is flagged so. -/
theorem offerOnRecord_young : (∃ offer before after, offer.nodeId = nodeId ∧
      l = before ++ .resourceOfferRegistered offer :: after ∧ ∀ name key, .nodeRevoked nodeId name key ∉ after) →
    ∃ offer, offerOnRecord nodeId l = some (offer, true) := by
  rintro ⟨offer, before, after, hn, rfl, hno⟩
  induction after using List.reverseRecOn with
  | nil =>
    refine ⟨offer, ?_⟩
    rw [offerOnRecord_snoc]
    simp [noteOffer, hn]
  | append_singleton after e ih =>
    obtain ⟨young, hyoung⟩ := ih fun name key hm => hno name key (List.mem_append_left _ hm)
    have hassoc : before ++ .resourceOfferRegistered offer :: (after ++ [e]) =
        (before ++ .resourceOfferRegistered offer :: after) ++ [e] := by simp
    rw [hassoc, offerOnRecord_snoc, hyoung]
    cases e with
    | resourceOfferRegistered newer =>
      simp only [noteOffer]
      split
      · exact ⟨newer, rfl⟩
      · exact ⟨young, rfl⟩
    | nodeRevoked n name key =>
      have hne : n ≠ nodeId := by
        rintro rfl
        exact hno name key (by simp)
      exact ⟨young, by simp [noteOffer, hne]⟩
    | _ => exact ⟨young, rfl⟩

theorem young_of_offerOnRecord {offer : ResourceOfferV1} (h : offerOnRecord nodeId l = some (offer, true)) :
    ∃ before after, l = before ++ .resourceOfferRegistered offer :: after ∧ ∀ name key, .nodeRevoked nodeId name key ∉ after := by
  induction l using List.reverseRecOn with
  | nil => cases h
  | append_singleton l e ih =>
    rw [offerOnRecord_snoc] at h
    -- an event that keeps the offer on record goes to the end of what came after it
    have hkeep : offerOnRecord nodeId l = some (offer, true) → (∀ name key, e ≠ .nodeRevoked nodeId name key) →
        ∃ before after, l ++ [e] = before ++ .resourceOfferRegistered offer :: after ∧
          ∀ name key, .nodeRevoked nodeId name key ∉ after := by
      intro hl he
      obtain ⟨before, after, rfl, hno⟩ := ih hl
      refine ⟨before, after ++ [e], by simp, ?_⟩
      intro name key hm
      rcases List.mem_append.1 hm with hm | hm
      · exact hno name key hm
      · exact he name key (List.mem_singleton.1 hm).symm
    cases e with
    | resourceOfferRegistered newer =>
      simp only [noteOffer] at h
      split at h
      · cases h
        exact ⟨l, [], by simp, by simp⟩
      · exact hkeep h (by simp)
    | nodeRevoked n name key =>
      simp only [noteOffer] at h
      split at h
      · obtain ⟨p, _, hp⟩ := Option.map_eq_some_iff.1 h
        cases hp
      · rename_i hne
        refine hkeep h ?_
        rintro _ _ ⟨⟩
        exact hne rfl
    | _ => exact hkeep h (by simp)

/-- The offer `restore_state` restores for an enrolled node. -/
def freshOffer (now : Int) (nodeId : Uuid) (l : List Event) : Option ResourceOfferV1 :=
  ((offerOnRecord nodeId l).map (·.1)).filter fun offer => decide (now < offer.expiresAt)

/-- One round of the loop that restores the offers. -/
theorem restoredOffers_round (now : Int) (l : List Event) (t : Table Uuid ResourceOfferV1) (m : Uuid) :
    (match latestEventForSubjectOfType l (.id m) .resourceOfferRegistered with
      | some (.resourceOfferRegistered offer) =>
        if offer.nodeId = m ∧ now < offer.expiresAt then t.insert m offer else t
      | _ => t) = match freshOffer now m l with
      | some offer => t.insert m offer
      | none => t := by
  rw [latest_eq, freshOffer]
  cases hp : offerOnRecord m l with
  | none => rfl
  | some p =>
    have hn := offerOnRecord_nodeId hp
    by_cases hfresh : now < p.1.expiresAt <;> simp [hn, hfresh, Option.filter_some]

theorem restoredOffers_lookup (now : Int) (l : List Event) (nodes : List Uuid) (nodeId : Uuid) :
    (restoredOffers now l nodes).lookup nodeId = if nodeId ∈ nodes then freshOffer now nodeId l else none := by
  have hfold : ∀ (ns : List Uuid) (t : Table Uuid ResourceOfferV1), (ns.foldl (fun t m =>
      match freshOffer now m l with
      | some offer => t.insert m offer
      | none => t) t).lookup nodeId = if nodeId ∈ ns then (freshOffer now nodeId l).or (t.lookup nodeId) else t.lookup nodeId := by
    intro ns
    induction ns with
    | nil => exact fun t => rfl
    | cons m ns ih =>
      intro t
      rw [List.foldl_cons, ih]
      by_cases hm : nodeId = m
      · subst hm
        cases freshOffer now nodeId l with
        | none => simp
        | some offer => simp
      · cases freshOffer now m l with
        | none => simp [hm]
        | some offer => simp [hm]
  have hround := congrArg (fun g => (nodes.foldl g ∅).lookup nodeId) (funext₂ (restoredOffers_round now l))
  refine (hround.trans (hfold nodes ∅)).trans ?_
  simp

end

/-! ## Authentic records -/

/-- Every offer a restart at this time restores verifies under the identity it restores for the node, and was recorded
after the last revocation of the node. -/
def RestoresAuthentic (x : Peers) (order : IterOrder) (now : Int) (s : AppState) : Prop :=
  ∀ nodeId offer, (restoreState order now s).offers.lookup nodeId = some offer →
    (∃ identity, (restoreState order now s).nodes.lookup nodeId = some identity ∧ verifyOffer x identity offer = .ok ()) ∧
    ∃ before after, s.ledger = before ++ .resourceOfferRegistered offer :: after ∧
      ∀ name key, .nodeRevoked nodeId name key ∉ after

/-- An unexpired offer on record is younger than the last revocation and verifies under the identity on record. -/
def Authentic (x : Peers) (now : Int) (l : List Event) : Prop :=
  ∀ nodeId identity p, identityOnRecord nodeId l = some identity → offerOnRecord nodeId l = some p →
    now < p.1.expiresAt → p.2 = true ∧ verifyOffer x identity p.1 = .ok ()

section

variable {x : Peers} {order : IterOrder} {now : Int} {s : AppState}

/-- A restored offer is the fresh one of a node with an identity on record. -/
theorem restoreState_offers (nodeId : Uuid) : (restoreState order now s).offers.lookup nodeId =
    if (identityOnRecord nodeId s.ledger).isSome then freshOffer now nodeId s.ledger else none := by
  show (restoredOffers now s.ledger (order.apply (replay now s.fencingEpoch s.ledger).nodes.keys)).lookup nodeId = _
  have hmem : nodeId ∈ order.apply (replay now s.fencingEpoch s.ledger).nodes.keys ↔
      (identityOnRecord nodeId s.ledger).isSome = true := by
    rw [IterOrder.mem_apply, ← replay_nodes now s.fencingEpoch]
    exact AList.lookup_isSome.symm
  rw [restoredOffers_lookup]
  simp only [hmem]

theorem restoreState_nodes (nodeId : Uuid) :
    (restoreState order now s).nodes.lookup nodeId = identityOnRecord nodeId s.ledger :=
  replay_nodes now s.fencingEpoch nodeId s.ledger

theorem authentic_iff : RestoresAuthentic x order now s ↔ Authentic x now s.ledger := by
  constructor
  · intro h nodeId identity p hi hp hfresh
    have hoffer : (restoreState order now s).offers.lookup nodeId = some p.1 := by
      rw [restoreState_offers, hi]
      simp [freshOffer, hp, hfresh]
    obtain ⟨⟨identity', hi', hv⟩, before, after, hl, hno⟩ := h nodeId p.1 hoffer
    rw [restoreState_nodes, hi] at hi'
    cases hi'
    obtain ⟨young, hyoung⟩ := offerOnRecord_young ⟨p.1, before, after, offerOnRecord_nodeId hp, hl, hno⟩
    rw [hp] at hyoung
    exact ⟨by rw [Option.some.inj hyoung], hv⟩
  · intro h nodeId offer hoffer
    rw [restoreState_offers] at hoffer
    split at hoffer
    · rename_i hsome
      obtain ⟨identity, hi⟩ := Option.isSome_iff_exists.1 hsome
      obtain ⟨hmap, hfresh⟩ := Option.filter_eq_some_iff.1 hoffer
      obtain ⟨p, hp, rfl⟩ := Option.map_eq_some_iff.1 hmap
      obtain ⟨hyoung, hv⟩ := h nodeId identity p hi hp (by simpa using hfresh)
      refine ⟨⟨identity, by rw [restoreState_nodes, hi], hv⟩, young_of_offerOnRecord ?_⟩
      rw [hp, ← hyoung]
    · cases hoffer

/-- `verify_offer` passes. -/
def verifies (x : Peers) (identity : NodeIdentityV1) (offer : ResourceOfferV1) : Bool :=
  verifyOffer x identity offer matches .ok _

theorem verifies_iff {identity : NodeIdentityV1} {offer : ResourceOfferV1} :
    verifies x identity offer = true ↔ verifyOffer x identity offer = .ok () := by
  unfold verifies
  cases verifyOffer x identity offer with
  | error d => simp
  | ok u => simp

/-- What has to hold of the record for an event to leave it authentic. -/
def keepsAuthentic (x : Peers) (now : Int) (l : List Event) : Event → Bool
  | .nodeEnrolled identity => (offerOnRecord identity.nodeId l).all fun p =>
      decide (p.1.expiresAt ≤ now) || (p.2 && verifies x identity p.1)
  | .resourceOfferRegistered offer => (identityOnRecord offer.nodeId l).all fun identity =>
      decide (offer.expiresAt ≤ now) || verifies x identity offer
  | _ => true

/-- Authentic records stay so exactly if the next event keeps them so. -/
theorem authentic_snoc {l : List Event} (h : Authentic x now l) (e : Event) :
    Authentic x now (l ++ [e]) ↔ keepsAuthentic x now l e = true := by
  cases e with
  | nodeEnrolled enrolled =>
    simp only [Authentic, identityOnRecord_snoc, offerOnRecord_snoc, noteIdentity, noteOffer, keepsAuthentic,
      Option.all_eq_true, Bool.or_eq_true, Bool.and_eq_true, decide_eq_true_eq, verifies_iff]
    constructor
    · intro h' p hp
      by_cases hfresh : now < p.1.expiresAt
      · exact Or.inr (h' enrolled.nodeId enrolled p (by simp) hp hfresh)
      · exact Or.inl (not_lt.1 hfresh)
    · intro hc nodeId identity p hi hp hfresh
      split at hi
      · rename_i hn
        cases hi
        rw [← hn] at hp
        exact (hc p hp).resolve_left (not_le.2 hfresh)
      · exact h nodeId identity p hi hp hfresh
  | resourceOfferRegistered offer =>
    simp only [Authentic, identityOnRecord_snoc, offerOnRecord_snoc, noteIdentity, noteOffer, keepsAuthentic,
      Option.all_eq_true, Bool.or_eq_true, decide_eq_true_eq, verifies_iff]
    constructor
    · intro h' identity hi
      by_cases hfresh : now < offer.expiresAt
      · exact Or.inr (h' offer.nodeId identity (offer, true) hi (by simp) hfresh).2
      · exact Or.inl (not_lt.1 hfresh)
    · intro hc nodeId identity p hi hp hfresh
      split at hp
      · rename_i hn
        cases hp
        rw [← hn] at hi
        exact ⟨rfl, (hc identity hi).resolve_left (not_le.2 hfresh)⟩
      · exact h nodeId identity p hi hp hfresh
  | nodeRevoked n name key =>
    -- the node loses its identity, the others keep both records
    refine iff_of_true ?_ rfl
    intro nodeId identity p hi hp hfresh
    simp only [identityOnRecord_snoc, offerOnRecord_snoc, noteIdentity, noteOffer] at hi hp
    split at hi
    · cases hi
    · rename_i hn
      rw [if_neg hn] at hp
      exact h nodeId identity p hi hp hfresh
  | _ =>
    refine iff_of_true ?_ rfl
    intro nodeId identity p hi hp hfresh
    rw [identityOnRecord_snoc] at hi
    rw [offerOnRecord_snoc] at hp
    exact h nodeId identity p hi hp hfresh

theorem authentic_append {l es : List Event} (hes : ∀ e ∈ es, e.kind ∉ deviceKinds) :
    Authentic x now (l ++ es) ↔ Authentic x now l := by
  have hsame := fun nodeId => @onRecord_append nodeId l es hes
  simp only [Authentic, (hsame _).1, (hsame _).2]

end

end Rampage.Controller
