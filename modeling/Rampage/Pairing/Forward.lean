/-
Pending requests move forward. `step_cases` says everything an event can do to the table: it removes what has ended, and
then adds a request, or acts on one. A request that lives on keeps its key and its challenge, and
`requests_move_forward` follows it through a run in which nobody approves it again.
-/
import Rampage.Pairing.Fragments

namespace Rampage.Pairing

/-! ## The end of a request -/

/-- The owner after an event has removed what it removes. -/
def Owner.cleared (o : Owner) : OwnerEvent → Owner
  | .openWindow name binds now later =>
    if (boundedLabel name "owner name").isOk && (o.socket || binds) then
      pruneOwnerState later (pruneOwnerState now { o with openUntilMs := U64.satAdd now pairingWindowMs })
    else o
  | .window now => pruneOwnerState now o
  | .deactivate => o.deactivate
  | .approve now _ _ _ _ => pruneOwnerState now o
  | .reject requestId _ => if o.socket then { o with pending := AList.erase requestId o.pending } else o
  | .receive now _ d sourceIsLocal _ =>
    match d with
    | some (.enrollmentComplete schema requestId _ _) =>
      if schema ≠ pairingSchema || !validRequestId requestId then o else pruneOwnerState now o
    | some (.hello schema requestId deviceName deviceKind publicKey _ _) =>
      if schema ≠ pairingSchema || !validRequestId requestId || !(boundedLabel deviceName "device name").isOk ||
          deviceKind ≠ "desktop" || sourceIsLocal || (decode32 publicKey).isNone then o
      else pruneOwnerState now o
    | _ => o

/-- The event removes the request: it has expired, is rejected, or the window is closed. -/
def Ends (r : String) (o : Owner) (e : OwnerEvent) : Prop := AList.lookup r (o.cleared e).pending = none

instance (r : String) (o : Owner) (e : OwnerEvent) : Decidable (Ends r o e) :=
  inferInstanceAs (Decidable (AList.lookup r (o.cleared e).pending = none))

theorem lookup_of_prune {now : Nat} {o : Owner} {r : String} {p : PendingPair}
    (h : AList.lookup r (pruneOwnerState now o).pending = some p) : AList.lookup r o.pending = some p := by
  unfold pruneOwnerState at h
  dsimp only at h
  split at h
  · simp at h
  · rw [Table.lookup_retain] at h
    cases hr : AList.lookup r o.pending with
    | none => simp [hr] at h
    | some q =>
      rw [hr] at h
      simp only [Option.filter_some] at h
      split at h
      · exact h
      · cases h

/-- Nothing is changed in what is not removed. -/
theorem lookup_of_cleared {e : OwnerEvent} {o : Owner} {r : String} {p : PendingPair}
    (h : AList.lookup r (o.cleared e).pending = some p) : AList.lookup r o.pending = some p := by
  cases e with
  | openWindow name binds now later =>
    simp only [Owner.cleared] at h
    split at h
    · have hopen := lookup_of_prune (lookup_of_prune h)
      exact hopen
    · exact h
  | window now => exact lookup_of_prune h
  | deactivate => simp [Owner.cleared, Owner.deactivate] at h
  | approve now requestId invitation nonce sends => exact lookup_of_prune h
  | reject requestId sends =>
    simp only [Owner.cleared] at h
    split at h
    · exact Table.lookup_of_erase h
    · exact h
  | receive now source d sourceIsLocal secret =>
    simp only [Owner.cleared] at h
    split at h
    · split at h
      · exact h
      · exact lookup_of_prune h
    · split at h
      · exact h
      · exact lookup_of_prune h
    · exact h

/-! ## What an event can do -/

section

variable {c : Crates}

/-- What an event does to a request that lives on, and what it sends for it. -/
inductive Act (c : Crates) (r : String) (p : PendingPair) : OwnerEvent → PendingPair → Option Delivery → Prop
  | approve {now : Nat} {invitation : String} {nonce : Option Nonce} {sends : Bool} {payloads : List PairingDatagram}
      (h : encryptedApprovalChunks c p invitation nonce = .ok payloads) :
      Act c r p (.approve now r invitation nonce sends) { p with approvalPayloads := some payloads, state := .approved }
        (some ⟨r, p.peerAddr, payloads⟩)
  | complete {now : Nat} {source : SocketAddr} {d : Option PairingDatagram} {sourceIsLocal : Bool} {secret : Option Bytes}
      (h : p.state = .approved) :
      Act c r p (.receive now source d sourceIsLocal secret) { p with state := .completed } none
  | repeated {now : Nat} {source : SocketAddr} {d : Option PairingDatagram} {sourceIsLocal : Bool} {secret : Option Bytes} :
      Act c r p (.receive now source d sourceIsLocal secret) { p with peerAddr := source }
        (some ⟨r, source, p.approvalPayloads.getD [p.challengePayload]⟩)

/-- A request as it is added. -/
structure Fresh (r : String) (p : PendingPair) : Prop where
  requestId : p.requestId = r
  valid : validRequestId r = true
  payloads : p.approvalPayloads = none
  state : p.state = .awaitingApproval

/-- Everything an event can do to the table of requests. -/
inductive Change (c : Crates) (e : OwnerEvent) (o o' : Owner) : Option Delivery → Prop
  /-- It only removes; what it sends is for a request it rejects. -/
  | clear {delivery : Option Delivery} (hpending : o'.pending = (o.cleared e).pending)
      (hsends : ∀ d, delivery = some d →
        AList.lookup d.requestId (o.cleared e).pending = none ∧ ∃ requestId sends, e = .reject requestId sends) :
      Change c e o o' delivery
  /-- It acts on a request. -/
  | act {r : String} {p p' : PendingPair} {delivery : Option Delivery} (hp : AList.lookup r (o.cleared e).pending = some p)
      (hact : Act c r p e p' delivery) (hpending : o'.pending = AList.insert r p' (o.cleared e).pending) :
      Change c e o o' delivery
  /-- It adds a request. -/
  | add {r : String} {p : PendingPair} {delivery : Option Delivery} (hnone : AList.lookup r (o.cleared e).pending = none)
      (hfresh : Fresh r p) (hpending : o'.pending = AList.insert r p (o.cleared e).pending)
      (hsends : ∀ d, delivery = some d → d.requestId = r)
      (hreceive : ∃ now source d sourceIsLocal secret, e = .receive now source d sourceIsLocal secret) :
      Change c e o o' delivery

theorem clear_of_eq {e : OwnerEvent} {o o' : Owner} (h : o'.pending = (o.cleared e).pending) : Change c e o o' none :=
  .clear h (by simp)

theorem openWindow_change {name : String} {binds : Bool} {now later : Nat} {o : Owner} :
    Change c (.openWindow name binds now later) o (o.openWindow name binds now later).2
      (o.openWindow name binds now later).1.delivery := by
  unfold Owner.openWindow
  cases hlabel : boundedLabel name "owner name" with
  | error e =>
    refine clear_of_eq ?_
    simp [Owner.cleared, hlabel, Except.isOk, Except.toBool]
  | ok label =>
    dsimp only
    split
    · rename_i hsocket
      refine clear_of_eq ?_
      have hclosed : (o.socket || binds) = false := by simpa using hsocket
      simp [Owner.cleared, hclosed]
    · rename_i hsocket
      refine clear_of_eq ?_
      have hopen : (o.socket || binds) = true := by
        cases hs : o.socket <;> cases hb : binds <;> simp_all
      simp only [Owner.cleared, hlabel, hopen, Except.isOk, Except.toBool, Bool.and_self, if_true, Owner.window]
      rfl

theorem approve_change {now : Nat} {requestId invitation : String} {nonce : Option Nonce} {sends : Bool} {o : Owner} :
    Change c (.approve now requestId invitation nonce sends) o (o.approve c now requestId invitation nonce sends).2
      (o.approve c now requestId invitation nonce sends).1.delivery := by
  unfold Owner.approve
  dsimp only
  split
  · exact clear_of_eq rfl
  split
  · exact clear_of_eq rfl
  rename_i pending hpending
  split
  · exact clear_of_eq rfl
  · rename_i payloads hpayloads
    exact .act hpending (.approve hpayloads) rfl

theorem reject_change {requestId : String} {sends : Bool} {o : Owner} :
    Change c (.reject requestId sends) o (o.reject requestId sends).2 (o.reject requestId sends).1.delivery := by
  unfold Owner.reject
  split
  · rename_i hsocket
    have hclosed : o.socket = false := by simpa using hsocket
    exact clear_of_eq (by simp [Owner.cleared, hclosed])
  rename_i hsocket
  have hopen : o.socket = true := by simpa using hsocket
  split
  · rename_i hnone
    refine clear_of_eq ?_
    simp only [Owner.cleared, hopen, if_true]
    exact (Table.erase_eq_self hnone).symm
  · refine .clear (by simp [Owner.cleared, hopen]) ?_
    rintro d ⟨⟩
    exact ⟨by simp [Owner.cleared, hopen], _, _, rfl⟩

theorem receiveCompletion_change {now : Nat} {source : SocketAddr} {schema requestId nonce ciphertext : String}
    {sourceIsLocal : Bool} {secret : Option Bytes} {o : Owner} :
    Change c (.receive now source (some (.enrollmentComplete schema requestId nonce ciphertext)) sourceIsLocal secret) o
      (o.receiveCompletion c now source schema requestId nonce ciphertext) none := by
  unfold Owner.receiveCompletion
  split
  · rename_i hbad
    exact clear_of_eq (by simp only [Owner.cleared, if_pos hbad])
  rename_i hgood
  have hcleared : o.cleared (.receive now source (some (.enrollmentComplete schema requestId nonce ciphertext)) sourceIsLocal
      secret) = pruneOwnerState now o := by
    simp only [Owner.cleared, if_neg hgood]
  dsimp only
  split
  · exact clear_of_eq (by rw [hcleared])
  rename_i pending hpending
  split
  · exact clear_of_eq (by rw [hcleared])
  rename_i hstate
  split
  · refine .act (r := requestId) (p := pending) (by rw [hcleared]; exact hpending) (.complete ?_) (by rw [hcleared])
    exact not_not.1 (not_or.1 hstate).2
  · exact clear_of_eq (by rw [hcleared])

theorem receiveHello_change {now : Nat} {source : SocketAddr} {schema requestId deviceName deviceKind publicKey : String}
    {issuedAtMs expiresAtMs : Nat} {sourceIsLocal : Bool} {secret : Option Bytes} {o : Owner} :
    Change c (.receive now source (some (.hello schema requestId deviceName deviceKind publicKey issuedAtMs expiresAtMs))
        sourceIsLocal secret) o
      (o.receiveHello c now source schema requestId deviceName deviceKind publicKey sourceIsLocal secret).2
      (o.receiveHello c now source schema requestId deviceName deviceKind publicKey sourceIsLocal secret).1 := by
  unfold Owner.receiveHello
  split
  · rename_i hbad
    refine clear_of_eq ?_
    simp only [Owner.cleared]
    rw [if_pos (by rw [Bool.or_eq_true]; exact Or.inl hbad)]
  -- a hello that is not well formed does not even prune
  rename_i hgood
  split
  · rename_i hkey
    refine clear_of_eq ?_
    simp only [Owner.cleared]
    rw [if_pos (by rw [hkey]; simp)]
  rename_i peerPublic hkey
  have hcleared : o.cleared (.receive now source (some (.hello schema requestId deviceName deviceKind publicKey issuedAtMs
      expiresAtMs)) sourceIsLocal secret) = pruneOwnerState now o := by
    simp only [Owner.cleared]
    rw [if_neg]
    rw [hkey, Option.isNone_some, Bool.or_false]
    exact hgood
  dsimp only
  split
  · exact clear_of_eq (by rw [hcleared])
  split
  · rename_i existing hexisting
    split
    · exact clear_of_eq (by rw [hcleared])
    · exact .act (r := requestId) (by rw [hcleared]; exact hexisting) .repeated (by rw [hcleared])
  -- the request is new: it is refused or stored as one that waits
  rename_i hnone
  split
  · exact clear_of_eq (by rw [hcleared])
  split
  · exact clear_of_eq (by rw [hcleared])
  split
  · exact clear_of_eq (by rw [hcleared])
  refine .add (r := requestId) (by rw [hcleared]; exact hnone) ⟨rfl, ?_, rfl, rfl⟩ (by rw [hcleared]) ?_ ⟨_, _, _, _, _, rfl⟩
  · simp only [Bool.or_eq_true, not_or] at hgood
    simpa using hgood.1.1.1.2
  · rintro d ⟨⟩
    rfl

theorem step_change (e : OwnerEvent) (o : Owner) : Change c e o (o.step c e).2 (o.step c e).1.delivery := by
  cases e with
  | openWindow name binds now later =>
    rw [Owner.step]
    exact openWindow_change
  | window now => exact clear_of_eq rfl
  | deactivate => exact clear_of_eq rfl
  | approve now requestId invitation nonce sends => exact approve_change
  | reject requestId sends => exact reject_change
  | receive now source d sourceIsLocal secret =>
    cases d with
    | none => exact clear_of_eq rfl
    | some d =>
      cases d with
      | hello schema requestId deviceName deviceKind publicKey issuedAtMs expiresAtMs => exact receiveHello_change
      | enrollmentComplete schema requestId nonce ciphertext => exact receiveCompletion_change
      | challenge schema requestId ownerName publicKey expiresAtMs => exact clear_of_eq rfl
      | approval schema requestId nonce ciphertext => exact clear_of_eq rfl
      | approvalChunk schema requestId nonce index count chunk => exact clear_of_eq rfl
      | rejected schema requestId reason => exact clear_of_eq rfl

/-! ## Reachable tables -/

/-- What holds of every request: it stands under its id, and it has payloads exactly if it was approved. -/
structure Sane (o : Owner) : Prop where
  requestId : ∀ r p, AList.lookup r o.pending = some p → p.requestId = r ∧ validRequestId r = true
  payloads : ∀ r p, AList.lookup r o.pending = some p → (p.approvalPayloads = none ↔ p.state = .awaitingApproval)

theorem sane_new : Sane Owner.new := ⟨by simp [Owner.new], by simp [Owner.new]⟩

theorem Act.keeps {r : String} {p p' : PendingPair} {e : OwnerEvent} {delivery : Option Delivery} (h : Act c r p e p' delivery) :
    p'.requestId = p.requestId ∧ p'.key = p.key ∧ p'.aad = p.aad ∧ p'.challengePayload = p.challengePayload := by
  cases h with
  | approve h => exact ⟨rfl, rfl, rfl, rfl⟩
  | complete h => exact ⟨rfl, rfl, rfl, rfl⟩
  | repeated => exact ⟨rfl, rfl, rfl, rfl⟩

theorem Act.payloads_iff {r : String} {p p' : PendingPair} {e : OwnerEvent} {delivery : Option Delivery}
    (h : Act c r p e p' delivery) (hp : p.approvalPayloads = none ↔ p.state = .awaitingApproval) :
    p'.approvalPayloads = none ↔ p'.state = .awaitingApproval := by
  cases h with
  | approve h => simp
  | complete h => simpa [h] using hp
  | repeated => exact hp

theorem sane_step {e : OwnerEvent} {o : Owner} (h : Sane o) : Sane (o.step c e).2 := by
  have hcleared : Sane (o.cleared e) :=
    ⟨fun r p hp => h.requestId r p (lookup_of_cleared hp), fun r p hp => h.payloads r p (lookup_of_cleared hp)⟩
  cases @step_change c e o with
  | clear hpending hsends => exact ⟨by rw [hpending]; exact hcleared.requestId, by rw [hpending]; exact hcleared.payloads⟩
  | @act r p p' delivery hp hact hpending =>
    obtain ⟨hid, hvalid⟩ := hcleared.requestId r p hp
    refine ⟨?_, ?_⟩
    · intro s q hq
      rw [hpending, Table.lookup_insert'] at hq
      split at hq
      · rename_i hs
        obtain rfl := Option.some.inj hq
        rw [hs, hact.keeps.1]
        exact ⟨hid, hvalid⟩
      · exact hcleared.requestId s q hq
    · intro s q hq
      rw [hpending, Table.lookup_insert'] at hq
      split at hq
      · obtain rfl := Option.some.inj hq
        exact hact.payloads_iff (hcleared.payloads r p hp)
      · exact hcleared.payloads s q hq
  | @add r p delivery hnone hfresh hpending hsends hreceive =>
    refine ⟨?_, ?_⟩
    · intro s q hq
      rw [hpending, Table.lookup_insert'] at hq
      split at hq
      · rename_i hs
        obtain rfl := Option.some.inj hq
        rw [hs]
        exact ⟨hfresh.requestId, hfresh.valid⟩
      · exact hcleared.requestId s q hq
    · intro s q hq
      rw [hpending, Table.lookup_insert'] at hq
      split at hq
      · obtain rfl := Option.some.inj hq
        simp [hfresh.payloads, hfresh.state]
      · exact hcleared.payloads s q hq

theorem sane_exec (events : List OwnerEvent) : Sane ((ownerMachine c).exec events Owner.new) :=
  (ownerMachine c).state_invariant (C := fun _ _ => True) (fun _ _ h _ => sane_step h) events sane_new
    ((ownerMachine c).meets_of_forall (fun _ _ => trivial) events _)

/-! ## A request that lives on -/

/-- The order in which a request should go through its states. -/
def PairingRequestState.rank : PairingRequestState → Nat
  | .awaitingApproval => 0
  | .approved => 1
  | .completed => 2

/-- What one event may do to a request, and send for it. -/
structure Forward (p p' : PendingPair) (sent : Option (List PairingDatagram)) : Prop where
  key : p'.key = p.key
  challenge : p'.challengePayload = p.challengePayload
  state : p.state.rank ≤ p'.state.rank ∧ p'.state.rank ≤ p.state.rank + 1
  payloads : ∀ payloads, p.approvalPayloads = some payloads → p'.approvalPayloads = some payloads
  sends : ∀ payloads, sent = some payloads → payloads = p'.approvalPayloads.getD [p'.challengePayload]

/-- The payloads that a reaction sends for a request. -/
def Reaction.sentFor (r : String) (x : Reaction) : Option (List PairingDatagram) :=
  (x.delivery.filter fun d => d.requestId == r).map (·.payloads)

/-- Nobody approves a request that has payloads with an invitation that can be encrypted. -/
def NoSecondApproval (o : Owner) : OwnerEvent → Prop
  | .approve now requestId invitation nonce _ =>
    ∀ p payloads, AList.lookup requestId (pruneOwnerState now o).pending = some p → p.approvalPayloads = some payloads →
      maxInvitationBytes < invitation.utf8ByteSize ∨ nonce = none
  | _ => True

theorem sentFor_none {r : String} {x : Reaction} (h : ∀ d, x.delivery = some d → d.requestId ≠ r) : x.sentFor r = none := by
  unfold Reaction.sentFor
  cases hd : x.delivery with
  | none => rfl
  | some d =>
    rw [Option.filter_some, if_neg (by simpa using h d hd)]
    rfl

theorem sentFor_some {r : String} {x : Reaction} {d : Delivery} (h : x.delivery = some d) (hr : d.requestId = r) :
    x.sentFor r = some d.payloads := by
  unfold Reaction.sentFor
  rw [h, Option.filter_some, if_pos (by simpa using hr)]
  rfl

theorem Act.delivery_requestId {r : String} {p p' : PendingPair} {e : OwnerEvent} {delivery : Option Delivery}
    (h : Act c r p e p' delivery) : ∀ d, delivery = some d → d.requestId = r := by
  intro d hd
  cases h with
  | approve h =>
    cases hd
    rfl
  | complete h => cases hd
  | repeated =>
    cases hd
    rfl

/-- Acting on a request moves it forward unless it is approved a second time. -/
theorem Act.forward {r : String} {o : Owner} {p p' : PendingPair} {e : OwnerEvent} {x : Reaction}
    (h : Act c r p e p' x.delivery) (hp : AList.lookup r (o.cleared e).pending = some p)
    (hsane : p.approvalPayloads = none ↔ p.state = .awaitingApproval) (hcond : NoSecondApproval o e) :
    Forward p p' (x.sentFor r) := by
  generalize hdelivery : x.delivery = delivery at h
  cases h with
  | @approve now invitation nonce sends payloads h =>
    -- encryption succeeded, so by the condition there were no payloads before
    have hfirst : p.approvalPayloads = none := by
      cases hold : p.approvalPayloads with
      | none => rfl
      | some old =>
        obtain ⟨draw, hdraw, -⟩ := encryptedApprovalChunks_ok h
        rcases hcond p old hp hold with hlong | hnone
        · unfold encryptedApprovalChunks at h
          rw [if_pos hlong] at h
          cases h
        · rw [hnone] at hdraw
          cases hdraw
    have hawaiting := hsane.1 hfirst
    refine ⟨rfl, rfl, ?_, ?_, ?_⟩
    · simp [hawaiting, PairingRequestState.rank]
    · intro old hold
      rw [hfirst] at hold
      cases hold
    · intro sent hsent
      rw [sentFor_some hdelivery rfl] at hsent
      cases hsent
      rfl
  | complete h =>
    refine ⟨rfl, rfl, ?_, fun _ h => h, ?_⟩
    · simp [h, PairingRequestState.rank]
    · intro sent hsent
      rw [sentFor_none (by rw [hdelivery]; simp)] at hsent
      cases hsent
  | repeated =>
    refine ⟨rfl, rfl, ⟨Nat.le_refl _, Nat.le_succ _⟩, fun _ h => h, ?_⟩
    intro sent hsent
    rw [sentFor_some hdelivery rfl] at hsent
    cases hsent
    rfl

theorem forward_refl (p : PendingPair) : Forward p p none :=
  ⟨rfl, rfl, ⟨Nat.le_refl _, Nat.le_succ _⟩, fun _ h => h, by simp⟩

/-- An event that does not end a request moves it forward. -/
theorem forward_step {e : OwnerEvent} {o : Owner} {r : String} {p : PendingPair} (hsane : Sane o)
    (hp : AList.lookup r o.pending = some p) (hlives : ¬ Ends r o e) (hcond : NoSecondApproval o e) :
    ∃ p', AList.lookup r (o.step c e).2.pending = some p' ∧ Forward p p' ((o.step c e).1.sentFor r) := by
  have hcleared : AList.lookup r (o.cleared e).pending = some p := by
    obtain ⟨q, hq⟩ := Option.ne_none_iff_exists'.1 hlives
    rw [lookup_of_cleared hq] at hp
    rw [hq, hp]
  have hchange := @step_change c e o
  generalize hdelivery : (o.step c e).1.delivery = delivery at hchange
  cases hchange with
  | clear hpending hsends =>
    refine ⟨p, by rw [hpending]; exact hcleared, ?_⟩
    rw [sentFor_none]
    · exact forward_refl p
    · rintro d hd rfl
      rw [(hsends d (hdelivery.symm.trans hd)).1] at hcleared
      cases hcleared
  | @act s q q' delivery hq hact hpending =>
    by_cases hs : r = s
    · subst hs
      rw [hcleared] at hq
      cases hq
      refine ⟨q', by rw [hpending, Table.lookup_insert', if_pos rfl], ?_⟩
      exact Act.forward (by rw [hdelivery]; exact hact) hcleared (hsane.payloads r p hp) hcond
    · refine ⟨p, by rw [hpending, Table.lookup_insert', if_neg hs]; exact hcleared, ?_⟩
      rw [sentFor_none]
      · exact forward_refl p
      · intro d hd hr
        exact hs (hr.symm.trans (hact.delivery_requestId d (hdelivery.symm.trans hd)))
  | @add s q delivery hnone hfresh hpending hsends hreceive =>
    have hs : r ≠ s := by
      rintro rfl
      rw [hcleared] at hnone
      cases hnone
    refine ⟨p, by rw [hpending, Table.lookup_insert', if_neg hs]; exact hcleared, ?_⟩
    rw [sentFor_none]
    · exact forward_refl p
    · intro d hd hr
      exact hs (hr.symm.trans (hsends d (hdelivery.symm.trans hd)))

/-- A request that lives through a run keeps its key and its challenge, moves forward at most one state an event, and keeps
and sends the payloads it has. -/
theorem forward_exec {events : List OwnerEvent} {o : Owner} {r : String} {p : PendingPair} (hsane : Sane o)
    (hp : AList.lookup r o.pending = some p) (hlives : (ownerMachine c).Meets (fun o e => ¬ Ends r o e) events o)
    (hcond : (ownerMachine c).Meets NoSecondApproval events o) :
    ∃ p', AList.lookup r ((ownerMachine c).exec events o).pending = some p' ∧ p'.key = p.key ∧
      p'.challengePayload = p.challengePayload ∧ p.state.rank ≤ p'.state.rank ∧
      p'.state.rank ≤ p.state.rank + events.length ∧
      ∀ payloads, p.approvalPayloads = some payloads → p'.approvalPayloads = some payloads ∧
        ∀ x ∈ (ownerMachine c).trace events o, ∀ sent, x.2.sentFor r = some sent → sent = payloads := by
  induction events generalizing o p with
  | nil =>
    refine ⟨p, hp, rfl, rfl, Nat.le_refl _, Nat.le_refl _, fun payloads h => ⟨h, ?_⟩⟩
    intro x hx
    cases hx
  | cons e events ih =>
    obtain ⟨q, hq, hforward⟩ := forward_step (c := c) hsane hp hlives.1 hcond.1
    obtain ⟨p', hp', hkey, hchallenge, hlow, hhigh, hpayloads⟩ := ih (sane_step hsane) hq hlives.2 hcond.2
    have hone := hforward.state
    refine ⟨p', hp', hkey.trans hforward.key, hchallenge.trans hforward.challenge, by omega, ?_, ?_⟩
    · simp only [List.length_cons]
      omega
    · intro payloads hold
      have hkept := hforward.payloads payloads hold
      obtain ⟨hfinal, hsent⟩ := hpayloads payloads hkept
      refine ⟨hfinal, ?_⟩
      intro x hx sent hx'
      rcases List.mem_cons.1 hx with rfl | hin
      · have := hforward.sends sent hx'
        rw [hkept] at this
        exact this
      · exact hsent x hin sent hx'

end

/-- In every run in which no request is approved again while it has payloads, whatever else happens: while a request lives
its key and its challenge stay the same, its state moves forward and no more than one state an event, and once it has
approval payloads every delivery for it sends the same bytes. -/
theorem requests_move_forward (c : Crates) (events : List OwnerEvent)
    (h : (ownerMachine c).Meets NoSecondApproval events Owner.new) (before during after : List OwnerEvent)
    (hsplit : events = before ++ during ++ after) (r : String) (p : PendingPair)
    (hp : AList.lookup r ((ownerMachine c).exec before Owner.new).pending = some p)
    (hlives : (ownerMachine c).Meets (fun o e => ¬ Ends r o e) during ((ownerMachine c).exec before Owner.new)) :
    ∃ p', AList.lookup r ((ownerMachine c).exec (before ++ during) Owner.new).pending = some p' ∧ p'.key = p.key ∧
      p'.challengePayload = p.challengePayload ∧ p.state.rank ≤ p'.state.rank ∧
      p'.state.rank ≤ p.state.rank + during.length ∧
      ∀ payloads, p.approvalPayloads = some payloads →
        ∀ x ∈ (ownerMachine c).trace during ((ownerMachine c).exec before Owner.new), ∀ sent, x.2.sentFor r = some sent →
          sent.map PairingDatagram.toVec = payloads.map PairingDatagram.toVec := by
  rw [hsplit, Machine.meets_append, Machine.meets_append] at h
  obtain ⟨p', hp', hkey, hchallenge, hlow, hhigh, hpayloads⟩ := forward_exec (sane_exec before) hp hlives h.1.2
  refine ⟨p', by rw [Machine.exec_append]; exact hp', hkey, hchallenge, hlow, hhigh, ?_⟩
  intro payloads hold x hx sent hsent
  rw [(hpayloads payloads hold).2 x hx sent hsent]

/-! ## A request that is approved twice -/

namespace Scenario

/-- The X25519 public keys of the secrets of 32 bytes 7 and 9, and their shared secret. -/
def workerPublic : Bytes :=
  [19, 190, 79, 234, 234, 242, 4, 199, 253, 51, 88, 252, 156, 0, 114, 24, 129, 209, 116, 39, 129, 40, 34, 126, 198,
    116, 243, 127, 127, 233, 123, 109]

/-- The X25519 public key of `ownerSecret`. -/
def ownerPublic : Bytes :=
  [87, 219, 75, 53, 159, 35, 174, 94, 20, 110, 78, 37, 18, 5, 103, 4, 114, 37, 6, 52, 140, 21, 12, 20, 117, 61, 12,
    147, 61, 4, 212, 33]

/-- The secret the two keys agree on. -/
def shared : Bytes :=
  [47, 254, 50, 91, 42, 38, 97, 27, 241, 145, 19, 37, 212, 166, 43, 51, 116, 155, 143, 53, 13, 14, 136, 186, 145, 227,
    22, 172, 170, 230, 101, 84]

/-- The key and the associated data of the two, by HKDF and SHA-256. -/
def key : Bytes :=
  [229, 50, 13, 226, 188, 85, 213, 89, 84, 27, 22, 116, 200, 148, 236, 245, 126, 90, 246, 84, 30, 215, 198, 108, 203,
    155, 123, 248, 121, 111, 33, 5]

/-- The additional data both ends derive. -/
def aad : Bytes :=
  [44, 247, 242, 24, 198, 8, 202, 169, 45, 242, 29, 19, 40, 99, 202, 13, 233, 14, 172, 0, 125, 214, 243, 50, 254, 117,
    112, 176, 165, 214, 123, 218]

/-- The request of the laptop. -/
def requestId : String := "01010101010101010101010101010101"

/-- A nonce of one repeated byte. -/
def nonce (b : UInt8) : Nonce := ⟨List.replicate 12 b, by simp⟩

/-- The AES-256-GCM ciphertexts of the invitation under two nonces, and of the completion message under a third. -/
def firstCiphertext : Bytes :=
  [15, 90, 175, 135, 12, 51, 157, 250, 60, 149, 237, 13, 19, 190, 105, 35, 141, 207, 115, 155, 159, 122]

/-- What the second approval sends, under its own nonce. -/
def secondCiphertext : Bytes :=
  [178, 49, 153, 217, 75, 195, 170, 250, 110, 97, 31, 174, 212, 63, 154, 22, 197, 188, 167, 241, 129, 254]

/-- What the worker says when it is enrolled. -/
def completionCiphertext : Bytes :=
  [59, 85, 81, 29, 146, 57, 240, 153, 57, 214, 98, 0, 29, 220, 52, 9, 245, 98, 23, 207, 49, 51, 109, 121, 225, 223,
    43, 96, 90, 178, 201, 76, 102, 93, 67]

/-- The worker's key. -/
def workerSecret : Bytes := List.replicate 32 7

/-- The owner's key. -/
def ownerSecret : Bytes := List.replicate 32 9

/-- A tag of zeros, for what no run seals. -/
def tag : Bytes := List.replicate 16 0

/-- What is encrypted under the key. -/
def sealed : List (Bytes × Bytes × Bytes) :=
  [((nonce 1).1, utf8 "invite", firstCiphertext), ((nonce 2).1, utf8 "invite", secondCiphertext),
    ((nonce 3).1, utf8 "enrollment-complete", completionCiphertext)]

/-- The cipher on the plaintexts of this run. -/
def encrypt (k n a plaintext : Bytes) : Bytes :=
  if k = key ∧ a = aad then
    ((sealed.find? fun s => s.1 == n && s.2.1 == plaintext).map (·.2.2)).getD (plaintext ++ tag)
  else plaintext ++ tag

/-- The crates, on the values that occur. -/
def crates : Crates where
  publicKey secret := if secret = workerSecret then workerPublic else if secret = ownerSecret then ownerPublic else secret
  diffieHellman _ _ := shared
  hkdf _ _ _ n := if n = 32 then key else [168, 44, 114, 208]
  sha256 _ := aad
  encrypt := encrypt
  decrypt k n a x :=
    (x.take (x.length - 16) :: sealed.map (·.2.1)).find? fun plaintext => encrypt k n a plaintext == x

/-- The worker's address. -/
def laptop : SocketAddr := ⟨3232235777, 40000⟩

/-- The laptop asks to join. -/
def hello : PairingDatagram :=
  .hello pairingSchema requestId "Laptop" "desktop" (String.ofList (Base64.encode workerPublic)) 0 0

/-- The laptop says it has joined. -/
def completion : PairingDatagram :=
  .enrollmentComplete pairingSchema requestId (nonceText (nonce 3)) (String.ofList (Base64.encode completionCiphertext))

/-- A request is answered, approved, repeated and completed. -/
def enrolled : List OwnerEvent :=
  [.openWindow "Main PC" true 1000 1000, .receive 2000 laptop (some hello) false (some ownerSecret),
    .approve 3000 requestId "invite" (some (nonce 1)) true, .receive 4000 laptop (some hello) false none,
    .receive 5000 laptop (some completion) false none]

/-- The owner approves once more. -/
def again : OwnerEvent := .approve 6000 requestId "invite" (some (nonce 2)) true

/-- The state of the request after a run. -/
def stateAfter (events : List OwnerEvent) : Option PairingRequestState :=
  (AList.lookup requestId ((ownerMachine crates).exec events Owner.new).pending).map (·.state)

/-- What the run comes to: how the request stands, what its first approval finds, and that nothing after it ends it. -/
theorem enrolled_run : stateAfter enrolled = some .completed ∧ stateAfter (enrolled ++ [again]) = some .approved ∧
    ¬ Ends requestId ((ownerMachine crates).exec enrolled Owner.new) again ∧
    (AList.lookup requestId (pruneOwnerState 3000 ((ownerMachine crates).exec (enrolled.take 2) Owner.new)).pending).map
      (·.approvalPayloads) = some none ∧
    (AList.lookup requestId ((ownerMachine crates).exec (enrolled.take 3) Owner.new).pending).isSome = true ∧
    (ownerMachine crates).Meets (fun o e => ¬ Ends requestId o e) (enrolled.drop 3)
      ((ownerMachine crates).exec (enrolled.take 3) Owner.new) := by
  decide +kernel

/-- The first approval finds no payloads. -/
theorem noSecondApproval_enrolled : (ownerMachine crates).Meets NoSecondApproval enrolled Owner.new := by
  obtain ⟨-, -, -, hfirst, -⟩ := enrolled_run
  refine ⟨trivial, trivial, ?_, trivial, trivial, trivial⟩
  intro p payloads hp hpayloads
  rw [show AList.lookup requestId (pruneOwnerState 3000 ((ownerMachine crates).exec (enrolled.take 2) Owner.new)).pending =
    some p from hp, Option.map_some, Option.some.injEq, hpayloads] at hfirst
  cases hfirst

end Scenario

open Scenario in
theorem requests_move_forward_once_approved :
    ∃ p p', AList.lookup requestId ((ownerMachine crates).exec (enrolled.take 3) Owner.new).pending = some p ∧
      AList.lookup requestId ((ownerMachine crates).exec enrolled Owner.new).pending = some p' ∧ p'.key = p.key ∧
      p.state.rank ≤ p'.state.rank := by
  obtain ⟨-, -, -, -, hsome, hlives⟩ := enrolled_run
  obtain ⟨p, hp⟩ := Option.isSome_iff_exists.1 hsome
  obtain ⟨p', hp', hkey, -, hrank, -⟩ := requests_move_forward crates enrolled noSecondApproval_enrolled (enrolled.take 3)
    (enrolled.drop 3) [] rfl requestId p hp hlives
  exact ⟨p, p', hp, hp', hkey, hrank⟩

open Scenario in
/-- A completed request that is approved once more goes back. -/
theorem completed_request_goes_back :
    ¬ ∀ (c : Crates) (before during : List OwnerEvent) (r : String) (p : PendingPair),
      AList.lookup r ((ownerMachine c).exec before Owner.new).pending = some p →
      (ownerMachine c).Meets (fun o e => ¬ Ends r o e) during ((ownerMachine c).exec before Owner.new) →
      ∃ p', AList.lookup r ((ownerMachine c).exec (before ++ during) Owner.new).pending = some p' ∧ p'.key = p.key ∧
        p'.challengePayload = p.challengePayload ∧ p.state.rank ≤ p'.state.rank ∧
        p'.state.rank ≤ p.state.rank + during.length ∧
        ∀ payloads, p.approvalPayloads = some payloads →
          ∀ x ∈ (ownerMachine c).trace during ((ownerMachine c).exec before Owner.new), ∀ sent, x.2.sentFor r = some sent →
            sent.map PairingDatagram.toVec = payloads.map PairingDatagram.toVec := by
  intro hall
  obtain ⟨hbefore, hafter, hlives, -⟩ := enrolled_run
  obtain ⟨p, hp, hcompleted⟩ := Option.map_eq_some_iff.1 hbefore
  obtain ⟨p', hp', -, -, hrank, -⟩ := hall crates enrolled [again] requestId p hp ⟨hlives, trivial⟩
  obtain ⟨q, hq, happroved⟩ := Option.map_eq_some_iff.1 hafter
  rw [hp'] at hq
  cases hq
  rw [hcompleted, happroved] at hrank
  exact absurd hrank (by decide)

end Rampage.Pairing
