/-
The Governor's Remote Assist authority: `authorize_remote_desktop_at_epoch` mints the short lease under which the
controller may watch or control one worker's desktop.
-/
import Rampage.Governor.Check

namespace Rampage.Governor

open Rampage.Protocol

/-- A session may be watched only, or take input too. -/
inductive RemoteDesktopModeV1
  | view
  | control
deriving DecidableEq

/-- What the Governor grants one controller endpoint on one node: the mode, the size of a frame,
and until when. -/
structure RemoteDesktopLeaseV1 where
  schema : String
  leaseId : Uuid
  sessionId : Uuid
  nodeId : Uuid
  controllerEndpointId : String
  mode : RemoteDesktopModeV1
  maxWidth : Nat
  maxHeight : Nat
  maxFps : Nat
  issuedAt : Int
  expiresAt : Int
  nonce : String
  fencingEpoch : Nat
  signature : String
deriving DecidableEq

/-- `RemoteDesktopLeaseV1::SCHEMA`. -/
def RemoteDesktopLeaseV1.schemaName : String := "rampage.remote-desktop-lease.v1"

/-- The widest and the highest frame, in pixels. -/
def maxRemoteDesktopDimension : Nat := 4096

/-- The most frames a second. -/
def maxRemoteDesktopFps : Nat := 15

/-- The longest a lease may run. -/
def maxRemoteDesktopLeaseSeconds : Int := 30

/-- The frame that is asked for; the lease carries it as it is. -/
structure RemoteDesktopLimits where
  maxWidth : Nat
  maxHeight : Nat
  maxFps : Nat
deriving DecidableEq

/-- Every limit lies in its range. -/
def RemoteDesktopLimits.isValid (limits : RemoteDesktopLimits) : Bool :=
  1 ≤ limits.maxWidth && limits.maxWidth ≤ maxRemoteDesktopDimension && 1 ≤ limits.maxHeight &&
    limits.maxHeight ≤ maxRemoteDesktopDimension && 1 ≤ limits.maxFps && limits.maxFps ≤ maxRemoteDesktopFps

/-- The operation of `rampage.remote-assist.v1` a mode needs. -/
def RemoteDesktopModeV1.operation : RemoteDesktopModeV1 → String
  | .view => "view"
  | .control => "control"

/-- The offer advertises the mode as a shipped capability. -/
def advertisesRemoteDesktop (offer : ResourceOfferV1) (mode : RemoteDesktopModeV1) : Bool :=
  offer.workloadCapabilities.any fun c =>
    c.status == .shipped && c.isValid && c.authorizes "rampage.remote-assist.v1" mode.operation

/-- `Governor::authorize_remote_desktop_at_epoch`, at the clock reading `now` and with the generated lease id and
nonce. -/
def authorizeRemoteDesktopAtEpoch (config : GovernorConfig) (sign : RemoteDesktopLeaseV1 → String)
    (offer : ResourceOfferV1) (controllerEndpointId : String) (sessionId : Uuid) (mode : RemoteDesktopModeV1)
    (limits : RemoteDesktopLimits) (fencingEpoch : Nat) (now : Int) (leaseId : Uuid) (nonce : String) :
    Except Denial RemoteDesktopLeaseV1 :=
  -- a STOP denies before anything else is looked at
  if config.killed then .error .killLatch
  else if offer.expiresAt ≤ now then .error .offerExpired
  else if limits.isValid = false then .error .invalidRemoteDesktopLimits
  else if controllerEndpointId = "" ∨ isAscii controllerEndpointId = false ∨ offer.meshEndpoint = none ∨
      "rampage.remote-assist.v1" ∉ offer.adapters ∨ advertisesRemoteDesktop offer mode = false ∨
      offer.availability.foregroundAllowed = false then .error .remoteDesktopDenied
  else
    let lease : RemoteDesktopLeaseV1 :=
      { schema := RemoteDesktopLeaseV1.schemaName
        leaseId := leaseId
        sessionId := sessionId
        nodeId := offer.nodeId
        controllerEndpointId := controllerEndpointId
        mode := mode
        maxWidth := limits.maxWidth
        maxHeight := limits.maxHeight
        maxFps := limits.maxFps
        issuedAt := now
        -- never longer than the bound, whatever is configured
        expiresAt := now + seconds (max 1 (min config.leaseTtlSeconds maxRemoteDesktopLeaseSeconds))
        nonce := nonce
        fencingEpoch := fencingEpoch
        signature := "" }
    .ok { lease with signature := sign lease }

/-- A minted lease is for the node of its offer. -/
theorem authorizeRemoteDesktopAtEpoch_nodeId {config : GovernorConfig} {sign : RemoteDesktopLeaseV1 → String}
    {offer : ResourceOfferV1} {controllerEndpointId : String} {sessionId : Uuid} {mode : RemoteDesktopModeV1}
    {limits : RemoteDesktopLimits} {fencingEpoch : Nat} {now : Int} {leaseId : Uuid} {nonce : String}
    {lease : RemoteDesktopLeaseV1}
    (h : authorizeRemoteDesktopAtEpoch config sign offer controllerEndpointId sessionId mode limits fencingEpoch now
      leaseId nonce = .ok lease) : lease.nodeId = offer.nodeId := by
  unfold authorizeRemoteDesktopAtEpoch at h
  split at h
  · cases h
  · split at h
    · cases h
    · split at h
      · cases h
      · split at h
        · cases h
        · cases h
          rfl

end Rampage.Governor
