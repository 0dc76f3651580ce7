/-
The relay's access manifest: the endpoints of the fabric, as the Governor signs them for a relay that knows its key.
`sign_relay_access_manifest` names the fabric after the key and `verify_relay_access_manifest_with_key` accepts a
manifest of this fabric, in its time, whose signature holds.
-/
import Rampage.Governor.Check
import Rampage.Lib.Hex
import Mathlib.Data.Finset.Sort

namespace Rampage.Protocol

/-- Whom a relay serves, signed by the Governor for a while. -/
structure RelayAccessManifestV1 where
  schema : String
  fabricId : String
  generation : Nat
  allowedEndpointIds : Finset String
  issuedAt : Int
  expiresAt : Int
  signature : String
deriving DecidableEq

/-- `RelayAccessManifestV1::SCHEMA`. -/
def RelayAccessManifestV1.schemaName : String := "rampage.relay-access-manifest.v1"

/-- The most endpoints a manifest may list. -/
def maxRelayEndpoints : Nat := 4096

/-- 64 hexadecimal digits of either case. -/
def isEndpointId (endpoint : String) : Bool := endpoint.toList.length == 64 && endpoint.toList.all isHexDigit

/-- `is_valid_at`: the shape of the manifest, and a lifetime of at most a quarter of an hour. -/
def RelayAccessManifestV1.isValidAt (m : RelayAccessManifestV1) (now : Int) : Bool :=
  m.schema == RelayAccessManifestV1.schemaName && isSha256Digest m.fabricId && decide (0 < m.generation) &&
    decide (m.allowedEndpointIds ≠ ∅) && decide (m.allowedEndpointIds.card ≤ maxRelayEndpoints) &&
    decide (∀ endpoint ∈ m.allowedEndpointIds, isEndpointId endpoint = true) && decide (m.issuedAt ≤ now) &&
    decide (now < m.expiresAt) && decide (m.expiresAt - m.issuedAt ≤ minutes 15) && m.signature != ""

end Rampage.Protocol

namespace Rampage.Governor

open Rampage.Protocol

/-- SHA-256 and the Ed25519 signatures of a manifest's message. -/
structure ManifestCrates where
  sha256 : List UInt8 → { b : List UInt8 // b.length = 32 }
  /-- The Governor's signature of an unsigned manifest. -/
  signManifest : RelayAccessManifestV1 → { b : List UInt8 // b.length = 64 }
  /-- `verify_contract_signature`, of a key and the manifest with its signature taken out. -/
  verifyManifest : String → String → RelayAccessManifestV1 → Bool

/-- The key verifies what the Governor has signed. -/
def ManifestCrates.VerifiesOwn (x : ManifestCrates) (publicKey : String) : Prop :=
  ∀ m, x.verifyManifest publicKey (Hex.encode (x.signManifest m).1) m = true

variable (x : ManifestCrates)

/-- `relay_fabric_id`. -/
def relayFabricId (publicKey : String) : Except Denial String :=
  match Hex.decode publicKey with
  | none => .error .invalidSignature
  | some bytes =>
    if bytes.length = 32 then .ok (String.ofList (digestPrefix ++ Hex.digits (x.sha256 bytes).1))
    else .error .invalidSignature

/-- `sign_relay_access_manifest`; the fabric id of a Governor's own key is never an error. -/
def signRelayAccessManifest (publicKey : String) (m : RelayAccessManifestV1) : Except Denial RelayAccessManifestV1 := do
  let fabricId ← relayFabricId x publicKey
  let unsigned := { m with fabricId := fabricId, signature := "" }
  pure { unsigned with signature := Hex.encode (x.signManifest unsigned).1 }

/-- `verify_relay_access_manifest_with_key`, at the clock reading `now`. -/
def verifyRelayAccessManifestWithKey (publicKey : String) (now : Int) (m : RelayAccessManifestV1) : Except Denial Unit :=
  if m.isValidAt now = false then .error .invalidSignature
  else
    match relayFabricId x publicKey with
    | .error e => .error e
    | .ok fabricId =>
      if m.fabricId ≠ fabricId then .error .invalidSignature
      else if x.verifyManifest publicKey m.signature { m with signature := "" } then .ok ()
      else .error .invalidSignature

section

variable {x : ManifestCrates} {publicKey : String}

theorem isValidAt_of_verify {now : Int} {m : RelayAccessManifestV1}
    (h : verifyRelayAccessManifestWithKey x publicKey now m = .ok ()) : m.isValidAt now = true := by
  unfold verifyRelayAccessManifestWithKey at h
  split at h
  · cases h
  · rename_i hvalid
    simpa using hvalid

theorem isSha256Digest_relayFabricId {fabricId : String} (h : relayFabricId x publicKey = .ok fabricId) :
    isSha256Digest fabricId = true := by
  unfold relayFabricId at h
  split at h
  · cases h
  · rename_i bytes _
    split at h
    · cases h
      refine isSha256Digest_of_hex ?_ ?_
      · rw [Hex.length_digits, (x.sha256 bytes).2]
      · rw [isLowerHex, List.all_eq_true]
        intro c hc
        simpa [isLowerHexChar] using Hex.digits_range _ c hc
    · cases h

theorem encode_ne_empty {b : List UInt8} (h : b.length = 64) : Hex.encode b ≠ "" := by
  intro hempty
  have hsize := Hex.utf8ByteSize_encode b
  rw [hempty, h] at hsize
  cases hsize

/-- A Governor's key has a fabric id, and its manifests keep everything else as it was. -/
theorem signRelayAccessManifest_ok {m : RelayAccessManifestV1} {fabricId : String}
    (hid : relayFabricId x publicKey = .ok fabricId) :
    signRelayAccessManifest x publicKey m = .ok { m with
      fabricId := fabricId
      signature := Hex.encode (x.signManifest { m with fabricId := fabricId, signature := "" }).1 } := by
  unfold signRelayAccessManifest
  rw [hid]
  rfl

/-- A manifest that the Governor has signed is accepted at every time at which it is valid. -/
theorem verify_signed {m signed : RelayAccessManifestV1} (hown : x.VerifiesOwn publicKey)
    (hsign : signRelayAccessManifest x publicKey m = .ok signed) {now : Int} (hvalid : signed.isValidAt now = true) :
    verifyRelayAccessManifestWithKey x publicKey now signed = .ok () := by
  cases hid : relayFabricId x publicKey with
  | error e =>
    rw [signRelayAccessManifest, hid] at hsign
    cases hsign
  | ok fabricId =>
    rw [signRelayAccessManifest_ok hid] at hsign
    cases hsign
    unfold verifyRelayAccessManifestWithKey
    rw [hvalid, hid]
    simp [hown { m with fabricId := fabricId, signature := "" }]

end

end Rampage.Governor
