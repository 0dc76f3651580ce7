/-
Pairing on the local network, the owner's side: the datagrams, the encryption of an approval in fragments, and the table of
pending requests with the events that act on it (`approve`, `reject`, the windows and every datagram received). A payload
is the datagram it encodes; `toVec` are its bytes. X25519, HKDF, SHA-256 and AES-256-GCM are parameters (`Crates`), the
clock and the random bytes come with each event. An event reads its clock and takes the lock of the table in one step: that
another one comes between the two is not modelled.
-/
import Rampage.Lib.Base64
import Rampage.Lib.Json
import Rampage.Lib.Machine
import Rampage.Lib.Saturating
import Rampage.Lib.Table
import Rampage.Protocol.Contracts

/-! ## Pieces of a list -/

namespace List

variable {α : Type}

/-- `slice::chunks`, with the length as fuel. -/
def chunksUpTo (size : Nat) : Nat → List α → List (List α)
  | 0, _ => []
  | _ + 1, [] => []
  | fuel + 1, a :: l => (a :: l).take size :: chunksUpTo size fuel ((a :: l).drop size)

/-- `chunks(size)` of a slice. -/
def chunks (size : Nat) (l : List α) : List (List α) := chunksUpTo size l.length l

theorem chunksUpTo_spec {size : Nat} (hsize : 0 < size) {fuel : Nat} {l : List α} (hfuel : l.length ≤ fuel) :
    (chunksUpTo size fuel l).flatten = l ∧ ∀ piece ∈ chunksUpTo size fuel l, piece ≠ [] ∧ piece.length ≤ size := by
  induction fuel generalizing l with
  | zero =>
    obtain rfl := List.length_eq_zero_iff.1 (Nat.le_zero.1 hfuel)
    simp [chunksUpTo]
  | succ fuel ih =>
    cases l with
    | nil => simp [chunksUpTo]
    | cons a l =>
      obtain ⟨hflat, hpieces⟩ := ih (l := (a :: l).drop size) (by
        simp only [length_drop, length_cons] at hfuel ⊢
        omega)
      refine ⟨?_, ?_⟩
      · rw [chunksUpTo, flatten_cons, hflat, take_append_drop]
      · intro piece hpiece
        rw [chunksUpTo, mem_cons] at hpiece
        rcases hpiece with rfl | hin
        · refine ⟨?_, length_take_le _ _⟩
          intro hnil
          rcases take_eq_nil_iff.1 hnil with h | h
          · omega
          · cases h
        · exact hpieces piece hin

theorem length_chunksUpTo {size : Nat} (hsize : 0 < size) {fuel : Nat} {l : List α} (hfuel : l.length ≤ fuel) :
    (chunksUpTo size fuel l).length = (l.length + size - 1) / size := by
  induction fuel generalizing l with
  | zero =>
    obtain rfl := List.length_eq_zero_iff.1 (Nat.le_zero.1 hfuel)
    simp only [chunksUpTo, length_nil]
    rw [Nat.div_eq_of_lt (by omega)]
  | succ fuel ih =>
    cases l with
    | nil =>
      simp only [chunksUpTo, length_nil]
      rw [Nat.div_eq_of_lt (by omega)]
    | cons a l =>
      have hrest : ((a :: l).drop size).length ≤ fuel := by
        simp only [length_drop, length_cons] at hfuel ⊢
        omega
      rw [chunksUpTo, length_cons, ih hrest, length_drop, length_cons]
      by_cases hlast : l.length + 1 ≤ size
      · rw [Nat.div_eq_of_lt (by omega), show l.length + 1 + size - 1 = l.length + 1 * size by omega,
          Nat.add_mul_div_right _ _ hsize, Nat.div_eq_of_lt (by omega)]
      · rw [show l.length + 1 + size - 1 = l.length + 1 - size + size - 1 + 1 * size by omega,
          Nat.add_mul_div_right _ _ hsize]

theorem length_chunks {size : Nat} (hsize : 0 < size) (l : List α) : (chunks size l).length = (l.length + size - 1) / size :=
  length_chunksUpTo hsize (Nat.le_refl _)

theorem flatten_chunks {size : Nat} (hsize : 0 < size) (l : List α) : (chunks size l).flatten = l :=
  (chunksUpTo_spec hsize (Nat.le_refl _)).1

end List

namespace Rampage.Pairing

open Rampage.Protocol (isWhiteSpace isControl isHexDigit)

/-! ## Datagrams -/

/-- The schema every datagram carries. -/
def pairingSchema : String := "rampage.lan-pairing.v1"

/-- How long a window that is opened stays open: a year. -/
def pairingWindowMs : Nat := 365 * 24 * 60 * 60 * 1000

/-- How long a worker waits for the owner, and a request for its approval: a quarter of an hour. -/
def workerWaitMs : Nat := 15 * 60 * 1000

/-- The largest invitation that is encrypted. -/
def maxInvitationBytes : Nat := 5 * 1024

/-- The characters of the ciphertext in one datagram. -/
def maxApprovalChunkChars : Nat := 640

/-- The most datagrams an approval is cut into. -/
def maxApprovalChunks : Nat := 16

/-- The longest ciphertext a worker puts together. -/
def maxApprovalCiphertextChars : Nat := 7 * 1024

/-- The most requests the owner holds. -/
def maxPendingRequests : Nat := 16

/-- How often one address may ask within a minute. -/
def maxNewRequestsPerIpPerMinute : Nat := 5

/-- What passes between a worker and the owner, both ways. -/
inductive PairingDatagram
  | hello (schema requestId deviceName deviceKind ephemeralPublicKey : String) (issuedAtMs expiresAtMs : Nat)
  | challenge (schema requestId ownerName ephemeralPublicKey : String) (expiresAtMs : Nat)
  | approval (schema requestId nonce ciphertext : String)
  | approvalChunk (schema requestId nonce : String) (chunkIndex chunkCount : Nat) (ciphertextChunk : String)
  | rejected (schema requestId reason : String)
  | enrollmentComplete (schema requestId nonce ciphertext : String)
deriving DecidableEq

/-- The JSON value of a datagram, with its kind first. -/
def PairingDatagram.toJson : PairingDatagram → Json
  | .hello schema requestId deviceName deviceKind key issuedAtMs expiresAtMs =>
    .obj [("kind", .str "hello"), ("schema", .str schema), ("request_id", .str requestId), ("device_name", .str deviceName),
      ("device_kind", .str deviceKind), ("ephemeral_public_key", .str key), ("issued_at_ms", .num (.ofNat issuedAtMs)),
      ("expires_at_ms", .num (.ofNat expiresAtMs))]
  | .challenge schema requestId ownerName key expiresAtMs =>
    .obj [("kind", .str "challenge"), ("schema", .str schema), ("request_id", .str requestId), ("owner_name", .str ownerName),
      ("ephemeral_public_key", .str key), ("expires_at_ms", .num (.ofNat expiresAtMs))]
  | .approval schema requestId nonce ciphertext =>
    .obj [("kind", .str "approval"), ("schema", .str schema), ("request_id", .str requestId), ("nonce", .str nonce),
      ("ciphertext", .str ciphertext)]
  | .approvalChunk schema requestId nonce index count chunk =>
    .obj [("kind", .str "approval_chunk"), ("schema", .str schema), ("request_id", .str requestId), ("nonce", .str nonce),
      ("chunk_index", .num (.ofNat index)), ("chunk_count", .num (.ofNat count)), ("ciphertext_chunk", .str chunk)]
  | .rejected schema requestId reason =>
    .obj [("kind", .str "rejected"), ("schema", .str schema), ("request_id", .str requestId), ("reason", .str reason)]
  | .enrollmentComplete schema requestId nonce ciphertext =>
    .obj [("kind", .str "enrollment_complete"), ("schema", .str schema), ("request_id", .str requestId), ("nonce", .str nonce),
      ("ciphertext", .str ciphertext)]

/-- `serde_json::to_vec`. -/
def PairingDatagram.toVec (d : PairingDatagram) : List UInt8 := d.toJson.toVec

/-! ## Labels and keys -/

/-- A slice of bytes. -/
abbrev Bytes := List UInt8

/-- `str::trim`. -/
def trim (s : String) : List Char := ((s.toList.dropWhile isWhiteSpace).reverse.dropWhile isWhiteSpace).reverse

/-- `bounded_label`. -/
def boundedLabel (value label : String) : Except String String :=
  let trimmed := String.ofList (trim value)
  if trimmed.toList.isEmpty || 64 < trimmed.utf8ByteSize || trimmed.toList.any isControl then
    .error (label ++ " must contain 1 to 64 visible characters")
  else .ok trimmed

/-- `valid_request_id`. -/
def validRequestId (value : String) : Bool := value.utf8ByteSize == 32 && value.toList.all isHexDigit

/-- `decode_32`. -/
def decode32 (value : String) : Option Bytes := (Base64.decode value.toList).filter (·.length == 32)

/-- What pairing takes from other crates. -/
structure Crates where
  /-- `PublicKey::from`, of a secret. -/
  publicKey : Bytes → Bytes
  diffieHellman : Bytes → Bytes → Bytes
  /-- `Hkdf::<Sha256>::expand`, of salt, key material, info and length. -/
  hkdf : Bytes → Bytes → Bytes → Nat → Bytes
  sha256 : Bytes → Bytes
  /-- AES-256-GCM, of key, nonce, associated data and text. -/
  encrypt : Bytes → Bytes → Bytes → Bytes → Bytes
  decrypt : Bytes → Bytes → Bytes → Bytes → Option Bytes

/-- Decryption undoes encryption and accepts nothing else; a ciphertext is a tag of 16 bytes longer than its text. -/
structure Crates.Lawful (c : Crates) : Prop where
  length_encrypt : ∀ key nonce aad plaintext, (c.encrypt key nonce aad plaintext).length = plaintext.length + 16
  decrypt_iff : ∀ key nonce aad ciphertext plaintext,
    c.decrypt key nonce aad ciphertext = some plaintext ↔ c.encrypt key nonce aad plaintext = ciphertext

/-- The bytes that `fresh_bytes::<12>` draws. -/
abbrev Nonce := { b : Bytes // b.length = 12 }

/-- What the two ends derive from a key exchange (`derive_material`). -/
structure Material where
  key : Bytes
  verificationCode : String
  aad : Bytes
deriving DecidableEq

/-- `format!("{:04}", u32::from_be_bytes(code) % 10_000)`. -/
def codeText (code : Bytes) : String :=
  let n := code.foldl (fun n b => n * 256 + b.toNat) 0 % 10000
  String.ofList [Nat.digitChar (n / 1000), Nat.digitChar (n / 100 % 10), Nat.digitChar (n / 10 % 10), Nat.digitChar (n % 10)]

/-- `pairing_transcript`. -/
def pairingTranscript (requestId : String) (workerPublic ownerPublic : Bytes) : Bytes :=
  utf8 "rampage.lan-pairing.transcript.v1\x00" ++ utf8 requestId ++ [0] ++ workerPublic ++ ownerPublic

section

variable (c : Crates)

/-- `derive_material`. -/
def deriveMaterial (shared transcript : Bytes) : Material :=
  let salt := utf8 "rampage-lan-pairing-v1"
  { key := c.hkdf salt shared (utf8 "invite-key\x00" ++ transcript) 32
    verificationCode := codeText (c.hkdf salt shared (utf8 "verification-code\x00" ++ transcript) 4)
    aad := c.sha256 transcript }

/-- `encrypt_payload`: the texts of nonce and ciphertext. -/
def encryptPayload (key aad plaintext : Bytes) (nonce : Option Nonce) : Except String (String × String) :=
  match nonce with
  | none => .error "system randomness is unavailable"
  | some nonce =>
    .ok (String.ofList (Base64.encode nonce), String.ofList (Base64.encode (c.encrypt key nonce aad plaintext)))

/-- `decrypt_payload`. -/
def decryptPayload (key aad : Bytes) (nonce ciphertext : String) : Except String Bytes :=
  match Base64.decode nonce.toList with
  | none => .error "pairing approval nonce is invalid"
  | some nonce =>
    if nonce.length ≠ 12 then .error "pairing approval nonce has the wrong size"
    else match Base64.decode ciphertext.toList with
    | none => .error "pairing approval ciphertext is invalid"
    | some ciphertext =>
      match c.decrypt key nonce aad ciphertext with
      | none => .error "pairing payload could not be authenticated"
      | some plaintext => .ok plaintext

end

/-! ## Pending requests -/

/-- Where a datagram comes from; the quota is by `ip` alone. -/
structure SocketAddr where
  ip : Nat
  port : Nat
deriving DecidableEq

/-- A request waits for the owner, is approved, or has been enrolled. -/
inductive PairingRequestState
  | awaitingApproval
  | approved
  | completed
deriving DecidableEq

/-- `PairingRequestState::as_str`. -/
def PairingRequestState.asStr : PairingRequestState → String
  | .awaitingApproval => "awaiting_approval"
  | .approved => "approved"
  | .completed => "completed"

/-- A request that the owner holds, with the payloads it has sent for it. -/
structure PendingPair where
  requestId : String
  deviceName : String
  deviceKind : String
  peerAddr : SocketAddr
  peerPublicKey : String
  verificationCode : String
  key : Bytes
  aad : Bytes
  expiresAtMs : Nat
  challengePayload : PairingDatagram
  approvalPayloads : Option (List PairingDatagram)
  state : PairingRequestState
deriving DecidableEq

/-- A request as the owner's screen shows it. -/
structure PairingRequestView where
  requestId : String
  deviceName : String
  deviceKind : String
  verificationCode : String
  expiresAtMs : Nat
  state : String
deriving DecidableEq

/-- `PairingRequestView::from`. -/
def PendingPair.view (p : PendingPair) : PairingRequestView :=
  ⟨p.requestId, p.deviceName, p.deviceKind, p.verificationCode, p.expiresAtMs, p.state.asStr⟩

/-- The window as the owner's screen shows it. -/
structure PairingWindowView where
  isOpen : Bool
  openUntilMs : Nat
  requests : List PairingRequestView
deriving DecidableEq

/-- The owner's part of `PairingInner`. -/
structure Owner where
  socket : Bool
  name : String
  openUntilMs : Nat
  attentionActive : Bool
  pending : Table String PendingPair
  attempts : Table Nat (List Nat)

/-- A coordinator that nobody has opened. -/
def Owner.new : Owner := ⟨false, "", 0, false, ∅, ∅⟩

/-- The attempts of the last minute. -/
def recentAttempts (now : Nat) (attempts : List Nat) : List Nat :=
  attempts.dropWhile fun timestamp => U64.satAdd timestamp 60000 ≤ now

/-- `prune_owner_state`. -/
def pruneOwnerState (now : Nat) (o : Owner) : Owner :=
  let pending := Table.retain (fun _ p => now < p.expiresAtMs) o.pending
  let attempts := Table.retain (fun _ l => !l.isEmpty) (Table.mapValues (recentAttempts now) o.attempts)
  { o with
    pending := if o.openUntilMs ≤ now then ∅ else pending
    attempts := attempts }

/-- `admit_source_attempt`. -/
def admitSourceAttempt (attempts : Table Nat (List Nat)) (source now : Nat) : Bool × Table Nat (List Nat) :=
  let recent := recentAttempts now ((AList.lookup source attempts).getD [])
  if maxNewRequestsPerIpPerMinute ≤ recent.length then (false, AList.insert source recent attempts)
  else (true, AList.insert source (recent ++ [now]) attempts)

section

variable (c : Crates)

/-- The fragments of a ciphertext. -/
def approvalChunks (requestId nonce : String) (pieces : List (List Char)) : List PairingDatagram :=
  pieces.mapIdx fun i piece => .approvalChunk pairingSchema requestId nonce i pieces.length (String.ofList piece)

/-- `encrypted_approval_chunks`. -/
def encryptedApprovalChunks (pending : PendingPair) (invitation : String) (nonce : Option Nonce) :
    Except String (List PairingDatagram) :=
  if maxInvitationBytes < invitation.utf8ByteSize then .error "invite exceeds the pairing payload limit"
  else match encryptPayload c pending.key pending.aad (utf8 invitation) nonce with
  | .error e => .error e
  | .ok (nonce, ciphertext) =>
    if maxApprovalCiphertextChars < ciphertext.utf8ByteSize then
      .error "encrypted invite exceeds the pairing reassembly limit"
    else
      let pieces := ciphertext.toList.chunks maxApprovalChunkChars
      if pieces.isEmpty || maxApprovalChunks < pieces.length then
        .error "encrypted invite requires too many pairing fragments"
      else
        let payloads := approvalChunks pending.requestId nonce pieces
        if payloads.any fun payload => 1024 < payload.toVec.length then
          .error "encrypted pairing fragment exceeds its safe UDP size"
        else .ok payloads

/-! ## Events -/

/-- What an event makes the owner send: the request it is for, where to, and the payloads in order. -/
structure Delivery where
  requestId : String
  peerAddr : SocketAddr
  payloads : List PairingDatagram
deriving DecidableEq

/-- What a command of the owner returns. -/
inductive Answer
  | done
  | request (v : PairingRequestView)
  | window (v : PairingWindowView)
  | failed (message : String)
deriving DecidableEq

/-- The answer to the caller and what is sent. -/
structure Reaction where
  answer : Answer
  delivery : Option Delivery
deriving DecidableEq

/-- Nothing to say and nothing to send. -/
def Reaction.silent : Reaction := ⟨.done, none⟩

/-- `owner_window`. -/
def Owner.window (now : Nat) (o : Owner) : Reaction × Owner :=
  let o := pruneOwnerState now o
  let requests := ((Table.values o.pending).map PendingPair.view).mergeSort fun a b => a.requestId ≤ b.requestId
  let awaiting := (Table.values o.pending).any fun p => p.state == .awaitingApproval
  (⟨.window ⟨now < o.openUntilMs, o.openUntilMs, requests⟩, none⟩,
    { o with attentionActive := o.attentionActive && awaiting })

/-- `open_owner_window`; the socket is bound if there is none. -/
def Owner.openWindow (name : String) (binds : Bool) (now later : Nat) (o : Owner) : Reaction × Owner :=
  match boundedLabel name "owner name" with
  | .error e => (⟨.failed e, none⟩, o)
  | .ok name =>
    if !o.socket && !binds then (⟨.failed "could not open the local pairing listener", none⟩, o)
    else
      let o := { o with socket := true, name := name, openUntilMs := U64.satAdd now pairingWindowMs }
      (pruneOwnerState now o).window later

/-- `deactivate_owner_window`. -/
def Owner.deactivate (o : Owner) : Owner :=
  { o with openUntilMs := 0, pending := ∅, attempts := ∅, attentionActive := false }

/-- `approve`. What is sent after a failed send is lost with it. -/
def Owner.approve (now : Nat) (requestId invitation : String) (nonce : Option Nonce) (sends : Bool) (o : Owner) :
    Reaction × Owner :=
  let o := pruneOwnerState now o
  if !o.socket then (⟨.failed "pairing window is not open", none⟩, o)
  else match AList.lookup requestId o.pending with
  | none => (⟨.failed "pairing request expired or is unknown", none⟩, o)
  | some pending =>
    match encryptedApprovalChunks c pending invitation nonce with
    | .error e => (⟨.failed e, none⟩, o)
    | .ok payloads =>
      let pending := { pending with approvalPayloads := some payloads, state := .approved }
      (⟨if sends then .request pending.view else .failed "could not deliver pairing approval",
          some ⟨requestId, pending.peerAddr, payloads⟩⟩,
        { o with pending := AList.insert requestId pending o.pending })

/-- `reject`. -/
def Owner.reject (requestId : String) (sends : Bool) (o : Owner) : Reaction × Owner :=
  if !o.socket then (⟨.failed "pairing window is not open", none⟩, o)
  else match AList.lookup requestId o.pending with
  | none => (⟨.failed "pairing request expired or is unknown", none⟩, o)
  | some pending =>
    (⟨if sends then .done else .failed "could not deliver pairing rejection",
        some ⟨requestId, pending.peerAddr, [.rejected pairingSchema requestId "The owner declined this device."]⟩⟩,
      { o with pending := AList.erase requestId o.pending })

/-- The completion message. -/
def Owner.receiveCompletion (now : Nat) (source : SocketAddr) (schema requestId nonce ciphertext : String) (o : Owner) : Owner :=
  if schema ≠ pairingSchema || !validRequestId requestId then o
  else
    let o := pruneOwnerState now o
    match AList.lookup requestId o.pending with
    | none => o
    | some pending =>
      if pending.peerAddr ≠ source ∨ pending.state ≠ .approved then o
      else if (decryptPayload c pending.key pending.aad nonce ciphertext).toOption = some (utf8 "enrollment-complete") then
        { o with pending := AList.insert requestId { pending with state := .completed } o.pending }
      else o

/-- A new request with its challenge. -/
def newPending (o : Owner) (now : Nat) (source : SocketAddr) (requestId deviceName deviceKind publicKey : String)
    (peerPublic secret : Bytes) : PendingPair :=
  let ownerPublic := c.publicKey secret
  let material := deriveMaterial c (c.diffieHellman secret peerPublic) (pairingTranscript requestId peerPublic ownerPublic)
  let expiry := min (U64.satAdd now workerWaitMs) o.openUntilMs
  { requestId := requestId
    deviceName := deviceName
    deviceKind := deviceKind
    peerAddr := source
    peerPublicKey := publicKey
    verificationCode := material.verificationCode
    key := material.key
    aad := material.aad
    expiresAtMs := expiry
    challengePayload :=
      .challenge pairingSchema requestId o.name (String.ofList (Base64.encode ownerPublic)) expiry
    approvalPayloads := none
    state := .awaitingApproval }

/-- A request: a known one is answered with its approval, or else with its challenge again. -/
def Owner.receiveHello (now : Nat) (source : SocketAddr) (schema requestId deviceName deviceKind publicKey : String)
    (sourceIsLocal : Bool) (secret : Option Bytes) (o : Owner) : Option Delivery × Owner :=
  if schema ≠ pairingSchema || !validRequestId requestId || !(boundedLabel deviceName "device name").isOk ||
      deviceKind ≠ "desktop" || sourceIsLocal then (none, o)
  else match decode32 publicKey with
  | none => (none, o)
  | some peerPublic =>
    let o := pruneOwnerState now o
    if o.openUntilMs ≤ now then (none, o)
    else match AList.lookup requestId o.pending with
    | some existing =>
      if existing.peerPublicKey ≠ publicKey ∨ existing.peerAddr.ip ≠ source.ip then (none, o)
      else
        (some ⟨requestId, source, existing.approvalPayloads.getD [existing.challengePayload]⟩,
          { o with pending := AList.insert requestId { existing with peerAddr := source } o.pending })
    | none =>
      if maxPendingRequests ≤ o.pending.entries.length then (none, o)
      else
        let (admitted, attempts) := admitSourceAttempt o.attempts source.ip now
        let o := { o with attempts := attempts }
        if !admitted then (none, o)
        else match secret with
        | none => (none, o)
        | some secret =>
          let pending := newPending c o now source requestId deviceName deviceKind publicKey peerPublic secret
          (some ⟨requestId, source, [pending.challengePayload]⟩,
            { o with pending := AList.insert requestId pending o.pending, attentionActive := true })

/-- A datagram that the owner's socket received; `none` is one that does not parse. -/
def Owner.receive (now : Nat) (source : SocketAddr) (d : Option PairingDatagram) (sourceIsLocal : Bool) (secret : Option Bytes)
    (o : Owner) : Option Delivery × Owner :=
  match d with
  | some (.enrollmentComplete schema requestId nonce ciphertext) =>
    (none, o.receiveCompletion c now source schema requestId nonce ciphertext)
  | some (.hello schema requestId deviceName deviceKind publicKey _ _) =>
    o.receiveHello c now source schema requestId deviceName deviceKind publicKey sourceIsLocal secret
  | _ => (none, o)

/-- A command of the owner or a datagram, with what the clock, the random source and the socket
give it. -/
inductive OwnerEvent
  | openWindow (name : String) (binds : Bool) (now later : Nat)
  | window (now : Nat)
  | deactivate
  | approve (now : Nat) (requestId invitation : String) (nonce : Option Nonce) (sends : Bool)
  | reject (requestId : String) (sends : Bool)
  | receive (now : Nat) (source : SocketAddr) (d : Option PairingDatagram) (sourceIsLocal : Bool) (secret : Option Bytes)

/-- The coordinator is behind one lock: an event is handled before the next one. -/
def Owner.step : OwnerEvent → Owner → Reaction × Owner
  | .openWindow name binds now later, o => o.openWindow name binds now later
  | .window now, o => o.window now
  | .deactivate, o => (.silent, o.deactivate)
  | .approve now requestId invitation nonce sends, o => o.approve c now requestId invitation nonce sends
  | .reject requestId sends, o => o.reject requestId sends
  | .receive now source d sourceIsLocal secret, o =>
    let (delivery, o) := o.receive c now source d sourceIsLocal secret
    (⟨.done, delivery⟩, o)

/-- The owner as a machine: every event holds the lock of the table. -/
def ownerMachine : Machine Owner OwnerEvent Reaction := ⟨Owner.step c⟩

end

end Rampage.Pairing
