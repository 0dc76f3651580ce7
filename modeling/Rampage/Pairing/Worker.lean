/-
Pairing, the worker's side: `worker_pairing_loop` selects an owner by its challenge, puts the fragments of an approval
together and decrypts it. The worker and the owner together are a machine; what the owner sends is kept, so that every
datagram can be lost, repeated or overtaken.
-/
import Rampage.Pairing.Forward

namespace Rampage.Pairing

/-! ## Putting fragments together -/

/-- The text of a list of fragments, if none is missing. -/
def joined : List (Option String) → Option (List Char)
  | [] => some []
  | none :: _ => none
  | some piece :: l => (joined l).map (piece.toList ++ ·)

/-- An approval that is being put together, with a place for every chunk. -/
structure ApprovalAssembly where
  nonce : String
  chunkCount : Nat
  chunks : List (Option String)
  encodedLen : Nat
  length_chunks : chunks.length = chunkCount
deriving DecidableEq

namespace ApprovalAssembly

/-- `ApprovalAssembly::new`. -/
def new (nonce : String) (chunkCount : Nat) : Option ApprovalAssembly :=
  if 1 ≤ chunkCount ∧ chunkCount ≤ maxApprovalChunks then
    some ⟨nonce, chunkCount, List.replicate chunkCount none, 0, by simp⟩
  else none

/-- `complete`. -/
def complete (a : ApprovalAssembly) : Option String := (joined a.chunks).map String.ofList

/-- `push`. -/
def push (index : Nat) (chunk : String) (a : ApprovalAssembly) : Except String (Option String) × ApprovalAssembly :=
  if a.chunkCount ≤ index || chunk.toList.isEmpty || maxApprovalChunkChars < chunk.utf8ByteSize ||
      !chunk.toList.all Base64.isEncoded then (.ok none, a)
  else match a.chunks[index]? with
  | some (some existing) => (.ok (if existing = chunk then a.complete else none), a)
  | _ =>
    if maxApprovalCiphertextChars < a.encodedLen + chunk.utf8ByteSize then
      (.error "encrypted pairing approval exceeds its bounded reassembly limit", a)
    else
      let a : ApprovalAssembly :=
        { a with
          encodedLen := a.encodedLen + chunk.utf8ByteSize
          chunks := a.chunks.set index (some chunk)
          length_chunks := by rw [List.length_set]; exact a.length_chunks }
      (.ok a.complete, a)

end ApprovalAssembly

/-! ## The loop -/

/-- `selected_owner`. -/
structure Selected where
  addr : SocketAddr
  key : Bytes
  aad : Bytes
  ownerName : String
deriving DecidableEq

/-- A worker that is pairing: the owner it chose and the approval so far. -/
structure Worker where
  requestId : String
  secret : Bytes
  selected : Option Selected
  assembly : Option ApprovalAssembly
deriving DecidableEq

/-- The loop goes on, has recovered an invitation, failed, or was cancelled. -/
inductive WorkerState
  | pairing (w : Worker)
  | recovered (invitation : String)
  | failed (message : String)
  | cancelled
deriving DecidableEq

section

variable (c : Crates)

/-- `decrypt_approval`. -/
def decryptApproval (key aad : Bytes) (nonce ciphertext : String) : Except String String :=
  match decryptPayload c key aad nonce ciphertext with
  | .error e => .error e
  | .ok plaintext =>
    match fromUtf8 plaintext with
    | none => .error "pairing approval is not UTF-8"
    | some invitation => .ok invitation

/-- `finish_worker_enrollment`, up to the invitation that is then stored. -/
def finishWorkerEnrollment (s : Selected) (nonce ciphertext : String) : WorkerState :=
  match decryptApproval c s.key s.aad nonce ciphertext with
  | .error e => .failed e
  | .ok invitation => .recovered invitation

/-- A fragment for the selected owner. -/
def Worker.receiveChunk (s : Selected) (nonce : String) (index count : Nat) (chunk : String) (w : Worker) : WorkerState :=
  if w.assembly.any fun a => a.nonce != nonce || a.chunkCount != count then .pairing w
  -- only the first fragment begins an assembly
  else if w.assembly.isNone && index != 0 then .pairing w
  else match w.assembly.or (ApprovalAssembly.new nonce count) with
  | none => .pairing w
  | some a =>
    match a.push index chunk with
    | (.error e, _) => .failed e
    | (.ok none, a) => .pairing { w with assembly := some a }
    | (.ok (some ciphertext), _) => finishWorkerEnrollment c s nonce ciphertext

/-- A datagram that the worker's socket received; `none` is one that does not parse. -/
def Worker.receive (source : SocketAddr) (d : Option PairingDatagram) (w : Worker) : WorkerState :=
  match d with
  | some (.challenge schema responseId ownerName publicKey _) =>
    if schema ≠ pairingSchema ∨ responseId ≠ w.requestId then .pairing w
    else match decode32 publicKey with
    | none => .pairing w
    | some ownerPublic =>
      if w.selected.any fun s => s.addr != source then .pairing w
      else
        let workerPublic := c.publicKey w.secret
        let material := deriveMaterial c (c.diffieHellman w.secret ownerPublic)
          (pairingTranscript w.requestId workerPublic ownerPublic)
        match boundedLabel ownerName "owner name" with
        | .error e => .failed e
        | .ok ownerName => .pairing { w with selected := some ⟨source, material.key, material.aad, ownerName⟩ }
  | some (.approval schema responseId nonce ciphertext) =>
    if schema ≠ pairingSchema ∨ responseId ≠ w.requestId then .pairing w
    else match w.selected with
    | none => .pairing w
    | some s => if s.addr ≠ source then .pairing w else finishWorkerEnrollment c s nonce ciphertext
  | some (.approvalChunk schema responseId nonce index count chunk) =>
    if schema ≠ pairingSchema ∨ responseId ≠ w.requestId then .pairing w
    else match w.selected with
    | none => .pairing w
    | some s => if s.addr ≠ source then .pairing w else w.receiveChunk c s nonce index count chunk
  | some (.rejected schema responseId reason) =>
    if schema ≠ pairingSchema ∨ responseId ≠ w.requestId then .pairing w
    else match w.selected with
    | none => .pairing w
    | some s => if s.addr ≠ source then .pairing w else .failed reason
  | _ => .pairing w

/-- A worker that is done does not listen. -/
def WorkerState.receive (source : SocketAddr) (d : Option PairingDatagram) : WorkerState → WorkerState
  | .pairing w => w.receive c source d
  | s => s

/-- The worker after it has received the datagrams in order. -/
def deliver (source : SocketAddr) (ds : List PairingDatagram) (s : WorkerState) : WorkerState :=
  ds.foldl (fun s d => s.receive c source (some d)) s

/-! ## Owner and worker -/

/-- Both sides, and what the owner has sent and where to. -/
structure System where
  owner : Owner
  worker : WorkerState
  sent : List (SocketAddr × PairingDatagram)

/-- `begin_worker`: a worker with its request and its secret; the owner's application has just started. -/
def System.new (requestId : String) (secret : Bytes) : System := ⟨Owner.new, .pairing ⟨requestId, secret, none, none⟩, []⟩

/-- What happens next at either end. -/
inductive Input
  | owner (e : OwnerEvent)
  | worker (source : SocketAddr) (d : Option PairingDatagram)
  /-- Fifteen minutes have passed. -/
  | expire
  | cancel

/-- What the owner sends is on the network for good; whether a worker gets it is another input. -/
def System.step : Input → System → Option Reaction × System
  | .owner e, s =>
    let (reaction, owner) := s.owner.step c e
    let sent := (reaction.delivery.map fun d => d.payloads.map fun payload => (d.peerAddr, payload)).getD []
    (some reaction, { s with owner := owner, sent := s.sent ++ sent })
  | .worker source d, s => (none, { s with worker := s.worker.receive c source d })
  | .expire, s =>
    (none, { s with worker := match s.worker with
      | .pairing _ =>
        .failed "No owner approved this laptop within fifteen minutes. Try again beside the owner PC."
      | worker => worker })
  | .cancel, s =>
    (none, { s with worker := match s.worker with
      | .pairing _ => .cancelled
      | worker => worker })

/-- The two ends together. -/
def systemMachine : Machine System Input (Option Reaction) := ⟨System.step c⟩

end

/-- Nothing reaches the worker but what the owner sent to it. -/
def Honest (ownerAddr workerAddr : SocketAddr) (s : System) : Input → Prop
  | .worker source d => source = ownerAddr ∧ ∃ datagram, d = some datagram ∧ (workerAddr, datagram) ∈ s.sent
  | _ => True

/-- The invitation that an owner's event approved. -/
def approvedBy (r : String) : Input × Option Reaction → Option String
  | (.owner (.approve _ requestId invitation _ _), some reaction) =>
    if requestId = r ∧ reaction.delivery.isSome then some invitation else none
  | _ => none

/-- The invitation that was approved last for a request. -/
def lastApproved (r : String) (tr : List (Input × Option Reaction)) : Option String := (tr.filterMap (approvedBy r)).getLast?

end Rampage.Pairing
