/-
Runs of a store: the operations one after the other, with restarts between them. A store keeps nothing in
memory, so a restart (`open_with_limits` on the same root) changes nothing.
-/
import Rampage.Lib.Machine
import Rampage.Storage.Session

namespace Rampage.Storage

open Rampage.Protocol

/-- A call of the store, with the clock readings and nonces it draws. -/
inductive Op
  | begin (now : Int) (spec : ResumablePutSpec)
  | putChunk (now : Int) (nonce : Nonce) (sessionId : String) (index : Nat) (declaredDigest : String) (plaintext : Bytes)
  | commit (now createdAt : Int) (sessionId : String)
  | acceptAuthority (now : Int) (scope : String) (fencingEpoch : Nat) (nonce : String) (expiresAt : Int)
  | put (createdAt : Int) (nonces : Nat → Nonce) (plaintext : Bytes) (options : PutOptions)
  | restart

/-- What an operation returns. -/
inductive Reply
  | status (r : Except StorageError ResumablePutStatus)
  | artifact (r : Except StorageError ArtifactRefV1)
  | accepted (r : Except StorageError Unit)
  | restarted

variable (cas : CasStore)

/-- The effects of a call. -/
def Op.effects (s : Store) : Op → List Effect
  | .begin now spec => (beginResumablePut cas now spec s).effects
  | .putChunk now nonce sid i d p => (putResumableChunk cas now nonce sid i d p s).effects
  | .commit now createdAt sid => (commitResumablePut cas now createdAt sid s).effects
  | .acceptAuthority now scope epoch nonce expiresAt => (Storage.acceptAuthority now scope epoch nonce expiresAt s).effects
  | .put createdAt nonces plaintext options => (Storage.put cas createdAt nonces plaintext options s).effects
  | .restart => []

/-- The answer of a call. -/
def Op.reply (s : Store) : Op → Reply
  | .begin now spec => .status (beginResumablePut cas now spec s).result
  | .putChunk now nonce sid i d p => .status (putResumableChunk cas now nonce sid i d p s).result
  | .commit now createdAt sid => .artifact (commitResumablePut cas now createdAt sid s).result
  | .acceptAuthority now scope epoch nonce expiresAt => .accepted (Storage.acceptAuthority now scope epoch nonce expiresAt s).result
  | .put createdAt nonces plaintext options => .artifact (Storage.put cas createdAt nonces plaintext options s).result
  | .restart => .restarted

/-- An operation that is not cut short. -/
def step (op : Op) (s : Store) : Reply × Store := (op.reply cas s, storeEffects.applyAll (op.effects cas s) s)

/-- The store under operations. -/
def machine : Machine Store Op Reply := ⟨step cas⟩

end Rampage.Storage
