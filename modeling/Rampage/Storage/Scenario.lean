/-
A small store on which the general results are tried: SHA-256 and AES-256-GCM (under the zero key) have their
real values on the few messages that occur, and an artifact of two bytes is sent in two chunks.
-/
import Rampage.Storage.Session

namespace Rampage.Storage.Scenario

open Rampage.Protocol

/-- SHA-256 of the messages that occur: three ciphertexts, three chunks and the artifact. -/
def digests : List (Bytes × Bytes) :=
  [([207, 112, 125, 207, 128, 161, 185, 166, 23, 3, 231, 149, 212, 209, 9, 240, 253],
      [117, 164, 243, 193, 164, 150, 95, 60, 172, 182, 252, 3, 68, 219, 77, 98,
      173, 83, 76, 63, 164, 110, 203, 218, 160, 209, 199, 26, 229, 181, 242, 128]),
    ([43, 143, 233, 190, 162, 143, 146, 93, 232, 136, 85, 25, 109, 44, 254, 178, 237],
      [129, 138, 88, 247, 83, 25, 17, 15, 34, 49, 129, 64, 198, 73, 209, 152,
      81, 135, 254, 7, 104, 222, 242, 44, 15, 131, 70, 252, 250, 43, 36, 252]),
    ([191, 177, 105, 144, 157, 95, 100, 119, 228, 117, 82, 16, 234, 29, 232, 42, 30],
      [250, 222, 106, 183, 178, 71, 65, 241, 162, 247, 132, 255, 37, 87, 253, 220,
      86, 41, 33, 255, 191, 0, 184, 195, 57, 172, 133, 242, 163, 204, 138, 186]),
    ([1],
      [75, 245, 18, 47, 52, 69, 84, 197, 59, 222, 46, 187, 140, 210, 183, 227,
      209, 96, 10, 214, 49, 195, 133, 165, 215, 204, 226, 60, 119, 133, 69, 154]),
    ([2],
      [219, 193, 180, 201, 0, 255, 228, 141, 87, 91, 93, 165, 198, 56, 4, 1,
      37, 246, 93, 176, 254, 62, 36, 73, 75, 118, 234, 152, 100, 87, 217, 134]),
    ([3],
      [8, 79, 237, 8, 185, 120, 175, 77, 125, 25, 106, 116, 70, 168, 107, 88,
      0, 158, 99, 107, 97, 29, 177, 98, 17, 182, 90, 154, 173, 255, 41, 197]),
    ([1, 2],
      [161, 40, 113, 254, 226, 16, 251, 134, 25, 41, 30, 174, 161, 148, 88, 28,
      189, 37, 49, 228, 178, 55, 89, 210, 37, 246, 128, 105, 35, 246, 50, 34])]

/-- The nonce that ends in the given byte. -/
def nonce (n : UInt8) : Nonce := ⟨[0, 0, 0, 0, 0, 0, 0, 0, 0, 0, 0, n], rfl⟩

/-- The authentication tags that occur. -/
def tags : List ((Bytes × Bytes) × Bytes) :=
  [(((nonce 0).1, [1]), [112, 125, 207, 128, 161, 185, 166, 23, 3, 231, 149, 212, 209, 9, 240, 253]),
    (((nonce 1).1, [2]), [143, 233, 190, 162, 143, 146, 93, 232, 136, 85, 25, 109, 44, 254, 178, 237]),
    (((nonce 2).1, [1]), [177, 105, 144, 157, 95, 100, 119, 228, 117, 82, 16, 234, 29, 232, 42, 30])]

/-- The key stream at a position. -/
def mask (n : Nonce) (i : Nat) : UInt8 :=
  if i ≠ 0 then 0 else if n = nonce 0 then 206 else if n = nonce 1 then 41 else if n = nonce 2 then 190 else 0

/-- Exactly `k` bytes: a list cut or filled up with zeros. -/
def fit (k : Nat) (l : Bytes) : Bytes := (l ++ List.replicate k 0).take k

theorem length_fit (k : Nat) (l : Bytes) : (fit k l).length = k := by
  rw [fit, List.length_take, List.length_append, List.length_replicate]
  omega

/-- A stream cipher of the nonce. -/
def masked (n : Nonce) (p : Bytes) : Bytes := p.mapIdx fun i b => b ^^^ mask n i

theorem masked_masked (n : Nonce) (p : Bytes) : masked n (masked n p) = p := by
  refine List.ext_getElem (by simp [masked]) ?_
  intro i h h'
  simp only [masked, List.getElem_mapIdx]
  rw [UInt8.xor_assoc, UInt8.xor_self, UInt8.xor_zero]

/-- The tag of the sealed chunks that the run meets, and zeros for others. -/
def tag (n : Nonce) (p : Bytes) : Bytes := fit 16 ((tags.lookup (n.1, p)).getD [])

/-- Digests and tags of the run from a table. -/
def cas : CasStore where
  sha256 := fun b => fit 32 ((digests.lookup b).getD b)
  sha256_length := fun _ => length_fit 32 _
  encrypt := fun n p => masked n p ++ tag n p
  decrypt := fun n c =>
    let p := masked n (c.take (c.length - 16))
    if tag n p = c.drop (c.length - 16) then some p else none
  decrypt_encrypt := by
    intro n p
    have hlen : (masked n p ++ tag n p).length - 16 = (masked n p).length := by
      rw [List.length_append, tag, length_fit]
      omega
    dsimp only
    rw [hlen, List.take_left, List.drop_left, masked_masked, if_pos rfl]
  encrypt_length := by
    intro n p
    rw [List.length_append, tag, length_fit, masked, List.length_mapIdx]
  manifestSize := fun m => 512 + 256 * m.chunks.length
  limits := none

/-- Milliseconds as an instant. -/
def millis (n : Int) : Int := n * 1000000

/-- The content address of the artifact. -/
def digest : String := "sha256:a12871fee210fb8619291eaea194581cbd2531e4b23759d225f6806923f63222"

/-- The one session. -/
def session : String := "00000000000000000000000000000001"

/-- The transfer of the artifact under a lease of the given epoch and nonce. -/
def spec (epoch : Nat) (authorityNonce : String) (expiresAt : Int) : ResumablePutSpec where
  sessionId := session
  leaseId := "lease"
  authorityScope := "governor"
  fencingEpoch := epoch
  authorityNonce := authorityNonce
  expiresAt := expiresAt
  digest := digest
  sizeBytes := 2
  mediaType := "application/octet-stream"
  storageClass := .cache
  requiredReplicas := 1
  chunkSize := 1

end Rampage.Storage.Scenario
