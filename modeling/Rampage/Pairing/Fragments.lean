/-
The fragments of an approval. `encryptedApprovalChunks_ok` takes a successful encryption apart;
`encryptedApprovalChunks_isOk` says that it fails only on an invitation that is too long or for want of randomness.
-/
import Mathlib.Tactic.Linarith
import Rampage.Pairing.Owner

namespace Rampage.Pairing

/-! ## Texts -/

/-- The text of a nonce. -/
def nonceText (nonce : Nonce) : String := String.ofList (Base64.encode nonce)

/-- The text of an encrypted invitation. -/
def ciphertextOf (c : Crates) (key aad : Bytes) (nonce : Nonce) (invitation : String) : List Char :=
  Base64.encode (c.encrypt key nonce aad (utf8 invitation))

theorem isPlain_of_isEncoded {d : Char} (h : Base64.isEncoded d = true) : isPlain d = true := by
  have hrange : d.toNat < 128 := by
    delta Base64.isEncoded Char.isAlphanum Char.isAlpha Char.isUpper Char.isLower Char.isDigit at h
    simp only [Bool.or_eq_true, Bool.and_eq_true, decide_eq_true_eq, beq_iff_eq, UInt32.le_iff_toNat_le] at h
    have hval : d.toNat = d.val.toNat := rfl
    rcases h with (((((h | h) | h)) | rfl) | rfl) | rfl
    · have := h.2
      simp at this
      omega
    · have := h.2
      simp at this
      omega
    · have := h.2
      simp at this
      omega
    · decide
    · decide
    · decide
  have hall : ∀ n : Fin 128, Base64.isEncoded (Char.ofNat n) = true → isPlain (Char.ofNat n) = true := by decide
  have := hall ⟨d.toNat, hrange⟩
  rw [Char.ofNat_toNat] at this
  exact this h

theorem isPlain_of_mem_encode {b : Bytes} : ∀ d ∈ Base64.encode b, isPlain d = true :=
  fun d hd => isPlain_of_isEncoded (Base64.isEncoded_of_mem d hd)

theorem utf8ByteSize_encode (b : Bytes) : (String.ofList (Base64.encode b)).utf8ByteSize = (Base64.encode b).length := by
  rw [utf8ByteSize_ofList, byteLen_of_isPlain isPlain_of_mem_encode]

theorem isPlain_of_validRequestId {id : String} (h : validRequestId id = true) :
    (∀ d ∈ id.toList, isPlain d = true) ∧ id.toList.length = 32 := by
  simp only [validRequestId, Bool.and_eq_true, beq_iff_eq, List.all_eq_true] at h
  have hplain : ∀ d ∈ id.toList, isPlain d = true := by
    intro d hd
    have hhex := h.2 d hd
    have hrange : d.toNat < 128 := by
      simp only [Protocol.isHexDigit, Protocol.isLowerHexChar, Bool.or_eq_true, Bool.and_eq_true, decide_eq_true_eq] at hhex
      omega
    have hall : ∀ n : Fin 128, Protocol.isHexDigit (Char.ofNat n) = true → isPlain (Char.ofNat n) = true := by decide
    have := hall ⟨d.toNat, hrange⟩
    rw [Char.ofNat_toNat] at this
    exact this hhex
  refine ⟨hplain, ?_⟩
  rw [← byteLen_of_isPlain hplain, ← utf8ByteSize_ofList, String.ofList_toList]
  exact h.1

/-! ## Sizes -/

theorem length_nonceText (nonce : Nonce) : (Base64.encode nonce.1).length = 16 := by
  rw [Base64.length_encode, nonce.2]

theorem length_toDigits_le {n : Nat} (h : n ≤ 16) : byteLen (Nat.toDigits 10 n) ≤ 2 := by
  have hall : ∀ n : Fin 17, byteLen (Nat.toDigits 10 n) ≤ 2 := by decide
  exact hall ⟨n, by omega⟩

/-- The texts that every fragment holds. -/
theorem byteLen_fixed : byteLen (quote "kind") = 6 ∧ byteLen (quote "approval_chunk") = 16 ∧ byteLen (quote "schema") = 8 ∧
    byteLen (quote pairingSchema) = 24 ∧ byteLen (quote "request_id") = 12 ∧ byteLen (quote "nonce") = 7 ∧
    byteLen (quote "chunk_index") = 13 ∧ byteLen (quote "chunk_count") = 13 ∧ byteLen (quote "ciphertext_chunk") = 18 := by
  decide +kernel

theorem utf8Size_marks : Char.utf8Size '{' = 1 ∧ Char.utf8Size ':' = 1 ∧ Char.utf8Size ',' = 1 ∧ Char.utf8Size '}' = 1 := by
  decide

/-- Every fragment fits into a safe datagram. -/
theorem length_toVec_le {id : String} (nonce : Nonce) {i n : Nat} {piece : List Char} (hid : validRequestId id = true)
    (hi : i ≤ 16) (hn : n ≤ 16) (hpiece : piece.length ≤ maxApprovalChunkChars) (hplain : ∀ d ∈ piece, isPlain d = true) :
    (PairingDatagram.approvalChunk pairingSchema id (nonceText nonce) i n (String.ofList piece)).toVec.length ≤ 1024 := by
  obtain ⟨hidPlain, hidLen⟩ := isPlain_of_validRequestId hid
  have hid' := byteLen_quote hidPlain
  have hnonce : byteLen (quote (nonceText nonce)) = 18 := by
    rw [byteLen_quote (by rw [nonceText, String.toList_ofList]; exact isPlain_of_mem_encode), nonceText, String.toList_ofList,
      length_nonceText]
  have hchunk : byteLen (quote (String.ofList piece)) = piece.length + 2 := by
    rw [byteLen_quote (by rw [String.toList_ofList]; exact hplain), String.toList_ofList]
  have hi' := length_toDigits_le hi
  have hn' := length_toDigits_le hn
  have hkeys := byteLen_fixed
  have hmarks := utf8Size_marks
  rw [PairingDatagram.toVec, Json.length_toVec]
  simp only [PairingDatagram.toJson, Json.print, Json.printEntries, JsonNumber.ofNat, byteLen_cons, byteLen_append, byteLen_nil,
    hid', hidLen, hnonce, hchunk, hkeys, hmarks]
  clear hkeys hmarks hid' hnonce hchunk
  generalize byteLen (Nat.toDigits 10 i) = index at hi' ⊢
  generalize byteLen (Nat.toDigits 10 n) = count at hn' ⊢
  unfold maxApprovalChunkChars at hpiece
  linarith

/-! ## What an encrypted invitation is -/

section

variable {c : Crates}

/-- The pieces of an encrypted invitation. -/
def piecesOf (c : Crates) (key aad : Bytes) (nonce : Nonce) (invitation : String) : List (List Char) :=
  (ciphertextOf c key aad nonce invitation).chunks maxApprovalChunkChars

theorem flatten_piecesOf (key aad : Bytes) (nonce : Nonce) (invitation : String) :
    (piecesOf c key aad nonce invitation).flatten = ciphertextOf c key aad nonce invitation :=
  List.flatten_chunks (by decide) _

theorem piecesOf_spec {key aad : Bytes} {nonce : Nonce} {invitation : String} :
    ∀ piece ∈ piecesOf c key aad nonce invitation,
      piece ≠ [] ∧ piece.length ≤ maxApprovalChunkChars ∧ ∀ d ∈ piece, Base64.isEncoded d = true := by
  intro piece hpiece
  obtain ⟨hne, hlen⟩ := (List.chunksUpTo_spec (by decide) (Nat.le_refl _)).2 piece hpiece
  refine ⟨hne, hlen, ?_⟩
  intro d hd
  have hin : d ∈ (piecesOf c key aad nonce invitation).flatten := List.mem_flatten_of_mem hpiece hd
  rw [flatten_piecesOf] at hin
  exact Base64.isEncoded_of_mem d hin

theorem encryptedApprovalChunks_ok {p : PendingPair} {invitation : String} {draw : Option Nonce}
    {payloads : List PairingDatagram} (h : encryptedApprovalChunks c p invitation draw = .ok payloads) :
    ∃ nonce, draw = some nonce ∧
      payloads = approvalChunks p.requestId (nonceText nonce) (piecesOf c p.key p.aad nonce invitation) ∧
      piecesOf c p.key p.aad nonce invitation ≠ [] ∧ (piecesOf c p.key p.aad nonce invitation).length ≤ maxApprovalChunks ∧
      (ciphertextOf c p.key p.aad nonce invitation).length ≤ maxApprovalCiphertextChars := by
  unfold encryptedApprovalChunks at h
  split at h
  · cases h
  cases draw with
  | none => cases h
  | some nonce =>
    simp only [encryptPayload] at h
    split at h
    · cases h
    rename_i hcipher
    rw [utf8ByteSize_encode] at hcipher
    rw [String.toList_ofList] at h
    split at h
    · cases h
    rename_i hpieces
    simp only [Bool.or_eq_true, decide_eq_true_eq, not_or] at hpieces
    split at h
    · cases h
    cases h
    refine ⟨nonce, rfl, rfl, ?_, Nat.not_lt.1 hpieces.2, Nat.not_lt.1 hcipher⟩
    intro hnil
    exact hpieces.1 (List.isEmpty_iff.2 hnil)

/-- A ciphertext is a tag of 16 bytes longer than its text. -/
def Crates.AddsTag (c : Crates) : Prop :=
  ∀ key nonce aad plaintext, (c.encrypt key nonce aad plaintext).length = plaintext.length + 16

theorem length_ciphertextOf (hc : c.AddsTag) (key aad : Bytes) (nonce : Nonce) (invitation : String) :
    (ciphertextOf c key aad nonce invitation).length = (invitation.utf8ByteSize + 18) / 3 * 4 := by
  rw [ciphertextOf, Base64.length_encode, hc, length_utf8_eq_utf8ByteSize]

theorem length_piecesOf (hc : c.AddsTag) (key aad : Bytes) (nonce : Nonce) (invitation : String) :
    (piecesOf c key aad nonce invitation).length = ((invitation.utf8ByteSize + 18) / 3 * 4 + 639) / 640 := by
  rw [piecesOf, List.length_chunks (by decide), length_ciphertextOf hc]
  rfl

/-- Encryption succeeds for every invitation within its limit, given randomness. -/
theorem encryptedApprovalChunks_isOk (hc : c.AddsTag) {p : PendingPair} {invitation : String} (nonce : Nonce)
    (hid : validRequestId p.requestId = true) (hlen : invitation.utf8ByteSize ≤ maxInvitationBytes) :
    encryptedApprovalChunks c p invitation (some nonce) =
      .ok (approvalChunks p.requestId (nonceText nonce) (piecesOf c p.key p.aad nonce invitation)) := by
  have hsize := length_ciphertextOf hc p.key p.aad nonce invitation
  have hcount := length_piecesOf hc p.key p.aad nonce invitation
  unfold maxInvitationBytes at hlen
  unfold encryptedApprovalChunks
  rw [if_neg (by unfold maxInvitationBytes; omega)]
  simp only [encryptPayload, String.toList_ofList]
  have hcipher : (String.ofList (Base64.encode (c.encrypt p.key nonce.1 p.aad (utf8 invitation)))).utf8ByteSize =
      (invitation.utf8ByteSize + 18) / 3 * 4 := by
    rw [utf8ByteSize_encode]
    exact hsize
  rw [if_neg (by rw [hcipher]; unfold maxApprovalCiphertextChars; omega)]
  have hpieces : (Base64.encode (c.encrypt p.key nonce.1 p.aad (utf8 invitation))).chunks maxApprovalChunkChars =
      piecesOf c p.key p.aad nonce invitation := rfl
  have hnonce : String.ofList (Base64.encode nonce.1) = nonceText nonce := rfl
  rw [hpieces, hnonce, if_neg, if_neg]
  · rw [List.any_eq_true]
    rintro ⟨payload, hpayload, hbig⟩
    rw [approvalChunks, List.mem_mapIdx] at hpayload
    obtain ⟨i, hi, rfl⟩ := hpayload
    obtain ⟨-, hshort, hencoded⟩ := piecesOf_spec _ (List.getElem_mem hi)
    have := length_toVec_le nonce (i := i) (n := (piecesOf c p.key p.aad nonce invitation).length) hid (by omega)
      (by omega) hshort (fun d hd => isPlain_of_isEncoded (hencoded d hd))
    simp only [decide_eq_true_eq] at hbig
    omega
  · rw [Bool.or_eq_true, decide_eq_true_eq]
    rintro (hnil | hmany)
    · have := List.isEmpty_iff.1 hnil
      rw [this] at hcount
      simp only [List.length_nil] at hcount
      omega
    · unfold maxApprovalChunks at hmany
      omega

end

end Rampage.Pairing
