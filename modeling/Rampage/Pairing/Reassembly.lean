/-
The fragments of an approval put together in any order. `Reassembly` says what an assembly holds after pushes of its own
fragments, of fragments that `push` drops and of late fragments for filled places: the own fragments pushed so far, and
nothing else. From it `approval_round_trip`: the assembly answers with the ciphertext exactly when the last of them is in.
-/
import Rampage.Pairing.Delivery

namespace Rampage.Pairing

/-! ## Calls of `push` -/

/-- The index and the text of a fragment. -/
abbrev Push := Nat × String

/-- The assembly under pushes. -/
def pushMachine : Machine ApprovalAssembly Push (Except String (Option String)) := ⟨fun call a => a.push call.1 call.2⟩

/-- The index and the text of a payload. -/
def PairingDatagram.fragment : PairingDatagram → Option Push
  | .approvalChunk _ _ _ i _ text => some (i, text)
  | _ => none

/-- A bad index, or a text that is empty, too long or not base64. -/
def isInvalid (chunkCount : Nat) (call : Push) : Bool :=
  chunkCount ≤ call.1 || call.2 == "" || maxApprovalChunkChars < call.2.utf8ByteSize ||
    !call.2.toList.all Base64.isEncoded

/-- Every call pushes one of the fragments, or an invalid one, or comes late: the fragment of its index is already in. -/
def IsMixture (fragments : List Push) (calls : List Push) : Prop :=
  ∀ pre call post, calls = pre ++ call :: post →
    call ∈ fragments ∨ isInvalid fragments.length call = true ∨ ∃ f ∈ fragments, f ∈ pre ∧ f.1 = call.1

/-- The fragments of the pieces. -/
def fragmentsOf (pieces : List (List Char)) : List Push := pieces.mapIdx fun i piece => (i, String.ofList piece)

theorem fragments_approvalChunks (id nonce : String) (pieces : List (List Char)) :
    (approvalChunks id nonce pieces).filterMap PairingDatagram.fragment = fragmentsOf pieces := by
  unfold approvalChunks fragmentsOf
  rw [List.mapIdx_eq_zipIdx_map, List.mapIdx_eq_zipIdx_map, List.filterMap_map, ← List.filterMap_eq_map]
  rfl

theorem mem_fragmentsOf {pieces : List (List Char)} {call : Push} :
    call ∈ fragmentsOf pieces ↔ ∃ piece, pieces[call.1]? = some piece ∧ call.2 = String.ofList piece := by
  unfold fragmentsOf
  rw [List.mem_mapIdx]
  constructor
  · rintro ⟨i, hi, rfl⟩
    exact ⟨pieces[i], List.getElem?_eq_getElem hi, rfl⟩
  · rintro ⟨piece, hpiece, htext⟩
    obtain ⟨hi, rfl⟩ := List.getElem?_eq_some_iff.1 hpiece
    exact ⟨call.1, hi, by rw [← htext]⟩

/-! ## What the assembly holds -/

/-- The assembly holds the pieces whose fragments were pushed, and nothing else. -/
structure Reassembly (pieces : List (List Char)) (calls : List Push) (a : ApprovalAssembly) : Prop where
  count : a.chunkCount = pieces.length
  encodedLen : a.encodedLen = heldLen a.chunks
  text : filled a.chunks pieces = pieces.flatten
  held : ∀ i piece, pieces[i]? = some piece → (i, String.ofList piece) ∈ calls →
    a.chunks[i]? = some (some (String.ofList piece))
  missing : ∀ i piece, pieces[i]? = some piece → (i, String.ofList piece) ∉ calls → a.chunks[i]? = some none

section

variable {pieces : List (List Char)} {calls : List Push} {a : ApprovalAssembly} {call : Push}

theorem reassembly_new {nonce : String} (h : ApprovalAssembly.new nonce pieces.length = some a) :
    Reassembly pieces [] a := by
  unfold ApprovalAssembly.new at h
  split at h
  · cases h
    constructor
    · rfl
    · exact (heldLen_replicate _).symm
    · exact filled_replicate pieces
    · intro i piece _ hmem
      cases hmem
    · intro i piece hpiece _
      have hi := (List.getElem?_eq_some_iff.1 hpiece).1
      simp [hi]
  · cases h

/-- The assembly is complete when the last fragment is in, and holds the text of them all. -/
theorem Reassembly.complete (h : Reassembly pieces calls a) : a.complete =
    if ∀ f ∈ fragmentsOf pieces, f ∈ calls then some (String.ofList pieces.flatten) else none := by
  have hlen : a.chunks.length = pieces.length := a.length_chunks.trans h.count
  split
  · rename_i hall
    cases hj : joined a.chunks with
    | none =>
      obtain ⟨i, hi⟩ := joined_eq_none_iff.1 hj
      have hlt : i < pieces.length := by
        rw [← hlen]
        exact (List.getElem?_eq_some_iff.1 hi).1
      have hpiece : pieces[i]? = some pieces[i] := List.getElem?_eq_getElem hlt
      have hin := hall (i, String.ofList pieces[i]) (mem_fragmentsOf.2 ⟨_, hpiece, rfl⟩)
      rw [h.held i _ hpiece hin] at hi
      cases hi
    | some text =>
      unfold ApprovalAssembly.complete
      rw [hj, ← h.text, filled_of_joined hlen hj]
      rfl
  · rename_i hsome
    push Not at hsome
    obtain ⟨f, hf, hout⟩ := hsome
    obtain ⟨piece, hpiece, htext⟩ := mem_fragmentsOf.1 hf
    unfold ApprovalAssembly.complete
    rw [joined_eq_none_iff.2 ⟨f.1, h.missing f.1 piece hpiece (by rw [← htext]; exact hout)⟩]
    rfl

/-- A call that leaves the assembly as it is, and is not the first of a fragment. -/
theorem Reassembly.same (h : Reassembly pieces calls a)
    (hcall : ∀ piece, pieces[call.1]? = some piece → call.2 = String.ofList piece → call ∈ calls) :
    Reassembly pieces (calls ++ [call]) a := by
  have hmem : ∀ i piece, pieces[i]? = some piece → (i, String.ofList piece) ∈ calls ++ [call] →
      (i, String.ofList piece) ∈ calls := by
    intro i piece hpiece hin
    rcases List.mem_append.1 hin with hin | hin
    · exact hin
    · obtain rfl := List.mem_singleton.1 hin
      exact hcall piece hpiece rfl
  refine ⟨h.count, h.encodedLen, h.text, ?_, ?_⟩
  · intro i piece hpiece hin
    exact h.held i piece hpiece (hmem i piece hpiece hin)
  · intro i piece hpiece hout
    exact h.missing i piece hpiece fun hin => hout (List.mem_append_left _ hin)

/-- The first call of a fragment puts its piece into the assembly; there is room for it. -/
theorem Reassembly.first (h : Reassembly pieces calls a) {i : Nat} {piece : List Char} (hpiece : pieces[i]? = some piece)
    (hout : (i, String.ofList piece) ∉ calls) :
    a.encodedLen + piece.length ≤ pieces.flatten.length ∧
      Reassembly pieces (calls ++ [(i, String.ofList piece)]) (a.hold i piece) := by
  have hmissing := h.missing i piece hpiece hout
  have hlen : a.chunks.length = pieces.length := a.length_chunks.trans h.count
  have hheld : heldLen (a.hold i piece).chunks = a.encodedLen + piece.length := by
    show heldLen (a.chunks.set i (some (String.ofList piece))) = _
    rw [heldLen_set hmissing, String.toList_ofList, h.encodedLen]
  -- the piece fills its own gap, so the text the assembly stands for stays
  have hfilled : filled (a.hold i piece).chunks pieces = pieces.flatten := (filled_set hmissing hpiece).trans h.text
  constructor
  · have hle := heldLen_le_filled (a.hold i piece).chunks pieces ((a.hold i piece).length_chunks.trans h.count)
    rw [hheld, hfilled] at hle
    exact hle
  · have hi := (List.getElem?_eq_some_iff.1 hmissing).1
    refine ⟨h.count, hheld.symm, hfilled, ?_, ?_⟩
    · intro j piece' hpiece' hin
      show (a.chunks.set i (some (String.ofList piece)))[j]? = _
      by_cases hij : i = j
      · subst hij
        rw [hpiece, Option.some.injEq] at hpiece'
        rw [List.getElem?_set_self hi, hpiece']
      · rw [List.getElem?_set_ne hij]
        refine h.held j piece' hpiece' ?_
        rcases List.mem_append.1 hin with hin | hin
        · exact hin
        · exact absurd (congrArg Prod.fst (List.mem_singleton.1 hin)).symm hij
    · intro j piece' hpiece' hout'
      show (a.chunks.set i (some (String.ofList piece)))[j]? = _
      by_cases hij : i = j
      · subst hij
        rw [hpiece, Option.some.injEq] at hpiece'
        rw [hpiece'] at hout'
        exact absurd (List.mem_append_right _ (List.mem_singleton.2 rfl)) hout'
      · rw [List.getElem?_set_ne hij]
        exact h.missing j piece' hpiece' fun hin => hout' (List.mem_append_left _ hin)

/-- A fragment that the checks of `push` refuse is dropped. -/
theorem push_invalid (h : isInvalid a.chunkCount call = true) : a.push call.1 call.2 = (.ok none, a) := by
  unfold ApprovalAssembly.push
  rw [if_pos]
  unfold isInvalid at h
  have hempty : call.2.toList.isEmpty = (call.2 == "") := by
    rw [Bool.eq_iff_iff, List.isEmpty_iff, beq_iff_eq, String.toList_eq_nil_iff]
  rw [hempty]
  exact h

/-- Whatever comes for a filled place is dropped. -/
theorem push_late {k : Nat} {held : String} (h : a.chunks[k]? = some (some held)) (text : String) :
    ∃ r, a.push k text = (.ok r, a) := by
  unfold ApprovalAssembly.push
  split
  · exact ⟨none, rfl⟩
  · rw [h]
    exact ⟨_, rfl⟩

/-- One call: no error, and the assembly holds what was pushed; the call of a fragment answers with the text of all
fragments if they are all in. -/
theorem push_step (hpieces : ∀ piece ∈ pieces, IsPiece piece) (htotal : pieces.flatten.length ≤ maxApprovalCiphertextChars)
    (h : Reassembly pieces calls a)
    (hcall : call ∈ fragmentsOf pieces ∨ isInvalid pieces.length call = true ∨
      ∃ f ∈ fragmentsOf pieces, f ∈ calls ∧ f.1 = call.1) :
    ∃ r, (a.push call.1 call.2).1 = .ok r ∧ Reassembly pieces (calls ++ [call]) (a.push call.1 call.2).2 ∧
      (call ∈ fragmentsOf pieces → r =
        if ∀ f ∈ fragmentsOf pieces, f ∈ calls ++ [call] then some (String.ofList pieces.flatten) else none) := by
  by_cases hgenuine : call ∈ fragmentsOf pieces
  · obtain ⟨piece, hpiece, htext⟩ := mem_fragmentsOf.1 hgenuine
    have hk : call.1 < a.chunkCount := by
      rw [h.count]
      exact (List.getElem?_eq_some_iff.1 hpiece).1
    have his := hpieces piece (List.mem_of_getElem? hpiece)
    have hself : call = (call.1, String.ofList piece) := by
      rw [← htext]
    by_cases hin : call ∈ calls
    · -- a duplicate
      have hheld := h.held call.1 piece hpiece (by rw [← hself]; exact hin)
      have hsame : Reassembly pieces (calls ++ [call]) a := h.same fun _ _ _ => hin
      rw [htext, push_held hk his hheld, if_pos rfl]
      exact ⟨a.complete, rfl, hsame, fun _ => hsame.complete⟩
    · have hout : (call.1, String.ofList piece) ∉ calls := by
        rw [← hself]
        exact hin
      obtain ⟨hroom, hafter⟩ := h.first hpiece hout
      rw [← hself] at hafter
      rw [htext, push_missing hk his (h.missing call.1 piece hpiece hout), if_neg (by omega)]
      exact ⟨_, rfl, hafter, fun _ => hafter.complete⟩
  · have hsame : Reassembly pieces (calls ++ [call]) a :=
      h.same fun piece hpiece htext => absurd (mem_fragmentsOf.2 ⟨piece, hpiece, htext⟩) hgenuine
    by_cases hinvalid : isInvalid pieces.length call = true
    · rw [push_invalid (by rw [h.count]; exact hinvalid)]
      exact ⟨none, rfl, hsame, fun hin => absurd hin hgenuine⟩
    · -- a late fragment finds its place filled
      rcases hcall with hin | hin | ⟨f, hf, hin, hindex⟩
      · exact absurd hin hgenuine
      · exact absurd hin hinvalid
      · obtain ⟨piece, hpiece, htext⟩ := mem_fragmentsOf.1 hf
        have hheld := h.held f.1 piece hpiece (by rw [← htext]; exact hin)
        rw [hindex] at hheld
        obtain ⟨r, hr⟩ := push_late hheld call.2
        rw [hr]
        exact ⟨r, rfl, hsame, fun hin => absurd hin hgenuine⟩

/-- After every mixture of calls the assembly holds the fragments among them. -/
theorem reassembly_exec (hpieces : ∀ piece ∈ pieces, IsPiece piece)
    (htotal : pieces.flatten.length ≤ maxApprovalCiphertextChars) (h : Reassembly pieces [] a)
    (hcalls : IsMixture (fragmentsOf pieces) calls) : Reassembly pieces calls (pushMachine.exec calls a) := by
  have hlen : (fragmentsOf pieces).length = pieces.length := List.length_mapIdx
  have hrun : ∀ rest done a, calls = done ++ rest → Reassembly pieces done a →
      Reassembly pieces (done ++ rest) (pushMachine.exec rest a) := by
    intro rest
    induction rest with
    | nil =>
      intro done a _ ha
      rw [List.append_nil]
      exact ha
    | cons call rest ih =>
      intro done a hsplit ha
      have hcall := hcalls done call rest hsplit
      rw [hlen] at hcall
      obtain ⟨r, -, hnext, -⟩ := push_step hpieces htotal ha hcall
      have := ih (done ++ [call]) (a.push call.1 call.2).2 (by rw [hsplit, List.append_assoc]; rfl) hnext
      rw [List.append_assoc] at this
      exact this
  exact hrun calls [] a rfl h

end

/-! ## The round trip -/

/-- An invitation within its limit is encrypted into at most sixteen fragments that each fit into a safe datagram, and an
assembly begun for them takes every mixture of calls without an error: the push of a fragment answers with the ciphertext
if by then all of them were pushed, and with nothing otherwise. -/
theorem approval_round_trip (c : Crates) (hc : c.AddsTag) (p : PendingPair) (hid : validRequestId p.requestId = true)
    (invitation : String) (hlen : invitation.utf8ByteSize ≤ maxInvitationBytes) (nonce : Nonce) :
    ∃ payloads, encryptedApprovalChunks c p invitation (some nonce) = .ok payloads ∧
      payloads.length ≤ 16 ∧ (∀ payload ∈ payloads, payload.toVec.length ≤ 1024) ∧
      ∃ a, ApprovalAssembly.new (nonceText nonce) payloads.length = some a ∧
        ∀ calls, IsMixture (payloads.filterMap PairingDatagram.fragment) calls →
          ∀ pre call post, calls = pre ++ call :: post →
            ∃ r, ((pushMachine.exec pre a).push call.1 call.2).1 = .ok r ∧
              (call ∈ payloads.filterMap PairingDatagram.fragment →
                r = if ∀ f ∈ payloads.filterMap PairingDatagram.fragment, f ∈ pre ++ [call] then
                  some (String.ofList (ciphertextOf c p.key p.aad nonce invitation)) else none) := by
  have hok := encryptedApprovalChunks_isOk hc nonce hid hlen
  obtain ⟨nonce', hdraw, -, hne, hcount, htotal⟩ := encryptedApprovalChunks_ok hok
  obtain rfl := Option.some.inj hdraw
  have hpieces : ∀ piece ∈ piecesOf c p.key p.aad nonce invitation, IsPiece piece := by
    intro piece hpiece
    obtain ⟨hnonempty, hshort, hencoded⟩ := piecesOf_spec piece hpiece
    exact ⟨hnonempty, hshort, hencoded⟩
  rw [← flatten_piecesOf] at htotal
  have hlength : (approvalChunks p.requestId (nonceText nonce) (piecesOf c p.key p.aad nonce invitation)).length =
      (piecesOf c p.key p.aad nonce invitation).length := List.length_mapIdx
  refine ⟨_, hok, by rw [hlength]; exact hcount, ?_, ?_⟩
  · intro payload hpayload
    rw [approvalChunks, List.mem_mapIdx] at hpayload
    obtain ⟨i, hi, rfl⟩ := hpayload
    have hpiece := hpieces _ (List.getElem_mem hi)
    unfold maxApprovalChunks at hcount
    exact length_toVec_le nonce hid (by omega) hcount hpiece.short fun d hd => isPlain_of_isEncoded (hpiece.encoded d hd)
  · rw [hlength]
    have hpos := List.length_pos_iff.2 hne
    -- the first fragment begins the assembly
    have hnew : ∃ a, ApprovalAssembly.new (nonceText nonce) (piecesOf c p.key p.aad nonce invitation).length = some a := by
      unfold ApprovalAssembly.new
      rw [if_pos ⟨hpos, hcount⟩]
      exact ⟨_, rfl⟩
    obtain ⟨a, ha⟩ := hnew
    refine ⟨a, ha, ?_⟩
    rw [fragments_approvalChunks]
    rintro calls hcalls pre call post rfl
    -- what was pushed before is a mixture as well
    have hpre : IsMixture (fragmentsOf (piecesOf c p.key p.aad nonce invitation)) pre := by
      rintro before f after rfl
      exact hcalls before f (after ++ call :: post) (by simp)
    have hcall := hcalls pre call post rfl
    rw [show (fragmentsOf (piecesOf c p.key p.aad nonce invitation)).length = _ from List.length_mapIdx] at hcall
    obtain ⟨r, hr, -, hanswer⟩ := push_step hpieces htotal (reassembly_exec hpieces htotal (reassembly_new ha) hpre) hcall
    rw [flatten_piecesOf] at hanswer
    exact ⟨r, hr, hanswer⟩

open Scenario in
/-- The request of a laptop that the owner has challenged. -/
def pendingLaptop : PendingPair where
  requestId := requestId
  deviceName := "Laptop"
  deviceKind := "windows"
  peerAddr := laptop
  peerPublicKey := String.ofList (Base64.encode workerPublic)
  verificationCode := "0000"
  key := key
  aad := aad
  expiresAtMs := 902000
  challengePayload := challenge
  approvalPayloads := none
  state := .awaitingApproval

open Scenario in
/-- An invitation in two fragments: the second comes first, and again after one for no place, and the first comes last. -/
theorem approval_round_trip_reversed :
    ∃ payloads a f g, encryptedApprovalChunks crates pendingLaptop longInvite (some (nonce 1)) = .ok payloads ∧
      ApprovalAssembly.new (nonceText (nonce 1)) payloads.length = some a ∧
      payloads.filterMap PairingDatagram.fragment = [f, g] ∧
      ((pushMachine.exec [g, (3, "bad"), g] a).push f.1 f.2).1 =
        .ok (some (String.ofList (ciphertextOf crates key aad (nonce 1) longInvite))) := by
  have hlen : longInvite.utf8ByteSize ≤ maxInvitationBytes := by
    rw [utf8ByteSize_longInvite]
    decide
  obtain ⟨payloads, hok, -, -, a, ha, hcalls⟩ := approval_round_trip crates lawful.length_encrypt pendingLaptop
    (by decide +kernel) longInvite hlen (nonce 1)
  have htwo : (payloads.filterMap PairingDatagram.fragment).length = 2 := by
    rw [encryptedApprovalChunks_isOk lawful.length_encrypt (nonce 1) (by decide +kernel) hlen] at hok
    rw [← Except.ok.inj hok, fragments_approvalChunks]
    show (List.mapIdx _ (piecesOf _ _ _ _ _)).length = 2
    rw [List.length_mapIdx, length_piecesOf lawful.length_encrypt, utf8ByteSize_longInvite]
  obtain ⟨f, g, hfg⟩ := List.length_eq_two.1 htwo
  refine ⟨payloads, a, f, g, hok, ha, hfg, ?_⟩
  have hmixture : IsMixture [f, g] [g, (3, "bad"), g, f] := by
    intro pre call post hsplit
    have hmem : call ∈ [g, (3, "bad"), g, f] := by
      rw [hsplit]
      exact List.mem_append_right _ (List.mem_cons_self ..)
    simp only [List.mem_cons, List.not_mem_nil, or_false] at hmem
    rcases hmem with rfl | rfl | rfl | rfl
    · exact Or.inl (by simp)
    · exact Or.inr (Or.inl rfl)
    · exact Or.inl (by simp)
    · exact Or.inl (by simp)
  rw [hfg] at hcalls
  obtain ⟨r, hr, hanswer⟩ := hcalls _ hmixture [g, (3, "bad"), g] f [] rfl
  rw [hr, hanswer (by simp), if_pos (by simp)]
  rfl

end Rampage.Pairing
