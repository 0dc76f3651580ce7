/-
Delivery of an approval. The worker anchors its assembly on the nonce and the number of fragments it saw first, and drops
every other fragment; approving again encrypts under a new nonce. `delivery_converges_iff` says exactly when the payloads
that the owner holds make the worker recover the invitation approved last, in every state that owner and worker can reach.
-/
import Rampage.Pairing.Worker

namespace Rampage.Pairing

/-! ## Missing fragments -/

/-- The text of an assembly when the given pieces are put where it has none. -/
def filled : List (Option String) → List (List Char) → List Char
  | held :: chunks, piece :: pieces => (held.map String.toList).getD piece ++ filled chunks pieces
  | _, _ => []

/-- The number of characters that are held. -/
def heldLen : List (Option String) → Nat
  | [] => 0
  | held :: chunks => (held.map fun s => s.toList.length).getD 0 + heldLen chunks

theorem filled_of_joined {chunks : List (Option String)} {pieces : List (List Char)} {text : List Char}
    (hlen : chunks.length = pieces.length) (h : joined chunks = some text) : filled chunks pieces = text := by
  induction chunks generalizing pieces text with
  | nil =>
    cases pieces with
    | nil => exact Option.some.inj h
    | cons piece pieces => cases hlen
  | cons held chunks ih =>
    cases pieces with
    | nil => cases hlen
    | cons piece pieces =>
      cases held with
      | none => cases h
      | some held =>
        rw [joined] at h
        obtain ⟨rest, hrest, rfl⟩ := Option.map_eq_some_iff.1 h
        rw [filled, ih (Nat.succ.inj hlen) hrest]
        rfl

theorem joined_eq_none_iff {chunks : List (Option String)} : joined chunks = none ↔ ∃ i : Nat, chunks[i]? = some none := by
  induction chunks with
  | nil => simp [joined]
  | cons held chunks ih =>
    cases held with
    | none =>
      refine ⟨fun _ => ⟨0, rfl⟩, fun _ => rfl⟩
    | some held =>
      rw [joined, Option.map_eq_none_iff, ih]
      constructor
      · rintro ⟨i, hi⟩
        exact ⟨i + 1, hi⟩
      · rintro ⟨i, hi⟩
        cases i with
        | zero => cases hi
        | succ i => exact ⟨i, hi⟩

theorem filled_set {chunks : List (Option String)} {pieces : List (List Char)} {k : Nat} {piece : List Char}
    (hmissing : chunks[k]? = some none) (hpiece : pieces[k]? = some piece) :
    filled (chunks.set k (some (String.ofList piece))) pieces = filled chunks pieces := by
  induction chunks generalizing pieces k with
  | nil => rfl
  | cons held chunks ih =>
    cases pieces with
    | nil => cases hpiece
    | cons first pieces =>
      cases k with
      | zero =>
        cases hmissing
        cases hpiece
        simp [filled]
      | succ k =>
        rw [List.set_cons_succ, filled, filled, ih hmissing hpiece]

theorem heldLen_set {chunks : List (Option String)} {k : Nat} {piece : String} (hmissing : chunks[k]? = some none) :
    heldLen (chunks.set k (some piece)) = heldLen chunks + piece.toList.length := by
  induction chunks generalizing k with
  | nil => cases hmissing
  | cons held chunks ih =>
    cases k with
    | zero =>
      cases hmissing
      simp [heldLen]
      omega
    | succ k =>
      rw [List.set_cons_succ, heldLen, heldLen, ih hmissing]
      omega

theorem heldLen_le_filled (chunks : List (Option String)) (pieces : List (List Char)) (hlen : chunks.length = pieces.length) :
    heldLen chunks ≤ (filled chunks pieces).length := by
  induction chunks generalizing pieces with
  | nil => exact Nat.zero_le _
  | cons held chunks ih =>
    cases pieces with
    | nil => cases hlen
    | cons piece pieces =>
      have := ih pieces (Nat.succ.inj hlen)
      rw [heldLen, filled, List.length_append]
      cases held <;> simp <;> omega

theorem filled_replicate (pieces : List (List Char)) : filled (List.replicate pieces.length none) pieces = pieces.flatten := by
  induction pieces with
  | nil => rfl
  | cons piece pieces ih =>
    rw [List.length_cons, List.replicate_succ, filled, ih]
    rfl

theorem heldLen_replicate (n : Nat) : heldLen (List.replicate n none) = 0 := by
  induction n with
  | zero => rfl
  | succ n ih =>
    rw [List.replicate_succ, heldLen, ih]
    rfl

/-! ## One fragment -/

/-- What holds of an assembly as long as the loop goes on. -/
structure ApprovalAssembly.Open (a : ApprovalAssembly) : Prop where
  missing : ∃ i : Nat, a.chunks[i]? = some none
  encodedLen : a.encodedLen = heldLen a.chunks

theorem ApprovalAssembly.Open.complete {a : ApprovalAssembly} (h : a.Open) : a.complete = none := by
  rw [ApprovalAssembly.complete, joined_eq_none_iff.2 h.missing]
  rfl

/-- A piece of base64 text that a fragment can carry. -/
structure IsPiece (piece : List Char) : Prop where
  nonempty : piece ≠ []
  short : piece.length ≤ maxApprovalChunkChars
  encoded : ∀ d ∈ piece, Base64.isEncoded d = true

theorem IsPiece.utf8ByteSize {piece : List Char} (h : IsPiece piece) : (String.ofList piece).utf8ByteSize = piece.length := by
  rw [utf8ByteSize_ofList, byteLen_of_isPlain fun d hd => isPlain_of_isEncoded (h.encoded d hd)]

/-- An assembly with a piece put at a place. -/
def ApprovalAssembly.hold (k : Nat) (piece : List Char) (a : ApprovalAssembly) : ApprovalAssembly where
  nonce := a.nonce
  chunkCount := a.chunkCount
  chunks := a.chunks.set k (some (String.ofList piece))
  encodedLen := a.encodedLen + piece.length
  length_chunks := by rw [List.length_set]; exact a.length_chunks

section

variable {a : ApprovalAssembly} {k : Nat} {piece : List Char}

/-- The checks of `push` pass for a piece at a place of the assembly. -/
theorem push_checks (hk : k < a.chunkCount) (hpiece : IsPiece piece) :
    (decide (a.chunkCount ≤ k) || (String.ofList piece).toList.isEmpty ||
      decide (maxApprovalChunkChars < (String.ofList piece).utf8ByteSize) ||
      !(String.ofList piece).toList.all Base64.isEncoded) = false := by
  rw [String.toList_ofList, hpiece.utf8ByteSize]
  have hshort := hpiece.short
  have hall : piece.all Base64.isEncoded = true := List.all_eq_true.2 hpiece.encoded
  have hempty : piece.isEmpty = false := by simpa using hpiece.nonempty
  simp only [hall, hempty, Bool.not_true, Bool.or_false, Bool.or_eq_false_iff, decide_eq_false_iff_not]
  omega

/-- A place that is filled stays as it is. -/
theorem push_held (hk : k < a.chunkCount) (hpiece : IsPiece piece) {held : String} (hheld : a.chunks[k]? = some (some held)) :
    a.push k (String.ofList piece) = (.ok (if held = String.ofList piece then a.complete else none), a) := by
  unfold ApprovalAssembly.push
  rw [if_neg (by rw [push_checks hk hpiece]; decide), hheld]

/-- A missing piece is put in its place, unless it is too much. -/
theorem push_missing (hk : k < a.chunkCount) (hpiece : IsPiece piece) (hmissing : a.chunks[k]? = some none) :
    a.push k (String.ofList piece) =
      if maxApprovalCiphertextChars < a.encodedLen + piece.length then
        (.error "encrypted pairing approval exceeds its bounded reassembly limit", a)
      else (.ok (a.hold k piece).complete, a.hold k piece) := by
  unfold ApprovalAssembly.push
  rw [if_neg (by rw [push_checks hk hpiece]; decide), hmissing, hpiece.utf8ByteSize]
  rfl

end

/-- A fragment of an assembly's own number and alphabet: one that it holds changes nothing, another fills its place or is
too much. -/
theorem push_cases {a : ApprovalAssembly} (ha : a.Open) {k : Nat} {piece : List Char} (hk : k < a.chunkCount)
    (hpiece : IsPiece piece) :
    ((∃ held, a.chunks[k]? = some (some held)) ∧ a.push k (String.ofList piece) = (.ok none, a)) ∨
      (a.chunks[k]? = some none ∧ maxApprovalCiphertextChars < heldLen a.chunks + piece.length ∧
        ∃ e, a.push k (String.ofList piece) = (.error e, a)) ∨
      a.chunks[k]? = some none ∧ ∃ a', a.push k (String.ofList piece) = (.ok a'.complete, a') ∧ a'.nonce = a.nonce ∧
        a'.chunkCount = a.chunkCount ∧ a'.chunks = a.chunks.set k (some (String.ofList piece)) ∧
        a'.encodedLen = heldLen a'.chunks := by
  have hin : k < a.chunks.length := by
    rw [a.length_chunks]
    exact hk
  cases hheld : a.chunks[k]? with
  | none =>
    rw [List.getElem?_eq_none_iff] at hheld
    omega
  | some held =>
    cases held with
    | some held =>
      refine Or.inl ⟨⟨held, rfl⟩, ?_⟩
      rw [push_held hk hpiece hheld, ha.complete]
      split <;> rfl
    | none =>
      rw [push_missing hk hpiece hheld, ha.encodedLen]
      split
      · rename_i hbig
        exact Or.inr (Or.inl ⟨rfl, hbig, _, rfl⟩)
      · refine Or.inr (Or.inr ⟨rfl, _, rfl, rfl, rfl, rfl, ?_⟩)
        show a.encodedLen + piece.length = heldLen (a.chunks.set k (some (String.ofList piece)))
        rw [heldLen_set hheld, String.toList_ofList, ha.encodedLen]

section

variable {c : Crates}

/-! ## All fragments -/

theorem deliver_cons (source : SocketAddr) (d : PairingDatagram) (ds : List PairingDatagram) (s : WorkerState) :
    deliver c source (d :: ds) s = deliver c source ds (s.receive c source (some d)) := rfl

theorem deliver_failed (source : SocketAddr) (ds : List PairingDatagram) (e : String) :
    deliver c source ds (.failed e) = .failed e := by
  induction ds with
  | nil => rfl
  | cons d ds ih => exact ih

theorem deliver_recovered (source : SocketAddr) (ds : List PairingDatagram) (invitation : String) :
    deliver c source ds (.recovered invitation) = .recovered invitation := by
  induction ds with
  | nil => rfl
  | cons d ds ih => exact ih

theorem deliver_finish (source : SocketAddr) (ds : List PairingDatagram) (s : Selected) (nonce ciphertext : String) :
    deliver c source ds (finishWorkerEnrollment c s nonce ciphertext) = finishWorkerEnrollment c s nonce ciphertext := by
  unfold finishWorkerEnrollment
  split
  · exact deliver_failed ..
  · exact deliver_recovered ..

/-- The fragment of a piece, for the worker. -/
def fragment (w : Worker) (nonce : String) (count i : Nat) (piece : List Char) : PairingDatagram :=
  .approvalChunk pairingSchema w.requestId nonce i count (String.ofList piece)

theorem receive_fragment {w : Worker} {s : Selected} (hselected : w.selected = some s) (nonce : String) (count i : Nat)
    (piece : List Char) :
    w.receive c s.addr (some (fragment w nonce count i piece)) = w.receiveChunk c s nonce i count (String.ofList piece) := by
  simp [Worker.receive, fragment, hselected]

/-- The fragments of another approval are dropped. -/
theorem receiveChunk_other {w : Worker} {a : ApprovalAssembly} (ha : w.assembly = some a) {s : Selected} {nonce chunk : String}
    {i count : Nat} (h : a.nonce ≠ nonce ∨ a.chunkCount ≠ count) :
    w.receiveChunk c s nonce i count chunk = .pairing w := by
  unfold Worker.receiveChunk
  rw [ha, if_pos]
  simpa using h

theorem receiveChunk_own {w : Worker} {a : ApprovalAssembly} (ha : w.assembly = some a) {s : Selected} {chunk : String}
    {i : Nat} :
    w.receiveChunk c s a.nonce i a.chunkCount chunk =
      match a.push i chunk with
      | (.error e, _) => .failed e
      | (.ok none, a) => .pairing { w with assembly := some a }
      | (.ok (some ciphertext), _) => finishWorkerEnrollment c s a.nonce ciphertext := by
  unfold Worker.receiveChunk
  rw [ha, if_neg (by simp), if_neg (by simp)]
  rfl

theorem Worker.with_assembly {w : Worker} {a : ApprovalAssembly} (ha : w.assembly = some a) :
    ({ w with assembly := some a } : Worker) = w := by
  cases w
  simp only at ha
  rw [ha]

/-- The fragments from some place on, for an assembly that has all before it: they complete it, unless they are too much. -/
theorem deliver_rest {pieces : List (List Char)} (hpieces : ∀ piece ∈ pieces, IsPiece piece) {s : Selected} {w : Worker}
    (hselected : w.selected = some s) {a : ApprovalAssembly} (ha : w.assembly = some a) (hopen : a.Open)
    (hcount : a.chunkCount = pieces.length) (before rest : List (List Char)) (hsplit : pieces = before ++ rest)
    (hbefore : ∀ i < before.length, a.chunks[i]? ≠ some none) :
    (∃ e, deliver c s.addr (rest.mapIdx fun i piece => fragment w a.nonce a.chunkCount (i + before.length) piece) (.pairing w) =
        .failed e ∧ maxApprovalCiphertextChars < (filled a.chunks pieces).length) ∨
      deliver c s.addr (rest.mapIdx fun i piece => fragment w a.nonce a.chunkCount (i + before.length) piece) (.pairing w) =
        finishWorkerEnrollment c s a.nonce (String.ofList (filled a.chunks pieces)) := by
  induction rest generalizing before w a with
  | nil =>
    obtain ⟨i, hi⟩ := hopen.missing
    have hlt := (List.getElem?_eq_some_iff.1 hi).1
    rw [a.length_chunks, hcount, hsplit, List.append_nil] at hlt
    exact absurd hi (hbefore i hlt)
  | cons piece rest ih =>
    have hhere : pieces[before.length]? = some piece := by
      rw [hsplit]
      simp
    have hk : before.length < a.chunkCount := by
      rw [hcount, hsplit]
      simp
    have hpiece := hpieces piece (by rw [hsplit]; simp)
    have hlength : a.chunks.length = pieces.length := a.length_chunks.trans hcount
    have hsplit' : pieces = (before ++ [piece]) ++ rest := by
      rw [hsplit, List.append_assoc, List.singleton_append]
    have hmap : ∀ (w' : Worker) (nonce : String) (count : Nat),
        (rest.mapIdx fun i piece => fragment w' nonce count (i + 1 + before.length) piece) =
          rest.mapIdx fun i p => fragment w' nonce count (i + (before ++ [piece]).length) p := by
      intro w' nonce count
      congr 1
      funext i p
      rw [List.length_append, List.length_singleton, show i + 1 + before.length = i + (before.length + 1) by omega]
    rw [List.mapIdx_cons, deliver_cons]
    simp only [Nat.zero_add, WorkerState.receive]
    rw [receive_fragment hselected, receiveChunk_own ha]
    -- the fragment is there already, is too much, or fills its place
    rcases push_cases hopen hk hpiece with ⟨⟨held, hheld⟩, hpush⟩ | ⟨hmissing, hbig, e, hpush⟩ |
      ⟨hmissing, a', hpush, hnonce', hcount', hchunks', hencoded'⟩
    · rw [hpush]
      dsimp only
      rw [Worker.with_assembly ha, hmap]
      refine ih hselected ha hopen hcount (before ++ [piece]) hsplit' ?_
      intro i hi
      rw [List.length_append, List.length_singleton] at hi
      by_cases hlast : i = before.length
      · rw [hlast, hheld]
        simp
      · exact hbefore i (by omega)
    · refine Or.inl ⟨e, ?_, ?_⟩
      · rw [hpush]
        exact deliver_failed ..
      · have hset := heldLen_le_filled (a.chunks.set before.length (some (String.ofList piece))) pieces
          (by rw [List.length_set]; exact hlength)
        rw [heldLen_set hmissing, filled_set hmissing hhere, String.toList_ofList] at hset
        omega
    · have hfilled : filled a'.chunks pieces = filled a.chunks pieces := by
        rw [hchunks']
        exact filled_set hmissing hhere
      rw [hpush]
      cases hcomplete : a'.complete with
      | some ciphertext =>
        obtain ⟨text, htext, rfl⟩ := Option.map_eq_some_iff.1 hcomplete
        rw [← filled_of_joined (by rw [a'.length_chunks, hcount', hcount]) htext, hfilled]
        exact Or.inr (deliver_finish ..)
      | none =>
        have hopen' : a'.Open := ⟨joined_eq_none_iff.1 (Option.map_eq_none_iff.1 hcomplete), hencoded'⟩
        have hnext := ih (w := { w with assembly := some a' }) hselected rfl hopen' (hcount'.trans hcount) (before ++ [piece])
          hsplit' ?_
        · rw [hfilled, hnonce', hcount'] at hnext
          rw [hmap]
          exact hnext
        · intro i hi
          rw [List.length_append, List.length_singleton] at hi
          rw [hchunks']
          by_cases hlast : i = before.length
          · rw [hlast, List.getElem?_set_self (by omega)]
            simp
          · rw [List.getElem?_set_ne fun h => hlast h.symm]
            exact hbefore i (by omega)

/-! ## The payloads of a request -/

theorem approvalChunks_eq (w : Worker) (nonce : String) (pieces : List (List Char)) :
    approvalChunks w.requestId nonce pieces = pieces.mapIdx fun i piece => fragment w nonce pieces.length i piece := rfl

theorem approvalChunks_inj {id nonce nonce' : String} {pieces pieces' : List (List Char)} (hne : pieces ≠ [])
    (h : approvalChunks id nonce pieces = approvalChunks id nonce' pieces') : nonce = nonce' ∧ pieces = pieces' := by
  have hlen : pieces.length = pieces'.length := by simpa [approvalChunks] using congrArg List.length h
  have hitem : ∀ i (hi : i < pieces.length) (hi' : i < pieces'.length), nonce = nonce' ∧ pieces[i] = pieces'[i] := by
    intro i hi hi'
    have := congrArg (fun l => l[i]?) h
    simp only [approvalChunks, List.getElem?_mapIdx, List.getElem?_eq_getElem hi, List.getElem?_eq_getElem hi', Option.map_some,
      Option.some.injEq, PairingDatagram.approvalChunk.injEq] at this
    exact ⟨this.2.2.1, String.ofList_injective this.2.2.2.2.2⟩
  have hpos : 0 < pieces.length := List.length_pos_of_ne_nil hne
  refine ⟨(hitem 0 hpos (by omega)).1, ?_⟩
  exact List.ext_getElem hlen fun i hi hi' => (hitem i hi hi').2

theorem decryptPayload_ok_iff (hc : c.Lawful) {key aad : Bytes} {nonce : Nonce} {text : List Char} {plaintext : Bytes} :
    decryptPayload c key aad (nonceText nonce) (String.ofList text) = .ok plaintext ↔
      text = Base64.encode (c.encrypt key nonce aad plaintext) := by
  unfold decryptPayload nonceText
  simp only [String.toList_ofList, Base64.decode_encode, nonce.2, ne_eq, not_true_eq_false, if_false]
  constructor
  · intro h
    split at h
    · cases h
    rename_i ciphertext hdecode
    split at h
    · cases h
    rename_i found hdecrypt
    cases h
    rw [(hc.decrypt_iff ..).1 hdecrypt]
    exact (Base64.encode_of_decode hdecode).symm
  · rintro rfl
    rw [Base64.decode_encode]
    dsimp only
    rw [(hc.decrypt_iff ..).2 rfl]

theorem decryptApproval_ok_iff (hc : c.Lawful) {key aad : Bytes} {nonce : Nonce} {text : List Char} {invitation : String} :
    decryptApproval c key aad (nonceText nonce) (String.ofList text) = .ok invitation ↔
      text = ciphertextOf c key aad nonce invitation := by
  unfold decryptApproval ciphertextOf
  constructor
  · intro h
    split at h
    · cases h
    rename_i plaintext hpayload
    split at h
    · cases h
    rename_i found hutf8
    cases h
    rw [(decryptPayload_ok_iff hc).1 hpayload, fromUtf8_eq_some_iff.1 hutf8]
  · intro h
    rw [(decryptPayload_ok_iff hc).2 h]
    dsimp only
    rw [fromUtf8_eq_some_iff.2 rfl]

theorem finish_recovered_iff (hc : c.Lawful) {s : Selected} {nonce : Nonce} {text : List Char} {invitation : String} :
    finishWorkerEnrollment c s (nonceText nonce) (String.ofList text) = .recovered invitation ↔
      text = ciphertextOf c s.key s.aad nonce invitation := by
  rw [← decryptApproval_ok_iff hc]
  unfold finishWorkerEnrollment
  cases decryptApproval c s.key s.aad (nonceText nonce) (String.ofList text) with
  | error e => simp
  | ok found => simp

/-! ## What the worker does with the payloads -/

/-- The fragments that the worker holds are of these payloads: it has none, or an assembly with their nonce and their
number, and their text results when they are put where it has none. -/
def Worker.Fits (w : Worker) (payloads : List PairingDatagram) : Prop :=
  ∀ a, w.assembly = some a → ∃ pieces, payloads = approvalChunks w.requestId a.nonce pieces ∧ a.chunkCount = pieces.length ∧
    filled a.chunks pieces = pieces.flatten

/-- The first fragment begins an assembly. -/
theorem receiveChunk_first {w : Worker} (ha : w.assembly = none) {s : Selected} {nonce chunk : String} {count : Nat}
    {a : ApprovalAssembly} (hnew : ApprovalAssembly.new nonce count = some a) :
    w.receiveChunk c s nonce 0 count chunk =
      ({ w with assembly := some a } : Worker).receiveChunk c s nonce 0 count chunk := by
  have hsame : a.nonce = nonce ∧ a.chunkCount = count := by
    unfold ApprovalAssembly.new at hnew
    split at hnew
    · cases hnew
      exact ⟨rfl, rfl⟩
    · cases hnew
  unfold Worker.receiveChunk
  simp [ha, hnew, hsame]

theorem deliver_own {pieces : List (List Char)} (hpieces : ∀ piece ∈ pieces, IsPiece piece) {s : Selected} {w : Worker}
    (hselected : w.selected = some s) {a : ApprovalAssembly} (ha : w.assembly = some a) (hopen : a.Open)
    (hcount : a.chunkCount = pieces.length) :
    (∃ e, deliver c s.addr (approvalChunks w.requestId a.nonce pieces) (.pairing w) = .failed e ∧
        maxApprovalCiphertextChars < (filled a.chunks pieces).length) ∨
      deliver c s.addr (approvalChunks w.requestId a.nonce pieces) (.pairing w) =
        finishWorkerEnrollment c s a.nonce (String.ofList (filled a.chunks pieces)) := by
  have h := deliver_rest (c := c) hpieces hselected ha hopen hcount [] pieces rfl (by simp)
  simp only [List.length_nil, Nat.add_zero, hcount] at h
  exact h

theorem deliver_other {pieces : List (List Char)} {s : Selected} {w : Worker} (hselected : w.selected = some s)
    {a : ApprovalAssembly} (ha : w.assembly = some a) {nonce : String} (h : a.nonce ≠ nonce ∨ a.chunkCount ≠ pieces.length) :
    deliver c s.addr (approvalChunks w.requestId nonce pieces) (.pairing w) = .pairing w := by
  have hdrop : ∀ ds : List PairingDatagram, (∀ d ∈ ds, ∃ i piece, d = fragment w nonce pieces.length i piece) →
      deliver c s.addr ds (.pairing w) = .pairing w := by
    intro ds
    induction ds with
    | nil => exact fun _ => rfl
    | cons d ds ih =>
      intro hds
      obtain ⟨i, piece, rfl⟩ := hds d (List.mem_cons_self ..)
      rw [deliver_cons, WorkerState.receive, receive_fragment hselected, receiveChunk_other ha h]
      exact ih fun d hd => hds d (List.mem_cons_of_mem _ hd)
  refine hdrop _ ?_
  intro d hd
  rw [approvalChunks_eq, List.mem_mapIdx] at hd
  obtain ⟨i, hi, rfl⟩ := hd
  exact ⟨i, _, rfl⟩

theorem open_new {nonce : String} {count : Nat} {a : ApprovalAssembly} (h : ApprovalAssembly.new nonce count = some a) :
    a.Open ∧ a.nonce = nonce ∧ a.chunkCount = count ∧ a.chunks = List.replicate count none := by
  unfold ApprovalAssembly.new at h
  split at h
  · rename_i hrange
    cases h
    refine ⟨⟨⟨0, ?_⟩, (heldLen_replicate count).symm⟩, rfl, rfl, rfl⟩
    exact List.getElem?_replicate_of_lt hrange.1
  · cases h

/-- Delivered to a worker that has begun nothing, the payloads begin and complete an assembly. -/
theorem deliver_new {pieces : List (List Char)} (hpieces : ∀ piece ∈ pieces, IsPiece piece) (hne : pieces ≠ [])
    (hmany : pieces.length ≤ maxApprovalChunks) {s : Selected} {w : Worker} (hselected : w.selected = some s)
    (ha : w.assembly = none) (nonce : String) :
    (∃ e, deliver c s.addr (approvalChunks w.requestId nonce pieces) (.pairing w) = .failed e ∧
        maxApprovalCiphertextChars < pieces.flatten.length) ∨
      deliver c s.addr (approvalChunks w.requestId nonce pieces) (.pairing w) =
        finishWorkerEnrollment c s nonce (String.ofList pieces.flatten) := by
  have hpos : 0 < pieces.length := List.length_pos_of_ne_nil hne
  obtain ⟨a, hnew⟩ : ∃ a, ApprovalAssembly.new nonce pieces.length = some a := by
    unfold ApprovalAssembly.new
    rw [if_pos ⟨hpos, hmany⟩]
    exact ⟨_, rfl⟩
  obtain ⟨hopen, hnonce, hcount, hchunks⟩ := open_new hnew
  have hbegin : deliver c s.addr (approvalChunks w.requestId nonce pieces) (.pairing w) =
      deliver c s.addr (approvalChunks w.requestId nonce pieces) (.pairing { w with assembly := some a }) := by
    cases pieces with
    | nil => exact absurd rfl hne
    | cons piece pieces =>
      rw [approvalChunks_eq, List.mapIdx_cons, deliver_cons, deliver_cons]
      have hfirst : w.receive c s.addr (some (fragment w nonce (piece :: pieces).length 0 piece)) =
          ({ w with assembly := some a } : Worker).receive c s.addr
            (some (fragment w nonce (piece :: pieces).length 0 piece)) := by
        rw [receive_fragment hselected, receiveChunk_first ha hnew]
        exact (receive_fragment (w := { w with assembly := some a }) hselected nonce (piece :: pieces).length 0 piece).symm
      exact congrArg _ hfirst
  rw [hbegin]
  have h := deliver_own (c := c) hpieces (w := { w with assembly := some a }) hselected rfl hopen hcount
  rw [hchunks, filled_replicate, hnonce] at h
  exact h

/-! ## Reachable states -/

theorem push_open {a a' : ApprovalAssembly} (ha : a.Open) {i : Nat} {chunk : String} (h : a.push i chunk = (.ok none, a')) :
    a'.Open := by
  unfold ApprovalAssembly.push at h
  split at h
  · cases h
    exact ha
  rename_i hvalid
  split at h
  · rw [Prod.mk.injEq] at h
    rw [← h.2]
    exact ha
  rename_i hmissing
  split at h
  · cases h
  · simp only [Prod.mk.injEq, Except.ok.injEq] at h
    obtain ⟨hcomplete, rfl⟩ := h
    simp only [Bool.or_eq_true, not_or, Bool.not_eq_true, decide_eq_false_iff_not, Bool.not_eq_false'] at hvalid
    have hin : i < a.chunks.length := by
      rw [a.length_chunks]
      omega
    have hnone : a.chunks[i]? = some none := by
      cases hheld : a.chunks[i]? with
      | none =>
        rw [List.getElem?_eq_none_iff] at hheld
        omega
      | some held =>
        cases held with
        | none => rfl
        | some held => exact absurd hheld (hmissing held)
    have hsize : chunk.utf8ByteSize = chunk.toList.length := by
      have hplain : ∀ d ∈ chunk.toList, isPlain d = true :=
        fun d hd => isPlain_of_isEncoded (List.all_eq_true.1 hvalid.2 d hd)
      rw [← byteLen_of_isPlain hplain, ← utf8ByteSize_ofList, String.ofList_toList]
    refine ⟨joined_eq_none_iff.1 (Option.map_eq_none_iff.1 hcomplete), ?_⟩
    show a.encodedLen + chunk.utf8ByteSize = heldLen (a.chunks.set i (some chunk))
    rw [heldLen_set hnone, ha.encodedLen, hsize]

/-- As long as the loop goes on its assembly is not complete. -/
theorem receive_open {w w' : Worker} (hw : ∀ a, w.assembly = some a → a.Open) {source : SocketAddr} {d : Option PairingDatagram}
    (h : w.receive c source d = .pairing w') : ∀ a, w'.assembly = some a → a.Open := by
  -- an enrollment that is finished ends the loop, one way or the other
  have hfinish : ∀ s nonce ciphertext, finishWorkerEnrollment c s nonce ciphertext ≠ .pairing w' := by
    intro s nonce ciphertext hpairing
    unfold finishWorkerEnrollment at hpairing
    split at hpairing <;> cases hpairing
  -- a chunk leaves the assembly as it was, or open after the push
  have hchunk : ∀ s nonce index count chunk, w.receiveChunk c s nonce index count chunk = .pairing w' →
      ∀ a, w'.assembly = some a → a.Open := by
    intro s nonce index count chunk hpairing
    unfold Worker.receiveChunk at hpairing
    split at hpairing
    · cases hpairing
      exact hw
    split at hpairing
    · cases hpairing
      exact hw
    split at hpairing
    · cases hpairing
      exact hw
    rename_i a hassembly
    have hopen : a.Open := by
      cases hold : w.assembly with
      | none =>
        rw [hold, Option.none_or] at hassembly
        exact (open_new hassembly).1
      | some b =>
        rw [hold, Option.some_or] at hassembly
        cases hassembly
        exact hw a hold
    split at hpairing
    · cases hpairing
    · rename_i a' hpush
      cases hpairing
      rintro b ⟨⟩
      exact push_open hopen hpush
    · exact absurd hpairing (hfinish _ _ _)
  unfold Worker.receive at h
  split at h
  · split at h
    · cases h
      exact hw
    split at h
    · cases h
      exact hw
    split at h
    · cases h
      exact hw
    split at h
    · cases h
    · cases h
      exact hw
  · split at h
    · cases h
      exact hw
    split at h
    · cases h
      exact hw
    split at h
    · cases h
      exact hw
    · exact absurd h (hfinish _ _ _)
  · split at h
    · cases h
      exact hw
    split at h
    · cases h
      exact hw
    split at h
    · cases h
      exact hw
    · exact hchunk _ _ _ _ _ h
  · split at h
    · cases h
      exact hw
    split at h
    · cases h
      exact hw
    split at h
    · cases h
      exact hw
    · cases h
  · cases h
    exact hw

theorem lastApproved_snoc (r : String) (tr : List (Input × Option Reaction)) (x : Input × Option Reaction) :
    lastApproved r (tr ++ [x]) = (approvedBy r x).or (lastApproved r tr) := by
  unfold lastApproved
  rw [List.filterMap_append]
  cases h : approvedBy r x with
  | none => simp [h]
  | some invitation => simp [h]

/-- What holds of owner and worker in every reachable state. -/
structure Tracked (c : Crates) (tr : List (Input × Option Reaction)) (s : System) : Prop where
  sane : Sane s.owner
  payloads : ∀ r p payloads, AList.lookup r s.owner.pending = some p → p.approvalPayloads = some payloads →
    ∃ nonce invitation, lastApproved r tr = some invitation ∧
      encryptedApprovalChunks c p invitation (some nonce) = .ok payloads
  assembly : ∀ w, s.worker = .pairing w → ∀ a, w.assembly = some a → a.Open

/-- An event of the owner: the payloads of a request are of the invitation approved last for it. -/
theorem payloads_step {tr : List (Input × Option Reaction)} {o : Owner} {e : OwnerEvent}
    (h : ∀ r p payloads, AList.lookup r o.pending = some p → p.approvalPayloads = some payloads →
      ∃ nonce invitation, lastApproved r tr = some invitation ∧
        encryptedApprovalChunks c p invitation (some nonce) = .ok payloads) :
    ∀ r p payloads, AList.lookup r (o.step c e).2.pending = some p → p.approvalPayloads = some payloads →
      ∃ nonce invitation, lastApproved r (tr ++ [(.owner e, some (o.step c e).1)]) = some invitation ∧
        encryptedApprovalChunks c p invitation (some nonce) = .ok payloads := by
  have hchange := @step_change c e o
  generalize hreaction : (o.step c e).1 = reaction at hchange ⊢
  generalize hdelivery : reaction.delivery = delivery at hchange
  -- a request that the event does not approve keeps what was approved last
  have hkept : ∀ r p payloads, approvedBy r (.owner e, some reaction) = none → AList.lookup r o.pending = some p →
      p.approvalPayloads = some payloads → ∃ nonce invitation,
        lastApproved r (tr ++ [(.owner e, some reaction)]) = some invitation ∧
          encryptedApprovalChunks c p invitation (some nonce) = .ok payloads := by
    intro r p payloads hnone hp hpayloads
    rw [lastApproved_snoc, hnone, Option.none_or]
    exact h r p payloads hp hpayloads
  intro r p payloads hp hpayloads
  cases hchange with
  | clear hpending hsends =>
    rw [hpending] at hp
    refine hkept r p payloads ?_ (lookup_of_cleared hp) hpayloads
    unfold approvedBy
    split
    · rename_i requestId invitation nonce sends _ heq
      cases heq
      rw [if_neg]
      rintro ⟨-, hsome⟩
      obtain ⟨d, hd⟩ := Option.isSome_iff_exists.1 hsome
      obtain ⟨-, id, sends, hreject⟩ := hsends d (hdelivery.symm.trans hd)
      cases hreject
    · rfl
  | @act t q q' delivery hq hact hpending =>
    rw [hpending, Table.lookup_insert'] at hp
    split at hp
    · rename_i hr
      subst hr
      obtain rfl := Option.some.inj hp
      cases hact with
      | @approve now invitation nonce sends newPayloads hencrypt =>
        simp only [Option.some.injEq] at hpayloads
        subst hpayloads
        obtain ⟨draw, rfl, -⟩ := encryptedApprovalChunks_ok hencrypt
        refine ⟨draw, invitation, ?_, hencrypt⟩
        rw [lastApproved_snoc]
        simp [approvedBy, hdelivery]
      | complete hstate => exact hkept r q payloads rfl (lookup_of_cleared hq) hpayloads
      | repeated => exact hkept r q payloads rfl (lookup_of_cleared hq) hpayloads
    · rename_i hr
      refine hkept r p payloads ?_ (lookup_of_cleared hp) hpayloads
      cases hact with
      | approve hencrypt =>
        simp only [approvedBy]
        rw [if_neg]
        rintro ⟨rfl, -⟩
        exact hr rfl
      | complete hstate => rfl
      | repeated => rfl
  | @add t q delivery hnone hfresh hpending hsends hreceive =>
    obtain ⟨now, source, d, sourceIsLocal, secret, rfl⟩ := hreceive
    rw [hpending, Table.lookup_insert'] at hp
    split at hp
    · obtain rfl := Option.some.inj hp
      rw [hfresh.payloads] at hpayloads
      cases hpayloads
    · exact hkept r p payloads rfl (lookup_of_cleared hp) hpayloads

theorem tracked_new (requestId : String) (secret : Bytes) : Tracked c [] (System.new requestId secret) := by
  refine ⟨sane_new, ?_, ?_⟩
  · intro r p payloads hp
    simp [System.new, Owner.new] at hp
  · rintro w ⟨⟩ a ⟨⟩

theorem tracked_step {tr : List (Input × Option Reaction)} {s : System} {i : Input} (h : Tracked c tr s) :
    Tracked c (tr ++ [(i, (s.step c i).1)]) (s.step c i).2 := by
  -- only the owner approves
  have hsame : ∀ r, approvedBy r (i, none) = none := by
    intro r
    unfold approvedBy
    split
    · rename_i heq
      cases heq
    · rfl
  cases i with
  | owner e => exact ⟨sane_step h.sane, payloads_step h.payloads, h.assembly⟩
  | worker source d =>
    refine ⟨h.sane, ?_, ?_⟩
    · intro r p payloads hp hpayloads
      simp only [System.step, lastApproved_snoc, hsame, Option.none_or]
      exact h.payloads r p payloads hp hpayloads
    · intro w' hw'
      cases hworker : s.worker with
      | pairing w =>
        simp only [System.step, hworker] at hw'
        exact receive_open (h.assembly w hworker) hw'
      | recovered invitation =>
        simp only [System.step, hworker] at hw'
        cases hw'
      | failed message =>
        simp only [System.step, hworker] at hw'
        cases hw'
      | cancelled =>
        simp only [System.step, hworker] at hw'
        cases hw'
  | expire =>
    refine ⟨h.sane, ?_, ?_⟩
    · intro r p payloads hp hpayloads
      simp only [System.step, lastApproved_snoc, hsame, Option.none_or]
      exact h.payloads r p payloads hp hpayloads
    · intro w' hw'
      simp only [System.step] at hw'
      split at hw'
      · cases hw'
      · exact h.assembly w' hw'
  | cancel =>
    refine ⟨h.sane, ?_, ?_⟩
    · intro r p payloads hp hpayloads
      simp only [System.step, lastApproved_snoc, hsame, Option.none_or]
      exact h.payloads r p payloads hp hpayloads
    · intro w' hw'
      simp only [System.step] at hw'
      split at hw'
      · cases hw'
      · exact h.assembly w' hw'

theorem tracked_exec (inputs : List Input) (requestId : String) (secret : Bytes) :
    Tracked c ((systemMachine c).trace inputs (System.new requestId secret))
      ((systemMachine c).exec inputs (System.new requestId secret)) := by
  have h := (systemMachine c).invariant (C := fun _ _ => True) (I := Tracked c) (fun tr s i hs _ => tracked_step hs) inputs []
    (System.new requestId secret) (tracked_new requestId secret)
    ((systemMachine c).meets_of_forall (fun _ _ => trivial) inputs _)
  simpa using h

/-- The payloads of an encrypted invitation, delivered to a worker with the key of the request. -/
theorem deliver_recovers_iff (hc : c.Lawful) {p : PendingPair} {payloads : List PairingDatagram} {nonce : Nonce}
    {invitation : String} (hencrypt : encryptedApprovalChunks c p invitation (some nonce) = .ok payloads) {w : Worker}
    {s : Selected} (hid : p.requestId = w.requestId) (hselected : w.selected = some s) (hkey : s.key = p.key)
    (haad : s.aad = p.aad) (hopen : ∀ a, w.assembly = some a → a.Open) :
    deliver c s.addr payloads (.pairing w) = .recovered invitation ↔ w.Fits payloads := by
  obtain ⟨draw, hdraw, rfl, hne, hmany, hsize⟩ := encryptedApprovalChunks_ok hencrypt
  obtain rfl := Option.some.inj hdraw
  have hpieces : ∀ piece ∈ piecesOf c p.key p.aad nonce invitation, IsPiece piece := by
    intro piece hpiece
    obtain ⟨hne, hshort, hencoded⟩ := piecesOf_spec piece hpiece
    exact ⟨hne, hshort, hencoded⟩
  have hflat := flatten_piecesOf (c := c) p.key p.aad nonce invitation
  rw [← hflat] at hsize
  generalize piecesOf c p.key p.aad nonce invitation = pieces at hne hmany hsize hpieces hflat ⊢
  -- what is put together decrypts to the invitation exactly if it is the whole ciphertext
  have hfinish : ∀ text : List Char,
      finishWorkerEnrollment c s (nonceText nonce) (String.ofList text) = .recovered invitation ↔ text = pieces.flatten := by
    intro text
    rw [finish_recovered_iff hc, hkey, haad, hflat]
  rw [hid]
  cases ha : w.assembly with
  | none =>
    -- a worker without an assembly begins one
    have hfits : w.Fits (approvalChunks w.requestId (nonceText nonce) pieces) := by
      intro a hsome
      rw [ha] at hsome
      cases hsome
    refine ⟨fun _ => hfits, fun _ => ?_⟩
    rcases deliver_new (c := c) hpieces hne hmany hselected ha (nonceText nonce) with ⟨e, -, hbig⟩ | hdone
    · omega
    · rw [hdone]
      exact (hfinish _).2 rfl
  | some a =>
    by_cases hown : a.nonce = nonceText nonce ∧ a.chunkCount = pieces.length
    · obtain ⟨hnonce, hcount⟩ := hown
      have hdeliver := deliver_own (c := c) hpieces hselected ha (hopen a ha) hcount
      rw [hnonce] at hdeliver
      constructor
      · intro hrecovered b hb
        rw [ha] at hb
        obtain rfl := Option.some.inj hb
        refine ⟨pieces, by rw [hnonce], hcount, ?_⟩
        rcases hdeliver with ⟨e, hfailed, -⟩ | hdone
        · rw [hfailed] at hrecovered
          cases hrecovered
        · exact (hfinish _).1 (hdone ▸ hrecovered)
      · intro hfits
        obtain ⟨pieces', hpayloads, -, hfilled⟩ := hfits a ha
        obtain ⟨-, rfl⟩ := approvalChunks_inj hne hpayloads
        rcases hdeliver with ⟨e, -, hbig⟩ | hdone
        · rw [hfilled] at hbig
          omega
        · rw [hdone]
          exact (hfinish _).2 hfilled
    · -- fragments of another approval are not put to these
      have hother : a.nonce ≠ nonceText nonce ∨ a.chunkCount ≠ pieces.length := by
        by_cases hnonce : a.nonce = nonceText nonce
        · exact Or.inr fun hcount => hown ⟨hnonce, hcount⟩
        · exact Or.inl hnonce
      rw [deliver_other hselected ha hother]
      constructor
      · intro h
        cases h
      · intro hfits
        obtain ⟨pieces', hpayloads, hcount, -⟩ := hfits a ha
        obtain ⟨hnonce, rfl⟩ := approvalChunks_inj hne hpayloads
        exact absurd ⟨hnonce.symm, hcount⟩ hown

end

/-- In every state that owner and worker reach, whatever datagrams were lost, repeated, overtaken or made up: if the worker
waits with the key of its pending request and the request holds payloads, then delivering them in order makes the worker
recover the invitation approved last exactly if the fragments it holds already are of these payloads. -/
theorem delivery_converges_iff (c : Crates) (hc : c.Lawful) (inputs : List Input) (requestId : String) (secret : Bytes)
    (w : Worker) (s : Selected) (p : PendingPair) (payloads : List PairingDatagram)
    (hworker : ((systemMachine c).exec inputs (System.new requestId secret)).worker = .pairing w)
    (hp : AList.lookup w.requestId ((systemMachine c).exec inputs (System.new requestId secret)).owner.pending = some p)
    (hpayloads : p.approvalPayloads = some payloads) (hselected : w.selected = some s) (hkey : s.key = p.key)
    (haad : s.aad = p.aad) :
    ∃ invitation, lastApproved w.requestId ((systemMachine c).trace inputs (System.new requestId secret)) = some invitation ∧
      (deliver c s.addr payloads (.pairing w) = .recovered invitation ↔ w.Fits payloads) := by
  have htracked := tracked_exec (c := c) inputs requestId secret
  obtain ⟨nonce, invitation, hlast, hencrypt⟩ := htracked.payloads w.requestId p payloads hp hpayloads
  have hid := (htracked.sane.requestId w.requestId p hp).1
  exact ⟨invitation, hlast,
    deliver_recovers_iff hc hencrypt hid hselected hkey haad (htracked.assembly w hworker)⟩

/-! ## An approval that is repeated -/

theorem worker_owner (c : Crates) (s : System) (e : OwnerEvent) :
    ((systemMachine c).exec [.owner e] s).worker = s.worker := rfl

theorem owner_owner (c : Crates) (s : System) (e : OwnerEvent) :
    ((systemMachine c).exec [.owner e] s).owner = (s.owner.step c e).2 := rfl

theorem owner_worker (c : Crates) (s : System) (source : SocketAddr) (d : Option PairingDatagram) :
    ((systemMachine c).exec [.worker source d] s).owner = s.owner := rfl

theorem worker_worker (c : Crates) (s : System) (source : SocketAddr) (d : Option PairingDatagram) :
    ((systemMachine c).exec [.worker source d] s).worker = s.worker.receive c source d := rfl

theorem mem_sent {c : Crates} {s : System} {e : OwnerEvent} {d : Delivery} (payload : PairingDatagram)
    (hd : (s.owner.step c e).1.delivery = some d) (hpayload : payload ∈ d.payloads) :
    (d.peerAddr, payload) ∈ ((systemMachine c).exec [.owner e] s).sent := by
  show (d.peerAddr, payload) ∈
    s.sent ++ (((s.owner.step c e).1.delivery.map fun d => d.payloads.map fun payload => (d.peerAddr, payload)).getD [])
  rw [hd]
  exact List.mem_append_right _ (List.mem_map_of_mem hpayload)

/-- An approval of a request that has not expired, by a nonce and within the limit. -/
theorem step_approve {c : Crates} (hc : c.Lawful) {o : Owner} {now : Nat} {r : String} {p : PendingPair} {invitation : String}
    (nonce : Nonce) (sends : Bool) (hsocket : o.socket = true) (hwindow : now < o.openUntilMs)
    (hp : AList.lookup r o.pending = some p) (hlives : now < p.expiresAtMs) (hid : validRequestId p.requestId = true)
    (hlen : invitation.utf8ByteSize ≤ maxInvitationBytes) :
    let payloads := approvalChunks p.requestId (nonceText nonce) (piecesOf c p.key p.aad nonce invitation)
    (o.step c (.approve now r invitation (some nonce) sends)).1.delivery = some ⟨r, p.peerAddr, payloads⟩ ∧
      AList.lookup r (o.step c (.approve now r invitation (some nonce) sends)).2.pending =
        some { p with approvalPayloads := some payloads, state := .approved } ∧
      (o.step c (.approve now r invitation (some nonce) sends)).2.socket = true ∧
      (o.step c (.approve now r invitation (some nonce) sends)).2.openUntilMs = o.openUntilMs := by
  have hkept : AList.lookup r (pruneOwnerState now o).pending = some p := by
    have hopen : ¬ o.openUntilMs ≤ now := Nat.not_le.2 hwindow
    simp only [pruneOwnerState, hopen, if_false]
    rw [Table.lookup_retain, hp]
    simp [hlives]
  have hsocket' : (pruneOwnerState now o).socket = true := hsocket
  simp only [Owner.step, Owner.approve, hsocket', Bool.not_true, Bool.false_eq_true, if_false, hkept,
    encryptedApprovalChunks_isOk hc.length_encrypt nonce hid hlen]
  refine ⟨trivial, ?_, trivial, rfl⟩
  exact AList.lookup_insert _

/-- The first of several fragments begins an assembly and does not complete it. -/
theorem receive_begins {c : Crates} {pieces : List (List Char)} (hpieces : ∀ piece ∈ pieces, IsPiece piece)
    (hmany : 2 ≤ pieces.length ∧ pieces.length ≤ maxApprovalChunks) {s : Selected} {w : Worker}
    (hselected : w.selected = some s) (ha : w.assembly = none) (nonce : String) {piece : List Char}
    (hfirst : pieces[0]? = some piece) :
    ∃ a, w.receive c s.addr (some (fragment w nonce pieces.length 0 piece)) = .pairing { w with assembly := some a } ∧
      a.nonce = nonce := by
  obtain ⟨a, hnew⟩ : ∃ a, ApprovalAssembly.new nonce pieces.length = some a := by
    unfold ApprovalAssembly.new
    rw [if_pos ⟨by omega, hmany.2⟩]
    exact ⟨_, rfl⟩
  obtain ⟨hopen, hnonce, hcount, hchunks⟩ := open_new hnew
  have hpiece := hpieces piece (List.mem_of_getElem? hfirst)
  have hempty : ∀ i < pieces.length, a.chunks[i]? = some none := by
    intro i hi
    rw [hchunks]
    exact List.getElem?_replicate_of_lt hi
  rw [receive_fragment hselected, receiveChunk_first ha hnew, ← hnonce, ← hcount, receiveChunk_own rfl]
  rcases push_cases hopen (k := 0) (by omega) hpiece with ⟨⟨held, hheld⟩, -⟩ | ⟨-, hbig, -⟩ |
    ⟨-, a', hpush, hnonce', -, hchunks', -⟩
  · rw [hempty 0 (by omega)] at hheld
    cases hheld
  · have hshort := hpiece.short
    rw [hchunks, heldLen_replicate] at hbig
    unfold maxApprovalChunkChars at hshort
    unfold maxApprovalCiphertextChars at hbig
    omega
  · have hincomplete : a'.complete = none := by
      rw [ApprovalAssembly.complete, joined_eq_none_iff.2 ⟨1, ?_⟩]
      · rfl
      · rw [hchunks', List.getElem?_set_ne (by decide)]
        exact hempty 1 (by omega)
    refine ⟨a', ?_, hnonce'⟩
    rw [hpush, hincomplete]

/-- The owner approves, the first fragment reaches the worker, and the owner approves once more: the worker has an assembly
of the first nonce and the request holds the payloads of the second. -/
theorem approved_again {c : Crates} (hc : c.Lawful) {s : System} {w : Worker} {sel : Selected} {p : PendingPair}
    {invitation : String} (now later : Nat) (n n' : Nonce) {workerAddr : SocketAddr} (hworker : s.worker = .pairing w)
    (hselected : w.selected = some sel) (hassembly : w.assembly = none) (hsocket : s.owner.socket = true)
    (hwindow : now < s.owner.openUntilMs ∧ later < s.owner.openUntilMs)
    (hp : AList.lookup w.requestId s.owner.pending = some p) (hlives : now < p.expiresAtMs ∧ later < p.expiresAtMs)
    (hpeer : p.peerAddr = workerAddr) (hid : p.requestId = w.requestId) (hvalid : validRequestId p.requestId = true)
    (hlen : 480 < invitation.utf8ByteSize ∧ invitation.utf8ByteSize ≤ maxInvitationBytes) :
    ∃ (piece : List Char) (a : ApprovalAssembly), ∀ inputs : List Input,
      inputs = [.owner (.approve now w.requestId invitation (some n) true)] ++
        [.worker sel.addr (some (fragment w (nonceText n) (piecesOf c p.key p.aad n invitation).length 0 piece))] ++
        [.owner (.approve later w.requestId invitation (some n') true)] →
      (systemMachine c).Meets (Honest sel.addr workerAddr) inputs s ∧
        ((systemMachine c).exec inputs s).worker = .pairing { w with assembly := some a } ∧ a.nonce = nonceText n ∧
        AList.lookup w.requestId ((systemMachine c).exec inputs s).owner.pending = some { p with
          approvalPayloads := some (approvalChunks w.requestId (nonceText n') (piecesOf c p.key p.aad n' invitation))
          state := .approved } := by
  have hpieces : ∀ piece ∈ piecesOf c p.key p.aad n invitation, IsPiece piece := by
    intro piece hpiece
    obtain ⟨hne, hshort, hencoded⟩ := piecesOf_spec piece hpiece
    exact ⟨hne, hshort, hencoded⟩
  have hmany : 2 ≤ (piecesOf c p.key p.aad n invitation).length ∧
      (piecesOf c p.key p.aad n invitation).length ≤ maxApprovalChunks := by
    have hmax := hlen.2
    unfold maxInvitationBytes at hmax
    unfold maxApprovalChunks
    rw [length_piecesOf hc.length_encrypt]
    omega
  obtain ⟨piece, hpiece⟩ : ∃ piece, (piecesOf c p.key p.aad n invitation)[0]? = some piece :=
    ⟨_, List.getElem?_eq_getElem (by omega)⟩
  obtain ⟨a, hbegins, hnonce⟩ := receive_begins (c := c) hpieces hmany hselected hassembly (nonceText n) hpiece
  obtain ⟨hdelivery, hp1, hsocket1, hwindow1⟩ := step_approve hc n true hsocket hwindow.1 hp hlives.1 hvalid hlen.2
  obtain ⟨-, hp2, -, -⟩ := step_approve hc n' true hsocket1 (by rw [hwindow1]; exact hwindow.2) hp1 hlives.2 hvalid hlen.2
  refine ⟨piece, a, ?_⟩
  rintro inputs rfl
  refine ⟨⟨trivial, ⟨rfl, _, rfl, ?_⟩, trivial, trivial⟩, ?_, hnonce, ?_⟩
  · have hsent := mem_sent (fragment w (nonceText n) (piecesOf c p.key p.aad n invitation).length 0 piece) hdelivery
    rw [← hpeer]
    refine hsent ?_
    rw [hid, approvalChunks_eq, List.mem_iff_getElem?]
    exact ⟨0, by rw [List.getElem?_mapIdx, hpiece, Option.map_some]⟩
  · rw [Machine.exec_append, Machine.exec_append, worker_owner, worker_worker, worker_owner, hworker]
    exact hbegins
  · rw [Machine.exec_append, Machine.exec_append, owner_owner, owner_worker, owner_owner, hp2, hid]

namespace Scenario

theorem encrypt_cases (k n a plaintext : Bytes) :
    (∃ s ∈ sealed, s.1 = n ∧ s.2.1 = plaintext ∧ encrypt k n a plaintext = s.2.2) ∨
      encrypt k n a plaintext = plaintext ++ tag := by
  unfold encrypt
  split
  · cases hfind : sealed.find? fun s => s.1 == n && s.2.1 == plaintext with
    | none => exact Or.inr rfl
    | some s =>
      have hs := List.find?_some hfind
      simp only [Bool.and_eq_true, beq_iff_eq] at hs
      exact Or.inl ⟨s, List.mem_of_find?_eq_some hfind, hs.1, hs.2, rfl⟩
  · exact Or.inr rfl

theorem sealed_lengths : ∀ s ∈ sealed, s.2.2.length = s.2.1.length + 16 := by decide +kernel

theorem sealed_tags : ∀ s ∈ sealed, s.2.2.drop (s.2.2.length - 16) ≠ tag := by decide +kernel

theorem sealed_unique : ∀ s ∈ sealed, ∀ t ∈ sealed, s.2.2 = t.2.2 → s.2.1 = t.2.1 := by decide +kernel

theorem drop_append_tag (plaintext : Bytes) :
    (plaintext ++ tag).drop ((plaintext ++ tag).length - 16) = tag := by
  have hlen : (plaintext ++ tag).length - 16 = plaintext.length := by simp [tag]
  rw [hlen, List.drop_left]

theorem encrypt_inj {k n a p q : Bytes} (h : encrypt k n a p = encrypt k n a q) : p = q := by
  rcases encrypt_cases k n a p with ⟨s, hs, -, rfl, hp⟩ | hp
  · rcases encrypt_cases k n a q with ⟨t, ht, -, rfl, hq⟩ | hq
    · exact sealed_unique s hs t ht (hp.symm.trans (h.trans hq))
    · have hsame : s.2.2 = q ++ tag := hp.symm.trans (h.trans hq)
      refine absurd ?_ (sealed_tags s hs)
      rw [hsame]
      exact drop_append_tag q
  · rcases encrypt_cases k n a q with ⟨t, ht, -, rfl, hq⟩ | hq
    · have hsame : t.2.2 = p ++ tag := hq.symm.trans (h.symm.trans hp)
      refine absurd ?_ (sealed_tags t ht)
      rw [hsame]
      exact drop_append_tag p
    · exact List.append_cancel_right (hp.symm.trans (h.trans hq))

theorem lawful : crates.Lawful where
  length_encrypt key nonce aad plaintext := by
    show (encrypt key nonce aad plaintext).length = _
    rcases encrypt_cases key nonce aad plaintext with ⟨s, hs, -, rfl, h⟩ | h
    · rw [h, sealed_lengths s hs]
    · simp [h, tag]
  decrypt_iff key nonce aad ciphertext plaintext := by
    show List.find? (fun p => encrypt key nonce aad p == ciphertext)
      (ciphertext.take (ciphertext.length - 16) :: sealed.map (·.2.1)) = some plaintext ↔
        encrypt key nonce aad plaintext = ciphertext
    constructor
    · intro h
      simpa using List.find?_some h
    · intro h
      have hin : plaintext ∈ ciphertext.take (ciphertext.length - 16) :: sealed.map (·.2.1) := by
        rcases encrypt_cases key nonce aad plaintext with ⟨s, hs, -, hs', -⟩ | hfallback
        · exact List.mem_cons_of_mem _ (List.mem_map.2 ⟨s, hs, hs'⟩)
        · have htake : ciphertext.take (ciphertext.length - 16) = plaintext := by
            rw [← h, hfallback]
            simp [tag]
          rw [htake]
          exact List.mem_cons_self ..
      have hsome : (List.find? (fun p => encrypt key nonce aad p == ciphertext)
          (ciphertext.take (ciphertext.length - 16) :: sealed.map (·.2.1))).isSome = true :=
        List.find?_isSome.2 ⟨plaintext, hin, by simpa using h⟩
      obtain ⟨found, hfound⟩ := Option.isSome_iff_exists.1 hsome
      have hsame := List.find?_some hfound
      rw [hfound, encrypt_inj (h.trans (beq_iff_eq.1 hsame).symm)]

/-- The owner's address. -/
def mainPc : SocketAddr := ⟨3232235786, 47839⟩

/-- What the owner answers the hello with. -/
def challenge : PairingDatagram :=
  .challenge pairingSchema requestId "Main PC" (String.ofList (Base64.encode ownerPublic)) 902000

/-- The worker has asked and has the owner's challenge. -/
def asked : List Input :=
  [.owner (.openWindow "Main PC" true 1000 1000), .owner (.receive 2000 laptop (some hello) false (some ownerSecret)),
    .worker mainPc (some challenge)]

/-- The laptop after the challenge. -/
def waiting : Worker := ⟨requestId, workerSecret, some ⟨mainPc, key, aad, "Main PC"⟩, none⟩

/-- Both ends before anything is sent. -/
def start : System := System.new requestId workerSecret

theorem worker_asked : ((systemMachine crates).exec asked start).worker = .pairing waiting := by decide +kernel

end Scenario

open Scenario in
theorem delivery_converges_first_approval :
    ∃ p payloads, AList.lookup requestId
        ((systemMachine crates).exec (asked ++ [.owner (.approve 3000 requestId "invite" (some (nonce 1)) true)])
          start).owner.pending = some p ∧
      p.approvalPayloads = some payloads ∧ deliver crates mainPc payloads (.pairing waiting) = .recovered "invite" := by
  generalize hinputs : asked ++ [.owner (.approve 3000 requestId "invite" (some (nonce 1)) true)] = inputs
  have hfacts : (AList.lookup requestId ((systemMachine crates).exec inputs start).owner.pending).map
      (fun p => (p.key, p.aad, p.approvalPayloads.isSome)) = some (key, aad, true) := by
    rw [← hinputs]
    decide +kernel
  have hlast : lastApproved requestId ((systemMachine crates).trace inputs start) = some "invite" := by
    rw [← hinputs]
    decide +kernel
  have hworker : ((systemMachine crates).exec inputs start).worker = .pairing waiting := by
    rw [← hinputs, Machine.exec_append, worker_owner]
    exact worker_asked
  obtain ⟨p, hp, hmaterial⟩ := Option.map_eq_some_iff.1 hfacts
  simp only [Prod.mk.injEq] at hmaterial
  obtain ⟨payloads, hpayloads⟩ := Option.isSome_iff_exists.1 hmaterial.2.2
  obtain ⟨invitation, hinvitation, hrecovers⟩ := delivery_converges_iff crates lawful inputs requestId workerSecret waiting
    ⟨mainPc, key, aad, "Main PC"⟩ p payloads hworker hp hpayloads rfl hmaterial.1.symm hmaterial.2.1.symm
  rw [show lastApproved requestId ((systemMachine crates).trace inputs start) = some invitation from hinvitation,
    Option.some.injEq] at hlast
  rw [hlast] at hrecovers
  exact ⟨p, payloads, hp, hpayloads, hrecovers.2 (by rintro a ⟨⟩)⟩

namespace Scenario

/-- An invitation of more than one fragment. -/
def longInvite : String := String.ofList (List.replicate 500 'x')

theorem utf8ByteSize_replicate (n : Nat) : (String.ofList (List.replicate n 'x')).utf8ByteSize = n := by
  have hplain : ∀ d ∈ List.replicate n 'x', isPlain d = true := by
    intro d hd
    rw [List.eq_of_mem_replicate hd]
    decide
  rw [utf8ByteSize_ofList, byteLen_of_isPlain hplain, List.length_replicate]

theorem utf8ByteSize_longInvite : longInvite.utf8ByteSize = 500 := utf8ByteSize_replicate 500

/-- The pending request after the worker has asked. -/
theorem owner_asked :
    let o := ((systemMachine crates).exec asked start).owner
    o.socket = true ∧ 4000 < o.openUntilMs ∧ ∃ p, AList.lookup requestId o.pending = some p ∧ p.key = key ∧ p.aad = aad ∧
      p.requestId = requestId ∧ p.peerAddr = laptop ∧ 4000 < p.expiresAtMs := by
  have hfacts : (AList.lookup requestId ((systemMachine crates).exec asked start).owner.pending).any (fun p =>
      p.key = key ∧ p.aad = aad ∧ p.requestId = requestId ∧ p.peerAddr = laptop ∧ 4000 < p.expiresAtMs) = true := by
    decide +kernel
  obtain ⟨p, hp, hfacts⟩ := (Option.any_eq_true _ _).1 hfacts
  exact ⟨by decide +kernel, by decide +kernel, p, hp, of_decide_eq_true hfacts⟩

end Scenario

open Scenario in
/-- A worker that has the first fragment of one approval never completes the next one. -/
theorem second_approval_is_never_assembled :
    ¬ ∀ (c : Crates) (ownerAddr workerAddr : SocketAddr) (inputs : List Input) (requestId : String) (secret : Bytes)
      (w : Worker) (s : Selected) (p : PendingPair) (payloads : List PairingDatagram), c.Lawful →
      (systemMachine c).Meets (Honest ownerAddr workerAddr) inputs (System.new requestId secret) →
      ((systemMachine c).exec inputs (System.new requestId secret)).worker = .pairing w →
      AList.lookup w.requestId ((systemMachine c).exec inputs (System.new requestId secret)).owner.pending = some p →
      p.approvalPayloads = some payloads → w.selected = some s → s.key = p.key → s.aad = p.aad →
      ∃ invitation,
        lastApproved w.requestId ((systemMachine c).trace inputs (System.new requestId secret)) = some invitation ∧
          deliver c s.addr payloads (.pairing w) = .recovered invitation := by
  intro hall
  obtain ⟨hsocket, hopen, p, hp, hkey, haad, hid, hpeer, hlives⟩ := owner_asked
  have hworker := worker_asked
  have hasked : (systemMachine crates).Meets (Honest mainPc laptop) asked start := by
    refine ⟨trivial, trivial, ⟨rfl, challenge, rfl, ?_⟩, trivial⟩
    decide +kernel
  have hlen : 480 < longInvite.utf8ByteSize ∧ longInvite.utf8ByteSize ≤ maxInvitationBytes := by
    rw [utf8ByteSize_longInvite]
    decide
  have hvalid : validRequestId p.requestId = true := by
    rw [hid]
    decide +kernel
  obtain ⟨piece, a, hrest⟩ := approved_again lawful 3000 4000 (nonce 1) (nonce 2) hworker rfl rfl hsocket
    ⟨by omega, hopen⟩ hp ⟨by omega, hlives⟩ hpeer hid hvalid hlen
  obtain ⟨hhonest, hstuck, hnonce, hp'⟩ := hrest _ rfl
  have hmeets := ((systemMachine crates).meets_append _ _ _ _).2 ⟨hasked, hhonest⟩
  rw [← Machine.exec_append] at hstuck hp'
  generalize asked ++ _ = inputs at hmeets hstuck hp'
  obtain ⟨invitation, -, hrecovers⟩ := hall crates mainPc laptop inputs requestId workerSecret
    { waiting with assembly := some a } ⟨mainPc, key, aad, "Main PC"⟩ _ _ lawful hmeets hstuck hp' rfl rfl hkey.symm haad.symm
  have hother : a.nonce ≠ nonceText (nonce 2) := by
    rw [hnonce]
    decide +kernel
  rw [deliver_other (w := { waiting with assembly := some a }) rfl rfl (Or.inl hother)] at hrecovers
  cases hrecovers

end Rampage.Pairing
