/-
What `resumable_put_status` tells the sender. Its two lists always part the chunks of the session, but what it lists as
received is what has a row and a file, and a commit that stores the artifact renames the files away with the directory.
In runs without such a commit, and without one that settles on an object while chunks are missing, an active session has
received what was accepted and a complete one misses nothing (`transfer_status_tells_what_to_send`).
-/
import Rampage.Storage.Quota
import Rampage.Storage.Rebuild

namespace Rampage.Storage

open Rampage.Protocol

variable {cas : CasStore} {sid : String} {tr : List (Op × Reply)} {s t : Store} {session : DurablePutSession}

/-! ## The status -/

/-- The chunk has a row and a file. -/
def Received (sid : String) (s : Store) (i : Nat) : Prop :=
  (AList.lookup (sid, i) s.index.chunks).isSome = true ∧ (AList.lookup i (s.transfer sid).chunks).isSome = true

/-- The two lists of a status ascend and part the chunks of the session. -/
structure Partitioned (st : ResumablePutStatus) : Prop where
  received : st.receivedChunks.Pairwise (· < ·)
  missing : st.missingChunks.Pairwise (· < ·)
  disjoint : ∀ i ∈ st.receivedChunks, i ∉ st.missingChunks
  cover : ∀ i, i < st.chunkCount ↔ i ∈ st.receivedChunks ∨ i ∈ st.missingChunks

/-- The chunks `replicate_to_offer` sends when this is the progress it is told: those that are missing. -/
def chunksToSend (st : ResumablePutStatus) : List Nat := st.missingChunks

theorem status_session {st : ResumablePutStatus} (h : resumablePutStatus sid s = .ok st) :
    ∃ session, AList.lookup sid s.index.sessions = some session ∧ st.chunkCount = session.chunkCount ∧
      st.complete = decide (session.state = .complete) ∧
      st.receivedChunks = ((chunkRowsOf sid s.index).map (·.1)).filter
        (fun i => (AList.lookup i (s.transfer sid).chunks).isSome) ∧
      st.missingChunks = (List.range session.chunkCount).filter (· ∉ st.receivedChunks) := by
  unfold resumablePutStatus at h
  split at h
  · cases h
  split at h
  · cases h
  rename_i session hs
  dsimp only at h
  split at h
  · cases h
  · cases h
    exact ⟨session, hs, rfl, rfl, rfl, rfl⟩

theorem mem_receivedChunks {st : ResumablePutStatus} (h : resumablePutStatus sid s = .ok st) {i : Nat} :
    i ∈ st.receivedChunks ↔ Received sid s i := by
  obtain ⟨session, -, -, -, hreceived, -⟩ := status_session h
  rw [hreceived, List.mem_filter, List.mem_map]
  constructor
  · rintro ⟨⟨⟨j, row⟩, hmem, rfl⟩, hfile⟩
    exact ⟨Option.isSome_iff_exists.2 ⟨row, mem_chunkRowsOf.1 hmem⟩, hfile⟩
  · rintro ⟨hrow, hfile⟩
    obtain ⟨row, hrow⟩ := Option.isSome_iff_exists.1 hrow
    exact ⟨⟨(i, row), mem_chunkRowsOf.2 hrow, rfl⟩, hfile⟩

theorem mem_missingChunks {st : ResumablePutStatus} (h : resumablePutStatus sid s = .ok st) {i : Nat} :
    i ∈ st.missingChunks ↔ i < st.chunkCount ∧ i ∉ st.receivedChunks := by
  obtain ⟨session, -, hcount, -, -, hmissing⟩ := status_session h
  rw [hmissing, hcount, List.mem_filter, List.mem_range]
  simp

/-- In every store whose rows were made for their sessions the lists part the chunks. -/
theorem status_partitioned {S : Set Bytes} (hix : IndexSound cas S s.index) {st : ResumablePutStatus}
    (h : resumablePutStatus sid s = .ok st) : Partitioned st := by
  obtain ⟨session, hs, hcount, -, hreceived, hmissing⟩ := status_session h
  refine ⟨?_, ?_, ?_, ?_⟩
  · rw [hreceived]
    exact (List.pairwise_map.2 (strictly_sorted_chunkRowsOf sid s.index)).filter _
  · rw [hmissing]
    exact List.pairwise_lt_range.filter _
  · intro i hi hm
    exact ((mem_missingChunks h).1 hm).2 hi
  · intro i
    rw [mem_missingChunks h]
    constructor
    · intro hlt
      by_cases hi : i ∈ st.receivedChunks
      · exact Or.inl hi
      · exact Or.inr ⟨hlt, hi⟩
    · rintro (hi | ⟨hlt, -⟩)
      · obtain ⟨row, hrow⟩ := Option.isSome_iff_exists.1 ((mem_receivedChunks h).1 hi).1
        obtain ⟨found, _, _, hfound, hmade⟩ := hix.rows sid i row hrow
        rw [hs] at hfound
        cases hfound
        rw [hcount]
        exact hmade.inRange
      · exact hlt

/-! ## The invariant -/

/-- Every chunk of the session has a row and a file. -/
def AllReceived (sid : String) (session : DurablePutSession) (s : Store) : Prop :=
  ∀ i, i < session.chunkCount → Received sid s i

/-- The history of a session against its rows and files. -/
structure Progress (sid : String) (tr : List (Op × Reply)) (s : Store) : Prop where
  /-- The chunks with a row are those that were accepted. -/
  recorded : ∀ i, (AList.lookup (sid, i) s.index.chunks).isSome = true ↔ ∃ p, WasAccepted tr sid i p
  /-- While the session is active every row has its file. -/
  placed : ∀ session, AList.lookup sid s.index.sessions = some session → session.state = .active →
    ∀ i, (AList.lookup (sid, i) s.index.chunks).isSome = true → Received sid s i
  /-- Once it is complete nothing is missing. -/
  whole : ∀ session, AList.lookup sid s.index.sessions = some session → session.state = .complete →
    AllReceived sid session s
  clean : (s.transfer sid).manifest = none

theorem progress_empty (sid : String) : Progress sid [] Store.empty := by
  refine ⟨?_, ?_, ?_, rfl⟩
  · intro i
    constructor
    · intro h
      cases h
    · rintro ⟨p, _, _, _, _, h, _⟩
      cases h
  · intro session h
    cases h
  · intro session h
    cases h

/-- What a status is read from is the same in both states, up to the lease of the session; a session that was not there
is active and has no rows. -/
structure Aside (sid : String) (s t : Store) : Prop where
  rows : ∀ i, AList.lookup (sid, i) t.index.chunks = AList.lookup (sid, i) s.index.chunks
  files : ∀ i, AList.lookup i (t.transfer sid).chunks = AList.lookup i (s.transfer sid).chunks
  manifest : (t.transfer sid).manifest = (s.transfer sid).manifest
  session : ∀ session, AList.lookup sid t.index.sessions = some session →
    (session.state = .active ∧ ∀ i, AList.lookup (sid, i) s.index.chunks = none) ∨
      ∃ session', AList.lookup sid s.index.sessions = some session' ∧ session'.state = session.state ∧
        session'.chunkCount = session.chunkCount

theorem Aside.received (h : Aside sid s t) (i : Nat) : Received sid t i ↔ Received sid s i := by
  unfold Received
  rw [h.rows, h.files]

theorem Progress.aside (h : Progress sid tr s) (ha : Aside sid s t) : Progress sid tr t := by
  refine ⟨?_, ?_, ?_, ha.manifest.trans h.clean⟩
  · intro i
    rw [ha.rows]
    exact h.recorded i
  · intro session hs hactive i hrow
    rw [ha.rows] at hrow
    rw [ha.received]
    rcases ha.session session hs with ⟨-, hnone⟩ | ⟨session', hs', hstate, -⟩
    · rw [hnone] at hrow
      cases hrow
    · exact h.placed session' hs' (hstate.trans hactive) i hrow
  · intro session hs hcomplete i hi
    rw [ha.received]
    rcases ha.session session hs with ⟨hactive, -⟩ | ⟨session', hs', hstate, hcount⟩
    · rw [hactive] at hcomplete
      cases hcomplete
    · exact h.whole session' hs' (hstate.trans hcomplete) i (by omega)

/-- The history grows by a call that accepts no chunk without a row. -/
theorem Progress.snoc (h : Progress sid tr s) {e : Op × Reply}
    (hacc : ∀ i p, WasAccepted (tr ++ [e]) sid i p → WasAccepted tr sid i p ∨
      (AList.lookup (sid, i) s.index.chunks).isSome = true) : Progress sid (tr ++ [e]) s := by
  refine ⟨?_, h.placed, h.whole, h.clean⟩
  intro i
  constructor
  · intro hrow
    obtain ⟨p, hp⟩ := (h.recorded i).1 hrow
    exact ⟨p, hp.append⟩
  · rintro ⟨p, hp⟩
    rcases hacc i p hp with hold | hrow
    · exact (h.recorded i).2 ⟨p, hold⟩
    · exact hrow

theorem Progress.snoc_other (h : Progress sid tr s) {op : Op} {r : Reply}
    (hop : ∀ now nonce i d p st, op = .putChunk now nonce sid i d p → r = .status (.ok st) → st.complete = true) :
    Progress sid (tr ++ [(op, r)]) s := by
  refine h.snoc fun i p hacc => ?_
  rcases wasAccepted_snoc hacc with hold | ⟨now, nonce, d, st, hop', hr, hst⟩
  · exact Or.inl hold
  · rw [hop now nonce i d p st hop' hr] at hst
    cases hst

theorem Aside.refl (sid : String) (s : Store) : Aside sid s s :=
  ⟨fun _ => rfl, fun _ => rfl, rfl, fun session hs => Or.inr ⟨session, hs, rfl, rfl⟩⟩

/-- A step that leaves the session's row as it is. -/
theorem aside_of_apart {digest : String} (h : Apart sid digest s t) : Aside sid s t :=
  ⟨h.rows, h.files, h.manifest, fun session hs => Or.inr ⟨session, by rw [← h.session]; exact hs, rfl, rfl⟩⟩

/-! ## Every call -/

theorem aside_begin {S : Set Bytes} (hix : IndexSound cas S s.index) {now : Int} {spec : ResumablePutSpec} :
    Aside sid s (storeEffects.applyAll (beginResumablePut cas now spec s).effects s) := by
  have hcases := @begin_effects cas now spec s
  revert hcases
  generalize (beginResumablePut cas now spec s).effects = effects
  intro hcases
  cases hcases with
  | none => exact Aside.refl sid s
  | unchanged =>
    have hdir := transfer_createTransferDir s spec.sessionId sid
    exact ⟨fun _ => rfl, fun i => congrArg (fun dir : Dir => AList.lookup i dir.chunks) hdir, congrArg Dir.manifest hdir,
      fun session hs => Or.inr ⟨session, hs, rfl, rfl⟩⟩
  | @accepted count session taken arrive accept row =>
    obtain ⟨hsessions, hchunks, -⟩ := accept_index accept
    have hdir := transfer_createTransferDir
      (Effect.apply (.commit { taken with sessions := AList.insert spec.sessionId session taken.sessions }) s) spec.sessionId sid
    refine ⟨fun i => congrArg (AList.lookup (sid, i)) hchunks, fun i => congrArg (fun dir : Dir => AList.lookup i dir.chunks) hdir,
      congrArg Dir.manifest hdir, ?_⟩
    · intro found hfound
      change AList.lookup sid (AList.insert spec.sessionId session taken.sessions) = some found at hfound
      rw [Table.lookup_insert', hsessions] at hfound
      split at hfound
      · rename_i heq
        cases hfound
        rcases row with ⟨hnone, rfl⟩ | ⟨existing, hexisting, -, hactive, rfl⟩
        · left
          refine ⟨rfl, fun i => ?_⟩
          cases hrow : AList.lookup (sid, i) s.index.chunks with
          | none => rfl
          | some row =>
            obtain ⟨session', _, _, hs', _⟩ := hix.rows sid i row hrow
            rw [heq, hnone] at hs'
            cases hs'
        · exact Or.inr ⟨existing, by rw [heq]; exact hexisting, rfl, rfl⟩
      · exact Or.inr ⟨found, hfound, rfl, rfl⟩

/-- A chunk of the session is stored and accepted. -/
theorem progress_storeChunk (h : Progress sid tr s) {S : Set Bytes} (hix : IndexSound cas S s.index) {now : Int} {nonce : Nonce}
    {i size : Nat} {d : String} {p : Bytes} (hc : Checked cas now sid i d p s session size) :
    Progress sid (tr ++ [(.putChunk now nonce sid i d p,
        .status (thenStatus (storeChunk cas nonce sid i p size s) sid s).result)])
      (storeEffects.applyAll (storeChunk cas nonce sid i p size s) s) := by
  have ht := chunkStored_storeChunk cas nonce sid i p size s
  have hv := hix.sessions _ _ hc.found
  have hfound : AList.lookup sid (storeEffects.applyAll (storeChunk cas nonce sid i p size s) s).index.sessions = some session := by
    rw [ht.index]
    exact hc.found
  -- the session stays active, so its answer counts as an acceptance
  obtain ⟨st, hst, hiff⟩ := status_ok hv.id hfound hv.layout.count_lt
  have hincomplete : st.complete = false := by
    by_contra hn
    have hcomplete := hiff.1 (by simpa using hn)
    rw [hc.active] at hcomplete
    cases hcomplete
  have hrows : ∀ j, AList.lookup (sid, j) (storeEffects.applyAll (storeChunk cas nonce sid i p size s) s).index.chunks =
      if j = i then some (chunkRow cas nonce p size) else AList.lookup (sid, j) s.index.chunks := by
    intro j
    rw [ht.index]
    dsimp only
    rw [Table.lookup_insert']
    by_cases hj : j = i
    · rw [if_pos (by rw [hj]), if_pos hj]
    · rw [if_neg fun heq => hj (congrArg Prod.snd heq), if_neg hj]
  have hmem : WasAccepted (tr ++ [(.putChunk now nonce sid i d p,
      .status (thenStatus (storeChunk cas nonce sid i p size s) sid s).result)]) sid i p := by
    refine ⟨now, nonce, d, st, List.mem_append_right _ (List.mem_singleton.2 ?_), hincomplete⟩
    show _ = (_, Reply.status (resumablePutStatus sid _))
    rw [hst]
  refine ⟨?_, ?_, ?_, (ht.manifest sid).trans h.clean⟩
  · intro j
    rw [hrows]
    split
    · rename_i heq
      subst heq
      exact ⟨fun _ => ⟨p, hmem⟩, fun _ => rfl⟩
    · rename_i hne
      rw [h.recorded j]
      constructor
      · rintro ⟨q, hq⟩
        exact ⟨q, hq.append⟩
      · rintro ⟨q, hq⟩
        rcases wasAccepted_snoc hq with hold | ⟨_, _, _, _, hop, _, _⟩
        · exact ⟨q, hold⟩
        · cases hop
          exact absurd rfl hne
  · intro session' _ hactive j hrow
    refine ⟨hrow, ?_⟩
    rw [ht.file]
    split
    · rfl
    · rename_i hne
      rw [hrows, if_neg fun hj => hne ⟨rfl, hj⟩] at hrow
      exact (h.placed session hc.found hc.active j hrow).2
  · intro session' hs' hcomplete
    rw [hfound] at hs'
    cases hs'
    rw [hc.active] at hcomplete
    cases hcomplete

/-- A chunk of another session is stored. -/
theorem aside_storeChunk {sid' : String} (hne : sid' ≠ sid) (nonce : Nonce) (i size : Nat) (p : Bytes) :
    Aside sid s (storeEffects.applyAll (storeChunk cas nonce sid' i p size s) s) := by
  have ht := chunkStored_storeChunk cas nonce sid' i p size s
  have helsewhere : Elsewhere sid "" s _ := elsewhere_chunkStored hne ht
  refine ⟨helsewhere.rows, helsewhere.files, helsewhere.manifest, fun found hfound => Or.inr ⟨found, ?_, rfl, rfl⟩⟩
  rw [ht.index] at hfound
  exact hfound

theorem progress_putChunk (h : Progress sid tr s) {S : Set Bytes} (hix : IndexSound cas S s.index) (now : Int) (nonce : Nonce)
    (sid' : String) (i : Nat) (d : String) (p : Bytes) :
    Progress sid (tr ++ [(.putChunk now nonce sid' i d p, .status (putResumableChunk cas now nonce sid' i d p s).result)])
      (storeEffects.applyAll (putResumableChunk cas now nonce sid' i d p s).effects s) := by
  rcases @putChunk_cases cas now s sid' i d p nonce with ⟨e, heq⟩ | ⟨⟨session, hs, hcomplete⟩, heq⟩ | ⟨session, size, hc, hwhich⟩
  · rw [heq]
    refine h.snoc_other ?_
    intro _ _ _ _ _ st _ hr
    cases hr
  · rw [heq]
    refine h.snoc_other ?_
    intro _ _ _ _ _ st hop hr
    cases hop
    have hv := hix.sessions _ _ hs
    obtain ⟨st', hst', hiff⟩ := status_ok (s := s) hv.id hs hv.layout.count_lt
    change Reply.status (resumablePutStatus sid s) = _ at hr
    rw [hst'] at hr
    cases hr
    exact hiff.2 hcomplete
  rcases hwhich with ⟨row, hrow, -, heq⟩ | ⟨-, heq⟩
  · rw [heq]
    refine h.snoc fun j q hacc => ?_
    rcases wasAccepted_snoc hacc with hold | ⟨_, _, _, _, hop, _, _⟩
    · exact Or.inl hold
    · cases hop
      exact Or.inr (Option.isSome_iff_exists.2 ⟨row, hrow⟩)
  rw [heq]
  by_cases hsid : sid' = sid
  · subst hsid
    exact progress_storeChunk h hix hc
  · refine (h.aside (aside_storeChunk hsid nonce i size p)).snoc_other ?_
    intro _ _ _ _ _ st hop _
    cases hop
    exact absurd rfl hsid

/-! ## Commits -/

/-- What a commit of the session has passed before it renames the directory. -/
structure Promotable (cas : CasStore) (now : Int) (sid : String) (session : DurablePutSession) (s : Store) : Prop where
  unexpired : timestampMillis now < session.expiresAtMillis
  current : ensureEpochIsCurrent session.authorityScope session.fencingEpoch s.index = .ok ()
  assembly : ∃ ps, Assembly cas sid session s ps

/-- The object in place is the session's, and the index does not contradict it. -/
structure Settles (session : DurablePutSession) (c : ArtifactContract) (ix : Index) : Prop where
  contract : ensureArtifactContract c session.sizeBytes session.mediaType session.storageClass session.requiredReplicas = .ok ()
  indexed : ∃ ix', indexArtifactInTransaction c.artifact c.requiredReplicas ix = .ok ix'

/-- The call is not a commit that renames the chunks of the active session away, and not one that completes it, on an
object in place, while chunks are missing. -/
def KeepsProgress (cas : CasStore) (sid : String) (s : Store) : Op → Prop
  | .commit now _ sid' => sid' = sid → ∀ session, AList.lookup sid s.index.sessions = some session →
      session.state = .active →
        (∀ c, verifyObject cas session.digest s = .ok c → Settles session c s.index → AllReceived sid session s) ∧
          (replaces cas session.digest s = true → ¬ Promotable cas now sid session s)
  | _ => True

theorem assemble_promotable {now createdAt : Int} {m : Manifest} (h : assemble cas now createdAt sid session s = .ok m)
    (hv : SessionValid sid session) : session.state = .active ∧ Promotable cas now sid session s := by
  obtain ⟨hactive, hassembly, -⟩ := assemble_ok h hv
  unfold assemble at h
  split at h
  · cases h
  split at h
  · cases h
  rename_i hexpired
  split at h
  · cases h
  rename_i hcurrent
  exact ⟨hactive, not_le.1 hexpired, hcurrent, hassembly⟩

/-- A commit that settles on an object in place. -/
theorem Progress.settle (h : Progress sid tr s) {c : ArtifactContract}
    (hreceived : Settles session c s.index → AllReceived sid session s) :
    Progress sid tr (storeEffects.applyAll (settle sid session c s).effects s) := by
  rcases @settle_cases sid session s c with ⟨e, heq⟩ | ⟨ix, hcontract, hix, heq⟩
  · rw [heq]
    exact h
  have hall := hreceived ⟨hcontract, ix, hix⟩
  obtain ⟨hsessions, hchunks, -⟩ := indexArtifact_ok hix
  rw [heq]
  show Progress sid tr (Effect.apply (.commit (completedIndex sid session ix)) s)
  have hrows : ∀ i, AList.lookup (sid, i) (completedIndex sid session ix).chunks = AList.lookup (sid, i) s.index.chunks :=
    fun i => congrArg (AList.lookup (sid, i)) hchunks
  have hfound : AList.lookup sid (completedIndex sid session ix).sessions = some { session with state := .complete } := by
    show AList.lookup sid (AList.insert sid _ ix.sessions) = _
    rw [AList.lookup_insert]
  have hsame : ∀ i, Received sid (Effect.apply (.commit (completedIndex sid session ix)) s) i ↔ Received sid s i := by
    intro i
    show (AList.lookup (sid, i) (completedIndex sid session ix).chunks).isSome = true ∧ _ ↔ _
    rw [hrows]
    exact Iff.rfl
  refine ⟨?_, ?_, ?_, h.clean⟩
  · intro i
    show (AList.lookup (sid, i) (completedIndex sid session ix).chunks).isSome = true ↔ _
    rw [hrows]
    exact h.recorded i
  · intro found hf hactive
    rw [show AList.lookup sid (Effect.apply (.commit (completedIndex sid session ix)) s).index.sessions = _ from hfound] at hf
    cases hf
    cases hactive
  · intro found hf _ i hi
    rw [show AList.lookup sid (Effect.apply (.commit (completedIndex sid session ix)) s).index.sessions = _ from hfound] at hf
    cases hf
    exact (hsame i).2 (hall i hi)

/-- A promotion that does not get past its checks. -/
theorem promoteTransfer_refused {now createdAt : Int} (hv : SessionValid sid session)
    (hno : session.state = .active → ¬ Promotable cas now sid session s) :
    ∃ e, promoteTransfer cas now createdAt sid session s = .fail e := by
  rcases @promoteTransfer_cases cas now createdAt sid session s with hfail | ⟨m, written, hm, -, -⟩
  · exact hfail
  · obtain ⟨hactive, hpromotable⟩ := assemble_promotable hm hv
    exact absurd hpromotable (hno hactive)

theorem progress_commit (h : Progress sid tr s) {S : Set Bytes} (hix : IndexSound cas S s.index) {now createdAt : Int}
    (hkeeps : KeepsProgress cas sid s (.commit now createdAt sid)) :
    Progress sid tr (storeEffects.applyAll (commitResumablePut cas now createdAt sid s).effects s) := by
  rcases @commit_cases cas now createdAt sid s with ⟨e, heq⟩ | ⟨session, hs, -, -, hcases⟩
  · rw [heq]
    exact h
  have hv := hix.sessions _ _ hs
  rcases hcases with ⟨c, hc, heq⟩ | ⟨hnone, heq⟩ | ⟨e, hverify, hrepair, heq⟩
  · rw [heq]
    refine h.settle fun hsettles => ?_
    rcases hstate : session.state with _ | _
    · exact (hkeeps rfl session hs hstate).1 c hc hsettles
    · exact h.whole session hs hstate
  · obtain ⟨e, hfail⟩ := @promoteTransfer_refused cas sid s session now createdAt hv fun hactive =>
      (hkeeps rfl session hs hactive).2 (replaces_of_none hnone)
    rw [heq, hfail]
    exact h
  · have hno : session.state = .active → ¬ Promotable cas now sid session (Effect.apply (.quarantine session.digest) s) := by
      rintro hactive ⟨hunexpired, hcurrent, ps, hps⟩
      refine (hkeeps rfl session hs hactive).2 (replaces_of_repairable hverify hrepair) ⟨hunexpired, hcurrent, ps, ?_⟩
      exact ⟨hps.rows, hps.index, hps.opened, hps.digest, hps.size⟩
    obtain ⟨e', hfail⟩ := @promoteTransfer_refused cas sid (Effect.apply (.quarantine session.digest) s) session now createdAt
      hv hno
    rw [heq, hfail]
    exact h.aside ⟨fun _ => rfl, fun _ => rfl, rfl, fun found hf => Or.inr ⟨found, hf, rfl, rfl⟩⟩

theorem longer_ne (digest : String) : digest ++ "x" ≠ digest := by
  intro heq
  have hlen := congrArg String.length heq
  rw [String.length_append] at hlen
  have hone : "x".length = 1 := rfl
  omega

/-- Some content address is not the session's. -/
theorem exists_other_digest (found : Option DurablePutSession) : ∃ digest, ∀ other, found = some other → digest ≠ other.digest := by
  rcases found with _ | session
  · exact ⟨"", fun _ h => by cases h⟩
  · refine ⟨session.digest ++ "x", fun other h heq => ?_⟩
    cases h
    exact longer_ne _ heq

/-- Every call that keeps the progress of the session keeps the invariant. -/
theorem progress_step (h : Progress sid tr s) {S : Set Bytes} (hix : IndexSound cas S s.index) (op : Op)
    (hkeeps : KeepsProgress cas sid s op) :
    Progress sid (tr ++ [(op, (step cas op s).1)]) (step cas op s).2 := by
  cases op with
  | begin now spec =>
    refine (h.aside (aside_begin hix)).snoc_other ?_
    intro _ _ _ _ _ _ hop _
    cases hop
  | putChunk now nonce sid' i d p => exact progress_putChunk h hix now nonce sid' i d p
  | commit now createdAt sid' =>
    -- the commit of another session leaves this one's files and rows in place
    have hafter : Progress sid tr (storeEffects.applyAll (commitResumablePut cas now createdAt sid' s).effects s) := by
      by_cases hsid : sid' = sid
      · subst hsid
        exact progress_commit h hix hkeeps
      · obtain ⟨digest, hdigest⟩ := exists_other_digest (AList.lookup sid' s.index.sessions)
        exact h.aside (aside_of_apart (apart_commit_of_ne hsid hdigest))
    refine Progress.snoc_other hafter ?_
    intro _ _ _ _ _ _ hop _
    cases hop
  | acceptAuthority now scope epoch nonce expiresAt =>
    have hafter : Aside sid s (storeEffects.applyAll (acceptAuthority now scope epoch nonce expiresAt s).effects s) := by
      unfold acceptAuthority
      split
      · exact Aside.refl sid s
      split
      · exact Aside.refl sid s
      · rename_i ix hix'
        obtain ⟨hsessions, hchunks, hartifacts⟩ := accept_index hix'
        exact aside_of_apart (apart_index hsessions hchunks (congrArg (AList.lookup "") hartifacts))
    refine (h.aside hafter).snoc_other ?_
    intro _ _ _ _ _ _ hop _
    cases hop
  | put createdAt nonces plaintext options =>
    have hafter : Aside sid s (storeEffects.applyAll (put cas createdAt nonces plaintext options s).effects s) :=
      aside_of_apart (apart_put (longer_ne (sha256Digest cas plaintext)))
    refine (h.aside hafter).snoc_other ?_
    intro _ _ _ _ _ _ hop _
    cases hop
  | restart =>
    refine h.snoc_other ?_
    intro _ _ _ _ _ _ hop _
    cases hop

/-! ## What the status says -/

/-- The status of the session tells what to send: of an active session what was accepted is received, and of a complete
one nothing is sent again. -/
structure Truthful (sid : String) (tr : List (Op × Reply)) (s : Store) : Prop where
  received : ∀ st, resumablePutStatus sid s = .ok st → st.complete = false →
    ∀ i, i ∈ st.receivedChunks ↔ ∃ p, WasAccepted tr sid i p
  complete : ∀ st, resumablePutStatus sid s = .ok st → st.complete = true → chunksToSend st = []

theorem Progress.truthful (h : Progress sid tr s) : Truthful sid tr s := by
  refine ⟨?_, ?_⟩
  · intro st hst hactive i
    obtain ⟨session, hs, -, hcomplete, -, -⟩ := status_session hst
    rw [hcomplete, decide_eq_false_iff_not] at hactive
    rw [mem_receivedChunks hst, ← h.recorded i]
    exact ⟨fun hreceived => hreceived.1, h.placed session hs (SessionState.eq_active_of_ne hactive) i⟩
  · intro st hst hdone
    obtain ⟨session, hs, hcount, hcomplete, -, -⟩ := status_session hst
    rw [hcomplete, decide_eq_true_eq] at hdone
    refine List.eq_nil_iff_forall_not_mem.2 fun i hi => ?_
    obtain ⟨hlt, hnot⟩ := (mem_missingChunks hst).1 hi
    rw [hcount] at hlt
    exact hnot ((mem_receivedChunks hst).2 (h.whole session hs hdone i hlt))

/-- A promotion that gets past its checks takes the chunks with it, whatever becomes of it after that. -/
theorem promoteTransfer_taken {now createdAt : Int} (hv : SessionValid sid session) (hactive : session.state = .active)
    (hp : Promotable cas now sid session s) (hclean : (s.transfer sid).manifest = none) :
    (storeEffects.applyAll (promoteTransfer cas now createdAt sid session s).effects s).transfer sid = .empty := by
  obtain ⟨hunexpired, hcurrent, ps, hps⟩ := hp
  have hassemble := @assemble_of_assembly cas now createdAt sid session s ps hv hactive hunexpired hcurrent hps
  obtain ⟨written, hwrite, -⟩ := @writeManifest_ok cas sid session s createdAt (Or.inl hclean)
  have hpromoted : (storeEffects.applyAll (promotion sid session.digest written) s).transfer sid = .empty := by
    have hlast : storeEffects.applyAll (promotion sid session.digest written) s =
        Effect.apply (.promote sid session.digest) (storeEffects.applyAll written s) :=
      Effects.applyAll_append storeEffects written _ s
    rw [hlast, transfer_promote, if_pos rfl]
  have hcases : (∃ e, promoteTransfer cas now createdAt sid session s = ⟨promotion sid session.digest written, .error e⟩) ∨
      ∃ c, promoteTransfer cas now createdAt sid session s =
        (settle sid session c (storeEffects.applyAll (promotion sid session.digest written) s)).after
          (promotion sid session.digest written) := by
    unfold promoteTransfer
    rw [hassemble]
    dsimp only
    rw [hwrite]
    dsimp only
    split
    · exact Or.inl ⟨_, rfl⟩
    · exact Or.inr ⟨_, rfl⟩
  rcases hcases with ⟨e, hcases⟩ | ⟨c, hcases⟩
  · rw [hcases]
    exact hpromoted
  · rw [hcases, applyAll_after]
    rcases @settle_cases sid session (storeEffects.applyAll (promotion sid session.digest written) s) c
      with ⟨e, heq⟩ | ⟨ix, -, -, heq⟩
    · rw [heq]
      exact hpromoted
    · rw [heq]
      exact hpromoted

/-- A session whose directory is gone: its status is not truthful. -/
theorem not_truthful_of_taken (h : Progress sid tr s) (hv : SessionValid sid session) {ps : List Bytes}
    (hps : Assembly cas sid session s ps) {e : Op × Reply} {session' : DurablePutSession}
    (hs' : AList.lookup sid t.index.sessions = some session') (hsame : SameContract session' session)
    (htaken : t.transfer sid = .empty) : ¬ Truthful sid (tr ++ [e]) t := by
  intro ht
  have hcount : 0 < session.chunkCount := hv.layout.count_pos
  obtain ⟨st, hst, hiff⟩ := status_ok (s := t) hv.id hs' (by rw [hsame.chunkCount]; exact hv.layout.count_lt)
  have hnone : 0 ∉ st.receivedChunks := by
    intro hmem
    have hfile := ((mem_receivedChunks hst).1 hmem).2
    rw [htaken] at hfile
    cases hfile
  cases hcomplete : st.complete with
  | true =>
    have hmissing := ht.complete st hst hcomplete
    obtain ⟨found, hfound, hcounts, -⟩ := status_session hst
    rw [hs'] at hfound
    cases hfound
    have hmem : 0 ∈ st.missingChunks := (mem_missingChunks hst).2 ⟨by rw [hcounts, hsame.chunkCount]; exact hcount, hnone⟩
    rw [show st.missingChunks = [] from hmissing] at hmem
    cases hmem
  | false =>
    have hlen : 0 < (chunkRowsOf sid s.index).length := by
      rw [hps.rows]
      exact hcount
    have hfirst := List.getElem?_eq_getElem hlen
    have hindex := hps.index 0 _ hfirst
    have hrow : (AList.lookup (sid, 0) s.index.chunks).isSome = true := by
      have hmem : ((chunkRowsOf sid s.index)[0].1, (chunkRowsOf sid s.index)[0].2) ∈ chunkRowsOf sid s.index :=
        List.getElem_mem hlen
      rw [hindex] at hmem
      exact Option.isSome_iff_exists.2 ⟨_, mem_chunkRowsOf.1 hmem⟩
    obtain ⟨p, hp⟩ := (h.recorded 0).1 hrow
    exact hnone ((ht.received st hst hcomplete 0).2 ⟨p, hp.append⟩)

/-- A session that was settled misses nothing, if the status then tells so. -/
theorem allReceived_of_settled (hv : SessionValid sid session) {artifact : ArtifactRefV1} {replicas : Nat} {ix : Index}
    (hindex : indexArtifactInTransaction artifact replicas s.index = .ok ix)
    (ht : Truthful sid tr (Effect.apply (.commit (completedIndex sid session ix)) s)) : AllReceived sid session s := by
  intro i hi
  have hfound : AList.lookup sid (completedIndex sid session ix).sessions = some { session with state := .complete } :=
    AList.lookup_insert _
  obtain ⟨st, hst, hiff⟩ := status_ok (s := Effect.apply (.commit (completedIndex sid session ix)) s) hv.id hfound
    hv.layout.count_lt
  -- the session is complete now, so a truthful status misses nothing
  have hmissing := ht.complete st hst (hiff.2 rfl)
  obtain ⟨found, hf, hcount, -⟩ := status_session hst
  rw [show AList.lookup sid (Effect.apply (.commit (completedIndex sid session ix)) s).index.sessions = _ from hfound] at hf
  cases hf
  have hreceived : i ∈ st.receivedChunks := by
    by_contra hnot
    have hmem := (mem_missingChunks hst).2 ⟨by rw [hcount]; exact hi, hnot⟩
    rw [show st.missingChunks = [] from hmissing] at hmem
    cases hmem
  obtain ⟨hrow, hfile⟩ := (mem_receivedChunks hst).1 hreceived
  refine ⟨?_, hfile⟩
  rw [← (indexArtifact_ok hindex).2.1]
  exact hrow

/-- Conversely, a call after which the status is truthful keeps the progress. -/
theorem keepsProgress_of_truthful (h : Progress sid tr s) {S : Set Bytes} (hix : IndexSound cas S s.index) (op : Op)
    {e : Op × Reply} (ht : Truthful sid (tr ++ [e]) (step cas op s).2) : KeepsProgress cas sid s op := by
  cases op with
  | commit now createdAt sid' =>
    rintro rfl session hs hactive
    have hv := hix.sessions _ _ hs
    -- the commit settles what verifies, or puts the transfer in its place
    have heq := @commit_eq cas sid' s session now createdAt hv hs
    obtain ⟨session', hs', hsame⟩ := @commit_keeps_contract cas sid' s session now createdAt hs
    change Truthful sid' (tr ++ [e]) (storeEffects.applyAll (commitResumablePut cas now createdAt sid' s).effects s) at ht
    refine ⟨?_, ?_⟩
    · rintro c hc ⟨hcontract, ix, hindex⟩ i hi
      rw [isSome_of_verifyObject hc, if_pos rfl, hc] at heq
      rw [heq] at ht
      dsimp only at ht
      rw [settle_of_ok hcontract hindex] at ht
      exact allReceived_of_settled hv hindex ht i hi
    · intro hreplaces hp
      obtain ⟨hunexpired, hcurrent, ps, hps⟩ := hp
      refine not_truthful_of_taken h hv hps hs' hsame ?_ ht
      unfold replaces at hreplaces
      rcases hdir : AList.lookup session.digest s.objects with _ | dir
      · rw [hdir, Option.isSome_none, if_neg Bool.false_ne_true] at heq
        rw [heq]
        exact promoteTransfer_taken hv hactive ⟨hunexpired, hcurrent, ps, hps⟩ h.clean
      · rw [hdir] at hreplaces heq
        dsimp only at hreplaces
        rw [Option.isSome_some, if_pos rfl] at heq
        cases hverify : verifyObject cas session.digest s with
        | ok c =>
          rw [hverify] at hreplaces
          cases hreplaces
        | error e' =>
          rw [hverify] at hreplaces heq
          dsimp only at hreplaces heq
          rw [if_pos hreplaces] at heq
          have htaken := @promoteTransfer_taken cas sid' (Effect.apply (.quarantine session.digest) s) session now createdAt hv
            hactive ⟨hunexpired, hcurrent, ps, ⟨hps.rows, hps.index, hps.opened, hps.digest, hps.size⟩⟩ h.clean
          rw [heq]
          exact (congrArg (fun t : Store => t.transfer sid') (applyAll_after [Effect.quarantine session.digest] _ s)).trans htaken
  | begin now spec => trivial
  | putChunk now nonce sid' i d p => trivial
  | acceptAuthority now scope epoch nonce expiresAt => trivial
  | put createdAt nonces plaintext options => trivial
  | restart => trivial

/-! ## Runs -/

/-- In every run the rows were made for their sessions. -/
theorem indexSound_exec (cas : CasStore) (ops : List Op) :
    Sound cas Set.univ ((machine cas).exec ops Store.empty) := by
  induction ops using List.reverseRecOn with
  | nil => exact sound_empty
  | append_singleton ops op ih =>
    rw [Machine.exec_append]
    exact sound_step ih op fun _ _ => Set.mem_univ _

theorem progress_run {ops : List Op} (hmeets : (machine cas).Meets (KeepsProgress cas sid) ops Store.empty) :
    Progress sid ((machine cas).trace ops Store.empty) ((machine cas).exec ops Store.empty) := by
  induction ops using List.reverseRecOn with
  | nil => exact progress_empty sid
  | append_singleton ops op ih =>
    obtain ⟨hbefore, hop, -⟩ := ((machine cas).meets_append _ ops [op] Store.empty).1 hmeets
    rw [Machine.exec_append, Machine.trace_append]
    exact progress_step (ih hbefore) (indexSound_exec cas ops).index op hop

/-- **What the transfer status tells.** In every state a run reaches, the two lists of a status ascend and part the chunks
of its session. They tell the sender what to send in every state of the run (of an active session the accepted chunks are
received, of a complete one none is missing) exactly if no commit of the run renames the chunks of the active session away
and none completes it on an object in place while chunks are missing. -/
theorem transfer_status_tells_what_to_send (cas : CasStore) (sid : String) (ops : List Op) :
    (∀ st, resumablePutStatus sid ((machine cas).exec ops Store.empty) = .ok st → Partitioned st) ∧
      ((∀ pre post, ops = pre ++ post →
          Truthful sid ((machine cas).trace pre Store.empty) ((machine cas).exec pre Store.empty)) ↔
        (machine cas).Meets (KeepsProgress cas sid) ops Store.empty) := by
  refine ⟨fun st hst => status_partitioned (indexSound_exec cas ops).index hst, ?_, ?_⟩
  · intro htruthful
    -- along the run: what was truthful so far kept the progress, so the next call is judged from an intact state
    suffices hall : ∀ pre post, ops = pre ++ post → (machine cas).Meets (KeepsProgress cas sid) pre Store.empty from
      hall ops [] (List.append_nil ops).symm
    intro pre
    induction pre using List.reverseRecOn with
    | nil => exact fun _ _ => trivial
    | append_singleton pre op ih =>
      intro post hops
      have hbefore := ih (op :: post) (by rw [hops, List.append_assoc, List.singleton_append])
      have hafter := htruthful (pre ++ [op]) post hops
      rw [Machine.exec_append, Machine.trace_append] at hafter
      exact ((machine cas).meets_append _ pre [op] Store.empty).2 ⟨hbefore,
        keepsProgress_of_truthful (progress_run hbefore) (indexSound_exec cas pre).index op hafter, trivial⟩
  · rintro hmeets pre post rfl
    exact (progress_run ((machine cas).meets_append _ pre post Store.empty |>.1 hmeets).1).truthful

/-- A transfer that was begun, sent and committed: the session is complete and both its chunks are to be sent again. -/
theorem committed_session_misses_its_chunks :
    (resumablePutStatus Scenario.session committed).toOption.map (fun st => (st.complete, chunksToSend st)) = some (true, [0, 1]) ∧
      ¬ ∀ ops : List Op, Truthful Scenario.session ((machine Scenario.cas).trace ops Store.empty) ((machine Scenario.cas).exec ops Store.empty) := by
  have hstatus : (resumablePutStatus Scenario.session committed).toOption.map (fun st => (st.complete, chunksToSend st)) =
      some (true, [0, 1]) := by decide +kernel
  refine ⟨hstatus, fun h => ?_⟩
  have htruthful := (h (sending 1 "n1" ++ [.commit 0 0 Scenario.session])).complete
  change ∀ st, resumablePutStatus Scenario.session committed = .ok st → _ at htruthful
  cases hst : resumablePutStatus Scenario.session committed with
  | error e =>
    rw [hst] at hstatus
    cases hstatus
  | ok st =>
    rw [hst] at hstatus
    have hpair : (st.complete, chunksToSend st) = (true, [0, 1]) := Option.some.inj hstatus
    have hsent : [0, 1] = [] := (congrArg Prod.snd hpair).symm.trans (htruthful st hst (congrArg Prod.fst hpair))
    cases hsent

end Rampage.Storage
