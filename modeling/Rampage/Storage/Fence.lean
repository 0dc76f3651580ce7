/-
The fence of an authority scope. An acceptance raises it to the epoch it is for, and no operation of the store
ever lowers it: every transaction that an operation commits has at least the fences of the index it found.
-/
import Rampage.Storage.Uploaded

namespace Rampage.Storage

open Rampage.Protocol

/-- Every fence of the first table is in the second, as high or higher. -/
def Raised (old new : Table String Nat) : Prop :=
  ∀ scope f, AList.lookup scope old = some f → ∃ f', AList.lookup scope new = some f' ∧ f ≤ f'

theorem Raised.refl (t : Table String Nat) : Raised t t := fun _ f h => ⟨f, h, Nat.le_refl f⟩

theorem Raised.trans {a b c : Table String Nat} (h : Raised a b) (h' : Raised b c) : Raised a c := by
  intro scope f hf
  obtain ⟨g, hg, hle⟩ := h scope f hf
  obtain ⟨k, hk, hle'⟩ := h' scope g hg
  exact ⟨k, hk, Nat.le_trans hle hle'⟩

/-- A transaction that the effect commits has at least the given fences. -/
def Effect.KeepsFences (fences : Table String Nat) : Effect → Prop
  | .commit ix => Raised fences ix.fences
  | _ => True

section

variable {cas : CasStore} {s : Store}

/-- Effects that keep the fences, one after the other. -/
theorem raised_applyAll {l : List Effect} {fences : Table String Nat} (h : Raised fences s.index.fences)
    (hl : ∀ e ∈ l, e.KeepsFences fences) : Raised fences (storeEffects.applyAll l s).index.fences := by
  refine (Effects.keep_of_forall (E := storeEffects) (I := fun s => Raised fences s.index.fences) ?_ hl s).applyAll h
  intro e s he hs
  cases e with
  | commit ix => exact ⟨he, fun _ => hs⟩
  | _ => exact ⟨hs, fun _ => hs⟩

/-- An acceptance raises the fence of its scope to its epoch. -/
theorem raised_accept {scope nonce : String} {epoch : Nat} {expiresAt nowMillis : Int} {ix ix' : Index}
    (h : acceptAuthorityInTransaction scope epoch nonce expiresAt nowMillis ix = .ok ix') :
    Raised ix.fences ix'.fences ∧ ∃ f, AList.lookup scope ix'.fences = some f ∧ epoch ≤ f := by
  obtain ⟨_, _, rfl⟩ := acceptAuthorityInTransaction_ok h
  constructor
  · intro scope' f hf
    show ∃ f', AList.lookup scope' (AList.insert scope _ ix.fences) = some f' ∧ f ≤ f'
    rw [Table.lookup_insert']
    split
    · rename_i heq
      subst heq
      refine ⟨_, rfl, ?_⟩
      rw [hf]
      show f ≤ max f epoch
      omega
    · exact ⟨f, hf, Nat.le_refl f⟩
  · refine ⟨max ((AList.lookup scope ix.fences).getD epoch) epoch, ?_, by omega⟩
    show AList.lookup scope (AList.insert scope _ ix.fences) = _
    rw [Table.lookup_insert', if_pos rfl]

/-! ## Every operation -/

theorem indexArtifact_fences {artifact : ArtifactRefV1} {replicas : Nat} {ix ix' : Index}
    (h : indexArtifactInTransaction artifact replicas ix = .ok ix') : ix'.fences = ix.fences := by
  unfold indexArtifactInTransaction at h
  split at h
  · cases h
    rfl
  · split at h
    · cases h
    · cases h
      rfl

theorem fences_begin {now : Int} {spec : ResumablePutSpec} :
    ∀ e ∈ (beginResumablePut cas now spec s).effects, e.KeepsFences s.index.fences := by
  have hcases := @begin_effects cas now spec s
  revert hcases
  generalize (beginResumablePut cas now spec s).effects = effects
  intro hcases
  cases hcases with
  | none =>
    intro e he
    cases he
  | unchanged =>
    intro e he
    rw [List.mem_singleton.1 he]
    trivial
  | accepted arrive accept row =>
    intro e he
    rcases List.mem_cons.1 he with rfl | he
    · exact (raised_accept accept).1
    · rw [List.mem_singleton.1 he]
      trivial

theorem fences_putChunk {now : Int} {nonce : Nonce} {sid : String} {i : Nat} {d : String} {p : Bytes} :
    ∀ e ∈ (putResumableChunk cas now nonce sid i d p s).effects, e.KeepsFences s.index.fences := by
  have hnone : ∀ {plan : Operation ResumablePutStatus}, plan.effects = [] →
      ∀ e ∈ plan.effects, Effect.KeepsFences s.index.fences e := by
    intro plan hplan e he
    rw [hplan] at he
    cases he
  rcases @putChunk_cases cas now s sid i d p nonce with ⟨e, heq⟩ | ⟨_, heq⟩ | ⟨session, size, _, hwhich⟩
  · rw [heq]
    exact hnone rfl
  · rw [heq]
    exact hnone rfl
  rcases hwhich with ⟨_, _, _, heq⟩ | ⟨_, heq⟩
  · rw [heq]
    exact hnone rfl
  · rw [heq]
    intro e he
    rcases mem_storeChunk he with rfl | rfl | rfl | rfl
    · trivial
    · trivial
    · trivial
    · exact Raised.refl _

theorem fences_commit {now createdAt : Int} {sid : String} :
    ∀ e ∈ (commitResumablePut cas now createdAt sid s).effects, e.KeepsFences s.index.fences := by
  intro e he
  obtain ⟨session, _, rfl | ⟨m, rfl⟩ | rfl | ⟨artifact, replicas, ix, hix, rfl⟩⟩ := mem_commit_effects he
  · trivial
  · trivial
  · trivial
  · show Raised s.index.fences ix.fences
    rw [indexArtifact_fences hix]
    exact Raised.refl _

theorem fences_put {createdAt : Int} {nonces : Nat → Nonce} {plaintext : Bytes} {options : PutOptions} :
    ∀ e ∈ (put cas createdAt nonces plaintext options s).effects, e.KeepsFences s.index.fences := by
  intro e he
  rcases mem_put_effects he with rfl | rfl | ⟨artifact, replicas, ix, hix, rfl⟩
  · trivial
  · trivial
  · show Raised s.index.fences ix.fences
    rw [indexArtifact_fences hix]
    exact Raised.refl _

/-- No call lowers a fence. -/
theorem raised_op (op : Op) : Raised s.index.fences (storeEffects.applyAll (op.effects cas s) s).index.fences := by
  refine raised_applyAll (Raised.refl _) ?_
  cases op with
  | begin now spec => exact fences_begin
  | putChunk now nonce sid i d p => exact fences_putChunk
  | commit now createdAt sid => exact fences_commit
  | acceptAuthority now scope epoch nonce expiresAt =>
    unfold Op.effects acceptAuthority
    dsimp only
    split
    · intro e he
      cases he
    split
    · intro e he
      cases he
    · rename_i ix hix
      intro e he
      rw [List.mem_singleton.1 he]
      exact (raised_accept hix).1
  | put createdAt nonces plaintext options => exact fences_put
  | restart =>
    intro e he
    cases he

/-! ## Stale authority -/

/-- The epoch is below the fence of the scope. -/
def isFenced (scope : String) (epoch : Nat) (s : Store) : Bool :=
  (AList.lookup scope s.index.fences).any (epoch < ·)

theorem ensureEpochIsCurrent_fenced {scope : String} {epoch : Nat} (h : isFenced scope epoch s = true) :
    ∃ e, ensureEpochIsCurrent scope epoch s.index = .error e := by
  unfold isFenced at h
  unfold ensureEpochIsCurrent
  cases hf : AList.lookup scope s.index.fences with
  | none =>
    rw [hf] at h
    cases h
  | some f =>
    rw [hf] at h
    simp only [Option.any_some, decide_eq_true_eq] at h
    exact ⟨_, if_pos h⟩

theorem accept_fenced {scope nonce : String} {epoch : Nat} {expiresAt nowMillis : Int} (h : isFenced scope epoch s = true) :
    ∃ e, acceptAuthorityInTransaction scope epoch nonce expiresAt nowMillis s.index = .error e := by
  obtain ⟨e, he⟩ := ensureEpochIsCurrent_fenced h
  unfold acceptAuthorityInTransaction
  rw [he]
  exact ⟨e, rfl⟩

theorem acceptAuthority_fenced {now : Int} {scope nonce : String} {epoch : Nat} {expiresAt : Int} (h : isFenced scope epoch s = true) :
    ∃ e, acceptAuthority now scope epoch nonce expiresAt s = .fail e := by
  unfold acceptAuthority
  split
  · exact ⟨_, rfl⟩
  split
  · exact ⟨_, rfl⟩
  · rename_i ix hix
    obtain ⟨e, he⟩ := @accept_fenced s scope nonce epoch (timestampMillis expiresAt) (timestampMillis now) h
    rw [he] at hix
    cases hix

/-- The session the request names is complete and has the request's contract. -/
def isCompleteFor (spec : ResumablePutSpec) (s : Store) : Bool :=
  match chunkCount spec.sizeBytes spec.chunkSize, AList.lookup spec.sessionId s.index.sessions with
  | .ok count, some existing => existing.state = .complete && (ensureSessionContract existing spec count).isOk
  | _, _ => false

/-- A session is begun or renewed under a stale epoch only where it is complete already. -/
theorem begin_fenced {now : Int} {spec : ResumablePutSpec} (h : isFenced spec.authorityScope spec.fencingEpoch s = true)
    (hc : isCompleteFor spec s = false) : ∃ e, beginResumablePut cas now spec s = .fail e := by
  unfold beginResumablePut
  split
  · exact ⟨_, rfl⟩
  rename_i count harrive
  cases hb : beginLocked cas now spec count s.index with
  | error e => exact ⟨e, rfl⟩
  | ok b =>
    exfalso
    rcases beginLocked_ok hb with ⟨existing, hex, hcontract, hstate, _⟩ | ⟨_, _, _, _, hcurrent, _⟩ | ⟨_, _, haccept, _⟩
    · have hcount : chunkCount spec.sizeBytes spec.chunkSize = .ok count := by
        unfold beginArrive at harrive
        split at harrive
        · cases harrive
        split at harrive
        · cases harrive
        split at harrive
        · cases harrive
        split at harrive
        · cases harrive
        split at harrive
        · cases harrive
        · exact harrive
      simp [isCompleteFor, hcount, hex, hstate, hcontract, Except.isOk, Except.toBool] at hc
    · obtain ⟨e, he⟩ := ensureEpochIsCurrent_fenced h
      rw [he] at hcurrent
      cases hcurrent
    · obtain ⟨e, he⟩ := @accept_fenced s spec.authorityScope spec.authorityNonce spec.fencingEpoch
        (timestampMillis spec.expiresAt) (timestampMillis now) h
      rw [he] at haccept
      cases haccept

end

end Rampage.Storage
