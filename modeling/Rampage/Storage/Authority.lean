/-
Single use of authority nonces under concurrency. A call reads the clock, checks the expiry, and then
waits for the index lock; under the lock it purges the nonces expired at its own reading and
consumes its nonce. Calls may take the lock in any order. `nonce_is_used_once` says that no pair of scope
and nonce is accepted twice, unless a replayed call takes the lock after a purge at or past its
expiry; `overtaken_replay_is_accepted` is the run where that happens.
-/
import Rampage.Lib.Machine
import Rampage.Storage.Scenario

namespace Rampage.Storage

/-! ## What an acceptance does -/

/-- The index after an acceptance. -/
def consumed (scope : String) (fencingEpoch : Nat) (nonce : String) (expiresAtMillis nowMillis : Int) (ix : Index) : Index :=
  { ix with
    nonces := AList.insert (scope, nonce) expiresAtMillis (Table.retain (fun _ expiry => nowMillis < expiry) ix.nonces)
    fences := AList.insert scope (max ((AList.lookup scope ix.fences).getD fencingEpoch) fencingEpoch) ix.fences }

section

variable {scope nonce : String} {fencingEpoch : Nat} {expiresAtMillis nowMillis : Int} {ix ix' : Index}

theorem ensureEpochIsCurrent_ok_iff : ensureEpochIsCurrent scope fencingEpoch ix = .ok () ↔
    ∀ current, AList.lookup scope ix.fences = some current → current ≤ fencingEpoch := by
  unfold ensureEpochIsCurrent
  cases h : AList.lookup scope ix.fences with
  | none => simp
  | some current =>
    simp only [Option.some.injEq, forall_eq']
    split
    · simp only [reduceCtorEq, false_iff]
      omega
    · simp only [true_iff]
      omega

/-- An accepted authority is of a current epoch and its nonce is not on record after the purge. -/
theorem acceptAuthorityInTransaction_ok
    (h : acceptAuthorityInTransaction scope fencingEpoch nonce expiresAtMillis nowMillis ix = .ok ix') :
    (∀ current, AList.lookup scope ix.fences = some current → current ≤ fencingEpoch) ∧
      AList.lookup (scope, nonce) (Table.retain (fun _ expiry => decide (nowMillis < expiry)) ix.nonces) = none ∧
      ix' = consumed scope fencingEpoch nonce expiresAtMillis nowMillis ix := by
  unfold acceptAuthorityInTransaction at h
  split at h
  · cases h
  rename_i hcurrent
  dsimp only at h
  split at h
  · cases h
  rename_i hfresh
  split at h
  · cases h
  rw [Option.not_isSome_iff_eq_none] at hfresh
  exact ⟨ensureEpochIsCurrent_ok_iff.1 hcurrent, hfresh, (Except.ok.inj h).symm⟩

end

/-! ## Calls that wait for the index lock -/

/-- A call that has read the clock and waits. -/
inductive Pending
  | accept (scope : String) (fencingEpoch : Nat) (nonce : String) (expiresAt now : Int)
  | begin (spec : ResumablePutSpec) (chunkCount : Nat) (now : Int)

/-- An authority that was accepted, with the clock reading its call used. -/
structure Accepted where
  scope : String
  nonce : String
  expiresAtMillis : Int
  nowMillis : Int
deriving DecidableEq

/-- The authority a call asks for, as it is recorded when it is accepted. -/
def Pending.authority : Pending → Accepted
  | .accept scope _ nonce expiresAt now => ⟨scope, nonce, timestampMillis expiresAt, timestampMillis now⟩
  | .begin spec _ now => ⟨spec.authorityScope, spec.authorityNonce, timestampMillis spec.expiresAt, timestampMillis now⟩

/-- The call opens a session. -/
def Pending.isBegin : Pending → Bool
  | .begin _ _ _ => true
  | .accept _ _ _ _ _ => false

/-- The index, the clock, the waiting calls, and the record of what was accepted. -/
structure Intake where
  index : Index
  clock : Int
  pending : List Pending
  accepted : List Accepted

/-- What can happen next. A call that arrives reads the clock after some time has passed. -/
inductive Move
  | accept (elapsed : Nat) (scope : String) (fencingEpoch : Nat) (nonce : String) (expiresAt : Int)
  | begin (elapsed : Nat) (spec : ResumablePutSpec)
  | lock (i : Nat)
  | restart

section

variable (cas : CasStore)

/-- The transaction of a waiting call: the new index if it accepts an authority. -/
def Pending.run (ix : Index) : Pending → Except StorageError (Option Index)
  | .accept scope fencingEpoch nonce expiresAt now =>
    (acceptAuthorityInTransaction scope fencingEpoch nonce (timestampMillis expiresAt) (timestampMillis now) ix).map some
  | .begin spec count now =>
    match beginLocked cas now spec count ix with
    | .error e => .error e
    | .ok (.accepted ix) => .ok (some ix)
    | .ok _ => .ok none

/-- A call comes in and checks the clock, or one that waits gets the lock. -/
def intakeStep : Move → Intake → Option (Except StorageError Unit) × Intake
  | .accept elapsed scope fencingEpoch nonce expiresAt, g =>
    let now := g.clock + elapsed
    match acceptAuthorityArrive scope nonce expiresAt now with
    | .error e => (some (.error e), { g with clock := now })
    | .ok () => (none, { g with clock := now, pending := g.pending ++ [.accept scope fencingEpoch nonce expiresAt now] })
  | .begin elapsed spec, g =>
    -- `begin_resumable_put` holds the mutation lock from before it reads the clock
    if g.pending.any Pending.isBegin then (none, g)
    else
      let now := g.clock + elapsed
      match beginArrive now spec with
      | .error e => (some (.error e), { g with clock := now })
      | .ok count => (none, { g with clock := now, pending := g.pending ++ [.begin spec count now] })
  | .lock i, g =>
    match g.pending[i]? with
    | none => (none, g)
    | some p =>
      match p.run cas g.index with
      | .error e => (some (.error e), { g with pending := g.pending.eraseIdx i })
      | .ok none => (some (.ok ()), { g with pending := g.pending.eraseIdx i })
      | .ok (some ix) =>
        (some (.ok ()), { g with index := ix, pending := g.pending.eraseIdx i, accepted := g.accepted ++ [p.authority] })
  | .restart, g => (none, { g with pending := [] })

/-- The store's intake of leases. -/
def intakeMachine : Machine Intake Move (Option (Except StorageError Unit)) := ⟨intakeStep cas⟩

end

/-- A store on which nothing was accepted yet. -/
def Intake.initial (index : Index) (clock : Int) : Intake := ⟨index, clock, [], []⟩

/-! ## The condition -/

/-- The pair was accepted, and since then an authority was accepted at a reading at or past `expiry`. -/
def overtaken (scope nonce : String) (expiry : Int) : List Accepted → Bool
  | [] => false
  | a :: rest =>
    (a.scope == scope && a.nonce == nonce && rest.any fun b => expiry ≤ b.nowMillis) || overtaken scope nonce expiry rest

/-- No replayed call takes the index lock after a purge at or past its expiry. -/
def isNotOvertaken (g : Intake) : Move → Bool
  | .lock i =>
    !(g.pending[i]?.any fun p => overtaken p.authority.scope p.authority.nonce p.authority.expiresAtMillis g.accepted)
  | _ => true

/-- The expiry with which a move brings in a call for the pair. -/
def Move.expiryFor (scope nonce : String) : Move → Option Int
  | .accept _ s _ n expiresAt => if s = scope ∧ n = nonce then some (timestampMillis expiresAt) else none
  | .begin _ spec => if spec.authorityScope = scope ∧ spec.authorityNonce = nonce then some (timestampMillis spec.expiresAt) else none
  | _ => none

theorem overtaken_append_of_overtaken {scope nonce : String} {expiry : Int} {l : List Accepted} (a : Accepted)
    (h : overtaken scope nonce expiry l = true) : overtaken scope nonce expiry (l ++ [a]) = true := by
  induction l with
  | nil => cases h
  | cons b l ih =>
    simp only [overtaken, List.cons_append, List.any_append, Bool.or_eq_true, Bool.and_eq_true] at h ⊢
    rcases h with ⟨hb, hany⟩ | h
    · exact Or.inl ⟨hb, Or.inl hany⟩
    · exact Or.inr (ih h)

theorem overtaken_append_of_mem {scope nonce : String} {expiry : Int} {l : List Accepted} {a b : Accepted}
    (hb : b ∈ l) (hs : b.scope = scope) (hn : b.nonce = nonce) (ha : expiry ≤ a.nowMillis) :
    overtaken scope nonce expiry (l ++ [a]) = true := by
  induction l with
  | nil => cases hb
  | cons c l ih =>
    simp only [overtaken, List.cons_append, List.any_append, Bool.or_eq_true, Bool.and_eq_true]
    rcases List.mem_cons.1 hb with rfl | hb
    · refine Or.inl ⟨by simp [hs, hn], Or.inr ?_⟩
      simpa using ha
    · exact Or.inr (ih hb)

/-! ## The invariant -/

/-- The accepted authorities for a pair. -/
def acceptedFor (scope nonce : String) (l : List Accepted) : List Accepted :=
  l.filter fun a => a.scope == scope && a.nonce == nonce

theorem mem_acceptedFor {scope nonce : String} {l : List Accepted} {a : Accepted} :
    a ∈ acceptedFor scope nonce l ↔ a ∈ l ∧ a.scope = scope ∧ a.nonce = nonce := by
  simp [acceptedFor]

/-- For a pair whose calls all carry one expiry: the waiting calls were not expired when they read the clock, the
pair was accepted at most once, and if it was, its nonce is on record or a later acceptance has purged it. -/
structure SingleUse (scope nonce : String) (expiry : Int) (g : Intake) : Prop where
  pending : ∀ p ∈ g.pending, p.authority.nowMillis < p.authority.expiresAtMillis ∧
    (p.authority.scope = scope → p.authority.nonce = nonce → p.authority.expiresAtMillis = expiry)
  once : (acceptedFor scope nonce g.accepted).length ≤ 1
  recorded : acceptedFor scope nonce g.accepted ≠ [] →
    AList.lookup (scope, nonce) g.index.nonces = some expiry ∨ overtaken scope nonce expiry g.accepted = true

section

variable {cas : CasStore} {scope nonce : String} {expiry : Int}

/-- The transaction of a waiting call that accepts: its nonce was not on record, and is now. -/
theorem Pending.run_accepts {p : Pending} {ix ix' : Index} (h : p.run cas ix = .ok (some ix')) :
    AList.lookup (p.authority.scope, p.authority.nonce)
        (Table.retain (fun _ e => decide (p.authority.nowMillis < e)) ix.nonces) = none ∧
      ix'.nonces = AList.insert (p.authority.scope, p.authority.nonce) p.authority.expiresAtMillis
        (Table.retain (fun _ e => decide (p.authority.nowMillis < e)) ix.nonces) := by
  have accepts : ∀ {sc : String} {ep : Nat} {n : String} {ex now : Int} {t : Index},
      acceptAuthorityInTransaction sc ep n ex now ix = .ok t →
      AList.lookup (sc, n) (Table.retain (fun _ e => decide (now < e)) ix.nonces) = none ∧
        t.nonces = AList.insert (sc, n) ex (Table.retain (fun _ e => decide (now < e)) ix.nonces) := by
    intro sc ep n ex now t ht
    obtain ⟨_, hfresh, rfl⟩ := acceptAuthorityInTransaction_ok ht
    exact ⟨hfresh, rfl⟩
  cases p with
  | accept sc ep n ex now =>
    simp only [Pending.run, Except.map] at h
    split at h
    · cases h
    rename_i t ht
    cases h
    exact accepts ht
  | begin spec count now =>
    simp only [Pending.run] at h
    split at h
    · cases h
    · rename_i t ht
      cases h
      -- the session is renewed or new; the nonces are those of the acceptance
      rcases beginLocked_ok ht with ⟨_, _, _, _, hb⟩ | ⟨_, _, _, _, _, _, hb⟩ | ⟨_, taken, ha, hb, _⟩
      · cases hb
      · cases hb
      · cases hb
        exact ⟨(accepts ha).1, (accepts ha).2⟩
    · cases h

/-- What a call that arrives has checked. -/
theorem beginArrive_unexpired {now : Int} {spec : ResumablePutSpec} {count : Nat} (h : beginArrive now spec = .ok count) :
    timestampMillis now < timestampMillis spec.expiresAt := by
  unfold beginArrive at h
  split at h
  · cases h
  split at h
  · cases h
  split at h
  · cases h
  · rename_i hx
    exact not_le.1 hx

theorem acceptAuthorityArrive_unexpired {now expiresAt : Int} {sc n : String}
    (h : acceptAuthorityArrive sc n expiresAt now = .ok ()) : timestampMillis now < timestampMillis expiresAt := by
  unfold acceptAuthorityArrive at h
  split at h
  · cases h
  split at h
  · cases h
  · rename_i hx
    exact not_le.1 hx

/-- Calls that arrive or leave keep the invariant if those that wait are as it says. -/
theorem SingleUse.pending_of {g : Intake} (h : SingleUse scope nonce expiry g) {clock : Int} {l : List Pending}
    (hl : ∀ p ∈ l, p ∈ g.pending ∨ (p.authority.nowMillis < p.authority.expiresAtMillis ∧
      (p.authority.scope = scope → p.authority.nonce = nonce → p.authority.expiresAtMillis = expiry))) :
    SingleUse scope nonce expiry { g with clock := clock, pending := l } := by
  refine ⟨?_, h.once, h.recorded⟩
  intro p hp
  rcases hl p hp with hin | hnew
  · exact h.pending p hin
  · exact hnew

theorem SingleUse.arrive {g : Intake} (h : SingleUse scope nonce expiry g) {clock : Int} {p : Pending}
    (hnow : p.authority.nowMillis < p.authority.expiresAtMillis)
    (hfix : p.authority.scope = scope → p.authority.nonce = nonce → p.authority.expiresAtMillis = expiry) :
    SingleUse scope nonce expiry { g with clock := clock, pending := g.pending ++ [p] } := by
  refine h.pending_of fun q hq => ?_
  rcases List.mem_append.1 hq with hq | hq
  · exact Or.inl hq
  · rw [List.mem_singleton.1 hq]
    exact Or.inr ⟨hnow, hfix⟩

/-- A call that accepts the pair itself, if it was not overtaken: the pair was not accepted before. -/
theorem SingleUse.accept_same {g : Intake} (h : SingleUse scope nonce expiry g) {i : Nat} {p : Pending} {ix : Index}
    (hp : g.pending[i]? = some p) (hr : p.run cas g.index = .ok (some ix))
    (hc : overtaken p.authority.scope p.authority.nonce p.authority.expiresAtMillis g.accepted = false)
    (hpair : p.authority.scope = scope ∧ p.authority.nonce = nonce) :
    SingleUse scope nonce expiry
      { g with index := ix, pending := g.pending.eraseIdx i, accepted := g.accepted ++ [p.authority] } := by
  obtain ⟨rfl, rfl⟩ := hpair
  obtain ⟨hfresh, hnonces⟩ := Pending.run_accepts hr
  obtain ⟨hnow, hfix⟩ := h.pending p (List.mem_of_getElem? hp)
  have hexp := hfix rfl rfl
  have hnone : acceptedFor p.authority.scope p.authority.nonce g.accepted = [] := by
    by_contra hne
    rcases h.recorded hne with hrow | hover
    · rw [Table.lookup_retain, hrow] at hfresh
      have : ¬ p.authority.nowMillis < expiry := by simpa using hfresh
      omega
    · rw [hexp, hover] at hc
      cases hc
  have happ : acceptedFor p.authority.scope p.authority.nonce (g.accepted ++ [p.authority]) = [p.authority] := by
    rw [acceptedFor, List.filter_append]
    show acceptedFor _ _ _ ++ _ = _
    rw [hnone]
    simp
  refine ⟨fun q hq => h.pending q (List.mem_of_mem_eraseIdx hq), ?_, ?_⟩
  · show (acceptedFor _ _ (g.accepted ++ [p.authority])).length ≤ 1
    rw [happ]
    exact le_refl 1
  · intro _
    left
    show AList.lookup _ ix.nonces = _
    rw [hnonces, Table.lookup_insert', if_pos rfl, hexp]

/-- A call that accepts another pair says nothing of this one, though it may purge its nonce. -/
theorem SingleUse.accept_other {g : Intake} (h : SingleUse scope nonce expiry g) {i : Nat} {p : Pending} {ix : Index}
    (hr : p.run cas g.index = .ok (some ix)) (hpair : ¬ (p.authority.scope = scope ∧ p.authority.nonce = nonce)) :
    SingleUse scope nonce expiry
      { g with index := ix, pending := g.pending.eraseIdx i, accepted := g.accepted ++ [p.authority] } := by
  obtain ⟨-, hnonces⟩ := Pending.run_accepts hr
  have hsame : acceptedFor scope nonce (g.accepted ++ [p.authority]) = acceptedFor scope nonce g.accepted := by
    rw [acceptedFor, List.filter_append]
    have : [p.authority].filter (fun a => a.scope == scope && a.nonce == nonce) = [] := by
      rw [List.filter_eq_nil_iff]
      intro a ha
      rw [List.mem_singleton.1 ha]
      simpa using hpair
    rw [this, List.append_nil]
    rfl
  refine ⟨fun q hq => h.pending q (List.mem_of_mem_eraseIdx hq), ?_, ?_⟩
  · show (acceptedFor scope nonce (g.accepted ++ [p.authority])).length ≤ 1
    rw [hsame]
    exact h.once
  · intro hne
    have hne' : acceptedFor scope nonce g.accepted ≠ [] := by
      rw [← hsame]
      exact hne
    rcases h.recorded hne' with hrow | hover
    · have hkey : ((scope, nonce) : String × String) ≠ (p.authority.scope, p.authority.nonce) := by
        intro heq
        exact hpair ⟨(congrArg Prod.fst heq).symm, (congrArg Prod.snd heq).symm⟩
      by_cases hlive : p.authority.nowMillis < expiry
      · left
        show AList.lookup _ ix.nonces = _
        rw [hnonces, Table.lookup_insert', if_neg hkey, Table.lookup_retain, hrow]
        simp [hlive]
      · -- this acceptance purges the nonce
        right
        obtain ⟨a, ha⟩ := List.exists_mem_of_ne_nil _ hne'
        obtain ⟨hmem, hs, hn⟩ := mem_acceptedFor.1 ha
        exact overtaken_append_of_mem hmem hs hn (not_lt.1 hlive)
    · right
      exact overtaken_append_of_overtaken _ hover

/-- A call that accepts keeps the invariant, if it was not overtaken. -/
theorem SingleUse.accept {g : Intake} (h : SingleUse scope nonce expiry g) {i : Nat} {p : Pending} {ix : Index}
    (hp : g.pending[i]? = some p) (hr : p.run cas g.index = .ok (some ix))
    (hc : overtaken p.authority.scope p.authority.nonce p.authority.expiresAtMillis g.accepted = false) :
    SingleUse scope nonce expiry
      { g with index := ix, pending := g.pending.eraseIdx i, accepted := g.accepted ++ [p.authority] } := by
  by_cases hpair : p.authority.scope = scope ∧ p.authority.nonce = nonce
  · exact h.accept_same hp hr hc hpair
  · exact h.accept_other hr hpair

/-- Every move that meets the condition keeps the invariant. -/
theorem singleUse_step {g : Intake} {m : Move} (h : SingleUse scope nonce expiry g)
    (hfix : ∀ e, m.expiryFor scope nonce = some e → e = expiry) (hc : isNotOvertaken g m = true) :
    SingleUse scope nonce expiry (intakeStep cas m g).2 := by
  cases m with
  | accept elapsed sc ep n expiresAt =>
    simp only [intakeStep]
    split
    · exact h.pending_of fun p hp => Or.inl hp
    · rename_i harrive
      refine h.arrive (acceptAuthorityArrive_unexpired harrive) ?_
      rintro rfl rfl
      exact hfix _ (by simp [Move.expiryFor, Pending.authority])
  | begin elapsed spec =>
    simp only [intakeStep]
    split
    · exact h
    split
    · exact h.pending_of fun p hp => Or.inl hp
    · rename_i harrive
      refine h.arrive (beginArrive_unexpired harrive) ?_
      rintro rfl rfl
      exact hfix _ (by simp [Move.expiryFor, Pending.authority])
  | lock i =>
    simp only [intakeStep]
    split
    · exact h
    · rename_i p hp
      split
      · exact h.pending_of fun q hq => Or.inl (List.mem_of_mem_eraseIdx hq)
      · exact h.pending_of fun q hq => Or.inl (List.mem_of_mem_eraseIdx hq)
      · rename_i ix hr
        refine h.accept hp hr ?_
        simpa [isNotOvertaken, hp] using hc
  | restart => exact h.pending_of fun p hp => by cases hp

end

/-- In every interleaving of calls on one store, restarts included, in which no replayed call takes the index lock
after a purge at or past its expiry, a pair of scope and nonce whose calls carry one expiry is accepted at most
once. -/
theorem nonce_is_used_once (cas : CasStore) (index : Index) (clock : Int) (moves : List Move) (scope nonce : String)
    (expiry : Int) (hfix : ∀ m ∈ moves, ∀ e, m.expiryFor scope nonce = some e → e = expiry)
    (hm : (intakeMachine cas).Meets (fun g m => isNotOvertaken g m = true) moves (Intake.initial index clock)) :
    (acceptedFor scope nonce ((intakeMachine cas).exec moves (Intake.initial index clock)).accepted).length ≤ 1 := by
  have hinit : SingleUse scope nonce expiry (Intake.initial index clock) := by
    refine ⟨?_, ?_, ?_⟩
    · intro p hp
      cases hp
    · exact Nat.zero_le 1
    · intro hne
      exact absurd rfl hne
  have hrun : ∀ moves g, (∀ m ∈ moves, ∀ e, m.expiryFor scope nonce = some e → e = expiry) →
      SingleUse scope nonce expiry g → (intakeMachine cas).Meets (fun g m => isNotOvertaken g m = true) moves g →
      SingleUse scope nonce expiry ((intakeMachine cas).exec moves g) := by
    intro moves
    induction moves with
    | nil => exact fun g _ hg _ => hg
    | cons m moves ih =>
      intro g hf hg hmeets
      refine ih _ (fun m' hm' => hf m' (List.mem_cons_of_mem _ hm')) ?_ hmeets.2
      exact singleUse_step hg (hf m (List.mem_cons_self ..)) hmeets.1
  exact (hrun moves _ hfix hinit hm).once

/-! ## Two interleavings -/

section

open Scenario

/-- An authority is accepted; its replay takes the lock before its expiry has passed and is refused. -/
def replayInTime : List Move :=
  [.accept 0 "governor" 1 "n" (millis 100), .lock 0, .accept 50000000 "governor" 1 "n" (millis 100),
    .begin 0 (spec 1 "n1" (millis 300)), .lock 1, .lock 0]

theorem nonce_is_used_once_in_time :
    (acceptedFor "governor" "n"
        ((intakeMachine cas).exec replayInTime (Intake.initial Store.empty.index 0)).accepted).length ≤ 1 ∧
      ((intakeMachine cas).exec replayInTime (Intake.initial Store.empty.index 0)).accepted.length = 2 := by
  refine ⟨?_, by decide +kernel⟩
  refine nonce_is_used_once cas Store.empty.index 0 replayInTime "governor" "n" 100 ?_ (by decide +kernel)
  intro m hm e he
  simp only [replayInTime, List.mem_cons, List.not_mem_nil, or_false] at hm
  rcases hm with rfl | rfl | rfl | rfl | rfl | rfl
  all_goals
    revert he
    simp [Move.expiryFor, timestampMillis, millis, spec]
  all_goals omega

/-- The replay reads the clock before the expiry and waits; another call reads it after the expiry, takes the
lock first and purges the nonce. -/
def replayOvertaken : List Move :=
  [.accept 0 "governor" 1 "n" (millis 100), .lock 0, .accept 50000000 "governor" 1 "n" (millis 100),
    .accept 60000000 "governor" 1 "other" (millis 300), .lock 1, .lock 0]

/-- Then the replay is accepted: the nonce is used twice. -/
theorem overtaken_replay_is_accepted :
    (∀ m ∈ replayOvertaken, ∀ e, m.expiryFor "governor" "n" = some e → e = 100) ∧
      (acceptedFor "governor" "n"
        ((intakeMachine cas).exec replayOvertaken (Intake.initial Store.empty.index 0)).accepted).length = 2 := by
  refine ⟨?_, by decide +kernel⟩
  intro m hm e he
  simp only [replayOvertaken, List.mem_cons, List.not_mem_nil, or_false] at hm
  rcases hm with rfl | rfl | rfl | rfl | rfl | rfl
  all_goals
    revert he
    simp [Move.expiryFor, timestampMillis, millis]
  all_goals omega

end

end Rampage.Storage
