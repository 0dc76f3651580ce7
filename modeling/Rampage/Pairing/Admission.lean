/-
Admission of nearby requests. The owner keeps at most sixteen of them, admits at most five from one address in any minute of its
clock, and lets each expire by that clock alone (`admission_is_bounded`). A request that is repeated is not admitted again; one
that has expired is. The events come in the order of their clocks, each with its lock taken when the clock is read.
-/
import Rampage.Lib.Window
import Rampage.Pairing.Forward

namespace Rampage.Pairing

open Window

/-! ## Admissions -/

/-- A request that was new to the owner, its address, and the owner's clock. -/
structure Admission where
  requestId : String
  ip : Nat
  time : Nat
deriving DecidableEq

/-- The readings of the owner's clock that come with an event. -/
def OwnerEvent.readings : OwnerEvent → List Nat
  | .openWindow _ _ now later => [now, later]
  | .window now => [now]
  | .deactivate => []
  | .approve now _ _ _ _ => [now]
  | .reject _ _ => []
  | .receive now _ _ _ _ => [now]

/-- The datagram with other timestamps. -/
def PairingDatagram.withoutTimes : PairingDatagram → PairingDatagram
  | .hello schema requestId deviceName deviceKind publicKey _ _ =>
    .hello schema requestId deviceName deviceKind publicKey 0 0
  | .challenge schema requestId ownerName publicKey _ => .challenge schema requestId ownerName publicKey 0
  | d => d

/-- The event without the times a datagram claims for itself. -/
def OwnerEvent.withoutTimes : OwnerEvent → OwnerEvent
  | .receive now source d sourceIsLocal secret => .receive now source (d.map PairingDatagram.withoutTimes) sourceIsLocal secret
  | e => e

section

variable (c : Crates)

/-- The request an event admits: it was not pending when the expired ones were gone, and it is now. -/
def Owner.admission (e : OwnerEvent) (o : Owner) : Option Admission :=
  match e with
  | .receive now source (some (.hello _ requestId _ _ _ _ _)) _ _ =>
    if (AList.lookup requestId (o.cleared e).pending).isNone && (AList.lookup requestId (o.step c e).2.pending).isSome then
      some ⟨requestId, source.ip, now⟩
    else none
  | _ => none

/-- The admissions of a run. -/
def admissions : List OwnerEvent → Owner → List Admission
  | [], _ => []
  | e :: events, o => (o.admission c e).toList ++ admissions events (o.step c e).2

end

/-- When requests from an address were admitted. -/
def timesOf (ip : Nat) (l : List Admission) : List Nat := (l.filter fun a => a.ip == ip).map (·.time)

/-- The last time a request was admitted. -/
def lastAdmission (requestId : String) (l : List Admission) : Option Admission :=
  (l.filter fun a => a.requestId == requestId).getLast?

/-- The attempts that are remembered of an address. -/
def Owner.queue (ip : Nat) (o : Owner) : List Nat := (AList.lookup ip o.attempts).getD []

/-! ## Timestamps -/

section

variable {c : Crates}

theorem step_withoutTimes (e : OwnerEvent) (o : Owner) : o.step c e.withoutTimes = o.step c e := by
  cases e with
  | receive now source d sourceIsLocal secret =>
    cases d with
    | none => rfl
    | some d => cases d <;> rfl
  | _ => rfl

theorem admission_withoutTimes (e : OwnerEvent) (o : Owner) : o.admission c e.withoutTimes = o.admission c e := by
  cases e with
  | receive now source d sourceIsLocal secret =>
    cases d with
    | none => rfl
    | some d => cases d <;> rfl
  | _ => rfl

theorem exec_withoutTimes (events : List OwnerEvent) (o : Owner) :
    (ownerMachine c).exec (events.map OwnerEvent.withoutTimes) o = (ownerMachine c).exec events o := by
  induction events generalizing o with
  | nil => rfl
  | cons e events ih =>
    show (ownerMachine c).exec (events.map OwnerEvent.withoutTimes) (o.step c e.withoutTimes).2 = _
    rw [step_withoutTimes]
    exact ih _

theorem admissions_withoutTimes (events : List OwnerEvent) (o : Owner) :
    admissions c (events.map OwnerEvent.withoutTimes) o = admissions c events o := by
  induction events generalizing o with
  | nil => rfl
  | cons e events ih => rw [List.map_cons, admissions, admissions, step_withoutTimes, admission_withoutTimes, ih]

end

/-! ## What an event can do to the admissions -/

section

variable {c : Crates} {now : Nat} {source : SocketAddr} {o : Owner} {r : String}

theorem queue_prune (ip : Nat) : (pruneOwnerState now o).queue ip = recentAttempts now (o.queue ip) := by
  unfold Owner.queue pruneOwnerState
  dsimp only
  rw [Table.lookup_retain, Table.lookup_mapValues]
  cases AList.lookup ip o.attempts with
  | none => rfl
  | some l =>
    rw [Option.map_some, Option.filter_some, Option.getD_some]
    cases hrecent : recentAttempts now l <;> simp

theorem length_prune_le : (pruneOwnerState now o).pending.entries.length ≤ o.pending.entries.length := by
  unfold pruneOwnerState
  dsimp only
  split
  · exact Nat.zero_le _
  · exact Table.length_retain_le ..

/-- An attempt from an address changes what is remembered of this address only. -/
theorem queue_admission (attempts : Table Nat (List Nat)) (source now ip : Nat) :
    ((AList.lookup ip (admitSourceAttempt attempts source now).2).getD []) =
      if ip = source then
        recentAttempts now ((AList.lookup ip attempts).getD []) ++ if (admitSourceAttempt attempts source now).1 then [now] else []
      else (AList.lookup ip attempts).getD [] := by
  unfold admitSourceAttempt
  dsimp only
  by_cases hip : ip = source
  · subst hip
    split <;> simp
  · rw [if_neg hip]
    split <;> rw [Table.lookup_insert', if_neg hip]

/-- What a request can do to the owner once the expired ones are gone. -/
inductive Takes (now source : Nat) (r : String) (o : Owner) : Owner → Prop
  /-- It is refused. -/
  | refused : Takes now source r o o
  /-- It is known. -/
  | repeated {p p' : PendingPair} (hp : AList.lookup r o.pending = some p) (hexpires : p'.expiresAtMs = p.expiresAtMs) :
      Takes now source r o { o with pending := AList.insert r p' o.pending }
  /-- It is one too many of its address, or there is no randomness for it. -/
  | attempted : Takes now source r o { o with attempts := (admitSourceAttempt o.attempts source now).2 }
  | admitted {p : PendingPair} (hnone : AList.lookup r o.pending = none) (hopen : now < o.openUntilMs)
      (hroom : o.pending.entries.length < maxPendingRequests)
      (hadmitted : (admitSourceAttempt o.attempts source now).1 = true)
      (hexpires : p.expiresAtMs = min (U64.satAdd now workerWaitMs) o.openUntilMs) :
      Takes now source r o { o with
        attempts := (admitSourceAttempt o.attempts source now).2
        pending := AList.insert r p o.pending
        attentionActive := true }

theorem takes_receive {schema deviceName deviceKind publicKey : String} {issuedAtMs expiresAtMs : Nat} {sourceIsLocal : Bool}
    {secret : Option Bytes} {e : OwnerEvent}
    (he : e = .receive now source (some (.hello schema r deviceName deviceKind publicKey issuedAtMs expiresAtMs)) sourceIsLocal
      secret) :
    (o.cleared e = o ∨ o.cleared e = pruneOwnerState now o) ∧ Takes now source.ip r (o.cleared e) (o.step c e).2 := by
  have hcleared : o.cleared e = if schema ≠ pairingSchema || !validRequestId r || !(boundedLabel deviceName "device name").isOk ||
      deviceKind ≠ "desktop" || sourceIsLocal || (decode32 publicKey).isNone then o else pruneOwnerState now o := by
    rw [he]
    rfl
  have hstep : (o.step c e).2 =
      (o.receiveHello c now source schema r deviceName deviceKind publicKey sourceIsLocal secret).2 := by
    rw [he]
    rfl
  rw [hstep]
  unfold Owner.receiveHello
  split
  · rename_i hbad
    rw [if_pos (by rw [Bool.or_eq_true]; exact Or.inl hbad)] at hcleared
    rw [hcleared]
    exact ⟨Or.inl rfl, .refused⟩
  rename_i hgood
  split
  · rename_i hkey
    rw [if_pos (by rw [hkey]; simp)] at hcleared
    rw [hcleared]
    exact ⟨Or.inl rfl, .refused⟩
  rename_i peerPublic hkey
  -- from here on the owner has pruned what has ended
  have hpruned : o.cleared e = pruneOwnerState now o := by
    rw [hcleared, if_neg]
    rw [hkey, Option.isNone_some, Bool.or_false]
    exact hgood
  rw [hpruned]
  refine ⟨Or.inr rfl, ?_⟩
  dsimp only
  split
  · exact .refused
  rename_i hopen
  split
  · rename_i existing hexisting
    split
    · exact .refused
    · exact .repeated hexisting rfl
  rename_i hnone
  split
  · exact .refused
  rename_i hroom
  split
  · exact .attempted
  rename_i hadmitted
  split
  · exact .attempted
  · refine .admitted hnone (Nat.lt_of_not_le hopen) (Nat.lt_of_not_le hroom) ?_ rfl
    simpa using hadmitted

end

/-! ## The invariant -/

/-- The owner at a reading of its clock, after these admissions. -/
structure Bounded (clock : Nat) (l : List Admission) (o : Owner) : Prop where
  room : o.pending.entries.length ≤ maxPendingRequests
  opens : o.openUntilMs ≤ U64.satAdd clock pairingWindowMs
  spread : ∀ ip, Spread 60000 maxNewRequestsPerIpPerMinute (timesOf ip l)
  /-- What still counts is remembered; at the last reading of all nothing is admitted any more. -/
  remembered : clock < U64.max → ∀ ip, (counting 60000 clock (timesOf ip l)).Sublist (o.queue ip)
  window : ∀ r p, AList.lookup r o.pending = some p → p.expiresAtMs ≤ o.openUntilMs
  lifetime : ∀ r p, AList.lookup r o.pending = some p →
    ∃ a, lastAdmission r l = some a ∧ p.expiresAtMs ≤ a.time + workerWaitMs

theorem bounded_new : Bounded 0 [] Owner.new := by
  constructor
  · exact Nat.zero_le _
  · exact Nat.zero_le _
  · exact fun ip => spread_nil
  · exact fun _ ip => List.Sublist.refl _
  · simp [Owner.new]
  · simp [Owner.new]

section

variable {clock now : Nat} {l : List Admission} {o : Owner}

theorem satAdd_le_satAdd {a b n : Nat} (h : a ≤ b) : U64.satAdd a n ≤ U64.satAdd b n := by
  show min (a + n) U64.max ≤ min (b + n) U64.max
  omega

theorem Bounded.later (h : Bounded clock l o) (hle : clock ≤ now) : Bounded now l o where
  room := h.room
  opens := Nat.le_trans h.opens (satAdd_le_satAdd hle)
  spread := h.spread
  remembered := fun hmax ip =>
    (counting_sublist hle (h.remembered (Nat.lt_of_le_of_lt hle hmax) ip)).trans List.filter_sublist
  window := h.window
  lifetime := h.lifetime

/-- Requests that go, or are changed but for their expiry. -/
theorem Bounded.withPending (h : Bounded clock l o) {pending : Table String PendingPair}
    (hlen : pending.entries.length ≤ o.pending.entries.length)
    (hsub : ∀ r p', AList.lookup r pending = some p' → ∃ p, AList.lookup r o.pending = some p ∧ p'.expiresAtMs = p.expiresAtMs) :
    Bounded clock l { o with pending := pending } where
  room := Nat.le_trans hlen h.room
  opens := h.opens
  spread := h.spread
  remembered := h.remembered
  window := fun r p' hp' => by
    obtain ⟨p, hp, hexpires⟩ := hsub r p' hp'
    rw [hexpires]
    exact h.window r p hp
  lifetime := fun r p' hp' => by
    obtain ⟨p, hp, hexpires⟩ := hsub r p' hp'
    rw [hexpires]
    exact h.lifetime r p hp

theorem Bounded.replace (h : Bounded clock l o) {r : String} {p p' : PendingPair} (hp : AList.lookup r o.pending = some p)
    (hexpires : p'.expiresAtMs = p.expiresAtMs) : Bounded clock l { o with pending := AList.insert r p' o.pending } := by
  refine h.withPending (Nat.le_of_eq (Table.length_insert_of_some hp)) fun s q hq => ?_
  rw [Table.lookup_insert'] at hq
  split at hq
  · rename_i hs
    subst hs
    cases hq
    exact ⟨p, hp, hexpires⟩
  · exact ⟨q, hq, rfl⟩

theorem Bounded.erase (h : Bounded clock l o) (r : String) : Bounded clock l { o with pending := AList.erase r o.pending } :=
  h.withPending (Table.length_erase_le ..) fun _ q hq => ⟨q, Table.lookup_of_erase hq, rfl⟩

/-- An address of which more is remembered, or for which what no longer counts is forgotten. -/
theorem Bounded.withAttempts (h : Bounded clock l o) {attempts : Table Nat (List Nat)}
    (hsub : clock < U64.max → ∀ ip, (counting 60000 clock (o.queue ip)).Sublist ((AList.lookup ip attempts).getD [])) :
    Bounded clock l { o with attempts := attempts } where
  room := h.room
  opens := h.opens
  spread := h.spread
  remembered := fun hmax ip => (counting_sublist (Nat.le_refl _) (h.remembered hmax ip)).trans (hsub hmax ip)
  window := h.window
  lifetime := h.lifetime

/-- What `recentAttempts` drops no longer counts. -/
theorem counting_recentAttempts (hmax : now < U64.max) (q : List Nat) :
    (counting 60000 now q).Sublist (recentAttempts now q) := by
  refine counting_sublist_dropWhile (fun a ha => ?_) q
  have hle : min (a + 60000) U64.max ≤ now := of_decide_eq_true ha
  omega

theorem Bounded.prune (h : Bounded clock l o) (hle : clock ≤ now) : Bounded now l (pruneOwnerState now o) := by
  have hpending : Bounded now l { o with pending := (pruneOwnerState now o).pending } :=
    (h.later hle).withPending length_prune_le fun r p hp => ⟨p, lookup_of_prune hp, rfl⟩
  have hboth : Bounded now l { o with
      pending := (pruneOwnerState now o).pending
      attempts := (pruneOwnerState now o).attempts } := by
    refine hpending.withAttempts fun hmax ip => ?_
    have hqueue := @queue_prune now o ip
    unfold Owner.queue at hqueue
    rw [hqueue]
    exact counting_recentAttempts hmax _
  exact hboth

theorem Bounded.attempt (h : Bounded now l o) (source : Nat) :
    Bounded now l { o with attempts := (admitSourceAttempt o.attempts source now).2 } := by
  refine h.withAttempts fun hmax ip => ?_
  rw [queue_admission]
  split
  · exact (counting_recentAttempts hmax _).trans (List.sublist_append_left ..)
  · exact List.filter_sublist

theorem timesOf_append (ip : Nat) (a : Admission) : timesOf ip (l ++ [a]) = timesOf ip l ++ if a.ip = ip then [a.time] else [] := by
  unfold timesOf
  rw [List.filter_append, List.map_append]
  by_cases h : a.ip = ip <;> simp [h]

theorem lastAdmission_append (r : String) (a : Admission) :
    lastAdmission r (l ++ [a]) = if a.requestId = r then some a else lastAdmission r l := by
  unfold lastAdmission
  rw [List.filter_append]
  by_cases h : a.requestId = r <;> simp [h]

/-- Fewer than five attempts are remembered of an address that is admitted. -/
theorem length_recent_of_admitted {attempts : Table Nat (List Nat)} {source : Nat}
    (h : (admitSourceAttempt attempts source now).1 = true) :
    (recentAttempts now ((AList.lookup source attempts).getD [])).length < maxNewRequestsPerIpPerMinute := by
  unfold admitSourceAttempt at h
  dsimp only at h
  split at h
  · cases h
  · omega

/-- A new request is admitted. -/
theorem Bounded.admit (h : Bounded now l o) {r : String} {p : PendingPair} {source : Nat}
    (hnone : AList.lookup r o.pending = none) (hopen : now < o.openUntilMs)
    (hroom : o.pending.entries.length < maxPendingRequests) (hadmitted : (admitSourceAttempt o.attempts source now).1 = true)
    (hexpires : p.expiresAtMs = min (U64.satAdd now workerWaitMs) o.openUntilMs) :
    Bounded now (l ++ [⟨r, source, now⟩]) { o with
      attempts := (admitSourceAttempt o.attempts source now).2
      pending := AList.insert r p o.pending
      attentionActive := true } := by
  -- an open window ends by the last reading of the clock
  have hmax : now < U64.max := by
    have hopens : o.openUntilMs ≤ min (now + pairingWindowMs) U64.max := h.opens
    omega
  have hcount : (counting 60000 now (timesOf source l)).Sublist (recentAttempts now (o.queue source)) :=
    (counting_sublist (Nat.le_refl _) (h.remembered hmax source)).trans (counting_recentAttempts hmax _)
  constructor
  · show (AList.insert r p o.pending).entries.length ≤ _
    rw [Table.length_insert_of_none hnone]
    exact hroom
  · exact h.opens
  · intro ip
    rw [timesOf_append]
    dsimp only
    split
    · rename_i hip
      subst hip
      have hspread := h.spread source
      exact hspread.admit (Nat.lt_of_le_of_lt hcount.length_le (length_recent_of_admitted hadmitted))
    · rw [List.append_nil]
      exact h.spread ip
  · intro _ ip
    unfold Owner.queue
    dsimp only
    rw [timesOf_append, queue_admission, counting_append, hadmitted]
    dsimp only
    by_cases hip : ip = source
    · subst hip
      rw [if_pos rfl, if_pos rfl, if_pos rfl]
      exact hcount.append List.filter_sublist
    · rw [if_neg hip, if_neg (Ne.symm hip)]
      simpa [counting, Owner.queue] using h.remembered hmax ip
  · intro s q hq
    rw [Table.lookup_insert'] at hq
    split at hq
    · cases hq
      rw [hexpires]
      exact Nat.min_le_right ..
    · exact h.window s q hq
  · intro s q hq
    rw [Table.lookup_insert'] at hq
    rw [lastAdmission_append]
    dsimp only
    split at hq
    · rename_i hs
      cases hq
      refine ⟨_, if_pos hs.symm, ?_⟩
      have hsat : U64.satAdd now workerWaitMs ≤ now + workerWaitMs := Nat.min_le_left ..
      rw [hexpires]
      exact Nat.le_trans (Nat.min_le_left ..) hsat
    · rename_i hs
      rw [if_neg (Ne.symm hs)]
      exact h.lifetime s q hq

variable {c : Crates} {e : OwnerEvent}

/-- The reading of the clock that an event leaves. -/
def OwnerEvent.lastReading (clock : Nat) (e : OwnerEvent) : Nat := e.readings.getLast?.getD clock

theorem bounded_receiveHello {source : SocketAddr} {schema r deviceName deviceKind publicKey : String}
    {issuedAtMs expiresAtMs : Nat} {sourceIsLocal : Bool} {secret : Option Bytes} (h : Bounded clock l o) (hle : clock ≤ now)
    (he : e = .receive now source (some (.hello schema r deviceName deviceKind publicKey issuedAtMs expiresAtMs)) sourceIsLocal
      secret) : Bounded now (l ++ (o.admission c e).toList) (o.step c e).2 := by
  obtain ⟨hcleared, htakes⟩ := @takes_receive c now source o r _ _ _ _ _ _ _ _ e he
  have hbounded : Bounded now l (o.cleared e) := by
    rcases hcleared with hsame | hpruned
    · rw [hsame]
      exact h.later hle
    · rw [hpruned]
      exact h.prune hle
  have hadmission : o.admission c e = if (AList.lookup r (o.cleared e).pending).isNone &&
      (AList.lookup r (o.step c e).2.pending).isSome then some ⟨r, source.ip, now⟩ else none := by
    subst he
    rfl
  -- nothing is admitted unless the request was not there and is now
  have hquiet : ((AList.lookup r (o.cleared e).pending).isSome = true ∨
      AList.lookup r (o.step c e).2.pending = AList.lookup r (o.cleared e).pending) → l ++ (o.admission c e).toList = l := by
    intro hcase
    rw [hadmission, if_neg, Option.toList_none, List.append_nil]
    rcases hcase with hsome | hsame
    · obtain ⟨p, hp⟩ := Option.isSome_iff_exists.1 hsome
      simp [hp]
    · rw [hsame]
      cases AList.lookup r (o.cleared e).pending <;> simp
  generalize hafter : (o.step c e).2 = o' at htakes hquiet hadmission
  cases htakes with
  | refused =>
    rw [hquiet (Or.inr rfl)]
    exact hbounded
  | repeated hp hexpires =>
    rw [hquiet (Or.inl (by rw [hp]; rfl))]
    exact hbounded.replace hp hexpires
  | attempted =>
    rw [hquiet (Or.inr rfl)]
    exact hbounded.attempt source.ip
  | admitted hnone hopen hroom hadmitted hexpires =>
    rw [hadmission, hnone, AList.lookup_insert]
    exact hbounded.admit hnone hopen hroom hadmitted hexpires

theorem bounded_window (h : Bounded clock l o) (hle : clock ≤ now) : Bounded now l (o.window now).2 := by
  have hpruned := h.prune hle
  exact ⟨hpruned.room, hpruned.opens, hpruned.spread, hpruned.remembered, hpruned.window, hpruned.lifetime⟩

/-- The owner opens its window, or opens it anew. -/
theorem bounded_openWindow {name : String} {binds : Bool} {later : Nat} (h : Bounded clock l o) (hle : clock ≤ now)
    (hle' : now ≤ later) : Bounded later l (o.openWindow name binds now later).2 := by
  unfold Owner.openWindow
  split
  · exact (h.later hle).later hle'
  split
  · exact (h.later hle).later hle'
  · rename_i label _ _
    have hopened : Bounded now l { o with socket := true, name := label, openUntilMs := U64.satAdd now pairingWindowMs } :=
      { room := h.room
        opens := Nat.le_refl _
        spread := h.spread
        remembered := (h.later hle).remembered
        window := fun r p hp => Nat.le_trans (h.window r p hp) (Nat.le_trans h.opens (satAdd_le_satAdd hle))
        lifetime := h.lifetime }
    exact bounded_window (hopened.prune (Nat.le_refl _)) hle'

theorem bounded_approve {requestId invitation : String} {nonce : Option Nonce} {sends : Bool} (h : Bounded clock l o)
    (hle : clock ≤ now) : Bounded now l (o.approve c now requestId invitation nonce sends).2 := by
  unfold Owner.approve
  dsimp only
  split
  · exact h.prune hle
  split
  · exact h.prune hle
  rename_i pending hpending
  split
  · exact h.prune hle
  · exact (h.prune hle).replace hpending rfl

theorem bounded_reject {requestId : String} {sends : Bool} (h : Bounded clock l o) :
    Bounded clock l (o.reject requestId sends).2 := by
  unfold Owner.reject
  split
  · exact h
  split
  · exact h
  · exact h.erase requestId

theorem bounded_receiveCompletion {source : SocketAddr} {schema requestId nonce ciphertext : String} (h : Bounded clock l o)
    (hle : clock ≤ now) : Bounded now l (o.receiveCompletion c now source schema requestId nonce ciphertext) := by
  unfold Owner.receiveCompletion
  split
  · exact h.later hle
  dsimp only
  split
  · exact h.prune hle
  rename_i pending hpending
  split
  · exact h.prune hle
  split
  · exact (h.prune hle).replace hpending rfl
  · exact h.prune hle

theorem bounded_step (h : Bounded clock l o) (hopen : e ≠ .deactivate) (hclock : (clock :: e.readings).Pairwise (· ≤ ·)) :
    Bounded (e.lastReading clock) (l ++ (o.admission c e).toList) (o.step c e).2 := by
  cases e with
  | openWindow name binds now later =>
    simp only [OwnerEvent.readings, List.pairwise_cons, List.mem_cons, List.not_mem_nil, or_false] at hclock
    rw [show o.admission c (.openWindow name binds now later) = none from rfl, Option.toList_none, List.append_nil]
    show Bounded later l (o.openWindow name binds now later).2
    exact bounded_openWindow h (hclock.1 now (Or.inl rfl)) (hclock.2.1 later rfl)
  | window now =>
    simp only [OwnerEvent.readings, List.pairwise_cons, List.mem_singleton] at hclock
    rw [show o.admission c (.window now) = none from rfl, Option.toList_none, List.append_nil]
    exact bounded_window h (hclock.1 now rfl)
  | deactivate => exact absurd rfl hopen
  | approve now requestId invitation nonce sends =>
    simp only [OwnerEvent.readings, List.pairwise_cons, List.mem_singleton] at hclock
    rw [show o.admission c (.approve now requestId invitation nonce sends) = none from rfl, Option.toList_none, List.append_nil]
    exact bounded_approve h (hclock.1 now rfl)
  | reject requestId sends =>
    rw [show o.admission c (.reject requestId sends) = none from rfl, Option.toList_none, List.append_nil]
    exact bounded_reject h
  | receive now source d sourceIsLocal secret =>
    simp only [OwnerEvent.readings, List.pairwise_cons, List.mem_singleton] at hclock
    have hle := hclock.1 now rfl
    cases d with
    | none =>
      rw [show o.admission c (.receive now source none sourceIsLocal secret) = none from rfl, Option.toList_none, List.append_nil]
      exact h.later hle
    | some d =>
      cases d with
      | hello schema requestId deviceName deviceKind publicKey issuedAtMs expiresAtMs =>
        exact bounded_receiveHello h hle rfl
      | enrollmentComplete schema requestId nonce ciphertext =>
        show Bounded now (l ++ Option.toList none) _
        rw [Option.toList_none, List.append_nil]
        exact bounded_receiveCompletion h hle
      | _ =>
        show Bounded now (l ++ Option.toList none) _
        rw [Option.toList_none, List.append_nil]
        exact h.later hle

theorem bounded_exec {events : List OwnerEvent} (h : Bounded clock l o) (hopen : ∀ e ∈ events, e ≠ .deactivate)
    (hclock : (clock :: events.flatMap OwnerEvent.readings).Pairwise (· ≤ ·)) :
    ∃ last, Bounded last (l ++ admissions c events o) ((ownerMachine c).exec events o) := by
  induction events generalizing clock l o with
  | nil =>
    rw [admissions, List.append_nil]
    exact ⟨clock, h⟩
  | cons e events ih =>
    rw [List.flatMap_cons, ← List.cons_append, List.pairwise_append] at hclock
    have hstep := bounded_step (c := c) h (hopen e (List.mem_cons_self ..)) hclock.1
    rw [admissions, ← List.append_assoc]
    refine ih hstep (fun e' he' => hopen e' (List.mem_cons_of_mem _ he')) ?_
    refine List.pairwise_cons.2 ⟨fun a ha => ?_, hclock.2.1⟩
    refine hclock.2.2 (e.lastReading clock) ?_ a ha
    unfold OwnerEvent.lastReading
    cases hlast : e.readings.getLast? with
    | none => exact List.mem_cons_self ..
    | some t => exact List.mem_cons_of_mem _ (List.mem_of_getLast? hlast)

end

/-- Whatever the owner receives, as long as its clock does not go back and its window is not deactivated: at most sixteen
requests are pending, no interval of a minute has more than five admissions from one address, and every pending request expires
within fifteen minutes of its last admission and with the window. The timestamps of the datagrams make no difference to the
owner or to what it admits. -/
theorem admission_is_bounded (c : Crates) (events : List OwnerEvent) (hopen : ∀ e ∈ events, e ≠ .deactivate)
    (hclock : (events.flatMap OwnerEvent.readings).Pairwise (· ≤ ·)) :
    ((ownerMachine c).exec events Owner.new).pending.entries.length ≤ 16 ∧
      (∀ ip t, ((admissions c events Owner.new).filter fun a => a.ip == ip && decide (t ≤ a.time ∧ a.time < t + 60000)).length ≤ 5) ∧
      (∀ r p, AList.lookup r ((ownerMachine c).exec events Owner.new).pending = some p →
        p.expiresAtMs ≤ ((ownerMachine c).exec events Owner.new).openUntilMs ∧
          ∃ a, lastAdmission r (admissions c events Owner.new) = some a ∧ p.expiresAtMs ≤ a.time + 15 * 60 * 1000) ∧
      ∀ events', events'.map OwnerEvent.withoutTimes = events.map OwnerEvent.withoutTimes →
        (ownerMachine c).exec events' Owner.new = (ownerMachine c).exec events Owner.new ∧
          admissions c events' Owner.new = admissions c events Owner.new := by
  obtain ⟨last, hbounded⟩ := @bounded_exec 0 [] Owner.new c events bounded_new hopen
    (List.pairwise_cons.2 ⟨fun a _ => Nat.zero_le a, hclock⟩)
  rw [List.nil_append] at hbounded
  refine ⟨hbounded.room, ?_, fun r p hp => ⟨hbounded.window r p hp, hbounded.lifetime r p hp⟩, ?_⟩
  · intro ip t
    have hspread := hbounded.spread ip t
    unfold within timesOf at hspread
    rw [List.filter_map, List.length_map, List.filter_filter] at hspread
    refine Nat.le_trans (Nat.le_of_eq ?_) hspread
    congr 1
    refine List.filter_congr fun a _ => ?_
    rw [Bool.and_comm]
    rfl
  · intro events' hsame
    constructor
    · rw [← exec_withoutTimes, hsame, exec_withoutTimes]
    · rw [← admissions_withoutTimes, hsame, admissions_withoutTimes]

open Scenario in
/-- A request that is repeated is admitted once. -/
example : admissions crates [.openWindow "Main PC" true 1000 1000, .receive 2000 laptop (some hello) false (some ownerSecret),
    .receive 4000 laptop (some hello) false none] Owner.new = [⟨requestId, laptop.ip, 2000⟩] := by decide +kernel

open Scenario in
theorem admission_is_bounded_enrolled :
    ((ownerMachine crates).exec enrolled Owner.new).pending.entries.length ≤ 16 ∧
      ((admissions crates enrolled Owner.new).filter fun a =>
        a.ip == laptop.ip && decide (2000 ≤ a.time ∧ a.time < 2000 + 60000)).length ≤ 5 := by
  have hopen : ∀ e ∈ enrolled, e ≠ .deactivate := by
    intro e he
    simp only [enrolled, List.mem_cons, List.not_mem_nil, or_false] at he
    rcases he with rfl | rfl | rfl | rfl | rfl <;> simp
  obtain ⟨hroom, hspread, -⟩ := admission_is_bounded crates enrolled hopen (by decide)
  exact ⟨hroom, hspread laptop.ip 2000⟩

end Rampage.Pairing
