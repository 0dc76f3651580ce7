/-
Remote Assist sessions under every interleaving: a closed session stays closed as long as no renewal that was overtaken
writes back (`closed_step`), and a session keeps the node it was opened for through all its renewals (`traced_step`).
-/
import Rampage.Controller.Effects.Locks
import Rampage.Controller.Binding

namespace Rampage.Controller

open Rampage.Protocol Rampage.Planner Rampage.Governor Rampage.Ledger Handler

/-! ## Closed sessions -/

/-- A session is closed: it is not in the table, and every thread that still has it in hand has been overtaken. -/
structure Fabric.Closed (f : Fabric) (sessionId : Uuid) : Prop where
  absent : f.desk.remoteDesktopSessions.lookup sessionId = none
  overtaken : ∀ t ∈ f.threads, ∀ nodeId, t.point.renewing = some (sessionId, nodeId) → t.overtaken = true

/-- The thread writes a renewal back, or mints it. -/
def Point.writesBack : Point → Bool
  | .renew .. => true
  | .storeRenewed .. => true
  | _ => false

/-- No renewal goes on after STOP, a close or a revocation has overtaken it, and no STOP writes its marker and reports
that it failed. -/
def respectsClosing (w : World) (f : Fabric) : Act → Bool
  | .run i _ => (f.threads[i]?).all fun t => !(t.overtaken && t.point.writesBack)
  | .proceed =>
    match f.holder with
    | some (.writeMarker _) => !markerSticks w f.desk.files
    | _ => true
  | _ => true

/-- The sessions after a lock that a thread takes. -/
def Point.sessionsAfter (p : Point) (sessions : Table Uuid RemoteDesktopSession) : Table Uuid RemoteDesktopSession :=
  match p with
  | .dropExpired sessionId => sessions.erase sessionId
  | .storeRenewed _ sessionId current renewed => sessions.insert sessionId ⟨renewed, current.controlStarted⟩
  | .markControl sessionId =>
    match sessions.lookup sessionId with
    | none => sessions
    | some session => sessions.insert sessionId { session with controlStarted := true }
  | .close sessionId =>
    match sessions.lookup sessionId with
    | none => sessions
    | some _ => sessions.erase sessionId
  | _ => sessions

section

variable {cfg : Config} {x : Peers} {w : World}

theorem run_sessions (p : Point) (answered : Bool) (d : Desk) :
    (p.run cfg x w answered d).2.remoteDesktopSessions = p.sessionsAfter d.remoteDesktopSessions := by
  by_cases hp : p.isStill = true
  · rw [(still_run hp answered d).sessions]
    cases p <;> first | rfl | cases hp
  · cases p with
    | dropExpired sessionId => rfl
    | storeRenewed use sessionId current renewed => rfl
    | markControl sessionId =>
      change (((get >>= _ : Task (Option Point)) d)).2.remoteDesktopSessions = _
      rw [get_bind]
      simp only [Point.sessionsAfter]
      cases d.remoteDesktopSessions.lookup sessionId <;> rfl
    | close sessionId =>
      change (((get >>= _ : Task (Option Point)) d)).2.remoteDesktopSessions = _
      rw [get_bind]
      simp only [Point.sessionsAfter]
      cases d.remoteDesktopSessions.lookup sessionId <;> rfl
    | storeOffer offer => rfl
    | _ => exact absurd rfl hp

/-- Only the write-back of a renewal can put a session into the table. -/
theorem absent_sessionsAfter {p : Point} {sessions : Table Uuid RemoteDesktopSession} {sessionId : Uuid}
    (h : sessions.lookup sessionId = none)
    (hp : ∀ use current renewed, p ≠ .storeRenewed use sessionId current renewed) :
    (p.sessionsAfter sessions).lookup sessionId = none := by
  cases p with
  | dropExpired s =>
    show (sessions.erase s).lookup sessionId = none
    rw [Table.lookup_erase', h, ite_self]
  | storeRenewed use s current renewed =>
    have hne : sessionId ≠ s := by
      rintro rfl
      exact hp use current renewed rfl
    show (sessions.insert s _).lookup sessionId = none
    rw [Table.lookup_insert', if_neg hne, h]
  | markControl s =>
    simp only [Point.sessionsAfter]
    cases hs : sessions.lookup s with
    | none => exact h
    | some session =>
      have hne : sessionId ≠ s := by
        rintro rfl
        rw [h] at hs
        cases hs
      show (sessions.insert s _).lookup sessionId = none
      rw [Table.lookup_insert', if_neg hne, h]
  | close s =>
    simp only [Point.sessionsAfter]
    cases sessions.lookup s with
    | none => exact h
    | some session =>
      show (sessions.erase s).lookup sessionId = none
      rw [Table.lookup_erase', h, ite_self]
  | _ => exact h

/-- A thread that takes a closed session in hand had it before. -/
theorem renewing_of_goes {d : Desk} {p q : Point} (h : Goes d p q) {sessionId nodeId : Uuid}
    (habsent : d.remoteDesktopSessions.lookup sessionId = none) (hq : q.renewing = some (sessionId, nodeId)) :
    p.renewing = some (sessionId, nodeId) := by
  cases h with
  | read stored =>
    cases hq
    rw [habsent] at stored
    cases stored
  | expiring => exact hq
  | renewed => exact hq
  | _ => cases hq

variable {f : Fabric} {sessionId : Uuid}

theorem runThread_none {i : Nat} {answered : Bool} (h : f.threads[i]? = none) :
    runThread cfg x w i answered f = (none, f) := by
  simp only [runThread, h]

theorem runThread_some {i : Nat} {answered : Bool} {t : Thread Point} (h : f.threads[i]? = some t) :
    runThread cfg x w i answered f = (some (.thread t.point (t.point.run cfg x w answered f.desk).1), { f with
      desk := (t.point.run cfg x w answered f.desk).2
      threads := Thread.overtake (t.point.overtakes f.desk)
        (Thread.advance i (next (t.point.run cfg x w answered f.desk).1) f.threads) }) := by
  simp only [runThread, h]

/-- A lock taken by a thread keeps a closed session closed, unless the thread was overtaken and writes back. -/
theorem closed_runThread {i : Nat} {answered : Bool} (h : f.Closed sessionId)
    (hc : respectsClosing w f (.run i answered) = true) :
    (runThread cfg x w i answered f).2.Closed sessionId := by
  cases ht : f.threads[i]? with
  | none =>
    rw [runThread_none ht]
    exact h
  | some t =>
    have hmem := List.mem_of_getElem? ht
    have hc : t.overtaken = true → t.point.writesBack = false := by
      intro hmark
      simpa [respectsClosing, ht, hmark] using hc
    rw [runThread_some ht]
    constructor
    · show (t.point.run cfg x w answered f.desk).2.remoteDesktopSessions.lookup sessionId = none
      rw [run_sessions]
      refine absent_sessionsAfter h.absent fun use current renewed hp => ?_
      -- such a thread had the session in hand, was overtaken, and now writes back
      have hmark := h.overtaken t hmem current.lease.nodeId (by rw [hp]; rfl)
      have := hc hmark
      rw [hp] at this
      cases this
    · intro t' ht' nodeId hr
      obtain ⟨t₁, ht₁, hpoint, hmark⟩ := Thread.mem_overtake ht'
      rw [hpoint] at hr
      rw [hmark]
      rcases Thread.mem_advance ht₁ with hold | ⟨t₀, ht₀, hnext, hmark₀⟩
      · rw [h.overtaken t₁ hold nodeId hr, Bool.true_or]
      · rw [ht] at ht₀
        cases ht₀
        rw [hmark₀, h.overtaken t hmem nodeId (renewing_of_goes (run_goes hnext) h.absent hr), Bool.true_or]

/-- A thread that mints or writes back has not been overtaken, so its session is not closed. -/
theorem not_mint_of_closed {i : Nat} {answered : Bool} {t : Thread Point} (h : f.Closed sessionId)
    (hc : respectsClosing w f (.run i answered) = true) (ht : f.threads[i]? = some t) {use : Use}
    {current : RemoteDesktopSession} {offer : ResourceOfferV1} : t.point ≠ .renew use sessionId current offer := by
  intro hp
  have hmark := h.overtaken t (List.mem_of_getElem? ht) current.lease.nodeId (by rw [hp]; rfl)
  simp [respectsClosing, ht, hmark, hp, Point.writesBack] at hc

/-! ## The holder of the gate -/

/-- The sessions are the same. -/
def SameSessions (d d' : Desk) : Prop := d'.remoteDesktopSessions = d.remoteDesktopSessions

instance : Std.Refl SameSessions := ⟨fun _ => rfl⟩

instance : IsTrans Desk SameSessions := ⟨fun _ _ _ h h' => Eq.trans h' h⟩

theorem sameSessions_onHost {α : Type} (y : Request α) : Keeps SameSessions (onHost y) := fun _ => rfl

/-- The sessions after a lock that the holder of the gate takes. -/
def Held.sessionsAfter (p : Held) (sessions : Table Uuid RemoteDesktopSession) : Table Uuid RemoteDesktopSession :=
  match p with
  | .drainSessions _ => ∅
  | .forgetSessions nodeId => sessions.retain fun _ session => session.lease.nodeId != nodeId
  | _ => sessions

theorem held_sessions (p : Held) (d : Desk) :
    (p.run w d).2.remoteDesktopSessions = p.sessionsAfter d.remoteDesktopSessions := by
  cases p with
  | stop => rfl
  | createLatch => exact (Keeps.bind (sameSessions_onHost _) fun _ => Keeps.pure _ : Keeps SameSessions (Held.run w .createLatch)) d
  | advanceEpoch =>
    exact (Keeps.bind (sameSessions_onHost _) fun _ => Keeps.pure _ : Keeps SameSessions (Held.run w .advanceEpoch)) d
  | writeMarker epoch =>
    exact (Keeps.bind (sameSessions_onHost _) fun _ => Keeps.pure _ : Keeps SameSessions (Held.run w (.writeMarker epoch))) d
  | drainSessions epoch => rfl
  | recordStop epoch =>
    exact (Keeps.bind (sameSessions_onHost _) fun _ => Keeps.pure _ : Keeps SameSessions (Held.run w (.recordStop epoch))) d
  | findNode nodeId =>
    change (((get >>= _ : Task (Option Held)) d)).2.remoteDesktopSessions = _
    rw [get_bind]
    cases d.nodes.lookup nodeId <;> rfl
  | recordRevocation nodeId identity =>
    exact (Keeps.bind (sameSessions_onHost _) fun _ => Keeps.bind (sameSessions_onHost _) fun _ => Keeps.pure _ :
      Keeps SameSessions (Held.run w (.recordRevocation nodeId identity))) d
  | scan nodeId =>
    exact (Keeps.bind (sameSessions_onHost _) fun _ => Keeps.pure _ : Keeps SameSessions (Held.run w (.scan nodeId))) d
  | _ => rfl

theorem runHeld_none (h : f.holder = none) : runHeld w f = (none, f) := by
  simp only [runHeld, h]

theorem runHeld_some {p : Held} (h : f.holder = some p) :
    runHeld w f = (some (.held p (p.run w f.desk).1), { f with
      desk := (p.run w f.desk).2
      holder := next (p.run w f.desk).1
      threads := Thread.overtake (p.overtakes f.desk) f.threads }) := by
  simp only [runHeld, h]

theorem absent_heldAfter {p : Held} {sessions : Table Uuid RemoteDesktopSession} (h : sessions.lookup sessionId = none) :
    (p.sessionsAfter sessions).lookup sessionId = none := by
  cases p with
  | drainSessions epoch => rfl
  | forgetSessions nodeId =>
    show (sessions.retain _).lookup sessionId = none
    rw [Table.lookup_retain, h]
    rfl
  | _ => exact h

theorem closed_runHeld (h : f.Closed sessionId) : (runHeld w f).2.Closed sessionId := by
  cases hh : f.holder with
  | none =>
    rw [runHeld_none hh]
    exact h
  | some p =>
    rw [runHeld_some hh]
    constructor
    · show (p.run w f.desk).2.remoteDesktopSessions.lookup sessionId = none
      rw [held_sessions]
      exact absent_heldAfter h.absent
    · intro t ht nodeId hr
      obtain ⟨t₀, ht₀, hpoint, hmark⟩ := Thread.mem_overtake ht
      rw [hpoint] at hr
      rw [hmark, h.overtaken t₀ ht₀ nodeId hr, Bool.true_or]

/-- Nobody has the session in hand, or all who do are marked now. -/
theorem closed_of_overtakes {p : Held} (hh : f.holder = some p)
    (habsent : (p.sessionsAfter f.desk.remoteDesktopSessions).lookup sessionId = none)
    (hmark : ∀ t ∈ f.threads, ∀ nodeId, t.point.renewing = some (sessionId, nodeId) →
      p.overtakes f.desk t.point = true) : (runHeld w f).2.Closed sessionId := by
  rw [runHeld_some hh]
  constructor
  · show (p.run w f.desk).2.remoteDesktopSessions.lookup sessionId = none
    rw [held_sessions]
    exact habsent
  · intro t ht nodeId hr
    obtain ⟨t₀, ht₀, hpoint, hm⟩ := Thread.mem_overtake ht
    rw [hpoint] at hr
    rw [hm, hmark t₀ ht₀ nodeId hr, Bool.or_true]

/-! ## Every act -/

theorem Fabric.Closed.of_threads {g : Fabric} (h : f.Closed sessionId)
    (hs : g.desk.remoteDesktopSessions = f.desk.remoteDesktopSessions)
    (ht : ∀ t ∈ g.threads, t ∈ f.threads ∨ t.point.renewing = none) : g.Closed sessionId := by
  constructor
  · rw [hs]
    exact h.absent
  · intro t hmem nodeId hr
    rcases ht t hmem with hold | hnone
    · exact h.overtaken t hold nodeId hr
    · rw [hnone] at hr
      cases hr

theorem acquireGate_threads (i : Nat) (f : Fabric) : ∀ t ∈ (acquireGate i f).threads, t ∈ f.threads := by
  intro t ht
  unfold acquireGate at ht
  split at ht
  · exact List.mem_of_mem_eraseIdx ht
  · exact List.mem_of_mem_eraseIdx ht
  · exact ht

theorem acquireGate_desk (i : Nat) (f : Fabric) : (acquireGate i f).desk = f.desk ∧ (acquireGate i f).opened = f.opened := by
  unfold acquireGate
  split <;> exact ⟨rfl, rfl⟩

/-- Every act that respects closing keeps a closed session closed. -/
theorem closed_step {act : Act} (h : f.Closed sessionId) (hopened : (f.opened.lookup sessionId).isSome = true)
    (hc : respectsClosing w f act = true) : (fabricStep cfg x w act f).2.Closed sessionId := by
  cases act with
  | arrive call =>
    refine h.of_threads rfl fun t ht => ?_
    rcases List.mem_append.1 ht with hold | hnew
    · exact Or.inl hold
    · rw [List.mem_singleton.1 hnew]
      refine Or.inr ?_
      cases call <;> rfl
  | run i answered => exact closed_runThread h hc
  | acquire i =>
    refine h.of_threads ?_ fun t ht => Or.inl (acquireGate_threads i f t ht)
    show (acquireGate i f).desk.remoteDesktopSessions = _
    rw [(acquireGate_desk i f).1]
  | proceed => exact closed_runHeld h
  | openSession s session =>
    show (openSession s session f).Closed sessionId
    unfold openSession
    split
    · rename_i hfree
      simp only [Bool.and_eq_true] at hfree
      have hne : sessionId ≠ s := by
        -- the id of a new session has not been used
        rintro rfl
        rw [Option.isNone_iff_eq_none.1 hfree.2] at hopened
        cases hopened
      refine ⟨?_, h.overtaken⟩
      show (f.desk.remoteDesktopSessions.insert s session).lookup sessionId = none
      rw [Table.lookup_insert', if_neg hne]
      exact h.absent
    · exact h
  | createInvite => exact h.of_threads rfl fun t ht => Or.inl ht
  | enroll request => exact h.of_threads rfl fun t ht => Or.inl ht
  | resume =>
    show (resume w f).Closed sessionId
    unfold resume
    split
    · exact h.of_threads rfl fun t ht => Or.inl ht
    · exact h
  | shellStop => exact h.of_threads rfl fun t ht => Or.inl ht
  | restart =>
    constructor
    · rfl
    · intro t ht
      cases ht

/-- A session keeps the node it was opened for. -/
theorem opened_step (act : Act) {nodeId : Uuid} (h : f.opened.lookup sessionId = some nodeId) :
    (fabricStep cfg x w act f).2.opened.lookup sessionId = some nodeId := by
  cases act with
  | run i answered =>
    show (runThread cfg x w i answered f).2.opened.lookup sessionId = _
    cases ht : f.threads[i]? with
    | none => rw [runThread_none ht, h]
    | some t => rw [runThread_some ht, h]
  | acquire i =>
    show (acquireGate i f).opened.lookup sessionId = _
    rw [(acquireGate_desk i f).2, h]
  | proceed =>
    show (runHeld w f).2.opened.lookup sessionId = _
    cases hh : f.holder with
    | none => rw [runHeld_none hh, h]
    | some p => rw [runHeld_some hh, h]
  | openSession s session =>
    show (openSession s session f).opened.lookup sessionId = _
    unfold openSession
    split
    · rename_i hfree
      simp only [Bool.and_eq_true] at hfree
      have hne : sessionId ≠ s := by
        rintro rfl
        rw [Option.isNone_iff_eq_none.1 hfree.2] at h
        cases h
      show (f.opened.insert s _).lookup sessionId = _
      rw [Table.lookup_insert', if_neg hne, h]
    · exact h
  | resume =>
    show (resume w f).opened.lookup sessionId = _
    unfold resume
    split <;> exact h
  | _ => exact h

end

/-! ## Sessions and their nodes -/

/-- What is kept of a session through its renewal: the node it was opened for. -/
def Point.IsTraced (opened : Table Uuid Uuid) : Point → Prop
  | .findOffer _ sessionId current _ => opened.lookup sessionId = some current.lease.nodeId
  | .renew _ sessionId current offer =>
    opened.lookup sessionId = some current.lease.nodeId ∧ offer.nodeId = current.lease.nodeId
  | .storeRenewed _ sessionId current renewed =>
    opened.lookup sessionId = some current.lease.nodeId ∧ renewed.nodeId = current.lease.nodeId
  | _ => True

/-- Offers are stored under their nodes, and sessions are for the node they were opened for. -/
structure Fabric.Traced (f : Fabric) : Prop where
  keyed : ∀ nodeId offer, f.desk.offers.lookup nodeId = some offer → offer.nodeId = nodeId
  sessions : ∀ sessionId session, f.desk.remoteDesktopSessions.lookup sessionId = some session →
    f.opened.lookup sessionId = some session.lease.nodeId
  threads : ∀ t ∈ f.threads, t.point.IsTraced f.opened

section

variable {cfg : Config} {x : Peers} {w : World} {f : Fabric}

theorem Point.IsTraced.renewing {opened : Table Uuid Uuid} {p : Point} (h : p.IsTraced opened) {sessionId nodeId : Uuid}
    (hp : p.renewing = some (sessionId, nodeId)) : opened.lookup sessionId = some nodeId := by
  cases p with
  | findOffer =>
    cases hp
    exact h
  | renew =>
    cases hp
    exact h.1
  | storeRenewed =>
    cases hp
    exact h.1
  | _ => cases hp

theorem isTraced_goes {p q : Point} (h : f.Traced) (hp : p.IsTraced f.opened) (hg : Goes f.desk p q) :
    q.IsTraced f.opened := by
  cases hg with
  | read stored => exact h.sessions _ _ stored
  | expiring stored => exact ⟨hp, h.keyed _ _ stored⟩
  | renewed node => exact ⟨hp.1, node.trans hp.2⟩
  | _ => trivial

/-- The sessions a thread leaves are for the nodes they were opened for. -/
theorem sessionsAfter_opened {p : Point} (h : f.Traced) (hp : p.IsTraced f.opened) {sessionId : Uuid}
    {session : RemoteDesktopSession}
    (hs : (p.sessionsAfter f.desk.remoteDesktopSessions).lookup sessionId = some session) :
    f.opened.lookup sessionId = some session.lease.nodeId := by
  cases p with
  | dropExpired s => exact h.sessions _ _ (Table.lookup_of_erase hs)
  | storeRenewed use s current renewed =>
    change (f.desk.remoteDesktopSessions.insert s _).lookup sessionId = _ at hs
    rw [Table.lookup_insert'] at hs
    by_cases heq : sessionId = s
    · rw [if_pos heq] at hs
      cases hs
      rw [heq, hp.1, hp.2]
    · rw [if_neg heq] at hs
      exact h.sessions _ _ hs
  -- the mark changes neither the session's key nor its node
  | markControl s =>
    simp only [Point.sessionsAfter] at hs
    cases hl : f.desk.remoteDesktopSessions.lookup s with
    | none =>
      simp only [hl] at hs
      exact h.sessions _ _ hs
    | some stored =>
      simp only [hl] at hs
      rw [Table.lookup_insert'] at hs
      by_cases heq : sessionId = s
      · rw [if_pos heq] at hs
        cases hs
        rw [heq]
        exact h.sessions s stored hl
      · rw [if_neg heq] at hs
        exact h.sessions _ _ hs
  | close s =>
    simp only [Point.sessionsAfter] at hs
    cases hl : f.desk.remoteDesktopSessions.lookup s with
    | none =>
      simp only [hl] at hs
      exact h.sessions _ _ hs
    | some stored =>
      simp only [hl] at hs
      exact h.sessions _ _ (Table.lookup_of_erase hs)
  | _ => exact h.sessions _ _ hs

theorem traced_runThread {i : Nat} {answered : Bool} (h : f.Traced) : (runThread cfg x w i answered f).2.Traced := by
  cases ht : f.threads[i]? with
  | none =>
    rw [runThread_none ht]
    exact h
  | some t =>
    have hp := h.threads t (List.mem_of_getElem? ht)
    rw [runThread_some ht]
    refine ⟨?_, ?_, ?_⟩
    · intro nodeId offer hl
      change (t.point.run cfg x w answered f.desk).2.offers.lookup nodeId = some offer at hl
      rw [run_offers] at hl
      unfold Point.offersAfter at hl
      split at hl
      · rw [Table.lookup_insert'] at hl
        split at hl
        · rename_i heq
          cases hl
          exact heq.symm
        · exact h.keyed nodeId offer hl
      · exact h.keyed nodeId offer hl
    · intro sessionId session hs
      change (t.point.run cfg x w answered f.desk).2.remoteDesktopSessions.lookup sessionId = some session at hs
      rw [run_sessions] at hs
      exact sessionsAfter_opened h hp hs
    · intro t' ht'
      obtain ⟨t₁, ht₁, hpoint, -⟩ := Thread.mem_overtake ht'
      show t'.point.IsTraced f.opened
      rw [hpoint]
      rcases Thread.mem_advance ht₁ with hold | ⟨t₀, ht₀, hnext, -⟩
      · exact h.threads t₁ hold
      · rw [ht] at ht₀
        cases ht₀
        exact isTraced_goes h hp (run_goes hnext)

theorem traced_runHeld (h : f.Traced) : (runHeld w f).2.Traced := by
  cases hh : f.holder with
  | none =>
    rw [runHeld_none hh]
    exact h
  | some p =>
    rw [runHeld_some hh]
    refine ⟨?_, ?_, ?_⟩
    · intro nodeId offer hl
      change (p.run w f.desk).2.offers.lookup nodeId = some offer at hl
      rw [(held_devices p f.desk).1] at hl
      unfold Held.offersAfter at hl
      split at hl
      · exact h.keyed nodeId offer (Table.lookup_of_erase hl)
      · exact h.keyed nodeId offer hl
    · intro sessionId session hs
      change (p.run w f.desk).2.remoteDesktopSessions.lookup sessionId = some session at hs
      rw [held_sessions] at hs
      unfold Held.sessionsAfter at hs
      split at hs
      · cases hs
      · rw [Table.lookup_retain, Option.filter_eq_some_iff] at hs
        exact h.sessions _ _ hs.1
      · exact h.sessions _ _ hs
    · intro t ht
      obtain ⟨t₀, ht₀, hpoint, -⟩ := Thread.mem_overtake ht
      show t.point.IsTraced f.opened
      rw [hpoint]
      exact h.threads t₀ ht₀

theorem Fabric.Traced.of_threads {g : Fabric} (h : f.Traced) (hoffers : g.desk.offers = f.desk.offers)
    (hsessions : g.desk.remoteDesktopSessions = f.desk.remoteDesktopSessions) (hopened : g.opened = f.opened)
    (hthreads : ∀ t ∈ g.threads, t ∈ f.threads ∨ t.point.IsTraced f.opened) : g.Traced := by
  refine ⟨by rw [hoffers]; exact h.keyed, by rw [hsessions, hopened]; exact h.sessions, ?_⟩
  rw [hopened]
  intro t ht
  rcases hthreads t ht with hold | hnew
  · exact h.threads t hold
  · exact hnew

/-- Points stay traced when a session with a new id is opened. -/
theorem Point.IsTraced.mono {opened opened' : Table Uuid Uuid} {p : Point} (h : p.IsTraced opened)
    (hmono : ∀ s n, opened.lookup s = some n → opened'.lookup s = some n) : p.IsTraced opened' := by
  cases p with
  | findOffer => exact hmono _ _ h
  | renew => exact ⟨hmono _ _ h.1, h.2⟩
  | storeRenewed => exact ⟨hmono _ _ h.1, h.2⟩
  | _ => trivial

/-- Every act keeps the trace of the sessions. -/
theorem traced_step (act : Act) (h : f.Traced) : (fabricStep cfg x w act f).2.Traced := by
  cases act with
  | arrive call =>
    refine h.of_threads rfl rfl rfl fun t ht => ?_
    rcases List.mem_append.1 ht with hold | hnew
    · exact Or.inl hold
    · rw [List.mem_singleton.1 hnew]
      refine Or.inr ?_
      cases call <;> trivial
  | run i answered => exact traced_runThread h
  | acquire i =>
    obtain ⟨hdesk, hopened⟩ := acquireGate_desk i f
    refine h.of_threads (g := acquireGate i f) ?_ ?_ hopened fun t ht => Or.inl (acquireGate_threads i f t ht)
    · rw [hdesk]
    · rw [hdesk]
  | proceed => exact traced_runHeld h
  | openSession s session =>
    show (openSession s session f).Traced
    unfold openSession
    split
    · rename_i hfree
      simp only [Bool.and_eq_true] at hfree
      -- a session id is opened once
      have hmono : ∀ s' n, f.opened.lookup s' = some n → (f.opened.insert s session.lease.nodeId).lookup s' = some n := by
        intro s' n hs'
        have hne : s' ≠ s := by
          rintro rfl
          rw [Option.isNone_iff_eq_none.1 hfree.2] at hs'
          cases hs'
        rw [Table.lookup_insert', if_neg hne, hs']
      refine ⟨h.keyed, ?_, fun t ht => (h.threads t ht).mono hmono⟩
      intro sessionId stored hs
      change (f.desk.remoteDesktopSessions.insert s session).lookup sessionId = some stored at hs
      rw [Table.lookup_insert'] at hs
      by_cases heq : sessionId = s
      · rw [if_pos heq] at hs
        cases hs
        rw [heq]
        exact AList.lookup_insert _
      · rw [if_neg heq] at hs
        exact hmono _ _ (h.sessions _ _ hs)
    · exact h
  | createInvite => exact h.of_threads (sameOffers_createInvite f.desk.toHost) rfl rfl fun t ht => Or.inl ht
  | enroll request => exact h.of_threads (sameOffers_enrollNode request f.desk.toHost) rfl rfl fun t ht => Or.inl ht
  | resume =>
    show (resume w f).Traced
    unfold resume
    split
    · exact h.of_threads (resuming_localResumeGated f.desk.toHost).offers rfl rfl fun t ht => Or.inl ht
    · exact h
  | shellStop => exact h.of_threads rfl rfl rfl fun t ht => Or.inl ht
  | restart =>
    refine ⟨?_, ?_, ?_⟩
    · intro nodeId offer hl
      exact (restoredOffers_keyed hl).1
    · intro sessionId session hs
      cases hs
    · intro t ht
      cases ht

theorem traced_initial (epoch : Nat) (head : String → Except String ArtifactRefV1) : (Fabric.initial epoch head).Traced := by
  refine ⟨?_, ?_, ?_⟩
  · intro nodeId offer hl
    cases hl
  · intro sessionId session hs
    cases hs
  · intro t ht
    cases ht

/-- So it holds of every state that a run reaches. -/
theorem traced_exec (epoch : Nat) (head : String → Except String ArtifactRefV1) (acts : List Act) :
    ((fabric cfg x w).exec acts (.initial epoch head)).Traced :=
  (fabric cfg x w).state_invariant (C := fun _ _ => True) (fun _ act h _ => traced_step act h) acts (traced_initial epoch head)
    ((fabric cfg x w).meets_of_forall (fun _ _ => trivial) acts _)

end

end Rampage.Controller
