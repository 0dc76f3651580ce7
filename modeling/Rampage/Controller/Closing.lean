/-
Remote Assist sessions stay closed. `current_remote_desktop_session` reads the session, mints a renewed lease and writes
it back under separate locks and without the gate, so a renewal that STOP, a close or a revocation has overtaken puts
the closed session back. `closed_sessions_stay_closed` says that this is the only way, beside a STOP whose marker is
written but reported as failed: the next STOP then takes itself for a duplicate and drains nothing.
-/
import Rampage.Controller.Assist

namespace Rampage.Controller

open Rampage.Protocol Rampage.Planner Rampage.Governor Rampage.Ledger Handler

/-! ## STOP -/

/-- Every session that was opened so far is closed. -/
def Fabric.AllClosed (f : Fabric) : Prop := ∀ sessionId nodeId, f.opened.lookup sessionId = some nodeId → f.Closed sessionId

/-- Every session that was opened for the node is closed. -/
def Fabric.NodeClosed (f : Fabric) (nodeId : Uuid) : Prop :=
  ∀ sessionId, f.opened.lookup sessionId = some nodeId → f.Closed sessionId

/-- What the holder of the gate can rely on at its next lock. -/
def Held.Holds (f : Fabric) : Held → Prop
  | .advanceEpoch => f.desk.killLatch = true
  | .writeMarker epoch => f.desk.killLatch = true ∧ epoch = f.desk.fencingEpoch ∧
      ∀ m, f.desk.stopEpochMarker = some (some m) → m < epoch
  | .drainSessions _ => f.desk.killLatch = true
  | .recordStop _ => f.AllClosed
  | .forgetReplicas nodeId => f.NodeClosed nodeId
  | .scan nodeId => f.NodeClosed nodeId
  | _ => True

/-- The marker of a completed STOP is only there once its sessions are closed: it lies under the latch, names no epoch
ahead, and between its write and the drain STOP holds the gate. -/
structure Fabric.Halted (f : Fabric) : Prop where
  latched : f.desk.killLatch = false → f.desk.stopEpochMarker = none
  marker : ∀ m, f.desk.stopEpochMarker = some (some m) → m ≤ f.desk.fencingEpoch
  stopped : (∀ epoch, f.holder ≠ some (.drainSessions epoch)) → isStopped f.desk.toAppState = true → f.AllClosed
  held : ∀ p, f.holder = some p → p.Holds f

/-- An act beside the holder: the facts of STOP stay, but the latch may be set, and closed sessions stay closed. -/
structure Beside (f g : Fabric) : Prop where
  opened : g.opened = f.opened
  killLatch : g.desk.killLatch = f.desk.killLatch ∨ g.desk.killLatch = true
  stopEpochMarker : g.desk.stopEpochMarker = f.desk.stopEpochMarker
  fencingEpoch : g.desk.fencingEpoch = f.desk.fencingEpoch
  closed : ∀ sessionId nodeId, f.opened.lookup sessionId = some nodeId → f.Closed sessionId → g.Closed sessionId

section

variable {cfg : Config} {x : Peers} {w : World} {f g : Fabric}

theorem Beside.allClosed (h : Beside f g) (hf : f.AllClosed) : g.AllClosed := by
  intro sessionId nodeId ho
  rw [h.opened] at ho
  exact h.closed _ _ ho (hf _ _ ho)

theorem Beside.holds (h : Beside f g) {p : Held} (hp : p.Holds f) : p.Holds g := by
  have hnode : ∀ nodeId, f.NodeClosed nodeId → g.NodeClosed nodeId := by
    intro nodeId hf sessionId ho
    rw [h.opened] at ho
    exact h.closed _ _ ho (hf _ ho)
  have hlatch : f.desk.killLatch = true → g.desk.killLatch = true := by
    intro hk
    rcases h.killLatch with hl | hl
    · rw [hl, hk]
    · exact hl
  cases p with
  | advanceEpoch => exact hlatch hp
  | writeMarker epoch =>
    refine ⟨hlatch hp.1, ?_, ?_⟩
    · rw [h.fencingEpoch]
      exact hp.2.1
    · rw [h.stopEpochMarker]
      exact hp.2.2
  | drainSessions epoch => exact hlatch hp
  | recordStop epoch => exact h.allClosed hp
  | forgetReplicas nodeId => exact hnode nodeId hp
  | scan nodeId => exact hnode nodeId hp
  | _ => trivial

theorem isStopped_iff (s : AppState) : isStopped s = true ↔
    s.killLatch = true ∧ s.stopEpochMarker = some (some s.fencingEpoch) := by
  unfold isStopped
  rw [Bool.and_eq_true, beq_iff_eq]
  constructor
  · rintro ⟨hk, hm⟩
    exact ⟨hk, Option.join_eq_some_iff.1 hm⟩
  · rintro ⟨hk, hm⟩
    exact ⟨hk, Option.join_eq_some_iff.2 hm⟩

/-- An act beside the holder completes no STOP. -/
theorem Beside.isStopped (h : Beside f g) (hf : f.Halted) (hg : isStopped g.desk.toAppState = true) :
    isStopped f.desk.toAppState = true := by
  rw [isStopped_iff] at *
  obtain ⟨_, hm⟩ := hg
  rw [h.stopEpochMarker, h.fencingEpoch] at hm
  refine ⟨?_, hm⟩
  cases hk : f.desk.killLatch with
  | true => rfl
  | false =>
    rw [hf.latched hk] at hm
    cases hm

/-- A step beside the drain keeps the facts of STOP, if the next holder has what it relies on. -/
theorem Fabric.Halted.of_beside (h : f.Halted) (hb : Beside f g) (hno : ∀ epoch, f.holder ≠ some (.drainSessions epoch))
    (hheld : ∀ p, g.holder = some p → p.Holds g) : g.Halted := by
  refine ⟨?_, ?_, ?_, hheld⟩
  · intro hk
    rw [hb.stopEpochMarker]
    rcases hb.killLatch with hl | hl
    · exact h.latched (hl.symm.trans hk)
    · rw [hl] at hk
      cases hk
  · rw [hb.stopEpochMarker, hb.fencingEpoch]
    exact h.marker
  · intro _ hs
    exact hb.allClosed (h.stopped hno (hb.isStopped h hs))

/-- An act beside the holder keeps the facts of STOP. -/
theorem Fabric.Halted.beside (h : f.Halted) (hb : Beside f g) (hholder : g.holder = f.holder) : g.Halted := by
  by_cases hno : ∀ epoch, f.holder ≠ some (.drainSessions epoch)
  · refine h.of_beside hb hno fun p hp => ?_
    rw [hholder] at hp
    exact hb.holds (h.held p hp)
  · -- between the marker and the drain nothing is said about the sessions
    push Not at hno
    obtain ⟨epoch, hdrain⟩ := hno
    have hlatch : g.desk.killLatch = true := hb.holds (h.held _ hdrain)
    refine ⟨?_, ?_, ?_, ?_⟩
    · intro hk
      rw [hlatch] at hk
      cases hk
    · rw [hb.stopEpochMarker, hb.fencingEpoch]
      exact h.marker
    · intro hno
      exact absurd (hholder.trans hdrain) (hno epoch)
    · intro p hp
      rw [hholder] at hp
      exact hb.holds (h.held p hp)

/-- A lock of the holder that leaves the facts of STOP alone. -/
theorem beside_runHeld {p : Held} (hh : f.holder = some p) (hp : p.isStopping = false) : Beside f (runHeld w f).2 := by
  have hstop := sameStop_held (w := w) hp f.desk
  refine ⟨?_, ?_, ?_, ?_, fun sessionId nodeId _ hc => closed_runHeld hc⟩
  · rw [runHeld_some hh]
  · rw [runHeld_some hh]
    exact Or.inl hstop.1
  · rw [runHeld_some hh]
    exact hstop.2.1
  · rw [runHeld_some hh]
    exact hstop.2.2

/-- After the drain every session is closed. -/
theorem allClosed_drain {epoch : Nat} (hh : f.holder = some (.drainSessions epoch)) : (runHeld w f).2.AllClosed := by
  intro sessionId nodeId _
  refine closed_of_overtakes hh rfl fun t _ n hr => ?_
  show t.point.renewing.isSome = true
  rw [hr]
  rfl

/-- After its sessions are forgotten every session of the node is closed. -/
theorem nodeClosed_forget {nodeId : Uuid} (ht : f.Traced) (hh : f.holder = some (.forgetSessions nodeId)) :
    (runHeld w f).2.NodeClosed nodeId := by
  intro sessionId ho
  have ho : f.opened.lookup sessionId = some nodeId := by
    rw [runHeld_some hh] at ho
    exact ho
  refine closed_of_overtakes hh ?_ fun t hmem n hr => ?_
  · show (f.desk.remoteDesktopSessions.retain _).lookup sessionId = none
    rw [Table.lookup_retain]
    cases hs : f.desk.remoteDesktopSessions.lookup sessionId with
    | none => rfl
    | some session =>
      have hnode := (ht.sessions _ _ hs).symm.trans ho
      simp only [Option.some.injEq] at hnode
      simp [hnode]
  · have hnode := ((ht.threads t hmem).renewing hr).symm.trans ho
    simp only [Option.some.injEq] at hnode
    show t.point.renewing.any (·.2 == nodeId) = true
    rw [hr, hnode]
    simp

/-- A lock of the holder that leaves the facts of STOP alone keeps them, and hands on what the next one relies on. -/
theorem halted_runHeld_beside {p : Held} (h : f.Halted) (ht : f.Traced) (hh : f.holder = some p)
    (hp : p.isStopping = false) : (runHeld w f).2.Halted := by
  have hb : Beside f (runHeld w f).2 := beside_runHeld hh hp
  have hholder : (runHeld w f).2.holder = next (p.run w f.desk).1 := by rw [runHeld_some hh]
  -- who holds the gate next is what the lock returns
  have hnext : ∀ q, (runHeld w f).2.holder = some q → ∃ d, p.run w f.desk = (.ok (some q), d) := by
    intro q hq
    rw [hholder] at hq
    exact ⟨_, Prod.ext (next_eq_some hq) rfl⟩
  -- only draining the sessions says anything new of the stopped fabric
  by_cases hdrain : ∃ epoch, p = .drainSessions epoch
  · obtain ⟨epoch, rfl⟩ := hdrain
    -- the latch is set, and no session is open any more
    have hall := allClosed_drain (w := w) hh
    refine ⟨?_, ?_, fun _ _ => hall, ?_⟩
    · intro hk
      have hlatch : (runHeld w f).2.desk.killLatch = true := hb.holds (h.held _ hh)
      rw [hlatch] at hk
      cases hk
    · rw [hb.stopEpochMarker, hb.fencingEpoch]
      exact h.marker
    · intro q hq
      obtain ⟨d, hrun⟩ := hnext q hq
      cases hrun
      exact hall
  · refine h.of_beside hb (fun epoch he => ?_) fun q hq => ?_
    · rw [hh] at he
      exact hdrain ⟨epoch, Option.some.inj he⟩
    · obtain ⟨d, hrun⟩ := hnext q hq
      have hf := h.held p hh
      cases p with
      | stop =>
        cases hrun' : isStopped f.desk.toAppState with
        | true =>
          have := next_pure (hrun : (pure _ : Task (Option Held)) f.desk = _)
          rw [hrun'] at this
          cases this
        | false =>
          have := next_pure (hrun : (pure _ : Task (Option Held)) f.desk = _)
          rw [hrun'] at this
          cases this
          trivial
      | drainSessions epoch => exact absurd ⟨epoch, rfl⟩ hdrain
      | recordStop epoch =>
        obtain ⟨u, d₁, _, hrun⟩ := bind_ok hrun
        cases next_pure hrun
      | findNode nodeId =>
        change ((get >>= _ : Task (Option Held)) f.desk) = _ at hrun
        rw [get_bind] at hrun
        cases hl : f.desk.nodes.lookup nodeId with
        | none =>
          simp only [hl] at hrun
          cases hrun
        | some identity =>
          simp only [hl] at hrun
          cases next_pure hrun
          trivial
      | recordRevocation nodeId identity =>
        obtain ⟨u, d₁, _, hrun⟩ := bind_ok hrun
        obtain ⟨u, d₂, _, hrun⟩ := bind_ok hrun
        cases next_pure hrun
        trivial
      | forgetSessions nodeId =>
        cases hrun
        exact nodeClosed_forget ht hh
      | forgetReplicas nodeId =>
        cases hrun
        exact hb.holds (p := .scan nodeId) hf
      | scan nodeId =>
        obtain ⟨u, d₁, _, hrun⟩ := bind_ok hrun
        cases next_pure hrun
      | forgetIdentity | forgetOffer | forgetAssignments | forgetReservations | forgetShardSets =>
        cases hrun
        trivial
      | createLatch | advanceEpoch | writeMarker => cases hp

theorem halted_createLatch (h : f.Halted) (hh : f.holder = some .createLatch) : (runHeld w f).2.Halted := by
  obtain ⟨r, latch, n, hrun, hlatch, hok⟩ := @createKillLatch_cases w f.desk.toHost
  have hon := onHost_eq hrun
  have hclosed : ∀ sessionId nodeId, f.opened.lookup sessionId = some nodeId → f.Closed sessionId →
      (runHeld w f).2.Closed sessionId := fun _ _ _ hc => closed_runHeld hc
  rw [runHeld_some hh] at hclosed ⊢
  cases r with
  | error e =>
    have hrun : Held.run w .createLatch f.desk = (.error e, _) := bind_of_error hon
    rw [hrun] at hclosed ⊢
    refine h.of_beside ⟨rfl, hlatch, rfl, rfl, hclosed⟩ (by simp [hh]) ?_
    rintro p ⟨⟩
  | ok u =>
    have hrun : Held.run w .createLatch f.desk = (.ok (some .advanceEpoch), _) := bind_of_ok hon
    rw [hrun] at hclosed ⊢
    refine h.of_beside ⟨rfl, hlatch, rfl, rfl, hclosed⟩ (by simp [hh]) ?_
    rintro p ⟨⟩
    exact hok rfl

theorem halted_advanceEpoch (h : f.Halted) (hh : f.holder = some .advanceEpoch) : (runHeld w f).2.Halted := by
  have hlatch : f.desk.killLatch = true := h.held _ hh
  have hclosed : ∀ sessionId nodeId, f.opened.lookup sessionId = some nodeId → f.Closed sessionId →
      (runHeld w f).2.Closed sessionId := fun _ _ _ hc => closed_runHeld hc
  rw [runHeld_some hh] at hclosed ⊢
  rcases @advanceFencingEpoch_cases w f.desk.toHost with ⟨e, t, hrun, hidle⟩ | hrun
  · have hrun : Held.run w .advanceEpoch f.desk = (.error e, _) := bind_of_error (onHost_eq hrun)
    rw [hrun] at hclosed ⊢
    refine h.of_beside ⟨rfl, Or.inl hidle.killLatch, hidle.stopEpochMarker, hidle.fencingEpoch, hclosed⟩ (by simp [hh]) ?_
    rintro p ⟨⟩
  · have hrun : Held.run w .advanceEpoch f.desk = (.ok (some (.writeMarker (f.desk.fencingEpoch + 1))), _) :=
      bind_of_ok (onHost_eq hrun)
    rw [hrun]
    have hlt : ∀ m, f.desk.stopEpochMarker = some (some m) → m < f.desk.fencingEpoch + 1 := fun m hm =>
      Nat.lt_succ_of_le (h.marker m hm)
    refine ⟨h.latched, fun m hm => (hlt m hm).le, fun _ hs => ?_, ?_⟩
    · -- the marker names an older epoch
      rw [isStopped_iff] at hs
      have := hlt _ hs.2
      change f.desk.fencingEpoch + 1 < f.desk.fencingEpoch + 1 at this
      omega
    · rintro p ⟨⟩
      exact ⟨hlatch, rfl, hlt⟩

theorem halted_writeMarker {epoch : Nat} (h : f.Halted) (hh : f.holder = some (.writeMarker epoch))
    (hc : respectsClosing w f .proceed = true) : (runHeld w f).2.Halted := by
  obtain ⟨hlatch, hepoch, hlt⟩ : f.desk.killLatch = true ∧ epoch = f.desk.fencingEpoch ∧
    ∀ m, f.desk.stopEpochMarker = some (some m) → m < epoch := h.held _ hh
  have hsticks : markerSticks w f.desk.files = false := by simpa [respectsClosing, hh] using hc
  obtain ⟨r, marker, n, hrun, ⟨rfl, rfl⟩ | ⟨⟨e, rfl⟩, hmarker⟩⟩ := @writeStopEpochMarker_cases w epoch f.desk.toHost
  · have hrun : Held.run w (.writeMarker epoch) f.desk = (.ok (some (.drainSessions epoch)), _) := bind_of_ok (onHost_eq hrun)
    rw [runHeld_some hh, hrun]
    refine ⟨?_, ?_, ?_, ?_⟩
    · intro hk
      exact absurd (hlatch.symm.trans hk) (by simp)
    · rintro m ⟨⟩
      exact hepoch.le
    · intro hno
      exact absurd rfl (hno epoch)
    · rintro p ⟨⟩
      exact hlatch
  · have hrun : Held.run w (.writeMarker epoch) f.desk = (.error e, _) := bind_of_error (onHost_eq hrun)
    rw [runHeld_some hh, hrun]
    have hmarker : marker = f.desk.stopEpochMarker ∨ marker = some none := by
      rcases hmarker with hm | hm | ⟨hs, _⟩
      · exact Or.inl hm
      · exact Or.inr hm
      · exact absurd (hs.symm.trans hsticks) (by simp)
    have hlt' : ∀ m, marker = some (some m) → m < f.desk.fencingEpoch := by
      rintro m rfl
      rcases hmarker with hm | hm
      · exact hepoch ▸ hlt m hm.symm
      · cases hm
    refine ⟨?_, fun m hm => (hlt' m hm).le, fun _ hs => ?_, ?_⟩
    · intro hk
      exact absurd (hlatch.symm.trans hk) (by simp)
    · rw [isStopped_iff] at hs
      exact absurd (hlt' _ hs.2) (lt_irrefl f.desk.fencingEpoch)
    · rintro p ⟨⟩

theorem halted_runHeld (h : f.Halted) (ht : f.Traced) (hc : respectsClosing w f .proceed = true) :
    (runHeld w f).2.Halted := by
  cases hh : f.holder with
  | none =>
    rw [runHeld_none hh]
    exact h
  | some p =>
    cases p with
    | createLatch => exact halted_createLatch h hh
    | advanceEpoch => exact halted_advanceEpoch h hh
    | writeMarker epoch => exact halted_writeMarker h hh hc
    | _ => exact halted_runHeld_beside h ht hh rfl

/-- Resuming takes the latch away only once the marker is gone, so a latch it leaves set still stands over closed sessions. -/
theorem halted_resume (h : f.Halted) (hclosed : ∀ sessionId nodeId, f.opened.lookup sessionId = some nodeId →
    f.Closed sessionId → (resume w f).Closed sessionId) : (resume w f).Halted := by
  unfold resume at hclosed ⊢
  split at hclosed
  · rename_i hfree
    have hnone : f.holder = none := Option.isNone_iff_eq_none.1 hfree
    rw [if_pos hfree]
    have hr := resuming_localResumeGated (w := w) f.desk.toHost
    -- a resume writes no marker: one that is left is the one that was there
    have hmarker : ∀ m, (localResumeGated w f.desk.toHost).2.stopEpochMarker = some (some m) →
        f.desk.stopEpochMarker = some (some m) := by
      intro m hm
      rcases hr.marker with heq | heq
      · rw [← heq, hm]
      · rw [heq] at hm
        cases hm
    refine ⟨?_, ?_, ?_, ?_⟩
    · intro hk
      rcases hr.latch with hl | ⟨_, hl⟩
      · have hgone := h.latched (hl.symm.trans hk)
        rcases hr.marker with heq | heq
        · exact heq.trans hgone
        · exact heq
      · exact hl
    · intro m hm
      show m ≤ (localResumeGated w f.desk.toHost).2.fencingEpoch
      rw [hr.fencingEpoch]
      exact h.marker m (hmarker m hm)
    · intro _ hs sessionId nodeId ho
      refine hclosed sessionId nodeId ho (h.stopped (by simp [hnone]) ?_ sessionId nodeId ho)
      rw [isStopped_iff] at hs ⊢
      obtain ⟨hk, hm⟩ := hs
      have hm' := hmarker _ hm
      refine ⟨?_, ?_⟩
      · cases hk' : f.desk.killLatch with
        | true => rfl
        | false =>
          rw [h.latched hk'] at hm'
          cases hm'
      · have hepoch : (localResumeGated w f.desk.toHost).2.fencingEpoch = f.desk.fencingEpoch := hr.fencingEpoch
        rw [hm', ← hepoch]
        rfl
    · intro p hp
      exact absurd (hnone.symm.trans hp) (by simp)
  · rw [if_neg (by assumption)]
    exact h

/-- Every act that respects closing keeps the facts of STOP. -/
theorem halted_step {act : Act} (h : f.Halted) (ht : f.Traced) (hc : respectsClosing w f act = true) :
    (fabricStep cfg x w act f).2.Halted := by
  -- a session that is closed stays closed
  have hclosed : ∀ sessionId nodeId, f.opened.lookup sessionId = some nodeId → f.Closed sessionId →
      (fabricStep cfg x w act f).2.Closed sessionId := by
    intro sessionId nodeId ho hcl
    exact closed_step hcl (by rw [ho]; rfl) hc
  cases act with
  | arrive call => exact h.beside ⟨rfl, Or.inl rfl, rfl, rfl, hclosed⟩ rfl
  | run i answered =>
    change ∀ sessionId nodeId, _ → _ → (runThread cfg x w i answered f).2.Closed sessionId at hclosed
    show (runThread cfg x w i answered f).2.Halted
    cases hi : f.threads[i]? with
    | none =>
      rw [runThread_none hi]
      exact h
    | some t =>
      have hsteady := @steady_run cfg x w t.point answered f.desk
      rw [runThread_some hi] at hclosed ⊢
      exact h.beside ⟨rfl, Or.inl hsteady.killLatch, hsteady.stopEpochMarker, hsteady.fencingEpoch, hclosed⟩ rfl
  | acquire i =>
    change ∀ sessionId nodeId, _ → _ → (acquireGate i f).Closed sessionId at hclosed
    show (acquireGate i f).Halted
    unfold acquireGate at hclosed ⊢
    split at hclosed
    · rename_i hnone _
      refine h.of_beside ⟨rfl, Or.inl rfl, rfl, rfl, hclosed⟩ (by simp [hnone]) ?_
      rintro p ⟨⟩
      trivial
    · rename_i hnone _
      refine h.of_beside ⟨rfl, Or.inl rfl, rfl, rfl, hclosed⟩ (by simp [hnone]) ?_
      rintro p ⟨⟩
      trivial
    · exact h
  | proceed => exact halted_runHeld h ht hc
  | openSession s session =>
    show (openSession s session f).Halted
    unfold openSession
    split
    · rename_i hfree
      simp only [Bool.and_eq_true, Option.isNone_iff_eq_none, Bool.not_eq_true'] at hfree
      refine ⟨h.latched, h.marker, fun _ hs => ?_, ?_⟩
      · -- the latch is not set
        rw [isStopped_iff] at hs
        exact absurd (hfree.1.2.symm.trans hs.1) (by simp)
      · intro p hp
        exact absurd (hfree.1.1.symm.trans hp) (by simp)
    · exact h
  | createInvite =>
    have hframe := @frame_createInvite cfg w f.desk.toHost
    exact h.beside ⟨rfl, Or.inl hframe.killLatch, hframe.stopEpochMarker, hframe.fencingEpoch, hclosed⟩ rfl
  | enroll request =>
    have hframe := @frame_enrollNode cfg w request f.desk.toHost
    exact h.beside ⟨rfl, Or.inl hframe.killLatch, hframe.stopEpochMarker, hframe.fencingEpoch, hclosed⟩ rfl
  | resume => exact halted_resume h hclosed
  | shellStop => exact h.beside ⟨rfl, Or.inr rfl, rfl, rfl, hclosed⟩ rfl
  | restart =>
    refine ⟨h.latched, h.marker, ?_, ?_⟩
    · intro _ _ sessionId nodeId _
      constructor
      · rfl
      · intro t ht
        cases ht
    · rintro p ⟨⟩

end

/-! ## Runs -/

/-- A renewed lease for the session was minted. -/
def Ran.mints (sessionId : Uuid) : Ran → Bool
  | .thread (.renew _ s _ _) (.ok _) => s == sessionId
  | _ => false

/-- `close_remote_desktop` has removed the session. -/
def Ran.closes (sessionId : Uuid) : Ran → Bool
  | .thread (.close s) (.ok (some _)) => s == sessionId
  | _ => false

/-- `local_stop` has answered, as the first STOP or as a duplicate. -/
def Ran.stops : Ran → Bool
  | .held .stop (.ok none) => true
  | .held (.recordStop _) (.ok none) => true
  | _ => false

/-- The revocation of the node has answered. -/
def Ran.revokes (nodeId : Uuid) : Ran → Bool
  | .held (.scan n) (.ok none) => n == nodeId
  | _ => false

/-- This ends the session: a close has removed it, or STOP or the revocation of its node has answered. -/
def endsSession (f : Fabric) (sessionId : Uuid) (r : Option Ran) : Prop :=
  r.any (Ran.closes sessionId) = true ∨ (r.any Ran.stops = true ∧ (f.opened.lookup sessionId).isSome = true) ∨
    ∃ nodeId, r.any (Ran.revokes nodeId) = true ∧ f.opened.lookup sessionId = some nodeId

/-- Once something has ended a session, the session is not in the table and no lease for it is minted. -/
def StaysClosed (cfg : Config) (x : Peers) (w : World) (f : Fabric) (acts : List Act) : Prop :=
  ∀ before act after rest, acts = before ++ act :: (after ++ rest) →
    ∀ sessionId, endsSession ((fabric cfg x w).exec before f) sessionId
      (fabricStep cfg x w act ((fabric cfg x w).exec before f)).1 →
    ((fabric cfg x w).exec (before ++ act :: after) f).desk.remoteDesktopSessions.lookup sessionId = none ∧
    ∀ e ∈ (fabric cfg x w).trace after (fabricStep cfg x w act ((fabric cfg x w).exec before f)).2,
      e.2.any (Ran.mints sessionId) = false

section

variable {cfg : Config} {x : Peers} {w : World} {f : Fabric} {sessionId : Uuid}

/-- A lock of the holder is reported as such. -/
theorem runHeld_out {p : Held} {r : Except HttpError (Option Held)} (h : (runHeld w f).1 = some (.held p r)) :
    f.holder = some p ∧ (p.run w f.desk).1 = r := by
  cases hh : f.holder with
  | none =>
    rw [runHeld_none hh] at h
    cases h
  | some q =>
    rw [runHeld_some hh] at h
    cases h
    exact ⟨rfl, rfl⟩

theorem runThread_out {i : Nat} {answered : Bool} {p : Point} {r : Except HttpError (Option Point)}
    (h : (runThread cfg x w i answered f).1 = some (.thread p r)) :
    ∃ t, f.threads[i]? = some t ∧ t.point = p ∧ (p.run cfg x w answered f.desk).1 = r := by
  cases ht : f.threads[i]? with
  | none =>
    rw [runThread_none ht] at h
    cases h
  | some t =>
    rw [runThread_some ht] at h
    cases h
    exact ⟨t, rfl, rfl, rfl⟩

/-- Only a thread reports a thread's lock, and only the holder one of its own. -/
theorem step_out_thread {act : Act} {p : Point} {r : Except HttpError (Option Point)}
    (h : (fabricStep cfg x w act f).1 = some (.thread p r)) :
    ∃ i answered t, act = .run i answered ∧ f.threads[i]? = some t ∧ t.point = p ∧
      (p.run cfg x w answered f.desk).1 = r := by
  cases act with
  | run i answered =>
    obtain ⟨t, ht, hp, hr⟩ := runThread_out h
    exact ⟨i, answered, t, rfl, ht, hp, hr⟩
  | proceed =>
    change (runHeld w f).1 = _ at h
    cases hh : f.holder with
    | none =>
      rw [runHeld_none hh] at h
      cases h
    | some q =>
      rw [runHeld_some hh] at h
      cases h
  | _ => cases h

theorem step_out_held {act : Act} {p : Held} {r : Except HttpError (Option Held)}
    (h : (fabricStep cfg x w act f).1 = some (.held p r)) :
    act = .proceed ∧ f.holder = some p ∧ (p.run w f.desk).1 = r := by
  cases act with
  | proceed => exact ⟨rfl, runHeld_out h⟩
  | run i answered =>
    change (runThread cfg x w i answered f).1 = _ at h
    cases ht : f.threads[i]? with
    | none =>
      rw [runThread_none ht] at h
      cases h
    | some t =>
      rw [runThread_some ht] at h
      cases h
  | _ => cases h

/-- A close that removes its session closes it. -/
theorem closed_of_close {i : Nat} {answered : Bool} {t : Thread Point} {session : RemoteDesktopSession}
    (ht : f.threads[i]? = some t) (hp : t.point = .close sessionId)
    (hs : f.desk.remoteDesktopSessions.lookup sessionId = some session) :
    (runThread cfg x w i answered f).2.Closed sessionId := by
  rw [runThread_some ht]
  constructor
  · show (t.point.run cfg x w answered f.desk).2.remoteDesktopSessions.lookup sessionId = none
    rw [run_sessions, hp]
    simp only [Point.sessionsAfter, hs]
    exact AList.lookup_erase ..
  · intro t' ht' nodeId hr
    obtain ⟨t₁, ht₁, hpoint, hmark⟩ := Thread.mem_overtake ht'
    rw [hpoint] at hr
    rw [hmark, hp]
    simp [Point.overtakes, hs, hr]

theorem stops_cases {r : Ran} (h : r.stops = true) : r = .held .stop (.ok none) ∨ ∃ epoch, r = .held (.recordStop epoch) (.ok none) := by
  unfold Ran.stops at h
  split at h
  · exact Or.inl rfl
  · exact Or.inr ⟨_, rfl⟩
  · cases h

theorem closes_cases {r : Ran} (h : r.closes sessionId = true) : ∃ q, r = .thread (.close sessionId) (.ok (some q)) := by
  unfold Ran.closes at h
  split at h
  · rw [beq_iff_eq] at h
    subst h
    exact ⟨_, rfl⟩
  · cases h

theorem revokes_cases {r : Ran} {nodeId : Uuid} (h : r.revokes nodeId = true) : r = .held (.scan nodeId) (.ok none) := by
  unfold Ran.revokes at h
  split at h
  · rw [beq_iff_eq] at h
    subst h
    rfl
  · cases h

/-- What ends a session closes it. -/
theorem closed_of_ends {act : Act} (h : f.Halted) (ht : f.Traced)
    (he : endsSession f sessionId (fabricStep cfg x w act f).1) :
    (fabricStep cfg x w act f).2.Closed sessionId ∧ (f.opened.lookup sessionId).isSome = true := by
  rcases he with hclose | ⟨hstop, ho⟩ | ⟨nodeId, hrevoke, ho⟩
  · obtain ⟨r, hr, hclose⟩ := (Option.any_eq_true ..).1 hclose
    obtain ⟨q, rfl⟩ := closes_cases hclose
    obtain ⟨i, answered, t, rfl, hi, hp, hrun⟩ := step_out_thread hr
    have hgoes : Goes f.desk (.close sessionId) q := run_goes (by rw [hrun]; rfl)
    cases hgoes with
    | closed stored =>
      refine ⟨closed_of_close hi hp stored, ?_⟩
      rw [ht.sessions _ _ stored]
      rfl
  · obtain ⟨r, hr, hstop⟩ := (Option.any_eq_true ..).1 hstop
    obtain ⟨nodeId, ho'⟩ := Option.isSome_iff_exists.1 ho
    rcases stops_cases hstop with rfl | ⟨epoch, rfl⟩
    · -- a duplicate: the marker says that an earlier STOP has drained the sessions
      obtain ⟨rfl, hh, hrun⟩ := step_out_held hr
      have hstopped : isStopped f.desk.toAppState = true := by
        change (.ok (if isStopped f.desk.toAppState then none else some .createLatch) : Except HttpError (Option Held)) = _ at hrun
        simp only [Except.ok.injEq] at hrun
        split at hrun
        · assumption
        · cases hrun
      exact ⟨closed_runHeld (h.stopped (by simp [hh]) hstopped sessionId nodeId ho'), ho⟩
    · obtain ⟨rfl, hh, _⟩ := step_out_held hr
      have hall : f.AllClosed := h.held _ hh
      exact ⟨closed_runHeld (hall sessionId nodeId ho'), ho⟩
  · obtain ⟨r, hr, hrevoke⟩ := (Option.any_eq_true ..).1 hrevoke
    obtain rfl := revokes_cases hrevoke
    obtain ⟨rfl, hh, _⟩ := step_out_held hr
    have hnode : f.NodeClosed nodeId := h.held _ hh
    refine ⟨closed_runHeld (hnode sessionId ho), ?_⟩
    rw [ho]
    rfl

/-- A step mints no lease for a closed session. -/
theorem mints_of_closed {act : Act} (h : f.Closed sessionId) (hc : respectsClosing w f act = true) :
    ((fabricStep cfg x w act f).1).any (Ran.mints sessionId) = false := by
  by_contra hno
  obtain ⟨r, hr, hm⟩ := (Option.any_eq_true ..).1 (Bool.not_eq_false _ ▸ hno)
  unfold Ran.mints at hm
  split at hm
  · rw [beq_iff_eq] at hm
    subst hm
    obtain ⟨i, answered, t, rfl, ht, hp, _⟩ := step_out_thread hr
    exact not_mint_of_closed h hc ht hp
  · cases hm

/-- A run that respects closing keeps a closed session closed, and mints no lease for it. -/
theorem closed_run : ∀ {acts : List Act} {f : Fabric}, (fabric cfg x w).Meets (fun f act => respectsClosing w f act = true) acts f →
    f.Closed sessionId → (f.opened.lookup sessionId).isSome = true →
    ((fabric cfg x w).exec acts f).Closed sessionId ∧
    ∀ e ∈ (fabric cfg x w).trace acts f, e.2.any (Ran.mints sessionId) = false
  | [], _, _, h, _ => ⟨h, by simp [Machine.trace]⟩
  | act :: acts, f, hm, h, ho => by
    obtain ⟨nodeId, ho'⟩ := Option.isSome_iff_exists.1 ho
    have hopened := @opened_step cfg x w _ _ act _ ho'
    obtain ⟨hend, htrace⟩ := closed_run hm.2 (closed_step h ho hm.1) (Option.isSome_iff_exists.2 ⟨nodeId, hopened⟩)
    refine ⟨hend, ?_⟩
    intro e he
    rcases List.mem_cons.1 he with rfl | he
    · exact mints_of_closed h hm.1
    · exact htrace e he

/-- The invariants hold initially and along every run that respects closing. -/
theorem invariants_run (epoch : Nat) (head : String → Except String ArtifactRefV1) {acts : List Act}
    (hm : (fabric cfg x w).Meets (fun f act => respectsClosing w f act = true) acts (.initial epoch head)) :
    ((fabric cfg x w).exec acts (.initial epoch head)).Traced ∧ ((fabric cfg x w).exec acts (.initial epoch head)).Halted := by
  refine (fabric cfg x w).state_invariant (C := fun f act => respectsClosing w f act = true)
    (I := fun f => f.Traced ∧ f.Halted) ?_ acts ?_ hm
  · rintro f act ⟨ht, hh⟩ hc
    exact ⟨traced_step act ht, halted_step hh ht hc⟩
  · refine ⟨traced_initial epoch head, fun _ => rfl, ?_, ?_, ?_⟩
    · intro m hm
      cases hm
    · intro _ hs
      cases hs
    · intro p hp
      cases hp

end

/-- Once STOP has answered, a close has removed a session or the revocation of its node has answered, the session is
gone and no renewed lease is minted for it, in every run in which no overtaken renewal goes on and no STOP reports the
failure of a marker it has written. -/
theorem closed_sessions_stay_closed (cfg : Config) (x : Peers) (w : World) (epoch : Nat)
    (head : String → Except String ArtifactRefV1) (acts : List Act)
    (hm : (fabric cfg x w).Meets (fun f act => respectsClosing w f act = true) acts (.initial epoch head)) :
    StaysClosed cfg x w (.initial epoch head) acts := by
  rintro before act after rest rfl sessionId he
  rw [Machine.meets_append] at hm
  obtain ⟨hbefore, hact, hrest⟩ := hm
  have hafter := ((Machine.meets_append _ _ after rest _).1 hrest).1
  obtain ⟨ht, hh⟩ := invariants_run epoch head hbefore
  obtain ⟨hclosed, ho⟩ := closed_of_ends hh ht he
  obtain ⟨nodeId, ho'⟩ := Option.isSome_iff_exists.1 ho
  have hopened := @opened_step cfg x w _ _ act _ ho'
  obtain ⟨hend, htrace⟩ := closed_run hafter hclosed (Option.isSome_iff_exists.2 ⟨nodeId, hopened⟩)
  refine ⟨?_, htrace⟩
  rw [Machine.exec_append]
  exact hend.absent

namespace Scenario

/-- A controller that can reach its worker. -/
def reachable : Config := { config with endpointIsWellFormed := fun _ => true }

/-- The example's peers, to which every signature passes. -/
def peers : Peers where
  endpointId := "controller"
  signRemoteDesktop := fun _ => "signature"
  verifyOfferSignature := fun _ _ => true
  verifyMeshEndpoint := fun _ _ => .ok ()
  validateModelRuntimeContracts := fun _ => .ok ()
  benchmarkIsValid := fun _ _ => true

/-- The node of the scenario lets its desktop be watched. -/
def assistOffer : ResourceOfferV1 :=
  { offer with
    resources := [⟨.cpuCompute, 1, 1, "core", [("device_kind", "desktop")]⟩]
    adapters := {"rampage.remote-assist.v1"}
    workloadCapabilities := [⟨"rampage.workload-capability.v1", "rampage.remote-assist.v1", {"view"}, 1, 1, "digest",
      .shipped, none⟩]
    meshEndpoint := some ⟨"rampage.mesh-endpoint.v1", identity.publicKey, ["10.0.0.1:1"], [], 0, offer.expiresAt,
      "signature"⟩ }

/-- A session that is about to expire. -/
def session : RemoteDesktopSession where
  lease :=
    { schema := RemoteDesktopLeaseV1.schemaName
      leaseId := 3
      sessionId := 5
      nodeId := 77
      controllerEndpointId := "controller"
      mode := .view
      maxWidth := 1920
      maxHeight := 1080
      maxFps := 10
      issuedAt := 0
      expiresAt := seconds 5
      nonce := "nonce"
      fencingEpoch := 0
      signature := "signature" }
  controlStarted := false

/-- The node enrols and publishes its offer, a session is opened, and a frame request has read it and found the
offer. -/
def renewing : List Act :=
  [.createInvite, .enroll enrollment, .arrive (.registerOffer assistOffer), .run 0 true, .run 0 true, .run 0 true,
    .run 0 true, .openSession 5 session, .arrive (.frame 5), .run 0 true, .run 0 true, .run 0 true]

/-- STOP arrives and runs up to its last effect. -/
def stopping : List Act :=
  [.arrive .stop, .acquire 1, .proceed, .proceed, .proceed, .proceed, .proceed]

end Scenario
/-- STOP closes a session whose renewal was written back before. -/
theorem closed_sessions_stay_closed_stop :
    (fabric Scenario.reachable Scenario.peers Scenario.world).Meets (fun f act => respectsClosing Scenario.world f act = true)
      (Scenario.renewing ++ [.run 0 true, .run 0 true] ++ Scenario.stopping ++ [.proceed, .arrive (.frame 5), .run 1 true])
      (.initial 0 fun _ => .error "missing") ∧
    StaysClosed Scenario.reachable Scenario.peers Scenario.world (.initial 0 fun _ => .error "missing")
      (Scenario.renewing ++ [.run 0 true, .run 0 true] ++ Scenario.stopping ++ [.proceed, .arrive (.frame 5), .run 1 true]) := by
  have hm : (fabric Scenario.reachable Scenario.peers Scenario.world).Meets
      (fun f act => respectsClosing Scenario.world f act = true)
      (Scenario.renewing ++ [.run 0 true, .run 0 true] ++ Scenario.stopping ++ [.proceed, .arrive (.frame 5), .run 1 true])
      (.initial 0 fun _ => .error "missing") := by decide +kernel
  exact ⟨hm, closed_sessions_stay_closed _ _ _ _ _ _ hm⟩

/-- A renewal that STOP has overtaken puts its session back after STOP has answered. -/
theorem overtaken_renewal_reopens_session : ¬ ∀ (cfg : Config) (x : Peers) (w : World) (epoch : Nat)
    (head : String → Except String ArtifactRefV1) (acts : List Act), StaysClosed cfg x w (.initial epoch head) acts := by
  intro h
  have hrun := h Scenario.reachable Scenario.peers Scenario.world 0 (fun _ => .error "missing")
    ((Scenario.renewing ++ Scenario.stopping) ++ .proceed :: ([.run 0 true, .run 0 true] ++ []))
    (Scenario.renewing ++ Scenario.stopping) .proceed [.run 0 true, .run 0 true] [] rfl 5
    (Or.inr (Or.inl (by decide +kernel)))
  have hpresent : ((fabric Scenario.reachable Scenario.peers Scenario.world).exec
      ((Scenario.renewing ++ Scenario.stopping) ++ .proceed :: [.run 0 true, .run 0 true])
      (.initial 0 fun _ => .error "missing")).desk.remoteDesktopSessions.lookup 5 ≠ none := by decide +kernel
  exact hpresent hrun.1

end Rampage.Controller
