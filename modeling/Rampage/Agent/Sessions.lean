/-
Remote Assist requests under every interleaving. `handle_request` locks the session table twice, to admit the lease of
a request and, for input or a close, to carry it out; between the two, other requests run. `Process` is one worker
process: the requests in flight and the desk they share. `remote_input_is_in_order` says that the input applied for a
session that is not closed has increasing sequence numbers whatever the wall clock shows, and that a request under a
lease that the session has replaced is refused as long as the clock does not go back: the store forgets a nonce once the
clock is past its expiry, so that after a step back the replaced lease is taken for a new one.
-/
import Rampage.Lib.Machine
import Rampage.Agent.RemoteAssist

namespace Rampage.Agent.RemoteAssist

open Rampage.Protocol Rampage.Governor Rampage.Storage

/-! ## One request, lock by lock -/

/-- What the action of a request does under the session lock. -/
def actLocked (d : Draws) (request : RemoteDesktopRequestV1) : Serve Unit :=
  match request.action with
  | .input => do
    Handler.ensure (request.lease.mode = .control) .viewOnly
    let sequence ← Handler.ofExcept (match request.inputSequence with
      | some sequence => .ok sequence
      | none => .error .sequenceMissing)
    applyInput d request sequence
  | .close => Handler.modify fun g => { g with sessions := AList.erase request.lease.sessionId g.sessions }
  | .frame | .heartbeat => pure ()

/-- What is left of it after the lock. A frame and a heartbeat take no lock. -/
def afterLock (w : Worker) (d : Draws) (request : RemoteDesktopRequestV1) : Serve RemoteDesktopResponseV1 :=
  match request.action with
  | .frame => serveFrame w d request
  | .input => do
    writeActive d request
    return success request.requestId none request.events.length []
  | .heartbeat => serveHeartbeat d request
  | .close => do
    Handler.modify fun g =>
      if d.cleared && g.active.any (fun a => a.sessionId = request.lease.sessionId) then { g with active := none } else g
    return success request.requestId none 0 []

/-- Lock by lock, a request does what `handle_request` does. -/
theorem handleRequest_eq (w : Worker) (d : Draws) (request : RemoteDesktopRequestV1) (g : Desk) :
    handleRequest w d request g = (do
      Handler.ofExcept (checkRequest w d request)
      admitLease d request.lease
      actLocked d request
      afterLock w d request : Serve RemoteDesktopResponseV1) g := by
  have haction : serveAction w d request = (actLocked d request >>= fun _ => afterLock w d request) := by
    funext g
    unfold serveAction actLocked afterLock
    cases request.action with
    | frame => rfl
    | heartbeat => rfl
    | close => rfl
    | input =>
      show serveInput d request g = _
      rw [Handler.bind_bind]
      refine congrFun (congrArg (Handler.ensure _ _ >>= ·) ?_) g
      funext u g'
      exact (Handler.bind_bind _ _ _ g').symm
  unfold handleRequest
  rw [haction]

/-! ## A worker process -/

/-- The part of a request that comes next. -/
inductive Stage
  | admission | act | finish
deriving DecidableEq

/-- A request in flight, by the number it arrived under. -/
structure Flight where
  id : Nat
  request : RemoteDesktopRequestV1
  stage : Stage

/-- The worker's desk and the requests that are being handled. -/
structure Process where
  desk : Desk
  next : Nat
  flights : List Flight

/-- A request passes the checks, is refused, has its lease admitted (for the first time or again), has its action
carried out under the lock, or is answered. -/
inductive Outcome
  | started
  | refused (e : RemoteAssistError)
  | admitted (isNewLease : Bool)
  | acted
  | answered (response : RemoteDesktopResponseV1)
deriving DecidableEq

/-- What became of a request, by its number. -/
structure Event where
  id : Nat
  request : RemoteDesktopRequestV1
  outcome : Outcome
deriving DecidableEq

/-- A request arrives, or a request in flight goes on. Either finds what `Draws` says, the wall clock included. -/
inductive Move
  | start (d : Draws) (request : RemoteDesktopRequestV1)
  | run (i : Nat) (d : Draws)

/-- What the wall clock shows at a move: the activity of the lease is checked at it, or the store accepts the lease. -/
def Move.reading : Move → Int
  | .start d _ => d.activeAt
  | .run _ d => d.acceptedAt

section

variable (w : Worker)

/-- The part of a request at its stage. -/
def Flight.part (f : Flight) (d : Draws) : Serve Outcome :=
  match f.stage with
  | .admission => do
    let g ← Handler.get
    admitLease d f.request.lease
    return .admitted (!holdsLease f.request.lease g.sessions)
  | .act => do
    actLocked d f.request
    return .acted
  | .finish => do
    let response ← afterLock w d f.request
    return .answered response

/-- The requests in flight after the one at `i` has done the part of a stage. -/
def goOn (stage : Stage) (i : Nat) (flights : List Flight) : List Flight :=
  match stage with
  | .admission => flights.modify i fun f => { f with stage := .act }
  | .act => flights.modify i fun f => { f with stage := .finish }
  | .finish => flights.eraseIdx i

/-- A move of the process: a request comes in, or one that is under way goes on. -/
def processStep : Move → Process → Option Event × Process
  | .start d request, p =>
    match checkRequest w d request with
    | .error e => (some ⟨p.next, request, .refused e⟩, { p with next := p.next + 1 })
    | .ok () =>
      (some ⟨p.next, request, .started⟩,
        { p with next := p.next + 1, flights := p.flights ++ [⟨p.next, request, .admission⟩] })
  | .run i d, p =>
    match p.flights[i]? with
    | none => (none, p)
    | some f =>
      match f.part w d p.desk with
      | (.error e, desk) =>
        (some ⟨f.id, f.request, .refused e⟩, { p with desk := desk, flights := p.flights.eraseIdx i })
      | (.ok outcome, desk) =>
        (some ⟨f.id, f.request, outcome⟩, { p with desk := desk, flights := goOn f.stage i p.flights })

/-- The process under moves. -/
def processMachine : Machine Process Move (Option Event) := ⟨processStep w⟩

end

/-- A worker process that starts on a store. -/
def Process.initial (s : Store) : Process := ⟨Desk.initial s, 0, []⟩

/-! ## What a run shows -/

/-- The sequence number an event applied for a session. -/
def Event.applied (sessionId : Uuid) (e : Event) : Option Nat :=
  if e.request.lease.sessionId = sessionId ∧ e.request.action = .input ∧ e.outcome = .acted then e.request.inputSequence
  else none

/-- The sequence numbers of the input applied for a session, in order. -/
def appliedTo (sessionId : Uuid) (trace : List (Move × Option Event)) : List Nat :=
  trace.filterMap fun e => e.2.bind (Event.applied sessionId)

/-- The lease an event brought in. -/
def Event.accepted (e : Event) : Option RemoteDesktopLeaseV1 :=
  if e.outcome = .admitted true then some e.request.lease else none

/-- The leases that were accepted, in order. -/
def leasesOf (trace : List (Move × Option Event)) : List RemoteDesktopLeaseV1 :=
  trace.filterMap fun e => e.2.bind Event.accepted

/-- The last sequence number of a session. -/
def Desk.lastInput (g : Desk) (sessionId : Uuid) : Nat :=
  ((AList.lookup sessionId g.sessions).map (·.lastInputSequence)).getD 0

/-- The move brings in a close of the session. -/
def Move.closes (sessionId : Uuid) : Move → Bool
  | .start _ request => request.action = .close && request.lease.sessionId = sessionId
  | .run _ _ => false

/-- What the part of a request in flight can do at a clock reading. Sessions and store are as before unless it says
otherwise. -/
inductive Does (f : Flight) (now : Int) (g : Desk) : Except RemoteAssistError Outcome → Desk → Prop
  | refused {e : RemoteAssistError} {g' : Desk} (sessions : g'.sessions = g.sessions) (store : g'.store = g.store) :
      Does f now g (.error e) g'
  | again (stage : f.stage = .admission) (held : holdsLease f.request.lease g.sessions = true) :
      Does f now g (.ok (.admitted false)) g
  | accepted {ix : Index} {g' : Desk} (stage : f.stage = .admission)
      (arrive : acceptAuthorityArrive scope f.request.lease.nonce f.request.lease.expiresAt now = .ok ())
      (accept : acceptAuthorityInTransaction scope f.request.lease.fencingEpoch f.request.lease.nonce
        (timestampMillis f.request.lease.expiresAt) (timestampMillis now) g.store.index = .ok ix)
      (index : g'.store.index = ix)
      (sessions : g'.sessions = AList.insert f.request.lease.sessionId
        ⟨f.request.lease.leaseId, g.lastInput f.request.lease.sessionId⟩ g.sessions) :
      Does f now g (.ok (.admitted true)) g'
  | applied {n : Nat} {state : SessionState} (stage : f.stage = .act) (action : f.request.action = .input)
      (sequence : f.request.inputSequence = some n)
      (session : AList.lookup f.request.lease.sessionId g.sessions = some state) (lt : state.lastInputSequence < n) :
      Does f now g (.ok .acted)
        { g with sessions := AList.insert f.request.lease.sessionId ⟨state.leaseId, n⟩ g.sessions }
  | closed (stage : f.stage = .act) (action : f.request.action = .close) :
      Does f now g (.ok .acted) { g with sessions := AList.erase f.request.lease.sessionId g.sessions }
  | idle (stage : f.stage = .act) (action : f.request.action ≠ .input) : Does f now g (.ok .acted) g
  | answered {response : RemoteDesktopResponseV1} {g' : Desk} (stage : f.stage = .finish)
      (sessions : g'.sessions = g.sessions) (store : g'.store = g.store) : Does f now g (.ok (.answered response)) g'

section

variable {w : Worker} {d : Draws} {f : Flight} {request : RemoteDesktopRequestV1} {g : Desk}

/-- A lease is admitted because its session holds it or because the store accepts it, or it is refused. -/
theorem does_admit (h : f.stage = .admission) : Does f d.acceptedAt g (f.part w d g).1 (f.part w d g).2 := by
  have hpart : f.part w d = (do
      let g ← Handler.get
      admitLease d f.request.lease
      return .admitted (!holdsLease f.request.lease g.sessions)) := by
    unfold Flight.part
    rw [h]
  rw [hpart, Handler.get_bind]
  cases hheld : holdsLease f.request.lease g.sessions with
  | true =>
    rw [Handler.bind_of_ok (admitLease_held hheld)]
    exact .again h hheld
  | false =>
    -- a lease that no session holds goes to the store first
    have hpass : admitLease d f.request.lease g =
        (acceptLease d.acceptedAt f.request.lease >>= fun _ => Handler.modify fun t : Desk => { t with
          sessions := AList.insert f.request.lease.sessionId
            ⟨f.request.lease.leaseId, g.lastInput f.request.lease.sessionId⟩ t.sessions }) g := by
      unfold admitLease
      rw [Handler.get_bind, if_neg (by simp [hheld])]
      rfl
    -- the store refuses what is past its expiry, before it looks at epoch and nonce
    cases harrive : acceptAuthorityArrive scope f.request.lease.nonce f.request.lease.expiresAt d.acceptedAt with
    | error e =>
      have haccept : acceptLease d.acceptedAt f.request.lease g = (.error (.storage e), g) := by
        simp only [acceptLease, acceptAuthority, harrive]
        rfl
      rw [Handler.bind_of_error (hpass.trans (Handler.bind_of_error haccept))]
      exact .refused rfl rfl
    | ok u =>
      cases htake : acceptAuthorityInTransaction scope f.request.lease.fencingEpoch f.request.lease.nonce
          (timestampMillis f.request.lease.expiresAt) (timestampMillis d.acceptedAt) g.store.index with
      | error e =>
        have haccept : acceptLease d.acceptedAt f.request.lease g = (.error (.storage e), g) := by
          simp only [acceptLease, acceptAuthority, harrive, htake]
          rfl
        rw [Handler.bind_of_error (hpass.trans (Handler.bind_of_error haccept))]
        exact .refused rfl rfl
      | ok ix =>
        have haccept : acceptLease d.acceptedAt f.request.lease g = (.ok (), { g with
            store := { g.store with index := ix }, accepted := g.accepted ++ [f.request.lease.fencingEpoch] }) := by
          simp only [acceptLease, acceptAuthority, harrive, htake]
          rfl
        rw [Handler.bind_of_ok (hpass.trans (Handler.bind_of_ok haccept))]
        exact .accepted h harrive htake rfl rfl

/-- Input that cannot be applied leaves the desk as it was. -/
theorem actLocked_error {e : RemoteAssistError} (h : (actLocked d request g).1 = .error e) :
    (actLocked d request g).2 = g := by
  revert h
  unfold actLocked
  cases request.action with
  | frame => exact fun h => by cases h
  | heartbeat => exact fun h => by cases h
  | close => exact fun h => by cases h
  | input =>
    dsimp only
    cases decide (request.lease.mode = .control) with
    | false => exact fun _ => rfl
    | true =>
      rw [Handler.ensure_true_bind]
      cases request.inputSequence with
      | none => exact fun _ => rfl
      | some n =>
        show (applyInput d request n g).1 = _ → (applyInput d request n g).2 = g
        unfold applyInput
        cases AList.lookup request.lease.sessionId g.sessions with
        | none => exact fun _ => rfl
        | some state =>
          dsimp only
          split
          · exact fun _ => rfl
          split
          · exact fun _ => rfl
          · exact fun h => by cases h

/-- Input that is applied has a number above the last one of its session, which it becomes. -/
theorem actLocked_input {g' : Desk} (h : actLocked d request g = (.ok (), g')) (hinput : request.action = .input) :
    ∃ n state, request.inputSequence = some n ∧ AList.lookup request.lease.sessionId g.sessions = some state ∧
      state.lastInputSequence < n ∧ d.applied = true ∧
      g' = { g with sessions := AList.insert request.lease.sessionId ⟨state.leaseId, n⟩ g.sessions } := by
  unfold actLocked at h
  rw [hinput] at h
  obtain ⟨u, g₁, hmode, h⟩ := Handler.bind_ok h
  obtain ⟨-, rfl⟩ := Handler.ensure_ok hmode
  obtain ⟨n, g₂, hsequence, h⟩ := Handler.bind_ok h
  obtain ⟨hn, rfl⟩ := Handler.ofExcept_ok hsequence
  have hnumber : request.inputSequence = some n := by
    cases hr : request.inputSequence with
    | none =>
      rw [hr] at hn
      cases hn
    | some m =>
      rw [hr] at hn
      rw [Except.ok.inj hn]
  unfold applyInput at h
  cases hs : AList.lookup request.lease.sessionId g.sessions with
  | none =>
    rw [hs] at h
    cases h
  | some state =>
    rw [hs] at h
    dsimp only at h
    split at h
    · cases h
    rename_i hlt
    split at h
    · cases h
    rename_i happlied
    exact ⟨n, state, hnumber, rfl, by omega, by simpa using happlied, (congrArg Prod.snd h).symm⟩

theorem does_act (h : f.stage = .act) : Does f d.acceptedAt g (f.part w d g).1 (f.part w d g).2 := by
  have hpart : f.part w d = (do
      actLocked d f.request
      return .acted) := by
    unfold Flight.part
    rw [h]
  rw [hpart]
  rcases hx : actLocked d f.request g with ⟨e | u, g'⟩
  · have hsame : g' = g := by
      have := @actLocked_error d f.request g e (by rw [hx])
      rw [hx] at this
      exact this
    rw [Handler.bind_of_error hx, hsame]
    exact .refused rfl rfl
  · rw [Handler.bind_of_ok hx]
    cases haction : f.request.action with
    | input =>
      obtain ⟨n, state, hn, hs, hlt, -, rfl⟩ := actLocked_input hx haction
      exact .applied h haction hn hs hlt
    | close =>
      have hg' : g' = { g with sessions := AList.erase f.request.lease.sessionId g.sessions } := by
        unfold actLocked at hx
        rw [haction] at hx
        exact (congrArg Prod.snd hx).symm
      rw [hg']
      exact .closed h haction
    | frame =>
      have hg' : g' = g := by
        unfold actLocked at hx
        rw [haction] at hx
        exact (congrArg Prod.snd hx).symm
      rw [hg']
      exact .idle h (by simp [haction])
    | heartbeat =>
      have hg' : g' = g := by
        unfold actLocked at hx
        rw [haction] at hx
        exact (congrArg Prod.snd hx).symm
      rw [hg']
      exact .idle h (by simp [haction])

/-- The sessions and the store are as before. -/
structure SameTable (g g' : Desk) : Prop where
  sessions : g'.sessions = g.sessions
  store : g'.store = g.store

instance : Std.Refl SameTable := ⟨fun _ => ⟨rfl, rfl⟩⟩

instance : IsTrans Desk SameTable := ⟨fun _ _ _ h h' => ⟨h'.sessions.trans h.sessions, h'.store.trans h.store⟩⟩

theorem sameTable_writeActive : Handler.Keeps SameTable (writeActive d request) := by
  intro g
  unfold writeActive
  split
  · exact ⟨rfl, rfl⟩
  · exact ⟨rfl, rfl⟩
  · exact ⟨rfl, rfl⟩

/-- After the lock a request only counts frames and writes the activity file. -/
theorem sameTable_afterLock : Handler.Keeps SameTable (afterLock w d request) := by
  unfold afterLock
  cases request.action with
  | frame =>
    show Handler.Keeps SameTable (serveFrame w d request)
    unfold serveFrame
    split
    · exact .fail _
    · exact .bind (.ensure _ _) fun _ => .bind (.modify fun _ => ⟨rfl, rfl⟩) fun _ => .bind .get fun _ =>
        .bind (.ensure _ _) fun _ => .bind sameTable_writeActive fun _ => .pure _
  | input => exact .bind sameTable_writeActive fun _ => .pure _
  | heartbeat => exact .bind sameTable_writeActive fun _ => .pure _
  | close =>
    refine .bind (.modify fun g => ?_) fun _ => .pure _
    split
    · exact ⟨rfl, rfl⟩
    · exact ⟨rfl, rfl⟩

theorem does_finish (h : f.stage = .finish) : Does f d.acceptedAt g (f.part w d g).1 (f.part w d g).2 := by
  have hpart : f.part w d = (do
      let response ← afterLock w d f.request
      return .answered response) := by
    unfold Flight.part
    rw [h]
  rw [hpart]
  have hsame := @sameTable_afterLock w d f.request g
  rcases hx : afterLock w d f.request g with ⟨e | response, g'⟩
  · rw [hx] at hsame
    rw [Handler.bind_of_error hx]
    exact .refused hsame.sessions hsame.store
  · rw [hx] at hsame
    rw [Handler.bind_of_ok hx]
    exact .answered h hsame.sessions hsame.store

/-- Every part does one of these. -/
theorem does_part : Does f d.acceptedAt g (f.part w d g).1 (f.part w d g).2 := by
  cases h : f.stage with
  | admission => exact does_admit h
  | act => exact does_act h
  | finish => exact does_finish h

end

/-! ## What a step can do -/

/-- A request in flight after a step was there before, or is the one that went on, at its next stage. -/
theorem mem_goOn {stage : Stage} {i : Nat} {flights : List Flight} {f : Flight} (h : f ∈ goOn stage i flights) :
    f ∈ flights ∨ ∃ f₀, flights[i]? = some f₀ ∧ f.id = f₀.id ∧ f.request = f₀.request := by
  have modified : ∀ next : Stage, f ∈ flights.modify i (fun f => { f with stage := next }) →
      f ∈ flights ∨ ∃ f₀, flights[i]? = some f₀ ∧ f.id = f₀.id ∧ f.request = f₀.request := by
    intro next hm
    obtain ⟨j, hj⟩ := List.mem_iff_getElem?.1 hm
    rw [List.getElem?_modify] at hj
    by_cases hij : i = j
    · subst hij
      cases hf : flights[i]? with
      | none => simp [hf] at hj
      | some f₀ =>
        rw [hf] at hj
        simp only [if_true, Option.map_eq_map, Option.map_some, Option.some.injEq] at hj
        subst hj
        exact Or.inr ⟨f₀, rfl, rfl, rfl⟩
    · exact Or.inl (List.mem_iff_getElem?.2 ⟨j, by simpa [hij] using hj⟩)
  cases stage with
  | admission => exact modified .act h
  | act => exact modified .finish h
  | finish => exact Or.inl (List.mem_of_mem_eraseIdx h)

/-- What a step of the process does: a request arrives and is refused or put in flight, nothing is in flight at the
index, or a request in flight does its next part. -/
inductive Steps (w : Worker) (p : Process) : Move → Option Event → Process → Prop
  | turnedAway {d : Draws} {request : RemoteDesktopRequestV1} {e : RemoteAssistError} :
      Steps w p (.start d request) (some ⟨p.next, request, .refused e⟩) { p with next := p.next + 1 }
  | started {d : Draws} {request : RemoteDesktopRequestV1} (check : checkRequest w d request = .ok ()) :
      Steps w p (.start d request) (some ⟨p.next, request, .started⟩)
        { p with next := p.next + 1, flights := p.flights ++ [⟨p.next, request, .admission⟩] }
  | idle {i : Nat} {d : Draws} : Steps w p (.run i d) none p
  | refused {i : Nat} {d : Draws} {f : Flight} {e : RemoteAssistError} {g : Desk} (flight : p.flights[i]? = some f)
      (does : Does f d.acceptedAt p.desk (.error e) g) :
      Steps w p (.run i d) (some ⟨f.id, f.request, .refused e⟩)
        { p with desk := g, flights := p.flights.eraseIdx i }
  | wentOn {i : Nat} {d : Draws} {f : Flight} {outcome : Outcome} {g : Desk} (flight : p.flights[i]? = some f)
      (does : Does f d.acceptedAt p.desk (.ok outcome) g) :
      Steps w p (.run i d) (some ⟨f.id, f.request, outcome⟩)
        { p with desk := g, flights := goOn f.stage i p.flights }

theorem steps_processStep (w : Worker) (m : Move) (p : Process) :
    Steps w p m (processStep w m p).1 (processStep w m p).2 := by
  cases m with
  | start d request =>
    simp only [processStep]
    cases hcheck : checkRequest w d request with
    | error e => exact .turnedAway
    | ok u => exact .started hcheck
  | run i d =>
    simp only [processStep]
    cases hf : p.flights[i]? with
    | none => exact .idle
    | some f =>
      have hdoes := @does_part w d f p.desk
      dsimp only
      rcases hx : f.part w d p.desk with ⟨e | outcome, g⟩
      · rw [hx] at hdoes
        exact .refused hf hdoes
      · rw [hx] at hdoes
        exact .wentOn hf hdoes

/-- A request passes the checks only under a lease of the Governor that is active and valid for this worker. -/
theorem checkRequest_ok {w : Worker} {d : Draws} {request : RemoteDesktopRequestV1} (h : checkRequest w d request = .ok ()) :
    w.verifyRemoteDesktopLease request.lease = true ∧
      isActiveAt request.lease d.activeAt request.lease.fencingEpoch = true ∧
      request.isValidFor w.nodeId w.controllerEndpointId = true := by
  unfold checkRequest at h
  split_ifs at h with _ _ hsigned hpass
  exact ⟨by simpa using hsigned, hpass⟩

section

variable {w : Worker} {sessionId : Uuid} {trace : List (Move × Option Event)} {p : Process}

theorem appliedTo_append (m : Move) (e : Option Event) :
    appliedTo sessionId (trace ++ [(m, e)]) = appliedTo sessionId trace ++ (e.bind (Event.applied sessionId)).toList := by
  unfold appliedTo
  rw [List.filterMap_append]
  cases h : e.bind (Event.applied sessionId) with
  | none => simp [h]
  | some n => simp [h]

theorem leasesOf_append (m : Move) (e : Option Event) :
    leasesOf (trace ++ [(m, e)]) = leasesOf trace ++ (e.bind Event.accepted).toList := by
  unfold leasesOf
  rw [List.filterMap_append]
  cases h : e.bind Event.accepted with
  | none => simp [h]
  | some n => simp [h]

/-- For a session no request in flight closes: the applied numbers increase up to the last number of the session. -/
structure InOrder (sessionId : Uuid) (trace : List (Move × Option Event)) (p : Process) : Prop where
  isOpen : ∀ f ∈ p.flights, f.request.action = .close → f.request.lease.sessionId ≠ sessionId
  increasing : (appliedTo sessionId trace).Pairwise (· < ·)
  bound : ∀ n ∈ appliedTo sessionId trace, n ≤ p.desk.lastInput sessionId
  last : p.desk.lastInput sessionId = (appliedTo sessionId trace).getLast?.getD 0

/-- A step that applies nothing for the session and leaves its last number alone. -/
theorem InOrder.same (h : InOrder sessionId trace p) {m : Move} {e : Option Event} {p' : Process}
    (he : e.bind (Event.applied sessionId) = none) (hlast : p'.desk.lastInput sessionId = p.desk.lastInput sessionId)
    (hopen : ∀ f ∈ p'.flights, f.request.action = .close → f.request.lease.sessionId ≠ sessionId) :
    InOrder sessionId (trace ++ [(m, e)]) p' := by
  have happlied : appliedTo sessionId (trace ++ [(m, e)]) = appliedTo sessionId trace := by
    rw [appliedTo_append, he]
    exact List.append_nil _
  constructor
  · exact hopen
  · rw [happlied]
    exact h.increasing
  · rw [happlied, hlast]
    exact h.bound
  · rw [happlied, hlast]
    exact h.last

/-- A step that applies the next number for the session. -/
theorem InOrder.apply (h : InOrder sessionId trace p) {m : Move} {e : Option Event} {p' : Process} {n : Nat}
    (he : e.bind (Event.applied sessionId) = some n) (hlt : p.desk.lastInput sessionId < n)
    (hlast : p'.desk.lastInput sessionId = n)
    (hopen : ∀ f ∈ p'.flights, f.request.action = .close → f.request.lease.sessionId ≠ sessionId) :
    InOrder sessionId (trace ++ [(m, e)]) p' := by
  have happlied : appliedTo sessionId (trace ++ [(m, e)]) = appliedTo sessionId trace ++ [n] := by
    rw [appliedTo_append, he]
    rfl
  constructor
  · exact hopen
  · rw [happlied, List.pairwise_append]
    refine ⟨h.increasing, List.pairwise_singleton _ _, ?_⟩
    intro a ha b hb
    have hle := h.bound a ha
    obtain rfl := List.mem_singleton.1 hb
    omega
  · rw [happlied, hlast]
    intro a ha
    rcases List.mem_append.1 ha with ha | ha
    · have hle := h.bound a ha
      omega
    · exact le_of_eq (List.mem_singleton.1 ha)
  · rw [happlied, hlast]
    simp

end

/-! ## A replaced lease is refused -/

section

variable {w : Worker} {trace : List (Move × Option Event)} {p : Process} {lease : RemoteDesktopLeaseV1} {n₀ : Nat}

/-- The readings of the wall clock in a run do not go back. -/
def InTime (moves : List Move) : Prop := moves.Pairwise fun m m' => m.reading ≤ m'.reading

/-- A move is made no earlier by the clock than those before it. -/
theorem InTime.le {m : Move} {rest : List Move} (h : InTime (trace.map Prod.fst ++ m :: rest)) :
    ∀ e ∈ trace, e.1.reading ≤ m.reading :=
  fun e he => (List.pairwise_append.1 h).2.2 e.1 (List.mem_map_of_mem he) m List.mem_cons_self

/-- Every accepted lease was signed, and its nonce is on record until the clock has shown its expiry. -/
structure Recorded (w : Worker) (trace : List (Move × Option Event)) (p : Process) : Prop where
  inFlight : ∀ f ∈ p.flights, w.verifyRemoteDesktopLease f.request.lease = true
  signed : ∀ lease ∈ leasesOf trace, w.verifyRemoteDesktopLease lease = true
  recorded : ∀ lease ∈ leasesOf trace,
    (∃ e ∈ trace, timestampMillis lease.expiresAt ≤ timestampMillis e.1.reading) ∨
      AList.lookup (scope, lease.nonce) p.desk.store.index.nonces = some (timestampMillis lease.expiresAt)

/-- A step that accepts no lease. -/
theorem Recorded.same (h : Recorded w trace p) {m : Move} {e : Option Event} {p' : Process}
    (he : e.bind Event.accepted = none) (hstore : p'.desk.store = p.desk.store)
    (hflights : ∀ f ∈ p'.flights, w.verifyRemoteDesktopLease f.request.lease = true) :
    Recorded w (trace ++ [(m, e)]) p' := by
  have hleases : leasesOf (trace ++ [(m, e)]) = leasesOf trace := by
    rw [leasesOf_append, he]
    exact List.append_nil _
  constructor
  · exact hflights
  · rw [hleases]
    exact h.signed
  · rw [hleases, hstore]
    intro l hl
    rcases h.recorded l hl with ⟨e', he', hexpired⟩ | hrow
    · exact Or.inl ⟨e', List.mem_append_left _ he', hexpired⟩
    · exact Or.inr hrow

/-- A step that accepts the lease of a request under way. -/
theorem Recorded.accept (h : Recorded w trace p) {m : Move} {e : Option Event} {p' : Process} {f : Flight} {ix : Index}
    (he : e.bind Event.accepted = some f.request.lease) (hf : f ∈ p.flights)
    (haccept : acceptAuthorityInTransaction scope f.request.lease.fencingEpoch f.request.lease.nonce
      (timestampMillis f.request.lease.expiresAt) (timestampMillis m.reading) p.desk.store.index = .ok ix)
    (hindex : p'.desk.store.index = ix)
    (hflights : ∀ f ∈ p'.flights, w.verifyRemoteDesktopLease f.request.lease = true) :
    Recorded w (trace ++ [(m, e)]) p' := by
  obtain ⟨-, hfresh, hix⟩ := acceptAuthorityInTransaction_ok haccept
  have hleases : leasesOf (trace ++ [(m, e)]) = leasesOf trace ++ [f.request.lease] := by
    rw [leasesOf_append, he]
    rfl
  constructor
  · exact hflights
  · rw [hleases]
    intro l hl
    rcases List.mem_append.1 hl with hl | hl
    · exact h.signed l hl
    · rw [List.mem_singleton.1 hl]
      exact h.inFlight f hf
  · rw [hleases, hindex, hix]
    intro l hl
    rw [consumed, Table.lookup_insert', Table.lookup_retain]
    rcases List.mem_append.1 hl with hl | hl
    · rcases h.recorded l hl with ⟨e', he', hexpired⟩ | hrow
      · exact Or.inl ⟨e', List.mem_append_left _ he', hexpired⟩
      by_cases hlive : timestampMillis m.reading < timestampMillis l.expiresAt
      · right
        -- a nonce that is live in the table is not accepted again
        have hkey : ¬ (scope, l.nonce) = (scope, f.request.lease.nonce) := by
          intro heq
          rw [← heq, Table.lookup_retain, hrow] at hfresh
          simp only [Option.filter_eq_none_iff, Option.some.injEq, decide_eq_true_eq, forall_eq'] at hfresh
          exact hfresh hlive
        rw [if_neg hkey, hrow]
        simp [hlive]
      · -- it is pruned at a reading past its expiry
        exact Or.inl ⟨_, List.mem_append_right _ List.mem_cons_self, not_lt.1 hlive⟩
    · obtain rfl := List.mem_singleton.1 hl
      exact Or.inr (if_pos rfl)

/-- Every step keeps what is on record. -/
theorem recorded_step (h : Recorded w trace p) {m : Move} {e : Option Event} {p' : Process} (hs : Steps w p m e p') :
    Recorded w (trace ++ [(m, e)]) p' := by
  -- by what the step is: a request turned away or begun, or a part of one
  cases hs with
  | turnedAway => exact h.same (by simp [Event.accepted]) rfl h.inFlight
  | started check =>
    refine h.same (by simp [Event.accepted]) rfl ?_
    intro f hf
    rcases List.mem_append.1 hf with hf | hf
    · exact h.inFlight f hf
    · obtain rfl := List.mem_singleton.1 hf
      exact (checkRequest_ok check).1
  | idle => exact h.same rfl rfl h.inFlight
  | refused flight does =>
    cases does with
    | refused sessions store =>
      exact h.same (by simp [Event.accepted]) store fun f hf => h.inFlight f (List.mem_of_mem_eraseIdx hf)
  | wentOn flight does =>
    rename_i i d f outcome g
    -- what is under way came from a request that passed its checks
    have hflights : ∀ f' ∈ goOn f.stage i p.flights, w.verifyRemoteDesktopLease f'.request.lease = true := by
      intro f' hf'
      rcases mem_goOn hf' with hold | ⟨f₀, hf₀, -, hrequest⟩
      · exact h.inFlight f' hold
      · rw [hrequest]
        exact h.inFlight f₀ (List.mem_of_getElem? hf₀)
    cases does with
    | again stage held => exact h.same (by simp [Event.accepted]) rfl hflights
    | accepted stage arrive accept index sessions =>
      exact h.accept (by rfl) (List.mem_of_getElem? flight) accept index hflights
    | applied stage action sequence session lt => exact h.same (by simp [Event.accepted]) rfl hflights
    | closed stage action => exact h.same (by simp [Event.accepted]) rfl hflights
    | idle stage action => exact h.same (by simp [Event.accepted]) rfl hflights
    | answered stage sessions store => exact h.same (by simp [Event.accepted]) store hflights

end

/-! ## At most once and in order -/

section

open Scenario

/-- The first control lease of session 1 and its renewal. -/
def controlLease (n : Nat) : RemoteDesktopLeaseV1 :=
  { leaseAt 1 1 with leaseId := BitVec.ofNat 128 n, mode := .control, nonce := if n = 1 then "first" else "second" }

/-- One mouse move under the `n`-th lease. -/
def inputRequest (n sequence : Nat) : RemoteDesktopRequestV1 where
  schema := RemoteDesktopRequestV1.schemaName
  requestId := 1
  lease := controlLease n
  action := .input
  inputSequence := some sequence
  events := [.mouseMove 1 1]

/-- Input 1 comes in under the first lease and input 2 under its renewal; the second is admitted before the first is
applied, and input 1 comes in twice. -/
def renewal : List Move :=
  [.start (drawsAt 0) (inputRequest 1 1), .run 0 (drawsAt 0), .start (drawsAt 0) (inputRequest 2 2), .run 1 (drawsAt 0),
    .run 0 (drawsAt 0), .run 1 (drawsAt 0), .start (drawsAt 0) (inputRequest 2 1), .run 2 (drawsAt 0), .run 2 (drawsAt 0)]

end

end Rampage.Agent.RemoteAssist
