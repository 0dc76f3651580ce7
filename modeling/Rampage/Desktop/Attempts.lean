/-
Attempts to join a fabric. `begin_worker` starts a background loop for each attempt and gives it a generation; `cancel_worker`
moves the generation on, and a loop finds out at the top of its next turn. One that is blocked on its socket by then still takes
the datagram it wakes up for. What keeps out the invitation of a superseded loop are the markers of the runtime directory, which
all attempts share (`superseded_enrolment_iff`).
-/
import Rampage.Desktop.Crash
import Rampage.Pairing.Delivery

namespace Rampage.Desktop

open Handler Disk
open Rampage.Pairing

/-! ## The pairing manager -/

/-- What the worker's screen shows of the pairing. -/
inductive WorkerPairingView
  | idle
  | searching (requestId : String) (expiresAtMs : Nat)
  | waitingApproval (requestId ownerName verificationCode : String) (expiresAtMs : Nat)
  | approved (requestId ownerName : String)
  | failed (message : String)
deriving DecidableEq

/-- The worker's part of `PairingInner`. -/
structure Manager where
  workerGeneration : Nat
  worker : WorkerPairingView
deriving DecidableEq

namespace Manager

/-- No attempt has been made. -/
def new : Manager := ⟨0, .idle⟩

/-- `cancel_worker`. -/
def cancelWorker (m : Manager) : Manager := ⟨U64.satAdd m.workerGeneration 1, .idle⟩

/-- `set_worker_status`. -/
def setWorkerStatus (generation : Nat) (status : WorkerPairingView) (m : Manager) : Manager :=
  if m.workerGeneration = generation then { m with worker := status } else m

/-- `generation_is_current`. -/
def generationIsCurrent (m : Manager) (generation : Nat) : Bool := m.workerGeneration == generation

/-- An attempt is under way. -/
def isBusy (m : Manager) : Bool :=
  match m.worker with
  | .searching _ _ => true
  | .waitingApproval _ _ _ _ => true
  | _ => false

end Manager

/-! ## The loops -/

/-- Where the task of an attempt is. -/
inductive Phase
  /-- `begin_worker` has its generation and no request yet. -/
  | beginning
  /-- The loop is spawned and has no socket yet. -/
  | spawned (requestId : String)
  /-- At the top of `worker_pairing_loop`. -/
  | turning (w : Worker)
  /-- Blocked on the socket and on the timer. -/
  | waiting (w : Worker)
  /-- `finish_worker_enrollment` has decrypted an invitation. `inTime` records whether the generation was current when the
  approval was received; the code does not look. -/
  | enrolling (w : Worker) (invitation : String) (inTime : Bool)
  /-- The invitation is stored, and the owner is told. -/
  | confirming (w : Worker)
  | restarting
  | ended
deriving DecidableEq

/-- A thread of one attempt, by the generation it started in. -/
structure Attempt where
  generation : Nat
  expiresAtMs : Nat
  phase : Phase
deriving DecidableEq

/-- The application, with its runtime directory. -/
structure Joining where
  dir : Dir
  manager : Manager
  attempts : List Attempt

/-- The application has just started. -/
def Joining.start (dir : Dir) : Joining := ⟨dir, .new, []⟩

/-- The end of `cancel_pairing`, after `cancel_worker`. -/
def removePairingIntent : OnDisk Unit :=
  onError (file (.removeFile workerPairingIntentMarker)) fun e =>
    if e.kind = .notFound then pure () else fail ("could not cancel the pairing transaction: " ++ e.text)

/-- What the loop shows of a challenge it takes. -/
def challengeView (c : Crates) (expiresAtMs : Nat) (source : SocketAddr) (d : Option PairingDatagram) (w w' : Worker) :
    Option WorkerPairingView :=
  match d with
  | some (.challenge schema responseId _ publicKey _) =>
    if schema ≠ pairingSchema ∨ responseId ≠ w.requestId ∨ w.selected.any (fun s => s.addr != source) then none
    else match decode32 publicKey, w'.selected with
    | some ownerPublic, some s =>
      let material := deriveMaterial c (c.diffieHellman w.secret ownerPublic)
        (pairingTranscript w.requestId (c.publicKey w.secret) ownerPublic)
      some (.waitingApproval w.requestId s.ownerName material.verificationCode expiresAtMs)
    | _, _ => none
  | _ => none

/-- What happens next: a command, a part of one, or a step of the `i`-th attempt. A loop that is blocked stays so for as long
as no step is its own, and what a step draws or finds comes with it. -/
inductive Move
  | cancelWorker
  | removeIntent (fails : List Dir → FileOp → Bool)
  /-- A command on the directory; `begin_pairing` prepares it. -/
  | command (command : Command) (listing : Listing) (fails : List Dir → FileOp → Bool)
  | beginWorker (deviceName : String)
  /-- `fresh_hex`, and the clock. -/
  | spawn (i : Nat) (requestId : Option String) (now : Nat)
  /-- `bind_worker_socket` and the secret, or why there is none. -/
  | bind (i : Nat) (secret : Except String Bytes)
  | turn (i now : Nat)
  | tick (i : Nat)
  | receive (i : Nat) (source : SocketAddr) (d : Option PairingDatagram)
  | persist (i : Nat) (token : String) (fails : List Dir → FileOp → Bool)
  /-- The three completion messages, or why they were not sent. -/
  | confirm (i : Nat) (sent : Except String Unit)
  | restart (i : Nat)

namespace Joining

/-- The `i`-th attempt goes on. -/
def goTo (i : Nat) (phase : Phase) (s : Joining) : Joining :=
  { s with attempts := s.attempts.modify i fun a => { a with phase := phase } }

/-- `set_worker_status` by an attempt. -/
def setStatus (a : Attempt) (status : WorkerPairingView) (s : Joining) : Joining :=
  { s with manager := s.manager.setWorkerStatus a.generation status }

/-- The loop returns an error. -/
def failWith (i : Nat) (a : Attempt) (message : String) (s : Joining) : Joining :=
  (s.setStatus a (.failed message)).goTo i .ended

/-- A change of the directory. -/
def onDir (x : OnDisk Unit) (fails : List Dir → FileOp → Bool) (s : Joining) : Joining :=
  { s with dir := (x (Disk.start s.dir fails)).2.now }

/-- The first part of `begin_worker`. -/
def beginWorker (deviceName : String) (s : Joining) : Joining :=
  match boundedLabel deviceName "device name" with
  | .error _ => s
  | .ok _ =>
    if s.manager.isBusy then s
    else
      let generation := U64.satAdd s.manager.workerGeneration 1
      { s with
        manager := { s.manager with workerGeneration := generation }
        attempts := s.attempts ++ [⟨generation, 0, .beginning⟩] }

section

variable (c : Crates) (app : App)

/-- The datagram a loop wakes up for. -/
def receive (i : Nat) (a : Attempt) (w : Worker) (source : SocketAddr) (d : Option PairingDatagram) (s : Joining) : Joining :=
  match w.receive c source d with
  | .pairing w' =>
    match challengeView c a.expiresAtMs source d w w' with
    | none => s.goTo i (.turning w')
    | some view => (s.setStatus a view).goTo i (.turning w')
  | .recovered invitation => s.goTo i (.enrolling w invitation (s.manager.generationIsCurrent a.generation))
  | .failed message => s.failWith i a message
  | .cancelled => s.goTo i .ended

/-- `persist_remote_invite` in `finish_worker_enrollment`; nothing comes between the operations on the directory. -/
def persist (i : Nat) (a : Attempt) (w : Worker) (invitation token : String) (fails : List Dir → FileOp → Bool) (s : Joining) :
    Joining :=
  match (persistRemoteInviteAt app invitation token (Disk.start s.dir fails)).1 with
  | .error message => (s.onDir (persistRemoteInviteAt app invitation token) fails).failWith i a message
  | .ok () => (s.onDir (persistRemoteInviteAt app invitation token) fails).goTo i (.confirming w)

/-- One step. A step of an attempt that is somewhere else changes nothing. -/
def step (move : Move) (s : Joining) : Joining :=
  match move with
  | .cancelWorker => { s with manager := s.manager.cancelWorker }
  | .removeIntent fails => s.onDir removePairingIntent fails
  | .command command listing fails => s.onDir (command.run app listing) fails
  | .beginWorker deviceName => s.beginWorker deviceName
  | .spawn i requestId now =>
    match s.attempts[i]? with
    | some ⟨generation, _, .beginning⟩ =>
      match requestId with
      | none => s.goTo i .ended
      | some requestId =>
        let a : Attempt := ⟨generation, U64.satAdd now workerWaitMs, .spawned requestId⟩
        let s := s.setStatus a (.searching requestId a.expiresAtMs)
        { s with attempts := s.attempts.set i a }
    | _ => s
  | .bind i secret =>
    match s.attempts[i]? with
    | some ⟨generation, expiresAtMs, .spawned requestId⟩ =>
      match secret with
      | .error message => s.failWith i ⟨generation, expiresAtMs, .spawned requestId⟩ message
      | .ok secret => s.goTo i (.turning ⟨requestId, secret, none, none⟩)
    | _ => s
  | .turn i now =>
    match s.attempts[i]? with
    | some ⟨generation, expiresAtMs, .turning w⟩ =>
      if !s.manager.generationIsCurrent generation then s.goTo i .ended
      else if expiresAtMs ≤ now then
        s.failWith i ⟨generation, expiresAtMs, .turning w⟩
          "No owner approved this laptop within fifteen minutes. Try again beside the owner PC."
      else s.goTo i (.waiting w)
    | _ => s
  | .tick i =>
    match s.attempts[i]? with
    | some ⟨_, _, .waiting w⟩ => s.goTo i (.turning w)
    | _ => s
  | .receive i source d =>
    match s.attempts[i]? with
    | some ⟨generation, expiresAtMs, .waiting w⟩ => s.receive c i ⟨generation, expiresAtMs, .waiting w⟩ w source d
    | _ => s
  | .persist i token fails =>
    match s.attempts[i]? with
    | some ⟨generation, expiresAtMs, .enrolling w invitation inTime⟩ =>
      s.persist app i ⟨generation, expiresAtMs, .enrolling w invitation inTime⟩ w invitation token fails
    | _ => s
  | .confirm i sent =>
    match s.attempts[i]? with
    | some ⟨generation, expiresAtMs, .confirming w⟩ =>
      match sent with
      | .error message => s.failWith i ⟨generation, expiresAtMs, .confirming w⟩ message
      | .ok () =>
        (s.setStatus ⟨generation, expiresAtMs, .confirming w⟩
          (.approved w.requestId ((w.selected.map (·.ownerName)).getD ""))).goTo i .restarting
    | _ => s
  | .restart i =>
    match s.attempts[i]? with
    | some ⟨_, _, .restarting⟩ => .start s.dir
    | _ => s

/-- The desktop under starts, cancels and steps of its threads. -/
def joiningMachine : Machine Joining Move Unit := ⟨fun move s => ((), s.step c app move)⟩

end

end Joining

/-! ## Storing an invitation -/

/-- The invitation is accepted, or it is in its place at some moment. -/
def Stores (app : App) (dir : Dir) (invitation token : String) (fails : List Dir → FileOp → Bool) : Prop :=
  (persistRemoteInviteAt app invitation token (Disk.start dir fails)).1 = .ok () ∨
    ∃ s ∈ (persistRemoteInviteAt app invitation token (Disk.start dir fails)).2.passed,
      s.lookup "remote-invite.json" ≠ none ∧ s.lookup "remote-invite.json" ≠ dir.lookup "remote-invite.json"

/-- The invitation is signed, and nothing of the directory stands in its way. -/
def Welcomes (app : App) (dir : Dir) (invitation token : String) : Prop :=
  (∃ parsed, app.parseJson invitation = .ok parsed ∧ isSignedInvite parsed = true) ∧ dir.takesInvite token = true

section

variable {F : List Dir → FileOp → Bool} {app : App} {d : Dir} {invitation token : String}

/-- The invitation is not there, or it is the one that was there before. -/
def NoNewInvite (d s : Dir) : Prop :=
  s.lookup "remote-invite.json" = none ∨ s.lookup "remote-invite.json" = d.lookup "remote-invite.json"

theorem NoNewInvite.erase {s : Dir} (h : NoNewInvite d s) (n : String) : NoNewInvite d (s.erase n) := by
  unfold NoNewInvite
  rw [Table.lookup_erase']
  split
  · exact Or.inl rfl
  · exact h

/-- What is not welcome is refused, and nothing new is there meanwhile. -/
theorem triple_persist_refused (h : ¬ Welcomes app d invitation token) :
    Triple F (NoNewInvite d) (fun s => s = d) (persistRemoteInviteAt app invitation token) fun r _ => ∃ e, r = .error e := by
  refine triple_ofExcept_bind (fun parsed hparsed => ?_) fun e _ _ => ⟨e, rfl⟩
  refine triple_ensure_bind (fun hsigned => ?_) fun _ _ => ⟨_, rfl⟩
  have hjson : app.parseJson invitation = .ok parsed := by
    cases hparse : app.parseJson invitation with
    | error e =>
      rw [hparse] at hparsed
      cases hparsed
    | ok v =>
      rw [hparse] at hparsed
      cases hparsed
      rfl
  have hquiet : Disk.Keeps F (NoNewInvite d) (fun s => s = d) (orText .createDirAll id) := by
    refine keeps_orText ?_
    rintro s s' rfl happly
    cases happly
    exact ⟨Or.inr rfl, rfl⟩
  refine Triple.bind hquiet (fun _ => Triple.read_bind ?_) fun e _ _ => ⟨e, rfl⟩
  rintro t rfl
  refine triple_ensure_bind (fun hactive => ?_) fun _ _ => ⟨_, rfl⟩
  rw [Bool.and_eq_true] at hactive
  have htakes : t.takesInvite token = false := by
    rw [← Bool.not_eq_true]
    exact fun htakes => h ⟨⟨parsed, hjson, hsigned⟩, htakes⟩
  refine placeInvite_refused invitation token (fun s hs => hs.1) hactive.2 ?_ ⟨hactive.1, Or.inr rfl⟩ htakes
    (Q := fun s => s.setupRequired = true ∧ NoNewInvite t s)
  rintro s n hn ⟨hsetup, hinvite⟩
  have hother : n ≠ setupRequiredMarker := by
    rcases hn with hn | rfl
    · exact (ne_of_mem_stale hn).1
    · exact (ne_temporaryInvite (by decide) token).symm
  exact ⟨hinvite.erase n, (setup_erase hother hsetup).2, hinvite.erase n⟩

theorem not_stores_of_not_welcome (h : ¬ Welcomes app d invitation token) : ¬ Stores app d invitation token F := by
  obtain ⟨hfine, -, e, he⟩ := @triple_persist_refused F app d invitation token h (Disk.start d F) (fine_start (Or.inr rfl)) rfl
  rintro (hok | ⟨s, hs, hsome, hnew⟩)
  · rw [he] at hok
    cases hok
  · rcases hfine.within s hs with hnone | hold
    · exact hsome hnone
    · exact hnew hold

/-- A check that passes is passed over. -/
theorem ensure_bind_of {α : Type} {b : Bool} {e : String} {f : Unit → OnDisk α} (hb : b = true) :
    (ensure b e >>= f : OnDisk α) = f () := by
  subst hb
  rfl

theorem ofExcept_bind_of {α β : Type} {x : Except String α} {a : α} {f : α → OnDisk β} (hx : x = .ok a) :
    (ofExcept x >>= f : OnDisk β) = f a := by
  subst hx
  rfl

/-- With the intent in place and no faults, both markers go after the invitation is stored. -/
theorem triple_leave_and_drop :
    Triple noFault (fun _ => True) (fun s => s.isFile setupRequiredMarker = true ∧ s.isFile workerPairingIntentMarker = true)
      (leaveSetupMode >>= fun _ => dropPairingIntent) fun r _ => ∃ u, r = .ok u := by
  have hspared : ∀ op l, noFault l op = false := fun _ _ => rfl
  have hleave : Triple noFault (fun _ => True)
      (fun s => s.isFile setupRequiredMarker = true ∧ s.isFile workerPairingIntentMarker = true) leaveSetupMode fun r s =>
      ∃ u, r = .ok u ∧ s.isFile workerPairingIntentMarker = true := by
    refine Triple.read_bind fun t ht => ?_
    rw [if_pos ht.1]
    refine triple_onError (@triple_spared noFault (fun s => s = t) (fun s => s = t.erase setupRequiredMarker) _ (hspared _) ?_)
      ?_ ?_
    · rintro s rfl
      exact ⟨_, removeFile_of_isFile ht.1, rfl⟩
    · rintro s ⟨-, rfl⟩
      refine ⟨(), rfl, ?_⟩
      rw [Dir.isFile_erase_ne (by decide)]
      exact ht.2
    · rintro e d - ⟨he, -⟩
      cases he
  refine Triple.seq hleave fun _ => triple_onError (@triple_spared noFault _ (fun _ => True) _ (hspared _) fun s hs =>
    ⟨_, removeFile_of_isFile hs, trivial⟩) (fun _ _ => ⟨(), rfl⟩) ?_
  rintro e d - ⟨he, -⟩
  cases he

/-- What is welcome is stored, if nothing fails. -/
theorem triple_persist_welcome (h : Welcomes app d invitation token) :
    Triple noFault (fun _ => True) (fun s => s = d) (persistRemoteInviteAt app invitation token) fun r _ => ∃ u, r = .ok u := by
  obtain ⟨⟨parsed, hparsed, hsigned⟩, htakes⟩ := h
  have hparts : d.setupRequired = true ∧ d.isFile workerPairingIntentMarker = true := by
    unfold Dir.takesInvite at htakes
    simp only [Bool.and_eq_true] at htakes
    exact htakes.1.1
  have hstale : ∀ n ∈ staleCredentials, n ≠ workerPairingIntentMarker := fun n hn => (ne_of_mem_stale hn).2.2
  have hkeeps : ∀ (s : Dir) (n : String), n = temporaryInvite token ∨ n = "remote-invite.json" →
      s.isFile workerPairingIntentMarker = true →
      Dir.isFile (s.erase n) workerPairingIntentMarker = true ∧ ∀ e, Dir.isFile (s.insert n e) workerPairingIntentMarker = true := by
    intro s n hn hs
    have hother : workerPairingIntentMarker ≠ n := by
      rcases hn with rfl | rfl
      · exact ne_temporaryInvite (by decide) token
      · decide
    exact ⟨(Dir.isFile_erase_ne hother).trans hs, fun e => (Dir.isFile_insert_ne hother e).trans hs⟩
  have hjson : ((app.parseJson invitation).mapError fun e => "invite is not valid JSON: " ++ e) = .ok parsed := by
    rw [hparsed]
    rfl
  unfold persistRemoteInviteAt placeInvite
  rw [ofExcept_bind_of hjson, ensure_bind_of hsigned]
  refine Triple.seq (@triple_orText_spared noFault (fun s => s = d) (fun s => s = d) .createDirAll id (fun _ => rfl)
    fun s hs => ⟨s, rfl, hs⟩) fun _ => Triple.read_bind ?_
  rintro t rfl
  have hactive : (t.setupRequired && t.isFile workerPairingIntentMarker) = true := by rw [hparts.1, hparts.2, Bool.and_self]
  rw [ensure_bind_of hactive]
  refine Triple.seq ((@triple_removeStale noFault app (fun _ _ _ => rfl) (fun s => s.isFile workerPairingIntentMarker = true)
    (fun s n hn hs => (Dir.isFile_erase_ne (hstale n hn).symm).trans hs) token).weaken
    (fun s hs => hs ▸ ⟨htakes, hparts.2⟩) fun _ _ hs => hs) fun _ => Triple.read_bind fun t ht => ?_
  have hfree : (!t.isPresent "remote-invite.json" && !t.isPresent "agent.controller-pin.json") = true := by
    rw [isPresent_of_none (ht.2.2.2 _ (by decide)), isPresent_of_none (ht.2.2.2 _ (by decide))]
    rfl
  rw [ensure_bind_of hfree]
  refine Triple.seq ((triple_onError (triple_storeInvite (fun _ _ _ => rfl) token hkeeps invitation) ?_ ?_).weaken
    (fun s hs => hs ▸ ht) fun _ _ hs => hs) fun _ => triple_leave_and_drop
  · rintro s ⟨u, -, hsetup, hintent, -⟩
    exact ⟨u, rfl, hsetup, hintent⟩
  · rintro e d - ⟨u, hu, -⟩
    cases hu

theorem stores_of_welcome (h : Welcomes app d invitation token) : Stores app d invitation token noFault := by
  obtain ⟨-, -, u, hok⟩ := triple_persist_welcome h (Disk.start d noFault) (fine_start trivial) rfl
  exact Or.inl hok

theorem not_stores_iff : (∀ fails, ¬ Stores app d invitation token fails) ↔ ¬ Welcomes app d invitation token := by
  constructor
  · exact fun hnever hwelcome => hnever noFault (stores_of_welcome hwelcome)
  · exact fun h fails => not_stores_of_not_welcome h

end

/-! ## Superseded attempts -/

/-- The approval was received when the generation had gone. -/
def Phase.isLate : Phase → Bool
  | .enrolling _ _ inTime => !inTime
  | _ => false

namespace Joining

/-- No generation is ahead of the manager's, and a late approval is one of an older generation. -/
structure Ordered (s : Joining) : Prop where
  bounded : s.manager.workerGeneration ≤ U64.max
  behind : ∀ (i : Nat) (a : Attempt), s.attempts[i]? = some a → a.generation ≤ s.manager.workerGeneration
  late : ∀ (i : Nat) (a : Attempt), s.attempts[i]? = some a → a.phase.isLate = true → a.generation < s.manager.workerGeneration

theorem ordered_start (dir : Dir) : (start dir).Ordered := by
  constructor
  · exact Nat.zero_le _
  · simp [start]
  · simp [start]

variable {s : Joining} {i : Nat} {a : Attempt}

@[simp] theorem workerGeneration_setStatus (status : WorkerPairingView) :
    (s.setStatus a status).manager.workerGeneration = s.manager.workerGeneration := by
  unfold setStatus Manager.setWorkerStatus
  dsimp only
  split <;> rfl

@[simp] theorem attempts_setStatus (status : WorkerPairingView) : (s.setStatus a status).attempts = s.attempts := rfl

theorem Ordered.setStatus (h : s.Ordered) (status : WorkerPairingView) : (s.setStatus a status).Ordered := by
  constructor
  · simpa using h.bounded
  · simpa using h.behind
  · simpa using h.late

theorem Ordered.onDir (h : s.Ordered) (x : OnDisk Unit) (fails : List Dir → FileOp → Bool) : (s.onDir x fails).Ordered :=
  ⟨h.bounded, h.behind, h.late⟩

/-- The generation of the manager may go up. -/
theorem Ordered.advance (h : s.Ordered) (view : WorkerPairingView) :
    Ordered { s with manager := ⟨U64.satAdd s.manager.workerGeneration 1, view⟩ } := by
  have hup : s.manager.workerGeneration ≤ U64.satAdd s.manager.workerGeneration 1 :=
    Nat.le_min.2 ⟨Nat.le_succ _, h.bounded⟩
  refine ⟨Nat.min_le_right .., ?_, ?_⟩
  · exact fun j b hb => Nat.le_trans (h.behind j b hb) hup
  · exact fun j b hb hlate => Nat.lt_of_lt_of_le (h.late j b hb hlate) hup

/-- An attempt that is changed keeps its generation, and is late only if its generation is old. -/
theorem Ordered.update (h : s.Ordered) {l : List Attempt} (hl : ∀ (j : Nat) (b : Attempt), l[j]? = some b → ∃ a : Attempt,
      s.attempts[j]? = some a ∧ b.generation = a.generation ∧
        (b.phase.isLate = true → a.phase.isLate = true ∨ a.generation < s.manager.workerGeneration)) :
    Ordered { s with attempts := l } := by
  refine ⟨h.bounded, ?_, ?_⟩
  · intro j b hb
    obtain ⟨a, ha, hgeneration, -⟩ := hl j b hb
    rw [hgeneration]
    exact h.behind j a ha
  · intro j b hb hlate
    obtain ⟨a, ha, hgeneration, hphase⟩ := hl j b hb
    rw [hgeneration]
    rcases hphase hlate with hold | hold
    · exact h.late j a ha hold
    · exact hold

theorem Ordered.goTo (h : s.Ordered) {phase : Phase}
    (hlate : phase.isLate = true → ∀ a : Attempt, s.attempts[i]? = some a → a.generation < s.manager.workerGeneration) :
    (s.goTo i phase).Ordered := by
  refine h.update fun j b hb => ?_
  rw [List.getElem?_modify] at hb
  obtain ⟨a, ha, rfl⟩ := Option.map_eq_some_iff.1 hb
  by_cases hij : i = j
  · subst hij
    rw [if_pos rfl]
    exact ⟨a, ha, rfl, fun h => Or.inr (hlate h a ha)⟩
  · rw [if_neg hij]
    exact ⟨a, ha, rfl, Or.inl⟩

theorem Ordered.failWith (h : s.Ordered) (message : String) : (s.failWith i a message).Ordered :=
  (h.setStatus _).goTo fun hlate => by cases hlate

theorem Ordered.beginWorker (h : s.Ordered) (deviceName : String) : (s.beginWorker deviceName).Ordered := by
  unfold Joining.beginWorker
  split
  · exact h
  split
  · exact h
  · obtain ⟨hbounded, hbehind, hlate⟩ := h.advance s.manager.worker
    have hnew : ∀ (j : Nat) (b : Attempt), (s.attempts ++ [⟨U64.satAdd s.manager.workerGeneration 1, 0, .beginning⟩])[j]? = some b →
        s.attempts[j]? = some b ∨ b = ⟨U64.satAdd s.manager.workerGeneration 1, 0, .beginning⟩ := by
      intro j b hb
      rw [List.getElem?_append] at hb
      split at hb
      · exact Or.inl hb
      · exact Or.inr (List.mem_singleton.1 (List.mem_of_getElem? hb))
    refine ⟨hbounded, ?_, ?_⟩
    · intro j b hb
      rcases hnew j b hb with hold | rfl
      · exact hbehind j b hold
      · exact Nat.le_refl _
    · intro j b hb hlate'
      rcases hnew j b hb with hold | rfl
      · exact hlate j b hold hlate'
      · cases hlate'

theorem Ordered.receive {c : Crates} (h : s.Ordered) (ha : s.attempts[i]? = some a) (w : Worker) (source : SocketAddr)
    (d : Option PairingDatagram) : (s.receive c i a w source d).Ordered := by
  have hquiet : ∀ {phase : Phase}, phase.isLate = false → phase.isLate = true → ∀ b : Attempt, s.attempts[i]? = some b →
      b.generation < s.manager.workerGeneration := fun hno hyes => by
    rw [hno] at hyes
    cases hyes
  unfold Joining.receive
  cases w.receive c source d with
  | pairing w' =>
    dsimp only
    cases challengeView c a.expiresAtMs source d w w' with
    | none => exact h.goTo (hquiet rfl)
    | some view => exact (h.setStatus view).goTo fun hlate => by cases hlate
  | recovered invitation =>
    refine h.goTo fun hlate b hb => ?_
    rw [ha] at hb
    cases hb
    -- the flag is set by the comparison of the two generations
    have hother : s.manager.workerGeneration ≠ a.generation := by
      intro heq
      simp [Phase.isLate, Manager.generationIsCurrent, heq] at hlate
    exact Nat.lt_of_le_of_ne (h.behind i a ha) hother.symm
  | failed message => exact h.failWith message
  | cancelled => exact h.goTo (hquiet rfl)

theorem Ordered.persist {app : App} (h : s.Ordered) (w : Worker) (invitation token : String)
    (fails : List Dir → FileOp → Bool) : (s.persist app i a w invitation token fails).Ordered := by
  unfold Joining.persist
  cases (persistRemoteInviteAt app invitation token (Disk.start s.dir fails)).1 with
  | error message => exact (h.onDir _ fails).failWith message
  | ok u => exact (h.onDir _ fails).goTo fun hlate => by cases hlate

theorem ordered_step (c : Crates) (app : App) (move : Move) (h : s.Ordered) : (s.step c app move).Ordered := by
  -- a thread that is not late may go anywhere that is not late
  have hgo : ∀ {i : Nat} {phase : Phase} {s : Joining}, phase.isLate = false → s.Ordered → (s.goTo i phase).Ordered :=
    fun hno hs => hs.goTo fun hyes => by
      rw [hno] at hyes
      cases hyes
  cases move with
  | cancelWorker => exact h.advance .idle
  | removeIntent fails => exact h.onDir _ fails
  | command command listing fails => exact h.onDir _ fails
  | beginWorker deviceName => exact h.beginWorker deviceName
  | spawn i requestId now =>
    simp only [step]
    split
    · rename_i generation expiresAtMs ha
      cases requestId with
      | none => exact hgo rfl h
      | some requestId =>
        refine (h.setStatus _).update fun j b hb => ?_
        rw [List.getElem?_set] at hb
        split at hb
        · rename_i hij
          subst hij
          split at hb <;> cases hb
          exact ⟨_, ha, rfl, fun hlate => by cases hlate⟩
        · exact ⟨b, hb, rfl, Or.inl⟩
    · exact h
  | bind i secret =>
    simp only [step]
    split
    · cases secret with
      | error message => exact h.failWith message
      | ok secret => exact hgo rfl h
    · exact h
  | turn i now =>
    simp only [step]
    split
    · split
      · exact hgo rfl h
      split
      · exact h.failWith _
      · exact hgo rfl h
    · exact h
  | tick i =>
    simp only [step]
    split
    · exact hgo rfl h
    · exact h
  | receive i source d =>
    simp only [step]
    split
    · rename_i ha
      exact h.receive ha _ source d
    · exact h
  | persist i token fails =>
    simp only [step]
    split
    · exact h.persist _ _ token fails
    · exact h
  | confirm i sent =>
    simp only [step]
    split
    · cases sent with
      | error message => exact h.failWith message
      | ok u => exact hgo rfl (h.setStatus _)
    · exact h
  | restart i =>
    simp only [step]
    split
    · exact ordered_start s.dir
    · exact h

/-- An attempt that took its approval late is superseded for good: no later generation is its own. -/
theorem late_is_superseded (c : Crates) (app : App) (dir : Dir) (moves : List Move) (i : Nat) (a : Attempt)
    (ha : ((joiningMachine c app).exec moves (start dir)).attempts[i]? = some a) (hlate : a.phase.isLate = true) :
    a.generation < ((joiningMachine c app).exec moves (start dir)).manager.workerGeneration := by
  have hordered : ((joiningMachine c app).exec moves (start dir)).Ordered :=
    (joiningMachine c app).state_invariant (C := fun _ _ => True) (I := Ordered) (fun s move hs _ => ordered_step c app move hs)
      moves (ordered_start dir) ((joiningMachine c app).meets_of_forall (fun _ _ => trivial) moves _)
  exact hordered.late i a ha hlate

/-! ## A cancelled attempt that enrols -/

/-- The invitation of an attempt that took its approval late. -/
def lateInvitation (i : Nat) (s : Joining) : Option String :=
  match s.attempts[i]? with
  | some ⟨_, _, .enrolling _ invitation false⟩ => some invitation
  | _ => none

/-- A late invitation that is about to be stored is not welcome. -/
def KeepsOut (app : App) (s : Joining) : Move → Prop
  | .persist i token _ => ∀ invitation, s.lateInvitation i = some invitation → ¬ Welcomes app s.dir invitation token
  | _ => True

/-- The loop of a generation that is gone takes an approval. -/
theorem late_of_receive {c : Crates} {app : App} {generation expiresAtMs : Nat} {w : Worker} {source : SocketAddr}
    {d : Option PairingDatagram} {invitation token : String}
    (hwaiting : s.attempts[i]? = some ⟨generation, expiresAtMs, .waiting w⟩)
    (hgone : s.manager.generationIsCurrent generation = false) (hreceive : w.receive c source d = .recovered invitation)
    (htakes : s.dir.takesInvite token = true) :
    ((joiningMachine c app).exec [.receive i source d] s).lateInvitation i = some invitation ∧
      ((joiningMachine c app).exec [.receive i source d] s).dir.takesInvite token = true := by
  have hstep : s.step c app (.receive i source d) = s.goTo i (.enrolling w invitation false) := by
    simp only [step, hwaiting, Joining.receive, hreceive, hgone]
  show (s.step c app (.receive i source d)).lateInvitation i = _ ∧ (s.step c app (.receive i source d)).dir.takesInvite _ = true
  rw [hstep]
  refine ⟨?_, htakes⟩
  unfold lateInvitation goTo
  rw [List.getElem?_modify, hwaiting]
  simp

end Joining

open Joining

/-- In a run no superseded attempt stores its invitation, whatever fails, exactly if the directory keeps out every invitation
that was received late. -/
theorem superseded_enrolment_iff (c : Crates) (app : App) (dir : Dir) (moves : List Move) :
    (∀ before i token fails after, moves = before ++ .persist i token fails :: after → ∀ invitation,
      ((joiningMachine c app).exec before (start dir)).lateInvitation i = some invitation →
      ∀ faults, ¬ Stores app ((joiningMachine c app).exec before (start dir)).dir invitation token faults) ↔
      (joiningMachine c app).Meets (KeepsOut app) moves (start dir) := by
  constructor
  · intro hnever
    refine Machine.meets_of_splits fun before move after hsplit => ?_
    cases move with
    | persist i token fails =>
      intro invitation hlate
      exact not_stores_iff.1 (hnever before i token fails after hsplit invitation hlate)
    | _ => trivial
  · rintro hmeets before i token fails after rfl invitation hlate
    rw [Machine.meets_append] at hmeets
    exact not_stores_iff.2 (hmeets.2.1 invitation hlate)

/-! ### An approval in one fragment -/

section

variable {c : Crates} {w : Worker} {owner : Selected} {nonce : Nonce} {ciphertext : Bytes} {invitation : String}

theorem decryptApproval_encode {key aad : Bytes} (h : c.decrypt key nonce.1 aad ciphertext = some (utf8 invitation)) :
    decryptApproval c key aad (nonceText nonce) (String.ofList (Base64.encode ciphertext)) = .ok invitation := by
  unfold decryptApproval decryptPayload nonceText
  rw [String.toList_ofList, String.toList_ofList, Base64.decode_encode, Base64.decode_encode]
  dsimp only
  rw [if_neg (not_not_intro nonce.2), h]
  dsimp only
  rw [fromUtf8_eq_some_iff.2 rfl]

/-- The loop of a worker that has selected its owner decrypts a fragment that is the whole ciphertext. -/
theorem receive_single (hselected : w.selected = some owner) (hassembly : w.assembly = none)
    (hpiece : IsPiece (Base64.encode ciphertext))
    (h : c.decrypt owner.key nonce.1 owner.aad ciphertext = some (utf8 invitation)) :
    w.receive c owner.addr (some (fragment w (nonceText nonce) 1 0 (Base64.encode ciphertext))) = .recovered invitation := by
  have hpieces : ∀ piece ∈ [Base64.encode ciphertext], IsPiece piece := by simpa using hpiece
  have hmany : [Base64.encode ciphertext].length ≤ maxApprovalChunks := by
    rw [List.length_singleton]
    decide
  rcases @deliver_new c _ hpieces (List.cons_ne_nil _ _) hmany owner w hselected hassembly (nonceText nonce) with
    ⟨e, -, hlong⟩ | hdelivered
  · exfalso
    have hshort := hpiece.short
    rw [List.flatten_singleton] at hlong
    simp only [maxApprovalCiphertextChars, maxApprovalChunkChars] at hlong hshort
    omega
  · rw [List.flatten_singleton] at hdelivered
    unfold finishWorkerEnrollment at hdelivered
    rw [decryptApproval_encode h] at hdelivered
    exact hdelivered

end

namespace Laptop

open Rampage.Pairing.Scenario

/-- An invitation with its schema, a signature and the owner's key. -/
def inviteText : String :=
  "\x7b\"schema\":\"rampage.enrollment-invite.v1\",\"controller_mesh\":\x7b\"signature\":\"signed\"\x7d,\"governor_public_key\":\"key\"\x7d"

/-- The AES-256-GCM ciphertext of the invitation. -/
def inviteCiphertext : Bytes :=
  [29, 22, 170, 141, 16, 51, 27, 187, 92, 116, 93, 222, 198, 103, 71, 109, 132, 179, 160, 27, 253, 83, 213, 224, 37, 205, 64,
    212, 31, 85, 174, 10, 228, 119, 172, 208, 4, 131, 24, 213, 21, 31, 194, 175, 239, 86, 159, 166, 135, 190, 170, 247, 86,
    238, 8, 189, 205, 102, 188, 123, 167, 234, 248, 70, 110, 123, 67, 120, 205, 187, 118, 18, 217, 109, 243, 238, 250, 165,
    212, 93, 68, 141, 42, 221, 238, 83, 88, 192, 37, 190, 51, 231, 246, 197, 184, 55, 242, 55, 68, 178, 166, 233, 45, 115, 122,
    72, 146, 17, 206, 241, 236, 152, 146, 108, 30, 134, 107, 131, 100, 138, 38, 145, 145, 154, 69, 49]

/-- The crates, which also know this invitation. -/
def inviteCrates : Crates :=
  { crates with
    encrypt := fun k n a plaintext =>
      if k = key ∧ n = (nonce 1).1 ∧ a = aad ∧ plaintext = utf8 inviteText then inviteCiphertext
      else crates.encrypt k n a plaintext
    decrypt := fun k n a x =>
      if k = key ∧ n = (nonce 1).1 ∧ a = aad ∧ x = inviteCiphertext then some (utf8 inviteText) else crates.decrypt k n a x }

/-- The invitation of the example, as JSON. -/
def invite : Json :=
  .obj [("schema", .str "rampage.enrollment-invite.v1"), ("controller_mesh", .obj [("signature", .str "signed")]),
    ("governor_public_key", .str "key")]

/-- The application, which reads the invitation. -/
def inviteApp : App :=
  { app with
    parseJson := fun text => if text = inviteText then .ok invite else .error "expected value at line 1 column 1" }

/-- A laptop that was never set up. -/
def fresh : Dir := (∅ : Dir).insert setupRequiredMarker (.file "rampage.setup-required.v1\n")

/-- The owner's approval, in one fragment. -/
def approval : PairingDatagram :=
  fragment waiting (nonceText (nonce 1)) 1 0 (Base64.encode inviteCiphertext)

/-- `begin_pairing`: the directory is prepared, then the attempt begins. -/
def beginPairing (i : Nat) (requestId : String) (now : Nat) : List Move :=
  [.command .prepareWorkerPairing (.first fun _ => false) noFault, .beginWorker "Laptop", .spawn i (some requestId) now,
    .bind i (.ok workerSecret), .turn i now]

/-- The first attempt finds the owner and waits; it is cancelled, and a second one begins. -/
def cancelledAndBegun : List Move :=
  beginPairing 0 requestId 1000 ++
    [.receive 0 mainPc (some challenge), .turn 0 2000, .cancelWorker, .removeIntent noFault] ++
    beginPairing 1 "02020202020202020202020202020202" 3000

/-- Then the owner approves the first one. -/
def approvedAfterCancel : List Move := cancelledAndBegun ++ [.receive 0 mainPc (some approval)]

theorem parseJson_inviteText : inviteApp.parseJson inviteText = .ok invite := by
  simp only [inviteApp, if_true]

/-- The loop of the first attempt is still blocked, with a generation that is gone. -/
theorem first_still_waits :
    let s := (joiningMachine inviteCrates inviteApp).exec cancelledAndBegun (start fresh)
    s.attempts[0]? = some ⟨1, 901000, .waiting waiting⟩ ∧ s.manager.generationIsCurrent 1 = false ∧
      s.dir.takesInvite "0123456789abcdef" = true := by
  decide +kernel

theorem decrypt_inviteCiphertext : inviteCrates.decrypt key (nonce 1).1 aad inviteCiphertext = some (utf8 inviteText) := by
  simp only [inviteCrates, and_self, if_true]

theorem isPiece_inviteCiphertext : IsPiece (Base64.encode inviteCiphertext) := by
  have hlen : (Base64.encode inviteCiphertext).length = 168 := by
    rw [Base64.length_encode, show inviteCiphertext.length = 126 by decide +kernel]
  refine ⟨?_, ?_, Base64.isEncoded_of_mem⟩
  · rw [← List.length_pos_iff]
    omega
  · rw [hlen]
    decide

/-- It takes the approval. -/
theorem receive_approval : waiting.receive inviteCrates mainPc (some approval) = .recovered inviteText :=
  @receive_single inviteCrates waiting ⟨mainPc, key, aad, "Main PC"⟩ (nonce 1) inviteCiphertext inviteText rfl rfl
    isPiece_inviteCiphertext decrypt_inviteCiphertext

theorem late_approvedAfterCancel :
    ((joiningMachine inviteCrates inviteApp).exec approvedAfterCancel (start fresh)).lateInvitation 0 = some inviteText ∧
      ((joiningMachine inviteCrates inviteApp).exec approvedAfterCancel (start fresh)).dir.takesInvite "0123456789abcdef" = true := by
  obtain ⟨hwaiting, hgone, htakes⟩ := first_still_waits
  unfold approvedAfterCancel
  rw [Machine.exec_append]
  exact late_of_receive hwaiting hgone receive_approval htakes

theorem isSignedInvite_invite : isSignedInvite invite = true := by decide +kernel

end Laptop

open Laptop in
/-- An attempt that was cancelled enrols the laptop after the next one has begun. -/
theorem cancelled_attempt_enrols :
    ¬ ∀ (c : Crates) (app : App) (dir : Dir) (moves before after : List Move) (i : Nat) (token : String)
      (fails : List Dir → FileOp → Bool), moves = before ++ .persist i token fails :: after → ∀ invitation,
        ((joiningMachine c app).exec before (start dir)).lateInvitation i = some invitation →
        ¬ Stores app ((joiningMachine c app).exec before (start dir)).dir invitation token fails := by
  intro hall
  obtain ⟨hlate, htakes⟩ := late_approvedAfterCancel
  exact hall inviteCrates inviteApp fresh _ approvedAfterCancel [] 0 "0123456789abcdef" noFault rfl inviteText hlate
    (stores_of_welcome ⟨⟨invite, parseJson_inviteText, isSignedInvite_invite⟩, htakes⟩)

end Rampage.Desktop
