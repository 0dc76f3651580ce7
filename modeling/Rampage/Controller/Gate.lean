/-
The admission gate under concurrency. A request runs up to its `await` on the gate, is suspended
there for any time, and continues when it is given the gate; owner STOP and resume hold the gate over
several effects, between which other requests may arrive. The handlers that issue authority look
at the kill latch before they wait and not again, so a request that was suspended while STOP ran
may issue its lease afterwards. `proceed_stop` and `proceed_resume` say that STOP and resume, effect by
effect, are the handlers of the sequential model.
-/
import Rampage.Controller.Admitted

namespace Rampage.Controller

open Rampage.Protocol Rampage.Planner Rampage.Governor Rampage.Ledger Handler

/-! ## Requests at the gate -/

/-- A request as it arrives. -/
inductive Arrival
  | submitJob (job : JobSpecV1)
  | submitShardSet (set : ShardSetV1)
  | authorizePromotionCanary (candidate : PromotionCandidateV1)
  | localStop
  | localResume (confirmation : String)

/-- A request that has passed its checks before the gate and is suspended there. A shard set keeps the
clock reading it was checked at. -/
inductive Waiting
  | job (job : JobSpecV1)
  | shardSet (set : ShardSetV1) (now : Int) (valid : set.validateAt now = .ok ())
  | canary (candidate : PromotionCandidateV1)
  | stop
  | resume

/-- The effects of STOP and resume, in order. -/
inductive Stage
  | createLatch
  | advanceEpoch
  | writeMarker (epoch : Nat)
  | recordStop (epoch : Nat)
  | removeMarker
  | removeLatch
  | recordResume
deriving DecidableEq

/-- The controller with its gate: the suspended requests, and the STOP or resume that holds the gate. -/
structure Gate where
  host : Host
  waiting : List Waiting
  holder : Option Stage

/-- What can happen next. -/
inductive Move
  | arrive (request : Arrival)
  | acquire (i : Nat)
  | proceed
  | other (op : Op)

/-- The handlers that wait for the gate and are followed here move by move, and restarts. -/
def Op.isGated : Op → Bool
  | .submitJob _ => true
  | .submitShardSet _ => true
  | .authorizePromotionCanary _ => true
  | .localStop => true
  | .localResume _ => true
  | .restart => true
  | _ => false

/-- The request issues authority when it runs. -/
def Waiting.isSubmission : Waiting → Bool
  | .job _ => true
  | .shardSet _ _ _ => true
  | .canary _ => true
  | _ => false

section

variable (cfg : Config) (w : World)

/-- What a handler does before it waits for the gate. -/
def arrive (g : Gate) : Arrival → Option Reply × Gate
  | .submitJob job =>
    match submitJobArrive w job g.host with
    | (.ok _, s) => (none, { g with host := s, waiting := g.waiting ++ [.job job] })
    | (.error e, s) => (some (.job (.error e)), { g with host := s })
  | .submitShardSet set =>
    match h : submitShardSetArrive w set g.host with
    | (.ok now, s) =>
      (none, { g with host := s, waiting := g.waiting ++ [.shardSet set now (submitShardSetArrive_ok h).2.2] })
    | (.error e, s) => (some (.shardSet (.error e)), { g with host := s })
  | .authorizePromotionCanary candidate =>
    match refuseWhileKilled g.host with
    | (.ok _, s) => (none, { g with host := s, waiting := g.waiting ++ [.canary candidate] })
    | (.error e, s) => (some (.canary (.error e)), { g with host := s })
  | .localStop => (none, { g with waiting := g.waiting ++ [.stop] })
  | .localResume confirmation =>
    match localResumeArrive confirmation g.host with
    | (.ok _, s) => (none, { g with host := s, waiting := g.waiting ++ [.resume] })
    | (.error e, s) => (some (.resumed (.error e)), { g with host := s })

/-- What a handler does when it is given the gate. -/
def enter (g : Gate) : Waiting → Option Reply × Gate
  | .job job =>
    (some (.job (submitJobGated cfg w job g.host).1), { g with host := (submitJobGated cfg w job g.host).2 })
  | .shardSet set now _ =>
    (some (.shardSet (submitShardSetGated cfg w set now g.host).1),
      { g with host := (submitShardSetGated cfg w set now g.host).2 })
  | .canary candidate =>
    (some (.canary (authorizePromotionCanaryGated cfg w candidate g.host).1),
      { g with host := (authorizePromotionCanaryGated cfg w candidate g.host).2 })
  | .stop =>
    if isStopped g.host.toAppState then (some (.stopped (.ok ⟨.ok, g.host.fencingEpoch, true⟩)), g)
    else (none, { g with holder := some .createLatch })
  | .resume => (none, { g with holder := some .removeMarker })

/-- One effect of STOP or resume, and the next one. -/
def Stage.run : Stage → Request (Option Stage)
  | .createLatch => do
    createKillLatch w
    pure (some .advanceEpoch)
  | .advanceEpoch => do
    let epoch ← advanceFencingEpoch w
    pure (some (.writeMarker epoch))
  | .writeMarker epoch => do
    writeStopEpochMarker w epoch
    pure (some (.recordStop epoch))
  | .recordStop epoch => do
    append w (.ownerStop epoch)
    pure none
  | .removeMarker => do
    removeStopEpochMarker w
    pure (some .removeLatch)
  | .removeLatch => do
    removeKillLatch w
    pure (some .recordResume)
  | .recordResume => do
    append w .ownerResume
    pure none

/-- The answer when the last effect is done or one has failed. -/
def Stage.reply (s : Host) : Stage → Except HttpError Unit → Reply
  | .createLatch, r | .advanceEpoch, r | .writeMarker _, r | .recordStop _, r =>
    .stopped (r.map fun _ => ⟨.accepted, s.fencingEpoch, false⟩)
  | .removeMarker, r | .removeLatch, r | .recordResume, r => .resumed (r.map fun _ => s.fencingEpoch)

/-- The holder of the gate goes on, and releases it at the end or on an error. -/
def proceed (g : Gate) : Option Reply × Gate :=
  match g.holder with
  | none => (none, g)
  | some stage =>
    match stage.run w g.host with
    | (.ok (some next), s) => (none, { g with host := s, holder := some next })
    | (.ok none, s) => (some (stage.reply s (.ok ())), { g with host := s, holder := none })
    | (.error e, s) => (some (stage.reply s (.error e)), { g with host := s, holder := none })

/-- A suspended request is given the gate when nobody holds it. -/
def acquire (g : Gate) (i : Nat) : Option Reply × Gate :=
  match g.holder, g.waiting[i]? with
  | none, some p => enter cfg w { g with waiting := g.waiting.eraseIdx i } p
  | _, _ => (none, g)

/-- A move of the gate. -/
def gateStep : Move → Gate → Option Reply × Gate
  | .arrive request, g => arrive w g request
  | .acquire i, g => acquire cfg w g i
  | .proceed, g => proceed w g
  | .other op, g =>
    if op.isGated then (none, g)
    else (some (step cfg w op g.host).1, { g with host := (step cfg w op g.host).2 })

/-- The controller behind its admission gate. -/
def gateMachine : Machine Gate Move (Option Reply) := ⟨gateStep cfg w⟩

end

/-- A fresh controller with nobody at the gate. -/
def Gate.initial (epoch : Nat) (head : String → Except String ArtifactRefV1) : Gate :=
  ⟨Controller.initial epoch head, [], none⟩

/-! ## STOP effect by effect is `local_stop` -/

section

variable {cfg : Config} {w : World}

theorem proceed_next {g : Gate} {stage next : Stage} {s : Host} (hh : g.holder = some stage)
    (h : stage.run w g.host = (.ok (some next), s)) : (proceed w g).2 = { g with host := s, holder := some next } := by
  simp only [proceed, hh, h]

theorem proceed_done {g : Gate} {stage : Stage} {s : Host} (hh : g.holder = some stage)
    (h : stage.run w g.host = (.ok none, s)) : (proceed w g).2 = { g with host := s, holder := none } := by
  simp only [proceed, hh, h]

theorem proceed_error {g : Gate} {stage : Stage} {e : HttpError} {s : Host} (hh : g.holder = some stage)
    (h : stage.run w g.host = (.error e, s)) : (proceed w g).2 = { g with host := s, holder := none } := by
  simp only [proceed, hh, h]

theorem proceed_idle {g : Gate} (hh : g.holder = none) : (proceed w g).2 = g := by
  simp only [proceed, hh]

/-- STOP, once it holds the gate, does what `local_stop` does: its four effects in order, up to the first that
fails. -/
theorem proceed_stop {g : Gate} (hh : g.holder = some .createLatch) (hs : isStopped g.host.toAppState = false) :
    (gateMachine cfg w).exec [.proceed, .proceed, .proceed, .proceed] g =
      { g with host := (localStop w g.host).2, holder := none } := by
  show (proceed w (proceed w (proceed w (proceed w g).2).2).2).2 = _
  unfold localStop
  rw [get_bind, hs]
  simp only [Bool.false_eq_true, if_false]
  rcases h1 : createKillLatch w g.host with ⟨e | u, s₁⟩
  · rw [proceed_error hh (bind_of_error h1), proceed_idle rfl, proceed_idle rfl, proceed_idle rfl, bind_of_error h1]
  rw [proceed_next hh (bind_of_ok h1), bind_of_ok h1]
  rcases h2 : advanceFencingEpoch w s₁ with ⟨e | epoch, s₂⟩
  · rw [proceed_error (g := ⟨s₁, g.waiting, some .advanceEpoch⟩) rfl (bind_of_error h2), proceed_idle rfl, proceed_idle rfl, bind_of_error h2]
  rw [proceed_next (g := ⟨s₁, g.waiting, some .advanceEpoch⟩) rfl (bind_of_ok h2), bind_of_ok h2]
  rcases h3 : writeStopEpochMarker w epoch s₂ with ⟨e | u, s₃⟩
  · rw [proceed_error (g := ⟨s₂, g.waiting, some (.writeMarker epoch)⟩) rfl (bind_of_error h3), proceed_idle rfl, bind_of_error h3]
  rw [proceed_next (g := ⟨s₂, g.waiting, some (.writeMarker epoch)⟩) rfl (bind_of_ok h3), bind_of_ok h3]
  rcases h4 : append w (.ownerStop epoch) s₃ with ⟨e | u, s₄⟩
  · rw [proceed_error (g := ⟨s₃, g.waiting, some (.recordStop epoch)⟩) rfl (bind_of_error h4), bind_of_error h4]
  · rw [proceed_done (g := ⟨s₃, g.waiting, some (.recordStop epoch)⟩) rfl (bind_of_ok h4), bind_of_ok h4]
    rfl

/-- Resume does what `local_resume` does under the gate. -/
theorem proceed_resume {g : Gate} (hh : g.holder = some .removeMarker) :
    (gateMachine cfg w).exec [.proceed, .proceed, .proceed] g =
      { g with host := (localResumeGated w g.host).2, holder := none } := by
  show (proceed w (proceed w (proceed w g).2).2).2 = _
  unfold localResumeGated
  rcases h1 : removeStopEpochMarker w g.host with ⟨e | u, s₁⟩
  · rw [proceed_error hh (bind_of_error h1), proceed_idle rfl, proceed_idle rfl, bind_of_error h1]
  rw [proceed_next hh (bind_of_ok h1), bind_of_ok h1]
  rcases h2 : removeKillLatch w s₁ with ⟨e | u, s₂⟩
  · rw [proceed_error (g := ⟨s₁, g.waiting, some .removeLatch⟩) rfl (bind_of_error h2), proceed_idle rfl, bind_of_error h2]
  rw [proceed_next (g := ⟨s₁, g.waiting, some .removeLatch⟩) rfl (bind_of_ok h2), bind_of_ok h2]
  rcases h3 : append w .ownerResume s₂ with ⟨e | u, s₃⟩
  · rw [proceed_error (g := ⟨s₂, g.waiting, some .recordResume⟩) rfl (bind_of_error h3), bind_of_error h3]
  · rw [proceed_done (g := ⟨s₂, g.waiting, some .recordResume⟩) rfl (bind_of_ok h3), bind_of_ok h3]
    rfl

end

end Rampage.Controller
