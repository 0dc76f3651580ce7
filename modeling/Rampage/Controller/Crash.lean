/-
The controller with its crashes. The KILL file, its epoch marker and the epoch row of the ledger outlive the process;
the epoch the handlers read is in its memory. Startup, `local_stop` and `local_resume` are taken apart into their single
effects, so that a crash can fall between any two of them and inside the write of the marker, and every effect can fail
before or after it was made. The desktop shell creates the KILL file from a process of its own, at any moment.

A crash ends the process and keeps what it has written. Leases are issued without looking at the gate or the latch here,
by a handler that has loaded the epoch earlier: every handler that issues one does less than that.
-/
import Rampage.Lib.Machine
import Mathlib.Algebra.Order.Ring.Nat

namespace Rampage.Controller.Crash

/-- The effects of startup, of `local_stop` and of `local_resume`, in the order of the source. -/
inductive Stage
  | readEpoch
  | firstEpoch
  | findLatch (epoch : Nat)
  | recoverEpoch
  | recoverTruncate (epoch : Nat)
  | recoverWrite (epoch : Nat)
  | recoverRecord (epoch : Nat)
  | serve (epoch : Nat) (found : Bool)
  | stop
  | createLatch
  | advanceEpoch
  | storeEpoch (epoch : Nat)
  | truncateMarker (epoch : Nat)
  | writeMarker (epoch : Nat)
  | recordStop (epoch : Nat)
  | removeMarker
  | removeLatch
  | recordResume
deriving DecidableEq

/-- The controller's process: the epoch in memory, once it serves, and where startup or the holder of the gate is. -/
structure Process where
  epoch : Option Nat
  stage : Option Stage
deriving DecidableEq

/-- The data directory and the process, with the leases issued so far: each is known by its epoch. -/
structure Site where
  /-- `current_fencing_epoch("controller")`. -/
  storedEpoch : Nat
  /-- The KILL file, with the number of leases that had been issued when it came into existence. -/
  latch : Option Nat
  /-- The epoch marker: whether the file exists, and the epoch it holds. -/
  marker : Option (Option Nat)
  process : Option Process
  /-- The epochs that handlers in flight have loaded. -/
  loaded : List Nat
  issued : List Nat
deriving DecidableEq

/-- How an effect ends: done, failed with the effect made or not, or, for a write, failed after all but the last
digits. -/
inductive Outcome
  | done
  | failed (made : Bool)
  | torn (digits : Nat)
deriving DecidableEq

/-- What happens next at the controller's site. -/
inductive Act
  | start
  | crash
  | shellStop
  | stop
  | resume
  | proceed (outcome : Outcome)
  | load
  | issue (i : Nat)
deriving DecidableEq

/-- What comes to an end with an act: a startup, with whether it found the latch, or a successful `local_stop`. -/
inductive Answer
  | serving (found : Bool)
  | stopped (duplicate : Bool)
deriving DecidableEq

/-- The marker after a torn write: what is left of the decimal text. -/
def tornMarker (epoch digits : Nat) : Option (Option Nat) :=
  if epoch / 10 ^ digits = 0 then some none else some (some (epoch / 10 ^ digits))

/-- `create_new` on the KILL file. -/
def Site.createLatch (p : Site) : Site :=
  { p with latch := some (p.latch.getD p.issued.length) }

/-- The process goes on with the stage, or has answered or failed. -/
def Site.goes (p : Site) (stage : Option Stage) : Site :=
  { p with process := p.process.map fun q => { q with stage := stage } }

/-- A startup that fails ends the process. -/
def Site.ends (p : Site) : Site := { p with process := none, loaded := [] }

/-- `advance_fencing_epoch` for the holder of the given continuation. -/
def Site.advance (p : Site) (outcome : Outcome) (goOn : Site → Nat → Site) (fails : Site → Site) : Site :=
  if p.storedEpoch + 1 < 2 ^ 63 then
    match outcome with
    | .done => goOn { p with storedEpoch := p.storedEpoch + 1 } (p.storedEpoch + 1)
    | .failed true => fails { p with storedEpoch := p.storedEpoch + 1 }
    | _ => fails p
  else fails p

/-- A file operation or an append with the given effect. -/
def Site.attempt (p : Site) (outcome : Outcome) (effect : Site → Site) (goOn fails : Site → Site) : Site :=
  match outcome with
  | .done => goOn (effect p)
  | .failed true => fails (effect p)
  | _ => fails p

/-- The write of the epoch into the truncated marker. -/
def Site.write (p : Site) (epoch : Nat) (outcome : Outcome) (goOn fails : Site → Site) : Site :=
  match outcome with
  | .torn digits => fails { p with marker := tornMarker epoch digits }
  | _ => p.attempt outcome (fun p => { p with marker := some (some epoch) }) goOn fails

/-- The next effect of startup or of the holder of the gate, whose process has the given epoch in memory. -/
def Stage.run (memory : Option Nat) (outcome : Outcome) (p : Site) : Stage → Option Answer × Site
  -- main
  | .readEpoch => (none, p.goes (some (if p.storedEpoch = 0 then .firstEpoch else .findLatch p.storedEpoch)))
  | .firstEpoch => (none, p.advance outcome (fun p epoch => p.goes (some (.findLatch epoch))) Site.ends)
  | .findLatch epoch =>
    (none, p.goes (some (if p.latch.isSome && p.marker.join != some epoch then .recoverEpoch else .serve epoch p.latch.isSome)))
  | .recoverEpoch => (none, p.advance outcome (fun p epoch => p.goes (some (.recoverTruncate epoch))) Site.ends)
  | .recoverTruncate epoch =>
    (none, p.attempt outcome (fun p => { p with marker := some none }) (·.goes (some (.recoverWrite epoch))) Site.ends)
  | .recoverWrite epoch => (none, p.write epoch outcome (·.goes (some (.recoverRecord epoch))) Site.ends)
  | .recoverRecord epoch => (none, p.attempt outcome id (·.goes (some (.serve epoch true))) Site.ends)
  | .serve epoch found => (some (.serving found), { p with process := some ⟨some epoch, none⟩ })
  -- local_stop
  | .stop =>
    if p.latch.isSome && memory.any (fun epoch => p.marker.join == some epoch) then (some (.stopped true), p.goes none)
    else (none, p.goes (some .createLatch))
  | .createLatch =>
    if p.latch.isSome then (none, p.goes (some .advanceEpoch))
    else (none, p.attempt outcome Site.createLatch (·.goes (some .advanceEpoch)) (·.goes none))
  | .advanceEpoch => (none, p.advance outcome (fun p epoch => p.goes (some (.storeEpoch epoch))) (·.goes none))
  | .storeEpoch epoch => (none, { p with process := some ⟨some epoch, some (.truncateMarker epoch)⟩ })
  | .truncateMarker epoch =>
    (none, p.attempt outcome (fun p => { p with marker := some none }) (·.goes (some (.writeMarker epoch))) (·.goes none))
  | .writeMarker epoch => (none, p.write epoch outcome (·.goes (some (.recordStop epoch))) (·.goes none))
  | .recordStop _ =>
    match outcome with
    | .done => (some (.stopped false), p.goes none)
    | _ => (none, p.goes none)
  -- local_resume
  | .removeMarker =>
    if p.marker.isSome then
      (none, p.attempt outcome (fun p => { p with marker := none }) (·.goes (some .removeLatch)) (·.goes none))
    else (none, p.goes (some .removeLatch))
  | .removeLatch =>
    if p.latch.isSome then
      (none, p.attempt outcome (fun p => { p with latch := none }) (·.goes (some .recordResume)) (·.goes none))
    else (none, p.goes (some .recordResume))
  | .recordResume => (none, p.goes none)

/-- A handler is given the free gate. -/
def Site.takeGate (p : Site) (stage : Stage) : Site :=
  match p.process with
  | some ⟨some epoch, none⟩ => { p with process := some ⟨some epoch, some stage⟩ }
  | _ => p

/-- An act of the site; `proceed` is the next step of what the process is at. -/
def step : Act → Site → Option Answer × Site
  | .start, p => (none, if p.process.isNone then { p with process := some ⟨none, some .readEpoch⟩ } else p)
  | .crash, p => (none, p.ends)
  | .shellStop, p => (none, p.createLatch)
  | .stop, p => (none, p.takeGate .stop)
  | .resume, p => (none, p.takeGate .removeMarker)
  | .proceed outcome, p =>
    match p.process with
    | some ⟨memory, some stage⟩ => stage.run memory outcome p
    | _ => (none, p)
  | .load, p => (none, { p with loaded := p.loaded ++ (p.process.bind (·.epoch)).toList })
  | .issue i, p => (none, { p with issued := p.issued ++ (p.loaded[i]?).toList })

/-- The site under acts. -/
def machine : Machine Site Act (Option Answer) := ⟨step⟩

/-- A fresh data directory. -/
def initial : Site where
  storedEpoch := 0
  latch := none
  marker := none
  process := none
  loaded := []
  issued := []

end Rampage.Controller.Crash
