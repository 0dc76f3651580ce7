/-
The stages of `local_stop` and `local_resume` against the handlers of the gated controller: without a crash they leave
the latch, the marker and the epoch as `localStop` and `localResumeGated` do, for every pattern of failing effects.
-/
import Rampage.Controller.Crash
import Rampage.Controller.Effects.Locks

namespace Rampage.Controller.Crash

open Rampage.Ledger Handler

/-- The site shows what the controller's state says about STOP, with the epoch in memory and the stage of the holder of
the gate. -/
structure Shows (s : Host) (memory : Nat) (stage : Option Stage) (p : Site) : Prop where
  stored : p.storedEpoch = s.fencingEpoch
  latch : p.latch.isSome = s.killLatch
  marker : p.marker = s.stopEpochMarker
  process : p.process = some ⟨some memory, stage⟩

/-- The handler at the stage can end, without an interruption, in the state. -/
def Reaches (s : Host) (memory : Nat) (stage : Stage) (t : Host) : Prop :=
  ∀ p, Shows s memory (some stage) p → ∃ outcomes : List Outcome,
    Shows t t.fencingEpoch none (machine.exec (outcomes.map .proceed) p)

section

variable {w : World} {s t : Host} {memory : Nat} {stage : Stage}

theorem exec_proceed {p : Site} (h : Shows s memory (some stage) p) (o : Outcome) (acts : List Act) :
    machine.exec (.proceed o :: acts) p = machine.exec acts (stage.run (some memory) o p).2 := by
  show machine.exec acts (step (.proceed o) p).2 = _
  simp only [step, h.process]

/-- The handler goes on to its next stage. -/
theorem Reaches.step (s' : Host) (memory' : Nat) (stage' : Stage) (o : Outcome) (h : Reaches s' memory' stage' t)
    (hstep : ∀ p, Shows s memory (some stage) p → Shows s' memory' (some stage') (stage.run (some memory) o p).2) :
    Reaches s memory stage t := by
  intro p hp
  obtain ⟨outcomes, hreach⟩ := h _ (hstep p hp)
  refine ⟨o :: outcomes, ?_⟩
  rw [List.map_cons, exec_proceed hp]
  exact hreach

/-- The handler answers or fails. -/
theorem Reaches.answer (o : Outcome)
    (hstep : ∀ p, Shows s memory (some stage) p → Shows t t.fencingEpoch none (stage.run (some memory) o p).2) :
    Reaches s memory stage t := by
  intro p hp
  refine ⟨[o], ?_⟩
  rw [List.map_cons, exec_proceed hp]
  exact hstep p hp

theorem Shows.goes {p : Site} (h : Shows s memory (some stage) p) (stage' : Option Stage) : Shows s memory stage' (p.goes stage') := by
  refine ⟨h.stored, h.latch, h.marker, ?_⟩
  simp [Site.goes, h.process]

/-- The last stage of `local_stop`. -/
theorem reaches_recordStop (epoch : Nat) : Reaches s s.fencingEpoch (.recordStop epoch) (append w (.ownerStop epoch) s).2 := by
  have hidle := @idle_append w (.ownerStop epoch) s
  refine Reaches.answer .done fun p hp => ?_
  have hp' := hp.goes none
  exact ⟨hp'.stored.trans hidle.fencingEpoch.symm, hp'.latch.trans hidle.killLatch.symm,
    hp'.marker.trans hidle.stopEpochMarker.symm, by rw [hidle.fencingEpoch]; exact hp'.process⟩

/-- A stage that makes a file operation and then goes on. -/
theorem reaches_fileOperation {α : Type} {f : Host → Host} {k : Unit → Request α} (effect : Site → Site) (stage' : Stage)
    (hdone : ∀ p, Shows s s.fencingEpoch (some stage) p →
      (stage.run (some s.fencingEpoch) .done p).2 = (effect p).goes (some stage'))
    (hfailed : ∀ made p, Shows s s.fencingEpoch (some stage) p →
      (stage.run (some s.fencingEpoch) (.failed made) p).2 = (if made then effect p else p).goes none)
    (heffect : ∀ n p, Shows s s.fencingEpoch (some stage) p →
      Shows (f { s with files := n }) s.fencingEpoch (some stage) (effect p))
    (hk : ∀ n, Reaches (f { s with files := n }) s.fencingEpoch stage' (k () (f { s with files := n })).2)
    (hepoch : ∀ n, (f { s with files := n }).fencingEpoch = s.fencingEpoch) :
    Reaches s s.fencingEpoch stage ((fileOperation w f >>= k) s).2 := by
  rcases @fileOperation_cases w f s with hf | ⟨e, hf | hf⟩
  · rw [bind_of_ok hf]
    refine Reaches.step _ _ stage' .done (hk _) fun p hp => ?_
    rw [hdone p hp]
    exact (heffect _ p hp).goes (some stage')
  · rw [bind_of_error hf]
    refine Reaches.answer (.failed true) fun p hp => ?_
    rw [hfailed true p hp, hepoch]
    exact (heffect _ p hp).goes none
  · rw [bind_of_error hf]
    refine Reaches.answer (.failed false) fun p hp => ?_
    rw [hfailed false p hp]
    have hp' := hp.goes none
    exact ⟨hp'.stored, hp'.latch, hp'.marker, hp'.process⟩

theorem reaches_writeMarker {α : Type} {k : Unit → Request α}
    (hk : ∀ n, Reaches { s with stopEpochMarker := some (some s.fencingEpoch), files := n } s.fencingEpoch
      (.recordStop s.fencingEpoch) (k () { s with stopEpochMarker := some (some s.fencingEpoch), files := n }).2) :
    Reaches s s.fencingEpoch (.writeMarker s.fencingEpoch)
      ((fileOperation w (fun t => { t with stopEpochMarker := some (some s.fencingEpoch) }) >>= k) s).2 := by
  refine reaches_fileOperation (fun p => { p with marker := some (some s.fencingEpoch) }) (.recordStop s.fencingEpoch)
    (fun _ _ => rfl) ?_ (fun n p hp => ⟨hp.stored, hp.latch, rfl, hp.process⟩) hk (fun _ => rfl)
  rintro (_ | _) p hp <;> rfl

/-- The stages of `local_stop` from the marker on. -/
theorem reaches_truncateMarker : Reaches s s.fencingEpoch (.truncateMarker s.fencingEpoch)
    ((writeStopEpochMarker w s.fencingEpoch >>= fun _ => append w (.ownerStop s.fencingEpoch) >>= fun _ =>
      pure (⟨.accepted, s.fencingEpoch, false⟩ : StopReply)) s).2 := by
  unfold writeStopEpochMarker
  rw [bind_bind]
  refine reaches_fileOperation (fun p => { p with marker := some none }) (.writeMarker s.fencingEpoch) (fun _ _ => rfl) ?_
    (fun n p hp => ⟨hp.stored, hp.latch, rfl, hp.process⟩) (fun n => ?_) (fun _ => rfl)
  · rintro (_ | _) p hp <;> rfl
  · refine @reaches_writeMarker w { s with stopEpochMarker := some none, files := n } _ _ fun m => ?_
    rw [bind_pure_state]
    exact @reaches_recordStop w { s with stopEpochMarker := some (some s.fencingEpoch), files := m } s.fencingEpoch

/-- An epoch that was advanced fits the column. -/
theorem advanceFencingEpoch_bound {epoch : Nat} (h : advanceFencingEpoch w s = (.ok epoch, t)) : s.fencingEpoch + 1 < 2 ^ 63 := by
  unfold advanceFencingEpoch at h
  rw [get_bind] at h
  obtain ⟨u, s₁, hensure, _⟩ := bind_ok h
  exact of_decide_eq_true (ensure_ok hensure).1

/-- The stages from the advance of the epoch on. -/
theorem reaches_advanceEpoch {α : Type} {k : Nat → Request α}
    (hk : ∀ s : Host, Reaches s s.fencingEpoch (.truncateMarker s.fencingEpoch) (k s.fencingEpoch s).2) :
    Reaches s s.fencingEpoch .advanceEpoch ((advanceFencingEpoch w >>= k) s).2 := by
  rcases @advanceFencingEpoch_cases w s with ⟨e, t, hrun, hidle⟩ | hrun
  · rw [bind_of_error hrun]
    refine Reaches.answer (.failed false) fun p hp => ?_
    have hp' := hp.goes none
    have hfails : (Stage.run (some s.fencingEpoch) (.failed false) p .advanceEpoch).2 = p.goes none := by
      simp [Stage.run, Site.advance]
    rw [hfails]
    exact ⟨hp'.stored.trans hidle.fencingEpoch.symm, hp'.latch.trans hidle.killLatch.symm,
      hp'.marker.trans hidle.stopEpochMarker.symm, by rw [hidle.fencingEpoch]; exact hp'.process⟩
  · rw [bind_of_ok hrun]
    -- the ledger has the new epoch before the memory has it
    generalize hs : ({ s with
      ledger := s.ledger ++ [.epochAdvanced "controller" (s.fencingEpoch + 1)]
      appends := s.appends + 1
      fencingEpoch := s.fencingEpoch + 1 } : Host) = s'
    have hepoch : s'.fencingEpoch = s.fencingEpoch + 1 := by rw [← hs]
    rw [← hepoch]
    refine Reaches.step s' s.fencingEpoch (.storeEpoch s'.fencingEpoch) .done
      (Reaches.step s' s'.fencingEpoch (.truncateMarker s'.fencingEpoch) .done (hk s') ?_) ?_
    · intro p hp
      exact ⟨hp.stored, hp.latch, hp.marker, rfl⟩
    · intro p hp
      have hlt := advanceFencingEpoch_bound hrun
      rw [← hp.stored] at hlt
      have hadvances : (Stage.run (some s.fencingEpoch) .done p .advanceEpoch).2 =
          Site.goes { p with storedEpoch := p.storedEpoch + 1 } (some (.storeEpoch (p.storedEpoch + 1))) := by
        simp only [Stage.run, Site.advance]
        rw [if_pos hlt]
      rw [hadvances, ← hs]
      refine ⟨congrArg (· + 1) hp.stored, hp.latch, hp.marker, ?_⟩
      simp [Site.goes, hp.process, hp.stored]

/-- An uninterrupted `local_stop` leaves the files and the epoch as `localStop` does. -/
theorem localStop_reached (w : World) (s : Host) : Reaches s s.fencingEpoch .stop (localStop w s).2 := by
  unfold localStop
  rw [get_bind]
  -- host and site agree on whether the fabric is stopped
  have hstops : ∀ p, Shows s s.fencingEpoch (some .stop) p → (p.latch.isSome &&
      (some s.fencingEpoch).any (fun epoch => p.marker.join == some epoch)) = isStopped s.toAppState := by
    intro p hp
    rw [isStopped, hp.latch, hp.marker]
    rfl
  cases hstopped : isStopped s.toAppState with
  | true =>
    refine Reaches.answer .done fun p hp => ?_
    have hanswers : (Stage.run (some s.fencingEpoch) .done p .stop).2 = p.goes none := by
      simp only [Stage.run, hstops p hp, hstopped, if_true]
    rw [hanswers]
    exact hp.goes none
  | false =>
    refine Reaches.step s s.fencingEpoch .createLatch .done ?_ ?_
    · rw [if_neg (by simp)]
      unfold createKillLatch
      rw [bind_bind, get_bind]
      cases hl : s.killLatch with
      | true =>
        refine Reaches.step s s.fencingEpoch .advanceEpoch .done (reaches_advanceEpoch fun s => reaches_truncateMarker)
          fun p hp => ?_
        have hgoes : (Stage.run (some s.fencingEpoch) .done p .createLatch).2 = p.goes (some .advanceEpoch) := by
          simp only [Stage.run, hp.latch, hl, if_true]
        rw [hgoes]
        exact hp.goes _
      | false =>
        have hnone : ∀ p, Shows s s.fencingEpoch (some .createLatch) p → ¬ p.latch.isSome = true := by
          intro p hp
          rw [hp.latch, hl]
          simp
        refine @reaches_fileOperation w s .createLatch _ (fun s => { s with killLatch := true }) _ Site.createLatch
          .advanceEpoch ?_ ?_ ?_
          (fun n => @reaches_advanceEpoch w { s with killLatch := true, files := n } _ _ fun s => reaches_truncateMarker)
          (fun _ => rfl)
        · intro p hp
          simp only [Stage.run, if_neg (hnone p hp)]
          rfl
        · rintro (_ | _) p hp <;>
          · simp only [Stage.run, if_neg (hnone p hp)]
            rfl
        · intro n p hp
          exact ⟨hp.stored, rfl, hp.marker, hp.process⟩
    · intro p hp
      have hgoes : (Stage.run (some s.fencingEpoch) .done p .stop).2 = p.goes (some .createLatch) := by
        simp only [Stage.run, hstops p hp, hstopped, Bool.false_eq_true, if_false]
      rw [hgoes]
      exact hp.goes _

/-- The last stage of `local_resume`. -/
theorem reaches_recordResume : Reaches s s.fencingEpoch .recordResume
    ((append w .ownerResume >>= fun _ => get >>= fun s => pure s.fencingEpoch : Request Nat) s).2 := by
  have hidle : Idle s ((append w .ownerResume >>= fun _ => get >>= fun s => pure s.fencingEpoch : Request Nat) s).2 :=
    (Keeps.bind (idle_append _) fun _ => Keeps.bind Keeps.get fun _ => Keeps.pure _ : Keeps Idle
      (append w .ownerResume >>= fun _ => get >>= fun s => pure s.fencingEpoch)) s
  refine Reaches.answer .done fun p hp => ?_
  have hp' := hp.goes none
  exact ⟨hp'.stored.trans hidle.fencingEpoch.symm, hp'.latch.trans hidle.killLatch.symm,
    hp'.marker.trans hidle.stopEpochMarker.symm, by rw [hidle.fencingEpoch]; exact hp'.process⟩

theorem reaches_removeLatch : Reaches s s.fencingEpoch .removeLatch
    ((removeKillLatch w >>= fun _ => append w .ownerResume >>= fun _ => get >>= fun s => pure s.fencingEpoch :
      Request Nat) s).2 := by
  unfold removeKillLatch
  rw [bind_bind, get_bind]
  cases hl : s.killLatch with
  | true =>
    have hsome : ∀ p, Shows s s.fencingEpoch (some .removeLatch) p → p.latch.isSome = true :=
      fun p hp => hp.latch.trans hl
    refine @reaches_fileOperation w s .removeLatch _ (fun s => { s with killLatch := false }) _
      (fun p => { p with latch := none }) .recordResume ?_ ?_ ?_
      (fun n => @reaches_recordResume w { s with killLatch := false, files := n }) (fun _ => rfl)
    · intro p hp
      simp only [Stage.run, if_pos (hsome p hp)]
      rfl
    · rintro (_ | _) p hp <;>
      · simp only [Stage.run, if_pos (hsome p hp)]
        rfl
    · intro n p hp
      exact ⟨hp.stored, rfl, hp.marker, hp.process⟩
  | false =>
    refine Reaches.step s s.fencingEpoch .recordResume .done reaches_recordResume fun p hp => ?_
    have hgoes : (Stage.run (some s.fencingEpoch) .done p .removeLatch).2 = p.goes (some .recordResume) := by
      simp only [Stage.run, hp.latch, hl, Bool.false_eq_true, if_false]
    rw [hgoes]
    exact hp.goes _

/-- An uninterrupted `local_resume` leaves the files and the epoch as `localResumeGated` does. -/
theorem localResume_reached (w : World) (s : Host) : Reaches s s.fencingEpoch .removeMarker (localResumeGated w s).2 := by
  unfold localResumeGated removeStopEpochMarker
  rw [bind_bind, get_bind]
  cases hm : s.stopEpochMarker with
  | some marker =>
    have hsome : ∀ p, Shows s s.fencingEpoch (some .removeMarker) p → p.marker.isSome = true := by
      intro p hp
      rw [hp.marker, hm]
      rfl
    refine @reaches_fileOperation w s .removeMarker _ (fun s => { s with stopEpochMarker := none }) _
      (fun p => { p with marker := none }) .removeLatch ?_ ?_ ?_
      (fun n => @reaches_removeLatch w { s with stopEpochMarker := none, files := n }) (fun _ => rfl)
    · intro p hp
      simp only [Stage.run, if_pos (hsome p hp)]
      rfl
    · rintro (_ | _) p hp <;>
      · simp only [Stage.run, if_pos (hsome p hp)]
        rfl
    · intro n p hp
      exact ⟨hp.stored, hp.latch, rfl, hp.process⟩
  | none =>
    refine Reaches.step s s.fencingEpoch .removeLatch .done reaches_removeLatch fun p hp => ?_
    have hgoes : (Stage.run (some s.fencingEpoch) .done p .removeMarker).2 = p.goes (some .removeLatch) := by
      simp only [Stage.run, hp.marker, hm, Option.isSome_none, Bool.false_eq_true, if_false]
    rw [hgoes]
    exact hp.goes _

end

end Rampage.Controller.Crash
