/-
The next launch after a restart. `launch_fabric` goes on to the owner's controller exactly from the directories that hold some
fabric state, but neither the marker of setup mode nor an enrolment (`launchFabric_owner_iff`). The first section has the
triples of the operations from which the commands are made.
-/
import Rampage.Desktop.Runtime

namespace Rampage.Desktop

open Handler Disk

/-! ## Triples for the operations of the application -/

section

variable {F : List Dir → FileOp → Bool} {I P : Dir → Prop} {ε : Type}

theorem triple_onError {x : Handler (Disk Dir FileOp) ε Unit} {report : ε → OnDisk Unit} {Q : Except ε Unit → Dir → Prop}
    {R : Except String Unit → Dir → Prop} (hx : Triple F I P x Q) (hok : ∀ s, Q (.ok ()) s → R (.ok ()) s)
    (herror : ∀ e, Triple F I (Q (.error e)) (report e) R) : Triple F I P (onError x report) R := by
  refine Triple.result_bind hx fun r => ?_
  cases r with
  | ok u => exact Triple.pure hok
  | error e => exact herror e

/-- An operation that reports its failure. -/
theorem triple_orText {op : FileOp} {text : String → String} {R : Except String Unit → Dir → Prop}
    (hok : ∀ s s', P s → op.apply s = .ok s' → I s' ∧ R (.ok ()) s')
    (herror : ∀ e s, P s → R (.error e) s) : Triple F I P (orText op text) R := by
  refine triple_onError (Q := fun r s => match r with
    | .ok _ => R (.ok ()) s
    | .error _ => P s) (Triple.perform hok (fun _ _ hs _ => hs) fun _ _ _ hs => hs) (fun _ h => h) fun e => ?_
  exact Triple.fail fun s hs => herror _ s hs

theorem keeps_onError {x : Handler (Disk Dir FileOp) ε Unit} {report : ε → OnDisk Unit} (hx : Disk.Keeps F I P x)
    (hreport : ∀ e, Disk.Keeps F I P (report e)) : Disk.Keeps F I P (onError x report) :=
  triple_onError hx (fun _ h => h) hreport

theorem keeps_orText {op : FileOp} {text : String → String} (h : ∀ s s', P s → op.apply s = .ok s' → I s' ∧ P s') :
    Disk.Keeps F I P (orText op text) :=
  triple_orText h fun _ _ hs => hs

theorem keeps_ignored {op : FileOp} (h : ∀ s s', P s → op.apply s = .ok s' → I s' ∧ P s') :
    Disk.Keeps F I P (ignored op) :=
  Disk.Keeps.result_bind (Disk.Keeps.perform h) fun _ => Disk.Keeps.pure ()

/-- An operation that only fails if the file system does. -/
theorem triple_orText_of_ok {op : FileOp} {text : String → String} {P' : Dir → Prop}
    (hok : ∀ s, P s → ∃ s', op.apply s = .ok s' ∧ I s' ∧ P' s') (hP : ∀ s, P s → P' s) :
    Triple F I P (orText op text) fun r s => P' s ∧ ((∀ l op, F l op = false) → r = .ok ()) := by
  refine triple_onError (Q := fun r s => P' s ∧ ∀ e, r = .error e → ∃ l op, F l op = true) (Triple.perform ?_ ?_ ?_) ?_ ?_
  · intro s s' hs happly
    obtain ⟨t, ht, hi, hp⟩ := hok s hs
    rw [happly] at ht
    cases ht
    exact ⟨hi, hp, nofun⟩
  · intro s e hs happly
    obtain ⟨t, ht, -⟩ := hok s hs
    rw [happly] at ht
    cases ht
  · intro l hl s hs
    exact ⟨hP s hs, fun _ _ => ⟨l, _, hl⟩⟩
  · intro s hs
    exact ⟨hs.1, fun _ => rfl⟩
  · intro e
    refine Triple.fail fun s hs => ⟨hs.1, fun hF => ?_⟩
    obtain ⟨l, op, hl⟩ := hs.2 e rfl
    rw [hF l op] at hl
    cases hl

/-- A marker is new, or something was in its place; `write_new_marker` answers unless the file system fails. -/
theorem triple_writeNewMarker {P' : Dir → Prop} {name bytes : String}
    (hcreate : ∀ s : Dir, P s → s.lookup name = none → I (s.insert name (.file "")) ∧ P' (s.insert name (.file "")))
    (hwrite : ∀ s : Dir, P' s → I (s.insert name (.file bytes)) ∧ P' (s.insert name (.file bytes))) :
    Triple F I P (writeNewMarker name bytes) fun r s =>
      ((P s ∧ (r = .ok () → (s.lookup name).isSome = true)) ∨ (P' s ∧ (s.lookup name).isSome = true)) ∧
        ((∀ l op, F l op = false) → r = .ok ()) := by
  have hnew : Triple F I P (file (.createNew name)) fun r s => match r with
      | .ok _ => I s ∧ P' s ∧ (s.lookup name).isSome = true
      | .error e => P s ∧ ((e.kind = .alreadyExists ∧ (s.lookup name).isSome = true) ∨
        (e.kind ≠ .alreadyExists ∧ ∃ l op, F l op = true)) := by
    refine Triple.perform ?_ ?_ ?_
    · intro s s' hs happly
      simp only [FileOp.apply] at happly
      split at happly <;> cases happly
      rename_i hnone
      rw [Bool.not_eq_true, Option.isSome_eq_false_iff, Option.isNone_iff_eq_none] at hnone
      obtain ⟨hi, hp⟩ := hcreate s hs hnone
      refine ⟨hi, hi, hp, ?_⟩
      rw [AList.lookup_insert]
      rfl
    · intro s e hs happly
      simp only [FileOp.apply] at happly
      split at happly <;> cases happly
      rename_i hsome
      exact ⟨hs, .inl ⟨rfl, hsome⟩⟩
    · intro l hl s hs
      exact ⟨hs, .inr ⟨by decide, l, _, hl⟩⟩
  -- a marker that is there already is as good as a new one
  refine Triple.result_bind hnew fun r => ?_
  cases r with
  | ok u =>
    have hput := @triple_orText_of_ok F I (fun s => I s ∧ P' s ∧ (s.lookup name).isSome = true) (.write name bytes) id
      (fun s => I s ∧ P' s ∧ (s.lookup name).isSome = true) (fun s hs => by
        obtain ⟨hi, hp⟩ := hwrite s hs.2.1
        exact ⟨_, rfl, hi, hi, hp, by rw [AList.lookup_insert]; rfl⟩) fun _ hs => hs
    have hsync := @triple_orText_of_ok F I (fun s => I s ∧ P' s ∧ (s.lookup name).isSome = true) (.sync name) id
      (fun s => I s ∧ P' s ∧ (s.lookup name).isSome = true) (fun s hs => ⟨s, rfl, hs.1, hs⟩) fun _ hs => hs
    refine Triple.bind hput (fun _ => hsync.weaken (fun _ hs => hs.1) ?_) ?_
    · intro r s hs
      exact ⟨.inr hs.1.2, hs.2⟩
    · intro e s hs
      refine ⟨.inr hs.1.2, fun hF => ?_⟩
      cases hs.2 hF
  | error e =>
    dsimp only
    split
    · rename_i hkind
      refine Triple.pure fun s hs => ⟨.inl ⟨hs.1, fun _ => ?_⟩, fun _ => rfl⟩
      rcases hs.2 with h | h
      · exact h.2
      · exact absurd hkind h.1
    · rename_i hkind
      refine Triple.fail fun s hs => ⟨.inl ⟨hs.1, fun h => by cases h⟩, fun hF => ?_⟩
      rcases hs.2 with h | ⟨-, l, op, hl⟩
      · exact absurd h.1 hkind
      · rw [hF l op] at hl
        cases hl

/-- What a file in the place of the marker does not harm is kept. -/
theorem keeps_writeNewMarker {name bytes : String}
    (h : ∀ (s : Dir) (b : String), P s → I (s.insert name (.file b)) ∧ P (s.insert name (.file b))) :
    Disk.Keeps F I P (writeNewMarker name bytes) := by
  refine (triple_writeNewMarker (fun s hs _ => h s "" hs) fun s hs => h s bytes hs).weaken (fun _ hs => hs) ?_
  rintro r s ⟨⟨hs, -⟩ | ⟨hs, -⟩, -⟩
  · exact hs
  · exact hs

end

/-! ## The next launch -/

namespace Dir

/-- `OWNER_CONFIRMED_MARKER` is present. -/
def isConfirmed (d : Dir) : Bool := (d.lookup ownerConfirmedMarker).isSome

/-- There is fabric state, but neither setup mode nor the enrolment of a worker. A marker that is a dangling link is no
setup mode and cannot be written either. -/
def launchesOwner (d : Dir) : Bool :=
  !d.setupRequired && !d.workerEnrollmentExists &&
    (fabricState.any d.isPresent || (d.lookup setupRequiredMarker).isSome)

end Dir

namespace Dir

theorem isFile_insert (d : Dir) (name bytes : String) : Dir.isFile (d.insert name (.file bytes)) name = true := by
  unfold Dir.isFile
  rw [AList.lookup_insert]
  rfl

theorem isFile_congr {d d' : Dir} {name : String} (h : d'.lookup name = d.lookup name) : d'.isFile name = d.isFile name := by
  unfold Dir.isFile
  rw [h]

theorem isPresent_congr {d d' : Dir} {name : String} (h : d'.lookup name = d.lookup name) :
    d'.isPresent name = d.isPresent name := by
  unfold Dir.isPresent
  rw [h]

end Dir

section

variable {F : List Dir → FileOp → Bool}

/-- A marker in a directory is new, or what was there is still there. -/
theorem triple_writeNewMarker_of_eq (d : Dir) (name bytes : String) :
    Triple F (fun _ => True) (fun s => s = d) (writeNewMarker name bytes) fun r s =>
      ((s = d ∧ (r = .ok () → (d.lookup name).isSome = true)) ∨ (d.lookup name = none ∧ s.isFile name = true)) ∧
        ((∀ l op, F l op = false) → r = .ok ()) := by
  refine (@triple_writeNewMarker F (fun _ => True) (fun s => s = d) (fun s => d.lookup name = none ∧ s.isFile name = true)
    name bytes ?_ ?_).weaken (fun _ hs => hs) ?_
  · rintro s rfl hnone
    exact ⟨trivial, hnone, Dir.isFile_insert s name ""⟩
  · intro s hs
    exact ⟨trivial, hs.1, Dir.isFile_insert s name bytes⟩
  · rintro r s ⟨⟨rfl, hsome⟩ | ⟨hs, -⟩, hanswer⟩
    · exact ⟨.inl ⟨rfl, hsome⟩, hanswer⟩
    · exact ⟨.inr hs, hanswer⟩

/-- After `ensure_neutral_first_run` there is setup mode, or the directory is as it was. -/
theorem triple_ensureNeutralFirstRun (d : Dir) :
    Triple F (fun _ => True) (fun s => s = d) ensureNeutralFirstRun fun r s =>
      (∀ b, r = .ok b → s.setupRequired = true ∨
        (s = d ∧ (fabricState.any d.isPresent || (d.lookup setupRequiredMarker).isSome) = true)) ∧
        ((∀ l op, F l op = false) → (∃ b, r = .ok b) ∧ (d.launchesOwner = true → s = d)) := by
  have hcreate : Triple F (fun _ => True) (fun s => s = d) (orText .createDirAll id) fun r s =>
      s = d ∧ ((∀ l op, F l op = false) → r = .ok ()) :=
    triple_orText_of_ok (fun s hs => ⟨s, rfl, trivial, hs⟩) fun _ hs => hs
  refine Triple.bind hcreate (fun _ => Triple.read_bind ?_) fun e s hs => ⟨nofun, fun hF => nomatch hs.2 hF⟩
  rintro _ ⟨rfl, -⟩
  rename_i d
  by_cases hany : fabricState.any d.isPresent = true
  · rw [if_pos hany]
    refine Triple.pure fun s hs => ⟨fun _ _ => .inr ⟨hs, ?_⟩, fun _ => ⟨⟨_, rfl⟩, fun _ => hs⟩⟩
    rw [hany, Bool.true_or]
  · rw [if_neg hany]
    refine Triple.bind (triple_writeNewMarker_of_eq d setupRequiredMarker _) (fun _ => Triple.pure ?_)
      fun e s hs => ⟨nofun, fun hF => nomatch hs.2 hF⟩
    rintro s ⟨⟨rfl, hsome⟩ | ⟨hnone, hfile⟩, -⟩
    · refine ⟨fun _ _ => .inr ⟨rfl, ?_⟩, fun _ => ⟨⟨_, rfl⟩, fun _ => rfl⟩⟩
      rw [hsome rfl, Bool.or_true]
    · refine ⟨fun _ _ => .inl hfile, fun _ => ⟨⟨_, rfl⟩, fun howner => ?_⟩⟩
      unfold Dir.launchesOwner at howner
      rw [Bool.not_eq_true] at hany
      rw [hany, hnone, Option.isSome_none, Bool.or_false, Bool.and_false] at howner
      cases howner

/-- `launch_fabric` goes on to the owner's controller exactly from the directories that `launchesOwner` describes, unless the
file system fails. -/
theorem triple_launchFabric (d : Dir) :
    Triple F (fun _ => True) (fun s => s = d) launchFabric fun r _ =>
      (r = .ok .owner → d.launchesOwner = true) ∧ ((∀ l op, F l op = false) → d.launchesOwner = true → r = .ok .owner) := by
  have hcreate : Triple F (fun _ => True) (fun s => s = d) (orText .createDirAll id) fun r s =>
      s = d ∧ ((∀ l op, F l op = false) → r = .ok ()) :=
    triple_orText_of_ok (fun s hs => ⟨s, rfl, trivial, hs⟩) fun _ hs => hs
  refine Triple.bind hcreate (fun _ => ?_) fun e s hs => ⟨nofun, fun hF => nomatch hs.2 hF⟩
  refine Triple.bind ((triple_ensureNeutralFirstRun d).weaken (fun _ hs => hs.1) fun _ _ hs => hs) (fun _ =>
    Triple.read_bind ?_) fun e s hs => ⟨nofun, fun hF => nomatch (hs.2 hF).1⟩
  rintro t ⟨hcases, hsame⟩
  by_cases hsetup : t.setupRequired = true
  · rw [if_pos hsetup]
    refine Triple.pure fun s hs => ⟨nofun, fun hF howner => ?_⟩
    rw [(hsame hF).2 howner] at hsetup
    unfold Dir.launchesOwner at howner
    rw [hsetup] at howner
    cases howner
  rw [if_neg hsetup]
  by_cases hworker : t.workerEnrollmentExists = true
  · rw [if_pos hworker]
    refine Triple.pure fun s hs => ⟨nofun, fun hF howner => ?_⟩
    rw [(hsame hF).2 howner] at hworker
    unfold Dir.launchesOwner at howner
    rw [hworker, Bool.not_true, Bool.and_false] at howner
    cases howner
  rw [if_neg hworker]
  have howner : d.launchesOwner = true := by
    rcases hcases _ rfl with h | ⟨rfl, h⟩
    · exact absurd h hsetup
    · unfold Dir.launchesOwner
      rw [Bool.not_eq_true] at hsetup hworker
      rw [hsetup, hworker, h]
      rfl
  refine Triple.bind (triple_writeNewMarker_of_eq t ownerFabricMarker _) (fun _ => Triple.pure fun s _ =>
    ⟨fun _ => howner, fun _ _ => rfl⟩) fun e s hs => ⟨nofun, fun hF => nomatch hs.2 hF⟩

/-- From these directories, and from no others, a launch can go on to the owner's controller. -/
theorem launchFabric_owner_iff (d : Dir) :
    (∃ fails, (launchFabric (Disk.start d fails)).1 = .ok .owner) ↔ d.launchesOwner = true := by
  constructor
  · rintro ⟨fails, hrun⟩
    exact (triple_launchFabric d (Disk.start d fails) (fine_start trivial) rfl).2.2.1 hrun
  · intro howner
    exact ⟨fun _ _ => false, (triple_launchFabric d (Disk.start d _) (fine_start trivial) rfl).2.2.2 (fun _ _ => rfl) howner⟩

end

end Rampage.Desktop
