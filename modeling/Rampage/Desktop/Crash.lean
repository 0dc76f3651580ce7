/-
Crashes and the role of a machine. A command that stops half-way makes a worker or a neutral machine an owner's exactly when it
resets a directory that can shrink to one, or stores an invitation beside the state of an owner who never confirmed
(`crash_keeps_role_iff`).
-/
import Rampage.Desktop.Join

namespace Rampage.Desktop

open Handler Disk

section

variable {F : List Dir → FileOp → Bool} {I P : Dir → Prop} {app : App} {listing : Listing} {α β : Type}

theorem triple_ensure_bind {c : Bool} {e : String} {f : Unit → OnDisk α} {Q : Except String α → Dir → Prop}
    (hf : c = true → Triple F I P (f ()) Q) (herror : ∀ s, P s → Q (.error e) s) : Triple F I P (ensure c e >>= f) Q := by
  cases c with
  | true => exact hf rfl
  | false => exact Triple.fail herror

theorem triple_ofExcept_bind {x : Except String α} {f : α → OnDisk β} {Q : Except String β → Dir → Prop}
    (hf : ∀ a, x = .ok a → Triple F I P (f a) Q) (herror : ∀ e s, P s → Q (.error e) s) :
    Triple F I P (ofExcept x >>= f) Q := by
  cases x with
  | ok a => exact hf a rfl
  | error e => exact Triple.fail (herror e)

theorem passes_ensure_bind {c : Bool} {e : String} {f : Unit → OnDisk α} {B : Dir → Prop} (hc : c = true)
    (hf : Passes F P (f ()) B) : Passes F P (ensure c e >>= f) B := by
  subst hc
  exact hf

theorem passes_ofExcept_bind {x : Except String α} {a : α} {f : α → OnDisk β} {B : Dir → Prop} (hx : x = .ok a)
    (hf : Passes F P (f a) B) : Passes F P (ofExcept x >>= f) B := by
  subst hx
  exact hf

/-! ## Creating a fabric -/

/-- Creating a fabric writes the confirmation before it leaves setup mode. -/
theorem harmless_activateOwnerFabric {d : Dir} (hrole : d.fabricRole ≠ .owner) :
    Triple F Harmless (fun s => s = d) activateOwnerFabric fun _ _ => True := by
  refine Triple.read_bind ?_
  rintro _ rfl
  rename_i d
  refine triple_ensure_bind (fun hworker => ?_) fun _ _ => trivial
  have hsetup : d.setupRequired = true := by
    unfold Dir.fabricRole at hrole
    by_cases hs : d.setupRequired = true
    · exact hs
    · rw [Bool.not_eq_true'] at hworker
      rw [if_neg hs, hworker, if_neg Bool.false_ne_true] at hrole
      exact absurd rfl hrole
  rw [if_pos (show d.isFile setupRequiredMarker = true from hsetup)]
  -- the marker that keeps the machine in setup is touched last
  have hremove : ∀ n, n ≠ setupRequiredMarker →
      Disk.Keeps F Harmless (fun s => s.setupRequired = true) (ignored (.removeFile n)) := by
    intro n hn
    refine keeps_ignored fun s s' hs happly => ?_
    rw [eq_erase_of_remove (.inl rfl) happly]
    exact setup_erase hn hs
  have hmarker : ∀ name bytes, name ≠ setupRequiredMarker →
      Triple F Harmless (fun s => s.setupRequired = true) (writeNewMarker name bytes) fun r s =>
        s.setupRequired = true ∧ (r = .ok () → (s.lookup name).isSome = true) := by
    intro name bytes hn
    refine (@triple_writeNewMarker F Harmless (fun s => s.setupRequired = true) (fun s => s.setupRequired = true) _ _
      (fun s hs _ => setup_insert _ hn hs) fun s hs => setup_insert _ hn hs).weaken (fun _ hs => hs) ?_
    rintro r s ⟨h | h, -⟩
    · exact h
    · exact ⟨h.1, fun _ => h.2⟩
  refine Triple.bind ((hmarker ownerFabricMarker _ (by decide)).weaken (fun s hs => hs ▸ hsetup) fun _ _ hs => hs) (fun _ => ?_)
    fun _ _ _ => trivial
  refine Triple.bind (Q := fun r s => s.setupRequired = true ∧ (r = .ok () → s.isConfirmed = true))
    (triple_onError ((hmarker ownerConfirmedMarker _ (by decide)).weaken (fun _ hs => hs.1) fun _ _ hs => hs) (fun _ hs => hs)
      fun e => ?_) (fun _ => ?_) fun _ _ _ => trivial
  · refine Triple.bind ((hremove _ (by decide)).weaken (fun _ hs => hs.1) fun _ _ hs => hs) (fun _ => ?_) ?_
    · exact Triple.fail fun s hs => ⟨hs, nofun⟩
    · exact fun _ _ hs => ⟨hs, nofun⟩
  · refine triple_onError (Q := fun r s => r = .ok () ∨ s.setupRequired = true) (Triple.perform ?_ ?_ ?_) (fun _ _ => trivial)
      fun e => ?_
    · -- once it goes, the confirmation is there
      rintro s s' ⟨-, hconfirmed⟩ happly
      rw [eq_erase_of_remove (.inl rfl) happly]
      refine ⟨harmless_of_confirmed ?_, .inl rfl⟩
      unfold Dir.isConfirmed
      rw [Table.lookup_erase', if_neg (by decide)]
      exact hconfirmed rfl
    · exact fun s e hs _ => .inr hs.1
    · exact fun l _ s hs => .inr hs.1
    · have hundo : Disk.Keeps F Harmless (fun s => s.setupRequired = true) (do
          ignored (.removeFile ownerFabricMarker)
          ignored (.removeFile ownerConfirmedMarker)
          (fail ("could not activate the owner fabric: " ++ e.text) : OnDisk Unit)) :=
        Disk.Keeps.bind (hremove _ (by decide)) fun _ => Disk.Keeps.bind (hremove _ (by decide)) fun _ => Disk.Keeps.fail _
      exact hundo.weaken (fun s hs => hs.resolve_left nofun) fun _ _ _ => trivial

/-! ## Commands -/

/-- The command removes entries of a directory that can shrink to an owner's, or stores an invitation beside the state of an
owner. -/
def Command.ExposesOwner (app : App) (d : Dir) : Command → Prop
  | .leaveFabric confirmation =>
    confirmation = leaveFabricConfirmation ∧ d.fabricRole = .worker ∧ app.stopAllSidecars = .ok () ∧
      validateRuntimeResetTarget app = .ok () ∧ d.shrinksToOwner = true
  | .factoryReset confirmation =>
    confirmation = factoryResetConfirmation ∧ app.stopAllSidecars = .ok () ∧ app.setAutostart = .ok () ∧
      validateRuntimeResetTarget app = .ok () ∧ d.shrinksToOwner = true
  | .prepareWorkerPairing => False
  | .persistRemoteInvite invitation token =>
    (∃ parsed, app.parseJson invitation = .ok parsed ∧ isSignedInvite parsed = true) ∧ d.takesInvite token = true ∧
      d.hasOwnerState = true
  | .activateOwnerFabric => False

/-- A reset whose target is refused, or whose directory cannot shrink to an owner's. -/
theorem harmless_reset {d : Dir} (h : validateRuntimeResetTarget app = .ok () → d.shrinksToOwner = false) :
    Triple F Harmless (fun s => s = d) (resetRuntimeToSetup app listing) fun _ _ => True := by
  cases htarget : validateRuntimeResetTarget app with
  | ok u => exact harmless_resetRuntimeToSetup (h htarget)
  | error e =>
    unfold resetRuntimeToSetup
    rw [htarget]
    exact Triple.fail fun _ _ => trivial

theorem harmless_persistRemoteInviteAt {d : Dir} {invitation token : String}
    (h : ¬ (Command.persistRemoteInvite invitation token).ExposesOwner app d) (hd : Harmless d) :
    Triple F Harmless (fun s => s = d) (persistRemoteInviteAt app invitation token) fun _ _ => True := by
  refine triple_ofExcept_bind (fun parsed hparsed => ?_) fun _ _ _ => trivial
  refine triple_ensure_bind (fun hsigned => ?_) fun _ _ => trivial
  have hquiet : Disk.Keeps F Harmless (fun s => s = d) (orText .createDirAll id) := by
    refine keeps_orText ?_
    rintro s s' rfl happly
    cases happly
    exact ⟨hd, rfl⟩
  refine Triple.bind hquiet (fun _ => Triple.read_bind ?_) fun _ _ _ => trivial
  rintro _ rfl
  rename_i d
  refine triple_ensure_bind (fun hactive => ?_) fun _ _ => trivial
  rw [Bool.and_eq_true] at hactive
  have hinvite : ∃ parsed, app.parseJson invitation = .ok parsed ∧ isSignedInvite parsed = true := by
    cases hjson : app.parseJson invitation with
    | error e =>
      rw [hjson] at hparsed
      cases hparsed
    | ok v =>
      rw [hjson] at hparsed
      cases hparsed
      exact ⟨_, rfl, hsigned⟩
  by_cases htakes : d.takesInvite token = true
  · have howner : d.hasOwnerState = false := by
      rw [← Bool.not_eq_true]
      exact fun hstate => h ⟨hinvite, htakes, hstate⟩
    unfold Dir.hasOwnerState at howner
    rw [Bool.and_eq_false_iff] at howner
    rcases howner with hnone | hconfirmed
    · refine (harmless_placeInvite_of_no_owner invitation token).weaken ?_ fun _ _ hs => hs
      rintro s rfl
      refine ⟨hactive.1, fun n hn => ?_⟩
      rw [← Bool.not_eq_true]
      exact fun hp => absurd (List.any_eq_true.2 ⟨n, hn, hp⟩) (by rw [hnone]; exact Bool.false_ne_true)
    · rw [Bool.not_eq_false'] at hconfirmed
      exact (keeps_confirmed_placeInvite invitation token).weaken (fun s hs => hs ▸ hconfirmed) fun _ _ _ => trivial
  · exact harmless_placeInvite_of_refused invitation token hactive.1 hactive.2 (Bool.eq_false_of_not_eq_true htakes)

/-- A command that does not expose an owner's state is harmless at every crash point. -/
theorem harmless_run {d : Dir} (hrole : d.fabricRole ≠ .owner) {command : Command} (h : ¬ command.ExposesOwner app d) :
    Triple F Harmless (fun s => s = d) (command.run app listing) fun _ _ => True := by
  have hd := harmless_of_role hrole
  cases command with
  | leaveFabric confirmation =>
    refine triple_ensure_bind (fun hconfirmation => Triple.read_bind ?_) fun _ _ => trivial
    rintro _ rfl
    rename_i d
    refine triple_ensure_bind (fun hworker => triple_ofExcept_bind (fun _ hstop => ?_) fun _ _ _ => trivial) fun _ _ => trivial
    refine harmless_reset fun htarget => ?_
    rw [← Bool.not_eq_true]
    exact fun hshrinks => h ⟨beq_iff_eq.1 hconfirmation, beq_iff_eq.1 hworker, hstop, htarget, hshrinks⟩
  | factoryReset confirmation =>
    refine triple_ensure_bind (fun hconfirmation => triple_ofExcept_bind (fun _ hstop => triple_ofExcept_bind
      (fun _ hautostart => ?_) fun _ _ _ => trivial) fun _ _ _ => trivial) fun _ _ => trivial
    refine harmless_reset fun htarget => ?_
    rw [← Bool.not_eq_true]
    exact fun hshrinks => h ⟨beq_iff_eq.1 hconfirmation, hstop, hautostart, htarget, hshrinks⟩
  | prepareWorkerPairing => exact harmless_prepareWorkerPairingFiles hrole
  | persistRemoteInvite invitation token => exact harmless_persistRemoteInviteAt h hd
  | activateOwnerFabric => exact harmless_activateOwnerFabric hrole

/-- A command that does passes a directory of an owner who never confirmed, for some listing and some fault. -/
theorem passes_run {d : Dir} {command : Command} (h : command.ExposesOwner app d) :
    ∃ listing F, Passes F (fun s => s = d) (command.run app listing) fun s =>
      s.launchesOwner = true ∧ s.isConfirmed = false := by
  cases command with
  | leaveFabric confirmation =>
    obtain ⟨rfl, hworker, hstop, htarget, hshrinks⟩ := h
    refine ⟨.first d.covers, noFault, passes_ensure_bind (beq_self_eq_true _) (Passes.read_bind ?_)⟩
    rintro t rfl
    refine passes_ensure_bind (beq_iff_eq.2 hworker) (passes_ofExcept_bind hstop ?_)
    exact passes_resetRuntimeToSetup hshrinks htarget
  | factoryReset confirmation =>
    obtain ⟨rfl, hstop, hautostart, htarget, hshrinks⟩ := h
    refine ⟨.first d.covers, noFault, passes_ensure_bind (beq_self_eq_true _) (passes_ofExcept_bind hstop
      (passes_ofExcept_bind hautostart ?_))⟩
    exact passes_resetRuntimeToSetup hshrinks htarget
  | prepareWorkerPairing => exact h.elim
  | persistRemoteInvite invitation token =>
    obtain ⟨⟨parsed, hparsed, hsigned⟩, htakes, howner⟩ := h
    have hjson : ((app.parseJson invitation).mapError fun e => "invite is not valid JSON: " ++ e) = .ok parsed := by
      rw [hparsed]
      rfl
    refine ⟨.first d.covers, intentStays, passes_ofExcept_bind hjson (passes_ensure_bind hsigned ?_)⟩
    refine Passes.bind (@triple_orText_spared intentStays (fun s => s = d) (fun s => s = d) .createDirAll id (fun _ => rfl)
      fun s hs => ⟨s, rfl, hs⟩) fun _ => Passes.read_bind ?_
    rintro t rfl
    have hactive : (t.setupRequired && t.isFile workerPairingIntentMarker) = true := by
      unfold Dir.takesInvite at htakes
      rw [Bool.and_eq_true, Bool.and_eq_true] at htakes
      exact htakes.1.1
    refine passes_ensure_bind hactive fun d hd hp => ?_
    exact passes_placeInvite invitation token d hd (hp ▸ ⟨htakes, howner⟩)
  | activateOwnerFabric => exact h.elim

end

/-- At every crash point of a command on the machine of a worker or of nobody, whatever the order of the listing and whatever
fails, the next launch goes on to the owner's controller only if this was confirmed, exactly if the command exposes no owner's
state. -/
theorem crash_keeps_role_iff (app : App) (d : Dir) (command : Command) (hrole : d.fabricRole ≠ .owner) :
    (∀ (listing : Listing) (fails : List Dir → FileOp → Bool), ∀ s ∈ (command.run app listing (Disk.start d fails)).2.passed,
      ∀ faults, (launchFabric (Disk.start s faults)).1 = .ok .owner → s.isConfirmed = true) ↔
      ¬ command.ExposesOwner app d := by
  constructor
  · intro hall hexposes
    obtain ⟨listing, fails, hpasses⟩ := @passes_run app d command hexposes
    obtain ⟨s, hs, howner, hconfirmed⟩ := hpasses (Disk.start d fails) (fine_start trivial) rfl
    obtain ⟨faults, hlaunch⟩ := (launchFabric_owner_iff s).2 howner
    rw [hall listing fails s hs faults hlaunch] at hconfirmed
    cases hconfirmed
  · intro h listing fails s hs faults hlaunch
    obtain ⟨hfine, -⟩ := @harmless_run fails app listing d hrole command h (Disk.start d fails)
      (fine_start (harmless_of_role hrole)) rfl
    exact hfine.within s hs ((launchFabric_owner_iff s).1 ⟨faults, hlaunch⟩)

namespace Laptop

/-- The application of a laptop. -/
def app : App where
  path := ⟨true, some "runtime", some "ai.obtuse.rampage", false⟩
  display name := "runtime/" ++ name
  onWindows := true
  parseJson _ := .error "expected value at line 1 column 1"
  stopAllSidecars := .ok ()
  setAutostart := .ok ()

/-- A paired worker. -/
def runtime : Dir :=
  ((((∅ : Dir).insert "agent.key" (.file "secret")).insert "agent.identity.json" (.file "{}")).insert "agent.enrolled"
    (.file "controller")).insert "agent.controller-pin.json" (.file "pinned")

/-- A laptop that was never set up. -/
def unused : Dir := (∅ : Dir).insert setupRequiredMarker (.file "rampage.setup-required.v1\n")

theorem leaves_exposed : (Command.leaveFabric leaveFabricConfirmation).ExposesOwner app runtime :=
  ⟨rfl, by decide, rfl, by decide +kernel, by decide⟩

end Laptop

/-- A laptop that was never set up creates a fabric: it ends as an owner, and at no point of the way a crash makes it one
that was not confirmed. -/
theorem crash_keeps_role_iff_laptop :
    (activateOwnerFabric (Disk.start Laptop.unused fun _ _ => false)).1 = .ok () ∧
      (activateOwnerFabric (Disk.start Laptop.unused fun _ _ => false)).2.now.fabricRole = .owner ∧
      ∀ (listing : Listing) (fails : List Dir → FileOp → Bool),
        ∀ s ∈ (Command.activateOwnerFabric.run Laptop.app listing (Disk.start Laptop.unused fails)).2.passed,
        ∀ faults, (launchFabric (Disk.start s faults)).1 = .ok .owner → s.isConfirmed = true := by
  refine ⟨by decide +kernel, by decide +kernel, ?_⟩
  exact (crash_keeps_role_iff Laptop.app Laptop.unused .activateOwnerFabric (by decide)).2 id

/-- A worker that leaves its fabric and dies while its files are removed comes back as an owner. -/
theorem left_fabric_comes_back_as_owner :
    ¬ ∀ (app : App) (d : Dir) (command : Command), d.fabricRole ≠ .owner →
      ∀ (listing : Listing) (fails : List Dir → FileOp → Bool), ∀ s ∈ (command.run app listing (Disk.start d fails)).2.passed,
        ∀ faults, (launchFabric (Disk.start s faults)).1 = .ok .owner → s.isConfirmed = true := by
  intro hall
  obtain ⟨listing, fails, hpasses⟩ := passes_run Laptop.leaves_exposed
  obtain ⟨s, hs, howner, hconfirmed⟩ := hpasses (Disk.start Laptop.runtime fails) (fine_start trivial) rfl
  obtain ⟨faults, hlaunch⟩ := (launchFabric_owner_iff s).2 howner
  rw [hall Laptop.app Laptop.runtime _ (by decide) listing fails s hs faults hlaunch] at hconfirmed
  cases hconfirmed

end Rampage.Desktop
