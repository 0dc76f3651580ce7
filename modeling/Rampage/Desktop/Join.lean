/-
Joining a fabric. Preparing to join never leaves setup mode. Storing the invitation does, and if the last step fails it goes back:
the invitation is removed before the marker of setup mode is written again.
-/
import Rampage.Desktop.Reset

namespace Rampage.Desktop

open Handler Disk

/-! ## Entries under other names -/

namespace Dir

theorem isFile_insert_ne {d : Dir} {name n : String} (h : name ≠ n) (e : Entry) :
    Dir.isFile (d.insert n e) name = d.isFile name :=
  Dir.isFile_congr (by rw [Table.lookup_insert', if_neg h])

theorem isFile_erase_ne {d : Dir} {name n : String} (h : name ≠ n) : Dir.isFile (d.erase n) name = d.isFile name :=
  Dir.isFile_congr (by rw [Table.lookup_erase', if_neg h])

theorem isPresent_insert_ne {d : Dir} {name n : String} (h : name ≠ n) (e : Entry) :
    Dir.isPresent (d.insert n e) name = d.isPresent name :=
  Dir.isPresent_congr (by rw [Table.lookup_insert', if_neg h])

theorem isPresent_erase_ne {d : Dir} {name n : String} (h : name ≠ n) : Dir.isPresent (d.erase n) name = d.isPresent name :=
  Dir.isPresent_congr (by rw [Table.lookup_erase', if_neg h])

end Dir

/-- No name with another ending is that of a temporary file. -/
theorem ne_temporaryInvite {name : String} (h : name.toList.getLast? ≠ some 'p') (token : String) :
    name ≠ temporaryInvite token := by
  rintro rfl
  refine h ?_
  unfold temporaryInvite
  rw [String.toList_append, List.getLast?_append]
  rfl

section

variable {F : List Dir → FileOp → Bool} {I P : Dir → Prop} {app : App} {listing : Listing}

/-- Removing stale credentials keeps what their removal one by one keeps. -/
theorem keeps_removeStale (h : ∀ s : Dir, ∀ n ∈ staleCredentials, P s → I (s.erase n) ∧ P (s.erase n)) :
    Disk.Keeps F I P (removeStaleWorkerCredentialsInSetup app) := by
  refine Disk.Keeps.read_bind fun t _ => ?_
  split
  · refine Disk.Keeps.forEach fun name hname => Disk.Keeps.read_bind fun t _ => ?_
    cases t.lookup name with
    | none => exact Disk.Keeps.pure ()
    | some e =>
      cases e with
      | file bytes =>
        refine keeps_orText fun s s' hs happly => ?_
        rw [eq_erase_of_remove (.inl rfl) happly]
        exact h s name hname hs
      | _ => exact Disk.Keeps.fail _
  · exact Disk.Keeps.pure ()

theorem ne_of_mem_stale {n : String} (h : n ∈ staleCredentials) :
    n ≠ setupRequiredMarker ∧ n ≠ ownerConfirmedMarker ∧ n ≠ workerPairingIntentMarker := by
  revert n
  decide

theorem keeps_ensure (c : Bool) (e : String) : Disk.Keeps F I P (ensure c e : OnDisk Unit) := by
  unfold ensure
  split
  · exact Disk.Keeps.pure ()
  · exact Disk.Keeps.fail e

/-- Setup mode outlasts an operation on another name. -/
theorem setup_erase {s : Dir} {n : String} (hn : n ≠ setupRequiredMarker) (h : s.setupRequired = true) :
    Harmless (s.erase n) ∧ Dir.setupRequired (s.erase n) = true := by
  have hkept : Dir.setupRequired (s.erase n) = true := (Dir.isFile_erase_ne hn.symm).trans h
  exact ⟨harmless_of_setup hkept, hkept⟩

theorem setup_insert {s : Dir} {n : String} (e : Entry) (hn : n ≠ setupRequiredMarker) (h : s.setupRequired = true) :
    Harmless (s.insert n e) ∧ Dir.setupRequired (s.insert n e) = true := by
  have hkept : Dir.setupRequired (s.insert n e) = true := (Dir.isFile_insert_ne hn.symm e).trans h
  exact ⟨harmless_of_setup hkept, hkept⟩

/-- Preparing to join is harmless on a machine that is no owner's. -/
theorem harmless_prepareWorkerPairingFiles {d : Dir} (hrole : d.fabricRole ≠ .owner) :
    Triple F Harmless (fun s => s = d) (prepareWorkerPairingFiles app listing) fun _ _ => True := by
  refine Triple.read_bind ?_
  rintro _ rfl
  rename_i d
  unfold leaveRole
  cases hd : d.fabricRole with
  | worker => exact Triple.fail fun _ _ => trivial
  | owner => exact absurd hd hrole
  | setup =>
    have hsetup : d.setupRequired = true := by
      unfold Dir.fabricRole at hd
      split at hd
      · assumption
      · split at hd <;> cases hd
    have hrest : Disk.Keeps F Harmless (fun s => s.setupRequired = true)
        (removeStaleWorkerCredentialsInSetup app >>= fun _ => writePairingIntent) := by
      refine Disk.Keeps.bind (keeps_removeStale fun s n hn hs => setup_erase (ne_of_mem_stale hn).1 hs) fun _ => ?_
      refine Disk.Keeps.read_bind fun t _ => ?_
      cases readBoundedRegularFile t workerPairingIntentMarker 128 "worker pairing intent" with
      | ok bytes =>
        dsimp only
        split
        · exact Disk.Keeps.pure ()
        · exact Disk.Keeps.fail _
      | error e =>
        dsimp only
        split
        · exact Disk.Keeps.fail _
        · exact keeps_writeNewMarker fun s b hs => setup_insert _ (by decide) hs
    exact hrest.weaken (fun s hs => hs ▸ hsetup) fun _ _ _ => trivial

end

/-! ## Storing the invitation -/

/-- The entry is a regular file. -/
def Entry.isRegular : Entry → Bool
  | .file _ => true
  | _ => false

/-- The traces of an owner's controller. -/
def ownerState : List String :=
  [ownerFabricMarker, "controller.token", "controller.db", "governor.key", "mesh.key", "storage.key"]

namespace Dir

/-- Nothing of the directory stands in the way of an invitation. -/
def takesInvite (d : Dir) (token : String) : Bool :=
  d.setupRequired && d.isFile workerPairingIntentMarker && (staleCredentials.all fun n => (d.lookup n).all Entry.isRegular) &&
    (d.lookup (temporaryInvite token)).isNone

/-- An owner's controller ran here, and the fabric was not confirmed. -/
def hasOwnerState (d : Dir) : Bool := ownerState.any d.isPresent && !d.isConfirmed

end Dir

/-- All the fabric state there is belongs to setup mode or to an invitation. -/
structure Bare (s : Dir) : Prop where
  setup : s.isFile setupRequiredMarker = true ∨ s.lookup setupRequiredMarker = none
  invite : s.isFile "remote-invite.json" = true ∨ s.lookup "remote-invite.json" = none
  gone : ∀ n ∈ ["agent.controller-pin.json", "agent.enrolled", "agent.identity.json", "agent.key"], s.lookup n = none
  owner : ∀ n ∈ ownerState, s.isPresent n = false

theorem isPresent_of_none {s : Dir} {n : String} (h : s.lookup n = none) : s.isPresent n = false := by
  unfold Dir.isPresent
  rw [h]
  rfl

theorem isFile_of_none {s : Dir} {n : String} (h : s.lookup n = none) : s.isFile n = false := by
  unfold Dir.isFile
  rw [h]
  rfl

/-- Such a directory is in setup mode, that of a worker, or neutral. -/
theorem Bare.harmless {s : Dir} (h : Bare s) : Harmless s := by
  rcases h.setup with hsetup | hsetup
  · exact harmless_of_setup hsetup
  rcases h.invite with hinvite | hinvite
  · refine harmless_of_worker ?_
    have howner : s.isFile ownerFabricMarker = false := by
      rw [← Bool.not_eq_true]
      intro hfile
      have hpresent := Dir.isPresent_of_isFile hfile
      rw [h.owner _ (by decide)] at hpresent
      cases hpresent
    unfold Dir.workerEnrollmentExists
    rw [isFile_of_none hsetup, howner, hinvite]
    rfl
  · intro howner
    unfold Dir.launchesOwner at howner
    simp only [Bool.and_eq_true, Bool.or_eq_true] at howner
    rcases howner.2 with hany | hsome
    · obtain ⟨n, hmem, hp⟩ := List.any_eq_true.1 hany
      have hcases : ∀ n ∈ fabricState, n = setupRequiredMarker ∨ n = "remote-invite.json" ∨
          n ∈ ["agent.controller-pin.json", "agent.enrolled", "agent.identity.json", "agent.key"] ∨ n ∈ ownerState := by
        decide
      rcases hcases n hmem with rfl | rfl | hn | hn
      · rw [isPresent_of_none hsetup] at hp
        cases hp
      · rw [isPresent_of_none hinvite] at hp
        cases hp
      · rw [isPresent_of_none (h.gone n hn)] at hp
        cases hp
      · rw [h.owner n hn] at hp
        cases hp
    · rw [hsetup] at hsome
      cases hsome

theorem Bare.erase {s : Dir} (h : Bare s) (n : String) : Bare (s.erase n) := by
  have hfile : ∀ {name}, s.isFile name = true ∨ s.lookup name = none →
      Dir.isFile (s.erase n) name = true ∨ AList.lookup name (s.erase n) = none := by
    intro name hname
    by_cases hn : name = n
    · exact .inr (by rw [Table.lookup_erase', if_pos hn])
    · rw [Dir.isFile_erase_ne hn, Table.lookup_erase', if_neg hn]
      exact hname
  refine ⟨hfile h.setup, hfile h.invite, ?_, ?_⟩
  · intro name hname
    rw [Table.lookup_erase']
    split
    · rfl
    · exact h.gone name hname
  · intro name hname
    by_cases hn : name = n
    · exact isPresent_of_none (by rw [Table.lookup_erase', if_pos hn])
    · rw [Dir.isPresent_erase_ne hn]
      exact h.owner name hname

/-- A file in the place of the marker of setup mode or of the invitation, or under a name that is no fabric state. -/
theorem Bare.insert {s : Dir} (h : Bare s) {n : String} {e : Entry}
    (hn : (n = setupRequiredMarker ∨ n = "remote-invite.json") ∧ e.isFile = true ∨ n ∉ fabricState) : Bare (s.insert n e) := by
  have hfile : ∀ {name}, name ∈ fabricState → s.isFile name = true ∨ s.lookup name = none →
      Dir.isFile (s.insert n e) name = true ∨ AList.lookup name (s.insert n e) = none := by
    intro name hmem hname
    by_cases heq : name = n
    · rcases hn with ⟨-, he⟩ | hn
      · refine .inl ?_
        unfold Dir.isFile
        rw [Table.lookup_insert', if_pos heq]
        exact he
      · exact absurd (heq ▸ hmem) hn
    · rw [Dir.isFile_insert_ne heq, Table.lookup_insert', if_neg heq]
      exact hname
  have hother : ∀ {name}, name ∈ fabricState → name ≠ setupRequiredMarker → name ≠ "remote-invite.json" → name ≠ n := by
    rintro name hmem h₁ h₂ rfl
    rcases hn with ⟨h | h, -⟩ | hn
    · exact h₁ h
    · exact h₂ h
    · exact hn hmem
  refine ⟨hfile (by decide) h.setup, hfile (by decide) h.invite, ?_, ?_⟩
  · intro name hname
    have hfacts : ∀ name ∈ ["agent.controller-pin.json", "agent.enrolled", "agent.identity.json", "agent.key"],
        name ∈ fabricState ∧ name ≠ setupRequiredMarker ∧ name ≠ "remote-invite.json" := by decide
    obtain ⟨hmem, h₁, h₂⟩ := hfacts name hname
    rw [Table.lookup_insert', if_neg (hother hmem h₁ h₂)]
    exact h.gone name hname
  · intro name hname
    have hfacts : ∀ name ∈ ownerState, name ∈ fabricState ∧ name ≠ setupRequiredMarker ∧ name ≠ "remote-invite.json" := by
      decide
    obtain ⟨hmem, h₁, h₂⟩ := hfacts name hname
    rw [Dir.isPresent_insert_ne (hother hmem h₁ h₂)]
    exact h.owner name hname

section

variable {F : List Dir → FileOp → Bool} {app : App}

/-- The steps after the stale credentials are gone keep what every change to these four names keeps. -/
theorem keeps_leaveSetupMode {I P : Dir → Prop} (herase : ∀ s n, n ∈ [setupRequiredMarker, "remote-invite.json"] → P s →
    I (s.erase n) ∧ P (s.erase n)) : Disk.Keeps F I P leaveSetupMode := by
  have hremove : ∀ n, n ∈ [setupRequiredMarker, "remote-invite.json"] → ∀ s s', P s →
      (FileOp.removeFile n).apply s = .ok s' → I s' ∧ P s' := by
    intro n hn s s' hs happly
    rw [eq_erase_of_remove (.inl rfl) happly]
    exact herase s n hn hs
  refine Disk.Keeps.read_bind fun t _ => ?_
  split
  · refine keeps_onError (Disk.Keeps.perform (hremove _ (by simp))) fun e => ?_
    exact Disk.Keeps.bind (keeps_ignored (hremove _ (by simp))) fun _ => Disk.Keeps.fail _
  · exact Disk.Keeps.pure ()

theorem keeps_dropPairingIntent {I P : Dir → Prop} (herase : ∀ s n, n ∈ [workerPairingIntentMarker, "remote-invite.json"] →
    P s → I (s.erase n) ∧ P (s.erase n))
    (hinsert : ∀ (s : Dir) (b : String), P s → I (s.insert setupRequiredMarker (.file b)) ∧
      P (s.insert setupRequiredMarker (.file b))) : Disk.Keeps F I P dropPairingIntent := by
  have hremove : ∀ n, n ∈ [workerPairingIntentMarker, "remote-invite.json"] → ∀ s s', P s →
      (FileOp.removeFile n).apply s = .ok s' → I s' ∧ P s' := by
    intro n hn s s' hs happly
    rw [eq_erase_of_remove (.inl rfl) happly]
    exact herase s n hn hs
  refine keeps_onError (Disk.Keeps.perform (hremove _ (by simp))) fun e => ?_
  refine Disk.Keeps.bind (keeps_ignored (hremove _ (by simp))) fun _ => ?_
  exact Disk.Keeps.bind (keeps_onError (keeps_writeNewMarker hinsert) fun _ => Disk.Keeps.pure ()) fun _ => Disk.Keeps.fail _

theorem exists_of_rename {source target : String} {s s' : Dir} (h : (FileOp.rename source target).apply s = .ok s') :
    ∃ e, s.lookup source = some e ∧ s' = (s.erase source).insert target e := by
  simp only [FileOp.apply] at h
  cases hs : s.lookup source with
  | none =>
    rw [hs] at h
    cases h
  | some e =>
    rw [hs] at h
    cases ht : s.lookup target with
    | none =>
      rw [ht] at h
      cases h
      exact ⟨e, rfl, rfl⟩
    | some old =>
      rw [ht] at h
      cases old <;> cases h <;> exact ⟨e, rfl, rfl⟩

/-- A temporary name is no fabric state. -/
theorem temporaryInvite_notMem (token : String) : temporaryInvite token ∉ fabricState := by
  have hends : ∀ n ∈ fabricState, n.toList.getLast? ≠ some 'p' := by decide
  intro hmem
  exact ne_temporaryInvite (hends _ hmem) token rfl

/-- Storing the invitation in a bare directory leaves it bare. -/
theorem bare_storeInvite (token invitation : String) :
    Disk.Keeps F Harmless Bare (storeInvite (temporaryInvite token) "remote-invite.json" invitation) := by
  have hfile : ∀ {s : Dir} {b : String}, Bare s →
      Harmless (s.insert (temporaryInvite token) (.file b)) ∧ Bare (s.insert (temporaryInvite token) (.file b)) ∧
        Dir.isFile (s.insert (temporaryInvite token) (.file b)) (temporaryInvite token) = true := by
    intro s b hs
    have hbare : Bare (s.insert (temporaryInvite token) (.file b)) := hs.insert (.inr (temporaryInvite_notMem token))
    exact ⟨hbare.harmless, hbare, Dir.isFile_insert s _ b⟩
  -- while the temporary file is there
  have hnext : ∀ {op : FileOp} {text : String → String}, (∀ s s', Bare s ∧ s.isFile (temporaryInvite token) = true →
      op.apply s = .ok s' → Harmless s' ∧ Bare s' ∧ s'.isFile (temporaryInvite token) = true) →
      Triple F Harmless (fun s => Bare s ∧ s.isFile (temporaryInvite token) = true) (orText op text) fun r s =>
        Bare s ∧ (r = .ok () → s.isFile (temporaryInvite token) = true) := by
    intro op text hop
    refine triple_orText ?_ ?_
    · intro s s' hs happly
      obtain ⟨hharmless, hbare, hpresent⟩ := hop s s' hs happly
      exact ⟨hharmless, hbare, fun _ => hpresent⟩
    · intro e s hs
      exact ⟨hs.1, nofun⟩
  unfold storeInvite
  refine Triple.bind (Q := fun r s => Bare s ∧ (r = .ok () → s.isFile (temporaryInvite token) = true)) (triple_orText ?_ ?_)
    (fun _ => ?_) fun _ _ hs => hs.1
  · intro s s' hs happly
    simp only [FileOp.apply] at happly
    split at happly <;> cases happly
    exact ⟨(hfile hs).1, (hfile hs).2.1, fun _ => (hfile hs).2.2⟩
  · intro e s hs
    exact ⟨hs, nofun⟩
  refine Triple.bind ((hnext ?_).weaken (fun s hs => ⟨hs.1, hs.2 rfl⟩) fun _ _ hs => hs) (fun _ => ?_) fun _ _ hs => hs.1
  · intro s s' hs happly
    cases happly
    exact hfile hs.1
  refine Triple.bind ((hnext ?_).weaken (fun s hs => ⟨hs.1, hs.2 rfl⟩) fun _ _ hs => hs) (fun _ => ?_) fun _ _ hs => hs.1
  · intro s s' hs happly
    cases happly
    exact ⟨hs.1.harmless, hs⟩
  refine triple_orText ?_ fun e s hs => hs.1
  intro s s' hs happly
  obtain ⟨e, he, hyes⟩ := Dir.isFile_eq_true (hs.2 rfl)
  obtain ⟨e', he', rfl⟩ := exists_of_rename happly
  rw [he] at he'
  cases he'
  have hbare : Bare ((s.erase (temporaryInvite token)).insert "remote-invite.json" e) :=
    (hs.1.erase _).insert (.inl ⟨.inr rfl, hyes⟩)
  exact ⟨hbare.harmless, hbare⟩

/-- Removing the stale credentials of a machine in setup mode makes the directory bare, unless there is an owner's state. -/
theorem bare_removeStale :
    Triple F Harmless (fun s => s.setupRequired = true ∧ ∀ n ∈ ownerState, s.isPresent n = false)
      (removeStaleWorkerCredentialsInSetup app) fun r s => match r with
        | .ok _ => Bare s
        | .error _ => True := by
  have hstale : ∀ n ∈ staleCredentials, n ∉ ownerState := by decide
  refine Triple.read_bind fun t ht => ?_
  rw [if_pos ht.1]
  -- the names still to come, and those that are gone
  refine (@Triple.forEach Dir FileOp String String F Harmless (removeStaleCredential app)
    (fun l s => (∀ n ∈ l, n ∈ staleCredentials) ∧ s.setupRequired = true ∧ (∀ n ∈ ownerState, s.isPresent n = false) ∧
      ∀ n ∈ staleCredentials, n ∈ l ∨ s.lookup n = none)
    (fun r s => match r with
      | .ok _ => Bare s
      | .error _ => True) ?_ ?_ staleCredentials).weaken ?_ fun _ _ hs => hs
  · intro a l
    refine Triple.read_bind fun t ht => ?_
    obtain ⟨hmem, hsetup, howner, hgone⟩ := ht
    have ha := hmem a (List.mem_cons_self ..)
    have hl : ∀ n ∈ l, n ∈ staleCredentials := fun n hn => hmem n (List.mem_cons_of_mem _ hn)
    cases hlookup : t.lookup a with
    | none =>
      refine Triple.pure ?_
      rintro s rfl
      refine ⟨hl, hsetup, howner, fun n hn => ?_⟩
      rcases hgone n hn with h | h
      · rcases List.mem_cons.1 h with rfl | h
        · exact .inr hlookup
        · exact .inl h
      · exact .inr h
    | some e =>
      cases e with
      | file bytes =>
        refine triple_orText ?_ fun _ _ _ => trivial
        rintro s s' rfl happly
        obtain rfl := eq_erase_of_remove (.inl rfl) happly
        obtain ⟨hharmless, hkept⟩ := setup_erase (ne_of_mem_stale ha).1 hsetup
        refine ⟨hharmless, hl, hkept, ?_, ?_⟩
        · intro n hn
          have hne : n ≠ a := by
            rintro rfl
            exact hstale n ha hn
          rw [Dir.isPresent_erase_ne hne]
          exact howner n hn
        · intro n hn
          rw [Table.lookup_erase']
          by_cases hna : n = a
          · exact .inr (if_pos hna)
          · rw [if_neg hna]
            rcases hgone n hn with h | h
            · exact .inl ((List.mem_cons.1 h).resolve_left hna)
            · exact .inr h
      | _ => exact Triple.fail fun _ _ => trivial
  · rintro s ⟨-, hsetup, howner, hgone⟩
    have hnone : ∀ n ∈ staleCredentials, s.lookup n = none := fun n hn => (hgone n hn).resolve_left (List.not_mem_nil)
    refine ⟨.inl hsetup, .inr (hnone _ (by decide)), fun n hn => hnone n ?_, howner⟩
    revert n
    decide
  · rintro s rfl
    exact ⟨fun _ hn => hn, ht.1, ht.2, fun _ hn => .inl hn⟩

/-- Storing an invitation is harmless if no owner's controller ran here. -/
theorem harmless_placeInvite_of_no_owner (invitation token : String) :
    Triple F Harmless (fun s => s.setupRequired = true ∧ ∀ n ∈ ownerState, s.isPresent n = false)
      (placeInvite app invitation token) fun _ _ => True := by
  have herase : ∀ {s : Dir} (n : String), Bare s → Harmless (s.erase n) ∧ Bare (s.erase n) :=
    fun n hs => ⟨(hs.erase n).harmless, hs.erase n⟩
  have hrest : Disk.Keeps F Harmless Bare (do
      let d ← Disk.read
      ensure (!d.isPresent "remote-invite.json" && !d.isPresent "agent.controller-pin.json")
        "this machine is already enrolled; remove it from the current fabric before enrolling again"
      onError (storeInvite (temporaryInvite token) "remote-invite.json" invitation) fun e => do
        ignored (.removeFile (temporaryInvite token))
        fail e
      leaveSetupMode
      dropPairingIntent) := by
    refine Disk.Keeps.read_bind fun t _ => Disk.Keeps.bind (keeps_ensure _ _) fun _ => ?_
    refine Disk.Keeps.bind (keeps_onError (bare_storeInvite token invitation) fun e => ?_) fun _ => ?_
    · refine Disk.Keeps.bind (keeps_ignored fun s s' hs happly => ?_) fun _ => Disk.Keeps.fail _
      rw [eq_erase_of_remove (.inl rfl) happly]
      exact herase _ hs
    · refine Disk.Keeps.bind (keeps_leaveSetupMode fun s n _ hs => herase n hs) fun _ => ?_
      refine keeps_dropPairingIntent (fun s n _ hs => herase n hs) fun s b hs => ?_
      have hbare : Bare (s.insert setupRequiredMarker (.file b)) := hs.insert (.inl ⟨.inl rfl, rfl⟩)
      exact ⟨hbare.harmless, hbare⟩
  exact Triple.bind bare_removeStale (fun _ => hrest.weaken (fun _ hs => hs) fun _ _ _ => trivial) fun _ _ _ => trivial

/-- No step of it touches the confirmation of an owner. -/
theorem keeps_confirmed_placeInvite (invitation token : String) :
    Disk.Keeps F Harmless (fun s => s.isConfirmed = true) (placeInvite app invitation token) := by
  have hkept : ∀ {s s' : Dir}, s'.lookup ownerConfirmedMarker = s.lookup ownerConfirmedMarker → s.isConfirmed = true →
      Harmless s' ∧ s'.isConfirmed = true := by
    intro s s' heq hs
    have hs' : s'.isConfirmed = true := by
      unfold Dir.isConfirmed at hs ⊢
      rw [heq]
      exact hs
    exact ⟨harmless_of_confirmed hs', hs'⟩
  have htemporary : ownerConfirmedMarker ≠ temporaryInvite token := ne_temporaryInvite (by decide) token
  have hop : ∀ {op : FileOp} {s s' : Dir}, ownerConfirmedMarker ∉ op.names → s.isConfirmed = true → op.apply s = .ok s' →
      Harmless s' ∧ s'.isConfirmed = true := fun hn hs happly => hkept (FileOp.lookup_apply happly hn) hs
  have herase : ∀ {s : Dir} {n : String}, ownerConfirmedMarker ≠ n → s.isConfirmed = true →
      Harmless (s.erase n) ∧ Dir.isConfirmed (s.erase n) = true :=
    fun hn hs => hkept (by rw [Table.lookup_erase', if_neg hn]) hs
  refine Disk.Keeps.bind (keeps_removeStale fun s n hn hs => herase (ne_of_mem_stale hn).2.1.symm hs) fun _ => ?_
  refine Disk.Keeps.read_bind fun t _ => Disk.Keeps.bind (keeps_ensure _ _) fun _ => ?_
  refine Disk.Keeps.bind (keeps_onError ?_ fun e => ?_) fun _ => ?_
  · have hfile : ∀ (op : FileOp) (text : String → String), ownerConfirmedMarker ∉ op.names →
        Disk.Keeps F Harmless (fun s => s.isConfirmed = true) (orText op text) :=
      fun op text hn => keeps_orText fun s s' hs happly => hop hn hs happly
    unfold storeInvite
    refine Disk.Keeps.bind (hfile _ _ ?_) fun _ => Disk.Keeps.bind (hfile _ _ ?_) fun _ =>
      Disk.Keeps.bind (hfile _ _ ?_) fun _ => hfile _ _ ?_
    · simpa [FileOp.names] using htemporary
    · simpa [FileOp.names] using htemporary
    · simp [FileOp.names]
    · simpa [FileOp.names] using ⟨htemporary, by decide⟩
  · exact Disk.Keeps.bind (keeps_ignored fun s s' hs happly => hop (by simpa [FileOp.names] using htemporary) hs happly)
      fun _ => Disk.Keeps.fail _
  · refine Disk.Keeps.bind (keeps_leaveSetupMode fun s n hn hs => herase ?_ hs) fun _ => ?_
    · revert n
      decide
    · refine keeps_dropPairingIntent (fun s n hn hs => herase ?_ hs) fun s b hs => hkept ?_ hs
      · revert n
        decide
      · rw [Table.lookup_insert', if_neg (by decide)]

/-- A credential that is no regular file stops the removal. -/
theorem stops_at_irregular {I Q : Dir → Prop} (hsetup : ∀ s, Q s → s.setupRequired = true)
    (herase : ∀ s : Dir, ∀ n ∈ staleCredentials, Q s → I (s.erase n) ∧ Q (s.erase n)) {n : String} (hn : n ∈ staleCredentials) :
    Triple F I (fun s => Q s ∧ (s.lookup n).all Entry.isRegular = false)
      (removeStaleWorkerCredentialsInSetup app) fun r _ => ∃ e, r = .error e := by
  refine Triple.read_bind fun t ht => ?_
  rw [if_pos (hsetup t ht.1)]
  refine (@Triple.forEach Dir FileOp String String F I (removeStaleCredential app)
    (fun l s => (∀ a ∈ l, a ∈ staleCredentials) ∧ Q s ∧ (s.lookup n).all Entry.isRegular = false ∧ n ∈ l)
    (fun r _ => ∃ e, r = .error e) ?_ ?_ staleCredentials).weaken ?_ fun _ _ hs => hs
  · intro a l
    refine Triple.read_bind fun t ht => ?_
    obtain ⟨hmem, hq, hirregular, hin⟩ := ht
    have hl : ∀ b ∈ l, b ∈ staleCredentials := fun b hb => hmem b (List.mem_cons_of_mem _ hb)
    cases hlookup : t.lookup a with
    | none =>
      refine Triple.pure ?_
      rintro s rfl
      refine ⟨hl, hq, hirregular, (List.mem_cons.1 hin).resolve_left ?_⟩
      rintro rfl
      rw [hlookup] at hirregular
      cases hirregular
    | some e =>
      cases e with
      | file bytes =>
        refine triple_orText ?_ fun e _ _ => ⟨e, rfl⟩
        rintro s s' rfl happly
        obtain rfl := eq_erase_of_remove (.inl rfl) happly
        have hne : n ≠ a := by
          rintro rfl
          rw [hlookup] at hirregular
          cases hirregular
        obtain ⟨hi, hkept⟩ := herase s a (hmem a (List.mem_cons_self ..)) hq
        refine ⟨hi, hl, hkept, ?_, (List.mem_cons.1 hin).resolve_left hne⟩
        rw [Table.lookup_erase', if_neg hne]
        exact hirregular
      | _ => exact Triple.fail fun _ _ => ⟨_, rfl⟩
  · rintro s ⟨-, -, -, hin⟩
    exact absurd hin List.not_mem_nil
  · rintro s rfl
    exact ⟨fun _ ha => ha, ht.1, ht.2, hn⟩

/-- So does a temporary name that is taken stop the storing. -/
theorem stops_at_temporary {I Q : Dir → Prop} (invitation token : String) :
    Triple F I (fun s => Q s ∧ (s.lookup (temporaryInvite token)).isSome = true)
      (storeInvite (temporaryInvite token) "remote-invite.json" invitation) fun r s => Q s ∧ ∃ e, r = .error e := by
  unfold storeInvite
  refine Triple.bind (Q := fun r s => Q s ∧ ∃ e, r = .error e) (triple_orText ?_ ?_) (fun _ => ?_) fun e s hs => ⟨hs.1, e, rfl⟩
  · intro s s' hs happly
    simp only [FileOp.apply, hs.2, if_true] at happly
    cases happly
  · intro e s hs
    exact ⟨hs.1, e, rfl⟩
  · rintro d hd ⟨-, e, he⟩
    cases he

/-- A directory in which something stands in the way of the invitation takes none, and only stale credentials and the
temporary file go. -/
theorem placeInvite_refused {I Q : Dir → Prop} {d : Dir} (invitation token : String)
    (hsetup : ∀ s, Q s → s.setupRequired = true) (hintent : d.isFile workerPairingIntentMarker = true)
    (herase : ∀ (s : Dir) (n : String), n ∈ staleCredentials ∨ n = temporaryInvite token → Q s → I (s.erase n) ∧ Q (s.erase n))
    (hd : Q d) (h : d.takesInvite token = false) :
    Triple F I (fun s => s = d) (placeInvite app invitation token) fun r _ => ∃ e, r = .error e := by
  unfold Dir.takesInvite at h
  rw [hsetup d hd, hintent, Bool.true_and, Bool.true_and, Bool.and_eq_false_iff] at h
  -- a stale credential that is no file, or the temporary name is taken
  rcases h with h | h
  · obtain ⟨n, hn, hirregular⟩ := List.all_eq_false.1 h
    rw [Bool.not_eq_true] at hirregular
    refine Triple.bind ((stops_at_irregular hsetup (fun s n hn => herase s n (.inl hn)) hn).weaken (fun s hs => ?_)
      fun _ _ hs => hs) (fun _ => ?_) fun e _ _ => ⟨e, rfl⟩
    · rw [hs]
      exact ⟨hd, hirregular⟩
    · rintro d hd ⟨e, he⟩
      cases he
  · have htaken : (d.lookup (temporaryInvite token)).isSome = true := by
      cases hl : d.lookup (temporaryInvite token) with
      | none =>
        rw [hl] at h
        cases h
      | some e => rfl
    have hkept : Disk.Keeps F I (fun s => Q s ∧ (s.lookup (temporaryInvite token)).isSome = true)
        (removeStaleWorkerCredentialsInSetup app) := by
      refine keeps_removeStale fun s n hn hs => ?_
      obtain ⟨hi, hstays⟩ := herase s n (.inl hn) hs.1
      refine ⟨hi, hstays, ?_⟩
      have hends : ∀ n ∈ staleCredentials, n.toList.getLast? ≠ some 'p' := by decide
      rw [Table.lookup_erase', if_neg (ne_temporaryInvite (hends n hn) token).symm]
      exact hs.2
    refine Triple.bind (hkept.weaken (fun s hs => hs ▸ ⟨hd, htaken⟩) fun _ _ hs => hs) (fun _ => ?_) fun e _ _ => ⟨e, rfl⟩
    refine Triple.read_bind fun t ht => Triple.bind ((keeps_ensure _ _).weaken (fun s hs => hs ▸ ht) fun _ _ hs => hs)
      (fun _ => ?_) fun e _ _ => ⟨e, rfl⟩
    refine Triple.bind (Q := fun r _ => ∃ e, r = .error e) (triple_onError (stops_at_temporary invitation token) ?_ fun e => ?_)
      (fun _ => ?_) fun e _ _ => ⟨e, rfl⟩
    · rintro s ⟨-, e, he⟩
      cases he
    · have hremove : Disk.Keeps F I Q (ignored (.removeFile (temporaryInvite token))) := by
        refine keeps_ignored fun s s' hs happly => ?_
        rw [eq_erase_of_remove (.inl rfl) happly]
        exact herase s _ (.inr rfl) hs
      exact Triple.bind (hremove.weaken (fun _ hs => hs.1) fun _ _ hs => hs) (fun _ => Triple.fail fun _ _ => ⟨_, rfl⟩)
        fun e _ _ => ⟨e, rfl⟩
    · rintro d hd ⟨e, he⟩
      cases he

/-- Such a directory stays in setup mode. -/
theorem harmless_placeInvite_of_refused {d : Dir} (invitation token : String) (hsetup : d.setupRequired = true)
    (hintent : d.isFile workerPairingIntentMarker = true) (h : d.takesInvite token = false) :
    Triple F Harmless (fun s => s = d) (placeInvite app invitation token) fun _ _ => True := by
  refine (@placeInvite_refused F app Harmless (fun s => s.setupRequired = true) d invitation token (fun _ hs => hs) hintent ?_
    hsetup h).weaken (fun _ hs => hs) fun _ _ _ => trivial
  rintro s n (hn | rfl) hs
  · exact setup_erase (ne_of_mem_stale hn).1 hs
  · exact setup_erase (ne_temporaryInvite (by decide) token).symm hs

end

/-! ## An invitation that cannot be committed -/

/-- Only the removal of the pairing intent fails. -/
def intentStays : List Dir → FileOp → Bool := fun _ op =>
  match op with
  | .removeFile name => name = workerPairingIntentMarker
  | _ => false

theorem intentStays_of_ne {n : String} (h : n ≠ workerPairingIntentMarker) (l : List Dir) :
    intentStays l (.removeFile n) = false :=
  decide_eq_false h

section

variable {F : List Dir → FileOp → Bool} {app : App}

/-- An operation that the faults spare. -/
theorem triple_spared {P P' : Dir → Prop} {op : FileOp} (hspared : ∀ l, F l op = false)
    (h : ∀ s, P s → ∃ s', op.apply s = .ok s' ∧ P' s') :
    Triple F (fun _ => True) P (file op) fun r s => r = .ok () ∧ P' s := by
  refine Triple.perform ?_ ?_ ?_
  · intro s s' hs happly
    obtain ⟨t, ht, hp⟩ := h s hs
    rw [happly] at ht
    cases ht
    exact ⟨trivial, rfl, hp⟩
  · intro s e hs happly
    obtain ⟨t, ht, -⟩ := h s hs
    rw [happly] at ht
    cases ht
  · intro l hl
    rw [hspared l] at hl
    cases hl

theorem triple_orText_spared {P P' : Dir → Prop} {op : FileOp} {text : String → String} (hspared : ∀ l, F l op = false)
    (h : ∀ s, P s → ∃ s', op.apply s = .ok s' ∧ P' s') :
    Triple F (fun _ => True) P (orText op text) fun r s => ∃ u, r = .ok u ∧ P' s :=
  triple_onError (triple_spared hspared h) (fun _ hs => ⟨(), rfl, hs.2⟩) fun _ => Triple.fail fun _ hs => nomatch hs.1

theorem triple_ignored_spared {P P' : Dir → Prop} {op : FileOp} (hspared : ∀ l, F l op = false)
    (h : ∀ s, P s → ∃ s', op.apply s = .ok s' ∧ P' s') :
    Triple F (fun _ => True) P (ignored op) fun r s => ∃ u, r = .ok u ∧ P' s :=
  Triple.result_bind (triple_spared hspared h) fun _ => Triple.pure fun _ hs => ⟨(), rfl, hs.2⟩

/-- A file can be removed, also if it is a link to one. -/
theorem removeFile_of_isFile {s : Dir} {n : String} (h : s.isFile n = true) : (FileOp.removeFile n).apply s = .ok (s.erase n) := by
  obtain ⟨e, he, hyes⟩ := Dir.isFile_eq_true h
  simp only [FileOp.apply, he]
  cases e with
  | directory => cases hyes
  | _ => rfl

theorem hasOwnerState_congr {s s' : Dir} (h : ∀ n ∈ ownerConfirmedMarker :: ownerState, s'.lookup n = s.lookup n) :
    s'.hasOwnerState = s.hasOwnerState := by
  have hconfirmed : s'.isConfirmed = s.isConfirmed := by
    unfold Dir.isConfirmed
    rw [h _ (List.mem_cons_self ..)]
  have hany : ownerState.any s'.isPresent = ownerState.any s.isPresent := by
    rw [Bool.eq_iff_iff, List.any_eq_true, List.any_eq_true]
    refine exists_congr fun n => and_congr_right fun hn => ?_
    rw [Dir.isPresent_congr (h n (List.mem_cons_of_mem _ hn))]
  unfold Dir.hasOwnerState
  rw [hconfirmed, hany]

/-- The traces of an owner outlast an operation on another name. -/
theorem hasOwnerState_erase {s : Dir} {n : String} (hn : n ∉ ownerConfirmedMarker :: ownerState) :
    Dir.hasOwnerState (s.erase n) = s.hasOwnerState := by
  refine hasOwnerState_congr fun m hm => ?_
  have hne : m ≠ n := by
    rintro rfl
    exact hn hm
  rw [Table.lookup_erase', if_neg hne]

theorem hasOwnerState_insert {s : Dir} {n : String} (e : Entry) (hn : n ∉ ownerConfirmedMarker :: ownerState) :
    Dir.hasOwnerState (s.insert n e) = s.hasOwnerState := by
  refine hasOwnerState_congr fun m hm => ?_
  have hne : m ≠ n := by
    rintro rfl
    exact hn hm
  rw [Table.lookup_insert', if_neg hne]

theorem temporary_notMem_owner (token : String) : temporaryInvite token ∉ ownerConfirmedMarker :: ownerState := by
  have hends : ∀ n ∈ ownerConfirmedMarker :: ownerState, n.toList.getLast? ≠ some 'p' := by decide
  intro hmem
  exact ne_temporaryInvite (hends _ hmem) token rfl

/-- The stale credentials go, and what their removal keeps is kept. -/
theorem triple_removeStale (hF : ∀ n ∈ staleCredentials, ∀ l, F l (.removeFile n) = false) {R : Dir → Prop}
    (hR : ∀ s : Dir, ∀ n ∈ staleCredentials, R s → R (s.erase n)) (token : String) :
    Triple F (fun _ => True) (fun s => s.takesInvite token = true ∧ R s)
      (removeStaleWorkerCredentialsInSetup app) fun r s => ∃ u, r = .ok u ∧ s.isFile setupRequiredMarker = true ∧
        R s ∧ s.lookup (temporaryInvite token) = none ∧ ∀ n ∈ staleCredentials, s.lookup n = none := by
  have hnames : ∀ n ∈ staleCredentials, n.toList.getLast? ≠ some 'p' := by decide
  refine Triple.read_bind fun t ht => ?_
  obtain ⟨htakes, hrest⟩ := ht
  unfold Dir.takesInvite at htakes
  rw [Bool.and_eq_true, Bool.and_eq_true, Bool.and_eq_true, Option.isNone_iff_eq_none] at htakes
  obtain ⟨⟨⟨hsetup, -⟩, hregular⟩, hfree⟩ := htakes
  rw [if_pos hsetup]
  -- of the names still to come each is a file or nothing, and of the others each is gone
  refine (@Triple.forEach Dir FileOp String String F (fun _ => True) (removeStaleCredential app)
    (fun l s => (∀ n ∈ l, n ∈ staleCredentials ∧ (s.lookup n).all Entry.isRegular = true) ∧
      s.isFile setupRequiredMarker = true ∧ R s ∧ s.lookup (temporaryInvite token) = none ∧
      ∀ n ∈ staleCredentials, n ∈ l ∨ s.lookup n = none)
    (fun r s => ∃ u, r = .ok u ∧ s.isFile setupRequiredMarker = true ∧ R s ∧
      s.lookup (temporaryInvite token) = none ∧ ∀ n ∈ staleCredentials, s.lookup n = none) ?_ ?_ staleCredentials).weaken ?_
    fun _ _ hs => hs
  · intro a l
    refine Triple.read_bind fun t ht => ?_
    obtain ⟨hmem, hsetup, hrest, hfree, hgone⟩ := ht
    obtain ⟨hstale, hkind⟩ := hmem a (List.mem_cons_self ..)
    cases hlookup : t.lookup a with
    | none =>
      refine Triple.pure ?_
      rintro s rfl
      refine ⟨fun n hn => hmem n (List.mem_cons_of_mem _ hn), hsetup, hrest, hfree, fun n hn => ?_⟩
      rcases hgone n hn with h | h
      · rcases List.mem_cons.1 h with rfl | h
        · exact .inr hlookup
        · exact .inl h
      · exact .inr h
    | some e =>
      cases e with
      | file bytes =>
        refine (@triple_orText_spared F (fun s => s = t) (fun s => s = t.erase a) _ _ (hF a hstale) ?_).weaken
          (fun _ hs => hs) ?_
        · rintro s rfl
          exact ⟨_, by simp [FileOp.apply, hlookup], rfl⟩
        · rintro r s ⟨u, rfl, rfl⟩
          refine ⟨?_, ?_, ?_, ?_, ?_⟩
          · intro n hn
            obtain ⟨hn', hkind'⟩ := hmem n (List.mem_cons_of_mem _ hn)
            refine ⟨hn', ?_⟩
            rw [Table.lookup_erase']
            split
            · rfl
            · exact hkind'
          · rw [Dir.isFile_erase_ne (ne_of_mem_stale hstale).1.symm]
            exact hsetup
          · exact hR _ a hstale hrest
          · rw [Table.lookup_erase', if_neg (ne_temporaryInvite (hnames a hstale) token).symm]
            exact hfree
          · intro n hn
            rw [Table.lookup_erase']
            by_cases hna : n = a
            · exact .inr (if_pos hna)
            · rw [if_neg hna]
              rcases hgone n hn with h | h
              · exact .inl ((List.mem_cons.1 h).resolve_left hna)
              · exact .inr h
      | _ =>
        rw [hlookup] at hkind
        cases hkind
  · rintro s ⟨-, hsetup, hrest, hfree, hgone⟩
    exact ⟨(), rfl, hsetup, hrest, hfree, fun n hn => (hgone n hn).resolve_left List.not_mem_nil⟩
  · rintro s rfl
    exact ⟨fun n hn => ⟨hn, List.all_eq_true.1 hregular n hn⟩, hsetup, hrest, hfree, fun _ hn => .inl hn⟩

/-- The invitation is in its temporary file. -/
structure Staged (R : Dir → Prop) (token : String) (s : Dir) : Prop where
  setup : s.isFile setupRequiredMarker = true
  rest : R s
  temporary : ∃ b, s.lookup (temporaryInvite token) = some (.file b)
  gone : ∀ n ∈ staleCredentials, s.lookup n = none

theorem ne_temporary_of_stale {n : String} (h : n ∈ staleCredentials) (token : String) : n ≠ temporaryInvite token := by
  have hends : ∀ n ∈ staleCredentials, n.toList.getLast? ≠ some 'p' := by decide
  exact ne_temporaryInvite (hends n h) token

theorem staged_insert {R : Dir → Prop} {token : String} {s : Dir} (b : String) (hsetup : s.isFile setupRequiredMarker = true)
    (hrest : R (s.insert (temporaryInvite token) (.file b))) (hgone : ∀ n ∈ staleCredentials, s.lookup n = none) :
    Staged R token (s.insert (temporaryInvite token) (.file b)) := by
  refine ⟨?_, hrest, ⟨b, AList.lookup_insert _⟩, fun n hn => ?_⟩
  · rw [Dir.isFile_insert_ne (ne_temporaryInvite (by decide) token)]
    exact hsetup
  · rw [Table.lookup_insert', if_neg (ne_temporary_of_stale hn token)]
    exact hgone n hn

/-- The invitation is stored, and what operations on the two names keep is kept. -/
theorem triple_storeInvite (hF : ∀ l op, (∀ name, op ≠ FileOp.removeFile name) → F l op = false) {R : Dir → Prop} (token : String)
    (hR : ∀ (s : Dir) (n : String), n = temporaryInvite token ∨ n = "remote-invite.json" → R s →
      R (s.erase n) ∧ ∀ e, R (s.insert n e)) (invitation : String) :
    Triple F (fun _ => True) (fun s => s.isFile setupRequiredMarker = true ∧ R s ∧
        s.lookup (temporaryInvite token) = none ∧ ∀ n ∈ staleCredentials, s.lookup n = none)
      (storeInvite (temporaryInvite token) "remote-invite.json" invitation) fun r s => ∃ u, r = .ok u ∧
        s.isFile setupRequiredMarker = true ∧ R s ∧ s.isFile "remote-invite.json" = true ∧
        s.lookup "agent.controller-pin.json" = none := by
  have hspared : ∀ {op : FileOp}, (∀ name, op ≠ .removeFile name) → ∀ l, F l op = false := fun h l => hF l _ h
  have hinsert : ∀ {s : Dir} (b : String), R s → R (s.insert (temporaryInvite token) (.file b)) :=
    fun b hs => (hR _ _ (.inl rfl) hs).2 _
  have hcreate := @triple_orText_spared F (fun s => s.isFile setupRequiredMarker = true ∧ R s ∧
      s.lookup (temporaryInvite token) = none ∧ ∀ n ∈ staleCredentials, s.lookup n = none) (Staged R token)
    (.createNew (temporaryInvite token)) (fun e => "could not create the protected enrollment file: " ++ e)
    (hspared (by simp)) fun s hs => ⟨_, by simp [FileOp.apply, hs.2.2.1], staged_insert "" hs.1 (hinsert "" hs.2.1) hs.2.2.2⟩
  have hwrite := @triple_orText_spared F (Staged R token) (Staged R token) (.write (temporaryInvite token) invitation)
    (fun e => "could not write the enrollment file: " ++ e) (hspared (by simp))
    fun s hs => ⟨_, rfl, staged_insert invitation hs.setup (hinsert invitation hs.rest) hs.gone⟩
  have hsync := @triple_orText_spared F (Staged R token) (Staged R token) (.sync (temporaryInvite token))
    (fun e => "could not durably store the enrollment file: " ++ e) (hspared (by simp)) fun s hs => ⟨s, rfl, hs⟩
  refine Triple.seq hcreate fun _ => Triple.seq hwrite fun _ => Triple.seq hsync fun _ =>
    triple_orText_spared (hspared (by simp)) fun s hs => ?_
  obtain ⟨b, hb⟩ := hs.temporary
  refine ⟨(s.erase (temporaryInvite token)).insert "remote-invite.json" (.file b), ?_, ?_, ?_, ?_, ?_⟩
  · simp [FileOp.apply, hb, hs.gone "remote-invite.json" (by decide)]
  · rw [Dir.isFile_insert_ne (by decide), Dir.isFile_erase_ne (ne_temporaryInvite (by decide) token)]
    exact hs.setup
  · exact (hR _ _ (.inr rfl) (hR _ _ (.inl rfl) hs.rest).1).2 _
  · exact Dir.isFile_insert _ _ b
  · rw [Table.lookup_insert', if_neg (by decide), Table.lookup_erase', if_neg (ne_temporary_of_stale (by decide) token)]
    exact hs.gone _ (by decide)

/-- The traces of an owner, with nothing to hide them. -/
theorem launchesOwner_of_owner_state {s : Dir} (howner : s.hasOwnerState = true) (hsetup : s.lookup setupRequiredMarker = none)
    (hinvite : s.lookup "remote-invite.json" = none) (hpin : s.lookup "agent.controller-pin.json" = none) :
    s.launchesOwner = true ∧ s.isConfirmed = false := by
  unfold Dir.hasOwnerState at howner
  rw [Bool.and_eq_true, Bool.not_eq_true'] at howner
  obtain ⟨hany, hconfirmed⟩ := howner
  refine ⟨?_, hconfirmed⟩
  have hstate : fabricState.any s.isPresent = true := by
    have hsub : ∀ n ∈ ownerState, n ∈ fabricState := by decide
    obtain ⟨n, hn, hp⟩ := List.any_eq_true.1 hany
    exact List.any_eq_true.2 ⟨n, hsub n hn, hp⟩
  unfold Dir.launchesOwner Dir.setupRequired Dir.workerEnrollmentExists
  rw [isFile_of_none hsetup, isFile_of_none hinvite, isFile_of_none hpin, hstate]
  simp

/-- If the intent cannot go, the invitation goes before setup mode is back: what is left is an owner's who never confirmed. -/
theorem passes_placeInvite (invitation token : String) :
    Passes intentStays (fun s => s.takesInvite token = true ∧ s.hasOwnerState = true) (placeInvite app invitation token)
      fun s => s.launchesOwner = true ∧ s.isConfirmed = false := by
  -- setup mode is left before the intent is dropped
  have hleave : Triple intentStays (fun _ => True) (fun s => s.isFile setupRequiredMarker = true ∧ s.hasOwnerState = true ∧
        s.isFile "remote-invite.json" = true ∧ s.lookup "agent.controller-pin.json" = none) leaveSetupMode fun r s =>
        ∃ u, r = .ok u ∧ s.hasOwnerState = true ∧ s.lookup setupRequiredMarker = none ∧
          s.isFile "remote-invite.json" = true ∧ s.lookup "agent.controller-pin.json" = none := by
    refine Triple.read_bind fun t ht => ?_
    obtain ⟨hsetup, howner, hinvite, hpin⟩ := ht
    rw [if_pos hsetup]
    refine triple_onError (@triple_spared intentStays (fun s => s = t) (fun s => s = t.erase setupRequiredMarker) _
      (intentStays_of_ne (by decide)) ?_)
      ?_ fun e => fun d hd hp => nomatch hp.1
    · rintro s rfl
      exact ⟨_, removeFile_of_isFile hsetup, rfl⟩
    · rintro s ⟨-, rfl⟩
      refine ⟨(), rfl, ?_, ?_, ?_, ?_⟩
      · rw [hasOwnerState_erase (by decide)]
        exact howner
      · rw [Table.lookup_erase', if_pos rfl]
      · rw [Dir.isFile_erase_ne (by decide)]
        exact hinvite
      · rw [Table.lookup_erase', if_neg (by decide)]
        exact hpin
  -- the intent cannot go, so the error path removes the invitation, and the next step writes the setup marker
  have hdrop : Passes intentStays (fun s => s.hasOwnerState = true ∧ s.lookup setupRequiredMarker = none ∧
        s.isFile "remote-invite.json" = true ∧ s.lookup "agent.controller-pin.json" = none) dropPairingIntent fun s =>
        s.launchesOwner = true ∧ s.isConfirmed = false := by
    have hfail : Triple intentStays (fun _ => True) (fun s => s.hasOwnerState = true ∧ s.lookup setupRequiredMarker = none ∧
        s.isFile "remote-invite.json" = true ∧ s.lookup "agent.controller-pin.json" = none)
        (file (.removeFile workerPairingIntentMarker)) fun r s => (∃ e, r = .error e) ∧ s.hasOwnerState = true ∧
        s.lookup setupRequiredMarker = none ∧ s.isFile "remote-invite.json" = true ∧
        s.lookup "agent.controller-pin.json" = none := by
      intro d hd hp
      have hfails : d.fails d.passed (.removeFile workerPairingIntentMarker) = true := by
        rw [hd.fails]
        unfold intentStays
        exact decide_eq_true rfl
      have hrun : file (.removeFile workerPairingIntentMarker) d = (.error ⟨.other, "Input/output error"⟩, d) := by
        unfold file Disk.perform
        rw [if_pos hfails]
      rw [hrun]
      exact ⟨hd, List.Subset.refl _, ⟨_, rfl⟩, hp⟩
    refine Passes.result_bind hfail fun r => ?_
    cases r with
    | ok u =>
      rintro d hd ⟨⟨e, he⟩, -⟩
      cases he
    | error e =>
      refine Passes.bind (@triple_ignored_spared intentStays _ (fun s => s.launchesOwner = true ∧ s.isConfirmed = false) _
        (intentStays_of_ne (by decide)) ?_) fun _ => Grows.passes ?_ fun _ hs => hs
      · rintro s ⟨-, howner, hsetup, hinvite, hpin⟩
        refine ⟨_, removeFile_of_isFile hinvite, launchesOwner_of_owner_state ?_ ?_ ?_ ?_⟩
        · rw [hasOwnerState_erase (by decide)]
          exact howner
        · rw [Table.lookup_erase', if_neg (by decide)]
          exact hsetup
        · rw [Table.lookup_erase', if_pos rfl]
        · rw [Table.lookup_erase', if_neg (by decide)]
          exact hpin
      · exact Disk.Keeps.bind (keeps_onError (keeps_writeNewMarker fun _ _ _ => ⟨trivial, trivial⟩) fun _ => Disk.Keeps.pure ())
          fun _ => Disk.Keeps.fail _
  -- the stale credentials are none of the owner's files
  have hnames : ∀ n ∈ staleCredentials, n ∉ ownerConfirmedMarker :: ownerState := by decide
  refine Passes.bind (triple_removeStale (fun n hn => intentStays_of_ne (ne_of_mem_stale hn).2.2)
    (fun s n hn hs => (hasOwnerState_erase (hnames n hn)).trans hs) token) fun _ => Passes.read_bind fun t ht => ?_
  have hfree : (!t.isPresent "remote-invite.json" && !t.isPresent "agent.controller-pin.json") = true := by
    rw [isPresent_of_none (ht.2.2.2 _ (by decide)), isPresent_of_none (ht.2.2.2 _ (by decide))]
    rfl
  rw [hfree]
  show Passes intentStays (fun s => s = t) (onError _ _ >>= _) _
  have hspares : ∀ l op, (∀ name, op ≠ FileOp.removeFile name) → intentStays l op = false := by
    intro l op hop
    cases op with
    | removeFile name => exact absurd rfl (hop name)
    | _ => rfl
  have hkeeps : ∀ (s : Dir) (n : String), n = temporaryInvite token ∨ n = "remote-invite.json" → s.hasOwnerState = true →
      Dir.hasOwnerState (s.erase n) = true ∧ ∀ e, Dir.hasOwnerState (s.insert n e) = true := by
    rintro s n (rfl | rfl) hs
    · exact ⟨(hasOwnerState_erase (temporary_notMem_owner token)).trans hs,
        fun e => (hasOwnerState_insert e (temporary_notMem_owner token)).trans hs⟩
    · exact ⟨(hasOwnerState_erase (by decide)).trans hs, fun e => (hasOwnerState_insert e (by decide)).trans hs⟩
  refine Passes.bind ((triple_onError (triple_storeInvite hspares token hkeeps invitation) ?_ ?_).weaken (fun s hs => hs ▸ ht)
    fun _ _ hs => hs) fun _ => Passes.bind hleave fun _ => hdrop
  · rintro s ⟨u, -, hs⟩
    exact ⟨u, rfl, hs⟩
  · rintro e d hd ⟨u, hu, -⟩
    cases hu

end

end Rampage.Desktop
