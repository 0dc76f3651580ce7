/-
A reset that stops half-way. Entries are removed one by one, in the order of the listing, and the marker of setup mode comes
last. So a reset is harmless exactly for the directories that no subset of the entries turns into one of an owner who never
confirmed (`harmless_resetRuntimeToSetup`, `passes_resetRuntimeToSetup`): a single key or database beside the enrolment is enough.
-/
import Rampage.Desktop.Restart

namespace Rampage.Desktop

open Handler Disk

/-! ## Directories that are no owner's -/

/-- The next launch goes on to the owner's controller only if this was confirmed. -/
def Harmless (d : Dir) : Prop := d.launchesOwner = true → d.isConfirmed = true

namespace Dir

/-- The entry of a name makes a directory an owner's once nothing else is left of it. -/
def betrays (d : Dir) (name : String) : Bool :=
  if name = setupRequiredMarker then (d.lookup name).isSome && !d.isFile name
  else if name = "remote-invite.json" ∨ name = "agent.controller-pin.json" then d.isPresent name && !d.isFile name
  else d.isPresent name

/-- Entry by entry, the directory can become one of an owner. -/
def shrinksToOwner (d : Dir) : Bool := d.lookup ownerConfirmedMarker != some .special && fabricState.any d.betrays

theorem isFile_eq_true {d : Dir} {name : String} (h : d.isFile name = true) : ∃ e, d.lookup name = some e ∧ e.isFile = true := by
  unfold Dir.isFile at h
  cases hl : d.lookup name with
  | none =>
    rw [hl] at h
    cases h
  | some e =>
    rw [hl] at h
    exact ⟨e, rfl, h⟩

theorem isPresent_eq_true {d : Dir} {name : String} (h : d.isPresent name = true) :
    ∃ e, d.lookup name = some e ∧ e.isPresent = true := by
  unfold Dir.isPresent at h
  cases hl : d.lookup name with
  | none =>
    rw [hl] at h
    cases h
  | some e =>
    rw [hl] at h
    exact ⟨e, rfl, h⟩

theorem isPresent_of_isFile {d : Dir} {name : String} (h : d.isFile name = true) : d.isPresent name = true := by
  obtain ⟨e, he, hfile⟩ := isFile_eq_true h
  unfold Dir.isPresent
  rw [he]
  cases e with
  | link target =>
    cases target with
    | file => rfl
    | directory => cases hfile
    | missing => cases hfile
  | _ => rfl

end Dir

theorem harmless_of_setup {d : Dir} (h : d.setupRequired = true) : Harmless d := by
  intro howner
  unfold Dir.launchesOwner at howner
  rw [h] at howner
  cases howner

theorem harmless_of_worker {d : Dir} (h : d.workerEnrollmentExists = true) : Harmless d := by
  intro howner
  unfold Dir.launchesOwner at howner
  rw [h, Bool.not_true, Bool.and_false] at howner
  cases howner

theorem harmless_of_role {d : Dir} (h : d.fabricRole ≠ .owner) : Harmless d := by
  unfold Dir.fabricRole at h
  by_cases hsetup : d.setupRequired = true
  · exact harmless_of_setup hsetup
  rw [if_neg hsetup] at h
  by_cases hworker : d.workerEnrollmentExists = true
  · exact harmless_of_worker hworker
  · rw [if_neg hworker] at h
    exact absurd rfl h

theorem harmless_of_confirmed {d : Dir} (h : d.isConfirmed = true) : Harmless d := fun _ => h

/-! ## Reset -/

/-- What a reset leaves of a directory: fewer entries, and no entry of a kind it refuses to remove is gone. -/
structure Remains (d s : Dir) : Prop where
  within : ∀ name e, s.lookup name = some e → d.lookup name = some e
  refused : d.lookup ownerConfirmedMarker = some .special → s.lookup ownerConfirmedMarker = some .special

/-- A launch takes the directory for an owner's only on account of an entry that betrays it. -/
theorem exists_betrays {d s : Dir} (h : ∀ name e, s.lookup name = some e → d.lookup name = some e)
    (howner : s.launchesOwner = true) : fabricState.any d.betrays = true := by
  have hfile : ∀ {name}, s.isFile name = false → (s.lookup name).isSome = true → d.isFile name = false := by
    intro name hno hsome
    obtain ⟨e, he⟩ := Option.isSome_iff_exists.1 hsome
    unfold Dir.isFile at hno ⊢
    rw [he] at hno
    rw [h _ _ he]
    exact hno
  have hpresent : ∀ {name}, s.isPresent name = true → d.isPresent name = true ∧ (s.lookup name).isSome = true := by
    intro name hp
    obtain ⟨e, he, hyes⟩ := Dir.isPresent_eq_true hp
    unfold Dir.isPresent
    rw [h _ _ he, he]
    exact ⟨hyes, rfl⟩
  unfold Dir.launchesOwner at howner
  simp only [Bool.and_eq_true, Bool.not_eq_true', Bool.or_eq_true] at howner
  obtain ⟨⟨hsetup, hworker⟩, hstate⟩ := howner
  rw [List.any_eq_true]
  -- a setup marker that is no file betrays the directory
  have hmarker : (s.lookup setupRequiredMarker).isSome = true → ∃ name, name ∈ fabricState ∧ d.betrays name = true := by
    intro hsome
    obtain ⟨e, he⟩ := Option.isSome_iff_exists.1 hsome
    refine ⟨setupRequiredMarker, by decide, ?_⟩
    unfold Dir.betrays
    rw [if_pos rfl, h _ _ he, hfile hsetup hsome]
    rfl
  rcases hstate with hany | hsome
  · obtain ⟨name, hmem, hp⟩ := List.any_eq_true.1 hany
    obtain ⟨hd, hsome⟩ := hpresent hp
    by_cases hname : name = setupRequiredMarker
    · exact hmarker (hname ▸ hsome)
    by_cases hcredential : name = "remote-invite.json" ∨ name = "agent.controller-pin.json"
    · by_cases hno : s.isFile name = false
      · refine ⟨name, hmem, ?_⟩
        unfold Dir.betrays
        rw [if_neg hname, if_pos hcredential, hd, hfile hno hsome]
        rfl
      · -- the machine would be a worker but for the marker of an owner
        have hfabric : s.isFile ownerFabricMarker = true := by
          rw [Bool.not_eq_false] at hno
          unfold Dir.workerEnrollmentExists at hworker
          unfold Dir.setupRequired at hsetup
          rw [hsetup] at hworker
          rcases hcredential with rfl | rfl <;> simpa [hno] using hworker
        refine ⟨ownerFabricMarker, by decide, ?_⟩
        unfold Dir.betrays
        rw [if_neg (by decide), if_neg (by decide)]
        exact (hpresent (Dir.isPresent_of_isFile hfabric)).1
    · refine ⟨name, hmem, ?_⟩
      unfold Dir.betrays
      rw [if_neg hname, if_neg hcredential]
      exact hd
  · exact hmarker hsome

/-- What is left of a directory that cannot shrink to an owner's is harmless. -/
theorem Remains.harmless {d s : Dir} (h : Remains d s) (hd : d.shrinksToOwner = false) : Harmless s := by
  intro howner
  unfold Dir.shrinksToOwner at hd
  rw [exists_betrays h.within howner, Bool.and_true, bne_eq_false_iff_eq] at hd
  unfold Dir.isConfirmed
  rw [h.refused hd]
  rfl

theorem Remains.refl (d : Dir) : Remains d d := ⟨fun _ _ h => h, id⟩

theorem Remains.erase {d s : Dir} (h : Remains d s) {name : String}
    (hname : s.lookup name ≠ some .special) : Remains d (s.erase name) := by
  refine ⟨fun n e he => h.within n e (Table.lookup_of_erase he), fun hrefused => ?_⟩
  by_cases hn : ownerConfirmedMarker = name
  · rw [← hn] at hname
    exact absurd (h.refused hrefused) hname
  · rw [Table.lookup_erase', if_neg hn]
    exact h.refused hrefused

/-- What an operation that removes one name does. -/
theorem eq_erase_of_remove {op : FileOp} {name : String} (hop : op = .removeFile name ∨ op = .removeDirAll name) {s s' : Dir}
    (happly : op.apply s = .ok s') : s' = s.erase name := by
  rcases hop with rfl | rfl
  · simp only [FileOp.apply] at happly
    split at happly <;> cases happly
    rfl
  · simp only [FileOp.apply] at happly
    split at happly <;> cases happly
    rfl

section

variable {F : List Dir → FileOp → Bool} {app : App} {listing : Listing}

/-- Removing an entry leaves less. -/
theorem remains_removeRuntimeEntry {d : Dir} (hd : d.shrinksToOwner = false) (name : String) :
    Disk.Keeps F Harmless (Remains d) (removeRuntimeEntry app name) := by
  refine Triple.read_bind fun t ht => ?_
  have hstep : ∀ op : FileOp, (op = .removeFile name ∨ op = .removeDirAll name) → t.lookup name ≠ some .special →
      Triple F Harmless (fun s => s = t) (orText op id) fun _ s => Remains d s := by
    intro op hop hspecial
    refine triple_orText ?_ ?_
    · rintro s s' rfl happly
      rw [eq_erase_of_remove hop happly]
      exact ⟨(ht.erase hspecial).harmless hd, ht.erase hspecial⟩
    · rintro e s rfl
      exact ht
  have hfail : ∀ text : String, Triple F Harmless (fun s => s = t) (fail text : OnDisk Unit) fun _ s => Remains d s := by
    intro text
    refine Triple.fail ?_
    rintro s rfl
    exact ht
  cases hl : t.lookup name with
  | none => exact hfail _
  | some e =>
    have hne : e ≠ .special → t.lookup name ≠ some .special := by
      intro h
      rw [hl]
      exact fun heq => h (Option.some.inj heq)
    cases e with
    | file bytes => exact hstep _ (.inl rfl) (hne nofun)
    | link target => exact hstep _ (.inl rfl) (hne nofun)
    | directory => exact hstep _ (.inr rfl) (hne nofun)
    | special => exact hfail _

/-- A reset of a directory that cannot shrink to an owner's is harmless. -/
theorem harmless_resetRuntimeToSetup {d : Dir} (hd : d.shrinksToOwner = false) :
    Triple F Harmless (fun s => s = d) (resetRuntimeToSetup app listing) fun _ _ => True := by
  have hkeep : ∀ op : FileOp, (∀ s, op.apply s = .ok s) → Disk.Keeps F Harmless (Remains d) (orText op id) := by
    intro op hop
    refine keeps_orText fun s s' hs happly => ?_
    rw [hop s] at happly
    cases happly
    exact ⟨hs.harmless hd, hs⟩
  have hmarker : Triple F Harmless (Remains d) (writeNewMarker setupRequiredMarker "rampage.setup-required.v1\n")
      fun _ _ => True := by
    have hsetup : ∀ (s : Dir) (b : String), Dir.setupRequired (s.insert setupRequiredMarker (.file b)) = true :=
      fun s b => Dir.isFile_insert s setupRequiredMarker b
    refine (@triple_writeNewMarker F Harmless (Remains d) (fun s => s.setupRequired = true) _ _ ?_ ?_).weaken
      (fun _ hs => hs) fun _ _ _ => trivial
    · intro s _ _
      exact ⟨harmless_of_setup (hsetup s _), hsetup s _⟩
    · intro s _
      exact ⟨harmless_of_setup (hsetup s _), hsetup s _⟩
  unfold resetRuntimeToSetup
  cases validateRuntimeResetTarget app with
  | error e => exact Triple.fail fun _ _ => trivial
  | ok u =>
    show Triple F Harmless (fun s => s = d) (orText .createDirAll id >>= _) fun _ _ => True
    refine Triple.bind ((hkeep _ fun _ => rfl).weaken (fun s hs => hs ▸ Remains.refl d) fun _ _ hs => hs) (fun _ => ?_)
      fun _ _ _ => trivial
    refine Triple.bind (hkeep _ fun _ => rfl) (fun _ => Triple.read_bind fun t ht => ?_) fun _ _ _ => trivial
    have hloop := @Disk.Keeps.forEach Dir FileOp String String F Harmless (Remains d) (removeRuntimeEntry app)
      (listing.names t) fun name _ => remains_removeRuntimeEntry hd name
    exact Triple.bind (hloop.weaken (fun s hs => hs ▸ ht) fun _ _ hs => hs) (fun _ => hmarker) fun _ _ _ => trivial

end

/-! ## A reset that stops half-way -/

/-- The entries that a name accepted by `p` has come first. -/
def Listing.first (p : String → Bool) : Listing where
  names d := d.keys.filter p ++ d.keys.filter fun n => !p n
  perm d := List.filter_append_perm p d.keys

/-- The entries without which a directory is an owner's: those of setup mode and of the enrolment, and the confirmation. -/
def Dir.covers (d : Dir) (name : String) : Bool :=
  name = ownerConfirmedMarker ||
    ((name = setupRequiredMarker || name = "remote-invite.json" || name = "agent.controller-pin.json") && d.isFile name)

/-- The directory without some names. -/
def eraseAll : List String → Dir → Dir
  | [], d => d
  | name :: rest, d => eraseAll rest (d.erase name)

theorem lookup_eraseAll (name : String) : ∀ (names : List String) (d : Dir),
    (eraseAll names d).lookup name = if name ∈ names then none else d.lookup name
  | [], d => rfl
  | n :: rest, d => by
    rw [eraseAll, lookup_eraseAll name rest, Table.lookup_erase']
    by_cases hn : name = n
    · simp [hn]
    · simp [hn]

/-- Without the covering entries the directory is one of an owner who never confirmed. -/
theorem launchesOwner_of_uncovered {d s : Dir} (hd : d.shrinksToOwner = true)
    (hs : ∀ name, s.lookup name = if d.covers name then none else d.lookup name) :
    s.launchesOwner = true ∧ s.isConfirmed = false := by
  have hgone : ∀ name, (name = setupRequiredMarker || name = "remote-invite.json" || name = "agent.controller-pin.json") = true →
      s.isFile name = false := by
    intro name hname
    by_cases hc : d.covers name = true
    · have hl := hs name
      rw [if_pos hc] at hl
      unfold Dir.isFile
      rw [hl]
      rfl
    · have hl := hs name
      rw [if_neg hc] at hl
      rw [Dir.isFile_congr hl]
      unfold Dir.covers at hc
      have hnot : ¬ name = ownerConfirmedMarker ∧ d.isFile name = false := by simpa [hname] using hc
      exact hnot.2
  have hsetup := hgone setupRequiredMarker (by decide)
  have hinvite := hgone "remote-invite.json" (by decide)
  have hpin := hgone "agent.controller-pin.json" (by decide)
  unfold Dir.shrinksToOwner at hd
  rw [Bool.and_eq_true, List.any_eq_true] at hd
  obtain ⟨-, name, hmem, hbetrays⟩ := hd
  -- the entry that betrays the directory is none of the covering ones
  have hcovers : d.covers name = false := by
    have hname : name ≠ ownerConfirmedMarker := by
      rintro rfl
      exact absurd hmem (by decide)
    unfold Dir.covers
    unfold Dir.betrays at hbetrays
    by_cases h₁ : name = setupRequiredMarker
    · rw [if_pos h₁, Bool.and_eq_true, Bool.not_eq_true'] at hbetrays
      simp [hname, hbetrays.2]
    · rw [if_neg h₁] at hbetrays
      by_cases h₂ : name = "remote-invite.json" ∨ name = "agent.controller-pin.json"
      · rw [if_pos h₂, Bool.and_eq_true, Bool.not_eq_true'] at hbetrays
        simp [hname, hbetrays.2]
      · rw [not_or] at h₂
        simp [hname, h₁, h₂.1, h₂.2]
  have hl := hs name
  rw [hcovers, if_neg Bool.false_ne_true] at hl
  have hstate : (fabricState.any s.isPresent || (s.lookup setupRequiredMarker).isSome) = true := by
    rw [Bool.or_eq_true, List.any_eq_true]
    unfold Dir.betrays at hbetrays
    by_cases h₁ : name = setupRequiredMarker
    · rw [if_pos h₁, Bool.and_eq_true] at hbetrays
      refine .inr ?_
      rw [← h₁, hl]
      exact hbetrays.1
    · rw [if_neg h₁] at hbetrays
      refine .inl ⟨name, hmem, ?_⟩
      rw [Dir.isPresent_congr hl]
      split at hbetrays
      · exact (Bool.and_eq_true _ _ ▸ hbetrays).1
      · exact hbetrays
  refine ⟨?_, ?_⟩
  · unfold Dir.launchesOwner Dir.setupRequired Dir.workerEnrollmentExists
    rw [hsetup, hinvite, hpin, hstate]
    simp
  · have hc := hs ownerConfirmedMarker
    unfold Dir.covers at hc
    simp only [decide_true, Bool.true_or, if_true] at hc
    unfold Dir.isConfirmed
    rw [hc]
    rfl

section

variable {app : App}

/-- No operation fails. -/
def noFault : List Dir → FileOp → Bool := fun _ _ => false

/-- An entry of a kind that can be removed is removed. -/
theorem triple_removeRuntimeEntry {d : Dir} {name : String} {e : Entry} (he : d.lookup name = some e) (hspecial : e ≠ .special) :
    Triple noFault (fun _ => True) (fun s => s = d) (removeRuntimeEntry app name) fun r s => r = .ok () ∧ s = d.erase name := by
  have hstep : ∀ op : FileOp, op.apply d = .ok (d.erase name) →
      Triple noFault (fun _ => True) (fun s => s = d) (orText op id) fun r s => r = .ok () ∧ s = d.erase name := by
    intro op hop
    refine triple_onError (Q := fun r s => r = .ok () ∧ s = d.erase name) (Triple.perform ?_ ?_ ?_) (fun _ hs => ⟨rfl, hs.2⟩)
      fun e => Triple.fail fun s hs => nomatch hs.1
    · rintro s s' rfl happly
      rw [hop] at happly
      cases happly
      exact ⟨trivial, rfl, rfl⟩
    · rintro s e rfl happly
      rw [hop] at happly
      cases happly
    · intro l hl
      cases hl
  refine Triple.read_bind ?_
  rintro t rfl
  rw [he]
  cases e with
  | file bytes => exact hstep _ (by simp [FileOp.apply, he])
  | link target => exact hstep _ (by simp [FileOp.apply, he])
  | directory => exact hstep _ (by simp [FileOp.apply, he])
  | special => exact absurd rfl hspecial

/-- So are all of them. -/
theorem triple_removeRuntimeEntries : ∀ (names : List String) (d : Dir), names.Nodup →
    (∀ name ∈ names, ∃ e, d.lookup name = some e ∧ e ≠ .special) →
    Triple noFault (fun _ => True) (fun s => s = d) (forEach (removeRuntimeEntry app) names) fun r s =>
      r = .ok () ∧ s = eraseAll names d
  | [], d, _, _ => Triple.pure fun s hs => ⟨rfl, hs⟩
  | name :: rest, d, hnodup, hspecial => by
    obtain ⟨hname, hrest⟩ := List.nodup_cons.1 hnodup
    obtain ⟨e, he, hkind⟩ := hspecial name (List.mem_cons_self ..)
    refine Triple.bind (triple_removeRuntimeEntry he hkind) (fun _ => ?_) fun e s hs => nomatch hs.1
    refine (triple_removeRuntimeEntries rest (d.erase name) hrest fun n hn => ?_).weaken (fun _ hs => hs.2) fun _ _ hs => hs
    have hne : n ≠ name := by
      rintro rfl
      exact hname hn
    rw [Table.lookup_erase', if_neg hne]
    exact hspecial n (List.mem_cons_of_mem _ hn)

theorem grows_removeRuntimeEntry (name : String) : Grows noFault (removeRuntimeEntry app name) := by
  refine Disk.Keeps.read_bind fun t _ => ?_
  have hstep : ∀ op : FileOp, Grows noFault (orText op id) := fun op => keeps_orText fun _ _ _ _ => ⟨trivial, trivial⟩
  cases t.lookup name with
  | none => exact Disk.Keeps.fail _
  | some e =>
    cases e with
    | file bytes => exact hstep _
    | link target => exact hstep _
    | directory => exact hstep _
    | special => exact Disk.Keeps.fail _

/-- A reset passes a directory of an owner who never confirmed, if the directory can shrink to one. -/
theorem passes_resetRuntimeToSetup {d : Dir} (hd : d.shrinksToOwner = true) (htarget : validateRuntimeResetTarget app = .ok ()) :
    Passes noFault (fun s => s = d) (resetRuntimeToSetup app (.first d.covers)) fun s =>
      s.launchesOwner = true ∧ s.isConfirmed = false := by
  -- reading and creating the directory changes nothing
  have hquiet : ∀ op : FileOp, (∀ s, op.apply s = .ok s) →
      Triple noFault (fun _ => True) (fun s => s = d) (orText op id) fun r s => ∃ u, r = .ok u ∧ s = d := by
    intro op hop
    refine (triple_orText_of_ok (P := fun s => s = d) (fun s hs => ⟨s, hop s, trivial, hs⟩) fun _ hs => hs).weaken
      (fun _ hs => hs) fun r s hs => ⟨(), hs.2 fun _ _ => rfl, hs.1⟩
  -- the entries that go first can all be removed
  have hcovering : ∀ name ∈ d.keys.filter d.covers, ∃ e, d.lookup name = some e ∧ e ≠ .special := by
    intro name hname
    obtain ⟨hkey, hcovers⟩ := List.mem_filter.1 hname
    obtain ⟨e, he⟩ := Option.isSome_iff_exists.1 (AList.lookup_isSome.2 hkey)
    refine ⟨e, he, ?_⟩
    rintro rfl
    unfold Dir.covers at hcovers
    rw [Bool.or_eq_true, Bool.and_eq_true] at hcovers
    rcases hcovers with hname | ⟨-, hfile⟩
    · rw [of_decide_eq_true hname] at he
      unfold Dir.shrinksToOwner at hd
      rw [he] at hd
      cases hd
    · obtain ⟨e, hl, hyes⟩ := Dir.isFile_eq_true hfile
      rw [he] at hl
      cases hl
      cases hyes
  unfold resetRuntimeToSetup
  rw [htarget]
  show Passes noFault (fun s => s = d) (orText .createDirAll id >>= _) _
  refine Passes.bind (hquiet _ fun _ => rfl) fun _ => Passes.bind (hquiet _ fun _ => rfl) fun _ => Passes.read_bind ?_
  rintro t rfl
  show Passes noFault (fun s => s = t) (forEach (removeRuntimeEntry app) ((t.keys.filter t.covers) ++ _) >>= _) _
  rw [forEach_append]
  have hfirst : Triple noFault (fun _ => True) (fun s => s = t) (forEach (removeRuntimeEntry app) (t.keys.filter t.covers))
      fun r s => ∃ u, r = .ok u ∧ s = eraseAll (t.keys.filter t.covers) t :=
    (triple_removeRuntimeEntries _ t (t.nodupKeys.filter _) hcovering).weaken (fun _ hs => hs) fun _ _ hs => ⟨(), hs⟩
  refine Passes.bind_bind (Passes.bind hfirst fun _ => Grows.passes ?_ ?_)
  · exact Disk.Keeps.bind (Disk.Keeps.forEach fun name _ => grows_removeRuntimeEntry name) fun _ =>
      keeps_writeNewMarker fun _ _ _ => ⟨trivial, trivial⟩
  · rintro s rfl
    refine launchesOwner_of_uncovered hd fun name => ?_
    rw [lookup_eraseAll]
    by_cases hcovers : t.covers name = true
    · by_cases hkey : name ∈ t.keys
      · rw [if_pos (List.mem_filter.2 ⟨hkey, hcovers⟩), if_pos hcovers]
      · rw [if_neg fun hmem => hkey (List.mem_filter.1 hmem).1, if_pos hcovers]
        exact AList.lookup_eq_none.2 hkey
    · rw [if_neg fun hmem => hcovers (List.mem_filter.1 hmem).2, if_neg hcovers]

end

end Rampage.Desktop
