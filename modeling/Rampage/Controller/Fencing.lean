/-
STOP fences old leases across crashes. A marker that names the stored epoch was written after the KILL file beside it
came into existence and after the epoch was advanced, whichever process created the file and however the writes ended:
`Site.Safe` says so for every partial state that a crash can leave, and startup repairs all the others.
-/
import Rampage.Controller.Crash
import Mathlib.Order.Nat

namespace Rampage.Controller.Crash

/-! ## The invariant -/

/-- The leases issued before the KILL file came into existence are older than the epoch. -/
def Site.Fenced (p : Site) (epoch : Nat) : Prop := ∀ born, p.latch = some born → ∀ e ∈ p.issued.take born, e < epoch

/-- The epoch was stored after the KILL file came into existence. -/
structure Site.Stands (p : Site) (epoch : Nat) : Prop where
  stored : epoch = p.storedEpoch
  positive : 0 < epoch
  latch : p.latch ≠ none
  fenced : p.Fenced epoch

/-- What holds of the files and the leases, whatever the process is at: a marker of the stored epoch was written after
its KILL file came into existence. -/
structure Site.Sound (p : Site) : Prop where
  born : ∀ born, p.latch = some born → born ≤ p.issued.length
  marked : p.marker ≠ none → p.latch ≠ none
  marker : ∀ e, p.marker = some (some e) → e ≤ p.storedEpoch ∧ (e = p.storedEpoch → p.Stands e)
  issued : ∀ e ∈ p.issued, e ≤ p.storedEpoch
  loaded : ∀ e ∈ p.loaded, e ≤ p.storedEpoch

/-- The epoch in memory is the stored one or an older one, and the marker does not name an older one. -/
def Knows (memory : Option Nat) (p : Site) : Prop :=
  ∀ e, memory = some e → e ≤ p.storedEpoch ∧ (p.marker = some (some e) → e = p.storedEpoch)

/-- What a stage relies on. -/
def Stage.Allowed (memory : Option Nat) (p : Site) : Stage → Prop
  | .readEpoch => memory = none
  | .firstEpoch => memory = none
  | .findLatch epoch => memory = none ∧ epoch = p.storedEpoch
  | .recoverEpoch => memory = none ∧ p.latch ≠ none
  | .recoverTruncate epoch => memory = none ∧ p.Stands epoch
  | .recoverWrite epoch => memory = none ∧ p.Stands epoch
  | .recoverRecord epoch => memory = none ∧ p.Stands epoch ∧ p.marker = some (some epoch)
  | .serve epoch found => epoch = p.storedEpoch ∧ (found = true → p.latch ≠ none ∧ p.marker = some (some epoch))
  | .createLatch => ∀ e, memory = some e → p.marker ≠ some (some e)
  | .advanceEpoch => (∀ e, memory = some e → p.marker ≠ some (some e)) ∧ p.latch ≠ none
  | .storeEpoch epoch => p.Stands epoch
  | .truncateMarker epoch => memory = some epoch ∧ p.Stands epoch
  | .writeMarker epoch => memory = some epoch ∧ p.Stands epoch
  | .recordStop epoch => memory = some epoch ∧ p.Stands epoch ∧ p.marker = some (some epoch)
  | .removeLatch => p.marker = none
  | _ => True

/-- The process has the stored epoch or an older one in memory, and is at a stage that it may be at. -/
structure Process.Fits (p : Site) (q : Process) : Prop where
  memory : Knows q.epoch p
  stage : ∀ st, q.stage = some st → st.Allowed q.epoch p

/-- The site is sound, and so is what its process is at. -/
structure Site.Safe (p : Site) : Prop extends p.Sound where
  process : ∀ q, p.process = some q → q.Fits p

section

variable {p p' : Site} {epoch : Nat} {memory : Option Nat}

/-! ## The files -/

theorem Site.Sound.of_eq (h : p.Sound) (hs : p'.storedEpoch = p.storedEpoch) (hl : p'.latch = p.latch)
    (hm : p'.marker = p.marker) (hi : p'.issued = p.issued) (hload : ∀ e ∈ p'.loaded, e ∈ p.loaded) : p'.Sound := by
  obtain ⟨hborn, hmarked, hmarker, hissued, hloaded⟩ := h
  refine ⟨?_, ?_, ?_, ?_, ?_⟩
  · rw [hl, hi]
    exact hborn
  · rw [hl, hm]
    exact hmarked
  · intro e he
    rw [hm] at he
    rw [hs]
    refine ⟨(hmarker e he).1, fun heq => ?_⟩
    obtain ⟨h1, h2, h3, h4⟩ := (hmarker e he).2 heq
    refine ⟨by rw [hs]; exact h1, h2, by rw [hl]; exact h3, ?_⟩
    unfold Site.Fenced
    rw [hl, hi]
    exact h4
  · rw [hi, hs]
    exact hissued
  · intro e he
    rw [hs]
    exact hloaded e (hload e he)

/-- The next epoch stands, if the KILL file exists. -/
theorem stands_advance (h : p.Sound) (hl : p.latch ≠ none) :
    ({ p with storedEpoch := p.storedEpoch + 1 } : Site).Stands (p.storedEpoch + 1) := by
  refine ⟨rfl, Nat.succ_pos _, hl, ?_⟩
  intro born _ e he
  exact Nat.lt_succ_of_le (h.issued e (List.mem_of_mem_take he))

theorem sound_advance (h : p.Sound) : ({ p with storedEpoch := p.storedEpoch + 1 } : Site).Sound := by
  refine ⟨h.born, h.marked, ?_, ?_, ?_⟩
  · intro e he
    have hle := (h.marker e he).1
    refine ⟨Nat.le_succ_of_le hle, fun heq => ?_⟩
    -- a marker of an epoch that was not stored before does not exist
    have hnew : e = p.storedEpoch + 1 := heq
    omega
  · intro e he
    exact Nat.le_succ_of_le (h.issued e he)
  · intro e he
    exact Nat.le_succ_of_le (h.loaded e he)

/-- The marker may be emptied while the KILL file exists, and take a value of the stored epoch if that stands. -/
theorem sound_marker (h : p.Sound) {marker : Option (Option Nat)} (hl : marker ≠ none → p.latch ≠ none)
    (hm : ∀ e, marker = some (some e) → e ≤ p.storedEpoch ∧ (e = p.storedEpoch → p.Stands e)) :
    ({ p with marker := marker } : Site).Sound := by
  refine ⟨h.born, hl, ?_, h.issued, h.loaded⟩
  intro e he
  refine ⟨(hm e he).1, fun heq => ?_⟩
  obtain ⟨h1, h2, h3, h4⟩ := (hm e he).2 heq
  exact ⟨h1, h2, h3, h4⟩

/-- A torn write leaves a smaller number, an empty file, or the whole epoch. -/
theorem tornMarker_cases (epoch digits : Nat) :
    tornMarker epoch digits = some none ∨ ∃ e ≤ epoch, tornMarker epoch digits = some (some e) := by
  unfold tornMarker
  split
  · exact Or.inl rfl
  · exact Or.inr ⟨_, Nat.div_le_self _ _, rfl⟩

theorem sound_write (h : p.Sound) (hs : p.Stands epoch) {e : Nat} (he : e ≤ epoch) :
    ({ p with marker := some (some e) } : Site).Sound := by
  refine sound_marker h (fun _ => hs.latch) ?_
  rintro e' ⟨⟩
  rw [← hs.stored]
  refine ⟨he, ?_⟩
  rintro rfl
  exact hs

/-- Where there was no KILL file there is no marker. -/
theorem sound_createLatch (h : p.Sound) : p.createLatch.Sound := by
  unfold Site.createLatch
  cases hl : p.latch with
  | some born =>
    rw [Option.getD_some, ← hl]
    exact h
  | none =>
    have hm : p.marker = none := by
      by_contra hsome
      exact h.marked hsome hl
    refine ⟨?_, by simp [hm], by simp [hm], h.issued, h.loaded⟩
    rintro born ⟨⟩
    exact le_rfl

/-! ## What the others do meanwhile -/

/-- Between `p` and `p'` the shell or a handler in flight did something: the stored epoch, the marker and a KILL file that
was there stay, with what was issued before it. -/
structure Beside (p p' : Site) : Prop where
  stored : p'.storedEpoch = p.storedEpoch
  marker : p'.marker = p.marker
  latch : p.latch ≠ none → p'.latch = p.latch
  fenced : p.latch ≠ none → ∀ epoch, p.Fenced epoch → p'.Fenced epoch

theorem Site.Stands.beside (h : p.Stands epoch) (hb : Beside p p') : p'.Stands epoch := by
  refine ⟨h.stored.trans hb.stored.symm, h.positive, ?_, hb.fenced h.latch epoch h.fenced⟩
  rw [hb.latch h.latch]
  exact h.latch

theorem Knows.beside (h : Knows memory p) (hb : Beside p p') : Knows memory p' := by
  intro e he
  rw [hb.stored, hb.marker]
  exact h e he

theorem Stage.Allowed.beside {st : Stage} (h : st.Allowed memory p) (hb : Beside p p') : st.Allowed memory p' := by
  have hlatch : p.latch ≠ none → p'.latch ≠ none := fun hl => hb.latch hl ▸ hl
  cases st with
  | readEpoch => exact h
  | firstEpoch => exact h
  | findLatch epoch => exact ⟨h.1, h.2.trans hb.stored.symm⟩
  | recoverEpoch => exact ⟨h.1, hlatch h.2⟩
  | recoverTruncate epoch => exact ⟨h.1, h.2.beside hb⟩
  | recoverWrite epoch => exact ⟨h.1, h.2.beside hb⟩
  | recoverRecord epoch => exact ⟨h.1, h.2.1.beside hb, hb.marker.trans h.2.2⟩
  | serve epoch found =>
    refine ⟨h.1.trans hb.stored.symm, fun hf => ?_⟩
    obtain ⟨hl, hm⟩ := h.2 hf
    exact ⟨hlatch hl, hb.marker.trans hm⟩
  | createLatch => exact fun e he hm => h e he (hb.marker.symm.trans hm)
  | advanceEpoch => exact ⟨fun e he hm => h.1 e he (hb.marker.symm.trans hm), hlatch h.2⟩
  | storeEpoch epoch => exact Site.Stands.beside h hb
  | truncateMarker epoch => exact ⟨h.1, h.2.beside hb⟩
  | writeMarker epoch => exact ⟨h.1, h.2.beside hb⟩
  | recordStop epoch => exact ⟨h.1, h.2.1.beside hb, hb.marker.trans h.2.2⟩
  | removeLatch => exact Eq.trans hb.marker h
  | _ => trivial

theorem beside_createLatch (p : Site) : Beside p p.createLatch := by
  have hsame : p.latch ≠ none → p.createLatch = p := by
    intro hl
    obtain ⟨born, hb⟩ := Option.ne_none_iff_exists'.1 hl
    unfold Site.createLatch
    rw [hb, Option.getD_some, ← hb]
  refine ⟨rfl, rfl, ?_, ?_⟩
  · intro hl
    rw [hsame hl]
  · intro hl epoch hf
    rw [hsame hl]
    exact hf

theorem fenced_issue (h : p.Sound) (more : List Nat) {epoch : Nat} (hf : p.Fenced epoch) :
    ({ p with issued := p.issued ++ more } : Site).Fenced epoch := by
  intro born hl e he
  have hborn := h.born born hl
  change e ∈ (p.issued ++ more).take born at he
  rw [List.take_append_of_le_length hborn] at he
  exact hf born hl e he

theorem beside_issue (h : p.Sound) (more : List Nat) : Beside p { p with issued := p.issued ++ more } :=
  ⟨rfl, rfl, fun _ => rfl, fun _ _ hf => fenced_issue h more hf⟩

theorem sound_issue (h : p.Sound) {more : List Nat} (hmore : ∀ e ∈ more, e ≤ p.storedEpoch) :
    ({ p with issued := p.issued ++ more } : Site).Sound := by
  refine ⟨?_, h.marked, ?_, ?_, h.loaded⟩
  · intro born hl
    have := h.born born hl
    simp only [List.length_append]
    omega
  · intro e he
    refine ⟨(h.marker e he).1, fun heq => ?_⟩
    exact ((h.marker e he).2 heq).beside (beside_issue h more)
  · intro e he
    rcases List.mem_append.1 he with he | he
    · exact h.issued e he
    · exact hmore e he

/-! ## The stages -/

/-- The process goes on, or has answered. -/
theorem safe_goes (h : p.Sound) {q : Process} (hq : p.process = some q) (hm : Knows q.epoch p)
    {stage : Option Stage} (hst : ∀ st, stage = some st → st.Allowed q.epoch p) : (p.goes stage).Safe := by
  have hb : Beside p (p.goes stage) := ⟨rfl, rfl, fun _ => rfl, fun _ _ hf => hf⟩
  refine ⟨h.of_eq rfl rfl rfl rfl fun _ he => he, ?_⟩
  intro q' hq'
  simp only [Site.goes, hq, Option.map_some, Option.some.injEq] at hq'
  subst hq'
  exact ⟨hm.beside hb, fun st hs => (hst st hs).beside hb⟩

theorem safe_ends (h : p.Sound) : p.ends.Safe := by
  refine ⟨h.of_eq rfl rfl rfl rfl (by simp [Site.ends]), ?_⟩
  rintro q ⟨⟩

/-- What an attempt leads to, with the effect made or not. -/
theorem attempt_cases {effect goOn fails : Site → Site} {P : Site → Prop} (outcome : Outcome) (hgo : P (goOn (effect p)))
    (hmade : P (fails (effect p))) (hfail : P (fails p)) : P (p.attempt outcome effect goOn fails) := by
  unfold Site.attempt
  split
  · exact hgo
  · exact hmade
  · exact hfail

theorem advance_cases {goOn : Site → Nat → Site} {fails : Site → Site} {P : Site → Prop} (outcome : Outcome)
    (hgo : P (goOn { p with storedEpoch := p.storedEpoch + 1 } (p.storedEpoch + 1)))
    (hmade : P (fails { p with storedEpoch := p.storedEpoch + 1 })) (hfail : P (fails p)) :
    P (p.advance outcome goOn fails) := by
  unfold Site.advance
  split
  · split
    · exact hgo
    · exact hmade
    · exact hfail
  · exact hfail

/-- The write of an epoch that stands leaves a sound marker, however it ends. -/
theorem write_cases {goOn fails : Site → Site} {P : Site → Prop} (outcome : Outcome)
    (hgo : P (goOn { p with marker := some (some epoch) })) (hfail : P (fails p))
    (hempty : P (fails { p with marker := some none })) (htorn : ∀ e ≤ epoch, P (fails { p with marker := some (some e) })) :
    P (p.write epoch outcome goOn fails) := by
  unfold Site.write
  split
  · rename_i digits
    rcases tornMarker_cases epoch digits with hm | ⟨e, he, hm⟩
    · rw [hm]
      exact hempty
    · rw [hm]
      exact htorn e he
  · exact attempt_cases outcome hgo (htorn epoch le_rfl) hfail

/-- The epoch in memory may be old when the stored one is advanced, if the marker does not name it. -/
theorem knows_advance (h : Knows memory p) (hne : ∀ e, memory = some e → p.marker ≠ some (some e)) :
    Knows memory { p with storedEpoch := p.storedEpoch + 1 } := by
  intro e he
  refine ⟨Nat.le_succ_of_le (h e he).1, fun hm => ?_⟩
  exact absurd hm (hne e he)

/-- The marker may name the epoch in memory if that is the stored one. -/
theorem knows_marker (h : Knows memory p) {marker : Option (Option Nat)}
    (hm : ∀ e, memory = some e → marker = some (some e) → e = p.storedEpoch) : Knows memory { p with marker := marker } :=
  fun e he => ⟨(h e he).1, hm e he⟩

/-- The stages of startup, up to the one in which the controller begins to serve. -/
def Stage.isStartup : Stage → Bool
  | .readEpoch => true
  | .firstEpoch => true
  | .findLatch _ => true
  | .recoverEpoch => true
  | .recoverTruncate _ => true
  | .recoverWrite _ => true
  | .recoverRecord _ => true
  | _ => false

/-- Nothing is in memory before the controller serves. -/
theorem startup_memory {st : Stage} (h : st.Allowed memory p) (hst : st.isStartup = true) : memory = none := by
  cases st with
  | readEpoch => exact h
  | firstEpoch => exact h
  | findLatch | recoverEpoch | recoverTruncate | recoverWrite | recoverRecord => exact h.1
  | _ => cases hst

/-- Every effect of startup keeps the site safe. -/
theorem safe_startup {st : Stage} (h : p.Safe) (hq : p.process = some ⟨none, some st⟩) (hst : st.Allowed none p)
    (hstartup : st.isStartup = true) (outcome : Outcome) : (st.run none outcome p).2.Safe := by
  have hsound := h.toSound
  -- the process knows no epoch yet
  have hnone : ∀ p, Knows none p := by
    rintro p e ⟨⟩
  -- a marker cut short says nothing, and the latch stands
  have hempty : p.latch ≠ none → ({ p with marker := some none } : Site).Sound := by
    intro hl
    refine sound_marker hsound (fun _ => hl) ?_
    rintro e ⟨⟩
  cases st with
  | readEpoch =>
    refine safe_goes hsound hq (hnone p) ?_
    rintro st ⟨⟩
    split
    · exact rfl
    · exact ⟨rfl, rfl⟩
  | firstEpoch =>
    simp only [Stage.run]
    refine advance_cases (P := Site.Safe) outcome ?_ (safe_ends (sound_advance hsound)) (safe_ends hsound)
    refine safe_goes (sound_advance hsound) hq (hnone _) ?_
    rintro st ⟨⟩
    exact ⟨rfl, rfl⟩
  | findLatch epoch =>
    refine safe_goes hsound hq (hnone p) ?_
    rintro st ⟨⟩
    split
    · rename_i hfound
      simp only [Bool.and_eq_true] at hfound
      exact ⟨rfl, Option.isSome_iff_ne_none.1 hfound.1⟩
    · rename_i hfound
      refine ⟨hst.2, fun hl => ⟨Option.isSome_iff_ne_none.1 hl, ?_⟩⟩
      rw [hl, Bool.true_and, bne_iff_ne, not_not] at hfound
      exact Option.join_eq_some_iff.1 hfound
  | recoverEpoch =>
    simp only [Stage.run]
    refine advance_cases (P := Site.Safe) outcome ?_ (safe_ends (sound_advance hsound)) (safe_ends hsound)
    refine safe_goes (sound_advance hsound) hq (hnone _) ?_
    rintro st ⟨⟩
    exact ⟨rfl, stands_advance hsound hst.2⟩
  | recoverTruncate epoch =>
    have hstands := hst.2
    simp only [Stage.run]
    refine attempt_cases (P := Site.Safe) outcome ?_ (safe_ends (hempty hstands.latch)) (safe_ends hsound)
    refine safe_goes (hempty hstands.latch) hq (hnone _) ?_
    rintro st ⟨⟩
    exact ⟨rfl, hstands.stored, hstands.positive, hstands.latch, hstands.fenced⟩
  | recoverWrite epoch =>
    have hstands := hst.2
    simp only [Stage.run]
    refine write_cases (P := Site.Safe) outcome ?_ (safe_ends hsound) (safe_ends (hempty hstands.latch))
      (fun e he => safe_ends (sound_write hsound hstands he))
    refine safe_goes (sound_write hsound hstands le_rfl) hq (hnone _) ?_
    rintro st ⟨⟩
    exact ⟨rfl, ⟨hstands.stored, hstands.positive, hstands.latch, hstands.fenced⟩, rfl⟩
  | recoverRecord epoch =>
    simp only [Stage.run]
    refine attempt_cases (P := Site.Safe) outcome ?_ (safe_ends hsound) (safe_ends hsound)
    refine safe_goes hsound hq (hnone p) ?_
    rintro st ⟨⟩
    exact ⟨hst.2.1.stored, fun _ => ⟨hst.2.1.latch, hst.2.2⟩⟩
  | _ => cases hstartup

/-- Every effect of startup and of the holder of the gate keeps the site safe. -/
theorem safe_run {st : Stage} (h : p.Safe) (hq : p.process = some ⟨memory, some st⟩) (outcome : Outcome) :
    (st.run memory outcome p).2.Safe := by
  have hfits := h.process _ hq
  have hknows : Knows memory p := hfits.memory
  have hst : st.Allowed memory p := hfits.stage st rfl
  have hsound := h.toSound
  have hanswer : ∀ {p : Site}, p.Sound → p.process = some ⟨memory, some st⟩ → Knows memory p → (p.goes none).Safe := by
    intro p hs hq hk
    refine safe_goes hs hq hk ?_
    rintro _ ⟨⟩
  have hempty : p.latch ≠ none → ({ p with marker := some none } : Site).Sound := by
    intro hl
    refine sound_marker hsound (fun _ => hl) ?_
    rintro e ⟨⟩
  by_cases hstartup : st.isStartup = true
  · obtain rfl := startup_memory hst hstartup
    exact safe_startup h hq hst hstartup outcome
  cases st with
  | serve epoch found =>
    refine ⟨hsound.of_eq rfl rfl rfl rfl fun _ he => he, ?_⟩
    rintro q ⟨⟩
    constructor
    · rintro e ⟨⟩
      exact ⟨hst.1.le, fun _ => hst.1⟩
    · rintro st ⟨⟩
  | stop =>
    simp only [Stage.run]
    split
    · exact hanswer hsound hq hknows
    · rename_i hno
      refine safe_goes hsound hq hknows ?_
      rintro st ⟨⟩ e he hm
      -- a marker that names the epoch in memory stands beside a KILL file
      have hl := Option.isSome_iff_ne_none.2 (hsound.marked (by simp [hm]))
      have hmemory : memory = some e := he
      exact hno (by simp [hl, hmemory, hm])
  | createLatch =>
    simp only [Stage.run]
    split
    · rename_i hl
      refine safe_goes hsound hq hknows ?_
      rintro st ⟨⟩
      exact ⟨hst, Option.isSome_iff_ne_none.1 hl⟩
    · have hcreated := sound_createLatch hsound
      have hknows' : Knows memory p.createLatch := hknows.beside (beside_createLatch p)
      dsimp only
      refine attempt_cases (P := Site.Safe) outcome ?_ (hanswer hcreated hq hknows') (hanswer hsound hq hknows)
      refine safe_goes hcreated hq hknows' ?_
      rintro st ⟨⟩
      exact ⟨hst, by simp [Site.createLatch]⟩
  | advanceEpoch =>
    have hadvanced := sound_advance hsound
    have hknows' := knows_advance hknows hst.1
    simp only [Stage.run]
    refine advance_cases (P := Site.Safe) outcome ?_ (hanswer hadvanced hq hknows') (hanswer hsound hq hknows)
    refine safe_goes hadvanced hq hknows' ?_
    rintro st ⟨⟩
    exact stands_advance hsound hst.2
  | storeEpoch epoch =>
    refine ⟨hsound.of_eq rfl rfl rfl rfl fun _ he => he, ?_⟩
    rintro q ⟨⟩
    constructor
    · rintro e ⟨⟩
      exact ⟨hst.stored.le, fun _ => hst.stored⟩
    · rintro st ⟨⟩
      exact ⟨rfl, hst.stored, hst.positive, hst.latch, hst.fenced⟩
  | truncateMarker epoch =>
    obtain ⟨hm, hstands⟩ := hst
    have hcut := hempty hstands.latch
    have hknows' : Knows memory { p with marker := some none } := knows_marker hknows (by simp)
    simp only [Stage.run]
    refine attempt_cases (P := Site.Safe) outcome ?_ (hanswer hcut hq hknows') (hanswer hsound hq hknows)
    refine safe_goes hcut hq hknows' ?_
    rintro st ⟨⟩
    exact ⟨hm, hstands.stored, hstands.positive, hstands.latch, hstands.fenced⟩
  | writeMarker epoch =>
    obtain ⟨hm, hstands⟩ := hst
    have hknows' : ∀ marker, Knows memory { p with marker := marker } := by
      intro marker
      refine knows_marker hknows ?_
      intro e he _
      rw [hm] at he
      exact Option.some.inj he ▸ hstands.stored
    simp only [Stage.run]
    refine write_cases (P := Site.Safe) outcome ?_ (hanswer hsound hq hknows) (hanswer (hempty hstands.latch) hq (hknows' _))
      (fun e he => hanswer (sound_write hsound hstands he) hq (hknows' _))
    refine safe_goes (sound_write hsound hstands le_rfl) hq (hknows' _) ?_
    rintro st ⟨⟩
    exact ⟨hm, ⟨hstands.stored, hstands.positive, hstands.latch, hstands.fenced⟩, rfl⟩
  | recordStop epoch =>
    simp only [Stage.run]
    split <;> exact hanswer hsound hq hknows
  | removeMarker =>
    simp only [Stage.run]
    split
    · have hgone : ({ p with marker := none } : Site).Sound := by
        refine sound_marker hsound (fun h => absurd rfl h) ?_
        rintro e ⟨⟩
      have hknows' : Knows memory { p with marker := none } := knows_marker hknows (by simp)
      dsimp only
      refine attempt_cases (P := Site.Safe) outcome ?_ (hanswer hgone hq hknows') (hanswer hsound hq hknows)
      refine safe_goes hgone hq hknows' ?_
      rintro st ⟨⟩
      exact rfl
    · rename_i hm
      refine safe_goes hsound hq hknows ?_
      rintro st ⟨⟩
      exact Option.not_isSome_iff_eq_none.1 hm
  | removeLatch =>
    have hm : p.marker = none := hst
    have hgone : ({ p with latch := none } : Site).Sound := by
      refine ⟨?_, by simp [hm], by simp [hm], hsound.issued, hsound.loaded⟩
      rintro born ⟨⟩
    simp only [Stage.run]
    split
    · dsimp only
      refine attempt_cases (P := Site.Safe) outcome ?_ (hanswer hgone hq hknows) (hanswer hsound hq hknows)
      refine safe_goes hgone hq hknows ?_
      rintro st ⟨⟩
      trivial
    · refine safe_goes hsound hq hknows ?_
      rintro st ⟨⟩
      trivial
  | recordResume => exact hanswer hsound hq hknows
  | _ => exact absurd rfl hstartup

/-- Something happened beside the process. -/
theorem Site.Safe.beside (h : p.Safe) (hb : Beside p p') (hs : p'.Sound) (hp : p'.process = p.process) : p'.Safe := by
  refine ⟨hs, ?_⟩
  intro q hq
  rw [hp] at hq
  have hfits := h.process q hq
  exact ⟨hfits.memory.beside hb, fun st hst => (hfits.stage st hst).beside hb⟩

theorem safe_takeGate (h : p.Safe) {st : Stage} (hst : ∀ epoch, st.Allowed (some epoch) p) : (p.takeGate st).Safe := by
  unfold Site.takeGate
  split
  · rename_i epoch hq
    refine ⟨h.toSound.of_eq rfl rfl rfl rfl fun _ he => he, ?_⟩
    rintro q ⟨⟩
    refine ⟨(h.process _ hq).memory, ?_⟩
    rintro st ⟨⟩
    exact (hst epoch).beside ⟨rfl, rfl, fun _ => rfl, fun _ _ hf => hf⟩
  · exact h

/-- Every act keeps the site safe. -/
theorem safe_step (act : Act) (h : p.Safe) : (step act p).2.Safe := by
  cases act with
  | start =>
    show (if p.process.isNone then _ else p).Safe
    split
    · refine ⟨h.toSound.of_eq rfl rfl rfl rfl fun _ he => he, ?_⟩
      rintro q ⟨⟩
      constructor
      · rintro e ⟨⟩
      · rintro st ⟨⟩
        exact rfl
    · exact h
  | crash => exact safe_ends h.toSound
  | shellStop => exact h.beside (beside_createLatch p) (sound_createLatch h.toSound) rfl
  | stop => exact safe_takeGate h fun _ => trivial
  | resume => exact safe_takeGate h fun _ => trivial
  | proceed outcome =>
    simp only [step]
    split
    · rename_i memory stage hq
      exact safe_run h hq outcome
    · exact h
  | load =>
    refine h.beside ⟨rfl, rfl, fun _ => rfl, fun _ _ hf => hf⟩ ⟨h.born, h.marked, ?_, h.issued, ?_⟩ rfl
    · intro e he
      refine ⟨(h.marker e he).1, fun heq => ?_⟩
      exact ((h.marker e he).2 heq).beside ⟨rfl, rfl, fun _ => rfl, fun _ _ hf => hf⟩
    · intro e he
      rcases List.mem_append.1 he with he | he
      · exact h.loaded e he
      · rw [Option.mem_toList, Option.bind_eq_some_iff] at he
        obtain ⟨q, hq, hepoch⟩ := he
        exact ((h.process q hq).memory e hepoch).1
  | issue i =>
    refine h.beside (beside_issue h.toSound _) (sound_issue h.toSound ?_) rfl
    intro e he
    rw [Option.mem_toList] at he
    exact h.loaded e (List.mem_of_getElem? he)

end

theorem safe_initial : initial.Safe := by
  refine ⟨⟨?_, ?_, ?_, ?_, ?_⟩, ?_⟩ <;> simp [initial]

theorem safe_exec (acts : List Act) : (machine.exec acts initial).Safe :=
  machine.state_invariant (C := fun _ _ => True) (fun _ act h _ => safe_step act h) acts safe_initial
    (machine.meets_of_forall (fun _ _ => trivial) acts initial)

/-! ## While the fabric is stopped -/

/-- The epoch the handlers read. -/
def Site.serving (p : Site) : Option Nat := p.process.bind (·.epoch)

/-- The stages a startup or a second STOP goes through while the fabric is stopped. -/
def Stage.IsIdle (memory : Option Nat) (p : Site) : Stage → Prop
  | .readEpoch => True
  | .findLatch epoch => epoch = p.storedEpoch
  | .serve epoch _ => epoch = p.storedEpoch
  | .stop => memory = some p.storedEpoch
  | _ => False

/-- The fabric is stopped: the marker beside the KILL file names the stored epoch, which is the one in memory. -/
structure Site.Stopped (p : Site) (born : Nat) : Prop where
  latch : p.latch = some born
  marker : p.marker = some (some p.storedEpoch)
  memory : ∀ e, p.serving = some e → e = p.storedEpoch
  stage : ∀ q st, p.process = some q → q.stage = some st → st.IsIdle q.epoch p

section

variable {p : Site} {born : Nat}

/-- The leases from before the KILL file are fenced off while the fabric is stopped. -/
theorem Site.Stopped.fenced (h : p.Stopped born) (hs : p.Safe) : ∀ e ∈ p.issued.take born, e < p.storedEpoch :=
  ((hs.marker _ h.marker).2 rfl).fenced born h.latch

/-- A stage of a stopped fabric changes nothing. -/
theorem stopped_run {st : Stage} {memory : Option Nat} (h : p.Stopped born) (hs : p.Safe)
    (hq : p.process = some ⟨memory, some st⟩) (outcome : Outcome) : (st.run memory outcome p).2.Stopped born := by
  have hidle : st.IsIdle memory p := h.stage _ st hq rfl
  have hpositive := ((hs.marker _ h.marker).2 rfl).positive
  have hmem : ∀ e, memory = some e → e = p.storedEpoch := fun e he => h.memory e (by simp [Site.serving, hq, he])
  -- going on to another such stage
  have hgoes : ∀ stage : Option Stage, (∀ st, stage = some st → st.IsIdle memory p) → (p.goes stage).Stopped born := by
    intro stage hstage
    refine ⟨h.latch, h.marker, ?_, ?_⟩
    · intro e he
      simp only [Site.serving, Site.goes, hq, Option.map_some, Option.bind_some] at he
      exact hmem e he
    · intro q st' hq' hst'
      simp only [Site.goes, hq, Option.map_some, Option.some.injEq] at hq'
      subst hq'
      have := hstage st' hst'
      cases st' <;> exact this
  cases st with
  | readEpoch =>
    refine hgoes _ ?_
    rintro st ⟨⟩
    rw [if_neg (by omega)]
    exact rfl
  | findLatch epoch =>
    obtain rfl : epoch = p.storedEpoch := hidle
    refine hgoes _ ?_
    rintro st ⟨⟩
    rw [if_neg (by simp [h.marker])]
    exact rfl
  | serve epoch found =>
    refine ⟨h.latch, h.marker, ?_, ?_⟩
    · rintro e ⟨⟩
      exact hidle
    · rintro q st ⟨⟩ ⟨⟩
  | stop =>
    have hm : memory = some p.storedEpoch := hidle
    simp only [Stage.run]
    rw [if_pos (by simp [h.latch, h.marker, hm])]
    refine hgoes none ?_
    rintro st ⟨⟩
  | _ => cases hidle

/-- Until the owner resumes, every act leaves the fabric stopped. -/
theorem stopped_step {act : Act} (h : p.Stopped born) (hs : p.Safe) (hact : act ≠ .resume) : (step act p).2.Stopped born := by
  cases act with
  | start =>
    show (if p.process.isNone then _ else p).Stopped born
    split
    · refine ⟨h.latch, h.marker, ?_, ?_⟩
      · rintro e ⟨⟩
      · rintro q st ⟨⟩ ⟨⟩
        trivial
    · exact h
  | crash =>
    refine ⟨h.latch, h.marker, ?_, ?_⟩
    · rintro e ⟨⟩
    · rintro q st ⟨⟩
  | shellStop =>
    -- the latch is there already, with the birth it has
    have hsame : p.createLatch = p := by
      unfold Site.createLatch
      rw [h.latch, Option.getD_some, ← h.latch]
    show p.createLatch.Stopped born
    rw [hsame]
    exact h
  | stop =>
    show (p.takeGate .stop).Stopped born
    unfold Site.takeGate
    split
    · rename_i epoch hq
      have hepoch : epoch = p.storedEpoch := h.memory epoch (by simp [Site.serving, hq])
      refine ⟨h.latch, h.marker, ?_, ?_⟩
      · rintro e ⟨⟩
        exact hepoch
      · rintro q st ⟨⟩ ⟨⟩
        exact congrArg some hepoch
    · exact h
  | resume => exact absurd rfl hact
  | proceed outcome =>
    simp only [step]
    split
    · rename_i memory stage hq
      exact stopped_run h hs hq outcome
    · exact h
  | load => exact ⟨h.latch, h.marker, h.memory, fun q st hq hst => by
      have := h.stage q st hq hst
      cases st <;> exact this⟩
  | issue i => exact ⟨h.latch, h.marker, h.memory, fun q st hq hst => by
      have := h.stage q st hq hst
      cases st <;> exact this⟩

/-- A startup that finds the KILL file, and a `local_stop` that succeeds. -/
def Answer.stops : Answer → Bool
  | .serving found => found
  | .stopped _ => true

/-- They leave the fabric stopped. -/
theorem stopped_of_run {st : Stage} {memory : Option Nat} {outcome : Outcome} (hs : p.Safe)
    (hq : p.process = some ⟨memory, some st⟩) (ha : (st.run memory outcome p).1.any Answer.stops = true) :
    ∃ born, (st.run memory outcome p).2.Stopped born := by
  have hfits := hs.process _ hq
  have hknows : Knows memory p := hfits.memory
  have hst : st.Allowed memory p := hfits.stage st rfl
  -- the holder of the gate has answered
  have hgoes : ∀ epoch, memory = some epoch → p.latch ≠ none → p.marker = some (some epoch) → epoch = p.storedEpoch →
      ∃ born, (p.goes none).Stopped born := by
    intro epoch hm hl hmarker hepoch
    obtain ⟨born, hborn⟩ := Option.ne_none_iff_exists'.1 hl
    refine ⟨born, hborn, by rw [hepoch] at hmarker; exact hmarker, ?_, ?_⟩
    · intro e he
      simp only [Site.serving, Site.goes, hq, Option.map_some, Option.bind_some, hm, Option.some.injEq] at he
      exact he ▸ hepoch
    · intro q st hq' hst'
      simp only [Site.goes, hq, Option.map_some, Option.some.injEq] at hq'
      subst hq'
      cases hst'
  cases st with
  | serve epoch found =>
    obtain rfl : found = true := ha
    obtain ⟨hepoch, hfound⟩ := hst
    obtain ⟨hl, hm⟩ := hfound rfl
    obtain ⟨born, hborn⟩ := Option.ne_none_iff_exists'.1 hl
    refine ⟨born, hborn, by rw [hepoch] at hm; exact hm, ?_, ?_⟩
    · rintro e ⟨⟩
      exact hepoch
    · rintro q st ⟨⟩ ⟨⟩
  | stop =>
    simp only [Stage.run] at ha ⊢
    split at ha
    · rename_i hdup
      rw [if_pos hdup]
      rw [Bool.and_eq_true, Option.any_eq_true] at hdup
      obtain ⟨hl, epoch, hm, hmarker⟩ := hdup
      have hmarker' : p.marker = some (some epoch) := Option.join_eq_some_iff.1 (by simpa using hmarker)
      exact hgoes epoch hm (Option.isSome_iff_ne_none.1 hl) hmarker' ((hknows epoch hm).2 hmarker')
    · simp at ha
  | recordStop epoch =>
    obtain ⟨hm, hstands, hmarker⟩ := hst
    cases outcome with
    | done => exact hgoes epoch hm hstands.latch hmarker hstands.stored
    | _ => cases ha
  | createLatch | removeMarker | removeLatch =>
    simp only [Stage.run] at ha
    split at ha <;> simp at ha
  | _ => simp [Stage.run] at ha

theorem stopped_of_answer {act : Act} (hs : p.Safe) (ha : (step act p).1.any Answer.stops = true) :
    ∃ born, (step act p).2.Stopped born := by
  cases act with
  | proceed outcome =>
    rcases hq : p.process with _ | ⟨memory, _ | st⟩
    · simp [step, hq] at ha
    · simp [step, hq] at ha
    · simp only [step, hq] at ha ⊢
      exact stopped_of_run hs hq ha
  | _ => cases ha

/-- From a stopped fabric, until the owner resumes. -/
theorem stopped_exec : ∀ (acts : List Act) {p : Site}, p.Stopped born → p.Safe → .resume ∉ acts →
    (machine.exec acts p).Stopped born
  | [], _, h, _, _ => h
  | act :: acts, _, h, hs, hno => by
    rw [List.mem_cons, not_or] at hno
    exact stopped_exec acts (stopped_step h hs (Ne.symm hno.1)) (safe_step act hs) hno.2

end

/-- After every startup that finds the KILL file and after every `local_stop` that succeeds, until the next resume and
whatever crashes and restarts happen, the KILL file is the same one, the epoch in the memory of a controller that serves
is the stored one, and every lease issued before that KILL file came into existence is older. -/
theorem stop_fences_old_leases (before : List Act) (act : Act) (after : List Act)
    (hstop : (step act (machine.exec before initial)).1.any Answer.stops = true) (hresume : .resume ∉ after) :
    ∃ born, (step act (machine.exec before initial)).2.latch = some born ∧
      (machine.exec (before ++ act :: after) initial).latch = some born ∧
      ∀ epoch, (machine.exec (before ++ act :: after) initial).serving = some epoch →
        epoch = (machine.exec (before ++ act :: after) initial).storedEpoch ∧
        ∀ e ∈ (machine.exec (before ++ act :: after) initial).issued.take born, e < epoch := by
  have hsafe := safe_exec before
  obtain ⟨born, hstopped⟩ := stopped_of_answer hsafe hstop
  have hafter : (machine.exec (before ++ act :: after) initial).Stopped born := by
    rw [Machine.exec_append]
    exact stopped_exec after hstopped (safe_step act hsafe) hresume
  refine ⟨born, hstopped.latch, hafter.latch, ?_⟩
  intro epoch hepoch
  have hstored := hafter.memory epoch hepoch
  refine ⟨hstored, ?_⟩
  rw [hstored]
  exact hafter.fenced (safe_exec _)

/-- A startup on a fresh data directory, and a lease issued at its first epoch. -/
def issuing : List Act :=
  [.start, .proceed .done, .proceed .done, .proceed .done, .proceed .done, .load, .issue 0]

/-- The shell stops the fabric; the STOP it posts is cut short while it writes the marker, and the next startup once it
has advanced the epoch. The startup after that finds the KILL file. -/
def crashing : List Act :=
  issuing ++ [.shellStop, .stop, .proceed .done, .proceed .done, .proceed .done, .proceed .done, .proceed .done,
    .proceed (.torn 1), .crash, .start, .proceed .done, .proceed .done, .proceed .done, .crash, .start, .proceed .done,
    .proceed .done, .proceed .done, .proceed .done, .proceed .done, .proceed .done]

theorem stop_fences_old_leases_crashing :
    (step (.proceed .done) (machine.exec crashing initial)).1.any Answer.stops = true ∧
    (machine.exec (crashing ++ .proceed .done :: [.stop, .proceed .done]) initial).serving = some 4 ∧
    ∃ born, (machine.exec (crashing ++ .proceed .done :: [.stop, .proceed .done]) initial).latch = some born ∧
      4 = (machine.exec (crashing ++ .proceed .done :: [.stop, .proceed .done]) initial).storedEpoch ∧
      ∀ e ∈ (machine.exec (crashing ++ .proceed .done :: [.stop, .proceed .done]) initial).issued.take born, e < 4 := by
  have hstop : (step (.proceed .done) (machine.exec crashing initial)).1.any Answer.stops = true := by decide +kernel
  have hserving : (machine.exec (crashing ++ .proceed .done :: [.stop, .proceed .done]) initial).serving = some 4 := by
    decide +kernel
  obtain ⟨born, _, hborn, hfenced⟩ :=
    stop_fences_old_leases crashing (.proceed .done) [.stop, .proceed .done] hstop (by decide)
  exact ⟨hstop, hserving, born, hborn, hfenced 4 hserving⟩

/-- The lease was issued before. -/
example : (machine.exec crashing initial).issued = [1] := by decide +kernel

end Rampage.Controller.Crash
