/-
The classification of changed paths, up to spelling. Letter case and the direction of slashes never matter, and more paths
never lower the class. A `Cargo.toml` is not recognized: the paths are lower-cased before they are compared with this name, so a
list with one is a protected change only for another reason (`classifies_soundly_iff`).
-/
import Rampage.Intelligence.Promotion

namespace Rampage.Governor

open Rampage.Protocol Rampage.Intelligence

/-! ## Spelling -/

/-- Two spellings of a character: the case of an ASCII letter and the direction of a slash are free. -/
def SameSpelling (c d : Char) : Prop :=
  toAsciiLowercase c = toAsciiLowercase d ∨ (c = '/' ∨ c = '\\') ∧ (d = '/' ∨ d = '\\')

/-- One path is a spelling of another. -/
def Respelled (path path' : String) : Prop := List.Forall₂ SameSpelling path.toList path'.toList

/-- The last characters of a path are a name, in any letter case. -/
def EndsInAnyCase (name path : String) : Prop :=
  ∃ init last, path.toList = init ++ last ∧ last.map toAsciiLowercase = name.toList

/-- What a path is normalised to, character by character. -/
def normalizeChar (c : Char) : Char := toAsciiLowercase (if c = '\\' then '/' else c)

theorem normalizePath_eq (path : String) : normalizePath path = path.toList.map normalizeChar := rfl

theorem toNat_toAsciiLowercase (c : Char) :
    (toAsciiLowercase c).toNat = if 65 ≤ c.toNat ∧ c.toNat ≤ 90 then c.toNat + 32 else c.toNat := by
  have hsmall : ∀ n < 91, 65 ≤ n → (Char.ofNat (n + 32)).toNat = n + 32 := by decide
  unfold toAsciiLowercase
  split
  · rename_i h
    exact hsmall _ (by omega) h.1
  · rfl

/-- No letter is lower-cased to a character that is none of the small ones. -/
theorem eq_of_toAsciiLowercase {c d : Char} (h : toAsciiLowercase c = d) (hd : d.toNat < 97 ∨ 122 < d.toNat) : c = d := by
  have hn := congrArg Char.toNat h
  rw [toNat_toAsciiLowercase] at hn
  apply Char.toNat_inj.1
  split at hn
  · omega
  · exact hn

theorem not_capital (c : Char) : ¬ (65 ≤ (toAsciiLowercase c).toNat ∧ (toAsciiLowercase c).toNat ≤ 90) := by
  rw [toNat_toAsciiLowercase]
  split
  · omega
  · assumption

theorem normalizeChar_congr {c d : Char} (h : SameSpelling c d) : normalizeChar c = normalizeChar d := by
  unfold normalizeChar
  rcases h with h | ⟨hc, hd⟩
  · by_cases hc : c = '\\'
    · have hd : d = '\\' := eq_of_toAsciiLowercase (h.symm.trans (by rw [hc]; rfl)) (.inl (by decide))
      rw [hc, hd]
    · have hd : d ≠ '\\' := by
        rintro rfl
        exact hc (eq_of_toAsciiLowercase (h.trans rfl) (.inl (by decide)))
      rw [if_neg hc, if_neg hd, h]
  · rcases hc with rfl | rfl <;> rcases hd with rfl | rfl <;> rfl

/-- Maps agree on related lists if they do on related members. -/
theorem map_eq_of_forall₂ {α β : Type} {R : α → α → Prop} {f : α → β} (hf : ∀ a b, R a b → f a = f b) :
    ∀ {l l' : List α}, List.Forall₂ R l l' → l.map f = l'.map f
  | _, _, .nil => rfl
  | _, _, .cons h hs => by rw [List.map_cons, List.map_cons, hf _ _ h, map_eq_of_forall₂ hf hs]

/-- The spellings of a path are normalised to the same. -/
theorem normalizePath_congr {path path' : String} (h : Respelled path path') : normalizePath path = normalizePath path' := by
  rw [normalizePath_eq, normalizePath_eq]
  exact map_eq_of_forall₂ (fun _ _ hc => normalizeChar_congr hc) h

/-- A name without backslashes is found at the end of the normalised path, whatever its case. -/
theorem endsWith_of_anyCase {name path : String} (hname : '\\' ∉ name.toList) (h : EndsInAnyCase name path) :
    endsWith name.toList (normalizePath path) = true := by
  obtain ⟨init, last, hpath, hlast⟩ := h
  have hnormal : last.map normalizeChar = name.toList := by
    rw [← hlast]
    refine List.map_congr_left fun c hc => ?_
    have hne : c ≠ '\\' := by
      rintro rfl
      refine hname ?_
      rw [← hlast]
      exact List.mem_map.2 ⟨_, hc, rfl⟩
    unfold normalizeChar
    rw [if_neg hne]
  rw [endsWith_iff, normalizePath_eq, hpath, List.map_append, hnormal]
  exact List.suffix_append _ _

/-- No normalised path ends in a name with a capital letter. -/
theorem endsWith_capital {name : List Char} (path : String) (h : ∃ c ∈ name, 65 ≤ c.toNat ∧ c.toNat ≤ 90) :
    endsWith name (normalizePath path) = false := by
  obtain ⟨c, hc, hcapital⟩ := h
  rw [← Bool.not_eq_true, endsWith_iff]
  intro hsuffix
  obtain ⟨d, -, rfl⟩ := List.mem_map.1 (hsuffix.subset hc)
  exact not_capital _ hcapital

/-! ## Classes -/

/-- A path that is protected whatever the list: authority critical, a Python or Node manifest, a migration or a contract. -/
def namesProtected (path : List Char) : Bool :=
  isAuthorityCritical path || endsWith "pyproject.toml".toList path || endsWith "package.json".toList path ||
    containsText "/migrations/".toList path || startsWith "contracts/".toList path

theorem namesProtected_eq (path : String) :
    (isAuthorityCritical (normalizePath path) || isProtectedChange (normalizePath path)) = namesProtected (normalizePath path) := by
  have hcargo : endsWith "Cargo.toml".toList (normalizePath path) = false := endsWith_capital path ⟨'C', by decide, by decide⟩
  unfold isProtectedChange namesProtected
  rw [hcargo]
  simp only [Bool.or_false, Bool.or_assoc]

/-- A list is a protected change exactly if one of its paths is protected. -/
theorem protected_iff (paths : List String) :
    2 ≤ riskRank (classifyPromotionPaths paths) ↔ ∃ path ∈ paths, namesProtected (normalizePath path) = true := by
  have hany : (∃ path ∈ paths, namesProtected (normalizePath path) = true) ↔
      (paths.map normalizePath).any isAuthorityCritical = true ∨ (paths.map normalizePath).any isProtectedChange = true := by
    rw [List.any_map, List.any_map, List.any_eq_true, List.any_eq_true, ← exists_or]
    refine exists_congr fun path => ?_
    rw [← and_or_left, ← namesProtected_eq, Bool.or_eq_true]
    rfl
  rw [hany, classifyPromotionPaths_eq]
  unfold classifyNormalized
  by_cases hcritical : (paths.map normalizePath).any isAuthorityCritical = true
  · rw [if_pos hcritical]
    exact ⟨fun _ => .inl hcritical, fun _ => Nat.le_succ 2⟩
  rw [if_neg hcritical]
  by_cases hprotected : (paths.map normalizePath).any isProtectedChange = true
  · rw [if_pos hprotected]
    exact ⟨fun _ => .inr hprotected, fun _ => Nat.le_refl 2⟩
  rw [if_neg hprotected]
  refine ⟨fun h => ?_, fun h => (h.elim hcritical hprotected).elim⟩
  split at h <;> exact absurd h (by decide)

/-- More paths never lower the class. -/
theorem classifyNormalized_mono {isProtected : List Char → Bool} {paths paths' : List (List Char)} (h : paths ⊆ paths') :
    riskRank (classifyNormalized isProtected paths) ≤ riskRank (classifyNormalized isProtected paths') := by
  have hany : ∀ p : List Char → Bool, paths.any p = true → paths'.any p = true := fun p hp => by
    obtain ⟨path, hpath, hp⟩ := List.any_eq_true.1 hp
    exact List.any_eq_true.2 ⟨path, h hpath, hp⟩
  have hall : paths'.all isConfiguration = true → paths.all isConfiguration = true := fun hc =>
    List.all_eq_true.2 fun path hpath => List.all_eq_true.1 hc path (h hpath)
  have hle : ∀ risk, riskRank risk ≤ 3 := by
    intro risk
    cases risk <;> decide
  unfold classifyNormalized
  by_cases hcritical : paths.any isAuthorityCritical = true
  · rw [if_pos hcritical, if_pos (hany _ hcritical)]
  rw [if_neg hcritical]
  by_cases hcritical' : paths'.any isAuthorityCritical = true
  · rw [if_pos hcritical']
    exact hle _
  rw [if_neg hcritical']
  by_cases hprotected : paths.any isProtected = true
  · rw [if_pos hprotected, if_pos (hany _ hprotected)]
  rw [if_neg hprotected]
  have hlow : riskRank (if paths.all isConfiguration = true then .r0Configuration else .r1AllowlistedSource) ≤ 1 := by
    split <;> decide
  by_cases hprotected' : paths'.any isProtected = true
  · rw [if_pos hprotected']
    exact hlow.trans (by decide)
  rw [if_neg hprotected']
  by_cases hconfig : paths'.all isConfiguration = true
  · rw [if_pos hconfig, if_pos (hall hconfig)]
  · rw [if_neg hconfig]
    exact hlow

/-- The class of a list does not depend on spelling, does not fall with more paths, and is protected with a manifest. -/
structure ClassifiesSoundly (paths : List String) : Prop where
  respelled : ∀ paths', List.Forall₂ Respelled paths paths' → classifyPromotionPaths paths' = classifyPromotionPaths paths
  grows : ∀ paths', paths ⊆ paths' → riskRank (classifyPromotionPaths paths) ≤ riskRank (classifyPromotionPaths paths')
  manifests : (∃ path ∈ paths, ∃ name ∈ ["cargo.toml", "pyproject.toml", "package.json"], EndsInAnyCase name path) →
    2 ≤ riskRank (classifyPromotionPaths paths)

/-- A list of paths is classified soundly exactly if it has no `Cargo.toml` or is protected anyway. -/
theorem classifies_soundly_iff (paths : List String) : ClassifiesSoundly paths ↔
    ((∃ path ∈ paths, EndsInAnyCase "cargo.toml" path) → ∃ path ∈ paths, namesProtected (normalizePath path) = true) := by
  constructor
  · rintro h ⟨path, hpath, hcargo⟩
    exact (protected_iff paths).1 (h.manifests ⟨path, hpath, "cargo.toml", by decide, hcargo⟩)
  · intro hcargo
    refine ⟨fun paths' h => ?_, fun paths' h => ?_, ?_⟩
    · have hnormal := map_eq_of_forall₂ (fun _ _ hp => normalizePath_congr hp) h
      rw [classifyPromotionPaths_eq, classifyPromotionPaths_eq, hnormal]
    · rw [classifyPromotionPaths_eq, classifyPromotionPaths_eq]
      exact classifyNormalized_mono (List.map_subset _ h)
    · rintro ⟨path, hpath, name, hname, hends⟩
      rw [protected_iff]
      rcases List.mem_cons.1 hname with rfl | hname
      · exact hcargo ⟨path, hpath, hends⟩
      · refine ⟨path, hpath, ?_⟩
        unfold namesProtected
        simp only [Bool.or_eq_true]
        rcases List.mem_cons.1 hname with rfl | hname
        · exact .inl (.inl (.inl (.inr (endsWith_of_anyCase (by decide) hends))))
        · rw [List.mem_singleton.1 hname] at hends
          exact .inl (.inl (.inr (endsWith_of_anyCase (by decide) hends)))

/-- A `Cargo.toml` alone is allowlisted source. -/
theorem cargo_manifest_is_source :
    ¬ ∀ paths : List String, paths ≠ [] → (∀ path ∈ paths, isAscii path = true) → ClassifiesSoundly paths := by
  intro hall
  have hrank : riskRank (classifyPromotionPaths ["Cargo.toml"]) = 1 := by decide +kernel
  have hsound := (hall ["Cargo.toml"] (by decide) (by decide +kernel)).manifests
    ⟨"Cargo.toml", List.mem_singleton_self _, "cargo.toml", by decide, [], "Cargo.toml".toList, rfl, by decide +kernel⟩
  rw [hrank] at hsound
  exact absurd hsound (by decide)

end Rampage.Governor
