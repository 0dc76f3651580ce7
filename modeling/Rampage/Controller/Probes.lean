/-
`select_replica_probes`: the stale replicas a reconciliation cycle asks for proof. The worklist is read from the cursor
on, round the end, and takes what fits in four probes and 128 MiB. The cursor moves by four each cycle whatever was
taken, so that a list whose length is a multiple of four is only ever read from its own multiples of four. Every replica
of such a list is probed exactly if each four of them fit in one cycle (`probing_is_fair_iff`): whatever is left out of its
own four can only be made up for by a cycle that leaves out something larger.
-/
import Rampage.Lib.Budget
import Rampage.Protocol.Contracts
import Mathlib.Data.List.Rotate
import Mathlib.Data.Finset.Card
import Mathlib.Data.Finset.Dedup
import Mathlib.Data.Finset.Max
import Mathlib.Tactic.IntervalCases

namespace Rampage.Controller

open Rampage.Protocol

/-- An entry of the artifact replicas: a digest, the node that is recorded to hold it, and the artifact. -/
structure Replica where
  digest : String
  nodeId : Uuid
  artifact : ArtifactRefV1
deriving DecidableEq

/-- The key of the entry. -/
def Replica.key (r : Replica) : String × Uuid := (r.digest, r.nodeId)

/-- What a probe of the replica reads, in bytes. -/
def Replica.size (r : Replica) : Nat := r.artifact.sizeBytes

/-- The most probes in one cycle. -/
def maxReplicaProbesPerCycle : Nat := 4

/-- The most bytes that the probes of one cycle read. -/
def maxReplicaVerificationBytesPerCycle : Nat := 128 * 1024 * 1024

/-- The loop of `select_replica_probes`. A sum that overflows a `u64` is above the limit too. -/
def probeLoop : List Replica → Nat → Finset (String × Uuid) → Finset (String × Uuid)
  | [], _, selected => selected
  | candidate :: rest, bytes, selected =>
    if maxReplicaProbesPerCycle ≤ selected.card then selected
    else if maxReplicaVerificationBytesPerCycle < bytes + candidate.size ∧ selected ≠ ∅ then probeLoop rest bytes selected
    else probeLoop rest (bytes + candidate.size) (insert candidate.key selected)

/-- `select_replica_probes`: the candidates from the start on are the list rotated. -/
def selectReplicaProbes (candidates : List Replica) (cursor : Nat) : Finset (String × Uuid) :=
  if candidates = [] then ∅ else probeLoop (candidates.rotate (cursor % candidates.length)) 0 ∅

/-! ## What is selected -/

/-- What fits in the bytes of a cycle. -/
def pickReplicas : List Replica → Nat → Nat → List Replica := Budget.pick Replica.size maxReplicaVerificationBytesPerCycle

theorem probeLoop_eq : ∀ (l : List Replica) (bytes : Nat) (selected : Finset (String × Uuid)), selected ≠ ∅ →
    (l.map Replica.key).Nodup → (∀ c ∈ l, c.key ∉ selected) →
      probeLoop l bytes selected = selected ∪ ((pickReplicas l (4 - selected.card) bytes).map Replica.key).toFinset
  | [], bytes, selected, _, _, _ => by
    simp [probeLoop, pickReplicas, Budget.pick]
  | c :: l, bytes, selected, hne, hn, hnew => by
    rw [List.map_cons, List.nodup_cons] at hn
    have hrest : ∀ d ∈ l, d.key ∉ selected := fun d hd => hnew d (List.mem_cons_of_mem _ hd)
    rw [probeLoop]
    -- the loop ends with four selected
    by_cases hfull : maxReplicaProbesPerCycle ≤ selected.card
    · have hzero : 4 - selected.card = 0 := Nat.sub_eq_zero_of_le hfull
      rw [if_pos hfull, hzero, pickReplicas, Budget.pick_zero]
      simp
    rw [if_neg hfull]
    obtain ⟨m, hm⟩ : ∃ m, 4 - selected.card = m + 1 := by
      have : selected.card < 4 := Nat.not_le.1 hfull
      exact ⟨3 - selected.card, by omega⟩
    rw [hm, pickReplicas, Budget.pick]
    by_cases hlarge : maxReplicaVerificationBytesPerCycle < bytes + c.size
    · rw [if_pos ⟨hlarge, hne⟩, if_neg (Nat.not_le.2 hlarge), ← hm]
      exact probeLoop_eq l bytes selected hne hn.2 hrest
    · rw [if_neg fun h => hlarge h.1, if_pos (Nat.not_lt.1 hlarge)]
      have hcard : 4 - (insert c.key selected).card = m := by
        rw [Finset.card_insert_of_notMem (hnew c (List.mem_cons_self ..))]
        omega
      have hdisjoint : ∀ d ∈ l, d.key ∉ insert c.key selected := by
        intro d hd hin
        rcases Finset.mem_insert.1 hin with hkey | hin
        · exact hn.1 (hkey ▸ List.mem_map_of_mem hd)
        · exact hrest d hd hin
      rw [probeLoop_eq l _ (insert c.key selected) (Finset.insert_ne_empty _ _) hn.2 hdisjoint, hcard, pickReplicas,
        List.map_cons, List.toFinset_cons, Finset.insert_union, Finset.union_insert]

/-- The replicas a cycle probes, in the order they are taken: the first one whatever its size, and three more. -/
def probed (candidates : List Replica) (cursor : Nat) : List Replica :=
  match candidates.rotate cursor with
  | [] => []
  | first :: rest => first :: pickReplicas rest 3 first.size

section

variable {candidates : List Replica} (hn : (candidates.map Replica.key).Nodup)

include hn

theorem selectReplicaProbes_eq (cursor : Nat) :
    selectReplicaProbes candidates cursor = ((probed candidates cursor).map Replica.key).toFinset := by
  unfold selectReplicaProbes probed
  by_cases hnil : candidates = []
  · rw [if_pos hnil, hnil]
    rfl
  rw [if_neg hnil, List.rotate_mod]
  have hkeys : ((candidates.rotate cursor).map Replica.key).Nodup := by
    rw [List.map_rotate, List.nodup_rotate]
    exact hn
  cases hr : candidates.rotate cursor with
  | nil => exact absurd (List.rotate_eq_nil_iff.1 hr) hnil
  | cons first rest =>
    rw [hr, List.map_cons, List.nodup_cons] at hkeys
    have hdisjoint : ∀ d ∈ rest, d.key ∉ ({first.key} : Finset (String × Uuid)) := by
      intro d hd hin
      exact hkeys.1 (Finset.mem_singleton.1 hin ▸ List.mem_map_of_mem hd)
    -- with nothing selected yet the first replica is taken whatever its size
    have hloop : probeLoop (first :: rest) 0 ∅ = probeLoop rest (0 + first.size) (insert first.key ∅) := by
      rw [probeLoop, if_neg (by decide), if_neg fun h => h.2 rfl]
    rw [hloop, Nat.zero_add, insert_empty_eq, probeLoop_eq rest _ _ (Finset.singleton_ne_empty _) hkeys.2 hdisjoint,
      List.map_cons, List.toFinset_cons]
    rfl

omit hn in
theorem probed_subset (cursor : Nat) : ∀ c ∈ probed candidates cursor, c ∈ candidates := by
  intro c hc
  unfold probed at hc
  split at hc
  · cases hc
  · rename_i first rest hr
    have hmem : c ∈ first :: rest := by
      rcases List.mem_cons.1 hc with rfl | hc
      · exact List.mem_cons_self ..
      · exact List.mem_cons_of_mem _ ((Budget.pick_sublist ..).subset hc)
    rw [← hr] at hmem
    exact List.mem_rotate.1 hmem

/-- A candidate is selected if the worklist takes it. -/
theorem mem_selectReplicaProbes {c : Replica} (hc : c ∈ candidates) (cursor : Nat) :
    c.key ∈ selectReplicaProbes candidates cursor ↔ c ∈ probed candidates cursor := by
  rw [selectReplicaProbes_eq hn, List.mem_toFinset]
  constructor
  · intro h
    obtain ⟨d, hd, hkey⟩ := List.mem_map.1 h
    rw [← List.inj_on_of_nodup_map hn (probed_subset cursor d hd) hc hkey]
    exact hd
  · exact fun h => List.mem_map_of_mem h

end

/-- Read from its first entry on, the worklist takes this replica: it is the first one, the first later one that fits in
what is left of the bytes, or one of the two that are taken after that in the same way. -/
def IsProbed (worklist : List Replica) (c : Replica) : Prop :=
  ∃ first rest, worklist = first :: rest ∧
    (c = first ∨ Budget.Chosen Replica.size maxReplicaVerificationBytesPerCycle 3 first.size rest c)

theorem mem_probed_iff {candidates : List Replica} {cursor : Nat} {c : Replica} :
    c ∈ probed candidates cursor ↔ IsProbed (candidates.rotate cursor) c := by
  unfold probed IsProbed
  cases candidates.rotate cursor with
  | nil => simp
  | cons first rest =>
    rw [List.mem_cons, pickReplicas, Budget.mem_pick_iff]
    constructor
    · exact fun h => ⟨first, rest, rfl, h⟩
    · rintro ⟨_, _, ⟨rfl, rfl⟩, h⟩
      exact h

/-! ## The bounds of a cycle -/

/-- The bytes of the candidates with a selected key. -/
def selectedBytes (candidates : List Replica) (selected : Finset (String × Uuid)) : Nat :=
  ((candidates.filter fun c => c.key ∈ selected).map Replica.size).sum

theorem length_probed_le (candidates : List Replica) (cursor : Nat) : (probed candidates cursor).length ≤ 4 := by
  unfold probed
  split
  · exact Nat.zero_le 4
  · exact Nat.succ_le_succ (Budget.length_pick_le _ 3 _)

/-- The bytes are within the limit, or a single replica is above it. -/
theorem sum_probed_le (candidates : List Replica) (cursor : Nat) :
    ((probed candidates cursor).map Replica.size).sum ≤ maxReplicaVerificationBytesPerCycle ∨
      (probed candidates cursor).length = 1 := by
  unfold probed
  split
  · exact Or.inl (Nat.zero_le _)
  · rename_i first rest _
    by_cases hfits : first.size ≤ maxReplicaVerificationBytesPerCycle
    · left
      rw [List.map_cons, List.sum_cons]
      exact Budget.sum_pick_le rest 3 first.size hfits
    · right
      rw [pickReplicas, Budget.pick_of_lt rest 3 (Nat.not_le.1 hfits)]
      rfl

section

variable {candidates : List Replica} (hn : (candidates.map Replica.key).Nodup)

include hn

theorem nodup_probed (cursor : Nat) : ((probed candidates cursor).map Replica.key).Nodup := by
  have hkeys : ((candidates.rotate cursor).map Replica.key).Nodup := by
    rw [List.map_rotate, List.nodup_rotate]
    exact hn
  unfold probed
  split
  · exact List.nodup_nil
  · rename_i first rest hr
    rw [hr] at hkeys
    exact hkeys.sublist (((Budget.pick_sublist rest 3 _).cons_cons first).map Replica.key)

/-- The candidates with a selected key are the probed ones. -/
theorem filter_selected_perm (cursor : Nat) :
    (candidates.filter fun c => c.key ∈ selectReplicaProbes candidates cursor).Perm (probed candidates cursor) := by
  rw [List.perm_ext_iff_of_nodup ((List.Nodup.of_map _ hn).filter _) (List.Nodup.of_map _ (nodup_probed hn cursor))]
  intro c
  rw [List.mem_filter, decide_eq_true_eq]
  constructor
  · rintro ⟨hc, hsel⟩
    exact (mem_selectReplicaProbes hn hc cursor).1 hsel
  · intro hc
    have hmem := probed_subset cursor c hc
    exact ⟨hmem, (mem_selectReplicaProbes hn hmem cursor).2 hc⟩

theorem card_selectReplicaProbes (cursor : Nat) :
    (selectReplicaProbes candidates cursor).card = (probed candidates cursor).length := by
  rw [selectReplicaProbes_eq hn, List.toFinset_card_of_nodup (nodup_probed hn cursor), List.length_map]

theorem selectedBytes_eq (cursor : Nat) : selectedBytes candidates (selectReplicaProbes candidates cursor) =
    ((probed candidates cursor).map Replica.size).sum :=
  ((filter_selected_perm hn cursor).map Replica.size).sum_eq

end

/-! ## Fairness -/

/-- No artifact is larger than a transfer may be. -/
def AreTransferable (candidates : List Replica) : Prop := ∀ c ∈ candidates, c.size ≤ 64 * 1024 * 1024

instance (candidates : List Replica) : Decidable (AreTransferable candidates) :=
  inferInstanceAs (Decidable (∀ c ∈ candidates, c.size ≤ 64 * 1024 * 1024))

/-- The worklist from a position on. -/
theorem rotate_of_lt {candidates : List Replica} {i : Nat} (hi : i < candidates.length) :
    candidates.rotate i = candidates[i] :: (candidates.drop (i + 1) ++ candidates.take i) := by
  rw [List.rotate_eq_drop_append_take (Nat.le_of_lt hi), List.drop_eq_getElem_cons hi, List.cons_append]

/-- A start that the cursor reaches. -/
theorem rotate_of_gcd_dvd {candidates : List Replica} {i : Nat} (hi : i < candidates.length)
    (hdvd : Nat.gcd 4 candidates.length ∣ i) : ∃ n, candidates.rotate (4 * n) = candidates.rotate i := by
  obtain ⟨n, hmod⟩ := Stride.exists_mul_mod_eq hi hdvd
  exact ⟨n, by rw [← List.rotate_mod, hmod]⟩

/-- A start of the worklist that fits in the bytes of a cycle is probed. -/
theorem probed_of_fits {candidates first rest : List Replica} {cursor : Nat} (hrotate : candidates.rotate cursor = first ++ rest)
    (hlen : first.length ≤ 4) (hfits : (first.map Replica.size).sum ≤ maxReplicaVerificationBytesPerCycle) :
    ∀ c ∈ first, c ∈ probed candidates cursor := by
  intro c hc
  unfold probed
  cases first with
  | nil => cases hc
  | cons head tail =>
    rw [hrotate, List.cons_append]
    rw [List.map_cons, List.sum_cons] at hfits
    have htail : pickReplicas (tail ++ rest) 3 head.size =
        tail ++ pickReplicas rest (3 - tail.length) (head.size + (tail.map Replica.size).sum) :=
      Budget.pick_append_of_fits hfits (Nat.le_of_succ_le_succ hlen)
    dsimp only
    rw [htail, ← List.cons_append]
    exact List.mem_append_left _ hc

/-- Unless the length is a multiple of four, every replica is the first or the second from some multiple of four. -/
theorem probed_of_length {candidates : List Replica} (hsize : AreTransferable candidates)
    (hlen : candidates.length % 4 ≠ 0) : ∀ c ∈ candidates, ∃ n, c ∈ probed candidates (4 * n) := by
  intro c hc
  obtain ⟨i, hi, rfl⟩ := List.getElem_of_mem hc
  by_cases hdvd : Nat.gcd 4 candidates.length ∣ i
  · obtain ⟨n, hn⟩ := rotate_of_gcd_dvd hi hdvd
    have hfirst : candidates.rotate (4 * n) = [candidates[i]] ++ (candidates.drop (i + 1) ++ candidates.take i) :=
      hn.trans (rotate_of_lt hi)
    refine ⟨n, probed_of_fits hfirst (by simp) ?_ _ List.mem_cons_self⟩
    have := hsize _ (List.getElem_mem hi)
    simp only [List.map_cons, List.map_nil, List.sum_cons, List.sum_nil, maxReplicaVerificationBytesPerCycle]
    omega
  · -- the divisor is two, and the replica before this one is a start
    have hgcd : Nat.gcd 4 candidates.length = 2 := by
      have h4 : Nat.gcd 4 candidates.length ∣ 4 := Nat.gcd_dvd_left 4 _
      have hlength : Nat.gcd 4 candidates.length ∣ candidates.length := Nat.gcd_dvd_right 4 _
      have hle : Nat.gcd 4 candidates.length ≤ 4 := Nat.le_of_dvd (by decide) h4
      generalize Nat.gcd 4 candidates.length = g at *
      interval_cases g
      · omega
      · exact absurd (one_dvd i) hdvd
      · rfl
      · omega
      · omega
    rw [hgcd] at hdvd
    have hprev : i - 1 < candidates.length := by omega
    obtain ⟨n, hn⟩ := rotate_of_gcd_dvd hprev (by rw [hgcd]; omega)
    have hnext : candidates.rotate (4 * n) =
        [candidates[i - 1], candidates[i]] ++ (candidates.drop (i + 1) ++ candidates.take (i - 1)) := by
      rw [hn, rotate_of_lt hprev, Nat.sub_add_cancel (by omega), List.drop_eq_getElem_cons hi]
      rfl
    -- two replicas that can be transferred fit in one cycle, so the second of the start is taken too
    refine ⟨n, probed_of_fits hnext (by simp) ?_ _ (List.mem_cons_of_mem _ List.mem_cons_self)⟩
    have h1 := hsize _ (List.getElem_mem hprev)
    have h2 := hsize _ (List.getElem_mem hi)
    simp only [List.map_cons, List.map_nil, List.sum_cons, List.sum_nil, maxReplicaVerificationBytesPerCycle]
    omega

/-! ## Fours -/

/-- Four replicas, from a multiple of four on. -/
def four (candidates : List Replica) (i : Nat) : List Replica := (candidates.drop (4 * i)).take 4

/-- Every four replicas from a multiple of four on fit in the bytes of one cycle. -/
def FoursFit (candidates : List Replica) : Prop :=
  ∀ i < candidates.length / 4, ((four candidates i).map Replica.size).sum ≤ maxReplicaVerificationBytesPerCycle

instance (candidates : List Replica) : Decidable (FoursFit candidates) :=
  inferInstanceAs (Decidable (∀ i < candidates.length / 4, _ ≤ _))

section

variable {candidates : List Replica} {c : Replica} {i k : Nat}

theorem length_four (hi : i < candidates.length / 4) : (four candidates i).length = 4 := by
  rw [four, List.length_take, List.length_drop]
  omega

/-- From a multiple of four on the worklist starts with a four. -/
theorem rotate_four (hi : i < candidates.length / 4) :
    candidates.rotate (4 * i) = four candidates i ++ ((candidates.drop (4 * i)).drop 4 ++ candidates.take (4 * i)) := by
  rw [List.rotate_eq_drop_append_take (by omega), four, ← List.append_assoc, List.take_append_drop]

theorem mem_four_iff : c ∈ four candidates i ↔ ∃ r < 4, candidates[4 * i + r]? = some c := by
  rw [four, List.mem_iff_getElem?]
  constructor
  · rintro ⟨r, hr⟩
    rw [List.getElem?_take] at hr
    split at hr
    · rename_i hlt
      rw [List.getElem?_drop] at hr
      exact ⟨r, hlt, hr⟩
    · cases hr
  · rintro ⟨r, hlt, hr⟩
    exact ⟨r, by rw [List.getElem?_take, if_pos hlt, List.getElem?_drop, hr]⟩

/-- The fours are disjoint. -/
theorem four_unique (hn : candidates.Nodup) (hi : c ∈ four candidates i) (hk : c ∈ four candidates k) : i = k := by
  obtain ⟨r, hr, hri⟩ := mem_four_iff.1 hi
  obtain ⟨r', hr', hrk⟩ := mem_four_iff.1 hk
  have heq := (List.getElem?_inj (List.getElem?_eq_some_iff.1 hri).1 hn).1 (hri.trans hrk.symm)
  omega

/-- If the length is a multiple of four every replica is in a four. -/
theorem exists_four (hlen : candidates.length % 4 = 0) (hc : c ∈ candidates) :
    ∃ i < candidates.length / 4, c ∈ four candidates i := by
  obtain ⟨j, hj, rfl⟩ := List.getElem_of_mem hc
  refine ⟨j / 4, by omega, mem_four_iff.2 ⟨j % 4, Nat.mod_lt _ (by decide), ?_⟩⟩
  rw [Nat.div_add_mod]
  exact List.getElem?_eq_getElem hj

/-- The cursor only ever starts at a four. -/
theorem exists_start (hlen : candidates.length % 4 = 0) (hne : candidates ≠ []) (n : Nat) :
    ∃ i < candidates.length / 4, candidates.rotate (4 * n) = candidates.rotate (4 * i) := by
  have hpos : 0 < candidates.length := List.length_pos_iff.2 hne
  refine ⟨n % (candidates.length / 4), Nat.mod_lt _ (by omega), ?_⟩
  have hmod : 4 * (n % (candidates.length / 4)) = 4 * n % candidates.length := by
    rw [← Nat.mul_mod_mul_left, Nat.mul_div_cancel' (Nat.dvd_of_mod_eq_zero hlen)]
  rw [hmod, List.rotate_mod]

theorem probed_congr {cursor cursor' : Nat} (h : candidates.rotate cursor = candidates.rotate cursor') :
    probed candidates cursor = probed candidates cursor' := by
  unfold probed
  rw [h]

/-- A four that is probed as a whole fits in one cycle. -/
theorem fits_of_probed (hn : candidates.Nodup) (hi : i < candidates.length / 4)
    (h : ∀ c ∈ four candidates i, c ∈ probed candidates (4 * i)) :
    ((four candidates i).map Replica.size).sum ≤ maxReplicaVerificationBytesPerCycle := by
  have hfour : (four candidates i).Nodup := (hn.sublist (List.drop_sublist ..)).sublist (List.take_sublist ..)
  have hsub : (four candidates i).Subperm (probed candidates (4 * i)) := hfour.subperm h
  have hle : (probed candidates (4 * i)).length ≤ (four candidates i).length := by
    rw [length_four hi]
    exact length_probed_le candidates _
  have hperm := hsub.perm_of_length_le hle
  rw [(hperm.map Replica.size).sum_eq]
  refine (sum_probed_le candidates (4 * i)).resolve_right fun hone => ?_
  rw [← hperm.length_eq, length_four hi] at hone
  cases hone

/-- A cycle that probes something beyond its own four leaves out something larger of it. -/
theorem larger_left_out (hn : candidates.Nodup) (hi : i < candidates.length / 4) (hc : c ∈ probed candidates (4 * i))
    (hout : c ∉ four candidates i) :
    ∃ x ∈ four candidates i, x ∉ probed candidates (4 * i) ∧ c.size < x.size := by
  have hlength := length_four hi
  have hrotate := rotate_four hi
  have hnodup : (candidates.rotate (4 * i)).Nodup := List.nodup_rotate.2 hn
  have hfour : (four candidates i).Nodup := (hn.sublist (List.drop_sublist ..)).sublist (List.take_sublist ..)
  generalize (candidates.drop (4 * i)).drop 4 ++ candidates.take (4 * i) = others at hrotate
  -- five replicas do not go into one cycle
  obtain ⟨x, hx, hpassed⟩ : ∃ x ∈ four candidates i, x ∉ probed candidates (4 * i) := by
    by_contra hall
    push Not at hall
    have hsub : (c :: four candidates i).Subperm (probed candidates (4 * i)) := by
      refine (List.nodup_cons.2 ⟨hout, hfour⟩).subperm fun y hy => ?_
      rcases List.mem_cons.1 hy with rfl | hy
      · exact hc
      · exact hall y hy
    have hle := hsub.length_le
    have := length_probed_le candidates (4 * i)
    rw [List.length_cons, hlength] at hle
    omega
  refine ⟨x, hx, hpassed, ?_⟩
  have hmem : c ∈ others := by
    have hc := List.mem_rotate (n := 4 * i).2 (probed_subset _ c hc)
    rw [hrotate] at hc
    exact (List.mem_append.1 hc).resolve_left hout
  obtain ⟨before, after, hsplit⟩ := List.append_of_mem hx
  unfold probed at hc hpassed
  rw [hrotate, hsplit] at hnodup hc hpassed
  cases before with
  | nil => exact absurd List.mem_cons_self hpassed
  | cons first before =>
    -- the first one is probed whatever its size, and the rest is picked from
    rw [List.cons_append, List.cons_append, List.append_assoc, List.cons_append] at hnodup hc hpassed
    obtain ⟨hfirst, hnodup⟩ := List.nodup_cons.1 hnodup
    have hlater : c ∈ after ++ others := List.mem_append_right _ hmem
    have hne : c ≠ first := by
      rintro rfl
      exact hfirst (List.mem_append_right _ (List.mem_cons_of_mem _ hlater))
    exact Budget.size_lt_of_passed hnodup hlater ((List.mem_cons.1 hc).resolve_left hne)
      fun h => hpassed (List.mem_cons_of_mem _ h)

/-- If every replica is probed at some start, each is probed at the start of its own four: of those that are not, the
largest would be made up for by a cycle that leaves out a larger one. -/
theorem probed_in_own_four (hn : candidates.Nodup) (hlen : candidates.length % 4 = 0)
    (hall : ∀ c ∈ candidates, ∃ n, c ∈ probed candidates (4 * n)) (hi : i < candidates.length / 4)
    (hc : c ∈ four candidates i) : c ∈ probed candidates (4 * i) := by
  by_contra hout
  have hmem : ∀ {x : Replica} {k : Nat}, x ∈ four candidates k → x ∈ candidates := fun hx =>
    (List.drop_sublist ..).subset ((List.take_sublist ..).subset hx)
  let left := candidates.toFinset.filter fun x =>
    ∃ k < candidates.length / 4, x ∈ four candidates k ∧ x ∉ probed candidates (4 * k)
  have hleft : left.Nonempty := ⟨c, Finset.mem_filter.2 ⟨List.mem_toFinset.2 (hmem hc), i, hi, hc, hout⟩⟩
  obtain ⟨x, hx, hlargest⟩ := Finset.exists_max_image left Replica.size hleft
  obtain ⟨hxmem, k, hk, hxk, hxout⟩ := Finset.mem_filter.1 hx
  rw [List.mem_toFinset] at hxmem
  obtain ⟨n, hprobed⟩ := hall x hxmem
  obtain ⟨j, hj, hstart⟩ := exists_start hlen (List.ne_nil_of_mem hxmem) n
  rw [probed_congr hstart] at hprobed
  have hxj : x ∉ four candidates j := by
    intro hxj
    rw [four_unique hn hxk hxj] at hxout
    exact hxout hprobed
  obtain ⟨y, hyj, hyout, hlt⟩ := larger_left_out hn hj hprobed hxj
  have hy : y ∈ left := Finset.mem_filter.2 ⟨List.mem_toFinset.2 (hmem hyj), j, hj, hyj, hyout⟩
  exact absurd (hlargest y hy) (Nat.not_le.2 hlt)

/-- A list of a multiple of four is probed as a whole exactly if its fours fit. -/
theorem all_probed_iff (hn : candidates.Nodup) (hlen : candidates.length % 4 = 0) :
    (∀ c ∈ candidates, ∃ n, c ∈ probed candidates (4 * n)) ↔ FoursFit candidates := by
  constructor
  · intro hall i hi
    exact fits_of_probed hn hi fun c hc => probed_in_own_four hn hlen hall hi hc
  · intro hfits c hc
    obtain ⟨i, hi, hmem⟩ := exists_four hlen hc
    exact ⟨i, probed_of_fits (rotate_four hi) (length_four hi).le (hfits i hi) c hmem⟩

end

/-- What a bounded and fair rotation does: it stays within its limits at every cursor, and comes to every candidate at
some multiple of four. -/
structure ProbesFairly (candidates : List Replica) : Prop where
  chosen : ∀ cursor, selectReplicaProbes candidates cursor ⊆ (candidates.map Replica.key).toFinset
  count : ∀ cursor, (selectReplicaProbes candidates cursor).card ≤ 4
  bytes : ∀ cursor, selectedBytes candidates (selectReplicaProbes candidates cursor) ≤ 128 * 1024 * 1024 ∨
    (selectReplicaProbes candidates cursor).card = 1
  fair : ∀ c ∈ candidates, ∃ n, c.key ∈ selectReplicaProbes candidates (4 * n)

/-- The rotation is fair exactly if the number of candidates is not a multiple of four, or every four of them from a
multiple of four on are at most 128 MiB together. -/
theorem probing_is_fair_iff (candidates : List Replica) (hn : (candidates.map Replica.key).Nodup)
    (hsize : AreTransferable candidates) :
    ProbesFairly candidates ↔ candidates.length % 4 ≠ 0 ∨ FoursFit candidates := by
  have hfair : (∀ c ∈ candidates, ∃ n, c.key ∈ selectReplicaProbes candidates (4 * n)) ↔
      ∀ c ∈ candidates, ∃ n, c ∈ probed candidates (4 * n) :=
    forall₂_congr fun c hc => exists_congr fun n => mem_selectReplicaProbes hn hc _
  have hnodup : candidates.Nodup := List.Nodup.of_map _ hn
  constructor
  · intro h
    by_cases hlen : candidates.length % 4 = 0
    · exact Or.inr ((all_probed_iff hnodup hlen).1 (hfair.1 h.fair))
    · exact Or.inl hlen
  · intro h
    have hprobed : ∀ c ∈ candidates, ∃ n, c ∈ probed candidates (4 * n) := by
      by_cases hlen : candidates.length % 4 = 0
      · exact (all_probed_iff hnodup hlen).2 (h.resolve_left (not_not.2 hlen))
      · exact probed_of_length hsize hlen
    refine ⟨fun cursor => ?_, fun cursor => ?_, fun cursor => ?_, hfair.2 hprobed⟩
    · intro key hkey
      rw [selectReplicaProbes_eq hn, List.mem_toFinset] at hkey
      obtain ⟨c, hc, rfl⟩ := List.mem_map.1 hkey
      exact List.mem_toFinset.2 (List.mem_map_of_mem (probed_subset cursor c hc))
    · rw [card_selectReplicaProbes hn]
      exact length_probed_le candidates cursor
    · rw [card_selectReplicaProbes hn, selectedBytes_eq hn]
      exact sum_probed_le candidates cursor

/-- A replica of an artifact of 64 MiB. -/
def largeReplica (nodeId : Uuid) : Replica where
  digest := "sha256:aaaaaaaaaaaaaaaaaaaaaaaaaaaaaaaaaaaaaaaaaaaaaaaaaaaaaaaaaaaaaaaa"
  nodeId := nodeId
  artifact :=
    { schema := "rampage.artifact-ref.v1"
      digest := "sha256:aaaaaaaaaaaaaaaaaaaaaaaaaaaaaaaaaaaaaaaaaaaaaaaaaaaaaaaaaaaaaaaa"
      sizeBytes := 64 * 1024 * 1024
      mediaType := "application/octet-stream"
      storageClass := .protected
      encrypted := true }

/-- Four replicas of 32 MiB are probed in one cycle, and three large ones in turn. -/
theorem probing_is_fair_small :
    ProbesFairly ([1, 2, 3, 4].map fun node => { largeReplica node with
      artifact := { (largeReplica node).artifact with sizeBytes := 32 * 1024 * 1024 } }) ∧
      ProbesFairly [largeReplica 1, largeReplica 2, largeReplica 3] :=
  ⟨(probing_is_fair_iff _ (by decide) (by decide)).2 (Or.inr (by decide)),
    (probing_is_fair_iff _ (by decide) (by decide)).2 (Or.inl (by decide))⟩

/-- Of four large replicas only the first two are ever probed. -/
theorem fourth_replica_is_never_probed : ¬ ∀ candidates : List Replica, (candidates.map Replica.key).Nodup →
    AreTransferable candidates → ProbesFairly candidates := by
  intro h
  let candidates := [largeReplica 1, largeReplica 2, largeReplica 3, largeReplica 4]
  obtain ⟨n, hn⟩ := (h candidates (by decide) (by decide)).fair (largeReplica 3) (by simp [candidates])
  have hstart : selectReplicaProbes candidates (4 * n) = selectReplicaProbes candidates 0 := by
    unfold selectReplicaProbes
    rw [show 4 * n % candidates.length = 0 from Nat.mul_mod_right 4 n]
    rfl
  rw [hstart] at hn
  revert hn
  decide

end Rampage.Controller
