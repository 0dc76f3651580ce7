/-
The relay's accounting of connections. `admit` counts a connection in a total and under its endpoint, `release` takes it out of
both, and neither number is ever computed from the other. `accounting_is_exact` says that they agree all the same, in every order
of the calls, as long as only what was admitted is released.
-/
import Rampage.Lib.Machine
import Rampage.Lib.Table
import Mathlib.Algebra.BigOperators.Group.List.Basic
import Mathlib.Algebra.Order.Ring.Nat
import Mathlib.Data.List.Induction

namespace Rampage.Relay

/-! ## Admission and release -/

/-- What `admit` reads of the manifest. -/
structure RelayAccessManifestV1 where
  allowedEndpointIds : List String

/-- How many connections the relay has, in all and for each endpoint. -/
structure ActiveConnections where
  total : UInt32
  byEndpoint : Table String UInt16
deriving DecidableEq

/-- `ActiveConnections::default`. -/
def ActiveConnections.empty : ActiveConnections := ⟨0, ∅⟩

/-- The limits of `SignedManifestAccess`. -/
structure SignedManifestAccess where
  maxPerEndpoint : UInt16
  maxTotal : UInt32

/-- `u32::saturating_sub`. -/
def saturatingSub (a b : UInt32) : UInt32 := if a ≤ b then 0 else a - b

/-- `admit`, with what `load_manifest` has loaded. The rest holds the lock. -/
def admitConnection (access : SignedManifestAccess) (manifest : Option RelayAccessManifestV1) (endpointId : String)
    (active : ActiveConnections) : Except String Unit × ActiveConnections :=
  match manifest with
  | none => (.error "relay authorization is unavailable or invalid", active)
  | some manifest =>
    if !manifest.allowedEndpointIds.contains endpointId then
      (.error "endpoint is not enrolled in this Rampage fabric", active)
    else
      let endpointCount := (AList.lookup endpointId active.byEndpoint).getD 0
      if active.total ≥ access.maxTotal || endpointCount ≥ access.maxPerEndpoint then
        (.error "relay connection threshold reached", active)
      else (.ok (), ⟨active.total + 1, AList.insert endpointId (endpointCount + 1) active.byEndpoint⟩)

/-- `release`. -/
def release (endpointId : String) (active : ActiveConnections) : ActiveConnections :=
  match AList.lookup endpointId active.byEndpoint with
  | none => active
  | some count =>
    let total := saturatingSub active.total 1
    if count ≤ 1 then ⟨total, AList.erase endpointId active.byEndpoint⟩
    else ⟨total, AList.insert endpointId (count - 1) active.byEndpoint⟩

/-- A connection asks to be admitted, or one ends. -/
inductive Call
  | admission (manifest : Option RelayAccessManifestV1) (endpointId : String)
  | release (endpointId : String)

section

variable (access : SignedManifestAccess)

/-- The counts are behind one lock. -/
def step : Call → ActiveConnections → Except String Unit × ActiveConnections
  | .admission manifest endpointId, active => admitConnection access manifest endpointId active
  | .release endpointId, active => (.ok (), release endpointId active)

/-- The calls in the order in which they get the lock. -/
def relayMachine : Machine ActiveConnections Call (Except String Unit) := ⟨step access⟩

end

/-- The endpoint a call has admitted a connection of. -/
def Call.admitted : Call × Except String Unit → Option String
  | (.admission _ endpointId, .ok ()) => some endpointId
  | _ => none

/-- The endpoint whose connection ended, if one did. -/
def Call.released : Call × Except String Unit → Option String
  | (.release endpointId, _) => some endpointId
  | _ => none

/-- The endpoints of the connections admitted in a run, one for each. -/
def admitted (tr : List (Call × Except String Unit)) : List String := tr.filterMap Call.admitted

/-- The connections that ended, in order. -/
def released (tr : List (Call × Except String Unit)) : List String := tr.filterMap Call.released

/-- Every release is of a connection of its endpoint that was admitted and not yet released. -/
def Matched (access : SignedManifestAccess) (calls : List Call) : Prop :=
  ∀ before endpointId after, calls = before ++ .release endpointId :: after →
    (released ((relayMachine access).trace before .empty)).count endpointId <
      (admitted ((relayMachine access).trace before .empty)).count endpointId

/-! ## What a call does -/

section

variable {access : SignedManifestAccess} {active : ActiveConnections} {endpointId : String}

/-- The connections counted for an endpoint. -/
def ActiveConnections.count (active : ActiveConnections) (endpointId : String) : Nat :=
  ((AList.lookup endpointId active.byEndpoint).map UInt16.toNat).getD 0

/-- The connections counted for all of them. -/
def ActiveConnections.sum (active : ActiveConnections) : Nat := ((Table.values active.byEndpoint).map UInt16.toNat).sum

/-- A call refuses and changes nothing, or there is room and it counts one more. -/
theorem admission_cases (manifest : Option RelayAccessManifestV1) :
    (∃ e, admitConnection access manifest endpointId active = (.error e, active)) ∨
      ((admitConnection access manifest endpointId active).1 = .ok () ∧ active.total < access.maxTotal ∧
        (AList.lookup endpointId active.byEndpoint).getD 0 < access.maxPerEndpoint ∧
        (admitConnection access manifest endpointId active).2 = ⟨active.total + 1,
          AList.insert endpointId ((AList.lookup endpointId active.byEndpoint).getD 0 + 1) active.byEndpoint⟩) := by
  unfold admitConnection
  cases manifest with
  | none => exact Or.inl ⟨_, rfl⟩
  | some manifest =>
    dsimp only
    split
    · exact Or.inl ⟨_, rfl⟩
    split
    · exact Or.inl ⟨_, rfl⟩
    · rename_i hroom
      simp only [ge_iff_le, Bool.or_eq_true, decide_eq_true_eq, not_or, UInt32.not_le, UInt16.not_le] at hroom
      exact Or.inr ⟨rfl, hroom.1, hroom.2, rfl⟩

theorem toNat_getD (o : Option UInt16) : (o.getD 0).toNat = (o.map UInt16.toNat).getD 0 := by
  cases o <;> rfl

theorem toNat_add_one {n : UInt16} (h : n.toNat < 65535) : (n + 1).toNat = n.toNat + 1 := by
  rw [UInt16.toNat_add, show (1 : UInt16).toNat = 1 from rfl]
  omega

@[simp] theorem count_insert (total : UInt32) (n : UInt16) (e : String) :
    ActiveConnections.count ⟨total, AList.insert endpointId n active.byEndpoint⟩ e =
      if e = endpointId then n.toNat else active.count e := by
  unfold ActiveConnections.count
  rw [Table.lookup_insert']
  split <;> rfl

@[simp] theorem count_erase (total : UInt32) (e : String) :
    ActiveConnections.count ⟨total, AList.erase endpointId active.byEndpoint⟩ e =
      if e = endpointId then 0 else active.count e := by
  unfold ActiveConnections.count
  rw [Table.lookup_erase']
  split <;> rfl

theorem sum_erase (total : UInt32) :
    ActiveConnections.sum ⟨total, AList.erase endpointId active.byEndpoint⟩ + active.count endpointId = active.sum := by
  unfold ActiveConnections.sum ActiveConnections.count
  cases h : AList.lookup endpointId active.byEndpoint with
  | none =>
    rw [Table.erase_eq_self h]
    rfl
  | some n =>
    rw [((Table.values_perm_cons_erase h).map UInt16.toNat).sum_nat, List.map_cons, List.sum_cons, Nat.add_comm]
    rfl

/-- The sum when the count of an endpoint is replaced. -/
theorem sum_insert (total : UInt32) (n : UInt16) :
    ActiveConnections.sum ⟨total, AList.insert endpointId n active.byEndpoint⟩ + active.count endpointId =
      active.sum + n.toNat := by
  have herase := @sum_erase active endpointId total
  have hinsert : ActiveConnections.sum ⟨total, AList.insert endpointId n active.byEndpoint⟩ =
      n.toNat + ActiveConnections.sum ⟨total, AList.erase endpointId active.byEndpoint⟩ := by
    unfold ActiveConnections.sum
    rw [Table.values_insert, List.map_cons, List.sum_cons]
  omega

/-! ## The invariant -/

/-- The accounting after the calls of a trace. -/
structure Exact (access : SignedManifestAccess) (tr : List (Call × Except String Unit)) (active : ActiveConnections) :
    Prop where
  total : active.total.toNat + (released tr).length = (admitted tr).length
  sum : active.sum = active.total.toNat
  counts : ∀ e, active.count e + (released tr).count e = (admitted tr).count e
  stored : ∀ e n, AList.lookup e active.byEndpoint = some n → 1 ≤ n.toNat ∧ n.toNat ≤ access.maxPerEndpoint.toNat
  bounded : active.total.toNat ≤ access.maxTotal.toNat

theorem exact_empty : Exact access [] .empty := by
  constructor
  · rfl
  · rfl
  · exact fun _ => rfl
  · simp [ActiveConnections.empty]
  · exact Nat.zero_le _

theorem Exact.admission {tr : List (Call × Except String Unit)} (h : Exact access tr active) (manifest : Option RelayAccessManifestV1) :
    Exact access (tr ++ [(.admission manifest endpointId, (admitConnection access manifest endpointId active).1)])
      (admitConnection access manifest endpointId active).2 := by
  have hreleased : ∀ r, released (tr ++ [(.admission manifest endpointId, r)]) = released tr := by
    intro r
    simp [released, Call.released]
  rcases @admission_cases access active endpointId manifest with ⟨e, hrefused⟩ | ⟨hok, htotal, hcount, hafter⟩
  · have hadmitted : admitted (tr ++ [(.admission manifest endpointId, .error e)]) = admitted tr := by
      simp [admitted, Call.admitted]
    rw [hrefused]
    refine ⟨?_, h.sum, ?_, h.stored, h.bounded⟩
    · rw [hreleased, hadmitted]
      exact h.total
    · rw [hreleased, hadmitted]
      exact h.counts
  · have hadmitted : admitted (tr ++ [(.admission manifest endpointId, .ok ())]) = admitted tr ++ [endpointId] := by
      simp [admitted, Call.admitted]
    -- neither addition wraps, since both numbers are below a limit of their own width
    have hone : (active.total + 1).toNat = active.total.toNat + 1 := by
      have hlt : active.total.toNat < access.maxTotal.toNat := UInt32.lt_iff_toNat_lt.1 htotal
      have hmax := access.maxTotal.toNat_lt
      rw [UInt32.toNat_add, show (1 : UInt32).toNat = 1 from rfl]
      omega
    have hlt : active.count endpointId < access.maxPerEndpoint.toNat := by
      have hcount' := UInt16.lt_iff_toNat_lt.1 hcount
      rwa [toNat_getD] at hcount'
    have hplus : ((AList.lookup endpointId active.byEndpoint).getD 0 + 1).toNat = active.count endpointId + 1 := by
      have hmax := access.maxPerEndpoint.toNat_lt
      rw [toNat_add_one (by rw [toNat_getD]; exact Nat.lt_of_lt_of_le hlt (by omega)), toNat_getD]
      rfl
    rw [hok, hafter]
    refine ⟨?_, ?_, ?_, ?_, ?_⟩
    · have := h.total
      show (active.total + 1).toNat + _ = _
      rw [hreleased, hadmitted, List.length_append, List.length_singleton]
      omega
    · show _ = (active.total + 1).toNat
      have hsum := @sum_insert active endpointId (active.total + 1) ((AList.lookup endpointId active.byEndpoint).getD 0 + 1)
      have := h.sum
      omega
    · intro e
      have := h.counts e
      rw [hreleased, hadmitted, List.count_append, count_insert, hplus]
      by_cases he : e = endpointId
      · subst he
        rw [if_pos rfl, List.count_singleton_self]
        omega
      · rw [if_neg he, List.count_singleton, if_neg (by simpa using Ne.symm he)]
        omega
    · intro e n hn
      rw [Table.lookup_insert'] at hn
      split at hn
      · cases hn
        omega
      · exact h.stored e n hn
    · have := UInt32.lt_iff_toNat_lt.1 htotal
      show (active.total + 1).toNat ≤ _
      omega

theorem toNat_saturatingSub (a : UInt32) : (saturatingSub a 1).toNat = a.toNat - 1 := by
  unfold saturatingSub
  split
  · rename_i hle
    have := UInt32.le_iff_toNat_le.1 hle
    rw [show (1 : UInt32).toNat = 1 from rfl] at this
    rw [show (0 : UInt32).toNat = 0 from rfl]
    omega
  · rename_i hgt
    have := UInt32.le_iff_toNat_le.not.1 hgt
    rw [show (1 : UInt32).toNat = 1 from rfl] at this
    rw [UInt32.toNat_sub_of_le _ _ (by rw [UInt32.le_iff_toNat_le, show (1 : UInt32).toNat = 1 from rfl]; omega)]
    rfl

/-- The total is above the count of a stored endpoint, or equal to it. -/
theorem count_le_sum (e : String) : active.count e ≤ active.sum := by
  have := @sum_erase active e 0
  omega

theorem Exact.release {tr : List (Call × Except String Unit)} (h : Exact access tr active)
    (hmatched : (released tr).count endpointId < (admitted tr).count endpointId) :
    Exact access (tr ++ [(.release endpointId, .ok ())]) (release endpointId active) := by
  have hadmitted : admitted (tr ++ [(.release endpointId, .ok ())]) = admitted tr := by
    simp [admitted, Call.admitted]
  have hreleased : released (tr ++ [(.release endpointId, .ok ())]) = released tr ++ [endpointId] := by
    simp [released, Call.released]
  have hcount := h.counts endpointId
  have hsum := h.sum
  have hle := @count_le_sum active endpointId
  have htotal := h.total
  obtain ⟨n, hn⟩ : ∃ n, AList.lookup endpointId active.byEndpoint = some n := by
    cases hlookup : AList.lookup endpointId active.byEndpoint with
    | none =>
      have hzero : active.count endpointId = 0 := by
        unfold ActiveConnections.count
        rw [hlookup]
        rfl
      omega
    | some n => exact ⟨n, rfl⟩
  have hcountn : active.count endpointId = n.toNat := by
    unfold ActiveConnections.count
    rw [hn]
    rfl
  obtain ⟨hpositive, hmax⟩ := h.stored endpointId n hn
  have hsub := toNat_saturatingSub active.total
  have hbounded := h.bounded
  have hlength : (saturatingSub active.total 1).toNat + (released (tr ++ [(.release endpointId, .ok ())])).length =
      (admitted (tr ++ [(.release endpointId, .ok ())])).length := by
    rw [hreleased, hadmitted, List.length_append, List.length_singleton]
    omega
  -- the counts of the trace, once the endpoint's is one less
  have hcounts : ∀ {after : ActiveConnections}, (∀ e, after.count e = if e = endpointId then n.toNat - 1 else active.count e) →
      ∀ e, after.count e + (released (tr ++ [(.release endpointId, .ok ())])).count e =
        (admitted (tr ++ [(.release endpointId, .ok ())])).count e := by
    intro after hafter e
    have := h.counts e
    rw [hafter, hreleased, hadmitted, List.count_append]
    by_cases he : e = endpointId
    · subst he
      rw [if_pos rfl, List.count_singleton_self]
      omega
    · rw [if_neg he, List.count_singleton, if_neg (by simpa using Ne.symm he)]
      omega
  unfold Relay.release
  rw [hn]
  dsimp only
  split
  · rename_i hlast
    have hone : n.toNat = 1 := by
      have := UInt16.le_iff_toNat_le.1 hlast
      rw [show (1 : UInt16).toNat = 1 from rfl] at this
      omega
    refine ⟨hlength, ?_, hcounts fun e => ?_, fun e m hm => h.stored e m (Table.lookup_of_erase hm), ?_⟩
    · have herase := @sum_erase active endpointId (saturatingSub active.total 1)
      show _ = (saturatingSub active.total 1).toNat
      omega
    · rw [count_erase, hone]
    · show (saturatingSub active.total 1).toNat ≤ _
      omega
  · rename_i hmore
    have hmore' := UInt16.le_iff_toNat_le.not.1 hmore
    rw [show (1 : UInt16).toNat = 1 from rfl] at hmore'
    have hminus : (n - 1).toNat = n.toNat - 1 := by
      have hle : (1 : UInt16) ≤ n := UInt16.le_iff_toNat_le.2 hpositive
      rw [UInt16.toNat_sub_of_le _ _ hle]
      rfl
    refine ⟨hlength, ?_, hcounts fun e => ?_, ?_, ?_⟩
    · have hinsert := @sum_insert active endpointId (saturatingSub active.total 1) (n - 1)
      show _ = (saturatingSub active.total 1).toNat
      omega
    · rw [count_insert, hminus]
    · intro e m hm
      rw [Table.lookup_insert'] at hm
      split at hm
      · cases hm
        omega
      · exact h.stored e m hm
    · show (saturatingSub active.total 1).toNat ≤ _
      omega

theorem exact_exec (calls : List Call) (h : Matched access calls) :
    Exact access ((relayMachine access).trace calls .empty) ((relayMachine access).exec calls .empty) := by
  induction calls using List.reverseRecOn with
  | nil => exact exact_empty
  | append_singleton calls call ih =>
    have hbefore : Matched access calls := by
      rintro before endpointId after rfl
      exact h before endpointId (after ++ [call]) (by simp)
    have hexact := ih hbefore
    rw [Machine.trace_append, Machine.exec_append]
    cases call with
    | admission manifest endpointId => exact hexact.admission manifest
    | release endpointId => exact hexact.release (h calls endpointId [] rfl)

end

/-- In every order of admissions and releases in which only admitted connections are released: the total is the sum of the
counts and the number of connections that are admitted and not released, as each count is for its endpoint; a stored count is
positive and within the limit of an endpoint, the total within the limit of all; and an admission that is refused changes
nothing. -/
theorem accounting_is_exact (access : SignedManifestAccess) (calls : List Call) (hmatched : Matched access calls) :
    let active := (relayMachine access).exec calls .empty
    let tr := (relayMachine access).trace calls .empty
    active.total.toNat = ((Table.values active.byEndpoint).map UInt16.toNat).sum ∧
      active.total.toNat + (released tr).length = (admitted tr).length ∧
      (∀ e n, AList.lookup e active.byEndpoint = some n →
        1 ≤ n ∧ n ≤ access.maxPerEndpoint ∧ n.toNat + (released tr).count e = (admitted tr).count e) ∧
      active.total ≤ access.maxTotal ∧
      ∀ manifest endpointId e, (admitConnection access manifest endpointId active).1 = .error e →
        (admitConnection access manifest endpointId active).2 = active := by
  have h := exact_exec calls hmatched
  refine ⟨h.sum.symm, h.total, ?_, UInt32.le_iff_toNat_le.2 h.bounded, ?_⟩
  · intro e n hn
    obtain ⟨hpositive, hmax⟩ := h.stored e n hn
    refine ⟨UInt16.le_iff_toNat_le.2 hpositive, UInt16.le_iff_toNat_le.2 hmax, ?_⟩
    have hcount := h.counts e
    unfold ActiveConnections.count at hcount
    rw [hn] at hcount
    exact hcount
  · intro manifest endpointId e herror
    rcases @admission_cases access _ endpointId manifest with ⟨e', hrefused⟩ | ⟨hok, -⟩
    · rw [hrefused]
    · rw [hok] at herror
      cases herror

/-- Two endpoints connect, one of them twice; one of its connections ends. -/
def twoEndpoints : List Call :=
  [.admission (some ⟨["laptop", "desktop"]⟩) "laptop", .admission (some ⟨["laptop", "desktop"]⟩) "desktop",
    .admission (some ⟨["laptop", "desktop"]⟩) "laptop", .release "laptop"]

theorem accounting_is_exact_two_endpoints :
    ((relayMachine ⟨8, 1024⟩).exec twoEndpoints .empty).total.toNat = 2 := by
  have hmatched : Matched ⟨8, 1024⟩ twoEndpoints := by
    intro before endpointId after hsplit
    obtain ⟨rfl, rfl⟩ : before = twoEndpoints.take 3 ∧ endpointId = "laptop" := by
      rcases before with _ | ⟨a, _ | ⟨b, _ | ⟨d, _ | ⟨e, before⟩⟩⟩⟩ <;> simp [twoEndpoints] at hsplit
      obtain ⟨rfl, rfl, rfl, rfl, -⟩ := hsplit
      exact ⟨rfl, rfl⟩
    decide
  obtain ⟨-, htotal, -⟩ := accounting_is_exact ⟨8, 1024⟩ twoEndpoints hmatched
  have hadmitted : (admitted ((relayMachine ⟨8, 1024⟩).trace twoEndpoints .empty)).length = 3 := by decide
  have hreleased : (released ((relayMachine ⟨8, 1024⟩).trace twoEndpoints .empty)).length = 1 := by decide
  omega

end Rampage.Relay
