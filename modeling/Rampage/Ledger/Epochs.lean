/-
Fencing epochs and their evidence. The table of epochs and the `authority.epoch.advanced` events record the same advances,
written in one transaction. `epochs_agree_with_evidence` is the invariant that connects them, for runs in which nobody
appends such an event by hand.
-/
import Rampage.Ledger.Verified

namespace Rampage.Ledger.Chain

/-! ## The evidence of a scope -/

/-- The rows that record an advance of the scope. -/
def Database.evidence (db : Database) (scope : String) : List Row :=
  db.rows.filter fun row => row.eventType == some epochAdvanced && row.subjectId == some scope

/-- The epoch that the latest event of a scope names, 0 without one. -/
def Database.recordedEpoch (c : Crates) (db : Database) (scope : String) : Option Nat :=
  match (db.evidence scope).getLast? with
  | none => some 0
  | some row => ((row.payloadJson.bind c.parseJson).bind (Json.get? "fencing_epoch")).bind Json.asU64

/-- The call advances the scope. -/
def Call.advances (scope : String) : Call → Bool
  | .append _ _ _ _ _ => false
  | .advance _ s _ => s == scope

/-- The call appends an event that looks like an advance of the scope. -/
def Call.appendsEvidence (scope : String) : Call → Bool
  | .append _ eventType subjectId _ _ => eventType == epochAdvanced && subjectId == scope
  | .advance _ _ _ => false

/-- The advances of a scope in a history. -/
def advances (scope : String) (tr : List (Call × Except LedgerError Answer)) : Nat :=
  tr.countP fun e => e.1.advances scope && e.2.isOk

/-- Nobody but `advance_fencing_epoch` wrote evidence of the scope. -/
def OwnEvidence (scope : String) (tr : List (Call × Except LedgerError Answer)) : Prop :=
  ∀ e ∈ tr, e.2.isOk = true → e.1.appendsEvidence scope = false

section

variable {c : Crates}

/-! ## What a call writes -/

/-- A call that succeeds adds one row. -/
theorem append_cases (f : Faults) (eventType subjectId : String) (payload : Option Json) (now : DateTime) (db : Database) :
    ((∃ e, (step c (.append f eventType subjectId payload now) db).1 = .error e) ∧
        (step c (.append f eventType subjectId payload now) db).2 = db) ∨
      ∃ a row, (step c (.append f eventType subjectId payload now) db).1 = .ok a ∧
        (step c (.append f eventType subjectId payload now) db).2.rows = db.rows ++ [row] ∧
        row.eventType = some eventType ∧ row.subjectId = some subjectId ∧
        (step c (.append f eventType subjectId payload now) db).2.epochs = db.epochs := by
  rcases h : append c f eventType subjectId payload now db with ⟨r, db'⟩
  have hstep : step c (.append f eventType subjectId payload now) db = (r.map .event, db') := by
    simp only [step, h]
  rw [hstep]
  rcases transaction_cases h with ⟨⟨e, rfl⟩, rfl⟩ | ⟨e, rfl, hbody⟩
  · exact Or.inl ⟨⟨e, rfl⟩, rfl⟩
  · obtain ⟨v, previous, -, -, rfl, hinsert⟩ := appendInTransaction_ok hbody
    obtain ⟨hrows, -, hepochs⟩ := Database.insert_ok hinsert
    exact Or.inr ⟨_, _, rfl, hrows, rfl, rfl, hepochs⟩

/-- The epoch and its event are written together, or not at all. -/
theorem advance_cases (f : Faults) (scope : String) (now : DateTime) (db : Database) :
    ((∃ e, (step c (.advance f scope now) db).1 = .error e) ∧ (step c (.advance f scope now) db).2 = db) ∨
      ∃ a row, (step c (.advance f scope now) db).1 = .ok a ∧
        (step c (.advance f scope now) db).2.rows = db.rows ++ [row] ∧
        row.eventType = some epochAdvanced ∧ row.subjectId = some scope ∧
        row.payloadJson = some (epochPayload (currentFencingEpoch db scope + 1)).toText ∧
        currentFencingEpoch db scope + 1 < 2 ^ 63 ∧
        (step c (.advance f scope now) db).2.epochs = AList.insert scope (currentFencingEpoch db scope + 1) db.epochs := by
  rcases h : advanceFencingEpoch c f scope now db with ⟨r, db'⟩
  have hstep : step c (.advance f scope now) db = (r.map .epoch, db') := by
    simp only [step, h]
  rw [hstep]
  rcases transaction_cases h with ⟨⟨e, rfl⟩, rfl⟩ | ⟨n, rfl, -⟩
  · exact Or.inl ⟨⟨e, rfl⟩, rfl⟩
  · obtain ⟨rfl, hbound, e, happend⟩ := advanceFencingEpoch_ok h
    obtain ⟨v, previous, hv, -, rfl, hinsert⟩ := appendInTransaction_ok happend
    cases hv
    obtain ⟨hrows, -, hepochs⟩ := Database.insert_ok hinsert
    exact Or.inr ⟨_, _, rfl, hrows, rfl, rfl, rfl, hbound, hepochs⟩

/-- A call that fails changes nothing, in every state of the database. -/
theorem step_error {call : Call} {db : Database} {e : LedgerError} (h : (step c call db).1 = .error e) :
    (step c call db).2 = db := by
  rcases @step_cases c call db with ⟨-, hdb⟩ | ⟨⟨a, ha⟩, -⟩
  · exact hdb
  · rw [h] at ha
    cases ha

/-! ## The epoch counts the advances -/

theorem current_of_insert {db db' : Database} {scope scope' : String} {n : Nat}
    (h : db'.epochs = AList.insert scope' n db.epochs) :
    currentFencingEpoch db' scope = if scope = scope' then n else currentFencingEpoch db scope := by
  unfold currentFencingEpoch
  rw [h, Table.lookup_insert']
  split <;> rfl

theorem current_step (call : Call) (db : Database) (scope : String) :
    currentFencingEpoch (step c call db).2 scope =
      currentFencingEpoch db scope + if call.advances scope && (step c call db).1.isOk then 1 else 0 := by
  cases call with
  | append f eventType subjectId payload now =>
    simp only [Call.advances, Bool.false_and, Bool.false_eq_true, if_false, Nat.add_zero]
    rcases append_cases (c := c) f eventType subjectId payload now db with ⟨-, hdb⟩ | ⟨a, row, -, -, -, -, hepochs⟩
    · rw [hdb]
    · unfold currentFencingEpoch
      rw [hepochs]
  | advance f scope' now =>
    rcases advance_cases (c := c) f scope' now db with ⟨⟨e, he⟩, hdb⟩ | ⟨a, row, ha, -, -, -, -, -, hepochs⟩
    · rw [hdb, he]
      simp [Except.isOk, Except.toBool]
    · rw [current_of_insert hepochs, ha]
      by_cases hscope : scope = scope'
      · subst hscope
        simp [Call.advances, Except.isOk, Except.toBool]
      · have hne : (scope' == scope) = false := by
          rw [beq_eq_false_iff_ne]
          exact fun h => hscope h.symm
        simp [Call.advances, hscope, hne]

/-! ## The latest event names the epoch -/

theorem evidence_snoc_of_ne {db db' : Database} {row : Row} {scope : String} (hrows : db'.rows = db.rows ++ [row])
    (hne : (row.eventType == some epochAdvanced && row.subjectId == some scope) = false) :
    db'.evidence scope = db.evidence scope := by
  unfold Database.evidence
  rw [hrows, List.filter_append, List.filter_cons_of_neg (by simpa using hne), List.filter_nil, List.append_nil]

theorem recorded_of_evidence {db db' : Database} {scope : String} (h : db'.evidence scope = db.evidence scope) :
    db'.recordedEpoch c scope = db.recordedEpoch c scope := by
  unfold Database.recordedEpoch
  rw [h]

theorem asU64_epochPayload {n : Nat} (h : n < 2 ^ 63) :
    ((epochPayload n).get? "fencing_epoch").bind Json.asU64 = some n := by
  have hget : (epochPayload n).get? "fencing_epoch" = some (.num (.ofNat n)) := by simp [epochPayload, Json.get?]
  rw [hget, Option.bind_some, Json.asU64, JsonNumber.toNat?_ofNat, Option.filter_some, if_pos]
  simp only [decide_eq_true_eq]
  omega

/-- An event that is no advance of the scope leaves what its evidence says; an advance makes it say the new epoch. -/
theorem recorded_step (hjson : ∀ n < 2 ^ 63, c.parseJson (epochPayload n).toText = some (epochPayload n)) {call : Call}
    {db : Database} {scope : String} (h : db.recordedEpoch c scope = some (currentFencingEpoch db scope))
    (hown : (step c call db).1.isOk = true → call.appendsEvidence scope = false) :
    (step c call db).2.recordedEpoch c scope = some (currentFencingEpoch (step c call db).2 scope) := by
  cases call with
  | append f eventType subjectId payload now =>
    rcases append_cases (c := c) f eventType subjectId payload now db with
      ⟨-, hdb⟩ | ⟨a, row, ha, hrows, htype, hsubject, hepochs⟩
    · rw [hdb]
      exact h
    · rw [ha] at hown
      have hne := hown rfl
      rw [recorded_of_evidence (evidence_snoc_of_ne hrows (by simpa [htype, hsubject, Call.appendsEvidence] using hne)), h]
      unfold currentFencingEpoch
      rw [hepochs]
  | advance f scope' now =>
    rcases advance_cases (c := c) f scope' now db with
      ⟨-, hdb⟩ | ⟨a, row, -, hrows, htype, hsubject, hpayload, hbound, hepochs⟩
    · rw [hdb]
      exact h
    · rw [current_of_insert hepochs]
      by_cases hscope : scope = scope'
      · subst hscope
        -- the row of the advance is the last evidence of its scope
        have hlast : ((step c (.advance f scope now) db).2.evidence scope).getLast? = some row := by
          unfold Database.evidence
          rw [hrows, List.filter_append, List.filter_cons_of_pos (by simp [htype, hsubject])]
          simp
        unfold Database.recordedEpoch
        rw [hlast, if_pos rfl]
        simp only [hpayload, Option.bind_some, hjson _ hbound]
        exact asU64_epochPayload hbound
      · rw [if_neg hscope, recorded_of_evidence (evidence_snoc_of_ne hrows ?_), h]
        simp only [hsubject, Bool.and_eq_false_iff, beq_eq_false_iff_ne]
        exact Or.inr fun heq => hscope (Option.some.inj heq).symm

/-! ## Every run -/

theorem agrees_exec (hjson : ∀ n < 2 ^ 63, c.parseJson (epochPayload n).toText = some (epochPayload n)) (calls : List Call)
    (scope : String) :
    currentFencingEpoch ((machine c).exec calls Database.empty) scope =
        advances scope ((machine c).trace calls Database.empty) ∧
      (OwnEvidence scope ((machine c).trace calls Database.empty) →
        ((machine c).exec calls Database.empty).recordedEpoch c scope =
          some (currentFencingEpoch ((machine c).exec calls Database.empty) scope)) := by
  have hrule := (machine c).invariant (C := fun _ _ => True)
    (I := fun tr db => currentFencingEpoch db scope = advances scope tr ∧
      (OwnEvidence scope tr → db.recordedEpoch c scope = some (currentFencingEpoch db scope))) ?_ calls [] Database.empty
    ⟨rfl, fun _ => rfl⟩ ((machine c).meets_of_forall (fun _ _ => trivial) calls _)
  · simpa using hrule
  · rintro tr db call ⟨hcount, hagrees⟩ -
    constructor
    · show currentFencingEpoch (step c call db).2 scope = advances scope (tr ++ [(call, (step c call db).1)])
      rw [current_step, hcount]
      simp [advances, List.countP_append, List.countP_cons]
    · intro hown
      refine recorded_step hjson (hagrees fun e he => hown e (List.mem_append_left _ he)) ?_
      exact hown (call, (step c call db).1) (by simp [machine])

theorem current_mono (calls : List Call) (db : Database) (scope : String) :
    currentFencingEpoch db scope ≤ currentFencingEpoch ((machine c).exec calls db) scope := by
  induction calls generalizing db with
  | nil => exact le_refl _
  | cons call calls ih =>
    have hone : currentFencingEpoch db scope ≤ currentFencingEpoch (step c call db).2 scope := by
      rw [current_step]
      omega
    exact hone.trans (ih (step c call db).2)

end

/-- After every run on a new ledger the epoch of a scope is the number of its advances, and is what the latest event says
unless someone else appended such an event; it never decreases; and a call that fails changes nothing. -/
theorem epochs_agree_with_evidence (c : Crates)
    (hjson : ∀ n < 2 ^ 63, c.parseJson (epochPayload n).toText = some (epochPayload n)) (calls : List Call) (scope : String) :
    let db := (machine c).exec calls Database.empty
    let tr := (machine c).trace calls Database.empty
    currentFencingEpoch db scope = advances scope tr ∧
      (OwnEvidence scope tr → db.recordedEpoch c scope = some (currentFencingEpoch db scope)) ∧
      (∀ pre, pre <+: calls → currentFencingEpoch ((machine c).exec pre Database.empty) scope ≤ currentFencingEpoch db scope) ∧
      ∀ (call : Call) (db : Database) (e : LedgerError), (step c call db).1 = .error e → (step c call db).2 = db := by
  intro db tr
  obtain ⟨hcount, hagrees⟩ := agrees_exec hjson calls scope
  refine ⟨hcount, hagrees, ?_, fun call db e => step_error⟩
  rintro pre ⟨post, rfl⟩
  show _ ≤ currentFencingEpoch ((machine c).exec (pre ++ post) Database.empty) scope
  rw [Machine.exec_append]
  exact current_mono post _ scope

open Scenario in
theorem epochs_agree_with_evidence_one_advance :
    ((machine crates).exec calls Database.empty).recordedEpoch crates "controller" = some 1 := by
  have hagrees := epochs_agree_with_evidence crates (fun n _ => (readsBack_epochPayload n).parse) calls "controller"
  have hown : OwnEvidence "controller" ((machine crates).trace calls Database.empty) := by
    unfold OwnEvidence
    decide +kernel
  rw [hagrees.2.1 hown, hagrees.1]
  decide +kernel

namespace Scenario

/-- An event that claims an epoch nobody reached. -/
def claimsSeven : Call := .append .none epochAdvanced "controller" (some (epochPayload 7)) instant

end Scenario

open Scenario in
/-- The table does not know of an advance that was only appended. -/
theorem appended_evidence_disagrees :
    ¬ ∀ (c : Crates) (calls : List Call) (scope : String),
      (∀ n < 2 ^ 63, c.parseJson (epochPayload n).toText = some (epochPayload n)) →
      ((machine c).exec calls Database.empty).recordedEpoch c scope =
        some (currentFencingEpoch ((machine c).exec calls Database.empty) scope) := by
  intro hall
  have hseven := hall crates [claimsSeven] "controller" fun n _ => (readsBack_epochPayload n).parse
  exact absurd hseven (by decide +kernel)

end Rampage.Ledger.Chain
