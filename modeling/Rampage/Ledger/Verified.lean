/-
Verification of the chain. `verifyAfter_ok_iff` frees `verify_after` from its pages: it succeeds exactly if the rows after
the given number continue the given hash, and then counts them. `ledger_always_verifies` is the invariant of the chain:
after every run of `append` and `advance_fencing_epoch`, whatever fails in it, the ledger verifies and every event is
hashed under the number its row has.
-/
import Rampage.Ledger.Chain

namespace Rampage.Ledger.Chain

section

variable {c : Crates}

/-! ## What verification checks -/

/-- The rows continue a hash: each reads as an event that continues the one before and carries its own hash. -/
def Verifies (c : Crates) : String → List Row → Prop
  | _, [] => True
  | expected, row :: rows =>
    ∃ event, row.read c = .ok event ∧ checkEvent c event expected = .ok () ∧ Verifies c event.eventHash rows

/-- The hash that the row after these has to continue. -/
def endHash : String → List Row → String
  | expected, [] => expected
  | expected, row :: rows => endHash (row.eventHash.getD expected) rows

theorem endHash_append (expected : String) (l₁ l₂ : List Row) :
    endHash expected (l₁ ++ l₂) = endHash (endHash expected l₁) l₂ := by
  induction l₁ generalizing expected with
  | nil => rfl
  | cons row rows ih => exact ih _

theorem endHash_snoc (expected : String) (rows : List Row) (row : Row) :
    endHash expected (rows ++ [row]) = row.eventHash.getD (endHash expected rows) :=
  endHash_append expected rows [row]

theorem Row.read_ok {row : Row} {event : LedgerEvent} (h : row.read c = .ok event) :
    0 ≤ row.sequence ∧ event.sequence = row.sequence.toNat ∧ row.eventHash = some event.eventHash := by
  unfold Row.read at h
  split at h
  · cases h
  rename_i hnonneg
  split at h
  · rename_i hash _ _ _ _ _ hhash
    split at h
    · cases h
      exact ⟨Int.not_lt.1 hnonneg, rfl, hhash⟩
    · cases h
  · cases h

theorem endHash_cons {expected : String} {row : Row} {rows : List Row} {event : LedgerEvent}
    (h : row.read c = .ok event) : endHash expected (row :: rows) = endHash event.eventHash rows := by
  rw [endHash, (Row.read_ok h).2.2]
  rfl

/-- A chain can be checked in two parts. -/
theorem verifies_append {expected : String} {l₁ l₂ : List Row} :
    Verifies c expected (l₁ ++ l₂) ↔ Verifies c expected l₁ ∧ Verifies c (endHash expected l₁) l₂ := by
  induction l₁ generalizing expected with
  | nil => simp [Verifies, endHash]
  | cons row rows ih =>
    constructor
    · rintro ⟨event, hread, hcheck, hrest⟩
      obtain ⟨h₁, h₂⟩ := ih.1 hrest
      refine ⟨⟨event, hread, hcheck, h₁⟩, ?_⟩
      rw [endHash_cons hread]
      exact h₂
    · rintro ⟨⟨event, hread, hcheck, h₁⟩, h₂⟩
      rw [endHash_cons hread] at h₂
      exact ⟨event, hread, hcheck, ih.2 ⟨h₁, h₂⟩⟩

/-! ## Pages -/

theorem readRows_ok {rows : List Row} {events : List LedgerEvent} (h : readRows c rows = .ok events) :
    events.length = rows.length ∧ events.getLast?.map (·.sequence) = rows.getLast?.map (·.sequence.toNat) := by
  induction rows generalizing events with
  | nil =>
    cases h
    exact ⟨rfl, rfl⟩
  | cons row rows ih =>
    unfold readRows at h
    split at h
    · cases h
    rename_i event hread
    split at h
    · cases h
    rename_i rest hrest
    cases h
    obtain ⟨hlen, hlast⟩ := ih hrest
    refine ⟨by simp [hlen], ?_⟩
    cases rows with
    | nil =>
      cases hrest
      simp [(Row.read_ok hread).2.1]
    | cons r rows =>
      cases rest with
      | nil => simp at hlen
      | cons e rest =>
        rw [List.getLast?_cons_cons, List.getLast?_cons_cons]
        exact hlast

/-- A page passes exactly if its rows continue the chain. -/
theorem page_ok_iff {rows : List Row} {expected next : String} :
    (∃ events, readRows c rows = .ok events ∧ checkPage c events expected = .ok next) ↔
      Verifies c expected rows ∧ next = endHash expected rows := by
  induction rows generalizing expected with
  | nil =>
    constructor
    · rintro ⟨events, hread, hcheck⟩
      cases hread
      cases hcheck
      exact ⟨trivial, rfl⟩
    · rintro ⟨-, rfl⟩
      exact ⟨[], rfl, rfl⟩
  | cons row rows ih =>
    constructor
    · rintro ⟨events, hread, hcheck⟩
      unfold readRows at hread
      split at hread
      · cases hread
      rename_i event hevent
      split at hread
      · cases hread
      rename_i rest hrest
      cases hread
      unfold checkPage at hcheck
      split at hcheck
      · cases hcheck
      rename_i hone
      obtain ⟨hverifies, hnext⟩ := ih.1 ⟨rest, hrest, hcheck⟩
      rw [endHash_cons hevent]
      exact ⟨⟨event, hevent, hone, hverifies⟩, hnext⟩
    -- a chain that verifies reads back and passes
    · rintro ⟨⟨event, hevent, hone, hverifies⟩, hnext⟩
      rw [endHash_cons hevent] at hnext
      obtain ⟨rest, hrest, hcheck⟩ := ih.2 ⟨hverifies, hnext⟩
      refine ⟨event :: rest, ?_, ?_⟩
      · unfold readRows
        rw [hevent]
        dsimp only
        rw [hrest]
      · unfold checkPage
        rw [hone]
        exact hcheck

/-- After the last row of a page come the rows that were not on it. -/
theorem after_of_append {db : Database} {a : Nat} {page rest : List Row} {last : Row} (h : db.after a = page ++ rest)
    (hlast : page.getLast? = some last) : db.after last.sequence.toNat = rest := by
  have hmem : last ∈ db.after a := by
    rw [h]
    exact List.mem_append_left _ (List.mem_of_getLast? hlast)
  have hpos : (a : Int) < last.sequence := by
    have := (List.mem_filter.1 hmem).2
    simpa using this
  have hsub : db.after last.sequence.toNat = (db.after a).filter fun row => last.sequence < row.sequence := by
    unfold Database.after
    rw [List.filter_filter]
    refine List.filter_congr ?_
    intro row _
    rw [Int.toNat_of_nonneg (by omega)]
    by_cases hlt : last.sequence < row.sequence
    · simp only [hlt, decide_true, Bool.true_and]
      symm
      simp only [decide_eq_true_eq]
      omega
    · simp [hlt]
  have hsorted : (page ++ rest).Pairwise fun a b => a.sequence < b.sequence := by
    rw [← h]
    exact db.sorted.sublist List.filter_sublist
  -- the rows of the page come up to its last, the others after it
  obtain ⟨hpage, -, hcross⟩ := List.pairwise_append.1 hsorted
  obtain ⟨init, rfl⟩ : ∃ init, page = init ++ [last] := by
    exact List.getLast?_eq_some_iff.1 hlast
  rw [hsub, h, List.filter_append, List.filter_eq_nil_iff.2, List.nil_append, List.filter_eq_self.2]
  · intro row hrow
    have := hcross last (by simp) row hrow
    simpa using this
  · intro row hrow
    rcases List.mem_append.1 hrow with hin | hin
    · have := (List.pairwise_append.1 hpage).2.2 row hin last (List.mem_singleton_self last)
      simp only [decide_eq_true_eq]
      omega
    · rw [List.mem_singleton.1 hin]
      simp

/-- The loop over the pages checks the rows after the given number as one list. -/
theorem verifyPages_ok_iff {db : Database} {fuel a : Nat} {expected : String} {verified n : Nat}
    (hfuel : (db.after a).length < fuel) (ha : a < 2 ^ 63) :
    verifyPages c db fuel a expected verified = .ok n ↔
      Verifies c expected (db.after a) ∧ n = verified + (db.after a).length := by
  induction fuel generalizing a expected verified with
  | zero => omega
  | succ fuel ih =>
    -- a page, and what is left for the pages after it
    have hsplit := (List.take_append_drop 10000 (db.after a)).symm
    generalize hp : (db.after a).take 10000 = page at hsplit
    generalize (db.after a).drop 10000 = rest at hsplit
    have hevents : db.events c a 10000 = readRows c page := by
      unfold Database.events
      rw [if_neg (by omega), Nat.min_self, hp]
    unfold verifyPages
    rw [hevents]
    have hpage := @page_ok_iff c page expected
    cases hlast : page.getLast? with
    | none =>
      obtain rfl := List.getLast?_eq_none_iff.1 hlast
      have hnil : db.after a = [] := by
        rcases List.take_eq_nil_iff.1 hp with h | h
        · cases h
        · exact h
      rw [hnil]
      simp [readRows, Verifies, eq_comm]
    | some last =>
      have hafter := after_of_append hsplit hlast
      -- the next page starts after the last row of this one
      have hbound : last.sequence.toNat < 2 ^ 63 := by
        have hin : last ∈ db.after a := by
          rw [hsplit]
          exact List.mem_append_left _ (List.mem_of_getLast? hlast)
        have := db.bounded last (List.mem_filter.1 hin).1
        omega
      have hpos : 0 < page.length := List.length_pos_of_ne_nil fun hnil => by simp [hnil] at hlast
      rw [hsplit, verifies_append, List.length_append]
      rw [hsplit, List.length_append] at hfuel
      cases hread : readRows c page with
      | error e =>
        have hno : ¬ Verifies c expected page := by
          intro hv
          obtain ⟨events, hok, -⟩ := hpage.2 ⟨hv, rfl⟩
          rw [hread] at hok
          cases hok
        simp [hno]
      | ok events =>
        obtain ⟨hlen, hseq⟩ := readRows_ok hread
        rw [hlast] at hseq
        cases hend : events.getLast? with
        | none => simp [hend] at hseq
        | some final =>
          rw [hend] at hseq
          have hfinal : final.sequence = last.sequence.toNat := by simpa using hseq
          dsimp only
          rw [hend]
          dsimp only
          cases hcheck : checkPage c events expected with
          | error e =>
            have hno : ¬ Verifies c expected page := by
              intro hv
              obtain ⟨events', hok, hgood⟩ := hpage.2 ⟨hv, rfl⟩
              rw [hread] at hok
              cases hok
              rw [hcheck] at hgood
              cases hgood
            simp [hno]
          | ok next =>
            obtain ⟨hv, rfl⟩ := hpage.1 ⟨events, hread, hcheck⟩
            rw [hfinal, ih (by rw [hafter]; omega) hbound, hafter, hlen]
            simp only [hv, true_and, Nat.add_assoc]

/-- `verify_after` succeeds exactly if the rows after the given number continue the given hash, and counts them. -/
theorem verifyAfter_ok_iff {db : Database} {a : Nat} {expected : String} {n : Nat} (ha : a < 2 ^ 63) :
    db.verifyAfter c a expected = .ok n ↔ Verifies c expected (db.after a) ∧ n = (db.after a).length := by
  have hfuel : (db.after a).length < db.rows.length + 1 := Nat.lt_succ_of_le (List.length_filter_le _ _)
  rw [Database.verifyAfter, verifyPages_ok_iff hfuel ha, Nat.zero_add]

/-! ## What a call can do -/

theorem transaction_cases {α : Type} {f : Faults} {body : Tx α} {db db' : Database} {r : Except LedgerError α}
    (h : transaction f body db = (r, db')) :
    ((∃ e, r = .error e) ∧ db' = db) ∨ ∃ a, r = .ok a ∧ body db = (.ok a, db') := by
  unfold transaction at h
  split at h
  · cases h
    exact Or.inl ⟨⟨_, rfl⟩, rfl⟩
  split at h
  · cases h
    exact Or.inl ⟨⟨_, rfl⟩, rfl⟩
  · rename_i a db₁ hbody
    split at h
    · cases h
      exact Or.inl ⟨⟨_, rfl⟩, rfl⟩
    · cases h
      exact Or.inr ⟨a, rfl, hbody⟩

/-- What a committed event is: it continues the last row, under the number after it. -/
def nextEvent (c : Crates) (eventType subjectId : String) (payload : Json) (now : DateTime) (previous : Option (Nat × String)) :
    LedgerEvent :=
  let sequence := (previous.map (·.1 + 1)).getD 1
  let previousHash := (previous.map (·.2)).getD genesisHash
  ⟨sequence, now, eventType, subjectId, payload, previousHash,
    calculateHash c ⟨sequence, now, eventType, subjectId, payload.toText, previousHash⟩⟩

theorem appendInTransaction_ok {f : Faults} {eventType subjectId : String} {payload : Option Json} {now : DateTime}
    {db db' : Database} {e : LedgerEvent}
    (h : appendInTransaction c f eventType subjectId payload now db = (.ok e, db')) :
    ∃ v previous, payload = some v ∧ db.last = .ok previous ∧ e = nextEvent c eventType subjectId v now previous ∧
      db.insert now.toRfc3339 eventType subjectId v.toText e.previousHash e.eventHash = .ok db' := by
  unfold appendInTransaction at h
  cases payload with
  | none => cases h
  | some v =>
    dsimp only at h
    obtain ⟨_, db₁, hselect, h⟩ := Handler.bind_ok h
    obtain ⟨-, rfl⟩ := Handler.ensure_ok hselect
    rw [Handler.get_bind] at h
    obtain ⟨previous, db₁, hprevious, h⟩ := Handler.bind_ok h
    obtain ⟨hlast, rfl⟩ := Handler.ofExcept_ok hprevious
    obtain ⟨_, db₁, hinsert, h⟩ := Handler.bind_ok h
    obtain ⟨-, rfl⟩ := Handler.ensure_ok hinsert
    obtain ⟨db₂, db₁, hnew, h⟩ := Handler.bind_ok h
    obtain ⟨hrow, rfl⟩ := Handler.ofExcept_ok hnew
    rw [Handler.modify_bind] at h
    obtain ⟨rfl, rfl⟩ := Handler.pure_ok h
    exact ⟨v, previous, rfl, hlast, rfl, hrow⟩

theorem Database.insert_ok {db db' : Database} {recordedAt eventType subjectId payloadJson previousHash eventHash : String}
    (h : db.insert recordedAt eventType subjectId payloadJson previousHash eventHash = .ok db') :
    db'.rows = db.rows ++ [⟨db.nextSequence, some recordedAt, some eventType, some subjectId, some payloadJson,
        some previousHash, some eventHash⟩] ∧ db'.autoincrement = db.nextSequence.toNat ∧ db'.epochs = db.epochs := by
  unfold Database.insert at h
  split at h
  · cases h
  · cases h
    exact ⟨rfl, rfl, rfl⟩

theorem advanceFencingEpoch_ok {f : Faults} {scope : String} {now : DateTime} {db db' : Database} {n : Nat}
    (h : advanceFencingEpoch c f scope now db = (.ok n, db')) :
    n = currentFencingEpoch db scope + 1 ∧ n < 2 ^ 63 ∧
      ∃ e, appendInTransaction c f epochAdvanced scope (some (epochPayload n)) now
        { db with epochs := AList.insert scope n db.epochs } = (.ok e, db') := by
  unfold advanceFencingEpoch at h
  rcases transaction_cases h with ⟨⟨e, he⟩, -⟩ | ⟨a, ha, hbody⟩
  · cases he
  cases ha
  obtain ⟨_, db₁, hselect, hbody⟩ := Handler.bind_ok hbody
  obtain ⟨-, rfl⟩ := Handler.ensure_ok hselect
  rw [Handler.get_bind] at hbody
  obtain ⟨_, db₁, hcheck, hbody⟩ := Handler.bind_ok hbody
  obtain ⟨hbound, rfl⟩ := Handler.ensure_ok hcheck
  obtain ⟨_, db₁, hupsert, hbody⟩ := Handler.bind_ok hbody
  obtain ⟨-, rfl⟩ := Handler.ensure_ok hupsert
  rw [Handler.modify_bind] at hbody
  obtain ⟨e, db₁, happend, hbody⟩ := Handler.bind_ok hbody
  obtain ⟨rfl, rfl⟩ := Handler.pure_ok hbody
  exact ⟨rfl, of_decide_eq_true hbound, e, happend⟩

/-! ## The invariant of the chain -/

/-- The text of an instant reads back as the instant, and the text of a payload as a payload with the same text. -/
structure ReadsBack (c : Crates) (now : DateTime) (v : Json) : Prop where
  instant : c.parseRfc3339 now.toRfc3339 = some now
  payload : ∃ w, c.parseJson v.toText = some w ∧ w.toText = v.toText

theorem ReadsBack.parse {now : DateTime} {v : Json} (h : ReadsBack c now v) : c.parseJson v.toText = some v := by
  obtain ⟨w, hw, htext⟩ := h.payload
  rw [hw, Json.toText_injective htext]

/-- The row holds an event hashed under the number of the row. -/
def Row.HashesOwnSequence (c : Crates) (row : Row) : Prop :=
  ∃ (t : DateTime) (eventType subjectId : String) (v : Json) (previousHash : String),
    row = ⟨row.sequence, some t.toRfc3339, some eventType, some subjectId, some v.toText, some previousHash,
      some (calculateHash c ⟨row.sequence.toNat, t, eventType, subjectId, v.toText, previousHash⟩)⟩

/-- The rows are numbered from 1, each holds an event hashed under its number, and together they are a chain. -/
structure Sound (c : Crates) (db : Database) : Prop where
  numbered : db.rows.map (·.sequence) = (List.range db.rows.length).map fun i : Nat => ((i + 1 : Nat) : Int)
  autoincrement : db.autoincrement = db.rows.length
  hashed : ∀ row ∈ db.rows, row.HashesOwnSequence c
  chain : Verifies c genesisHash db.rows

theorem sound_empty : Sound c Database.empty := ⟨rfl, rfl, by simp [Database.empty], trivial⟩

/-- The number of a last row is the number of rows. -/
theorem Sound.last {db : Database} (h : Sound c db) {previous : Option (Nat × String)} (hlast : db.last = .ok previous) :
    (previous.map (·.1 + 1)).getD 1 = db.rows.length + 1 ∧ (previous.map (·.2)).getD genesisHash = endHash genesisHash db.rows ∧
      db.nextSequence = db.rows.length + 1 := by
  have hauto := h.autoincrement
  have hnumbered := h.numbered
  unfold Database.last at hlast
  unfold Database.nextSequence
  rw [hauto]
  rcases List.eq_nil_or_concat' db.rows with hrows | ⟨rest, row, hrows⟩
  · rw [hrows] at hlast ⊢
    cases hlast
    exact ⟨rfl, rfl, rfl⟩
  · rw [hrows] at hlast hnumbered ⊢
    have hseq : row.sequence = rest.length + 1 := by
      have := congrArg List.getLast? hnumbered
      simpa [List.range_succ] using this
    rw [List.getLast?_append] at hlast ⊢
    simp only [List.getLast?_singleton, Option.some_or] at hlast ⊢
    split at hlast
    · cases hlast
    rename_i hash hhash
    split at hlast
    · cases hlast
    · cases hlast
      refine ⟨?_, ?_, ?_⟩
      · simp only [Option.map_some, Option.getD_some, List.length_append, List.length_singleton]
        omega
      · rw [endHash_snoc, hhash]
        rfl
      · simp only [Option.map_some, Option.getD_some, List.length_append, List.length_singleton]
        omega

/-- An appended event keeps the invariant. -/
theorem Sound.insert {db db' : Database} (h : Sound c db) {eventType subjectId : String} {v : Json} {now : DateTime}
    {previous : Option (Nat × String)} (hlast : db.last = .ok previous) (hv : ReadsBack c now v)
    (hinsert : db.insert now.toRfc3339 eventType subjectId v.toText (nextEvent c eventType subjectId v now previous).previousHash
      (nextEvent c eventType subjectId v now previous).eventHash = .ok db') :
    Sound c db' ∧ db'.rows.length = db.rows.length + 1 := by
  obtain ⟨hsequence, hprevious, hnext⟩ := h.last hlast
  obtain ⟨hrows, hauto, -⟩ := Database.insert_ok hinsert
  have hlength : db'.rows.length = db.rows.length + 1 := by
    rw [hrows]
    simp
  have hown : db.nextSequence.toNat = (previous.map (·.1 + 1)).getD 1 := by
    rw [hnext, hsequence]
    omega
  refine ⟨⟨?_, ?_, ?_, ?_⟩, hlength⟩
  · rw [hlength, hrows, List.map_append, h.numbered, List.range_succ, List.map_append, hnext]
    rfl
  · rw [hauto, hlength, hnext]
    omega
  · intro row hrow
    rw [hrows] at hrow
    rcases List.mem_append.1 hrow with hold | hnew
    · exact h.hashed row hold
    · rw [List.mem_singleton.1 hnew]
      refine ⟨now, eventType, subjectId, v, (previous.map (·.2)).getD genesisHash, ?_⟩
      simp only [nextEvent, hown]
  · rw [hrows, verifies_append]
    refine ⟨h.chain, nextEvent c eventType subjectId v now previous, ?_, ?_, trivial⟩
    · unfold Row.read
      rw [if_neg (by dsimp only; omega)]
      simp only [hv.instant, hv.parse, hown, nextEvent]
    · unfold checkEvent
      rw [if_neg (by simp [nextEvent, hprevious]), if_neg (by simp [nextEvent])]

/-! ## Every run -/

/-- What a call appends reads back. -/
def Call.ReadsBack (c : Crates) : Call → Prop
  | .append _ _ _ payload now => ∀ v, payload = some v → Chain.ReadsBack c now v
  | .advance _ _ now => ∀ n, Chain.ReadsBack c now (epochPayload n)

/-- A call commits one event, or changes nothing. -/
theorem step_cases {call : Call} {db : Database} :
    ((∃ e, (step c call db).1 = .error e) ∧ (step c call db).2 = db) ∨
      ((∃ a, (step c call db).1 = .ok a) ∧ ∃ (f : Faults) (eventType subjectId : String) (v : Json) (now : DateTime)
        (epochs : Table String Nat) (e : LedgerEvent), (call.ReadsBack c → Chain.ReadsBack c now v) ∧
        appendInTransaction c f eventType subjectId (some v) now { db with epochs := epochs } = (.ok e, (step c call db).2)) := by
  cases call with
  | append f eventType subjectId payload now =>
    rcases h : append c f eventType subjectId payload now db with ⟨r, db'⟩
    have hstep : step c (.append f eventType subjectId payload now) db = (r.map .event, db') := by
      simp only [step, h]
    rw [hstep]
    rcases transaction_cases h with ⟨⟨e, rfl⟩, rfl⟩ | ⟨e, rfl, hbody⟩
    · exact Or.inl ⟨⟨e, rfl⟩, rfl⟩
    · obtain ⟨v, previous, rfl, -⟩ := appendInTransaction_ok hbody
      refine Or.inr ⟨⟨_, rfl⟩, f, eventType, subjectId, v, now, db.epochs, e, ?_, hbody⟩
      exact fun hcall => hcall v rfl
  | advance f scope now =>
    rcases h : advanceFencingEpoch c f scope now db with ⟨r, db'⟩
    have hstep : step c (.advance f scope now) db = (r.map .epoch, db') := by
      simp only [step, h]
    rw [hstep]
    rcases transaction_cases h with ⟨⟨e, rfl⟩, rfl⟩ | ⟨n, rfl, -⟩
    · exact Or.inl ⟨⟨e, rfl⟩, rfl⟩
    · obtain ⟨-, -, e, happend⟩ := advanceFencingEpoch_ok h
      exact Or.inr ⟨⟨_, rfl⟩, f, epochAdvanced, scope, epochPayload n, now, _, e, fun hcall => hcall n, happend⟩

/-- The number of calls of a history that committed. -/
def committed (tr : List (Call × Except LedgerError Answer)) : Nat := tr.countP fun e => e.2.isOk

theorem committed_cons (call : Call) (r : Except LedgerError Answer) (tr : List (Call × Except LedgerError Answer)) :
    committed ((call, r) :: tr) = committed tr + if r.isOk then 1 else 0 := by
  simp [committed, List.countP_cons]

/-- A call keeps the chain, and adds a row exactly if it succeeds. -/
theorem sound_step {call : Call} {db : Database} (h : Sound c db) (hcall : call.ReadsBack c) :
    Sound c (step c call db).2 ∧
      (step c call db).2.rows.length = db.rows.length + if (step c call db).1.isOk then 1 else 0 := by
  rcases @step_cases c call db with ⟨⟨e, he⟩, hdb⟩ | ⟨⟨a, ha⟩, f, eventType, subjectId, v, now, epochs, e, hv, happend⟩
  · rw [he, hdb]
    exact ⟨h, rfl⟩
  · obtain ⟨v', previous, hsome, hlast, rfl, hinsert⟩ := appendInTransaction_ok happend
    cases hsome
    have hsound : Sound c { db with epochs := epochs } := ⟨h.numbered, h.autoincrement, h.hashed, h.chain⟩
    rw [ha]
    exact hsound.insert hlast (hv hcall) hinsert

/-- After every run the chain is sound and holds one row for each committed call. -/
theorem sound_exec {calls : List Call} (h : ∀ call ∈ calls, call.ReadsBack c) :
    Sound c ((machine c).exec calls Database.empty) ∧
      ((machine c).exec calls Database.empty).rows.length = committed ((machine c).trace calls Database.empty) := by
  have hrun : ∀ (calls : List Call) (db : Database), (∀ call ∈ calls, call.ReadsBack c) → Sound c db →
      Sound c ((machine c).exec calls db) ∧
        ((machine c).exec calls db).rows.length = db.rows.length + committed ((machine c).trace calls db) := by
    intro calls
    induction calls with
    | nil => exact fun db _ hdb => ⟨hdb, rfl⟩
    | cons call calls ih =>
      intro db hcalls hdb
      obtain ⟨hsound, hlen⟩ := sound_step hdb (hcalls call (List.mem_cons_self ..))
      obtain ⟨hrest, hlen'⟩ := ih (step c call db).2 (fun x hx => hcalls x (List.mem_cons_of_mem _ hx)) hsound
      refine ⟨hrest, ?_⟩
      show ((machine c).exec calls (step c call db).2).rows.length =
        db.rows.length + committed ((call, (step c call db).1) :: (machine c).trace calls (step c call db).2)
      rw [hlen', hlen, committed_cons]
      omega
  obtain ⟨hsound, hlen⟩ := hrun calls Database.empty h sound_empty
  exact ⟨hsound, by simpa [Database.empty] using hlen⟩

/-- A sound ledger verifies. -/
theorem Sound.verify {db : Database} (h : Sound c db) : db.verify c = .ok db.rows.length := by
  have hafter : db.after 0 = db.rows := by
    refine List.filter_eq_self.2 ?_
    intro row hrow
    have hin : row.sequence ∈ db.rows.map (·.sequence) := List.mem_map_of_mem hrow
    rw [h.numbered] at hin
    obtain ⟨i, -, hi⟩ := List.mem_map.1 hin
    simp only [decide_eq_true_eq]
    omega
  refine (verifyAfter_ok_iff (by omega)).2 ?_
  rw [hafter]
  exact ⟨h.chain, rfl⟩

end

/-- After every prefix of every run of `append` and `advance_fencing_epoch` on a new ledger, whatever statements fail in
it, `verify` answers with the number of committed events, and every row holds an event that was hashed under the number
of the row. -/
theorem ledger_always_verifies (c : Crates) (calls : List Call) (h : ∀ call ∈ calls, call.ReadsBack c) (pre : List Call)
    (hpre : pre <+: calls) :
    let db := (machine c).exec pre Database.empty
    db.verify c = .ok (committed ((machine c).trace pre Database.empty)) ∧ ∀ row ∈ db.rows, row.HashesOwnSequence c := by
  intro db
  obtain ⟨hsound, hlen⟩ := sound_exec fun call hcall => h call (hpre.subset hcall)
  exact ⟨hlen ▸ hsound.verify, hsound.hashed⟩

/-! ## A ledger of two events -/

namespace Scenario

/-- Six nanoseconds after 03:04:05 on the second of January 2026. -/
def instant : DateTime :=
  ⟨2026, 1, 2, 3, 4, 5, 6, by decide, by decide, by decide, by decide, by decide, by decide⟩

/-- The payload of the first row. -/
def payload : Json := .obj [("a", .num (.ofNat 1))]

/-- SHA-256 of the first event. -/
def firstDigest : List UInt8 :=
  [119, 193, 199, 204, 125, 129, 95, 220, 228, 125, 88, 17, 190, 0, 150, 187,
    130, 240, 23, 173, 69, 159, 204, 73, 230, 19, 249, 121, 227, 255, 222, 141]

/-- SHA-256 of the second event. -/
def secondDigest : List UInt8 :=
  [222, 50, 226, 237, 22, 194, 229, 42, 51, 202, 51, 114, 209, 74, 122, 168,
    73, 106, 172, 213, 137, 137, 188, 171, 91, 64, 117, 53, 107, 193, 176, 120]

/-- What the first hash is taken of. -/
def firstInput : HashInput := ⟨1, instant, "job.proposed", "job-1", payload.toText, genesisHash⟩

/-- What the second hash is taken of. -/
def secondInput : HashInput :=
  ⟨2, instant, epochAdvanced, "controller", (epochPayload 1).toText, Hex.encode firstDigest⟩

/-- The payload of an advance that has the given text. -/
def readEpoch (s : String) : Option Json :=
  let v := epochPayload (Nat.ofDigitChars 10 ((s.toList.drop 17).dropLast) 0)
  if v.toText = s then some v else none

/-- The crates, on the texts that occur. -/
def crates : Crates where
  sha256 b :=
    if b = firstInput.preimage then firstDigest else if b = secondInput.preimage then secondDigest
    else List.replicate 32 0
  parseRfc3339 s := if s = instant.toRfc3339 ∨ s = instant.toRfc3339Nanos then some instant else none
  parseJson s := if s = payload.toText then some payload else readEpoch s

theorem readEpoch_toText (n : Nat) : readEpoch (epochPayload n).toText = some (epochPayload n) := by
  have htext : (epochPayload n).toText.toList = "\x7b\"fencing_epoch\":".toList ++ (Nat.toDigits 10 n ++ ['}']) := by
    rw [Json.toText, String.toList_ofList]
    rfl
  have hdigits : ((epochPayload n).toText.toList.drop 17).dropLast = Nat.toDigits 10 n := by
    rw [htext]
    exact List.dropLast_concat
  unfold readEpoch
  rw [hdigits, Nat.ofDigitChars_toDigits (by omega) (by omega)]
  simp

theorem readsBack_payload : ReadsBack crates instant payload :=
  ⟨by simp [crates], payload, by simp [crates], rfl⟩

theorem readsBack_epochPayload (n : Nat) : ReadsBack crates instant (epochPayload n) := by
  refine ⟨by simp [crates], ?_⟩
  by_cases h : (epochPayload n).toText = payload.toText
  · exact ⟨payload, by simp [crates, h], h.symm⟩
  · refine ⟨epochPayload n, ?_, rfl⟩
    show (if (epochPayload n).toText = payload.toText then some payload else readEpoch (epochPayload n).toText) = _
    rw [if_neg h, readEpoch_toText]

/-- An event, an advance whose insert fails, an advance, and an event that cannot be written as JSON. -/
def calls : List Call :=
  [.append .none "job.proposed" "job-1" (some payload) instant,
    .advance { Faults.none with insert := true } "controller" instant,
    .advance .none "controller" instant,
    .append .none "job.blocked" "job-1" none instant]

theorem readsBack_calls : ∀ call ∈ calls, call.ReadsBack crates := by
  intro call hcall
  simp only [calls, List.mem_cons, List.not_mem_nil, or_false] at hcall
  rcases hcall with rfl | rfl | rfl | rfl
  · rintro v ⟨⟩
    exact readsBack_payload
  · exact readsBack_epochPayload
  · exact readsBack_epochPayload
  · rintro v ⟨⟩

end Scenario

open Scenario in
theorem ledger_always_verifies_two_events : ((machine crates).exec calls Database.empty).verify crates = .ok 2 := by
  have h := (ledger_always_verifies crates calls readsBack_calls calls (List.prefix_refl _)).1
  rw [h]
  decide +kernel

end Rampage.Ledger.Chain
