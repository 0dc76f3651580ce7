/-
The ledger database: the table of hash-chained events and the table of fencing epochs, with `append`,
`advance_fencing_epoch`, the paged reads and `verify_after`. A statement can fail; the transaction it belongs to is then
rolled back. Rows are as SQLite holds them: a column may hold a value that does not read as text. SHA-256 and the parsers
of `chrono` and `serde_json` are parameters (`Crates`).
-/
import Rampage.Lib.Handler
import Rampage.Lib.Hex
import Rampage.Lib.Json
import Rampage.Lib.Machine
import Rampage.Lib.Table

namespace Rampage.Ledger.Chain

/-! ## Instants -/

/-- A leap year of the Gregorian calendar. -/
def isLeapYear (year : Int) : Bool := year % 4 == 0 && (year % 100 != 0 || year % 400 == 0)

/-- The days of a month. -/
def daysIn (year : Int) (month : Nat) : Nat :=
  if month = 2 then if isLeapYear year then 29 else 28
  else if month = 4 ∨ month = 6 ∨ month = 9 ∨ month = 11 then 30 else 31

/-- `DateTime<Utc>`, with the second 60 for a leap second. -/
structure DateTime where
  year : Int
  month : Nat
  day : Nat
  hour : Nat
  minute : Nat
  second : Nat
  nanosecond : Nat
  month_range : 1 ≤ month ∧ month ≤ 12
  day_range : 1 ≤ day ∧ day ≤ daysIn year month
  hour_lt : hour < 24
  minute_lt : minute < 60
  second_lt : second < 61
  nanosecond_lt : nanosecond < 10 ^ 9
deriving DecidableEq

/-- The last `k` decimal digits of a number. -/
def padded : Nat → Nat → List Char
  | 0, _ => []
  | k + 1, n => padded k (n / 10) ++ [Nat.digitChar (n % 10)]

namespace DateTime

/-- Only such years can be written in RFC 3339. -/
def hasFourDigitYear (t : DateTime) : Bool := decide (0 ≤ t.year) && decide (t.year ≤ 9999)

/-- The year; one without four digits gets an explicit sign. -/
def yearText (t : DateTime) : List Char :=
  if t.hasFourDigitYear then padded 4 t.year.toNat
  else (if t.year < 0 then '-' else '+') ::
    (if t.year.natAbs < 10000 then padded 4 t.year.natAbs else Nat.toDigits 10 t.year.natAbs)

/-- Date and time up to the seconds. -/
def secondsText (t : DateTime) : List Char :=
  t.yearText ++ '-' :: (padded 2 t.month ++ '-' :: (padded 2 t.day ++ 'T' :: (padded 2 t.hour ++ ':' ::
    (padded 2 t.minute ++ ':' :: padded 2 t.second))))

/-- `to_rfc3339`: the fraction in as many groups of three digits as it needs. -/
def toRfc3339 (t : DateTime) : String :=
  let fraction :=
    if t.nanosecond = 0 then []
    else if t.nanosecond % 1000000 = 0 then '.' :: padded 3 (t.nanosecond / 1000000)
    else if t.nanosecond % 1000 = 0 then '.' :: padded 6 (t.nanosecond / 1000)
    else '.' :: padded 9 t.nanosecond
  String.ofList (t.secondsText ++ fraction ++ ['+', '0', '0', ':', '0', '0'])

/-- `to_rfc3339_opts(SecondsFormat::Nanos, true)`. -/
def toRfc3339Nanos (t : DateTime) : String := String.ofList (t.secondsText ++ '.' :: (padded 9 t.nanosecond ++ ['Z']))

end DateTime

/-! ## Events and rows -/

/-- What the ledger takes from other crates. -/
structure Crates where
  sha256 : List UInt8 → List UInt8
  /-- `DateTime::parse_from_rfc3339`, in UTC. -/
  parseRfc3339 : String → Option DateTime
  /-- `serde_json::from_str`. -/
  parseJson : String → Option Json

/-- A row of the event table, with the link to the row before it. -/
structure LedgerEvent where
  sequence : Nat
  recordedAt : DateTime
  eventType : String
  subjectId : String
  payload : Json
  previousHash : String
  eventHash : String

/-- What the ledger fails with; the hashes of a broken link stand in its text. -/
inductive LedgerError
  | database
  | serialization
  | brokenLink (sequence : Nat) (expected actual : String)
  | hashMismatch (sequence : Nat)
  | fencingEpochOverflow (scope : String)
deriving DecidableEq

/-- What stands in place of a previous hash in the first row. -/
def genesisHash : String := "GENESIS"

/-- What `calculate_hash` is called with. -/
structure HashInput where
  sequence : Nat
  recordedAt : DateTime
  eventType : String
  subjectId : String
  payloadJson : String
  previousHash : String

/-- `u64::to_be_bytes`. -/
def toBeBytes (n : Nat) : List UInt8 := (List.range 8).map fun i => UInt8.ofNat (n / 256 ^ (7 - i))

/-- The bytes that are hashed. -/
def HashInput.preimage (x : HashInput) : List UInt8 :=
  toBeBytes x.sequence ++ (utf8 x.recordedAt.toRfc3339Nanos ++ (utf8 x.eventType ++ 0 :: (utf8 x.subjectId ++ 0 ::
    (utf8 x.payloadJson ++ 0 :: utf8 x.previousHash))))

/-- A row of `ledger_events`. A column is `none` if its value does not read as text. -/
structure Row where
  sequence : Int
  recordedAt : Option String
  eventType : Option String
  subjectId : Option String
  payloadJson : Option String
  previousHash : Option String
  eventHash : Option String
deriving DecidableEq

/-- The two tables; sequence numbers are a key and of 64 bits with sign. `autoincrement` is the largest number given so
far, as `sqlite_sequence` keeps it. -/
structure Database where
  rows : List Row
  sorted : rows.Pairwise fun a b => a.sequence < b.sequence
  bounded : ∀ row ∈ rows, row.sequence < 2 ^ 63
  autoincrement : Nat
  epochs : Table String Nat

/-- A database after its tables are made. -/
def Database.empty : Database := ⟨[], List.Pairwise.nil, by simp, 0, ∅⟩

section

variable (c : Crates)

/-- `calculate_hash`. -/
def calculateHash (x : HashInput) : String := Hex.encode (c.sha256 x.preimage)

/-- The event of a row, as the queries read it. -/
def Row.read (row : Row) : Except LedgerError LedgerEvent :=
  if row.sequence < 0 then .error .database
  else match row.recordedAt, row.eventType, row.subjectId, row.payloadJson, row.previousHash, row.eventHash with
  | some timestamp, some eventType, some subjectId, some payloadJson, some previousHash, some eventHash =>
    match c.parseRfc3339 timestamp, c.parseJson payloadJson with
    | some recordedAt, some payload =>
      .ok ⟨row.sequence.toNat, recordedAt, eventType, subjectId, payload, previousHash, eventHash⟩
    | _, _ => .error .serialization
  | _, _, _, _, _, _ => .error .database

/-- All the events of a list of rows, or the error of the first that cannot be read. -/
def readRows : List Row → Except LedgerError (List LedgerEvent)
  | [] => .ok []
  | row :: rows =>
    match row.read c with
    | .error e => .error e
    | .ok event =>
      match readRows rows with
      | .error e => .error e
      | .ok events => .ok (event :: events)

/-- The rows with a sequence number above the given one. -/
def Database.after (db : Database) (sequence : Nat) : List Row := db.rows.filter fun row => (sequence : Int) < row.sequence

/-- `events`. A sequence number that SQLite cannot hold is refused. -/
def Database.events (db : Database) (afterSequence limit : Nat) : Except LedgerError (List LedgerEvent) :=
  if 2 ^ 63 ≤ afterSequence then .error .database else readRows c ((db.after afterSequence).take (min limit 10000))

/-! ## Verification -/

/-- The checks of one event. -/
def checkEvent (event : LedgerEvent) (expectedPrevious : String) : Except LedgerError Unit :=
  if event.previousHash ≠ expectedPrevious then .error (.brokenLink event.sequence expectedPrevious event.previousHash)
  else if calculateHash c ⟨event.sequence, event.recordedAt, event.eventType, event.subjectId, event.payload.toText,
      event.previousHash⟩ ≠ event.eventHash then .error (.hashMismatch event.sequence)
  else .ok ()

/-- The checks of a page: the hash the next page has to continue. -/
def checkPage : List LedgerEvent → String → Except LedgerError String
  | [], expectedPrevious => .ok expectedPrevious
  | event :: events, expectedPrevious =>
    match checkEvent c event expectedPrevious with
    | .error e => .error e
    | .ok () => checkPage events event.eventHash

/-- The loop of `verify_after`, one page a turn. The fuel is enough if it exceeds the number of rows. -/
def verifyPages (db : Database) : Nat → Nat → String → Nat → Except LedgerError Nat
  | 0, _, _, _ => .error .database
  | fuel + 1, afterSequence, expectedPrevious, verified =>
    match db.events c afterSequence 10000 with
    | .error e => .error e
    | .ok events =>
      match events.getLast? with
      | none => .ok verified
      | some last =>
        match checkPage c events expectedPrevious with
        | .error e => .error e
        | .ok expectedPrevious => verifyPages db fuel last.sequence expectedPrevious (verified + events.length)

/-- `verify_after`. -/
def Database.verifyAfter (db : Database) (afterSequence : Nat) (expectedPrevious : String) : Except LedgerError Nat :=
  verifyPages c db (db.rows.length + 1) afterSequence expectedPrevious 0

/-- `verify`. -/
def Database.verify (db : Database) : Except LedgerError Nat := db.verifyAfter c 0 genesisHash

end

/-! ## Transactions -/

/-- A transaction acts on the database or fails. -/
abbrev Tx (α : Type) := Handler Database LedgerError α

/-- Which statements of a transaction fail. -/
structure Faults where
  begin : Bool
  selectEpoch : Bool
  upsertEpoch : Bool
  selectLast : Bool
  insert : Bool
  commit : Bool
deriving DecidableEq

/-- Every statement of the transaction succeeds. -/
def Faults.none : Faults := ⟨false, false, false, false, false, false⟩

/-- A statement that may fail. -/
def statement (fails : Bool) : Tx Unit := Handler.ensure (!fails) .database

/-- A transaction commits what its body did, or nothing. -/
def transaction {α : Type} (f : Faults) (body : Tx α) (db : Database) : Except LedgerError α × Database :=
  if f.begin then (.error .database, db)
  else match body db with
  | (.error e, _) => (.error e, db)
  | (.ok a, db') => if f.commit then (.error .database, db) else (.ok a, db')

/-- `SELECT sequence, event_hash FROM ledger_events ORDER BY sequence DESC LIMIT 1`. -/
def Database.last (db : Database) : Except LedgerError (Option (Nat × String)) :=
  match db.rows.getLast? with
  | none => .ok none
  | some row =>
    match row.eventHash with
    | none => .error .database
    | some hash => if row.sequence < 0 then .error .database else .ok (some (row.sequence.toNat, hash))

/-- The sequence number AUTOINCREMENT gives to the next row. -/
def Database.nextSequence (db : Database) : Int :=
  max (db.autoincrement : Int) ((db.rows.getLast?.map (·.sequence)).getD 0) + 1

theorem Database.lt_nextSequence (db : Database) : ∀ row ∈ db.rows, row.sequence < db.nextSequence := by
  intro row hrow
  have hlast : row.sequence ≤ (db.rows.getLast?.map (·.sequence)).getD 0 := by
    have hsorted := db.sorted
    revert hrow hsorted
    generalize db.rows = rows
    intro hrow hsorted
    rcases List.eq_nil_or_concat' rows with rfl | ⟨rest, last, rfl⟩
    · cases hrow
    · rw [List.getLast?_append]
      rcases List.mem_append.1 hrow with h | h
      · have := (List.pairwise_append.1 hsorted).2.2 row h last (List.mem_singleton_self last)
        simpa using Int.le_of_lt this
      · rw [List.mem_singleton.1 h]
        simp
  unfold nextSequence
  omega

theorem Database.sorted_snoc (db : Database) {row : Row} (h : row.sequence = db.nextSequence) :
    (db.rows ++ [row]).Pairwise fun a b => a.sequence < b.sequence := by
  rw [List.pairwise_append]
  refine ⟨db.sorted, List.pairwise_singleton .., ?_⟩
  intro a ha b hb
  rw [List.mem_singleton.1 hb, h]
  exact db.lt_nextSequence a ha

theorem Database.bounded_snoc (db : Database) {row : Row} (h : row.sequence < 2 ^ 63) :
    ∀ r ∈ db.rows ++ [row], r.sequence < 2 ^ 63 := by
  intro r hr
  rcases List.mem_append.1 hr with hr | hr
  · exact db.bounded r hr
  · rw [List.mem_singleton.1 hr]
    exact h

/-- `INSERT INTO ledger_events`, under the number AUTOINCREMENT gives: it fails when the numbers are used up or the hash
is not new. -/
def Database.insert (db : Database) (recordedAt eventType subjectId payloadJson previousHash eventHash : String) :
    Except LedgerError Database :=
  if h : 2 ^ 63 ≤ db.nextSequence ∨ db.rows.any (fun row => row.eventHash == some eventHash) = true then .error .database
  else .ok
    { db with
      rows := db.rows ++ [⟨db.nextSequence, some recordedAt, some eventType, some subjectId, some payloadJson,
        some previousHash, some eventHash⟩]
      sorted := db.sorted_snoc rfl
      bounded := db.bounded_snoc (Int.not_le.1 (not_or.1 h).1)
      autoincrement := db.nextSequence.toNat }

section

variable (c : Crates)

/-- `append_in_transaction`. The payload is `none` if it cannot be turned into a JSON value. -/
def appendInTransaction (f : Faults) (eventType subjectId : String) (payload : Option Json) (now : DateTime) : Tx LedgerEvent :=
  match payload with
  | none => Handler.fail .serialization
  | some payload => do
    statement f.selectLast
    let db ← Handler.get
    let previous ← Handler.ofExcept db.last
    let sequence := (previous.map (·.1 + 1)).getD 1
    let previousHash := (previous.map (·.2)).getD genesisHash
    let eventHash := calculateHash c ⟨sequence, now, eventType, subjectId, payload.toText, previousHash⟩
    statement f.insert
    let db ← Handler.ofExcept (db.insert now.toRfc3339 eventType subjectId payload.toText previousHash eventHash)
    Handler.modify fun _ => db
    return ⟨sequence, now, eventType, subjectId, payload, previousHash, eventHash⟩

/-- `append`. -/
def append (f : Faults) (eventType subjectId : String) (payload : Option Json) (now : DateTime) :
    Database → Except LedgerError LedgerEvent × Database :=
  transaction f (appendInTransaction c f eventType subjectId payload now)

/-- The type of the events that record an advance. -/
def epochAdvanced : String := "authority.epoch.advanced"

/-- `json!({"fencing_epoch": next})`. -/
def epochPayload (next : Nat) : Json := .obj [("fencing_epoch", .num (.ofNat next))]

/-- `current_fencing_epoch`. -/
def currentFencingEpoch (db : Database) (scope : String) : Nat := (AList.lookup scope db.epochs).getD 0

/-- `advance_fencing_epoch`. -/
def advanceFencingEpoch (f : Faults) (scope : String) (now : DateTime) : Database → Except LedgerError Nat × Database :=
  transaction f do
    statement f.selectEpoch
    let db ← Handler.get
    let next := currentFencingEpoch db scope + 1
    Handler.ensure (next < 2 ^ 63) (.fencingEpochOverflow scope)
    statement f.upsertEpoch
    Handler.modify fun db => { db with epochs := AList.insert scope next db.epochs }
    let _ ← appendInTransaction c f epochAdvanced scope (some (epochPayload next)) now
    return next

/-! ## Runs -/

/-- What is asked of the ledger from outside. -/
inductive Call
  | append (f : Faults) (eventType subjectId : String) (payload : Option Json) (now : DateTime)
  | advance (f : Faults) (scope : String) (now : DateTime)

/-- What the ledger returns: the row it has added, or the epoch it has reached. -/
inductive Answer
  | event (e : LedgerEvent)
  | epoch (n : Nat)

/-- A call to the ledger; it is behind one lock. -/
def step : Call → Database → Except LedgerError Answer × Database
  | .append f eventType subjectId payload now, db =>
    let (result, db) := append c f eventType subjectId payload now db
    (result.map .event, db)
  | .advance f scope now, db =>
    let (result, db) := advanceFencingEpoch c f scope now db
    (result.map .epoch, db)

/-- The ledger under calls. -/
def machine : Machine Database Call (Except LedgerError Answer) := ⟨step c⟩

end

end Rampage.Ledger.Chain
