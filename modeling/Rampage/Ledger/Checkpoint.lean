/-
The signed checkpoint of the ledger. At its start the controller verifies only the rows after the checkpoint if the file
holds one that it signed and whose event is in the ledger, and the whole chain otherwise; then it writes a new one.
`checkpointed_verification_is_sound` compares the two ways. The signature scheme, the reader of JSON and what fails on the
disk are parameters.
-/
import Rampage.Ledger.Tamper

namespace Rampage.Ledger.Chain

/-! ## The file -/

/-- The schema a checkpoint carries. -/
def ledgerCheckpointSchema : String := "rampage.ledger-checkpoint.v1"

/-- The last row whose chain has been verified, under the Governor's signature. -/
structure LedgerCheckpoint where
  schema : String
  sequence : Nat
  eventHash : String
  signature : String
deriving DecidableEq

/-- `ledger_checkpoint_message`. -/
def ledgerCheckpointMessage (sequence : Nat) (eventHash : String) : List UInt8 :=
  utf8 (String.ofList (ledgerCheckpointSchema.toList ++ '\n' :: (Nat.toDigits 10 sequence ++ '\n' :: (eventHash.toList ++ ['\n']))))

/-- `serde_json::to_vec_pretty`. -/
def LedgerCheckpoint.toBytes (p : LedgerCheckpoint) : List UInt8 :=
  let field (name : String) (value : List Char) : List Char := "\n  ".toList ++ quote name ++ ": ".toList ++ value
  utf8 (String.ofList ('{' :: (field "schema" (quote p.schema) ++ ',' :: (field "sequence" (Nat.toDigits 10 p.sequence) ++
    ',' :: (field "event_hash" (quote p.eventHash) ++ ',' :: (field "signature" (quote p.signature) ++
      ['\n', '}']))))))

/-- What stands at the path: no file, a link to one, or a file. -/
inductive CheckpointFile
  | missing
  | link
  | regular (bytes : List UInt8)
deriving DecidableEq

/-- What a checkpoint takes from other crates: a signing key of 64-byte signatures and `serde_json::from_slice`. -/
structure Sealing where
  sign : List UInt8 → List UInt8
  verify : List UInt8 → List UInt8 → Bool
  parse : List UInt8 → Option LedgerCheckpoint

/-- Which file operations fail. -/
structure DiskFaults where
  read : Bool
  write : Bool
  remove : Bool
  rename : Bool
  sync : Bool
deriving DecidableEq

/-- Every operation on the file succeeds. -/
def DiskFaults.none : DiskFaults := ⟨false, false, false, false, false⟩

/-- What verifying with a checkpoint fails with. -/
inductive CheckpointError
  | notRegular
  | exceedsLimit
  | io
  | malformed
  | unsupportedSchema
  | signature
  | invalidGenesis
  | ledger (e : LedgerError)
  | eventMissing
  | hashDiffers
deriving DecidableEq

section

variable (c : Crates) (k : Sealing)

/-- `latest_events`. -/
def Database.latestEvents (db : Database) (limit : Nat) : Except LedgerError (List LedgerEvent) :=
  (readRows c (db.rows.reverse.take (min limit 10000))).map List.reverse

/-- `event`. -/
def Database.event (db : Database) (sequence : Nat) : Except LedgerError (Option LedgerEvent) :=
  if sequence = 0 then .ok none
  else if 2 ^ 63 ≤ sequence then .error .database
  else match db.rows.find? fun row => row.sequence == (sequence : Int) with
  | none => .ok none
  | some row => (row.read c).map some

/-- `read_bounded_regular_file`, for the checkpoint. -/
def readBoundedRegularFile (d : DiskFaults) (limit : Nat) : CheckpointFile → Except CheckpointError (List UInt8)
  | .missing => .error .io
  | .link => .error .notRegular
  | .regular bytes =>
    if limit < bytes.length then .error .exceedsLimit else if d.read then .error .io else .ok bytes

/-- The checks of a checkpoint that was read. -/
def checkCheckpoint (db : Database) (p : LedgerCheckpoint) : Except CheckpointError Unit :=
  if p.schema ≠ ledgerCheckpointSchema then .error .unsupportedSchema
  else match Hex.decode p.signature with
  | none => .error .signature
  | some signature =>
    if signature.length ≠ 64 then .error .signature
    else if k.verify (ledgerCheckpointMessage p.sequence p.eventHash) signature = false then .error .signature
    else if p.sequence = 0 then if p.eventHash ≠ "GENESIS" then .error .invalidGenesis else .ok ()
    else match db.event c p.sequence with
    | .error e => .error (.ledger e)
    | .ok none => .error .eventMissing
    | .ok (some event) => if event.eventHash ≠ p.eventHash then .error .hashDiffers else .ok ()

/-- `read_ledger_checkpoint`. -/
def readLedgerCheckpoint (d : DiskFaults) (db : Database) (file : CheckpointFile) :
    Except CheckpointError (Option LedgerCheckpoint) :=
  if file = .missing then .ok none
  else match readBoundedRegularFile d 4096 file with
  | .error e => .error e
  | .ok bytes =>
    match k.parse bytes with
    | none => .error .malformed
    | some p => (checkCheckpoint c k db p).map fun _ => some p

/-- The event that a checkpoint of the ledger is for. -/
def Database.checkpointed (db : Database) : Except LedgerError (Nat × String) :=
  (db.latestEvents c 1).map fun events =>
    (events.getLast?.map fun event => (event.sequence, event.eventHash)).getD (0, "GENESIS")

/-- The signed checkpoint of an event. -/
def signedCheckpoint (sequence : Nat) (eventHash : String) : LedgerCheckpoint :=
  ⟨ledgerCheckpointSchema, sequence, eventHash, Hex.encode (k.sign (ledgerCheckpointMessage sequence eventHash))⟩

/-- `persist_ledger_checkpoint`, with what stands at the path afterwards. The old file is removed before the new one is
renamed to its place. -/
def persistLedgerCheckpoint (d : DiskFaults) (db : Database) (file : CheckpointFile) :
    Except CheckpointError Unit × CheckpointFile :=
  match db.checkpointed c with
  | .error e => (.error (.ledger e), file)
  | .ok (sequence, eventHash) =>
    if d.write then (.error .io, file)
    else if file ≠ .missing ∧ d.remove then (.error .io, file)
    else if d.rename then (.error .io, .missing)
    else
      let file := .regular (signedCheckpoint k sequence eventHash).toBytes
      if d.sync then (.error .io, file) else (.ok (), file)

/-- `verify_ledger_with_checkpoint`. -/
def verifyLedgerWithCheckpoint (d : DiskFaults) (db : Database) (file : CheckpointFile) :
    Except LedgerError Nat × CheckpointFile :=
  let verified :=
    match readLedgerCheckpoint c k d db file with
    | .ok (some p) => db.verifyAfter c p.sequence p.eventHash
    | .ok none => db.verify c
    | .error _ => db.verify c
  match verified with
  | .error e => (.error e, file)
  | .ok n => (.ok n, (persistLedgerCheckpoint c k d db file).2)

end

/-! ## The two parts of a ledger -/

/-- The rows up to a sequence number. -/
def Database.upTo (db : Database) (sequence : Int) : List Row := db.rows.filter fun row => row.sequence ≤ sequence

/-- The ledger cut off after a sequence number. -/
def Database.cutAfter (db : Database) (sequence : Int) : Database :=
  { db with
    rows := db.upTo sequence
    sorted := db.sorted.sublist List.filter_sublist
    bounded := fun row hrow => db.bounded row (List.mem_of_mem_filter hrow) }

section

variable {c : Crates} {k : Sealing}

/-- At a stored row the visible rows fall into those up to it and those after it. -/
theorem split_at_row {db : Database} {row : Row} (hrow : row ∈ db.rows) (hpos : 0 < row.sequence) :
    ∃ init, (db.cutAfter row.sequence).after 0 = init ++ [row] ∧
      db.after 0 = init ++ [row] ++ db.after row.sequence.toNat := by
  have hvisible : row ∈ db.after 0 := by
    refine List.mem_filter.2 ⟨hrow, ?_⟩
    simpa using hpos
  obtain ⟨init, rest, hsplit⟩ := List.append_of_mem hvisible
  have hsplit' : db.after 0 = init ++ [row] ++ rest := by
    rw [hsplit, List.append_assoc, List.singleton_append]
  have hlast : (init ++ [row]).getLast? = some row := by simp
  have hafter := after_of_append hsplit' hlast
  refine ⟨init, ?_, by rw [hafter]; exact hsplit'⟩
  have hsorted : (init ++ [row] ++ rest).Pairwise fun a b => a.sequence < b.sequence := by
    rw [← hsplit']
    exact db.sorted.sublist List.filter_sublist
  obtain ⟨hinit, -, hcross⟩ := List.pairwise_append.1 hsorted
  have hcut : (db.cutAfter row.sequence).after 0 = (db.after 0).filter fun r => r.sequence ≤ row.sequence := by
    unfold Database.after Database.cutAfter Database.upTo
    rw [List.filter_filter, List.filter_filter]
    exact List.filter_congr fun r _ => Bool.and_comm ..
  rw [hcut, hsplit', List.filter_append, List.filter_eq_self.2, List.filter_eq_nil_iff.2, List.append_nil]
  · intro r hr
    have := hcross row (by simp) r hr
    simpa using this
  · intro r hr
    rcases List.mem_append.1 hr with hin | hin
    · have := (List.pairwise_append.1 hinit).2.2 r hin row (List.mem_singleton_self row)
      simp only [decide_eq_true_eq]
      omega
    · rw [List.mem_singleton.1 hin]
      simp

/-- Verification can be split at every stored row that it sees. -/
theorem verify_split {db : Database} {row : Row} {h : String} (hrow : row ∈ db.rows) (hpos : 0 < row.sequence)
    (hhash : row.eventHash = some h) (n : Nat) :
    db.verify c = .ok n ↔
      (∃ m, (db.cutAfter row.sequence).verify c = .ok m) ∧
        ∃ j, db.verifyAfter c row.sequence.toNat h = .ok j ∧ n = ((db.cutAfter row.sequence).after 0).length + j := by
  obtain ⟨init, hcut, hall⟩ := split_at_row hrow hpos
  have hbound : row.sequence.toNat < 2 ^ 63 := by
    have := db.bounded row hrow
    omega
  have hend : endHash genesisHash (init ++ [row]) = h := by
    rw [endHash_snoc, hhash]
    rfl
  unfold Database.verify
  rw [verifyAfter_ok_iff (by omega), hall, verifies_append, hend]
  simp only [verifyAfter_ok_iff (show 0 < 2 ^ 63 by omega), verifyAfter_ok_iff hbound, hcut, List.length_append]
  constructor
  · rintro ⟨⟨hfirst, hsecond⟩, hn⟩
    exact ⟨⟨_, hfirst, rfl⟩, _, ⟨hsecond, rfl⟩, hn⟩
  · rintro ⟨⟨m, hfirst, -⟩, j, ⟨hsecond, rfl⟩, hn⟩
    exact ⟨⟨hfirst, hsecond⟩, hn⟩

/-! ## What a checkpoint stands for -/

theorem checkpointed_ok {db : Database} {s : Nat} {h : String} (hlatest : db.checkpointed c = .ok (s, h)) :
    (db.rows = [] ∧ s = 0 ∧ h = "GENESIS") ∨
      ∃ init row, db.rows = init ++ [row] ∧ 0 ≤ row.sequence ∧ row.sequence = (s : Int) ∧ row.eventHash = some h := by
  unfold Database.checkpointed Database.latestEvents at hlatest
  rcases List.eq_nil_or_concat' db.rows with hnil | ⟨init, row, hrows⟩
  · rw [hnil] at hlatest
    cases hlatest
    exact Or.inl ⟨hnil, rfl, rfl⟩
  · have hone : db.rows.reverse.take (min 1 10000) = [row] := by simp [hrows]
    rw [hone] at hlatest
    cases hread : row.read c with
    | error e =>
      simp only [readRows, hread] at hlatest
      cases hlatest
    | ok event =>
      simp only [readRows, hread] at hlatest
      cases hlatest
      obtain ⟨hnonneg, hseq, hhash⟩ := Row.read_ok hread
      refine Or.inr ⟨init, row, hrows, hnonneg, ?_, hhash⟩
      show row.sequence = (event.sequence : Int)
      omega

/-- If the rows up to a checkpoint are those of a ledger that verified, the rows after it decide. -/
theorem verifyAfter_checkpoint_iff {db db₀ : Database} {s : Nat} {h : String} {n : Nat} (hverify : db₀.verify c = .ok n)
    (hlatest : db₀.checkpointed c = .ok (s, h)) (hsame : db.upTo s = db₀.upTo s) (hpos : s ≠ 0) :
    (∃ j, db.verifyAfter c s h = .ok j) ↔ ∃ j, db.verify c = .ok j := by
  rcases checkpointed_ok hlatest with ⟨-, hzero, -⟩ | ⟨init, row, hrows, -, hseq, hhash⟩
  · exact absurd hzero hpos
  -- the checkpointed row is the last of its ledger, so cutting there gives back the whole of it
  have hwhole : db₀.upTo s = db₀.rows := by
    refine List.filter_eq_self.2 ?_
    intro r hr
    have hsorted := db₀.sorted
    rw [hrows] at hr hsorted
    rcases List.mem_append.1 hr with hin | hin
    · have := (List.pairwise_append.1 hsorted).2.2 r hin row (List.mem_singleton_self row)
      simp only [decide_eq_true_eq]
      omega
    · rw [List.mem_singleton.1 hin, hseq]
      simp
  have hrow : row ∈ db.rows := by
    have hin : row ∈ db.upTo s := by
      rw [hsame, hwhole, hrows]
      simp
    exact List.mem_of_mem_filter hin
  have hcut : (db.cutAfter row.sequence).after 0 = db₀.after 0 := by
    unfold Database.after Database.cutAfter
    dsimp only
    rw [hseq, hsame, hwhole]
  have hfirst : ∃ m, (db.cutAfter row.sequence).verify c = .ok m := by
    unfold Database.verify at hverify ⊢
    simp only [verifyAfter_ok_iff (show 0 < 2 ^ 63 by omega), hcut] at hverify ⊢
    exact ⟨n, hverify⟩
  have hsplit := verify_split (c := c) hrow (by omega) hhash
  have hnat : row.sequence.toNat = s := by omega
  rw [hnat] at hsplit
  constructor
  · rintro ⟨j, hj⟩
    exact ⟨_, (hsplit _).2 ⟨hfirst, j, hj, rfl⟩⟩
  · rintro ⟨n, hn⟩
    obtain ⟨-, j, hj, -⟩ := (hsplit n).1 hn
    exact ⟨j, hj⟩

/-! ## What makes a checkpoint usable -/

theorem ledgerCheckpointMessage_inj {s s' : Nat} {h h' : String}
    (heq : ledgerCheckpointMessage s h = ledgerCheckpointMessage s' h') : s = s' ∧ h = h' := by
  have hdigits : ∀ n : Nat, '\n' ∉ Nat.toDigits 10 n := by
    intro n hin
    have := Nat.isDigit_of_mem_toDigits (by omega) (by omega) hin
    revert this
    decide
  have htext := List.append_cancel_left (String.ofList_injective (utf8_injective heq))
  obtain ⟨-, htext⟩ := List.cons.inj htext
  obtain ⟨hnumber, htext⟩ := List.cut_first (hdigits s) (hdigits s') htext
  have hread := congrArg (fun l => Nat.ofDigitChars 10 l 0) hnumber
  simp only [Nat.ofDigitChars_toDigits (show 1 < 10 by omega) (show 10 ≤ 10 by omega)] at hread
  exact ⟨hread, String.toList_injective (List.append_cancel_right htext)⟩

/-- The key has signed no checkpoints but those of these ledgers, and no one else can sign for it. -/
def Unforgeable (c : Crates) (k : Sealing) (history : List Database) : Prop :=
  ∀ s h signature, k.verify (ledgerCheckpointMessage s h) signature = true →
    ∃ db ∈ history, ∃ s' h', db.checkpointed c = .ok (s', h') ∧ ledgerCheckpointMessage s h = ledgerCheckpointMessage s' h'

/-- The file holds a checkpoint of the event that the key signed, and the ledger has the event with the same hash. -/
def Matches (c : Crates) (k : Sealing) (db : Database) (file : CheckpointFile) (s : Nat) (h : String) : Prop :=
  ∃ bytes p, file = .regular bytes ∧ k.parse bytes = some p ∧ p.sequence = s ∧ p.eventHash = h ∧
    (∃ signature, Hex.decode p.signature = some signature ∧ k.verify (ledgerCheckpointMessage s h) signature = true) ∧
    ∃ event, db.event c s = .ok (some event) ∧ event.eventHash = h

theorem checkCheckpoint_ok {db : Database} {p : LedgerCheckpoint} (hok : checkCheckpoint c k db p = .ok ()) :
    (∃ signature, Hex.decode p.signature = some signature ∧
        k.verify (ledgerCheckpointMessage p.sequence p.eventHash) signature = true) ∧
      ((p.sequence = 0 ∧ p.eventHash = genesisHash) ∨
        p.sequence ≠ 0 ∧ ∃ event, db.event c p.sequence = .ok (some event) ∧ event.eventHash = p.eventHash) := by
  unfold checkCheckpoint at hok
  split at hok
  · cases hok
  split at hok
  · cases hok
  rename_i signature hdecode
  split at hok
  · cases hok
  split at hok
  · cases hok
  rename_i hverify
  refine ⟨⟨signature, hdecode, by simpa using hverify⟩, ?_⟩
  split at hok
  · rename_i hzero
    split at hok
    · cases hok
    · rename_i hgenesis
      exact Or.inl ⟨hzero, not_not.1 hgenesis⟩
  rename_i hpos
  split at hok
  · cases hok
  · cases hok
  · rename_i event hevent
    split at hok
    · cases hok
    · rename_i hhash
      exact Or.inr ⟨hpos, event, hevent, not_not.1 hhash⟩

theorem readLedgerCheckpoint_some {d : DiskFaults} {db : Database} {file : CheckpointFile} {p : LedgerCheckpoint}
    (h : readLedgerCheckpoint c k d db file = .ok (some p)) :
    ∃ bytes, file = .regular bytes ∧ k.parse bytes = some p ∧ checkCheckpoint c k db p = .ok () := by
  unfold readLedgerCheckpoint at h
  split at h
  · cases h
  split at h
  · cases h
  rename_i bytes hread
  split at h
  · cases h
  rename_i q hparse
  cases hcheck : checkCheckpoint c k db q with
  | error e =>
    rw [hcheck] at h
    cases h
  | ok u =>
    rw [hcheck] at h
    cases h
    have hbytes : file = .regular bytes := by
      cases file with
      | missing => cases hread
      | link => cases hread
      | regular b =>
        simp only [readBoundedRegularFile] at hread
        split at hread
        · cases hread
        split at hread
        · cases hread
        · cases hread
          rfl
    exact ⟨bytes, hbytes, hparse, hcheck⟩

/-- Startup verifies what follows a usable checkpoint, or everything. -/
theorem verifyLedgerWithCheckpoint_cases (d : DiskFaults) (db : Database) (file : CheckpointFile) :
    (verifyLedgerWithCheckpoint c k d db file).1 = db.verify c ∨
      ∃ bytes p, file = .regular bytes ∧ k.parse bytes = some p ∧ checkCheckpoint c k db p = .ok () ∧
        (verifyLedgerWithCheckpoint c k d db file).1 = db.verifyAfter c p.sequence p.eventHash := by
  have hanswer : (verifyLedgerWithCheckpoint c k d db file).1 =
      match readLedgerCheckpoint c k d db file with
      | .ok (some p) => db.verifyAfter c p.sequence p.eventHash
      | .ok none => db.verify c
      | .error _ => db.verify c := by
    unfold verifyLedgerWithCheckpoint
    dsimp only
    generalize (match readLedgerCheckpoint c k d db file with
      | .ok (some p) => db.verifyAfter c p.sequence p.eventHash
      | .ok none => db.verify c
      | .error _ => db.verify c) = verified
    cases verified <;> rfl
  rw [hanswer]
  cases hread : readLedgerCheckpoint c k d db file with
  | error e => exact Or.inl rfl
  | ok p =>
    cases p with
    | none => exact Or.inl rfl
    | some p =>
      obtain ⟨bytes, hfile, hparse, hcheck⟩ := readLedgerCheckpoint_some hread
      exact Or.inr ⟨bytes, p, hfile, hparse, hcheck, rfl⟩

theorem persistLedgerCheckpoint_ok {d : DiskFaults} {db : Database} {file file' : CheckpointFile} {s : Nat} {h : String}
    (hlatest : db.checkpointed c = .ok (s, h)) (hok : persistLedgerCheckpoint c k d db file = (.ok (), file')) :
    file' = .regular (signedCheckpoint k s h).toBytes := by
  unfold persistLedgerCheckpoint at hok
  rw [hlatest] at hok
  dsimp only at hok
  split at hok
  · cases hok
  split at hok
  · cases hok
  split at hok
  · cases hok
  split at hok
  · cases hok
  · cases hok
    rfl

/-- Behind a checkpoint that was written over a ledger that verified, with the rows up to it unmodified. -/
theorem accepts_iff_of_persisted {db₀ db : Database} {n s : Nat} {h : String} {d₀ d : DiskFaults} {file₀ file : CheckpointFile}
    (hverify : db₀.verify c = .ok n) (hlatest : db₀.checkpointed c = .ok (s, h))
    (hpersist : persistLedgerCheckpoint c k d₀ db₀ file₀ = (.ok (), file))
    (hparse : k.parse (signedCheckpoint k s h).toBytes = some (signedCheckpoint k s h)) (hsame : db.upTo s = db₀.upTo s) :
    (∃ j, (verifyLedgerWithCheckpoint c k d db file).1 = .ok j) ↔ ∃ j, db.verify c = .ok j := by
  rcases verifyLedgerWithCheckpoint_cases (c := c) (k := k) d db file with hfull | ⟨bytes, p, hfile, hread, hcheck, hfast⟩
  · rw [hfull]
  have hbytes := persistLedgerCheckpoint_ok hlatest hpersist
  rw [hfile, CheckpointFile.regular.injEq] at hbytes
  rw [hbytes, hparse, Option.some.injEq] at hread
  subst hread
  rw [hfast]
  show (∃ j, db.verifyAfter c s h = .ok j) ↔ _
  rcases (checkCheckpoint_ok hcheck).2 with ⟨hzero, hgenesis⟩ | ⟨hpos, -⟩
  · rw [show s = 0 from hzero, show h = genesisHash from hgenesis]
    rfl
  · exact verifyAfter_checkpoint_iff hverify hlatest hsame hpos

/-- Without a checkpoint of its own that matches, startup answers as full verification does. -/
theorem answer_of_unmatched {history : List Database} (hkey : Unforgeable c k history) {d : DiskFaults} {db : Database}
    {file : CheckpointFile}
    (hno : ∀ db₀ ∈ history, ∀ s h, db₀.checkpointed c = .ok (s, h) → ¬ Matches c k db file s h) :
    (verifyLedgerWithCheckpoint c k d db file).1 = db.verify c := by
  rcases verifyLedgerWithCheckpoint_cases (c := c) (k := k) d db file with hfull | ⟨bytes, p, hfile, hread, hcheck, hfast⟩
  · exact hfull
  obtain ⟨⟨signature, hdecode, hsigned⟩, hevent⟩ := checkCheckpoint_ok hcheck
  rcases hevent with ⟨hzero, hgenesis⟩ | ⟨-, event, hfound, hhash⟩
  · rw [hfast, hzero, hgenesis]
    rfl
  · obtain ⟨db₀, hdb₀, s, h, hlatest, hmessage⟩ := hkey _ _ _ hsigned
    obtain ⟨rfl, rfl⟩ := ledgerCheckpointMessage_inj hmessage
    exact absurd ⟨bytes, p, hfile, hread, rfl, rfl, ⟨signature, hdecode, hsigned⟩, event, hfound, hhash⟩
      (hno db₀ hdb₀ _ _ hlatest)

end

/-- Startup accepts exactly what full verification does behind a checkpoint that was written over a ledger that verified,
if the rows up to it are as they were then; verification can be split at every stored row numbered from 1 on; and a file
that does not hold a checkpoint of this key for an event of the ledger changes nothing. -/
theorem checkpointed_verification_is_sound (c : Crates) (k : Sealing) :
    (∀ (db₀ db : Database) (n s : Nat) (h : String) (d₀ d : DiskFaults) (file₀ file : CheckpointFile),
        db₀.verify c = .ok n → db₀.checkpointed c = .ok (s, h) → persistLedgerCheckpoint c k d₀ db₀ file₀ = (.ok (), file) →
        k.parse (signedCheckpoint k s h).toBytes = some (signedCheckpoint k s h) → db.upTo s = db₀.upTo s →
        ((∃ j, (verifyLedgerWithCheckpoint c k d db file).1 = .ok j) ↔ ∃ j, db.verify c = .ok j)) ∧
      (∀ (db : Database) (row : Row) (h : String) (n : Nat), row ∈ db.rows → 1 ≤ row.sequence → row.eventHash = some h →
        (db.verify c = .ok n ↔ (∃ m, (db.cutAfter row.sequence).verify c = .ok m) ∧
          ∃ j, db.verifyAfter c row.sequence.toNat h = .ok j ∧
            n = db.rows.countP (fun r => 1 ≤ r.sequence && r.sequence ≤ row.sequence) + j)) ∧
      ∀ (history : List Database), Unforgeable c k history → ∀ (d : DiskFaults) (db : Database) (file : CheckpointFile),
        (∀ db₀ ∈ history, ∀ s h, db₀.checkpointed c = .ok (s, h) → ¬ Matches c k db file s h) →
        (verifyLedgerWithCheckpoint c k d db file).1 = db.verify c := by
  refine ⟨?_, ?_, ?_⟩
  · intro db₀ db n s h d₀ d file₀ file hverify hlatest hpersist hparse hsame
    exact accepts_iff_of_persisted hverify hlatest hpersist hparse hsame
  · intro db row h n hrow hpos hhash
    rw [verify_split hrow (by omega) hhash n]
    have hcount : ((db.cutAfter row.sequence).after 0).length =
        db.rows.countP (fun r => 1 ≤ r.sequence && r.sequence ≤ row.sequence) := by
      unfold Database.after Database.cutAfter Database.upTo
      rw [List.filter_filter, ← List.countP_eq_length_filter]
      rfl
    rw [hcount]
  · intro history hkey d db file hno
    exact answer_of_unmatched hkey hno

/-! ## A checkpoint of the first event -/

namespace Scenario

/-- The ledger when it held the first event only. -/
def older : Database := (stored instant.toRfc3339).cutAfter 1

/-- A ledger with a row that bears no number of an event. -/
def numberedFromZero : Database :=
  ⟨storedAs instant.toRfc3339 { firstEvent with sequence := 0, eventHash := "" } :: (stored instant.toRfc3339).rows,
    by simp [stored, storedAs, firstEvent, secondEvent], by simp [stored, storedAs, firstEvent, secondEvent], 2, ∅⟩

/-- The Ed25519 signature of the checkpoint, by the key of 32 bytes 7. -/
def signature : List UInt8 :=
  [178, 79, 243, 87, 84, 61, 85, 0, 117, 207, 57, 142, 145, 61, 121, 6, 101, 177, 54, 235, 56, 236, 2, 29, 223, 18, 254,
    121, 67, 206, 102, 188, 122, 38, 169, 153, 170, 7, 94, 192, 131, 83, 10, 190, 53, 125, 188, 250, 80, 66, 63, 251, 236,
    248, 49, 223, 220, 148, 163, 25, 3, 207, 101, 8]

/-- What the first checkpoint is signed over. -/
def firstMessage : List UInt8 := ledgerCheckpointMessage 1 (Hex.encode firstDigest)

/-- The checkpoint of the first row. -/
def firstCheckpoint : LedgerCheckpoint := ⟨ledgerCheckpointSchema, 1, Hex.encode firstDigest, Hex.encode signature⟩

/-- The same with another signature. -/
def foreignCheckpoint : LedgerCheckpoint := { firstCheckpoint with signature := Hex.encode (List.replicate 64 0) }

/-- A signer and a reader that know the checkpoints of the example. -/
def sealing : Sealing where
  sign m := if m = firstMessage then signature else List.replicate 64 1
  verify m s := m == firstMessage && s == signature
  parse b :=
    if b = firstCheckpoint.toBytes then some firstCheckpoint
    else if b = foreignCheckpoint.toBytes then some foreignCheckpoint else none

theorem signedCheckpoint_first : signedCheckpoint sealing 1 (Hex.encode firstDigest) = firstCheckpoint := by
  simp [signedCheckpoint, sealing, firstMessage, firstCheckpoint]

theorem foreign_ne_first : foreignCheckpoint.toBytes ≠ firstCheckpoint.toBytes := by
  intro h
  have htext := String.ofList_injective (utf8_injective h)
  simp only [foreignCheckpoint, List.cons.injEq, true_and, List.append_assoc, List.append_cancel_left_eq] at htext
  exact absurd (Hex.encode_injective (quote_cancel htext).1) (by decide)

theorem parse_foreign : sealing.parse foreignCheckpoint.toBytes = some foreignCheckpoint := by
  simp only [sealing, if_neg foreign_ne_first, if_true]

end Scenario

open Scenario in
/-- Counting all rows up to a stored one, the split fails as soon as a row has a number that no event has. -/
theorem split_fails_below_one :
    ¬ ∀ (c : Crates) (db : Database) (row : Row) (h : String) (n : Nat), row ∈ db.rows → row.eventHash = some h →
      (db.verify c = .ok n ↔ (∃ m, (db.cutAfter row.sequence).verify c = .ok m) ∧
        ∃ j, db.verifyAfter c row.sequence.toNat h = .ok j ∧ n = db.rows.countP (fun r => r.sequence ≤ row.sequence) + j) := by
  intro hall
  have hsplit := (hall crates numberedFromZero (storedAs instant.toRfc3339 firstEvent) (Hex.encode firstDigest) 2
    (by simp [numberedFromZero, stored]) rfl).1 (by decide +kernel)
  obtain ⟨-, j, hj, hn⟩ := hsplit
  have hone : numberedFromZero.verifyAfter crates 1 (Hex.encode firstDigest) = .ok 1 := by decide +kernel
  have hcount : numberedFromZero.rows.countP (fun r => r.sequence ≤ (storedAs instant.toRfc3339 firstEvent).sequence) = 2 := by
    decide +kernel
  rw [hcount] at hn
  rw [show (storedAs instant.toRfc3339 firstEvent).sequence.toNat = 1 from rfl, hone] at hj
  cases hj
  omega

open Scenario in
theorem checkpointed_verification_is_sound_after_first :
    (∃ j, (verifyLedgerWithCheckpoint crates sealing .none (stored instant.toRfc3339)
        (.regular firstCheckpoint.toBytes)).1 = .ok j) ∧
      (∃ j, (stored instant.toRfc3339).verifyAfter crates 1 (Hex.encode firstDigest) = .ok j ∧ 2 = 1 + j) ∧
      (verifyLedgerWithCheckpoint crates sealing .none (stored instant.toRfc3339) (.regular foreignCheckpoint.toBytes)).1 =
        (stored instant.toRfc3339).verify crates := by
  obtain ⟨hpersisted, hsplit, hunmatched⟩ := checkpointed_verification_is_sound crates sealing
  have hledgers : (stored instant.toRfc3339).verify crates = .ok 2 ∧
      older.checkpointed crates = .ok (1, Hex.encode firstDigest) ∧ older.verify crates = .ok 1 := by
    decide +kernel
  obtain ⟨hverify, hlatest, holder⟩ := hledgers
  have hpersist : persistLedgerCheckpoint crates sealing .none older .missing = (.ok (), .regular firstCheckpoint.toBytes) := by
    simp [persistLedgerCheckpoint, hlatest, signedCheckpoint_first, DiskFaults.none]
  have hparse : sealing.parse (signedCheckpoint sealing 1 (Hex.encode firstDigest)).toBytes =
      some (signedCheckpoint sealing 1 (Hex.encode firstDigest)) := by
    rw [signedCheckpoint_first]
    simp only [sealing, if_true]
  have hsame : (stored instant.toRfc3339).upTo ((1 : Nat) : Int) = older.upTo ((1 : Nat) : Int) := by decide +kernel
  have hcount : (stored instant.toRfc3339).rows.countP
      (fun r => 1 ≤ r.sequence && r.sequence ≤ (storedAs instant.toRfc3339 firstEvent).sequence) = 1 := by
    decide +kernel
  have hone : (storedAs instant.toRfc3339 firstEvent).sequence.toNat = 1 := rfl
  refine ⟨?_, ?_, ?_⟩
  · exact (hpersisted _ _ _ _ _ _ .none _ _ holder hlatest hpersist hparse hsame).2 ⟨2, hverify⟩
  · obtain ⟨-, j, hj, hn⟩ := (hsplit (stored instant.toRfc3339) (storedAs instant.toRfc3339 firstEvent)
      (Hex.encode firstDigest) 2 (by simp [stored]) (by decide) rfl).1 hverify
    rw [hcount] at hn
    rw [hone] at hj
    exact ⟨j, hj, hn⟩
  · refine hunmatched [older] ?_ .none _ _ ?_
    · intro s h signature hsigned
      refine ⟨older, List.mem_singleton_self _, 1, Hex.encode firstDigest, hlatest, ?_⟩
      simp only [sealing, Bool.and_eq_true, beq_iff_eq] at hsigned
      exact hsigned.1
    · rintro db₀ - s h - ⟨bytes, p, hfile, hparse, -, -, ⟨signature, hdecode, hsigned⟩, -⟩
      rw [CheckpointFile.regular.injEq] at hfile
      rw [← hfile, parse_foreign, Option.some.injEq] at hparse
      rw [← hparse, foreignCheckpoint, Hex.decode_encode, Option.some.injEq] at hdecode
      simp only [sealing, Bool.and_eq_true, beq_iff_eq] at hsigned
      exact absurd (hdecode.trans hsigned.2) (by decide)

end Rampage.Ledger.Chain
