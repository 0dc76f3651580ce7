/-
Tamper evidence. The bytes that `calculate_hash` hashes determine the event: the number has eight bytes and the instant
thirty, the type ends at the first NUL, and what follows the subject holds none, so that the subject may. A chain that
verifies is therefore determined by its length and its last hash (`ledger_is_tamper_evident`), as long as SHA-256 does not
collide on what the two ledgers hash.
-/
import Mathlib.Data.List.Induction
import Rampage.Ledger.Verified

/-! ## Cutting a list at a separator -/

namespace List

variable {α : Type}

/-- The first separator is where both begin to differ. -/
theorem cut_first {z : α} {a b r r' : List α} (ha : z ∉ a) (hb : z ∉ b) (h : a ++ z :: r = b ++ z :: r') :
    a = b ∧ r = r' := by
  induction a generalizing b with
  | nil =>
    cases b with
    | nil =>
      cases h
      exact ⟨rfl, rfl⟩
    | cons y b =>
      cases h
      exact absurd (mem_cons_self ..) hb
  | cons x a ih =>
    cases b with
    | nil =>
      cases h
      exact absurd (mem_cons_self ..) ha
    | cons y b =>
      simp only [cons_append, cons.injEq] at h
      obtain ⟨rfl, h⟩ := h
      obtain ⟨rfl, hr⟩ := ih (fun hz => ha (mem_cons_of_mem _ hz)) (fun hz => hb (mem_cons_of_mem _ hz)) h
      exact ⟨rfl, hr⟩

theorem cut_last {z : α} {a b r r' : List α} (ha : z ∉ a) (hb : z ∉ b) (h : r ++ z :: a = r' ++ z :: b) :
    r = r' ∧ a = b := by
  have hrev := congrArg reverse h
  simp only [reverse_append, reverse_cons, append_assoc, singleton_append] at hrev
  obtain ⟨hab, hr⟩ := cut_first (by simpa using ha) (by simpa using hb) hrev
  exact ⟨reverse_injective hr, reverse_injective hab⟩

end List

namespace Rampage.Ledger.Chain

/-! ## Fields of a fixed width -/

theorem length_padded (k n : Nat) : (padded k n).length = k := by
  induction k generalizing n with
  | zero => rfl
  | succ k ih => simp [padded, ih]

theorem digitChar_inj {m n : Nat} (hm : m < 10) (hn : n < 10) (h : Nat.digitChar m = Nat.digitChar n) : m = n := by
  have hall : ∀ a b : Fin 10, Nat.digitChar a = Nat.digitChar b → a = b := by decide
  exact congrArg Fin.val (hall ⟨m, hm⟩ ⟨n, hn⟩ h)

theorem padded_inj {k m n : Nat} (hm : m < 10 ^ k) (hn : n < 10 ^ k) (h : padded k m = padded k n) : m = n := by
  induction k generalizing m n with
  | zero => omega
  | succ k ih =>
    obtain ⟨hinit, hlast⟩ := List.append_inj' h rfl
    simp only [List.cons.injEq, and_true] at hlast
    have hdigit := digitChar_inj (Nat.mod_lt m (by omega)) (Nat.mod_lt n (by omega)) hlast
    have hrest := ih (m := m / 10) (n := n / 10) (by omega) (by omega) hinit
    omega

/-- A field of fixed width and what follows it. -/
theorem padded_cancel {k m n : Nat} {r r' : List Char} (hm : m < 10 ^ k) (hn : n < 10 ^ k)
    (h : padded k m ++ r = padded k n ++ r') : m = n ∧ r = r' := by
  obtain ⟨hfield, hrest⟩ := List.append_inj h (by rw [length_padded, length_padded])
  exact ⟨padded_inj hm hn hfield, hrest⟩

namespace DateTime

variable {t u : DateTime}

theorem yearText_eq (h : t.hasFourDigitYear = true) : t.yearText = padded 4 t.year.toNat := by
  unfold yearText
  rw [if_pos h]

theorem year_bounds (h : t.hasFourDigitYear = true) : 0 ≤ t.year ∧ t.year ≤ 9999 := by
  simpa [hasFourDigitYear] using h

/-- Instants with four-digit years are written apart. -/
theorem toRfc3339Nanos_inj (ht : t.hasFourDigitYear = true) (hu : u.hasFourDigitYear = true)
    (h : t.toRfc3339Nanos = u.toRfc3339Nanos) : t = u := by
  have hyt := year_bounds ht
  have hyu := year_bounds hu
  have htext := String.ofList_injective h
  unfold secondsText at htext
  simp only [yearText_eq ht, yearText_eq hu, List.append_assoc, List.cons_append] at htext
  have hdt := t.day_range
  have hdu := u.day_range
  have hdays : ∀ (y : Int) (m : Nat), daysIn y m ≤ 31 := by
    intro y m
    unfold daysIn
    repeat' split
    all_goals omega
  have hdt' := hdays t.year t.month
  have hdu' := hdays u.year u.month
  have hmt := t.month_range
  have hmu := u.month_range
  have h1 := t.hour_lt
  have h2 := u.hour_lt
  have h3 := t.minute_lt
  have h4 := u.minute_lt
  have h5 := t.second_lt
  have h6 := u.second_lt
  -- every field has a fixed width, so the text is read off from the left
  obtain ⟨hyear, htext⟩ := padded_cancel (by omega) (by omega) htext
  simp only [List.cons.injEq, true_and] at htext
  obtain ⟨hmonth, htext⟩ := padded_cancel (by omega) (by omega) htext
  simp only [List.cons.injEq, true_and] at htext
  obtain ⟨hday, htext⟩ := padded_cancel (by omega) (by omega) htext
  simp only [List.cons.injEq, true_and] at htext
  obtain ⟨hhour, htext⟩ := padded_cancel (by omega) (by omega) htext
  simp only [List.cons.injEq, true_and] at htext
  obtain ⟨hminute, htext⟩ := padded_cancel (by omega) (by omega) htext
  simp only [List.cons.injEq, true_and] at htext
  obtain ⟨hsecond, htext⟩ := padded_cancel (by omega) (by omega) htext
  simp only [List.cons.injEq, true_and] at htext
  obtain ⟨hnano, -⟩ := padded_cancel t.nanosecond_lt u.nanosecond_lt htext
  have hyear' : t.year = u.year := by omega
  cases t
  cases u
  simp only [mk.injEq] at *
  exact ⟨hyear', hmonth, hday, hhour, hminute, hsecond, hnano⟩

theorem length_secondsText (h : t.hasFourDigitYear = true) : t.secondsText.length = 19 := by
  unfold secondsText
  simp [yearText_eq h, length_padded]

/-- Every character of the text is one byte. -/
theorem length_utf8_toRfc3339Nanos (h : t.hasFourDigitYear = true) : (utf8 t.toRfc3339Nanos).length = 30 := by
  have hdigit : ∀ k n, ∀ d ∈ padded k n, d.toNat < 128 := by
    intro k
    induction k with
    | zero => simp [padded]
    | succ k ih =>
      intro n d hd
      rcases List.mem_append.1 hd with hin | hin
      · exact ih _ d hin
      · have hall : ∀ a : Fin 10, (Nat.digitChar a).toNat < 128 := by decide
        rw [List.mem_singleton.1 hin]
        exact hall ⟨n % 10, Nat.mod_lt n (by omega)⟩
  have hsmall : ∀ d ∈ t.toRfc3339Nanos.toList, d.toNat < 128 := by
    intro d hd
    rw [toRfc3339Nanos, String.toList_ofList] at hd
    unfold secondsText at hd
    rw [yearText_eq h] at hd
    simp only [List.mem_append, List.mem_cons, List.not_mem_nil, or_false] at hd
    rcases hd with (hd | rfl | hd | rfl | hd | rfl | hd | rfl | hd | rfl | hd) | rfl | hd | rfl
    all_goals first | exact hdigit _ _ d hd | decide
  rw [length_utf8_of_ascii hsmall, toRfc3339Nanos, String.toList_ofList]
  simp [length_secondsText h, length_padded]

end DateTime

/-- `n / 256 ^ 7` to `n / 256 ^ 0` determine a number of 64 bits. -/
theorem toBeBytes_inj {m n : Nat} (hm : m < 2 ^ 64) (hn : n < 2 ^ 64) (h : toBeBytes m = toBeBytes n) : m = n := by
  have hbyte : ∀ i, i < 8 → m / 256 ^ (7 - i) % 256 = n / 256 ^ (7 - i) % 256 := by
    intro i hi
    have := congrArg (fun l => (l[i]?).map UInt8.toNat) h
    simpa [toBeBytes, hi] using this
  have h0 := hbyte 0 (by omega)
  have h1 := hbyte 1 (by omega)
  have h2 := hbyte 2 (by omega)
  have h3 := hbyte 3 (by omega)
  have h4 := hbyte 4 (by omega)
  have h5 := hbyte 5 (by omega)
  have h6 := hbyte 6 (by omega)
  have h7 := hbyte 7 (by omega)
  norm_num at h0 h1 h2 h3 h4 h5 h6 h7
  omega

/-! ## The hashed bytes determine the event -/

/-- A hash as the chain has them: of no event, or of one. -/
def IsHash (s : String) : Prop := s = genesisHash ∨ ∃ digest, s = Hex.encode digest

theorem IsHash.zero_notMem {s : String} (h : IsHash s) : 0 ∉ utf8 s := by
  rcases h with rfl | ⟨digest, rfl⟩
  · decide
  · refine zero_notMem_utf8 ?_
    intro d hd
    rw [Hex.encode, String.toList_ofList] at hd
    have := Hex.digits_range digest d hd
    omega

/-- What `calculate_hash` is called with in a chain: the payload is the text of a JSON value and the previous hash is a
hash. Types have no NUL and years four digits; nothing is asked of the subject. -/
structure HashInput.Admitted (x : HashInput) : Prop where
  sequence_lt : x.sequence < 2 ^ 64
  year : x.recordedAt.hasFourDigitYear = true
  eventType : 0 ∉ utf8 x.eventType
  payload : ∃ v : Json, x.payloadJson = v.toText
  previous : IsHash x.previousHash

theorem HashInput.preimage_inj {x y : HashInput} (hx : x.Admitted) (hy : y.Admitted) (h : x.preimage = y.preimage) : x = y := by
  unfold HashInput.preimage at h
  obtain ⟨hsequence, h⟩ := List.append_inj h (by simp [toBeBytes])
  obtain ⟨hinstant, h⟩ := List.append_inj h
    (by rw [DateTime.length_utf8_toRfc3339Nanos hx.year, DateTime.length_utf8_toRfc3339Nanos hy.year])
  obtain ⟨htype, h⟩ := List.cut_first hx.eventType hy.eventType h
  -- the subject may hold NULs, so what follows it is cut off from the end
  have hpayload : ∀ {z : HashInput}, z.Admitted → 0 ∉ utf8 z.payloadJson := by
    intro z hz
    obtain ⟨v, hv⟩ := hz.payload
    rw [hv]
    exact Json.zero_notMem_utf8_toText v
  have hregroup : ∀ a b d : List UInt8, a ++ 0 :: (b ++ 0 :: d) = (a ++ 0 :: b) ++ 0 :: d := by simp
  rw [hregroup, hregroup] at h
  obtain ⟨h, hprevious⟩ := List.cut_last hx.previous.zero_notMem hy.previous.zero_notMem h
  obtain ⟨hsubject, hjson⟩ := List.cut_last (hpayload hx) (hpayload hy) h
  have hsequence := toBeBytes_inj hx.sequence_lt hy.sequence_lt hsequence
  have hinstant := DateTime.toRfc3339Nanos_inj hx.year hy.year (utf8_injective hinstant)
  have htype := utf8_injective htype
  have hsubject := utf8_injective hsubject
  have hjson := utf8_injective hjson
  have hprevious := utf8_injective hprevious
  cases x
  cases y
  simp only [mk.injEq] at *
  exact ⟨hsequence, hinstant, htype, hsubject, hjson, hprevious⟩

/-! ## The last hash determines the chain -/

namespace LedgerEvent

/-- What the hash of an event is taken of. -/
def hashInput (e : LedgerEvent) : HashInput :=
  ⟨e.sequence, e.recordedAt, e.eventType, e.subjectId, e.payload.toText, e.previousHash⟩

/-- The type has no NUL byte, the year four digits. -/
structure Plain (e : LedgerEvent) : Prop where
  eventType : 0 ∉ utf8 e.eventType
  year : e.recordedAt.hasFourDigitYear = true

theorem ext_of_hashInput {e f : LedgerEvent} (h : e.hashInput = f.hashInput) (hhash : e.eventHash = f.eventHash) : e = f := by
  cases e
  cases f
  simp only [hashInput, HashInput.mk.injEq] at h
  obtain ⟨hsequence, hinstant, htype, hsubject, hpayload, hprevious⟩ := h
  simp only [mk.injEq]
  exact ⟨hsequence, hinstant, htype, hsubject, Json.toText_injective hpayload, hprevious, hhash⟩

end LedgerEvent

section

variable {c : Crates}

theorem checkEvent_ok {e : LedgerEvent} {expected : String} (h : checkEvent c e expected = .ok ()) :
    e.previousHash = expected ∧ e.eventHash = Hex.encode (c.sha256 e.hashInput.preimage) := by
  unfold checkEvent at h
  split at h
  · cases h
  rename_i hprevious
  split at h
  · cases h
  rename_i hhash
  exact ⟨not_not.1 hprevious, (not_not.1 hhash).symm⟩

theorem checkPage_snoc {es : List LedgerEvent} {e : LedgerEvent} {g h : String} (hcheck : checkPage c (es ++ [e]) g = .ok h) :
    checkPage c es g = .ok e.previousHash ∧ e.eventHash = Hex.encode (c.sha256 e.hashInput.preimage) ∧ h = e.eventHash := by
  induction es generalizing g with
  | nil =>
    rw [List.nil_append, checkPage] at hcheck
    split at hcheck
    · cases hcheck
    rename_i hone
    cases hcheck
    obtain ⟨rfl, hhash⟩ := checkEvent_ok hone
    exact ⟨rfl, hhash, rfl⟩
  | cons f es ih =>
    rw [List.cons_append, checkPage] at hcheck
    split at hcheck
    · cases hcheck
    rename_i hone
    obtain ⟨hrest, hlast⟩ := ih hcheck
    refine ⟨?_, hlast⟩
    rw [checkPage, hone]
    exact hrest

/-- The hash that a page leaves is one, if the page began with one. -/
theorem isHash_of_checkPage {es : List LedgerEvent} {g h : String} (hg : IsHash g) (hcheck : checkPage c es g = .ok h) :
    IsHash h := by
  rcases List.eq_nil_or_concat' es with rfl | ⟨es, e, rfl⟩
  · cases hcheck
    exact hg
  · obtain ⟨-, hhash, rfl⟩ := checkPage_snoc hcheck
    exact Or.inr ⟨_, hhash⟩

/-- SHA-256 does not collide on what two ledgers hash. -/
def NoCollision (c : Crates) (es fs : List LedgerEvent) : Prop :=
  ∀ e ∈ es, ∀ f ∈ fs, c.sha256 e.hashInput.preimage = c.sha256 f.hashInput.preimage →
    e.hashInput.preimage = f.hashInput.preimage

/-- Two chains of one length with one last hash are the same. The induction goes back along the chain: the last hash
gives the last event, which holds the hash before. -/
theorem checkPage_inj {es fs : List LedgerEvent} {g h : String} (hg : IsHash g) (hes : checkPage c es g = .ok h)
    (hfs : checkPage c fs g = .ok h) (hlen : es.length = fs.length) (hplain : ∀ e ∈ es ++ fs, e.Plain)
    (hbound : ∀ e ∈ es ++ fs, e.sequence < 2 ^ 64) (hsha : NoCollision c es fs) : es = fs := by
  induction es using List.reverseRecOn generalizing fs h with
  | nil => exact (List.length_eq_zero_iff.1 hlen.symm).symm
  | append_singleton es e ih =>
    rcases List.eq_nil_or_concat' fs with rfl | ⟨fs, f, rfl⟩
    · simp at hlen
    obtain ⟨hrest, hhash, rfl⟩ := checkPage_snoc hes
    obtain ⟨hrest', hhash', hsame⟩ := checkPage_snoc hfs
    have hadmitted : ∀ x ∈ [e, f], x.hashInput.Admitted := by
      intro x hx
      have hmem : x ∈ es ++ [e] ++ (fs ++ [f]) := by
        simp only [List.mem_cons, List.not_mem_nil, or_false] at hx
        rcases hx with rfl | rfl <;> simp
      have hprevious : IsHash x.previousHash := by
        simp only [List.mem_cons, List.not_mem_nil, or_false] at hx
        rcases hx with rfl | rfl
        · exact isHash_of_checkPage hg hrest
        · exact isHash_of_checkPage hg hrest'
      exact ⟨hbound x hmem, (hplain x hmem).year, (hplain x hmem).eventType, ⟨_, rfl⟩, hprevious⟩
    have hdigest : c.sha256 e.hashInput.preimage = c.sha256 f.hashInput.preimage := by
      refine Hex.encode_injective ?_
      rw [← hhash, ← hhash', hsame]
    have hinput : e.hashInput = f.hashInput :=
      HashInput.preimage_inj (hadmitted e (by simp)) (hadmitted f (by simp))
        (hsha e (by simp) f (by simp) hdigest)
    obtain rfl := LedgerEvent.ext_of_hashInput hinput hsame
    have hinit : es = fs := by
      refine ih hrest hrest' (by simpa using hlen) ?_ ?_ ?_
      · exact fun x hx => hplain x (by simp only [List.mem_append] at hx ⊢; tauto)
      · exact fun x hx => hbound x (by simp only [List.mem_append] at hx ⊢; tauto)
      · exact fun x hx y hy => hsha x (by simp [hx]) y (by simp [hy])
    rw [hinit]

/-! ## Reading the ledger -/

theorem readRows_cons_ok {row : Row} {rows : List Row} {events : List LedgerEvent} (h : readRows c (row :: rows) = .ok events) :
    ∃ event rest, events = event :: rest ∧ row.read c = .ok event ∧ readRows c rows = .ok rest := by
  unfold readRows at h
  split at h
  · cases h
  rename_i event hread
  split at h
  · cases h
  rename_i rest hrest
  cases h
  exact ⟨event, rest, rfl, hread, hrest⟩

theorem readRows_mem {rows : List Row} {events : List LedgerEvent} (h : readRows c rows = .ok events) :
    ∀ e ∈ events, ∃ row ∈ rows, e.sequence = row.sequence.toNat := by
  induction rows generalizing events with
  | nil =>
    cases h
    simp
  | cons row rows ih =>
    obtain ⟨event, rest, rfl, hread, hrest⟩ := readRows_cons_ok h
    intro e he
    rcases List.mem_cons.1 he with rfl | hin
    · exact ⟨row, List.mem_cons_self .., (Row.read_ok hread).2.1⟩
    · obtain ⟨r, hr, hseq⟩ := ih hrest e hin
      exact ⟨r, List.mem_cons_of_mem _ hr, hseq⟩

/-- The rows of a page are read as the events of the whole ledger that are on it. -/
theorem readRows_filter {rows : List Row} {events : List LedgerEvent} (h : readRows c rows = .ok events) (a : Nat) :
    readRows c (rows.filter fun row => (a : Int) < row.sequence) = .ok (events.filter fun e => a < e.sequence) := by
  induction rows generalizing events with
  | nil =>
    cases h
    rfl
  | cons row rows ih =>
    obtain ⟨event, rest, rfl, hread, hrest⟩ := readRows_cons_ok h
    obtain ⟨hnonneg, hseq, -⟩ := Row.read_ok hread
    by_cases hlt : (a : Int) < row.sequence
    · rw [List.filter_cons_of_pos (by simpa using hlt), List.filter_cons_of_pos (by simp only [decide_eq_true_eq]; omega)]
      unfold readRows
      simp only [hread, ih hrest]
    · rw [List.filter_cons_of_neg (by simpa using hlt), List.filter_cons_of_neg (by simp only [decide_eq_true_eq]; omega)]
      exact ih hrest

theorem readRows_take {rows : List Row} {events : List LedgerEvent} (h : readRows c rows = .ok events) (k : Nat) :
    readRows c (rows.take k) = .ok (events.take k) := by
  induction rows generalizing events k with
  | nil =>
    cases h
    simp [readRows]
  | cons row rows ih =>
    obtain ⟨event, rest, rfl, hread, hrest⟩ := readRows_cons_ok h
    cases k with
    | zero => rfl
    | succ k =>
      rw [List.take_succ_cons, List.take_succ_cons]
      unfold readRows
      simp only [hread, ih hrest]

/-- `events` returns what it should of the events of the ledger. -/
theorem events_eq_of_readRows {db : Database} {es : List LedgerEvent} (h : readRows c (db.after 0) = .ok es) (a limit : Nat) :
    db.events c a limit =
      if 2 ^ 63 ≤ a then .error .database else .ok ((es.filter fun e => a < e.sequence).take (min limit 10000)) := by
  unfold Database.events
  split
  · rfl
  · have hafter : db.after a = (db.after 0).filter fun row => (a : Int) < row.sequence := by
      unfold Database.after
      rw [List.filter_filter]
      refine List.filter_congr ?_
      intro row _
      by_cases hlt : (a : Int) < row.sequence
      · simp only [hlt, decide_true, Bool.true_and]
        symm
        simp only [decide_eq_true_eq]
        omega
      · simp [hlt]
    rw [hafter]
    exact readRows_take (readRows_filter h a) _

/-- A ledger that verifies is a chain of as many events as `verify` counts. -/
theorem verify_ok {db : Database} {n : Nat} (h : db.verify c = .ok n) :
    ∃ es, readRows c (db.after 0) = .ok es ∧ es.length = n ∧ (∀ e ∈ es, e.sequence < 2 ^ 64) ∧
      checkPage c es genesisHash = .ok ((es.getLast?.map (·.eventHash)).getD genesisHash) := by
  obtain ⟨hverifies, rfl⟩ := (verifyAfter_ok_iff (by omega)).1 h
  obtain ⟨es, hread, hcheck⟩ := page_ok_iff.2 ⟨hverifies, rfl⟩
  refine ⟨es, hread, (readRows_ok hread).1, ?_, ?_⟩
  · intro e he
    obtain ⟨row, hrow, hseq⟩ := readRows_mem hread e he
    have := db.bounded row (List.mem_filter.1 hrow).1
    omega
  · rcases List.eq_nil_or_concat' es with rfl | ⟨es, e, rfl⟩
    · rfl
    · obtain ⟨-, -, hlast⟩ := checkPage_snoc hcheck
      rw [hcheck, hlast]
      simp

end

/-- The hashed bytes determine what is hashed, and two ledgers that verify with the same number of events and the same
last hash return the same events, from every sequence number on and for every limit. -/
theorem ledger_is_tamper_evident (c : Crates) :
    (∀ x y : HashInput, x.Admitted → y.Admitted → x.preimage = y.preimage → x = y) ∧
      ∀ (db db' : Database) (n : Nat) (es es' : List LedgerEvent), db.verify c = .ok n → db'.verify c = .ok n →
        readRows c (db.after 0) = .ok es → readRows c (db'.after 0) = .ok es' →
        es.getLast?.map (·.eventHash) = es'.getLast?.map (·.eventHash) → (∀ e ∈ es ++ es', e.Plain) →
        NoCollision c es es' → es = es' ∧ ∀ a limit, db.events c a limit = db'.events c a limit := by
  refine ⟨fun x y => HashInput.preimage_inj, ?_⟩
  intro db db' n es es' hverify hverify' hread hread' hlast hplain hsha
  obtain ⟨fs, hfs, hlen, hbound, hcheck⟩ := verify_ok hverify
  obtain ⟨fs', hfs', hlen', hbound', hcheck'⟩ := verify_ok hverify'
  rw [hread] at hfs
  cases hfs
  rw [hread'] at hfs'
  cases hfs'
  rw [← hlast] at hcheck'
  have hsame : es = es' := by
    refine checkPage_inj (Or.inl rfl) hcheck hcheck' (hlen.trans hlen'.symm) hplain ?_ hsha
    intro e he
    rcases List.mem_append.1 he with hin | hin
    · exact hbound e hin
    · exact hbound' e hin
  refine ⟨hsame, ?_⟩
  intro a limit
  rw [events_eq_of_readRows hread, events_eq_of_readRows hread', hsame]

/-! ## The same events with another writing of the instants -/

namespace Scenario

/-- The first row of the example. -/
def firstEvent : LedgerEvent := ⟨1, instant, "job.proposed", "job-1", payload, genesisHash, Hex.encode firstDigest⟩

/-- The row after it. -/
def secondEvent : LedgerEvent :=
  ⟨2, instant, epochAdvanced, "controller", epochPayload 1, Hex.encode firstDigest, Hex.encode secondDigest⟩

/-- The row of an event, with its instant as the given text. -/
def storedAs (timestamp : String) (e : LedgerEvent) : Row :=
  ⟨e.sequence, some timestamp, some e.eventType, some e.subjectId, some e.payload.toText, some e.previousHash, some e.eventHash⟩

/-- The ledger of the two events. -/
def stored (timestamp : String) : Database :=
  ⟨[storedAs timestamp firstEvent, storedAs timestamp secondEvent], by simp [storedAs, firstEvent, secondEvent],
    by simp [storedAs, firstEvent, secondEvent], 2, ∅⟩

theorem readRows_stored {timestamp : String} (h : timestamp = instant.toRfc3339 ∨ timestamp = instant.toRfc3339Nanos) :
    readRows crates ((stored timestamp).after 0) = .ok [firstEvent, secondEvent] := by
  have hpayload := readsBack_payload.parse
  have hepoch := (readsBack_epochPayload 1).parse
  have hinstant : crates.parseRfc3339 timestamp = some instant := by
    rcases h with rfl | rfl <;> simp [crates]
  simp [Database.after, stored, storedAs, firstEvent, secondEvent, readRows, Row.read, hinstant, hpayload, hepoch]

/-- A subject with a NUL byte. -/
def nulInput : HashInput := { firstInput with subjectId := "job\x00-1" }

end Scenario

open Scenario in
theorem ledger_is_tamper_evident_restamped :
    firstInput.preimage ≠ nulInput.preimage ∧
      (stored instant.toRfc3339).rows ≠ (stored instant.toRfc3339Nanos).rows ∧
      ∀ a limit, (stored instant.toRfc3339).events crates a limit = (stored instant.toRfc3339Nanos).events crates a limit := by
  obtain ⟨hinput, hledger⟩ := ledger_is_tamper_evident crates
  refine ⟨?_, by decide +kernel, ?_⟩
  · intro h
    have hsame := hinput firstInput nulInput ⟨by decide, by decide, by decide, ⟨_, rfl⟩, Or.inl rfl⟩
      ⟨by decide, by decide, by decide, ⟨_, rfl⟩, Or.inl rfl⟩ h
    exact absurd (congrArg HashInput.subjectId hsame) (by decide)
  · have hverified : (stored instant.toRfc3339).verify crates = .ok 2 ∧ (stored instant.toRfc3339Nanos).verify crates = .ok 2 := by
      decide +kernel
    refine (hledger _ _ 2 [firstEvent, secondEvent] [firstEvent, secondEvent] hverified.1 hverified.2
      (readRows_stored (Or.inl rfl)) (readRows_stored (Or.inr rfl)) rfl ?_ ?_).2
    · intro e he
      simp only [List.cons_append, List.nil_append, List.mem_cons, List.not_mem_nil, or_false] at he
      rcases he with rfl | rfl | rfl | rfl
      all_goals exact ⟨by decide, by decide⟩
    · unfold NoCollision
      decide +kernel

end Rampage.Ledger.Chain
