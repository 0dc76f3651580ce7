/-
JSON values and their compact text. Numbers are kept as the text they are written with; strings are escaped the way a
compact writer does: the two delimiters and the named control characters with two characters, the other control
characters with six, everything else as it is. A text determines its value (`Json.print_injective`) and holds no control
character (`Json.not_control_of_mem_print`). `utf8` is the encoding of a text in bytes.
-/
import Mathlib.Data.List.Basic
import Mathlib.Tactic.Common
import Mathlib.Tactic.IntervalCases

/-! ## Bytes of a text -/

/-- `str::as_bytes`. -/
def utf8 (s : String) : List UInt8 := s.toList.flatMap String.utf8EncodeChar

/-- ASCII text has one byte a character. -/
theorem length_utf8_of_ascii {s : String} (h : ∀ c ∈ s.toList, c.toNat < 128) : (utf8 s).length = s.toList.length := by
  unfold utf8
  revert h
  induction s.toList with
  | nil => exact fun _ => rfl
  | cons c cs ih =>
    intro h
    have hone : (String.utf8EncodeChar c).length = 1 := by
      rw [String.length_utf8EncodeChar, Char.utf8Size_eq_one_iff, UInt32.le_iff_toNat_le]
      exact Nat.le_of_lt_succ (h c (List.mem_cons_self ..))
    rw [List.flatMap_cons, List.length_append, hone, ih fun d hd => h d (List.mem_cons_of_mem _ hd), List.length_cons]
    omega

theorem utf8_injective : Function.Injective utf8 := by
  intro s t h
  rw [← String.toByteArray_inj, ← String.utf8Encode_toList, ← String.utf8Encode_toList, List.utf8Encode, List.utf8Encode]
  exact congrArg List.toByteArray h

/-- `String::from_utf8`. -/
def fromUtf8 (b : List UInt8) : Option String := String.fromUTF8? b.toByteArray

theorem fromUtf8_eq_some_iff {b : List UInt8} {s : String} : fromUtf8 b = some s ↔ utf8 s = b := by
  have hbytes : (utf8 s).toByteArray = s.toByteArray := by
    rw [← String.utf8Encode_toList, List.utf8Encode]
    rfl
  have hinj : ∀ {x y : List UInt8}, x.toByteArray = y.toByteArray → x = y := by
    intro x y h
    have := congrArg (fun a => a.data.toList) h
    simpa using this
  unfold fromUtf8 String.fromUTF8?
  constructor
  · intro h
    split at h
    · obtain rfl := Option.some.inj h
      exact hinj hbytes
    · cases h
  · intro h
    rw [dif_pos]
    · refine congrArg some ?_
      rw [← String.toByteArray_inj, ← hbytes, h]
      rfl
    · rw [← h, hbytes]
      exact s.isValidUTF8

/-- A byte with its highest bit clear stands for the character with its number only. -/
theorem toNat_of_mem_utf8EncodeChar {c : Char} {b : UInt8} (hb : b.toNat < 128) (h : b ∈ String.utf8EncodeChar c) :
    c.toNat = b.toNat := by
  have hbyte : ∀ n : Nat, b = UInt8.ofNat n → n % 256 = b.toNat := by
    intro n hn
    have := congrArg UInt8.toNat hn
    simpa using this.symm
  show c.val.toNat = b.toNat
  unfold String.utf8EncodeChar at h
  dsimp only at h
  -- every byte of a longer encoding has its highest bit set
  split at h
  · rename_i hv
    have := hbyte _ (List.mem_singleton.1 h)
    omega
  split at h
  · simp only [List.mem_cons, List.not_mem_nil, or_false] at h
    rcases h with h | h
    · have := hbyte _ h
      omega
    · have := hbyte _ h
      omega
  split at h
  · simp only [List.mem_cons, List.not_mem_nil, or_false] at h
    rcases h with h | h | h
    · have := hbyte _ h
      omega
    · have := hbyte _ h
      omega
    · have := hbyte _ h
      omega
  · simp only [List.mem_cons, List.not_mem_nil, or_false] at h
    rcases h with h | h | h | h
    · have := hbyte _ h
      omega
    · have := hbyte _ h
      omega
    · have := hbyte _ h
      omega
    · have := hbyte _ h
      omega

theorem zero_notMem_utf8 {s : String} (h : ∀ c ∈ s.toList, c.toNat ≠ 0) : 0 ∉ utf8 s := by
  intro hz
  obtain ⟨c, hc, hzero⟩ := List.mem_flatMap.1 hz
  exact h c hc (toNat_of_mem_utf8EncodeChar (by decide) hzero)

/-! ## Numbers -/

/-- The characters of numbers. -/
def isNumberChar (c : Char) : Bool := c.isDigit || c == '-' || c == '+' || c == '.' || c == 'e' || c == 'E'

/-- The text of a number: it begins with a digit or a minus sign. -/
structure JsonNumber where
  text : List Char
  begins : text.head?.any (fun c => c.isDigit || c == '-') = true
  chars : ∀ c ∈ text, isNumberChar c = true
deriving DecidableEq

/-- A natural number. -/
def JsonNumber.ofNat (n : Nat) : JsonNumber where
  text := Nat.toDigits 10 n
  begins := by
    cases h : Nat.toDigits 10 n with
    | nil => exact absurd h Nat.toDigits_ne_nil
    | cons c cs =>
      have hc : c ∈ Nat.toDigits 10 n := by simp [h]
      simp [Nat.isDigit_of_mem_toDigits (by omega) (by omega) hc]
  chars := by
    intro c hc
    simp [isNumberChar, Nat.isDigit_of_mem_toDigits (by omega) (by omega) hc]

/-- The natural number a text of digits stands for. -/
def JsonNumber.toNat? (n : JsonNumber) : Option Nat :=
  if n.text.all Char.isDigit then some (Nat.ofDigitChars 10 n.text 0) else none

theorem JsonNumber.toNat?_ofNat (n : Nat) : (JsonNumber.ofNat n).toNat? = some n := by
  unfold toNat?
  rw [if_pos]
  · exact congrArg some (Nat.ofDigitChars_toDigits (by omega) (by omega))
  · rw [List.all_eq_true]
    exact fun c hc => Nat.isDigit_of_mem_toDigits (by omega) (by omega) hc

/-! ## Values -/

/-- A JSON value; the entries of an object stand in the order they are written. -/
inductive Json
  | null
  | bool (b : Bool)
  | num (n : JsonNumber)
  | str (s : String)
  | arr (items : List Json)
  | obj (entries : List (String × Json))

/-- The digits of a control character's code. -/
def controlDigits (n : Nat) : List Char := [Nat.digitChar (n / 16), Nat.digitChar (n % 16)]

/-- A character inside a string, as `serde_json` writes it. -/
def escapeChar (c : Char) : List Char :=
  if c = '"' then ['\\', '"']
  else if c = '\\' then ['\\', '\\']
  else if c.toNat = 8 then ['\\', 'b']
  else if c.toNat = 9 then ['\\', 't']
  else if c.toNat = 10 then ['\\', 'n']
  else if c.toNat = 12 then ['\\', 'f']
  else if c.toNat = 13 then ['\\', 'r']
  else if c.toNat < 32 then ['\\', 'u', '0', '0'] ++ controlDigits c.toNat
  else [c]

/-- The text of a string. -/
def escape (cs : List Char) : List Char := cs.flatMap escapeChar

/-- A string in its quotes. -/
def quote (s : String) : List Char := '"' :: (escape s.toList ++ ['"'])

namespace Json

/-- `Value::get`, of an object. -/
def get? (k : String) : Json → Option Json
  | .obj entries => (entries.find? fun e => e.1 == k).map (·.2)
  | _ => none

/-- `Value::as_str`. -/
def asStr : Json → Option String
  | .str s => some s
  | _ => none

/-- `Value::as_u64`. -/
def asU64 : Json → Option Nat
  | .num n => n.toNat?.filter (· < 2 ^ 64)
  | _ => none

mutual

/-- The compact text of a value. -/
def print : Json → List Char
  | .null => ['n', 'u', 'l', 'l']
  | .bool true => ['t', 'r', 'u', 'e']
  | .bool false => ['f', 'a', 'l', 's', 'e']
  | .num n => n.text
  | .str s => quote s
  | .arr [] => ['[', ']']
  | .arr (v :: items) => '[' :: (print v ++ printItems items)
  | .obj [] => ['{', '}']
  | .obj ((k, v) :: entries) => '{' :: (quote k ++ ':' :: (print v ++ printEntries entries))

/-- The rest of an array. -/
def printItems : List Json → List Char
  | [] => [']']
  | v :: items => ',' :: (print v ++ printItems items)

/-- The rest of an object. -/
def printEntries : List (String × Json) → List Char
  | [] => ['}']
  | (k, v) :: entries => ',' :: (quote k ++ ':' :: (print v ++ printEntries entries))

end

end Json

/-! ## Reading an escaped text -/

/-- The value of a hexadecimal digit. -/
def digitValue (c : Char) : Nat := if c.toNat < 58 then c.toNat - 48 else c.toNat - 87

/-- What follows a backslash. -/
def readEscape : List Char → Option (Char × List Char)
  | 'u' :: '0' :: '0' :: a :: b :: rest => some (Char.ofNat (16 * digitValue a + digitValue b), rest)
  | 'b' :: rest => some (Char.ofNat 8, rest)
  | 't' :: rest => some (Char.ofNat 9, rest)
  | 'n' :: rest => some (Char.ofNat 10, rest)
  | 'f' :: rest => some (Char.ofNat 12, rest)
  | 'r' :: rest => some (Char.ofNat 13, rest)
  | '"' :: rest => some ('"', rest)
  | '\\' :: rest => some ('\\', rest)
  | _ => none

/-- One character as `escapeChar` writes it, and what follows. -/
def readChar : List Char → Option (Char × List Char)
  | [] => none
  | c :: rest => if c = '\\' then readEscape rest else some (c, rest)

theorem escapeChar_plain {c : Char} (hquote : c ≠ '"') (hback : c ≠ '\\') (hplain : ¬ c.toNat < 32) : escapeChar c = [c] := by
  have hne : ∀ n, n < 32 → c.toNat ≠ n := by
    intro n hn
    omega
  unfold escapeChar
  rw [if_neg hquote, if_neg hback, if_neg (hne 8 (by omega)), if_neg (hne 9 (by omega)), if_neg (hne 10 (by omega)),
    if_neg (hne 12 (by omega)), if_neg (hne 13 (by omega)), if_neg hplain]

theorem readChar_escapeChar (c : Char) (rest : List Char) : readChar (escapeChar c ++ rest) = some (c, rest) := by
  by_cases hcontrol : c.toNat < 32
  · have hall : ∀ n, n < 32 → readChar (escapeChar (Char.ofNat n) ++ rest) = some (Char.ofNat n, rest) := by
      intro n hn
      interval_cases n <;> rfl
    have := hall c.toNat hcontrol
    rwa [Char.ofNat_toNat] at this
  · by_cases hquote : c = '"'
    · subst hquote
      rfl
    · by_cases hback : c = '\\'
      · subst hback
        rfl
      · rw [escapeChar_plain hquote hback hcontrol]
        show (if c = '\\' then _ else _) = _
        rw [if_neg hback]
        rfl

/-- An escaped character is not the closing quote. -/
theorem head_escapeChar (c : Char) (rest : List Char) : (escapeChar c ++ rest).head? ≠ some '"' := by
  unfold escapeChar
  split
  · simp
  rename_i hquote
  repeat' split
  all_goals simp [hquote]

/-- Two escaped texts up to their closing quotes. -/
theorem escape_cancel {cs ds r r' : List Char} (h : escape cs ++ '"' :: r = escape ds ++ '"' :: r') : cs = ds ∧ r = r' := by
  induction cs generalizing ds with
  | nil =>
    cases ds with
    | nil =>
      cases h
      exact ⟨rfl, rfl⟩
    | cons d ds =>
      refine absurd ?_ (head_escapeChar d (escape ds ++ '"' :: r'))
      rw [← List.append_assoc]
      show (escape (d :: ds) ++ '"' :: r').head? = some '"'
      rw [← h]
      rfl
  | cons c cs ih =>
    cases ds with
    | nil =>
      refine absurd ?_ (head_escapeChar c (escape cs ++ '"' :: r))
      rw [← List.append_assoc]
      show (escape (c :: cs) ++ '"' :: r).head? = some '"'
      rw [h]
      rfl
    | cons d ds =>
      have hread := readChar_escapeChar c (escape cs ++ '"' :: r)
      rw [← List.append_assoc] at hread
      change readChar (escape (c :: cs) ++ '"' :: r) = _ at hread
      rw [h] at hread
      change readChar ((escapeChar d ++ escape ds) ++ '"' :: r') = _ at hread
      rw [List.append_assoc, readChar_escapeChar] at hread
      simp only [Option.some.injEq, Prod.mk.injEq] at hread
      obtain ⟨rfl, hrest⟩ := hread
      obtain ⟨rfl, hr⟩ := ih hrest.symm
      exact ⟨rfl, hr⟩

theorem quote_cancel {s t : String} {r r' : List Char} (h : quote s ++ r = quote t ++ r') : s = t ∧ r = r' := by
  simp only [quote, List.cons_append, List.append_assoc, List.cons.injEq, true_and, List.nil_append] at h
  obtain ⟨hs, hr⟩ := escape_cancel h
  exact ⟨String.toList_inj.1 hs, hr⟩

/-! ## A text determines its value -/

/-- What may follow a value: nothing or a character that no number contains. -/
def endsValue (r : List Char) : Prop := r.head?.any isNumberChar = false

theorem number_cancel {ns ms r r' : List Char} (hn : ∀ c ∈ ns, isNumberChar c = true) (hm : ∀ c ∈ ms, isNumberChar c = true)
    (hr : endsValue r) (hr' : endsValue r') (h : ns ++ r = ms ++ r') : ns = ms ∧ r = r' := by
  have htake : ∀ {l s : List Char}, (∀ c ∈ l, isNumberChar c = true) → endsValue s →
      (l ++ s).takeWhile isNumberChar = l := by
    intro l s hl hs
    rw [List.takeWhile_append_of_pos hl]
    cases s with
    | nil => simp
    | cons c s =>
      have hc : isNumberChar c = false := by simpa [endsValue] using hs
      simp [hc]
  have hns : ns = ms := by
    rw [← htake hn hr, h, htake hm hr']
  subst hns
  exact ⟨rfl, List.append_cancel_left h⟩

namespace Json

/-- The shape of the value whose text begins with a character. -/
def shapeOf (c : Char) : Nat :=
  if c = 'n' then 0 else if c = 't' then 1 else if c = 'f' then 2 else if c = '"' then 3 else if c = '[' then 4
  else if c = '{' then 5 else if c.isDigit || c == '-' then 6 else 7

/-- The shape of a value: its constructor. -/
def shape : Json → Nat
  | .null => 0
  | .bool true => 1
  | .bool false => 2
  | .str _ => 3
  | .arr _ => 4
  | .obj _ => 5
  | .num _ => 6

theorem shapeOf_number {c : Char} (h : (c.isDigit || c == '-') = true) : shapeOf c = 6 := by
  have hne : ∀ d : Char, (d.isDigit || d == '-') = false → c ≠ d := by
    rintro d hd rfl
    rw [hd] at h
    cases h
  unfold shapeOf
  rw [if_neg (hne _ rfl), if_neg (hne _ rfl), if_neg (hne _ rfl), if_neg (hne _ rfl), if_neg (hne _ rfl),
    if_neg (hne _ rfl), if_pos h]

theorem head_print (v : Json) (r : List Char) : ∃ c cs, print v ++ r = c :: cs ∧ shapeOf c = v.shape := by
  cases v with
  | null => exact ⟨_, _, rfl, rfl⟩
  | bool b =>
    cases b with
    | true => exact ⟨_, _, rfl, rfl⟩
    | false => exact ⟨_, _, rfl, rfl⟩
  | str s => exact ⟨_, _, rfl, rfl⟩
  | arr items =>
    cases items with
    | nil => exact ⟨_, _, rfl, rfl⟩
    | cons v items => exact ⟨_, _, rfl, rfl⟩
  | obj entries =>
    cases entries with
    | nil => exact ⟨_, _, rfl, rfl⟩
    | cons e entries => exact ⟨_, _, rfl, rfl⟩
  | num n =>
    obtain ⟨text, begins, chars⟩ := n
    cases text with
    | nil => cases begins
    | cons c text => exact ⟨c, text ++ r, rfl, shapeOf_number begins⟩

theorem shape_eq {v w : Json} {r r' : List Char} (h : print v ++ r = print w ++ r') : v.shape = w.shape := by
  obtain ⟨c, cs, hv, hc⟩ := head_print v r
  obtain ⟨d, ds, hw, hd⟩ := head_print w r'
  rw [hv, hw] at h
  cases h
  exact hc.symm.trans hd

/-- No value begins with a closing bracket. -/
theorem print_append_ne_bracket (v : Json) (r r' : List Char) : print v ++ r ≠ ']' :: r' := by
  intro h
  obtain ⟨c, cs, hv, hc⟩ := head_print v r
  rw [hv] at h
  cases h
  cases v with
  | bool b =>
    revert hc
    cases b <;> decide
  | _ =>
    revert hc
    simp only [shape]
    decide

theorem endsValue_nil : endsValue [] := rfl

theorem endsValue_printItems (items : List Json) (r : List Char) : endsValue (printItems items ++ r) := by
  cases items with
  | nil => exact rfl
  | cons v items => exact rfl

theorem endsValue_printEntries (entries : List (String × Json)) (r : List Char) : endsValue (printEntries entries ++ r) := by
  cases entries with
  | nil => exact rfl
  | cons e entries => exact rfl

mutual

/-- Two texts of values with what follows them. -/
theorem print_cancel (v w : Json) {r r' : List Char} (hr : endsValue r) (hr' : endsValue r')
    (h : print v ++ r = print w ++ r') : v = w ∧ r = r' := by
  -- the first characters tell what kind of value it is
  have hshape := shape_eq h
  match v with
  | .null =>
    cases w with
    | null => exact ⟨rfl, List.append_cancel_left h⟩
    | bool b => cases b <;> simp [shape] at hshape
    | _ => simp [shape] at hshape
  | .bool b =>
    cases w with
    | bool c =>
      obtain rfl : b = c := by cases b <;> cases c <;> simp [shape] at hshape ⊢
      exact ⟨rfl, List.append_cancel_left h⟩
    | _ => cases b <;> simp [shape] at hshape
  | .str s =>
    cases w with
    | str t =>
      obtain ⟨rfl, hrest⟩ := quote_cancel h
      exact ⟨rfl, hrest⟩
    | bool b => cases b <;> simp [shape] at hshape
    | _ => simp [shape] at hshape
  | .num n =>
    cases w with
    | num m =>
      obtain ⟨ns, hn, hns⟩ := n
      obtain ⟨ms, hm, hms⟩ := m
      obtain ⟨rfl, hrest⟩ := number_cancel hns hms hr hr' h
      exact ⟨rfl, hrest⟩
    | bool b => cases b <;> simp [shape] at hshape
    | _ => simp [shape] at hshape
  | .arr as =>
    cases w with
    | arr bs =>
      match as, bs with
      | [], [] => exact ⟨rfl, List.append_cancel_left h⟩
      | [], b :: bs =>
        simp only [print, List.cons_append, List.append_assoc, List.cons.injEq, true_and, List.nil_append] at h
        exact absurd h.symm (print_append_ne_bracket b _ _)
      | a :: as, [] =>
        simp only [print, List.cons_append, List.append_assoc, List.cons.injEq, true_and, List.nil_append] at h
        exact absurd h (print_append_ne_bracket a _ _)
      | a :: as, b :: bs =>
        simp only [print, List.cons_append, List.append_assoc, List.cons.injEq, true_and] at h
        -- the first items are the same, and then the rest of the lists
        obtain ⟨rfl, hitems⟩ := print_cancel a b (endsValue_printItems as r) (endsValue_printItems bs r') h
        obtain ⟨rfl, hrest⟩ := printItems_cancel as bs hitems
        exact ⟨rfl, hrest⟩
    | bool b => cases b <;> simp [shape] at hshape
    | _ => simp [shape] at hshape
  | .obj es =>
    cases w with
    | obj fs =>
      match es, fs with
      | [], [] => exact ⟨rfl, List.append_cancel_left h⟩
      | [], (k, v) :: fs => simp [print, quote] at h
      | (k, v) :: es, [] => simp [print, quote] at h
      | (k, v) :: es, (l, w) :: fs =>
        simp only [print, List.cons_append, List.append_assoc, List.cons.injEq, true_and] at h
        obtain ⟨rfl, hvalue⟩ := quote_cancel h
        simp only [List.cons.injEq, true_and] at hvalue
        obtain ⟨rfl, hentries⟩ := print_cancel v w (endsValue_printEntries es r) (endsValue_printEntries fs r') hvalue
        obtain ⟨rfl, hrest⟩ := printEntries_cancel es fs hentries
        exact ⟨rfl, hrest⟩
    | bool b => cases b <;> simp [shape] at hshape
    | _ => simp [shape] at hshape

theorem printItems_cancel (as bs : List Json) {r r' : List Char} (h : printItems as ++ r = printItems bs ++ r') :
    as = bs ∧ r = r' := by
  match as, bs with
  | [], [] => exact ⟨rfl, List.append_cancel_left h⟩
  | [], b :: bs => simp [printItems] at h
  | a :: as, [] => simp [printItems] at h
  | a :: as, b :: bs =>
    simp only [printItems, List.cons_append, List.append_assoc, List.cons.injEq, true_and] at h
    obtain ⟨rfl, hitems⟩ := print_cancel a b (endsValue_printItems as r) (endsValue_printItems bs r') h
    obtain ⟨rfl, hrest⟩ := printItems_cancel as bs hitems
    exact ⟨rfl, hrest⟩

theorem printEntries_cancel (es fs : List (String × Json)) {r r' : List Char}
    (h : printEntries es ++ r = printEntries fs ++ r') : es = fs ∧ r = r' := by
  match es, fs with
  | [], [] => exact ⟨rfl, List.append_cancel_left h⟩
  | [], (k, v) :: fs => simp [printEntries] at h
  | (k, v) :: es, [] => simp [printEntries] at h
  | (k, v) :: es, (l, w) :: fs =>
    simp only [printEntries, List.cons_append, List.append_assoc, List.cons.injEq, true_and] at h
    obtain ⟨rfl, hvalue⟩ := quote_cancel h
    simp only [List.cons.injEq, true_and] at hvalue
    obtain ⟨rfl, hentries⟩ := print_cancel v w (endsValue_printEntries es r) (endsValue_printEntries fs r') hvalue
    obtain ⟨rfl, hrest⟩ := printEntries_cancel es fs hentries
    exact ⟨rfl, hrest⟩

end

theorem print_injective : Function.Injective print := by
  intro v w h
  have hnil : print v ++ [] = print w ++ [] := by rw [h]
  exact (print_cancel v w endsValue_nil endsValue_nil hnil).1

/-! ## No control characters -/

/-- A literal text, checked character by character. -/
theorem le_toNat_of_all {l : List Char} (h : l.all (fun c => 32 ≤ c.toNat) = true) {c : Char} (hc : c ∈ l) :
    32 ≤ c.toNat := by
  rw [List.all_eq_true] at h
  exact of_decide_eq_true (h c hc)

theorem le_toNat_of_mem_escapeChar {c d : Char} (h : d ∈ escapeChar c) : 32 ≤ d.toNat := by
  by_cases hcontrol : c.toNat < 32
  · have hall : ∀ n, n < 32 → (escapeChar (Char.ofNat n)).all (fun d => 32 ≤ d.toNat) = true := by
      intro n hn
      interval_cases n <;> decide
    refine le_toNat_of_all (hall c.toNat hcontrol) ?_
    rwa [Char.ofNat_toNat]
  · by_cases hquote : c = '"'
    · subst hquote
      exact le_toNat_of_all (by decide) h
    · by_cases hback : c = '\\'
      · subst hback
        exact le_toNat_of_all (by decide) h
      · rw [escapeChar_plain hquote hback hcontrol, List.mem_singleton] at h
        rw [h]
        omega

theorem le_toNat_of_mem_quote {s : String} {d : Char} (h : d ∈ quote s) : 32 ≤ d.toNat := by
  simp only [quote, List.mem_cons, List.mem_append, List.not_mem_nil, or_false] at h
  rcases h with rfl | h | rfl
  · decide
  · obtain ⟨c, -, hd⟩ := List.mem_flatMap.1 h
    exact le_toNat_of_mem_escapeChar hd
  · decide

theorem le_toNat_of_isNumberChar {c : Char} (h : isNumberChar c = true) : 32 ≤ c.toNat := by
  simp only [isNumberChar, Bool.or_eq_true, beq_iff_eq] at h
  rcases h with ((((h | rfl) | rfl) | rfl) | rfl) | rfl
  · have : c.val ≥ '0'.val := by
      simp only [Char.isDigit, Bool.and_eq_true, decide_eq_true_eq] at h
      exact h.1
    have h48 := UInt32.le_iff_toNat_le.1 this
    have : (48 : Nat) ≤ c.val.toNat := h48
    show 32 ≤ c.val.toNat
    omega
  all_goals decide

mutual

theorem le_toNat_of_mem_print (v : Json) {c : Char} (h : c ∈ print v) : 32 ≤ c.toNat := by
  match v with
  | .null =>
    exact le_toNat_of_all (by decide) h
  | .bool true =>
    exact le_toNat_of_all (by decide) h
  | .bool false =>
    exact le_toNat_of_all (by decide) h
  | .num n => exact le_toNat_of_isNumberChar (n.chars c h)
  | .str s => exact le_toNat_of_mem_quote h
  | .arr [] =>
    exact le_toNat_of_all (by decide) h
  | .arr (v :: items) =>
    simp only [print, List.mem_cons, List.mem_append] at h
    rcases h with rfl | h | h
    · decide
    · exact le_toNat_of_mem_print v h
    · exact le_toNat_of_mem_printItems items h
  | .obj [] =>
    exact le_toNat_of_all (by decide) h
  | .obj ((k, v) :: entries) =>
    simp only [print, List.mem_cons, List.mem_append] at h
    rcases h with rfl | h | rfl | h | h
    · decide
    · exact le_toNat_of_mem_quote h
    · decide
    · exact le_toNat_of_mem_print v h
    · exact le_toNat_of_mem_printEntries entries h

theorem le_toNat_of_mem_printItems (items : List Json) {c : Char} (h : c ∈ printItems items) : 32 ≤ c.toNat := by
  match items with
  | [] =>
    exact le_toNat_of_all (by decide) h
  | v :: items =>
    simp only [printItems, List.mem_cons, List.mem_append] at h
    rcases h with rfl | h | h
    · decide
    · exact le_toNat_of_mem_print v h
    · exact le_toNat_of_mem_printItems items h

theorem le_toNat_of_mem_printEntries (entries : List (String × Json)) {c : Char} (h : c ∈ printEntries entries) :
    32 ≤ c.toNat := by
  match entries with
  | [] =>
    exact le_toNat_of_all (by decide) h
  | (k, v) :: entries =>
    simp only [printEntries, List.mem_cons, List.mem_append] at h
    rcases h with rfl | h | rfl | h | h
    · decide
    · exact le_toNat_of_mem_quote h
    · decide
    · exact le_toNat_of_mem_print v h
    · exact le_toNat_of_mem_printEntries entries h

end

/-- `serde_json::to_string`. -/
def toText (v : Json) : String := String.ofList (print v)

theorem toText_injective : Function.Injective toText := by
  intro v w h
  exact print_injective (String.ofList_injective h)

theorem zero_notMem_utf8_toText (v : Json) : 0 ∉ utf8 v.toText := by
  refine zero_notMem_utf8 ?_
  intro c hc
  rw [toText, String.toList_ofList] at hc
  have := le_toNat_of_mem_print v hc
  omega

end Json

/-! ## Sizes -/

/-- The UTF-8 size of a text. -/
def byteLen (cs : List Char) : Nat := (cs.map Char.utf8Size).sum

@[simp] theorem byteLen_nil : byteLen [] = 0 := rfl

@[simp] theorem byteLen_cons (c : Char) (cs : List Char) : byteLen (c :: cs) = c.utf8Size + byteLen cs := by
  simp [byteLen]

@[simp] theorem byteLen_append (cs ds : List Char) : byteLen (cs ++ ds) = byteLen cs + byteLen ds := by
  simp [byteLen]

theorem utf8ByteSize_ofList (cs : List Char) : (String.ofList cs).utf8ByteSize = byteLen cs := by
  induction cs with
  | nil => rfl
  | cons c cs ih =>
    rw [String.ofList_cons, String.utf8ByteSize_append, String.utf8ByteSize_singleton, ih, byteLen_cons]

theorem length_flatMap_utf8EncodeChar (cs : List Char) : (cs.flatMap String.utf8EncodeChar).length = byteLen cs := by
  induction cs with
  | nil => rfl
  | cons c cs ih => rw [List.flatMap_cons, List.length_append, String.length_utf8EncodeChar, ih, byteLen_cons]

theorem length_utf8 (s : String) : (utf8 s).length = byteLen s.toList := length_flatMap_utf8EncodeChar s.toList

theorem length_le_byteLen (cs : List Char) : cs.length ≤ byteLen cs := by
  induction cs with
  | nil => rfl
  | cons c cs ih =>
    have hc := c.utf8Size_pos
    rw [List.length_cons, byteLen_cons]
    omega

/-- `serde_json::to_vec`: the bytes of the compact text. -/
def Json.toVec (v : Json) : List UInt8 := v.print.flatMap String.utf8EncodeChar

theorem Json.toVec_injective : Function.Injective Json.toVec := by
  intro v w h
  refine Json.toText_injective (utf8_injective ?_)
  show (String.ofList v.print).toList.flatMap _ = (String.ofList w.print).toList.flatMap _
  rw [String.toList_ofList, String.toList_ofList]
  exact h

/-- The compact text has no control characters, line feeds among them. -/
theorem Json.notMem_toVec (v : Json) {b : UInt8} (hb : b.toNat < 32) : b ∉ v.toVec := by
  intro h
  obtain ⟨c, hc, hbyte⟩ := List.mem_flatMap.1 h
  have hchar := toNat_of_mem_utf8EncodeChar (by omega) hbyte
  have hprinted := le_toNat_of_mem_print v hc
  omega

theorem Json.length_toVec (v : Json) : v.toVec.length = byteLen v.print := length_flatMap_utf8EncodeChar v.print

theorem length_utf8_eq_utf8ByteSize (s : String) : (utf8 s).length = s.utf8ByteSize := by
  rw [length_utf8, ← utf8ByteSize_ofList, String.ofList_toList]

/-- A visible ASCII character that a JSON string holds as it is. -/
def isPlain (c : Char) : Bool := decide (32 ≤ c.toNat) && decide (c.toNat < 128) && c != '"' && c != '\\'

theorem escape_of_isPlain {cs : List Char} (h : ∀ c ∈ cs, isPlain c = true) : escape cs = cs := by
  unfold escape
  induction cs with
  | nil => rfl
  | cons c cs ih =>
    have hc := h c (List.mem_cons_self ..)
    simp only [isPlain, Bool.and_eq_true, decide_eq_true_eq, bne_iff_ne, ne_eq] at hc
    rw [List.flatMap_cons, escapeChar_plain hc.1.2 hc.2 (by omega), ih fun d hd => h d (List.mem_cons_of_mem _ hd)]
    rfl

theorem byteLen_of_isPlain {cs : List Char} (h : ∀ c ∈ cs, isPlain c = true) : byteLen cs = cs.length := by
  induction cs with
  | nil => rfl
  | cons c cs ih =>
    have hc := h c (List.mem_cons_self ..)
    simp only [isPlain, Bool.and_eq_true, decide_eq_true_eq] at hc
    have hone : c.utf8Size = 1 := by
      rw [Char.utf8Size_eq_one_iff, UInt32.le_iff_toNat_le]
      exact Nat.le_of_lt_succ hc.1.1.2
    rw [byteLen_cons, hone, ih fun d hd => h d (List.mem_cons_of_mem _ hd), List.length_cons]
    omega

/-- A plain string is quoted with its two delimiters only. -/
theorem byteLen_quote {s : String} (h : ∀ c ∈ s.toList, isPlain c = true) : byteLen (quote s) = s.toList.length + 2 := by
  have hquote : ('"' : Char).utf8Size = 1 := by decide
  rw [quote, escape_of_isPlain h, byteLen_cons, byteLen_append, byteLen_of_isPlain h, byteLen_cons, byteLen_nil, hquote]
  omega

/-- The bytes a character takes in a quoted text. -/
def escapedLen (c : Char) : Nat :=
  if c = '"' ∨ c = '\\' ∨ c.toNat = 8 ∨ c.toNat = 9 ∨ c.toNat = 10 ∨ c.toNat = 12 ∨ c.toNat = 13 then 2
  else if c.toNat < 32 then 6
  else c.utf8Size

/-- The bytes of a quoted text. -/
def quotedLen (s : String) : Nat := 2 + (s.toList.map escapedLen).sum

theorem byteLen_escapeChar (c : Char) : byteLen (escapeChar c) = escapedLen c := by
  have hback : byteLen ['\\', '"'] = 2 ∧ byteLen ['\\', '\\'] = 2 ∧ byteLen ['\\', 'b'] = 2 ∧ byteLen ['\\', 't'] = 2 ∧
      byteLen ['\\', 'n'] = 2 ∧ byteLen ['\\', 'f'] = 2 ∧ byteLen ['\\', 'r'] = 2 := by decide
  have hcode : ∀ n : Fin 32, byteLen (['\\', 'u', '0', '0'] ++ controlDigits n) = 6 := by decide
  unfold escapeChar escapedLen
  by_cases h : c = '"' ∨ c = '\\' ∨ c.toNat = 8 ∨ c.toNat = 9 ∨ c.toNat = 10 ∨ c.toNat = 12 ∨ c.toNat = 13
  · rw [if_pos h]
    split_ifs
    · exact hback.1
    · exact hback.2.1
    · exact hback.2.2.1
    · exact hback.2.2.2.1
    · exact hback.2.2.2.2.1
    · exact hback.2.2.2.2.2.1
    · exact hback.2.2.2.2.2.2
    · rcases h with h | h | h | h | h | h | h <;> contradiction
    · rcases h with h | h | h | h | h | h | h <;> contradiction
  · rw [if_neg h]
    push Not at h
    obtain ⟨h1, h2, h3, h4, h5, h6, h7⟩ := h
    rw [if_neg h1, if_neg h2, if_neg h3, if_neg h4, if_neg h5, if_neg h6, if_neg h7]
    split_ifs with hlow
    · exact hcode ⟨c.toNat, hlow⟩
    · simp

theorem byteLen_quote_eq (s : String) : byteLen (quote s) = quotedLen s := by
  have hone : ('"' : Char).utf8Size = 1 := by decide
  have hescape : ∀ cs : List Char, byteLen (escape cs) = (cs.map escapedLen).sum := by
    intro cs
    induction cs with
    | nil => rfl
    | cons c cs ih =>
      rw [List.map_cons, List.sum_cons, ← ih, ← byteLen_escapeChar, ← byteLen_append]
      rfl
  rw [quote, byteLen_cons, byteLen_append, byteLen_cons, byteLen_nil, hescape, hone, quotedLen]
  omega

/-- A character takes at most six bytes. -/
theorem escapedLen_le (c : Char) : escapedLen c ≤ 6 := by
  have := Char.utf8Size_le_four c
  unfold escapedLen
  split_ifs
  · omega
  · omega
  · omega

theorem quotedLen_le (s : String) : quotedLen s ≤ 2 + 6 * s.toList.length := by
  unfold quotedLen
  have hsum : ∀ cs : List Char, (cs.map escapedLen).sum ≤ 6 * cs.length := by
    intro cs
    induction cs with
    | nil => exact Nat.le_refl 0
    | cons c cs ih =>
      have := escapedLen_le c
      rw [List.map_cons, List.sum_cons, List.length_cons]
      omega
  have := hsum s.toList
  omega

/-- Escaping makes no character shorter. -/
theorem utf8Size_le_escapedLen (c : Char) : c.utf8Size ≤ escapedLen c := by
  have hfour := Char.utf8Size_le_four c
  unfold escapedLen
  split_ifs with hnamed hcontrol
  · have hone : c.utf8Size = 1 := by
      rw [Char.utf8Size_eq_one_iff, UInt32.le_iff_toNat_le]
      show c.toNat ≤ 127
      rcases hnamed with rfl | rfl | h | h | h | h | h
      · decide
      · decide
      all_goals omega
    omega
  · omega
  · exact Nat.le_refl _

theorem utf8ByteSize_le_quotedLen (s : String) : s.utf8ByteSize + 2 ≤ quotedLen s := by
  have hsum : ∀ cs : List Char, byteLen cs ≤ (cs.map escapedLen).sum := by
    intro cs
    induction cs with
    | nil => exact Nat.le_refl 0
    | cons c cs ih =>
      have := utf8Size_le_escapedLen c
      rw [byteLen_cons, List.map_cons, List.sum_cons]
      omega
  have := hsum s.toList
  have hbytes : s.utf8ByteSize = byteLen s.toList := by
    rw [← utf8ByteSize_ofList, String.ofList_toList]
  rw [hbytes, quotedLen]
  omega

/-- A plain text takes its characters and the two delimiters. -/
theorem quotedLen_of_isPlain {s : String} (h : ∀ c ∈ s.toList, isPlain c = true) : quotedLen s = s.toList.length + 2 := by
  rw [← byteLen_quote_eq, byteLen_quote h]

namespace Json

/-- The bytes of the text of a value. -/
def size (v : Json) : Nat := v.toVec.length

/-- The bytes of one entry of an object, with its colon and one comma or delimiter. -/
def entrySize (e : String × Json) : Nat := 2 + quotedLen e.1 + e.2.size

theorem size_eq (v : Json) : v.size = byteLen v.print := length_toVec v

@[simp] theorem size_str (s : String) : (Json.str s).size = quotedLen s := by
  rw [size_eq, print, byteLen_quote_eq]

@[simp] theorem size_true : (Json.bool true).size = 4 := by decide

@[simp] theorem size_false : (Json.bool false).size = 5 := by decide

theorem size_num (n : JsonNumber) : (Json.num n).size = n.text.length := by
  rw [size_eq, print]
  have hchar : ∀ c, isNumberChar c = true → c.utf8Size = 1 := by
    intro c hc
    simp only [isNumberChar, Bool.or_eq_true, beq_iff_eq] at hc
    rcases hc with ((((hc | rfl) | rfl) | rfl) | rfl) | rfl
    · have hle : c.val ≤ 57 := by
        delta Char.isDigit at hc
        simp only [Bool.and_eq_true, decide_eq_true_eq] at hc
        exact hc.2
      rw [Char.utf8Size_eq_one_iff, UInt32.le_iff_toNat_le]
      rw [UInt32.le_iff_toNat_le] at hle
      exact le_trans hle (by decide)
    all_goals decide
  have hall := n.chars
  generalize n.text = cs at hall ⊢
  induction cs with
  | nil => rfl
  | cons c cs ih =>
    rw [byteLen_cons, hchar c (hall c (List.mem_cons_self ..)), ih fun d hd => hall d (List.mem_cons_of_mem _ hd),
      List.length_cons]
    omega

theorem entrySize_eq (k : String) (v : Json) : entrySize (k, v) = 2 + quotedLen k + byteLen v.print := by
  rw [← size_eq]
  rfl

theorem size_arr {items : List Json} (h : items ≠ []) : (Json.arr items).size = 1 + (items.map fun v => 1 + v.size).sum := by
  have hcomma : ('[' : Char).utf8Size = 1 ∧ (',' : Char).utf8Size = 1 ∧ (']' : Char).utf8Size = 1 := by decide
  have hrest : ∀ items : List Json, byteLen (printItems items) = 1 + (items.map fun v => 1 + v.size).sum := by
    intro items
    induction items with
    | nil => exact hcomma.2.2
    | cons v items ih =>
      rw [printItems, byteLen_cons, byteLen_append, ih, List.map_cons, List.sum_cons, size_eq, hcomma.2.1]
      omega
  cases items with
  | nil => exact absurd rfl h
  | cons v items =>
    rw [size_eq, print, byteLen_cons, byteLen_append, hrest, List.map_cons, List.sum_cons, size_eq, hcomma.1]
    omega

theorem size_obj {entries : List (String × Json)} (h : entries ≠ []) :
    (Json.obj entries).size = 1 + (entries.map entrySize).sum := by
  have hcomma : (Char.ofNat 123).utf8Size = 1 ∧ (',' : Char).utf8Size = 1 ∧ (Char.ofNat 125).utf8Size = 1 ∧
      (':' : Char).utf8Size = 1 := by decide
  have hrest : ∀ entries : List (String × Json),
      byteLen (printEntries entries) = 1 + (entries.map entrySize).sum := by
    intro entries
    induction entries with
    | nil => exact hcomma.2.2.1
    | cons e entries ih =>
      obtain ⟨k, v⟩ := e
      rw [printEntries, byteLen_cons, byteLen_append, byteLen_cons, byteLen_append, ih, List.map_cons, List.sum_cons,
        byteLen_quote_eq, entrySize_eq, hcomma.2.1, hcomma.2.2.2]
      omega
  cases entries with
  | nil => exact absurd rfl h
  | cons e entries =>
    obtain ⟨k, v⟩ := e
    rw [size_eq, print, byteLen_cons, byteLen_append, byteLen_cons, byteLen_append, hrest, List.map_cons, List.sum_cons,
      byteLen_quote_eq, entrySize_eq, hcomma.2.2.2]
    have : ('{' : Char).utf8Size = 1 := hcomma.1
    omega

/-- The entry of a field that is left out when it is none. -/
def field? (k : String) (v : Option Json) : List (String × Json) := (v.map fun v => (k, v)).toList

/-! ## Reading a tree -/

mutual

/-- A value up to its numbers, which a reader may round. -/
def eraseNumbers : Json → Json
  | .null => .null
  | .bool b => .bool b
  | .num _ => .null
  | .str s => .str s
  | .arr items => .arr (eraseItems items)
  | .obj entries => .obj (eraseEntries entries)

/-- `eraseNumbers` of every item. -/
def eraseItems : List Json → List Json
  | [] => []
  | v :: items => eraseNumbers v :: eraseItems items

/-- `eraseNumbers` of every value. -/
def eraseEntries : List (String × Json) → List (String × Json)
  | [] => []
  | (k, v) :: entries => (k, eraseNumbers v) :: eraseEntries entries

end

/-- A field as the derived readers find it: by its name in an object, by its position in an array. -/
def readField (name : String) (position : Nat) : Json → Option Json
  | .obj entries => (entries.find? fun e => e.1 == name).map (·.2)
  | .arr items => items[position]?
  | _ => none

/-- A field that is text. -/
def readText (name : String) (position : Nat) (v : Json) : Option String :=
  match readField name position v with
  | some (.str s) => some s
  | _ => none

theorem readField_eraseNumbers (name : String) (position : Nat) (v : Json) :
    readField name position v.eraseNumbers = (readField name position v).map eraseNumbers := by
  cases v with
  | arr items =>
    have hitems : ∀ items, eraseItems items = items.map eraseNumbers := by
      intro items
      induction items with
      | nil => rfl
      | cons v items ih => rw [eraseItems, ih, List.map_cons]
    rw [eraseNumbers, readField, readField, hitems, List.getElem?_map]
  | obj entries =>
    have hentries : ∀ entries, (eraseEntries entries).find? (fun e => e.1 == name) =
        (entries.find? fun e => e.1 == name).map fun e => (e.1, e.2.eraseNumbers) := by
      intro entries
      induction entries with
      | nil => rfl
      | cons e entries ih =>
        rw [eraseEntries, List.find?_cons, List.find?_cons, ih]
        cases e.1 == name <;> rfl
    rw [eraseNumbers, readField, readField, hentries, Option.map_map, Option.map_map]
    rfl
  | _ => rfl

/-- Text is read alike from two trees that differ in their numbers only. -/
theorem readText_eraseNumbers (name : String) (position : Nat) (v : Json) :
    readText name position v.eraseNumbers = readText name position v := by
  unfold readText
  rw [readField_eraseNumbers]
  cases readField name position v with
  | none => rfl
  | some w => cases w <;> rfl

end Json
