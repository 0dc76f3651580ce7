/-
UUIDs as text. They are written hyphenated, and `parse_str` reads 32 hexadecimal digits or the hyphenated form, which
may stand in braces or after `urn:uuid:`. What was written is read back (`Uuid.parseStr_hyphenated`). Nothing else is
accepted, so a text that is read has none of the characters that are special in a URL (`Uuid.isUuidChar_of_parseStr`).
-/
import Rampage.Lib.Frames
import Rampage.Lib.Hex
import Rampage.Lib.Json
import Rampage.Protocol.Contracts

namespace Rampage.Protocol

namespace Uuid

/-- `Uuid::from_bytes`. -/
def fromBytes (b : List UInt8) : Uuid := BitVec.ofNat 128 (BigEndian.toNat b)

/-- `Uuid::as_bytes`. -/
def toBytes (u : Uuid) : List UInt8 := BigEndian.bytes 16 u.toNat

theorem fromBytes_toBytes (u : Uuid) : fromBytes (toBytes u) = u := by
  unfold fromBytes toBytes
  rw [BigEndian.toNat_bytes_of_lt u.isLt, BitVec.ofNat_toNat, BitVec.setWidth_eq]

/-- Digits with hyphens after the eighth, twelfth, sixteenth and twentieth. -/
def hyphenate (ds : List Char) : List Char :=
  ds.take 8 ++ '-' :: ((ds.drop 8).take 4 ++ '-' :: ((ds.drop 12).take 4 ++ '-' :: ((ds.drop 16).take 4 ++ '-' ::
    ds.drop 20)))

/-- `Uuid::hyphenated`, as `Display` and serde write a UUID. -/
def hyphenated (u : Uuid) : String := String.ofList (hyphenate (Hex.digits (toBytes u)))

/-- `parse_simple`. -/
def parseSimple (cs : List Char) : Option Uuid := (Hex.bytes cs).map fromBytes

/-- `parse_hyphenated`. -/
def parseHyphenated (cs : List Char) : Option Uuid :=
  if cs[8]? = some '-' ∧ cs[13]? = some '-' ∧ cs[18]? = some '-' ∧ cs[23]? = some '-' then
    parseSimple (cs.take 8 ++ ((cs.drop 9).take 4 ++ ((cs.drop 14).take 4 ++ ((cs.drop 19).take 4 ++ cs.drop 24))))
  else none

/-- `Uuid::parse_str`. -/
def parseStr (s : String) : Option Uuid :=
  if s.utf8ByteSize = 32 then parseSimple s.toList
  else if s.utf8ByteSize = 36 then parseHyphenated s.toList
  else if s.utf8ByteSize = 38 then
    if s.toList.head? = some (Char.ofNat 123) ∧ s.toList.getLast? = some (Char.ofNat 125) then
      parseHyphenated s.toList.tail.dropLast
    else none
  else if s.utf8ByteSize = 45 then (stripPrefix ['u', 'r', 'n', ':', 'u', 'u', 'i', 'd', ':'] s.toList).bind parseHyphenated
  else none

/-! ## Writing and reading -/

/-- Reading takes the hyphens out again. -/
theorem parseHyphenated_hyphenate {ds : List Char} (h : ds.length = 32) : parseHyphenated (hyphenate ds) = parseSimple ds := by
  have hparts : ds.take 8 ++ ((ds.drop 8).take 4 ++ ((ds.drop 12).take 4 ++ ((ds.drop 16).take 4 ++ ds.drop 20))) = ds := by
    have hnext : ∀ k m, (ds.drop k).take m ++ ds.drop (k + m) = ds.drop k := by
      intro k m
      rw [← List.drop_drop, List.take_append_drop]
    rw [hnext 16 4, hnext 12 4, hnext 8 4, List.take_append_drop]
  have ha : (ds.take 8).length = 8 := by rw [List.length_take]; omega
  have hb : ((ds.drop 8).take 4).length = 4 := by rw [List.length_take, List.length_drop]; omega
  have hc : ((ds.drop 12).take 4).length = 4 := by rw [List.length_take, List.length_drop]; omega
  have hd : ((ds.drop 16).take 4).length = 4 := by rw [List.length_take, List.length_drop]; omega
  unfold parseHyphenated hyphenate
  conv_rhs => rw [← hparts]
  generalize ds.take 8 = a at ha
  generalize (ds.drop 8).take 4 = b at hb
  generalize (ds.drop 12).take 4 = c at hc
  generalize (ds.drop 16).take 4 = d at hd
  generalize ds.drop 20 = e
  rw [if_pos]
  · simp (disch := omega) [List.drop_append, List.drop_of_length_le, ha, hb, hc, hd]
  · simp [List.getElem?_append, ha, hb, hc, hd]

theorem length_hyphenate {ds : List Char} (h : ds.length = 32) : (hyphenate ds).length = 36 := by
  simp [hyphenate, h]

theorem mem_hyphenate {ds : List Char} {x : Char} (h : x ∈ hyphenate ds) : x = '-' ∨ x ∈ ds := by
  simp only [hyphenate, List.mem_append, List.mem_cons] at h
  rcases h with h | rfl | h | rfl | h | rfl | h | rfl | h
  · exact Or.inr (List.mem_of_mem_take h)
  · exact Or.inl rfl
  · exact Or.inr (List.mem_of_mem_drop (List.mem_of_mem_take h))
  · exact Or.inl rfl
  · exact Or.inr (List.mem_of_mem_drop (List.mem_of_mem_take h))
  · exact Or.inl rfl
  · exact Or.inr (List.mem_of_mem_drop (List.mem_of_mem_take h))
  · exact Or.inl rfl
  · exact Or.inr (List.mem_of_mem_drop h)

theorem length_digits_toBytes (u : Uuid) : (Hex.digits (toBytes u)).length = 32 := by
  rw [Hex.length_digits, toBytes, BigEndian.length_bytes]

/-- Hexadecimal text is plain. -/
theorem isPlain_digits (l : List UInt8) : ∀ x ∈ Hex.digits l, isPlain x = true := by
  intro x hx
  have hrange := Hex.digits_range _ x hx
  have hquote : x ≠ '"' := by
    rintro rfl
    revert hrange
    decide
  have hback : x ≠ '\\' := by
    rintro rfl
    revert hrange
    decide
  simp only [isPlain, Bool.and_eq_true, decide_eq_true_eq, bne_iff_ne, ne_eq]
  exact ⟨⟨⟨by omega, by omega⟩, hquote⟩, hback⟩

/-- The text of a UUID is plain. -/
theorem isPlain_hyphenated (u : Uuid) : ∀ x ∈ (hyphenated u).toList, isPlain x = true := by
  intro x hx
  rw [hyphenated, String.toList_ofList] at hx
  rcases mem_hyphenate hx with rfl | hx
  · decide
  · exact isPlain_digits _ x hx

theorem length_hyphenated (u : Uuid) : (hyphenated u).toList.length = 36 := by
  rw [hyphenated, String.toList_ofList, length_hyphenate (length_digits_toBytes u)]

theorem parseStr_hyphenated (u : Uuid) : parseStr (hyphenated u) = some u := by
  have hsize : (hyphenated u).utf8ByteSize = 36 := by
    rw [← length_utf8_eq_utf8ByteSize, length_utf8, byteLen_of_isPlain (isPlain_hyphenated u), length_hyphenated]
  unfold parseStr
  rw [hsize, if_neg (by decide), if_pos rfl, hyphenated, String.toList_ofList,
    parseHyphenated_hyphenate (length_digits_toBytes u)]
  unfold parseSimple
  rw [Hex.bytes_digits, Option.map_some, fromBytes_toBytes]

theorem hyphenated_injective : Function.Injective hyphenated := by
  intro u v h
  have := parseStr_hyphenated u
  rw [h, parseStr_hyphenated] at this
  exact (Option.some.inj this).symm

/-! ## Accepted texts -/

/-- The characters of an accepted text. -/
def isUuidChar (c : Char) : Bool :=
  (Hex.value c).isSome || ['-', ':', 'u', 'r', 'n', 'i', 'd', Char.ofNat 123, Char.ofNat 125].contains c

theorem drop_of_getElem? {cs : List Char} {n : Nat} {a : Char} (h : cs[n]? = some a) : cs.drop n = a :: cs.drop (n + 1) := by
  obtain ⟨hn, rfl⟩ := List.getElem?_eq_some_iff.1 h
  exact List.drop_eq_getElem_cons hn

/-- A hyphenated text has digits and hyphens only. -/
theorem isUuidChar_of_parseHyphenated {cs : List Char} {u : Uuid} (h : parseHyphenated cs = some u) :
    ∀ c ∈ cs, isUuidChar c = true := by
  unfold parseHyphenated at h
  split at h
  · rename_i hhyphens
    obtain ⟨h₈, h₁₃, h₁₈, h₂₃⟩ := hhyphens
    unfold parseSimple at h
    obtain ⟨l, hl, -⟩ := Option.map_eq_some_iff.1 h
    have hdigit := Hex.isSome_value_of_bytes hl
    have hnext : ∀ k, cs.drop k = (cs.drop k).take 4 ++ cs.drop (k + 4) := by
      intro k
      rw [← List.drop_drop, List.take_append_drop]
    intro c hc
    rw [← List.take_append_drop 8 cs, drop_of_getElem? h₈, hnext 9, drop_of_getElem? h₁₃, hnext 14, drop_of_getElem? h₁₈,
      hnext 19, drop_of_getElem? h₂₃] at hc
    simp only [List.mem_append, List.mem_cons] at hc hdigit
    have hhyphen : isUuidChar '-' = true := by decide
    have hvalue : (Hex.value c).isSome = true → isUuidChar c = true := by
      intro hc
      unfold isUuidChar
      rw [hc, Bool.true_or]
    rcases hc with hc | rfl | hc | rfl | hc | rfl | hc | rfl | hc
    · exact hvalue (hdigit c (by tauto))
    · exact hhyphen
    · exact hvalue (hdigit c (by tauto))
    · exact hhyphen
    · exact hvalue (hdigit c (by tauto))
    · exact hhyphen
    · exact hvalue (hdigit c (by tauto))
    · exact hhyphen
    · exact hvalue (hdigit c (by tauto))
  · cases h

theorem mem_of_ends {l : List Char} {a b c : Char} (ha : l.head? = some a) (hb : l.getLast? = some b) (hc : c ∈ l) :
    c = a ∨ c = b ∨ c ∈ l.tail.dropLast := by
  cases l with
  | nil => cases hc
  | cons x rest =>
    cases ha
    rcases List.mem_cons.1 hc with rfl | hc
    · exact .inl rfl
    · right
      have hne : rest ≠ [] := List.ne_nil_of_mem hc
      rw [← List.dropLast_append_getLast hne] at hc
      rw [List.getLast?_cons_of_ne_nil hne, List.getLast?_eq_some_getLast hne] at hb
      rcases List.mem_append.1 hc with hc | hc
      · exact .inr hc
      · rw [List.mem_singleton.1 hc]
        exact .inl (Option.some.inj hb)

/-- An accepted text has none of the characters that are special in a URL. -/
theorem isUuidChar_of_parseStr {s : String} {u : Uuid} (h : parseStr s = some u) : ∀ c ∈ s.toList, isUuidChar c = true := by
  unfold parseStr at h
  split at h
  · unfold parseSimple at h
    obtain ⟨l, hl, -⟩ := Option.map_eq_some_iff.1 h
    intro c hc
    unfold isUuidChar
    rw [Hex.isSome_value_of_bytes hl c hc, Bool.true_or]
  split at h
  · exact isUuidChar_of_parseHyphenated h
  split at h
  · split at h
    · rename_i hends
      intro c hc
      rcases mem_of_ends hends.1 hends.2 hc with rfl | rfl | hc
      · decide
      · decide
      · exact isUuidChar_of_parseHyphenated h c hc
    · cases h
  split at h
  · obtain ⟨rest, hrest, hparse⟩ := Option.bind_eq_some_iff.1 h
    intro c hc
    rw [eq_append_of_stripPrefix hrest] at hc
    rcases List.mem_append.1 hc with hc | hc
    · have hurn : ['u', 'r', 'n', ':', 'u', 'u', 'i', 'd', ':'].all isUuidChar = true := by decide
      exact List.all_eq_true.1 hurn c hc
    · exact isUuidChar_of_parseHyphenated hparse c hc
  · cases h

end Uuid

end Rampage.Protocol
