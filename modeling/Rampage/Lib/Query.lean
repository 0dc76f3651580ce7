/-
`application/x-www-form-urlencoded` text, as the query of a URL carries it: pairs separated by `&`, each split at its
first `=`, with `+` for a blank and `%xx` for a byte. The repair of bytes that are no UTF-8 is a parameter. A pair
without separators and escapes is read as it stands (`Query.parse_plain`).
-/
import Mathlib.Data.List.Basic
import Rampage.Lib.Hex
import Rampage.Lib.Json

namespace Query

/-- The value of a byte that is a hexadecimal digit. -/
def hexValue (b : UInt8) : Option Nat := Hex.value (Char.ofNat b.toNat)

/-- `percent_decode`. Fewer than three bytes hold no escape. -/
def percentDecode : List UInt8 → List UInt8
  | b :: h :: l :: rest =>
    if b = 37 then
      match hexValue h, hexValue l with
      | some m, some n => UInt8.ofNat (16 * m + n) :: percentDecode rest
      | _, _ => b :: percentDecode (h :: l :: rest)
    else b :: percentDecode (h :: l :: rest)
  | bytes => bytes

/-- A name or a value: blanks and bytes are restored, and what is no UTF-8 is repaired. -/
def decode (fromUtf8Lossy : List UInt8 → String) (cs : List Char) : String :=
  fromUtf8Lossy (percentDecode (utf8 (String.ofList (cs.map fun c => if c = '+' then ' ' else c))))

/-- `form_urlencoded::parse`. -/
def parse (fromUtf8Lossy : List UInt8 → String) (query : String) : List (String × String) :=
  ((query.toList.splitOn '&').filter (· ≠ [])).map fun pair =>
    (decode fromUtf8Lossy (pair.takeWhile (· ≠ '=')), decode fromUtf8Lossy (pair.dropWhile (· ≠ '=')).tail)

/-- Characters that are read as they are. -/
def isPlain (c : Char) : Bool := c.toNat < 128 && !(['&', '%', '+'].contains c)

theorem percentDecode_of_notMem {l : List UInt8} (h : 37 ∉ l) : percentDecode l = l := by
  fun_induction percentDecode l with
  | case1 c d rest m n hm hn ih => exact absurd (List.mem_cons_self ..) h
  | case2 c d rest hno ih => exact absurd (List.mem_cons_self ..) h
  | case3 b c d rest hne ih => rw [ih fun hmem => h (List.mem_cons_of_mem _ hmem)]
  | case4 l hshort => rfl

/-- The byte of the escape sign stands for it only. -/
theorem percent_notMem_utf8 {s : String} (h : ∀ c ∈ s.toList, isPlain c = true) : 37 ∉ utf8 s := by
  intro hmem
  obtain ⟨c, hc, hbyte⟩ := List.mem_flatMap.1 hmem
  obtain ⟨hascii, hsign⟩ := Bool.and_eq_true_iff.1 (h c hc)
  have hlt : c.toNat < 128 := of_decide_eq_true hascii
  have hone : String.utf8EncodeChar c = [UInt8.ofNat c.toNat] := by
    unfold String.utf8EncodeChar
    exact if_pos (Nat.le_of_lt_succ hlt)
  rw [hone, List.mem_singleton] at hbyte
  have hval : c.toNat = 37 := by
    have hmod : 37 = c.toNat % 256 := congrArg UInt8.toNat hbyte
    omega
  have hc37 : c = '%' := by
    rw [← Char.ofNat_toNat c, hval]
  rw [hc37] at hsign
  cases hsign

section

variable {lossy : List UInt8 → String} (hlossy : ∀ s, lossy (utf8 s) = s)

include hlossy

theorem decode_plain {s : String} (h : ∀ c ∈ s.toList, isPlain c = true) : decode lossy s.toList = s := by
  have hkept : s.toList.map (fun c => if c = '+' then ' ' else c) = s.toList := by
    rw [List.map_congr_left (g := id), List.map_id]
    intro c hc
    refine if_neg ?_
    rintro rfl
    exact absurd (h _ hc) (by decide)
  rw [decode, hkept, String.ofList_toList, percentDecode_of_notMem (percent_notMem_utf8 h), hlossy]

/-- A single pair of plain text. -/
theorem parse_plain {name value : String} (hname : name.toList.all (fun c => isPlain c && c != '=') = true)
    (hvalue : ∀ c ∈ value.toList, isPlain c = true) : parse lossy (name ++ "=" ++ value) = [(name, value)] := by
  replace hname : ∀ c ∈ name.toList, isPlain c = true ∧ c ≠ '=' := by
    intro c hc
    obtain ⟨hplain, hne⟩ := Bool.and_eq_true_iff.1 (List.all_eq_true.1 hname c hc)
    exact ⟨hplain, bne_iff_ne.1 hne⟩
  have hand : ∀ c, isPlain c = true → ¬ c = '&' := by
    rintro c hc rfl
    exact absurd hc (by decide)
  have hlist : (name ++ "=" ++ value).toList = name.toList ++ '=' :: value.toList := by
    rw [String.toList_append, String.toList_append, List.append_assoc]
    rfl
  have hsplit : (name ++ "=" ++ value).toList.splitOn '&' = [name.toList ++ '=' :: value.toList] := by
    rw [hlist]
    refine List.splitOnP_eq_singleton ?_
    intro c hc
    refine beq_eq_false_iff_ne.2 ?_
    rcases List.mem_append.1 hc with hc | hc
    · exact hand c (hname c hc).1
    rcases List.mem_cons.1 hc with rfl | hc
    · decide
    · exact hand c (hvalue c hc)
  have hbefore : (name.toList ++ '=' :: value.toList).takeWhile (· ≠ '=') = name.toList := by
    rw [List.takeWhile_append_of_pos fun c hc => decide_eq_true (hname c hc).2]
    simp
  have hafter : (name.toList ++ '=' :: value.toList).dropWhile (· ≠ '=') = '=' :: value.toList := by
    rw [List.dropWhile_append_of_pos fun c hc => decide_eq_true (hname c hc).2]
    simp
  unfold parse
  rw [hsplit, List.filter_cons_of_pos (by simp), List.filter_nil, List.map_singleton, hbefore, hafter, List.tail_cons,
    decode_plain hlossy fun c hc => (hname c hc).1, decode_plain hlossy hvalue]

end

end Query
