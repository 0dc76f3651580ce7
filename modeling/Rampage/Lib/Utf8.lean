/-
Where the characters of a UTF-8 text begin. A byte offset is a boundary if the byte there does not continue a character;
on the bytes of a text these are the sizes of its beginnings (`isCharBoundary_append`, `isCharBoundary_inside`). A text may
be cut at boundaries only (`slice_encode`).
-/
import Rampage.Lib.Cut
import Rampage.Lib.Json

namespace Utf8

/-! ## Bytes of characters -/

/-- The bytes of characters. -/
def encode (cs : List Char) : List UInt8 := cs.flatMap String.utf8EncodeChar

@[simp] theorem encode_nil : encode [] = [] := rfl

@[simp] theorem encode_append (cs ds : List Char) : encode (cs ++ ds) = encode cs ++ encode ds := List.flatMap_append

@[simp] theorem length_encode (cs : List Char) : (encode cs).length = byteLen cs := length_flatMap_utf8EncodeChar cs

theorem encode_toList (s : String) : encode s.toList = utf8 s := rfl

@[simp] theorem utf8_ofList (cs : List Char) : utf8 (String.ofList cs) = encode cs := by
  simp [utf8, encode]

/-- A byte after the first one of its character. -/
def isContinuation (b : UInt8) : Bool := decide (128 ≤ b.toNat) && decide (b.toNat < 192)

/-- A character is a byte that begins it and bytes that continue it. -/
theorem utf8EncodeChar_eq (c : Char) : ∃ b rest, String.utf8EncodeChar c = b :: rest ∧ isContinuation b = false ∧
    ∀ d ∈ rest, isContinuation d = true := by
  have hmax : c.val.toNat < 1114112 := by
    rcases c.valid with h | h
    · have : c.val.toNat < 55296 := h
      omega
    · exact h.2
  have hval : c.toNat = c.val.toNat := rfl
  unfold String.utf8EncodeChar
  dsimp only
  split_ifs with h1 h2 h3
  · refine ⟨_, _, rfl, ?_, by simp⟩
    simp [isContinuation, UInt8.toNat_ofNat']
    omega
  · refine ⟨_, _, rfl, ?_, ?_⟩
    · simp [isContinuation, UInt8.toNat_ofNat']
      omega
    · simp [isContinuation, UInt8.toNat_ofNat']
      omega
  · refine ⟨_, _, rfl, ?_, ?_⟩
    · simp [isContinuation, UInt8.toNat_ofNat']
      omega
    · simp [isContinuation, UInt8.toNat_ofNat']
      omega
  · refine ⟨_, _, rfl, ?_, ?_⟩
    · simp [isContinuation, UInt8.toNat_ofNat']
      omega
    · simp [isContinuation, UInt8.toNat_ofNat']
      omega

/-! ## Boundaries -/

/-- `str::is_char_boundary`, of the bytes of a text. -/
def isCharBoundary (bytes : List UInt8) (index : Nat) : Bool :=
  index == 0 || index == bytes.length || bytes[index]?.any (!isContinuation ·)

@[simp] theorem isCharBoundary_zero (bytes : List UInt8) : isCharBoundary bytes 0 = true := rfl

/-- No boundary is inside a character. -/
theorem isCharBoundary_inside {c : Char} {cs : List Char} {i : Nat} (h0 : 0 < i) (hi : i < c.utf8Size) :
    isCharBoundary (encode (c :: cs)) i = false := by
  obtain ⟨b, rest, hc, -, hrest⟩ := utf8EncodeChar_eq c
  have hlen := String.length_utf8EncodeChar c
  rw [hc, List.length_cons] at hlen
  have hbytes : encode (c :: cs) = b :: (rest ++ encode cs) := by
    rw [encode, List.flatMap_cons, hc]
    rfl
  obtain ⟨k, rfl⟩ : ∃ k, i = k + 1 := ⟨i - 1, by omega⟩
  have hk : k < rest.length := by omega
  have hbyte : (b :: (rest ++ encode cs))[k + 1]? = some rest[k] := by
    rw [List.getElem?_cons_succ, List.getElem?_append_left hk, List.getElem?_eq_getElem hk]
  rw [hbytes, isCharBoundary, hbyte, Option.any_some, hrest _ (List.getElem_mem hk)]
  simp
  omega

/-- After a character the boundaries are those of the rest. -/
theorem isCharBoundary_cons (c : Char) (cs : List Char) (i : Nat) :
    isCharBoundary (encode (c :: cs)) (c.utf8Size + i) = isCharBoundary (encode cs) i := by
  have hpos := c.utf8Size_pos
  have hlen := String.length_utf8EncodeChar c
  have hbytes : encode (c :: cs) = String.utf8EncodeChar c ++ encode cs := rfl
  have hget : (encode (c :: cs))[c.utf8Size + i]? = (encode cs)[i]? := by
    rw [hbytes, List.getElem?_append_right (by omega), hlen, Nat.add_sub_cancel_left]
  have hzero : (c.utf8Size + i == 0) = false := by
    rw [beq_eq_false_iff_ne]
    omega
  have hend : (c.utf8Size + i == (encode (c :: cs)).length) = (i == (encode cs).length) := by
    rw [Bool.eq_iff_iff, beq_iff_eq, beq_iff_eq, length_encode, length_encode, byteLen_cons]
    omega
  rw [isCharBoundary, hget, hzero, hend, isCharBoundary, Bool.false_or]
  -- the first byte of the rest begins a character, so that zero is not a special case
  cases i with
  | succ k => rfl
  | zero =>
    cases cs with
    | nil => rfl
    | cons d ds =>
      obtain ⟨b, rest, hd, hb, -⟩ := utf8EncodeChar_eq d
      simp [encode, List.flatMap_cons, hd, hb]

theorem isCharBoundary_append (cs ds : List Char) (i : Nat) :
    isCharBoundary (encode (cs ++ ds)) (byteLen cs + i) = isCharBoundary (encode ds) i := by
  induction cs with
  | nil => rw [List.nil_append, byteLen_nil, Nat.zero_add]
  | cons c cs ih => rw [List.cons_append, byteLen_cons, Nat.add_assoc, isCharBoundary_cons, ih]

/-- Between two lists of characters there is a boundary. -/
theorem isCharBoundary_byteLen (cs ds : List Char) : isCharBoundary (encode (cs ++ ds)) (byteLen cs) = true := by
  have h := isCharBoundary_append cs ds 0
  rwa [Nat.add_zero] at h

/-- The longest beginning within a bound ends at the last boundary within it. -/
theorem isCharBoundary_takeWithin : ∀ {n : Nat} {cs : List Char} {i : Nat},
    byteLen (Cut.takeWithin Char.utf8Size n cs).1 < i → i ≤ n → i ≤ byteLen cs → isCharBoundary (encode cs) i = false
  | n, [], i, hlt, _, hle => by
    rw [byteLen_nil] at hle
    omega
  | n, c :: cs, i, hlt, hn, hle => by
    rw [Cut.takeWithin] at hlt
    by_cases hc : c.utf8Size ≤ n
    · rw [if_pos hc] at hlt
      dsimp only at hlt
      rw [byteLen_cons] at hlt hle
      obtain ⟨k, rfl⟩ : ∃ k, i = c.utf8Size + k := ⟨i - c.utf8Size, by omega⟩
      rw [isCharBoundary_cons]
      exact @isCharBoundary_takeWithin (n - c.utf8Size) cs k (by omega) (by omega) (by omega)
    · rw [if_neg hc] at hlt
      dsimp only at hlt
      rw [byteLen_nil] at hlt
      exact isCharBoundary_inside hlt (by omega)

/-! ## Slices and offsets -/

/-- `&text[start..stop]`, of the bytes of a text: a slice that would end inside a character panics. -/
def slice (bytes : List UInt8) (start stop : Nat) : Option (List UInt8) :=
  if decide (start ≤ stop) && isCharBoundary bytes start && isCharBoundary bytes stop then
    some ((bytes.drop start).take (stop - start))
  else none

theorem slice_encode (before piece after : List Char) :
    slice (encode (before ++ (piece ++ after))) (byteLen before) (byteLen before + byteLen piece) = some (encode piece) := by
  have hstart := isCharBoundary_byteLen before (piece ++ after)
  have hstop : isCharBoundary (encode (before ++ (piece ++ after))) (byteLen before + byteLen piece) = true := by
    rw [isCharBoundary_append, isCharBoundary_byteLen]
  rw [slice, hstart, hstop, if_pos (by simp)]
  refine congrArg some ?_
  rw [encode_append, encode_append, ← length_encode before, List.drop_left, Nat.add_sub_cancel_left, ← length_encode piece,
    List.take_left]

/-- The offsets of `str::char_indices`, of the bytes of a text. -/
def charIndices (bytes : List UInt8) : List Nat := (List.range bytes.length).filter (isCharBoundary bytes)

/-- The second character comes after the first one. -/
theorem charIndices_one_pos {bytes : List UInt8} {i : Nat} (h : (charIndices bytes)[1]? = some i) : 0 < i := by
  have hsorted : (charIndices bytes).Pairwise (· < ·) := List.pairwise_lt_range.filter _
  obtain ⟨hlen, hi⟩ := List.getElem?_eq_some_iff.1 h
  have hlt := List.pairwise_iff_getElem.1 hsorted 0 1 (by omega) hlen (by omega)
  omega

/-- The offset of the second character, if there is one, is the size of the first. -/
theorem charIndices_cons (c : Char) (cs : List Char) :
    (charIndices (encode (c :: cs)))[1]? = if cs = [] then none else some c.utf8Size := by
  have hpos := c.utf8Size_pos
  have hlen : (encode (c :: cs)).length = c.utf8Size + byteLen cs := by rw [length_encode, byteLen_cons]
  have hsplit : List.range (c.utf8Size + byteLen cs) =
      0 :: (List.range' 1 (c.utf8Size - 1) ++ List.range' c.utf8Size (byteLen cs)) := by
    have hone : c.utf8Size + byteLen cs = 1 + ((c.utf8Size - 1) + byteLen cs) := by omega
    rw [List.range_eq_range', hone, ← List.range'_append_1, ← List.range'_append_1]
    rw [show 0 + 1 + (c.utf8Size - 1) = c.utf8Size by omega]
    rfl
  have hinside : (List.range' 1 (c.utf8Size - 1)).filter (isCharBoundary (encode (c :: cs))) = [] := by
    rw [List.filter_eq_nil_iff]
    intro i hi
    have hrange := List.mem_range'_1.1 hi
    rw [isCharBoundary_inside (by omega) (by omega)]
    simp
  rw [charIndices, hlen, hsplit, List.filter_cons_of_pos (by simp), List.filter_append, hinside, List.nil_append,
    List.getElem?_cons_succ]
  cases cs with
  | nil => rfl
  | cons d ds =>
    have hd := d.utf8Size_pos
    have hfirst : isCharBoundary (encode (c :: d :: ds)) c.utf8Size = true := isCharBoundary_byteLen [c] (d :: ds)
    obtain ⟨k, hk⟩ : ∃ k, byteLen (d :: ds) = k + 1 := ⟨byteLen (d :: ds) - 1, by rw [byteLen_cons]; omega⟩
    rw [hk, List.range'_succ, List.filter_cons_of_pos hfirst, if_neg (by simp)]
    rfl

end Utf8
