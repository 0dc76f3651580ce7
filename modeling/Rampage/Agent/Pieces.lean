/-
How a worker cuts the text of a line. `utf8_chunks` moves an offset back to the last boundary within reach, and past one
character where there is none; `utf8ChunksRun` follows it on the bytes, a slice inside a character being a panic. It never
panics, and its pieces are the longest that end between characters (`chunksFrom_eq`), so that they are the text, none is
empty, and only a single character is ever larger than the limit (`utf8Chunks_is_faithful`).
-/
import Rampage.Agent.Ollama
import Rampage.Lib.Utf8

namespace Rampage.Agent

open Utf8

/-! ## The loop -/

section

variable (bytes : List UInt8)

/-- The inner loop of `utf8_chunks`: back to a boundary, or to the start of the piece. -/
def stepBack (start : Nat) : Nat → Nat
  | 0 => 0
  | stop + 1 => if decide (start < stop + 1) && !isCharBoundary bytes (stop + 1) then stepBack start stop else stop + 1

/-- Where the piece at `start` ends; `none` is a panic. -/
def chunkEnd (maxBytes start : Nat) : Option Nat :=
  let stop := stepBack bytes start (min (start + maxBytes) bytes.length)
  if stop = start then
    -- not even one character fits: take the first
    (slice bytes start bytes.length).map fun rest => ((charIndices rest)[1]?.map (start + ·)).getD bytes.length
  else some stop

theorem le_stepBack {start : Nat} : ∀ {stop : Nat}, start ≤ stop → start ≤ stepBack bytes start stop
  | 0, h => h
  | stop + 1, h => by
    rw [stepBack]
    split
    · rename_i hback
      simp only [Bool.and_eq_true, decide_eq_true_eq] at hback
      exact le_stepBack (Nat.le_of_lt_succ hback.1)
    · exact h

variable {bytes}

/-- Every piece takes the loop forward. -/
theorem lt_chunkEnd {maxBytes start stop : Nat} (hstart : start < bytes.length)
    (h : chunkEnd bytes maxBytes start = some stop) : start < stop := by
  unfold chunkEnd at h
  dsimp only at h
  split at h
  · obtain ⟨rest, -, rfl⟩ := Option.map_eq_some_iff.1 h
    cases hnext : (charIndices rest)[1]? with
    | none => exact hstart
    | some offset =>
      have hpos := charIndices_one_pos hnext
      show start < start + offset
      omega
  · rename_i hmoved
    have hback : start ≤ stepBack bytes start (min (start + maxBytes) bytes.length) := le_stepBack bytes (by omega)
    obtain rfl := Option.some.inj h
    omega

variable (bytes)

/-- The outer loop of `utf8_chunks`, from an offset on. -/
def chunksFrom (maxBytes start : Nat) : Option (List (List UInt8)) :=
  if _hstart : start < bytes.length then
    match _hstop : chunkEnd bytes maxBytes start with
    | none => none
    | some stop =>
      match slice bytes start stop with
      | none => none
      | some piece => (chunksFrom maxBytes stop).map (piece :: ·)
  else some []
termination_by bytes.length - start
decreasing_by
  have hlt := lt_chunkEnd _hstart _hstop
  omega

end

/-- `utf8_chunks`, offset by offset; `none` is a panic. -/
def utf8ChunksRun (value : String) (maxBytes : Nat) : Option (List (List UInt8)) :=
  if value.utf8ByteSize ≤ maxBytes then some [utf8 value] else chunksFrom (utf8 value) maxBytes 0

/-! ## One piece -/

section

variable {bytes : List UInt8} {start stop boundary maxBytes : Nat}

/-- Stepping back ends at the last boundary that is not before the start. -/
theorem stepBack_eq : ∀ {stop : Nat}, start ≤ boundary → boundary ≤ stop → isCharBoundary bytes boundary = true →
    (∀ i, boundary < i → i ≤ stop → isCharBoundary bytes i = false) → stepBack bytes start stop = boundary
  | 0, _, hle, _, _ => (Nat.le_zero.1 hle).symm
  | stop + 1, hstart, hle, hboundary, hnone => by
    rw [stepBack]
    by_cases heq : boundary = stop + 1
    · subst heq
      rw [hboundary]
      simp
    · rw [hnone (stop + 1) (by omega) (le_refl _), if_pos (by simp; omega)]
      exact stepBack_eq hstart (by omega) hboundary fun i hi hi' => hnone i hi (by omega)

/-- Stepping back from as far as the limit allows: to the end of the longest beginning of the rest that fits. -/
theorem stepBack_encode (before rest : List Char) :
    stepBack (encode (before ++ rest)) (byteLen before)
        (min (byteLen before + maxBytes) (encode (before ++ rest)).length) =
      byteLen before + byteLen (Cut.takeWithin Char.utf8Size maxBytes rest).1 := by
  have happend := Cut.takeWithin_append Char.utf8Size maxBytes rest
  have hfits : byteLen (Cut.takeWithin Char.utf8Size maxBytes rest).1 ≤ maxBytes :=
    Cut.weight_takeWithin Char.utf8Size maxBytes rest
  have hrest : byteLen (Cut.takeWithin Char.utf8Size maxBytes rest).1 ≤ byteLen rest := by
    have hlen := congrArg byteLen happend
    rw [byteLen_append] at hlen
    omega
  have htotal : (encode (before ++ rest)).length = byteLen before + byteLen rest := by
    rw [length_encode, byteLen_append]
  refine stepBack_eq (by omega) (by omega) ?_ ?_
  · rw [isCharBoundary_append]
    have hboundary := isCharBoundary_byteLen (Cut.takeWithin Char.utf8Size maxBytes rest).1
      (Cut.takeWithin Char.utf8Size maxBytes rest).2
    rwa [happend] at hboundary
  · intro i hlt hle
    obtain ⟨k, rfl⟩ : ∃ k, i = byteLen before + k := ⟨i - byteLen before, by omega⟩
    rw [isCharBoundary_append]
    exact @isCharBoundary_takeWithin maxBytes rest k (by omega) (by omega) (by omega)

/-- A piece is one character and what else fits. -/
theorem chunkEnd_encode (before : List Char) (c : Char) (rest : List Char) :
    chunkEnd (encode (before ++ c :: rest)) maxBytes (byteLen before) =
      some (byteLen before + byteLen (c :: (Cut.takeWithin Char.utf8Size (maxBytes - c.utf8Size) rest).1)) := by
  have hpos := c.utf8Size_pos
  unfold chunkEnd
  dsimp only
  rw [stepBack_encode, Cut.takeWithin]
  by_cases hc : c.utf8Size ≤ maxBytes
  · rw [if_pos hc]
    dsimp only
    rw [if_neg]
    rw [byteLen_cons]
    omega
  · -- the character alone is over the limit
    rw [if_neg hc]
    have hslice : slice (encode (before ++ c :: rest)) (byteLen before) (encode (before ++ c :: rest)).length =
        some (encode (c :: rest)) := by
      have hall := slice_encode before (c :: rest) []
      rwa [List.append_nil, ← byteLen_append, ← length_encode (before ++ c :: rest)] at hall
    have hnone : (Cut.takeWithin Char.utf8Size (maxBytes - c.utf8Size) rest).1 = [] := by
      rw [Nat.sub_eq_zero_of_le (by omega)]
      cases rest with
      | nil => rfl
      | cons d ds =>
        have hd := d.utf8Size_pos
        rw [Cut.takeWithin, if_neg (by omega)]
    dsimp only
    rw [byteLen_nil, Nat.add_zero, if_pos rfl, hslice, hnone, Option.map_some, charIndices_cons, byteLen_cons, byteLen_nil,
      Nat.add_zero]
    cases rest with
    | nil =>
      rw [if_pos rfl, length_encode, byteLen_append, byteLen_cons, byteLen_nil, Nat.add_zero]
      rfl
    | cons d ds =>
      rw [if_neg (by simp)]
      rfl

end

/-! ## All pieces -/

/-- The loop cuts what is left into the longest pieces that end between characters. -/
theorem chunksFrom_eq (maxBytes : Nat) (rest before : List Char) :
    chunksFrom (encode (before ++ rest)) maxBytes (byteLen before) =
      some ((Cut.pieces Char.utf8Size maxBytes rest).map encode) := by
  fun_induction Cut.pieces Char.utf8Size maxBytes rest generalizing before with
  | case1 =>
    have hend : ¬ byteLen before < (encode (before ++ [])).length := by simp
    rw [chunksFrom, dif_neg hend]
    rfl
  | case2 c rest ih =>
    have hpos := c.utf8Size_pos
    have hstart : byteLen before < (encode (before ++ c :: rest)).length := by
      rw [length_encode, byteLen_append, byteLen_cons]
      omega
    have happend := Cut.takeWithin_append Char.utf8Size (maxBytes - c.utf8Size) rest
    revert ih happend
    have hstop := @chunkEnd_encode maxBytes before c rest
    generalize Cut.takeWithin Char.utf8Size (maxBytes - c.utf8Size) rest = taken at hstop ⊢
    intro ih happend
    have hslice := slice_encode before (c :: taken.1) taken.2
    -- the rest is cut with this piece put before it
    have hnext := ih (before ++ c :: taken.1)
    have hsame : before ++ (c :: taken.1 ++ taken.2) = before ++ c :: rest := by rw [List.cons_append, happend]
    rw [hsame] at hslice
    rw [List.append_assoc, hsame, byteLen_append] at hnext
    rw [chunksFrom, dif_pos hstart]
    split
    · rename_i hfail
      rw [hstop] at hfail
      cases hfail
    · rename_i stop hsome
      rw [hstop] at hsome
      obtain rfl := Option.some.inj hsome
      rw [hslice]
      dsimp only
      rw [hnext]
      rfl

theorem mem_utf8Chunks {value piece : String} {maxBytes : Nat} (h : piece ∈ utf8Chunks value maxBytes) :
    (value ≠ "" → piece ≠ "") ∧ (piece.utf8ByteSize ≤ maxBytes ∨ piece.length = 1) := by
  unfold utf8Chunks at h
  split at h
  · rename_i hshort
    obtain rfl := List.mem_singleton.1 h
    exact ⟨id, .inl hshort⟩
  · obtain ⟨cs, hcs, rfl⟩ := List.mem_map.1 h
    obtain ⟨hne, hsize⟩ := Cut.mem_pieces Char.utf8Size_pos hcs
    constructor
    · rintro - hempty
      exact hne (by simpa using hempty)
    · rw [utf8ByteSize_ofList, String.length_ofList]
      exact hsize

theorem byteLen_toList (s : String) : byteLen s.toList = s.utf8ByteSize := by
  rw [← length_utf8, length_utf8_eq_utf8ByteSize]

/-- A limit of four bytes lets every character through. -/
theorem utf8ByteSize_le_of_mem {value piece : String} {maxBytes : Nat} (hfour : 4 ≤ maxBytes)
    (h : piece ∈ utf8Chunks value maxBytes) : piece.utf8ByteSize ≤ maxBytes := by
  rcases (mem_utf8Chunks h).2 with hfits | hsingle
  · exact hfits
  · obtain ⟨c, hc⟩ := List.length_eq_one_iff.1 (String.length_toList.trans hsingle)
    have hsize := c.utf8Size_le_four
    rw [← byteLen_toList, hc, byteLen_cons, byteLen_nil]
    omega

theorem flatMap_utf8Chunks (value : String) (maxBytes : Nat) :
    (utf8Chunks value maxBytes).flatMap String.toList = value.toList := by
  unfold utf8Chunks
  split
  · simp
  · simp [List.flatMap_map, Cut.flatten_pieces]

/-- The characters of the pieces are those of the text. -/
theorem mem_toList_of_mem {value piece : String} {maxBytes : Nat} (h : piece ∈ utf8Chunks value maxBytes) :
    ∀ c ∈ piece.toList, c ∈ value.toList := by
  intro c hc
  rw [← flatMap_utf8Chunks value maxBytes]
  exact List.mem_flatMap.2 ⟨piece, h, hc⟩

theorem sum_utf8ByteSize (pieces : List String) :
    (pieces.map String.utf8ByteSize).sum = byteLen (pieces.flatMap String.toList) := by
  induction pieces with
  | nil => rfl
  | cons piece pieces ih => rw [List.map_cons, List.sum_cons, ih, List.flatMap_cons, byteLen_append, byteLen_toList]

/-- Pieces begin and end at boundaries of the text that they are. -/
theorem isCharBoundary_pieces (pieces : List String) (k : Nat) :
    isCharBoundary (encode (pieces.flatMap String.toList)) (((pieces.take k).map String.utf8ByteSize).sum) = true := by
  have hsplit : pieces.flatMap String.toList = (pieces.take k).flatMap String.toList ++ (pieces.drop k).flatMap String.toList := by
    rw [← List.flatMap_append, List.take_append_drop]
  rw [hsplit, sum_utf8ByteSize]
  exact isCharBoundary_byteLen _ _

theorem utf8ChunksRun_eq (value : String) (maxBytes : Nat) :
    utf8ChunksRun value maxBytes = some ((utf8Chunks value maxBytes).map utf8) := by
  unfold utf8ChunksRun utf8Chunks
  split
  · rfl
  · have hall := chunksFrom_eq maxBytes value.toList []
    rw [List.nil_append, byteLen_nil, encode_toList] at hall
    rw [hall, List.map_map]
    refine congrArg some (List.map_congr_left fun piece _ => ?_)
    rw [Function.comp_apply, utf8_ofList]

/-- Cutting a text, of any length and at any limit: the run ends without a panic, with pieces of text; they are the text,
none of a text that is not empty is empty, every one begins and ends at a boundary, and only a single character is larger
than the limit, which happens for limits below four only. No offset overflows on a text that fits into memory. -/
theorem utf8Chunks_is_faithful (value : String) (maxBytes : Nat) :
    utf8ChunksRun value maxBytes = some ((utf8Chunks value maxBytes).map utf8) ∧
    (utf8Chunks value maxBytes).flatMap String.toList = value.toList ∧
    (value ≠ "" → ∀ piece ∈ utf8Chunks value maxBytes, piece ≠ "") ∧
    (∀ k, isCharBoundary (utf8 value) (((utf8Chunks value maxBytes).take k).map String.utf8ByteSize).sum = true) ∧
    (∀ piece ∈ utf8Chunks value maxBytes, piece.utf8ByteSize ≤ maxBytes ∨ piece.length = 1) ∧
    (4 ≤ maxBytes → ∀ piece ∈ utf8Chunks value maxBytes, piece.utf8ByteSize ≤ maxBytes) ∧
    (value.utf8ByteSize < 2 ^ 63 → maxBytes < value.utf8ByteSize →
      ∀ start < value.utf8ByteSize, start + maxBytes < 2 ^ 64) := by
  have hpieces := flatMap_utf8Chunks value maxBytes
  refine ⟨utf8ChunksRun_eq value maxBytes, hpieces, ?_, ?_, ?_, ?_, ?_⟩
  · intro hvalue piece hpiece
    exact (mem_utf8Chunks hpiece).1 hvalue
  · intro k
    have hboundary := isCharBoundary_pieces (utf8Chunks value maxBytes) k
    rwa [hpieces, encode_toList] at hboundary
  · intro piece hpiece
    exact (mem_utf8Chunks hpiece).2
  · intro hfour piece hpiece
    exact utf8ByteSize_le_of_mem hfour hpiece
  · intro hmemory hlimit start hstart
    omega

end Rampage.Agent
