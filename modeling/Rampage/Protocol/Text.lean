/-
The string tests of the protocol crate, on the characters of a string: ASCII, hexadecimal digits,
a prefix, Unicode white space, and the `sha256:` content address. Lengths are in UTF-8 bytes, as
`str::len` counts them.
-/
import Mathlib.Algebra.Order.Ring.Nat
import Mathlib.Data.List.Basic

namespace Rampage.Protocol

/-- `str::is_ascii`. -/
def isAscii (s : String) : Bool := s.toList.all (·.toNat < 128)

/-- `u8::is_ascii_digit` or `b'a'..=b'f'`. -/
def isLowerHexChar (c : Char) : Bool :=
  (48 ≤ c.toNat && c.toNat ≤ 57) || (97 ≤ c.toNat && c.toNat ≤ 102)

/-- `u8::is_ascii_hexdigit`. -/
def isHexDigit (c : Char) : Bool := isLowerHexChar c || (65 ≤ c.toNat && c.toNat ≤ 70)

/-- `is_lower_hex`. -/
def isLowerHex (cs : List Char) : Bool := cs.all isLowerHexChar

/-- `str::strip_prefix`, on characters. -/
def stripPrefix : List Char → List Char → Option (List Char)
  | [], cs => some cs
  | _ :: _, [] => none
  | p :: ps, c :: cs => if p = c then stripPrefix ps cs else none

/-- `str::starts_with`, on characters. -/
def startsWith (p cs : List Char) : Bool := (stripPrefix p cs).isSome

/-- The Unicode `White_Space` property, which `str::trim` strips. -/
def isWhiteSpace (c : Char) : Bool :=
  let n := c.toNat
  (9 ≤ n && n ≤ 13) || n == 0x20 || n == 0x85 || n == 0xA0 || n == 0x1680 ||
    (0x2000 ≤ n && n ≤ 0x200A) || n == 0x2028 || n == 0x2029 || n == 0x202F || n == 0x205F || n == 0x3000

/-- `value.trim().is_empty()`. -/
def trimIsEmpty (s : String) : Bool := s.toList.all isWhiteSpace

/-- The prefix of a content address. -/
def digestPrefix : List Char := ['s', 'h', 'a', '2', '5', '6', ':']

/-- `is_sha256_digest`: `sha256:` and 64 lower-case hexadecimal digits. -/
def isSha256Digest (s : String) : Bool :=
  match stripPrefix digestPrefix s.toList with
  | some hex => hex.length == 64 && isLowerHex hex
  | none => false

theorem stripPrefix_append (p cs : List Char) : stripPrefix p (p ++ cs) = some cs := by
  induction p with
  | nil => simp [stripPrefix]
  | cons c p ih => simpa [stripPrefix] using ih

theorem eq_append_of_stripPrefix : ∀ {p cs rest : List Char}, stripPrefix p cs = some rest → cs = p ++ rest
  | [], _, _, h => Option.some.inj h
  | _ :: _, [], _, h => nomatch h
  | a :: p, c :: cs, rest, h => by
    rw [stripPrefix] at h
    split at h
    · rename_i heq
      rw [heq, eq_append_of_stripPrefix h, List.cons_append]
    · cases h

/-- A string built from the prefix and 64 lower-case hexadecimal digits is a content address. -/
theorem isSha256Digest_of_hex {hex : List Char} (hl : hex.length = 64) (hx : isLowerHex hex = true) :
    isSha256Digest (String.ofList (digestPrefix ++ hex)) = true := by
  unfold isSha256Digest
  rw [String.toList_ofList, stripPrefix_append]
  simp [hl, hx]

example : isSha256Digest "sha256:aaaaaaaaaaaaaaaaaaaaaaaaaaaaaaaaaaaaaaaaaaaaaaaaaaaaaaaaaaaaaaaa" = true := by
  decide

end Rampage.Protocol
