/-
Hexadecimal text of byte strings. `encode` writes two lower-case digits a byte; `decode` reads digits of
either case, in pairs, and undoes `encode`.
-/
import Mathlib.Data.List.Basic

namespace Hex

/-- The lower-case digit of a number below 16. -/
def digit (n : Nat) : Char := if n < 10 then Char.ofNat (48 + n) else Char.ofNat (87 + n)

/-- The value of a digit of either case. -/
def value (c : Char) : Option Nat :=
  if 48 ≤ c.toNat ∧ c.toNat ≤ 57 then some (c.toNat - 48)
  else if 97 ≤ c.toNat ∧ c.toNat ≤ 102 then some (c.toNat - 87)
  else if 65 ≤ c.toNat ∧ c.toNat ≤ 70 then some (c.toNat - 55)
  else none

/-- The digits of a byte string. -/
def digits : List UInt8 → List Char
  | [] => []
  | b :: l => digit (b.toNat / 16) :: digit (b.toNat % 16) :: digits l

/-- `hex::encode`. -/
def encode (l : List UInt8) : String := String.ofList (digits l)

/-- The bytes of a list of digits, if their number is even and all are digits. -/
def bytes : List Char → Option (List UInt8)
  | [] => some []
  | [_] => none
  | c :: d :: l =>
    match value c, value d, bytes l with
    | some m, some n, some l => some (UInt8.ofNat (16 * m + n) :: l)
    | _, _, _ => none

/-- `hex::decode`. -/
def decode (s : String) : Option (List UInt8) := bytes s.toList

theorem value_digit {n : Nat} (h : n < 16) : value (digit n) = some n := by
  have hall : ∀ n : Fin 16, value (digit n) = some n.1 := by decide
  exact hall ⟨n, h⟩

theorem bytes_digits (l : List UInt8) : bytes (digits l) = some l := by
  induction l with
  | nil => rfl
  | cons b l ih =>
    have hb := b.toNat_lt
    have hsplit : 16 * (b.toNat / 16) + b.toNat % 16 = b.toNat := Nat.div_add_mod b.toNat 16
    rw [digits, bytes, value_digit (show b.toNat / 16 < 16 by omega), value_digit (Nat.mod_lt _ (by omega)), ih]
    simp [hsplit]

/-- Only digits are read. -/
theorem isSome_value_of_bytes : ∀ {cs : List Char} {l : List UInt8}, bytes cs = some l → ∀ c ∈ cs, (value c).isSome = true
  | [], _, _, _, hc => nomatch hc
  | [_], _, h, _, _ => nomatch h
  | a :: b :: cs, l, h, c, hc => by
    rw [bytes] at h
    split at h
    · rename_i m n rest ha hb hrest
      rcases List.mem_cons.1 hc with rfl | hc
      · rw [ha]
        rfl
      rcases List.mem_cons.1 hc with rfl | hc
      · rw [hb]
        rfl
      · exact isSome_value_of_bytes hrest c hc
    · cases h

@[simp] theorem decode_encode (l : List UInt8) : decode (encode l) = some l := by
  rw [decode, encode, String.toList_ofList, bytes_digits]

theorem encode_injective : Function.Injective encode := by
  intro l l' h
  have := decode_encode l
  rw [h, decode_encode] at this
  exact (Option.some.inj this).symm

theorem length_digits (l : List UInt8) : (digits l).length = 2 * l.length := by
  induction l with
  | nil => rfl
  | cons b l ih =>
    simp only [digits, List.length_cons, ih]
    omega

/-- Every digit is in one of the two lower-case ranges. -/
theorem digits_range (l : List UInt8) : ∀ c ∈ digits l,
    (48 ≤ c.toNat ∧ c.toNat ≤ 57) ∨ (97 ≤ c.toNat ∧ c.toNat ≤ 102) := by
  have hall : ∀ n : Fin 16, (48 ≤ (digit n).toNat ∧ (digit n).toNat ≤ 57) ∨
      (97 ≤ (digit n).toNat ∧ (digit n).toNat ≤ 102) := by decide
  induction l with
  | nil => simp [digits]
  | cons b l ih =>
    have hb := b.toNat_lt
    intro c hc
    rw [digits, List.mem_cons, List.mem_cons] at hc
    rcases hc with rfl | rfl | hc
    · exact hall ⟨b.toNat / 16, by omega⟩
    · exact hall ⟨b.toNat % 16, Nat.mod_lt _ (by omega)⟩
    · exact ih c hc

/-- Hexadecimal text has one byte a digit. -/
theorem utf8ByteSize_encode (l : List UInt8) : (encode l).utf8ByteSize = 2 * l.length := by
  have hone : ∀ cs : List Char, (∀ c ∈ cs, c.utf8Size = 1) → (String.ofList cs).utf8ByteSize = cs.length := by
    intro cs
    induction cs with
    | nil => exact fun _ => rfl
    | cons c cs ih =>
      intro h
      rw [String.ofList_cons, String.utf8ByteSize_append, String.utf8ByteSize_singleton, h c (List.mem_cons_self ..),
        ih fun d hd => h d (List.mem_cons_of_mem _ hd), List.length_cons]
      omega
  rw [encode, hone, length_digits]
  intro c hc
  have hrange := digits_range l c hc
  rw [Char.utf8Size_eq_one_iff, UInt32.le_iff_toNat_le]
  show c.toNat ≤ 127
  omega

end Hex
