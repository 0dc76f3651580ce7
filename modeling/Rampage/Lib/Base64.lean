/-
Base64 with the standard alphabet and canonical padding. `encode` writes four characters for three bytes; `decode` reads
only what `encode` writes: the last group is padded and its unused bits are zero. Hence a text has at most one reading
(`encode_of_decode`) and every byte string is read back (`decode_encode`).
-/
import Mathlib.Data.List.Basic
import Mathlib.Tactic.Common

namespace Base64

/-- The character of a number below 64. -/
def digit (n : Nat) : Char :=
  if n < 26 then Char.ofNat (65 + n)
  else if n < 52 then Char.ofNat (71 + n)
  else if n < 62 then Char.ofNat (n - 4)
  else if n = 62 then '+' else '/'

/-- The number of a character of the alphabet. -/
def value (c : Char) : Option Nat :=
  if 65 ≤ c.toNat ∧ c.toNat ≤ 90 then some (c.toNat - 65)
  else if 97 ≤ c.toNat ∧ c.toNat ≤ 122 then some (c.toNat - 71)
  else if 48 ≤ c.toNat ∧ c.toNat ≤ 57 then some (c.toNat + 4)
  else if c = '+' then some 62
  else if c = '/' then some 63
  else none

/-- `STANDARD.encode`. -/
def encode : List UInt8 → List Char
  | [] => []
  | [a] => [digit (a.toNat / 4), digit (a.toNat % 4 * 16), '=', '=']
  | [a, b] => [digit (a.toNat / 4), digit (a.toNat % 4 * 16 + b.toNat / 16), digit (b.toNat % 16 * 4), '=']
  | a :: b :: c :: l =>
    digit (a.toNat / 4) :: digit (a.toNat % 4 * 16 + b.toNat / 16) :: digit (b.toNat % 16 * 4 + c.toNat / 64) ::
      digit (c.toNat % 64) :: encode l

/-- The byte of the last group with two padding characters. -/
def lastOne (w x : Char) : Option (List UInt8) :=
  match value w, value x with
  | some m, some n => if n % 16 = 0 then some [UInt8.ofNat (m * 4 + n / 16)] else none
  | _, _ => none

/-- The bytes of the last group with one padding character. -/
def lastTwo (w x y : Char) : Option (List UInt8) :=
  match value w, value x, value y with
  | some m, some n, some k =>
    if k % 4 = 0 then some [UInt8.ofNat (m * 4 + n / 16), UInt8.ofNat (n % 16 * 16 + k / 4)] else none
  | _, _, _ => none

/-- `STANDARD.decode`. -/
def decode : List Char → Option (List UInt8)
  | [] => some []
  | w :: x :: y :: z :: l =>
    if l = [] ∧ z = '=' then if y = '=' then lastOne w x else lastTwo w x y
    else match value w, value x, value y, value z, decode l with
    | some m, some n, some k, some j, some l =>
      some (UInt8.ofNat (m * 4 + n / 16) :: UInt8.ofNat (n % 16 * 16 + k / 4) :: UInt8.ofNat (k % 4 * 64 + j) :: l)
    | _, _, _, _, _ => none
  | _ => none

/-! ## The alphabet -/

/-- The characters that `encode` writes. -/
def isEncoded (c : Char) : Bool := c.isAlphanum || c == '+' || c == '/' || c == '='

theorem value_digit {n : Nat} (h : n < 64) : value (digit n) = some n := by
  have hall : ∀ n : Fin 64, value (digit n) = some n.1 := by decide
  exact hall ⟨n, h⟩

theorem digit_ne_pad {n : Nat} (h : n < 64) : digit n ≠ '=' := by
  have hall : ∀ n : Fin 64, digit n ≠ '=' := by decide
  exact hall ⟨n, h⟩

theorem isEncoded_digit {n : Nat} (h : n < 64) : isEncoded (digit n) = true := by
  have hall : ∀ n : Fin 64, isEncoded (digit n) = true := by decide
  exact hall ⟨n, h⟩

theorem digit_of_value {c : Char} {n : Nat} (h : value c = some n) : n < 64 ∧ digit n = c := by
  unfold value at h
  have hself : ∀ m, m = c.toNat → Char.ofNat m = c := fun m hm => by rw [hm, Char.ofNat_toNat]
  split at h
  · obtain rfl := Option.some.inj h
    refine ⟨by omega, ?_⟩
    unfold digit
    rw [if_pos (by omega)]
    exact hself _ (by omega)
  split at h
  · obtain rfl := Option.some.inj h
    refine ⟨by omega, ?_⟩
    unfold digit
    rw [if_neg (by omega), if_pos (by omega)]
    exact hself _ (by omega)
  split at h
  · obtain rfl := Option.some.inj h
    refine ⟨by omega, ?_⟩
    unfold digit
    rw [if_neg (by omega), if_neg (by omega), if_pos (by omega)]
    exact hself _ (by omega)
  split at h
  · rename_i hc
    cases h
    exact ⟨by omega, hc.symm⟩
  split at h
  · rename_i hc
    cases h
    exact ⟨by omega, hc.symm⟩
  · cases h

/-! ## Lengths and characters of an encoding -/

theorem length_encode (l : List UInt8) : (encode l).length = (l.length + 2) / 3 * 4 := by
  induction l using encode.induct with
  | case1 => rfl
  | case2 a => simp [encode]
  | case3 a b => simp [encode]
  | case4 a b c l ih =>
    simp only [encode, List.length_cons, ih]
    omega

theorem isEncoded_of_mem {l : List UInt8} : ∀ c ∈ encode l, isEncoded c = true := by
  induction l using encode.induct with
  | case1 => simp [encode]
  | case2 a =>
    have ha := a.toNat_lt
    intro c hc
    simp only [encode, List.mem_cons, List.not_mem_nil, or_false] at hc
    rcases hc with rfl | rfl | rfl | rfl
    · exact isEncoded_digit (by omega)
    · exact isEncoded_digit (by omega)
    · rfl
    · rfl
  | case3 a b =>
    have ha := a.toNat_lt
    have hb := b.toNat_lt
    intro c hc
    simp only [encode, List.mem_cons, List.not_mem_nil, or_false] at hc
    rcases hc with rfl | rfl | rfl | rfl
    · exact isEncoded_digit (by omega)
    · exact isEncoded_digit (by omega)
    · exact isEncoded_digit (by omega)
    · rfl
  | case4 a b c l ih =>
    have ha := a.toNat_lt
    have hb := b.toNat_lt
    have hc := c.toNat_lt
    intro d hd
    simp only [encode, List.mem_cons] at hd
    rcases hd with rfl | rfl | rfl | rfl | hd
    · exact isEncoded_digit (by omega)
    · exact isEncoded_digit (by omega)
    · exact isEncoded_digit (by omega)
    · exact isEncoded_digit (by omega)
    · exact ih d hd

/-! ## Reading back -/

@[simp] theorem decode_encode (l : List UInt8) : decode (encode l) = some l := by
  induction l using encode.induct with
  | case1 => rfl
  | case2 a =>
    have ha := a.toNat_lt
    have hbyte : a.toNat / 4 * 4 + a.toNat % 4 * 16 / 16 = a.toNat := by omega
    rw [encode, decode, if_pos ⟨rfl, rfl⟩, if_pos rfl, lastOne, value_digit (by omega), value_digit (by omega)]
    dsimp only
    rw [if_pos (by omega), hbyte, UInt8.ofNat_toNat]
  | case3 a b =>
    have ha := a.toNat_lt
    have hb := b.toNat_lt
    have hfirst : a.toNat / 4 * 4 + (a.toNat % 4 * 16 + b.toNat / 16) / 16 = a.toNat := by omega
    have hsecond : (a.toNat % 4 * 16 + b.toNat / 16) % 16 * 16 + b.toNat % 16 * 4 / 4 = b.toNat := by omega
    rw [encode, decode, if_pos ⟨rfl, rfl⟩, if_neg (digit_ne_pad (by omega)), lastTwo, value_digit (by omega),
      value_digit (by omega), value_digit (by omega)]
    dsimp only
    rw [if_pos (by omega), hfirst, hsecond, UInt8.ofNat_toNat, UInt8.ofNat_toNat]
  | case4 a b c l ih =>
    have ha := a.toNat_lt
    have hb := b.toNat_lt
    have hc := c.toNat_lt
    have hfirst : a.toNat / 4 * 4 + (a.toNat % 4 * 16 + b.toNat / 16) / 16 = a.toNat := by omega
    have hsecond : (a.toNat % 4 * 16 + b.toNat / 16) % 16 * 16 + (b.toNat % 16 * 4 + c.toNat / 64) / 4 = b.toNat := by omega
    have hthird : (b.toNat % 16 * 4 + c.toNat / 64) % 4 * 64 + c.toNat % 64 = c.toNat := by omega
    rw [encode, decode, if_neg fun h => digit_ne_pad (by omega) h.2, value_digit (by omega), value_digit (by omega),
      value_digit (by omega), value_digit (by omega), ih]
    dsimp only
    rw [hfirst, hsecond, hthird, UInt8.ofNat_toNat, UInt8.ofNat_toNat, UInt8.ofNat_toNat]

theorem toNat_ofNat_of_lt {n : Nat} (h : n < 256) : (UInt8.ofNat n).toNat = n := by
  rw [UInt8.toNat_ofNat']
  omega

theorem encode_of_lastOne {w x : Char} {l : List UInt8} (h : lastOne w x = some l) : encode l = [w, x, '=', '='] := by
  unfold lastOne at h
  split at h
  · rename_i m n hm hn
    obtain ⟨hm64, rfl⟩ := digit_of_value hm
    obtain ⟨hn64, rfl⟩ := digit_of_value hn
    split at h
    · obtain rfl := Option.some.inj h
      rw [encode, toNat_ofNat_of_lt (by omega), show (m * 4 + n / 16) / 4 = m by omega,
        show (m * 4 + n / 16) % 4 * 16 = n by omega]
    · cases h
  · cases h

theorem encode_of_lastTwo {w x y : Char} {l : List UInt8} (h : lastTwo w x y = some l) : encode l = [w, x, y, '='] := by
  unfold lastTwo at h
  split at h
  · rename_i m n k hm hn hk
    obtain ⟨hm64, rfl⟩ := digit_of_value hm
    obtain ⟨hn64, rfl⟩ := digit_of_value hn
    obtain ⟨hk64, rfl⟩ := digit_of_value hk
    split at h
    · obtain rfl := Option.some.inj h
      rw [encode, toNat_ofNat_of_lt (by omega), toNat_ofNat_of_lt (by omega), show (m * 4 + n / 16) / 4 = m by omega,
        show (m * 4 + n / 16) % 4 * 16 + (n % 16 * 16 + k / 4) / 16 = n by omega,
        show (n % 16 * 16 + k / 4) % 16 * 4 = k by omega]
    · cases h
  · cases h

/-- A text is the encoding of what it reads as. -/
theorem encode_of_decode : ∀ {s : List Char} {l : List UInt8}, decode s = some l → encode l = s
  | [], l, h => by
    cases h
    rfl
  | [_], l, h => by cases h
  | [_, _], l, h => by cases h
  | [_, _, _], l, h => by cases h
  | w :: x :: y :: z :: rest, l, h => by
    rw [decode] at h
    split at h
    · rename_i hlast
      obtain ⟨rfl, rfl⟩ := hlast
      split at h
      · rename_i hpad
        rw [hpad]
        exact encode_of_lastOne h
      · exact encode_of_lastTwo h
    split at h
    · rename_i m n k j tail hm hn hk hj hrest
      obtain ⟨hm64, rfl⟩ := digit_of_value hm
      obtain ⟨hn64, rfl⟩ := digit_of_value hn
      obtain ⟨hk64, rfl⟩ := digit_of_value hk
      obtain ⟨hj64, rfl⟩ := digit_of_value hj
      obtain rfl := Option.some.inj h
      rw [encode, toNat_ofNat_of_lt (by omega), toNat_ofNat_of_lt (by omega), toNat_ofNat_of_lt (by omega),
        encode_of_decode hrest, show (m * 4 + n / 16) / 4 = m by omega,
        show (m * 4 + n / 16) % 4 * 16 + (n % 16 * 16 + k / 4) / 16 = n by omega,
        show (n % 16 * 16 + k / 4) % 16 * 4 + (k % 4 * 64 + j) / 64 = k by omega,
        show (k % 4 * 64 + j) % 64 = j by omega]
    · cases h

end Base64
