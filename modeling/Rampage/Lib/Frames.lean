/-
Length-prefixed frames on a byte stream. A frame is the length of its payload in four bytes, the highest first, and
the payload; neither side accepts a payload over the bound. What was written is read back, with the rest of the stream
as it was (`Frames.read_write`).
-/
import Mathlib.Algebra.Order.Ring.Nat
import Mathlib.Data.List.Basic

namespace BigEndian

/-- The number a byte string stands for. -/
def toNat : List UInt8 → Nat
  | [] => 0
  | b :: l => b.toNat * 256 ^ l.length + toNat l

/-- The last `k` bytes of a number. -/
def bytes : Nat → Nat → List UInt8
  | 0, _ => []
  | k + 1, n => UInt8.ofNat (n / 256 ^ k) :: bytes k n

@[simp] theorem length_bytes (k n : Nat) : (bytes k n).length = k := by
  induction k with
  | zero => rfl
  | succ k ih => rw [bytes, List.length_cons, ih]

theorem toNat_bytes (k n : Nat) : toNat (bytes k n) = n % 256 ^ k := by
  induction k with
  | zero => rw [bytes, toNat, Nat.pow_zero, Nat.mod_one]
  | succ k ih =>
    have hdigit : (UInt8.ofNat (n / 256 ^ k)).toNat = n / 256 ^ k % 256 := UInt8.toNat_ofNat'
    rw [bytes, toNat, ih, hdigit, length_bytes, Nat.pow_succ, Nat.mod_mul]
    rw [Nat.mul_comm, Nat.add_comm]

/-- The bytes of a number that fits stand for it. -/
theorem toNat_bytes_of_lt {k n : Nat} (h : n < 256 ^ k) : toNat (bytes k n) = n := by
  rw [toNat_bytes, Nat.mod_eq_of_lt h]

end BigEndian

namespace Frames

/-- The frame of a payload within the bound. -/
def write (bound : Nat) (payload : List UInt8) : Option (List UInt8) :=
  if payload.length ≤ bound then some (BigEndian.bytes 4 payload.length ++ payload) else none

/-- The stream ends before a frame does, or a frame announces more than the bound. -/
inductive Fault
  | ended | oversized
deriving DecidableEq

/-- The payload of the first frame, and what follows it. -/
def read (bound : Nat) (stream : List UInt8) : Except Fault (List UInt8 × List UInt8) :=
  if stream.length < 4 then .error .ended
  else
    let length := BigEndian.toNat (stream.take 4)
    if bound < length then .error .oversized
    else if (stream.drop 4).length < length then .error .ended
    else .ok ((stream.drop 4).take length, (stream.drop 4).drop length)

theorem write_eq_some_iff {bound : Nat} {payload frame : List UInt8} :
    write bound payload = some frame ↔ payload.length ≤ bound ∧ frame = BigEndian.bytes 4 payload.length ++ payload := by
  unfold write
  constructor
  · intro h
    split at h
    · rename_i hle
      exact ⟨hle, (Option.some.inj h).symm⟩
    · cases h
  · rintro ⟨hle, rfl⟩
    exact if_pos hle

theorem read_write {bound : Nat} {payload frame : List UInt8} (hbound : bound < 256 ^ 4)
    (h : write bound payload = some frame) (rest : List UInt8) : read bound (frame ++ rest) = .ok (payload, rest) := by
  obtain ⟨hle, rfl⟩ := write_eq_some_iff.1 h
  have hhead : (BigEndian.bytes 4 payload.length ++ payload ++ rest).take 4 = BigEndian.bytes 4 payload.length := by
    rw [List.append_assoc, List.take_left' (BigEndian.length_bytes 4 _)]
  have hrest : (BigEndian.bytes 4 payload.length ++ payload ++ rest).drop 4 = payload ++ rest := by
    rw [List.append_assoc, List.drop_left' (BigEndian.length_bytes 4 _)]
  have hlong : ¬ (BigEndian.bytes 4 payload.length ++ payload ++ rest).length < 4 := by
    rw [List.length_append, List.length_append, BigEndian.length_bytes]
    omega
  have hwhole : ¬ (payload ++ rest).length < payload.length := by
    rw [List.length_append]
    omega
  unfold read
  rw [if_neg hlong]
  dsimp only
  rw [hhead, hrest, BigEndian.toNat_bytes_of_lt (by omega), if_neg (Nat.not_lt.2 hle), if_neg hwhole, List.take_left,
    List.drop_left]

/-- A frame that is read shortens the stream. -/
theorem length_lt_of_read {bound : Nat} {stream payload rest : List UInt8}
    (h : read bound stream = .ok (payload, rest)) : rest.length < stream.length := by
  unfold read at h
  split at h
  · cases h
  dsimp only at h
  split at h
  · cases h
  split at h
  · cases h
  · cases h
    rw [List.length_drop, List.length_drop]
    omega

end Frames
