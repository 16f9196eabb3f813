/-
Module: MultisigQueue.Bytes
Purpose: Byte strings and their big-endian reading as natural numbers.
Main exports:
  Bytes, Bytes.toNat, Bytes.ofNat, Bytes.padRight, Bytes.toNat_ofNat, Bytes.ofNat_toNat
-/
import MultisigQueue.Power

namespace MultisigQueue

/-!
A byte string is a list of octets. Numbers are written most significant octet first; on strings of
one fixed length, reading and writing are inverse to each other, so a number is as good a key as the
string itself.
-/

/-- A byte string. -/
abbrev Bytes : Type := List UInt8

namespace Bytes

/-- The number that a byte string spells, most significant octet first. -/
def toNat (b : Bytes) : Nat := b.foldl (fun n x => n * 256 + x.toNat) 0

/-- The last `width` octets of a number, in front of a byte string. -/
def ofNatOnto : Nat → Nat → Bytes → Bytes
  | 0, _, rest => rest
  | width + 1, n, rest => ofNatOnto width (n / 256) (UInt8.ofNat n :: rest)

/-- The last `width` octets of a number, most significant octet first. -/
def ofNat (width n : Nat) : Bytes := ofNatOnto width n []

/-- A run of zero octets. -/
def zeros (count : Nat) : Bytes := List.replicate count 0

/-- A byte string filled up with zero octets on the right. -/
def padRight (width : Nat) (b : Bytes) : Bytes := b ++ zeros (width - b.length)

/-- The zero octets that carry a length to the next multiple of 32. -/
def padding (length : Nat) : Nat := (32 - length % 32) % 32

theorem foldl_octets (b : Bytes) (n : Nat) :
    b.foldl (fun n x => n * 256 + x.toNat) n = n * 256 ^ b.length + toNat b := by
  induction b generalizing n with
  | nil => simp [toNat]
  | cons x xs ih =>
    simp only [toNat, List.foldl_cons, List.length_cons]
    rw [ih, ih (0 * 256 + x.toNat), Nat.pow_succ, Nat.add_mul, Nat.zero_mul, Nat.zero_add,
      Nat.mul_assoc, Nat.mul_comm 256, Nat.add_assoc]

@[simp] theorem toNat_nil : toNat [] = 0 := rfl

theorem toNat_append (a b : Bytes) : toNat (a ++ b) = toNat a * 256 ^ b.length + toNat b := by
  rw [toNat, List.foldl_append, foldl_octets]
  rfl

theorem toNat_cons (x : UInt8) (xs : Bytes) :
    toNat (x :: xs) = x.toNat * 256 ^ xs.length + toNat xs := by
  simpa [toNat] using toNat_append [x] xs

theorem ofNatOnto_eq (width n : Nat) (rest : Bytes) :
    ofNatOnto width n rest = ofNat width n ++ rest := by
  induction width generalizing n rest with
  | zero => rfl
  | succ w ih => rw [ofNat, ofNatOnto, ofNatOnto, ih, ih _ [_], List.append_assoc]; rfl

theorem ofNat_succ (width n : Nat) :
    ofNat (width + 1) n = ofNat width (n / 256) ++ [UInt8.ofNat n] :=
  ofNatOnto_eq width (n / 256) [UInt8.ofNat n]

@[simp] theorem length_ofNat (width n : Nat) : (ofNat width n).length = width := by
  induction width generalizing n with
  | zero => rfl
  | succ w ih => simp [ofNat_succ, ih]

@[simp] theorem length_zeros (count : Nat) : (zeros count).length = count := by
  simp [zeros]

theorem toNat_lt (b : Bytes) : toNat b < 256 ^ b.length := by
  induction b with
  | nil => simp [toNat]
  | cons x xs ih =>
    have hx : x.toNat ≤ 255 := by have := x.toNat_lt; omega
    have : x.toNat * 256 ^ xs.length ≤ 255 * 256 ^ xs.length := Nat.mul_le_mul_right _ hx
    rw [toNat_cons, List.length_cons, Nat.pow_succ]
    omega

/-- Writing keeps what fits. -/
theorem toNat_ofNat_mod (width n : Nat) : toNat (ofNat width n) = n % 256 ^ width := by
  induction width generalizing n with
  | zero => rw [Nat.pow_zero, Nat.mod_one]; rfl
  | succ w ih =>
    have octet : toNat [UInt8.ofNat n] = n % 256 := by simp [toNat]
    rw [ofNat_succ, toNat_append, ih, octet, List.length_singleton, Nat.pow_one, Nat.pow_succ,
      Nat.mul_comm (256 ^ w), Nat.mod_mul, Nat.mul_comm, Nat.add_comm]

theorem toNat_ofNat {width n : Nat} (h : n < 256 ^ width) : toNat (ofNat width n) = n := by
  rw [toNat_ofNat_mod, Nat.mod_eq_of_lt h]

/-- Strings of one length that spell one number are one string. -/
theorem eq_of_toNat_eq {a b : Bytes} (hl : a.length = b.length) (h : toNat a = toNat b) :
    a = b := by
  induction a generalizing b with
  | nil => simpa using hl.symm
  | cons x xs ih =>
    cases b with
    | nil => simp at hl
    | cons y ys =>
      have hl' : xs.length = ys.length := by simpa using hl
      have hxs := toNat_lt xs
      have hys := toNat_lt ys
      simp only [toNat_cons, hl'] at h
      rw [hl'] at hxs
      have hpos : 0 < 256 ^ ys.length := Nat.pow_pos (by decide)
      have hxy : x.toNat = y.toNat := by
        have h1 := congrArg (· / 256 ^ ys.length) h
        simpa [Nat.mul_comm _ (256 ^ ys.length), Nat.mul_add_div hpos,
          Nat.div_eq_of_lt hxs, Nat.div_eq_of_lt hys] using h1
      have htail : toNat xs = toNat ys := by rw [hxy] at h; omega
      rw [UInt8.toNat_inj.1 hxy, ih hl' htail]

theorem ofNat_toNat (b : Bytes) : ofNat b.length (toNat b) = b :=
  eq_of_toNat_eq (length_ofNat _ _) (toNat_ofNat (toNat_lt b))

/-- Padding by what `padding` says reaches a multiple of 32. -/
theorem length_add_padding_mod (length : Nat) : (length + padding length) % 32 = 0 := by
  unfold padding; omega

end Bytes

end MultisigQueue
