/-
Module: MultisigQueue.Bytes.Fixed
Purpose: Byte strings whose length is part of their type, ordered by the number that they spell.
Main exports:
  FixedBytes, Word, FixedBytes.toNat, FixedBytes.ofNat, FixedBytes.ofBytes?, FixedBytes.toNat_inj
-/
import MultisigQueue.Bytes

namespace MultisigQueue

/-- A byte string of exactly `width` octets. -/
structure FixedBytes (width : Nat) where
  /-- The octets, most significant first. -/
  bytes : Bytes
  length_eq : bytes.length = width
deriving DecidableEq, Repr

/-- A 32-octet word: a hash, a storage word or one half of a signature. -/
abbrev Word : Type := FixedBytes 32

namespace FixedBytes

variable {width : Nat}

@[ext] theorem ext {a b : FixedBytes width} (h : a.bytes = b.bytes) : a = b := by
  cases a; cases b; simp_all

/-- The number that the string spells. -/
def toNat (b : FixedBytes width) : Nat := b.bytes.toNat

/-- The string that spells the number, of which only what fits in `width` octets is kept. -/
def ofNat (width n : Nat) : FixedBytes width :=
  ⟨Bytes.ofNat width n, Bytes.length_ofNat width n⟩

/-- A byte string as one of fixed width, if it has that length. -/
def ofBytes? (width : Nat) (b : Bytes) : Option (FixedBytes width) :=
  if h : b.length = width then some ⟨b, h⟩ else none

instance : Inhabited (FixedBytes width) := ⟨ofNat width 0⟩

theorem toNat_lt (b : FixedBytes width) : b.toNat < 256 ^ width := by
  have := Bytes.toNat_lt b.bytes
  rwa [b.length_eq] at this

theorem toNat_ofNat {n : Nat} (h : n < 256 ^ width) : (ofNat width n).toNat = n :=
  Bytes.toNat_ofNat h

theorem toNat_inj {a b : FixedBytes width} : a.toNat = b.toNat ↔ a = b :=
  ⟨fun h => ext (Bytes.eq_of_toNat_eq (a.length_eq.trans b.length_eq.symm) h), fun h => h ▸ rfl⟩

@[simp] theorem ofNat_toNat (b : FixedBytes width) : ofNat width b.toNat = b :=
  toNat_inj.1 (toNat_ofNat b.toNat_lt)

@[simp] theorem ofBytes?_bytes (b : FixedBytes width) : ofBytes? width b.bytes = some b := by
  simp [ofBytes?, b.length_eq]

theorem bytes_of_ofBytes? {b : Bytes} {w : FixedBytes width} (h : ofBytes? width b = some w) :
    w.bytes = b := by
  unfold ofBytes? at h
  split at h
  · cases h; rfl
  · cases h

end FixedBytes

end MultisigQueue
