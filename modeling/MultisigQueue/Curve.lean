/-
Module: MultisigQueue.Curve
Purpose: Recovery of a public key from a signature on the curve secp256k1.
Main exports:
  Curve.Point, Curve.add, Curve.scale, Curve.recover?
-/
import MultisigQueue.Address

namespace MultisigQueue.Curve

/-!
The curve is `y ^ 2 = x ^ 3 + 7` over the integers modulo a prime. Points are kept in Jacobian
coordinates: `(x, y, z)` stands for the affine point `(x / z ^ 2, y / z ^ 3)`, and `z = 0` for the
neutral point. The public key of a signature `(r, s)` over the number `h` is `(s R - h G) / r`,
where `R` is the point with abscissa `r` and the given parity.
-/

/-- The prime of the field. -/
def prime : Nat := 2 ^ (256 : Nat) - 2 ^ (32 : Nat) - 977

/-- The order of the group. -/
def order : Nat := 0xfffffffffffffffffffffffffffffffebaaedce6af48a03bbfd25e8cd0364141

/-- A power modulo `m`, by the lowest `bits` binary digits of the exponent. -/
def powMod (m : Nat) : Nat → Nat → Nat → Nat
  | 0, _, _ => 1
  | bits + 1, base, exponent =>
    let square := powMod m bits (base * base % m) (exponent / 2)
    if exponent % 2 = 1 then base * square % m else square

/-- The inverse modulo a prime `m` of 256 bits. -/
def inverse (m a : Nat) : Nat := powMod m 256 a (m - 2)

/-- A point in Jacobian coordinates. -/
structure Point where
  x : Nat
  y : Nat
  z : Nat
deriving DecidableEq, Repr

/-- The neutral point. -/
def neutral : Point := ⟨1, 1, 0⟩

/-- The generator. -/
def generator : Point where
  x := 0x79be667ef9dcbbac55a06295ce870b07029bfcdb2dce28d959f2815b16f81798
  y := 0x483ada7726a3c4655da4fbfc0e1108a8fd17b448a68554199c47d08ffb10d4b8
  z := 1

/-- The difference of two residues. -/
def sub (a b : Nat) : Nat := (a + (prime - b % prime)) % prime

/-- A point added to itself. -/
def double (a : Point) : Point :=
  if a.z = 0 ∨ a.y = 0 then neutral
  else
    let yy := a.y * a.y % prime
    let s := 4 * a.x * yy % prime
    let m := 3 * a.x * a.x % prime
    let x := sub (m * m) (2 * s)
    { x
      y := sub (m * sub s x) (8 * yy * yy)
      z := 2 * a.y * a.z % prime }

/-- The sum of two points. -/
def add (a b : Point) : Point :=
  if a.z = 0 then b
  else if b.z = 0 then a
  else
    let azz := a.z * a.z % prime
    let bzz := b.z * b.z % prime
    let u := a.x * bzz % prime
    let v := b.x * azz % prime
    let s := a.y * bzz * b.z % prime
    let t := b.y * azz * a.z % prime
    if u = v then (if s = t then double a else neutral)
    else
      let h := sub v u
      let r := sub t s
      let hh := h * h % prime
      let hhh := h * hh % prime
      let uhh := u * hh % prime
      let x := sub (sub (r * r) hhh) (2 * uhh)
      { x
        y := sub (r * sub uhh x) (s * hhh)
        z := h * a.z * b.z % prime }

/-- A multiple of a point, by the lowest `bits` binary digits of the factor. -/
def scale : Nat → Nat → Point → Point
  | 0, _, _ => neutral
  | bits + 1, factor, a =>
    let rest := scale bits (factor / 2) (double a)
    if factor % 2 = 1 then add a rest else rest

/-- The affine coordinates of a point other than the neutral one. -/
def affine? (a : Point) : Option (Nat × Nat) :=
  if a.z = 0 then none
  else
    let i := inverse prime a.z
    some (a.x * i * i % prime, a.y * i * i % prime * i % prime)

/-- The point with the given abscissa and parity, if there is one. -/
def lift? (x parity : Nat) : Option Point :=
  let square := (x * x * x + 7) % prime
  let root := powMod prime 256 square ((prime + 1) / 4)
  if root * root % prime ≠ square then none
  else some ⟨x, if root % 2 = parity then root else prime - root, 1⟩

/-- The affine public key of a signature over a digest read as a number. -/
def recover? (parity r s digest : Nat) : Option (Nat × Nat) :=
  if r = 0 ∨ order ≤ r ∨ s = 0 ∨ order ≤ s then none
  else do
    let point ← lift? r parity
    let i := inverse order r
    let left := scale 256 (s * i % order) point
    let right := scale 256 ((order - digest % order) * i % order) generator
    affine? (add left right)

/-- The address of a public key: the end of the digest of its coordinates. -/
def addressOf (key : Nat × Nat) : Address :=
  Address.ofWord (keccak256 (Bytes.ofNat 32 key.1 ++ Bytes.ofNat 32 key.2))

end MultisigQueue.Curve
