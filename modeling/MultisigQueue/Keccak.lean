/-
Module: MultisigQueue.Keccak
Purpose: The Keccak-256 digest with the padding that predates its standardisation.
Main exports:
  Keccak.permute, keccak256, keccak256Text
-/
import MultisigQueue.Bytes.Fixed

namespace MultisigQueue

/-!
The state is five planes of five 64-bit lanes: lane `x` of plane `y` is bit string number `5 y + x`.
A round is θ (add column parities), ρ and π (rotate and move lanes), χ (combine the lanes of a
plane) and ι (add the round's constant). The sponge takes 136 octets at a time, least significant
octet of a lane first, after padding with one octet `01`, zeros, and a set top bit in the last
octet.
-/

namespace Keccak

/-- Five lanes. -/
structure Plane where
  x0 : UInt64
  x1 : UInt64
  x2 : UInt64
  x3 : UInt64
  x4 : UInt64
deriving DecidableEq, Repr

/-- Five planes. -/
structure State where
  y0 : Plane
  y1 : Plane
  y2 : Plane
  y3 : Plane
  y4 : Plane
deriving DecidableEq, Repr

/-- A plane of zero lanes. -/
def Plane.zero : Plane := ⟨0, 0, 0, 0, 0⟩

/-- The state of zero lanes. -/
def State.zero : State := ⟨.zero, .zero, .zero, .zero, .zero⟩

/-- The lanes of two planes, added without carry. -/
def Plane.xor (p q : Plane) : Plane :=
  ⟨p.x0 ^^^ q.x0, p.x1 ^^^ q.x1, p.x2 ^^^ q.x2, p.x3 ^^^ q.x3, p.x4 ^^^ q.x4⟩

/-- A lane turned left by a number of places between 1 and 63. -/
def rotate (lane : UInt64) (places : UInt64) : UInt64 :=
  (lane <<< places) ||| (lane >>> (64 - places))

/-- Each column's parity. -/
def State.parity (s : State) : Plane :=
  (((s.y0.xor s.y1).xor s.y2).xor s.y3).xor s.y4

/-- What θ adds to each plane: the parities of the column before and of the one after, turned. -/
def State.diffusion (s : State) : Plane :=
  let c := s.parity
  ⟨c.x4 ^^^ rotate c.x1 1, c.x0 ^^^ rotate c.x2 1, c.x1 ^^^ rotate c.x3 1,
    c.x2 ^^^ rotate c.x4 1, c.x3 ^^^ rotate c.x0 1⟩

/-- Adds to every lane the parities of the column before and of the one after. -/
def State.theta (s : State) : State :=
  let d := s.diffusion
  ⟨s.y0.xor d, s.y1.xor d, s.y2.xor d, s.y3.xor d, s.y4.xor d⟩

/-- Turns each lane by its own number of places and moves it to its new position. -/
def State.rhoPi (s : State) : State where
  y0 := ⟨s.y0.x0, rotate s.y1.x1 44, rotate s.y2.x2 43, rotate s.y3.x3 21, rotate s.y4.x4 14⟩
  y1 := ⟨rotate s.y0.x3 28, rotate s.y1.x4 20, rotate s.y2.x0 3, rotate s.y3.x1 45,
    rotate s.y4.x2 61⟩
  y2 := ⟨rotate s.y0.x1 1, rotate s.y1.x2 6, rotate s.y2.x3 25, rotate s.y3.x4 8, rotate s.y4.x0 18⟩
  y3 := ⟨rotate s.y0.x4 27, rotate s.y1.x0 36, rotate s.y2.x1 10, rotate s.y3.x2 15,
    rotate s.y4.x3 56⟩
  y4 := ⟨rotate s.y0.x2 62, rotate s.y1.x3 55, rotate s.y2.x4 39, rotate s.y3.x0 41,
    rotate s.y4.x1 2⟩

/-- Combines each lane of a plane with the next two. -/
def Plane.chi (p : Plane) : Plane :=
  ⟨p.x0 ^^^ (~~~p.x1 &&& p.x2), p.x1 ^^^ (~~~p.x2 &&& p.x3), p.x2 ^^^ (~~~p.x3 &&& p.x4),
    p.x3 ^^^ (~~~p.x4 &&& p.x0), p.x4 ^^^ (~~~p.x0 &&& p.x1)⟩

/-- One round, with its constant. -/
def State.round (s : State) (constant : UInt64) : State :=
  let t := s.theta.rhoPi
  let first := t.y0.chi
  ⟨{ first with x0 := first.x0 ^^^ constant }, t.y1.chi, t.y2.chi, t.y3.chi, t.y4.chi⟩

/-- The constants of the 24 rounds. -/
def roundConstants : List UInt64 :=
  [0x0000000000000001, 0x0000000000008082, 0x800000000000808a, 0x8000000080008000,
   0x000000000000808b, 0x0000000080000001, 0x8000000080008081, 0x8000000000008009,
   0x000000000000008a, 0x0000000000000088, 0x0000000080008009, 0x000000008000000a,
   0x000000008000808b, 0x800000000000008b, 0x8000000000008089, 0x8000000000008003,
   0x8000000000008002, 0x8000000000000080, 0x000000000000800a, 0x800000008000000a,
   0x8000000080008081, 0x8000000000008080, 0x0000000080000001, 0x8000000080008008]

/-- The 24 rounds. -/
def permute (s : State) : State := roundConstants.foldl State.round s

/-- The lane that eight octets spell, least significant first. -/
def laneOfBytes (b : Bytes) : UInt64 :=
  b.foldr (fun x acc => (acc <<< 8) ||| x.toUInt64) 0

/-- The octets of a lane, least significant first. -/
def bytesOfLane (lane : UInt64) : Bytes :=
  (List.range 8).map fun i => (lane >>> UInt64.ofNat (8 * i)).toUInt8

/-- The number of octets that the sponge takes at a time. -/
def rate : Nat := 136

/-- Lane number `i` of a block. -/
def blockLane (block : Bytes) (i : Nat) : UInt64 := laneOfBytes ((block.drop (8 * i)).take 8)

/-- Adds a block to the first seventeen lanes. -/
def State.absorb (s : State) (block : Bytes) : State :=
  let lane := blockLane block
  { s with
    y0 := s.y0.xor ⟨lane 0, lane 1, lane 2, lane 3, lane 4⟩
    y1 := s.y1.xor ⟨lane 5, lane 6, lane 7, lane 8, lane 9⟩
    y2 := s.y2.xor ⟨lane 10, lane 11, lane 12, lane 13, lane 14⟩
    y3 := s.y3.xor ⟨lane 15, lane 16, 0, 0, 0⟩ }

/-- The last octets of a message, shorter than a block, filled up to one. -/
def finalBlock (rest : Bytes) : Bytes :=
  if rest.length + 1 = rate then rest ++ [0x81]
  else rest ++ 0x01 :: (Bytes.zeros (rate - rest.length - 2) ++ [0x80])

/-- Absorbs a message; `blocks` is the number of full blocks in it. -/
def sponge : Nat → State → Bytes → State
  | 0, s, message => permute (s.absorb (finalBlock message))
  | blocks + 1, s, message =>
    sponge blocks (permute (s.absorb (message.take rate))) (message.drop rate)

/-- The first four lanes as octets. -/
def State.squeeze (s : State) : Bytes :=
  bytesOfLane s.y0.x0 ++ bytesOfLane s.y0.x1 ++ bytesOfLane s.y0.x2 ++ bytesOfLane s.y0.x3

theorem length_squeeze (s : State) : s.squeeze.length = 32 := by
  simp [State.squeeze, bytesOfLane]

end Keccak

/-- The Keccak-256 digest of a byte string. -/
def keccak256 (message : Bytes) : Word :=
  let final := Keccak.sponge (message.length / Keccak.rate) .zero message
  ⟨final.squeeze, Keccak.length_squeeze final⟩

/-- The Keccak-256 digest of a text in UTF-8. -/
def keccak256Text (text : String) : Word := keccak256 text.toUTF8.toList

end MultisigQueue
