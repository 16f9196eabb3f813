/-
Module: MultisigQueue.Abi.Encoding
Purpose: Typed values written as contract data.
Main exports:
  Abi.Piece, Abi.layout, AbiType.encode, AbiType.encodeAll
-/
import MultisigQueue.Abi.Type

namespace MultisigQueue

/-!
A frame is a head followed by a tail. A value of fixed length stands in the head; any other value
stands in the tail, and the head holds its distance from the start of the frame.
-/

namespace Abi

/-- A number as a word. -/
def wordBytes (n : Nat) : Bytes := Bytes.ofNat 32 n

/-- A value as it takes part in a frame. -/
inductive Piece where
  /-- Stands in the head. -/
  | inline (encoded : Bytes)
  /-- Stands in the tail, with its distance in the head. -/
  | outOfLine (encoded : Bytes)
deriving DecidableEq, Repr

namespace Piece

/-- The octets that a piece takes up in the head. -/
def headLength : Piece → Nat
  | inline encoded => encoded.length
  | outOfLine _ => 32

/-- The octets that a piece takes up in the tail. -/
def tail : Piece → Bytes
  | inline _ => []
  | outOfLine encoded => encoded

end Piece

/-- The length of the head of a frame. -/
def headLength : List Piece → Nat
  | [] => 0
  | p :: rest => p.headLength + headLength rest

/-- The head of a frame, for a next tail that stands at the given distance. -/
def heads : Nat → List Piece → Bytes
  | _, [] => []
  | distance, .inline encoded :: rest => encoded ++ heads distance rest
  | distance, .outOfLine encoded :: rest =>
    wordBytes distance ++ heads (distance + encoded.length) rest

/-- The tail of a frame. -/
def tails (pieces : List Piece) : Bytes := pieces.flatMap Piece.tail

/-- A frame. -/
def layout (pieces : List Piece) : Bytes := heads (headLength pieces) pieces ++ tails pieces

/-- A byte string with its length in front and zeros up to the next word behind. -/
def lengthMarked (b : Bytes) : Bytes :=
  wordBytes b.length ++ b ++ Bytes.zeros (Bytes.padding b.length)

/-- A value's encoding as a piece. -/
def piece (isDynamic : Bool) (encoded : Bytes) : Piece :=
  if isDynamic then .outOfLine encoded else .inline encoded

end Abi

namespace AbiType

open Abi

mutual

/-- A value as contract data. -/
def encode : (t : AbiType) → t.Val → Bytes
  | .address, a => Bytes.zeros 12 ++ FixedBytes.bytes a
  | .bool, b => wordBytes (cond b 1 0)
  | .bytes, b => lengthMarked b
  | .bytes32, w => FixedBytes.bytes w
  | .uint _, n => wordBytes (Fin.val n)
  | .array item, values =>
    wordBytes (List.length values) ++
      layout (List.map (fun v => piece item.isDynamic (encode item v)) values)
  | .tuple fields, values => layout (pieces fields values)

/-- The fields of a frame as pieces. -/
def pieces : (ts : List AbiType) → Vals ts → List Piece
  | [], _ => []
  | t :: ts, values =>
    piece t.isDynamic (encode t (Prod.fst values)) :: pieces ts (Prod.snd values)

end

/-- Values as the data of one frame. -/
def encodeAll (ts : List AbiType) (values : Vals ts) : Bytes := layout (pieces ts values)

end AbiType

end MultisigQueue
