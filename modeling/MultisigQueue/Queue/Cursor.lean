/-
Module: MultisigQueue.Queue.Cursor
Purpose: Places in the lists of signatures, and what a page at one of them yields.
Main exports:
  Cursor, Reader, Cursor.first, Reader.callFor, Cursor.absorb, Cursor.remaining
-/
import MultisigQueue.Store

namespace MultisigQueue

/-!
Every owner has one list of signatures for each nonce. A cursor is a place in such a list; a page
read there moves it forward by the signatures that the page holds, until a page is empty or the list
is at its end. A page that is missing or cannot be read counts as an empty one. Because the length
that a page reports is below `2 ^ 256` and a cursor only moves while it is short of that length, no
node can keep a cursor going forever.

A nonce keeps the spelling in which it is given, and is read when a page is asked for. So is the
size of a page, which must be positive but may have a fraction.
-/

/-- A place in the list of one owner for one nonce. -/
structure Cursor (ν : Type) where
  owner : Address
  nonce : ν
  offset : Int := 0
deriving DecidableEq, Repr

/-- Where and how lists are read: the store, the Safe on its chain, and the size of a page. -/
structure Reader where
  store : Address
  safe : Address
  chainId : Int
  pageSize : Value

namespace Reader

/-- Refuses the size of a page unless it is positive. -/
def checkPageSize (pageSize : Value) : Except InputError Unit := do
  if ← pageSize.relate .atMost (.int 0) then throw .pageSize

/-- A reader with pages of the given size, which must be positive. -/
def ofParts (store safe : Address) (chainId : Int) (pageSize : Value) :
    Except InputError Reader := do
  checkPageSize pageSize
  return { store, safe, chainId, pageSize }

/-- A reader with a loosely typed Safe and chain id, which are read after the size of a page. -/
def ofValues (store : Address) (safe chainId pageSize : Value) : Except InputError Reader := do
  checkPageSize pageSize
  let safe ← safe.toAddress
  let chainId ← chainId.toInt
  return { store, safe, chainId, pageSize }

/-- An integer is the size of a page exactly if it is positive. -/
theorem ofParts_int (store safe : Address) (chainId size : Int) :
    ofParts store safe chainId (.int size) =
      if 0 < size then .ok ⟨store, safe, chainId, .int size⟩ else .error .pageSize := by
  by_cases positive : 0 < size
  · have notAtMost : decide (size ≤ 0) = false := decide_eq_false (by omega)
    simp [ofParts, checkPageSize, bind, Except.bind, pure, Except.pure, Relation.holds_atMost_int,
      notAtMost, positive]
  · have atMost : decide (size ≤ 0) = true := decide_eq_true (by omega)
    simp [ofParts, checkPageSize, bind, Except.bind, Relation.holds_atMost_int, atMost, positive,
      throw, throwThe, MonadExceptOf.throw]

/-- The call that asks for the page at a cursor. -/
def callFor {ν : Type} [IntegerLike ν] (r : Reader) (c : Cursor ν) : Except Fault Call := do
  let nonce ← (toInteger c.nonce : Except InputError Int)
  let count ← r.pageSize.toInt
  Store.pageCall r.store c.owner r.safe r.chainId nonce c.offset count

end Reader

namespace Cursor

variable {ν : Type}

/-- One cursor for each nonce and distinct owner, all owners of a nonce together. -/
def first (owners : List Address) (nonces : List ν) : List (Cursor ν) :=
  let distinct := owners.eraseDups
  nonces.flatMap fun nonce => distinct.map fun owner => { owner, nonce }

/-- The list that a cursor is in. -/
def key (c : Cursor ν) : Address × ν := (c.owner, c.nonce)

/-- The signatures in a reply, and the cursor behind them unless the list is at its end. -/
def absorb (c : Cursor ν) (reply : Reply) : List Signature × Option (Cursor ν) :=
  if reply.hasData then
    match Store.decodeSignatures reply.data c.owner with
    | .ok (signatures, total) =>
      let collected := c.offset + signatures.length
      if signatures.isEmpty || (total : Int) ≤ collected then (signatures, none)
      else (signatures, some { c with offset := collected })
    | .error _ => ([], none)
  else ([], none)

/-- How far a cursor is from the greatest length that a page can report. -/
def remaining (c : Cursor ν) : Nat := (2 ^ (256 : Nat) - c.offset).toNat

theorem remaining_lt {c d : Cursor ν} (forward : c.offset < d.offset)
    (below : d.offset < 2 ^ (256 : Nat)) : d.remaining < c.remaining := by
  simp only [remaining]
  omega

end Cursor

/-- A page reports a length below `2 ^ 256`. -/
theorem Store.total_lt_of_decodeSignatures {data : Bytes} {signer : Address}
    {signatures : List Signature} {total : Nat}
    (h : Store.decodeSignatures data signer = .ok (signatures, total)) :
    total < 2 ^ (256 : Nat) := by
  unfold Store.decodeSignatures Store.decodePage at h
  cases decoded : Store.signaturesFunction.decode data with
  | error e => rw [decoded] at h; cases h
  | ok values =>
    rw [decoded] at h
    simp only [bind, Except.bind, pure, Except.pure, Except.ok.injEq, Prod.mk.injEq] at h
    rw [← h.2]
    exact Fin.isLt values.2.1

namespace Cursor

variable {ν : Type} {c d : Cursor ν} {reply : Reply} {signatures : List Signature}

/-- A cursor moves forward, and stays below the greatest length that a page can report. -/
theorem offset_of_absorb (h : c.absorb reply = (signatures, some d)) :
    c.offset < d.offset ∧ d.offset < 2 ^ (256 : Nat) := by
  unfold absorb at h
  split at h
  · split at h
    · rename_i found total decoded
      have total_lt := Store.total_lt_of_decodeSignatures decoded
      simp only at h
      split at h
      · cases h
      · rename_i short
        simp only [Bool.or_eq_true, List.isEmpty_iff, decide_eq_true_eq, not_or,
          Int.not_le] at short
        have moved : 0 < found.length := List.length_pos_iff.2 short.1
        simp only [Prod.mk.injEq, Option.some.injEq] at h
        obtain ⟨rfl, rfl⟩ := h
        constructor <;> simp only <;> omega
    · cases h
  · cases h

theorem absorb_remaining_lt (h : c.absorb reply = (signatures, some d)) :
    d.remaining < c.remaining :=
  remaining_lt (offset_of_absorb h).1 (offset_of_absorb h).2

end Cursor

/-- A place in a list whose parts are loosely typed. -/
structure CursorRequest where
  owner : Value
  nonce : Value
  offset : Value := .int 0

namespace CursorRequest

/-- The call that asks a reader's store for the page at a requested place. -/
def call (q : CursorRequest) (r : Reader) : Except Fault Call := do
  let owner ← q.owner.toAddress
  let nonce ← q.nonce.toInt
  let offset ← q.offset.toInt
  let count ← r.pageSize.toInt
  Store.pageCall r.store owner r.safe r.chainId nonce offset count

/-- The signatures in a loosely typed reply, and the place behind them unless the list is at its
end. Only a page that can be read moves the place. -/
def absorb (q : CursorRequest) (reply : GivenReply) :
    Except Fault (List Signature × Option CursorRequest) := do
  if ← reply.hasData then
    match Store.decodeSignaturesGiven reply.data q.owner with
    | .ok (signatures, total) =>
      let collected ← q.offset.plus signatures.length
      if signatures.isEmpty then return (signatures, none)
      if ← collected.relate .atLeast (.int total) then return (signatures, none)
      return (signatures, some { q with offset := collected })
    | .error e => if e.isAbi || e.isBadValue then return ([], none) else throw e
  else return ([], none)

end CursorRequest

end MultisigQueue
