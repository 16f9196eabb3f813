/-
Module: MultisigQueue.Queue.Pages
Purpose: Reading lists of signatures to their ends, all open cursors in one batch.
Main exports:
  Cursor.absorbRound, Reader.readPages, Reader.collectMany, Reader.collect,
  Reader.collectManyGiven
-/
import MultisigQueue.Queue.Cursor

namespace MultisigQueue

/-!
All cursors that are still open ask for their next page in one batch, so a round trip is spent for
each depth of pages and not for each list. Replies belong to cursors by position. Rounds end because
every cursor that stays open is strictly closer to the greatest length that a page can report.
-/

/-- The signatures found at a cursor. -/
structure Found (ν : Type) where
  cursor : Cursor ν
  signatures : List Signature
deriving DecidableEq, Repr

namespace Cursor

variable {ν : Type}

/-- What a round of replies yields: the pages that hold something, and the cursors that stay open.
-/
def absorbRound (pending : List (Cursor ν)) (replies : List Reply) :
    List (Found ν) × List (Cursor ν) :=
  let yields := List.zipWith (fun c reply => (c, c.absorb reply)) pending replies
  (yields.filterMap fun (cursor, signatures, _) =>
      if signatures.isEmpty then none else some { cursor, signatures },
    yields.filterMap fun (_, _, next) => next)

/-- How far a list of cursors is from having come to an end. -/
def totalRemaining : List (Cursor ν) → Nat
  | [] => 0
  | c :: rest => c.remaining + 1 + totalRemaining rest

theorem absorbRound_remaining_le (pending : List (Cursor ν)) (replies : List Reply) :
    totalRemaining (absorbRound pending replies).2 + pending.length ≤ totalRemaining pending := by
  induction pending generalizing replies with
  | nil => simp [absorbRound, totalRemaining]
  | cons c rest ih =>
    cases replies with
    | nil =>
      have := ih []
      simp only [absorbRound, totalRemaining, List.zipWith_nil_right, List.filterMap_nil,
        List.length_cons] at this ⊢
      omega
    | cons reply others =>
      have := ih others
      rcases yielded : c.absorb reply with ⟨signatures, _ | next⟩
      · simp only [absorbRound, totalRemaining, List.zipWith_cons_cons, yielded,
          List.filterMap_cons, List.length_cons] at this ⊢
        omega
      · have closer := Cursor.absorb_remaining_lt yielded
        simp only [absorbRound, totalRemaining, List.zipWith_cons_cons, yielded,
          List.filterMap_cons, List.length_cons] at this ⊢
        omega

end Cursor

namespace Reader

variable {σ ν ω : Type} [IntegerLike ν] [BEq ν] [AddressLike ω]

omit [BEq ν] in
/-- Reads the lists of some cursors to their ends; the pages come in the order of the rounds. -/
def readPages (r : Reader) (executor : Executor σ) (pending : List (Cursor ν)) :
    Query σ (List (Found ν)) :=
  if pending = [] then pure []
  else do
    let calls ← pending.mapM fun c => (r.callFor c : Except Fault Call)
    let replies ← executor calls
    let later ← r.readPages executor (Cursor.absorbRound pending replies).2
    return (Cursor.absorbRound pending replies).1 ++ later
termination_by Cursor.totalRemaining pending
decreasing_by
  have := Cursor.absorbRound_remaining_le pending replies
  have : 0 < pending.length := List.length_pos_iff.2 ‹_›
  omega

/-- The signatures found in the list of one owner for one nonce, in the order of its pages. -/
def signaturesOf (found : List (Found ν)) (key : Address × ν) : List Signature :=
  (found.filter fun page => page.cursor.key == key).flatMap Found.signatures

/-- The lists that some cursors are in, in the order in which they are first asked for. -/
def collectFrom (r : Reader) (executor : Executor σ) (cursors : List (Cursor ν)) :
    Query σ (List ((Address × ν) × List Signature)) := do
  let found ← r.readPages executor cursors
  return (cursors.map Cursor.key).eraseDups.map fun key => (key, signaturesOf found key)

/-- Every list of the given owners and nonces, in the order in which they are first asked for. -/
def collectMany (r : Reader) (executor : Executor σ) (owners : List ω) (nonces : List ν) :
    Query σ (List ((Address × ν) × List Signature)) := do
  let owners : List Address ← (owners.mapM toAddress : Except InputError (List Address))
  r.collectFrom executor (Cursor.first owners nonces)

/-- The list of one owner for one nonce. -/
def collect (r : Reader) (executor : Executor σ) (owner : ω) (nonce : ν) :
    Query σ (List Signature) := do
  let owner : Address ← (toAddress owner : Except InputError Address)
  let lists ← r.collectMany executor [owner] [nonce]
  return lists.flatMap Prod.snd

/-- Refuses the cursors one of whose nonces cannot be part of a key. -/
def checkKeys (cursors : List (Cursor Value)) : Except InputError Unit :=
  match cursors.find? fun c => !c.nonce.isHashable with
  | some c => .error (.unhashable c.nonce.kindName)
  | none => .ok ()

/-- First cursors of loosely typed owners and nonces; the owners are read first. -/
def cursorsOf (owners nonces : Value) : Except InputError (List (Cursor Value)) := do
  let owners ← (← owners.toItems).mapM Value.toAddress
  return Cursor.first owners (← nonces.toItems)

/-- Every list of loosely typed owners and nonces, whose nonces have to be keys. -/
def collectManyGiven (r : Reader) (executor : Executor σ) (owners nonces : Value) :
    Query σ (List ((Address × Value) × List Signature)) := do
  let cursors : List (Cursor Value) ← (cursorsOf owners nonces : Except InputError _)
  (checkKeys cursors : Except InputError Unit)
  r.collectFrom executor cursors

end Reader

end MultisigQueue
