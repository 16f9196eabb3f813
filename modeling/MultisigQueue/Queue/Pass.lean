/-
Module: MultisigQueue.Queue.Pass
Purpose: One pass over a window of nonces: signatures, transactions, queue.
Main exports:
  NonceWindow, Reader.reconstruct, Reader.reconstructGiven, Contenders.find?
-/
import MultisigQueue.Queue.Lookup
import MultisigQueue.Queue.Pages
import MultisigQueue.Queue.Tally

namespace MultisigQueue

/-!
A pass reads the lists of all owners for all nonces of a window, tallies the signatures, looks up
the transactions of all hashes that occurred, and keeps the candidates whose transaction is known.
It holds nothing beyond the pass, and it either gives the whole queue or fails.
-/

/-- So many nonces from a first one on. -/
structure NonceWindow where
  first : Int
  count : Nat
deriving DecidableEq, Repr

namespace NonceWindow

/-- The nonces of a window. -/
def nonces (w : NonceWindow) : List Int :=
  (List.range w.count).map fun i : Nat => w.first + (i : Int)

/-- The window from a start on, neither of which may be negative. -/
def ofInts (start window : Int) : Except InputError NonceWindow :=
  if start < 0 then .error (.negative "start_nonce")
  else if window < 0 then .error (.negative "nonce_window")
  else .ok { first := start, count := window.toNat }

/-- The window of loosely typed numbers, both of which are looked at before they lose a fraction. -/
def ofValues (start window : Value) : Except InputError NonceWindow := do
  if ← start.relate .less (.int 0) then throw (.negative "start_nonce")
  if ← window.relate .less (.int 0) then throw (.negative "nonce_window")
  let start ← start.toInt
  let window ← window.toInt
  return { first := start, count := window.toNat }

@[simp] theorem ofValues_int (start window : Int) :
    ofValues (.int start) (.int window) = ofInts start window := by
  by_cases early : start < 0
  · simp [ofValues, ofInts, bind, Except.bind, Relation.holds_less_int, early, throw, throwThe,
      MonadExceptOf.throw]
  · by_cases backward : window < 0
    · simp [ofValues, ofInts, bind, Except.bind, Relation.holds_less_int, early, backward, throw,
        throwThe, MonadExceptOf.throw]
    · simp [ofValues, ofInts, bind, Except.bind, pure, Except.pure, Relation.holds_less_int, early,
        backward, Value.toInt]

end NonceWindow

/-- The signatures of some pages, tallied in the order of the pages. -/
def Tally.ofFound (found : List (Found Int)) : Tally :=
  found.foldl (fun t page => t.addAll page.cursor.nonce page.signatures) .empty

namespace Reader

variable {σ : Type}

/-- The queue of the nonces given, which must not be empty, and of distinct owners. -/
def queueOf (r : Reader) (executor : Executor σ) (owners : List Address) (nonces : List Int) :
    Query σ (List Contenders) := do
  let found ← r.readPages executor (Cursor.first owners nonces)
  let tally := Tally.ofFound found
  let records ← resolveMany executor r.store tally.identities
  return tally.build fun hash => records.find? fun resolution => resolution.hash = hash

/-- The queue of a window. The owners are not read where the window is empty. -/
def queueOfWindow {ω : Type} [AddressLike ω] (r : Reader) (executor : Executor σ) (owners : List ω)
    (window : NonceWindow) : Query σ (List Contenders) := do
  if window.count = 0 || owners.isEmpty then return []
  let owners : List Address ← (owners.mapM toAddress : Except InputError (List Address))
  r.queueOf executor owners window.nonces

/-- The queue of the nonces of a window from a start on. The window is looked at before the owners.
-/
def reconstruct {ω : Type} [AddressLike ω] (r : Reader) (executor : Executor σ) (owners : List ω)
    (start window : Int) : Query σ (List Contenders) := do
  let window : NonceWindow ← (NonceWindow.ofInts start window : Except InputError NonceWindow)
  r.queueOfWindow executor owners window

/-- The queue of a loosely typed window and owners. Owners that count as missing are none. -/
def reconstructGiven (r : Reader) (executor : Executor σ) (owners start window : Value) :
    Query σ (List Contenders) := do
  let window : NonceWindow ← (NonceWindow.ofValues start window : Except InputError NonceWindow)
  if window.count = 0 || !owners.isTrue then return []
  let owners : List Value ← (owners.toItems : Except InputError (List Value))
  r.queueOfWindow executor owners window

/-- A list of owners and two integers make up the queue of their window. -/
theorem reconstructGiven_list (r : Reader) (executor : Executor σ) (owners : List Value)
    (start window : Int) :
    r.reconstructGiven executor (.list owners) (.int start) (.int window) =
      r.reconstruct executor owners start window := by
  unfold reconstructGiven reconstruct
  rw [NonceWindow.ofValues_int]
  congr 1
  funext w
  cases owners with
  | nil => simp [Value.isTrue, queueOfWindow]
  | cons owner rest =>
    by_cases none : w.count = 0
    · simp [none, queueOfWindow]
    · simp [none, Value.isTrue, Value.toItems]
      rfl

end Reader

namespace Contenders

/-- The group of a nonce. -/
def find? (groups : List Contenders) (nonce : Int) : Option Contenders :=
  List.find? (fun group => group.nonce = nonce) groups

/-- The group whose nonce equals a loosely typed one. -/
def findGiven? (groups : List Contenders) (nonce : Value) : Option Contenders :=
  List.find? (fun group => Value.equals (.int group.nonce) nonce) groups

@[simp] theorem findGiven?_int (groups : List Contenders) (nonce : Int) :
    findGiven? groups (.int nonce) = find? groups nonce := by
  simp [findGiven?, find?]

end Contenders

end MultisigQueue
