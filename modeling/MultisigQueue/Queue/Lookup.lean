/-
Module: MultisigQueue.Queue.Lookup
Purpose: Looking up the transactions behind hashes, all in one batch.
Main exports:
  Resolution.absorb, Resolution.absorbGiven, resolveMany, resolve
-/
import MultisigQueue.Store

namespace MultisigQueue

/-!
A hash that the store does not know, a lookup that fails and a record that cannot be read all come
to the same: nothing is stored under the hash.
-/

namespace Resolution

/-- What a reply says about a hash. -/
def absorb (hash : Word) (reply : Reply) : Resolution :=
  if reply.hasData then
    match Store.decodeLookup hash reply.data with
    | .ok resolution => resolution
    | .error _ => unstored hash
  else unstored hash

/-- Nothing is stored under a loosely typed hash. A report of the hash shows the octets that it
stands for, for which a text does not do; only then is it read. -/
def unstoredGiven (hash : Value) : Except Fault Resolution := do
  let _ ← hash.toOctetRun
  return unstored (← hash.toWord)

/-- What a loosely typed reply says about a loosely typed hash. -/
def absorbGiven (hash : Value) (reply : GivenReply) : Except Fault Resolution := do
  if ← reply.hasData then
    match Store.decodeLookupGiven hash reply.data with
    | .ok resolution => return resolution
    | .error e => if e.isAbi || e.isBadValue then unstoredGiven hash else throw e
  else unstoredGiven hash

end Resolution

/-- What the store holds under some hashes, each distinct one in the order of first appearance. -/
def resolveMany {σ : Type} (executor : Executor σ) (store : Address) (hashes : List Word) :
    Query σ (List Resolution) := do
  let distinct := hashes.eraseDups
  let replies ← executor (distinct.map (Store.lookupCall store))
  return List.zipWith Resolution.absorb distinct replies

/-- What the store holds under a hash. An executor that replies to nothing leaves nothing to
find. -/
def resolve {σ : Type} (executor : Executor σ) (store : Address) (hash : Word) :
    Query σ Resolution := do
  match ← resolveMany executor store [hash] with
  | resolution :: _ => return resolution
  | [] => throw (.foreign "KeyError")

end MultisigQueue
