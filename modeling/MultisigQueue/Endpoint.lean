/-
Module: MultisigQueue.Endpoint
Purpose: A node that answers read-only calls, and computations that ask one.
Main exports:
  Query, Endpoint, Query.runFrom, Query.within
-/
import MultisigQueue.Argument

namespace MultisigQueue

/-!
Nothing is assumed about a node: its next answer may depend on everything that it has been asked,
and that history is the state `σ` of a query. A failure ends a query but does not undo the state, so
a node remembers also the calls that it refused.
-/

/-- A computation that may ask a node with state `σ` and may fail. -/
abbrev Query (σ : Type) : Type → Type := ExceptT Fault (StateM σ)

/-- A node: it answers a call of an address with bytes. -/
structure Endpoint (σ : Type) where
  call : Address → Bytes → Query σ Bytes

namespace Query

variable {σ τ α β : Type}

/-- What a query comes to from a state, with the state after it. -/
def runFrom (q : Query σ α) (s : σ) : Except Fault α × σ := (ExceptT.run q).run s

/-- A query of one part of a state as a query of the whole. -/
def within (view : τ → σ) (update : τ → σ → τ) (q : Query σ α) : Query τ α :=
  ExceptT.mk fun t =>
    let (result, s) := q.runFrom (view t)
    (result, update t s)

@[simp] theorem runFrom_pure (a : α) (s : σ) : runFrom (pure a : Query σ α) s = (.ok a, s) := rfl

@[simp] theorem runFrom_throw (e : Fault) (s : σ) :
    runFrom (throw e : Query σ α) s = (.error e, s) := rfl

/-- A query followed by another: the second starts where the first one left the state. -/
theorem runFrom_bind (q : Query σ α) (f : α → Query σ β) (s : σ) :
    (q >>= f).runFrom s =
      match q.runFrom s with
      | (.ok a, t) => (f a).runFrom t
      | (.error e, t) => (.error e, t) := by
  change ((ExceptT.run q) >>= ExceptT.bindCont f).run s = _
  change (ExceptT.bindCont f (runFrom q s).1) (runFrom q s).2 = _
  rcases runFrom q s with ⟨_ | _, _⟩ <;> rfl

end Query

end MultisigQueue
