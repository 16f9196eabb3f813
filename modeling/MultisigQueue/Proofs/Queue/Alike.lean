/-
Module: MultisigQueue.Proofs.Queue.Alike
Purpose: Two nodes that answer alike give the same queue.
Main exports:
  Query.Alike, Query.Alike.bind, Endpoint.Alike, Executor.Alike, Batch.execute_alike,
  Reader.readPages_alike, Reader.reconstructGiven_alike, Client.reconstruct_alike
-/
import MultisigQueue.Client
import MultisigQueue.Proofs.Query

namespace MultisigQueue

/-!
A relation between the states of two nodes is one that a query cannot see if, from related states,
it comes to the same and leaves the nodes in related states. Queries put together from such ones
cannot see it either. So it is enough to look at the nodes: where they answer alike, a pass over one
comes to what a pass over the other does, be it a queue or a failure.
-/

namespace Query

variable {σ τ α β : Type} {R : σ → τ → Prop}

/-- Whether two queries come to the same from related states, and end in related ones. -/
def Alike (R : σ → τ → Prop) (q : Query σ α) (other : Query τ α) : Prop :=
  ∀ ⦃s t⦄, R s t →
    (q.runFrom s).1 = (other.runFrom t).1 ∧ R (q.runFrom s).2 (other.runFrom t).2

/-- Two queries that leave the states alone are alike if they come to the same. -/
theorem alike_of_still {q : Query σ α} {other : Query τ α} {result : Except Fault α}
    (here : ∀ s, q.runFrom s = (result, s)) (there : ∀ t, other.runFrom t = (result, t)) :
    Alike R q other := by
  intro s t related
  rw [here, there]
  exact ⟨rfl, related⟩

theorem alike_pure (a : α) : Alike R (pure a) (pure a) :=
  alike_of_still (runFrom_pure a) (runFrom_pure a)

theorem alike_throw (e : Fault) : Alike R (throw e : Query σ α) (throw e : Query τ α) :=
  alike_of_still (runFrom_throw e) (runFrom_throw e)

theorem alike_abi (x : Except AbiError α) :
    Alike R (liftM x : Query σ α) (liftM x : Query τ α) :=
  alike_of_still (runFrom_abi x) (runFrom_abi x)

theorem alike_input (x : Except InputError α) :
    Alike R (liftM x : Query σ α) (liftM x : Query τ α) :=
  alike_of_still (runFrom_input x) (runFrom_input x)

/-- What follows alike queries and goes on alike is alike. -/
theorem Alike.bind {q : Query σ α} {other : Query τ α} {f : α → Query σ β} {g : α → Query τ β}
    (first : Alike R q other) (next : ∀ a, Alike R (f a) (g a)) :
    Alike R (q >>= f) (other >>= g) := by
  intro s t related
  rcases first related with ⟨same, still⟩
  rw [runFrom_bind, runFrom_bind]
  rcases here : q.runFrom s with ⟨result, u⟩
  rcases there : other.runFrom t with ⟨result', v⟩
  rw [here, there] at same still
  cases same
  cases result with
  | error e => exact ⟨rfl, still⟩
  | ok a => exact next a still

/-- What is refused under one condition and goes on alike is alike. -/
theorem Alike.unless {q : Query σ α} {other : Query τ α} (goesOn : Alike R q other) (p : Prop)
    [Decidable p] (e : Fault) :
    Alike R (if p then throw e >>= fun _ : PUnit => q else q)
      (if p then throw e >>= fun _ : PUnit => other else other) := by
  by_cases refused : p
  · rw [if_pos refused, if_pos refused]
    exact (alike_throw e).bind fun _ => goesOn
  · rw [if_neg refused, if_neg refused]
    exact goesOn

/-- Looking at the state of a node is alike if what is done with related states is. -/
theorem alike_get_bind {f : σ → Query σ α} {g : τ → Query τ α}
    (next : ∀ s t, R s t → Alike R (f s) (g t)) : Alike R (get >>= f) (get >>= g) := by
  intro s t related
  rw [runFrom_bind, runFrom_bind]
  exact next s t related related

theorem alike_set {s : σ} {t : τ} (related : R s t) :
    Alike R (set s : Query σ PUnit) (set t : Query τ PUnit) :=
  fun _ _ _ => ⟨rfl, related⟩

theorem alike_modify {f : σ → σ} {g : τ → τ} (keeps : ∀ s t, R s t → R (f s) (g t)) :
    Alike R (modify f : Query σ PUnit) (modify g : Query τ PUnit) :=
  fun s t related => ⟨rfl, keeps s t related⟩

/-- Going through a list alike. -/
theorem alike_mapM (f : α → Except Fault β) (l : List α) :
    Alike R (l.mapM fun a => (liftM (f a) : Query σ β)) (l.mapM fun a => liftM (f a)) :=
  alike_of_still (runFrom_mapM f l) (runFrom_mapM f l)

/-- A query cannot see the difference between states that are equal. -/
theorem alike_eq (q : Query σ α) : Alike Eq q q := by
  rintro s _ rfl
  exact ⟨rfl, rfl⟩

end Query

open Query

variable {σ τ : Type} {R : σ → τ → Prop}

/-- Whether two nodes answer every call alike. -/
def Endpoint.Alike (R : σ → τ → Prop) (node : Endpoint σ) (other : Endpoint τ) : Prop :=
  ∀ target data, Query.Alike R (node.call target data) (other.call target data)

/-- Whether two executors make every batch alike. -/
def Executor.Alike (R : σ → τ → Prop) (executor : Executor σ) (other : Executor τ) : Prop :=
  ∀ calls, Query.Alike R (executor calls) (other calls)

/-- Nodes that answer alike make batches alike. -/
theorem Batch.execute_alike {node : Endpoint σ} {other : Endpoint τ}
    (alike : Endpoint.Alike R node other) (contract : Address) :
    Executor.Alike R (execute node contract) (execute other contract) := by
  intro calls
  rw [execute, execute]
  by_cases none : calls.isEmpty
  · rw [if_pos none, if_pos none]
    exact alike_pure []
  · rw [if_neg none, if_neg none]
    exact (alike contract (encode calls)).bind fun data => alike_abi _

section Pass

variable {executor : Executor σ} {other : Executor τ} (alike : Executor.Alike R executor other)
include alike

/-- Lists are read to the same ends. -/
theorem Reader.readPages_alike {ν : Type} [IntegerLike ν] (r : Reader)
    (pending : List (Cursor ν)) :
    Query.Alike R (r.readPages executor pending) (r.readPages other pending) := by
  -- On how far the open cursors are from the greatest length: every round brings them closer.
  generalize far : Cursor.totalRemaining pending = n
  induction n using Nat.strongRecOn generalizing pending with
  | ind n ih =>
      subst far
      rw [readPages, readPages]
      by_cases done : pending = []
      · rw [if_pos done, if_pos done]
        exact alike_pure []
      · rw [if_neg done, if_neg done]
        refine (alike_mapM _ pending).bind fun calls => (alike calls).bind fun replies => ?_
        have closer := Cursor.absorbRound_remaining_le pending replies
        have open' : 0 < pending.length := List.length_pos_iff.2 done
        refine (ih _ (by omega) _ rfl).bind fun later => ?_
        exact alike_pure _

theorem resolveMany_alike (store : Address) (hashes : List Word) :
    Query.Alike R (resolveMany executor store hashes) (resolveMany other store hashes) :=
  (alike _).bind fun _ => alike_pure _

namespace Reader

variable (r : Reader)

theorem queueOf_alike (owners : List Address) (nonces : List Int) :
    Query.Alike R (r.queueOf executor owners nonces) (r.queueOf other owners nonces) :=
  (r.readPages_alike alike _).bind fun _ =>
    (resolveMany_alike alike r.store _).bind fun _ => alike_pure _

theorem queueOfWindow_alike {ω : Type} [AddressLike ω] (owners : List ω) (window : NonceWindow) :
    Query.Alike R (r.queueOfWindow executor owners window)
      (r.queueOfWindow other owners window) := by
  rw [queueOfWindow, queueOfWindow]
  by_cases empty : (window.count = 0 || owners.isEmpty) = true
  · rw [if_pos empty, if_pos empty]
    exact alike_pure []
  · rw [if_neg empty, if_neg empty]
    exact (alike_input _).bind fun addresses => r.queueOf_alike alike addresses window.nonces

/-- A pass over a window comes to the same queue, or to the same failure. -/
theorem reconstructGiven_alike (owners start window : Value) :
    Query.Alike R (r.reconstructGiven executor owners start window)
      (r.reconstructGiven other owners start window) := by
  refine (alike_input _).bind fun nonces => ?_
  by_cases empty : (nonces.count = 0 || !owners.isTrue) = true
  · rw [if_pos empty, if_pos empty]
    exact alike_pure []
  · rw [if_neg empty, if_neg empty]
    exact (alike_input _).bind fun items => r.queueOfWindow_alike alike items nonces

end Reader

end Pass

namespace Client

/-- Clients with the same settings that read the store from nodes that answer alike get the same
queues. -/
theorem reconstruct_alike {c : Client σ} {other : Client τ} (settings : c.settings = other.settings)
    (alike : Endpoint.Alike R c.storeNode other.storeNode)
    (safe chainId owners start window timeout : Value) :
    Query.Alike R (c.reconstruct safe chainId owners start window timeout)
      (other.reconstruct safe chainId owners start window timeout) := by
  have executors : Executor.Alike R c.storeExecutor other.storeExecutor := by
    rw [storeExecutor, storeExecutor, settings]
    exact Batch.execute_alike alike _
  have sameWindow : c.windowOr window = other.windowOr window := by
    simp only [windowOr, settings]
  rw [reconstruct, reconstruct, settings, sameWindow]
  refine (alike_input _).bind fun reader => (alike_input _).bind fun isLate => ?_
  exact (reader.reconstructGiven_alike executors _ _ _).unless (isLate = true) .timeout

end Client

end MultisigQueue
