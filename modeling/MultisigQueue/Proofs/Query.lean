/-
Module: MultisigQueue.Proofs.Query
Purpose: What a query that is put together from others comes to.
Main exports:
  mapM_eq_ok_iff, exists_ok_of_mapM, map_eq_ok_iff, mapError_eq_ok_iff, Query.runFrom_except,
  Query.runFrom_input, Query.runFrom_abi, Query.runFrom_bind_eq_ok, Query.runFrom_bind_eq_error,
  Query.runFrom_mapM
-/
import Mathlib.Data.List.Forall2
import MultisigQueue.Endpoint

namespace MultisigQueue

/-!
A query succeeds exactly if all of its parts do, each from the state in which the one before it left
the node. Steps that ask nobody leave the state alone.
-/

theorem bind_eq_ok_iff {ε α β : Type} {x : Except ε α} {f : α → Except ε β} {b : β} :
    x >>= f = .ok b ↔ ∃ a, x = .ok a ∧ f a = .ok b := by
  cases x with
  | error e => simp [bind, Except.bind]
  | ok a => simp [bind, Except.bind]

theorem map_eq_ok_iff {ε α β : Type} {x : Except ε α} {f : α → β} {b : β} :
    x.map f = .ok b ↔ ∃ a, x = .ok a ∧ f a = b := by
  cases x <;> simp [Except.map]

theorem mapError_eq_ok_iff {ε δ α : Type} {x : Except ε α} {f : ε → δ} {a : α} :
    x.mapError f = .ok a ↔ x = .ok a := by
  cases x <;> simp [Except.mapError]

theorem mapError_eq_error_iff {ε δ α : Type} {x : Except ε α} {f : ε → δ} {e : δ} :
    x.mapError f = .error e ↔ ∃ d, x = .error d ∧ f d = e := by
  cases x <;> simp [Except.mapError]

/-- A function that may fail goes through a list exactly if it goes through for each item. -/
theorem mapM_eq_ok_iff {ε α β : Type} {f : α → Except ε β} {l : List α} {results : List β} :
    l.mapM f = .ok results ↔ List.Forall₂ (fun a b => f a = .ok b) l results := by
  induction l generalizing results with
  | nil => cases results <;> simp [pure, Except.pure]
  | cons a rest ih =>
      rw [List.mapM_cons, bind_eq_ok_iff]
      constructor
      · rintro ⟨b, first, behind⟩
        obtain ⟨others, later, same⟩ := bind_eq_ok_iff.1 behind
        cases same
        exact .cons first (ih.1 later)
      · intro each
        cases each with
        | cons first later =>
            exact ⟨_, first, bind_eq_ok_iff.2 ⟨_, ih.2 later, rfl⟩⟩

/-- There are results for a list that is not empty. -/
theorem ne_nil_of_mapM {ε α β : Type} {f : α → Except ε β} {l : List α} {results : List β}
    (goes : l.mapM f = .ok results) (some : l ≠ []) : results ≠ [] := by
  rintro rfl
  exact some (List.forall₂_nil_right_iff.1 (mapM_eq_ok_iff.1 goes))

/-- Functions that agree on the items of a list come to the same on it. -/
theorem mapM_congr_left {ε α β : Type} {f g : α → Except ε β} {l : List α}
    (same : ∀ a ∈ l, f a = g a) : l.mapM f = l.mapM g := by
  induction l with
  | nil => rfl
  | cons a rest ih =>
      rw [List.mapM_cons, List.mapM_cons, same a List.mem_cons_self,
        ih fun b behind => same b (List.mem_cons_of_mem a behind)]

/-- A function that goes through a list goes through for each of its items. -/
theorem exists_ok_of_mapM {ε α β : Type} {f : α → Except ε β} {l : List α} {results : List β}
    (goes : l.mapM f = .ok results) {a : α} (member : a ∈ l) : ∃ b ∈ results, f a = .ok b := by
  obtain ⟨sameLength, each⟩ := List.forall₂_iff_zip.1 (mapM_eq_ok_iff.1 goes)
  rw [← List.map_fst_zip (Nat.le_of_eq sameLength)] at member
  obtain ⟨⟨_, b⟩, together, rfl⟩ := List.mem_map.1 member
  exact ⟨b, (List.of_mem_zip together).2, each together⟩

/-- Each result of a function that goes through a list is that of an item. -/
theorem exists_of_mem_mapM {ε α β : Type} {f : α → Except ε β} {l : List α} {results : List β}
    (goes : l.mapM f = .ok results) {b : β} (member : b ∈ results) : ∃ a ∈ l, f a = .ok b := by
  obtain ⟨sameLength, each⟩ := List.forall₂_iff_zip.1 (mapM_eq_ok_iff.1 goes)
  rw [← List.map_snd_zip (Nat.le_of_eq sameLength.symm)] at member
  obtain ⟨⟨a, _⟩, together, rfl⟩ := List.mem_map.1 member
  exact ⟨a, (List.of_mem_zip together).1, each together⟩

/-- A function that may fail fails on a list only if it fails on one of the items. -/
theorem exists_error_of_mapM {ε α β : Type} {f : α → Except ε β} {l : List α} {e : ε}
    (fails : l.mapM f = .error e) : ∃ a ∈ l, f a = .error e := by
  induction l with
  | nil => cases fails
  | cons a rest ih =>
      rw [List.mapM_cons] at fails
      cases first : f a with
      | error other =>
          rw [first] at fails
          cases fails
          exact ⟨a, List.mem_cons_self, first⟩
      | ok b =>
          rw [first] at fails
          cases later : rest.mapM f with
          | error other =>
              simp only [later, bind, Except.bind, Except.error.injEq] at fails
              subst fails
              obtain ⟨c, member, failure⟩ := ih later
              exact ⟨c, List.mem_cons_of_mem a member, failure⟩
          | ok others =>
              simp only [later, bind, Except.bind] at fails
              cases fails

namespace Query

variable {σ α β : Type}

@[simp] theorem runFrom_except (x : Except Fault α) (s : σ) :
    runFrom (liftM x : Query σ α) s = (x, s) := rfl

@[simp] theorem runFrom_input (x : Except InputError α) (s : σ) :
    runFrom (liftM x : Query σ α) s = (x.mapError Fault.input, s) := rfl

@[simp] theorem runFrom_abi (x : Except AbiError α) (s : σ) :
    runFrom (liftM x : Query σ α) s = (x.mapError Fault.abi, s) := rfl

@[simp] theorem runFrom_get (s : σ) : runFrom (get : Query σ σ) s = (.ok s, s) := rfl

@[simp] theorem runFrom_set (s t : σ) : runFrom (set t : Query σ PUnit) s = (.ok ⟨⟩, t) := rfl

@[simp] theorem runFrom_modify (f : σ → σ) (s : σ) :
    runFrom (modify f : Query σ PUnit) s = (.ok ⟨⟩, f s) := rfl

theorem runFrom_within {τ : Type} (view : τ → σ) (update : τ → σ → τ) (q : Query σ α) (t : τ) :
    (within view update q).runFrom t =
      ((q.runFrom (view t)).1, update t (q.runFrom (view t)).2) := rfl

theorem runFrom_bind_eq_ok {q : Query σ α} {f : α → Query σ β} {s u : σ} {b : β} :
    (q >>= f).runFrom s = (.ok b, u) ↔
      ∃ a t, q.runFrom s = (.ok a, t) ∧ (f a).runFrom t = (.ok b, u) := by
  rw [runFrom_bind]
  rcases q.runFrom s with ⟨_ | a, t⟩ <;> simp

theorem runFrom_bind_eq_error {q : Query σ α} {f : α → Query σ β} {s u : σ} {e : Fault} :
    (q >>= f).runFrom s = (.error e, u) ↔
      q.runFrom s = (.error e, u) ∨
        ∃ a t, q.runFrom s = (.ok a, t) ∧ (f a).runFrom t = (.error e, u) := by
  rw [runFrom_bind]
  rcases q.runFrom s with ⟨_ | a, t⟩ <;> simp

/-- Going through a list without asking the node comes to the same as a query. -/
theorem runFrom_mapM (f : α → Except Fault β) (l : List α) (s : σ) :
    runFrom (l.mapM fun a => (liftM (f a) : Query σ β)) s = (l.mapM f, s) := by
  induction l with
  | nil => rfl
  | cons a rest ih =>
      rw [List.mapM_cons, List.mapM_cons, runFrom_bind, runFrom_except]
      cases f a with
      | error e => rfl
      | ok b =>
          simp only [runFrom_bind, ih]
          cases rest.mapM f <;> rfl

end Query

end MultisigQueue
