/-
Module: MultisigQueue.Proofs.Ascending
Purpose: Lists in strictly ascending order of a key.
Main exports:
  Ascending, Ascending.ext, Ascending.eq_of_key_eq, Ascending.filterMap, ascending_mergeSort,
  nodup_eraseDups
-/

namespace MultisigQueue

/-!
The order of a queue is fixed by numbers: nonces, hashes and addresses. A list in strictly ascending
order of such a key holds nothing twice, and it is determined by its members alone.
-/

/-- The keys of a list strictly ascend. -/
def Ascending {α β : Type} [LT β] (key : α → β) (l : List α) : Prop :=
  l.Pairwise fun a b => key a < key b

/-- What is left of a list by keeping the first of equal items holds nothing twice. -/
theorem nodup_eraseDups {α : Type} [BEq α] [LawfulBEq α] : (l : List α) → l.eraseDups.Nodup
  | [] => by simp
  | a :: rest => by
      have shorter : (rest.filter fun b => !b == a).length < rest.length + 1 :=
        Nat.lt_succ_of_le (List.length_filter_le _ _)
      rw [List.eraseDups_cons, List.nodup_cons]
      exact ⟨by simp [List.mem_eraseDups], nodup_eraseDups _⟩
termination_by l => l.length

/-- A list that holds nothing twice loses nothing by it. -/
theorem eraseDups_of_nodup {α : Type} [BEq α] [LawfulBEq α] {l : List α} (distinct : l.Nodup) :
    l.eraseDups = l := by
  induction distinct with
  | nil => rfl
  | @cons a rest apart _ ih =>
      have others : rest.filter (fun b => !b == a) = rest := by
        apply List.filter_eq_self.2
        intro b member
        simpa using (apart b member).symm
      rw [List.eraseDups_cons, others, ih]

namespace Ascending

variable {α β γ : Type} [LE β] [LT β] [Std.LawfulOrderLT β] [Std.IsLinearOrder β]
  {key : α → β} {l m : List α}

omit [Std.IsLinearOrder β] in
theorem nodup [Std.IsPreorder β] (ascends : Ascending key l) : l.Nodup := by
  refine List.Pairwise.imp ?_ ascends
  intro a b below same
  rw [same] at below
  exact Std.lt_irrefl below

/-- Two lists that ascend and have the same members are one list. -/
theorem ext (ascends : Ascending key l) (alsoAscends : Ascending key m)
    (same : ∀ a, a ∈ l ↔ a ∈ m) : l = m :=
  List.Perm.eq_of_pairwise
    (fun _ _ _ _ below above => absurd above (Std.not_gt_of_lt below)) ascends alsoAscends
    ((List.perm_ext_iff_of_nodup ascends.nodup alsoAscends.nodup).2 same)

omit [Std.IsLinearOrder β] in
/-- Items of an ascending list that have one key are one item. -/
theorem eq_of_key_eq [Std.IsPreorder β] (ascends : Ascending key l) {a b : α} (memberA : a ∈ l)
    (memberB : b ∈ l) (same : key a = key b) : a = b := by
  induction ascends with
  | nil => cases memberA
  | cons below _ ih =>
      rcases List.mem_cons.1 memberA with rfl | laterA
      · rcases List.mem_cons.1 memberB with rfl | laterB
        · rfl
        · have less := below b laterB
          rw [same] at less
          exact absurd less Std.lt_irrefl
      · rcases List.mem_cons.1 memberB with rfl | laterB
        · have less := below a laterA
          rw [same] at less
          exact absurd less Std.lt_irrefl
        · exact ih laterA laterB

omit [LE β] [Std.LawfulOrderLT β] [Std.IsLinearOrder β] in
/-- What a list is mapped to ascends if each item keeps its key. -/
theorem filterMap {image : γ → β} {f : α → Option γ} (ascends : Ascending key l)
    (keeps : ∀ a ∈ l, ∀ c, f a = some c → image c = key a) :
    Ascending image (l.filterMap f) := by
  refine List.pairwise_filterMap.2 (ascends.imp_of_mem ?_)
  intro a b memberA memberB below c fromA d fromB
  rw [keeps a memberA c fromA, keeps b memberB d fromB]
  exact below

end Ascending

/-- Sorting a list without equal keys makes it ascend. -/
theorem ascending_mergeSort {α β : Type} [LE β] [LT β] [DecidableLE β] [Std.LawfulOrderLT β]
    [Std.IsLinearOrder β] {key : α → β} {l : List α} (distinct : (l.map key).Nodup) :
    Ascending key (l.mergeSort fun a b => key a ≤ key b) := by
  have sorted : (l.mergeSort fun a b => key a ≤ key b).Pairwise
      fun a b => decide (key a ≤ key b) = true :=
    List.pairwise_mergeSort (fun a b c => by simpa using fun ab bc => Std.le_trans ab bc)
      (fun a b => by simpa using Std.le_total) l
  have unequal : (l.mergeSort fun a b => key a ≤ key b).Pairwise fun a b => key a ≠ key b := by
    have permuted := (List.mergeSort_perm l fun a b => decide (key a ≤ key b)).map key
    exact List.pairwise_map.1 (permuted.nodup_iff.2 distinct)
  refine (sorted.and unequal).imp ?_
  intro a b ordered
  exact Std.lt_of_le_of_ne (of_decide_eq_true ordered.1) ordered.2

/-- The distinct items of a list in the order of a key that tells them apart ascend. -/
theorem ascending_sortedDistinct {α β : Type} [BEq α] [LawfulBEq α] [LE β] [LT β] [DecidableLE β]
    [Std.LawfulOrderLT β] [Std.IsLinearOrder β] {key : α → β}
    (injective : ∀ a b, key a = key b → a = b) (l : List α) :
    Ascending key (l.eraseDups.mergeSort fun a b => key a ≤ key b) := by
  refine ascending_mergeSort ?_
  exact List.pairwise_map.2 ((nodup_eraseDups l).imp fun {a b} differ same =>
    differ (injective a b same))

end MultisigQueue
