/-
Module: MultisigQueue.Proofs.Queue.Trace
Purpose: The rounds of a reading one by one, and why no node can keep it going forever.
Main exports:
  Reader.Round, Reader.Rounds, Reader.reads_iff_exists_rounds, Reader.exists_rounds,
  Reader.Rounds.offset_eq, Reader.Rounds.offsets_increase, Reader.readPages_bounded
-/
import MultisigQueue.Proofs.Queue.ByRule

namespace MultisigQueue

/-!
What a reading finds is laid out here round by round: which cursors are open, what they are replied,
and the state of the node after it. A list is asked for in one round after the other until its
cursor closes, each time from behind the signatures that it has yielded so far. This place is below
the greatest length that a page can report, so there are at most `2 ^ 256` rounds, and the place can
be written in a request in each of them.
-/

namespace Cursor

variable {ν : Type} {c d : Cursor ν} {reply : Reply}

/-- A cursor moves by the signatures that it yields. -/
theorem offset_of_next (goesOn : (c.absorb reply).2 = some d) :
    d.offset = c.offset + (c.absorb reply).1.length := by
  unfold absorb at goesOn ⊢
  split at goesOn
  · split at goesOn
    · rename_i hasData _ signatures total _
      simp only [hasData, if_true] at goesOn ⊢
      split at goesOn
      · cases goesOn
      · rename_i short
        cases goesOn
        rw [if_neg short]
    · cases goesOn
  · cases goesOn

/-- A cursor that stays open has moved, and stands below the greatest length of a list. -/
theorem lt_of_next (goesOn : (c.absorb reply).2 = some d) :
    c.offset < d.offset ∧ d.offset < 2 ^ (256 : Nat) :=
  offset_of_absorb (Prod.ext rfl goesOn)

/-- Different cursors at the starts of their lists are in different lists. -/
theorem nodup_keys {cursors : List (Cursor ν)} (distinct : cursors.Nodup)
    (atStart : ∀ c ∈ cursors, c.offset = 0) : (cursors.map key).Nodup := by
  apply List.Nodup.map_on _ distinct
  intro c isCursor d alsoCursor sameKey
  obtain ⟨sameOwner, sameNonce⟩ := Prod.mk.inj sameKey
  have samePlace : c.offset = d.offset := (atStart c isCursor).trans (atStart d alsoCursor).symm
  cases c
  cases d
  simp_all

end Cursor

namespace Reader

/-- A round of a reading: the cursors that are open, the replies to their requests, and the state of
the node after them. -/
structure Round (σ ν : Type) where
  pending : List (Cursor ν)
  replies : List Reply
  after : σ

namespace Round

variable {σ ν : Type}

/-- The pages that a round yields. -/
def found (round : Round σ ν) : List (Found ν) :=
  (Cursor.absorbRound round.pending round.replies).1

/-- The cursors that a round leaves open. -/
def next (round : Round σ ν) : List (Cursor ν) :=
  (Cursor.absorbRound round.pending round.replies).2

/-- The places from which some rounds ask for pages of a list, one after the other. -/
def offsets [BEq ν] (rounds : List (Round σ ν)) (key : Address × ν) : List Int :=
  ((rounds.flatMap pending).filter fun c => c.key == key).map Cursor.offset

end Round

variable {σ ν : Type} [IntegerLike ν]

/-- The rounds in which an executor answers a reader until no cursor is open. -/
inductive Rounds (r : Reader) (executor : Executor σ) :
    List (Cursor ν) → σ → List (Round σ ν) → σ → Prop where
  | done (s : σ) : Rounds r executor [] s [] s
  | round {pending : List (Cursor ν)} {calls : List Call} {replies : List Reply} {s t u : σ}
      {later : List (Round σ ν)} (isOpen : pending ≠ [])
      (asked : pending.mapM r.callFor = .ok calls)
      (answered : (executor calls).runFrom s = (.ok replies, t))
      (rest : Rounds r executor (Round.next ⟨pending, replies, t⟩) t later u) :
      Rounds r executor pending s (⟨pending, replies, t⟩ :: later) u

variable {r : Reader} {executor : Executor σ} {pending : List (Cursor ν)} {s u : σ}

/-- A successful reading finds the pages of its rounds. -/
theorem reads_iff_exists_rounds {found : List (Found ν)} :
    r.Reads executor pending s found u ↔
      ∃ rounds, r.Rounds executor pending s rounds u ∧ found = rounds.flatMap Round.found := by
  constructor
  · intro reads
    induction reads with
    | done s => exact ⟨[], .done s, rfl⟩
    | round isOpen asked answered _ ih =>
        obtain ⟨later, rounds, rfl⟩ := ih
        exact ⟨_, .round isOpen asked answered rounds, rfl⟩
  · rintro ⟨rounds, trace, rfl⟩
    induction trace with
    | done s => exact .done s
    | round isOpen asked answered _ ih => exact .round isOpen asked answered ih

/-- The pages of lists are read in rounds. -/
theorem runFrom_readPages_iff {found : List (Found ν)} :
    (r.readPages executor pending).runFrom s = (.ok found, u) ↔
      ∃ rounds, r.Rounds executor pending s rounds u ∧ found = rounds.flatMap Round.found :=
  runFrom_readPages_eq_ok.trans reads_iff_exists_rounds

namespace Rounds

variable {rounds before later : List (Round σ ν)} {now : Round σ ν}

/-- The requests of a round could be made. -/
theorem exists_callFor (trace : r.Rounds executor pending s (before ++ now :: later) u)
    {c : Cursor ν} (isOpen : c ∈ now.pending) : ∃ call, r.callFor c = .ok call := by
  induction before generalizing pending s with
  | nil =>
      cases trace with
      | round _ asked _ _ =>
          obtain ⟨call, -, called⟩ := exists_ok_of_mapM asked isOpen
          exact ⟨call, called⟩
  | cons first before ih =>
      cases trace with
      | round _ _ _ rest => exact ih rest

/-- A cursor that is open in a round stands where its list was begun, plus what the rounds before
have found in this list. -/
theorem offset_eq [BEq ν] [LawfulBEq ν]
    (trace : r.Rounds executor pending s (before ++ now :: later) u)
    (distinct : (pending.map Cursor.key).Nodup) {d : Cursor ν} (isOpen : d ∈ now.pending) :
    ∃ c ∈ pending, d.key = c.key ∧
      d.offset = c.offset + (signaturesOf (before.flatMap Round.found) d.key).length := by
  -- By induction on the rounds before: the first of them moves the cursor by what it yields.
  induction before generalizing pending s with
  | nil =>
      cases trace with
      | round => exact ⟨d, isOpen, rfl, (Int.add_zero d.offset).symm⟩
  | cons first before ih =>
      cases trace with
      | @round _ _ replies _ _ _ _ _ _ _ rest =>
          obtain ⟨e, stays, sameKey, place⟩ := ih rest (Cursor.nodup_absorbRound distinct)
          obtain ⟨c, reply, together, goesOn, ofKey⟩ := Cursor.exists_of_mem_pending stays
          refine ⟨c, (List.of_mem_zip together).1, sameKey.trans ofKey, ?_⟩
          have yielded : signaturesOf (Cursor.absorbRound pending replies).1 d.key =
              (c.absorb reply).1 := by
            rw [sameKey, ofKey]
            exact signaturesOf_absorbRound distinct together
          have now := Cursor.offset_of_next goesOn
          rw [List.flatMap_cons, signaturesOf_append, Round.found, yielded, List.length_append,
            place, now, Int.natCast_add, Int.add_assoc]

/-- A cursor that is open in a later round stands behind one of the open cursors of its list. -/
theorem offset_le (trace : r.Rounds executor pending s rounds u) {round : Round σ ν}
    (isRound : round ∈ rounds) {d : Cursor ν} (isOpen : d ∈ round.pending) :
    ∃ c ∈ pending, d.key = c.key ∧ c.offset ≤ d.offset := by
  induction trace with
  | done s => cases isRound
  | round _ _ _ _ ih =>
      rcases List.mem_cons.1 isRound with rfl | afterwards
      · exact ⟨d, isOpen, rfl, le_rfl⟩
      · obtain ⟨e, stays, sameKey, behind⟩ := ih afterwards
        obtain ⟨c, reply, together, goesOn, ofKey⟩ := Cursor.exists_of_mem_pending stays
        refine ⟨c, (List.of_mem_zip together).1, sameKey.trans ofKey, ?_⟩
        exact (Cursor.lt_of_next goesOn).1.le.trans behind

/-- Each list is asked for from places that strictly increase. -/
theorem offsets_increase [BEq ν] [LawfulBEq ν] (trace : r.Rounds executor pending s rounds u)
    (distinct : (pending.map Cursor.key).Nodup) (key : Address × ν) :
    (Round.offsets rounds key).Pairwise (· < ·) := by
  induction trace with
  | done s => exact .nil
  | @round pending calls replies s t u later _ _ _ rest ih =>
      simp only [Round.offsets, List.flatMap_cons, List.filter_append, List.map_append]
      apply List.pairwise_append.2 ⟨?_, ih (Cursor.nodup_absorbRound distinct), ?_⟩
      · -- Only one cursor of a round is in the list.
        rw [List.pairwise_map]
        apply (List.Pairwise.filter _ (List.pairwise_map.1 distinct)).imp_of_mem
        intro c d inList alsoInList differ
        have ofKey : c.key = key := by simpa using (List.mem_filter.1 inList).2
        have ofKeyToo : d.key = key := by simpa using (List.mem_filter.1 alsoInList).2
        exact absurd (ofKey.trans ofKeyToo.symm) differ
      · intro place isHere place' isLater
        obtain ⟨c, inList, rfl⟩ := List.mem_map.1 isHere
        obtain ⟨e, inListToo, rfl⟩ := List.mem_map.1 isLater
        obtain ⟨member, ofKey⟩ := List.mem_filter.1 inList
        obtain ⟨memberLater, ofKeyToo⟩ := List.mem_filter.1 inListToo
        obtain ⟨round, isRound, isOpen⟩ := List.mem_flatMap.1 memberLater
        obtain ⟨d, stays, sameKey, behind⟩ := rest.offset_le isRound isOpen
        obtain ⟨b, reply, together, goesOn, fromKey⟩ := Cursor.exists_of_mem_pending stays
        -- The cursor that went on is the one of this round, being in the same list.
        have same : b = c := by
          apply List.inj_on_of_nodup_map distinct (List.of_mem_zip together).1 member
          have here : c.key = key := by simpa using ofKey
          have there : e.key = key := by simpa using ofKeyToo
          rw [← fromKey, ← sameKey, there, here]
        exact (same ▸ (Cursor.lt_of_next goesOn).1).trans_le behind

/-- There are no more rounds than places between that of a first cursor and the greatest length of a
list. -/
theorem length_le (trace : r.Rounds executor pending s rounds u) {least : Nat}
    (below : least ≤ 2 ^ (256 : Nat))
    (within : ∀ c ∈ pending, (least : Int) ≤ c.offset ∧ c.offset < 2 ^ (256 : Nat)) :
    rounds.length + least ≤ 2 ^ (256 : Nat) := by
  induction trace generalizing least with
  | done s => simpa using below
  | @round pending calls replies s t u later isOpen _ _ _ ih =>
      obtain ⟨c, rest, rfl⟩ := List.exists_cons_of_ne_nil isOpen
      have room : least + 1 ≤ 2 ^ (256 : Nat) := by
        obtain ⟨atLeast, atMost⟩ := within c List.mem_cons_self
        omega
      have stays : ∀ d ∈ Round.next ⟨c :: rest, replies, t⟩,
          ((least + 1 : Nat) : Int) ≤ d.offset ∧ d.offset < 2 ^ (256 : Nat) := by
        intro d isNext
        obtain ⟨b, reply, together, goesOn, -⟩ := Cursor.exists_of_mem_pending isNext
        obtain ⟨forward, bounded⟩ := Cursor.lt_of_next goesOn
        have atLeast := (within b (List.of_mem_zip together).1).1
        exact ⟨by omega, bounded⟩
      have shorter := ih room stays
      rw [List.length_cons]
      omega

end Rounds

/-- The requests at cursors whose places can be written can be made. -/
theorem exists_calls (readerAskable : r.Askable) {pending : List (Cursor Int)}
    (askable : ∀ c ∈ pending, c.Askable) : ∃ calls, pending.mapM r.callFor = .ok calls := by
  cases asking : pending.mapM r.callFor with
  | ok calls => exact ⟨calls, rfl⟩
  | error e =>
      obtain ⟨c, isOpen, fails⟩ := exists_error_of_mapM asking
      obtain ⟨call, called⟩ := exists_callFor readerAskable (askable c isOpen)
      cases fails.symm.trans called

/-- Whether an executor answers each batch for pages of some lists from a steady state, and leaves a
steady one. -/
def Answers (r : Reader) (executor : Executor σ) (keys : List (Address × Int))
    (steady : σ → Prop) : Prop :=
  ∀ ⦃pending : List (Cursor Int)⦄ ⦃calls : List Call⦄ ⦃s : σ⦄, steady s → pending ≠ [] →
    (pending.map Cursor.key).Nodup → (∀ c ∈ pending, c.key ∈ keys) →
      pending.mapM r.callFor = .ok calls →
        ∃ replies t, (executor calls).runFrom s = (.ok replies, t) ∧ steady t

/-- A reader whose batches are answered comes to an end. -/
theorem exists_rounds {keys : List (Address × Int)} {steady : σ → Prop}
    (answers : r.Answers executor keys steady) (readerAskable : r.Askable)
    {pending : List (Cursor Int)} (askable : ∀ c ∈ pending, c.Askable)
    (distinct : (pending.map Cursor.key).Nodup) (listed : ∀ c ∈ pending, c.key ∈ keys) {s : σ}
    (isSteady : steady s) : ∃ rounds u, r.Rounds executor pending s rounds u ∧ steady u := by
  induction pending using readPages.induct generalizing s with
  | case1 => exact ⟨[], s, .done s, isSteady⟩
  | case2 pending isOpen ih =>
      obtain ⟨calls, asked⟩ := exists_calls readerAskable askable
      obtain ⟨replies, t, answered, steadyThen⟩ := answers isSteady isOpen distinct listed asked
      have goesOn : ∀ d ∈ (Cursor.absorbRound pending replies).2, d.Askable ∧ d.key ∈ keys := by
        intro d stays
        obtain ⟨c, reply, together, next, sameKey⟩ := Cursor.exists_of_mem_pending stays
        have member := (List.of_mem_zip together).1
        exact ⟨(askable c member).next next, sameKey ▸ listed c member⟩
      obtain ⟨later, u, rest, steadyLast⟩ := ih replies (fun d stays => (goesOn d stays).1)
        (Cursor.nodup_absorbRound distinct) (fun d stays => (goesOn d stays).2) steadyThen
      exact ⟨_, u, .round isOpen asked answered rest, steadyLast⟩

/-- Whatever an executor answers, and whatever its answers depend on, a reading from the starts of
different lists comes to an end. Each list is asked for from places that strictly increase, each of
which is the number of signatures that the list has yielded so far and can be written in a request.
-/
theorem readPages_bounded
    (answers : ∀ calls s, ∃ replies t, (executor calls).runFrom s = (.ok replies, t))
    (readerAskable : r.Askable) {cursors : List (Cursor Int)} (distinct : cursors.Nodup)
    (atStart : ∀ c ∈ cursors, c.offset = 0)
    (nonce_mem : ∀ c ∈ cursors, 0 ≤ c.nonce ∧ c.nonce < 2 ^ (256 : Nat)) (s : σ) :
    ∃ rounds u, r.Rounds executor cursors s rounds u ∧
      (r.readPages executor cursors).runFrom s = (.ok (rounds.flatMap Round.found), u) ∧
      rounds.length ≤ 2 ^ (256 : Nat) ∧
      (∀ key, (Round.offsets rounds key).Pairwise (· < ·)) ∧
      ∀ before now later, rounds = before ++ now :: later → ∀ c ∈ now.pending,
        c.offset = ((signaturesOf (before.flatMap Round.found) c.key).length : Int) ∧
          c.offset < 2 ^ (256 : Nat) ∧ ∃ call, r.callFor c = .ok call := by
  have keys := Cursor.nodup_keys distinct atStart
  have askable : ∀ c ∈ cursors, c.Askable := by
    intro c isCursor
    apply And.intro (nonce_mem c isCursor)
    rw [atStart c isCursor]
    decide
  have answersAll : r.Answers executor (cursors.map Cursor.key) fun _ => True := by
    intro pending calls s _ _ _ _ _
    obtain ⟨replies, t, answered⟩ := answers calls s
    exact ⟨replies, t, answered, trivial⟩
  obtain ⟨rounds, u, trace, -⟩ := exists_rounds answersAll readerAskable askable keys
    (fun c isCursor => List.mem_map_of_mem isCursor) trivial
  refine ⟨rounds, u, trace, ?run, ?few, fun key => trace.offsets_increase keys key, ?each⟩
  case run => exact runFrom_readPages_iff.2 ⟨rounds, trace, rfl⟩
  case few =>
    apply trace.length_le (Nat.zero_le _)
    intro c isCursor
    exact (askable c isCursor).2
  case each =>
    rintro before now later rfl c isOpen
    obtain ⟨call, called⟩ := trace.exists_callFor isOpen
    obtain ⟨size, sized, positive, -⟩ := readerAskable.pageSize
    obtain ⟨first, isCursor, sameKey, place⟩ := trace.offset_eq keys isOpen
    rw [atStart first isCursor, Int.zero_add] at place
    exact ⟨place, (askable_of_callFor sized positive called).2.2.2, call, called⟩

/-- An executor that answers every request with one more signature of a list that is as long as can
be, and marks the signature with the number of the batch. -/
def endless : Executor Nat := fun calls => do
  let batch ← get
  set (batch + 1)
  return calls.map fun _ =>
    ⟨true, Store.pageReturn [⟨.ofNat 32 batch, .ofNat 32 8, .ofNat 32 7⟩] (Fin.last _)⟩

theorem readPages_bounded_endless :
    ∃ rounds u, sample.Rounds endless [⟨.ofNat 2, 5, 0⟩, ⟨.ofNat 3, 5, 0⟩] 0 rounds u ∧
      (sample.readPages endless [⟨.ofNat 2, 5, 0⟩, ⟨.ofNat 3, 5, 0⟩]).runFrom 0 =
        (.ok (rounds.flatMap Round.found), u) ∧
      rounds.length ≤ 2 ^ (256 : Nat) ∧
      (∀ key : Address × Int, (Round.offsets rounds key).Pairwise (· < ·)) ∧
      ∀ before now later, rounds = before ++ now :: later → ∀ c ∈ now.pending,
        c.offset = ((signaturesOf (before.flatMap Round.found) c.key).length : Int) ∧
          c.offset < 2 ^ (256 : Nat) ∧ ∃ call, sample.callFor c = .ok call := by
  have answers : ∀ calls s, ∃ replies t, (endless calls).runFrom s = (.ok replies, t) := by
    intro calls s
    exact ⟨_, _, rfl⟩
  exact readPages_bounded answers askable_sample (by decide) (by decide) (by decide) 0

end Reader

end MultisigQueue
