/-
Module: MultisigQueue.Proofs.Queue.History
Purpose: A tally says of every history of signatures what the first ones in it say.
Main exports:
  Tally.answers, Tally.ComesFirst, Tally.Describes, Tally.holds_ofEntries_iff,
  Tally.describes_build, Tally.Describes.unique, Tally.ofEntries_firstWins
-/
import Mathlib.Data.Finset.Card
import MultisigQueue.Proofs.Queue.Tally

namespace MultisigQueue

/-!
A history is a list of signatures, each with a nonce, in any order and with any repetitions. What
its tally answers, counts and joins with stored transactions is said here on the history itself. The
description of the queue leaves no choice: there is one queue that it is true of, and it speaks only
of the signatures that come first with their nonce, hash and signer.
-/

/-- A transaction is held exactly where a record is stored and has one. -/
theorem Resolution.content?_eq_some_iff {r : Resolution} {transaction : Transaction} :
    r.content? = some transaction ↔ r.stored = true ∧ r.transaction = some transaction := by
  unfold content?
  cases r.stored <;> simp

namespace Tally

variable {history other : List (Int × Signature)} {nonce : Int} {hash : Word} {g : Signature}

/-- What a tally answers to signatures that come one after the other: whether each of them is new.
-/
def answers : Tally → List (Int × Signature) → List Bool
  | _, [] => []
  | t, entry :: rest =>
    let (isNew, after) := t.offer entry.1 entry.2
    isNew :: answers after rest

/-- Whether a signature is the first one in a history with its nonce, hash and signer. -/
def ComesFirst (history : List (Int × Signature)) (nonce : Int) (g : Signature) : Prop :=
  ∃ earlier later, history = earlier ++ (nonce, g) :: later ∧
    ∀ entry ∈ earlier, key entry ≠ key (nonce, g)

/-! ### What is kept -/

theorem mem_kept_iff_comesFirst :
    (nonce, g) ∈ (ofEntries history).kept ↔ ComesFirst history nonce g := by
  rw [mem_kept_ofEntries, List.find?_eq_some_iff_append]
  simp [ComesFirst]

/-- Of each key in a history, one entry is kept. -/
theorem exists_kept_of_mem {entry : Int × Signature} (member : entry ∈ history) :
    ∃ first ∈ (ofEntries history).kept, key first = key entry := by
  have some : (history.find? fun other => key other = key entry).isSome := by
    rw [List.find?_isSome]
    exact ⟨entry, member, decide_eq_true rfl⟩
  rcases Option.isSome_iff_exists.1 some with ⟨first, isFirst⟩
  have same : key first = key entry := of_decide_eq_true (List.find?_some isFirst :)
  refine ⟨first, ?_, same⟩
  rw [mem_kept_ofEntries, same, isFirst]

theorem mem_of_kept {entry : Int × Signature} (kept : entry ∈ (ofEntries history).kept) :
    entry ∈ history := by
  rw [mem_kept_ofEntries] at kept
  exact List.mem_of_find?_eq_some kept

/-- A signature is held exactly if one with its nonce, hash and signer has come. -/
theorem holds_ofEntries_iff :
    (ofEntries history).holds nonce g = true ↔ ∃ entry ∈ history, key entry = key (nonce, g) := by
  rw [holds_iff]
  constructor
  · rintro ⟨entry, kept, same⟩
    exact ⟨entry, mem_of_kept kept, same⟩
  · rintro ⟨entry, member, same⟩
    rcases exists_kept_of_mem member with ⟨first, kept, alike⟩
    exact ⟨first, kept, alike.trans same⟩

/-- The pairs of which a signature is kept are those of which one has come. -/
theorem exists_kept_iff {pair : Int × Word} :
    (∃ entry ∈ (ofEntries history).kept, identity entry = pair) ↔
      ∃ entry ∈ history, identity entry = pair := by
  constructor
  · rintro ⟨entry, kept, same⟩
    exact ⟨entry, mem_of_kept kept, same⟩
  · rintro ⟨entry, member, same⟩
    rcases exists_kept_of_mem member with ⟨first, kept, alike⟩
    refine ⟨first, kept, same ▸ ?_⟩
    simp only [key, Prod.mk.injEq] at alike
    rw [identity, identity, alike.1, alike.2.1]

/-! ### Answers and counts -/

/-- An answer is about what has come before. -/
theorem getElem?_answers (earlier rest : List (Int × Signature)) (i : Nat) :
    (answers (ofEntries earlier) rest)[i]? =
      rest[i]?.map fun entry => !(ofEntries (earlier ++ rest.take i)).holds entry.1 entry.2 := by
  induction rest generalizing earlier i with
  | nil => rfl
  | cons entry rest ih =>
      cases i with
      | zero => simp [answers, offer]
      | succ i =>
          have next := ih (earlier ++ [entry]) i
          rw [ofEntries_append_singleton, List.append_assoc] at next
          exact next

/-- A tally takes a signature for new exactly if none with its nonce, hash and signer has come. -/
theorem answer_eq {earlier later : List (Int × Signature)} {entry : Int × Signature}
    (split : history = earlier ++ entry :: later) :
    (answers .empty history)[earlier.length]? =
      some (decide (∀ one ∈ earlier, key one ≠ key entry)) := by
  subst split
  have answer := getElem?_answers [] (earlier ++ entry :: later) earlier.length
  rw [List.nil_append, List.take_left, List.getElem?_append_right (Nat.le_refl _), Nat.sub_self]
    at answer
  refine answer.trans (congrArg some ?_)
  rw [Bool.eq_iff_iff, decide_eq_true_iff, Bool.not_eq_true', ← Bool.not_eq_true,
    holds_ofEntries_iff]
  simp

theorem size_ofEntries (history : List (Int × Signature)) :
    (ofEntries history).size = (history.map identity).toFinset.card := by
  have same : (ofEntries history).pairs.toFinset = (history.map identity).toFinset := by
    ext pair
    simp only [pairs, List.mem_toFinset, List.mem_eraseDups, List.mem_map, exists_kept_iff]
  have distinct : (ofEntries history).pairs.Nodup := nodup_eraseDups _
  rw [← same, List.toFinset_card_of_nodup distinct, size]

theorem ascending_identities (t : Tally) : Ascending FixedBytes.toNat t.identities :=
  ascending_sortedDistinct (fun _ _ => FixedBytes.toNat_inj.1) _

theorem mem_identities_ofEntries :
    hash ∈ (ofEntries history).identities ↔ ∃ entry ∈ history, entry.2.txHash = hash := by
  simp only [identities, List.mem_mergeSort, List.mem_eraseDups, List.mem_map]
  constructor
  · rintro ⟨entry, kept, ofHash⟩
    exact ⟨entry, mem_of_kept kept, ofHash⟩
  · rintro ⟨entry, member, rfl⟩
    rcases exists_kept_iff.2 ⟨entry, member, rfl⟩ with ⟨first, kept, same⟩
    exact ⟨first, kept, congrArg Prod.snd same⟩

theorem mem_hashesAt_ofEntries :
    hash ∈ (ofEntries history).hashesAt nonce ↔
      ∃ entry ∈ history, identity entry = (nonce, hash) := by
  rw [mem_hashesAt, ← exists_kept_iff]
  constructor
  · rintro ⟨g, kept, ofHash⟩
    exact ⟨(nonce, g), kept, Prod.ext rfl ofHash⟩
  · rintro ⟨⟨n, g⟩, kept, same⟩
    rcases Prod.mk.inj same with ⟨rfl, ofHash⟩
    exact ⟨g, kept, ofHash⟩

/-! ### The queue -/

section Build

variable {t : Tally} {records : Word → Option Resolution} {group : Contenders} {entry : Candidate}

theorem candidate?_eq_some_iff :
    t.candidate? records nonce hash = some entry ↔
      entry.hash = hash ∧ entry.nonce = nonce ∧
        (records hash).bind Resolution.content? = some entry.transaction ∧
          entry.signatures = t.signatures nonce hash := by
  have unfolded : t.candidate? records nonce hash =
      ((records hash).bind Resolution.content?).map fun transaction =>
        ⟨hash, nonce, transaction, t.signatures nonce hash⟩ := by
    rw [candidate?]
    cases records hash with
    | none => rfl
    | some resolution =>
        rw [Option.bind_some]
        cases content : resolution.content? <;> simp [content]
  rw [unfolded, Option.map_eq_some_iff]
  constructor
  · rintro ⟨transaction, found, rfl⟩
    exact ⟨rfl, rfl, found, rfl⟩
  · rintro ⟨rfl, rfl, found, supported⟩
    refine ⟨entry.transaction, found, ?_⟩
    rw [← supported]

theorem mem_build_iff :
    group ∈ t.build records ↔ group.nonce ∈ t.nonces ∧ group.entries ≠ [] ∧
      group.entries = (t.hashesAt group.nonce).filterMap (t.candidate? records group.nonce) := by
  have called : ∀ nonce, t.contenders? records nonce = some group ↔ group.nonce = nonce ∧
      group.entries ≠ [] ∧
        group.entries = (t.hashesAt nonce).filterMap (t.candidate? records nonce) := by
    intro nonce
    simp only [contenders?]
    generalize (t.hashesAt nonce).filterMap (t.candidate? records nonce) = entries
    cases entries with
    | nil => simp
    | cons first rest =>
        constructor
        · intro same
          cases same
          exact ⟨rfl, List.cons_ne_nil _ _, rfl⟩
        · rintro ⟨rfl, -, same⟩
          rw [List.isEmpty_cons, if_neg Bool.false_ne_true, ← same]
  simp only [build, List.mem_filterMap, called]
  constructor
  · rintro ⟨_, isNonce, rfl, rest⟩
    exact ⟨isNonce, rest⟩
  · rintro ⟨isNonce, rest⟩
    exact ⟨group.nonce, isNonce, rfl, rest⟩

theorem mem_entries_iff (member : group ∈ t.build records) :
    entry ∈ group.entries ↔ entry.hash ∈ t.hashesAt group.nonce ∧ entry.nonce = group.nonce ∧
      (records entry.hash).bind Resolution.content? = some entry.transaction ∧
        entry.signatures = t.signatures group.nonce entry.hash := by
  rw [(mem_build_iff.1 member).2.2, List.mem_filterMap]
  simp only [candidate?_eq_some_iff]
  constructor
  · rintro ⟨_, isHash, rfl, rest⟩
    exact ⟨isHash, rest⟩
  · rintro ⟨isHash, rest⟩
    exact ⟨entry.hash, isHash, rfl, rest⟩

end Build

/-- Whether a record is there, is stored and has a transaction. -/
def IsStored (records : Word → Option Resolution) (hash : Word) (transaction : Transaction) :
    Prop :=
  ∃ resolution, records hash = some resolution ∧ resolution.stored = true ∧
    resolution.transaction = some transaction

theorem isStored_iff {records : Word → Option Resolution} {transaction : Transaction} :
    IsStored records hash transaction ↔
      (records hash).bind Resolution.content? = some transaction := by
  simp only [IsStored, Option.bind_eq_some_iff, Resolution.content?_eq_some_iff]

/-- Whether some groups are the queue of a history joined with records. -/
structure Describes (history : List (Int × Signature)) (records : Word → Option Resolution)
    (groups : List Contenders) : Prop where
  nonces_ascend : Ascending Contenders.nonce groups
  entries_ne_nil : ∀ group ∈ groups, group.entries ≠ []
  hashes_ascend : ∀ group ∈ groups, Ascending (fun entry => entry.hash.toNat) group.entries
  signers_ascend : ∀ group ∈ groups, ∀ entry ∈ group.entries,
    Ascending (fun g => g.signer.toNat) entry.signatures
  /-- There is an entry for exactly the pairs in the history with a stored transaction. -/
  pair_iff : ∀ nonce hash,
    (∃ group ∈ groups, group.nonce = nonce ∧ ∃ entry ∈ group.entries, entry.hash = hash) ↔
      (∃ entry ∈ history, identity entry = (nonce, hash)) ∧
        ∃ transaction, IsStored records hash transaction
  entry_nonce : ∀ group ∈ groups, ∀ entry ∈ group.entries, entry.nonce = group.nonce
  entry_stored : ∀ group ∈ groups, ∀ entry ∈ group.entries,
    IsStored records entry.hash entry.transaction
  signature_iff : ∀ group ∈ groups, ∀ entry ∈ group.entries, ∀ g,
    g ∈ entry.signatures ↔ ComesFirst history group.nonce g ∧ g.txHash = entry.hash

theorem describes_build (history : List (Int × Signature))
    (records : Word → Option Resolution) :
    Describes history records ((ofEntries history).build records) where
  nonces_ascend := by
    have sorted : Ascending (fun n : Int => n) (ofEntries history).nonces :=
      ascending_sortedDistinct (fun _ _ same => same) _
    apply sorted.filterMap
    intro nonce _ group called
    simp only [contenders?] at called
    split at called
    · cases called
    · cases called
      rfl
  entries_ne_nil group member := (mem_build_iff.1 member).2.1
  hashes_ascend group member := by
    have sorted : Ascending FixedBytes.toNat ((ofEntries history).hashesAt group.nonce) :=
      ascending_sortedDistinct (fun _ _ => FixedBytes.toNat_inj.1) _
    rw [(mem_build_iff.1 member).2.2]
    apply sorted.filterMap
    intro hash _ entry called
    rw [(candidate?_eq_some_iff.1 called).1]
  signers_ascend group member entry isEntry := by
    rw [((mem_entries_iff member).1 isEntry).2.2.2]
    exact ascending_signatures history group.nonce entry.hash
  pair_iff nonce hash := by
    constructor
    · rintro ⟨group, member, rfl, entry, isEntry, rfl⟩
      rcases (mem_entries_iff member).1 isEntry with ⟨isHash, -, stored, -⟩
      exact ⟨mem_hashesAt_ofEntries.1 isHash, entry.transaction, isStored_iff.2 stored⟩
    · rintro ⟨come, transaction, stored⟩
      have isHash := mem_hashesAt_ofEntries.2 come
      let entry : Candidate := ⟨hash, nonce, transaction, (ofEntries history).signatures nonce hash⟩
      have isEntry : entry ∈ ((ofEntries history).hashesAt nonce).filterMap
          ((ofEntries history).candidate? records nonce) :=
        List.mem_filterMap.2 ⟨hash, isHash,
          candidate?_eq_some_iff.2 ⟨rfl, rfl, isStored_iff.1 stored, rfl⟩⟩
      rcases mem_hashesAt.1 isHash with ⟨g, kept, -⟩
      exact ⟨⟨nonce, _⟩, mem_build_iff.2 ⟨mem_nonces.2 ⟨g, kept⟩, List.ne_nil_of_mem isEntry, rfl⟩,
        rfl, entry, isEntry, rfl⟩
  entry_nonce group member entry isEntry := ((mem_entries_iff member).1 isEntry).2.1
  entry_stored group member entry isEntry :=
    isStored_iff.2 ((mem_entries_iff member).1 isEntry).2.2.1
  signature_iff group member entry isEntry g := by
    rw [((mem_entries_iff member).1 isEntry).2.2.2, mem_signatures, mem_kept_iff_comesFirst]

/-- A pair is in a history exactly if some signature comes first for it. -/
theorem exists_comesFirst_iff :
    (∃ entry ∈ history, identity entry = (nonce, hash)) ↔
      ∃ g, ComesFirst history nonce g ∧ g.txHash = hash := by
  simp only [← mem_hashesAt_ofEntries, mem_hashesAt, mem_kept_iff_comesFirst]

namespace Describes

variable {records : Word → Option Resolution} {groups others : List Contenders}
  {group opposite : Contenders}

/-- Histories with the same first signatures have entries for the same pairs. -/
theorem pair_congr (ofGroups : Describes history records groups)
    (ofOthers : Describes other records others)
    (same : ∀ nonce g, ComesFirst history nonce g ↔ ComesFirst other nonce g) (nonce : Int)
    (hash : Word) :
    (∃ group ∈ groups, group.nonce = nonce ∧ ∃ entry ∈ group.entries, entry.hash = hash) ↔
      ∃ group ∈ others, group.nonce = nonce ∧ ∃ entry ∈ group.entries, entry.hash = hash := by
  rw [ofGroups.pair_iff, ofOthers.pair_iff, exists_comesFirst_iff, exists_comesFirst_iff]
  simp only [same]

/-- Entries for one pair are the same. -/
theorem entry_eq (ofGroups : Describes history records groups)
    (ofOthers : Describes other records others)
    (same : ∀ nonce g, ComesFirst history nonce g ↔ ComesFirst other nonce g)
    (member : group ∈ groups) (memberOpposite : opposite ∈ others)
    (sameNonce : group.nonce = opposite.nonce) {entry twin : Candidate}
    (isEntry : entry ∈ group.entries) (isTwin : twin ∈ opposite.entries)
    (sameHash : entry.hash = twin.hash) : entry = twin := by
  have nonce : entry.nonce = twin.nonce := by
    rw [ofGroups.entry_nonce group member entry isEntry, sameNonce,
      ofOthers.entry_nonce opposite memberOpposite twin isTwin]
  have transaction : entry.transaction = twin.transaction := by
    have stored := isStored_iff.1 (ofGroups.entry_stored group member entry isEntry)
    rw [sameHash, isStored_iff.1 (ofOthers.entry_stored opposite memberOpposite twin isTwin)]
      at stored
    exact (Option.some.inj stored).symm
  have signatures : entry.signatures = twin.signatures := by
    apply (ofGroups.signers_ascend group member entry isEntry).ext
      (ofOthers.signers_ascend opposite memberOpposite twin isTwin)
    intro g
    rw [ofGroups.signature_iff group member entry isEntry,
      ofOthers.signature_iff opposite memberOpposite twin isTwin, same, sameNonce, sameHash]
  cases entry
  cases twin
  cases sameHash
  cases nonce
  cases transaction
  cases signatures
  rfl

theorem entry_mem (ofGroups : Describes history records groups)
    (ofOthers : Describes other records others)
    (same : ∀ nonce g, ComesFirst history nonce g ↔ ComesFirst other nonce g)
    (member : group ∈ groups) (memberOpposite : opposite ∈ others)
    (sameNonce : group.nonce = opposite.nonce) {entry : Candidate}
    (isEntry : entry ∈ group.entries) : entry ∈ opposite.entries := by
  have shown := (ofGroups.pair_congr ofOthers same group.nonce entry.hash).1
    ⟨group, member, rfl, entry, isEntry, rfl⟩
  rcases shown with ⟨third, memberThird, ofNonce, twin, isTwin, ofHash⟩
  -- No other group has this nonce, so the entry is where it is looked for.
  have sameGroup : third = opposite := ofOthers.nonces_ascend.eq_of_key_eq memberThird
    memberOpposite (ofNonce.trans sameNonce)
  subst sameGroup
  rw [ofGroups.entry_eq ofOthers same member memberThird sameNonce isEntry isTwin ofHash.symm]
  exact isTwin

theorem group_mem (ofGroups : Describes history records groups)
    (ofOthers : Describes other records others)
    (same : ∀ nonce g, ComesFirst history nonce g ↔ ComesFirst other nonce g)
    (member : group ∈ groups) : group ∈ others := by
  rcases List.exists_mem_of_ne_nil _ (ofGroups.entries_ne_nil group member) with ⟨entry, isEntry⟩
  have shown := (ofGroups.pair_congr ofOthers same group.nonce entry.hash).1
    ⟨group, member, rfl, entry, isEntry, rfl⟩
  rcases shown with ⟨opposite, memberOpposite, sameNonce, -⟩
  have back : ∀ nonce g, ComesFirst other nonce g ↔ ComesFirst history nonce g :=
    fun nonce g => (same nonce g).symm
  have entries : group.entries = opposite.entries := by
    apply (ofGroups.hashes_ascend group member).ext
      (ofOthers.hashes_ascend opposite memberOpposite)
    intro entry
    constructor
    · exact ofGroups.entry_mem ofOthers same member memberOpposite sameNonce.symm
    · exact ofOthers.entry_mem ofGroups back memberOpposite member sameNonce
  have sameGroup : group = opposite := by
    cases group
    cases opposite
    cases sameNonce
    cases entries
    rfl
  rw [sameGroup]
  exact memberOpposite

/-- There is one queue of a history, and histories with the same first signatures share it. -/
theorem unique (ofGroups : Describes history records groups)
    (ofOthers : Describes other records others)
    (same : ∀ nonce g, ComesFirst history nonce g ↔ ComesFirst other nonce g) :
    groups = others := by
  apply ofGroups.nonces_ascend.ext ofOthers.nonces_ascend
  intro group
  constructor
  · exact ofGroups.group_mem ofOthers same
  · exact ofOthers.group_mem ofGroups fun nonce g => (same nonce g).symm

end Describes

/-- A tally keeps of every history what comes first: it takes exactly this for new, it counts the
distinct pairs and lists the distinct hashes in order, and what it builds is the queue of the
history; so histories with the same first signatures build the same. -/
theorem ofEntries_firstWins (history : List (Int × Signature)) :
    (∀ earlier entry later, history = earlier ++ entry :: later →
      (answers .empty history)[earlier.length]? =
        some (decide (∀ one ∈ earlier, key one ≠ key entry))) ∧
    (ofEntries history).size = (history.map identity).toFinset.card ∧
    Ascending FixedBytes.toNat (ofEntries history).identities ∧
    (∀ hash, hash ∈ (ofEntries history).identities ↔ ∃ entry ∈ history, entry.2.txHash = hash) ∧
    (∀ records, Describes history records ((ofEntries history).build records)) ∧
    ∀ other, (∀ nonce g, ComesFirst history nonce g ↔ ComesFirst other nonce g) →
      ∀ records, (ofEntries history).build records = (ofEntries other).build records := by
  refine ⟨?answers, size_ofEntries history, ascending_identities _, ?identities,
    describes_build history, ?firsts⟩
  case answers =>
    intro earlier entry later split
    exact answer_eq split
  case identities =>
    intro hash
    exact mem_identities_ofEntries
  case firsts =>
    intro other same records
    exact (describes_build history records).unique (describes_build other records) same

/-- A signature with a number for each of its parts. -/
def sampleSignature (r hash signer : Nat) : Signature :=
  { r := .ofNat 32 r, vs := .ofNat 32 0, txHash := .ofNat 32 hash, signer := .ofNat signer }

/-- Signatures that first come for one pair, and one that comes between them. -/
def sampleFirsts : List (Int × Signature) :=
  [(1, sampleSignature 5 9 3), (0, sampleSignature 6 8 3), (1, sampleSignature 7 9 2)]

/-- The same with the first signer once more, in other words. -/
def sampleHistory : List (Int × Signature) :=
  [(1, sampleSignature 5 9 3), (0, sampleSignature 6 8 3), (1, sampleSignature 4 9 3),
    (1, sampleSignature 7 9 2)]

/-- The third signature is not new, there are two pairs, and the queue is that of the firsts. -/
theorem ofEntries_firstWins_sample :
    (answers .empty sampleHistory)[2]? = some false ∧ (ofEntries sampleHistory).size = 2 ∧
      FixedBytes.ofNat 32 8 ∈ (ofEntries sampleHistory).identities ∧
        ∀ records, Describes sampleHistory records ((ofEntries sampleFirsts).build records) := by
  rcases ofEntries_firstWins sampleHistory with
    ⟨answered, sized, -, listed, described, shared⟩
  have isOld := answered [(1, sampleSignature 5 9 3), (0, sampleSignature 6 8 3)]
    (1, sampleSignature 4 9 3) [(1, sampleSignature 7 9 2)] rfl
  have sameFirsts : ∀ nonce g,
      ComesFirst sampleHistory nonce g ↔ ComesFirst sampleFirsts nonce g := by
    have kept : (ofEntries sampleHistory).kept = (ofEntries sampleFirsts).kept := by decide
    intro nonce g
    rw [← mem_kept_iff_comesFirst, kept, mem_kept_iff_comesFirst]
  refine ⟨isOld.trans (by decide), sized.trans (by decide), ?_, ?_⟩
  · rw [listed]
    exact ⟨(0, sampleSignature 6 8 3), by decide, rfl⟩
  · intro records
    rw [← shared sampleFirsts sameFirsts records]
    exact described records

end Tally

end MultisigQueue
