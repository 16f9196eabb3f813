/-
Module: MultisigQueue.Proofs.Queue.Holdings
Purpose: The queue that a store's holdings call for, said without pages, batches or tallies.
Main exports:
  Holdings, Holdings.queue, Holdings.Extends, Covers, Holdings.WellOrdered, Holdings.queue_covers,
  Holdings.wellOrdered_queue
-/
import Mathlib.Data.List.Basic
import MultisigQueue.Proofs.Ascending
import MultisigQueue.Queue.Tally

namespace MultisigQueue

/-!
Seen from one Safe on one chain, a store is a list of signatures for each signer and nonce, and a
transaction for some hashes. The queue of some owners and nonces is a function of these alone. When
a store only ever appends, what its queue shows stays in the queue.
-/

/-- What a store holds about one Safe on one chain. -/
structure Holdings where
  /-- The list of a signer for a nonce. -/
  list : Address → Int → List StoredSignature
  /-- The transaction held under a hash. -/
  content : Word → Option Transaction

namespace Holdings

variable (s : Holdings) (owners : List Address)

/-- Everything that the owners have filed for a nonce. -/
def filed (nonce : Int) : List StoredSignature := owners.flatMap fun owner => s.list owner nonce

/-- The hashes that some owner has signed for a nonce, in ascending order. -/
def hashes (nonce : Int) : List Word :=
  ((s.filed owners nonce).map StoredSignature.txHash).eraseDups.mergeSort
    fun a b => a.toNat ≤ b.toNat

/-- The first signature in an owner's list for a hash. -/
def support? (nonce : Int) (hash : Word) (owner : Address) : Option Signature :=
  ((s.list owner nonce).find? fun g => g.txHash = hash).map fun g => g.by owner

/-- The signatures for a hash: the first one of each owner, in ascending order of the owners. -/
def supporters (nonce : Int) (hash : Word) : List Signature :=
  (owners.eraseDups.mergeSort fun a b => a.toNat ≤ b.toNat).filterMap (s.support? nonce hash)

/-- The candidate of a hash at a nonce, if a transaction is held under the hash. -/
def candidate? (nonce : Int) (hash : Word) : Option Candidate :=
  (s.content hash).map fun transaction =>
    { hash, nonce, transaction, signatures := s.supporters owners nonce hash }

/-- The candidates for a nonce, if there are any. -/
def contenders? (nonce : Int) : Option Contenders :=
  let entries := (s.hashes owners nonce).filterMap (s.candidate? owners nonce)
  if entries.isEmpty then none else some { nonce, entries }

/-- The queue of some owners for some nonces. -/
def queue (nonces : List Int) : List Contenders := nonces.filterMap (s.contenders? owners)

end Holdings

/-- Whether everything that one queue shows is shown by another under the same nonce and hash, with
the same transaction and at least the same signatures. -/
def Covers (wider narrower : List Contenders) : Prop :=
  ∀ group ∈ narrower, ∀ entry ∈ group.entries,
    ∃ other ∈ wider, other.nonce = group.nonce ∧
      ∃ counterpart ∈ other.entries,
        counterpart.hash = entry.hash ∧ counterpart.nonce = entry.nonce ∧
          counterpart.transaction = entry.transaction ∧
            ∀ g ∈ entry.signatures, g ∈ counterpart.signatures

/-- What every queue of some owners for some nonces keeps to. -/
structure WellOrdered (owners : List Address) (nonces : List Int) (groups : List Contenders) :
    Prop where
  nonces_ascend : Ascending Contenders.nonce groups
  nonce_mem : ∀ group ∈ groups, group.nonce ∈ nonces
  entries_ne_nil : ∀ group ∈ groups, group.entries ≠ []
  hashes_ascend : ∀ group ∈ groups, Ascending (fun entry => entry.hash.toNat) group.entries
  entry_nonce : ∀ group ∈ groups, ∀ entry ∈ group.entries, entry.nonce = group.nonce
  signatures_ne_nil : ∀ group ∈ groups, ∀ entry ∈ group.entries, entry.signatures ≠ []
  signers_ascend : ∀ group ∈ groups, ∀ entry ∈ group.entries,
    Ascending (fun g => g.signer.toNat) entry.signatures
  signer_mem : ∀ group ∈ groups, ∀ entry ∈ group.entries, ∀ g ∈ entry.signatures,
    g.signer ∈ owners
  signature_hash : ∀ group ∈ groups, ∀ entry ∈ group.entries, ∀ g ∈ entry.signatures,
    g.txHash = entry.hash

namespace WellOrdered

variable {owners : List Address} {nonces : List Int} {groups : List Contenders}

/-- No candidate has more signatures than there are distinct owners. -/
theorem length_signatures_le (ordered : WellOrdered owners nonces groups)
    {group : Contenders} (member : group ∈ groups) {entry : Candidate}
    (shown : entry ∈ group.entries) : entry.signatures.length ≤ owners.eraseDups.length := by
  have distinct : (entry.signatures.map Signature.signer).Nodup := by
    refine List.pairwise_map.2 ((ordered.signers_ascend group member entry shown).imp ?_)
    intro a b below same
    exact Nat.ne_of_lt below (congrArg FixedBytes.toNat same)
  have within : entry.signatures.map Signature.signer ⊆ owners.eraseDups := by
    intro signer signs
    obtain ⟨g, holds, rfl⟩ := List.mem_map.1 signs
    exact List.mem_eraseDups.2 (ordered.signer_mem group member entry shown g holds)
  simpa using distinct.length_le_of_subset within

end WellOrdered

namespace Holdings

variable {s later : Holdings} {owners : List Address} {nonces : List Int} {nonce : Int}
  {hash : Word}

theorem mem_filed {g : StoredSignature} :
    g ∈ s.filed owners nonce ↔ ∃ owner ∈ owners, g ∈ s.list owner nonce := List.mem_flatMap

theorem mem_hashes :
    hash ∈ s.hashes owners nonce ↔ ∃ g ∈ s.filed owners nonce, g.txHash = hash := by
  simp [hashes, List.mem_eraseDups]

theorem ascending_hashes (s : Holdings) (owners : List Address) (nonce : Int) :
    Ascending FixedBytes.toNat (s.hashes owners nonce) :=
  ascending_sortedDistinct (fun _ _ => FixedBytes.toNat_inj.1) _

/-- The signature of an owner for a hash is by this owner and for this hash. -/
theorem eq_of_support? {owner : Address} {g : Signature}
    (supports : s.support? nonce hash owner = some g) : g.signer = owner ∧ g.txHash = hash := by
  obtain ⟨stored, found, rfl⟩ := Option.map_eq_some_iff.1 supports
  have ofHash : stored.txHash = hash := by simpa using List.find?_some found
  exact ⟨rfl, ofHash⟩

theorem mem_supporters {g : Signature} :
    g ∈ s.supporters owners nonce hash ↔
      g.signer ∈ owners ∧ s.support? nonce hash g.signer = some g := by
  simp only [supporters, List.mem_filterMap, List.mem_mergeSort, List.mem_eraseDups]
  constructor
  · rintro ⟨owner, member, supports⟩
    rw [(eq_of_support? supports).1]
    exact ⟨member, supports⟩
  · rintro ⟨member, supports⟩
    exact ⟨g.signer, member, supports⟩

theorem ascending_supporters (s : Holdings) (owners : List Address) (nonce : Int) (hash : Word) :
    Ascending (fun g => g.signer.toNat) (s.supporters owners nonce hash) := by
  refine (ascending_sortedDistinct (fun _ _ => FixedBytes.toNat_inj.1) owners).filterMap ?_
  intro owner _ g supports
  rw [(eq_of_support? supports).1]

/-- A hash that some owner has signed has a supporter. -/
theorem supporters_ne_nil (signed : hash ∈ s.hashes owners nonce) :
    s.supporters owners nonce hash ≠ [] := by
  obtain ⟨g, isFiled, ofHash⟩ := mem_hashes.1 signed
  obtain ⟨owner, member, listed⟩ := mem_filed.1 isFiled
  have found : ((s.list owner nonce).find? fun g => g.txHash = hash).isSome := by
    rw [List.find?_isSome]
    exact ⟨g, listed, by simpa using ofHash⟩
  obtain ⟨first, isFirst⟩ := Option.isSome_iff_exists.1 found
  have supports : s.support? nonce hash owner = some (first.by owner) := by
    simp [support?, isFirst]
  have signs : first.by owner ∈ s.supporters owners nonce hash :=
    mem_supporters.2 ⟨member, supports⟩
  exact List.ne_nil_of_mem signs

theorem mem_contenders? {group : Contenders} :
    s.contenders? owners nonce = some group ↔
      group.nonce = nonce ∧ group.entries ≠ [] ∧
        group.entries = (s.hashes owners nonce).filterMap (s.candidate? owners nonce) := by
  simp only [contenders?]
  split
  · rename_i none
    rw [List.isEmpty_iff] at none
    simp only [reduceCtorEq, false_iff]
    rintro ⟨-, some, same⟩
    exact some (same.trans none)
  · rename_i some
    rw [List.isEmpty_iff] at some
    rcases group with ⟨number, entries⟩
    simp only [Option.some.injEq, Contenders.mk.injEq]
    constructor
    · rintro ⟨rfl, rfl⟩
      exact ⟨rfl, some, rfl⟩
    · rintro ⟨rfl, -, rfl⟩
      exact ⟨rfl, rfl⟩

/-- A candidate is shown exactly if some owner has signed its hash, and the rest of it is what the
store holds. -/
theorem mem_entries {entry : Candidate} :
    entry ∈ (s.hashes owners nonce).filterMap (s.candidate? owners nonce) ↔
      entry.hash ∈ s.hashes owners nonce ∧ entry.nonce = nonce ∧
        s.content entry.hash = some entry.transaction ∧
          entry.signatures = s.supporters owners nonce entry.hash := by
  simp only [List.mem_filterMap, candidate?, Option.map_eq_some_iff]
  constructor
  · rintro ⟨hash, signed, transaction, held, rfl⟩
    exact ⟨signed, rfl, held, rfl⟩
  · rintro ⟨signed, rfl, held, supported⟩
    exact ⟨entry.hash, signed, entry.transaction, held, by rw [← supported]⟩

/-- A group is in a queue exactly if it is for one of the nonces and has the candidates for it, of
which there has to be one. -/
theorem mem_queue {group : Contenders} :
    group ∈ s.queue owners nonces ↔
      group.nonce ∈ nonces ∧ group.entries ≠ [] ∧
        group.entries =
          (s.hashes owners group.nonce).filterMap (s.candidate? owners group.nonce) := by
  simp only [queue, List.mem_filterMap, mem_contenders?]
  constructor
  · rintro ⟨nonce, isAsked, rfl, some, same⟩
    exact ⟨isAsked, some, same⟩
  · rintro ⟨isAsked, some, same⟩
    exact ⟨group.nonce, isAsked, rfl, some, same⟩

/-- A group has an entry for exactly the hashes that some owner has signed for its nonce and under
which something is held; it carries what is held, and the first signature of each owner. -/
theorem mem_group_iff {group : Contenders} (member : group ∈ s.queue owners nonces)
    {entry : Candidate} :
    entry ∈ group.entries ↔
      entry.hash ∈ s.hashes owners group.nonce ∧ entry.nonce = group.nonce ∧
        s.content entry.hash = some entry.transaction ∧
          entry.signatures = s.supporters owners group.nonce entry.hash := by
  rw [(mem_queue.1 member).2.2, mem_entries]

/-- A nonce has a group exactly if the list of some owner for it has a signature for a hash under
which something is held. -/
theorem exists_group_iff :
    (∃ group ∈ s.queue owners nonces, group.nonce = nonce) ↔
      nonce ∈ nonces ∧ ∃ owner ∈ owners, ∃ g ∈ s.list owner nonce, (s.content g.txHash).isSome := by
  constructor
  · rintro ⟨group, member, rfl⟩
    obtain ⟨isAsked, some, -⟩ := mem_queue.1 member
    obtain ⟨entry, isEntry⟩ := List.exists_mem_of_ne_nil _ some
    obtain ⟨signed, -, held, -⟩ := (mem_group_iff member).1 isEntry
    obtain ⟨g, isFiled, ofHash⟩ := mem_hashes.1 signed
    obtain ⟨owner, isOwner, listed⟩ := mem_filed.1 isFiled
    exact ⟨isAsked, owner, isOwner, g, listed, by rw [ofHash, held]; rfl⟩
  · rintro ⟨isAsked, owner, isOwner, g, listed, held⟩
    obtain ⟨transaction, held⟩ := Option.isSome_iff_exists.1 held
    have signed : g.txHash ∈ s.hashes owners nonce :=
      mem_hashes.2 ⟨g, mem_filed.2 ⟨owner, isOwner, listed⟩, rfl⟩
    let entry : Candidate := ⟨g.txHash, nonce, transaction, s.supporters owners nonce g.txHash⟩
    have isEntry : entry ∈ (s.hashes owners nonce).filterMap (s.candidate? owners nonce) :=
      mem_entries.2 ⟨signed, rfl, held, rfl⟩
    exact ⟨⟨nonce, _⟩, mem_queue.2 ⟨isAsked, List.ne_nil_of_mem isEntry, rfl⟩, rfl⟩

/-- Without owners there is nothing in a queue. -/
theorem queue_nil (s : Holdings) (nonces : List Int) : s.queue [] nonces = [] := by
  refine List.filterMap_eq_nil_iff.2 ?_
  intro nonce _
  simp [contenders?, hashes, filed]

/-- The queue of ascending nonces keeps to the order of queues. -/
theorem wellOrdered_queue (s : Holdings) (owners : List Address)
    (ascends : Ascending (fun n : Int => n) nonces) :
    WellOrdered owners nonces (s.queue owners nonces) := by
  constructor
  case nonces_ascend =>
    refine ascends.filterMap ?_
    intro nonce _ group called
    exact (mem_contenders?.1 called).1
  case nonce_mem => exact fun group member => (mem_queue.1 member).1
  case entries_ne_nil => exact fun group member => (mem_queue.1 member).2.1
  case hashes_ascend =>
    intro group member
    rw [(mem_queue.1 member).2.2]
    refine (ascending_hashes s owners group.nonce).filterMap ?_
    intro hash _ entry called
    obtain ⟨_, _, rfl⟩ := Option.map_eq_some_iff.1 called
    rfl
  case entry_nonce =>
    intro group member entry isEntry
    exact ((mem_group_iff member).1 isEntry).2.1
  case signatures_ne_nil =>
    intro group member entry isEntry
    obtain ⟨signed, -, -, supported⟩ := (mem_group_iff member).1 isEntry
    rw [supported]
    exact supporters_ne_nil signed
  case signers_ascend =>
    intro group member entry isEntry
    rw [((mem_group_iff member).1 isEntry).2.2.2]
    exact ascending_supporters s owners group.nonce entry.hash
  case signer_mem =>
    intro group member entry isEntry g signs
    rw [((mem_group_iff member).1 isEntry).2.2.2] at signs
    exact (mem_supporters.1 signs).1
  case signature_hash =>
    intro group member entry isEntry g signs
    rw [((mem_group_iff member).1 isEntry).2.2.2] at signs
    exact (eq_of_support? (mem_supporters.1 signs).2).2

/-- A queue depends only on the lists asked for, and on what is held under the hashes in them. -/
theorem queue_congr {t : Holdings}
    (lists : ∀ owner ∈ owners, ∀ nonce ∈ nonces, s.list owner nonce = t.list owner nonce)
    (contents : ∀ nonce ∈ nonces, ∀ hash ∈ s.hashes owners nonce, s.content hash = t.content hash) :
    s.queue owners nonces = t.queue owners nonces := by
  refine List.filterMap_congr ?_
  intro nonce asked
  have filed : s.filed owners nonce = t.filed owners nonce :=
    List.flatMap_congr fun owner member => lists owner member nonce asked
  have supporters : ∀ hash, s.supporters owners nonce hash = t.supporters owners nonce hash := by
    intro hash
    refine List.filterMap_congr ?_
    intro owner member
    rw [List.mem_mergeSort, List.mem_eraseDups] at member
    simp only [support?, lists owner member nonce asked]
  have hashes : s.hashes owners nonce = t.hashes owners nonce := by
    simp only [Holdings.hashes, filed]
  have entries : (s.hashes owners nonce).filterMap (s.candidate? owners nonce) =
      (t.hashes owners nonce).filterMap (t.candidate? owners nonce) := by
    rw [← hashes]
    refine List.filterMap_congr ?_
    intro hash signed
    simp only [candidate?, contents nonce asked hash signed, supporters]
  simp only [contenders?, entries]

/-! ### Growth -/

/-- A store that has only appended to its lists, and kept what it holds under each hash. -/
structure Extends (s later : Holdings) : Prop where
  list : ∀ owner nonce, s.list owner nonce <+: later.list owner nonce
  content : ∀ hash transaction, s.content hash = some transaction →
    later.content hash = some transaction

namespace Extends

theorem refl (s : Holdings) : s.Extends s :=
  ⟨fun _ _ => List.prefix_refl _, fun _ _ held => held⟩

theorem trans {last : Holdings} (first : s.Extends later) (second : later.Extends last) :
    s.Extends last :=
  ⟨fun owner nonce => (first.list owner nonce).trans (second.list owner nonce),
    fun hash transaction held =>
      second.content hash transaction (first.content hash transaction held)⟩

/-- Stores that extend each other hold the same. -/
theorem antisymm (forth : s.Extends later) (back : later.Extends s) : s = later := by
  rcases s with ⟨list, content⟩
  rcases later with ⟨otherList, otherContent⟩
  congr 1
  · funext owner nonce
    exact (forth.list owner nonce).eq_of_length_le (back.list owner nonce).length_le
  · funext hash
    cases held : content hash with
    | some transaction => exact (forth.content hash transaction held).symm
    | none =>
        cases alsoHeld : otherContent hash with
        | none => rfl
        | some transaction =>
            have := back.content hash transaction alsoHeld
            simp only at this
            rw [held] at this
            cases this

/-- The first signature of an owner for a hash stays the first one. -/
theorem support? (grows : s.Extends later) {owner : Address} {g : Signature}
    (supports : s.support? nonce hash owner = some g) :
    later.support? nonce hash owner = some g := by
  obtain ⟨stored, found, rfl⟩ := Option.map_eq_some_iff.1 supports
  obtain ⟨rest, longer⟩ := grows.list owner nonce
  rw [Holdings.support?, ← longer, List.find?_append, found]
  rfl

theorem hashes (grows : s.Extends later) (signed : hash ∈ s.hashes owners nonce) :
    hash ∈ later.hashes owners nonce := by
  obtain ⟨g, isFiled, ofHash⟩ := mem_hashes.1 signed
  obtain ⟨owner, member, listed⟩ := mem_filed.1 isFiled
  have stillListed := (grows.list owner nonce).subset listed
  exact mem_hashes.2 ⟨g, mem_filed.2 ⟨owner, member, stillListed⟩, ofHash⟩

end Extends

/-- What the queue of a store shows, the queue of the grown store shows too. -/
theorem queue_covers (grows : s.Extends later) (owners : List Address) (nonces : List Int) :
    Covers (later.queue owners nonces) (s.queue owners nonces) := by
  intro group member entry isEntry
  obtain ⟨signed, ofNonce, held, supported⟩ := (mem_group_iff member).1 isEntry
  let counterpart : Candidate :=
    { entry with signatures := later.supporters owners group.nonce entry.hash }
  let entries := (later.hashes owners group.nonce).filterMap (later.candidate? owners group.nonce)
  have isCounterpart : counterpart ∈ entries :=
    mem_entries.2 ⟨grows.hashes signed, ofNonce, grows.content _ _ held, rfl⟩
  have isGroup : ⟨group.nonce, entries⟩ ∈ later.queue owners nonces :=
    mem_queue.2 ⟨(mem_queue.1 member).1, List.ne_nil_of_mem isCounterpart, rfl⟩
  refine ⟨_, isGroup, rfl, counterpart, isCounterpart, rfl, rfl, rfl, ?_⟩
  intro g signs
  rw [supported] at signs
  obtain ⟨isOwner, supports⟩ := mem_supporters.1 signs
  exact mem_supporters.2 ⟨isOwner, grows.support? supports⟩

/-! ### Patches -/

/-- Holdings in which the lists of some owners and nonces, and what is under some hashes, are as in
others. -/
def patch (s part : Holdings) (owners : List Address) (nonces : List Int) (hashes : List Word) :
    Holdings where
  list owner nonce :=
    if owners.contains owner && nonces.contains nonce then part.list owner nonce
    else s.list owner nonce
  content hash := if hashes.contains hash then part.content hash else s.content hash

section Patch

variable {part : Holdings} {hashes : List Word} {owner : Address}

theorem list_patch_of_mem (isAsked : owner ∈ owners ∧ nonce ∈ nonces) :
    (s.patch part owners nonces hashes).list owner nonce = part.list owner nonce := by
  simp [patch, isAsked]

theorem list_patch_of_not_mem (notAsked : ¬(owner ∈ owners ∧ nonce ∈ nonces)) :
    (s.patch part owners nonces hashes).list owner nonce = s.list owner nonce := by
  simp [patch, notAsked]

theorem content_patch_of_mem (isAsked : hash ∈ hashes) :
    (s.patch part owners nonces hashes).content hash = part.content hash := by
  simp [patch, isAsked]

theorem content_patch_of_not_mem (notAsked : hash ∉ hashes) :
    (s.patch part owners nonces hashes).content hash = s.content hash := by
  simp [patch, notAsked]

/-- Holdings are extended by a patch that extends them in its place. -/
theorem extends_patch
    (lists : ∀ owner ∈ owners, ∀ nonce ∈ nonces, s.list owner nonce <+: part.list owner nonce)
    (contents : ∀ hash ∈ hashes, ∀ transaction, s.content hash = some transaction →
      part.content hash = some transaction) : s.Extends (s.patch part owners nonces hashes) := by
  refine ⟨?_, ?_⟩
  · intro owner nonce
    by_cases isAsked : owner ∈ owners ∧ nonce ∈ nonces
    · rw [list_patch_of_mem isAsked]
      exact lists owner isAsked.1 nonce isAsked.2
    · exact ⟨[], by rw [list_patch_of_not_mem isAsked, List.append_nil]⟩
  · intro hash transaction held
    by_cases isAsked : hash ∈ hashes
    · rw [content_patch_of_mem isAsked]
      exact contents hash isAsked transaction held
    · rw [content_patch_of_not_mem isAsked]
      exact held

/-- What extends holdings extends a patch of them too, if it extends the patch in its place. -/
theorem Extends.of_patch (grows : s.Extends later)
    (lists : ∀ owner ∈ owners, ∀ nonce ∈ nonces, part.list owner nonce <+: later.list owner nonce)
    (contents : ∀ hash ∈ hashes, ∀ transaction, part.content hash = some transaction →
      later.content hash = some transaction) :
    (s.patch part owners nonces hashes).Extends later := by
  refine ⟨?_, ?_⟩
  · intro owner nonce
    by_cases isAsked : owner ∈ owners ∧ nonce ∈ nonces
    · rw [list_patch_of_mem isAsked]
      exact lists owner isAsked.1 nonce isAsked.2
    · rw [list_patch_of_not_mem isAsked]
      exact grows.list owner nonce
  · intro hash transaction held
    by_cases isAsked : hash ∈ hashes
    · rw [content_patch_of_mem isAsked] at held
      exact contents hash isAsked transaction held
    · rw [content_patch_of_not_mem isAsked] at held
      exact grows.content hash transaction held

/-- The queue of a patch is that of the other holdings, if it has all that this queue asks for. -/
theorem queue_patch
    (asked : ∀ nonce ∈ nonces, ∀ hash ∈ part.hashes owners nonce, hash ∈ hashes) :
    (s.patch part owners nonces hashes).queue owners nonces = part.queue owners nonces := by
  refine (queue_congr ?_ ?_).symm
  · intro owner isOwner nonce isAsked
    exact (list_patch_of_mem ⟨isOwner, isAsked⟩).symm
  · intro nonce isAsked hash isSigned
    exact (content_patch_of_mem (asked nonce isAsked hash isSigned)).symm

end Patch

end Holdings

end MultisigQueue
