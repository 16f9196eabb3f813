/-
Module: MultisigQueue.Proofs.Queue.Extensionality
Purpose: Who supports what, and what is held, determine a queue.
Main exports:
  Holdings.mem_hashes_iff, Holdings.queue_ext, Holdings.shows_queue_iff, Holdings.queue_sameOwners,
  Holdings.bare, Holdings.queue_bare, Holdings.queue_bare_congr
-/
import MultisigQueue.Proofs.Queue.Holdings

namespace MultisigQueue

/-!
Two queues are equal as soon as they have the same supporters for every hash and nonce, and the same
transactions: nothing else of the holdings shows, and neither do the order and the repetitions in
the list of owners. If the words of signatures are left out of account, the queue does not even show
the order of the lists.
-/

/-- Whether a queue shows a signature as one for a hash and a nonce. -/
def Contenders.Shows (groups : List Contenders) (nonce : Int) (hash : Word) (g : Signature) :
    Prop :=
  ∃ group ∈ groups, group.nonce = nonce ∧ ∃ entry ∈ group.entries, entry.hash = hash ∧
    g ∈ entry.signatures

namespace Holdings

variable {s t : Holdings} {owners others : List Address} {nonces : List Int} {nonce : Int}
  {hash : Word}

/-- A hash is signed exactly if it has a supporter. -/
theorem mem_hashes_iff :
    hash ∈ s.hashes owners nonce ↔ ∃ g, g ∈ s.supporters owners nonce hash := by
  constructor
  · exact fun signed => List.exists_mem_of_ne_nil _ (supporters_ne_nil signed)
  · rintro ⟨g, supports⟩
    obtain ⟨isOwner, first⟩ := mem_supporters.1 supports
    obtain ⟨stored, found, -⟩ := Option.map_eq_some_iff.1 first
    have ofHash : stored.txHash = hash := by simpa using List.find?_some found
    exact mem_hashes.2 ⟨stored, mem_filed.2 ⟨_, isOwner, List.mem_of_find?_eq_some found⟩, ofHash⟩

/-- Holdings with the same supporters, and the same transactions under the hashes that have some,
make the same queue. -/
theorem queue_ext
    (support : ∀ nonce ∈ nonces, ∀ hash g,
      g ∈ s.supporters owners nonce hash ↔ g ∈ t.supporters others nonce hash)
    (contents : ∀ nonce ∈ nonces, ∀ hash ∈ s.hashes owners nonce, s.content hash = t.content hash) :
    s.queue owners nonces = t.queue others nonces := by
  refine List.filterMap_congr ?_
  intro nonce isAsked
  have hashes : s.hashes owners nonce = t.hashes others nonce := by
    refine (ascending_hashes s owners nonce).ext (ascending_hashes t others nonce) ?_
    intro hash
    simp only [mem_hashes_iff, support nonce isAsked hash]
  have supporters : ∀ hash, s.supporters owners nonce hash = t.supporters others nonce hash := by
    intro hash
    exact (ascending_supporters s owners nonce hash).ext (ascending_supporters t others nonce hash)
      (support nonce isAsked hash)
  have entries : (s.hashes owners nonce).filterMap (s.candidate? owners nonce) =
      (t.hashes others nonce).filterMap (t.candidate? others nonce) := by
    rw [← hashes]
    refine List.filterMap_congr ?_
    intro hash signed
    simp only [candidate?, contents nonce isAsked hash signed, supporters]
  simp only [contenders?, entries]

/-- Where all that is signed is held, a queue shows exactly the supporters. -/
theorem shows_queue_iff {g : Signature}
    (held : ∀ hash ∈ s.hashes owners nonce, (s.content hash).isSome) :
    Contenders.Shows (s.queue owners nonces) nonce hash g ↔
      nonce ∈ nonces ∧ g ∈ s.supporters owners nonce hash := by
  constructor
  · rintro ⟨group, member, rfl, entry, isEntry, rfl, signs⟩
    rw [((mem_group_iff member).1 isEntry).2.2.2] at signs
    exact ⟨(mem_queue.1 member).1, signs⟩
  · rintro ⟨isAsked, supports⟩
    have signed : hash ∈ s.hashes owners nonce := mem_hashes_iff.2 ⟨g, supports⟩
    obtain ⟨transaction, found⟩ := Option.isSome_iff_exists.1 (held hash signed)
    let entry : Candidate := ⟨hash, nonce, transaction, s.supporters owners nonce hash⟩
    have isEntry : entry ∈ (s.hashes owners nonce).filterMap (s.candidate? owners nonce) :=
      mem_entries.2 ⟨signed, rfl, found, rfl⟩
    exact ⟨⟨nonce, _⟩, mem_queue.2 ⟨isAsked, List.ne_nil_of_mem isEntry, rfl⟩, rfl, entry, isEntry,
      rfl, supports⟩

/-- The order in which owners are listed, and how often, does not show in a queue. -/
theorem queue_sameOwners (same : ∀ a, a ∈ owners ↔ a ∈ others) :
    s.queue owners nonces = s.queue others nonces := by
  refine queue_ext ?_ fun _ _ _ _ => rfl
  intro nonce _ hash g
  simp only [mem_supporters, same]

end Holdings

/-! ### Without the words of signatures -/

/-- A signature that only tells what it is for. -/
def StoredSignature.bare (g : StoredSignature) : StoredSignature :=
  { r := .ofNat 32 0, vs := .ofNat 32 0, txHash := g.txHash }

/-- A signature that only tells who signs what. -/
def Signature.bare (g : Signature) : Signature :=
  { r := .ofNat 32 0, vs := .ofNat 32 0, txHash := g.txHash, signer := g.signer }

/-- A candidate without the words of its signatures. -/
def Candidate.bare (entry : Candidate) : Candidate :=
  { entry with signatures := entry.signatures.map Signature.bare }

/-- A group without the words of its signatures. -/
def Contenders.bare (group : Contenders) : Contenders :=
  { group with entries := group.entries.map Candidate.bare }

namespace Holdings

/-- Holdings without the words of signatures. -/
def bare (s : Holdings) : Holdings where
  list owner nonce := (s.list owner nonce).map StoredSignature.bare
  content := s.content

variable {s t : Holdings} {owners : List Address} {nonces : List Int}

theorem hashes_bare (s : Holdings) (owners : List Address) (nonce : Int) :
    s.bare.hashes owners nonce = s.hashes owners nonce := by
  simp only [hashes, filed, bare, List.map_flatMap, List.map_map]
  rfl

theorem support?_bare (s : Holdings) (nonce : Int) (hash : Word) (owner : Address) :
    s.bare.support? nonce hash owner = (s.support? nonce hash owner).map Signature.bare := by
  simp only [support?, bare, List.find?_map, Option.map_map]
  rfl

theorem candidate?_bare (s : Holdings) (owners : List Address) (nonce : Int) (hash : Word) :
    s.bare.candidate? owners nonce hash = (s.candidate? owners nonce hash).map Candidate.bare := by
  have supporters : s.bare.supporters owners nonce hash =
      (s.supporters owners nonce hash).map Signature.bare := by
    rw [supporters, supporters, List.map_filterMap]
    exact congrArg (List.filterMap · _) (funext (support?_bare s nonce hash))
  simp only [candidate?, supporters, Option.map_map]
  rfl

/-- The words of signatures can be left out before or after a queue is made. -/
theorem queue_bare (s : Holdings) (owners : List Address) (nonces : List Int) :
    s.bare.queue owners nonces = (s.queue owners nonces).map Contenders.bare := by
  rw [queue, queue, List.map_filterMap]
  refine congrArg (List.filterMap · nonces) (funext fun nonce => ?_)
  have entries : (s.bare.hashes owners nonce).filterMap (s.bare.candidate? owners nonce) =
      ((s.hashes owners nonce).filterMap (s.candidate? owners nonce)).map Candidate.bare := by
    rw [hashes_bare, List.map_filterMap]
    exact congrArg (List.filterMap · _) (funext (candidate?_bare s owners nonce))
  simp only [contenders?, entries]
  generalize (s.hashes owners nonce).filterMap (s.candidate? owners nonce) = whole
  cases whole with
  | nil => rfl
  | cons first rest => rfl

/-- Without words, an owner supports a hash by the one signature for it, if any is in the list. -/
theorem support?_bare_eq_some {nonce : Int} {hash : Word} {owner : Address} {g : Signature} :
    s.bare.support? nonce hash owner = some g ↔
      (∃ stored ∈ s.list owner nonce, stored.txHash = hash) ∧
        g = { r := .ofNat 32 0, vs := .ofNat 32 0, txHash := hash, signer := owner } := by
  rw [support?_bare, Option.map_eq_some_iff]
  constructor
  · rintro ⟨first, supports, rfl⟩
    obtain ⟨ofOwner, ofHash⟩ := eq_of_support? supports
    obtain ⟨stored, found, -⟩ := Option.map_eq_some_iff.1 supports
    refine ⟨⟨stored, List.mem_of_find?_eq_some found, ?_⟩, ?_⟩
    · simpa using List.find?_some found
    · rw [Signature.bare, ofHash, ofOwner]
  · rintro ⟨⟨stored, listed, ofHash⟩, rfl⟩
    have found : (s.support? nonce hash owner).isSome := by
      rw [support?, Option.isSome_map, List.find?_isSome]
      exact ⟨stored, listed, by simpa using ofHash⟩
    obtain ⟨first, supports⟩ := Option.isSome_iff_exists.1 found
    obtain ⟨ofOwner, firstHash⟩ := eq_of_support? supports
    exact ⟨first, supports, by rw [Signature.bare, firstHash, ofOwner]⟩

/-- But for the words of signatures, a queue shows of a list no more than which hashes are signed in
it. -/
theorem queue_bare_congr
    (lists : ∀ owner ∈ owners, ∀ nonce ∈ nonces, ∀ hash,
      (∃ g ∈ s.list owner nonce, g.txHash = hash) ↔ ∃ g ∈ t.list owner nonce, g.txHash = hash)
    (contents : ∀ hash, s.content hash = t.content hash) :
    (s.queue owners nonces).map Contenders.bare = (t.queue owners nonces).map Contenders.bare := by
  rw [← queue_bare, ← queue_bare]
  refine queue_ext ?_ fun _ _ hash _ => contents hash
  intro nonce isAsked hash g
  simp only [mem_supporters, support?_bare_eq_some]
  constructor
  · rintro ⟨isOwner, signed, same⟩
    exact ⟨isOwner, (lists _ isOwner nonce isAsked hash).1 signed, same⟩
  · rintro ⟨isOwner, signed, same⟩
    exact ⟨isOwner, (lists _ isOwner nonce isAsked hash).2 signed, same⟩

end Holdings

end MultisigQueue
