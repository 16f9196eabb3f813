/-
Module: MultisigQueue.Proofs.Queue.Tally
Purpose: What a tally keeps of the signatures it is given, and the queue that it makes of them.
Main exports:
  Tally.key, Tally.mem_kept_ofEntries, Tally.nodup_kept_ofEntries, Tally.build_ofFound
-/
import Mathlib.Data.List.Find
import Mathlib.Data.List.Induction
import MultisigQueue.Proofs.Queue.Holdings
import MultisigQueue.Queue.Pass

namespace MultisigQueue

/-!
A tally keeps of all signatures with one nonce, hash and signer the one that came first. So the
tally of the pages of a pass holds, for each list that was read, the first signature for each hash,
and the queue made of it is the one that the lists call for.
-/

namespace Tally

/-- What tells the signatures of a tally apart. -/
def key (entry : Int × Signature) : Int × Word × Address :=
  (entry.1, entry.2.txHash, entry.2.signer)

/-- The tally of signatures that come one after the other, each with its nonce. -/
def ofEntries (entries : List (Int × Signature)) : Tally :=
  entries.foldl (fun t entry => t.add entry.1 entry.2) .empty

theorem holds_iff {t : Tally} {nonce : Int} {g : Signature} :
    t.holds nonce g = true ↔ ∃ entry ∈ t.kept, key entry = key (nonce, g) := by
  simp [holds, key]

theorem ofEntries_append_singleton (entries : List (Int × Signature)) (last : Int × Signature) :
    ofEntries (entries ++ [last]) = (ofEntries entries).add last.1 last.2 := by
  simp [ofEntries]

/-- A tally keeps an entry exactly if it is the first one with its key. -/
theorem mem_kept_ofEntries (entries : List (Int × Signature)) (entry : Int × Signature) :
    entry ∈ (ofEntries entries).kept ↔
      entries.find? (fun other => key other = key entry) = some entry := by
  induction entries using List.reverseRecOn generalizing entry with
  | nil => simp [ofEntries, empty]
  | append_singleton earlier last ih =>
      rw [ofEntries_append_singleton, List.find?_append, add]
      split
      · -- Somebody came before: the last entry changes nothing.
        rename_i taken
        obtain ⟨first, kept, same⟩ := holds_iff.1 taken
        rw [ih entry]
        cases found : earlier.find? fun other => key other = key entry with
        | some other => simp
        | none =>
            have isNew : key last ≠ key entry := by
              intro ofEntry
              have := (ih first).1 kept
              rw [same, ofEntry, found] at this
              cases this
            simp [isNew]
      · -- Nobody came before: the last entry is kept, and only its own key is touched.
        rename_i free
        have notHeld : ∀ other ∈ (ofEntries earlier).kept, key other ≠ key last := by
          intro other kept same
          exact free (holds_iff.2 ⟨other, kept, same⟩)
        simp only [List.mem_append, List.mem_singleton, ih entry]
        cases found : earlier.find? fun other => key other = key entry with
        | some other =>
            have kept : other ∈ (ofEntries earlier).kept := by
              rw [ih other]
              have same : key other = key entry := by simpa using List.find?_some found
              rw [same, found]
            have differs : entry ≠ last := by
              intro isLast
              have same : key other = key entry := by simpa using List.find?_some found
              exact notHeld other kept (isLast ▸ same)
            simp [differs]
        | none =>
            by_cases isLast : entry = last
            · simp [isLast]
            · by_cases same : key last = key entry
              · have : last ≠ entry := fun isEntry => isLast isEntry.symm
                simp [same, isLast, this]
              · simp [same, isLast]

/-- No two entries of a tally have the same key. -/
theorem nodup_kept_ofEntries (entries : List (Int × Signature)) :
    ((ofEntries entries).kept.map key).Nodup := by
  induction entries using List.reverseRecOn with
  | nil => simp [ofEntries, empty]
  | append_singleton earlier last ih =>
      rw [ofEntries_append_singleton, add]
      split
      · exact ih
      · rename_i free
        rw [List.map_append, List.nodup_append]
        refine ⟨ih, by simp, ?_⟩
        intro one ofKept other isLast same
        obtain ⟨entry, kept, rfl⟩ := List.mem_map.1 ofKept
        simp only [List.map_cons, List.map_nil, List.mem_singleton] at isLast
        exact free (holds_iff.2 ⟨entry, kept, by rw [same, isLast]⟩)

/-- The signatures on some pages, each with the nonce of its page. -/
def entriesOf (found : List (Found Int)) : List (Int × Signature) :=
  found.flatMap fun page => page.signatures.map fun g => (page.cursor.nonce, g)

theorem ofFound_eq_ofEntries (found : List (Found Int)) :
    ofFound found = ofEntries (entriesOf found) := by
  simp only [ofFound, ofEntries, entriesOf, List.foldl_flatMap, List.foldl_map, addAll]

variable {t : Tally} {nonce : Int} {hash : Word} {g : Signature}

/-- A hash is in a tally for a nonce exactly if a kept signature is for it. -/
theorem mem_hashesAt : hash ∈ t.hashesAt nonce ↔ ∃ g, (nonce, g) ∈ t.kept ∧ g.txHash = hash := by
  simp only [hashesAt, List.mem_mergeSort, List.mem_eraseDups, List.mem_map, List.mem_filter,
    decide_eq_true_eq]
  constructor
  · rintro ⟨⟨_, g⟩, ⟨kept, rfl⟩, ofHash⟩
    exact ⟨g, kept, ofHash⟩
  · rintro ⟨g, kept, ofHash⟩
    exact ⟨(nonce, g), ⟨kept, rfl⟩, ofHash⟩

theorem mem_identities : hash ∈ t.identities ↔ ∃ nonce, hash ∈ t.hashesAt nonce := by
  simp only [mem_hashesAt, identities, List.mem_mergeSort, List.mem_eraseDups, List.mem_map]
  constructor
  · rintro ⟨⟨nonce, g⟩, kept, ofHash⟩
    exact ⟨nonce, g, kept, ofHash⟩
  · rintro ⟨nonce, g, kept, ofHash⟩
    exact ⟨(nonce, g), kept, ofHash⟩

theorem mem_nonces : nonce ∈ t.nonces ↔ ∃ g, (nonce, g) ∈ t.kept := by
  simp [nonces]

theorem mem_signatures : g ∈ t.signatures nonce hash ↔ (nonce, g) ∈ t.kept ∧ g.txHash = hash := by
  simp only [signatures, sortBySigner, List.mem_mergeSort, List.mem_map, List.mem_filter, identity,
    decide_eq_true_eq, Prod.mk.injEq]
  constructor
  · rintro ⟨⟨_, _⟩, ⟨kept, rfl, ofHash⟩, rfl⟩
    exact ⟨kept, ofHash⟩
  · rintro ⟨kept, ofHash⟩
    exact ⟨(nonce, g), ⟨kept, rfl, ofHash⟩, rfl⟩

/-- The signatures in a tally for a hash have different signers, in ascending order. -/
theorem ascending_signatures (entries : List (Int × Signature)) (nonce : Int) (hash : Word) :
    Ascending (fun g => g.signer.toNat) ((ofEntries entries).signatures nonce hash) := by
  refine ascending_mergeSort ?_
  rw [List.map_map]
  have apart := List.pairwise_map.1 (nodup_kept_ofEntries entries)
  refine List.pairwise_map.2 ((apart.filter _).imp_of_mem ?_)
  intro a b memberA memberB differ same
  have ofA : identity a = (nonce, hash) := of_decide_eq_true (List.mem_filter.1 memberA).2
  have ofB : identity b = (nonce, hash) := of_decide_eq_true (List.mem_filter.1 memberB).2
  have sameSigner : a.2.signer = b.2.signer := FixedBytes.toNat_inj.1 same
  obtain ⟨sameNonce, sameHash⟩ := Prod.mk.inj (ofA.trans ofB.symm)
  exact differ (by simp [key, sameNonce, sameHash, sameSigner])

end Tally

/-- The stored part of a signature. -/
def Signature.stored (g : Signature) : StoredSignature := ⟨g.r, g.vs, g.txHash⟩

namespace Reader

/-- Whether every page is one of the lists asked for, and its signatures are ascribed to the owner
of this list. -/
def Ascribed (owners : List Address) (nonces : List Int) (found : List (Found Int)) : Prop :=
  ∀ page ∈ found, page.cursor.owner ∈ owners ∧ page.cursor.nonce ∈ nonces ∧
    ∀ g ∈ page.signatures, g.signer = page.cursor.owner

/-- The holdings that some pages and lookups tell of. -/
def told (found : List (Found Int)) (records : Word → Option Resolution) : Holdings where
  list owner nonce := (signaturesOf found (owner, nonce)).map Signature.stored
  content hash := (records hash).bind Resolution.content?

variable {owners : List Address} {nonces : List Int} {found : List (Found Int)}

theorem mem_signaturesOf {ν : Type} [BEq ν] [LawfulBEq ν] {found : List (Found ν)}
    {key : Address × ν} {g : Signature} :
    g ∈ signaturesOf found key ↔ ∃ page ∈ found, page.cursor.key = key ∧ g ∈ page.signatures := by
  simp [signaturesOf, List.mem_flatMap, and_assoc]

/-- A signature that was found in a list is by the owner of the list. -/
theorem Ascribed.signer_eq (ascribed : Ascribed owners nonces found) {owner : Address} {nonce : Int}
    {g : Signature} (member : g ∈ signaturesOf found (owner, nonce)) : g.signer = owner := by
  obtain ⟨page, isFound, ofKey, onPage⟩ := mem_signaturesOf.1 member
  rw [((ascribed page isFound).2.2 g onPage)]
  exact congrArg Prod.fst ofKey

/-- Only lists that were asked for hold signatures. -/
theorem Ascribed.mem_asked (ascribed : Ascribed owners nonces found) {owner : Address}
    {nonce : Int} {g : Signature} (member : g ∈ signaturesOf found (owner, nonce)) :
    owner ∈ owners ∧ nonce ∈ nonces := by
  obtain ⟨page, isFound, ofKey, -⟩ := mem_signaturesOf.1 member
  obtain ⟨rfl, rfl⟩ := Prod.mk.inj ofKey
  exact ⟨(ascribed page isFound).1, (ascribed page isFound).2.1⟩

/-- The first signature of a signer for a hash at a nonce is the first one for the hash in the list
of this signer for this nonce. -/
theorem Ascribed.find?_entriesOf (ascribed : Ascribed owners nonces found) (nonce : Int)
    (g : Signature) :
    (Tally.entriesOf found).find? (fun other => Tally.key other = Tally.key (nonce, g)) =
      ((signaturesOf found (g.signer, nonce)).find? fun other => other.txHash = g.txHash).map
        fun other => (nonce, other) := by
  induction found with
  | nil => rfl
  | cons page rest ih =>
      have first := ascribed page List.mem_cons_self
      have later := ih fun other member => ascribed other (List.mem_cons_of_mem _ member)
      simp only [Tally.entriesOf, signaturesOf] at later ⊢
      rw [List.flatMap_cons, List.find?_append, later, List.find?_map]
      by_cases ofKey : page.cursor.key = (g.signer, nonce)
      · have sameNonce : page.cursor.nonce = nonce := congrArg Prod.snd ofKey
        have sameOwner : page.cursor.owner = g.signer := congrArg Prod.fst ofKey
        have onlyHash : page.signatures.find?
            ((fun other => decide (Tally.key other = Tally.key (nonce, g))) ∘
              fun g => (page.cursor.nonce, g)) =
            page.signatures.find? fun other => decide (other.txHash = g.txHash) := by
          refine List.find?_congr ?_
          intro other member
          simp [Tally.key, sameNonce, (first.2.2 other member).trans sameOwner]
        rw [onlyHash, List.filter_cons_of_pos (by simpa using ofKey), List.flatMap_cons,
          List.find?_append, sameNonce]
        cases page.signatures.find? fun other => decide (other.txHash = g.txHash) <;> rfl
      · have nothing : page.signatures.find?
            ((fun other => decide (Tally.key other = Tally.key (nonce, g))) ∘
              fun g => (page.cursor.nonce, g)) = none := by
          refine List.find?_eq_none.2 ?_
          intro other member same
          simp only [Function.comp_apply, Tally.key, Prod.mk.injEq, decide_eq_true_eq] at same
          refine ofKey (Prod.ext ?_ same.1)
          exact (first.2.2 other member).symm.trans same.2.2
        rw [nothing, List.filter_cons_of_neg (by simpa using ofKey)]
        rfl

variable (records : Word → Option Resolution)

/-- The first signature of an owner for a hash in what the pages tell. -/
theorem Ascribed.support?_told (ascribed : Ascribed owners nonces found) (nonce : Int) (hash : Word)
    (owner : Address) :
    (told found records).support? nonce hash owner =
      (signaturesOf found (owner, nonce)).find? fun g => g.txHash = hash := by
  simp only [Holdings.support?, told, List.find?_map, Option.map_map]
  cases first : (signaturesOf found (owner, nonce)).find? fun g => g.txHash = hash with
  | none =>
      have : (signaturesOf found (owner, nonce)).find?
          ((fun g => decide (g.txHash = hash)) ∘ Signature.stored) = none := first
      rw [this]
      rfl
  | some g =>
      have : (signaturesOf found (owner, nonce)).find?
          ((fun g => decide (g.txHash = hash)) ∘ Signature.stored) = some g := first
      rw [this, ← ascribed.signer_eq (List.mem_of_find?_eq_some first)]
      rfl

/-- The tally of some pages keeps a signature exactly if it is the first one of its signer for its
hash in what the pages tell. -/
theorem Ascribed.mem_kept_iff (ascribed : Ascribed owners nonces found) (nonce : Int)
    (g : Signature) :
    (nonce, g) ∈ (Tally.ofFound found).kept ↔
      (told found records).support? nonce g.txHash g.signer = some g := by
  rw [Tally.ofFound_eq_ofEntries, Tally.mem_kept_ofEntries, ascribed.find?_entriesOf,
    ascribed.support?_told]
  simp

/-- What a tally of pages keeps was found in the list of its signer, which was asked for. -/
theorem Ascribed.of_kept (ascribed : Ascribed owners nonces found) {nonce : Int} {g : Signature}
    (kept : (nonce, g) ∈ (Tally.ofFound found).kept) :
    g ∈ signaturesOf found (g.signer, nonce) ∧ g.signer ∈ owners ∧ nonce ∈ nonces := by
  have first := (ascribed.mem_kept_iff (fun _ => none) nonce g).1 kept
  rw [ascribed.support?_told] at first
  have listed := List.mem_of_find?_eq_some first
  exact ⟨listed, ascribed.mem_asked listed⟩

/-- The hashes in a tally are those that the owners have signed according to the pages. -/
theorem Ascribed.mem_hashesAt (ascribed : Ascribed owners nonces found) (nonce : Int)
    (hash : Word) :
    hash ∈ (Tally.ofFound found).hashesAt nonce ↔
      hash ∈ (told found records).hashes owners nonce := by
  simp only [Tally.mem_hashesAt, Holdings.mem_hashes, Holdings.mem_filed]
  constructor
  · rintro ⟨g, kept, rfl⟩
    obtain ⟨listed, isOwner, -⟩ := ascribed.of_kept kept
    exact ⟨g.stored, ⟨g.signer, isOwner, List.mem_map_of_mem listed⟩, rfl⟩
  · rintro ⟨stored, ⟨owner, isOwner, listed⟩, rfl⟩
    obtain ⟨g, member, rfl⟩ := List.mem_map.1 listed
    have some : ((signaturesOf found (owner, nonce)).find? fun other =>
        other.txHash = g.txHash).isSome := by
      rw [List.find?_isSome]
      exact ⟨g, member, by simp⟩
    obtain ⟨first, isFirst⟩ := Option.isSome_iff_exists.1 some
    have sameHash : first.txHash = g.txHash := by simpa using List.find?_some isFirst
    have ofOwner := ascribed.signer_eq (List.mem_of_find?_eq_some isFirst)
    refine ⟨first, (ascribed.mem_kept_iff records nonce first).2 ?_, sameHash⟩
    rw [ascribed.support?_told, ofOwner, sameHash, isFirst]

/-- The hashes in a tally are those that the owners have signed at some nonce. -/
theorem Ascribed.mem_identities (ascribed : Ascribed owners nonces found) (hash : Word) :
    hash ∈ (Tally.ofFound found).identities ↔
      ∃ nonce ∈ nonces, hash ∈ (told found records).hashes owners nonce := by
  simp only [← ascribed.mem_hashesAt records, Tally.mem_identities]
  constructor
  · rintro ⟨nonce, isAt⟩
    obtain ⟨g, kept, -⟩ := Tally.mem_hashesAt.1 isAt
    exact ⟨nonce, (ascribed.of_kept kept).2.2, isAt⟩
  · rintro ⟨nonce, -, isAt⟩
    exact ⟨nonce, isAt⟩

/-- The signatures in a tally for a hash are the supporters according to the pages. -/
theorem Ascribed.signatures_ofFound (ascribed : Ascribed owners nonces found) (nonce : Int)
    (hash : Word) :
    (Tally.ofFound found).signatures nonce hash =
      (told found records).supporters owners nonce hash := by
  have ascends := Tally.ascending_signatures (Tally.entriesOf found) nonce hash
  rw [← Tally.ofFound_eq_ofEntries] at ascends
  refine ascends.ext
    (Holdings.ascending_supporters (told found records) owners nonce hash) ?_
  intro g
  rw [Tally.mem_signatures, Holdings.mem_supporters]
  constructor
  · rintro ⟨kept, rfl⟩
    exact ⟨(ascribed.of_kept kept).2.1, (ascribed.mem_kept_iff records _ _).1 kept⟩
  · rintro ⟨-, supports⟩
    obtain ⟨-, rfl⟩ := Holdings.eq_of_support? supports
    exact ⟨(ascribed.mem_kept_iff records nonce g).2 supports, rfl⟩

/-- The candidates in a tally are those according to the pages. -/
theorem Ascribed.contenders?_ofFound (ascribed : Ascribed owners nonces found) (nonce : Int) :
    (Tally.ofFound found).contenders? records nonce =
      (told found records).contenders? owners nonce := by
  have hashes : (Tally.ofFound found).hashesAt nonce =
      (told found records).hashes owners nonce :=
    (ascending_sortedDistinct (fun _ _ => FixedBytes.toNat_inj.1) _).ext
      (Holdings.ascending_hashes _ owners nonce) (ascribed.mem_hashesAt records nonce)
  have candidates : (Tally.ofFound found).candidate? records nonce =
      (told found records).candidate? owners nonce := by
    funext hash
    have supported := ascribed.signatures_ofFound records nonce hash
    simp only [Tally.candidate?, Holdings.candidate?, supported, told]
    cases records hash with
    | none => rfl
    | some resolution =>
        simp only [Option.bind_eq_bind, Option.bind_some]
        cases resolution.content? <;> rfl
  simp only [Tally.contenders?, Holdings.contenders?, hashes, candidates]

/-- The queue made of some pages and lookups is the one that what they tell calls for. -/
theorem Ascribed.build_ofFound (ascribed : Ascribed owners nonces found)
    (ascends : Ascending (fun n : Int => n) nonces) :
    (Tally.ofFound found).build records = (told found records).queue owners nonces := by
  have groups : (Tally.ofFound found).contenders? records =
      (told found records).contenders? owners := funext (ascribed.contenders?_ofFound records)
  have sorted : Ascending (fun n : Int => n) (Tally.ofFound found).nonces :=
    ascending_sortedDistinct (fun _ _ same => same) _
  have nonce_of : ∀ {nonce : Int} {group : Contenders},
      (told found records).contenders? owners nonce = some group → group.nonce = nonce :=
    fun called => (Holdings.mem_contenders?.1 called).1
  rw [Tally.build, groups, Holdings.queue]
  refine (sorted.filterMap fun _ _ _ called => nonce_of called).ext
    (ascends.filterMap fun _ _ _ called => nonce_of called) ?_
  intro group
  simp only [List.mem_filterMap]
  -- A nonce that calls for a group has been read from a page, so it is both asked for and tallied.
  have read : ∀ {nonce : Int}, (told found records).contenders? owners nonce = some group →
      ∃ g, (nonce, g) ∈ (Tally.ofFound found).kept := by
    intro nonce called
    obtain ⟨-, some, same⟩ := Holdings.mem_contenders?.1 called
    obtain ⟨entry, member⟩ := List.exists_mem_of_ne_nil _ some
    rw [same] at member
    have signed := (Holdings.mem_entries.1 member).1
    obtain ⟨g, kept, -⟩ := Tally.mem_hashesAt.1
      ((ascribed.mem_hashesAt records nonce entry.hash).2 signed)
    exact ⟨g, kept⟩
  constructor
  · rintro ⟨nonce, -, called⟩
    obtain ⟨g, kept⟩ := read called
    exact ⟨nonce, (ascribed.of_kept kept).2.2, called⟩
  · rintro ⟨nonce, -, called⟩
    exact ⟨nonce, Tally.mem_nonces.2 (read called), called⟩

end Reader

end MultisigQueue
