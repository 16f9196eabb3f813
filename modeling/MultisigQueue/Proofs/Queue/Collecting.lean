/-
Module: MultisigQueue.Proofs.Queue.Collecting
Purpose: Reading a store that tells the truth, while it may grow.
Main exports:
  Cursor.Turns, Cursor.IsWholePage, Reader.Collected, Reader.Collected.round, Reader.IsPaged,
  Reader.IsTold, Reader.IsPaged.exists_reads, Reader.IsPaged.exists_reads_first,
  Reader.IsTold.exists_queue
-/
import Mathlib.Data.List.Nodup
import MultisigQueue.Proofs.Queue.Pass

namespace MultisigQueue

/-!
A store that only appends may grow between the rounds of a pass. What a cursor has collected is then
always a prefix of its list: it holds all that was there when the cursor started, and nothing that
is not there at the end. So the queue of a pass is the queue of holdings between those at its start
and those at its end.
-/

namespace Cursor

variable {ν : Type}

/-- What a cursor yields at a truthful page of its list, which is as long as the node likes but not
empty before the end of the list. -/
def Turns (c : Cursor ν) (list : List StoredSignature)
    (yielded : List Signature × Option (Cursor ν)) : Prop :=
  ∃ items, items <+: list.drop c.offset.toNat ∧ (items = [] → list.length ≤ c.offset.toNat) ∧
    yielded = (items.map fun g => g.by c.owner,
      if list.length ≤ c.offset.toNat + items.length then none
      else some { c with offset := c.offset + items.length })

/-- Whether a cursor stands within a list. -/
def Within (c : Cursor ν) (list : List StoredSignature) : Prop :=
  0 ≤ c.offset ∧ c.offset.toNat ≤ list.length

/-- A cursor within a list is within a longer one. -/
theorem Within.mono {c : Cursor ν} {list longer : List StoredSignature} (within : c.Within list)
    (grows : list <+: longer) : c.Within longer :=
  ⟨within.1, within.2.trans grows.length_le⟩

theorem map_stored_by (items : List StoredSignature) (owner : Address) :
    (items.map fun g => g.by owner).map Signature.stored = items := by
  rw [List.map_map]
  exact List.map_id items

namespace Turns

variable {c d : Cursor ν} {list : List StoredSignature}
  {yielded : List Signature × Option (Cursor ν)}

/-- What stands in front of a cursor and what it yields stand in front of the next cursor. -/
theorem next (turns : c.Turns list yielded) (within : c.Within list) (stays : yielded.2 = some d) :
    d.Within list ∧ d.key = c.key ∧
      list.take d.offset.toNat =
        list.take c.offset.toNat ++ yielded.1.map Signature.stored := by
  obtain ⟨items, stands, -, rfl⟩ := turns
  simp only at stays
  split at stays
  · cases stays
  · rename_i short
    cases stays
    have place : (c.offset + (items.length : Int)).toNat = c.offset.toNat + items.length := by
      have := within.1
      omega
    refine ⟨⟨?_, ?_⟩, rfl, ?_⟩
    · have := within.1
      simp only
      omega
    · simp only [place]
      omega
    · rw [map_stored_by, place, List.take_add, ← List.prefix_iff_eq_take.1 stands]

/-- What stands in front of a cursor and what it yields at last are the whole list. -/
theorem last (turns : c.Turns list yielded) (ends : yielded.2 = none) :
    list = list.take c.offset.toNat ++ yielded.1.map Signature.stored := by
  obtain ⟨items, stands, -, rfl⟩ := turns
  simp only at ends
  split at ends
  · rename_i short
    rw [map_stored_by, List.prefix_iff_eq_take.1 stands, ← List.take_add,
      List.take_of_length_le short]
  · cases ends

end Turns

/-- A page is read from some octets. -/
theorem ne_nil_of_decodePage {data : Bytes} {page : Page}
    (decoded : Store.decodePage data = .ok page) : data ≠ [] := by
  rintro rfl
  cases decoded

/-- What a cursor absorbs of a reply that holds a piece of its list, which is not empty before the
end of the list, and the length of the list. -/
theorem absorb_of_decodePage {c : Cursor ν} {list items : List StoredSignature} {data : Bytes}
    (within : c.Within list) (some : data ≠ [])
    (decoded : Store.decodePage data = .ok ⟨items, list.length⟩)
    (reaches : items = [] → list.length ≤ c.offset.toNat) :
    c.absorb { success := true, data } = (items.map fun g => g.by c.owner,
      if list.length ≤ c.offset.toNat + items.length then none
      else Option.some { c with offset := c.offset + items.length }) := by
  have place : (c.offset.toNat : Int) = c.offset := Int.toNat_of_nonneg within.1
  have hasData : Reply.hasData { success := true, data } = true := by
    cases data with
    | nil => exact absurd rfl some
    | cons x rest => rfl
  have read : Store.decodeSignatures data c.owner =
      .ok (items.map fun g => g.by c.owner, list.length) := by
    rw [Store.decodeSignatures, decoded]
    rfl
  simp only [absorb, hasData, if_true, read, List.length_map]
  by_cases ends : list.length ≤ c.offset.toNat + items.length
  · have reached : (list.length : Int) ≤ c.offset + items.length := by omega
    simp [ends, reached]
  · have short : ¬(list.length : Int) ≤ c.offset + items.length := by omega
    have any : items ≠ [] := by
      intro none
      have := reaches none
      omega
    simp [ends, short, any]

/-- A reply that holds a piece of a list, and the length of the list, is a truthful page of it. -/
theorem turns_of_decodePage {c : Cursor ν} {list items : List StoredSignature} {data : Bytes}
    (within : c.Within list) (some : data ≠ [])
    (decoded : Store.decodePage data = .ok ⟨items, list.length⟩)
    (stands : items <+: list.drop c.offset.toNat)
    (reaches : items = [] → list.length ≤ c.offset.toNat) :
    c.Turns list (c.absorb { success := true, data }) :=
  ⟨items, stands, reaches, absorb_of_decodePage within some decoded reaches⟩

/-- Whether a reply is the page of a list that is asked for at a cursor: as many signatures from
there on as fit on a page, together with the length of the list. -/
def IsWholePage (c : Cursor ν) (size : Nat) (list : List StoredSignature) (reply : Reply) : Prop :=
  reply.success = true ∧
    Store.decodePage reply.data = .ok ⟨(list.drop c.offset.toNat).take size, list.length⟩

namespace IsWholePage

variable {c : Cursor ν} {size : Nat} {list : List StoredSignature} {reply : Reply}

/-- What a cursor absorbs of the page that it asks for. -/
theorem absorb_eq (whole : c.IsWholePage size list reply) (positive : 0 < size)
    (within : c.Within list) :
    c.absorb reply = (((list.drop c.offset.toNat).take size).map fun g => g.by c.owner,
      if list.length ≤ c.offset.toNat + size then none
      else some { c with offset := c.offset + size }) := by
  rcases reply with ⟨_, data⟩
  rcases whole with ⟨success, decoded⟩
  cases success
  have length : ((list.drop c.offset.toNat).take size).length =
      min size (list.length - c.offset.toNat) := by
    rw [List.length_take, List.length_drop]
  rw [absorb_of_decodePage within (ne_nil_of_decodePage decoded) decoded, length]
  · by_cases ends : list.length ≤ c.offset.toNat + size
    · rw [if_pos ends, if_pos]
      omega
    · have full : min size (list.length - c.offset.toNat) = size := by omega
      rw [if_neg ends, full, if_neg ends]
  · intro none
    rw [none, List.length_nil] at length
    omega

/-- The page that is asked for is a truthful one. -/
theorem turns (whole : c.IsWholePage size list reply) (positive : 0 < size)
    (within : c.Within list) : c.Turns list (c.absorb reply) := by
  rcases reply with ⟨_, data⟩
  rcases whole with ⟨success, decoded⟩
  cases success
  apply turns_of_decodePage within (ne_nil_of_decodePage decoded) decoded (List.take_prefix _ _)
  intro none
  rw [List.take_eq_nil_iff, List.drop_eq_nil_iff] at none
  omega

end IsWholePage

/-- A round in which a first cursor absorbs a first reply. -/
theorem absorbRound_cons (c : Cursor ν) (rest : List (Cursor ν)) (reply : Reply)
    (others : List Reply) :
    absorbRound (c :: rest) (reply :: others) =
      ((if (c.absorb reply).1.isEmpty then [] else [⟨c, (c.absorb reply).1⟩]) ++
          (absorbRound rest others).1,
        (c.absorb reply).2.toList ++ (absorbRound rest others).2) := by
  rcases yielded : c.absorb reply with ⟨_ | ⟨g, signatures⟩, _ | next⟩ <;>
    simp [absorbRound, yielded]

variable {pending : List (Cursor ν)} {replies : List Reply}

/-- The cursors that a round leaves open are in different lists if they were before. -/
theorem nodup_absorbRound (distinct : (pending.map key).Nodup) :
    ((absorbRound pending replies).2.map key).Nodup := by
  induction pending generalizing replies with
  | nil => simp [absorbRound]
  | cons c rest ih =>
      cases replies with
      | nil => simp [absorbRound]
      | cons reply others =>
          rw [List.map_cons, List.nodup_cons] at distinct
          have later : ((absorbRound rest others).2.map key).Nodup := ih distinct.2
          rw [absorbRound_cons]
          rcases yielded : c.absorb reply with ⟨signatures, _ | next⟩
          · simpa using later
          · have sameKey := key_of_absorb yielded
            have apart : c.key ∉ (absorbRound rest others).2.map key := by
              intro again
              obtain ⟨d, stays, same⟩ := List.mem_map.1 again
              obtain ⟨e, _, together, -, ofKey⟩ := exists_of_mem_pending stays
              refine distinct.1 (List.mem_map.2 ⟨e, (List.of_mem_zip together).1, ?_⟩)
              rw [← ofKey, same]
            simp only [Option.toList_some, List.singleton_append, List.map_cons, sameKey]
            exact List.nodup_cons.2 ⟨apart, later⟩

/-- The first cursors are in different lists. -/
theorem nodup_first {owners : List Address} {nonces : List ν} (distinct : nonces.Nodup) :
    ((first owners nonces).map key).Nodup := by
  simp only [first, List.map_flatMap, List.map_map]
  refine List.nodup_flatMap.2 ⟨?_, ?_⟩
  · intro nonce _
    refine List.Nodup.map ?_ (nodup_eraseDups owners)
    intro owner other same
    exact congrArg Prod.fst same
  · refine distinct.imp ?_
    intro nonce other differ key ofNonce ofOther
    obtain ⟨owner, -, rfl⟩ := List.mem_map.1 ofNonce
    obtain ⟨another, -, same⟩ := List.mem_map.1 ofOther
    exact differ (congrArg Prod.snd same).symm

/-- A list whose only cursor is at its end has no open cursor after a round. -/
theorem not_mem_absorbRound (distinct : (pending.map key).Nodup)
    (sameLength : pending.length = replies.length) {c : Cursor ν} {reply : Reply}
    (together : (c, reply) ∈ pending.zip replies) (ends : (c.absorb reply).2 = none) :
    c.key ∉ (absorbRound pending replies).2.map key := by
  intro again
  obtain ⟨d, stays, sameKey⟩ := List.mem_map.1 again
  obtain ⟨e, other, alsoTogether, next, ofKey⟩ := exists_of_mem_pending stays
  have firsts : (pending.zip replies).map Prod.fst = pending :=
    List.map_fst_zip (Nat.le_of_eq sameLength)
  have apart : ((pending.zip replies).map (key ∘ Prod.fst)).Nodup := by
    rw [← List.map_map, firsts]
    exact distinct
  have same := List.inj_on_of_nodup_map apart together alsoTogether (sameKey.symm.trans ofKey)
  cases same
  rw [ends] at next
  cases next

end Cursor

namespace Resolution

@[simp] theorem hash_ofContent (hash : Word) (content : Option Transaction) :
    (ofContent hash content).hash = hash := by
  cases content <;> rfl

@[simp] theorem content?_ofContent (hash : Word) (content : Option Transaction) :
    (ofContent hash content).content? = content := by
  cases content <;> rfl

/-- Truthful lookups say what is held under each of the hashes. -/
theorem content?_resolutionOf {content : Word → Option Transaction} {hashes : List Word}
    {replies : List Reply}
    (truthful : List.Forall₂ (fun hash reply => absorb hash reply = ofContent hash (content hash))
      hashes replies) {hash : Word} (member : hash ∈ hashes) :
    (resolutionOf (List.zipWith absorb hashes replies) hash).bind content? = content hash := by
  induction truthful with
  | nil => cases member
  | @cons first reply rest others isTrue _ ih =>
      rw [List.zipWith_cons_cons, resolutionOf, List.find?_cons, isTrue, hash_ofContent]
      by_cases same : first = hash
      · simp [same]
      · simp only [same, decide_false]
        exact ih ((List.mem_cons.1 member).resolve_left (Ne.symm same))

end Resolution

namespace Reader

section Pages

variable {ν : Type} [BEq ν]

theorem signaturesOf_append (now later : List (Found ν)) (key : Address × ν) :
    signaturesOf (now ++ later) key = signaturesOf now key ++ signaturesOf later key := by
  simp [signaturesOf]

variable [LawfulBEq ν]

/-- Pages of which none is in a list hold nothing of it. -/
theorem signaturesOf_eq_nil {found : List (Found ν)} {key : Address × ν}
    (elsewhere : ∀ page ∈ found, page.cursor.key ≠ key) : signaturesOf found key = [] := by
  rw [signaturesOf, List.filter_eq_nil_iff.2]
  · rfl
  · intro page member
    simpa using elsewhere page member

/-- The page that a cursor absorbs, if there is anything on it, is in the list of the cursor. -/
theorem signaturesOf_page (c : Cursor ν) (signatures : List Signature) (key : Address × ν) :
    signaturesOf (if signatures.isEmpty then [] else [⟨c, signatures⟩]) key =
      if c.key == key then signatures else [] := by
  cases signatures with
  | nil => simp [signaturesOf]
  | cons g rest =>
      by_cases same : c.key = key <;> simp [signaturesOf, same]

/-- What a round yields for the list of a cursor is what this cursor absorbs, if no other cursor is
in the list. -/
theorem signaturesOf_absorbRound {pending : List (Cursor ν)} {replies : List Reply}
    (distinct : (pending.map Cursor.key).Nodup) {c : Cursor ν} {reply : Reply}
    (together : (c, reply) ∈ pending.zip replies) :
    signaturesOf (Cursor.absorbRound pending replies).1 c.key = (c.absorb reply).1 := by
  induction pending generalizing replies with
  | nil => simp at together
  | cons d rest ih =>
      cases replies with
      | nil => simp at together
      | cons answer others =>
          rw [List.map_cons, List.nodup_cons] at distinct
          rw [Cursor.absorbRound_cons, signaturesOf_append, signaturesOf_page]
          rcases List.mem_cons.1 together with same | behind
          · obtain ⟨rfl, rfl⟩ := Prod.mk.inj same
            have nothing : signaturesOf (Cursor.absorbRound rest others).1 c.key = [] := by
              refine signaturesOf_eq_nil ?_
              intro page member ofKey
              obtain ⟨_, isPage, -⟩ := Cursor.exists_of_mem_absorbRound member
              exact distinct.1 (ofKey ▸ List.mem_map_of_mem (List.of_mem_zip isPage).1)
            rw [nothing, List.append_nil, if_pos (beq_self_eq_true _)]
          · have apart : d.key ≠ c.key := by
              intro same
              exact distinct.1 (same ▸ List.mem_map_of_mem (List.of_mem_zip behind).1)
            rw [if_neg (by simpa using apart), List.nil_append]
            exact ih distinct.2 behind

/-- Once the only cursor in a list is at its end, later pages hold nothing of the list. -/
theorem signaturesOf_of_last {pending : List (Cursor ν)} {replies : List Reply}
    (distinct : (pending.map Cursor.key).Nodup) (sameLength : pending.length = replies.length)
    {later : List (Found ν)}
    (listed : ∀ page ∈ later,
      page.cursor.key ∈ (Cursor.absorbRound pending replies).2.map Cursor.key)
    {c : Cursor ν} {reply : Reply} (together : (c, reply) ∈ pending.zip replies)
    (ends : (c.absorb reply).2 = none) : signaturesOf later c.key = [] := by
  refine signaturesOf_eq_nil ?_
  intro page isPage ofKey
  apply Cursor.not_mem_absorbRound distinct sameLength together ends
  rw [← ofKey]
  exact listed page isPage

end Pages

/-- What some pages hold of the list of a cursor that is about to be read: with what is in front of
the cursor, a piece from the start of the list, which has all that was there at first and nothing
that is not there at last. -/
def Collected (first last : Holdings) (found : List (Found Int)) (c : Cursor Int) : Prop :=
  ∃ whole, whole = (first.list c.owner c.nonce).take c.offset.toNat ++
      (signaturesOf found c.key).map Signature.stored ∧
    first.list c.owner c.nonce <+: whole ∧ whole <+: last.list c.owner c.nonce

/-- A round collects for its cursors what the later pages collect for those that it leaves open. -/
theorem Collected.round {first now last : Holdings} (grows : first.Extends now)
    (growsOn : now.Extends last) {pending : List (Cursor Int)} {replies : List Reply}
    (distinct : (pending.map Cursor.key).Nodup) (sameLength : pending.length = replies.length)
    {later : List (Found Int)}
    (listed : ∀ page ∈ later,
      page.cursor.key ∈ (Cursor.absorbRound pending replies).2.map Cursor.key)
    (collected : ∀ d ∈ (Cursor.absorbRound pending replies).2, Collected now last later d)
    {c : Cursor Int} {reply : Reply} (together : (c, reply) ∈ pending.zip replies)
    (within : c.Within (first.list c.owner c.nonce))
    (turns : c.Turns (now.list c.owner c.nonce) (c.absorb reply)) :
    Collected first last ((Cursor.absorbRound pending replies).1 ++ later) c := by
  have withinNow := within.mono (grows.list c.owner c.nonce)
  have inFront : (first.list c.owner c.nonce).take c.offset.toNat =
      (now.list c.owner c.nonce).take c.offset.toNat := by
    obtain ⟨rest, longer⟩ := grows.list c.owner c.nonce
    rw [← longer, List.take_append_of_le_length within.2]
  rw [Collected, signaturesOf_append, signaturesOf_absorbRound distinct together, inFront]
  cases next : (c.absorb reply).2 with
  | some d =>
      -- The next cursor carries on where this one stops.
      obtain ⟨-, sameKey, moved⟩ := turns.next withinNow next
      obtain ⟨sameOwner, sameNonce⟩ := Prod.mk.inj sameKey
      obtain ⟨whole, isWhole, atFirst, atLast⟩ :=
        collected d (Cursor.mem_pending_of_absorb together next)
      rw [sameOwner, sameNonce] at isWhole atFirst atLast
      refine ⟨whole, ?_, (grows.list _ _).trans atFirst, atLast⟩
      rw [isWhole, moved, sameKey, List.map_append, List.append_assoc]
  | none =>
      -- No cursor is left in this list, so what was there in this round is all that is found.
      refine ⟨now.list c.owner c.nonce, ?_, grows.list _ _, growsOn.list _ _⟩
      rw [signaturesOf_of_last distinct sameLength listed together next, List.append_nil]
      exact turns.last next

variable {σ : Type}

/-- Whether an executor tells the truth about the lists of a store that only appends: from a steady
state it answers each batch for pages of the lists asked for by what the store holds when the batch
is made, and leaves a steady state. -/
structure IsPaged (r : Reader) (executor : Executor σ) (owners : List Address) (nonces : List Int)
    (steady : σ → Prop) (holds : σ → Holdings) : Prop where
  pages : ∀ {s : σ} {pending : List (Cursor Int)}, steady s → pending ≠ [] →
    (pending.map Cursor.key).Nodup →
    (∀ c ∈ pending, c.owner ∈ owners ∧ c.nonce ∈ nonces ∧
      c.Within ((holds s).list c.owner c.nonce)) →
    ∃ calls replies t, pending.mapM r.callFor = .ok calls ∧
      (executor calls).runFrom s = (.ok replies, t) ∧ steady t ∧ (holds s).Extends (holds t) ∧
      List.Forall₂ (fun c reply => c.Turns ((holds t).list c.owner c.nonce) (c.absorb reply))
        pending replies

/-- Whether an executor tells the truth about a store that only appends: likewise it answers each
batch of lookups of hashes in the lists. -/
structure IsTold (r : Reader) (executor : Executor σ) (owners : List Address) (nonces : List Int)
    (steady : σ → Prop) (holds : σ → Holdings) : Prop extends
    IsPaged r executor owners nonces steady holds where
  lookups : ∀ {s : σ} {hashes : List Word}, steady s → hashes.Nodup →
    (∀ hash ∈ hashes, ∃ owner ∈ owners, ∃ nonce ∈ nonces, ∃ g ∈ (holds s).list owner nonce,
      g.txHash = hash) →
    ∃ replies t, (executor (hashes.map (Store.lookupCall r.store))).runFrom s =
        (.ok replies, t) ∧ steady t ∧ (holds s).Extends (holds t) ∧
      List.Forall₂ (fun hash reply => Resolution.absorb hash reply =
        .ofContent hash ((holds t).content hash)) hashes replies

section Told

variable {r : Reader} {executor : Executor σ} {owners : List Address} {nonces : List Int}
  {steady : σ → Prop} {holds : σ → Holdings} {s : σ} {pending : List (Cursor Int)}

/-- Open cursors of a truthful store are read to the ends of their lists. -/
theorem IsPaged.exists_reads (told : r.IsPaged executor owners nonces steady holds)
    (isSteady : steady s)
    (distinct : (pending.map Cursor.key).Nodup)
    (asked : ∀ c ∈ pending, c.owner ∈ owners ∧ c.nonce ∈ nonces ∧
      c.Within ((holds s).list c.owner c.nonce)) :
    ∃ found u, r.Reads executor pending s found u ∧ steady u ∧ (holds s).Extends (holds u) ∧
      ∀ c ∈ pending, Collected (holds s) (holds u) found c := by
  induction pending using readPages.induct generalizing s with
  | case1 =>
      refine ⟨[], s, .done s, isSteady, .refl _, ?_⟩
      intro c member
      cases member
  | case2 pending isOpen ih =>
      obtain ⟨calls, replies, t, calling, answered, steadyThen, grows, turns⟩ :=
        told.pages isSteady isOpen distinct asked
      obtain ⟨sameLength, turn⟩ := List.forall₂_iff_zip.1 turns
      have askedThen : ∀ d ∈ (Cursor.absorbRound pending replies).2, d.owner ∈ owners ∧
          d.nonce ∈ nonces ∧ d.Within ((holds t).list d.owner d.nonce) := by
        intro d stays
        obtain ⟨c, reply, together, next, sameKey⟩ := Cursor.exists_of_mem_pending stays
        obtain ⟨sameOwner, sameNonce⟩ := Prod.mk.inj sameKey
        obtain ⟨isOwner, isAsked, within⟩ := asked c (List.of_mem_zip together).1
        have withinThen := within.mono (grows.list c.owner c.nonce)
        rw [sameOwner, sameNonce]
        exact ⟨isOwner, isAsked, ((turn together).next withinThen next).1⟩
      obtain ⟨later, u, rest, steadyLast, growsOn, collected⟩ :=
        ih replies steadyThen (Cursor.nodup_absorbRound distinct) askedThen
      refine ⟨_, u, .round isOpen calling answered rest, steadyLast, grows.trans growsOn, ?_⟩
      intro c member
      obtain ⟨reply, together⟩ : ∃ reply, (c, reply) ∈ pending.zip replies := by
        rw [← List.map_fst_zip (Nat.le_of_eq sameLength)] at member
        obtain ⟨⟨_, reply⟩, together, rfl⟩ := List.mem_map.1 member
        exact ⟨reply, together⟩
      exact .round grows growsOn distinct sameLength
        (fun page isPage => (rest.page_ascribed isPage).1) collected together
        (asked c (List.of_mem_zip together).1).2.2 (turn together)

/-- Every list asked for is found as it was at some time from the start to the end of reading. -/
theorem IsPaged.exists_reads_first (told : r.IsPaged executor owners nonces steady holds)
    (isSteady : steady s) (differ : nonces.Nodup) :
    ∃ found t, r.Reads executor (Cursor.first owners nonces) s found t ∧ steady t ∧
      (holds s).Extends (holds t) ∧ ∀ owner ∈ owners, ∀ nonce ∈ nonces, ∀ records,
        (holds s).list owner nonce <+: (Reader.told found records).list owner nonce ∧
          (Reader.told found records).list owner nonce <+: (holds t).list owner nonce := by
  have atStart : ∀ c ∈ Cursor.first owners nonces, c.owner ∈ owners ∧ c.nonce ∈ nonces ∧
      c.Within ((holds s).list c.owner c.nonce) := by
    intro c isFirst
    obtain ⟨isOwner, isAsked, zero⟩ := Cursor.mem_first.1 isFirst
    exact ⟨isOwner, isAsked, by simp [Cursor.Within, zero]⟩
  obtain ⟨found, t, reads, steadyThen, grows, collected⟩ :=
    told.exists_reads isSteady (Cursor.nodup_first differ) atStart
  refine ⟨found, t, reads, steadyThen, grows, ?_⟩
  intro owner isOwner nonce isAsked records
  obtain ⟨whole, isWhole, atFirst, atLast⟩ :=
    collected ⟨owner, nonce, 0⟩ (Cursor.mem_first.2 ⟨isOwner, isAsked, rfl⟩)
  simp only [Int.toNat_zero, List.take_zero, List.nil_append] at isWhole
  rw [isWhole] at atFirst atLast
  exact ⟨atFirst, atLast⟩

/-- A pass over a truthful store comes to the queue of holdings between those at its start and those
at its end. -/
theorem IsTold.exists_queue (told : r.IsTold executor owners nonces steady holds)
    (isSteady : steady s) (ascends : Ascending (fun n : Int => n) nonces) :
    ∃ seen u, (r.queueOf executor owners nonces).runFrom s = (.ok (seen.queue owners nonces), u) ∧
      steady u ∧ (holds s).Extends seen ∧ seen.Extends (holds u) := by
  obtain ⟨found, t, reads, steadyThen, grows, listed⟩ :=
    told.exists_reads_first isSteady ascends.nodup
  let hashes := (Tally.ofFound found).identities.eraseDups
  have signed : ∀ records, ∀ hash, hash ∈ hashes ↔
      ∃ nonce ∈ nonces, hash ∈ (Reader.told found records).hashes owners nonce :=
    fun records hash => List.mem_eraseDups.trans (reads.ascribed.mem_identities records hash)
  obtain ⟨replies, u, answered, steadyLast, growsOn, resolved⟩ :=
    told.lookups steadyThen (nodup_eraseDups (Tally.ofFound found).identities) (by
      intro hash member
      obtain ⟨nonce, isAsked, isSigned⟩ := (signed (fun _ => none) hash).1 member
      obtain ⟨g, isFiled, ofHash⟩ := Holdings.mem_hashes.1 isSigned
      obtain ⟨owner, isOwner, inList⟩ := Holdings.mem_filed.1 isFiled
      have isListed := (listed owner isOwner nonce isAsked _).2.subset inList
      exact ⟨owner, isOwner, nonce, isAsked, g, isListed, ofHash⟩)
  let records := List.zipWith Resolution.absorb hashes replies
  let seen := Reader.told found (resolutionOf records)
  have content : ∀ hash ∈ hashes, seen.content hash = (holds u).content hash :=
    fun hash member => Resolution.content?_resolutionOf resolved member
  -- Nothing else was asked for, so the rest may be taken to be as it was at the start.
  refine ⟨(holds s).patch seen owners nonces hashes, u, ?ran, steadyLast, ?first, ?last⟩
  case ran =>
    rw [Holdings.queue_patch, ← build_eq_queue_told ascends reads]
    · refine runFrom_queueOf_eq_ok.2 ⟨found, t, records, reads, ?_, rfl⟩
      exact Query.runFrom_bind_eq_ok.2 ⟨replies, u, answered, rfl⟩
    · exact fun nonce isAsked hash isSigned => (signed _ hash).2 ⟨nonce, isAsked, isSigned⟩
  case first =>
    refine Holdings.extends_patch ?_ ?_
    · exact fun owner isOwner nonce isAsked => (listed owner isOwner nonce isAsked _).1
    · intro hash isLookedUp transaction held
      rw [content hash isLookedUp]
      exact (grows.trans growsOn).content hash transaction held
  case last =>
    refine (grows.trans growsOn).of_patch ?_ ?_
    · intro owner isOwner nonce isAsked
      exact (listed owner isOwner nonce isAsked _).2.trans (growsOn.list owner nonce)
    · intro hash isLookedUp transaction held
      rw [← content hash isLookedUp]
      exact held

end Told

end Reader

end MultisigQueue
