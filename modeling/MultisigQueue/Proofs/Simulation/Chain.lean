/-
Module: MultisigQueue.Proofs.Simulation.Chain
Purpose: A pass over a chain that nothing disturbs gives exactly the queue of its ledger.
Main exports:
  Chain.Undisturbed, Chain.noted, Chain.Reachable.runFrom_call, Chain.runFrom_execute,
  Chain.TellsLists, Chain.Tells, Chain.TellsLists.isPaged, Chain.TellsLists.isTold,
  Chain.runFrom_reconstruct, Client.reconstructFrom_honest
-/
import Mathlib.Data.List.ProdSigma
import MultisigQueue.Proofs.Queue.Collecting
import MultisigQueue.Proofs.Simulation.Ledger
import MultisigQueue.Simulation.Chain

namespace MultisigQueue

/-!
A chain notes what it is asked, and otherwise stays as it is. So a pass over it sees one ledger from
the start to the end, and comes to the queue of this ledger.
-/

namespace Uint256

/-- A number as one that fits into a word, if it does. -/
def ofInt (n : Int) : Uint256 := ⟨n.toNat % 2 ^ (256 : Nat), Nat.mod_lt _ (by decide)⟩

theorem val_ofInt {n : Int} (most : n < 2 ^ (256 : Nat)) : (ofInt n).val = n.toNat := by
  have small : n.toNat < 2 ^ (256 : Nat) := by omega
  exact Nat.mod_eq_of_lt small

theorem cast_val_ofInt {n : Int} (least : 0 ≤ n) (most : n < 2 ^ (256 : Nat)) :
    ((ofInt n).val : Int) = n := by
  rw [val_ofInt most]
  exact Int.toNat_of_nonneg least

end Uint256

namespace Chain

/-- Whether nothing has been put in the way of a chain. -/
structure Undisturbed (c : Chain) : Prop where
  isDown : c.isDown = false
  raw : c.raw = []
  slots : c.slots = []
  revertingSigners : c.revertingSigners = []
  revertingHashes : c.revertingHashes = []

/-- A chain without what it has observed. -/
def unobserved (c : Chain) : Chain := { c with roundTrips := 0, batches := [], pages := [] }

variable {c d : Chain}

/-- A chain that differs only in what it has observed has the same ledger, at the same addresses. -/
theorem eq_of_unobserved (same : d.unobserved = c.unobserved) :
    d.ledger = c.ledger ∧ d.storeAddress = c.storeAddress ∧ d.batchAddress = c.batchAddress :=
  ⟨(congrArg Chain.ledger same :), (congrArg Chain.storeAddress same :),
    (congrArg Chain.batchAddress same :)⟩

/-- A chain that differs only in what it has observed is not disturbed either. -/
theorem Undisturbed.of_unobserved (undisturbed : c.Undisturbed)
    (same : d.unobserved = c.unobserved) : d.Undisturbed where
  isDown := (congrArg Chain.isDown same :).trans undisturbed.isDown
  raw := (congrArg Chain.raw same :).trans undisturbed.raw
  slots := (congrArg Chain.slots same :).trans undisturbed.slots
  revertingSigners := (congrArg Chain.revertingSigners same :).trans undisturbed.revertingSigners
  revertingHashes := (congrArg Chain.revertingHashes same :).trans undisturbed.revertingHashes

/-- A request for a page is answered from the ledger. -/
theorem makes_pageCall (undisturbed : c.Undisturbed) (signer safe : Address)
    (chainId nonce start count : Uint256)
    (few : (c.ledger.signatures signer safe chainId.val nonce.val).length < 2 ^ (256 : Nat)) :
    Batch.Makes slot (fun d => d.unobserved = c.unobserved)
      ⟨c.storeAddress, Store.pageCalldata signer safe chainId nonce start count, true⟩
      ⟨true, Store.pageReturn (((c.ledger.signatures signer safe chainId.val nonce.val).drop
        start.val).take count.val) ⟨_, few⟩⟩ := by
  intro d same
  have here := undisturbed.of_unobserved same
  obtain ⟨ledger, store, -⟩ := eq_of_unobserved same
  refine ⟨some _, { d with pages := d.pages ++ [⟨signer, safe, chainId.val, nonce.val, start.val,
    count.val⟩] }, ?_, same, by simp, rfl⟩
  simp only [slot, Query.runFrom_bind, Query.runFrom_get, here.slots, List.find?_nil, store,
    if_true, storeSlot, Store.take_pageCalldata, Ledger.pageRequest_pageCalldata,
    Query.runFrom_abi, Except.mapError, here.revertingSigners, List.not_mem_nil, if_false,
    Query.runFrom_set, ledger, Ledger.answer_pageCalldata _ _ _ _ _ _ _ few]

/-- A lookup is answered from the ledger, and leaves the chain as it is. -/
theorem runFrom_slot_lookupCall (undisturbed : c.Undisturbed) (same : d.unobserved = c.unobserved)
    (hash : Word) :
    (slot (Store.lookupCall c.storeAddress hash).target
        (Store.lookupCall c.storeAddress hash).data).runFrom d =
      (((Ledger.recordData (c.ledger.transaction? hash)).map some).mapError Fault.abi, d) := by
  have here := undisturbed.of_unobserved same
  obtain ⟨ledger, store, -⟩ := eq_of_unobserved same
  have target : (Store.lookupCall c.storeAddress hash).target = c.storeAddress := rfl
  simp only [slot, Query.runFrom_bind, Query.runFrom_get, here.slots, List.find?_nil, store, target,
    if_true, storeSlot, Store.take_lookupCall, Ledger.selector_ne, if_false,
    Ledger.lookupRequest_lookupCall, Query.runFrom_abi, Except.mapError, here.revertingHashes,
    List.not_mem_nil, ledger, c.ledger.answer_lookupCall c.storeAddress hash]

theorem makes_lookupCall (undisturbed : c.Undisturbed) {hash : Word} {data : Bytes}
    (told : Ledger.recordData (c.ledger.transaction? hash) = .ok data) :
    Batch.Makes slot (fun d => d.unobserved = c.unobserved) (Store.lookupCall c.storeAddress hash)
      ⟨true, data⟩ := by
  intro d same
  refine ⟨some data, d, ?_, same, by simp, rfl⟩
  rw [runFrom_slot_lookupCall undisturbed same, told]
  rfl

/-- A chain that has noted another batch of so many calls. -/
def noted (c : Chain) (count : Nat) : Chain :=
  { c with roundTrips := c.roundTrips + 1, batches := c.batches ++ [count] }

@[simp] theorem unobserved_noted (c : Chain) (count : Nat) :
    (c.noted count).unobserved = c.unobserved := rfl

/-- Whether batches reach a chain. -/
structure Reachable (c : Chain) : Prop where
  isDown : c.isDown = false
  raw : c.raw = []

/-- A batch that reaches a chain is noted and then served. -/
theorem Reachable.runFrom_call (reachable : c.Reachable) {calls : List Call}
    (short : 64 + (calls.map fun call => 192 + call.data.length).sum < 2 ^ (256 : Nat)) :
    (node.call c.batchAddress (Batch.encode calls)).runFrom c =
      (Batch.serve slot (Batch.encode calls)).runFrom (c.noted calls.length) := by
  simp only [node, observe, Query.runFrom_bind, Query.runFrom_get, Query.runFrom_set,
    Query.runFrom_modify, reachable.raw, List.head?_nil, Option.join_none, reachable.isDown,
    Bool.false_eq_true, if_false, ne_eq, not_true_eq_false, Query.runFrom_abi,
    Batch.decodeCalls_encode short, Except.mapError, List.drop_nil, noted]

theorem Undisturbed.reachable (undisturbed : c.Undisturbed) : c.Reachable :=
  ⟨undisturbed.isDown, undisturbed.raw⟩

/-- A batch is served by a chain that differs only in what it has observed. -/
theorem exists_call_eq_serve (undisturbed : c.Undisturbed) {calls : List Call}
    (short : 64 + (calls.map fun call => 192 + call.data.length).sum < 2 ^ (256 : Nat)) :
    ∃ d, d.unobserved = c.unobserved ∧
      (node.call c.batchAddress (Batch.encode calls)).runFrom c =
        (Batch.serve slot (Batch.encode calls)).runFrom d :=
  ⟨_, c.unobserved_noted calls.length, undisturbed.reachable.runFrom_call short⟩

/-- A batch is served, and nothing is left of it but what the chain has observed. -/
theorem runFrom_call (undisturbed : c.Undisturbed) {calls : List Call} {replies : List Reply}
    (short : 64 + (calls.map fun call => 192 + call.data.length).sum < 2 ^ (256 : Nat))
    (each : List.Forall₂ (Batch.Makes slot fun d => d.unobserved = c.unobserved) calls replies) :
    ∃ t, (node.call c.batchAddress (Batch.encode calls)).runFrom c =
        (.ok (Batch.encodeReplies replies), t) ∧ t.unobserved = c.unobserved := by
  obtain ⟨d, same, serves⟩ := exists_call_eq_serve undisturbed short
  obtain ⟨t, served, still⟩ := Batch.runFrom_serve short each same
  exact ⟨t, serves.trans served, still⟩

/-- A batch comes to the replies to its calls. -/
theorem runFrom_execute (undisturbed : c.Undisturbed) {calls : List Call} {replies : List Reply}
    (shortRequest : 64 + (calls.map fun call => 192 + call.data.length).sum < 2 ^ (256 : Nat))
    (shortReply : 64 + (replies.map fun reply => 160 + reply.data.length).sum < 2 ^ (256 : Nat))
    (each : List.Forall₂ (Batch.Makes slot fun d => d.unobserved = c.unobserved) calls replies) :
    ∃ t, (Batch.execute node c.batchAddress calls).runFrom c = (.ok replies, t) ∧
      t.unobserved = c.unobserved := by
  by_cases none : calls = []
  · subst none
    rw [List.forall₂_nil_left_iff.1 each]
    exact ⟨c, rfl, rfl⟩
  · obtain ⟨t, answered, still⟩ := runFrom_call undisturbed shortRequest each
    exact ⟨t, Batch.runFrom_execute none each.length_eq.symm shortReply answered, still⟩

section Told

variable {safe : Address} {chainId pageSize : Int} {owners : List Address} {nonces : List Int}

/-- The call that asks for the page at a cursor. -/
def pageCallAt (c : Chain) (safe : Address) (chainId pageSize : Int) (cursor : Cursor Int) :
    Call where
  target := c.storeAddress
  data := Store.pageCalldata cursor.owner safe (.ofInt chainId) (.ofInt cursor.nonce)
    (.ofInt cursor.offset) (.ofInt pageSize)

/-- The reply to the call at a cursor. -/
def pageReplyAt (c : Chain) (safe : Address) (chainId pageSize : Int) (cursor : Cursor Int) :
    Reply :=
  let list := c.ledger.signatures cursor.owner safe chainId cursor.nonce
  { success := true
    data := Store.pageReturn ((list.drop cursor.offset.toNat).take pageSize.toNat)
      (.ofInt list.length) }

/-- What is asked of a chain and of a pass over it for its batches for pages to come through. -/
structure TellsLists (c : Chain) (chainId pageSize : Int) (owners : List Address)
    (nonces : List Int) : Prop where
  undisturbed : c.Undisturbed
  fits : c.ledger.Fits (owners.length * nonces.length)
  chainId_mem : 0 ≤ chainId ∧ chainId < 2 ^ (256 : Nat)
  pageSize_mem : 1 ≤ pageSize ∧ pageSize < 2 ^ (256 : Nat)
  nonce_mem : ∀ nonce ∈ nonces, 0 ≤ nonce ∧ nonce < 2 ^ (256 : Nat)

/-- What is asked of them for all batches to come through. -/
structure Tells (c : Chain) (chainId pageSize : Int) (owners : List Address) (nonces : List Int) :
    Prop extends TellsLists c chainId pageSize owners nonces where
  tellable : c.ledger.Tellable

theorem TellsLists.of_unobserved (tells : c.TellsLists chainId pageSize owners nonces)
    (same : d.unobserved = c.unobserved) : d.TellsLists chainId pageSize owners nonces := by
  have ledger := (eq_of_unobserved same).1
  exact { tells with
    undisturbed := tells.undisturbed.of_unobserved same
    fits := ledger ▸ tells.fits }

theorem Tells.of_unobserved (tells : c.Tells chainId pageSize owners nonces)
    (same : d.unobserved = c.unobserved) : d.Tells chainId pageSize owners nonces := by
  have ledger := (eq_of_unobserved same).1
  exact { tells.toTellsLists.of_unobserved same with tellable := ledger ▸ tells.tellable }

/-- There are no more open cursors than lists asked for. -/
theorem length_pending_le {pending : List (Cursor Int)}
    (distinct : (pending.map Cursor.key).Nodup)
    (asked : ∀ cursor ∈ pending, cursor.owner ∈ owners ∧ cursor.nonce ∈ nonces) :
    pending.length ≤ owners.length * nonces.length := by
  have within : pending.map Cursor.key ⊆ owners ×ˢ nonces := by
    intro key member
    obtain ⟨cursor, isPending, rfl⟩ := List.mem_map.1 member
    exact List.mem_product.2 (asked cursor isPending)
  have few := distinct.length_le_of_subset within
  rw [List.length_map, List.length_product] at few
  exact few

/-- The octets of the replies to a batch for pages. -/
theorem sum_pageReplyAt_le {pending : List (Cursor Int)}
    (distinct : (pending.map Cursor.key).Nodup) :
    (pending.map fun cursor => 160 + (c.pageReplyAt safe chainId pageSize cursor).data.length).sum ≤
      256 * pending.length + 96 * c.ledger.filings.length := by
  have each : ∀ cursor : Cursor Int,
      160 + (c.pageReplyAt safe chainId pageSize cursor).data.length ≤
        256 + 96 * (c.ledger.signatures cursor.owner safe chainId cursor.nonce).length := by
    intro cursor
    simp only [pageReplyAt, Store.length_pageReturn, List.length_take, List.length_drop]
    omega
  have most := List.sum_le_sum fun cursor (_ : cursor ∈ pending) => each cursor
  have lists := c.ledger.sum_lists_le safe chainId distinct
  rw [sum_map_linear] at most
  simp only [List.map_map, Function.comp_def, Cursor.key] at lists
  omega

namespace TellsLists

variable {cursor : Cursor Int} (tells : c.TellsLists chainId pageSize owners nonces)
include tells

theorem length_lt (signer : Address) (nonce : Int) :
    (c.ledger.signatures signer safe chainId nonce).length < 2 ^ (256 : Nat) := by
  have few := c.ledger.length_signatures_le signer safe chainId nonce
  have fits := tells.fits
  unfold Ledger.Fits at fits
  omega

theorem offset_lt (within : cursor.Within
    (c.ledger.signatures cursor.owner safe chainId cursor.nonce)) :
    cursor.offset < 2 ^ (256 : Nat) := by
  have few : (c.ledger.signatures cursor.owner safe chainId cursor.nonce).length < _ :=
    tells.length_lt cursor.owner cursor.nonce
  have least := within.1
  have most := within.2
  omega

/-- The call at a cursor within its list can be made. -/
theorem callFor (isAsked : cursor.nonce ∈ nonces) (within : cursor.Within
    (c.ledger.signatures cursor.owner safe chainId cursor.nonce)) :
    Reader.callFor ⟨c.storeAddress, safe, chainId, .int pageSize⟩ cursor =
      .ok (c.pageCallAt safe chainId pageSize cursor) := by
  have call := Store.pageCall_eq c.storeAddress cursor.owner safe (.ofInt chainId)
    (.ofInt cursor.nonce) (.ofInt cursor.offset) (.ofInt pageSize)
  have ofNonce := tells.nonce_mem cursor.nonce isAsked
  rw [Uint256.cast_val_ofInt tells.chainId_mem.1 tells.chainId_mem.2,
    Uint256.cast_val_ofInt ofNonce.1 ofNonce.2,
    Uint256.cast_val_ofInt within.1 (tells.offset_lt within),
    Uint256.cast_val_ofInt (Int.le_of_lt tells.pageSize_mem.1) tells.pageSize_mem.2] at call
  rw [Reader.callFor_int rfl, call]
  rfl

/-- The calls at cursors within their lists can be made. -/
theorem mapM_callFor {pending : List (Cursor Int)}
    (asked : ∀ cursor ∈ pending, cursor.owner ∈ owners ∧ cursor.nonce ∈ nonces ∧
      cursor.Within (c.ledger.signatures cursor.owner safe chainId cursor.nonce)) :
    pending.mapM (Reader.callFor ⟨c.storeAddress, safe, chainId, .int pageSize⟩) =
      .ok (pending.map (c.pageCallAt safe chainId pageSize)) := by
  rw [mapM_eq_ok_iff, List.forall₂_map_right_iff, List.forall₂_same]
  intro cursor member
  exact tells.callFor (asked cursor member).2.1 (asked cursor member).2.2

/-- The call at a cursor within its list is answered by the page there. -/
theorem makes (isAsked : cursor.nonce ∈ nonces) (within : cursor.Within
    (c.ledger.signatures cursor.owner safe chainId cursor.nonce)) :
    Batch.Makes slot (fun d => d.unobserved = c.unobserved)
      (c.pageCallAt safe chainId pageSize cursor) (c.pageReplyAt safe chainId pageSize cursor) := by
  have ofChain := Uint256.cast_val_ofInt tells.chainId_mem.1 tells.chainId_mem.2
  have ofNonce := tells.nonce_mem cursor.nonce isAsked
  have few : (c.ledger.signatures cursor.owner safe chainId cursor.nonce).length < _ :=
    tells.length_lt cursor.owner cursor.nonce
  have total : Uint256.ofInt (c.ledger.signatures cursor.owner safe chainId cursor.nonce).length =
      ⟨_, few⟩ := Fin.ext (Nat.mod_eq_of_lt few)
  have made := makes_pageCall tells.undisturbed cursor.owner safe (.ofInt chainId)
    (.ofInt cursor.nonce) (.ofInt cursor.offset) (.ofInt pageSize)
  simp only [ofChain, Uint256.cast_val_ofInt ofNonce.1 ofNonce.2,
    Uint256.val_ofInt (tells.offset_lt within), Uint256.val_ofInt tells.pageSize_mem.2] at made
  simp only [pageCallAt, pageReplyAt, total]
  exact made few

/-- The page at a cursor is the one that is asked for. -/
theorem isWholePage (cursor : Cursor Int) :
    cursor.IsWholePage pageSize.toNat
      (c.ledger.signatures cursor.owner safe chainId cursor.nonce)
      (c.pageReplyAt safe chainId pageSize cursor) := by
  have fits := tells.fits
  unfold Ledger.Fits at fits
  have few := c.ledger.length_signatures_le cursor.owner safe chainId cursor.nonce
  have total :
      (Uint256.ofInt (c.ledger.signatures cursor.owner safe chainId cursor.nonce).length).val =
        (c.ledger.signatures cursor.owner safe chainId cursor.nonce).length :=
    Nat.mod_eq_of_lt (by simp only [Int.toNat_natCast]; omega)
  refine ⟨rfl, (Store.decodePage_pageReturn ?_).trans (by rw [total])⟩
  simp only [List.length_take, List.length_drop]
  omega

/-- The page at a cursor is a truthful one. -/
theorem turns (within : cursor.Within
    (c.ledger.signatures cursor.owner safe chainId cursor.nonce)) :
    cursor.Turns (c.ledger.signatures cursor.owner safe chainId cursor.nonce)
      (cursor.absorb (c.pageReplyAt safe chainId pageSize cursor)) := by
  have positive := tells.pageSize_mem.1
  exact (tells.isWholePage cursor).turns (by omega) within

/-- A batch for pages comes through if what is asked and what is answered is short enough. -/
theorem runFrom_shortPages {pending : List (Cursor Int)}
    (asked : ∀ cursor ∈ pending, cursor.owner ∈ owners ∧ cursor.nonce ∈ nonces ∧
      cursor.Within (c.ledger.signatures cursor.owner safe chainId cursor.nonce))
    (shortRequest : 64 + 388 * pending.length < 2 ^ (256 : Nat))
    (shortReply : 64 + (pending.map fun cursor =>
      160 + (c.pageReplyAt safe chainId pageSize cursor).data.length).sum < 2 ^ (256 : Nat)) :
    ∃ t, (Batch.execute node c.batchAddress
        (pending.map (c.pageCallAt safe chainId pageSize))).runFrom c =
      (.ok (pending.map (c.pageReplyAt safe chainId pageSize)), t) ∧
        t.unobserved = c.unobserved := by
  refine runFrom_execute tells.undisturbed ?_ ?_ ?_
  · have each : ∀ cursor : Cursor Int,
        192 + (c.pageCallAt safe chainId pageSize cursor).data.length = 388 := by
      intro cursor
      rw [pageCallAt, Store.length_pageCalldata]
    simp only [List.map_map, Function.comp_def, each, sum_map_const]
    omega
  · simp only [List.map_map, Function.comp_def]
    exact shortReply
  · rw [List.forall₂_map_left_iff, List.forall₂_map_right_iff, List.forall₂_same]
    exact fun cursor member => tells.makes (asked cursor member).2.1 (asked cursor member).2.2

/-- A batch for pages of different lists comes through. -/
theorem runFrom_pages {pending : List (Cursor Int)} (distinct : (pending.map Cursor.key).Nodup)
    (asked : ∀ cursor ∈ pending, cursor.owner ∈ owners ∧ cursor.nonce ∈ nonces ∧
      cursor.Within (c.ledger.signatures cursor.owner safe chainId cursor.nonce)) :
    ∃ t, (Batch.execute node c.batchAddress
        (pending.map (c.pageCallAt safe chainId pageSize))).runFrom c =
      (.ok (pending.map (c.pageReplyAt safe chainId pageSize)), t) ∧
        t.unobserved = c.unobserved := by
  have fits := tells.fits
  unfold Ledger.Fits at fits
  have few := length_pending_le distinct fun cursor member =>
    ⟨(asked cursor member).1, (asked cursor member).2.1⟩
  have most : (pending.map fun cursor =>
      160 + (c.pageReplyAt safe chainId pageSize cursor).data.length).sum ≤ _ :=
    sum_pageReplyAt_le distinct
  exact tells.runFrom_shortPages asked (by omega) (by omega)

/-- A chain tells the truth about the lists of its ledger. -/
theorem isPaged (safe : Address) :
    Reader.IsPaged ⟨c.storeAddress, safe, chainId, .int pageSize⟩
      (Batch.execute node c.batchAddress) owners nonces (fun d => d.unobserved = c.unobserved)
      (fun d => d.ledger.holdings safe chainId) where
  pages := by
    intro s pending same _ distinct asked
    have here := tells.of_unobserved same
    obtain ⟨-, store, batch⟩ := eq_of_unobserved same
    obtain ⟨t, answered, still⟩ := here.runFrom_pages distinct asked
    have ledger := (eq_of_unobserved still).1
    rw [batch] at answered
    refine ⟨_, _, t, store ▸ here.mapM_callFor asked, answered, still.trans same, ?_, ?_⟩
    · rw [ledger]
      exact .refl _
    · rw [ledger, List.forall₂_map_right_iff, List.forall₂_same]
      exact fun cursor member => here.turns (asked cursor member).2.2

end TellsLists

/-- A batch of lookups of distinct hashes in the lists is short enough to be read. -/
theorem TellsLists.lookups_lt (tells : c.TellsLists chainId pageSize owners nonces)
    {hashes : List Word} (distinct : hashes.Nodup)
    (filed : ∀ hash ∈ hashes, ∃ signer nonce, ∃ g ∈ c.ledger.signatures signer safe chainId nonce,
      g.txHash = hash) :
    64 + ((hashes.map (Store.lookupCall c.storeAddress)).map
      fun call => 192 + call.data.length).sum < 2 ^ (256 : Nat) := by
  have fits := tells.fits
  unfold Ledger.Fits at fits
  have few := Ledger.length_hashes_le distinct filed
  simp only [List.map_map, Function.comp_def, Store.length_lookupCall, sum_map_const]
  omega

/-- A batch of lookups of distinct hashes in the lists comes through, and says what is kept. -/
theorem TellsLists.runFrom_lookups (tells : c.TellsLists chainId pageSize owners nonces)
    {hashes : List Word} (distinct : hashes.Nodup)
    (filed : ∀ hash ∈ hashes, ∃ signer nonce, ∃ g ∈ c.ledger.signatures signer safe chainId nonce,
      g.txHash = hash)
    (tellable : ∀ hash ∈ hashes, ∀ t, c.ledger.transaction? hash = some t → t.Tellable) :
    ∃ replies t, (Batch.execute node c.batchAddress
        (hashes.map (Store.lookupCall c.storeAddress))).runFrom c = (.ok replies, t) ∧
      t.unobserved = c.unobserved ∧
      List.Forall₂ (fun hash reply => Resolution.absorb hash reply =
        .ofContent hash (c.ledger.transaction? hash)) hashes replies := by
  have fits := tells.fits
  unfold Ledger.Fits at fits
  have few := Ledger.length_hashes_le distinct filed
  have records : ∀ hash ∈ hashes, ∃ data,
      Ledger.recordData (c.ledger.transaction? hash) = .ok data ∧ data ≠ [] ∧
      data.length ≤ 415 + ((c.ledger.transaction? hash).elim 0 fun t => t.data.length) ∧
      (data.length < 2 ^ (256 : Nat) → ∀ asked, Store.decodeLookup asked data =
        .ok (.ofContent asked (c.ledger.transaction? hash))) :=
    fun hash member => Ledger.exists_recordData (tellable hash member)
  -- The size of a record bounds the batch, and only a batch that is short enough can be read.
  choose! data told any size read using records
  let reply (hash : Word) : Reply := { success := true, data := data hash }
  have shortRequest := tells.lookups_lt distinct filed
  have kept := c.ledger.sum_data_le distinct
  have shortReply : 64 + ((hashes.map reply).map fun reply => 160 + reply.data.length).sum <
      2 ^ (256 : Nat) := by
    have each : ∀ hash ∈ hashes, 160 + (data hash).length ≤
        575 + 1 * ((c.ledger.transaction? hash).elim 0 fun t => t.data.length) := by
      intro hash member
      have := size hash member
      omega
    have most := List.sum_le_sum each
    rw [sum_map_linear] at most
    simp only [List.map_map, Function.comp_def, reply]
    omega
  have each : List.Forall₂ (Batch.Makes slot fun d => d.unobserved = c.unobserved)
      (hashes.map (Store.lookupCall c.storeAddress)) (hashes.map reply) := by
    rw [List.forall₂_map_left_iff, List.forall₂_map_right_iff, List.forall₂_same]
    exact fun hash member => makes_lookupCall tells.undisturbed (told hash member)
  obtain ⟨t, answered, still⟩ := runFrom_execute tells.undisturbed shortRequest shortReply each
  refine ⟨_, t, answered, still, ?_⟩
  rw [List.forall₂_map_right_iff, List.forall₂_same]
  intro hash member
  have one := c.ledger.sum_data_le (List.nodup_singleton hash)
  simp only [List.map_cons, List.map_nil, List.sum_cons, List.sum_nil, Nat.add_zero] at one
  have small := size hash member
  have hasData : (reply hash).hasData = true := by
    simpa [Reply.hasData, reply] using any hash member
  rw [Resolution.absorb, if_pos hasData, read hash member (by omega) hash]

/-- A chain tells the truth about its ledger, as far as it can be told. -/
theorem TellsLists.isTold (tells : c.TellsLists chainId pageSize owners nonces)
    (tellable : c.ledger.TellableFor safe chainId owners nonces) :
    Reader.IsTold ⟨c.storeAddress, safe, chainId, .int pageSize⟩
      (Batch.execute node c.batchAddress) owners nonces (fun d => d.unobserved = c.unobserved)
      (fun d => d.ledger.holdings safe chainId) where
  toIsPaged := tells.isPaged safe
  lookups := by
    intro s hashes same distinct filed
    have here := tells.of_unobserved same
    obtain ⟨sameLedger, store, batch⟩ := eq_of_unobserved same
    have filedHere : ∀ hash ∈ hashes, ∃ signer nonce,
        ∃ g ∈ s.ledger.signatures signer safe chainId nonce, g.txHash = hash := by
      intro hash member
      obtain ⟨owner, -, nonce, -, listed⟩ := filed hash member
      exact ⟨owner, nonce, listed⟩
    have tellableHere : ∀ hash ∈ hashes, ∀ t, s.ledger.transaction? hash = some t →
        t.Tellable := by
      intro hash member
      obtain ⟨owner, isOwner, nonce, isAsked, g, listed, ofHash⟩ := filed hash member
      rw [sameLedger] at listed ⊢
      exact tellable nonce isAsked hash
        (Holdings.mem_hashes.2 ⟨g, Holdings.mem_filed.2 ⟨owner, isOwner, listed⟩, ofHash⟩)
    obtain ⟨replies, t, answered, still, resolved⟩ :=
      here.runFrom_lookups distinct filedHere tellableHere
    have ledger := (eq_of_unobserved still).1
    rw [batch, store] at answered
    refine ⟨replies, t, answered, still.trans same, ?_, ?_⟩
    · rw [ledger]
      exact .refl _
    · rw [ledger]
      exact resolved

/-- A pass over an undisturbed chain comes to the queue of its ledger. -/
theorem TellsLists.runFrom_queueOf (tells : c.TellsLists chainId pageSize owners nonces)
    (tellable : c.ledger.TellableFor safe chainId owners nonces)
    (ascends : Ascending (fun n : Int => n) nonces) :
    ∃ t, (Reader.queueOf ⟨c.storeAddress, safe, chainId, .int pageSize⟩
        (Batch.execute node c.batchAddress) owners nonces).runFrom c =
      (.ok ((c.ledger.holdings safe chainId).queue owners nonces), t) := by
  obtain ⟨seen, t, run, same, grows, growsOn⟩ := (tells.isTold tellable).exists_queue rfl ascends
  have ledger := (eq_of_unobserved same).1
  rw [ledger] at growsOn
  rw [grows.antisymm growsOn]
  exact ⟨t, run⟩

/-- A pass over a window of an undisturbed chain comes to the queue of its ledger. -/
theorem TellsLists.runFrom_reconstruct {start window : Int}
    (tells : c.TellsLists chainId pageSize owners (NonceWindow.nonces ⟨start, window.toNat⟩))
    (tellable : c.ledger.TellableFor safe chainId owners
      (NonceWindow.nonces ⟨start, window.toNat⟩))
    (fromStart : 0 ≤ start) (forward : 0 ≤ window) :
    ∃ t, (Reader.reconstruct ⟨c.storeAddress, safe, chainId, .int pageSize⟩
        (Batch.execute node c.batchAddress) owners start window).runFrom c =
      (.ok ((c.ledger.holdings safe chainId).queue owners
        (NonceWindow.nonces ⟨start, window.toNat⟩)), t) := by
  rw [Reader.runFrom_reconstruct fromStart forward]
  split
  · rename_i empty
    refine ⟨c, ?_⟩
    rcases empty with rfl | rfl
    · rfl
    · rw [Holdings.queue_nil]
  · exact tells.runFrom_queueOf tellable (NonceWindow.ascending_nonces _)

/-- The same for a chain whose whole ledger can be told. -/
theorem runFrom_reconstruct {start window : Int}
    (tells : c.Tells chainId pageSize owners (NonceWindow.nonces ⟨start, window.toNat⟩))
    (fromStart : 0 ≤ start) (forward : 0 ≤ window) :
    ∃ t, (Reader.reconstruct ⟨c.storeAddress, safe, chainId, .int pageSize⟩
        (Batch.execute node c.batchAddress) owners start window).runFrom c =
      (.ok ((c.ledger.holdings safe chainId).queue owners
        (NonceWindow.nonces ⟨start, window.toNat⟩)), t) :=
  tells.toTellsLists.runFrom_reconstruct (tells.tellable.tellableFor safe chainId owners _)
    fromStart forward

end Told

end Chain

/-- The queue of a chain that nothing disturbs is that of its ledger, as far as what is said in a
pass over it can be written as contract data. -/
theorem Client.reconstructFrom_honest {c : Chain} {storeGiven safeGiven : Value} {safe : Address}
    {ownersGiven : List Value} {owners : List Address} {chainId pageSize start window : Int}
    (undisturbed : c.Undisturbed) (tellable : c.ledger.Tellable)
    (fits : c.ledger.Fits (owners.length * window.toNat))
    (storeRead : storeGiven.toAddress = .ok c.storeAddress)
    (safeRead : safeGiven.toAddress = .ok safe)
    (ownersRead : ownersGiven.mapM Value.toAddress = .ok owners)
    (chainId_mem : 0 ≤ chainId ∧ chainId < 2 ^ (256 : Nat))
    (pageSize_mem : 1 ≤ pageSize ∧ pageSize < 2 ^ (256 : Nat)) (fromStart : 0 ≤ start)
    (forward : 0 ≤ window) (inside : start + window ≤ 2 ^ (256 : Nat)) :
    ∃ t, (reconstructFrom (Batch.execute Chain.node c.batchAddress) storeGiven safeGiven
        (.int chainId) (.int pageSize) (.list ownersGiven) (.int start) (.int window)).runFrom c =
      (.ok ((c.ledger.holdings safe chainId).queue owners
        (NonceWindow.nonces ⟨start, window.toNat⟩)), t) := by
  have tells : c.Tells chainId pageSize owners (NonceWindow.nonces ⟨start, window.toNat⟩) :=
    { undisturbed, tellable, chainId_mem, pageSize_mem
      fits := by simpa [NonceWindow.nonces] using fits
      nonce_mem := fun nonce => NonceWindow.mem_words fromStart inside }
  rw [runFrom_reconstructFrom storeRead safeRead ownersRead (by omega) fromStart forward]
  exact Chain.runFrom_reconstruct tells fromStart forward

/-- A ledger in which two signers have signed a transaction, one of them twice. -/
def Ledger.sample : Ledger where
  filings :=
    [⟨.ofNat 3, .ofNat 1, 1, 0, ⟨.ofNat 32 3, .ofNat 32 8, .ofNat 32 7⟩⟩,
      ⟨.ofNat 2, .ofNat 1, 1, 0, ⟨.ofNat 32 2, .ofNat 32 8, .ofNat 32 7⟩⟩,
      ⟨.ofNat 2, .ofNat 1, 1, 0, ⟨.ofNat 32 2, .ofNat 32 9, .ofNat 32 7⟩⟩]
  transactions := [(.ofNat 32 7, { target := .ofNat 5, value := 6 })]

/-- A chain whose store has this ledger. -/
def Chain.sample : Chain := { ledger := .sample }

theorem Chain.undisturbed_sample : Chain.sample.Undisturbed := by
  constructor <;> rfl

theorem Ledger.tellable_sample : Ledger.sample.Tellable := by
  intro entry member
  obtain rfl := List.mem_singleton.1 member
  constructor <;> decide

/-- The queue of this ledger is not empty. -/
theorem Ledger.exists_group_sample (owners : List Address) (known : .ofNat 2 ∈ owners) :
    ∃ group ∈ (Ledger.sample.holdings (.ofNat 1) 1).queue owners (NonceWindow.nonces ⟨0, 2⟩),
      group.nonce = 0 := by
  refine Holdings.exists_group_iff.2 ⟨NonceWindow.mem_nonces.2 (by decide), .ofNat 2, known,
    ⟨.ofNat 32 2, .ofNat 32 8, .ofNat 32 7⟩, ?_, ?_⟩
  · decide
  · decide

/-- A pass over the first two nonces of two owners, one of them given twice. -/
def Client.samplePass {σ : Type} (pageSize : Int) (executor : Executor σ) :
    Query σ (List Contenders) :=
  reconstructFrom executor (.text "0x5e669c1f2f9629b22dd05fbff63313a49f87d4e6")
    (.text "0x0000000000000000000000000000000000000001") (.int 1) (.int pageSize)
    (.list [.text "0x0000000000000000000000000000000000000002",
      .text "0000000000000000000000000000000000000003",
      .text "0X0000000000000000000000000000000000000002"]) (.int 0) (.int 2)

/-- It tells all that a pass by pages of one signature asks for. -/
theorem Chain.tells_sample :
    Chain.sample.Tells 1 1 [.ofNat 2, .ofNat 3, .ofNat 2] (NonceWindow.nonces ⟨0, 2⟩) where
  undisturbed := Chain.undisturbed_sample
  tellable := Ledger.tellable_sample
  fits := by unfold Ledger.Fits; decide
  chainId_mem := by decide
  pageSize_mem := by decide
  nonce_mem := by decide

/-- By pages that hold a whole list; the queue is not empty. -/
theorem Client.reconstructFrom_sample :
    ∃ groups t, (samplePass 50 (Batch.execute Chain.node Chain.sample.batchAddress)).runFrom
        Chain.sample = (.ok groups, t) ∧
      groups = (Ledger.sample.holdings (.ofNat 1) 1).queue [.ofNat 2, .ofNat 3, .ofNat 2]
        (NonceWindow.nonces ⟨0, 2⟩) ∧ ∃ group ∈ groups, group.nonce = 0 := by
  have pass : ∃ t, (samplePass 50 (Batch.execute Chain.node Chain.sample.batchAddress)).runFrom
      Chain.sample = (.ok ((Ledger.sample.holdings (.ofNat 1) 1).queue
        [.ofNat 2, .ofNat 3, .ofNat 2] (NonceWindow.nonces ⟨0, 2⟩)), t) :=
    reconstructFrom_honest Chain.undisturbed_sample Ledger.tellable_sample
      (by unfold Ledger.Fits; decide) rfl rfl rfl (by decide) (by decide) (by decide) (by decide)
      (by decide)
  obtain ⟨t, run⟩ := pass
  exact ⟨_, t, run, rfl, Ledger.exists_group_sample _ (by decide)⟩

end MultisigQueue
