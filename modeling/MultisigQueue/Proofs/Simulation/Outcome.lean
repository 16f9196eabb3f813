/-
Module: MultisigQueue.Proofs.Simulation.Outcome
Purpose: What a pass over an undisturbed chain comes to, also if it cannot be told.
Main exports:
  Ledger.untold, Chain.TellsLists.runFrom_reconstruct_untold, Client.reconstructFrom_undisturbed
-/
import MultisigQueue.Proofs.Queue.Arguments
import MultisigQueue.Proofs.Simulation.Chain

namespace MultisigQueue

/-!
A ledger may keep a transaction with a number too large for the type under which it is told. Passes
that do not have to look it up know nothing of it. Any other pass reads its lists, and then fails
with its batch of lookups, in the same way for all such transactions. So what a pass comes to is in
any case determined by what the ledger holds.
-/

/-- The failure of a pass that has to look up a transaction that cannot be told. -/
def Ledger.untold : Fault := .abi (Store.transactionFunction.fail .returnValues)

namespace Chain

variable {c d : Chain} {safe : Address} {chainId pageSize : Int} {owners : List Address}
  {nonces : List Int}

/-- A transaction that cannot be told ends the batch in which it is looked up. -/
theorem runFrom_serveCalls_untold (undisturbed : c.Undisturbed)
    (same : d.unobserved = c.unobserved) {hashes : List Word}
    (untold : ∃ hash ∈ hashes, ∃ t, c.ledger.transaction? hash = some t ∧ ¬t.Tellable) :
    (Batch.serveCalls slot (hashes.map (Store.lookupCall c.storeAddress))).runFrom d =
      (.error Ledger.untold, d) := by
  induction hashes with
  | nil =>
      obtain ⟨hash, member, -⟩ := untold
      cases member
  | cons first rest ih =>
      simp only [List.map_cons, Batch.serveCalls, Query.runFrom_bind,
        runFrom_slot_lookupCall undisturbed same]
      cases told : Ledger.recordData (c.ledger.transaction? first) with
      | error e =>
          rw [Ledger.eq_of_recordData_error told]
          rfl
      | ok data =>
          have later : ∃ hash ∈ rest, ∃ t, c.ledger.transaction? hash = some t ∧ ¬t.Tellable := by
            obtain ⟨hash, member, t, kept, notTellable⟩ := untold
            rcases List.mem_cons.1 member with rfl | behind
            · rw [kept] at told
              exact absurd (Ledger.tellable_of_recordData told) notTellable
            · exact ⟨hash, behind, t, kept, notTellable⟩
          simp only [Except.map, Except.mapError, Query.runFrom_bind, Query.runFrom_pure, ih later]

theorem exists_execute_untold (undisturbed : c.Undisturbed) {hashes : List Word}
    (short : 64 + ((hashes.map (Store.lookupCall c.storeAddress)).map
      fun call => 192 + call.data.length).sum < 2 ^ (256 : Nat))
    (untold : ∃ hash ∈ hashes, ∃ t, c.ledger.transaction? hash = some t ∧ ¬t.Tellable) :
    ∃ t, (Batch.execute node c.batchAddress
      (hashes.map (Store.lookupCall c.storeAddress))).runFrom c = (.error Ledger.untold, t) := by
  have some : hashes.map (Store.lookupCall c.storeAddress) ≠ [] := by
    obtain ⟨hash, member, -⟩ := untold
    simpa using List.ne_nil_of_mem member
  obtain ⟨d, same, serves⟩ := exists_call_eq_serve undisturbed short
  refine ⟨d, ?_⟩
  rw [Batch.runFrom_execute_of_ne_nil some, serves]
  simp only [Batch.serve, Query.runFrom_bind, Query.runFrom_abi, Batch.decodeCalls_encode short,
    Except.mapError, runFrom_serveCalls_untold undisturbed same untold]

namespace TellsLists

/-- The lists are read as they are, so the hashes in them are known when lookups are made. -/
theorem exists_reads (tells : c.TellsLists chainId pageSize owners nonces) (safe : Address)
    (differ : nonces.Nodup) :
    ∃ found t, Reader.Reads ⟨c.storeAddress, safe, chainId, .int pageSize⟩
        (Batch.execute node c.batchAddress) (Cursor.first owners nonces) c found t ∧
      t.unobserved = c.unobserved ∧
      ∀ hash, hash ∈ (Tally.ofFound found).identities ↔
        ∃ nonce ∈ nonces, hash ∈ (c.ledger.holdings safe chainId).hashes owners nonce := by
  obtain ⟨found, t, reads, same, -, listed⟩ := (tells.isPaged safe).exists_reads_first rfl differ
  have ledger := (eq_of_unobserved same).1
  refine ⟨found, t, reads, same, fun hash => ?_⟩
  rw [reads.ascribed.mem_identities fun _ => none]
  refine exists_congr fun nonce => and_congr_right fun isAsked => ?_
  have filed : (Reader.told found fun _ => none).filed owners nonce =
      (c.ledger.holdings safe chainId).filed owners nonce := by
    refine List.flatMap_congr ?_
    intro owner isOwner
    obtain ⟨atFirst, atLast⟩ := listed owner isOwner nonce isAsked fun _ => none
    rw [ledger] at atLast
    exact atLast.eq_of_length_le atFirst.length_le
  rw [Holdings.mem_hashes, Holdings.mem_hashes, filed]

/-- A pass that has to look up a transaction that cannot be told fails. -/
theorem runFrom_queueOf_untold (tells : c.TellsLists chainId pageSize owners nonces)
    (untold : ¬c.ledger.TellableFor safe chainId owners nonces) (differ : nonces.Nodup) :
    ∃ t, (Reader.queueOf ⟨c.storeAddress, safe, chainId, .int pageSize⟩
        (Batch.execute node c.batchAddress) owners nonces).runFrom c =
      (.error Ledger.untold, t) := by
  obtain ⟨found, t, reads, same, signed⟩ := tells.exists_reads safe differ
  obtain ⟨ledger, store, batch⟩ := eq_of_unobserved same
  have here := tells.of_unobserved same
  let hashes := (Tally.ofFound found).identities.eraseDups
  have filed : ∀ hash ∈ hashes, ∃ signer nonce,
      ∃ g ∈ t.ledger.signatures signer safe chainId nonce, g.txHash = hash := by
    intro hash member
    obtain ⟨nonce, -, isSigned⟩ := (signed hash).1 (List.mem_eraseDups.1 member)
    obtain ⟨g, isFiled, ofHash⟩ := Holdings.mem_hashes.1 isSigned
    obtain ⟨owner, -, inList⟩ := Holdings.mem_filed.1 isFiled
    exact ⟨owner, nonce, g, ledger ▸ inList, ofHash⟩
  have isLookedUp : ∃ hash ∈ hashes, ∃ x, t.ledger.transaction? hash = some x ∧ ¬x.Tellable := by
    simp only [Ledger.TellableFor, not_forall] at untold
    obtain ⟨nonce, isAsked, hash, isSigned, x, kept, notTellable⟩ := untold
    exact ⟨hash, List.mem_eraseDups.2 ((signed hash).2 ⟨nonce, isAsked, isSigned⟩), x,
      ledger ▸ kept, notTellable⟩
  obtain ⟨u, fails⟩ := exists_execute_untold here.undisturbed
    (here.lookups_lt (nodup_eraseDups _) filed) isLookedUp
  rw [store, batch] at fails
  refine ⟨u, ?_⟩
  simp only [Reader.queueOf, resolveMany, Query.runFrom_bind,
    Reader.runFrom_readPages_eq_ok.2 reads, fails]

/-- A pass over a window that has to look up a transaction that cannot be told fails. -/
theorem runFrom_reconstruct_untold {start window : Int}
    (tells : c.TellsLists chainId pageSize owners (NonceWindow.nonces ⟨start, window.toNat⟩))
    (untold : ¬c.ledger.TellableFor safe chainId owners
      (NonceWindow.nonces ⟨start, window.toNat⟩))
    (fromStart : 0 ≤ start) (forward : 0 ≤ window) :
    ∃ t, (Reader.reconstruct ⟨c.storeAddress, safe, chainId, .int pageSize⟩
        (Batch.execute node c.batchAddress) owners start window).runFrom c =
      (.error Ledger.untold, t) := by
  have notEmpty : ¬(window = 0 ∨ owners = []) := by
    rintro (rfl | rfl)
    · exact untold fun nonce isAsked => by cases isAsked
    · refine untold fun nonce _ hash isSigned => ?_
      obtain ⟨g, isFiled, -⟩ := Holdings.mem_hashes.1 isSigned
      cases isFiled
  rw [Reader.runFrom_reconstruct fromStart forward, if_neg notEmpty]
  exact tells.runFrom_queueOf_untold untold (NonceWindow.ascending_nonces _).nodup

end TellsLists

end Chain

/-- What a pass over a chain that nothing disturbs comes to is determined by its ledger: it is the
queue of the ledger, unless a transaction has to be looked up that cannot be told. -/
theorem Client.reconstructFrom_undisturbed {c : Chain} {storeGiven safeGiven : Value}
    {safe : Address} {ownersGiven : List Value} {owners : List Address}
    {chainId pageSize start window : Int} (undisturbed : c.Undisturbed)
    (fits : c.ledger.Fits (owners.length * window.toNat))
    (asks : Asks storeGiven safeGiven chainId pageSize start window c.storeAddress safe)
    (ownersRead : ownersGiven.mapM Value.toAddress = .ok owners) :
    (c.ledger.TellableFor safe chainId owners (NonceWindow.nonces ⟨start, window.toNat⟩) →
      ∃ t, (reconstructFrom (Batch.execute Chain.node c.batchAddress) storeGiven safeGiven
          (.int chainId) (.int pageSize) (.list ownersGiven) (.int start) (.int window)).runFrom c =
        (.ok ((c.ledger.holdings safe chainId).queue owners
          (NonceWindow.nonces ⟨start, window.toNat⟩)), t)) ∧
    (¬c.ledger.TellableFor safe chainId owners (NonceWindow.nonces ⟨start, window.toNat⟩) →
      ∃ t, (reconstructFrom (Batch.execute Chain.node c.batchAddress) storeGiven safeGiven
          (.int chainId) (.int pageSize) (.list ownersGiven) (.int start) (.int window)).runFrom c =
        (.error Ledger.untold, t)) := by
  have tells : c.TellsLists chainId pageSize owners (NonceWindow.nonces ⟨start, window.toNat⟩) :=
    { undisturbed
      fits := by simpa [NonceWindow.nonces] using fits
      chainId_mem := asks.chainId_mem
      pageSize_mem := asks.pageSize_mem
      nonce_mem := fun nonce => NonceWindow.mem_words asks.fromStart asks.inside }
  rw [runFrom_reconstructFrom asks.storeRead asks.safeRead ownersRead asks.pageSize_mem.1
    asks.fromStart asks.forward]
  exact ⟨fun tellable => tells.runFrom_reconstruct tellable asks.fromStart asks.forward,
    fun untold => tells.runFrom_reconstruct_untold untold asks.fromStart asks.forward⟩

end MultisigQueue
