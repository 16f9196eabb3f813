/-
Module: MultisigQueue.Proofs.Queue.Owners
Purpose: A queue does not depend on how its owners are listed.
Main exports:
  Client.reconstructFrom_sameOwners
-/
import MultisigQueue.Proofs.Queue.Arguments
import MultisigQueue.Proofs.Queue.Extensionality
import MultisigQueue.Proofs.Queue.Isolation

namespace MultisigQueue

/-!
Two lists of owners that name the same addresses make different batches: the calls stand in another
order, and lists close at other places. The queue is the one that the holdings call for all the
same, and holdings do not know how the owners are listed.
-/

/-- Passes for two lists of owners that name the same addresses come to the same, over any node that
replies to each call by a rule. If all else can be asked for, what they come to is a queue.

A pass that asks the node has to fit into batches; this bounds neither list by more than what a
machine can hold. -/
theorem Client.reconstructFrom_sameOwners {σ : Type} {rule : Address → Bytes → Reply}
    (contract : Address) (s : σ) {storeGiven safeGiven : Value}
    {ownersGiven othersGiven : List Value} {owners others : List Address}
    {chainId pageSize start window : Int}
    (ownersRead : ownersGiven.mapM Value.toAddress = .ok owners)
    (othersRead : othersGiven.mapM Value.toAddress = .ok others)
    (same : ∀ a, a ∈ owners ↔ a ∈ others)
    (carries : ∀ store safe, Asks storeGiven safeGiven chainId pageSize start window store safe →
      Batch.Carries rule (Reader.largestBatch ⟨store, safe, chainId, .int pageSize⟩ rule owners
        (NonceWindow.nonces ⟨start, window.toNat⟩)))
    (carriesOthers : ∀ store safe,
      Asks storeGiven safeGiven chainId pageSize start window store safe →
        Batch.Carries rule (Reader.largestBatch ⟨store, safe, chainId, .int pageSize⟩ rule others
          (NonceWindow.nonces ⟨start, window.toNat⟩))) :
    (reconstructFrom (Batch.executeByRule rule contract) storeGiven safeGiven (.int chainId)
        (.int pageSize) (.list ownersGiven) (.int start) (.int window)).runFrom s =
      (reconstructFrom (Batch.executeByRule rule contract) storeGiven safeGiven (.int chainId)
        (.int pageSize) (.list othersGiven) (.int start) (.int window)).runFrom s ∧
    ∀ store safe, Asks storeGiven safeGiven chainId pageSize start window store safe →
      ∃ groups, (reconstructFrom (Batch.executeByRule rule contract) storeGiven safeGiven
        (.int chainId) (.int pageSize) (.list ownersGiven) (.int start) (.int window)).runFrom s =
          (.ok groups, s) := by
  have run := fun store safe
      (asks : Asks storeGiven safeGiven chainId pageSize start window store safe) =>
    runFrom_reconstructFrom_byRule contract s asks.storeRead asks.safeRead ownersRead
      asks.chainId_mem asks.pageSize_mem asks.fromStart asks.forward asks.inside
      (carries store safe asks)
  refine ⟨?_, fun store safe asks => ⟨_, run store safe asks⟩⟩
  cases owners with
  | nil =>
      -- Nobody is named on either side, so the lists are one and the same.
      have noOthers : others = [] :=
        List.eq_nil_iff_forall_not_mem.2 fun a isOther => by simpa using (same a).2 isOther
      subst noOthers
      rw [List.forall₂_nil_right_iff.1 (mapM_eq_ok_iff.1 ownersRead),
        List.forall₂_nil_right_iff.1 (mapM_eq_ok_iff.1 othersRead)]
  | cons first rest =>
      have someOther : others ≠ [] := List.ne_nil_of_mem ((same first).1 List.mem_cons_self)
      rcases refused_or_asks storeGiven safeGiven chainId pageSize start window with
        ⟨result, refused⟩ | ⟨store, safe, asks⟩
      · rw [refused _ ownersGiven _ s ownersRead (by simp),
          refused _ othersGiven _ s othersRead someOther]
      · rw [run store safe asks, runFrom_reconstructFrom_byRule contract s asks.storeRead
          asks.safeRead othersRead asks.chainId_mem asks.pageSize_mem asks.fromStart asks.forward
          asks.inside (carriesOthers store safe asks), Holdings.queue_sameOwners same]

/-- Two owners, and the same two with one of them given twice, in other spellings and another order.
The queue that both see is not empty. -/
theorem Client.reconstructFrom_sameOwners_sample :
    ∃ groups,
      (sampleNonce (Batch.executeByRule Batch.tellingRule (.ofNat 9))
          [.text "0x000000000000000000000000000000000000000a",
            .text "0x0000000000000000000000000000000000000003"]).runFrom () = (.ok groups, ()) ∧
      (sampleNonce (Batch.executeByRule Batch.tellingRule (.ofNat 9))
          [.bytes (FixedBytes.ofNat 20 3).bytes, .text "000000000000000000000000000000000000000A",
            .text "0x0000000000000000000000000000000000000003"]).runFrom () = (.ok groups, ()) ∧
      ∃ group ∈ groups, group.nonce = 0 := by
  have asks : Asks (.text "0x5e669c1f2f9629b22dd05fbff63313a49f87d4e6")
      (.text "0x0000000000000000000000000000000000000001") 1 50 0 1 Store.defaultAddress
      (.ofNat 1) := ⟨rfl, rfl, by decide, by decide, by decide, by decide, by decide⟩
  have ownersRead : [Value.text "0x000000000000000000000000000000000000000a",
      .text "0x0000000000000000000000000000000000000003"].mapM Value.toAddress =
        .ok [.ofNat 10, .ofNat 3] := rfl
  have othersRead : [Value.bytes (FixedBytes.ofNat 20 3).bytes,
      .text "000000000000000000000000000000000000000A",
      .text "0x0000000000000000000000000000000000000003"].mapM Value.toAddress =
        .ok [.ofNat 3, .ofNat 10, .ofNat 3] := rfl
  have carries : ∀ owners : List Address, owners.length * 1 ≤ 4 → ∀ store safe,
      Asks (.text "0x5e669c1f2f9629b22dd05fbff63313a49f87d4e6")
        (.text "0x0000000000000000000000000000000000000001") 1 50 0 1 store safe →
      Batch.Carries Batch.tellingRule (Reader.largestBatch ⟨store, safe, 1, .int 50⟩
        Batch.tellingRule owners (NonceWindow.nonces ⟨0, 1⟩)) := by
    intro owners few store safe alsoAsks
    obtain rfl := Except.ok.inj (asks.storeRead.symm.trans alsoAsks.storeRead)
    obtain rfl := Except.ok.inj (asks.safeRead.symm.trans alsoAsks.safeRead)
    exact Reader.carries_sampleWhole_of_le (by decide) few
  have same : ∀ a : Address, a ∈ [.ofNat 10, .ofNat 3] ↔ a ∈ [.ofNat 3, .ofNat 10, .ofNat 3] := by
    intro a
    simp only [List.mem_cons, List.not_mem_nil, or_false]
    tauto
  obtain ⟨equal, made⟩ := reconstructFrom_sameOwners (.ofNat 9) () ownersRead othersRead same
    (carries _ (by decide)) (carries _ (by decide))
  obtain ⟨groups, run⟩ := made _ _ asks
  refine ⟨groups, run, equal ▸ run, ?_⟩
  have told := runFrom_reconstructFrom_byRule (.ofNat 9) () asks.storeRead asks.safeRead ownersRead
    asks.chainId_mem asks.pageSize_mem asks.fromStart asks.forward asks.inside
    (carries _ (by decide) _ _ asks)
  obtain rfl := Except.ok.inj (congrArg Prod.fst (told.symm.trans run))
  have listed : (⟨.ofNat 32 1, .ofNat 32 2, .ofNat 32 7⟩ : StoredSignature) ∈
      (Reader.sampleWhole.heldBy Batch.tellingRule).list (.ofNat 3) 0 := by
    rw [Reader.list_sampleWhole]
    exact List.mem_cons_self
  exact Holdings.exists_group_iff.2 ⟨NonceWindow.mem_nonces.2 (by decide), _,
    List.mem_cons_of_mem _ (List.mem_singleton_self _), _, listed,
    by rw [Reader.content_tellingRule]; rfl⟩

end MultisigQueue
