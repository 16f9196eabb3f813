/-
Module: MultisigQueue.Proofs.Simulation.Safe
Purpose: The configuration of a deployed Safe, as a chain tells it in one batch.
Main exports:
  DeployedSafe.Tells, DeployedSafe.Tells.answer_questions, Chain.answerAt, Chain.runFrom_slot,
  Chain.Offers, Chain.Reachable.readConfiguration_eq_ok,
  Chain.Reachable.readConfiguration_eq_error
-/
import MultisigQueue.Proofs.Safe
import MultisigQueue.Proofs.Simulation.Chain

namespace MultisigQueue

/-!
A deployed Safe answers each of the seven calls from its parts. Where the store does not stand a
chain answers without noting anything, so a batch for a configuration leaves nothing behind but the
round trip itself. If a call is reverted the batch fails; if one returns nothing the batch comes
through, and it is the reader who refuses it.
-/

namespace DeployedSafe

open AbiType Safe

/-- Whether the parts of a deployed Safe can be told, and are those of a snapshot. Owners and
modules stand for addresses where contract data takes them for such, the contents of a storage slot
where they can be read as one. -/
structure Tells (d : DeployedSafe) (s : Snapshot) : Prop where
  owners : d.owners.mapM (accept? d.caseRule .address) = some s.owners
  threshold : d.threshold = .int s.threshold.val
  nonce : d.nonce = .int s.nonce.val
  fallbackHandler : d.fallbackHandler.toAddress = .ok s.fallbackHandler
  guard : d.guard.toAddress = .ok s.guard
  singleton : d.singleton.toAddress = .ok s.singleton
  modules : d.modules.mapM (accept? d.caseRule .address) = some s.modules

variable {d : DeployedSafe} {s : Snapshot}

/-- The module behind a page can be told like all others. -/
theorem Tells.moduleBehind (tells : d.Tells s) (size : Nat) :
    accept? d.caseRule .address ((d.modules[size]?).getD (.bytes sentinel.bytes)) =
      some (s.moduleBehind size) := by
  have each := mapM_eq_some_iff.1 tells.modules
  rw [Snapshot.moduleBehind]
  by_cases within : size < d.modules.length
  · have there : size < s.modules.length := each.length_eq ▸ within
    rw [List.getElem?_eq_getElem within, List.getElem?_eq_getElem there]
    exact each.get within there
  · have beyond : s.modules.length ≤ size := each.length_eq ▸ Nat.le_of_not_lt within
    rw [List.getElem?_eq_none (Nat.le_of_not_lt within), List.getElem?_eq_none beyond]
    rfl

/-- The answer to a call that asks for the owners. -/
theorem answer_owners (taken : d.owners.mapM (accept? d.caseRule .address) = some s.owners) :
    d.answer (ownersFunction.calldata ()) = .ok (some (ownersReturn s.owners)) := by
  have list : accept? d.caseRule (.array .address) (.list d.owners) = some s.owners := taken
  have encoded : ownersFunction.encodeOutput [.list d.owners] d.caseRule =
      .ok (ownersReturn s.owners) :=
    AbiFunction.encodeOutput_eq_ok_iff.2 ⟨_, acceptAll?_cons list rfl, rfl⟩
  have selector : (ownersFunction.calldata ()).take 4 = ownersFunction.selector :=
    AbiFunction.take_calldata _ _
  simp only [answer, selector, if_true, encoded]
  rfl

/-- The answer to a call that asks for the threshold. -/
theorem answer_threshold {threshold : Uint256} (same : d.threshold = .int threshold.val) :
    d.answer (thresholdFunction.calldata ()) = .ok (some (thresholdReturn threshold)) := by
  have encoded : thresholdFunction.encodeOutput [d.threshold] = .ok (thresholdReturn threshold) :=
    AbiFunction.encodeOutput_eq_ok_iff.2
      ⟨_, acceptAll?_cons (by rw [same]; exact accept?_uint threshold) rfl, rfl⟩
  have selector : (thresholdFunction.calldata ()).take 4 = thresholdFunction.selector :=
    AbiFunction.take_calldata _ _
  simp only [answer, selector, selector_threshold, if_false, if_true, encoded]
  rfl

/-- The answer to a call that asks for the nonce. -/
theorem answer_nonce {nonce : Uint256} (same : d.nonce = .int nonce.val) :
    d.answer (nonceFunction.calldata ()) = .ok (some (nonceReturn nonce)) := by
  have encoded : nonceFunction.encodeOutput [d.nonce] = .ok (nonceReturn nonce) :=
    AbiFunction.encodeOutput_eq_ok_iff.2
      ⟨_, acceptAll?_cons (by rw [same]; exact accept?_uint nonce) rfl, rfl⟩
  have selector : (nonceFunction.calldata ()).take 4 = nonceFunction.selector :=
    AbiFunction.take_calldata _ _
  simp only [answer, selector, selector_nonce, if_false, if_true, encoded]
  rfl

/-- The answer to a read of a storage slot. -/
theorem answer_storageData {slot : Slot} {a : Address}
    (stands : (d.slotAddress slot).toAddress = .ok a) :
    d.answer (storageData slot) = .ok (some (storageReturn a)) := by
  have read : storageFunction.decodeInput (storageData slot) = .ok (slot, ⟨1, by decide⟩, ()) :=
    AbiFunction.decodeInput_calldata_static rfl rfl (by decide) _
  have encoded : storageFunction.encodeOutput [.bytes a.word.bytes] = .ok (storageReturn a) :=
    AbiFunction.encodeOutput_eq_ok_iff.2 ⟨_, acceptAll?_cons (accept?_bytes _) rfl, rfl⟩
  have selector : (storageData slot).take 4 = storageFunction.selector :=
    AbiFunction.take_calldata _ _
  simp only [answer, selector, selector_storage, if_false, if_true]
  refine bind_eq_ok_iff.2 ⟨(slot, ⟨1, by decide⟩, ()), by rw [read]; rfl, ?_⟩
  refine bind_eq_ok_iff.2 ⟨a, by rw [stands]; rfl, ?_⟩
  exact bind_eq_ok_iff.2 ⟨storageReturn a, by rw [encoded]; rfl, rfl⟩

/-- The answer to a call that asks for a page of modules. -/
theorem answer_modules (tells : d.Tells s) (size : Uint256) :
    d.answer (modulesFunction.calldata (sentinel, size, ())) =
      .ok (some (modulesReturn (s.modules.take size.val) (s.moduleBehind size.val))) := by
  have read : modulesFunction.decodeInput (modulesFunction.calldata (sentinel, size, ())) =
      .ok (sentinel, size, ()) :=
    AbiFunction.decodeInput_calldata_static rfl rfl (by decide) _
  have encoded : modulesFunction.encodeOutput (d.modulePage size.val) d.caseRule =
      .ok (modulesReturn (s.modules.take size.val) (s.moduleBehind size.val)) :=
    AbiFunction.encodeOutput_eq_ok_iff.2
      ⟨_, acceptAll?_cons (accept?_addresses_take tells.modules size.val) <|
        acceptAll?_cons (tells.moduleBehind size.val) rfl, rfl⟩
  have selector : (modulesFunction.calldata (sentinel, size, ())).take 4 =
      modulesFunction.selector := AbiFunction.take_calldata _ _
  simp only [answer, selector, selector_modules, if_false, if_true]
  refine bind_eq_ok_iff.2 ⟨(sentinel, size, ()), by rw [read]; rfl, ?_⟩
  simp only [if_true]
  exact bind_eq_ok_iff.2 ⟨_, by rw [encoded]; rfl, rfl⟩

/-- The three slots are told apart. -/
theorem slotAddress_slots (d : DeployedSafe) :
    d.slotAddress fallbackSlot = d.fallbackHandler ∧ d.slotAddress guardSlot = d.guard ∧
      d.slotAddress singletonSlot = d.singleton := by
  have guardSlot_ne : guardSlot ≠ fallbackSlot := by decide
  have singletonSlot_ne : singletonSlot ≠ fallbackSlot ∧ singletonSlot ≠ guardSlot := by decide
  simp only [slotAddress, if_true, guardSlot_ne, singletonSlot_ne, if_false, and_self]

/-- A deployed Safe answers the seven calls by what its snapshot says. -/
theorem Tells.answer_questions (tells : d.Tells s) (size : Uint256) :
    (questions size).mapM d.answer = .ok ((s.returned size.val).map some) := by
  rcases d.slotAddress_slots with ⟨fallback, guard, singleton⟩
  refine mapM_eq_ok_iff.2 <| .cons (answer_owners tells.owners) <|
    .cons (answer_threshold tells.threshold) <| .cons (answer_storageData ?_) <|
    .cons (answer_nonce tells.nonce) <| .cons (answer_storageData ?_) <|
    .cons (answer_storageData ?_) <| .cons (answer_modules tells size) .nil
  · rw [fallback]
    exact tells.fallbackHandler
  · rw [guard]
    exact tells.guard
  · rw [singleton]
    exact tells.singleton

end DeployedSafe

namespace Chain

open Safe

variable {c : Chain} {safe : Address} {size : Uint256}

/-- What a chain answers to a call of an address at which the store does not stand. -/
def answerAt (c : Chain) (target : Address) (data : Bytes) : Except Fault (Option Bytes) :=
  match c.slots.find? fun entry => entry.1.isPrefixOf (Hex.digits data) with
  | some (_, answer) => .ok answer
  | none =>
    match c.safes.find? fun entry => entry.1 = target with
    | some (_, safe) => safe.answer data
    | none => .ok (some [])

/-- Such a call leaves the chain as it is. -/
theorem runFrom_slot {target : Address} (elsewhere : target ≠ c.storeAddress) (data : Bytes) :
    (slot target data).runFrom c = (c.answerAt target data, c) := by
  simp only [slot, Query.runFrom_bind, Query.runFrom_get]
  rw [answerAt]
  cases c.slots.find? fun entry => entry.1.isPrefixOf (Hex.digits data) with
  | some entry => rfl
  | none =>
      simp only [if_neg elsewhere]
      cases c.safes.find? fun entry => entry.1 = target with
      | some entry => rfl
      | none => rfl

/-- What has been noted has no part in the answers. -/
theorem runFrom_slot_noted {target : Address} (elsewhere : target ≠ c.storeAddress) {data : Bytes}
    {result : Option Bytes} (answered : c.answerAt target data = .ok result) (count : Nat) :
    (slot target data).runFrom (c.noted count) = (.ok result, c.noted count) := by
  have there : target ≠ (c.noted count).storeAddress := elsewhere
  have same : (c.noted count).answerAt target data = c.answerAt target data := rfl
  rw [runFrom_slot there, same, answered]

/-- A batch for a configuration comes through if every call returns something, even nothing. -/
theorem Reachable.runFrom_execute_returned (reachable : c.Reachable)
    (elsewhere : safe ≠ c.storeAddress) {returned : List Bytes}
    (each : (questions size).mapM (c.answerAt safe) = .ok (returned.map some))
    (short : 64 + (returned.map fun out => 160 + out.length).sum < 2 ^ (256 : Nat)) :
    (Batch.execute node c.batchAddress (calls safe size)).runFrom c =
      (.ok (returned.map fun data => { success := true, data }), c.noted 7) := by
  have made : List.Forall₂ (Batch.Makes slot fun d => d = c.noted 7) (calls safe size)
      (returned.map fun data => { success := true, data }) := by
    rw [mapM_eq_ok_iff, List.forall₂_map_right_iff] at each
    rw [calls, List.forall₂_map_left_iff, List.forall₂_map_right_iff]
    refine each.imp fun data out answered => ?_
    rintro _ rfl
    exact ⟨some out, c.noted 7, runFrom_slot_noted elsewhere answered 7, rfl, by simp, rfl⟩
  obtain ⟨t, served, rfl⟩ := Batch.runFrom_serve (sum_calls_lt safe size) made rfl
  refine Batch.runFrom_execute (calls_ne_nil safe size) made.length_eq.symm ?_ ?_
  · rw [List.map_map]
    exact short
  · rw [reachable.runFrom_call (sum_calls_lt safe size)]
    exact served

/-- A batch for a configuration fails if a call is reverted. -/
theorem Reachable.runFrom_execute_reverted (reachable : c.Reachable)
    (elsewhere : safe ≠ c.storeAddress) {results : List (Option Bytes)}
    (each : (questions size).mapM (c.answerAt safe) = .ok results) (reverted : none ∈ results) :
    (Batch.execute node c.batchAddress (calls safe size)).runFrom c =
      (.error Batch.callFailed, c.noted 7) := by
  obtain ⟨data, asked, noResult⟩ := exists_of_mem_mapM each reverted
  have fails : (Batch.serveCalls slot (calls safe size)).runFrom (c.noted 7) =
      (.error Batch.callFailed, c.noted 7) := by
    refine Batch.runFrom_serveCalls_of_revert ?_ (List.mem_map.2 ⟨data, asked, rfl⟩) rfl
      (runFrom_slot_noted elsewhere noResult 7)
    intro call member
    rcases List.mem_map.1 member with ⟨other, isAsked, rfl⟩
    rcases exists_ok_of_mapM each isAsked with ⟨result, -, answered⟩
    exact ⟨result, runFrom_slot_noted elsewhere answered 7⟩
  rw [Batch.runFrom_execute_of_ne_nil (calls_ne_nil safe size),
    reachable.runFrom_call (sum_calls_lt safe size)]
  simp only [Batch.serve, Batch.decodeCalls_encode (sum_calls_lt safe size), Query.runFrom_bind,
    Query.runFrom_abi, Except.mapError, length_calls, fails]

/-- Whether a Safe stands on a chain, and nothing is in the way of its configuration. -/
structure Offers (c : Chain) (safe : Address) (d : DeployedSafe) : Prop where
  elsewhere : safe ≠ c.storeAddress
  installed : c.safes.find? (fun entry => entry.1 = safe) = some (safe, d)
  unscripted : ∀ (size : Uint256), ∀ data ∈ questions size,
    c.slots.find? (fun entry => entry.1.isPrefixOf (Hex.digits data)) = none

/-- The chain passes the seven calls on to the Safe. -/
theorem Offers.mapM_answerAt {d : DeployedSafe} (offers : c.Offers safe d) (size : Uint256) :
    (questions size).mapM (c.answerAt safe) = (questions size).mapM d.answer := by
  refine mapM_congr_left fun data asked => ?_
  rw [answerAt, offers.unscripted size data asked, offers.installed]

variable {given : Value}

/-- The configuration of a Safe on a chain is read in one round trip, as the Safe tells it. -/
theorem Reachable.readConfiguration_eq_ok (reachable : c.Reachable) {d : DeployedSafe}
    (offers : c.Offers safe d) {s : Snapshot} (tells : d.Tells s) (fits : s.Fits)
    (isSafe : given.toAddress = .ok safe) (size : Uint256) :
    (readConfiguration (Batch.execute node c.batchAddress) given (size.val : Int)).runFrom c =
      (.ok (s.configuration size.val), c.noted 7) := by
  have each := (offers.mapM_answerAt size).trans (tells.answer_questions size)
  have short : 64 + ((s.returned size.val).map fun out => 160 + out.length).sum <
      2 ^ (256 : Nat) := by
    have most := s.sum_replies_le size.val
    rw [Snapshot.replies, List.map_map] at most
    exact Nat.lt_of_le_of_lt most fits
  rw [runFrom_readConfiguration isSafe,
    reachable.runFrom_execute_returned offers.elsewhere each short]
  exact congrArg (·, c.noted 7) (decodeConfiguration_replies fits size.val)

/-- Where a call is reverted or returns nothing, there is no configuration but a report of the
node's or of the reader's; and no more than the one round trip has been made. -/
theorem Reachable.readConfiguration_eq_error (reachable : c.Reachable)
    (elsewhere : safe ≠ c.storeAddress) (isSafe : given.toAddress = .ok safe)
    {results : List (Option Bytes)}
    (each : (questions size).mapM (c.answerAt safe) = .ok results)
    (short : 64 + (results.map fun result => 160 + (result.getD []).length).sum < 2 ^ (256 : Nat))
    (missing : none ∈ results ∨ some [] ∈ results) :
    ∃ e, (readConfiguration (Batch.execute node c.batchAddress) given (size.val : Int)).runFrom c =
      (.error (.rpc e), c.noted 7) := by
  rw [runFrom_readConfiguration isSafe]
  by_cases reverted : none ∈ results
  · rw [reachable.runFrom_execute_reverted elsewhere each reverted]
    exact ⟨_, rfl⟩
  · obtain ⟨returned, rfl⟩ : ∃ returned : List Bytes, results = returned.map some := by
      refine ⟨results.map fun result => result.getD [], ?_⟩
      rw [List.map_map]
      refine (List.map_id results).symm.trans (List.map_congr_left fun result member => ?_)
      cases result with
      | none => exact absurd member reverted
      | some data => rfl
    have nothing : [] ∈ returned := by simpa using missing
    rw [List.map_map] at short
    rw [reachable.runFrom_execute_returned elsewhere each short]
    refine ⟨readFailed, congrArg (·, c.noted 7) ?_⟩
    exact decodeConfiguration_of_not_hasData (List.mem_map.2 ⟨[], nothing, rfl⟩) rfl

end Chain

end MultisigQueue
