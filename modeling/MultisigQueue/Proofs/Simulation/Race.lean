/-
Module: MultisigQueue.Proofs.Simulation.Race
Purpose: Submissions that race with a pass are neither lost nor shown by halves.
Main exports:
  Race, Race.node, Race.Tells, Race.runFrom_reconstruct, Client.covers_race
-/
import MultisigQueue.Proofs.Simulation.Chain

namespace MultisigQueue

/-!
A store takes in signatures and transactions also while a pass goes on: before each round trip
anything may come in. The pass then sees another ledger in every round, but each one extends the one
before, so that its queue lies between the queues of the ledgers at its start and at its end.
-/

/-- A chain, and what will have come in at its store before each of the next round trips. -/
structure Race where
  chain : Chain
  arrivals : List (List Ledger.Arrival)

namespace Race

/-- The race after what comes in before the next round trip. -/
def arrive (race : Race) : Race where
  chain :=
    { race.chain with ledger := race.chain.ledger.after (race.arrivals.head?.getD []) }
  arrivals := race.arrivals.tail

/-- The node of a chain at whose store more comes in before every round trip. -/
def node : Endpoint Race where
  call target data := do
    modify arrive
    Query.within Race.chain (fun race chain => { race with chain }) (Chain.node.call target data)

/-- The ledger after everything has come in. -/
def limit (race : Race) : Ledger := race.chain.ledger.after race.arrivals.flatten

@[simp] theorem limit_arrive (race : Race) : race.arrive.limit = race.limit := by
  rcases race with ⟨chain, _ | ⟨first, rest⟩⟩
  · rfl
  · simp only [limit, arrive, List.flatten_cons, Ledger.after_append]
    rfl

theorem extends_arrive (race : Race) (safe : Address) (chainId : Int) :
    (race.chain.ledger.holdings safe chainId).Extends
      (race.arrive.chain.ledger.holdings safe chainId) :=
  race.chain.ledger.extends_after _ safe chainId

/-- What is asked of a race and of a pass in it for its batches to come through. -/
structure Tells (race : Race) (chainId pageSize : Int) (owners : List Address)
    (nonces : List Int) : Prop where
  undisturbed : race.chain.Undisturbed
  tellable : race.chain.ledger.Tellable
  arrivals_tellable : ∀ batch ∈ race.arrivals, ∀ arrival ∈ batch, arrival.Tellable
  fits : race.limit.Fits (owners.length * nonces.length)
  chainId_mem : 0 ≤ chainId ∧ chainId < 2 ^ (256 : Nat)
  pageSize_mem : 1 ≤ pageSize ∧ pageSize < 2 ^ (256 : Nat)
  nonce_mem : ∀ nonce ∈ nonces, 0 ≤ nonce ∧ nonce < 2 ^ (256 : Nat)

variable {race : Race} {safe : Address} {chainId pageSize : Int} {owners : List Address}
  {nonces : List Int}

namespace Tells

/-- The chain of a race tells the truth as long as nothing comes in. -/
theorem chain (tells : race.Tells chainId pageSize owners nonces) :
    race.chain.Tells chainId pageSize owners nonces :=
  { tells with fits := tells.fits.before }

theorem arrive (tells : race.Tells chainId pageSize owners nonces) :
    race.arrive.Tells chainId pageSize owners nonces := by
  refine
    { tells with
      undisturbed := ⟨tells.undisturbed.isDown, tells.undisturbed.raw, tells.undisturbed.slots,
        tells.undisturbed.revertingSigners, tells.undisturbed.revertingHashes⟩
      tellable := Ledger.tellable_after tells.tellable ?_
      arrivals_tellable := fun batch member =>
        tells.arrivals_tellable batch (List.mem_of_mem_tail member)
      fits := race.limit_arrive ▸ tells.fits }
  intro arrival comesIn
  cases first : race.arrivals with
  | nil =>
      rw [first] at comesIn
      cases comesIn
  | cons batch rest =>
      rw [first] at comesIn
      exact tells.arrivals_tellable batch (first ▸ List.mem_cons_self) arrival comesIn

/-- A race is no other for what its chain has observed. -/
theorem of_unobserved (tells : race.Tells chainId pageSize owners nonces) {chain : Chain}
    (same : chain.unobserved = race.chain.unobserved) :
    Tells { race with chain } chainId pageSize owners nonces := by
  have ledger := (Chain.eq_of_unobserved same).1
  have here := tells.chain.of_unobserved same
  exact
    { tells with
      undisturbed := here.undisturbed
      tellable := here.tellable
      fits := by
        simp only [limit, ledger]
        exact tells.fits }

end Tells

/-- A batch in a race is one on its chain after what comes in before it. -/
theorem runFrom_execute {address : Address} {calls : List Call} (some : calls ≠ []) (race : Race) :
    (Batch.execute node address calls).runFrom race =
      (((Batch.execute Chain.node address calls).runFrom race.arrive.chain).1,
        { race.arrive with
          chain := ((Batch.execute Chain.node address calls).runFrom race.arrive.chain).2 }) := by
  have asked : calls.isEmpty = false := by simpa using some
  simp only [Batch.execute, asked, Bool.false_eq_true, if_false, Query.runFrom_bind, node,
    Query.runFrom_modify, Query.runFrom_within]
  rcases (Chain.node.call address (Batch.encode calls)).runFrom race.arrive.chain with ⟨e | data, t⟩
  · rfl
  · rfl

/-- Whether a later state of a race still tells the truth at the same two addresses. -/
def Continues (race : Race) (chainId pageSize : Int) (owners : List Address) (nonces : List Int)
    (later : Race) : Prop :=
  later.Tells chainId pageSize owners nonces ∧
    later.chain.storeAddress = race.chain.storeAddress ∧
    later.chain.batchAddress = race.chain.batchAddress

/-- A batch that leaves nothing but observations carries a race on, with what came in before it. -/
theorem Continues.execute {now : Race}
    (continues : race.Continues chainId pageSize owners nonces now) {calls : List Call}
    {replies : List Reply} {t : Chain} (some : calls ≠ [])
    (answered : (Batch.execute Chain.node now.arrive.chain.batchAddress calls).runFrom
      now.arrive.chain = (.ok replies, t)) (still : t.unobserved = now.arrive.chain.unobserved) :
    ∃ later, (Batch.execute node race.chain.batchAddress calls).runFrom now =
        (.ok replies, later) ∧ race.Continues chainId pageSize owners nonces later ∧
      later.chain.ledger = now.arrive.chain.ledger := by
  obtain ⟨tells, store, batch⟩ := continues
  obtain ⟨sameLedger, sameStore, sameBatch⟩ := Chain.eq_of_unobserved still
  refine ⟨{ now.arrive with chain := t }, ?_, ?_, sameLedger⟩
  · rw [← batch, runFrom_execute some]
    exact congrArg (fun outcome => (outcome.1, { now.arrive with chain := outcome.2 })) answered
  · exact ⟨tells.arrive.of_unobserved still, sameStore.trans store, sameBatch.trans batch⟩

/-- A race tells the truth about the ledger as it is when a batch is made. -/
theorem isTold (race : Race) (safe : Address) (chainId pageSize : Int) (owners : List Address)
    (nonces : List Int) :
    Reader.IsTold ⟨race.chain.storeAddress, safe, chainId, .int pageSize⟩
      (Batch.execute node race.chain.batchAddress) owners nonces
      (race.Continues chainId pageSize owners nonces)
      (fun now => now.chain.ledger.holdings safe chainId) where
  pages := by
    intro now pending continues isOpen distinct asked
    -- What comes in before the round trip only lengthens lists, so every cursor stays within one.
    have grows := now.extends_arrive safe chainId
    have askedThen : ∀ cursor ∈ pending, cursor.owner ∈ owners ∧ cursor.nonce ∈ nonces ∧
        cursor.Within (now.arrive.chain.ledger.signatures cursor.owner safe chainId
          cursor.nonce) := by
      intro cursor member
      obtain ⟨isOwner, isAsked, within⟩ := asked cursor member
      exact ⟨isOwner, isAsked, within.mono (grows.list _ _)⟩
    have told := continues.1.arrive.chain
    have store : now.arrive.chain.storeAddress = race.chain.storeAddress := continues.2.1
    have some : pending.map (now.arrive.chain.pageCallAt safe chainId pageSize) ≠ [] := by
      simpa using isOpen
    obtain ⟨t, answered, still⟩ := told.runFrom_pages distinct askedThen
    obtain ⟨later, run, goesOn, ledger⟩ := continues.execute some answered still
    refine ⟨_, _, later, ?_, run, goesOn, ?_, ?_⟩
    · rw [← store, mapM_eq_ok_iff, List.forall₂_map_right_iff, List.forall₂_same]
      exact fun cursor member =>
        told.callFor (askedThen cursor member).2.1 (askedThen cursor member).2.2
    · rw [ledger]
      exact grows
    · rw [ledger, List.forall₂_map_right_iff, List.forall₂_same]
      exact fun cursor member => told.turns (askedThen cursor member).2.2
  lookups := by
    intro now hashes continues distinct filed
    have grows := now.extends_arrive safe chainId
    by_cases none : hashes = []
    · subst none
      exact ⟨[], now, rfl, continues, .refl _, .nil⟩
    have told := continues.1.arrive.chain
    have store : now.arrive.chain.storeAddress = race.chain.storeAddress := continues.2.1
    have some : hashes.map (Store.lookupCall now.arrive.chain.storeAddress) ≠ [] := by
      simpa using none
    obtain ⟨replies, t, answered, still, resolved⟩ := told.runFrom_lookups distinct (by
      intro hash member
      obtain ⟨owner, -, nonce, -, g, listed, ofHash⟩ := filed hash member
      exact ⟨owner, nonce, g, (grows.list owner nonce).subset listed, ofHash⟩)
      fun hash _ t kept => told.tellable.transaction? kept
    obtain ⟨later, run, goesOn, ledger⟩ := continues.execute some answered still
    rw [store] at run
    refine ⟨replies, later, run, goesOn, ?_, ?_⟩
    · rw [ledger]
      exact grows
    · rw [ledger]
      exact resolved

/-- A pass over a window in a race comes to the queue of holdings between those at its start and
those at its end. -/
theorem runFrom_reconstruct {start window : Int}
    (tells : race.Tells chainId pageSize owners (NonceWindow.nonces ⟨start, window.toNat⟩))
    (fromStart : 0 ≤ start) (forward : 0 ≤ window) :
    ∃ seen later, (Reader.reconstruct ⟨race.chain.storeAddress, safe, chainId, .int pageSize⟩
        (Batch.execute node race.chain.batchAddress) owners start window).runFrom race =
      (.ok (seen.queue owners (NonceWindow.nonces ⟨start, window.toNat⟩)), later) ∧
        race.Continues chainId pageSize owners (NonceWindow.nonces ⟨start, window.toNat⟩) later ∧
        (race.chain.ledger.holdings safe chainId).Extends seen ∧
        seen.Extends (later.chain.ledger.holdings safe chainId) := by
  have atStart : race.Continues chainId pageSize owners
      (NonceWindow.nonces ⟨start, window.toNat⟩) race := ⟨tells, rfl, rfl⟩
  rw [Reader.runFrom_reconstruct fromStart forward]
  split
  · rename_i empty
    refine ⟨race.chain.ledger.holdings safe chainId, race, ?_, atStart, .refl _, .refl _⟩
    rcases empty with rfl | rfl
    · rfl
    · rw [Holdings.queue_nil]
  · exact (race.isTold safe chainId pageSize owners _).exists_queue atStart
      (NonceWindow.ascending_nonces _)

end Race

/-- A pass in a race gives a queue in order, which shows all that the queue of the store at its
start does, and nothing that the queue of the store at its end does not. -/
theorem Client.covers_race {race : Race} {storeGiven safeGiven : Value} {safe : Address}
    {ownersGiven : List Value} {owners : List Address} {chainId pageSize start window : Int}
    (undisturbed : race.chain.Undisturbed) (tellable : race.chain.ledger.Tellable)
    (arrivals_tellable : ∀ batch ∈ race.arrivals, ∀ arrival ∈ batch, arrival.Tellable)
    (fits : race.limit.Fits (owners.length * window.toNat))
    (storeRead : storeGiven.toAddress = .ok race.chain.storeAddress)
    (safeRead : safeGiven.toAddress = .ok safe)
    (ownersRead : ownersGiven.mapM Value.toAddress = .ok owners)
    (chainId_mem : 0 ≤ chainId ∧ chainId < 2 ^ (256 : Nat))
    (pageSize_mem : 1 ≤ pageSize ∧ pageSize < 2 ^ (256 : Nat)) (fromStart : 0 ≤ start)
    (forward : 0 ≤ window) (inside : start + window ≤ 2 ^ (256 : Nat)) :
    ∃ groups later first last,
      (reconstructFrom (Batch.execute Race.node race.chain.batchAddress) storeGiven safeGiven
        (.int chainId) (.int pageSize) (.list ownersGiven) (.int start) (.int window)).runFrom
        race = (.ok groups, later) ∧
      ((reconstructFrom (Batch.execute Chain.node race.chain.batchAddress) storeGiven safeGiven
        (.int chainId) (.int pageSize) (.list ownersGiven) (.int start) (.int window)).runFrom
        race.chain).1 = .ok first ∧
      ((reconstructFrom (Batch.execute Chain.node race.chain.batchAddress) storeGiven safeGiven
        (.int chainId) (.int pageSize) (.list ownersGiven) (.int start) (.int window)).runFrom
        later.chain).1 = .ok last ∧
      WellOrdered owners (NonceWindow.nonces ⟨start, window.toNat⟩) groups ∧
      Covers groups first ∧ Covers last groups := by
  have tells : race.Tells chainId pageSize owners (NonceWindow.nonces ⟨start, window.toNat⟩) :=
    { undisturbed, tellable, arrivals_tellable, chainId_mem, pageSize_mem
      fits := by simpa [NonceWindow.nonces] using fits
      nonce_mem := fun nonce => NonceWindow.mem_words fromStart inside }
  obtain ⟨seen, later, run, ⟨goesOn, store, batch⟩, grows, growsOn⟩ :=
    Race.runFrom_reconstruct tells fromStart forward
  obtain ⟨_, atStart⟩ := Chain.runFrom_reconstruct tells.chain fromStart forward
  obtain ⟨_, atEnd⟩ := Chain.runFrom_reconstruct goesOn.chain fromStart forward
  rw [store, batch] at atEnd
  simp only [runFrom_reconstructFrom storeRead safeRead ownersRead (by omega : 0 < pageSize)
    fromStart forward]
  exact ⟨_, later, _, _, run, congrArg Prod.fst atStart, congrArg Prod.fst atEnd,
    Holdings.wellOrdered_queue seen owners (NonceWindow.ascending_nonces _),
    Holdings.queue_covers grows owners _, Holdings.queue_covers growsOn owners _⟩

/-- A race in which a third signer files for the second nonce after the first round trip, and the
transaction that it signs comes in after the second. -/
def Race.sample : Race where
  chain := .sample
  arrivals := [[], [.signature ⟨.ofNat 3, .ofNat 1, 1, 1, ⟨.ofNat 32 3, .ofNat 32 8, .ofNat 32 4⟩⟩],
    [.transaction (.ofNat 32 4) { target := .ofNat 5, value := 9 }]]

/-- By pages of one signature, so that there is more than one round trip. -/
theorem Client.covers_race_sample :
    ∃ groups later first last,
      (samplePass 1 (Batch.execute Race.node Race.sample.chain.batchAddress)).runFrom Race.sample =
        (.ok groups, later) ∧
      ((samplePass 1 (Batch.execute Chain.node Race.sample.chain.batchAddress)).runFrom
        Race.sample.chain).1 = .ok first ∧
      ((samplePass 1 (Batch.execute Chain.node Race.sample.chain.batchAddress)).runFrom
        later.chain).1 = .ok last ∧
      WellOrdered [.ofNat 2, .ofNat 3, .ofNat 2] (NonceWindow.nonces ⟨0, 2⟩) groups ∧
      Covers groups first ∧ Covers last groups := by
  have undisturbed : Race.sample.chain.Undisturbed := Chain.undisturbed_sample
  refine covers_race undisturbed Ledger.tellable_sample ?_ ?_ rfl rfl rfl (by decide) (by decide)
    (by decide) (by decide) (by decide)
  · intro batch member arrival comesIn
    simp only [Race.sample, List.mem_cons, List.not_mem_nil, or_false] at member
    rcases member with rfl | rfl | rfl
    · cases comesIn
    · rw [List.mem_singleton.1 comesIn]
      trivial
    · rw [List.mem_singleton.1 comesIn]
      constructor <;> decide
  · unfold Ledger.Fits
    decide

end MultisigQueue
