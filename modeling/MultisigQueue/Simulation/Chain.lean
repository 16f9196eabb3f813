/-
Module: MultisigQueue.Simulation.Chain
Purpose: A chain in memory: a store, Safes, injected failures, and what has been observed.
Main exports:
  DeployedSafe, Chain, Chain.slot, Chain.node, World, World.storeNode, World.safeNode
-/
import MultisigQueue.Safe
import MultisigQueue.Simulation.Ledger

namespace MultisigQueue

/-!
A chain answers batches honestly from its ledger and its Safes. Failures can be put in its way: the
connection may be down, lists and hashes may revert, calls may get scripted answers, and whole
batches may get scripted replies. It counts the round trips and notes the batches and pages asked
for.
-/

/-- A Safe as it was deployed; its parts are encoded when they are asked for, by a rule for the case
of the letters in addresses. -/
structure DeployedSafe where
  owners : List Value
  threshold : Value
  nonce : Value := .int 0
  fallbackHandler : Value := .bytes Address.zero.bytes
  guard : Value := .bytes Address.zero.bytes
  singleton : Value := .text "0x41675C099F32341bf84BFc5382aF534df5C7461a"
  modules : List Value := []
  caseRule : Address.CaseRule := .checked

namespace DeployedSafe

/-- The address in a storage slot. -/
def slotAddress (s : DeployedSafe) (slot : Safe.Slot) : Value :=
  if slot = Safe.fallbackSlot then s.fallbackHandler
  else if slot = Safe.guardSlot then s.guard
  else if slot = Safe.singletonSlot then s.singleton
  else .bytes Address.zero.bytes

/-- A page of the modules from the start, and the module behind it or else the sentinel. -/
def modulePage (s : DeployedSafe) (size : Nat) : List Value :=
  [.list (s.modules.take size), (s.modules[size]?).getD (.bytes Safe.sentinel.bytes)]

/-- The answer to a call of a Safe. -/
def answer (s : DeployedSafe) (data : Bytes) : Except Fault (Option Bytes) := do
  let selector := data.take 4
  if selector = Safe.ownersFunction.selector then
    return some (← Safe.ownersFunction.encodeOutput [.list s.owners] s.caseRule)
  else if selector = Safe.thresholdFunction.selector then
    return some (← Safe.thresholdFunction.encodeOutput [s.threshold])
  else if selector = Safe.nonceFunction.selector then
    return some (← Safe.nonceFunction.encodeOutput [s.nonce])
  else if selector = Safe.storageFunction.selector then
    let (slot, _) ← Safe.storageFunction.decodeInput data
    let address ← (s.slotAddress slot).toAddress
    return some (← Safe.storageFunction.encodeOutput [.bytes address.word.bytes])
  else if selector = Safe.modulesFunction.selector then
    let (start, size, _) ← Safe.modulesFunction.decodeInput data
    let start : Address := start
    if start = Safe.sentinel then
      return some (← Safe.modulesFunction.encodeOutput (s.modulePage (Fin.val size)) s.caseRule)
    else throw (.input .modulesStart)
  else return none

end DeployedSafe

/-- A chain in memory. -/
structure Chain where
  storeAddress : Address := Store.defaultAddress
  batchAddress : Address := Batch.defaultAddress
  ledger : Ledger := {}
  safes : List (Address × DeployedSafe) := []
  /-- Whether the connection is down. -/
  isDown : Bool := false
  /-- The signers whose lists revert. -/
  revertingSigners : List Address := []
  /-- The hashes whose lookups revert. -/
  revertingHashes : List Word := []
  /-- Scripted answers to calls by the digits with which their data starts; no answer is a revert.
  -/
  slots : List (List Char × Option Bytes) := []
  /-- Scripted replies to the next batches; where there is none the batch is made. -/
  raw : List (Option Bytes) := []
  roundTrips : Nat := 0
  /-- The sizes of the batches. -/
  batches : List Nat := []
  pages : List Ledger.PageRequest := []

namespace Chain

/-- The answer of the store, which notes every page asked for. -/
def storeSlot (data : Bytes) : Query Chain (Option Bytes) := do
  let chain ← get
  if data.take 4 = Store.signaturesFunction.selector then
    let request ← (Ledger.pageRequest data : Except AbiError Ledger.PageRequest)
    if request.signer ∈ chain.revertingSigners then return none
    set { chain with pages := chain.pages ++ [request] }
  else if data.take 4 = Store.transactionFunction.selector then
    let hash : Word ← (Ledger.lookupRequest data : Except AbiError Word)
    if hash ∈ chain.revertingHashes then return none
  (chain.ledger.answer data : Except AbiError (Option Bytes))

/-- The answer to a call within a batch. -/
def slot : Batch.Contract Chain := fun target data => do
  let chain ← get
  match chain.slots.find? fun entry => entry.1.isPrefixOf (Hex.digits data) with
  | some (_, answer) => return answer
  | none =>
    if target = chain.storeAddress then storeSlot data
    else
      match chain.safes.find? fun entry => entry.1 = target with
      | some (_, safe) => safe.answer data
      | none => return some []

/-- Counts a round trip, and the calls of its batch if it is one. -/
def observe (data : Bytes) : Query Chain Unit := do
  modify fun chain => { chain with roundTrips := chain.roundTrips + 1 }
  let calls : List Call ← (Batch.decodeCalls data : Except AbiError (List Call))
  modify fun chain => { chain with batches := chain.batches ++ [calls.length] }

/-- The node of a chain. -/
def node : Endpoint Chain where
  call target data := do
    let chain ← get
    let scripted := chain.raw.head?.join
    set { chain with raw := chain.raw.drop 1 }
    match scripted with
    | some reply =>
      observe data
      return reply
    | none =>
      if chain.isDown then
        throw (.rpc (.transportFailed (.text "eth_call") (.text "connection refused")))
      if target ≠ chain.batchAddress then throw (.rpc (.reverted "execution reverted"))
      observe data
      Batch.serve slot data

/-- The chain with a Safe at an address, in place of one that stood there. -/
def install (c : Chain) (address : Address) (safe : DeployedSafe) : Chain :=
  { c with safes := (address, safe) :: c.safes.filter fun entry => entry.1 ≠ address }

end Chain

/-- The chain of the store, and that of the Safe if it is another one. -/
structure World where
  store : Chain
  safe : Option Chain := none

namespace World

/-- The node of the store's chain. -/
def storeNode : Endpoint World where
  call target data :=
    Query.within World.store (fun world chain => { world with store := chain })
      (Chain.node.call target data)

/-- The node of the Safe's chain. -/
def safeNode : Endpoint World where
  call target data :=
    Query.within (fun world => world.safe.getD world.store)
      (fun world chain =>
        if world.safe.isSome then { world with safe := some chain }
        else { world with store := chain })
      (Chain.node.call target data)

end World

end MultisigQueue
