/-
Module: MultisigQueue.Safe
Purpose: The Safe contract: reading its configuration, and the calldata that executes a transaction.
Main exports:
  Configuration, Safe.configurationCalls, Safe.decodeConfiguration, Safe.readConfiguration,
  Safe.executionData, Safe.executionDataSigned
-/
import MultisigQueue.Batch
import MultisigQueue.Quorum
import MultisigQueue.Transaction

namespace MultisigQueue

/-!
The configuration of a Safe is read by seven calls in one batch, none of which may fail. Three of
its parts stand in storage words, of which an address takes the last 20 octets; the words are looked
at after all return data has been read. Modules are read one page only.
-/

/-- The configuration of a Safe. -/
structure Configuration where
  owners : List Address
  threshold : Nat
  nonce : Nat
  fallbackHandler : Address
  guard : Address
  singleton : Address
  modules : List Address
deriving DecidableEq, Repr

namespace Safe

/-- The function that lists the owners. -/
def ownersFunction : AbiFunction where
  name := "getOwners"
  outputs := [.array .address]

/-- The function that gives the number of owners who have to sign. -/
def thresholdFunction : AbiFunction where
  name := "getThreshold"
  outputs := [.uint 256]

/-- The function that gives the next nonce. -/
def nonceFunction : AbiFunction where
  name := "nonce"
  outputs := [.uint 256]

/-- The function that reads storage words from a slot on. -/
def storageFunction : AbiFunction where
  name := "getStorageAt"
  inputs := [.uint 256, .uint 256]
  outputs := [.bytes]

/-- The function that lists a page of the modules, with the module behind the page. -/
def modulesFunction : AbiFunction where
  name := "getModulesPaginated"
  inputs := [.address, .uint 256]
  outputs := [.array .address, .address]

/-- The function that executes a transaction. -/
def executeFunction : AbiFunction where
  name := "execTransaction"
  inputs := [.address, .uint 256, .bytes, .uint 8, .uint 256, .uint 256, .uint 256, .address,
    .address, .bytes]
  outputs := [.bool]

/-- A storage slot. -/
abbrev Slot : Type := Fin (2 ^ (256 : Nat))

/-- The slot of the fallback handler. -/
def fallbackSlot : Slot :=
  ⟨0x6c9a6c4a39284e37ed1cf53d337577d14212a4870fb976a4366c693b939918d5, by decide⟩

/-- The slot of the guard. -/
def guardSlot : Slot :=
  ⟨0x4a204f620c8c5ccdca3fd54d003badd85ba500436a431f0cbda4f558c93c34c8, by decide⟩

/-- The slot of the singleton. -/
def singletonSlot : Slot := ⟨0, by decide⟩

/-- The address from which the list of modules starts, and with which it ends. -/
def sentinel : Address := .ofNat 1

/-- How many modules are read unless told otherwise. -/
def modulePageSize : Int := 50

/-- Calldata that reads one storage word. -/
def storageData (slot : Slot) : Bytes := storageFunction.calldata (slot, ⟨1, by decide⟩, ())

/-- The calls that read a configuration, with pages of so many modules. -/
def configurationCalls (safe : Address) (pageSize : Int) : Except AbiError (List Call) := do
  let modulesData ← modulesFunction.encode [.bytes sentinel.bytes, .int pageSize]
  let datas :=
    [ownersFunction.calldata (), thresholdFunction.calldata (), storageData fallbackSlot,
      nonceFunction.calldata (), storageData guardSlot, storageData singletonSlot, modulesData]
  return datas.map fun data => { target := safe, data, allowFailure := false }

/-- The failure of a read that came back incomplete. -/
def readFailed : RpcError where
  code := RpcError.internalCode
  message := .text "Safe configuration read failed"
  method := .text "getSafeConfiguration"

/-- The address in a storage word. -/
def addressOfWord (word : Bytes) : Except InputError Address := Value.storedAddress (.bytes word)

/-- The configuration that the return data of the seven calls holds. -/
def decodeReturned (owners threshold fallback nonce guard singleton modules : Value) :
    Except Fault Configuration := do
  let owners ← ownersFunction.decodeGiven owners
  let threshold ← thresholdFunction.decodeGiven threshold
  let fallback ← storageFunction.decodeGiven fallback
  let nonce ← nonceFunction.decodeGiven nonce
  let guard ← storageFunction.decodeGiven guard
  let singleton ← storageFunction.decodeGiven singleton
  let modules ← modulesFunction.decodeGiven modules
  let fallbackHandler ← addressOfWord fallback.1
  let guard ← addressOfWord guard.1
  let singleton ← addressOfWord singleton.1
  return {
    owners := owners.1
    threshold := Fin.val threshold.1
    nonce := Fin.val nonce.1
    fallbackHandler
    guard
    singleton
    modules := modules.1 }

/-- The configuration in the data of the replies to the seven calls. -/
def decodeDatas (datas : List Value) : Except Fault Configuration :=
  match datas with
  | [owners, threshold, fallback, nonce, guard, singleton, modules] =>
    decodeReturned owners threshold fallback nonce guard singleton modules
  | _ => .error (.rpc readFailed)

/-- The number of calls that read a configuration. -/
def callCount : Nat := 7

/-- The configuration that the replies to the seven calls hold. -/
def decodeConfiguration (replies : List Reply) : Except Fault Configuration :=
  if replies.length = callCount ∧ replies.all Reply.hasData then
    decodeDatas (replies.map fun r => .bytes r.data)
  else .error (.rpc readFailed)

/-- Whether all of some loosely typed replies have data; they are looked at up to the first that has
none. -/
def allHaveData : List GivenReply → Except InputError Bool
  | [] => .ok true
  | r :: rest => do if ← r.hasData then allHaveData rest else return false

/-- The configuration that loosely typed replies to the seven calls hold. -/
def decodeConfigurationGiven (replies : List GivenReply) : Except Fault Configuration := do
  if replies.length ≠ callCount then throw (.rpc readFailed)
  if ← allHaveData replies then decodeDatas (replies.map GivenReply.data)
  else throw (.rpc readFailed)

/-- Reads the configuration of a Safe in one batch. The size of a page of modules is read after the
Safe. -/
def readConfiguration {σ ω ν : Type} [AddressLike ω] [IntegerLike ν] (executor : Executor σ)
    (safe : ω) (pageSize : ν) : Query σ Configuration := do
  let safe : Address ← (toAddress safe : Except InputError Address)
  let size : Int ← (toInteger pageSize : Except InputError Int)
  let calls ← (configurationCalls safe size : Except AbiError (List Call))
  decodeConfiguration (← executor calls)

/-- The calldata that executes a transaction under an authorization. -/
def executionData (t : Transaction) (authorization : Bytes) : Except AbiError Bytes :=
  executeFunction.encode
    [.bytes t.target.bytes, .int t.value, .bytes t.data, .int t.operation.toNat, .int t.safeTxGas,
      .int t.baseGas, .int t.gasPrice, .bytes t.gasToken.bytes, .bytes t.refundReceiver.bytes,
      .bytes authorization]

/-- The calldata that executes a transaction with the signatures collected for it. -/
def executionDataSigned (t : Transaction) (signatures : List Signature) :
    Except AbiError Bytes := do
  executionData t (← authorization signatures)

/-- The calldata that executes a transaction under an authorization that may be given as octets.
Anything else would have to consist of signatures, which loosely typed values are not. -/
def executionDataGiven (t : Transaction) (authorization : Value) : Except Fault Bytes := do
  match authorization with
  | .bytes b => executionData t b
  | other =>
    match ← other.toItems with
    | [] => executionDataSigned t []
    | item :: _ => throw (.input (.noAttribute item.kindName "signer"))

end Safe

end MultisigQueue
