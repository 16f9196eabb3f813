/-
Module: MultisigQueue.Client
Purpose: What a client does with a connection to the store's chain and one to the Safe's.
Main exports:
  Client, Client.reconstruct, Client.transactions, Client.configuration, Client.fetch
-/
import MultisigQueue.Queue.Pass
import MultisigQueue.Safe
import MultisigQueue.Settings

namespace MultisigQueue

/-!
The store may stand on another chain than the Safe. Queues are read from the store's chain and
configurations from the Safe's. A client keeps nothing between two operations.
-/

/-- Settings with a connection to each of the two chains. -/
structure Client (σ : Type) where
  settings : Settings
  /-- The chain of the store. -/
  storeNode : Endpoint σ
  /-- The chain of the Safe. -/
  safeNode : Endpoint σ

namespace Client

variable {σ : Type}

/-- Makes batches on the chain of the store. -/
def storeExecutor (c : Client σ) : Executor σ :=
  Batch.execute c.storeNode c.settings.multicallAddress

/-- Makes batches on the chain of the Safe. -/
def safeExecutor (c : Client σ) : Executor σ :=
  Batch.execute c.safeNode c.settings.multicallAddress

/-- A reader of the lists of a Safe. The store, the Safe and the chain id are read before the size
of a page is looked at. -/
def readerFor (store safe chainId pageSize : Value) : Except InputError Reader := do
  let store ← store.toAddress
  let safe ← safe.toAddress
  let chainId ← chainId.toInt
  Reader.ofParts store safe chainId pageSize

/-- The queue of a window of nonces, from a store at any address and by pages of any size. -/
def reconstructFrom (executor : Executor σ)
    (store safe chainId pageSize owners start window : Value) :
    Query σ (List Contenders) := do
  let reader : Reader ← (readerFor store safe chainId pageSize : Except InputError Reader)
  reader.reconstructGiven executor owners start window

/-- Whether the time for an operation, in seconds, is over before anything has been done. Without a
limit it never is. -/
def isOver (timeout : Value) : Except InputError Bool :=
  match timeout with
  | .null => .ok false
  | seconds => seconds.relate .atMost (.int 0)

/-- The window that is asked for, or else the one that the settings say. -/
def windowOr (c : Client σ) (window : Value) : Value :=
  match window with
  | .null => .int c.settings.maxNonces
  | given => given

/-- The queue of a window of nonces, by default of as many as the settings say. Where there is no
time, only the Safe and the chain id are read. -/
def reconstruct (c : Client σ) (safe chainId owners start window timeout : Value) :
    Query σ (List Contenders) := do
  let reader : Reader ←
    (readerFor (.bytes c.settings.address.bytes) safe chainId (.int c.settings.pageSize) :
      Except InputError Reader)
  let isLate : Bool ← (isOver timeout : Except InputError Bool)
  if isLate then throw .timeout
  reader.reconstructGiven c.storeExecutor owners start (c.windowOr window)

/-- The candidates for one nonce. -/
def transactions (c : Client σ) (safe chainId owners nonce timeout : Value) :
    Query σ (List Candidate) := do
  let groups ← c.reconstruct safe chainId owners nonce (.int 1) timeout
  return ((Contenders.findGiven? groups nonce).map Contenders.entries).getD []

/-- The configuration of a Safe. -/
def configuration (c : Client σ) (safe : Value) : Query σ Configuration :=
  Safe.readConfiguration c.safeExecutor safe Safe.modulePageSize

/-- Addresses as a list of values. -/
def addressList (addresses : List Address) : Value := .list (addresses.map fun a => .bytes a.bytes)

/-- The queue of a Safe's own owners from its own nonce on. -/
def fetch (c : Client σ) (safe chainId window timeout : Value) : Query σ (List Contenders) := do
  let configuration ← c.configuration safe
  c.reconstruct safe chainId (addressList configuration.owners) (.int configuration.nonce) window
    timeout

end Client

end MultisigQueue
