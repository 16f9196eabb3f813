/-
Module: MultisigQueue.Batch
Purpose: Many contract calls in one round trip.
Main exports:
  Call, Reply, Batch.encode, Batch.decode, Executor, Batch.execute, CallRequest, GivenReply,
  Batch.serve, Batch.node, Batch.nodeByRule
-/
import MultisigQueue.Abi.Function
import MultisigQueue.Endpoint
import MultisigQueue.Value.Equality

namespace MultisigQueue

/-!
Independent calls travel together to a contract that makes them in order and answers each one by
whether it went through and what it returned. A call may be allowed to fail; if one fails that is
not, the whole batch does. `Batch.serve` is the contract's side of it. A node may also reply to each
call by a rule of its own, which is all that is assumed where the batches of two passes are
compared.
-/

/-- A call of a contract, as part of a batch. -/
structure Call where
  target : Address
  data : Bytes
  /-- Whether the rest of the batch goes on when this call fails. -/
  allowFailure : Bool := true
deriving DecidableEq, Repr

/-- The answer to one call of a batch. -/
structure Reply where
  success : Bool
  data : Bytes := []
deriving DecidableEq, Repr

/-- Whether the call went through and returned something that can be read. -/
def Reply.hasData (r : Reply) : Bool := r.success && !r.data.isEmpty

/-- The address at which the batching contract usually stands. -/
def Batch.defaultAddress : Address := .ofNat 0xca11bde05977b3631167028862be2a173976ca11

namespace Batch

/-- The type of a call within a batch. -/
def callType : AbiType := .tuple [.address, .bool, .bytes]

/-- The type of a reply within a batch. -/
def replyType : AbiType := .tuple [.bool, .bytes]

/-- The function of the batching contract. -/
def function : AbiFunction where
  name := "aggregate3"
  inputs := [.array callType]
  outputs := [.array replyType]

/-- A call as a value of its type. -/
def callValue (c : Call) : callType.Val := (c.target, c.allowFailure, c.data, ())

/-- The call that a value of its type stands for. -/
def callOfValue : callType.Val → Call
  | (target, allowFailure, data, _) => { target, data, allowFailure }

/-- A reply as a value of its type. -/
def replyValue (r : Reply) : replyType.Val := (r.success, r.data, ())

/-- The reply that a value of its type stands for. -/
def replyOfValue : replyType.Val → Reply
  | (success, data, _) => { success, data }

/-- A batch as calldata. -/
def encode (calls : List Call) : Bytes := function.calldata (calls.map callValue, ())

/-- The batch that calldata holds. -/
def decodeCalls (data : Bytes) : Except AbiError (List Call) := do
  let values ← function.decodeInput data
  return List.map callOfValue values.1

/-- Replies as return data. -/
def encodeReplies (replies : List Reply) : Bytes :=
  AbiType.encodeAll function.outputs (replies.map replyValue, ())

/-- The replies to a batch of so many calls; there must be one for each. -/
def decode (expected : Nat) (data : Bytes) : Except AbiError (List Reply) := do
  let values ← function.decode data
  let replies := List.map replyOfValue values.1
  if replies.length = expected then return replies
  else throw (function.fail (.resultCount replies.length (Numeral.decimal expected)))

/-- The replies in loosely typed return data, which must be as many as the number expected. -/
def decodeGiven (expected data : Value) : Except AbiError (List Reply) := do
  let values ← function.decodeGiven data
  let replies := List.map replyOfValue values.1
  if expected.equals (.int replies.length) then return replies
  else throw (function.fail (.resultCount replies.length expected.plain))

end Batch

/-- Something that makes the calls of a batch. -/
abbrev Executor (σ : Type) : Type := List Call → Query σ (List Reply)

/-- Makes the calls of a batch in one round trip, or in none if there are no calls. -/
def Batch.execute {σ : Type} (node : Endpoint σ) (contract : Address) : Executor σ := fun calls =>
  if calls.isEmpty then pure []
  else do
    let data ← node.call contract (Batch.encode calls)
    Batch.decode calls.length data

/-- A call of a batch whose parts are still to be read. -/
structure CallRequest where
  target : Value
  data : Value
  allowFailure : Value := .bool true

/-- Reads a requested call. -/
def CallRequest.read (q : CallRequest) : Except InputError Call := do
  let target ← q.target.toAddress
  let data ← q.data.toOctets
  return { target, data, allowFailure := q.allowFailure.isTrue }

/-- The answer to a call with parts that are loosely typed. -/
structure GivenReply where
  success : Value
  data : Value := .bytes []

/-- Whether the call went through and returned something that can be read. What was returned is
looked at only if the call went through. -/
def GivenReply.hasData (r : GivenReply) : Except InputError Bool :=
  if r.success.isTrue then do return 0 < (← r.data.length) else return false

namespace Batch

/-- Requested calls as calldata. -/
def encodeRequests (requests : List CallRequest) : Except InputError Bytes := do
  return encode (← requests.mapM CallRequest.read)

/-- Makes the requested calls, all of which are read before the round trip. -/
def executeRequests {σ : Type} (executor : Executor σ) (requests : List CallRequest) :
    Query σ (List Reply) := do
  let calls : List Call ← (requests.mapM CallRequest.read : Except InputError (List Call))
  executor calls

/-- How a contract answers a call: with return data, or not at all when the call is reverted. -/
abbrev Contract (σ : Type) : Type := Address → Bytes → Query σ (Option Bytes)

/-- The failure of a batch one of whose calls was not allowed to fail. -/
def callFailed : Fault := .rpc (.reverted "execution reverted: Multicall3: call failed")

/-- Makes the calls of a batch one after the other. -/
def serveCalls {σ : Type} (contract : Contract σ) : List Call → Query σ (List Reply)
  | [] => pure []
  | c :: rest => do
    let reply ←
      match ← contract c.target c.data with
      | some data => pure { success := true, data }
      | none => if c.allowFailure then pure { success := false } else throw callFailed
    return reply :: (← serveCalls contract rest)

/-- The batching contract: it makes the calls in order and returns their replies. -/
def serve {σ : Type} (contract : Contract σ) (data : Bytes) : Query σ Bytes := do
  let calls ← decodeCalls data
  return encodeReplies (← serveCalls contract calls)

/-- A node that makes every batch, whatever address it is sent to. -/
def node {σ : Type} (contract : Contract σ) : Endpoint σ where
  call _ data := serve contract data

/-- A node that replies to each call of a batch by a rule, without regard to the other calls. -/
def nodeByRule {σ : Type} (rule : Address → Bytes → Reply) : Endpoint σ where
  call _ data := do
    let calls ← decodeCalls data
    return encodeReplies (calls.map fun c => rule c.target c.data)

end Batch

end MultisigQueue
