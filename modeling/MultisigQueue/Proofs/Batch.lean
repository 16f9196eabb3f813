/-
Module: MultisigQueue.Proofs.Batch
Purpose: Batches and their replies come through as they were sent.
Main exports:
  Abi.length_encodeAll_array, Batch.decodeCalls_encode, Batch.decode_encodeReplies,
  Reply.ofResult, Batch.runFrom_serveCalls, Batch.runFrom_serveCalls_of_revert,
  Batch.runFrom_serve, Batch.runFrom_execute_of_ne_nil, Batch.runFrom_execute
-/
import Mathlib.Algebra.BigOperators.Ring.List
import Mathlib.Algebra.Order.BigOperators.Group.List
import Mathlib.Algebra.Order.Ring.Nat
import MultisigQueue.Batch
import MultisigQueue.Proofs.Abi.RoundTrip
import MultisigQueue.Proofs.Query

namespace MultisigQueue

/-!
A batch that is shorter than `2 ^ 256` octets is read by the contract as it was written, and so are
the replies by the one who asked. Between the two the contract makes the calls one after the other.
-/

theorem Bytes.padding_lt (length : Nat) : padding length < 32 := by
  unfold padding
  omega

theorem sum_map_const {α : Type} (k : Nat) (l : List α) :
    (l.map fun _ => k).sum = k * l.length := by
  simp [Nat.mul_comm]

theorem sum_map_linear {α : Type} (k m : Nat) (f : α → Nat) (l : List α) :
    (l.map fun a => k + m * f a).sum = k * l.length + m * (l.map f).sum := by
  rw [List.sum_map_add, List.sum_map_mul_left, sum_map_const]

namespace AbiType

open Abi

theorem length_tails_outOfLine {α : Type} (encoded : α → Bytes) (values : List α) :
    (tails (values.map fun v => .outOfLine (encoded v))).length =
      (values.map fun v => (encoded v).length).sum := by
  induction values with
  | nil => rfl
  | cons v rest ih => simp [Piece.tail, ih]

/-- The length of the one array of a frame, if its items stand out of line. -/
theorem length_encodeAll_array (item : AbiType) (dynamic : item.isDynamic = true)
    (values : List item.Val) :
    (encodeAll [.array item] (values, ())).length =
      64 + (values.map fun v => 32 + (encode item v).length).sum := by
  have whole := length_encode_array item values
  have each : (values.map fun v => piece item.isDynamic (encode item v)) =
      values.map fun v => .outOfLine (encode item v) := by
    simp [piece, dynamic]
  have apart := sum_map_linear 32 1 (fun v => (encode item v).length) values
  simp only [Nat.one_mul] at apart
  rw [headWords_of_isDynamic dynamic, each, length_tails_outOfLine] at whole
  have tail : tails (pieces [.array item] (values, ())) = encode (.array item) values := by
    simp [pieces, piece, isDynamic, tails, Piece.tail]
  have size := length_encodeAll [.array item] (values, ())
  have head : frameWords [.array item] = 1 := rfl
  have behind := congrArg List.length tail
  omega

end AbiType

namespace Batch

open AbiType Abi

/-- The octets that a call takes up in a batch. -/
theorem length_encode_callValue_le (c : Call) :
    32 + (AbiType.encode callType (callValue c)).length ≤ 192 + c.data.length := by
  have filling := Bytes.padding_lt c.data.length
  have tail : tails (pieces [.address, .bool, .bytes] (callValue c)) = lengthMarked c.data := by
    simp [callValue, pieces, piece, isDynamic, tails, Piece.tail, AbiType.encode]
  have whole := length_encode_tuple [.address, .bool, .bytes] (callValue c)
  rw [tail, length_lengthMarked] at whole
  simp only [frameWords, headWords] at whole
  simp only [callType]
  omega

/-- The octets that a reply takes up in a batch of replies. -/
theorem length_encode_replyValue_le (r : Reply) :
    32 + (AbiType.encode replyType (replyValue r)).length ≤ 160 + r.data.length := by
  have filling := Bytes.padding_lt r.data.length
  have tail : tails (pieces [.bool, .bytes] (replyValue r)) = lengthMarked r.data := by
    simp [replyValue, pieces, piece, isDynamic, tails, Piece.tail, AbiType.encode]
  have whole := length_encode_tuple [.bool, .bytes] (replyValue r)
  rw [tail, length_lengthMarked] at whole
  simp only [frameWords, headWords] at whole
  simp only [replyType]
  omega

/-- The calls of a batch are read as they were written. -/
theorem decodeCalls_encode {calls : List Call}
    (short : 64 + (calls.map fun c => 192 + c.data.length).sum < 2 ^ (256 : Nat)) :
    decodeCalls (encode calls) = .ok calls := by
  have least := List.sum_le_sum fun c (_ : c ∈ calls) => length_encode_callValue_le c
  have size := length_encodeAll_array callType rfl (calls.map callValue)
  simp only [List.map_map, Function.comp_def] at size
  have read : function.decodeInput (encode calls) = .ok (calls.map callValue, ()) := by
    refine AbiFunction.decodeInput_calldata rfl ?_
    change (encodeAll [.array callType] (calls.map callValue, ())).length < _
    omega
  have same : (calls.map callValue).map callOfValue = calls := by
    rw [List.map_map]
    exact List.map_id calls
  rw [decodeCalls, read]
  exact congrArg Except.ok same

/-- The replies to a batch are read as they were written. -/
theorem decode_encodeReplies {replies : List Reply}
    (short : 64 + (replies.map fun r => 160 + r.data.length).sum < 2 ^ (256 : Nat)) :
    decode replies.length (encodeReplies replies) = .ok replies := by
  have least := List.sum_le_sum fun r (_ : r ∈ replies) => length_encode_replyValue_le r
  have size := length_encodeAll_array replyType rfl (replies.map replyValue)
  simp only [List.map_map, Function.comp_def] at size
  have read : function.decode (encodeReplies replies) = .ok (replies.map replyValue, ()) := by
    refine AbiFunction.decode_encodeAll rfl ?_
    change (encodeAll [.array replyType] (replies.map replyValue, ())).length < _
    omega
  have same : (replies.map replyValue).map replyOfValue = replies := by
    rw [List.map_map]
    exact List.map_id replies
  simp only [decode, read, bind, Except.bind]
  rw [same, if_pos rfl]
  rfl

end Batch

/-- The reply to a call that goes through with a result or is reverted. -/
def Reply.ofResult : Option Bytes → Reply
  | some data => { success := true, data }
  | none => { success := false }

namespace Batch

variable {σ : Type} {contract : Contract σ} {steady : σ → Prop}

/-- Whether a contract answers a call from every steady state, by a result to which a reply belongs,
and stays steady. -/
def Makes (contract : Contract σ) (steady : σ → Prop) (c : Call) (reply : Reply) : Prop :=
  ∀ s, steady s → ∃ result t, (contract c.target c.data).runFrom s = (.ok result, t) ∧ steady t ∧
    (result = none → c.allowFailure = true) ∧ reply = .ofResult result

/-- The calls of a batch are made one after the other. -/
theorem runFrom_serveCalls {calls : List Call} {replies : List Reply}
    (each : List.Forall₂ (Makes contract steady) calls replies) {s : σ} (isSteady : steady s) :
    ∃ t, (serveCalls contract calls).runFrom s = (.ok replies, t) ∧ steady t := by
  induction each generalizing s with
  | nil => exact ⟨s, rfl, isSteady⟩
  | @cons c reply rest others first _ ih =>
      obtain ⟨result, t, made, stillSteady, allowed, rfl⟩ := first s isSteady
      obtain ⟨u, madeRest, steadyLast⟩ := ih stillSteady
      refine ⟨u, ?_, steadyLast⟩
      simp only [serveCalls, Query.runFrom_bind, made]
      cases result with
      | some data => simp only [Query.runFrom_bind, Query.runFrom_pure, madeRest, Reply.ofResult]
      | none =>
          simp only [allowed rfl, if_true, Query.runFrom_bind, Query.runFrom_pure, madeRest,
            Reply.ofResult]

/-- A call that is not allowed to fail and is reverted takes the whole batch with it. The contract
does not change while it answers. -/
theorem runFrom_serveCalls_of_revert {calls : List Call} {s : σ}
    (answered : ∀ c ∈ calls, ∃ result, (contract c.target c.data).runFrom s = (.ok result, s))
    {c : Call} (member : c ∈ calls) (strict : c.allowFailure = false)
    (reverted : (contract c.target c.data).runFrom s = (.ok none, s)) :
    (serveCalls contract calls).runFrom s = (.error callFailed, s) := by
  induction calls with
  | nil => cases member
  | cons first rest ih =>
      simp only [serveCalls, Query.runFrom_bind]
      rcases List.mem_cons.1 member with rfl | later
      · simp only [reverted, strict, Bool.false_eq_true, if_false, Query.runFrom_bind,
          Query.runFrom_throw]
      · have goesOn := ih (fun c behind => answered c (List.mem_cons_of_mem first behind)) later
        obtain ⟨result, made⟩ := answered first List.mem_cons_self
        rw [made]
        cases result with
        | some data => simp only [Query.runFrom_bind, Query.runFrom_pure, goesOn]
        | none =>
            cases first.allowFailure <;>
              simp only [Bool.false_eq_true, if_false, if_true, Query.runFrom_bind,
                Query.runFrom_pure, Query.runFrom_throw, goesOn]

/-- A batch is served by the replies to its calls. -/
theorem runFrom_serve {calls : List Call} {replies : List Reply}
    (short : 64 + (calls.map fun c => 192 + c.data.length).sum < 2 ^ (256 : Nat))
    (each : List.Forall₂ (Makes contract steady) calls replies) {s : σ} (isSteady : steady s) :
    ∃ t, (serve contract (encode calls)).runFrom s = (.ok (encodeReplies replies), t) ∧
      steady t := by
  obtain ⟨t, served, stillSteady⟩ := runFrom_serveCalls each isSteady
  refine ⟨t, ?_, stillSteady⟩
  simp only [serve, decodeCalls_encode short, Query.runFrom_bind, Query.runFrom_abi,
    Except.mapError, served, Query.runFrom_pure]

/-- A batch that is not empty takes one round trip, and comes to what is read off the return data.
-/
theorem runFrom_execute_of_ne_nil {node : Endpoint σ} {address : Address} {calls : List Call}
    (some : calls ≠ []) (s : σ) :
    (execute node address calls).runFrom s =
      match (node.call address (encode calls)).runFrom s with
      | (.ok data, t) => ((decode calls.length data).mapError Fault.abi, t)
      | (.error e, t) => (.error e, t) := by
  rw [execute, if_neg (by simpa using some)]
  simp only [Query.runFrom_bind, Query.runFrom_abi]
  rcases (node.call address (encode calls)).runFrom s with ⟨e | data, t⟩
  · rfl
  · rfl

/-- A batch comes to the replies that the node's return data holds. -/
theorem runFrom_execute {node : Endpoint σ} {address : Address} {calls : List Call}
    {replies : List Reply} {s t : σ} (some : calls ≠ []) (asMany : replies.length = calls.length)
    (short : 64 + (replies.map fun r => 160 + r.data.length).sum < 2 ^ (256 : Nat))
    (answered : (node.call address (encode calls)).runFrom s = (.ok (encodeReplies replies), t)) :
    (execute node address calls).runFrom s = (.ok replies, t) := by
  rw [runFrom_execute_of_ne_nil some, answered]
  simp only [← asMany, decode_encodeReplies short, Except.mapError]

end Batch

end MultisigQueue
