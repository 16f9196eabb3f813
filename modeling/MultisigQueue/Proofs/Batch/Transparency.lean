/-
Module: MultisigQueue.Proofs.Batch.Transparency
Purpose: Calls that travel together come to what each of them comes to alone.
Main exports:
  Call.Admits, Batch.Honest, Batch.honest_node, Batch.runFrom_execute_honest,
  Batch.runFrom_execute_refused, Batch.length_of_decode, Batch.executeRequests_transparent
-/
import MultisigQueue.Proofs.Batch

namespace MultisigQueue

/-!
Seen by the one who asks, a batch is nothing but its calls: each slot of the answer tells what the
call in the slot came to, with the octets that the call returned. This rests on the honesty of the
node. A node that is not honest may put anything into the slots, but it cannot change how many there
are.
-/

/-- Whether a call lets its batch go on when it comes to a result. -/
def Call.Admits (c : Call) (result : Option Bytes) : Prop := result = none → c.allowFailure = true

namespace Batch

variable {σ : Type} {endpoint : Endpoint σ} {address : Address}
  {slot : Address → Bytes → Option Bytes} {refusal : σ → List Call → RpcError}
  {calls : List Call} {s t : σ}

/-- The replies to some calls of which each comes to a result of its own. -/
def repliesBy (slot : Address → Bytes → Option Bytes) (calls : List Call) : List Reply :=
  calls.map fun c => .ofResult (slot c.target c.data)

/-- Whether a node answers every batch that reaches the batching contract by what its calls come to,
and refuses, with an error of its own, a batch with a call that is reverted and may not fail. -/
structure Honest (endpoint : Endpoint σ) (address : Address)
    (slot : Address → Bytes → Option Bytes) (refusal : σ → List Call → RpcError) : Prop where
  answers : ∀ {data calls} (s : σ), decodeCalls data = .ok calls →
    (∀ c ∈ calls, c.Admits (slot c.target c.data)) →
      ∃ t, (endpoint.call address data).runFrom s = (.ok (encodeReplies (repliesBy slot calls)), t)
  refuses : ∀ {data calls} (s : σ), decodeCalls data = .ok calls →
    (∃ c ∈ calls, ¬c.Admits (slot c.target c.data)) →
      ∃ t, (endpoint.call address data).runFrom s = (.error (.rpc (refusal s calls)), t)

/-! ### A node that makes the calls is honest -/

/-- The contract whose calls come to fixed results. -/
def contractBy (slot : Address → Bytes → Option Bytes) : Contract σ := fun target data =>
  pure (slot target data)

theorem runFrom_serveCalls_admitted (admitted : ∀ c ∈ calls, c.Admits (slot c.target c.data)) :
    (serveCalls (contractBy slot) calls).runFrom s = (.ok (repliesBy slot calls), s) := by
  have each : List.Forall₂ (Makes (contractBy slot) (· = s)) calls (repliesBy slot calls) := by
    rw [repliesBy, List.forall₂_map_right_iff, List.forall₂_same]
    rintro c member _ rfl
    exact ⟨slot c.target c.data, _, rfl, rfl, admitted c member, rfl⟩
  obtain ⟨t, served, rfl⟩ := runFrom_serveCalls each rfl
  exact served

/-- The first call that is reverted and may not fail ends its batch. -/
theorem runFrom_serveCalls_refused (refused : ∃ c ∈ calls, ¬c.Admits (slot c.target c.data)) :
    (serveCalls (contractBy slot) calls).runFrom s = (.error callFailed, s) := by
  induction calls with
  | nil =>
      obtain ⟨c, member, -⟩ := refused
      cases member
  | cons c rest ih =>
      have made : (contractBy slot c.target c.data).runFrom s = (.ok (slot c.target c.data), s) :=
        rfl
      by_cases admitted : c.Admits (slot c.target c.data)
      · have later : ∃ d ∈ rest, ¬d.Admits (slot d.target d.data) := by
          obtain ⟨d, member, notAdmitted⟩ := refused
          rcases List.mem_cons.1 member with rfl | behind
          · exact absurd admitted notAdmitted
          · exact ⟨d, behind, notAdmitted⟩
        simp only [serveCalls, Query.runFrom_bind, made]
        cases result : slot c.target c.data with
        | some data => simp only [Query.runFrom_bind, Query.runFrom_pure, ih later]
        | none =>
            simp only [admitted result, if_true, Query.runFrom_bind, Query.runFrom_pure, ih later]
      · obtain ⟨reverted, mayNotFail⟩ := Classical.not_imp.1 admitted
        rw [Bool.not_eq_true] at mayNotFail
        simp only [serveCalls, Query.runFrom_bind, made, reverted, mayNotFail, Bool.false_eq_true,
          if_false, Query.runFrom_throw]

/-- The node that makes every batch of calls with fixed results is honest. -/
theorem honest_node (slot : Address → Bytes → Option Bytes) (address : Address) :
    Honest (node (contractBy slot) : Endpoint σ) address slot
      fun _ _ => .reverted "execution reverted: Multicall3: call failed" where
  answers := by
    intro data calls s decoded admitted
    refine ⟨s, ?_⟩
    simp only [node, serve, Query.runFrom_bind, Query.runFrom_abi, decoded, Except.mapError,
      runFrom_serveCalls_admitted admitted, Query.runFrom_pure]
  refuses := by
    intro data calls s decoded refused
    refine ⟨s, ?_⟩
    simp only [node, serve, Query.runFrom_bind, Query.runFrom_abi, decoded, Except.mapError,
      runFrom_serveCalls_refused refused, callFailed]

/-! ### What the one who asks gets to see -/

/-- An honest node answers a batch by what its calls come to. -/
theorem runFrom_execute_honest (honest : Honest endpoint address slot refusal)
    (short : 64 + (calls.map fun c => 192 + c.data.length).sum < 2 ^ (256 : Nat))
    (shortReplies :
      64 + ((repliesBy slot calls).map fun r => 160 + r.data.length).sum < 2 ^ (256 : Nat))
    (admitted : ∀ c ∈ calls, c.Admits (slot c.target c.data)) (s : σ) :
    ∃ t, (execute endpoint address calls).runFrom s = (.ok (repliesBy slot calls), t) := by
  cases calls with
  | nil => exact ⟨s, rfl⟩
  | cons c rest =>
      obtain ⟨t, answered⟩ := honest.answers s (decodeCalls_encode short) admitted
      have asMany : (repliesBy slot (c :: rest)).length = (c :: rest).length := by simp [repliesBy]
      exact ⟨t, runFrom_execute (by simp) asMany shortReplies answered⟩

/-- The error with which an honest node refuses a batch is passed on. -/
theorem runFrom_execute_refused (honest : Honest endpoint address slot refusal)
    (short : 64 + (calls.map fun c => 192 + c.data.length).sum < 2 ^ (256 : Nat))
    (refused : ∃ c ∈ calls, ¬c.Admits (slot c.target c.data)) (s : σ) :
    ∃ t, (execute endpoint address calls).runFrom s =
      (.error (.rpc (refusal s calls)), t) := by
  obtain ⟨t, answered⟩ := honest.refuses s (decodeCalls_encode short) refused
  cases calls with
  | nil =>
      obtain ⟨c, member, -⟩ := refused
      cases member
  | cons c rest => exact ⟨t, by rw [runFrom_execute_of_ne_nil (by simp), answered]⟩

/-- Return data that can be read holds a reply for each call. -/
theorem length_of_decode {expected : Nat} {data : Bytes} {replies : List Reply}
    (read : decode expected data = .ok replies) : replies.length = expected := by
  obtain ⟨values, -, rest⟩ := bind_eq_ok_iff.1 read
  by_cases asMany : (List.map replyOfValue values.1).length = expected
  · simp only [asMany, if_true] at rest
    cases rest
    exact asMany
  · simp only [asMany, if_false] at rest
    cases rest

/-- Whatever octets a node returns, either they cannot be read or there is a reply for each call. -/
theorem execute_of_returned {data : Bytes}
    (returned : (endpoint.call address (encode calls)).runFrom s = (.ok data, t)) :
    (∃ e, ((execute endpoint address calls).runFrom s).1 = .error (.abi e)) ∨
      ∃ replies, ((execute endpoint address calls).runFrom s).1 = .ok replies ∧
        replies.length = calls.length := by
  cases calls with
  | nil => exact .inr ⟨[], rfl, rfl⟩
  | cons c rest =>
      rw [runFrom_execute_of_ne_nil (by simp), returned]
      cases read : decode (c :: rest).length data with
      | error e => exact .inl ⟨e, congrArg (Except.mapError Fault.abi) read⟩
      | ok replies =>
          exact .inr ⟨replies, congrArg (Except.mapError Fault.abi) read, length_of_decode read⟩

/-- A batch of requests that can be read is transparent. An honest node's answer to it tells, slot
by slot, what the call in the slot comes to alone, or it is the node's own error if one of the calls
is reverted and may not fail. And from a node that may return any octets, either these cannot be
read or there is a reply for each request.

What keeps an honest answer readable is that neither calldata nor return data is `2 ^ 256` octets
long. -/
theorem executeRequests_transparent {requests : List CallRequest} {calls : List Call}
    (read : requests.mapM CallRequest.read = .ok calls) (endpoint : Endpoint σ)
    (address : Address) :
    (∀ slot refusal, Honest endpoint address slot refusal →
      64 + (calls.map fun c => 192 + c.data.length).sum < 2 ^ (256 : Nat) →
      64 + ((repliesBy slot calls).map fun r => 160 + r.data.length).sum < 2 ^ (256 : Nat) →
        ∀ s : σ,
          ((∀ c ∈ calls, c.Admits (slot c.target c.data)) → ∃ t,
            (executeRequests (execute endpoint address) requests).runFrom s =
              (.ok (repliesBy slot calls), t)) ∧
          ((∃ c ∈ calls, ¬c.Admits (slot c.target c.data)) → ∃ t,
            (executeRequests (execute endpoint address) requests).runFrom s =
              (.error (.rpc (refusal s calls)), t))) ∧
    ∀ (s t : σ) (data : Bytes),
      (endpoint.call address (encode calls)).runFrom s = (.ok data, t) →
        (∃ e, ((executeRequests (execute endpoint address) requests).runFrom s).1 =
          .error (.abi e)) ∨
        ∃ replies, ((executeRequests (execute endpoint address) requests).runFrom s).1 =
          .ok replies ∧ replies.length = requests.length := by
  have asMany : calls.length = requests.length := (mapM_eq_ok_iff.1 read).length_eq.symm
  have run : ∀ s : σ, (executeRequests (execute endpoint address) requests).runFrom s =
      (execute endpoint address calls).runFrom s := by
    intro s
    simp only [executeRequests, read, Query.runFrom_bind, Query.runFrom_input, Except.mapError]
  simp only [run, ← asMany]
  refine ⟨?_, fun s t data returned => execute_of_returned returned⟩
  intro slot refusal honest short shortReplies s
  exact ⟨fun admitted => runFrom_execute_honest honest short shortReplies admitted s,
    fun refused => runFrom_execute_refused honest short refused s⟩

/-- A contract that reverts an empty call and gives back the calldata of every other one. -/
def echo (_ : Address) (data : Bytes) : Option Bytes := if data.isEmpty then none else some data

/-- One address in three spellings, and a call that is reverted between two that are not. -/
def sampleRequests (mayFail : Bool) : List CallRequest :=
  [⟨.bytes defaultAddress.bytes, .bytes [1, 2], .bool false⟩,
    ⟨.text "0xCA11BDE05977B3631167028862BE2A173976CA11", .bytes [], .bool mayFail⟩,
    ⟨.text "ca11bde05977b3631167028862be2a173976ca11", .bytes [3], .null⟩]

/-- What the sample requests ask for. -/
def sampleCalls (mayFail : Bool) : List Call :=
  [⟨defaultAddress, [1, 2], false⟩, ⟨defaultAddress, [], mayFail⟩, ⟨defaultAddress, [3], false⟩]

theorem read_sampleRequests (mayFail : Bool) :
    (sampleRequests mayFail).mapM CallRequest.read = .ok (sampleCalls mayFail) := by
  cases mayFail with
  | false => rfl
  | true => rfl

/-- The reverted call takes the batch with it only if it may not fail. Return data of a single octet
is refused, or else it would have to hold three replies. -/
theorem executeRequests_transparent_sample :
    (∃ t, (executeRequests (execute (node (contractBy echo)) defaultAddress)
        (sampleRequests true)).runFrom () = (.ok [⟨true, [1, 2]⟩, ⟨false, []⟩, ⟨true, [3]⟩], t)) ∧
      (∃ t, (executeRequests (execute (node (contractBy echo)) defaultAddress)
        (sampleRequests false)).runFrom () =
          (.error (.rpc (.reverted "execution reverted: Multicall3: call failed")), t)) ∧
      ((∃ e, ((executeRequests (execute ⟨fun _ _ => pure [7]⟩ defaultAddress)
          (sampleRequests true)).runFrom ()).1 = .error (.abi e)) ∨
        ∃ replies, ((executeRequests (execute ⟨fun _ _ => pure [7]⟩ defaultAddress)
          (sampleRequests true)).runFrom ()).1 = .ok replies ∧ replies.length = 3) := by
  have honest : Honest (node (contractBy echo)) defaultAddress echo
      fun (_ : Unit) _ => .reverted "execution reverted: Multicall3: call failed" :=
    honest_node echo _
  obtain ⟨told, -⟩ :=
    executeRequests_transparent (read_sampleRequests true) (node (contractBy echo)) defaultAddress
  obtain ⟨refused, -⟩ :=
    executeRequests_transparent (read_sampleRequests false) (node (contractBy echo)) defaultAddress
  obtain ⟨-, garbled⟩ :=
    executeRequests_transparent (read_sampleRequests true) ⟨fun _ _ => pure [7]⟩ defaultAddress
  refine ⟨?_, ?_, garbled () () [7] rfl⟩
  · refine (told echo _ honest (by decide) (by decide) ()).1 ?_
    unfold Call.Admits
    decide
  · refine (refused echo _ honest (by decide) (by decide) ()).2 ?_
    refine ⟨⟨defaultAddress, [], false⟩, by simp [sampleCalls], ?_⟩
    unfold Call.Admits
    decide

end Batch

end MultisigQueue
