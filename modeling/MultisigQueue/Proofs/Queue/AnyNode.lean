/-
Module: MultisigQueue.Proofs.Queue.AnyNode
Purpose: Nothing that a node answers can corrupt a queue.
Main exports:
  Exchange, Endpoint.ofStrategy, Exchange.Answers, Reader.ShownFor, Reader.IsSound,
  Client.isSound_ofStrategy
-/
import MultisigQueue.Proofs.Queue.ByRule

namespace MultisigQueue

/-!
A node that answers as it likes is a function from everything that it has been asked, and what it
answered, to its next answer. The history of these exchanges only grows, so what a queue shows can
be traced to an exchange at the end of the pass: every signature stands on a page in the slot of a
call for the list of its signer.
-/

/-- A call of a node and the answer to it. -/
structure Exchange where
  contract : Address
  request : Bytes
  reply : Bytes
deriving DecidableEq, Repr

/-- The node that answers every call with octets of its choice, in view of all earlier exchanges. -/
def Endpoint.ofStrategy (answer : List Exchange → Address → Bytes → Bytes) :
    Endpoint (List Exchange) where
  call contract request := do
    let history ← get
    let reply := answer history contract request
    set (history ++ [⟨contract, request, reply⟩])
    return reply

namespace Exchange

/-- Whether an exchange is a batch of some calls with a readable answer, in which the reply stands
in the slot of the call. -/
def Answers (e : Exchange) (contract : Address) (call : Call) (reply : Reply) : Prop :=
  e.contract = contract ∧ ∃ calls replies, e.request = Batch.encode calls ∧
    Batch.decode calls.length e.reply = .ok replies ∧ (call, reply) ∈ calls.zip replies

/-- Whether a batch with the replies to it is one of the exchanges of a history. -/
def Recorded (contract : Address) (history : List Exchange) (calls : List Call)
    (replies : List Reply) : Prop :=
  ∃ e ∈ history, e.contract = contract ∧ e.request = Batch.encode calls ∧
    Batch.decode calls.length e.reply = .ok replies

/-- What is recorded stays recorded. -/
theorem Recorded.mono {contract : Address} {history later : List Exchange} {calls : List Call}
    {replies : List Reply} (recorded : Recorded contract history calls replies)
    (grows : history <+: later) : Recorded contract later calls replies := by
  obtain ⟨e, happened, rest⟩ := recorded
  exact ⟨e, grows.subset happened, rest⟩

end Exchange

/-- Whether a signature stands on a page that was answered in the slot of a call for the list of its
signer and a nonce. -/
def Reader.ShownFor (r : Reader) (contract : Address) (history : List Exchange) (nonce : Int)
    (g : Signature) : Prop :=
  ∃ e ∈ history, ∃ call reply place count, e.Answers contract call reply ∧
    Store.pageCall r.store g.signer r.safe r.chainId nonce place count = .ok call ∧
    reply.success = true ∧ ∃ page, Store.decodePage reply.data = .ok page ∧ g.stored ∈ page.items

/-- What was shown stays shown. -/
theorem Reader.ShownFor.mono {r : Reader} {contract : Address} {history later : List Exchange}
    {nonce : Int} {g : Signature} (shown : r.ShownFor contract history nonce g)
    (grows : history <+: later) : r.ShownFor contract later nonce g := by
  obtain ⟨e, happened, rest⟩ := shown
  exact ⟨e, grows.subset happened, rest⟩

/-- What a pass may come to, with the history of the node after it, if it is sound: a failure is one
of data that cannot be encoded or decoded, and a queue is in order, within the window, and shows
every owner's own signatures only. -/
inductive Reader.IsSound (r : Reader) (contract : Address) (owners : List Address)
    (start window : Int) : Except Fault (List Contenders) × List Exchange → Prop where
  | failed {e : Fault} {history : List Exchange} (isAbi : e.isAbi = true) :
      IsSound r contract owners start window (.error e, history)
  | queue {groups : List Contenders} {history : List Exchange}
      (ordered : WellOrdered owners (NonceWindow.nonces ⟨start, window.toNat⟩) groups)
      (within : ∀ group ∈ groups, start ≤ group.nonce ∧ group.nonce < start + window)
      (bounded : ∀ group ∈ groups, ∀ entry ∈ group.entries,
        entry.signatures.length ≤ owners.eraseDups.length)
      (shown : ∀ group ∈ groups, ∀ entry ∈ group.entries, ∀ g ∈ entry.signatures,
        r.ShownFor contract history entry.nonce g) :
      IsSound r contract owners start window (.ok groups, history)

namespace Batch

variable {answer : List Exchange → Address → Bytes → Bytes} {contract : Address}
  {calls : List Call} {s t : List Exchange}

/-- A batch that is not empty is one exchange. -/
theorem runFrom_execute_ofStrategy (some : calls ≠ []) :
    (execute (.ofStrategy answer) contract calls).runFrom s =
      ((decode calls.length (answer s contract (encode calls))).mapError Fault.abi,
        s ++ [⟨contract, encode calls, answer s contract (encode calls)⟩]) := by
  rw [execute, if_neg (by simpa using some)]
  rfl

/-- A batch adds to the history and takes nothing away. -/
theorem prefix_of_execute {result : Except Fault (List Reply)}
    (run : (execute (.ofStrategy answer) contract calls).runFrom s = (result, t)) : s <+: t := by
  by_cases none : calls = []
  · rw [none] at run
    cases run
    exact List.prefix_refl s
  · rw [runFrom_execute_ofStrategy none] at run
    cases run
    exact List.prefix_append s _

/-- The replies to a batch are those of an exchange. -/
theorem recorded_of_execute {replies : List Reply} (some : calls ≠ [])
    (run : (execute (.ofStrategy answer) contract calls).runFrom s = (.ok replies, t)) :
    Exchange.Recorded contract t calls replies := by
  rw [runFrom_execute_ofStrategy some] at run
  obtain ⟨decoded, rfl⟩ := Prod.mk.inj run
  exact ⟨_, List.mem_append_right s List.mem_cons_self, rfl, rfl, mapError_eq_ok_iff.1 decoded⟩

/-- A batch fails only where its replies cannot be read. -/
theorem isAbi_of_execute {e : Fault}
    (run : (execute (.ofStrategy answer) contract calls).runFrom s = (.error e, t)) :
    e.isAbi = true := by
  by_cases none : calls = []
  · rw [none] at run
    cases run
  · rw [runFrom_execute_ofStrategy none] at run
    obtain ⟨failure, -, rfl⟩ := mapError_eq_error_iff.1 (Prod.mk.inj run).1
    rfl

end Batch

namespace Reader

variable {r : Reader} {answer : List Exchange → Address → Bytes → Bytes} {contract : Address}
  {owners : List Address} {nonces : List Int} {s u : List Exchange} {groups : List Contenders}
  {pageSize : Int}

/-- A call for a page of a number of signatures fails only where its arguments do not fit. -/
theorem isAbi_of_callFor (sized : r.pageSize = .int pageSize) {c : Cursor Int} {e : Fault}
    (fails : r.callFor c = .error e) : e.isAbi = true := by
  rw [callFor_int sized] at fails
  obtain ⟨failure, -, rfl⟩ := mapError_eq_error_iff.1 fails
  rfl

/-- The reply at the position of a cursor stands in the slot of the call at the cursor. -/
theorem exists_call_of_mem_zip {cursors : List (Cursor Int)} {calls : List Call}
    {replies : List Reply} (asked : cursors.mapM r.callFor = .ok calls) {c : Cursor Int}
    {reply : Reply} (together : (c, reply) ∈ cursors.zip replies) :
    ∃ call, r.callFor c = .ok call ∧ (call, reply) ∈ calls.zip replies := by
  have each := mapM_eq_ok_iff.1 asked
  clear asked
  induction each generalizing replies with
  | nil => simp at together
  | @cons d call cursors calls first later ih =>
      cases replies with
      | nil => simp at together
      | cons answer others =>
          rcases List.mem_cons.1 together with same | behind
          · cases same
            exact ⟨call, first, List.mem_cons_self⟩
          · obtain ⟨other, ofCursor, inSlot⟩ := ih behind
            exact ⟨other, ofCursor, List.mem_cons_of_mem _ inSlot⟩

/-- Every signature on the pages of a reading was shown for the list in which it was found. -/
theorem shownFor_of_reads (sized : r.pageSize = .int pageSize) {found : List (Found Int)}
    (reads : r.Reads (Batch.execute (.ofStrategy answer) contract) (Cursor.first owners nonces) s
      found u) {nonce : Int} {g : Signature} (member : g ∈ signaturesOf found (g.signer, nonce)) :
    r.ShownFor contract u nonce g := by
  obtain ⟨page, isFound, ofKey, onPage⟩ := mem_signaturesOf.1 member
  obtain ⟨sameOwner, sameNonce⟩ := Prod.mk.inj ofKey
  obtain ⟨cursors, calls, replies, reply, ⟨e, happened, atContract, asBatch, read⟩, asked, together,
    absorbed⟩ := reads.page_origin (Exchange.Recorded contract)
      (fun some run => Batch.recorded_of_execute some run)
      (fun run recorded => recorded.mono (Batch.prefix_of_execute run))
      isFound
  rw [← absorbed] at onPage
  obtain ⟨content, success, decoded, listed⟩ := Cursor.exists_page_of_mem_absorb onPage
  obtain ⟨call, ofCursor, inSlot⟩ := exists_call_of_mem_zip asked together
  rw [callFor_int sized, mapError_eq_ok_iff, sameOwner, sameNonce] at ofCursor
  obtain ⟨stored, onContent, same⟩ := List.mem_map.1 listed
  refine ⟨e, happened, call, reply, _, _, ⟨atContract, calls, replies, asBatch, read, inSlot⟩,
    ofCursor, success, content, decoded, ?_⟩
  rw [← same]
  exact onContent

/-- Every signature in a queue was shown for the list of its signer and for the nonce at which it
stands. -/
theorem shownFor_of_queueOf (sized : r.pageSize = .int pageSize)
    (ascends : Ascending (fun n : Int => n) nonces)
    (run : (r.queueOf (Batch.execute (.ofStrategy answer) contract) owners nonces).runFrom s =
      (.ok groups, u)) {group : Contenders} (member : group ∈ groups) {entry : Candidate}
    (shown : entry ∈ group.entries) {g : Signature} (signs : g ∈ entry.signatures) :
    r.ShownFor contract u entry.nonce g := by
  obtain ⟨found, t, records, reads, looked, rfl⟩ := runFrom_queueOf_eq_ok.1 run
  rw [build_eq_queue_told ascends reads] at member
  obtain ⟨-, ofNonce, -, supported⟩ := (Holdings.mem_group_iff member).1 shown
  rw [supported, ← ofNonce] at signs
  have first := (Holdings.mem_supporters.1 signs).2
  rw [reads.ascribed.support?_told] at first
  have listed := List.mem_of_find?_eq_some first
  refine (shownFor_of_reads sized reads listed).mono ?_
  obtain ⟨replies, v, answered, same⟩ := Query.runFrom_bind_eq_ok.1 looked
  cases same
  exact Batch.prefix_of_execute answered

end Reader

/-- Whatever a node answers, a pass comes to a sound queue or fails for data that cannot be encoded
or decoded. -/
theorem Client.isSound_ofStrategy {storeGiven safeGiven : Value} {store safe : Address}
    {ownersGiven : List Value} {owners : List Address} {chainId pageSize start window : Int}
    (storeRead : storeGiven.toAddress = .ok store) (safeRead : safeGiven.toAddress = .ok safe)
    (ownersRead : ownersGiven.mapM Value.toAddress = .ok owners) (positive : 0 < pageSize)
    (fromStart : 0 ≤ start) (forward : 0 ≤ window) (contract : Address)
    (answer : List Exchange → Address → Bytes → Bytes) :
    Reader.IsSound ⟨store, safe, chainId, .int pageSize⟩ contract owners start window
      ((reconstructFrom (Batch.execute (.ofStrategy answer) contract) storeGiven safeGiven
        (.int chainId) (.int pageSize) (.list ownersGiven) (.int start) (.int window)).runFrom
        []) := by
  rw [runFrom_reconstructFrom storeRead safeRead ownersRead positive fromStart forward]
  let r : Reader := ⟨store, safe, chainId, .int pageSize⟩
  rcases run : (r.reconstruct (Batch.execute (.ofStrategy answer) contract) owners start
    window).runFrom [] with ⟨e | groups, history⟩
  · refine .failed ?_
    rw [Reader.runFrom_reconstruct fromStart forward] at run
    split at run
    · cases run
    · exact Reader.error_of_queueOf (fun c e fails => Reader.isAbi_of_callFor rfl fails)
        (fun calls s e t fails => Batch.isAbi_of_execute fails) run
  · have ordered := Reader.wellOrdered_reconstruct fromStart forward run
    refine .queue ordered ?within ?bounded ?shown
    case within =>
      intro group member
      have inside := NonceWindow.mem_nonces.1 (ordered.nonce_mem group member)
      simp only at inside
      omega
    case bounded =>
      intro group member entry isEntry
      exact ordered.length_signatures_le member isEntry
    case shown =>
      intro group member entry isEntry g signs
      rw [Reader.runFrom_reconstruct fromStart forward] at run
      split at run
      · cases run
        cases member
      · exact Reader.shownFor_of_queueOf rfl (NonceWindow.ascending_nonces _) run member isEntry
          signs

namespace Exchange

/-- A signature on a page. -/
def shownSignature : StoredSignature := ⟨.ofNat 32 2, .ofNat 32 8, .ofNat 32 7⟩

theorem one_fits : 1 < 2 ^ (256 : Nat) := by decide

/-- A page with this signature for the first of two calls, and a refusal of the second. -/
def pageReplies : List Reply :=
  [⟨true, Store.pageReturn [shownSignature] ⟨1, one_fits⟩⟩, { success := false }]

/-- A transaction, whatever it is looked up under. -/
def recordReplies : List Reply :=
  [⟨true, Store.recordReturn true { target := .zero } Ledger.tellable_zero⟩]

/-- A node that answers first with the page and then always with the transaction. -/
def pageThenRecord (history : List Exchange) (_ : Address) (_ : Bytes) : Bytes :=
  match history with
  | [] => Batch.encodeReplies pageReplies
  | _ :: _ => Batch.encodeReplies recordReplies

theorem short_pageReplies :
    64 + (pageReplies.map fun r => 160 + r.data.length).sum < 2 ^ (256 : Nat) := by
  simp [pageReplies, Store.length_pageReturn]

theorem length_recordReturn_le :
    (Store.recordReturn true { target := .zero } Ledger.tellable_zero).length ≤ 415 :=
  Store.length_recordReturn_le true { target := .zero } Ledger.tellable_zero

theorem short_recordReplies :
    64 + (recordReplies.map fun r => 160 + r.data.length).sum < 2 ^ (256 : Nat) := by
  have size := length_recordReturn_le
  simp only [recordReplies, List.map_cons, List.map_nil, List.sum_cons, List.sum_nil]
  omega

end Exchange

namespace Reader

open Exchange

/-- A reader of a Safe, with pages that hold more than a node shows. -/
def sampleShown : Reader :=
  ⟨Store.defaultAddress, .ofNat 0x1111111111111111111111111111111111111111, 1, .int 50⟩

/-- The page is found in a first round, which is the last one too. -/
theorem exists_reads_pageThenRecord (owner : Address) :
    ∃ e, sampleShown.Reads (Batch.execute (.ofStrategy pageThenRecord) .zero)
      [⟨owner, (3 : Int), 0⟩, ⟨owner, 4, 0⟩] []
      [⟨⟨owner, 3, 0⟩, [shownSignature.by owner]⟩] [e] := by
  have askable : sampleShown.Askable := ⟨by decide, 50, rfl, by decide⟩
  obtain ⟨c, first⟩ := exists_callFor askable (c := ⟨owner, 3, 0⟩) ⟨by simp, by simp⟩
  obtain ⟨d, second⟩ := exists_callFor askable (c := ⟨owner, 4, 0⟩) ⟨by simp, by simp⟩
  have asked : [⟨owner, (3 : Int), 0⟩, ⟨owner, 4, 0⟩].mapM sampleShown.callFor = .ok [c, d] :=
    mapM_eq_ok_iff.2 (.cons first (.cons second .nil))
  obtain ⟨e, answered⟩ : ∃ e, (Batch.execute (.ofStrategy pageThenRecord) .zero [c, d]).runFrom [] =
      (.ok pageReplies, [e]) :=
    ⟨_, Batch.runFrom_execute (List.cons_ne_nil _ _) rfl short_pageReplies rfl⟩
  have within : (⟨owner, 3, 0⟩ : Cursor Int).Within [shownSignature] :=
    ⟨Int.le_refl 0, Nat.zero_le 1⟩
  have decoded : Store.decodePage (Store.pageReturn [shownSignature] ⟨1, one_fits⟩) =
      .ok ⟨[shownSignature], 1⟩ := Store.decodePage_pageReturn (by decide)
  have absorbed := Cursor.absorb_of_decodePage within (Store.pageReturn_ne_nil _ _) decoded nofun
  have round : Cursor.absorbRound [⟨owner, (3 : Int), 0⟩, ⟨owner, 4, 0⟩] pageReplies =
      ([⟨⟨owner, 3, 0⟩, [shownSignature.by owner]⟩], []) := by
    simp only [Cursor.absorbRound, pageReplies, List.zipWith_cons_cons, List.zipWith_nil_left,
      absorbed]
    rfl
  have reads := Reads.round (List.cons_ne_nil _ _) asked answered (by rw [round]; exact .done _)
  rw [round] at reads
  exact ⟨e, reads⟩

/-- The lookup after it finds the transaction. -/
theorem exists_lookup_pageThenRecord (hash : Word) (e : Exchange) :
    ∃ t, (resolveMany (Batch.execute (.ofStrategy pageThenRecord) .zero) sampleShown.store
      [hash]).runFrom [e] = (.ok [.ofContent hash (some { target := .zero })], t) := by
  have one : [hash].eraseDups = [hash] := by simp [List.eraseDups_cons]
  obtain ⟨t, answered⟩ : ∃ t, (Batch.execute (.ofStrategy pageThenRecord) .zero
      [Store.lookupCall sampleShown.store hash]).runFrom [e] = (.ok recordReplies, t) :=
    ⟨_, Batch.runFrom_execute (List.cons_ne_nil _ _) rfl short_recordReplies rfl⟩
  have decoded := Store.decodeLookup_recordReturn hash true Ledger.tellable_zero
    (Nat.lt_of_le_of_lt length_recordReturn_le (by decide))
  have hasData : Reply.hasData
      ⟨true, Store.recordReturn true { target := .zero } Ledger.tellable_zero⟩ = true := by
    simp [Reply.hasData, Store.recordReturn_ne_nil]
  have absorbed : Resolution.absorb hash
      ⟨true, Store.recordReturn true { target := .zero } Ledger.tellable_zero⟩ =
        .ofContent hash (some { target := .zero }) := by
    simp only [Resolution.absorb, hasData, if_true, decoded]
  refine ⟨t, ?_⟩
  simp only [resolveMany, one, List.map_cons, List.map_nil, Query.runFrom_bind, answered,
    Query.runFrom_pure, recordReplies, List.zipWith_cons_cons, List.zipWith_nil_left, absorbed]

/-- A pass over this node comes to a queue, in which there is a group. -/
theorem exists_queueOf_pageThenRecord (owner : Address) :
    ∃ groups history, (sampleShown.queueOf (Batch.execute (.ofStrategy pageThenRecord) .zero)
        [owner, owner] [3, 4]).runFrom [] = (.ok groups, history) ∧
      ∃ group ∈ groups, group.nonce = 3 := by
  obtain ⟨e, reads⟩ := exists_reads_pageThenRecord owner
  have cursors : Cursor.first [owner, owner] [(3 : Int), 4] =
      [⟨owner, 3, 0⟩, ⟨owner, 4, 0⟩] := by
    simp [Cursor.first, List.eraseDups_cons]
  rw [← cursors] at reads
  obtain ⟨history, looked⟩ := exists_lookup_pageThenRecord shownSignature.txHash e
  have kept : (Tally.ofFound [⟨⟨owner, 3, 0⟩, [shownSignature.by owner]⟩]).kept =
      [(3, shownSignature.by owner)] := rfl
  have identities : (Tally.ofFound [⟨⟨owner, 3, 0⟩, [shownSignature.by owner]⟩]).identities =
      [shownSignature.txHash] := by
    simp [Tally.identities, kept, List.eraseDups_cons]
    rfl
  rw [← identities] at looked
  refine ⟨_, history, runFrom_queueOf_eq_ok.2 ⟨_, _, _, reads, looked, rfl⟩, ?_⟩
  rw [build_eq_queue_told (NonceWindow.ascending_nonces ⟨3, 2⟩) reads]
  refine Holdings.exists_group_iff.2 ⟨NonceWindow.mem_nonces.2 (by decide), owner,
    List.mem_cons_self, shownSignature, ?listed, ?stored⟩
  case listed =>
    have shown : shownSignature.by owner ∈
        signaturesOf [⟨⟨owner, (3 : Int), 0⟩, [shownSignature.by owner]⟩] (owner, 3) :=
      mem_signaturesOf.2 ⟨_, List.mem_singleton_self _, rfl, List.mem_singleton_self _⟩
    exact List.mem_map.2 ⟨_, shown, rfl⟩
  case stored => simp [told, resolutionOf]

end Reader

/-- A pass over a window of two nonces for an owner who is named twice. -/
def Client.sampleShown {σ : Type} (executor : Executor σ) : Query σ (List Contenders) :=
  reconstructFrom executor (.text "0x5e669c1f2f9629b22dd05fbff63313a49f87d4e6")
    (.text "0x1111111111111111111111111111111111111111") (.int 1) (.int 50)
    (.list [.text "0x2222222222222222222222222222222222222222",
      .text "2222222222222222222222222222222222222222"]) (.int 3) (.int 2)

/-- A queue that is not empty, from a node that shows a page. -/
theorem Client.isSound_pageThenRecord :
    ∃ groups history,
      (sampleShown (Batch.execute (.ofStrategy Exchange.pageThenRecord) .zero)).runFrom [] =
        (.ok groups, history) ∧
      (∃ group ∈ groups, group.nonce = 3) ∧
      Reader.IsSound .sampleShown .zero
        [.ofNat 0x2222222222222222222222222222222222222222,
          .ofNat 0x2222222222222222222222222222222222222222] 3 2 (.ok groups, history) := by
  let owner : Address := .ofNat 0x2222222222222222222222222222222222222222
  have storeRead : (Value.text "0x5e669c1f2f9629b22dd05fbff63313a49f87d4e6").toAddress =
      .ok Reader.sampleShown.store := rfl
  have safeRead : (Value.text "0x1111111111111111111111111111111111111111").toAddress =
      .ok Reader.sampleShown.safe := rfl
  have ownersRead : [Value.text "0x2222222222222222222222222222222222222222",
      .text "2222222222222222222222222222222222222222"].mapM Value.toAddress =
        .ok [owner, owner] := rfl
  have positive : (0 : Int) < 50 := by decide
  have fromStart : (0 : Int) ≤ 3 := by decide
  have forward : (0 : Int) ≤ 2 := by decide
  have sound : Reader.IsSound .sampleShown .zero [owner, owner] 3 2
      ((sampleShown (Batch.execute (.ofStrategy Exchange.pageThenRecord) .zero)).runFrom []) :=
    isSound_ofStrategy storeRead safeRead ownersRead positive fromStart forward .zero
      Exchange.pageThenRecord
  obtain ⟨groups, history, queue, group⟩ := Reader.exists_queueOf_pageThenRecord owner
  have run : (sampleShown (Batch.execute (.ofStrategy Exchange.pageThenRecord) .zero)).runFrom [] =
      (.ok groups, history) := by
    rw [sampleShown, runFrom_reconstructFrom storeRead safeRead ownersRead positive fromStart
      forward, Reader.runFrom_reconstruct fromStart forward, if_neg (by decide)]
    exact queue
  rw [run] at sound
  exact ⟨groups, history, run, group, sound⟩

end MultisigQueue
