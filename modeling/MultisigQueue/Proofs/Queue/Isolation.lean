/-
Module: MultisigQueue.Proofs.Queue.Isolation
Purpose: A node that fails for some owners and hashes changes nothing about all others.
Main exports:
  Reply.Fails, Batch.FailsFor, Holdings.without, Holdings.queue_without, Reader.heldBy_failing,
  Client.reconstructFrom_failing
-/
import MultisigQueue.Proofs.Queue.ByRule

namespace MultisigQueue

/-!
A list that cannot be read counts as an empty one, and a lookup that cannot be read as one of
nothing. So a node that refuses some lists and lookups holds what is left of its holdings without
them, and the queue of these is made of the candidates that remain.
-/

/-- Whether a reply fails: the call did not go through, or it returned nothing, or what it returned
cannot be read. -/
def Reply.Fails {ε α : Type} (read : Bytes → Except ε α) (r : Reply) : Prop :=
  r.success = false ∨ r.data = [] ∨ ∃ e, read r.data = .error e

theorem Reply.Fails.of_hasData {ε α : Type} {read : Bytes → Except ε α} {r : Reply}
    (fails : r.Fails read) (hasData : r.hasData = true) : ∃ e, read r.data = .error e := by
  simp only [Reply.hasData, Bool.and_eq_true, Bool.not_eq_true',
    List.isEmpty_eq_false_iff] at hasData
  rcases fails with refused | nothing | unreadable
  · rw [hasData.1] at refused
    cases refused
  · exact absurd nothing hasData.2
  · exact unreadable

/-- A page that cannot be read is an empty one at the end of its list. -/
theorem Cursor.absorb_of_fails {ν : Type} {c : Cursor ν} {reply : Reply}
    (fails : reply.Fails Store.decodePage) : c.absorb reply = ([], none) := by
  unfold absorb
  split
  · rename_i hasData
    obtain ⟨e, unreadable⟩ := fails.of_hasData hasData
    simp only [Store.decodeSignatures, unreadable, bind, Except.bind]
  · rfl

/-- A lookup that cannot be read is one of nothing. -/
theorem Resolution.content?_of_fails {hash : Word} {reply : Reply}
    (fails : reply.Fails Store.decodeTransaction) : (absorb hash reply).content? = none := by
  unfold absorb
  split
  · rename_i hasData
    obtain ⟨e, unreadable⟩ := fails.of_hasData hasData
    simp only [Store.decodeLookup, unreadable, bind, Except.bind]
    rfl
  · rfl

/-- Whether one rule fails in the place of another for the lists of some signers and the lookups of
some hashes, and answers every other call of the store as that one does. -/
structure Batch.FailsFor (failing rule : Address → Bytes → Reply) (store : Address)
    (lost : Address → Bool) (missing : Word → Bool) : Prop where
  page : ∀ {data request}, Ledger.pageRequest data = .ok request → lost request.signer = true →
    (failing store data).Fails Store.decodePage
  lookup : ∀ {data hash}, Ledger.lookupRequest data = .ok hash → missing hash = true →
    (failing store data).Fails Store.decodeTransaction
  other : ∀ {data},
    (∀ request, Ledger.pageRequest data = .ok request → lost request.signer = false) →
    (∀ hash, Ledger.lookupRequest data = .ok hash → missing hash = false) →
    failing store data = rule store data

namespace Contenders

/-- A group without its candidates for some hashes, if it has any others. -/
def without (missing : Word → Bool) (group : Contenders) : Option Contenders :=
  let entries := group.entries.filter fun entry => !missing entry.hash
  if entries.isEmpty then none else some { group with entries }

end Contenders

namespace Holdings

/-- Holdings without the lists of some signers and without what is under some hashes. -/
def without (s : Holdings) (lost : Address → Bool) (missing : Word → Bool) : Holdings where
  list owner nonce := if lost owner then [] else s.list owner nonce
  content hash := if missing hash then none else s.content hash

variable {s : Holdings} {lost : Address → Bool} {missing : Word → Bool} {owners : List Address}

theorem mem_filed_without {nonce : Int} {g : StoredSignature} :
    g ∈ (s.without lost missing).filed owners nonce ↔
      g ∈ s.filed (owners.filter fun owner => !lost owner) nonce := by
  simp only [mem_filed, without, List.mem_filter]
  constructor
  · rintro ⟨owner, isOwner, listed⟩
    split at listed
    · cases listed
    · rename_i kept
      exact ⟨owner, ⟨isOwner, by simpa using kept⟩, listed⟩
  · rintro ⟨owner, ⟨isOwner, kept⟩, listed⟩
    have notLost : lost owner = false := by simpa using kept
    exact ⟨owner, isOwner, by simpa [notLost] using listed⟩

theorem hashes_without (nonce : Int) :
    (s.without lost missing).hashes owners nonce =
      s.hashes (owners.filter fun owner => !lost owner) nonce := by
  refine (ascending_hashes _ owners nonce).ext (ascending_hashes s _ nonce) ?_
  intro hash
  simp only [mem_hashes, mem_filed_without]

theorem supporters_without (nonce : Int) (hash : Word) :
    (s.without lost missing).supporters owners nonce hash =
      s.supporters (owners.filter fun owner => !lost owner) nonce hash := by
  refine (ascending_supporters _ owners nonce hash).ext (ascending_supporters s _ nonce hash) ?_
  intro g
  simp only [mem_supporters, support?, without, List.mem_filter]
  cases lost g.signer <;> simp

theorem candidate?_without (nonce : Int) (hash : Word) :
    (s.without lost missing).candidate? owners nonce hash =
      (s.candidate? (owners.filter fun owner => !lost owner) nonce hash).filter
        fun entry => !missing entry.hash := by
  have held : (s.without lost missing).content hash =
      if missing hash then none else s.content hash := rfl
  simp only [candidate?, supporters_without, held]
  cases gone : missing hash <;> cases s.content hash <;> simp [gone, Option.filter_some]

/-- A group loses its candidates for the hashes, and there is none if it loses all. -/
theorem contenders?_without (nonce : Int) :
    (s.without lost missing).contenders? owners nonce =
      (s.contenders? (owners.filter fun owner => !lost owner) nonce).bind
        (Contenders.without missing) := by
  have entries : ((s.without lost missing).hashes owners nonce).filterMap
        ((s.without lost missing).candidate? owners nonce) =
      ((s.hashes (owners.filter fun owner => !lost owner) nonce).filterMap
        (s.candidate? (owners.filter fun owner => !lost owner) nonce)).filter
          fun entry => !missing entry.hash := by
    rw [hashes_without, List.filter_filterMap]
    exact congrArg (List.filterMap · _) (funext (candidate?_without nonce))
  simp only [contenders?, entries]
  generalize (s.hashes (owners.filter fun owner => !lost owner) nonce).filterMap
    (s.candidate? (owners.filter fun owner => !lost owner) nonce) = whole
  cases whole with
  | nil => rfl
  | cons first rest => rfl

/-- What is left of holdings calls for the candidates that are left of their queue. -/
theorem queue_without (nonces : List Int) :
    (s.without lost missing).queue owners nonces =
      (s.queue (owners.filter fun owner => !lost owner) nonces).filterMap
        (Contenders.without missing) := by
  rw [queue, queue, List.filterMap_filterMap]
  exact congrArg (List.filterMap · nonces) (funext contenders?_without)

end Holdings

namespace Reader

variable {failing rule : Address → Bytes → Reply} {r : Reader} {lost : Address → Bool}
  {missing : Word → Bool}

/-- The request at a cursor is for the list of its owner. -/
theorem request_of_callFor {c : Cursor Int} {call : Call} (called : r.callFor c = .ok call) :
    call.target = r.store ∧
      ∃ request, Ledger.pageRequest call.data = .ok request ∧ request.signer = c.owner := by
  obtain ⟨chainWord, nonceWord, startWord, countWord, -, -, -, -, rfl⟩ :=
    callFor_eq_ok_iff.1 called
  have requested :=
    Ledger.pageRequest_pageCalldata c.owner r.safe chainWord nonceWord startWord countWord
  exact ⟨rfl, _, requested, rfl⟩

/-- The pages of lost signers fail. -/
theorem replyAt_of_lost (fails : Batch.FailsFor failing rule r.store lost missing)
    {c : Cursor Int} (isLost : lost c.owner = true) :
    (r.replyAt failing c).Fails Store.decodePage := by
  unfold replyAt
  split
  · rename_i call called
    obtain ⟨target, request, requested, signer⟩ := request_of_callFor called
    rw [target]
    exact fails.page requested (by rw [signer, isLost])
  · exact .inl rfl

/-- The pages of all other signers are answered as before. -/
theorem replyAt_of_not_lost (fails : Batch.FailsFor failing rule r.store lost missing)
    {c : Cursor Int} (notLost : lost c.owner = false) :
    r.replyAt failing c = r.replyAt rule c := by
  unfold replyAt
  split
  · rename_i call called
    obtain ⟨target, request, requested, signer⟩ := request_of_callFor called
    rw [target]
    apply fails.other
    · intro other alsoRequested
      rw [requested] at alsoRequested
      cases alsoRequested
      rw [signer, notLost]
    · intro hash looked
      exact absurd looked (Ledger.lookupRequest_ne_ok requested hash)
  · rfl

/-- The list of a lost signer is empty, and that of any other signer is as before. -/
theorem list_heldBy_failing (fails : Batch.FailsFor failing rule r.store lost missing)
    (owner : Address) (nonce : Int) :
    (r.heldBy failing).list owner nonce =
      ((r.heldBy rule).without lost missing).list owner nonce := by
  let atStart : Cursor Int := ⟨owner, nonce, 0⟩
  simp only [heldBy, Holdings.without]
  cases isLost : lost owner with
  | true =>
      -- A list ends with its first page if this page fails.
      have nothing : atStart.absorb (r.replyAt failing atStart) = ([], none) :=
        Cursor.absorb_of_fails (replyAt_of_lost fails isLost)
      rw [Cursor.follow_of_last (by rw [nothing]), nothing]
      rfl
  | false =>
      have same : ∀ d : Cursor Int, d.key = atStart.key →
          r.replyAt failing d = r.replyAt rule d := by
        intro d inList
        have sameOwner : d.owner = owner := (Prod.mk.inj inList).1
        exact replyAt_of_not_lost fails (by rw [sameOwner, isLost])
      rw [Cursor.follow_congr same]
      rfl

/-- Nothing is held under a missing hash, and under any other hash is what was held before. -/
theorem content_heldBy_failing (fails : Batch.FailsFor failing rule r.store lost missing)
    (hash : Word) :
    (r.heldBy failing).content hash = ((r.heldBy rule).without lost missing).content hash := by
  have looked := Ledger.lookupRequest_lookupCall r.store hash
  simp only [heldBy, Holdings.without]
  cases isMissing : missing hash with
  | true => rw [Resolution.content?_of_fails (fails.lookup looked isMissing), if_pos rfl]
  | false =>
      rw [fails.other, if_neg Bool.false_ne_true]
      · intro request requested
        exact absurd looked (Ledger.lookupRequest_ne_ok requested hash)
      · intro other alsoLooked
        rw [looked] at alsoLooked
        cases alsoLooked
        exact isMissing

/-- A node that fails for some signers and hashes holds what is left without them. -/
theorem heldBy_failing (fails : Batch.FailsFor failing rule r.store lost missing) :
    r.heldBy failing = (r.heldBy rule).without lost missing := by
  rw [Holdings.mk.injEq]
  exact ⟨funext fun owner => funext (list_heldBy_failing fails owner),
    funext (content_heldBy_failing fails)⟩

end Reader

/-- A pass over a node that fails for some signers and hashes shows what the node shows otherwise to
the other owners, without the candidates for these hashes and the groups that have no other. -/
theorem Client.reconstructFrom_failing {σ : Type} (contract : Address) (s : σ)
    {failing rule : Address → Bytes → Reply} {store safe : Address} {lost : Address → Bool}
    {missing : Word → Bool} (fails : Batch.FailsFor failing rule store lost missing)
    {storeGiven safeGiven : Value} {ownersGiven keptGiven : List Value} {owners : List Address}
    {chainId pageSize start window : Int} (storeRead : storeGiven.toAddress = .ok store)
    (safeRead : safeGiven.toAddress = .ok safe)
    (ownersRead : ownersGiven.mapM Value.toAddress = .ok owners)
    (keptRead : keptGiven.mapM Value.toAddress = .ok (owners.filter fun owner => !lost owner))
    (chainId_mem : 0 ≤ chainId ∧ chainId < 2 ^ (256 : Nat))
    (pageSize_mem : 1 ≤ pageSize ∧ pageSize < 2 ^ (256 : Nat)) (fromStart : 0 ≤ start)
    (forward : 0 ≤ window) (inside : start + window ≤ 2 ^ (256 : Nat))
    (carries : Batch.Carries rule (Reader.largestBatch ⟨store, safe, chainId, .int pageSize⟩ rule
      (owners.filter fun owner => !lost owner) (NonceWindow.nonces ⟨start, window.toNat⟩)))
    (failingCarries : Batch.Carries failing (Reader.largestBatch
      ⟨store, safe, chainId, .int pageSize⟩ failing owners
      (NonceWindow.nonces ⟨start, window.toNat⟩))) :
    ∃ groups, (reconstructFrom (Batch.executeByRule rule contract) storeGiven safeGiven
        (.int chainId) (.int pageSize) (.list keptGiven) (.int start) (.int window)).runFrom s =
          (.ok groups, s) ∧
      (reconstructFrom (Batch.executeByRule failing contract) storeGiven safeGiven
        (.int chainId) (.int pageSize) (.list ownersGiven) (.int start) (.int window)).runFrom s =
          (.ok (groups.filterMap (Contenders.without missing)), s) := by
  have kept := runFrom_reconstructFrom_byRule contract s storeRead safeRead keptRead chainId_mem
    pageSize_mem fromStart forward inside carries
  have whole := runFrom_reconstructFrom_byRule contract s storeRead safeRead ownersRead chainId_mem
    pageSize_mem fromStart forward inside failingCarries
  rw [Reader.heldBy_failing fails, Holdings.queue_without] at whole
  exact ⟨_, kept, whole⟩

/-! ### A node that fails for one owner and one hash -/

namespace Batch

/-- A rule that refuses the lists of some signers and answers the lookups of some hashes by an octet
that means nothing. -/
def failingFor (rule : Address → Bytes → Reply) (lost : Address → Bool) (missing : Word → Bool)
    (target : Address) (data : Bytes) : Reply :=
  match Ledger.pageRequest data with
  | .ok request => if lost request.signer then { success := false } else rule target data
  | .error _ =>
    match Ledger.lookupRequest data with
    | .ok hash => if missing hash then ⟨true, [1]⟩ else rule target data
    | .error _ => rule target data

theorem failsFor_failingFor (rule : Address → Bytes → Reply) (store : Address)
    (lost : Address → Bool) (missing : Word → Bool) :
    FailsFor (failingFor rule lost missing) rule store lost missing where
  page := by
    intro data request requested isLost
    simp only [failingFor, requested, isLost, if_true]
    exact .inl rfl
  lookup := by
    intro data hash looked isMissing
    cases requested : Ledger.pageRequest data with
    | ok request => exact absurd looked (Ledger.lookupRequest_ne_ok requested hash)
    | error e =>
        simp only [failingFor, requested, looked, isMissing, if_true]
        exact .inr (.inr ⟨_, rfl⟩)
  other := by
    intro data notLost notMissing
    unfold failingFor
    split
    · rename_i request requested
      rw [notLost request requested, if_neg Bool.false_ne_true]
    · split
      · rename_i hash looked
        rw [notMissing hash looked, if_neg Bool.false_ne_true]
      · rfl

/-- What every list holds by the sample rule. -/
def sampleItems : List StoredSignature :=
  [⟨.ofNat 32 1, .ofNat 32 2, .ofNat 32 7⟩, ⟨.ofNat 32 3, .ofNat 32 4, .ofNat 32 8⟩]

theorem length_sampleItems_lt : sampleItems.length < 2 ^ (256 : Nat) := by decide

/-- The page of these two. -/
def samplePage : Reply := ⟨true, Store.pageReturn sampleItems ⟨_, length_sampleItems_lt⟩⟩

/-- A rule by which every list holds two signatures, and the same transaction is stored under every
hash. -/
def tellingRule (_ : Address) (data : Bytes) : Reply :=
  match Ledger.pageRequest data with
  | .ok _ => samplePage
  | .error _ => ⟨true, Store.recordReturn true { target := .zero } Ledger.tellable_zero⟩

theorem tellingRule_lookupCall (store : Address) (hash : Word) :
    tellingRule store (Store.lookupCall store hash).data =
      ⟨true, Store.recordReturn true { target := .zero } Ledger.tellable_zero⟩ := by
  have looked := Ledger.lookupRequest_lookupCall store hash
  cases requested : Ledger.pageRequest (Store.lookupCall store hash).data with
  | ok request => exact absurd looked (Ledger.lookupRequest_ne_ok requested hash)
  | error e => simp only [tellingRule, requested]

theorem length_tellingRule_le (target : Address) (data : Bytes) :
    (tellingRule target data).data.length ≤ 415 := by
  unfold tellingRule
  split
  · rw [samplePage, Store.length_pageReturn]
    decide
  · exact Store.length_recordReturn_le true _ Ledger.tellable_zero

/-- The same but for one signer and one hash. -/
def partlyTelling : Address → Bytes → Reply :=
  failingFor tellingRule (fun owner => owner = .ofNat 3) fun hash => hash = .ofNat 32 8

theorem failsFor_partlyTelling (store : Address) : FailsFor partlyTelling tellingRule store
    (fun owner => owner = .ofNat 3) fun hash => hash = .ofNat 32 8 := failsFor_failingFor ..

theorem carries_partlyTelling : Carries partlyTelling 2 := by
  refine ⟨415, ?_, by decide⟩
  intro target data _
  have told := length_tellingRule_le target data
  unfold partlyTelling failingFor
  split <;> split
  · exact Nat.zero_le 415
  · exact told
  · split
    · decide
    · exact told
  · exact told

end Batch

namespace Reader

/-- A reader whose pages hold the whole list. -/
def sampleWhole : Reader := ⟨Store.defaultAddress, .ofNat 1, 1, .int 50⟩

theorem askable_sampleWhole : sampleWhole.Askable := ⟨by decide, 50, rfl, by decide⟩

theorem list_sampleWhole_of_fits (owner : Address) {nonce : Int}
    (fits : 0 ≤ nonce ∧ nonce < 2 ^ (256 : Nat)) :
    (sampleWhole.heldBy Batch.tellingRule).list owner nonce = Batch.sampleItems := by
  let c : Cursor Int := ⟨owner, nonce, 0⟩
  have askable : c.Askable := ⟨fits, by simp [c]⟩
  obtain ⟨call, called⟩ := exists_callFor askable_sampleWhole askable
  obtain ⟨-, request, requested, -⟩ := request_of_callFor called
  have page : sampleWhole.replyAt Batch.tellingRule c = Batch.samplePage := by
    simp only [replyAt, called, Batch.tellingRule, requested]
  have absorbed : c.absorb (sampleWhole.replyAt Batch.tellingRule c) =
      (Batch.sampleItems.map fun g => g.by owner, none) := by
    have decoded : Store.decodePage Batch.samplePage.data = .ok ⟨Batch.sampleItems, 2⟩ :=
      Store.decodePage_pageReturn (by decide)
    have hasData : Batch.samplePage.hasData = true := by
      simp [Reply.hasData, Batch.samplePage, Store.pageReturn_ne_nil]
    simp only [page, Cursor.absorb, hasData, if_true, Store.decodeSignatures, decoded]
    rfl
  have whole : Cursor.follow (sampleWhole.replyAt Batch.tellingRule) c = _ :=
    Cursor.follow_of_last (by rw [absorbed])
  rw [absorbed] at whole
  exact congrArg (List.map Signature.stored) whole

theorem list_sampleWhole (owner : Address) :
    (sampleWhole.heldBy Batch.tellingRule).list owner 0 = Batch.sampleItems :=
  list_sampleWhole_of_fits owner (by decide)

theorem carries_sampleWhole_of_le {owners : List Address} {nonces : List Int}
    (fit : ∀ nonce ∈ nonces, 0 ≤ nonce ∧ nonce < 2 ^ (256 : Nat))
    (few : owners.length * nonces.length ≤ 4) :
    Batch.Carries Batch.tellingRule (sampleWhole.largestBatch Batch.tellingRule owners nonces) := by
  have filed : (nonces.flatMap ((sampleWhole.heldBy Batch.tellingRule).filed owners)).length =
      2 * (owners.length * nonces.length) := by
    have each : ∀ nonce ∈ nonces, ((sampleWhole.heldBy Batch.tellingRule).filed owners
        nonce).length = 2 * owners.length := by
      intro nonce isAsked
      simp only [Holdings.filed, List.length_flatMap,
        list_sampleWhole_of_fits _ (fit nonce isAsked), sum_map_const]
      rfl
    rw [List.length_flatMap, List.map_congr_left each, sum_map_const, Nat.mul_assoc]
  refine ⟨415, fun target data _ => Batch.length_tellingRule_le target data, ?_⟩
  rw [largestBatch, filed]
  omega

theorem carries_sampleWhole : Batch.Carries Batch.tellingRule
    (sampleWhole.largestBatch Batch.tellingRule [.ofNat 2] (NonceWindow.nonces ⟨0, 1⟩)) :=
  carries_sampleWhole_of_le (by decide) (by decide)

theorem carries_sampleWhole_failing : Batch.Carries Batch.partlyTelling
    (sampleWhole.largestBatch Batch.partlyTelling [.ofNat 2, .ofNat 3]
      (NonceWindow.nonces ⟨0, 1⟩)) := by
  refine Batch.carries_partlyTelling.mono ?_
  have nonces : NonceWindow.nonces ⟨0, 1⟩ = [0] := rfl
  have held := heldBy_failing (Batch.failsFor_partlyTelling sampleWhole.store)
  simp only [nonces, largestBatch, held, Holdings.without, Holdings.filed,
    List.flatMap_cons, List.flatMap_nil, list_sampleWhole]
  decide

theorem content_tellingRule (r : Reader) (hash : Word) :
    (r.heldBy Batch.tellingRule).content hash = some { target := .zero } := by
  have size := Store.length_recordReturn_le true { target := .zero } Ledger.tellable_zero
  have decoded := Store.decodeLookup_recordReturn hash true Ledger.tellable_zero
    (Nat.lt_of_le_of_lt size (by decide))
  have hasData : Reply.hasData
      ⟨true, Store.recordReturn true { target := .zero } Ledger.tellable_zero⟩ = true := by
    simp [Reply.hasData, Store.recordReturn_ne_nil]
  simp only [heldBy, Batch.tellingRule_lookupCall, Resolution.absorb, hasData, if_true, decoded,
    Resolution.content?_ofContent]

end Reader

/-- A pass over one nonce of some owners. -/
def Client.sampleNonce {σ : Type} (executor : Executor σ) (owners : List Value) :
    Query σ (List Contenders) :=
  reconstructFrom executor (.text "0x5e669c1f2f9629b22dd05fbff63313a49f87d4e6")
    (.text "0x0000000000000000000000000000000000000001") (.int 1) (.int 50) (.list owners) (.int 0)
    (.int 1)

/-- The second of two owners is refused, and the second of two hashes cannot be looked up; something
is left of the queue. -/
theorem Client.reconstructFrom_failing_sample :
    ∃ groups,
      (sampleNonce (Batch.executeByRule Batch.tellingRule (.ofNat 9))
        [.text "0x0000000000000000000000000000000000000002"]).runFrom () = (.ok groups, ()) ∧
      (sampleNonce (Batch.executeByRule Batch.partlyTelling (.ofNat 9))
          [.text "0x0000000000000000000000000000000000000002",
            .text "0x0000000000000000000000000000000000000003"]).runFrom () =
        (.ok (groups.filterMap (Contenders.without fun hash => hash = .ofNat 32 8)), ()) ∧
      ∃ group ∈ groups, group.nonce = 0 := by
  have storeRead : (Value.text "0x5e669c1f2f9629b22dd05fbff63313a49f87d4e6").toAddress =
    .ok Store.defaultAddress := rfl
  have safeRead : (Value.text "0x0000000000000000000000000000000000000001").toAddress =
    .ok (.ofNat 1) := rfl
  have ownersRead : [Value.text "0x0000000000000000000000000000000000000002",
      .text "0x0000000000000000000000000000000000000003"].mapM Value.toAddress =
        .ok [.ofNat 2, .ofNat 3] := rfl
  have keptRead : [Value.text "0x0000000000000000000000000000000000000002"].mapM Value.toAddress =
    .ok [.ofNat 2] := rfl
  have chainId_mem : (0 : Int) ≤ 1 ∧ (1 : Int) < 2 ^ (256 : Nat) := by decide
  have pageSize_mem : (1 : Int) ≤ 50 ∧ (50 : Int) < 2 ^ (256 : Nat) := by decide
  have fromStart : (0 : Int) ≤ 0 := by decide
  have forward : (0 : Int) ≤ 1 := by decide
  obtain ⟨groups, kept, whole⟩ := reconstructFrom_failing (.ofNat 9) ()
    (Batch.failsFor_partlyTelling Store.defaultAddress) storeRead safeRead ownersRead keptRead
    chainId_mem pageSize_mem fromStart forward (by decide) Reader.carries_sampleWhole
    Reader.carries_sampleWhole_failing
  have told := runFrom_reconstructFrom_byRule (.ofNat 9) () storeRead safeRead keptRead chainId_mem
    pageSize_mem fromStart forward (by decide) Reader.carries_sampleWhole
  refine ⟨groups, kept, whole, ?_⟩
  obtain rfl := Except.ok.inj (congrArg Prod.fst (told.symm.trans kept))
  have listed : (⟨.ofNat 32 1, .ofNat 32 2, .ofNat 32 7⟩ : StoredSignature) ∈
      (Reader.sampleWhole.heldBy Batch.tellingRule).list (.ofNat 2) 0 := by
    rw [Reader.list_sampleWhole]
    exact List.mem_cons_self
  exact Holdings.exists_group_iff.2 ⟨NonceWindow.mem_nonces.2 (by decide), _,
    List.mem_singleton_self _, _, listed, by rw [Reader.content_tellingRule]; rfl⟩

end MultisigQueue
