/-
Module: MultisigQueue.Proofs.Queue.ByRule
Purpose: Reading from a node that replies to each call by a rule, whatever the rule is.
Main exports:
  Batch.Carries, Batch.runFrom_executeByRule, Cursor.follow, Reader.replyAt,
  Reader.exists_reads, Reader.runFrom_collectMany, Reader.batched_eq_alone
-/
import MultisigQueue.Proofs.Queue.Collecting
import MultisigQueue.Proofs.Store

namespace MultisigQueue

/-!
A node may reply to each call by a rule of its own: it may refuse a call, answer with octets that
mean nothing, or tell of a list that never seems to end. As long as the rule looks at nothing but
the call, a cursor finds the same signatures whether it is read alone or in rounds together with
others, although the others may close in any round and so move its place in the batch. The invariant
is that a round yields for the list of each open cursor what this cursor yields alone.
-/

namespace Batch

/-- Whether a batch of so many calls of the store, and the replies that a rule gives to it, are
shorter than `2 ^ 256` octets. This is as far as the distances in contract data reach, and more than
a machine can hold. The calls of the store have 196 octets of data at most. -/
def Carries (rule : Address → Bytes → Reply) (slots : Nat) : Prop :=
  ∃ most, (∀ target data, data.length ≤ 196 → (rule target data).data.length ≤ most) ∧
    64 + slots * (388 + most) < 2 ^ (256 : Nat)

/-- Makes batches through a node that replies to each call by a rule. -/
abbrev executeByRule {σ : Type} (rule : Address → Bytes → Reply) (contract : Address) :
    Executor σ := execute (nodeByRule rule) contract

variable {rule : Address → Bytes → Reply} {slots : Nat}

theorem Carries.mono {fewer : Nat} (carries : Carries rule slots) (few : fewer ≤ slots) :
    Carries rule fewer := by
  obtain ⟨most, bounded, short⟩ := carries
  refine ⟨most, bounded, Nat.lt_of_le_of_lt ?_ short⟩
  exact Nat.add_le_add_left (Nat.mul_le_mul_right _ few) 64

/-- A node that replies by a rule answers each call of a batch by it. -/
theorem runFrom_executeByRule {σ : Type} (carries : Carries rule slots) (contract : Address)
    {calls : List Call} (few : calls.length ≤ slots)
    (small : ∀ c ∈ calls, c.data.length ≤ 196) (s : σ) :
    (executeByRule rule contract calls).runFrom s =
      (.ok (calls.map fun c => rule c.target c.data), s) := by
  obtain ⟨most, bounded, short⟩ := carries
  have room : ∀ width, width ≤ 388 + most → calls.length * width ≤ slots * (388 + most) :=
    fun _ narrow => Nat.mul_le_mul few narrow
  have asked : (calls.map fun c => 192 + c.data.length).sum ≤ calls.length * 388 := by
    have each : ∀ n ∈ calls.map fun c => 192 + c.data.length, n ≤ 388 := by
      intro n member
      obtain ⟨c, isCall, rfl⟩ := List.mem_map.1 member
      exact Nat.add_le_add_left (small c isCall) 192
    simpa using List.sum_le_card_nsmul _ 388 each
  have replied : ((calls.map fun c => rule c.target c.data).map fun r => 160 + r.data.length).sum ≤
      calls.length * (160 + most) := by
    have each : ∀ n ∈ (calls.map fun c => rule c.target c.data).map fun r => 160 + r.data.length,
        n ≤ 160 + most := by
      intro n member
      obtain ⟨_, isReply, rfl⟩ := List.mem_map.1 member
      obtain ⟨c, isCall, rfl⟩ := List.mem_map.1 isReply
      exact Nat.add_le_add_left (bounded c.target c.data (small c isCall)) 160
    simpa using List.sum_le_card_nsmul _ (160 + most) each
  cases calls with
  | nil => rfl
  | cons first rest =>
      refine runFrom_execute (by simp) (by simp) ?_ ?_
      · have := room (160 + most) (by omega)
        omega
      · have short : 64 + ((first :: rest).map fun c => 192 + c.data.length).sum <
            2 ^ (256 : Nat) := by
          have := room 388 (by omega)
          omega
        have request := decodeCalls_encode short
        simp only [nodeByRule, Query.runFrom_bind, Query.runFrom_abi, request, Except.mapError,
          Query.runFrom_pure]

end Batch

namespace Cursor

variable {ν : Type} (answer : Cursor ν → Reply)

/-- What is found from a cursor on that is read alone, the pages being answered one by one. -/
def follow (c : Cursor ν) : List Signature :=
  match absorbed : c.absorb (answer c) with
  | (signatures, none) => signatures
  | (signatures, some next) =>
    have := absorb_remaining_lt absorbed
    signatures ++ follow next
termination_by c.remaining

variable {answer} {c d : Cursor ν}

theorem follow_of_last (ends : (c.absorb (answer c)).2 = none) :
    follow answer c = (c.absorb (answer c)).1 := by
  rw [follow]
  split
  · rename_i absorbed
    rw [absorbed]
  · rename_i absorbed
    rw [absorbed] at ends
    cases ends

theorem follow_of_next (goesOn : (c.absorb (answer c)).2 = some d) :
    follow answer c = (c.absorb (answer c)).1 ++ follow answer d := by
  rw [follow]
  split
  · rename_i absorbed
    rw [absorbed] at goesOn
    cases goesOn
  · rename_i absorbed
    rw [absorbed] at goesOn
    cases goesOn
    simp only [absorbed]

/-- What a cursor finds alone depends on the pages of its list only. -/
theorem follow_congr {other : Cursor ν → Reply} (same : ∀ d, d.key = c.key → answer d = other d) :
    follow answer c = follow other c := by
  induction c using follow.induct answer with
  | case1 c signatures absorbed =>
      have ends : (c.absorb (answer c)).2 = none := by rw [absorbed]
      have endsToo : (c.absorb (other c)).2 = none := same c rfl ▸ ends
      rw [follow_of_last ends, follow_of_last endsToo, same c rfl]
  | case2 c signatures next absorbed _ ih =>
      have goesOn : (c.absorb (answer c)).2 = some next := by rw [absorbed]
      have goesOnToo : (c.absorb (other c)).2 = some next := same c rfl ▸ goesOn
      have sameKey : next.key = c.key := key_of_absorb absorbed
      rw [follow_of_next goesOn, follow_of_next goesOnToo, same c rfl,
        ih fun d inList => same d (inList.trans sameKey)]

/-- Whether the place of a cursor can be written in a request. -/
def Askable (c : Cursor Int) : Prop :=
  (0 ≤ c.nonce ∧ c.nonce < 2 ^ (256 : Nat)) ∧ 0 ≤ c.offset ∧ c.offset < 2 ^ (256 : Nat)

theorem Askable.next {c d : Cursor Int} {reply : Reply} (askable : c.Askable)
    (goesOn : (c.absorb reply).2 = some d) : d.Askable := by
  have absorbed : c.absorb reply = ((c.absorb reply).1, some d) := by rw [← goesOn]
  obtain ⟨forward, below⟩ := offset_of_absorb absorbed
  have sameNonce : d.nonce = c.nonce := (Prod.mk.inj (key_of_absorb absorbed)).2
  refine ⟨sameNonce ▸ askable.1, ?_, below⟩
  exact Int.le_trans askable.2.1 (Int.le_of_lt forward)

theorem askable_of_mem_first {owners : List Address} {nonces : List Int}
    (nonce_mem : ∀ nonce ∈ nonces, 0 ≤ nonce ∧ nonce < 2 ^ (256 : Nat)) :
    ∀ c ∈ first owners nonces, c.Askable := by
  intro c isFirst
  obtain ⟨-, asked, atStart⟩ := mem_first.1 isFirst
  refine ⟨nonce_mem c.nonce asked, ?_⟩
  rw [atStart]
  decide

/-- A round leaves no more cursors open than there were. -/
theorem length_absorbRound_le (pending : List (Cursor ν)) (replies : List Reply) :
    (absorbRound pending replies).2.length ≤ pending.length := by
  rw [absorbRound]
  refine Nat.le_trans (List.length_filterMap_le _ _) ?_
  rw [List.length_zipWith]
  exact Nat.min_le_left _ _

/-- There are no more first cursors than pairs of an owner and a nonce. -/
theorem length_first_le (owners : List Address) (nonces : List ν) :
    (first owners nonces).length ≤ owners.length * nonces.length := by
  have distinct : owners.eraseDups.length ≤ owners.length :=
    (nodup_eraseDups owners).length_le_of_subset fun _ => List.mem_eraseDups.1
  simp only [first, List.length_flatMap, List.length_map, sum_map_const]
  exact Nat.mul_le_mul_right _ distinct

end Cursor

namespace Reader

/-- Whether the numbers of a reader can be written in a request. -/
structure Askable (r : Reader) : Prop where
  chainId : 0 ≤ r.chainId ∧ r.chainId < 2 ^ (256 : Nat)
  pageSize : ∃ size : Int, r.pageSize = .int size ∧ 1 ≤ size ∧ size < 2 ^ (256 : Nat)

/-- The reply by which a rule answers the request at a cursor. -/
def replyAt (r : Reader) (rule : Address → Bytes → Reply) (c : Cursor Int) : Reply :=
  match r.callFor c with
  | .ok call => rule call.target call.data
  | .error _ => { success := false }

variable {r : Reader} {rule : Address → Bytes → Reply} {slots : Nat}

/-- The request at a cursor can be made exactly if its numbers fit into words. -/
theorem callFor_eq_ok_iff {c : Cursor Int} {call : Call} :
    r.callFor c = .ok call ↔
      ∃ chainWord nonceWord startWord countWord : Uint256,
        (chainWord.val : Int) = r.chainId ∧ (nonceWord.val : Int) = c.nonce ∧
          (startWord.val : Int) = c.offset ∧ r.pageSize.toInt = .ok (countWord.val : Int) ∧
            call = ⟨r.store, Store.pageCalldata c.owner r.safe chainWord nonceWord startWord
              countWord, true⟩ := by
  have parts : r.callFor c = .ok call ↔ ∃ count, r.pageSize.toInt = .ok count ∧
      Store.pageCall r.store c.owner r.safe r.chainId c.nonce c.offset count = .ok call := by
    unfold callFor
    cases r.pageSize.toInt with
    | error e => simp [liftM, monadLift, MonadLift.monadLift, Except.mapError, bind, Except.bind]
    | ok count =>
        cases called : Store.pageCall r.store c.owner r.safe r.chainId c.nonce c.offset count <;>
          simp [liftM, monadLift, MonadLift.monadLift, Except.mapError, bind, Except.bind, called]
  rw [parts]
  constructor
  · rintro ⟨count, sized, called⟩
    obtain ⟨chainWord, nonceWord, startWord, countWord, isChain, isNonce, isStart, rfl, rfl⟩ :=
      Store.pageCall_eq_ok_iff.1 called
    exact ⟨chainWord, nonceWord, startWord, countWord, isChain, isNonce, isStart, sized, rfl⟩
  · rintro ⟨chainWord, nonceWord, startWord, countWord, isChain, isNonce, isStart, sized, rfl⟩
    exact ⟨_, sized, Store.pageCall_eq_ok_iff.2
      ⟨chainWord, nonceWord, startWord, countWord, isChain, isNonce, isStart, rfl, rfl⟩⟩

theorem exists_callFor (readerAskable : r.Askable) {c : Cursor Int} (askable : c.Askable) :
    ∃ call, r.callFor c = .ok call := by
  obtain ⟨size, sized, least, most⟩ := readerAskable.pageSize
  obtain ⟨chainWord, isChain⟩ := Uint256.exists_val_eq readerAskable.chainId
  obtain ⟨nonceWord, isNonce⟩ := Uint256.exists_val_eq askable.1
  obtain ⟨startWord, isStart⟩ := Uint256.exists_val_eq askable.2
  obtain ⟨countWord, isCount⟩ := Uint256.exists_val_eq ⟨Int.le_trans (by decide) least, most⟩
  refine ⟨_, callFor_eq_ok_iff.2
    ⟨chainWord, nonceWord, startWord, countWord, isChain, isNonce, isStart, ?_, rfl⟩⟩
  rw [sized, isCount]
  rfl

/-- The numbers of a request that can be made fit into words. -/
theorem askable_of_callFor {size : Int} (sized : r.pageSize = .int size) (positive : 0 < size)
    {c : Cursor Int} {call : Call} (called : r.callFor c = .ok call) : r.Askable ∧ c.Askable := by
  obtain ⟨_, _, _, countWord, isChain, isNonce, isStart, counted, -⟩ :=
    callFor_eq_ok_iff.1 called
  rw [sized] at counted
  have isCount : (countWord.val : Int) = size := (Except.ok.inj counted).symm
  exact ⟨⟨Uint256.val_mem isChain, size, sized, positive, (Uint256.val_mem isCount).2⟩,
    Uint256.val_mem isNonce, Uint256.val_mem isStart⟩

/-- The data of a request has 196 octets. -/
theorem length_of_callFor {c : Cursor Int} {call : Call} (called : r.callFor c = .ok call) :
    call.data.length = 196 := by
  obtain ⟨_, _, _, _, -, -, -, -, rfl⟩ := callFor_eq_ok_iff.1 called
  exact Store.length_pageCalldata ..

/-- A round yields for the list of an open cursor what this cursor yields alone, if the later pages
do so for the cursors that stay open. -/
theorem signaturesOf_round {ν : Type} [BEq ν] [LawfulBEq ν] {answer : Cursor ν → Reply}
    {pending : List (Cursor ν)} (distinct : (pending.map Cursor.key).Nodup)
    {later : List (Found ν)}
    (listed : ∀ page ∈ later,
      page.cursor.key ∈ (Cursor.absorbRound pending (pending.map answer)).2.map Cursor.key)
    (alone : ∀ d ∈ (Cursor.absorbRound pending (pending.map answer)).2,
      signaturesOf later d.key = d.follow answer)
    {c : Cursor ν} (member : c ∈ pending) :
    signaturesOf ((Cursor.absorbRound pending (pending.map answer)).1 ++ later) c.key =
      c.follow answer := by
  have together : (c, answer c) ∈ pending.zip (pending.map answer) := by
    rw [← List.map_prod_left_eq_zip]
    exact List.mem_map_of_mem member
  rw [signaturesOf_append, signaturesOf_absorbRound distinct together]
  cases goesOn : (c.absorb (answer c)).2 with
  | none =>
      have sameLength : pending.length = (pending.map answer).length :=
        (List.length_map answer).symm
      rw [signaturesOf_of_last distinct sameLength listed together goesOn, List.append_nil,
        Cursor.follow_of_last goesOn]
  | some d =>
      have sameKey : d.key = c.key := Cursor.key_of_absorb (Prod.ext rfl goesOn)
      rw [← sameKey, alone d (Cursor.mem_pending_of_absorb together goesOn),
        Cursor.follow_of_next goesOn]

section Rounds

variable {σ : Type} (contract : Address) (s : σ)

/-- The requests at open cursors are answered by the rule. -/
theorem runFrom_pages (readerAskable : r.Askable) (carries : Batch.Carries rule slots)
    {pending : List (Cursor Int)} (askable : ∀ c ∈ pending, c.Askable)
    (few : pending.length ≤ slots) :
    ∃ calls, pending.mapM r.callFor = .ok calls ∧
      (Batch.executeByRule rule contract calls).runFrom s =
        (.ok (pending.map (r.replyAt rule)), s) := by
  have : Nonempty Call := ⟨⟨contract, [], true⟩⟩
  choose! call called using fun c member => exists_callFor readerAskable (askable c member)
  have replied : ((pending.map call).map fun c => rule c.target c.data) =
      pending.map (r.replyAt rule) := by
    rw [List.map_map]
    refine List.map_congr_left ?_
    intro c member
    simp only [replyAt, called c member, Function.comp_apply]
  refine ⟨pending.map call, ?_, ?_⟩
  · exact mapM_eq_ok_iff.2 (List.forall₂_map_right_iff.2 (List.forall₂_same.2 called))
  · rw [← replied]
    apply Batch.runFrom_executeByRule carries
    · rw [List.length_map]
      exact few
    · intro asked isCall
      obtain ⟨c, member, rfl⟩ := List.mem_map.1 isCall
      exact Nat.le_of_eq (length_of_callFor (called c member))

/-- Open cursors in different lists each find what they find alone. -/
theorem exists_reads (readerAskable : r.Askable) (carries : Batch.Carries rule slots)
    {pending : List (Cursor Int)} (distinct : (pending.map Cursor.key).Nodup)
    (askable : ∀ c ∈ pending, c.Askable) (few : pending.length ≤ slots) :
    ∃ found, r.Reads (Batch.executeByRule rule contract) pending s found s ∧
      ∀ c ∈ pending, signaturesOf found c.key = c.follow (r.replyAt rule) := by
  -- By induction on the rounds, for whatever cursors are open; these stay in different lists.
  induction pending using readPages.induct with
  | case1 => exact ⟨[], .done s, by simp⟩
  | case2 pending isOpen ih =>
      obtain ⟨calls, asked, answered⟩ :=
        runFrom_pages contract s readerAskable carries askable few
      have stillAskable : ∀ d ∈ (Cursor.absorbRound pending (pending.map (r.replyAt rule))).2,
          d.Askable := by
        intro d stays
        obtain ⟨c, reply, together, goesOn, -⟩ := Cursor.exists_of_mem_pending stays
        exact (askable c (List.of_mem_zip together).1).next goesOn
      obtain ⟨later, rest, alone⟩ := ih _ (Cursor.nodup_absorbRound distinct) stillAskable
        (Nat.le_trans (Cursor.length_absorbRound_le pending _) few)
      refine ⟨_, .round isOpen asked answered rest, ?_⟩
      exact fun c member =>
        signaturesOf_round distinct (fun page isPage => (rest.page_ascribed isPage).1) alone member

/-- Every list of some owners for different nonces is what a cursor finds in it alone. -/
theorem runFrom_collectMany {ω : Type} [AddressLike ω] (readerAskable : r.Askable)
    {ownersGiven : List ω} {owners : List Address}
    (ownersRead : (ownersGiven.mapM toAddress : Except InputError _) = .ok owners)
    {nonces : List Int} (differ : nonces.Nodup)
    (nonce_mem : ∀ nonce ∈ nonces, 0 ≤ nonce ∧ nonce < 2 ^ (256 : Nat))
    (carries : Batch.Carries rule (owners.length * nonces.length)) :
    (r.collectMany (Batch.executeByRule rule contract) ownersGiven nonces).runFrom s =
      (.ok (((Cursor.first owners nonces).map Cursor.key).eraseDups.map fun key =>
        (key, Cursor.follow (r.replyAt rule) ⟨key.1, key.2, 0⟩)), s) := by
  obtain ⟨found, reads, alone⟩ := exists_reads contract s readerAskable carries
    (Cursor.nodup_first differ) (Cursor.askable_of_mem_first nonce_mem)
    (Cursor.length_first_le owners nonces)
  simp only [collectMany, collectFrom, Query.runFrom_bind, Query.runFrom_input, ownersRead,
    Except.mapError, runFrom_readPages_eq_ok.2 reads, Query.runFrom_pure, Prod.mk.injEq,
    Except.ok.injEq, and_true]
  refine List.map_congr_left ?_
  intro key member
  obtain ⟨c, isFirst, rfl⟩ := List.mem_map.1 (List.mem_eraseDups.1 member)
  obtain ⟨-, -, atStart⟩ := Cursor.mem_first.1 isFirst
  have same : (⟨c.key.1, c.key.2, 0⟩ : Cursor Int) = c := by rw [← atStart]; rfl
  rw [alone c isFirst, same]

/-- The list of an owner for a nonce is what a cursor finds in it alone. -/
theorem runFrom_collect {ω : Type} [AddressLike ω] (readerAskable : r.Askable) {given : ω}
    {owner : Address} (ownerRead : toAddress given = .ok owner) {nonce : Int}
    (nonce_mem : 0 ≤ nonce ∧ nonce < 2 ^ (256 : Nat)) (carries : Batch.Carries rule 1) :
    (r.collect (Batch.executeByRule rule contract) given nonce).runFrom s =
      (.ok (Cursor.follow (r.replyAt rule) ⟨owner, nonce, 0⟩), s) := by
  have ownersRead : ([owner].mapM toAddress : Except InputError _) = .ok [owner] := rfl
  have lists := runFrom_collectMany contract s readerAskable ownersRead
    (List.nodup_singleton nonce) (by simpa using nonce_mem) carries
  have one : ((Cursor.first [owner] [nonce]).map Cursor.key).eraseDups = [(owner, nonce)] := by
    simp [Cursor.first, Cursor.key, List.eraseDups_cons]
  simp only [collect, Query.runFrom_bind, Query.runFrom_input, ownerRead, Except.mapError, lists,
    one, Query.runFrom_pure, List.map_cons, List.map_nil, List.flatMap_cons, List.flatMap_nil,
    List.append_nil]

/-- What the store holds under some hashes is looked up for each of them alone. -/
theorem runFrom_resolveMany (store : Address) {hashes : List Word}
    (carries : Batch.Carries rule hashes.eraseDups.length) :
    (resolveMany (Batch.executeByRule rule contract) store hashes).runFrom s =
      (.ok (hashes.eraseDups.map fun hash =>
        Resolution.absorb hash (rule store (Store.lookupCall store hash).data)), s) := by
  have few : (hashes.eraseDups.map (Store.lookupCall store)).length ≤ hashes.eraseDups.length :=
    Nat.le_of_eq (List.length_map _)
  have small : ∀ call ∈ hashes.eraseDups.map (Store.lookupCall store), call.data.length ≤ 196 := by
    intro call isCall
    obtain ⟨hash, -, rfl⟩ := List.mem_map.1 isCall
    rw [Store.length_lookupCall]
    decide
  have answered := Batch.runFrom_executeByRule carries contract few small s
  simp only [resolveMany, Query.runFrom_bind, answered, Query.runFrom_pure, List.map_map]
  rw [List.zipWith_map_right, List.zipWith_self]
  rfl

end Rounds

/-- Reading lists or looking hashes up together changes nothing about what is found for each of
them, whatever the rule by which the node replies. -/
theorem batched_eq_alone {σ : Type} {rule : Address → Bytes → Reply} (contract : Address) (s : σ)
    {r : Reader} (readerAskable : r.Askable) (store : Address) {ownersGiven : List Value}
    {owners : List Address} (ownersRead : ownersGiven.mapM Value.toAddress = .ok owners)
    {nonces : List Int} (differ : nonces.Nodup)
    (nonce_mem : ∀ nonce ∈ nonces, 0 ≤ nonce ∧ nonce < 2 ^ (256 : Nat)) {hashes : List Word}
    (listsFit : Batch.Carries rule (owners.length * nonces.length))
    (hashesFit : Batch.Carries rule hashes.eraseDups.length) :
    (∃ lists, (r.collectMany (Batch.executeByRule rule contract) ownersGiven nonces).runFrom s =
        (.ok lists, s) ∧
      (lists.map Prod.fst).Nodup ∧
      (∀ owner nonce, (owner, nonce) ∈ lists.map Prod.fst ↔ owner ∈ owners ∧ nonce ∈ nonces) ∧
      ∀ list ∈ lists, ∀ given : Value, given.toAddress = .ok list.1.1 →
        (r.collect (Batch.executeByRule rule contract) given list.1.2).runFrom s =
          (.ok list.2, s)) ∧
    ∃ records, (resolveMany (Batch.executeByRule rule contract) store hashes).runFrom s =
        (.ok records, s) ∧
      records.map Resolution.hash = hashes.eraseDups ∧
      ∀ record ∈ records,
        (resolve (Batch.executeByRule rule contract) store record.hash).runFrom s =
          (.ok record, s) := by
  refine ⟨⟨_, runFrom_collectMany contract s readerAskable ownersRead differ nonce_mem listsFit,
    ?distinct, ?keys, ?alone⟩, _, runFrom_resolveMany contract s store hashesFit, ?hashes,
    ?records⟩
  case distinct =>
    simp only [List.map_map, Function.comp_def, List.map_id']
    exact nodup_eraseDups _
  case keys =>
    intro owner nonce
    simp only [List.map_map, Function.comp_def, List.map_id', List.mem_eraseDups, List.mem_map]
    constructor
    · rintro ⟨c, isFirst, sameKey⟩
      obtain ⟨rfl, rfl⟩ := Prod.mk.inj sameKey
      exact ⟨(Cursor.mem_first.1 isFirst).1, (Cursor.mem_first.1 isFirst).2.1⟩
    · rintro ⟨isOwner, isAsked⟩
      exact ⟨⟨owner, nonce, 0⟩, Cursor.mem_first.2 ⟨isOwner, isAsked, rfl⟩, rfl⟩
  case alone =>
    intro list isList given ownerRead
    obtain ⟨key, isKey, rfl⟩ := List.mem_map.1 isList
    obtain ⟨c, isFirst, rfl⟩ := List.mem_map.1 (List.mem_eraseDups.1 isKey)
    have isAsked := (Cursor.mem_first.1 isFirst).2.1
    have some := Cursor.length_first_le owners nonces
    exact runFrom_collect contract s readerAskable ownerRead (nonce_mem c.nonce isAsked)
      (listsFit.mono (Nat.le_trans (List.length_pos_of_mem isFirst) some))
  case hashes =>
    simp only [List.map_map, Function.comp_def, Resolution.hash_absorb, List.map_id']
  case records =>
    intro record isRecord
    obtain ⟨hash, isHash, rfl⟩ := List.mem_map.1 isRecord
    have one : [hash].eraseDups = [hash] := by simp [List.eraseDups_cons]
    have carries : Batch.Carries rule [hash].eraseDups.length := by
      rw [one]
      exact hashesFit.mono (List.length_pos_of_mem isHash)
    have alone := runFrom_resolveMany contract s store carries
    rw [one] at alone
    rw [Resolution.hash_absorb, resolve, Query.runFrom_bind, alone]
    rfl

end Reader

/-- A rule by which one owner's lists are refused, each other list has the same signature twice, and
no lookup can be read. -/
def Batch.sampleRule (_ : Address) (data : Bytes) : Reply :=
  match Ledger.pageRequest data with
  | .ok request =>
    if request.signer = .ofNat 3 then { success := false }
    else ⟨true, Store.pageReturn [⟨.ofNat 32 2, .ofNat 32 8, .ofNat 32 7⟩] ⟨2, by decide⟩⟩
  | .error _ => ⟨true, [1]⟩

theorem Batch.carries_sampleRule : Carries sampleRule 4 := by
  refine ⟨192, ?_, by decide⟩
  intro target data _
  unfold sampleRule
  split
  · split
    · decide
    · rw [Store.length_pageReturn]
      decide
  · decide

/-- A reader that reads one signature after the other. -/
def Reader.sample : Reader := ⟨Store.defaultAddress, .ofNat 1, 1, .int 1⟩

theorem Reader.askable_sample : Reader.sample.Askable := ⟨by decide, 1, rfl, by decide⟩

/-- Four lists, of which two close in the first round. -/
theorem Reader.batched_eq_alone_sample :
    ∃ lists, (Reader.sample.collectMany (Batch.executeByRule Batch.sampleRule (.ofNat 9))
        [Value.text "0x0000000000000000000000000000000000000002",
          Value.text "0000000000000000000000000000000000000003"] [(5 : Int), 0]).runFrom () =
      (.ok lists, ()) ∧ (.ofNat 2, 0) ∈ lists.map Prod.fst ∧
      ∀ list ∈ lists, ∀ given : Value, given.toAddress = .ok list.1.1 →
        (Reader.sample.collect (Batch.executeByRule Batch.sampleRule (.ofNat 9)) given
          list.1.2).runFrom () = (.ok list.2, ()) := by
  have ownersRead : [Value.text "0x0000000000000000000000000000000000000002",
      .text "0000000000000000000000000000000000000003"].mapM Value.toAddress =
        .ok [.ofNat 2, .ofNat 3] := rfl
  have differ : [(5 : Int), 0].Nodup := by decide
  have hashesFit : Batch.Carries Batch.sampleRule [FixedBytes.ofNat 32 7].eraseDups.length :=
    Batch.carries_sampleRule.mono (by decide)
  obtain ⟨⟨lists, together, -, keys, alone⟩, -⟩ :=
    batched_eq_alone (.ofNat 9) () Reader.askable_sample Store.defaultAddress ownersRead differ
      (by decide) Batch.carries_sampleRule hashesFit
  exact ⟨lists, together, (keys (.ofNat 2) 0).2 (by decide), alone⟩

namespace Reader

/-! ### Passes -/

/-- What a rule comes to as a store: the list of an owner for a nonce is what a cursor finds in it
alone, and under a hash is what a lookup of it says. -/
def heldBy (r : Reader) (rule : Address → Bytes → Reply) : Holdings where
  list owner nonce := (Cursor.follow (r.replyAt rule) ⟨owner, nonce, 0⟩).map Signature.stored
  content hash :=
    (Resolution.absorb hash (rule r.store (Store.lookupCall r.store hash).data)).content?

/-- As many calls as any batch of a pass can have: one for each list, or one for each signature in
the lists. -/
def largestBatch (r : Reader) (rule : Address → Bytes → Reply) (owners : List Address)
    (nonces : List Int) : Nat :=
  max (owners.length * nonces.length) (nonces.flatMap ((r.heldBy rule).filed owners)).length

/-- A lookup is found among lookups of distinct hashes. -/
theorem resolutionOf_map {look : Word → Resolution} (about : ∀ hash, (look hash).hash = hash)
    {hashes : List Word} {hash : Word} (member : hash ∈ hashes) :
    resolutionOf (hashes.map look) hash = some (look hash) := by
  induction hashes with
  | nil => cases member
  | cons first rest ih =>
      rw [List.map_cons, resolutionOf, List.find?_cons, about]
      by_cases same : first = hash
      · simp [same]
      · simp only [same, decide_false]
        exact ih ((List.mem_cons.1 member).resolve_left (Ne.symm same))

/-- There are no more hashes on some pages than signatures. -/
theorem Ascribed.length_identities_le {owners : List Address} {nonces : List Int}
    {found : List (Found Int)} (ascribed : Ascribed owners nonces found)
    (records : Word → Option Resolution) :
    (Tally.ofFound found).identities.eraseDups.length ≤
      (nonces.flatMap ((told found records).filed owners)).length := by
  have within : (Tally.ofFound found).identities.eraseDups ⊆
      (nonces.flatMap ((told found records).filed owners)).map StoredSignature.txHash := by
    intro hash member
    obtain ⟨nonce, isAsked, signed⟩ :=
      (ascribed.mem_identities records hash).1 (List.mem_eraseDups.1 member)
    obtain ⟨g, isFiled, ofHash⟩ := Holdings.mem_hashes.1 signed
    exact List.mem_map.2 ⟨g, List.mem_flatMap.2 ⟨nonce, isAsked, isFiled⟩, ofHash⟩
  simpa using (nodup_eraseDups _).length_le_of_subset within

/-- A pass comes to the queue of what the rule holds. -/
theorem runFrom_queueOf {σ : Type} {r : Reader} {rule : Address → Bytes → Reply}
    (contract : Address) (s : σ) (readerAskable : r.Askable) {owners : List Address}
    {nonces : List Int} (ascends : Ascending (fun n : Int => n) nonces)
    (nonce_mem : ∀ nonce ∈ nonces, 0 ≤ nonce ∧ nonce < 2 ^ (256 : Nat))
    (carries : Batch.Carries rule (r.largestBatch rule owners nonces)) :
    (r.queueOf (Batch.executeByRule rule contract) owners nonces).runFrom s =
      (.ok ((r.heldBy rule).queue owners nonces), s) := by
  obtain ⟨found, reads, alone⟩ := exists_reads contract s readerAskable
    (carries.mono (Nat.le_max_left _ _)) (Cursor.nodup_first ascends.nodup)
    (Cursor.askable_of_mem_first nonce_mem) (Cursor.length_first_le owners nonces)
  have lists : ∀ owner ∈ owners, ∀ nonce ∈ nonces, ∀ records,
      (told found records).list owner nonce = (r.heldBy rule).list owner nonce := by
    intro owner isOwner nonce isAsked records
    have isFirst : ⟨owner, nonce, 0⟩ ∈ Cursor.first owners nonces :=
      Cursor.mem_first.2 ⟨isOwner, isAsked, rfl⟩
    exact congrArg (List.map Signature.stored) (alone _ isFirst)
  have filed : nonces.flatMap ((told found fun _ => none).filed owners) =
      nonces.flatMap ((r.heldBy rule).filed owners) :=
    List.flatMap_congr fun nonce isAsked =>
      List.flatMap_congr fun owner isOwner => lists owner isOwner nonce isAsked _
  -- The batch of lookups is as large as what has been found, so its size is known only now.
  have few : (Tally.ofFound found).identities.eraseDups.length ≤
      r.largestBatch rule owners nonces := by
    have most := reads.ascribed.length_identities_le fun _ => none
    rw [filed] at most
    exact Nat.le_trans most (Nat.le_max_right _ _)
  refine runFrom_queueOf_eq_ok.2 ⟨found, s, _, reads,
    runFrom_resolveMany contract s r.store (carries.mono few), ?_⟩
  rw [build_eq_queue_told ascends reads]
  refine Holdings.queue_congr ?_ ?_
  · exact fun owner isOwner nonce isAsked => lists owner isOwner nonce isAsked _
  · intro nonce isAsked hash signed
    have isLookedUp := List.mem_eraseDups.2
      ((reads.ascribed.mem_identities _ hash).2 ⟨nonce, isAsked, signed⟩)
    simp only [told]
    rw [resolutionOf_map (fun hash => Resolution.hash_absorb hash _) isLookedUp]
    rfl

/-- A pass over a window of nonces that fit into words comes to the queue of what the rule holds. -/
theorem runFrom_reconstruct_byRule {σ : Type} {r : Reader} {rule : Address → Bytes → Reply}
    (contract : Address) (s : σ) (readerAskable : r.Askable) {owners : List Address}
    {start window : Int} (fromStart : 0 ≤ start) (forward : 0 ≤ window)
    (inside : start + window ≤ 2 ^ (256 : Nat))
    (carries : Batch.Carries rule
      (r.largestBatch rule owners (NonceWindow.nonces ⟨start, window.toNat⟩))) :
    (r.reconstruct (Batch.executeByRule rule contract) owners start window).runFrom s =
      (.ok ((r.heldBy rule).queue owners (NonceWindow.nonces ⟨start, window.toNat⟩)), s) := by
  rw [runFrom_reconstruct fromStart forward]
  split
  · rename_i empty
    rcases empty with rfl | rfl
    · rfl
    · rw [Holdings.queue_nil]
  · exact runFrom_queueOf contract s readerAskable (NonceWindow.ascending_nonces _)
      (fun nonce => NonceWindow.mem_words fromStart inside) carries

end Reader

/-- A pass over arguments of which each can be read and fits into a word comes to the queue of what
the rule holds. -/
theorem Client.runFrom_reconstructFrom_byRule {σ : Type} {rule : Address → Bytes → Reply}
    (contract : Address) (s : σ) {storeGiven safeGiven : Value} {store safe : Address}
    {ownersGiven : List Value} {owners : List Address} {chainId pageSize start window : Int}
    (storeRead : storeGiven.toAddress = .ok store) (safeRead : safeGiven.toAddress = .ok safe)
    (ownersRead : ownersGiven.mapM Value.toAddress = .ok owners)
    (chainId_mem : 0 ≤ chainId ∧ chainId < 2 ^ (256 : Nat))
    (pageSize_mem : 1 ≤ pageSize ∧ pageSize < 2 ^ (256 : Nat)) (fromStart : 0 ≤ start)
    (forward : 0 ≤ window) (inside : start + window ≤ 2 ^ (256 : Nat))
    (carries : Batch.Carries rule (Reader.largestBatch ⟨store, safe, chainId, .int pageSize⟩ rule
      owners (NonceWindow.nonces ⟨start, window.toNat⟩))) :
    (reconstructFrom (Batch.executeByRule rule contract) storeGiven safeGiven (.int chainId)
        (.int pageSize) (.list ownersGiven) (.int start) (.int window)).runFrom s =
      (.ok ((Reader.heldBy ⟨store, safe, chainId, .int pageSize⟩ rule).queue owners
        (NonceWindow.nonces ⟨start, window.toNat⟩)), s) := by
  have askable : Reader.Askable ⟨store, safe, chainId, .int pageSize⟩ :=
    ⟨chainId_mem, pageSize, rfl, pageSize_mem⟩
  rw [runFrom_reconstructFrom storeRead safeRead ownersRead pageSize_mem.1 fromStart forward]
  exact Reader.runFrom_reconstruct_byRule contract s askable fromStart forward inside carries

end MultisigQueue
