/-
Module: MultisigQueue.Proofs.Queue.Growing
Purpose: Lists that grow while they are read are found as the last round to read them left them.
Main exports:
  Cursor.IsPage, Reader.TellsPages, Reader.Round.IsLast, Reader.Rounds.exists_last,
  Reader.IsComplete, Reader.collectMany_complete
-/
import MultisigQueue.Proofs.Queue.Trace

namespace MultisigQueue

/-!
A node may answer a request for a page with fewer signatures than were asked for, or with more, and
its lists may grow between two rounds. If each page is a piece of its list from the place asked for
on, and empty at the end of the list only, then a cursor leaves nothing out and reads nothing twice:
in front of it stands what its list has yielded so far, and it closes in the round in which it has
come to the end of its list.
-/

namespace Cursor

/-- Whether a reply is a page of a list at a cursor: a piece of the list from there on that is as
long as the node likes, but not empty before the end, together with the length of the list. -/
def IsPage {ν : Type} (c : Cursor ν) (list : List StoredSignature) (reply : Reply) : Prop :=
  ∃ items, reply.success = true ∧ Store.decodePage reply.data = .ok ⟨items, list.length⟩ ∧
    items <+: list.drop c.offset.toNat ∧ (items = [] → list.length ≤ c.offset.toNat)

/-- A cursor that absorbs a page of its list takes its turn in it. -/
theorem IsPage.turns {ν : Type} {c : Cursor ν} {list : List StoredSignature} {reply : Reply}
    (isPage : c.IsPage list reply) (within : c.Within list) : c.Turns list (c.absorb reply) := by
  rcases isPage with ⟨items, success, decoded, stands, reaches⟩
  rcases reply with ⟨_, data⟩
  cases success
  exact turns_of_decodePage within (ne_nil_of_decodePage decoded) decoded stands reaches

end Cursor

namespace Reader

/-- Signatures of one signer are what is stored of them, ascribed to the signer. -/
theorem map_by_stored {signatures : List Signature} {signer : Address}
    (ascribed : ∀ g ∈ signatures, g.signer = signer) :
    (signatures.map Signature.stored).map (fun g => g.by signer) = signatures := by
  rw [List.map_map]
  apply (List.map_congr_left _).trans (List.map_id signatures)
  intro g member
  rw [← ascribed g member]
  rfl

variable {σ : Type}

/-- Whether an executor tells pages of lists that only grow: `lists` are those of a state that a
batch left, from which its replies were taken. -/
def TellsPages (r : Reader) (executor : Executor σ) (keys : List (Address × Int))
    (steady : σ → Prop) (lists : σ → Address × Int → List StoredSignature) : Prop :=
  ∀ ⦃pending : List (Cursor Int)⦄ ⦃calls : List Call⦄ ⦃replies : List Reply⦄ ⦃s t : σ⦄, steady s →
    pending ≠ [] → (pending.map Cursor.key).Nodup → (∀ c ∈ pending, c.key ∈ keys) →
    pending.mapM r.callFor = .ok calls → (executor calls).runFrom s = (.ok replies, t) →
      steady t ∧ (∀ key ∈ keys, lists s key <+: lists t key) ∧
        List.Forall₂ (fun c reply => c.IsPage (lists t c.key) reply) pending replies

/-- Whether a round is the last of some rounds to read a list. -/
def Round.IsLast {ν : Type} (rounds : List (Round σ ν)) (key : Address × ν) (now : Round σ ν) :
    Prop :=
  ∃ before later, rounds = before ++ now :: later ∧ key ∈ now.pending.map Cursor.key ∧
    ∀ round ∈ later, key ∉ round.pending.map Cursor.key

variable {r : Reader} {executor : Executor σ} {keys : List (Address × Int)} {steady : σ → Prop}
  {lists : σ → Address × Int → List StoredSignature} {pending : List (Cursor Int)} {s u : σ}
  {rounds : List (Round σ Int)}

/-- What is found from a cursor on is what stands behind it in its list, as the list is in the last
round to read it. -/
theorem Rounds.exists_last (tells : r.TellsPages executor keys steady lists)
    (trace : r.Rounds executor pending s rounds u) (isSteady : steady s)
    (distinct : (pending.map Cursor.key).Nodup) (listed : ∀ c ∈ pending, c.key ∈ keys)
    (within : ∀ c ∈ pending, c.Within (lists s c.key)) :
    (∀ key ∈ keys, lists s key <+: lists u key) ∧
      ∀ c ∈ pending, ∃ now, Round.IsLast rounds c.key now ∧
        lists s c.key <+: lists now.after c.key ∧ lists now.after c.key <+: lists u c.key ∧
        lists now.after c.key = (lists now.after c.key).take c.offset.toNat ++
          (signaturesOf (rounds.flatMap Round.found) c.key).map Signature.stored := by
  induction trace with
  | done s => exact ⟨fun _ _ => List.prefix_rfl, by simp⟩
  | @round pending calls replies s t u later isOpen asked answered rest ih =>
      obtain ⟨steadyThen, grows, pages⟩ := tells isSteady isOpen distinct listed asked answered
      obtain ⟨sameLength, page⟩ := List.forall₂_iff_zip.1 pages
      have turn : ∀ {c reply}, (c, reply) ∈ pending.zip replies →
          c.Within (lists t c.key) ∧ c.Turns (lists t c.key) (c.absorb reply) := by
        intro c reply together
        have member := (List.of_mem_zip together).1
        have withinThen := (within c member).mono (grows c.key (listed c member))
        exact ⟨withinThen, (page together).turns withinThen⟩
      have goesOn : ∀ d ∈ (Cursor.absorbRound pending replies).2,
          d.key ∈ keys ∧ d.Within (lists t d.key) := by
        intro d stays
        obtain ⟨c, reply, together, next, sameKey⟩ := Cursor.exists_of_mem_pending stays
        rcases turn together with ⟨withinThen, turns⟩
        rw [sameKey]
        exact ⟨listed c (List.of_mem_zip together).1, (turns.next withinThen next).1⟩
      obtain ⟨growsOn, found⟩ := ih steadyThen (Cursor.nodup_absorbRound distinct)
        (fun d stays => (goesOn d stays).1) (fun d stays => (goesOn d stays).2)
      refine ⟨fun key isKey => (grows key isKey).trans (growsOn key isKey), ?_⟩
      intro c member
      obtain ⟨reply, together⟩ : ∃ reply, (c, reply) ∈ pending.zip replies := by
        rw [← List.map_fst_zip (Nat.le_of_eq sameLength)] at member
        obtain ⟨⟨_, reply⟩, together, rfl⟩ := List.mem_map.1 member
        exact ⟨reply, together⟩
      obtain ⟨withinThen, turns⟩ := turn together
      have growsHere := grows c.key (listed c member)
      rw [List.flatMap_cons, signaturesOf_append, Round.found,
        signaturesOf_absorbRound distinct together]
      cases next : (c.absorb reply).2 with
      | some d =>
          -- The next cursor carries on where this one stops, and its last round is the last.
          obtain ⟨-, sameKey, moved⟩ := turns.next withinThen next
          have stays := Cursor.mem_pending_of_absorb together next
          obtain ⟨now, ⟨before, behind, split, reads, unread⟩, longer, notAbove, whole⟩ :=
            found d stays
          rw [sameKey] at reads unread longer notAbove whole
          refine ⟨now, ⟨_ :: before, behind, congrArg _ split, reads, unread⟩,
            growsHere.trans longer, notAbove, ?_⟩
          obtain ⟨withinNext, -, -⟩ := turns.next withinThen next
          have inFront : ∀ place ≤ (lists t c.key).length,
              (lists now.after c.key).take place = (lists t c.key).take place := by
            intro place short
            rcases longer with ⟨rest, extended⟩
            rw [← extended, List.take_append_of_le_length short]
          rw [inFront _ withinNext.2, moved, ← inFront _ withinThen.2] at whole
          rw [List.map_append, ← List.append_assoc]
          exact whole
      | none =>
          -- No cursor is left in this list, so this is the last round to read it.
          have closed := Cursor.not_mem_absorbRound distinct sameLength together next
          have unread : ∀ round ∈ later, c.key ∉ round.pending.map Cursor.key := by
            intro round isRound reads
            obtain ⟨d, isOpen, sameKey⟩ := List.mem_map.1 reads
            obtain ⟨e, stays, ofKey, -⟩ := rest.offset_le isRound isOpen
            apply closed
            rw [← sameKey, ofKey]
            exact List.mem_map_of_mem stays
          refine ⟨⟨pending, replies, t⟩, ⟨[], later, rfl, List.mem_map_of_mem member, unread⟩,
            growsHere, growsOn c.key (listed c member), ?_⟩
          have nothing : signaturesOf (later.flatMap Round.found) c.key = [] := by
            apply signaturesOf_of_last distinct sameLength _ together next
            intro page isPage
            exact ((reads_iff_exists_rounds.2 ⟨later, rest, rfl⟩).page_ascribed isPage).1
          rw [nothing, List.append_nil]
          exact turns.last next

/-- Rounds that read the lists of some owners are a run that collects them. -/
theorem runFrom_collectMany_of_rounds {ω : Type} [AddressLike ω] {ownersGiven : List ω}
    {owners : List Address} {nonces : List Int}
    (ownersRead : (ownersGiven.mapM toAddress : Except InputError _) = .ok owners)
    (trace : r.Rounds executor (Cursor.first owners nonces) s rounds u) :
    (r.collectMany executor ownersGiven nonces).runFrom s =
      (.ok (((Cursor.first owners nonces).map Cursor.key).eraseDups.map fun key =>
        (key, signaturesOf (rounds.flatMap Round.found) key)), u) := by
  have run := runFrom_readPages_iff.2 ⟨rounds, trace, rfl⟩
  rw [collectMany, Query.runFrom_bind, Query.runFrom_input, ownersRead]
  simp only [Except.mapError, collectFrom, Query.runFrom_bind, run, Query.runFrom_pure]

/-- Whether some lists are complete: they are those that the cursors are in, each as it is in the
last round to read it, with every signature once and in order, ascribed to the owner. A list that
does not grow is found as it stands. -/
def IsComplete (r : Reader) (executor : Executor σ)
    (lists : σ → Address × Int → List StoredSignature) (cursors : List (Cursor Int)) (s u : σ)
    (out : List ((Address × Int) × List Signature)) : Prop :=
  ∃ rounds, r.Rounds executor cursors s rounds u ∧ out.map Prod.fst = cursors.map Cursor.key ∧
    ∀ entry ∈ out,
      (∃ now, Round.IsLast rounds entry.1 now ∧
        entry.2 = (lists now.after entry.1).map fun g => g.by entry.1.1) ∧
      (lists u entry.1 = lists s entry.1 →
        entry.2 = (lists s entry.1).map fun g => g.by entry.1.1)

/-- Collecting lists that grow while they are read, from a node that answers each request with a
page as long as it likes, finds every list as it is in the last round to read it. -/
theorem collectMany_complete {cursors : List (Cursor Int)}
    (tells : r.TellsPages executor (cursors.map Cursor.key) steady lists)
    (distinct : cursors.Nodup) (atStart : ∀ c ∈ cursors, c.offset = 0) (isSteady : steady s) :
    (∀ out u, (r.collectFrom executor cursors).runFrom s = (.ok out, u) →
      r.IsComplete executor lists cursors s u out) ∧
    ∀ {ω : Type} [AddressLike ω] (ownersGiven : List ω) (owners : List Address)
      (nonces : List Int) out u,
      (ownersGiven.mapM toAddress : Except InputError _) = .ok owners →
      cursors = Cursor.first owners nonces →
      (r.collectMany executor ownersGiven nonces).runFrom s = (.ok out, u) →
        r.IsComplete executor lists cursors s u out := by
  have keys := Cursor.nodup_keys distinct atStart
  have complete : ∀ out u, (r.collectFrom executor cursors).runFrom s = (.ok out, u) →
      r.IsComplete executor lists cursors s u out := by
    intro out u run
    obtain ⟨found, t, reading, same⟩ := Query.runFrom_bind_eq_ok.1 run
    cases same
    obtain ⟨rounds, trace, rfl⟩ := runFrom_readPages_iff.1 reading
    obtain ⟨-, found⟩ := trace.exists_last tells isSteady keys
      (fun c isCursor => List.mem_map_of_mem isCursor) (fun c isCursor => by
        simp [Cursor.Within, atStart c isCursor])
    refine ⟨rounds, trace, ?asked, ?whole⟩
    case asked =>
      rw [eraseDups_of_nodup keys, List.map_map]
      exact List.map_id _
    case whole =>
      intro entry isEntry
      obtain ⟨key, isKey, rfl⟩ := List.mem_map.1 isEntry
      obtain ⟨c, isCursor, rfl⟩ := List.mem_map.1 (List.mem_eraseDups.1 isKey)
      obtain ⟨now, isLast, longer, notAbove, whole⟩ := found c isCursor
      rw [atStart c isCursor, Int.toNat_zero, List.take_zero, List.nil_append] at whole
      have ascribed : signaturesOf (rounds.flatMap Round.found) c.key =
          (lists now.after c.key).map fun g => g.by c.owner := by
        rw [whole, map_by_stored]
        intro g isFound
        obtain ⟨page, isPage, ofKey, onPage⟩ := mem_signaturesOf.1 isFound
        have reads := reads_iff_exists_rounds.2 ⟨rounds, trace, rfl⟩
        rw [(reads.page_ascribed isPage).2 g onPage]
        exact congrArg Prod.fst ofKey
      refine ⟨⟨now, isLast, ascribed⟩, ?_⟩
      intro still
      -- A list between two equal ones, each of which the next extends, is the same.
      have same : lists now.after c.key = lists s c.key :=
        (notAbove.trans (still ▸ List.prefix_rfl)).eq_of_length_le longer.length_le
      rw [← same]
      exact ascribed
  refine ⟨complete, ?_⟩
  intro ω _ ownersGiven owners nonces out u ownersRead same run
  subst same
  apply complete out u
  rw [collectMany, Query.runFrom_bind, Query.runFrom_input, ownersRead] at run
  exact run

/-! ### A list that grows by one signature before each batch -/

/-- The lists of a node after so many batches; the third signer has none. -/
def tideList (tide : Nat) (key : Address × Int) : List StoredSignature :=
  if key.1 = .ofNat 3 then []
  else ((List.range 9).map fun k => ⟨.ofNat 32 k, .ofNat 32 8, .ofNat 32 7⟩).take (tide + 3)

theorem length_tideList_le (tide : Nat) (key : Address × Int) :
    (tideList tide key).length ≤ 9 := by
  unfold tideList
  split
  · exact Nat.zero_le _
  · exact (List.length_take_le' _ _).trans_eq (by simp)

/-- Before the first batch a page has one signature, and before each further one it has one more. -/
def tideRule (tide : Nat) (_ : Address) (data : Bytes) : Reply :=
  match Ledger.pageRequest data with
  | .ok request =>
    let list := tideList tide (request.signer, request.nonce)
    have short := (length_tideList_le tide (request.signer, request.nonce)).trans_lt (by decide)
    ⟨true, Store.pageReturn ((list.drop request.start).take tide) ⟨list.length, short⟩⟩
  | .error _ => { success := false }

/-- A node whose lists grow and whose pages become longer with each batch. -/
def tideNode : Endpoint Nat where
  call address data := do
    modify Nat.succ
    let tide ← get
    (Batch.nodeByRule (tideRule tide)).call address data

theorem carries_tideRule (tide : Nat) : Batch.Carries (tideRule tide) 2 := by
  refine ⟨96 + 96 * 9, ?_, by decide⟩
  intro target data _
  unfold tideRule
  split
  · rename_i request _
    have few := length_tideList_le tide (request.signer, request.nonce)
    rw [Store.length_pageReturn, List.length_take, List.length_drop]
    omega
  · decide

theorem runFrom_execute_tideNode {calls : List Call} (some : calls ≠ []) (few : calls.length ≤ 2)
    (small : ∀ c ∈ calls, c.data.length ≤ 196) (contract : Address) (tide : Nat) :
    (Batch.execute tideNode contract calls).runFrom tide =
      (.ok (calls.map fun c => tideRule (tide + 1) c.target c.data), tide + 1) := by
  have byRule := Batch.runFrom_executeByRule (carries_tideRule (tide + 1)) contract few small
    (tide + 1)
  rw [Batch.runFrom_execute_of_ne_nil some] at byRule
  rw [Batch.runFrom_execute_of_ne_nil some, ← byRule]
  simp only [tideNode, Query.runFrom_bind, Query.runFrom_modify, Query.runFrom_get]

/-- The requests at the cursors of two lists of one nonce are answered by the node. -/
theorem runFrom_execute_cursors {pending : List (Cursor Int)} {calls : List Call}
    (isOpen : pending ≠ []) (distinct : (pending.map Cursor.key).Nodup)
    (listed : ∀ c ∈ pending, c.key ∈ [(Address.ofNat 2, (5 : Int)), (.ofNat 3, 5)])
    (asked : pending.mapM sample.callFor = .ok calls) (contract : Address) (tide : Nat) :
    (Batch.execute tideNode contract calls).runFrom tide =
      (.ok (calls.map fun c => tideRule (tide + 1) c.target c.data), tide + 1) := by
  have each := mapM_eq_ok_iff.1 asked
  have sameLength := each.length_eq
  have inLists : pending.map Cursor.key ⊆ [(.ofNat 2, 5), (.ofNat 3, 5)] := by
    intro key isKey
    obtain ⟨c, member, rfl⟩ := List.mem_map.1 isKey
    exact listed c member
  have few := distinct.length_le_of_subset inLists
  rw [List.length_map] at few
  apply runFrom_execute_tideNode
  · rintro rfl
    exact isOpen (List.forall₂_nil_right_iff.1 each)
  · rw [← sameLength]
    exact few
  · intro call isCall
    obtain ⟨c, -, called⟩ := exists_of_mem_mapM asked isCall
    exact (length_of_callFor called).le

/-- The node answers the request at a cursor with a page of its list. -/
theorem isPage_tideRule {c : Cursor Int} {call : Call} (called : sample.callFor c = .ok call)
    (tide : Nat) :
    c.IsPage (tideList (tide + 1) c.key) (tideRule (tide + 1) call.target call.data) := by
  obtain ⟨_, nonceWord, startWord, _, -, isNonce, isStart, -, rfl⟩ := callFor_eq_ok_iff.1 called
  have key : (c.owner, (nonceWord.val : Int)) = c.key := by rw [isNonce, Cursor.key]
  have place : c.offset.toNat = startWord.val := by omega
  have few := length_tideList_le (tide + 1) c.key
  rw [tideRule, Ledger.pageRequest_pageCalldata, Cursor.IsPage, place]
  simp only [key]
  refine ⟨_, trivial, Store.decodePage_pageReturn ?_, List.take_prefix _ _, ?_⟩
  · have taken := List.length_take_le' (tide + 1) ((tideList (tide + 1) c.key).drop startWord.val)
    rw [List.length_drop] at taken
    omega
  · intro none
    simpa using none

theorem tellsPages_tideNode (contract : Address) :
    sample.TellsPages (Batch.execute tideNode contract) [(.ofNat 2, 5), (.ofNat 3, 5)]
      (fun _ => True) tideList := by
  intro pending calls replies tide after _ isOpen distinct listed asked answered
  rw [runFrom_execute_cursors isOpen distinct listed asked] at answered
  cases answered
  refine ⟨trivial, ?_, ?_⟩
  · intro key _
    unfold tideList
    split
    · exact List.prefix_rfl
    · exact List.take_prefix_take_left (by omega)
  · rw [List.forall₂_map_right_iff]
    apply (mapM_eq_ok_iff.1 asked).imp
    intro c call called
    exact isPage_tideRule called tide

/-- One list takes three rounds, by pages of one, two and three signatures where two are asked for,
and the other one. -/
theorem collectMany_complete_tide :
    ∃ out u, (sample.collectMany (Batch.execute tideNode (.ofNat 9))
        [Value.text "0x0000000000000000000000000000000000000002",
          Value.text "0000000000000000000000000000000000000003"] [(5 : Int)]).runFrom 0 =
      (.ok out, u) ∧ sample.IsComplete (Batch.execute tideNode (.ofNat 9)) tideList
        [⟨.ofNat 2, 5, 0⟩, ⟨.ofNat 3, 5, 0⟩] 0 u out := by
  have ownersRead : [Value.text "0x0000000000000000000000000000000000000002",
      .text "0000000000000000000000000000000000000003"].mapM Value.toAddress =
        .ok [.ofNat 2, .ofNat 3] := rfl
  have first : [⟨.ofNat 2, 5, 0⟩, ⟨.ofNat 3, 5, 0⟩] =
      Cursor.first [.ofNat 2, .ofNat 3] [(5 : Int)] := by decide
  have answers : sample.Answers (Batch.execute tideNode (.ofNat 9)) [(.ofNat 2, 5), (.ofNat 3, 5)]
      fun _ => True := by
    intro pending calls tide _ isOpen distinct listed asked
    exact ⟨_, _, runFrom_execute_cursors isOpen distinct listed asked _ tide, trivial⟩
  have askable : ∀ c ∈ Cursor.first [.ofNat 2, .ofNat 3] [(5 : Int)], c.Askable :=
    Cursor.askable_of_mem_first (by decide)
  obtain ⟨rounds, u, trace, -⟩ := exists_rounds answers askable_sample askable (by decide)
    (by decide) trivial
  have run := runFrom_collectMany_of_rounds ownersRead trace
  have tells : sample.TellsPages (Batch.execute tideNode (.ofNat 9))
      ([⟨.ofNat 2, 5, 0⟩, ⟨.ofNat 3, 5, 0⟩].map Cursor.key) (fun _ => True) tideList :=
    tellsPages_tideNode (.ofNat 9)
  obtain ⟨-, complete⟩ := collectMany_complete tells (by decide) (by decide) trivial
  exact ⟨_, u, run, complete _ _ _ _ u ownersRead first run⟩

end Reader

end MultisigQueue
