/-
Module: MultisigQueue.Proofs.Queue.Cost
Purpose: The batches that a pass makes if the lists stay as they are.
Main exports:
  Endpoint.noted, Client.runFrom_reconstructFrom_noted, Listing.openAt, Listing.cursorsAt,
  Reader.TellsWhole, Reader.TellsWhole.next_round, Reader.TellsWhole.exists_batches,
  Client.reconstructFrom_cost
-/
import Mathlib.Data.Finset.Prod
import MultisigQueue.Proofs.Queue.Alike
import MultisigQueue.Proofs.Queue.Arguments
import MultisigQueue.Proofs.Queue.History
import MultisigQueue.Proofs.Queue.Trace
import MultisigQueue.Proofs.Simulation.Chain

namespace MultisigQueue

/-!
If the lists stay as they are and every page is as full as it can be, all open cursors stand at the
same distance from the starts of their lists. After so many rounds this is as many pages, and the
cursors that are open are those of the lists with more signatures than that. So the lengths of the
lists determine every batch of a pass. No list is asked for again when it has been read to its end,
and none is asked for a page that is bound to be empty unless the whole list is.
-/

/-! ### What a node is asked -/

section Noted

variable {σ : Type}

/-- A node that notes each call of it, with its data, before it answers. -/
def Endpoint.noted (node : Endpoint σ) : Endpoint (σ × List (Address × Bytes)) where
  call target data := do
    modify fun state => (state.1, state.2 ++ [(target, data)])
    Query.within Prod.fst (fun state s => (s, state.2)) (node.call target data)

theorem Endpoint.alike_noted (node : Endpoint σ) :
    Endpoint.Alike (fun s state => state.1 = s) node node.noted := by
  rintro target data _ state rfl
  exact ⟨rfl, rfl⟩

/-- A pass comes to the same if it is noted what the node is asked. -/
theorem Client.runFrom_reconstructFrom_noted (node : Endpoint σ) (contract : Address)
    (store safe chainId pageSize owners start window : Value)
    (state : σ × List (Address × Bytes)) :
    let plain := (reconstructFrom (Batch.execute node contract) store safe chainId pageSize owners
      start window).runFrom state.1
    let noted := (reconstructFrom (Batch.execute node.noted contract) store safe chainId pageSize
      owners start window).runFrom state
    plain.1 = noted.1 ∧ noted.2.1 = plain.2 := by
  have alike := Batch.execute_alike node.alike_noted contract
  have pass : Query.Alike (fun s (state : σ × List (Address × Bytes)) => state.1 = s)
      (reconstructFrom (Batch.execute node contract) store safe chainId pageSize owners start
        window)
      (reconstructFrom (Batch.execute node.noted contract) store safe chainId pageSize owners start
        window) :=
    (Query.alike_input _).bind fun r => r.reconstructGiven_alike alike owners start window
  exact pass rfl

/-- A batch that is not empty is noted as one call of the batching contract. -/
theorem Batch.runFrom_execute_noted {node : Endpoint σ} {contract : Address} {calls : List Call}
    (some : calls ≠ []) (state : σ × List (Address × Bytes)) :
    (execute node.noted contract calls).runFrom state =
      (((execute node contract calls).runFrom state.1).1,
        ((execute node contract calls).runFrom state.1).2,
        state.2 ++ [(contract, encode calls)]) := by
  rw [runFrom_execute_of_ne_nil some, runFrom_execute_of_ne_nil some]
  simp only [Endpoint.noted, Query.runFrom_bind, Query.runFrom_modify, Query.runFrom_within]
  rcases (node.call contract (encode calls)).runFrom state.1 with ⟨e | data, t⟩
  · rfl
  · rfl

end Noted

/-! ### The cursors of a round -/

/-- Lists that are asked for by pages of a size: those of some owners for some nonces. -/
structure Listing where
  lists : Address → Int → List StoredSignature
  owners : List Address
  nonces : List Int
  size : Nat

namespace Listing

variable (l : Listing) (k : Nat)

/-- The lists that are asked for in a round: at first all of them, and later those with more
signatures than the rounds before have asked for. -/
def openAt : Finset (Address × Int) :=
  (l.owners.toFinset ×ˢ l.nonces.toFinset).filter fun key =>
    k = 0 ∨ k * l.size < (l.lists key.1 key.2).length

/-- The cursors that are open in a round. -/
def cursorsAt : List (Cursor Int) :=
  ((Cursor.first l.owners l.nonces).filter fun c =>
    k = 0 ∨ k * l.size < (l.lists c.owner c.nonce).length).map fun c =>
      { c with offset := (k * l.size : Nat) }

/-- The cursor behind a full page, unless the list is at its end. -/
def next (c : Cursor Int) : Option (Cursor Int) :=
  if (l.lists c.owner c.nonce).length ≤ c.offset.toNat + l.size then none
  else some { c with offset := c.offset + l.size }

variable {l k}

theorem mem_openAt {key : Address × Int} :
    key ∈ l.openAt k ↔ key.1 ∈ l.owners ∧ key.2 ∈ l.nonces ∧
      (k = 0 ∨ k * l.size < (l.lists key.1 key.2).length) := by
  simp only [openAt, Finset.mem_filter, Finset.mem_product, List.mem_toFinset, and_assoc]

theorem mem_cursorsAt {c : Cursor Int} :
    c ∈ l.cursorsAt k ↔ c.key ∈ l.openAt k ∧ c.offset = (k * l.size : Nat) := by
  simp only [cursorsAt, List.mem_map, List.mem_filter, Cursor.mem_first, decide_eq_true_eq,
    mem_openAt, Cursor.key]
  constructor
  · rintro ⟨c, ⟨⟨isOwner, isAsked, -⟩, isOpen⟩, rfl⟩
    exact ⟨⟨isOwner, isAsked, isOpen⟩, rfl⟩
  · rintro ⟨⟨isOwner, isAsked, isOpen⟩, place⟩
    refine ⟨{ c with offset := 0 }, ⟨⟨isOwner, isAsked, rfl⟩, isOpen⟩, ?_⟩
    rw [← place]

/-- An open cursor stands within its list. -/
theorem within_cursorsAt {c : Cursor Int} (isOpen : c ∈ l.cursorsAt k) :
    c.Within (l.lists c.owner c.nonce) := by
  obtain ⟨listed, place⟩ := mem_cursorsAt.1 isOpen
  obtain ⟨-, -, reaches⟩ := mem_openAt.1 listed
  rw [Cursor.Within, place, Int.toNat_natCast]
  refine ⟨Int.natCast_nonneg _, ?_⟩
  rcases reaches with rfl | more
  · rw [Nat.zero_mul]
    exact Nat.zero_le _
  · exact more.le

theorem cursorsAt_zero : l.cursorsAt 0 = Cursor.first l.owners l.nonces := by
  simp only [cursorsAt, true_or, decide_true, List.filter_true]
  apply (List.map_congr_left _).trans (List.map_id _)
  intro c isFirst
  obtain ⟨-, -, atStart⟩ := Cursor.mem_first.1 isFirst
  rw [Nat.zero_mul, Int.natCast_zero, ← atStart]
  rfl

/-- The open cursors are in different lists. -/
theorem nodup_cursorsAt (differ : l.nonces.Nodup) : ((l.cursorsAt k).map Cursor.key).Nodup := by
  rw [cursorsAt, List.map_map]
  exact (Cursor.nodup_first differ).sublist (List.filter_sublist.map Cursor.key)

theorem toFinset_cursorsAt : ((l.cursorsAt k).map Cursor.key).toFinset = l.openAt k := by
  ext key
  rw [List.mem_toFinset, List.mem_map]
  constructor
  · rintro ⟨c, isOpen, rfl⟩
    exact (mem_cursorsAt.1 isOpen).1
  · intro isOpen
    exact ⟨⟨key.1, key.2, (k * l.size : Nat)⟩, mem_cursorsAt.2 ⟨isOpen, rfl⟩, rfl⟩

/-- There are as many cursors as lists to be read. -/
theorem length_cursorsAt (differ : l.nonces.Nodup) :
    (l.cursorsAt k).length = (l.openAt k).card := by
  rw [← toFinset_cursorsAt, List.toFinset_card_of_nodup (nodup_cursorsAt differ), List.length_map]

/-- A full page moves a cursor to its place in the next round, if it is open there. -/
theorem next_eq (c : Cursor Int) :
    l.next { c with offset := (k * l.size : Nat) } =
      if (k + 1) * l.size < (l.lists c.owner c.nonce).length then
        some { c with offset := ((k + 1) * l.size : Nat) }
      else none := by
  have place : (k + 1) * l.size = k * l.size + l.size := Nat.succ_mul k l.size
  rw [next, Int.toNat_natCast, place]
  by_cases more : k * l.size + l.size < (l.lists c.owner c.nonce).length
  · rw [if_pos more, if_neg (Nat.not_le.2 more), Int.natCast_add]
  · rw [if_neg more, if_pos (Nat.not_lt.1 more)]

/-- A round of full pages leaves the cursors of the next round open. -/
theorem filterMap_cursorsAt : (l.cursorsAt k).filterMap l.next = l.cursorsAt (k + 1) := by
  rw [cursorsAt, cursorsAt, List.filterMap_map, List.filterMap_filter, ← List.filterMap_eq_map,
    List.filterMap_filter]
  apply List.filterMap_congr
  intro c _
  simp only [Function.comp_apply, next_eq, decide_eq_true_eq, Nat.add_one_ne_zero, false_or]
  by_cases more : (k + 1) * l.size < (l.lists c.owner c.nonce).length
  · have isOpen : k * l.size < (l.lists c.owner c.nonce).length :=
      Nat.lt_of_le_of_lt (Nat.mul_le_mul_right _ (Nat.le_succ k)) more
    rw [if_pos more, if_pos (.inr isOpen)]
  · rw [if_neg more, ite_self]

/-- Once no cursor is open, none is opened again. -/
theorem cursorsAt_add_eq_nil (none : l.cursorsAt k = []) (i : Nat) : l.cursorsAt (k + i) = [] := by
  induction i with
  | zero => exact none
  | succ i ih => rw [← Nat.add_assoc, ← filterMap_cursorsAt, ih, List.filterMap_nil]

end Listing

/-- A round leaves open what each of its cursors goes on with. -/
theorem Cursor.open_absorbRound {ν : Type} {pending : List (Cursor ν)} {replies : List Reply}
    {next : Cursor ν → Option (Cursor ν)}
    (each : List.Forall₂ (fun c reply => (c.absorb reply).2 = next c) pending replies) :
    (absorbRound pending replies).2 = pending.filterMap next := by
  induction each with
  | nil => rfl
  | @cons c _ rest _ here _ ih =>
      rw [absorbRound_cons, ih, here, List.filterMap_cons]
      cases next c with
      | none => rfl
      | some d => rfl

/-! ### The batches of a reading -/

namespace Reader

variable {σ : Type}

/-- Whether an executor tells whole pages of lists that stay as they are: from a steady state it
answers each batch for pages of different lists by as many signatures of each as fit on a page,
together with the length of the list, and leaves a steady state. -/
structure TellsWhole (r : Reader) (executor : Executor σ) (l : Listing) (steady : σ → Prop) :
    Prop where
  short : ∀ owner ∈ l.owners, ∀ nonce ∈ l.nonces, (l.lists owner nonce).length < 2 ^ (256 : Nat)
  pages : ∀ {s : σ} {pending : List (Cursor Int)} {calls : List Call}, steady s → pending ≠ [] →
    (pending.map Cursor.key).Nodup →
    (∀ c ∈ pending, c.owner ∈ l.owners ∧ c.nonce ∈ l.nonces ∧
      c.Within (l.lists c.owner c.nonce)) →
    pending.mapM r.callFor = .ok calls →
    ∃ replies t, (executor calls).runFrom s = (.ok replies, t) ∧ steady t ∧
      List.Forall₂ (fun c reply => c.IsWholePage l.size (l.lists c.owner c.nonce) reply)
        pending replies

/-- Whether a call asks for a page of a list from a place on. -/
def AsksFrom (r : Reader) (size : Nat) (place : Nat) (key : Address × Int) (call : Call) : Prop :=
  Store.pageCall r.store key.1 r.safe r.chainId key.2 place size = .ok call

/-- Whether some batches ask for the lists page by page: in each round as many calls as there are
lists still to be read, one for each of these, until there is none. -/
structure AsksByPages (r : Reader) (l : Listing) (batches : List (List Call)) : Prop where
  goesOn : ∀ k, k < batches.length ↔ 0 < (l.openAt k).card
  length : ∀ k calls, batches[k]? = some calls → calls.length = (l.openAt k).card
  asks : ∀ k calls, batches[k]? = some calls → ∃ keys : List (Address × Int),
    keys.Nodup ∧ keys.toFinset = l.openAt k ∧
      List.Forall₂ (r.AsksFrom l.size (k * l.size)) keys calls

variable {r : Reader} {executor : Executor σ} {l : Listing} {steady : σ → Prop}

/-- A round of pages leaves the cursors of the next round open. -/
theorem TellsWhole.next_round (tells : r.TellsWhole executor l steady) (positive : 0 < l.size)
    (differ : l.nonces.Nodup) {k : Nat} {calls : List Call} {replies : List Reply} {s t : σ}
    (isSteady : steady s) (isOpen : l.cursorsAt k ≠ [])
    (asked : (l.cursorsAt k).mapM r.callFor = .ok calls)
    (answered : (executor calls).runFrom s = (.ok replies, t)) :
    steady t ∧ (Cursor.absorbRound (l.cursorsAt k) replies).2 = l.cursorsAt (k + 1) := by
  have listed : ∀ c ∈ l.cursorsAt k, c.owner ∈ l.owners ∧ c.nonce ∈ l.nonces ∧
      c.Within (l.lists c.owner c.nonce) := by
    intro c member
    obtain ⟨isOwner, isAsked, -⟩ := Listing.mem_openAt.1 (Listing.mem_cursorsAt.1 member).1
    exact ⟨isOwner, isAsked, Listing.within_cursorsAt member⟩
  obtain ⟨_, _, told, steadyThen, pages⟩ :=
    tells.pages isSteady isOpen (Listing.nodup_cursorsAt differ) listed asked
  rw [told] at answered
  cases answered
  refine ⟨steadyThen, ?_⟩
  rw [← Listing.filterMap_cursorsAt]
  apply Cursor.open_absorbRound
  apply ((List.forall₂_and_left _ _).2 ⟨listed, pages⟩).imp
  rintro c reply ⟨⟨-, -, within⟩, whole⟩
  rw [whole.absorb_eq positive within]
  rfl

/-- An executor that tells whole pages tells the truth about the lists. -/
theorem TellsWhole.isPaged (tells : r.TellsWhole executor l steady) (positive : 0 < l.size)
    (readerAskable : r.Askable)
    (nonce_mem : ∀ nonce ∈ l.nonces, 0 ≤ nonce ∧ nonce < 2 ^ (256 : Nat)) :
    r.IsPaged executor l.owners l.nonces steady fun _ => ⟨l.lists, fun _ => none⟩ where
  pages := by
    intro s pending isSteady isOpen distinct listed
    have askable : ∀ c ∈ pending, c.Askable := by
      intro c member
      obtain ⟨isOwner, isAsked, within⟩ := listed c member
      have few := tells.short c.owner isOwner c.nonce isAsked
      have least := within.1
      have most : c.offset.toNat ≤ (l.lists c.owner c.nonce).length := within.2
      exact ⟨nonce_mem c.nonce isAsked, least, by omega⟩
    obtain ⟨calls, asked⟩ := exists_calls readerAskable askable
    obtain ⟨replies, t, answered, steadyThen, pages⟩ :=
      tells.pages isSteady isOpen distinct listed asked
    refine ⟨calls, replies, t, asked, answered, steadyThen, .refl _, ?_⟩
    apply ((List.forall₂_and_left _ _).2 ⟨listed, pages⟩).imp
    rintro c reply ⟨⟨-, -, within⟩, whole⟩
    exact whole.turns positive within

/-- Batches that ask for the lists of open cursors ask for the lists page by page. -/
theorem asksByPages_of_cursorsAt (sized : r.pageSize = .int l.size) (differ : l.nonces.Nodup)
    {batches : List (List Call)} (goesOn : ∀ k, k < batches.length ↔ l.cursorsAt k ≠ [])
    (asks : ∀ k calls, batches[k]? = some calls → (l.cursorsAt k).mapM r.callFor = .ok calls) :
    r.AsksByPages l batches where
  goesOn k := by
    rw [goesOn, ← Listing.length_cursorsAt differ, List.length_pos_iff]
  length k calls made := by
    rw [← Listing.length_cursorsAt differ, (mapM_eq_ok_iff.1 (asks k calls made)).length_eq]
  asks k calls made := by
    refine ⟨_, Listing.nodup_cursorsAt differ, Listing.toFinset_cursorsAt, ?_⟩
    have places : ∀ c ∈ l.cursorsAt k, c.offset = (k * l.size : Nat) :=
      fun c isOpen => (Listing.mem_cursorsAt.1 isOpen).2
    apply List.forall₂_map_left_iff.2
    apply ((List.forall₂_and_left _ _).2 ⟨places, mapM_eq_ok_iff.1 (asks k calls made)⟩).imp
    rintro c call ⟨place, called⟩
    rw [callFor_int sized, mapError_eq_ok_iff, place] at called
    exact called

section Noted

variable {node : Endpoint σ} {contract : Address} {first : σ × List (Address × Bytes)}

/-- Whole pages are told as well if it is noted what the node is asked. -/
theorem TellsWhole.noted (tells : r.TellsWhole (Batch.execute node contract) l steady) :
    r.TellsWhole (Batch.execute node.noted contract) l fun state => steady state.1 where
  short := tells.short
  pages := by
    intro state pending calls isSteady isOpen distinct listed asked
    obtain ⟨replies, t, answered, steadyThen, pages⟩ :=
      tells.pages isSteady isOpen distinct listed asked
    have some : calls ≠ [] := ne_nil_of_mapM asked isOpen
    refine ⟨replies, (t, state.2 ++ [(contract, Batch.encode calls)]), ?_, steadyThen, pages⟩
    rw [Batch.runFrom_execute_noted some, answered]

/-- What is noted of a reading that begins with the cursors of a round: a batch for this round, and
for each further one, as long as there are open cursors. -/
theorem TellsWhole.noted_of_reads (tells : r.TellsWhole (Batch.execute node contract) l steady)
    (positive : 0 < l.size) (differ : l.nonces.Nodup) {pending : List (Cursor Int)}
    {last : σ × List (Address × Bytes)} {found : List (Found Int)}
    (reads : r.Reads (Batch.execute node.noted contract) pending first found last) :
    ∀ k, pending = l.cursorsAt k → steady first.1 → ∃ batches : List (List Call),
      last.2 = first.2 ++ batches.map (fun calls => (contract, Batch.encode calls)) ∧
      (∀ i, i < batches.length ↔ l.cursorsAt (k + i) ≠ []) ∧
      ∀ i calls, batches[i]? = some calls → (l.cursorsAt (k + i)).mapM r.callFor = .ok calls := by
  -- By induction on the rounds that are left, the first of which may be any round of the listing.
  induction reads with
  | done s =>
      intro k atRound _
      refine ⟨[], by simp, ?_, by simp⟩
      intro i
      simp [Listing.cursorsAt_add_eq_nil atRound.symm i]
  | @round pending calls replies first mid last later isOpen asked answered rest ih =>
      intro k atRound isSteady
      subst atRound
      have some : calls ≠ [] := ne_nil_of_mapM asked isOpen
      obtain ⟨steadyThen, next⟩ :=
        tells.noted.next_round positive differ isSteady isOpen asked answered
      obtain ⟨batches, noted, goesOn, asks⟩ := ih (k + 1) next steadyThen
      rw [Batch.runFrom_execute_noted some] at answered
      obtain ⟨-, rfl⟩ := Prod.mk.inj answered
      have shift : ∀ i, k + 1 + i = k + (i + 1) := fun i => by rw [Nat.add_assoc, Nat.add_comm 1 i]
      refine ⟨calls :: batches, ?noted, ?goesOn, ?asks⟩
      case noted =>
        rw [noted, List.map_cons, List.append_assoc, List.singleton_append]
      case goesOn =>
        intro i
        cases i with
        | zero => simpa using isOpen
        | succ i => rw [List.length_cons, Nat.succ_lt_succ_iff, goesOn, shift]
      case asks =>
        intro i others made
        cases i with
        | zero =>
            cases made
            exact asked
        | succ i =>
            rw [← shift]
            exact asks i others made

/-- The lists are read page by page, and all that is in them is found. -/
theorem TellsWhole.exists_reads (tells : r.TellsWhole (Batch.execute node contract) l steady)
    (readerAskable : r.Askable) (sized : r.pageSize = .int l.size) (positive : 0 < l.size)
    (differ : l.nonces.Nodup)
    (nonce_mem : ∀ nonce ∈ l.nonces, 0 ≤ nonce ∧ nonce < 2 ^ (256 : Nat))
    (first : σ × List (Address × Bytes)) (isSteady : steady first.1) :
    ∃ found last batches,
      r.Reads (Batch.execute node.noted contract) (Cursor.first l.owners l.nonces) first found
        last ∧
      r.AsksByPages l batches ∧
      last.2 = first.2 ++ batches.map (fun calls => (contract, Batch.encode calls)) ∧
      ∀ hash, hash ∈ (Tally.ofFound found).identities ↔
        ∃ owner ∈ l.owners, ∃ nonce ∈ l.nonces, ∃ g ∈ l.lists owner nonce, g.txHash = hash := by
  obtain ⟨found, last, reads, -, -, listed⟩ :=
    (tells.noted.isPaged positive readerAskable nonce_mem).exists_reads_first isSteady differ
  obtain ⟨batches, noted, goesOn, asks⟩ :=
    tells.noted_of_reads positive differ reads 0 Listing.cursorsAt_zero.symm isSteady
  simp only [Nat.zero_add] at goesOn asks
  have byPages := asksByPages_of_cursorsAt sized differ goesOn asks
  refine ⟨found, last, batches, reads, byPages, noted, ?_⟩
  intro hash
  rw [reads.ascribed.mem_identities fun _ => none]
  simp only [Holdings.mem_hashes, Holdings.mem_filed]
  constructor
  · rintro ⟨nonce, isAsked, g, ⟨owner, isOwner, isFound⟩, ofHash⟩
    have whole := (listed owner isOwner nonce isAsked fun _ => none).2
    exact ⟨owner, isOwner, nonce, isAsked, g, whole.subset isFound, ofHash⟩
  · rintro ⟨owner, isOwner, nonce, isAsked, g, inList, ofHash⟩
    have whole := (listed owner isOwner nonce isAsked fun _ => none).1
    exact ⟨nonce, isAsked, g, ⟨owner, isOwner, whole.subset inList⟩, ofHash⟩

/-- The one batch of lookups is noted, if there is anything to be looked up. -/
theorem runFrom_queueOf_noted {found : List (Found Int)} {last : σ × List (Address × Bytes)}
    {owners : List Address} {nonces : List Int}
    (reads : r.Reads (Batch.execute node.noted contract) (Cursor.first owners nonces) first found
      last) :
    ((r.queueOf (Batch.execute node.noted contract) owners nonces).runFrom first).2.2 =
      last.2 ++ if (Tally.ofFound found).identities = [] then []
        else [(contract, Batch.encode
          ((Tally.ofFound found).identities.map (Store.lookupCall r.store)))] := by
  have distinct := (Tally.ofFound found).ascending_identities.nodup
  simp only [queueOf, resolveMany, eraseDups_of_nodup distinct, Query.runFrom_bind,
    runFrom_readPages_eq_ok.2 reads]
  generalize (Tally.ofFound found).identities = hashes
  by_cases none : hashes = []
  · subst none
    simp [Batch.execute]
  · have some : hashes.map (Store.lookupCall r.store) ≠ [] := by simpa using none
    rw [Batch.runFrom_execute_noted some, if_neg none]
    rcases (Batch.execute node contract (hashes.map (Store.lookupCall r.store))).runFrom last.1
      with ⟨e | replies, t⟩
    · rfl
    · rfl

end Noted

end Reader

namespace Client

variable {storeGiven safeGiven : Value} {store safe : Address}
  {chainId pageSize start window : Int}

/-- A pass without owners, or over no nonces, is over before anything is asked. -/
theorem runFrom_reconstructFrom_empty {σ : Type} {executor : Executor σ} {ownersGiven : List Value}
    (asks : Asks storeGiven safeGiven chainId pageSize start window store safe)
    (empty : ownersGiven = [] ∨ window = 0) (s : σ) :
    (reconstructFrom executor storeGiven safeGiven (.int chainId) (.int pageSize)
      (.list ownersGiven) (.int start) (.int window)).runFrom s = (.ok [], s) := by
  have reader : readerFor storeGiven safeGiven (.int chainId) (.int pageSize) =
      .ok ⟨store, safe, chainId, .int pageSize⟩ :=
    (readerFor_eq_ok_iff asks.storeRead asks.safeRead).2 ⟨asks.pageSize_mem.1, rfl⟩
  have none : (decide (window.toNat = 0) || ownersGiven.isEmpty) = true := by
    rcases empty with rfl | rfl
    · exact Bool.or_true _
    · rfl
  simp only [reconstructFrom, reader, Query.runFrom_bind, Query.runFrom_input, Except.mapError,
    Reader.reconstructGiven_list, Reader.reconstruct,
    NonceWindow.ofInts_eq_ok asks.fromStart asks.forward, Reader.queueOfWindow, none, if_true,
    Query.runFrom_pure]

/-- The cost of a pass. If the lists stay as they are and every page is as full as it can be, a node
is asked for nothing but these batches, in this order: for each round in which a list is still to be
read one batch, with the next page of every such list, and then one with the lookups of all hashes
that occur in the lists, if there are any. Without owners or nonces it is asked for nothing. -/
theorem reconstructFrom_cost {σ : Type} {node : Endpoint σ} {contract : Address}
    (asks : Asks storeGiven safeGiven chainId pageSize start window store safe)
    (ownersGiven : List Value) (s : σ) :
    let pass := (reconstructFrom (Batch.execute node.noted contract) storeGiven safeGiven
      (.int chainId) (.int pageSize) (.list ownersGiven) (.int start) (.int window)).runFrom (s, [])
    let reader : Reader := ⟨store, safe, chainId, .int pageSize⟩
    (∀ owners lists steady, ownersGiven.mapM Value.toAddress = .ok owners → owners ≠ [] →
      1 ≤ window →
      let listing : Listing :=
        ⟨lists, owners, NonceWindow.nonces ⟨start, window.toNat⟩, pageSize.toNat⟩
      reader.TellsWhole (Batch.execute node contract) listing steady → steady s →
      ∃ (pages : List (List Call)) (hashes : List Word),
        reader.AsksByPages listing pages ∧ Ascending FixedBytes.toNat hashes ∧
        (∀ hash, hash ∈ hashes ↔ ∃ owner ∈ owners, ∃ nonce ∈ listing.nonces,
          ∃ g ∈ lists owner nonce, g.txHash = hash) ∧
        pass.2.2 =
          (pages ++ if hashes = [] then [] else [hashes.map (Store.lookupCall store)]).map
            fun calls => (contract, Batch.encode calls)) ∧
    (ownersGiven = [] ∨ window = 0 → pass = (.ok [], s, [])) := by
  intro pass reader
  refine ⟨?asked, fun empty => runFrom_reconstructFrom_empty asks empty (s, [])⟩
  intro owners lists steady ownersRead someOwner someNonce listing tells isSteady
  have positive : 0 < pageSize := asks.pageSize_mem.1
  have askable : reader.Askable := ⟨asks.chainId_mem, pageSize, rfl, asks.pageSize_mem⟩
  have sized : reader.pageSize = .int listing.size :=
    congrArg Value.int (Int.toNat_of_nonneg positive.le).symm
  have notEmpty : ¬(window = 0 ∨ owners = []) := by
    rintro (rfl | none)
    · exact absurd someNonce (by decide)
    · exact someOwner none
  obtain ⟨found, last, pages, reads, byPages, noted, occurs⟩ :=
    tells.exists_reads askable sized (Int.lt_toNat.2 positive)
      (NonceWindow.ascending_nonces _).nodup
      (fun _ => NonceWindow.mem_words asks.fromStart asks.inside) (s, []) isSteady
  have ascends := (Tally.ofFound found).ascending_identities
  refine ⟨pages, (Tally.ofFound found).identities, byPages, ascends, occurs, ?_⟩
  have run : pass = _ :=
    runFrom_reconstructFrom asks.storeRead asks.safeRead ownersRead positive asks.fromStart
      asks.forward
  rw [run, Reader.runFrom_reconstruct asks.fromStart asks.forward, if_neg notEmpty,
    Reader.runFrom_queueOf_noted reads, noted]
  split
  · simp
  · simp [reader]

end Client

/-! ### A chain that nothing disturbs -/

/-- A chain that nothing disturbs tells whole pages of the lists in its ledger. -/
theorem Chain.TellsLists.tellsWhole {c : Chain} {chainId pageSize : Int} {owners : List Address}
    {nonces : List Int} (tells : c.TellsLists chainId pageSize owners nonces) (safe : Address) :
    Reader.TellsWhole ⟨c.storeAddress, safe, chainId, .int pageSize⟩
      (Batch.execute node c.batchAddress)
      ⟨fun owner nonce => c.ledger.signatures owner safe chainId nonce, owners, nonces,
        pageSize.toNat⟩
      fun d => d.unobserved = c.unobserved where
  short owner _ nonce _ := tells.length_lt owner nonce
  pages := by
    intro s pending calls same _ distinct listed asked
    have here := tells.of_unobserved same
    obtain ⟨ledger, store, batch⟩ := eq_of_unobserved same
    rw [← ledger] at listed
    obtain ⟨t, answered, still⟩ := here.runFrom_pages distinct listed
    rw [← store, here.mapM_callFor listed] at asked
    cases asked
    rw [batch] at answered
    refine ⟨_, t, answered, still.trans same, ?_⟩
    rw [List.forall₂_map_right_iff, List.forall₂_same, ← ledger]
    exact fun cursor _ => here.isWholePage cursor

/-- The lists of the sample ledger that the sample pass asks for, by pages of one signature. -/
def Listing.sample : Listing where
  lists owner nonce := Ledger.sample.signatures owner (.ofNat 1) 1 nonce
  owners := [.ofNat 2, .ofNat 3, .ofNat 2]
  nonces := NonceWindow.nonces ⟨0, 2⟩
  size := 1

/-- Four lists are asked for at first, and then the one with two signatures once more, all of which
are for one transaction. A pass without owners asks for nothing. -/
theorem Client.reconstructFrom_cost_sample :
    (∃ pages : List (List Call),
      Reader.AsksByPages ⟨Chain.sample.storeAddress, .ofNat 1, 1, .int 1⟩ .sample pages ∧
      pages.map List.length = [4, 1] ∧
      ((samplePass 1 (Batch.execute Chain.node.noted Chain.sample.batchAddress)).runFrom
        (Chain.sample, [])).2.2 =
          (pages ++ [[Store.lookupCall Chain.sample.storeAddress (.ofNat 32 7)]]).map
            fun calls => (Chain.sample.batchAddress, Batch.encode calls)) ∧
    (reconstructFrom (Batch.execute Chain.node.noted Chain.sample.batchAddress)
      (.text "0x5e669c1f2f9629b22dd05fbff63313a49f87d4e6")
      (.text "0x0000000000000000000000000000000000000001") (.int 1) (.int 1) (.list []) (.int 0)
      (.int 2)).runFrom (Chain.sample, []) = (.ok [], Chain.sample, []) := by
  have asks : Asks (.text "0x5e669c1f2f9629b22dd05fbff63313a49f87d4e6")
      (.text "0x0000000000000000000000000000000000000001") 1 1 0 2 Chain.sample.storeAddress
      (.ofNat 1) :=
    ⟨rfl, rfl, by decide, by decide, by decide, by decide, by decide⟩
  refine ⟨?asked, (reconstructFrom_cost asks [] Chain.sample).2 (.inl rfl)⟩
  obtain ⟨pages, hashes, byPages, ascends, occurs, asked⟩ :=
    (reconstructFrom_cost asks [.text "0x0000000000000000000000000000000000000002",
      .text "0000000000000000000000000000000000000003",
      .text "0X0000000000000000000000000000000000000002"] Chain.sample).1
      [.ofNat 2, .ofNat 3, .ofNat 2] _ _ rfl (by decide) (by decide)
      (Chain.tells_sample.tellsWhole (.ofNat 1)) rfl
  refine ⟨pages, byPages, ?lengths, ?trace⟩
  case lengths =>
    have goesOn : ∀ k, k < pages.length ↔ 0 < (Listing.sample.openAt k).card := byPages.goesOn
    have two : pages.length = 2 := by
      have more := (goesOn 1).2 (by decide)
      have ends := mt (goesOn 2).1 (by decide)
      omega
    obtain ⟨atFirst, later, rfl⟩ := List.length_eq_two.1 two
    have atFirstFour : atFirst.length = 4 := byPages.length 0 atFirst rfl
    have laterOne : later.length = 1 := byPages.length 1 later rfl
    simp [atFirstFour, laterOne]
  case trace =>
    have one : hashes = [.ofNat 32 7] := by
      apply ascends.ext (List.pairwise_singleton _ _)
      intro hash
      rw [occurs, List.mem_singleton]
      constructor
      · rintro ⟨owner, isOwner, nonce, isAsked, g, inList, rfl⟩
        have every : ∀ owner ∈ Listing.sample.owners, ∀ nonce ∈ Listing.sample.nonces,
            ∀ g ∈ Listing.sample.lists owner nonce, g.txHash = .ofNat 32 7 := by decide
        exact every owner isOwner nonce isAsked g inList
      · rintro rfl
        have occurs : ∃ owner ∈ Listing.sample.owners, ∃ nonce ∈ Listing.sample.nonces,
            ∃ g ∈ Listing.sample.lists owner nonce, g.txHash = .ofNat 32 7 := by decide
        exact occurs
    rw [one, if_neg (List.cons_ne_nil _ _)] at asked
    rw [samplePass]
    exact asked

end MultisigQueue
