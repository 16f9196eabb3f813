/-
Module: MultisigQueue.Proofs.Queue.Repeats
Purpose: What is found if nonces are asked for several times.
Main exports:
  Cursor.eachOnce, Cursor.count_first, Cursor.eraseDups_first, Cursor.first_eq_eachOnce_iff,
  repeatPages, countP_repeatPages, repeatPages_eq_iff, Reader.TellsRounds,
  Reader.TellsRounds.runFrom_collectMany, Chain.stored, Chain.found, Chain.collectMany_repeats
-/
import MultisigQueue.Proofs.Queue.Cost

namespace MultisigQueue

/-!
Owners that are given several times have one cursor for each nonce, but a nonce that is given
several times has as many cursors for each owner. All of them read the same list, a page each in
every round, and what they find is put together under one key. So each page of the list is found as
often as its nonce has been given.
-/

section Pairs

variable {α β γ : Type} [DecidableEq α] [BEq γ] [LawfulBEq γ] {pair : α → β → γ}

/-- Of some pairs those with a given first part can be removed as well before they are made. -/
theorem removeAll_flatMap_map (injective : ∀ {a b c d}, pair a b = pair c d → a = c ∧ b = d)
    (others : List β) (a : α) (l : List α) :
    (l.flatMap fun b => others.map (pair b)).removeAll (others.map (pair a)) =
      (l.filter fun b => !b == a).flatMap fun b => others.map (pair b) := by
  rw [List.removeAll, List.filter_flatMap]
  induction l with
  | nil => rfl
  | cons b rest ih =>
      rw [List.flatMap_cons, ih]
      by_cases same : b = a
      · have removed :
            (others.map (pair b)).filter (fun c => !(others.map (pair a)).elem c) = [] := by
          simp [same]
        rw [removed, List.filter_cons_of_neg (by simp [same]), List.nil_append]
      · have kept : (others.map (pair b)).filter (fun c => !(others.map (pair a)).elem c) =
            others.map (pair b) := by
          rw [List.filter_eq_self]
          intro c member
          obtain ⟨other, -, rfl⟩ := List.mem_map.1 member
          simp only [List.elem_eq_mem, List.mem_map, Bool.not_eq_true', decide_eq_false_iff_not]
          rintro ⟨another, -, alike⟩
          exact same (injective alike).1.symm
        rw [kept, List.filter_cons_of_pos (by simp [same]), List.flatMap_cons]

/-- Pairs are made once each if their first parts are given once each. -/
theorem eraseDups_flatMap_map (injective : ∀ {a b c d}, pair a b = pair c d → a = c ∧ b = d)
    {others : List β} (distinct : others.Nodup) : (l : List α) →
    (l.flatMap fun a => others.map (pair a)).eraseDups =
      l.eraseDups.flatMap fun a => others.map (pair a)
  | [] => by simp
  | a :: rest => by
      have shorter : (rest.filter fun b => !b == a).length < rest.length + 1 :=
        Nat.lt_succ_of_le (List.length_filter_le _ _)
      have block : (others.map (pair a)).Nodup :=
        distinct.map fun b c same => (injective same).2
      rw [List.flatMap_cons, List.eraseDups_append, eraseDups_of_nodup block,
        removeAll_flatMap_map injective, eraseDups_flatMap_map injective distinct,
        List.eraseDups_cons, List.flatMap_cons]
termination_by l => l.length

end Pairs

namespace Cursor

variable {ν : Type} [DecidableEq ν] {owners : List Address} {nonces : List ν}

/-- One cursor for each pair of a nonce and an owner, in the order in which they are first given. -/
def eachOnce (owners : List Address) (nonces : List ν) : List (Cursor ν) :=
  nonces.eraseDups.flatMap fun nonce => owners.eraseDups.map fun owner => { owner, nonce }

/-- A list has a cursor for each time that its nonce is given, if its owner is given at all. -/
theorem count_first (owner : Address) (nonce : ν) :
    (first owners nonces).count ⟨owner, nonce, 0⟩ =
      if owner ∈ owners then nonces.count nonce else 0 := by
  have block (other : ν) : (owners.eraseDups.map fun owner => (⟨owner, other, 0⟩ : Cursor ν)).count
      ⟨owner, nonce, 0⟩ = if owner ∈ owners ∧ other = nonce then 1 else 0 := by
    split
    · rename_i listed
      obtain ⟨isOwner, rfl⟩ := listed
      apply List.count_eq_one_of_mem
      · exact (nodup_eraseDups owners).map fun a b same => congrArg Cursor.owner same
      · exact List.mem_map_of_mem (List.mem_eraseDups.2 isOwner)
    · rename_i elsewhere
      apply List.count_eq_zero_of_not_mem
      intro member
      obtain ⟨a, isOwner, same⟩ := List.mem_map.1 member
      cases same
      exact elsewhere ⟨List.mem_eraseDups.1 isOwner, rfl⟩
  induction nonces with
  | nil => simp [first]
  | cons other rest ih =>
      have split : first owners (other :: rest) =
          (owners.eraseDups.map fun owner => ⟨owner, other, 0⟩) ++ first owners rest :=
        List.flatMap_cons
      rw [split, List.count_append, block, ih, List.count_cons]
      by_cases isOwner : owner ∈ owners <;> by_cases same : other = nonce <;>
        simp [isOwner, same, Nat.add_comm]

/-- Without the repeated ones, the first cursors are one for each pair. -/
theorem eraseDups_first : (first owners nonces).eraseDups = eachOnce owners nonces := by
  refine @eraseDups_flatMap_map ν Address (Cursor ν) _ _ _ (fun nonce owner => ⟨owner, nonce, 0⟩) ?_
    _ (nodup_eraseDups owners) nonces
  rintro _ _ _ _ ⟨⟩
  exact ⟨rfl, rfl⟩

theorem eraseDups_key_first :
    ((first owners nonces).map key).eraseDups = (eachOnce owners nonces).map key := by
  simp only [first, eachOnce, List.map_flatMap, List.map_map]
  refine @eraseDups_flatMap_map ν Address (Address × ν) _ _ _ (fun nonce owner => (owner, nonce)) ?_
    _ (nodup_eraseDups owners) nonces
  rintro _ _ _ _ ⟨⟩
  exact ⟨rfl, rfl⟩

/-- There is one first cursor for each pair exactly if no nonce is repeated. -/
theorem first_eq_eachOnce_iff :
    first owners nonces = eachOnce owners nonces ↔ owners = [] ∨ nonces.Nodup := by
  constructor
  · intro same
    by_cases none : owners = []
    · exact .inl none
    · obtain ⟨owner, isOwner⟩ := List.exists_mem_of_ne_nil owners none
      refine .inr (List.nodup_iff_count_le_one.2 fun nonce => ?_)
      have times : (first owners nonces).count ⟨owner, nonce, 0⟩ = nonces.count nonce :=
        (count_first owner nonce).trans (if_pos isOwner)
      have once : (eachOnce owners nonces).count ⟨owner, nonce, 0⟩ = nonces.eraseDups.count nonce :=
        (count_first owner nonce).trans (if_pos isOwner)
      rw [← times, same, once]
      exact List.nodup_iff_count_le_one.1 (nodup_eraseDups nonces) nonce
  · rintro (rfl | distinct)
    · have nothing (l : List ν) : (l.flatMap fun _ => ([] : List (Cursor ν))) = [] :=
        List.flatMap_eq_nil_iff.2 fun _ _ => rfl
      exact (nothing nonces).trans (nothing nonces.eraseDups).symm
    · rw [first, eachOnce, eraseDups_of_nodup distinct]

end Cursor

/-! ### Lists of which every page is read several times -/

section Pages

variable {α : Type}

/-- So many pages of a list, each so many times before the next one. -/
def repeatPages (times size : Nat) : Nat → List α → List α
  | 0, _ => []
  | pages + 1, list =>
    (List.replicate times (list.take size)).flatten ++ repeatPages times size pages (list.drop size)

theorem repeatPages_nil (times size pages : Nat) :
    repeatPages times size pages ([] : List α) = [] := by
  induction pages with
  | zero => rfl
  | succ pages ih => simp [repeatPages, ih]

theorem map_repeatPages {β : Type} (f : α → β) (times size pages : Nat) (list : List α) :
    (repeatPages times size pages list).map f = repeatPages times size pages (list.map f) := by
  induction pages generalizing list with
  | zero => rfl
  | succ pages ih => simp [repeatPages, ih]

theorem length_drop_page {size pages : Nat} {list : List α}
    (enough : list.length ≤ (pages + 1) * size) : (list.drop size).length ≤ pages * size := by
  rw [Nat.succ_mul] at enough
  rw [List.length_drop]
  omega

/-- Pages behind the end of the list do not matter. -/
theorem repeatPages_enough {times size : Nat} {pages others : Nat} {list : List α}
    (enough : list.length ≤ pages * size) (alsoEnough : list.length ≤ others * size) :
    repeatPages times size pages list = repeatPages times size others list := by
  induction pages generalizing others list with
  | zero =>
      obtain rfl : list = [] := List.length_eq_zero_iff.1 (by omega)
      rw [repeatPages_nil, repeatPages_nil]
  | succ pages ih =>
      cases others with
      | zero =>
          obtain rfl : list = [] := List.length_eq_zero_iff.1 (by omega)
          rw [repeatPages_nil, repeatPages_nil]
      | succ others =>
          rw [repeatPages, repeatPages,
            ih (length_drop_page enough) (length_drop_page alsoEnough)]

/-- The pages of a list, once each, are the list. -/
theorem repeatPages_one {size pages : Nat} {list : List α} (enough : list.length ≤ pages * size) :
    repeatPages 1 size pages list = list := by
  induction pages generalizing list with
  | zero => exact (List.length_eq_zero_iff.1 (by omega)).symm
  | succ pages ih =>
      rw [repeatPages, ih (length_drop_page enough)]
      simp

/-- Whatever is counted in a list is there so many times as often in its repeated pages. -/
theorem countP_repeatPages {times size pages : Nat} {list : List α}
    (enough : list.length ≤ pages * size) (p : α → Bool) :
    (repeatPages times size pages list).countP p = times * list.countP p := by
  induction pages generalizing list with
  | zero =>
      obtain rfl : list = [] := List.length_eq_zero_iff.1 (by omega)
      rfl
  | succ pages ih =>
      have page : (List.replicate times (list.take size)).flatten.countP p =
          times * (list.take size).countP p := by
        rw [List.countP_flatten, List.map_replicate, List.sum_replicate_nat]
      rw [repeatPages, List.countP_append, page, ih (length_drop_page enough), ← Nat.mul_add,
        ← List.countP_append, List.take_append_drop]

/-- Repeating the pages of a list changes nothing only if each is read once, or if there are none.
-/
theorem repeatPages_eq_iff {times size pages : Nat} {list : List α}
    (enough : list.length ≤ pages * size) :
    repeatPages times size pages list = list ↔ times = 1 ∨ list = [] := by
  constructor
  · intro same
    have length := @countP_repeatPages α times size pages list enough fun _ => true
    rw [same, List.countP_true] at length
    by_cases none : list = []
    · exact .inr none
    · have positive : 0 < list.length := List.length_pos_iff.2 none
      exact .inl (Nat.eq_of_mul_eq_mul_right positive (by rw [← length, Nat.one_mul]))
  · rintro (rfl | rfl)
    · exact repeatPages_one enough
    · exact repeatPages_nil _ _ _

end Pages

/-! ### Reading them -/

namespace Listing

variable (l : Listing)

/-- How many cursors there are in a list. -/
def copies (owner : Address) (nonce : Int) : Nat :=
  (Cursor.first l.owners l.nonces).count ⟨owner, nonce, 0⟩

/-- What a cursor finds on a whole page. -/
def page (c : Cursor Int) : List Signature :=
  (((l.lists c.owner c.nonce).drop c.offset.toNat).take l.size).map fun g => g.by c.owner

variable {l}

/-- In each round all cursors of a list find the same page of it. -/
theorem flatMap_page_cursorsAt (k : Nat) (owner : Address) (nonce : Int) :
    ((l.cursorsAt k).filter fun c => c.key == (owner, nonce)).flatMap l.page =
      (List.replicate (l.copies owner nonce)
        (((l.lists owner nonce).drop (k * l.size)).take l.size)).flatten.map
          fun g => g.by owner := by
  have ofKey : ((Cursor.first l.owners l.nonces).filter fun c => c.key == (owner, nonce)) =
      List.replicate (l.copies owner nonce) ⟨owner, nonce, 0⟩ := by
    rw [copies, ← List.filter_beq]
    apply List.filter_congr
    intro c isFirst
    obtain ⟨-, -, atStart⟩ := Cursor.mem_first.1 isFirst
    rcases c with ⟨_, _, _⟩
    simp only at atStart
    subst atStart
    simp [Cursor.key]
  have inOrder : ((l.cursorsAt k).filter fun c => c.key == (owner, nonce)) =
      ((((Cursor.first l.owners l.nonces).filter fun c => c.key == (owner, nonce)).filter fun c =>
        k = 0 ∨ k * l.size < (l.lists c.owner c.nonce).length).map fun c =>
          { c with offset := (k * l.size : Nat) }) := by
    rw [cursorsAt, List.filter_map, List.filter_comm]
    rfl
  rw [inOrder, ofKey]
  by_cases isOpen : k = 0 ∨ k * l.size < (l.lists owner nonce).length
  · rw [List.filter_replicate_of_pos (by simpa using isOpen), List.map_replicate,
      List.flatMap_replicate, List.map_flatten, List.map_replicate]
    rfl
  · have behind : (l.lists owner nonce).drop (k * l.size) = [] :=
      List.drop_eq_nil_of_le (by omega)
    rw [List.filter_replicate_of_neg (by simpa using isOpen), behind]
    simp

/-- There are no more open cursors than pairs of an owner and a nonce, repeated ones included. -/
theorem length_cursorsAt_le (l : Listing) (k : Nat) :
    (l.cursorsAt k).length ≤ l.owners.length * l.nonces.length := by
  refine Nat.le_trans ?_ (Cursor.length_first_le l.owners l.nonces)
  rw [cursorsAt, List.length_map]
  exact List.length_filter_le _ _

/-- After enough rounds all lists have been read. -/
theorem exists_cursorsAt_eq_nil (l : Listing) (positive : 0 < l.size) :
    ∃ rounds, l.cursorsAt rounds = [] ∧ ∀ owner ∈ l.owners, ∀ nonce ∈ l.nonces,
      (l.lists owner nonce).length ≤ rounds * l.size := by
  let lengths := (Cursor.first l.owners l.nonces).map fun c => (l.lists c.owner c.nonce).length
  have most : ∀ c ∈ Cursor.first l.owners l.nonces,
      (l.lists c.owner c.nonce).length ≤ (lengths.sum + 1) * l.size := by
    intro c isFirst
    have inSum : (l.lists c.owner c.nonce).length ≤ lengths.sum :=
      List.le_sum_of_mem (List.mem_map_of_mem isFirst)
    have grows : lengths.sum + 1 ≤ (lengths.sum + 1) * l.size := Nat.le_mul_of_pos_right _ positive
    omega
  refine ⟨lengths.sum + 1, ?_, fun owner isOwner nonce isAsked =>
    most ⟨owner, nonce, 0⟩ (Cursor.mem_first.2 ⟨isOwner, isAsked, rfl⟩)⟩
  rw [cursorsAt, List.map_eq_nil_iff, List.filter_eq_nil_iff]
  intro c isFirst
  have ends := most c isFirst
  simp only [Nat.add_one_ne_zero, false_or, decide_eq_true_eq]
  omega

end Listing

namespace Reader

/-- What a round yields for a list is what each cursor in it absorbs. -/
theorem signaturesOf_absorbed {ν : Type} [BEq ν] [LawfulBEq ν] {pending : List (Cursor ν)}
    {replies : List Reply} {page : Cursor ν → List Signature}
    (each : List.Forall₂ (fun c reply => (c.absorb reply).1 = page c) pending replies)
    (key : Address × ν) :
    signaturesOf (Cursor.absorbRound pending replies).1 key =
      (pending.filter fun c => c.key == key).flatMap page := by
  induction each with
  | nil => rfl
  | @cons c reply rest others here _ ih =>
      rw [Cursor.absorbRound_cons, signaturesOf_append, signaturesOf_page, ih, here]
      by_cases same : (c.key == key) = true <;> simp [same]

variable {σ : Type}

/-- Whether an executor tells whole pages of lists that stay as they are: from a steady state it
answers the batch of a round, which may ask for a page several times, and leaves a steady state. -/
structure TellsRounds (r : Reader) (executor : Executor σ) (l : Listing) (steady : σ → Prop) :
    Prop where
  round : ∀ {s : σ} {k : Nat}, steady s → l.cursorsAt k ≠ [] →
    ∃ calls replies t, (l.cursorsAt k).mapM r.callFor = .ok calls ∧
      (executor calls).runFrom s = (.ok replies, t) ∧ steady t ∧
      List.Forall₂ (fun c reply => c.IsWholePage l.size (l.lists c.owner c.nonce) reply)
        (l.cursorsAt k) replies

variable {r : Reader} {executor : Executor σ} {l : Listing} {steady : σ → Prop}

/-- From a round on, what is found in a list are the pages from there on, each as often as there are
cursors in the list. -/
theorem TellsRounds.runFrom_readPages (tells : r.TellsRounds executor l steady)
    (positive : 0 < l.size) {rounds k : Nat} {s : σ} (isSteady : steady s)
    (enough : l.cursorsAt (k + rounds) = []) :
    ∃ found t, (r.readPages executor (l.cursorsAt k)).runFrom s = (.ok found, t) ∧ steady t ∧
      ∀ owner nonce, signaturesOf found (owner, nonce) =
        (repeatPages (l.copies owner nonce) l.size rounds
          ((l.lists owner nonce).drop (k * l.size))).map fun g => g.by owner := by
  induction rounds generalizing k s with
  | zero =>
      rw [Nat.add_zero] at enough
      rw [enough, readPages, if_pos rfl]
      exact ⟨[], s, rfl, isSteady, fun _ _ => rfl⟩
  | succ rounds ih =>
      have enoughNext : l.cursorsAt (k + 1 + rounds) = [] := by rwa [Nat.add_right_comm]
      have split (owner : Address) (nonce : Int) :
          (repeatPages (l.copies owner nonce) l.size (rounds + 1)
            ((l.lists owner nonce).drop (k * l.size))).map (fun g => g.by owner) =
          ((l.cursorsAt k).filter fun c => c.key == (owner, nonce)).flatMap l.page ++
            (repeatPages (l.copies owner nonce) l.size rounds
              ((l.lists owner nonce).drop ((k + 1) * l.size))).map fun g => g.by owner := by
        rw [Listing.flatMap_page_cursorsAt, repeatPages, List.map_append, List.drop_drop,
          Nat.succ_mul]
      by_cases none : l.cursorsAt k = []
      · obtain ⟨found, t, run, steadyThen, each⟩ := ih isSteady enoughNext
        rw [Listing.cursorsAt_add_eq_nil none 1, ← none] at run
        refine ⟨found, t, run, steadyThen, fun owner nonce => ?_⟩
        rw [split, none, each]
        rfl
      · obtain ⟨calls, replies, t, asked, answered, steadyNext, pages⟩ := tells.round isSteady none
        have absorbed : List.Forall₂ (fun c reply => c.absorb reply = (l.page c, l.next c))
            (l.cursorsAt k) replies := by
          have within : ∀ c ∈ l.cursorsAt k, c.Within (l.lists c.owner c.nonce) :=
            fun c isOpen => Listing.within_cursorsAt isOpen
          apply ((List.forall₂_and_left _ _).2 ⟨within, pages⟩).imp
          rintro c reply ⟨within, whole⟩
          exact whole.absorb_eq positive within
        have stays : (Cursor.absorbRound (l.cursorsAt k) replies).2 = l.cursorsAt (k + 1) := by
          rw [← Listing.filterMap_cursorsAt]
          exact Cursor.open_absorbRound (absorbed.imp fun c reply same => congrArg Prod.snd same)
        obtain ⟨later, u, run, steadyThen, each⟩ := ih steadyNext enoughNext
        refine ⟨(Cursor.absorbRound (l.cursorsAt k) replies).1 ++ later, u, ?_, steadyThen, ?_⟩
        · rw [readPages, if_neg none]
          simp only [Query.runFrom_bind, Query.runFrom_mapM, asked, answered, stays, run,
            Query.runFrom_pure]
        · intro owner nonce
          rw [signaturesOf_append, split, each, signaturesOf_absorbed
            (absorbed.imp fun c reply same => congrArg Prod.fst same)]

/-- Each list is found with its pages repeated as often as its nonce. There are no more pages than
signatures. -/
theorem TellsRounds.runFrom_collectMany (tells : r.TellsRounds executor l steady)
    (positive : 0 < l.size) {ω : Type} [AddressLike ω] {ownersGiven : List ω}
    (ownersRead : (ownersGiven.mapM toAddress : Except InputError _) = .ok l.owners) {s : σ}
    (isSteady : steady s) :
    ∃ t, (r.collectMany executor ownersGiven l.nonces).runFrom s =
        (.ok ((Cursor.eachOnce l.owners l.nonces).map fun c =>
          (c.key, (repeatPages (l.nonces.count c.nonce) l.size (l.lists c.owner c.nonce).length
            (l.lists c.owner c.nonce)).map fun g => g.by c.owner)), t) ∧ steady t := by
  obtain ⟨rounds, ends, most⟩ := l.exists_cursorsAt_eq_nil positive
  have enough : l.cursorsAt (0 + rounds) = [] := by rwa [Nat.zero_add]
  obtain ⟨found, t, run, steadyThen, each⟩ := tells.runFrom_readPages positive isSteady enough
  refine ⟨t, ?_, steadyThen⟩
  rw [Listing.cursorsAt_zero] at run
  simp only [collectMany, collectFrom, Query.runFrom_bind, Query.runFrom_input, ownersRead,
    Except.mapError, run, Query.runFrom_pure, Cursor.eraseDups_key_first, List.map_map,
    Prod.mk.injEq, Except.ok.injEq, and_true]
  refine List.map_congr_left fun c isOne => ?_
  have isFirst : c ∈ Cursor.first l.owners l.nonces := by
    rwa [← Cursor.eraseDups_first, List.mem_eraseDups] at isOne
  obtain ⟨isOwner, isAsked, -⟩ := Cursor.mem_first.1 isFirst
  have copies : l.copies c.owner c.nonce = l.nonces.count c.nonce :=
    (Cursor.count_first c.owner c.nonce).trans (if_pos isOwner)
  have atStart : signaturesOf found c.key = _ := each c.owner c.nonce
  rw [Nat.zero_mul, List.drop_zero, copies, repeatPages_enough (most _ isOwner _ isAsked)
    (Nat.le_mul_of_pos_right _ positive)] at atStart
  exact congrArg (c.key, ·) atStart

end Reader

namespace Chain

variable {c : Chain} {safe : Address} {chainId pageSize : Int} {owners : List Address}
  {nonces : List Int}

/-- The lists of a ledger, asked for by pages of a size. -/
def listing (c : Chain) (safe : Address) (chainId pageSize : Int) (owners : List Address)
    (nonces : List Int) : Listing where
  lists owner nonce := c.ledger.signatures owner safe chainId nonce
  owners := owners
  nonces := nonces
  size := pageSize.toNat

/-- A batch for so many pages comes through, also if it asks for a page several times. -/
theorem TellsLists.runFrom_somePages (tells : c.TellsLists chainId pageSize owners nonces)
    {most : Nat} (room : c.ledger.Fits (most * (c.ledger.filings.length + 1)))
    {pending : List (Cursor Int)} (few : pending.length ≤ most)
    (asked : ∀ cursor ∈ pending, cursor.owner ∈ owners ∧ cursor.nonce ∈ nonces ∧
      cursor.Within (c.ledger.signatures cursor.owner safe chainId cursor.nonce)) :
    ∃ t, (Batch.execute node c.batchAddress
        (pending.map (c.pageCallAt safe chainId pageSize))).runFrom c =
      (.ok (pending.map (c.pageReplyAt safe chainId pageSize)), t) ∧
        t.unobserved = c.unobserved := by
  unfold Ledger.Fits at room
  have enough := Nat.mul_le_mul_right (c.ledger.filings.length + 1) few
  rw [Nat.mul_succ] at enough
  have each : ∀ cursor ∈ pending,
      160 + (c.pageReplyAt safe chainId pageSize cursor).data.length ≤
        256 + 96 * c.ledger.filings.length := by
    intro cursor _
    have short := c.ledger.length_signatures_le cursor.owner safe chainId cursor.nonce
    simp only [pageReplyAt, Store.length_pageReturn, List.length_take, List.length_drop]
    omega
  have all := List.sum_le_sum each
  rw [sum_map_const, Nat.add_mul, Nat.mul_assoc,
    Nat.mul_comm c.ledger.filings.length pending.length] at all
  exact tells.runFrom_shortPages asked (by omega) (by omega)

/-- A chain tells whole pages in each round, if there is room for the same page as often as lists
are asked for. -/
theorem TellsLists.tellsRounds (tells : c.TellsLists chainId pageSize owners nonces)
    (room : c.ledger.Fits (owners.length * nonces.length * (c.ledger.filings.length + 1)))
    (safe : Address) :
    Reader.TellsRounds ⟨c.storeAddress, safe, chainId, .int pageSize⟩
      (Batch.execute node c.batchAddress) (c.listing safe chainId pageSize owners nonces)
      fun d => d.unobserved = c.unobserved where
  round := by
    intro s k same _
    have here := tells.of_unobserved same
    obtain ⟨ledger, store, batch⟩ := eq_of_unobserved same
    rw [← ledger] at room
    have listed : ∀ cursor ∈ (c.listing safe chainId pageSize owners nonces).cursorsAt k,
        cursor.owner ∈ owners ∧ cursor.nonce ∈ nonces ∧
        cursor.Within (s.ledger.signatures cursor.owner safe chainId cursor.nonce) := by
      intro cursor isOpen
      obtain ⟨isOwner, isAsked, -⟩ := Listing.mem_openAt.1 (Listing.mem_cursorsAt.1 isOpen).1
      exact ⟨isOwner, isAsked, ledger ▸ Listing.within_cursorsAt isOpen⟩
    obtain ⟨t, answered, still⟩ :=
      here.runFrom_somePages room (Listing.length_cursorsAt_le _ k) listed
    rw [batch] at answered
    refine ⟨_, _, t, store ▸ here.mapM_callFor listed, answered, still.trans same, ?_⟩
    rw [List.forall₂_map_right_iff, List.forall₂_same]
    intro cursor _
    rw [listing, ← ledger]
    exact here.isWholePage cursor

/-- The list of an owner for a nonce, ascribed to the owner. -/
def stored (c : Chain) (safe : Address) (chainId : Int) (key : Address × Int) : List Signature :=
  (c.ledger.signatures key.1 safe chainId key.2).map fun g => g.by key.1

/-- The list with each of its pages as often as its nonce is given. There are no more pages than
signatures. -/
def found (c : Chain) (safe : Address) (chainId pageSize : Int) (nonces : List Int)
    (key : Address × Int) : List Signature :=
  repeatPages (nonces.count key.2) pageSize.toNat (c.stored safe chainId key).length
    (c.stored safe chainId key)

/-- Collecting from a chain that nothing disturbs finds each list once, but repeated. -/
theorem runFrom_collectMany {ω : Type} [AddressLike ω] {given : List ω}
    (undisturbed : c.Undisturbed)
    (ownersRead : (given.mapM toAddress : Except InputError _) = .ok owners)
    (room : c.ledger.Fits (owners.length * nonces.length * (c.ledger.filings.length + 1)))
    (chainId_mem : 0 ≤ chainId ∧ chainId < 2 ^ (256 : Nat))
    (pageSize_mem : 1 ≤ pageSize ∧ pageSize < 2 ^ (256 : Nat))
    (nonce_mem : ∀ nonce ∈ nonces, 0 ≤ nonce ∧ nonce < 2 ^ (256 : Nat)) :
    ∃ t, (Reader.collectMany ⟨c.storeAddress, safe, chainId, .int pageSize⟩
        (Batch.execute node c.batchAddress) given nonces).runFrom c =
      (.ok ((Cursor.eachOnce owners nonces).map fun cursor =>
        (cursor.key, c.found safe chainId pageSize nonces cursor.key)), t) := by
  have fits : c.ledger.Fits (owners.length * nonces.length) := by
    unfold Ledger.Fits at room ⊢
    have more : owners.length * nonces.length ≤
        owners.length * nonces.length * (c.ledger.filings.length + 1) :=
      Nat.le_mul_of_pos_right _ (Nat.succ_pos _)
    omega
  have tells : c.TellsLists chainId pageSize owners nonces :=
    ⟨undisturbed, fits, chainId_mem, pageSize_mem, nonce_mem⟩
  have positive : 0 < (c.listing safe chainId pageSize owners nonces).size := by
    have := pageSize_mem.1
    simp only [listing]
    omega
  obtain ⟨t, run, -⟩ :=
    (tells.tellsRounds room safe).runFrom_collectMany positive ownersRead rfl
  refine ⟨t, run.trans ?_⟩
  simp only [found, stored, map_repeatPages, List.length_map]
  rfl

/-- Nothing is collected for a nonce that does not fit into a word. -/
theorem runFrom_collectMany_unaskable {ω : Type} [AddressLike ω] {given : List ω}
    (ownersRead : (given.mapM toAddress : Except InputError _) = .ok owners)
    (someOwner : owners ≠ []) (positive : 0 < pageSize) {nonce : Int} (isAsked : nonce ∈ nonces)
    (outside : ¬(0 ≤ nonce ∧ nonce < 2 ^ (256 : Nat))) :
    (Reader.collectMany ⟨c.storeAddress, safe, chainId, .int pageSize⟩
        (Batch.execute node c.batchAddress) given nonces).runFrom c =
      (.error Reader.unaskable, c) := by
  obtain ⟨some, fails⟩ := @Reader.mapM_callFor_unaskable
    ⟨c.storeAddress, safe, chainId, .int pageSize⟩ pageSize owners nonces rfl positive someOwner
    nonce isAsked fun asks => outside asks.2
  simp only [Reader.collectMany, Reader.collectFrom, Query.runFrom_bind, Query.runFrom_input,
    ownersRead, Except.mapError]
  rw [Reader.readPages, if_neg some]
  simp only [Query.runFrom_bind, Query.runFrom_mapM, fails]

/-- What is collected. Each owner is asked for once for each time that a nonce is given; so there is
one cursor for each pair only if no nonce is repeated. Each list is found under one key, with every
page of it as often as its nonce is given, and so is each signature. A nonce that does not fit into
a word is refused. -/
theorem collectMany_repeats {given : List Value} (undisturbed : c.Undisturbed)
    (ownersRead : given.mapM Value.toAddress = .ok owners)
    (room : c.ledger.Fits (owners.length * nonces.length * (c.ledger.filings.length + 1)))
    (chainId_mem : 0 ≤ chainId ∧ chainId < 2 ^ (256 : Nat))
    (pageSize_mem : 1 ≤ pageSize ∧ pageSize < 2 ^ (256 : Nat)) :
    let collected := (Reader.collectMany ⟨c.storeAddress, safe, chainId, .int pageSize⟩
      (Batch.execute node c.batchAddress) given nonces).runFrom c
    Reader.cursorsOf (.list given) (.list (nonces.map .int)) =
      .ok ((Cursor.first owners nonces).map fun cursor =>
        { owner := cursor.owner, nonce := .int cursor.nonce, offset := cursor.offset }) ∧
    (Cursor.first owners nonces).eraseDups = Cursor.eachOnce owners nonces ∧
    (∀ owner nonce, (Cursor.first owners nonces).count ⟨owner, nonce, 0⟩ =
      if owner ∈ owners then nonces.count nonce else 0) ∧
    (Cursor.first owners nonces = Cursor.eachOnce owners nonces ↔ owners = [] ∨ nonces.Nodup) ∧
    ((∀ nonce ∈ nonces, 0 ≤ nonce ∧ nonce < 2 ^ (256 : Nat)) →
      ∃ t, collected = (.ok ((Cursor.eachOnce owners nonces).map fun cursor =>
        (cursor.key, c.found safe chainId pageSize nonces cursor.key)), t)) ∧
    (∀ key, (∀ g, (c.found safe chainId pageSize nonces key).count g =
        nonces.count key.2 * (c.stored safe chainId key).count g) ∧
      (c.found safe chainId pageSize nonces key = c.stored safe chainId key ↔
        nonces.count key.2 = 1 ∨ c.stored safe chainId key = [])) ∧
    (owners ≠ [] → (∃ nonce ∈ nonces, ¬(0 ≤ nonce ∧ nonce < 2 ^ (256 : Nat))) →
      collected = (.error Reader.unaskable, c)) := by
  intro collected
  refine ⟨?spelled, Cursor.eraseDups_first, Cursor.count_first, Cursor.first_eq_eachOnce_iff, ?runs,
    ?repeated, ?refused⟩
  case spelled =>
    have read : Reader.cursorsOf (.list given) (.list (nonces.map .int)) =
        (given.mapM Value.toAddress).map
          fun owners => Cursor.first owners (nonces.map Value.int) := by
      rw [Reader.cursorsOf]
      change (do return Cursor.first (← given.mapM Value.toAddress) (nonces.map Value.int)) = _
      cases given.mapM Value.toAddress <;> rfl
    rw [read, ownersRead]
    simp only [Except.map, Cursor.first, List.flatMap_map, List.map_flatMap, List.map_map]
    rfl
  case runs =>
    exact fun nonce_mem =>
      runFrom_collectMany undisturbed ownersRead room chainId_mem pageSize_mem nonce_mem
  case repeated =>
    intro key
    have enough : (c.stored safe chainId key).length ≤
        (c.stored safe chainId key).length * pageSize.toNat :=
      Nat.le_mul_of_pos_right _ (by omega)
    exact ⟨fun g => countP_repeatPages enough _, repeatPages_eq_iff enough⟩
  case refused =>
    rintro someOwner ⟨nonce, isAsked, outside⟩
    exact runFrom_collectMany_unaskable ownersRead someOwner (by omega) isAsked outside

/-- With a nonce given twice, one of two signatures that are read by pages of one is found twice
before the other. -/
theorem collectMany_repeats_sample :
    let first : Signature := StoredSignature.by ⟨.ofNat 32 2, .ofNat 32 8, .ofNat 32 7⟩ (.ofNat 2)
    let second : Signature := StoredSignature.by ⟨.ofNat 32 2, .ofNat 32 9, .ofNat 32 7⟩ (.ofNat 2)
    ∃ t, (Reader.collectMany ⟨sample.storeAddress, .ofNat 1, 1, .int 1⟩
        (Batch.execute node sample.batchAddress)
        [Value.text "0x0000000000000000000000000000000000000002",
          Value.text "0X0000000000000000000000000000000000000002"] [(0 : Int), 1, 0]).runFrom
        sample =
      (.ok [((.ofNat 2, 0), [first, first, second, second]), ((.ofNat 2, 1), [])], t) := by
  have ownersRead : [Value.text "0x0000000000000000000000000000000000000002",
      Value.text "0X0000000000000000000000000000000000000002"].mapM Value.toAddress =
        .ok [.ofNat 2, .ofNat 2] := rfl
  obtain ⟨-, -, -, -, runs, -⟩ := @collectMany_repeats sample (.ofNat 1) 1 1 _ [0, 1, 0] _
    undisturbed_sample ownersRead (by unfold Ledger.Fits; decide) (by decide) (by decide)
  exact runs (by decide)

/-- A repeated nonce has a second cursor for the same list, and the list is found twice over. -/
theorem collectMany_repeated_nonce :
    Cursor.first [.ofNat 2] [(0 : Int), 0] ≠ Cursor.eachOnce [.ofNat 2] [0, 0] ∧
    ∃ lists t, (Reader.collectMany ⟨sample.storeAddress, .ofNat 1, 1, .int 50⟩
        (Batch.execute node sample.batchAddress) [Address.ofNat 2] [(0 : Int), 0]).runFrom sample =
      (.ok lists, t) ∧
      lists ≠ (Cursor.eachOnce [.ofNat 2] [0, 0]).map fun cursor =>
        (cursor.key, sample.stored (.ofNat 1) 1 cursor.key) := by
  have run : ∃ t, (Reader.collectMany ⟨sample.storeAddress, .ofNat 1, 1, .int 50⟩
      (Batch.execute node sample.batchAddress) [Address.ofNat 2] [(0 : Int), 0]).runFrom
        sample = _ :=
    runFrom_collectMany undisturbed_sample rfl (by unfold Ledger.Fits; decide) (by decide)
      (by decide) (by decide)
  obtain ⟨t, run⟩ := run
  exact ⟨by decide, _, t, run, by decide⟩

end Chain

end MultisigQueue
