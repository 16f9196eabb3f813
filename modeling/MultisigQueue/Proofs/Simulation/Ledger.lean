/-
Module: MultisigQueue.Proofs.Simulation.Ledger
Purpose: What an honest store holds, how large its answers get, and how it grows.
Main exports:
  Ledger.holdings, Ledger.Tellable, Ledger.TellableFor, Ledger.Fits, Ledger.Arrival, Ledger.after,
  Ledger.extends_after, Ledger.sum_lists_le, Ledger.sum_data_le
-/
import Mathlib.Data.List.Nodup
import MultisigQueue.Proofs.Queue.Holdings
import MultisigQueue.Proofs.Store

namespace MultisigQueue

/-!
A ledger keeps all filings in one list, from which the list of a signer is cut out. So the lists of
distinct signers and nonces are together no longer than the list of filings, and likewise the
records of distinct hashes are together no larger than what is kept. This bounds the answers to a
batch.
-/

section Sums

variable {β κ : Type} [DecidableEq κ] (keyOf : β → κ) (weight : β → Nat)

/-- An item in front of a list counts under one of distinct keys at most. -/
theorem sum_filter_cons_le {keys : List κ} (distinct : keys.Nodup) (b : β) (rest : List β) :
    (keys.map fun key => (((b :: rest).filter fun b => keyOf b = key).map weight).sum).sum ≤
      (if keyOf b ∈ keys then weight b else 0) +
        (keys.map fun key => ((rest.filter fun b => keyOf b = key).map weight).sum).sum := by
  induction keys with
  | nil => simp
  | cons key others ih =>
      obtain ⟨isNew, distinct⟩ := List.nodup_cons.1 distinct
      have later := ih distinct
      by_cases same : keyOf b = key
      · have notLater : keyOf b ∉ others := same ▸ isNew
        simp only [notLater, if_false] at later
        simp [same]
        omega
      · simp only [List.map_cons, List.sum_cons, List.filter_cons, same, decide_false,
          Bool.false_eq_true, if_false, List.mem_cons, false_or] at later ⊢
        omega

/-- The items of a list under distinct keys are together no more than the list. -/
theorem sum_filter_le {keys : List κ} (distinct : keys.Nodup) (l : List β) :
    (keys.map fun key => ((l.filter fun b => keyOf b = key).map weight).sum).sum ≤
      (l.map weight).sum := by
  induction l with
  | nil => simp
  | cons b rest ih =>
      have whole := sum_filter_cons_le keyOf weight distinct b rest
      have once : (if keyOf b ∈ keys then weight b else 0) ≤ weight b := by
        split <;> omega
      simp only [List.map_cons, List.sum_cons]
      omega

end Sums

namespace Ledger

variable {l m : Ledger} {safe : Address} {chainId : Int}

/-- What a ledger holds about a Safe on a chain. -/
def holdings (l : Ledger) (safe : Address) (chainId : Int) : Holdings where
  list signer nonce := l.signatures signer safe chainId nonce
  content := l.transaction?

/-- Whether all transactions of a ledger can be told. -/
def Tellable (l : Ledger) : Prop := ∀ entry ∈ l.transactions, entry.2.Tellable

/-- Whether all transactions that a pass has to look up can be told. -/
def TellableFor (l : Ledger) (safe : Address) (chainId : Int) (owners : List Address)
    (nonces : List Int) : Prop :=
  ∀ nonce ∈ nonces, ∀ hash ∈ (l.holdings safe chainId).hashes owners nonce, ∀ t,
    l.transaction? hash = some t → t.Tellable

/-- The octets of the data of all transactions of a ledger. -/
def dataOctets (l : Ledger) : Nat := (l.transactions.map fun entry => entry.2.data.length).sum

/-- Whether all that is said in a pass over so many lists of a ledger is shorter than `2 ^ 256`
octets. This is as far as the distances in contract data reach, and more than a machine can hold. -/
def Fits (l : Ledger) (lists : Nat) : Prop :=
  1024 * (lists + l.filings.length + 1) + l.dataOctets < 2 ^ (256 : Nat)

theorem Tellable.transaction? (tellable : l.Tellable) {hash : Word} {t : Transaction}
    (kept : l.transaction? hash = some t) : t.Tellable := by
  obtain ⟨entry, found, rfl⟩ := Option.map_eq_some_iff.1 kept
  exact tellable entry (List.mem_of_find?_eq_some found)

theorem Tellable.tellableFor (tellable : l.Tellable) (safe : Address) (chainId : Int)
    (owners : List Address) (nonces : List Int) : l.TellableFor safe chainId owners nonces :=
  fun _ _ _ _ _ kept => tellable.transaction? kept

theorem length_signatures_le (l : Ledger) (signer safe : Address) (chainId nonce : Int) :
    (l.signatures signer safe chainId nonce).length ≤ l.filings.length := by
  rw [signatures, List.length_map]
  exact List.length_filter_le _ _

/-- The lists of distinct signers and nonces are together no longer than the filings. -/
theorem sum_lists_le (l : Ledger) (safe : Address) (chainId : Int) {keys : List (Address × Int)}
    (distinct : keys.Nodup) :
    (keys.map fun key => (l.signatures key.1 safe chainId key.2).length).sum ≤
      l.filings.length := by
  have cut : ∀ key : Address × Int, (l.signatures key.1 safe chainId key.2).length ≤
      ((l.filings.filter fun f => (f.signer, f.nonce) = key).map fun _ => 1).sum := by
    intro key
    rw [sum_map_const, Nat.one_mul, signatures, List.length_map]
    refine (List.monotone_filter_right _ ?_).length_le
    intro f isListed
    simp only [decide_eq_true_eq] at isListed ⊢
    exact Prod.ext isListed.1 isListed.2.2.2
  have whole :=
    sum_filter_le (fun f : Filing => (f.signer, f.nonce)) (fun _ => 1) distinct l.filings
  have each := List.sum_le_sum fun key (_ : key ∈ keys) => cut key
  rw [sum_map_const, Nat.one_mul] at whole
  exact Nat.le_trans each whole

/-- The data under distinct hashes is together no more than all data. -/
theorem sum_data_le (l : Ledger) {hashes : List Word} (distinct : hashes.Nodup) :
    (hashes.map fun hash => ((l.transaction? hash).elim 0 fun t => t.data.length)).sum ≤
      l.dataOctets := by
  have cut : ∀ hash : Word, ((l.transaction? hash).elim 0 fun t => t.data.length) ≤
      ((l.transactions.filter fun entry => entry.1 = hash).map
        fun entry => entry.2.data.length).sum := by
    intro hash
    rw [transaction?, ← List.head?_filter]
    cases l.transactions.filter fun entry => decide (entry.1 = hash) with
    | nil => simp
    | cons first rest => simp
  exact Nat.le_trans (List.sum_le_sum fun hash (_ : hash ∈ hashes) => cut hash)
    (sum_filter_le Prod.fst (fun entry => entry.2.data.length) distinct l.transactions)

/-- There are no more distinct hashes in the lists than filings. -/
theorem length_hashes_le {hashes : List Word} (distinct : hashes.Nodup)
    (filed : ∀ hash ∈ hashes, ∃ signer nonce, ∃ g ∈ l.signatures signer safe chainId nonce,
      g.txHash = hash) : hashes.length ≤ l.filings.length := by
  have within : hashes ⊆ l.filings.map fun f => f.signature.txHash := by
    intro hash member
    obtain ⟨signer, nonce, g, listed, rfl⟩ := filed hash member
    obtain ⟨f, isFiling, rfl⟩ := List.mem_map.1 listed
    exact List.mem_map.2 ⟨f, (List.mem_filter.1 isFiling).1, rfl⟩
  simpa using distinct.length_le_of_subset within

/-! ### Answers -/

/-- A request for a page of a list is answered by the signatures at its place. -/
theorem answer_pageCalldata (l : Ledger) (signer safe : Address)
    (chainId nonce start count : Uint256)
    (few : (l.signatures signer safe chainId.val nonce.val).length < 2 ^ (256 : Nat)) :
    l.answer (Store.pageCalldata signer safe chainId nonce start count) =
      .ok (some (Store.pageReturn
        (((l.signatures signer safe chainId.val nonce.val).drop start.val).take count.val)
        ⟨_, few⟩)) := by
  rw [answer, if_pos (Store.take_pageCalldata ..), pageRequest_pageCalldata]
  simp only [bind, Except.bind, answerPage, pageData_eq start.val count.val few]
  rfl

/-- A lookup is answered by the record of what is kept. -/
theorem answer_lookupCall (l : Ledger) (store : Address) (hash : Word) :
    l.answer (Store.lookupCall store hash).data =
      (recordData (l.transaction? hash)).map some := by
  rw [answer, Store.take_lookupCall, if_neg selector_ne, if_pos rfl, lookupRequest_lookupCall]
  simp only [bind, Except.bind, answerLookup]
  cases recordData (l.transaction? hash) <;> rfl

/-! ### Growth -/

/-- Something that comes in at a store. -/
inductive Arrival where
  /-- A signature is filed. -/
  | signature (f : Filing)
  /-- A transaction is to be kept under a hash. -/
  | transaction (hash : Word) (t : Transaction)
deriving DecidableEq, Repr

/-- The ledger after something came in. -/
def receive (l : Ledger) : Arrival → Ledger
  | .signature f => l.file f
  | .transaction hash t => l.keep hash t

/-- The ledger after several things came in, one after the other. -/
def after (l : Ledger) (arrivals : List Arrival) : Ledger := arrivals.foldl receive l

theorem after_append (l : Ledger) (first second : List Arrival) :
    l.after (first ++ second) = (l.after first).after second := List.foldl_append

/-- A ledger holds after an arrival what it held before. -/
theorem extends_receive (l : Ledger) (arrival : Arrival) (safe : Address) (chainId : Int) :
    (l.holdings safe chainId).Extends ((l.receive arrival).holdings safe chainId) := by
  cases arrival with
  | signature f =>
      refine ⟨?_, fun _ _ held => held⟩
      intro signer nonce
      refine List.IsPrefix.map _ (List.IsPrefix.filter _ ?_)
      exact List.prefix_append l.filings [f]
  | transaction hash t =>
      simp only [receive, keep]
      split
      · exact .refl _
      · refine ⟨fun _ _ => List.prefix_refl _, ?_⟩
        intro asked transaction held
        obtain ⟨entry, found, rfl⟩ := Option.map_eq_some_iff.1 held
        simp only [holdings, transaction?, List.find?_append, found]
        rfl

/-- A ledger holds after arrivals what it held before. -/
theorem extends_after (l : Ledger) (arrivals : List Arrival) (safe : Address) (chainId : Int) :
    (l.holdings safe chainId).Extends ((l.after arrivals).holdings safe chainId) := by
  induction arrivals generalizing l with
  | nil => exact .refl _
  | cons arrival rest ih => exact (l.extends_receive arrival safe chainId).trans (ih _)

/-- Whether a transaction that comes in can be told. -/
def Arrival.Tellable : Arrival → Prop
  | .signature _ => True
  | .transaction _ t => t.Tellable

/-- A ledger stays one that can be told. -/
theorem tellable_after (tellable : l.Tellable) {arrivals : List Arrival}
    (each : ∀ arrival ∈ arrivals, arrival.Tellable) : (l.after arrivals).Tellable := by
  induction arrivals generalizing l with
  | nil => exact tellable
  | cons arrival rest ih =>
      refine ih ?_ fun other member => each other (List.mem_cons_of_mem _ member)
      have first := each arrival List.mem_cons_self
      cases arrival with
      | signature f => exact tellable
      | transaction hash t =>
          simp only [receive, keep]
          split
          · exact tellable
          · intro entry member
            rcases List.mem_append.1 member with before | new
            · exact tellable entry before
            · rw [List.mem_singleton.1 new]
              exact first

/-- A ledger only gets larger. -/
theorem Fits.before {lists : Nat} {arrivals : List Arrival}
    (fits : (l.after arrivals).Fits lists) : l.Fits lists := by
  induction arrivals generalizing l with
  | nil => exact fits
  | cons arrival rest ih =>
      have next : (l.receive arrival).Fits lists := ih fits
      unfold Fits at next ⊢
      cases arrival with
      | signature f =>
          simp only [receive, file, dataOctets, List.length_append, List.length_singleton] at next ⊢
          omega
      | transaction hash t =>
          simp only [receive, keep] at next
          split at next
          · exact next
          · simp only [dataOctets, List.map_append, List.sum_append] at next ⊢
            omega

end Ledger

end MultisigQueue
