/-
Module: MultisigQueue.Proofs.Simulation.Submission
Purpose: What the queue of a store shows is what its owners have signed.
Main exports:
  Submission, Ledger.submit, Ledger.submitAll, Ledger.StemsFrom, Ledger.StemsFrom.submitAll,
  Ledger.StemsFrom.signed, Client.reconstructFrom_signed
-/
import MultisigQueue.Proofs.Queue.Arguments
import MultisigQueue.Proofs.Simulation.Chain
import MultisigQueue.Proofs.Transaction.Hash

namespace MultisigQueue

/-!
A signer submits a bound transaction: the signature is filed under the transaction's own Safe, chain
and nonce and says the transaction's hash, under which the transaction itself may be kept. A ledger
that is made of submissions alone keeps this shape with each of them. Since the hash binds the whole
transaction, what stands in a queue beside a hash is then what the signers of the hash submitted,
and not a transaction that some other signer meant by it.
-/

/-- A signer's signature for a bound transaction, which may come with the transaction. -/
structure Submission where
  signer : Address
  r : Word
  vs : Word
  transaction : BoundTransaction
  /-- Whether the transaction is to be kept. -/
  keeps : Bool := true
deriving DecidableEq, Repr

namespace Submission

/-- The signature as it is filed, once the hash is known. -/
def filing (x : Submission) (hash : Word) : Filing where
  signer := x.signer
  safe := x.transaction.safe
  chainId := x.transaction.chainId
  nonce := x.transaction.nonce
  signature := ⟨x.r, x.vs, hash⟩

/-- Whether the numbers of a submission fit: those that are told later into their types, and the
chain id and the nonce into words. -/
structure Fits (x : Submission) : Prop where
  tellable : x.transaction.toTransaction.Tellable
  chainId : 0 ≤ x.transaction.chainId ∧ x.transaction.chainId < 2 ^ (256 : Nat)
  nonce : x.transaction.nonce < 2 ^ (256 : Nat)

theorem Fits.exists_hash {x : Submission} (fits : x.Fits) :
    ∃ hash, x.transaction.hash = .ok hash := by
  have wide : ∀ {n : Nat}, n < 2 ^ (128 : Nat) → n < 2 ^ (256 : Nat) :=
    fun small => Nat.lt_trans small (by decide)
  exact BoundTransaction.exists_hash (wide fits.tellable.value) (wide fits.tellable.safeTxGas)
    (wide fits.tellable.baseGas) (wide fits.tellable.gasPrice) fits.chainId fits.nonce

end Submission

namespace Ledger

/-- The ledger after a submission. -/
def submit (l : Ledger) (x : Submission) : Except Fault Ledger := do
  let hash ← x.transaction.hash
  let kept ← (if x.keeps then l.keepBound x.transaction else .ok l : Except Fault Ledger)
  return kept.file (x.filing hash)

/-- The ledger that is made of some submissions. -/
def submitAll (submissions : List Submission) : Except Fault Ledger := submissions.foldlM submit {}

variable {l m : Ledger} {submissions : List Submission}

/-- A submission files its signature, and its transaction is kept or not. -/
theorem submit_cases {x : Submission} (submitted : l.submit x = .ok m) :
    ∃ hash, x.transaction.hash = .ok hash ∧ m.filings = l.filings ++ [x.filing hash] ∧
      (m.transactions = l.transactions ∨
        m.transactions = l.transactions ++ [(hash, x.transaction.toTransaction)]) := by
  obtain ⟨hash, isHash, submitted⟩ := bind_eq_ok_iff.1 submitted
  obtain ⟨kept, keeps, same⟩ := bind_eq_ok_iff.1 submitted
  cases same
  refine ⟨hash, isHash, ?_⟩
  split at keeps
  · simp only [keepBound, isHash, bind, Except.bind, pure, Except.pure, Except.ok.injEq] at keeps
    subst keeps
    unfold keep
    split
    · exact ⟨rfl, .inl rfl⟩
    · exact ⟨rfl, .inr rfl⟩
  · cases keeps
    exact ⟨rfl, .inl rfl⟩

theorem exists_submit {x : Submission} (l : Ledger) (fits : x.Fits) : ∃ m, l.submit x = .ok m := by
  obtain ⟨hash, isHash⟩ := fits.exists_hash
  unfold submit keepBound
  rw [isHash]
  cases x.keeps <;> exact ⟨_, rfl⟩

/-- Whether all that a ledger holds comes from some submissions. -/
structure StemsFrom (l : Ledger) (submissions : List Submission) : Prop where
  filing : ∀ f ∈ l.filings, ∃ x ∈ submissions, ∃ hash, x.transaction.hash = .ok hash ∧
    f = x.filing hash
  transaction : ∀ entry ∈ l.transactions, ∃ x ∈ submissions,
    x.transaction.hash = .ok entry.1 ∧ entry.2 = x.transaction.toTransaction
  length_filings : l.filings.length = submissions.length
  dataOctets_le : l.dataOctets ≤ (submissions.map fun x => x.transaction.data.length).sum

namespace StemsFrom

theorem nil : ({} : Ledger).StemsFrom [] := by
  constructor <;> simp [dataOctets]

/-- A ledger that stems from submissions stems from these and the next one after it. -/
theorem submit (stems : l.StemsFrom submissions) {x : Submission}
    (submitted : l.submit x = .ok m) : m.StemsFrom (submissions ++ [x]) := by
  obtain ⟨hash, isHash, filings, transactions⟩ := submit_cases submitted
  have before : ∀ y ∈ submissions, y ∈ submissions ++ [x] :=
    fun y member => List.mem_append_left [x] member
  constructor
  case filing =>
    intro f isFiled
    rw [filings, List.mem_append, List.mem_singleton] at isFiled
    rcases isFiled with earlier | rfl
    · obtain ⟨y, member, filed⟩ := stems.filing f earlier
      exact ⟨y, before y member, filed⟩
    · exact ⟨x, List.mem_concat_self, hash, isHash, rfl⟩
  case transaction =>
    intro entry isKept
    have cases : entry ∈ l.transactions ∨ entry = (hash, x.transaction.toTransaction) := by
      rcases transactions with same | more
      · rw [same] at isKept
        exact .inl isKept
      · rw [more, List.mem_append, List.mem_singleton] at isKept
        exact isKept
    rcases cases with earlier | rfl
    · obtain ⟨y, member, kept⟩ := stems.transaction entry earlier
      exact ⟨y, before y member, kept⟩
    · exact ⟨x, List.mem_concat_self, isHash, rfl⟩
  case length_filings =>
    rw [filings, List.length_append, List.length_append, stems.length_filings]
    rfl
  case dataOctets_le =>
    have most := stems.dataOctets_le
    unfold dataOctets at most ⊢
    rcases transactions with same | more
    · rw [same, List.map_append, List.sum_append]
      exact Nat.le_add_right_of_le most
    · simp only [more, List.map_append, List.sum_append, List.map_cons, List.map_nil]
      exact Nat.add_le_add_right most _

/-- A ledger stems from all submissions that it has taken in one after the other. -/
theorem submits (stems : l.StemsFrom submissions) {later : List Submission}
    (submitted : later.foldlM Ledger.submit l = .ok m) : m.StemsFrom (submissions ++ later) := by
  induction later generalizing l submissions with
  | nil =>
      cases submitted
      rw [List.append_nil]
      exact stems
  | cons x rest ih =>
      rw [List.foldlM_cons] at submitted
      obtain ⟨next, first, behind⟩ := bind_eq_ok_iff.1 submitted
      have whole := ih (stems.submit first) behind
      rw [List.append_assoc] at whole
      exact whole

end StemsFrom

theorem stemsFrom_submitAll (submitted : submitAll submissions = .ok l) :
    l.StemsFrom submissions := StemsFrom.nil.submits submitted

/-- Submissions whose numbers fit can all be taken in. -/
theorem exists_submitAll (fits : ∀ x ∈ submissions, x.Fits) :
    ∃ l, submitAll submissions = .ok l := by
  suffices each : ∀ l, ∃ m, submissions.foldlM submit l = .ok m from each {}
  induction submissions with
  | nil => exact fun l => ⟨l, rfl⟩
  | cons x rest ih =>
      intro l
      obtain ⟨next, first⟩ := exists_submit l (fits x List.mem_cons_self)
      obtain ⟨m, behind⟩ := ih (fun y member => fits y (List.mem_cons_of_mem x member)) next
      exact ⟨m, by rw [List.foldlM_cons, first]; exact behind⟩

namespace StemsFrom

variable (stems : l.StemsFrom submissions)
include stems

theorem tellable (fits : ∀ x ∈ submissions, x.Fits) : l.Tellable := by
  intro entry isKept
  obtain ⟨x, member, -, same⟩ := stems.transaction entry isKept
  rw [same]
  exact (fits x member).tellable

theorem fits {lists : Nat}
    (small : 1024 * (lists + submissions.length + 1) +
      (submissions.map fun x => x.transaction.data.length).sum < 2 ^ (256 : Nat)) :
    l.Fits lists := by
  have octets := stems.dataOctets_le
  unfold Fits
  rw [stems.length_filings]
  omega

end StemsFrom

end Ledger

/-- The transaction of a candidate, bound to a Safe on a chain and to the candidate's nonce. -/
def Candidate.bound (entry : Candidate) (safe : Address) (chainId : Int) : BoundTransaction :=
  { entry.transaction with safe, chainId, nonce := entry.nonce.toNat }

/-- A transaction with the content and the nonce of a candidate is the candidate's, bound to the
Safe and the chain of the transaction. -/
theorem Candidate.eq_bound {entry : Candidate} {t : BoundTransaction}
    (content : t.toTransaction = entry.transaction) (nonce : (t.nonce : Int) = entry.nonce) :
    t = entry.bound t.safe t.chainId := by
  change BoundTransaction.mk t.toTransaction t.safe t.chainId t.nonce =
    BoundTransaction.mk entry.transaction t.safe t.chainId entry.nonce.toNat
  rw [content, ← nonce, Int.toNat_natCast]

namespace Ledger

variable {l : Ledger} {submissions : List Submission}

/-- A signature in the list of a signer was submitted by this signer, for a transaction of the Safe
on the chain with the nonce. -/
theorem StemsFrom.exists_of_mem_signatures (stems : l.StemsFrom submissions) {signer safe : Address}
    {chainId nonce : Int} {g : StoredSignature}
    (listed : g ∈ l.signatures signer safe chainId nonce) :
    ∃ x ∈ submissions, x.signer = signer ∧ x.r = g.r ∧ x.vs = g.vs ∧
      x.transaction.hash = .ok g.txHash ∧ x.transaction.safe = safe ∧
        x.transaction.chainId = chainId ∧ x.transaction.nonce = nonce := by
  obtain ⟨f, isFiled, rfl⟩ := List.mem_map.1 listed
  obtain ⟨member, place⟩ := List.mem_filter.1 isFiled
  obtain ⟨x, isSubmitted, hash, isHash, rfl⟩ := stems.filing f member
  obtain ⟨rfl, rfl, rfl, rfl⟩ := of_decide_eq_true place
  exact ⟨x, isSubmitted, rfl, rfl, rfl, isHash, rfl, rfl, rfl⟩

/-- What a queue shows is what its signers have submitted, unless two different octet strings that
are digested for the hashes of the submitted transactions have the same digest. -/
theorem StemsFrom.signed (stems : l.StemsFrom submissions) {safe : Address} {chainId : Int}
    {owners : List Address} {nonces : List Int} {group : Contenders}
    (member : group ∈ (l.holdings safe chainId).queue owners nonces) {entry : Candidate}
    (shown : entry ∈ group.entries) :
    (∃ x ∈ submissions, ∃ y ∈ submissions, x.transaction.Collide y.transaction) ∨
      (entry.bound safe chainId).hash = .ok entry.hash ∧
        ∀ g ∈ entry.signatures, ∃ x ∈ submissions, x.signer = g.signer ∧ x.r = g.r ∧ x.vs = g.vs ∧
          x.transaction.nonce = entry.nonce ∧ x.transaction = entry.bound safe chainId := by
  rw [or_iff_not_imp_left]
  intro free
  obtain ⟨isSigned, ofNonce, held, supported⟩ := (Holdings.mem_group_iff member).1 shown
  -- The transaction that is kept came with some submission of the hash.
  obtain ⟨kept, found, ofEntry⟩ := Option.map_eq_some_iff.1 held
  obtain ⟨y, ySubmitted, yHash, same⟩ := stems.transaction kept (List.mem_of_find?_eq_some found)
  have isHash : kept.1 = entry.hash := by simpa using List.find?_some found
  rw [isHash] at yHash
  rw [ofEntry] at same
  -- Whoever filed the hash in a list submitted this transaction, bound to the list.
  have submitted : ∀ signer g, g ∈ l.signatures signer safe chainId group.nonce →
      g.txHash = entry.hash → ∃ x ∈ submissions, x.signer = signer ∧ x.r = g.r ∧ x.vs = g.vs ∧
        x.transaction.nonce = entry.nonce ∧ x.transaction = entry.bound safe chainId ∧
          x.transaction.hash = .ok entry.hash := by
    intro signer g listed ofHash
    obtain ⟨x, xSubmitted, bySigner, r, vs, xHash, xSafe, xChain, xNonce⟩ :=
      stems.exists_of_mem_signatures listed
    rw [ofHash] at xHash
    rcases BoundTransaction.eq_or_collide xHash yHash with one | collide
    · have nonce : (x.transaction.nonce : Int) = entry.nonce := by rw [xNonce, ofNonce]
      have bound := Candidate.eq_bound (by rw [same, one]) nonce
      rw [xSafe, xChain] at bound
      exact ⟨x, xSubmitted, bySigner, r, vs, nonce, bound, xHash⟩
    · exact absurd ⟨x, xSubmitted, y, ySubmitted, collide⟩ free
  constructor
  · obtain ⟨g, isFiled, ofHash⟩ := Holdings.mem_hashes.1 isSigned
    obtain ⟨owner, -, listed⟩ := Holdings.mem_filed.1 isFiled
    obtain ⟨x, -, -, -, -, -, bound, xHash⟩ := submitted owner g listed ofHash
    rw [← bound]
    exact xHash
  · intro g signs
    rw [supported, Holdings.mem_supporters] at signs
    obtain ⟨stored, isFirst, isBy⟩ := Option.map_eq_some_iff.1 signs.2
    have ofHash : stored.txHash = entry.hash := by simpa using List.find?_some isFirst
    obtain ⟨x, xSubmitted, bySigner, r, vs, nonce, bound, -⟩ :=
      submitted _ stored (List.mem_of_find?_eq_some isFirst) ofHash
    exact ⟨x, xSubmitted, bySigner, r.trans (congrArg Signature.r isBy),
      vs.trans (congrArg Signature.vs isBy), nonce, bound⟩

end Ledger

/-- A pass over a store that has taken in some submissions comes to the queue of its ledger, if the
numbers asked for fit into words. -/
theorem Client.runFrom_reconstructFrom_submitted {chain : Chain} (undisturbed : chain.Undisturbed)
    {submissions : List Submission} (fits : ∀ x ∈ submissions, x.Fits) {ledger : Ledger}
    (submitted : Ledger.submitAll submissions = .ok ledger) {storeGiven safeGiven : Value}
    {safe : Address} (storeRead : storeGiven.toAddress = .ok chain.storeAddress)
    (safeRead : safeGiven.toAddress = .ok safe) {ownersGiven : List Value} {owners : List Address}
    {chainId pageSize start window : Int}
    (small : 1024 * (ownersGiven.length * window.toNat + submissions.length + 1) +
      (submissions.map fun x => x.transaction.data.length).sum < 2 ^ (256 : Nat))
    (ownersRead : ownersGiven.mapM Value.toAddress = .ok owners)
    (chainId_mem : 0 ≤ chainId ∧ chainId < 2 ^ (256 : Nat))
    (pageSize_mem : 1 ≤ pageSize ∧ pageSize < 2 ^ (256 : Nat)) (fromStart : 0 ≤ start)
    (forward : 0 ≤ window) (inside : start + window ≤ 2 ^ (256 : Nat)) :
    ∃ t, (reconstructFrom (Batch.execute Chain.node chain.batchAddress) storeGiven safeGiven
        (.int chainId) (.int pageSize) (.list ownersGiven) (.int start)
        (.int window)).runFrom { chain with ledger } =
      (.ok ((ledger.holdings safe chainId).queue owners
        (NonceWindow.nonces ⟨start, window.toNat⟩)), t) := by
  have stems := Ledger.stemsFrom_submitAll submitted
  have asMany : ownersGiven.length = owners.length := (mapM_eq_ok_iff.1 ownersRead).length_eq
  rw [asMany] at small
  have tells : Chain.Tells { chain with ledger } chainId pageSize owners
      (NonceWindow.nonces ⟨start, window.toNat⟩) :=
    { undisturbed := ⟨undisturbed.isDown, undisturbed.raw, undisturbed.slots,
        undisturbed.revertingSigners, undisturbed.revertingHashes⟩
      tellable := stems.tellable fits
      fits := by simpa [NonceWindow.nonces] using stems.fits small
      chainId_mem
      pageSize_mem
      nonce_mem := fun nonce => NonceWindow.mem_words fromStart inside }
  rw [runFrom_reconstructFrom storeRead safeRead ownersRead pageSize_mem.1 fromStart forward]
  exact Chain.runFrom_reconstruct tells fromStart forward

/-- A pass over a store that has taken in some submissions gives a queue, in which every candidate
is the transaction of its hash, and every signer of it has submitted this very transaction; unless
two different octet strings that are digested for the hashes of the submitted transactions have the
same digest. This holds as far as what is said in a pass can be written as contract data. -/
theorem Client.reconstructFrom_signed {chain : Chain} (undisturbed : chain.Undisturbed)
    {submissions : List Submission} (fits : ∀ x ∈ submissions, x.Fits)
    {storeGiven safeGiven : Value} {safe : Address}
    (storeRead : storeGiven.toAddress = .ok chain.storeAddress)
    (safeRead : safeGiven.toAddress = .ok safe) {ownersGiven : List Value}
    (chainId pageSize start : Int) {window : Int}
    (small : 1024 * (ownersGiven.length * window.toNat + submissions.length + 1) +
      (submissions.map fun x => x.transaction.data.length).sum < 2 ^ (256 : Nat)) :
    ∃ ledger, Ledger.submitAll submissions = .ok ledger ∧
      (∀ owners, ownersGiven.mapM Value.toAddress = .ok owners →
        0 ≤ chainId ∧ chainId < 2 ^ (256 : Nat) → 1 ≤ pageSize ∧ pageSize < 2 ^ (256 : Nat) →
          0 ≤ start → 0 ≤ window → start + window ≤ 2 ^ (256 : Nat) →
            ∃ groups t, (reconstructFrom (Batch.execute Chain.node chain.batchAddress) storeGiven
                safeGiven (.int chainId) (.int pageSize) (.list ownersGiven) (.int start)
                (.int window)).runFrom { chain with ledger } = (.ok groups, t)) ∧
      ∀ groups t, (reconstructFrom (Batch.execute Chain.node chain.batchAddress) storeGiven
            safeGiven (.int chainId) (.int pageSize) (.list ownersGiven) (.int start)
            (.int window)).runFrom { chain with ledger } = (.ok groups, t) →
        ∀ group ∈ groups, ∀ entry ∈ group.entries,
          (∃ x ∈ submissions, ∃ y ∈ submissions, x.transaction.Collide y.transaction) ∨
            (entry.bound safe chainId).hash = .ok entry.hash ∧
              ∀ g ∈ entry.signatures, ∃ x ∈ submissions, x.signer = g.signer ∧ x.r = g.r ∧
                x.vs = g.vs ∧ x.transaction.nonce = entry.nonce ∧
                  x.transaction = entry.bound safe chainId := by
  obtain ⟨ledger, submitted⟩ := Ledger.exists_submitAll fits
  refine ⟨ledger, submitted, ?_, ?_⟩
  · intro owners ownersRead chainId_mem pageSize_mem fromStart forward inside
    exact ⟨_, runFrom_reconstructFrom_submitted undisturbed fits submitted storeRead safeRead small
      ownersRead chainId_mem pageSize_mem fromStart forward inside⟩
  · intro groups t run group member entry shown
    obtain ⟨owners, ownersRead, chainId_mem, pageSize_mem, fromStart, forward, inside⟩ :=
      askable_of_reconstructFrom storeRead safeRead run (List.ne_nil_of_mem member)
    obtain ⟨_, pass⟩ := runFrom_reconstructFrom_submitted undisturbed fits submitted storeRead
      safeRead small ownersRead chainId_mem pageSize_mem fromStart forward inside
    obtain rfl := Except.ok.inj (congrArg Prod.fst (pass.symm.trans run))
    exact (Ledger.stemsFrom_submitAll submitted).signed member shown

namespace Submission

/-- A transaction of the second nonce. -/
def sampleTransaction : BoundTransaction where
  target := .ofNat 5
  value := 6
  data := [1, 2]
  gasPrice := 7
  gasToken := .ofNat 8
  safe := .ofNat 1
  chainId := 1
  nonce := 1

/-- Two signers of this transaction, which comes with the second of them. -/
def sample : List Submission :=
  [⟨.ofNat 3, .ofNat 32 3, .ofNat 32 8, sampleTransaction, false⟩,
    ⟨.ofNat 2, .ofNat 32 2, .ofNat 32 8, sampleTransaction, true⟩]

theorem fits_sample : ∀ x ∈ sample, x.Fits := by
  intro x member
  have ofSample : x.transaction = sampleTransaction := by
    simp only [sample, List.mem_cons, List.not_mem_nil, or_false] at member
    rcases member with rfl | rfl <;> rfl
  constructor
  · rw [ofSample]
    constructor <;> decide
  · rw [ofSample]
    decide
  · rw [ofSample]
    decide

/-- The second signer's list is not empty, and the transaction is kept. -/
theorem exists_group_sample {ledger : Ledger} (submitted : Ledger.submitAll sample = .ok ledger) :
    ∃ group ∈ (ledger.holdings (.ofNat 1) 1).queue [.ofNat 2, .ofNat 3, .ofNat 2]
      (NonceWindow.nonces ⟨0, 2⟩), group.nonce = 1 := by
  obtain ⟨hash, isHash⟩ := (fits_sample _ List.mem_cons_self).exists_hash
  have whole : Ledger.submitAll sample = .ok
      { filings := [⟨.ofNat 3, .ofNat 1, 1, 1, ⟨.ofNat 32 3, .ofNat 32 8, hash⟩⟩,
          ⟨.ofNat 2, .ofNat 1, 1, 1, ⟨.ofNat 32 2, .ofNat 32 8, hash⟩⟩]
        transactions := [(hash, sampleTransaction.toTransaction)] } := by
    simp only [sample, Ledger.submitAll, List.foldlM_cons, List.foldlM_nil, Ledger.submit,
      Ledger.keepBound, isHash]
    rfl
  obtain rfl := Except.ok.inj (whole.symm.trans submitted)
  refine Holdings.exists_group_iff.2 ⟨NonceWindow.mem_nonces.2 (by decide), .ofNat 2, by simp,
    ⟨.ofNat 32 2, .ofNat 32 8, hash⟩, List.mem_singleton_self _, ?_⟩
  simp [Ledger.holdings, Ledger.transaction?]

end Submission

/-- Both signers are shown with the transaction, unless there is a collision. -/
theorem Client.reconstructFrom_signed_sample :
    ∃ ledger groups t, Ledger.submitAll Submission.sample = .ok ledger ∧
      (samplePass 50 (Batch.execute Chain.node Batch.defaultAddress)).runFrom
        { ledger := ledger : Chain } = (.ok groups, t) ∧
      (∃ group ∈ groups, group.nonce = 1) ∧
      ∀ group ∈ groups, ∀ entry ∈ group.entries,
        (∃ x ∈ Submission.sample, ∃ y ∈ Submission.sample,
          x.transaction.Collide y.transaction) ∨
        (entry.bound (.ofNat 1) 1).hash = .ok entry.hash ∧
          ∀ g ∈ entry.signatures, ∃ x ∈ Submission.sample, x.signer = g.signer ∧ x.r = g.r ∧
            x.vs = g.vs ∧ x.transaction.nonce = entry.nonce ∧
              x.transaction = entry.bound (.ofNat 1) 1 := by
  have undisturbed : Chain.Undisturbed {} := by constructor <;> rfl
  have storeRead : (Value.text "0x5e669c1f2f9629b22dd05fbff63313a49f87d4e6").toAddress =
    .ok Store.defaultAddress := rfl
  have safeRead : (Value.text "0x0000000000000000000000000000000000000001").toAddress =
    .ok (.ofNat 1) := rfl
  let owners : List Value := [.text "0x0000000000000000000000000000000000000002",
    .text "0000000000000000000000000000000000000003",
    .text "0X0000000000000000000000000000000000000002"]
  have ownersRead : owners.mapM Value.toAddress = .ok [.ofNat 2, .ofNat 3, .ofNat 2] := rfl
  have small : 1024 * (owners.length * (2 : Int).toNat + Submission.sample.length + 1) +
      (Submission.sample.map fun x => x.transaction.data.length).sum < 2 ^ (256 : Nat) := by
    decide
  have chainId_mem : (0 : Int) ≤ 1 ∧ (1 : Int) < 2 ^ (256 : Nat) := by decide
  have pageSize_mem : (1 : Int) ≤ 50 ∧ (50 : Int) < 2 ^ (256 : Nat) := by decide
  have fromStart : (0 : Int) ≤ 0 := by decide
  obtain ⟨ledger, submitted, -, signed⟩ := reconstructFrom_signed undisturbed
    Submission.fits_sample storeRead safeRead 1 50 0 small
  obtain ⟨t, run⟩ := runFrom_reconstructFrom_submitted undisturbed Submission.fits_sample submitted
    storeRead safeRead small ownersRead chainId_mem pageSize_mem fromStart (by decide) (by decide)
  exact ⟨ledger, _, t, submitted, run, Submission.exists_group_sample submitted, signed _ t run⟩

end MultisigQueue
