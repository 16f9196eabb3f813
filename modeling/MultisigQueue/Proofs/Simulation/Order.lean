/-
Module: MultisigQueue.Proofs.Simulation.Order
Purpose: What the order in which signatures come in shows in a queue, and what it does not.
Main exports:
  Deposit, Deposit.Coherent, Deposit.firstFor, Deposit.Unvaried, Ledger.depositAll,
  Ledger.shows_queue_depositAll, Ledger.queue_bare_perm, Client.passAfter, Client.passAfter_perm
-/
import MultisigQueue.Proofs.Queue.Extensionality
import MultisigQueue.Proofs.Simulation.Outcome
import MultisigQueue.Proofs.Simulation.Submission

namespace MultisigQueue

/-!
A signer may sign one hash several times, in other words each time. The store appends all of these
to one list, and a queue shows the one that came first. So the order in which signatures come in is
seen in the words of signatures, if anywhere: which candidates there are, and who supports them, is
the same in every order.
-/

/-- What is found first does not matter where all that could be found look alike. -/
theorem find?_map_of_perm {β γ : Type} {p : β → Bool} {f : β → γ} {l m : List β}
    (permuted : l.Perm m) (alike : ∀ a ∈ l, ∀ b ∈ l, p a → p b → f a = f b) :
    (l.find? p).map f = (m.find? p).map f := by
  cases found : l.find? p with
  | none =>
      have notThere : m.find? p = none := by
        rw [List.find?_eq_none] at found ⊢
        exact fun b member => found b (permuted.mem_iff.2 member)
      rw [notThere]
  | some a =>
      have isThere := List.mem_of_find?_eq_some found
      have isSome : (m.find? p).isSome :=
        List.find?_isSome.2 ⟨a, permuted.mem_iff.1 isThere, List.find?_some found⟩
      obtain ⟨b, alsoFound⟩ := Option.isSome_iff_exists.1 isSome
      have alsoThere := permuted.mem_iff.2 (List.mem_of_find?_eq_some alsoFound)
      rw [alsoFound]
      exact congrArg some
        (alike a isThere b alsoThere (List.find?_some found) (List.find?_some alsoFound))

/-- A signature that is filed together with the transaction that it is for. -/
structure Deposit where
  filing : Filing
  transaction : Transaction
deriving DecidableEq, Repr

/-- A filing that only tells who signs what. -/
def Filing.bare (f : Filing) : Filing := { f with signature := f.signature.bare }

namespace Deposit

/-- The hash that is signed. -/
def hash (d : Deposit) : Word := d.filing.signature.txHash

/-- Whether deposits for one hash have the same transaction. -/
def Coherent (deposits : List Deposit) : Prop :=
  ∀ d ∈ deposits, ∀ e ∈ deposits, d.hash = e.hash → d.transaction = e.transaction

instance (deposits : List Deposit) : Decidable (Coherent deposits) :=
  inferInstanceAs (Decidable
    (∀ d ∈ deposits, ∀ e ∈ deposits, d.hash = e.hash → d.transaction = e.transaction))

/-- The octets of the data of all transactions of some deposits. -/
def dataOctets (deposits : List Deposit) : Nat :=
  (deposits.map fun d => d.transaction.data.length).sum

theorem dataOctets_perm {deposits others : List Deposit} (permuted : deposits.Perm others) :
    dataOctets deposits = dataOctets others := (permuted.map _).sum_eq

/-- Whether all that is said in a pass over so many lists of some deposits is shorter than `2 ^ 256`
octets, as far as the distances in contract data reach. -/
def Fit (deposits : List Deposit) (lists : Nat) : Prop :=
  1024 * (lists + deposits.length + 1) + dataOctets deposits < 2 ^ (256 : Nat)

instance (deposits : List Deposit) (lists : Nat) : Decidable (Fit deposits lists) :=
  inferInstanceAs (Decidable (_ < _))

theorem Fit.perm {deposits others : List Deposit} {lists : Nat} (permuted : deposits.Perm others)
    (fit : Fit deposits lists) : Fit others lists := by
  unfold Fit at fit ⊢
  rwa [← permuted.length_eq, ← dataOctets_perm permuted]

/-- The signature that a signer has deposited first for a hash of a Safe, a chain and a nonce. -/
def firstFor (deposits : List Deposit) (signer safe : Address) (chainId nonce : Int) (hash : Word) :
    Option Signature :=
  (deposits.find? fun d => (d.filing.signer = signer ∧ d.filing.safe = safe ∧
    d.filing.chainId = chainId ∧ d.filing.nonce = nonce) ∧ d.hash = hash).map
      fun d => d.filing.signature.by signer

/-- Whether nobody has signed a hash for a Safe, a chain and a nonce in different words. -/
def Unvaried (deposits : List Deposit) : Prop :=
  ∀ d ∈ deposits, ∀ e ∈ deposits, d.filing.bare = e.filing.bare → d.filing = e.filing

instance (deposits : List Deposit) : Decidable (Unvaried deposits) :=
  inferInstanceAs (Decidable
    (∀ d ∈ deposits, ∀ e ∈ deposits, d.filing.bare = e.filing.bare → d.filing = e.filing))

/-- Where nobody has signed in different words, any signature that comes first looks alike. -/
theorem firstFor_perm {deposits others : List Deposit} (permuted : deposits.Perm others)
    (unvaried : Unvaried deposits) (signer safe : Address) (chainId nonce : Int) (hash : Word) :
    firstFor deposits signer safe chainId nonce hash =
      firstFor others signer safe chainId nonce hash := by
  refine find?_map_of_perm permuted ?_
  intro d isDeposit e alsoDeposit isFor alsoFor
  simp only [decide_eq_true_eq] at isFor alsoFor
  have same : d.filing.bare = e.filing.bare := by
    obtain ⟨⟨ofSigner, ofSafe, ofChain, ofNonce⟩, ofHash⟩ := isFor
    obtain ⟨⟨alsoSigner, alsoSafe, alsoChain, alsoNonce⟩, alsoHash⟩ := alsoFor
    have hashes : d.filing.signature.txHash = e.filing.signature.txHash :=
      ofHash.trans alsoHash.symm
    simp only [Filing.bare, StoredSignature.bare, ofSigner, ofSafe, ofChain, ofNonce, alsoSigner,
      alsoSafe, alsoChain, alsoNonce, hashes]
  rw [unvaried d isDeposit e alsoDeposit same]

end Deposit

/-- What comes in with a submission whose transaction has a hash. -/
def Submission.deposit (x : Submission) (hash : Word) : Deposit where
  filing := x.filing hash
  transaction := x.transaction.toTransaction

namespace Ledger

/-- The ledger after a deposit. -/
def deposit (l : Ledger) (d : Deposit) : Ledger := (l.keep d.hash d.transaction).file d.filing

/-- The ledger that is made of some deposits. -/
def depositAll (deposits : List Deposit) : Ledger := deposits.foldl deposit {}

variable {l : Ledger} {deposits others : List Deposit}

/-! ### One deposit -/

theorem filings_deposit (l : Ledger) (d : Deposit) :
    (l.deposit d).filings = l.filings ++ [d.filing] := by
  unfold deposit keep
  split
  · rfl
  · rfl

/-- What is kept already stays, and a new hash gets its transaction. -/
theorem transaction?_deposit (l : Ledger) (d : Deposit) (hash : Word) :
    (l.deposit d).transaction? hash =
      (l.transaction? hash).or (if d.hash = hash then some d.transaction else none) := by
  unfold deposit keep
  split
  · rename_i kept
    change l.transaction? hash = _
    split
    · rename_i same
      rw [same] at kept
      rw [Option.or_of_isSome kept]
    · rw [Option.or_none]
  · change ((l.transactions ++ [(d.hash, d.transaction)]).find? _).map _ = _
    rw [List.find?_append, transaction?]
    cases l.transactions.find? fun entry => decide (entry.1 = hash) with
    | some entry => rfl
    | none => by_cases same : d.hash = hash <;> simp [same]

theorem dataOctets_deposit_le (l : Ledger) (d : Deposit) :
    (l.deposit d).dataOctets ≤ l.dataOctets + d.transaction.data.length := by
  unfold deposit keep
  split
  · exact Nat.le_add_right _ _
  · simp [file, dataOctets]

/-! ### All deposits -/

theorem filings_foldl_deposit (l : Ledger) (deposits : List Deposit) :
    (deposits.foldl deposit l).filings = l.filings ++ deposits.map Deposit.filing := by
  induction deposits generalizing l with
  | nil => simp
  | cons d rest ih => rw [List.foldl_cons, ih, filings_deposit]; simp

/-- The filings of a ledger are those of its deposits, in order. -/
theorem filings_depositAll (deposits : List Deposit) :
    (depositAll deposits).filings = deposits.map Deposit.filing := filings_foldl_deposit {} deposits

theorem transaction?_foldl_deposit (l : Ledger) (deposits : List Deposit) (hash : Word) :
    (deposits.foldl deposit l).transaction? hash = (l.transaction? hash).or
      ((deposits.find? fun d => d.hash = hash).map Deposit.transaction) := by
  induction deposits generalizing l with
  | nil => simp
  | cons d rest ih =>
      rw [List.foldl_cons, ih, transaction?_deposit, Option.or_assoc, List.find?_cons]
      by_cases same : d.hash = hash <;> simp [same]

/-- The transaction under a hash is the one that came with the first deposit for it. -/
theorem transaction?_depositAll (deposits : List Deposit) (hash : Word) :
    (depositAll deposits).transaction? hash =
      (deposits.find? fun d => d.hash = hash).map Deposit.transaction :=
  transaction?_foldl_deposit {} deposits hash

theorem dataOctets_foldl_deposit_le (l : Ledger) (deposits : List Deposit) :
    (deposits.foldl deposit l).dataOctets ≤ l.dataOctets + Deposit.dataOctets deposits := by
  induction deposits generalizing l with
  | nil => exact Nat.le_refl _
  | cons d rest ih =>
      have first := dataOctets_deposit_le l d
      have later := ih (l.deposit d)
      simp only [List.foldl_cons, Deposit.dataOctets, List.map_cons, List.sum_cons] at later ⊢
      omega

theorem fits_depositAll {lists : Nat} (fit : Deposit.Fit deposits lists) :
    (depositAll deposits).Fits lists := by
  have octets := dataOctets_foldl_deposit_le {} deposits
  have none : Ledger.dataOctets {} = 0 := rfl
  unfold Deposit.Fit at fit
  unfold Fits
  rw [filings_depositAll, List.length_map]
  simp only [depositAll]
  omega

theorem tellableFor_depositAll (tellable : ∀ d ∈ deposits, d.transaction.Tellable) (safe : Address)
    (chainId : Int) (owners : List Address) (nonces : List Int) :
    (depositAll deposits).TellableFor safe chainId owners nonces := by
  intro nonce _ hash _ t kept
  rw [transaction?_depositAll] at kept
  obtain ⟨d, found, rfl⟩ := Option.map_eq_some_iff.1 kept
  exact tellable d (List.mem_of_find?_eq_some found)

/-- The first signature in a list for a hash is the one that was deposited first. -/
theorem support?_depositAll (deposits : List Deposit) (safe : Address) (chainId nonce : Int)
    (hash : Word) (owner : Address) :
    ((depositAll deposits).holdings safe chainId).support? nonce hash owner =
      Deposit.firstFor deposits owner safe chainId nonce hash := by
  simp only [Holdings.support?, holdings, signatures, filings_depositAll, List.filter_map,
    List.find?_map, List.find?_filter, Option.map_map, Deposit.firstFor]
  refine congrArg _ (congrArg (List.find? · deposits) (funext fun d => ?_))
  rw [Bool.eq_iff_iff]
  simp only [decide_eq_true_eq, Function.comp_apply]
  exact Iff.rfl

/-! ### Submissions as deposits -/

/-- A submission that comes with its transaction is a deposit. -/
theorem submit_eq_deposit {x : Submission} {hash : Word} (isHash : x.transaction.hash = .ok hash)
    (keeps : x.keeps = true) : l.submit x = .ok (l.deposit (x.deposit hash)) := by
  simp only [submit, keepBound, isHash, keeps, if_true, bind, Except.bind, pure, Except.pure]
  rfl

/-- Submissions that all come with their transactions make the ledger of their deposits. -/
theorem exists_deposits_of_submitAll {submissions : List Submission}
    (keeps : ∀ x ∈ submissions, x.keeps = true) (submitted : submitAll submissions = .ok l) :
    ∃ deposits, List.Forall₂ (fun x d => ∃ hash, x.transaction.hash = .ok hash ∧
      d = x.deposit hash) submissions deposits ∧ l = depositAll deposits := by
  rw [submitAll] at submitted
  unfold depositAll
  generalize ({} : Ledger) = before at submitted ⊢
  induction submissions generalizing before with
  | nil =>
      cases submitted
      exact ⟨[], .nil, rfl⟩
  | cons x rest ih =>
      rw [List.foldlM_cons] at submitted
      obtain ⟨next, first, later⟩ := bind_eq_ok_iff.1 submitted
      obtain ⟨hash, isHash, -⟩ := submit_cases first
      rw [submit_eq_deposit isHash (keeps x List.mem_cons_self)] at first
      obtain rfl := Except.ok.inj first
      obtain ⟨deposits, each, rfl⟩ := ih (fun y member => keeps y (List.mem_cons_of_mem _ member))
        _ later
      exact ⟨x.deposit hash :: deposits, .cons ⟨hash, isHash, rfl⟩ each, rfl⟩

/-! ### Another order -/

/-- A list has the same signatures in every order, though not at the same places. -/
theorem mem_signatures_perm (permuted : deposits.Perm others) {signer safe : Address}
    {chainId nonce : Int} {g : StoredSignature} :
    g ∈ (depositAll deposits).signatures signer safe chainId nonce ↔
      g ∈ (depositAll others).signatures signer safe chainId nonce := by
  simp only [signatures, filings_depositAll, List.mem_map, List.mem_filter, permuted.mem_iff]

theorem transaction?_perm (permuted : deposits.Perm others) (coherent : Deposit.Coherent deposits)
    (hash : Word) : (depositAll deposits).transaction? hash =
      (depositAll others).transaction? hash := by
  rw [transaction?_depositAll, transaction?_depositAll]
  refine find?_map_of_perm permuted ?_
  intro d isDeposit e alsoDeposit ofHash alsoOfHash
  simp only [decide_eq_true_eq] at ofHash alsoOfHash
  exact coherent d isDeposit e alsoDeposit (ofHash.trans alsoOfHash.symm)

theorem hashes_perm (permuted : deposits.Perm others) {safe : Address} {chainId nonce : Int}
    {owners : List Address} {hash : Word} :
    hash ∈ ((depositAll deposits).holdings safe chainId).hashes owners nonce ↔
      hash ∈ ((depositAll others).holdings safe chainId).hashes owners nonce := by
  simp only [Holdings.mem_hashes, Holdings.mem_filed, holdings, mem_signatures_perm permuted]

theorem tellableFor_perm (permuted : deposits.Perm others) (coherent : Deposit.Coherent deposits)
    (safe : Address) (chainId : Int) (owners : List Address) (nonces : List Int) :
    (depositAll deposits).TellableFor safe chainId owners nonces ↔
      (depositAll others).TellableFor safe chainId owners nonces := by
  simp only [TellableFor, hashes_perm permuted, transaction?_perm permuted coherent]

/-- But for the words of signatures, the queue is the same in every order. -/
theorem queue_bare_perm (permuted : deposits.Perm others) (coherent : Deposit.Coherent deposits)
    (safe : Address) (chainId : Int) (owners : List Address) (nonces : List Int) :
    (((depositAll deposits).holdings safe chainId).queue owners nonces).map Contenders.bare =
      (((depositAll others).holdings safe chainId).queue owners nonces).map Contenders.bare := by
  refine Holdings.queue_bare_congr ?_ (transaction?_perm permuted coherent)
  intro owner _ nonce _ hash
  simp only [holdings, mem_signatures_perm permuted]

/-- If the first signatures are the same ones, the queue is the same. -/
theorem queue_perm (permuted : deposits.Perm others) (coherent : Deposit.Coherent deposits)
    {safe : Address} {chainId : Int} {owners : List Address} {nonces : List Int}
    (firsts : ∀ owner ∈ owners, ∀ nonce ∈ nonces, ∀ hash,
      Deposit.firstFor deposits owner safe chainId nonce hash =
        Deposit.firstFor others owner safe chainId nonce hash) :
    ((depositAll deposits).holdings safe chainId).queue owners nonces =
      ((depositAll others).holdings safe chainId).queue owners nonces := by
  refine Holdings.queue_ext ?_ fun _ _ hash _ => transaction?_perm permuted coherent hash
  intro nonce isAsked hash g
  simp only [Holdings.mem_supporters, support?_depositAll]
  exact and_congr_right fun isOwner => by rw [firsts _ isOwner nonce isAsked hash]

/-- Every deposit comes with its transaction, so a queue shows all first signatures. -/
theorem shows_queue_depositAll (deposits : List Deposit) {safe : Address} {chainId nonce : Int}
    {owners : List Address} {nonces : List Int} {hash : Word} {g : Signature} :
    Contenders.Shows (((depositAll deposits).holdings safe chainId).queue owners nonces) nonce hash
        g ↔
      nonce ∈ nonces ∧ g.signer ∈ owners ∧
        Deposit.firstFor deposits g.signer safe chainId nonce hash = some g := by
  rw [Holdings.shows_queue_iff, Holdings.mem_supporters, support?_depositAll]
  intro hash signed
  obtain ⟨stored, isFiled, ofHash⟩ := Holdings.mem_hashes.1 signed
  obtain ⟨owner, -, listed⟩ := Holdings.mem_filed.1 isFiled
  simp only [holdings, signatures, filings_depositAll, List.mem_map, List.mem_filter] at listed
  obtain ⟨-, ⟨⟨d, isDeposit, rfl⟩, -⟩, rfl⟩ := listed
  simp only [holdings, transaction?_depositAll, Option.isSome_map, List.find?_isSome]
  exact ⟨d, isDeposit, decide_eq_true ofHash⟩

end Ledger

namespace Client

/-- What a pass comes to on a chain at whose store some deposits have come in. -/
def passAfter (chain : Chain) (storeGiven safeGiven : Value) (chainId pageSize : Int)
    (ownersGiven : List Value) (start window : Int) (deposits : List Deposit) :
    Except Fault (List Contenders) :=
  ((reconstructFrom (Batch.execute Chain.node chain.batchAddress) storeGiven safeGiven
    (.int chainId) (.int pageSize) (.list ownersGiven) (.int start) (.int window)).runFrom
      { chain with ledger := .depositAll deposits }).1

variable {chain : Chain} {storeGiven safeGiven : Value} {safe : Address}
  {ownersGiven : List Value} {owners : List Address} {chainId pageSize start window : Int}
  {deposits others : List Deposit} {groups : List Contenders}

theorem passAfter_of_asks (undisturbed : chain.Undisturbed)
    (asks : Asks storeGiven safeGiven chainId pageSize start window chain.storeAddress safe)
    (ownersRead : ownersGiven.mapM Value.toAddress = .ok owners)
    (fit : Deposit.Fit deposits (ownersGiven.length * window.toNat)) :
    ((Ledger.depositAll deposits).TellableFor safe chainId owners
        (NonceWindow.nonces ⟨start, window.toNat⟩) →
      passAfter chain storeGiven safeGiven chainId pageSize ownersGiven start window deposits =
        .ok (((Ledger.depositAll deposits).holdings safe chainId).queue owners
          (NonceWindow.nonces ⟨start, window.toNat⟩))) ∧
    (¬(Ledger.depositAll deposits).TellableFor safe chainId owners
        (NonceWindow.nonces ⟨start, window.toNat⟩) →
      passAfter chain storeGiven safeGiven chainId pageSize ownersGiven start window deposits =
        .error Ledger.untold) := by
  let after : Chain := { chain with ledger := .depositAll deposits }
  have still : after.Undisturbed := ⟨undisturbed.isDown, undisturbed.raw, undisturbed.slots,
    undisturbed.revertingSigners, undisturbed.revertingHashes⟩
  have fits : after.ledger.Fits (owners.length * window.toNat) :=
    Ledger.fits_depositAll ((mapM_eq_ok_iff.1 ownersRead).length_eq ▸ fit)
  obtain ⟨told, untold⟩ := reconstructFrom_undisturbed still fits asks ownersRead
  constructor
  · intro tellable
    obtain ⟨t, run⟩ := told tellable
    exact congrArg Prod.fst run
  · intro notTellable
    obtain ⟨t, run⟩ := untold notTellable
    exact congrArg Prod.fst run

/-- The signatures that a pass shows are the first ones of the owners. -/
theorem shows_passAfter (undisturbed : chain.Undisturbed)
    (asks : Asks storeGiven safeGiven chainId pageSize start window chain.storeAddress safe)
    (ownersRead : ownersGiven.mapM Value.toAddress = .ok owners)
    (fit : Deposit.Fit deposits (ownersGiven.length * window.toNat))
    (made : passAfter chain storeGiven safeGiven chainId pageSize ownersGiven start window
      deposits = .ok groups) {nonce : Int} {hash : Word} {g : Signature} :
    Contenders.Shows groups nonce hash g ↔ (start ≤ nonce ∧ nonce < start + window) ∧
      g.signer ∈ owners ∧ Deposit.firstFor deposits g.signer safe chainId nonce hash = some g := by
  obtain ⟨told, untold⟩ := passAfter_of_asks undisturbed asks ownersRead fit
  by_cases tellable : (Ledger.depositAll deposits).TellableFor safe chainId owners
      (NonceWindow.nonces ⟨start, window.toNat⟩)
  · obtain rfl := Except.ok.inj ((told tellable).symm.trans made)
    rw [Ledger.shows_queue_depositAll, NonceWindow.mem_nonces]
    simp only [Int.toNat_of_nonneg asks.forward]
  · cases (untold tellable).symm.trans made

/-- Two orders of deposits come to the same, or to queues. -/
theorem passAfter_perm_cases (undisturbed : chain.Undisturbed)
    (storeRead : storeGiven.toAddress = .ok chain.storeAddress) (permuted : deposits.Perm others)
    (coherent : Deposit.Coherent deposits)
    (fit : Deposit.Fit deposits (ownersGiven.length * window.toNat)) :
    passAfter chain storeGiven safeGiven chainId pageSize ownersGiven start window deposits =
        passAfter chain storeGiven safeGiven chainId pageSize ownersGiven start window others ∨
      ∃ safe owners, safeGiven.toAddress = .ok safe ∧
        ownersGiven.mapM Value.toAddress = .ok owners ∧
        passAfter chain storeGiven safeGiven chainId pageSize ownersGiven start window deposits =
          .ok (((Ledger.depositAll deposits).holdings safe chainId).queue owners
            (NonceWindow.nonces ⟨start, window.toNat⟩)) ∧
        passAfter chain storeGiven safeGiven chainId pageSize ownersGiven start window others =
          .ok (((Ledger.depositAll others).holdings safe chainId).queue owners
            (NonceWindow.nonces ⟨start, window.toNat⟩)) := by
  rcases decided_or_asks storeGiven safeGiven chainId pageSize ownersGiven start window with
    ⟨result, decided⟩ | ⟨store, safe, owners, asks, ownersRead⟩
  · exact .inl (by rw [passAfter, passAfter, decided, decided])
  · obtain rfl := Except.ok.inj (storeRead.symm.trans asks.storeRead)
    obtain ⟨told, untold⟩ := passAfter_of_asks undisturbed asks ownersRead fit
    obtain ⟨alsoTold, alsoUntold⟩ :=
      passAfter_of_asks undisturbed asks ownersRead (fit.perm permuted)
    have both := Ledger.tellableFor_perm permuted coherent safe chainId owners
      (NonceWindow.nonces ⟨start, window.toNat⟩)
    by_cases tellable : (Ledger.depositAll deposits).TellableFor safe chainId owners
        (NonceWindow.nonces ⟨start, window.toNat⟩)
    · exact .inr ⟨safe, owners, asks.safeRead, ownersRead, told tellable,
        alsoTold (both.1 tellable)⟩
    · exact .inl ((untold tellable).trans (alsoUntold (mt both.2 tellable)).symm)

/-- The order in which signatures and their transactions have come in shows in nothing but in the
words of signatures, if each hash always comes with the same transaction. What a pass shows of an
owner are the first signatures, one for each hash and nonce; so two orders come to the very same if
they agree in these, and if all can be asked for and told, what they come to are queues.

A pass has to fit into batches, of which a machine cannot hold the largest. -/
theorem passAfter_perm (undisturbed : chain.Undisturbed)
    (storeRead : storeGiven.toAddress = .ok chain.storeAddress) (permuted : deposits.Perm others)
    (coherent : Deposit.Coherent deposits)
    (fit : Deposit.Fit deposits (ownersGiven.length * window.toNat)) :
    (passAfter chain storeGiven safeGiven chainId pageSize ownersGiven start window deposits).map
        (List.map Contenders.bare) =
      (passAfter chain storeGiven safeGiven chainId pageSize ownersGiven start window others).map
        (List.map Contenders.bare) ∧
    ((∀ safe owners, safeGiven.toAddress = .ok safe →
        ownersGiven.mapM Value.toAddress = .ok owners →
        ∀ owner ∈ owners, ∀ nonce, start ≤ nonce → nonce < start + window → ∀ hash,
          Deposit.firstFor deposits owner safe chainId nonce hash =
            Deposit.firstFor others owner safe chainId nonce hash) →
      passAfter chain storeGiven safeGiven chainId pageSize ownersGiven start window deposits =
        passAfter chain storeGiven safeGiven chainId pageSize ownersGiven start window others) ∧
    ∀ safe owners,
      Asks storeGiven safeGiven chainId pageSize start window chain.storeAddress safe →
      ownersGiven.mapM Value.toAddress = .ok owners →
      ((∀ d ∈ deposits, d.transaction.Tellable) →
        ∃ groups, passAfter chain storeGiven safeGiven chainId pageSize ownersGiven start window
          deposits = .ok groups) ∧
      ∀ groups, passAfter chain storeGiven safeGiven chainId pageSize ownersGiven start window
          deposits = .ok groups → ∀ nonce hash g,
        Contenders.Shows groups nonce hash g ↔ (start ≤ nonce ∧ nonce < start + window) ∧
          g.signer ∈ owners ∧
            Deposit.firstFor deposits g.signer safe chainId nonce hash = some g := by
  refine ⟨?_, ?_, ?_⟩
  · rcases passAfter_perm_cases undisturbed storeRead permuted coherent fit with
      same | ⟨safe, owners, -, -, made, alsoMade⟩
    · exact congrArg _ same
    · rw [made, alsoMade]
      exact congrArg Except.ok (Ledger.queue_bare_perm permuted coherent safe chainId owners _)
  · intro firsts
    rcases passAfter_perm_cases undisturbed storeRead permuted coherent fit with
      same | ⟨safe, owners, safeRead, ownersRead, made, alsoMade⟩
    · exact same
    · rw [made, alsoMade]
      refine congrArg Except.ok (Ledger.queue_perm permuted coherent ?_)
      intro owner isOwner nonce isAsked
      rw [NonceWindow.mem_nonces] at isAsked
      simp only at isAsked
      exact firsts safe owners safeRead ownersRead owner isOwner nonce isAsked.1 (by omega)
  · intro safe owners asks ownersRead
    exact ⟨fun tellable => ⟨_, (passAfter_of_asks undisturbed asks ownersRead fit).1
        (Ledger.tellableFor_depositAll tellable safe chainId owners _)⟩,
      fun groups made nonce hash g => shows_passAfter undisturbed asks ownersRead fit made⟩

end Client

/-! ### Two words for one hash -/

namespace Deposit

/-- A signature in some words for a hash of the first nonce of a Safe. -/
def sample (signer r vs hash : Nat) : Deposit where
  filing := ⟨.ofNat signer, .ofNat 1, 1, 0, ⟨.ofNat 32 r, .ofNat 32 vs, .ofNat 32 hash⟩⟩
  transaction := { target := .ofNat 5, value := 6 }

theorem tellable_sample (signer r vs hash : Nat) :
    (sample signer r vs hash).transaction.Tellable := by
  change Transaction.Tellable { target := .ofNat 5, value := 6 }
  constructor <;> decide

/-- A signer signs a hash in two ways. -/
def twice : List Deposit := [sample 2 3 8 7, sample 2 5 9 7]

/-- The same the other way round. -/
def twiceTurned : List Deposit := [sample 2 5 9 7, sample 2 3 8 7]

theorem twiceTurned_perm : twice.Perm twiceTurned := List.Perm.swap _ _ _

end Deposit

namespace Client

/-- Two owners. -/
def sampleOwners : List Value :=
  [.text "0x0000000000000000000000000000000000000002",
    .text "0x0000000000000000000000000000000000000003"]

/-- A pass over their first nonce. -/
def samplePassAfter (deposits : List Deposit) : Except Fault (List Contenders) :=
  passAfter {} (.bytes Store.defaultAddress.bytes)
    (.text "0x0000000000000000000000000000000000000001") 1 50 sampleOwners 0 1 deposits

theorem undisturbed_samplePassAfter : ({} : Chain).Undisturbed := by constructor <;> rfl

theorem asks_samplePassAfter :
    Asks (.bytes Store.defaultAddress.bytes) (.text "0x0000000000000000000000000000000000000001")
      1 50 0 1 ({} : Chain).storeAddress (.ofNat 1) :=
  ⟨rfl, rfl, by decide, by decide, by decide, by decide, by decide⟩

theorem mapM_sampleOwners : sampleOwners.mapM Value.toAddress = .ok [.ofNat 2, .ofNat 3] := rfl

theorem exists_samplePassAfter {deposits : List Deposit}
    (tellable : ∀ d ∈ deposits, d.transaction.Tellable) (fit : Deposit.Fit deposits (2 * 1)) :
    ∃ groups, samplePassAfter deposits = .ok groups ∧ ∀ nonce hash g,
      Contenders.Shows groups nonce hash g ↔ (0 ≤ nonce ∧ nonce < 0 + 1) ∧
        g.signer ∈ [.ofNat 2, .ofNat 3] ∧
          Deposit.firstFor deposits g.signer (.ofNat 1) 1 nonce hash = some g := by
  have made := (passAfter_of_asks undisturbed_samplePassAfter asks_samplePassAfter
    mapM_sampleOwners fit).1 (Ledger.tellableFor_depositAll tellable (.ofNat 1) 1 _ _)
  exact ⟨_, made, fun nonce hash g =>
    shows_passAfter undisturbed_samplePassAfter asks_samplePassAfter mapM_sampleOwners fit made⟩

/-- Of two signatures of a signer for one hash, the order decides which one is shown. -/
theorem passAfter_twice :
    Deposit.twice.Perm Deposit.twiceTurned ∧ Deposit.Coherent Deposit.twice ∧
      ∃ groups others, samplePassAfter Deposit.twice = .ok groups ∧
        samplePassAfter Deposit.twiceTurned = .ok others ∧ groups ≠ others := by
  have tellable : ∀ d ∈ Deposit.twice, d.transaction.Tellable := by
    simp [Deposit.twice, Deposit.tellable_sample]
  obtain ⟨groups, made, shows⟩ := exists_samplePassAfter tellable (by decide)
  obtain ⟨others, madeTurned, showsTurned⟩ := exists_samplePassAfter
    (fun d member => tellable d (Deposit.twiceTurned_perm.mem_iff.2 member)) (by decide)
  refine ⟨Deposit.twiceTurned_perm, by decide, groups, others, made, madeTurned, ?_⟩
  rintro rfl
  let first : Signature := ⟨.ofNat 32 3, .ofNat 32 8, .ofNat 32 7, .ofNat 2⟩
  have isShown : Contenders.Shows groups 0 (.ofNat 32 7) first :=
    (shows _ _ _).2 ⟨by decide, List.mem_cons_self, by decide⟩
  have notFirst : Deposit.firstFor Deposit.twiceTurned (.ofNat 2) (.ofNat 1) 1 0 (.ofNat 32 7) ≠
      some first := by decide
  exact notFirst ((showsTurned _ _ _).1 isShown).2.2

/-- Two signers of one hash, one of whom signs another one as well, in two orders. -/
theorem passAfter_perm_sample :
    ∃ groups, samplePassAfter [.sample 2 3 8 7, .sample 3 4 9 4, .sample 3 5 9 7] = .ok groups ∧
      samplePassAfter [.sample 3 5 9 7, .sample 2 3 8 7, .sample 3 4 9 4] = .ok groups ∧
      Contenders.Shows groups 0 (.ofNat 32 7)
        ⟨.ofNat 32 3, .ofNat 32 8, .ofNat 32 7, .ofNat 2⟩ := by
  let deposits : List Deposit := [.sample 2 3 8 7, .sample 3 4 9 4, .sample 3 5 9 7]
  have permuted : deposits.Perm [.sample 3 5 9 7, .sample 2 3 8 7, .sample 3 4 9 4] := by decide
  have unvaried : Deposit.Unvaried deposits := by decide
  obtain ⟨-, equal, queues⟩ := @passAfter_perm {} (.bytes Store.defaultAddress.bytes)
    (.text "0x0000000000000000000000000000000000000001") sampleOwners 1 50 0 1 deposits _
    undisturbed_samplePassAfter rfl permuted (by decide) (by decide)
  obtain ⟨made, shows⟩ := queues _ _ asks_samplePassAfter mapM_sampleOwners
  obtain ⟨groups, made⟩ := made (by simp [deposits, Deposit.tellable_sample])
  have same := equal fun safe _ _ _ owner _ nonce _ _ hash =>
    Deposit.firstFor_perm permuted unvaried owner safe 1 nonce hash
  exact ⟨groups, made, same.symm.trans made,
    (shows groups made _ _ _).2 ⟨by decide, List.mem_cons_self, by decide⟩⟩

end Client

end MultisigQueue
