/-
Module: MultisigQueue.Proofs.Simulation.Fetch
Purpose: The queue of a Safe on one chain from a store that may stand on another.
Main exports:
  Chain.node_alike, World.safeChain, World.withSafeChain, Client.fetch_two_chains
-/
import MultisigQueue.Proofs.Queue.Alike
import MultisigQueue.Proofs.Simulation.Safe

namespace MultisigQueue

open Query

namespace Chain

/-- Whether two chains differ at most in what they have observed. -/
def Same (c d : Chain) : Prop := c.unobserved = d.unobserved

theorem Same.exists_eq {c d : Chain} (same : c.Same d) :
    ∃ trips batches pages,
      d = { c with roundTrips := trips, batches := batches, pages := pages } := by
  refine ⟨d.roundTrips, d.batches, d.pages, ?_⟩
  cases c
  cases d
  simp only [Same, unobserved, mk.injEq] at same ⊢
  simp only [same, and_self]

theorem storeSlot_alike (data : Bytes) : Alike Same (storeSlot data) (storeSlot data) := by
  refine alike_get_bind fun c d same => ?_
  rcases same.exists_eq with ⟨trips, batches, pages, rfl⟩
  by_cases forPage : data.take 4 = Store.signaturesFunction.selector
  · simp only [if_pos forPage]
    refine (alike_abi _).bind fun request => ?_
    by_cases reverts : request.signer ∈ c.revertingSigners
    · simp only [if_pos reverts]
      exact alike_pure none
    · simp only [if_neg reverts]
      exact (alike_set (R := Same) rfl).bind fun _ => alike_abi _
  · simp only [if_neg forPage]
    by_cases forLookup : data.take 4 = Store.transactionFunction.selector
    · simp only [if_pos forLookup]
      refine (alike_abi _).bind fun hash => ?_
      by_cases reverts : hash ∈ c.revertingHashes
      · simp only [if_pos reverts]
        exact alike_pure none
      · simp only [if_neg reverts]
        exact alike_abi _
    · simp only [if_neg forLookup]
      exact alike_abi _

/-- A call is answered without regard to what has been observed. -/
theorem slot_alike (target : Address) (data : Bytes) :
    Alike Same (slot target data) (slot target data) := by
  refine alike_get_bind fun c d same => ?_
  rcases same.exists_eq with ⟨trips, batches, pages, rfl⟩
  simp only
  cases c.slots.find? fun entry => entry.1.isPrefixOf (Hex.digits data) with
  | some entry => exact alike_pure entry.2
  | none =>
      by_cases store : target = c.storeAddress
      · simp only [if_pos store]
        exact storeSlot_alike data
      · simp only [if_neg store]
        cases c.safes.find? fun entry => entry.1 = target with
        | some entry => exact alike_of_still (runFrom_except _) (runFrom_except _)
        | none => exact alike_pure (some [])

theorem serveCalls_alike (calls : List Call) :
    Alike Same (Batch.serveCalls slot calls) (Batch.serveCalls slot calls) := by
  induction calls with
  | nil => exact alike_pure []
  | cons c rest ih =>
      refine (slot_alike c.target c.data).bind fun result => ?_
      have goesOn (reply : Reply) : Alike Same
          (Batch.serveCalls slot rest >>= fun others => pure (reply :: others))
          (Batch.serveCalls slot rest >>= fun others => pure (reply :: others)) :=
        ih.bind fun others => alike_pure _
      cases result with
      | some data => exact (alike_pure _).bind goesOn
      | none =>
          cases c.allowFailure with
          | true => exact (alike_pure _).bind goesOn
          | false => exact (alike_throw _).bind goesOn

theorem observe_alike (data : Bytes) : Alike Same (observe data) (observe data) := by
  refine (alike_modify fun c d same => ?_).bind fun _ => (alike_abi _).bind fun calls =>
    alike_modify fun c d same => ?_
  · exact same
  · exact same

/-- A chain answers without regard to what it has observed. -/
theorem node_alike : Endpoint.Alike Same node node := by
  intro target data
  refine alike_get_bind fun c d same => ?_
  rcases same.exists_eq with ⟨trips, batches, pages, rfl⟩
  dsimp only
  refine Alike.bind (alike_set ?kept) fun _ => ?_
  case kept => exact rfl
  cases c.raw.head?.join with
  | some reply => exact (observe_alike data).bind fun _ => alike_pure reply
  | none =>
      have served : Alike Same (observe data >>= fun _ => Batch.serve slot data)
          (observe data >>= fun _ => Batch.serve slot data) :=
        (observe_alike data).bind fun _ => (alike_abi _).bind fun calls =>
          (serveCalls_alike calls).bind fun replies => alike_pure _
      exact (served.unless (target ≠ c.batchAddress) _).unless (c.isDown = true) _

end Chain

/-- A batch of some calls that is made by a part of a state changes nothing but this part. -/
theorem Batch.runFrom_execute_within {σ τ : Type} (view : τ → σ) (update : τ → σ → τ)
    (node : Endpoint σ) (contract : Address) {calls : List Call} (some : calls ≠ []) (t : τ) :
    (execute ⟨fun target data => within view update (node.call target data)⟩ contract
        calls).runFrom t =
      (((execute node contract calls).runFrom (view t)).1,
        update t ((execute node contract calls).runFrom (view t)).2) := by
  rw [runFrom_execute_of_ne_nil some, runFrom_execute_of_ne_nil some]
  simp only [runFrom_within]
  rcases (node.call contract (encode calls)).runFrom (view t) with ⟨e | data, u⟩
  · rfl
  · rfl

namespace World

/-- The chain on which the Safe stands. -/
def safeChain (w : World) : Chain := w.safe.getD w.store

/-- A world with this chain in another state. -/
def withSafeChain (w : World) (chain : Chain) : World :=
  if w.safe.isSome then { w with safe := some chain } else { w with store := chain }

theorem safeNode_eq : safeNode =
    ⟨fun target data => within safeChain withSafeChain (Chain.node.call target data)⟩ := rfl

/-- Whether the chains of the store are related in two worlds with given chains of the Safe. -/
def Beside (R : Chain → Chain → Prop) (mine others : Option Chain) (w u : World) : Prop :=
  R w.store u.store ∧ w.safe = mine ∧ u.safe = others

/-- The store is read without regard to the chain of the Safe. -/
theorem storeNode_alike {R : Chain → Chain → Prop} (alike : Endpoint.Alike R Chain.node Chain.node)
    (mine others : Option Chain) :
    Endpoint.Alike (Beside R mine others) storeNode storeNode := by
  rintro target data w u ⟨related, isMine, isOther⟩
  rcases alike target data related with ⟨same, still⟩
  exact ⟨same, still, isMine, isOther⟩

end World

namespace Client

/-- A window that is left open is filled in once. -/
theorem reconstruct_windowOr {σ : Type} (c : Client σ)
    (safe chainId owners start window timeout : Value) :
    c.reconstruct safe chainId owners start (c.windowOr window) timeout =
      c.reconstruct safe chainId owners start window timeout := by
  have once : c.windowOr (c.windowOr window) = c.windowOr window := by
    cases window <;> rfl
  rw [reconstruct, reconstruct, once]

variable {c : Client World} {w : World} {given : Value} {safe : Address}

/-- A configuration is read on the chain of the Safe, and on no other. -/
theorem runFrom_readConfiguration (safeNode : c.safeNode = World.safeNode)
    (isSafe : given.toAddress = .ok safe) (size : Uint256) {result : Except Fault Configuration}
    {chain : Chain}
    (read : (Safe.readConfiguration (Batch.execute Chain.node c.settings.multicallAddress) given
      (size.val : Int)).runFrom w.safeChain = (result, chain)) :
    (Safe.readConfiguration c.safeExecutor given (size.val : Int)).runFrom w =
      (result, w.withSafeChain chain) := by
  have across := Batch.runFrom_execute_within World.safeChain World.withSafeChain Chain.node
    c.settings.multicallAddress (Safe.calls_ne_nil safe size) w
  rw [Safe.runFrom_readConfiguration isSafe] at read ⊢
  rw [safeExecutor, safeNode, World.safeNode_eq, across]
  generalize (Batch.execute Chain.node c.settings.multicallAddress
    (Safe.calls safe size)).runFrom w.safeChain = made at read ⊢
  rcases made with ⟨e | replies, t⟩
  · cases read
    rfl
  · cases read
    rfl

/-- The number of modules that are read unless told otherwise, as a word. -/
def moduleWord : Uint256 := ⟨50, by decide⟩

/-- Once the configuration has been read, the queue is that of its owners and its nonce. The one
batch for the configuration makes no difference to the store, and where the chains are two the
store's does not even note it. -/
theorem fetch_of_configuration (storeNode : c.storeNode = World.storeNode)
    {configuration : Configuration} {count : Nat}
    (read : (c.configuration given).runFrom w =
      (.ok configuration, w.withSafeChain (w.safeChain.noted count)))
    (chainId window timeout : Value) :
    let alone := (c.reconstruct given chainId (addressList configuration.owners)
      (.int configuration.nonce) (c.windowOr window) timeout).runFrom w
    let fetched := (c.fetch given chainId window timeout).runFrom w
    fetched.1 = alone.1 ∧
      ∀ chain, w.safe = some chain → fetched.2 = ⟨alone.2.store, some (chain.noted count)⟩ := by
  have alike {R : Chain → Chain → Prop} (chains : Endpoint.Alike R Chain.node Chain.node)
      (mine others : Option Chain) :
      Alike (World.Beside R mine others)
        (c.reconstruct given chainId (addressList configuration.owners)
          (.int configuration.nonce) window timeout)
        (c.reconstruct given chainId (addressList configuration.owners)
          (.int configuration.nonce) window timeout) :=
    reconstruct_alike rfl (by rw [storeNode]; exact World.storeNode_alike chains mine others)
      given chainId _ _ window timeout
  simp only [reconstruct_windowOr, fetch, runFrom_bind, read]
  rcases w with ⟨store, safe⟩
  cases safe with
  | some chain =>
      obtain ⟨same, sameStore, others, -⟩ :=
        alike (fun _ _ => alike_eq _) (some (chain.noted count)) (some chain)
          (s := ⟨store, some (chain.noted count)⟩) (t := ⟨store, some chain⟩) ⟨rfl, rfl, rfl⟩
      refine ⟨same, fun _ isChain => ?_⟩
      cases isChain
      exact congrArg₂ World.mk sameStore others
  | none =>
      obtain ⟨same, -⟩ := alike Chain.node_alike none none (s := ⟨store.noted count, none⟩)
        (t := ⟨store, none⟩) ⟨rfl, rfl, rfl⟩
      exact ⟨same, nofun⟩

/-- A configuration is read in one round trip on the chain of the Safe, every part in its place,
and the queue that is fetched is that of the owners and the nonce so read, on the chain of the
store. Where a call for the configuration is reverted or returns nothing there is a report of it,
and the store has not been asked for anything. -/
theorem fetch_two_chains (storeNode : c.storeNode = World.storeNode)
    (safeNode : c.safeNode = World.safeNode)
    (batching : c.settings.multicallAddress = w.safeChain.batchAddress)
    (reachable : w.safeChain.Reachable) (isSafe : given.toAddress = .ok safe)
    (elsewhere : safe ≠ w.safeChain.storeAddress) :
    (∀ d s, w.safeChain.Offers safe d → d.Tells s → s.Fits →
      (∀ size : Uint256,
        (Safe.readConfiguration c.safeExecutor given (size.val : Int)).runFrom w =
          (.ok (s.configuration size.val), w.withSafeChain (w.safeChain.noted 7))) ∧
      ∀ chainId window timeout,
        let alone := (c.reconstruct given chainId (addressList s.owners) (.int s.nonce.val)
          (c.windowOr window) timeout).runFrom w
        let fetched := (c.fetch given chainId window timeout).runFrom w
        fetched.1 = alone.1 ∧
          ∀ chain, w.safe = some chain → fetched.2 = ⟨alone.2.store, some (chain.noted 7)⟩) ∧
    ∀ (size : Uint256) (results : List (Option Bytes)),
      (Safe.questions size).mapM (w.safeChain.answerAt safe) = .ok results →
      64 + (results.map fun result => 160 + (result.getD []).length).sum < 2 ^ (256 : Nat) →
      (none ∈ results ∨ some [] ∈ results) →
      ∃ e,
        (Safe.readConfiguration c.safeExecutor given (size.val : Int)).runFrom w =
          (.error (.rpc e), w.withSafeChain (w.safeChain.noted 7)) ∧
        ((size.val : Int) = Safe.modulePageSize → ∀ chainId window timeout,
          (c.fetch given chainId window timeout).runFrom w =
            (.error (.rpc e), w.withSafeChain (w.safeChain.noted 7))) := by
  constructor
  · intro d s offers tells fits
    have reads (size : Uint256) :
        (Safe.readConfiguration c.safeExecutor given (size.val : Int)).runFrom w =
          (.ok (s.configuration size.val), w.withSafeChain (w.safeChain.noted 7)) := by
      apply runFrom_readConfiguration safeNode isSafe size
      rw [batching]
      exact reachable.readConfiguration_eq_ok offers tells fits isSafe size
    have usual : (moduleWord.val : Int) = Safe.modulePageSize := rfl
    have read : (c.configuration given).runFrom w =
        (.ok (s.configuration moduleWord.val), w.withSafeChain (w.safeChain.noted 7)) := by
      rw [configuration, ← usual]
      exact reads moduleWord
    have fetches := fetch_of_configuration storeNode read
    simp only [Safe.Snapshot.configuration] at fetches
    exact ⟨reads, fetches⟩
  · intro size results each short missing
    rcases reachable.readConfiguration_eq_error elsewhere isSafe each short missing with
      ⟨e, refused⟩
    rw [← batching] at refused
    have fails := runFrom_readConfiguration safeNode isSafe size refused
    refine ⟨e, fails, fun usual chainId window timeout => ?_⟩
    rw [usual] at fails
    simp only [fetch, runFrom_bind, configuration, fails]

end Client

/-- A Safe of two owners with three modules, in various spellings. -/
def DeployedSafe.sample : DeployedSafe where
  owners := [.text "0x00000000000000000000000000000000000000AB",
    .text "0X0000000000000000000000000000000000000003"]
  threshold := .int 2
  nonce := .int 5
  guard := .text "0000000000000000000000000000000000000009"
  modules := [.bytes (Address.ofNat 12).bytes,
    .text "0x0000000000000000000000000000000000000007",
    .text "0x000000000000000000000000000000000000000B"]

/-- What this Safe tells. -/
def Safe.Snapshot.sample : Snapshot where
  owners := [.ofNat 0xab, .ofNat 3]
  threshold := .ofInt 2
  nonce := .ofInt 5
  fallbackHandler := .zero
  guard := .ofNat 9
  singleton := .ofNat 0x41675c099f32341bf84bfc5382af534df5c7461a
  modules := [.ofNat 12, .ofNat 7, .ofNat 11]

theorem DeployedSafe.tells_sample : sample.Tells .sample := by
  constructor <;> rfl

/-- A world with the store on one chain and some Safes on another. -/
def World.withSafes (safes : List (Address × DeployedSafe)) : World where
  store := .sample
  safe := some { safes }

/-- A client of such a world. -/
def Client.sample : Client World where
  settings :=
    { rpcUrl := "", chainId := 1, address := Store.defaultAddress
      multicallAddress := Batch.defaultAddress, pageSize := 50, maxNonces := 4
      requestTimeout := 10, maxRetries := 3, userAgent := "" }
  storeNode := World.storeNode
  safeNode := World.safeNode

/-- The address at which the Safe is looked for. -/
def Client.sampleSafe : Value := .text "0x0000000000000000000000000000000000000001"

/-- The configuration with a page of two modules; the queue without a window; and the report where
no Safe stands at the address, so that every call returns nothing. -/
theorem Client.fetch_two_chains_sample :
    (Safe.readConfiguration sample.safeExecutor sampleSafe (2 : Int)).runFrom
        (.withSafes [(.ofNat 1, .sample)]) =
      (.ok
        { owners := [.ofNat 0xab, .ofNat 3], threshold := 2, nonce := 5
          fallbackHandler := .zero, guard := .ofNat 9
          singleton := .ofNat 0x41675c099f32341bf84bfc5382af534df5c7461a
          modules := [.ofNat 12, .ofNat 7] },
        ⟨.sample, some (Chain.noted { safes := [(.ofNat 1, .sample)] } 7)⟩) ∧
    ((sample.fetch sampleSafe (.int 1) .null .null).runFrom
        (.withSafes [(.ofNat 1, .sample)])).1 =
      ((sample.reconstruct sampleSafe (.int 1) (addressList [.ofNat 0xab, .ofNat 3]) (.int 5)
        (.int 4) .null).runFrom (.withSafes [(.ofNat 1, .sample)])).1 ∧
    ∃ e, ∀ chainId window timeout,
      (sample.fetch sampleSafe chainId window timeout).runFrom (.withSafes []) =
        (.error (.rpc e), ⟨.sample, some (Chain.noted {} 7)⟩) := by
  have stands : Chain.Offers { safes := [(.ofNat 1, .sample)] } (.ofNat 1) .sample :=
    ⟨by decide, rfl, fun _ _ _ => rfl⟩
  have isSafe : sampleSafe.toAddress = .ok (.ofNat 1) := rfl
  obtain ⟨reads, fetches⟩ := (fetch_two_chains (c := sample)
    (w := .withSafes [(.ofNat 1, .sample)]) rfl rfl rfl ⟨rfl, rfl⟩ isSafe (by decide)).1
      .sample .sample stands DeployedSafe.tells_sample (by unfold Safe.Snapshot.Fits; decide)
  obtain ⟨e, -, reports⟩ := (fetch_two_chains (c := sample) (w := .withSafes []) rfl rfl rfl
    ⟨rfl, rfl⟩ isSafe (by decide)).2 moduleWord (List.replicate 7 (some [])) rfl (by decide)
      (.inr (by decide))
  refine ⟨?_, ?_, e, ?_⟩
  · exact reads ⟨2, by decide⟩
  · exact (fetches (.int 1) .null .null).1
  · have usual : (moduleWord.val : Int) = Safe.modulePageSize := rfl
    exact reports usual

end MultisigQueue
