/-
Module: MultisigQueue.Proofs.Safe
Purpose: What the seven calls of a configuration ask, and what their return data is read as.
Main exports:
  AbiType.accept?_addresses_take, Address.ofWord_word, Safe.calls, Safe.configurationCalls_val,
  Safe.Snapshot, Safe.decodeConfiguration_replies, Safe.decodeConfiguration_of_not_hasData,
  Safe.runFrom_readConfiguration
-/
import MultisigQueue.Proofs.Store
import MultisigQueue.Safe

namespace MultisigQueue

/-!
The seven calls are told apart by their selectors and the three reads of storage among them by
their slots; the replies are told apart by their place alone. A snapshot is what a Safe tells of
itself. It says what stands at each place, and that is read as the configuration of the snapshot.
-/

/-- A page of what contract data takes for addresses is taken for a page of them. -/
theorem AbiType.accept?_addresses_take {rule : Address.CaseRule} {given : List Value}
    {addresses : List Address} (taken : given.mapM (accept? rule .address) = some addresses)
    (size : Nat) :
    accept? rule (.array .address) (.list (given.take size)) = some (addresses.take size) :=
  mapM_eq_some_iff.2 (List.forall₂_take size (mapM_eq_some_iff.1 taken))

namespace Address

/-- A word that holds an address has zeros in front of it. -/
theorem bytes_word (a : Address) : a.word.bytes = Bytes.zeros 12 ++ a.bytes := by
  have fits : a.toNat < 256 ^ (32 : Nat) :=
    Nat.lt_of_lt_of_le a.toNat_lt (Nat.pow_le_pow_right (by decide) (by decide))
  apply Bytes.eq_of_toNat_eq
  · rw [a.word.length_eq, List.length_append, Bytes.length_zeros, a.length_eq]
  · have front : Bytes.toNat (Bytes.zeros 12) = 0 := rfl
    rw [Bytes.toNat_append, front, Nat.zero_mul, Nat.zero_add]
    exact FixedBytes.toNat_ofNat fits

/-- An address is found again in its word. -/
@[simp] theorem ofWord_word (a : Address) : ofWord a.word = a := by
  apply FixedBytes.ext
  change a.word.bytes.drop 12 = a.bytes
  rw [bytes_word]
  exact List.drop_left' (Bytes.length_zeros 12)

end Address

/-- Results that have been read are there, whatever a failure to read them would have been. -/
theorem AbiFunction.liftM_decodeGiven {f : AbiFunction} {data : Bytes}
    {results : AbiType.Vals f.outputs} (decoded : f.decode data = .ok results) :
    (liftM (f.decodeGiven (.bytes data)) : Except Fault (AbiType.Vals f.outputs)) =
      .ok results := by
  rw [decodeGiven_bytes, decoded]
  rfl

namespace Safe

open AbiType Abi

/-- The functions by which a Safe tells its configuration. -/
def functions : List AbiFunction :=
  [ownersFunction, thresholdFunction, nonceFunction, storageFunction, modulesFunction]

/-- They are told apart by their selectors. -/
theorem pairwise_selectors :
    functions.Pairwise fun earlier later => later.selector ≠ earlier.selector := by
  decide +kernel

theorem selector_threshold : thresholdFunction.selector ≠ ownersFunction.selector := by
  have apart := pairwise_selectors
  simp only [functions, List.pairwise_cons, List.forall_mem_cons] at apart
  exact apart.1.1

theorem selector_nonce : nonceFunction.selector ≠ ownersFunction.selector ∧
    nonceFunction.selector ≠ thresholdFunction.selector := by
  have apart := pairwise_selectors
  simp only [functions, List.pairwise_cons, List.forall_mem_cons] at apart
  exact ⟨apart.1.2.1, apart.2.1.1⟩

theorem selector_storage : storageFunction.selector ≠ ownersFunction.selector ∧
    storageFunction.selector ≠ thresholdFunction.selector ∧
      storageFunction.selector ≠ nonceFunction.selector := by
  have apart := pairwise_selectors
  simp only [functions, List.pairwise_cons, List.forall_mem_cons] at apart
  exact ⟨apart.1.2.2.1, apart.2.1.2.1, apart.2.2.1.1⟩

theorem selector_modules : modulesFunction.selector ≠ ownersFunction.selector ∧
    modulesFunction.selector ≠ thresholdFunction.selector ∧
      modulesFunction.selector ≠ nonceFunction.selector ∧
        modulesFunction.selector ≠ storageFunction.selector := by
  have apart := pairwise_selectors
  simp only [functions, List.pairwise_cons, List.forall_mem_cons] at apart
  exact ⟨apart.1.2.2.2.1, apart.2.1.2.2.1, apart.2.2.1.2.1, apart.2.2.2.1.1⟩

/-- What is asked for a configuration, with pages of so many modules. -/
def questions (size : Uint256) : List Bytes :=
  [ownersFunction.calldata (), thresholdFunction.calldata (), storageData fallbackSlot,
    nonceFunction.calldata (), storageData guardSlot, storageData singletonSlot,
    modulesFunction.calldata (sentinel, size, ())]

/-- The calls that read the configuration of a Safe. None of them may fail. -/
def calls (safe : Address) (size : Uint256) : List Call :=
  (questions size).map fun data => { target := safe, data, allowFailure := false }

@[simp] theorem length_calls (safe : Address) (size : Uint256) : (calls safe size).length = 7 := rfl

theorem calls_ne_nil (safe : Address) (size : Uint256) : calls safe size ≠ [] := by
  rw [← List.length_pos_iff, length_calls]
  decide

/-- For a page size that fits into a word there are calls. -/
theorem configurationCalls_val (safe : Address) (size : Uint256) :
    configurationCalls safe size.val = .ok (calls safe size) := by
  have encoded : modulesFunction.encode [.bytes sentinel.bytes, .int size.val] =
      .ok (modulesFunction.calldata (sentinel, size, ())) :=
    AbiFunction.encode_eq_ok_iff.2 ⟨rfl, _,
      acceptAll?_cons (accept?_address sentinel) <| acceptAll?_cons (accept?_uint size) rfl, rfl⟩
  rw [configurationCalls, encoded]
  rfl

theorem length_storageData (slot : Slot) : (storageData slot).length = 68 :=
  AbiFunction.length_calldata_static rfl _

/-- The octets of the batch of calls. -/
theorem sum_calls (safe : Address) (size : Uint256) :
    64 + ((calls safe size).map fun call => 192 + call.data.length).sum = 1692 := by
  have owners : (ownersFunction.calldata ()).length = 4 := AbiFunction.length_calldata_static rfl _
  have threshold : (thresholdFunction.calldata ()).length = 4 :=
    AbiFunction.length_calldata_static rfl _
  have nonce : (nonceFunction.calldata ()).length = 4 := AbiFunction.length_calldata_static rfl _
  have modules : (modulesFunction.calldata (sentinel, size, ())).length = 68 :=
    AbiFunction.length_calldata_static rfl _
  simp only [calls, questions, List.map_cons, List.map_nil, List.sum_cons, List.sum_nil, owners,
    threshold, nonce, modules, length_storageData, Nat.reduceAdd]

/-- The batch of calls is short enough to be read. -/
theorem sum_calls_lt (safe : Address) (size : Uint256) :
    64 + ((calls safe size).map fun call => 192 + call.data.length).sum < 2 ^ (256 : Nat) := by
  rw [sum_calls]
  decide

/-- The octets of a list of addresses. -/
theorem length_encode_addresses (addresses : List Address) :
    (encode (.array .address) addresses).length = 32 + 32 * addresses.length := by
  have list := length_encode_array_static (show isDynamic .address = false from rfl) addresses
  have width : headWords .address = 1 := rfl
  rwa [width, Nat.mul_one] at list

/-- Owners as return data. -/
def ownersReturn (owners : List Address) : Bytes := encodeAll ownersFunction.outputs (owners, ())

theorem length_ownersReturn (owners : List Address) :
    (ownersReturn owners).length = 64 + 32 * owners.length := by
  have frame := length_encodeAll ownersFunction.outputs (owners, ())
  have tail : tails (pieces ownersFunction.outputs (owners, ())) =
      encode (.array .address) owners := by
    simp [ownersFunction, pieces, piece, isDynamic, tails, Piece.tail]
  have head : frameWords ownersFunction.outputs = 1 := rfl
  rw [tail, head, length_encode_addresses] at frame
  rw [ownersReturn]
  omega

/-- A threshold as return data. -/
def thresholdReturn (threshold : Uint256) : Bytes :=
  encodeAll thresholdFunction.outputs (threshold, ())

theorem length_thresholdReturn (threshold : Uint256) : (thresholdReturn threshold).length = 32 :=
  length_encodeAll_static rfl _

/-- A nonce as return data. -/
def nonceReturn (nonce : Uint256) : Bytes := encodeAll nonceFunction.outputs (nonce, ())

theorem length_nonceReturn (nonce : Uint256) : (nonceReturn nonce).length = 32 :=
  length_encodeAll_static rfl _

/-- A page of modules and the module behind it as return data. -/
def modulesReturn (page : List Address) (behind : Address) : Bytes :=
  encodeAll modulesFunction.outputs (page, behind, ())

theorem length_modulesReturn (page : List Address) (behind : Address) :
    (modulesReturn page behind).length = 96 + 32 * page.length := by
  have frame := length_encodeAll modulesFunction.outputs (page, behind, ())
  have tail : tails (pieces modulesFunction.outputs (page, behind, ())) =
      encode (.array .address) page := by
    simp [modulesFunction, pieces, piece, isDynamic, tails, Piece.tail]
  have head : frameWords modulesFunction.outputs = 2 := rfl
  rw [tail, head, length_encode_addresses] at frame
  rw [modulesReturn]
  omega

/-- An address in a storage word as return data. -/
def storageReturn (a : Address) : Bytes := encodeAll storageFunction.outputs (a.word.bytes, ())

theorem length_storageReturn (a : Address) : (storageReturn a).length = 96 := by
  have frame := length_encodeAll storageFunction.outputs (a.word.bytes, ())
  have tail : tails (pieces storageFunction.outputs (a.word.bytes, ())) =
      lengthMarked a.word.bytes := by
    simp [storageFunction, pieces, piece, isDynamic, tails, Piece.tail, encode]
  have marked := length_lengthMarked a.word.bytes
  have filling : Bytes.padding 32 = 0 := rfl
  have head : frameWords storageFunction.outputs = 1 := rfl
  rw [a.word.length_eq, filling] at marked
  rw [tail, head, marked] at frame
  exact frame

/-- An address is read from the return data for its storage slot. -/
theorem decode_storageReturn (a : Address) :
    storageFunction.decode (storageReturn a) = .ok (a.word.bytes, ()) := by
  apply AbiFunction.decode_encodeAll rfl
  rw [← storageReturn, length_storageReturn]
  decide

theorem addressOfWord_bytes (word : Word) : addressOfWord word.bytes = .ok (.ofWord word) := by
  simp only [addressOfWord, Value.storedAddress, Value.toBytes, bind, Except.bind,
    FixedBytes.ofBytes?_bytes]

theorem liftM_addressOfWord (a : Address) :
    (liftM (addressOfWord a.word.bytes) : Except Fault Address) = .ok a := by
  rw [addressOfWord_bytes, Address.ofWord_word]
  rfl

/-- What a Safe tells of itself. Its numbers fit into words. -/
structure Snapshot where
  owners : List Address
  threshold : Uint256
  nonce : Uint256
  fallbackHandler : Address
  guard : Address
  singleton : Address
  modules : List Address

namespace Snapshot

variable (s : Snapshot) (size : Nat)

/-- The configuration of a snapshot, with a page of so many modules. -/
def configuration : Configuration where
  owners := s.owners
  threshold := s.threshold.val
  nonce := s.nonce.val
  fallbackHandler := s.fallbackHandler
  guard := s.guard
  singleton := s.singleton
  modules := s.modules.take size

/-- The module behind a page of so many, or else the sentinel. -/
def moduleBehind : Address := (s.modules[size]?).getD sentinel

/-- What a Safe returns to each of the seven calls. -/
def returned : List Bytes :=
  [ownersReturn s.owners, thresholdReturn s.threshold, storageReturn s.fallbackHandler,
    nonceReturn s.nonce, storageReturn s.guard, storageReturn s.singleton,
    modulesReturn (s.modules.take size) (s.moduleBehind size)]

/-- The replies to the seven calls. -/
def replies : List Reply := (s.returned size).map fun data => { success := true, data }

/-- Whether all that a snapshot tells can be written as contract data. -/
def Fits : Prop := 2048 + 32 * (s.owners.length + s.modules.length) < 2 ^ (256 : Nat)

/-- The octets of the replies. -/
theorem sum_replies_le : 64 + ((s.replies size).map fun reply => 160 + reply.data.length).sum ≤
    2048 + 32 * (s.owners.length + s.modules.length) := by
  have page : (s.modules.take size).length ≤ s.modules.length := List.length_take_le' size s.modules
  simp only [replies, returned, List.map_cons, List.map_nil, List.sum_cons, List.sum_nil,
    length_ownersReturn, length_thresholdReturn, length_storageReturn, length_nonceReturn,
    length_modulesReturn]
  omega

/-- Every reply has data. -/
theorem hasData_of_mem_replies {reply : Reply} (member : reply ∈ s.replies size) :
    reply.hasData = true := by
  have any : ∀ data ∈ s.returned size, 32 ≤ data.length := by
    simp only [returned, List.forall_mem_cons, length_ownersReturn, length_thresholdReturn,
      length_storageReturn, length_nonceReturn, length_modulesReturn]
    simp
    omega
  rcases List.mem_map.1 member with ⟨data, isReturned, rfl⟩
  have notEmpty : data ≠ [] := List.length_pos_iff.1 (Nat.lt_of_lt_of_le (by decide)
    (any data isReturned))
  simpa [Reply.hasData] using notEmpty

end Snapshot

/-- A configuration is read from the replies of a Safe: every part from the place where it was asked
for. -/
theorem decodeConfiguration_replies {s : Snapshot} (fits : s.Fits) (size : Nat) :
    decodeConfiguration (s.replies size) = .ok (s.configuration size) := by
  unfold Snapshot.Fits at fits
  have page : (s.modules.take size).length ≤ s.modules.length := List.length_take_le' size s.modules
  have owners : ownersFunction.decode (ownersReturn s.owners) = .ok (s.owners, ()) :=
    AbiFunction.decode_encodeAll rfl (by rw [← ownersReturn, length_ownersReturn]; omega)
  have threshold : thresholdFunction.decode (thresholdReturn s.threshold) =
      .ok (s.threshold, ()) :=
    AbiFunction.decode_encodeAll rfl (by rw [← thresholdReturn, length_thresholdReturn]; decide)
  have nonce : nonceFunction.decode (nonceReturn s.nonce) = .ok (s.nonce, ()) :=
    AbiFunction.decode_encodeAll rfl (by rw [← nonceReturn, length_nonceReturn]; decide)
  have modules : modulesFunction.decode
      (modulesReturn (s.modules.take size) (s.moduleBehind size)) =
        .ok (s.modules.take size, s.moduleBehind size, ()) :=
    AbiFunction.decode_encodeAll rfl (by rw [← modulesReturn, length_modulesReturn]; omega)
  have complete : (s.replies size).length = callCount ∧ (s.replies size).all Reply.hasData :=
    ⟨rfl, List.all_eq_true.2 fun _ => s.hasData_of_mem_replies size⟩
  rw [decodeConfiguration, if_pos complete]
  have storage (a : Address) := AbiFunction.liftM_decodeGiven (decode_storageReturn a)
  -- The order is that of the calls; the words are looked at last.
  refine bind_eq_ok_iff.2 ⟨_, AbiFunction.liftM_decodeGiven owners, ?_⟩
  refine bind_eq_ok_iff.2 ⟨_, AbiFunction.liftM_decodeGiven threshold, ?_⟩
  refine bind_eq_ok_iff.2 ⟨_, storage s.fallbackHandler, ?_⟩
  refine bind_eq_ok_iff.2 ⟨_, AbiFunction.liftM_decodeGiven nonce, ?_⟩
  refine bind_eq_ok_iff.2 ⟨_, storage s.guard, ?_⟩
  refine bind_eq_ok_iff.2 ⟨_, storage s.singleton, ?_⟩
  refine bind_eq_ok_iff.2 ⟨_, AbiFunction.liftM_decodeGiven modules, ?_⟩
  refine bind_eq_ok_iff.2 ⟨_, liftM_addressOfWord s.fallbackHandler, ?_⟩
  refine bind_eq_ok_iff.2 ⟨_, liftM_addressOfWord s.guard, ?_⟩
  exact bind_eq_ok_iff.2 ⟨_, liftM_addressOfWord s.singleton, rfl⟩

/-- A configuration is not read where a reply has no data. -/
theorem decodeConfiguration_of_not_hasData {replies : List Reply} {reply : Reply}
    (member : reply ∈ replies) (missing : reply.hasData = false) :
    decodeConfiguration replies = .error (.rpc readFailed) := by
  refine if_neg fun complete => ?_
  have present := List.all_eq_true.1 complete.2 reply member
  rw [missing] at present
  cases present

/-- A configuration is read with one batch of calls, whatever executor makes it. -/
theorem runFrom_readConfiguration {σ : Type} {given : Value} {safe : Address}
    (isSafe : given.toAddress = .ok safe) (size : Uint256) (executor : Executor σ) (s : σ) :
    (readConfiguration executor given (size.val : Int)).runFrom s =
      match (executor (calls safe size)).runFrom s with
      | (.ok replies, t) => (decodeConfiguration replies, t)
      | (.error e, t) => (.error e, t) := by
  have read : (toAddress given : Except InputError Address) = .ok safe := isSafe
  simp only [readConfiguration, Query.runFrom_bind, Query.runFrom_input, Query.runFrom_abi, read,
    toInteger_int, configurationCalls_val, Except.mapError, Query.runFrom_except]
  rcases (executor (calls safe size)).runFrom s with ⟨e | replies, t⟩
  · rfl
  · rfl

end Safe

end MultisigQueue
