/-
Module: MultisigQueue.Proofs.Safe.Configuration
Purpose: All that can come of reading a configuration, whatever a Safe returns.
Main exports:
  Safe.Complete, Safe.Parts, Safe.Parts.ofDatas, Safe.decodeConfiguration_of_complete,
  Safe.decodeConfiguration_cases, Safe.Parts.ofDatas_returned
-/
import MultisigQueue.Proofs.Safe

namespace MultisigQueue.Safe

open AbiType

/-!
Seven replies with data are decoded one after the other, and the first that cannot be decoded is a
failure of contract data. What is decoded from a storage slot is a byte string of any length, and it
is looked at last. If it is no word, that is no failure of the read: it is one of an argument.
-/

/-- Whether all seven calls have come back with data. -/
def Complete (replies : List Reply) : Prop :=
  replies.length = callCount ∧ replies.all Reply.hasData

/-- What the return data of the seven calls is decoded to. -/
structure Parts where
  owners : List Address
  threshold : Uint256
  nonce : Uint256
  fallback : Bytes
  guard : Bytes
  singleton : Bytes
  modules : List Address

namespace Parts

/-- The parts in the return data of the seven calls. -/
def ofDatas : List Bytes → Except Fault Parts
  | [owners, threshold, fallback, nonce, guard, singleton, modules] => do
    let owners ← ownersFunction.decode owners
    let threshold ← thresholdFunction.decode threshold
    let fallback ← storageFunction.decode fallback
    let nonce ← nonceFunction.decode nonce
    let guard ← storageFunction.decode guard
    let singleton ← storageFunction.decode singleton
    let modules ← modulesFunction.decode modules
    return {
      owners := owners.1
      threshold := threshold.1
      nonce := nonce.1
      fallback := fallback.1
      guard := guard.1
      singleton := singleton.1
      modules := modules.1 }
  | _ => .error (.rpc readFailed)

variable (p : Parts)

/-- What was found in the storage slots. -/
def words : List Bytes := [p.fallback, p.guard, p.singleton]

/-- The configuration that parts make up with the addresses in its storage words. -/
def configuration (fallbackHandler guard singleton : Address) : Configuration where
  owners := p.owners
  threshold := p.threshold.val
  nonce := p.nonce.val
  fallbackHandler
  guard
  singleton
  modules := p.modules

/-- The configuration that parts make up, if words stand in the storage slots. -/
def read : Except Fault Configuration := do
  return p.configuration (← addressOfWord p.fallback) (← addressOfWord p.guard)
    (← addressOfWord p.singleton)

end Parts

/-- A configuration is read from the parts of it, which are all decoded before. -/
theorem decodeDatas_bytes : (datas : List Bytes) →
    decodeDatas (datas.map .bytes) = Parts.ofDatas datas >>= Parts.read
  | [owners, threshold, fallback, nonce, guard, singleton, modules] => by
      simp only [List.map_cons, List.map_nil, decodeDatas, decodeReturned, Parts.ofDatas,
        AbiFunction.decodeGiven_bytes, bind_assoc, pure_bind, Parts.read, Parts.configuration]
  | [] | [_] | [_, _] | [_, _, _] | [_, _, _, _] | [_, _, _, _, _] | [_, _, _, _, _, _] => rfl
  | _ :: _ :: _ :: _ :: _ :: _ :: _ :: _ :: _ => rfl

/-- Whether there are parts, or else the return data of some function cannot be decoded. -/
def Parts.Decodes (outcome : Except Fault Parts) : Prop :=
  (∃ p, outcome = .ok p) ∨ ∃ f ∈ functions, outcome = .error (.abi (f.fail .returnData))

/-- There are parts if return data is decoded and there are parts behind it. -/
theorem Parts.Decodes.bind {f : AbiFunction} (isOne : f ∈ functions) {data : Bytes}
    {next : AbiType.Vals f.outputs → Except Fault Parts} (goes : ∀ values, Decodes (next values)) :
    Decodes ((liftM (f.decode data) : Except Fault _) >>= next) := by
  unfold AbiFunction.decode
  split
  case h_1 values _ => exact goes values
  case h_2 => exact .inr ⟨f, isOne, rfl⟩

/-- No other failure comes from the return data of seven calls. -/
theorem Parts.decodes_ofDatas : {datas : List Bytes} → datas.length = callCount →
    Decodes (ofDatas datas)
  | [_, _, _, _, _, _, _], _ => by
      have owners : ownersFunction ∈ functions := by simp [functions]
      have threshold : thresholdFunction ∈ functions := by simp [functions]
      have nonce : nonceFunction ∈ functions := by simp [functions]
      have storage : storageFunction ∈ functions := by simp [functions]
      have modules : modulesFunction ∈ functions := by simp [functions]
      refine .bind owners fun _ => .bind threshold fun _ => .bind storage fun _ => ?_
      refine .bind nonce fun _ => .bind storage fun _ => .bind storage fun _ => ?_
      exact .bind modules fun _ => .inl ⟨_, rfl⟩

theorem addressOfWord_of_length_ne {b : Bytes} (odd : b.length ≠ 32) :
    addressOfWord b = .error .storageWordLength := by
  simp only [addressOfWord, Value.storedAddress, Value.toBytes, bind, Except.bind,
    FixedBytes.ofBytes?, dif_neg odd]

/-- A byte string is a word, or it has no address. -/
theorem addressOfWord_cases (b : Bytes) :
    (∃ word : Word, b = word.bytes ∧ addressOfWord b = .ok (.ofWord word)) ∨
      b.length ≠ 32 ∧ addressOfWord b = .error .storageWordLength := by
  by_cases fits : b.length = 32
  · exact .inl ⟨⟨b, fits⟩, rfl, addressOfWord_bytes ⟨b, fits⟩⟩
  · exact .inr ⟨fits, addressOfWord_of_length_ne fits⟩

/-- Parts make up a configuration exactly if words stand in all three storage slots. -/
theorem Parts.read_cases (p : Parts) :
    (∃ fallback guard singleton : Word,
      p.words = [fallback.bytes, guard.bytes, singleton.bytes] ∧
        p.read = .ok (p.configuration (.ofWord fallback) (.ofWord guard) (.ofWord singleton))) ∨
    (∃ word ∈ p.words, word.length ≠ 32) ∧ p.read = .error (.input .storageWordLength) := by
  unfold read words
  obtain ⟨fallback, isFallback, read⟩ | ⟨odd, fails⟩ := addressOfWord_cases p.fallback
  · obtain ⟨guard, isGuard, readToo⟩ | ⟨odd, fails⟩ := addressOfWord_cases p.guard
    · obtain ⟨singleton, isSingleton, readLast⟩ | ⟨odd, fails⟩ := addressOfWord_cases p.singleton
      · left
        refine ⟨fallback, guard, singleton, ?_, ?_⟩
        · rw [isFallback, isGuard, isSingleton]
        · rw [read, readToo, readLast]
          rfl
      · right
        refine ⟨⟨_, by simp, odd⟩, ?_⟩
        rw [read, readToo, fails]
        rfl
    · right
      refine ⟨⟨_, by simp, odd⟩, ?_⟩
      rw [read, fails]
      rfl
  · right
    refine ⟨⟨_, by simp, odd⟩, ?_⟩
    rw [fails]
    rfl

/-- If all seven calls have come back with data, a configuration is read from the parts in it. -/
theorem decodeConfiguration_of_complete {replies : List Reply} (complete : Complete replies) :
    decodeConfiguration replies = Parts.ofDatas (replies.map Reply.data) >>= Parts.read := by
  rw [← decodeDatas_bytes, List.map_map]
  exact if_pos complete

/-- All that can come of reading a configuration. Without data from all seven calls the read fails.
Data that cannot be decoded is a failure of contract data. There is a configuration if words stand
in the three storage slots, and if not, a failure that is none of the read. -/
theorem decodeConfiguration_cases (replies : List Reply) :
    (¬Complete replies ∧ decodeConfiguration replies = .error (.rpc readFailed)) ∨
    (Complete replies ∧ ∃ f ∈ functions,
      Parts.ofDatas (replies.map Reply.data) = .error (.abi (f.fail .returnData)) ∧
        decodeConfiguration replies = .error (.abi (f.fail .returnData))) ∨
    (Complete replies ∧ ∃ p, Parts.ofDatas (replies.map Reply.data) = .ok p ∧
      ∃ fallback guard singleton : Word,
        p.words = [fallback.bytes, guard.bytes, singleton.bytes] ∧
          decodeConfiguration replies =
            .ok (p.configuration (.ofWord fallback) (.ofWord guard) (.ofWord singleton))) ∨
    (Complete replies ∧ ∃ p, Parts.ofDatas (replies.map Reply.data) = .ok p ∧
      (∃ word ∈ p.words, word.length ≠ 32) ∧
        decodeConfiguration replies = .error (.input .storageWordLength)) := by
  by_cases complete : Complete replies
  · have seven : (replies.map Reply.data).length = callCount := by simpa using complete.1
    rw [decodeConfiguration_of_complete complete]
    obtain ⟨p, decoded⟩ | ⟨f, isOne, fails⟩ := Parts.decodes_ofDatas seven
    · rw [decoded]
      obtain ⟨fallback, guard, singleton, words, made⟩ | ⟨odd, fails⟩ := p.read_cases
      · exact .inr (.inr (.inl ⟨complete, p, rfl, fallback, guard, singleton, words, made⟩))
      · exact .inr (.inr (.inr ⟨complete, p, rfl, odd, fails⟩))
    · rw [fails]
      exact .inr (.inl ⟨complete, f, isOne, rfl, rfl⟩)
  · exact .inl ⟨complete, if_neg complete⟩

namespace Parts

variable (p : Parts) (behind : Address)

/-- The return data of a Safe that has these parts, with a module behind the page. -/
def returned : List Bytes :=
  [ownersReturn p.owners, thresholdReturn p.threshold,
    encodeAll storageFunction.outputs (p.fallback, ()), nonceReturn p.nonce,
    encodeAll storageFunction.outputs (p.guard, ()),
    encodeAll storageFunction.outputs (p.singleton, ()), modulesReturn p.modules behind]

/-- The replies of such a Safe. -/
def replies : List Reply := (p.returned behind).map fun data => { success := true, data }

theorem map_data_replies : (p.replies behind).map Reply.data = p.returned behind := by
  rw [replies, List.map_map]
  exact List.map_id _

variable {p behind}

/-- Parts are decoded as they are returned, whatever stands in the storage slots. -/
theorem ofDatas_returned
    (short : ∀ data ∈ p.returned behind, data.length < 2 ^ (256 : Nat)) :
    ofDatas (p.returned behind) = .ok p := by
  simp only [returned, List.forall_mem_cons] at short
  obtain ⟨owners, threshold, fallback, nonce, guard, singleton, modules, -⟩ := short
  simp only [returned, ofDatas, ownersReturn, thresholdReturn, nonceReturn, modulesReturn,
    AbiFunction.decode_encodeAll rfl owners, AbiFunction.decode_encodeAll rfl threshold,
    AbiFunction.decode_encodeAll rfl fallback, AbiFunction.decode_encodeAll rfl nonce,
    AbiFunction.decode_encodeAll rfl guard, AbiFunction.decode_encodeAll rfl singleton,
    AbiFunction.decode_encodeAll rfl modules]
  rfl

/-- Parts of a Safe in whose guard slot there is nothing, not even an empty word. -/
def unguarded : Parts where
  owners := [.ofNat 2]
  threshold := 1
  nonce := 0
  fallback := Bytes.zeros 32
  guard := []
  singleton := Bytes.zeros 32
  modules := []

end Parts

/-- Such a Safe has no configuration, and the failure is neither of contract data nor of the read.
-/
theorem decodeConfiguration_unguarded :
    decodeConfiguration (Parts.unguarded.replies sentinel) =
      .error (.input .storageWordLength) := by
  have complete : Complete (Parts.unguarded.replies sentinel) := ⟨rfl, by decide +kernel⟩
  have decoded : Parts.ofDatas (Parts.unguarded.returned sentinel) = .ok Parts.unguarded :=
    Parts.ofDatas_returned (by decide +kernel)
  rw [decodeConfiguration_of_complete complete, Parts.map_data_replies, decoded]
  rfl

end MultisigQueue.Safe
