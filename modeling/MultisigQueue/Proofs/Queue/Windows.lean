/-
Module: MultisigQueue.Proofs.Queue.Windows
Purpose: The queue of a window is made of the queues of its parts.
Main exports:
  NonceWindow.nonces_append, Holdings.queue_append, Holdings.find?_queue,
  Client.runFrom_reconstruct_byRule, Client.runFrom_transactions_byRule,
  Client.reconstruct_window_append
-/
import Mathlib.Data.List.Flatten
import MultisigQueue.Proofs.Queue.Arguments
import MultisigQueue.Proofs.Queue.Isolation

namespace MultisigQueue

/-!
A window read as a whole makes other batches than its parts read one after the other, and one hash
may be looked up once for several nonces on both sides of the cut. None of this shows: each group of
a queue is made of the lists for its own nonce alone. So a queue is cut where its window is cut, and
a window of one nonce holds the group that any wider window has for this nonce.
-/

namespace NonceWindow

/-- The nonces of a window are those of its two parts. -/
theorem nonces_append (start : Int) {first later : Int} (forward : 0 ≤ first)
    (further : 0 ≤ later) :
    nonces ⟨start, (first + later).toNat⟩ =
      nonces ⟨start, first.toNat⟩ ++ nonces ⟨start + first, later.toNat⟩ := by
  have behind : ∀ i : Nat, start + ((first.toNat + i : Nat) : Int) = start + first + (i : Int) := by
    omega
  simp only [nonces, Int.toNat_add forward further, List.range_add, List.map_append, List.map_map,
    Function.comp_def, behind]

theorem nonces_one (nonce : Int) : nonces ⟨nonce, (1 : Int).toNat⟩ = [nonce] := by
  simp [nonces]

end NonceWindow

namespace Holdings

variable {s : Holdings} {owners : List Address}

/-- The groups of a queue follow its nonces. -/
theorem queue_append (s : Holdings) (owners : List Address) (nonces others : List Int) :
    s.queue owners (nonces ++ others) = s.queue owners nonces ++ s.queue owners others :=
  List.filterMap_append

/-- The group that a queue has for one of its nonces is the one that the nonce calls for. -/
theorem find?_queue {nonces : List Int} {nonce : Int} (isAsked : nonce ∈ nonces) :
    Contenders.find? (s.queue owners nonces) nonce = s.contenders? owners nonce := by
  cases found : Contenders.find? (s.queue owners nonces) nonce with
  | some group =>
      have ofNonce : group.nonce = nonce := by simpa using List.find?_some found
      obtain ⟨other, -, called⟩ := List.mem_filterMap.1 (List.mem_of_find?_eq_some found)
      have sameNonce : group.nonce = other := (mem_contenders?.1 called).1
      rw [← ofNonce, sameNonce, called]
  | none =>
      cases called : s.contenders? owners nonce with
      | none => rfl
      | some group =>
          have member : group ∈ s.queue owners nonces :=
            List.mem_filterMap.2 ⟨nonce, isAsked, called⟩
          have otherNonce := List.find?_eq_none.1 found group member
          exact absurd (decide_eq_true (mem_contenders?.1 called).1) otherNonce

end Holdings

namespace Reader

/-- Fewer nonces make no larger batches. -/
theorem largestBatch_mono {r : Reader} {rule : Address → Bytes → Reply} {owners : List Address}
    {nonces others : List Int} (part : nonces.Sublist others) :
    r.largestBatch rule owners nonces ≤ r.largestBatch rule owners others := by
  have lists : owners.length * nonces.length ≤ owners.length * others.length :=
    Nat.mul_le_mul_left _ part.length_le
  have filed := (part.flatMap ((r.heldBy rule).filed owners)).length_le
  simp only [largestBatch]
  omega

end Reader

namespace Client

variable {σ : Type} {c : Client σ} {rule : Address → Bytes → Reply} {safeGiven : Value}
  {ownersGiven : List Value} {owners : List Address} {chainId start window : Int}

/-- Without a limit of time, a client's pass is one from the store in its settings. -/
theorem runFrom_reconstruct (c : Client σ) (safe chainId owners start : Value) (window : Int)
    (s : σ) :
    (c.reconstruct safe chainId owners start (.int window) .null).runFrom s =
      (reconstructFrom c.storeExecutor (.bytes c.settings.address.bytes) safe chainId
        (.int c.settings.pageSize) owners start (.int window)).runFrom s := by
  simp only [reconstruct, reconstructFrom, isOver, windowOr, Query.runFrom_bind,
    Query.runFrom_input, Except.mapError]
  cases readerFor (.bytes c.settings.address.bytes) safe chainId (.int c.settings.pageSize) with
  | error e => rfl
  | ok r => rfl

theorem toAddress_storeAddress (c : Client σ) :
    (Value.bytes c.settings.address.bytes).toAddress = .ok c.settings.address := by
  simp only [Value.toAddress, FixedBytes.ofBytes?_bytes]

/-- A client's pass for which no reader can be made ends with that, whatever its window. -/
theorem runFrom_reconstruct_of_readerFor {chainId owners : Value} {e : InputError}
    (fails : readerFor (.bytes c.settings.address.bytes) safeGiven chainId
      (.int c.settings.pageSize) = .error e) (start window : Int) (s : σ) :
    (c.reconstruct safeGiven chainId owners (.int start) (.int window) .null).runFrom s =
      (.error (.input e), s) := by
  rw [runFrom_reconstruct, runFrom_reconstructFrom_of_readerFor fails]

/-- A client's pass over a node that replies by a rule comes to the queue of what the rule holds. -/
theorem runFrom_reconstruct_byRule (byRule : c.storeNode = Batch.nodeByRule rule) {safe : Address}
    (safeRead : safeGiven.toAddress = .ok safe)
    (ownersRead : ownersGiven.mapM Value.toAddress = .ok owners)
    (chainId_mem : 0 ≤ chainId ∧ chainId < 2 ^ (256 : Nat))
    (pageSize_mem : 1 ≤ c.settings.pageSize ∧ c.settings.pageSize < 2 ^ (256 : Nat))
    (fromStart : 0 ≤ start) (forward : 0 ≤ window) (inside : start + window ≤ 2 ^ (256 : Nat))
    (carries : Batch.Carries rule
      (Reader.largestBatch ⟨c.settings.address, safe, chainId, .int c.settings.pageSize⟩ rule owners
        (NonceWindow.nonces ⟨start, window.toNat⟩))) (s : σ) :
    (c.reconstruct safeGiven (.int chainId) (.list ownersGiven) (.int start) (.int window)
        .null).runFrom s =
      (.ok ((Reader.heldBy ⟨c.settings.address, safe, chainId, .int c.settings.pageSize⟩ rule).queue
        owners (NonceWindow.nonces ⟨start, window.toNat⟩)), s) := by
  rw [runFrom_reconstruct, storeExecutor, byRule]
  exact runFrom_reconstructFrom_byRule _ s c.toAddress_storeAddress safeRead ownersRead chainId_mem
    pageSize_mem fromStart forward inside carries

/-- The candidates for a nonce are those that its own lists call for. -/
theorem runFrom_transactions_byRule (byRule : c.storeNode = Batch.nodeByRule rule) {safe : Address}
    (safeRead : safeGiven.toAddress = .ok safe)
    (ownersRead : ownersGiven.mapM Value.toAddress = .ok owners)
    (chainId_mem : 0 ≤ chainId ∧ chainId < 2 ^ (256 : Nat))
    (pageSize_mem : 1 ≤ c.settings.pageSize ∧ c.settings.pageSize < 2 ^ (256 : Nat)) {nonce : Int}
    (nonce_mem : 0 ≤ nonce ∧ nonce < 2 ^ (256 : Nat))
    (carries : Batch.Carries rule
      (Reader.largestBatch ⟨c.settings.address, safe, chainId, .int c.settings.pageSize⟩ rule owners
        [nonce])) (s : σ) :
    (c.transactions safeGiven (.int chainId) (.list ownersGiven) (.int nonce) .null).runFrom s =
      (.ok ((((Reader.heldBy ⟨c.settings.address, safe, chainId, .int c.settings.pageSize⟩
        rule).contenders? owners nonce).map Contenders.entries).getD []), s) := by
  rw [← NonceWindow.nonces_one nonce] at carries
  have alone := runFrom_reconstruct_byRule byRule safeRead ownersRead chainId_mem pageSize_mem
    nonce_mem.1 (by decide) (by omega) carries s
  rw [NonceWindow.nonces_one] at alone
  simp only [transactions, Query.runFrom_bind, Query.runFrom_pure, alone,
    Contenders.findGiven?_int, Holdings.find?_queue (List.mem_singleton_self nonce)]

/-- A window read as a whole has the queue of its first part followed by that of the rest, and the
candidates for any one of its nonces are the entries of the group in the queue, over any node that
replies to each call by a rule. A Safe that cannot be read, or pages of no size, make all of these
fail alike; in every other case they are read.

The whole window has to fit into batches, of which a machine cannot hold the largest. -/
theorem reconstruct_window_append (byRule : c.storeNode = Batch.nodeByRule rule) (s : σ)
    (ownersRead : ownersGiven.mapM Value.toAddress = .ok owners)
    (chainId_mem : 0 ≤ chainId ∧ chainId < 2 ^ (256 : Nat))
    (pageSize_mem : 0 ≤ c.settings.pageSize ∧ c.settings.pageSize < 2 ^ (256 : Nat))
    {first later : Int} (fromStart : 0 ≤ start) (forward : 0 ≤ first) (further : 0 ≤ later)
    (inside : start + first + later ≤ 2 ^ (256 : Nat))
    (carries : ∀ safe, safeGiven.toAddress = .ok safe → Batch.Carries rule
      (Reader.largestBatch ⟨c.settings.address, safe, chainId, .int c.settings.pageSize⟩ rule owners
        (NonceWindow.nonces ⟨start, (first + later).toNat⟩))) :
    (c.reconstruct safeGiven (.int chainId) (.list ownersGiven) (.int start) (.int (first + later))
        .null).runFrom s =
      (do
        let groups ← c.reconstruct safeGiven (.int chainId) (.list ownersGiven) (.int start)
          (.int first) .null
        let others ← c.reconstruct safeGiven (.int chainId) (.list ownersGiven)
          (.int (start + first)) (.int later) .null
        return groups ++ others : Query σ (List Contenders)).runFrom s ∧
    (∀ nonce, start ≤ nonce → nonce < start + first + later →
      (c.transactions safeGiven (.int chainId) (.list ownersGiven) (.int nonce) .null).runFrom s =
        (do
          let groups ← c.reconstruct safeGiven (.int chainId) (.list ownersGiven) (.int start)
            (.int (first + later)) .null
          return ((Contenders.find? groups nonce).map Contenders.entries).getD [] :
            Query σ (List Candidate)).runFrom s) ∧
    ∀ safe, safeGiven.toAddress = .ok safe → 1 ≤ c.settings.pageSize →
      ∃ groups, (c.reconstruct safeGiven (.int chainId) (.list ownersGiven) (.int start)
        (.int (first + later)) .null).runFrom s = (.ok groups, s) := by
  cases reader : readerFor (.bytes c.settings.address.bytes) safeGiven (.int chainId)
      (.int c.settings.pageSize) with
  | error e =>
      refine ⟨?_, ?_, ?_⟩
      · simp only [Query.runFrom_bind, runFrom_reconstruct_of_readerFor reader]
      · intro nonce _ _
        simp only [transactions, Query.runFrom_bind, runFrom_reconstruct_of_readerFor reader]
      · intro safe safeRead positive
        have made := reader.symm.trans
          ((readerFor_eq_ok_iff c.toAddress_storeAddress safeRead).2 ⟨positive, rfl⟩)
        cases made
  | ok r =>
      obtain ⟨_, safe, -, safeRead⟩ := exists_read_of_readerFor reader
      have positive := ((readerFor_eq_ok_iff c.toAddress_storeAddress safeRead).1 reader).1
      have sized := And.intro positive pageSize_mem.2
      -- Every part of the window fits into batches if the whole does.
      have fits : ∀ {nonces : List Int},
          nonces.Sublist (NonceWindow.nonces ⟨start, (first + later).toNat⟩) →
          Batch.Carries rule
            (Reader.largestBatch ⟨c.settings.address, safe, chainId, .int c.settings.pageSize⟩ rule
              owners nonces) :=
        fun isPart => (carries safe safeRead).mono (Reader.largestBatch_mono isPart)
      have cut := NonceWindow.nonces_append start forward further
      have whole := runFrom_reconstruct_byRule byRule safeRead ownersRead chainId_mem sized
        fromStart (Int.add_nonneg forward further) (by omega) (fits (List.Sublist.refl _)) s
      refine ⟨?_, ?_, fun safe _ _ => ⟨_, whole⟩⟩
      · have ahead := runFrom_reconstruct_byRule byRule safeRead ownersRead chainId_mem sized
          fromStart forward (by omega) (fits (cut ▸ List.sublist_append_left _ _)) s
        have behind := runFrom_reconstruct_byRule byRule safeRead ownersRead chainId_mem sized
          (Int.add_nonneg fromStart forward) further inside
          (fits (cut ▸ List.sublist_append_right _ _)) s
        simp only [Query.runFrom_bind, Query.runFrom_pure, whole, ahead, behind, cut,
          Holdings.queue_append]
      · intro nonce least most
        have isAsked : nonce ∈ NonceWindow.nonces ⟨start, (first + later).toNat⟩ :=
          NonceWindow.mem_nonces.2 (by simp only; omega)
        rw [runFrom_transactions_byRule byRule safeRead ownersRead chainId_mem sized
          ⟨Int.le_trans fromStart least, by omega⟩ (fits (List.singleton_sublist.2 isAsked))]
        simp only [Query.runFrom_bind, Query.runFrom_pure, whole, Holdings.find?_queue isAsked]

end Client

/-! ### A window of two nonces -/

/-- A client of a node by whose rule every list holds the same. -/
def Client.telling : Client Unit where
  settings :=
    { rpcUrl := "http://localhost:8545", chainId := 1, address := Store.defaultAddress
      multicallAddress := Batch.defaultAddress, pageSize := 50, maxNonces := 5
      requestTimeout := 10.0, maxRetries := 0, userAgent := "harbour-sdk-py" }
  storeNode := Batch.nodeByRule Batch.tellingRule
  safeNode := Batch.nodeByRule Batch.tellingRule

/-- The window is cut between its two nonces, both of which show the same two hashes. -/
theorem Client.reconstruct_window_append_sample :
    ∃ groups,
      (telling.reconstruct (.bytes (FixedBytes.ofNat 20 1).bytes) (.int 1)
        (.list [.text "0x0000000000000000000000000000000000000002"]) (.int 0) (.int 2)
        .null).runFrom () = (.ok groups, ()) ∧
      (do
        let ahead ← telling.reconstruct (.bytes (FixedBytes.ofNat 20 1).bytes) (.int 1)
          (.list [.text "0x0000000000000000000000000000000000000002"]) (.int 0) (.int 1) .null
        let behind ← telling.reconstruct (.bytes (FixedBytes.ofNat 20 1).bytes) (.int 1)
          (.list [.text "0x0000000000000000000000000000000000000002"]) (.int 1) (.int 1) .null
        return ahead ++ behind : Query Unit (List Contenders)).runFrom () = (.ok groups, ()) ∧
      (telling.transactions (.bytes (FixedBytes.ofNat 20 1).bytes) (.int 1)
        (.list [.text "0x0000000000000000000000000000000000000002"]) (.int 1) .null).runFrom () =
          (.ok (((Contenders.find? groups 1).map Contenders.entries).getD []), ()) := by
  have safeRead : (Value.bytes (FixedBytes.ofNat 20 1).bytes).toAddress = .ok (.ofNat 1) := rfl
  have ownersRead : [Value.text "0x0000000000000000000000000000000000000002"].mapM Value.toAddress =
    .ok [.ofNat 2] := rfl
  have carries : ∀ safe, (Value.bytes (FixedBytes.ofNat 20 1).bytes).toAddress = .ok safe →
      Batch.Carries Batch.tellingRule (Reader.largestBatch
        ⟨telling.settings.address, safe, 1, .int telling.settings.pageSize⟩ Batch.tellingRule
        [.ofNat 2] (NonceWindow.nonces ⟨0, ((1 : Int) + 1).toNat⟩)) := by
    intro safe alsoRead
    obtain rfl := Except.ok.inj (safeRead.symm.trans alsoRead)
    exact Reader.carries_sampleWhole_of_le (by decide) (by decide)
  have chainId_mem : (0 : Int) ≤ 1 ∧ (1 : Int) < 2 ^ (256 : Nat) := by decide
  have fromStart : (0 : Int) ≤ 0 := by decide
  have forward : (0 : Int) ≤ 1 := by decide
  obtain ⟨cut, alone, made⟩ := reconstruct_window_append (c := telling) rfl () ownersRead
    chainId_mem (by decide) fromStart forward forward (by decide) carries
  obtain ⟨groups, whole⟩ := made _ safeRead (by decide)
  -- The client is given in full here, so the bind is taken apart by name and not by computation.
  have single := (alone 1 (by decide) (by decide)).trans
    (Query.runFrom_bind_eq_ok.2 ⟨groups, (), whole, Query.runFrom_pure _ _⟩)
  exact ⟨groups, whole, cut ▸ whole, single⟩

end MultisigQueue
