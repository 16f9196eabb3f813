/-
Module: MultisigQueue.Proofs.Queue.Pass
Purpose: What a pass over a window of nonces comes to, whatever the node answers.
Main exports:
  NonceWindow.mem_nonces, resolutionOf, Reader.runFrom_queueOf_eq_ok, Reader.build_eq_queue_told,
  Reader.wellOrdered_reconstruct, Client.runFrom_reconstructFrom,
  Client.exists_queueOf_of_reconstructFrom, Client.wellOrdered_of_reconstructFrom
-/
import MultisigQueue.Client
import MultisigQueue.Proofs.Queue.Rounds

namespace MultisigQueue

/-!
A pass that succeeds is a successful reading followed by one batch of lookups, and its queue is the
one that the pages and the lookups call for. So the queue is in order even if the node is not.
-/

namespace NonceWindow

theorem mem_nonces {w : NonceWindow} {nonce : Int} :
    nonce ∈ w.nonces ↔ w.first ≤ nonce ∧ nonce < w.first + w.count := by
  simp only [nonces, List.mem_map, List.mem_range]
  constructor
  · rintro ⟨i, below, rfl⟩
    omega
  · rintro ⟨least, most⟩
    exact ⟨(nonce - w.first).toNat, by omega, by omega⟩

/-- The nonces of a window up to `2 ^ 256` fit into words. -/
theorem mem_words {start window : Int} (fromStart : 0 ≤ start)
    (inside : start + window ≤ 2 ^ (256 : Nat)) {nonce : Int}
    (member : nonce ∈ nonces ⟨start, window.toNat⟩) : 0 ≤ nonce ∧ nonce < 2 ^ (256 : Nat) := by
  have bounds := mem_nonces.1 member
  simp only at bounds
  omega

theorem ascending_nonces (w : NonceWindow) : Ascending (fun n : Int => n) w.nonces := by
  refine List.pairwise_map.2 (List.pairwise_lt_range.imp ?_)
  intro i j below
  change w.first + (i : Int) < w.first + (j : Int)
  omega

/-- A window is asked for exactly by numbers that are not negative. -/
theorem ofInts_eq_ok_iff {start window : Int} {w : NonceWindow} :
    ofInts start window = .ok w ↔ 0 ≤ start ∧ 0 ≤ window ∧ ⟨start, window.toNat⟩ = w := by
  unfold ofInts
  split
  · rename_i early
    simp [Int.not_le.2 early]
  · split
    · rename_i backward
      simp [Int.not_le.2 backward]
    · rename_i fromStart forward
      simp [Int.not_lt.1 fromStart, Int.not_lt.1 forward]

theorem ofInts_eq_ok {start window : Int} (fromStart : 0 ≤ start) (forward : 0 ≤ window) :
    ofInts start window = .ok ⟨start, window.toNat⟩ :=
  ofInts_eq_ok_iff.2 ⟨fromStart, forward, rfl⟩

end NonceWindow

/-- What some lookups say about a hash. -/
def resolutionOf (records : List Resolution) (hash : Word) : Option Resolution :=
  records.find? fun resolution => resolution.hash = hash

namespace Resolution

/-- A lookup is about the hash that was looked up. -/
@[simp] theorem hash_absorb (hash : Word) (reply : Reply) : (absorb hash reply).hash = hash := by
  unfold absorb
  split
  · split
    · rename_i resolution decoded
      unfold Store.decodeLookup at decoded
      obtain ⟨content, -, same⟩ := bind_eq_ok_iff.1 decoded
      cases same
      cases content <;> rfl
    · rfl
  · rfl

end Resolution

namespace Reader

variable {σ : Type} {r : Reader} {executor : Executor σ} {owners : List Address}
  {nonces : List Int} {s u : σ} {groups : List Contenders}

/-- A queue is made of the pages of a reading and of the lookups of the hashes on them. -/
theorem runFrom_queueOf_eq_ok :
    (r.queueOf executor owners nonces).runFrom s = (.ok groups, u) ↔
      ∃ found t records, r.Reads executor (Cursor.first owners nonces) s found t ∧
        (resolveMany executor r.store (Tally.ofFound found).identities).runFrom t =
          (.ok records, u) ∧
        (Tally.ofFound found).build (resolutionOf records) = groups := by
  simp only [queueOf, Query.runFrom_bind_eq_ok, Query.runFrom_pure, runFrom_readPages_eq_ok]
  constructor
  · rintro ⟨found, t, reads, records, v, looked, same⟩
    cases same
    exact ⟨found, t, records, reads, looked, rfl⟩
  · rintro ⟨found, t, records, reads, looked, rfl⟩
    exact ⟨found, t, reads, records, u, looked, rfl⟩

/-- The queue made in a pass is the one that its pages and lookups call for. -/
theorem build_eq_queue_told (ascends : Ascending (fun n : Int => n) nonces)
    {t : σ} {found : List (Found Int)}
    (reads : r.Reads executor (Cursor.first owners nonces) s found t)
    (records : Word → Option Resolution) :
    (Tally.ofFound found).build records = (told found records).queue owners nonces :=
  reads.ascribed.build_ofFound records ascends

/-- A queue cannot be made only where a call for a page or the executor fails. -/
theorem error_of_queueOf {P : Fault → Prop} {e : Fault}
    (calling : ∀ (c : Cursor Int) e, r.callFor c = .error e → P e)
    (executing : ∀ calls s e t, (executor calls).runFrom s = (.error e, t) → P e)
    (run : (r.queueOf executor owners nonces).runFrom s = (.error e, u)) : P e := by
  rcases Query.runFrom_bind_eq_error.1 run with reading | ⟨found, t, -, run⟩
  · exact error_of_readPages calling executing reading
  · rcases Query.runFrom_bind_eq_error.1 run with looking | ⟨records, v, -, run⟩
    · rcases Query.runFrom_bind_eq_error.1 looking with answering | ⟨replies, w, -, run⟩
      · exact executing _ t e u answering
      · cases run
    · cases run

/-- Whatever an executor answers, a queue is in order. -/
theorem wellOrdered_queueOf (ascends : Ascending (fun n : Int => n) nonces)
    (run : (r.queueOf executor owners nonces).runFrom s = (.ok groups, u)) :
    WellOrdered owners nonces groups := by
  obtain ⟨found, t, records, reads, -, rfl⟩ := runFrom_queueOf_eq_ok.1 run
  rw [build_eq_queue_told ascends reads]
  exact Holdings.wellOrdered_queue _ owners ascends

/-- A pass over a window is empty or makes the queue of the nonces in it. -/
theorem runFrom_reconstruct {start window : Int} (fromStart : 0 ≤ start) (forward : 0 ≤ window) :
    (r.reconstruct executor owners start window).runFrom s =
      if window = 0 ∨ owners = [] then (.ok [], s)
      else (r.queueOf executor owners (NonceWindow.nonces ⟨start, window.toNat⟩)).runFrom s := by
  have read : owners.mapM (fun a => (toAddress a : Except InputError Address)) = .ok owners :=
    mapM_eq_ok_iff.2 (List.forall₂_same.2 fun a _ => toAddress_address a)
  have zero : window.toNat = 0 ↔ window = 0 := by omega
  simp only [reconstruct, NonceWindow.ofInts_eq_ok fromStart forward, queueOfWindow,
    Query.runFrom_bind, Query.runFrom_input, Except.mapError, decide_eq_true_eq, Bool.or_eq_true,
    List.isEmpty_iff, zero]
  split
  · rfl
  · simp only [Query.runFrom_bind, Query.runFrom_input, read, Except.mapError]

/-- Whatever an executor answers, the queue of a window is in order. -/
theorem wellOrdered_reconstruct {start window : Int} (fromStart : 0 ≤ start)
    (forward : 0 ≤ window)
    (run : (r.reconstruct executor owners start window).runFrom s = (.ok groups, u)) :
    WellOrdered owners (NonceWindow.nonces ⟨start, window.toNat⟩) groups := by
  rw [runFrom_reconstruct fromStart forward] at run
  split at run
  · cases run
    constructor <;> simp [Ascending]
  · exact wellOrdered_queueOf (NonceWindow.ascending_nonces _) run

end Reader

/-- A reader of a store and a Safe is made exactly for pages of a positive size. -/
theorem Client.readerFor_eq_ok_iff {storeGiven safeGiven : Value} {store safe : Address}
    {chainId pageSize : Int} {r : Reader} (storeRead : storeGiven.toAddress = .ok store)
    (safeRead : safeGiven.toAddress = .ok safe) :
    readerFor storeGiven safeGiven (.int chainId) (.int pageSize) = .ok r ↔
      0 < pageSize ∧ ⟨store, safe, chainId, .int pageSize⟩ = r := by
  have parts : readerFor storeGiven safeGiven (.int chainId) (.int pageSize) =
      Reader.ofParts store safe chainId (.int pageSize) := by
    simp only [readerFor, storeRead, safeRead, Value.toInt]
    rfl
  rw [parts, Reader.ofParts_int]
  split <;> simp [*]

/-- A pass over arguments of which each can be read is the pass of the reader that they name. -/
theorem Client.runFrom_reconstructFrom {σ : Type} {executor : Executor σ}
    {storeGiven safeGiven : Value} {store safe : Address} {ownersGiven : List Value}
    {owners : List Address} {chainId pageSize start window : Int} {s : σ}
    (storeRead : storeGiven.toAddress = .ok store) (safeRead : safeGiven.toAddress = .ok safe)
    (ownersRead : ownersGiven.mapM Value.toAddress = .ok owners) (positive : 0 < pageSize)
    (fromStart : 0 ≤ start) (forward : 0 ≤ window) :
    (reconstructFrom executor storeGiven safeGiven (.int chainId) (.int pageSize)
        (.list ownersGiven) (.int start) (.int window)).runFrom s =
      (Reader.reconstruct ⟨store, safe, chainId, .int pageSize⟩ executor owners start
        window).runFrom s := by
  have reader : readerFor storeGiven safeGiven (.int chainId) (.int pageSize) =
      .ok ⟨store, safe, chainId, .int pageSize⟩ :=
    (readerFor_eq_ok_iff storeRead safeRead).2 ⟨positive, rfl⟩
  have zero : window.toNat = 0 ↔ window = 0 := by omega
  have empty : ownersGiven = [] ↔ owners = [] := by
    have each := mapM_eq_ok_iff.1 ownersRead
    constructor
    · rintro rfl
      exact List.forall₂_nil_left_iff.1 each
    · rintro rfl
      exact List.forall₂_nil_right_iff.1 each
  rw [Reader.runFrom_reconstruct fromStart forward]
  simp only [reconstructFrom, reader, Query.runFrom_bind, Query.runFrom_input, Except.mapError,
    Reader.reconstructGiven_list, Reader.reconstruct, NonceWindow.ofInts_eq_ok fromStart forward,
    Reader.queueOfWindow, decide_eq_true_eq, Bool.or_eq_true, List.isEmpty_iff, zero, empty]
  split
  · rfl
  · have read : ownersGiven.mapM (fun v => (toAddress v : Except InputError Address)) =
        .ok owners := ownersRead
    simp only [Query.runFrom_bind, Query.runFrom_input, read, Except.mapError]

/-- A queue that is not empty was made by the reader, of owners that can be read. -/
theorem Client.exists_queueOf_of_reconstructFrom {σ : Type} {executor : Executor σ}
    {storeGiven safeGiven : Value} {store safe : Address} {ownersGiven : List Value}
    {chainId pageSize start window : Int} {s u : σ} {groups : List Contenders}
    (storeRead : storeGiven.toAddress = .ok store) (safeRead : safeGiven.toAddress = .ok safe)
    (run : (reconstructFrom executor storeGiven safeGiven (.int chainId) (.int pageSize)
      (.list ownersGiven) (.int start) (.int window)).runFrom s = (.ok groups, u))
    (some : groups ≠ []) :
    0 < pageSize ∧ 0 ≤ start ∧ 0 < window ∧
      ∃ owners ≠ [], ownersGiven.mapM Value.toAddress = .ok owners ∧
        (Reader.queueOf ⟨store, safe, chainId, .int pageSize⟩ executor owners
          (NonceWindow.nonces ⟨start, window.toNat⟩)).runFrom s = (.ok groups, u) := by
  simp only [reconstructFrom, Query.runFrom_bind_eq_ok, Query.runFrom_input, Prod.mk.injEq,
    mapError_eq_ok_iff, readerFor_eq_ok_iff storeRead safeRead, Reader.reconstructGiven_list,
    Reader.reconstruct, NonceWindow.ofInts_eq_ok_iff] at run
  obtain ⟨_, _, ⟨⟨positive, rfl⟩, rfl⟩, _, _, ⟨⟨fromStart, forward, rfl⟩, rfl⟩, run⟩ := run
  rw [Reader.queueOfWindow] at run
  split at run
  · cases run
    exact absurd rfl some
  · rename_i notEmpty
    simp only [Bool.or_eq_true, decide_eq_true_eq, List.isEmpty_iff, not_or] at notEmpty
    simp only [Query.runFrom_bind_eq_ok, Query.runFrom_input, Prod.mk.injEq,
      mapError_eq_ok_iff] at run
    obtain ⟨owners, _, ⟨ownersRead, rfl⟩, run⟩ := run
    refine ⟨positive, fromStart, by omega, owners, ?_, ownersRead, run⟩
    rintro rfl
    exact notEmpty.2 (List.forall₂_nil_right_iff.1 (mapM_eq_ok_iff.1 ownersRead))

/-- Whatever an executor answers and however the arguments are given, a queue is in order; if it is
not empty, it is by the owners that are given. -/
theorem Client.wellOrdered_of_reconstructFrom {σ : Type} {executor : Executor σ}
    {storeGiven safeGiven chainId pageSize ownersGiven start window : Value} {s u : σ}
    {groups : List Contenders}
    (run : (reconstructFrom executor storeGiven safeGiven chainId pageSize ownersGiven start
      window).runFrom s = (.ok groups, u)) :
    ∃ (owners : List Address) (nonces : List Int), WellOrdered owners nonces groups ∧
      (groups ≠ [] → (do (← ownersGiven.toItems).mapM Value.toAddress) = Except.ok owners) := by
  have empty : WellOrdered [] [] [] := by constructor <;> simp [Ascending]
  simp only [reconstructFrom, Reader.reconstructGiven, Reader.queueOfWindow,
    Query.runFrom_bind_eq_ok, Query.runFrom_input, Prod.mk.injEq, mapError_eq_ok_iff] at run
  obtain ⟨r, _, -, w, _, -, run⟩ := run
  split at run
  · cases run
    exact ⟨[], [], empty, fun some => absurd rfl some⟩
  · simp only [Query.runFrom_bind_eq_ok, Query.runFrom_input, Prod.mk.injEq,
      mapError_eq_ok_iff] at run
    obtain ⟨items, _, ⟨listed, -⟩, run⟩ := run
    split at run
    · cases run
      exact ⟨[], [], empty, fun some => absurd rfl some⟩
    · simp only [Query.runFrom_bind_eq_ok, Query.runFrom_input, Prod.mk.injEq,
        mapError_eq_ok_iff] at run
      obtain ⟨owners, _, ⟨read, -⟩, run⟩ := run
      refine ⟨owners, w.nonces, Reader.wellOrdered_queueOf w.ascending_nonces run, fun _ => ?_⟩
      exact bind_eq_ok_iff.2 ⟨items, listed, read⟩

end MultisigQueue
