/-
Module: MultisigQueue.Proofs.Queue.Arguments
Purpose: Arguments for which no page can be asked are refused without asking the node.
Main exports:
  Reader.unaskable, Reader.runFrom_reconstruct_unaskable, Client.Asks, Client.refused_or_asks,
  Client.decided_or_asks, Client.askable_of_reconstructFrom
-/
import MultisigQueue.Proofs.Queue.ByRule

namespace MultisigQueue

/-!
A pass asks a node only if its Safe, its numbers and its owners can be written in requests. What it
comes to otherwise is decided before the first round trip: it depends neither on the node nor, if
there are any and each of them can be read, on the owners.
-/

namespace Reader

/-- The failure of a request one of whose numbers does not fit into a word. -/
def unaskable : Fault := .abi (Store.signaturesFunction.fail .arguments)

variable {σ : Type} {r : Reader} {size : Int} {executor : Executor σ} {owners : List Address}
  {nonces : List Int}

/-- A request for a page fails in no other way. -/
theorem eq_unaskable_of_callFor (sized : r.pageSize = .int size) {c : Cursor Int} {e : Fault}
    (fails : r.callFor c = .error e) : e = unaskable := by
  rw [callFor_int sized, mapError_eq_error_iff] at fails
  obtain ⟨d, fails, rfl⟩ := fails
  simp only [Store.pageCall, AbiFunction.encode] at fails
  split at fails
  · rename_i otherCount
    exact absurd rfl otherCount
  · split at fails
    · cases fails
    · cases fails
      rfl

/-- The first requests can be made only if all numbers fit into words. -/
theorem askable_of_mapM_callFor (sized : r.pageSize = .int size) (positive : 0 < size)
    {calls : List Call} (asked : (Cursor.first owners nonces).mapM r.callFor = .ok calls)
    {owner : Address} (isOwner : owner ∈ owners) {nonce : Int} (isAsked : nonce ∈ nonces) :
    r.Askable ∧ 0 ≤ nonce ∧ nonce < 2 ^ (256 : Nat) := by
  have isFirst : (⟨owner, nonce, 0⟩ : Cursor Int) ∈ Cursor.first owners nonces :=
    Cursor.mem_first.2 ⟨isOwner, isAsked, rfl⟩
  obtain ⟨call, -, called⟩ := exists_ok_of_mapM asked isFirst
  obtain ⟨readerAskable, askable⟩ := askable_of_callFor sized positive called
  exact ⟨readerAskable, askable.1⟩

/-- The first requests fail for numbers that do not fit into words. -/
theorem mapM_callFor_unaskable (sized : r.pageSize = .int size) (positive : 0 < size)
    (someOwner : owners ≠ []) {nonce : Int} (isAsked : nonce ∈ nonces)
    (tooLarge : ¬(r.Askable ∧ 0 ≤ nonce ∧ nonce < 2 ^ (256 : Nat))) :
    Cursor.first owners nonces ≠ [] ∧
      (Cursor.first owners nonces).mapM r.callFor = .error unaskable := by
  obtain ⟨owner, isOwner⟩ := List.exists_mem_of_ne_nil _ someOwner
  have isFirst : (⟨owner, nonce, 0⟩ : Cursor Int) ∈ Cursor.first owners nonces :=
    Cursor.mem_first.2 ⟨isOwner, isAsked, rfl⟩
  refine ⟨List.ne_nil_of_mem isFirst, ?_⟩
  cases asked : (Cursor.first owners nonces).mapM r.callFor with
  | error e =>
      obtain ⟨c, -, failure⟩ := exists_error_of_mapM asked
      rw [eq_unaskable_of_callFor sized failure]
  | ok calls =>
      exact absurd (askable_of_mapM_callFor sized positive asked isOwner isAsked) tooLarge

/-- A queue for numbers that do not fit into words fails with the first requests. -/
theorem runFrom_queueOf_unaskable (sized : r.pageSize = .int size) (positive : 0 < size)
    (someOwner : owners ≠ []) {nonce : Int} (isAsked : nonce ∈ nonces)
    (tooLarge : ¬(r.Askable ∧ 0 ≤ nonce ∧ nonce < 2 ^ (256 : Nat))) (s : σ) :
    (r.queueOf executor owners nonces).runFrom s = (.error unaskable, s) := by
  obtain ⟨some, fails⟩ := mapM_callFor_unaskable sized positive someOwner isAsked tooLarge
  rw [queueOf, readPages, if_neg some]
  simp only [Query.runFrom_bind, Query.runFrom_mapM, fails]

/-- A pass over numbers that do not fit into words fails with the first requests. -/
theorem runFrom_reconstruct_unaskable {start window : Int} (sized : r.pageSize = .int size)
    (positive : 0 < size) (someOwner : owners ≠ []) (fromStart : 0 ≤ start) (forward : 0 < window)
    (tooLarge : ¬(r.Askable ∧ start + window ≤ 2 ^ (256 : Nat))) (s : σ) :
    (r.reconstruct executor owners start window).runFrom s = (.error unaskable, s) := by
  have isLast : start + window - 1 ∈ NonceWindow.nonces ⟨start, window.toNat⟩ :=
    NonceWindow.mem_nonces.2 (by simp only; omega)
  have notEmpty : ¬(window = 0 ∨ owners = []) := by
    rintro (rfl | none)
    · exact absurd forward (by decide)
    · exact someOwner none
  rw [runFrom_reconstruct fromStart (Int.le_of_lt forward), if_neg notEmpty]
  refine runFrom_queueOf_unaskable sized positive someOwner isLast ?_ s
  rintro ⟨askable, -, fits⟩
  exact tooLarge ⟨askable, by omega⟩

end Reader

namespace Client

/-- Whether a store, a Safe and the numbers of a pass can be read and written in requests. -/
structure Asks (storeGiven safeGiven : Value) (chainId pageSize start window : Int)
    (store safe : Address) : Prop where
  storeRead : storeGiven.toAddress = .ok store
  safeRead : safeGiven.toAddress = .ok safe
  chainId_mem : 0 ≤ chainId ∧ chainId < 2 ^ (256 : Nat)
  pageSize_mem : 1 ≤ pageSize ∧ pageSize < 2 ^ (256 : Nat)
  fromStart : 0 ≤ start
  forward : 0 ≤ window
  inside : start + window ≤ 2 ^ (256 : Nat)

variable {storeGiven safeGiven : Value} {chainId pageSize start window : Int}

theorem exists_read_of_readerFor {r : Reader}
    (reader : readerFor storeGiven safeGiven (.int chainId) (.int pageSize) = .ok r) :
    ∃ store safe, storeGiven.toAddress = .ok store ∧ safeGiven.toAddress = .ok safe := by
  obtain ⟨store, storeRead, reader⟩ := bind_eq_ok_iff.1 reader
  obtain ⟨safe, safeRead, -⟩ := bind_eq_ok_iff.1 reader
  exact ⟨store, safe, storeRead, safeRead⟩

/-- A pass for which no reader can be made ends with that. -/
theorem runFrom_reconstructFrom_of_readerFor {σ : Type} {executor : Executor σ}
    {chainId pageSize owners start window : Value} {e : InputError}
    (fails : readerFor storeGiven safeGiven chainId pageSize = .error e) (s : σ) :
    (reconstructFrom executor storeGiven safeGiven chainId pageSize owners start window).runFrom s =
      (.error (.input e), s) := by
  simp only [reconstructFrom, fails, Query.runFrom_bind, Query.runFrom_input, Except.mapError]

/-- A pass is refused for its Safe or its numbers, or it is that of a reader over a window. -/
theorem refused_or_windowed (storeGiven safeGiven : Value) (chainId pageSize start window : Int) :
    (∃ e, ∀ {σ : Type} (executor : Executor σ) (ownersGiven : List Value) (s : σ),
      (reconstructFrom executor storeGiven safeGiven (.int chainId) (.int pageSize)
        (.list ownersGiven) (.int start) (.int window)).runFrom s = (.error (.input e), s)) ∨
    ∃ r w, readerFor storeGiven safeGiven (.int chainId) (.int pageSize) = .ok r ∧
      NonceWindow.ofInts start window = .ok w ∧
      ∀ {σ : Type} (executor : Executor σ) (ownersGiven : List Value) (s : σ),
        (reconstructFrom executor storeGiven safeGiven (.int chainId) (.int pageSize)
          (.list ownersGiven) (.int start) (.int window)).runFrom s =
            (r.queueOfWindow executor ownersGiven w).runFrom s := by
  cases reader : readerFor storeGiven safeGiven (.int chainId) (.int pageSize) with
  | error e =>
      exact .inl ⟨e, fun executor ownersGiven s => runFrom_reconstructFrom_of_readerFor reader s⟩
  | ok r =>
      cases windowed : NonceWindow.ofInts start window with
      | error e =>
          refine .inl ⟨e, fun executor ownersGiven s => ?_⟩
          simp only [reconstructFrom, reader, Query.runFrom_bind, Query.runFrom_input,
            Except.mapError, Reader.reconstructGiven_list, Reader.reconstruct, windowed]
      | ok w =>
          refine .inr ⟨r, w, rfl, rfl, fun executor ownersGiven s => ?_⟩
          simp only [reconstructFrom, reader, Query.runFrom_bind, Query.runFrom_input,
            Except.mapError, Reader.reconstructGiven_list, Reader.reconstruct, windowed]

/-- Either a pass is decided by its arguments, the same for all owners and every node, or everything
but the owners can be asked for. -/
theorem refused_or_asks (storeGiven safeGiven : Value) (chainId pageSize start window : Int) :
    (∃ result, ∀ {σ : Type} (executor : Executor σ) (ownersGiven : List Value)
        (owners : List Address) (s : σ), ownersGiven.mapM Value.toAddress = .ok owners →
          owners ≠ [] → (reconstructFrom executor storeGiven safeGiven (.int chainId)
            (.int pageSize) (.list ownersGiven) (.int start) (.int window)).runFrom s =
              (result, s)) ∨
      ∃ store safe, Asks storeGiven safeGiven chainId pageSize start window store safe := by
  rcases refused_or_windowed storeGiven safeGiven chainId pageSize start window with
    ⟨e, refused⟩ | ⟨r, w, reader, windowed, -⟩
  · exact .inl ⟨_, fun executor ownersGiven _ s _ _ => refused executor ownersGiven s⟩
  obtain ⟨store, safe, storeRead, safeRead⟩ := exists_read_of_readerFor reader
  obtain ⟨positive, rfl⟩ := (readerFor_eq_ok_iff storeRead safeRead).1 reader
  obtain ⟨fromStart, forward, -⟩ := NonceWindow.ofInts_eq_ok_iff.1 windowed
  by_cases empty : window = 0
  · refine .inl ⟨.ok [], fun executor ownersGiven owners s ownersRead _ => ?_⟩
    rw [runFrom_reconstructFrom storeRead safeRead ownersRead positive fromStart forward,
      Reader.runFrom_reconstruct fromStart forward, if_pos (.inl empty)]
  by_cases askable : Reader.Askable ⟨store, safe, chainId, .int pageSize⟩ ∧
      start + window ≤ 2 ^ (256 : Nat)
  · obtain ⟨size, sized, pageSize_mem⟩ := askable.1.pageSize
    cases sized
    exact .inr ⟨store, safe, storeRead, safeRead, askable.1.chainId, pageSize_mem, fromStart,
      forward, askable.2⟩
  · refine .inl ⟨.error Reader.unaskable,
      fun executor ownersGiven owners s ownersRead someOwner => ?_⟩
    rw [runFrom_reconstructFrom storeRead safeRead ownersRead positive fromStart forward]
    exact Reader.runFrom_reconstruct_unaskable rfl positive someOwner fromStart (by omega) askable s

/-- Owners who cannot be read, or of whom there are none, decide a pass for every node. -/
theorem refused_of_owners {ownersGiven : List Value}
    (nobody : ∀ owners, ownersGiven.mapM Value.toAddress = .ok owners → owners = [])
    (storeGiven safeGiven : Value) (chainId pageSize start window : Int) :
    ∃ result, ∀ {σ : Type} (executor : Executor σ) (s : σ),
      (reconstructFrom executor storeGiven safeGiven (.int chainId) (.int pageSize)
        (.list ownersGiven) (.int start) (.int window)).runFrom s = (result, s) := by
  rcases refused_or_windowed storeGiven safeGiven chainId pageSize start window with
    ⟨e, refused⟩ | ⟨r, w, -, -, pass⟩
  · exact ⟨_, fun executor s => refused executor ownersGiven s⟩
  by_cases empty : (decide (w.count = 0) || ownersGiven.isEmpty) = true
  · exact ⟨.ok [], fun executor s => by rw [pass, Reader.queueOfWindow, if_pos empty]; rfl⟩
  cases read : ownersGiven.mapM (fun v => (toAddress v : Except InputError Address)) with
  | error e =>
      refine ⟨.error (.input e), fun executor s => ?_⟩
      rw [pass, Reader.queueOfWindow, if_neg empty]
      simp only [Query.runFrom_bind, Query.runFrom_input, read, Except.mapError]
  | ok owners =>
      obtain rfl := nobody owners read
      have none : ownersGiven = [] := List.forall₂_nil_right_iff.1 (mapM_eq_ok_iff.1 read)
      exact absurd (by simp [none]) empty

/-- Either a pass is decided by its arguments, the same for every node, or all of them can be asked
for. -/
theorem decided_or_asks (storeGiven safeGiven : Value) (chainId pageSize : Int)
    (ownersGiven : List Value) (start window : Int) :
    (∃ result, ∀ {σ : Type} (executor : Executor σ) (s : σ),
      (reconstructFrom executor storeGiven safeGiven (.int chainId) (.int pageSize)
        (.list ownersGiven) (.int start) (.int window)).runFrom s = (result, s)) ∨
      ∃ store safe owners, Asks storeGiven safeGiven chainId pageSize start window store safe ∧
        ownersGiven.mapM Value.toAddress = .ok owners := by
  by_cases nobody : ∀ owners, ownersGiven.mapM Value.toAddress = .ok owners → owners = []
  · exact .inl (refused_of_owners nobody storeGiven safeGiven chainId pageSize start window)
  · simp only [not_forall] at nobody
    obtain ⟨owners, ownersRead, someOwner⟩ := nobody
    rcases refused_or_asks storeGiven safeGiven chainId pageSize start window with
      ⟨result, refused⟩ | ⟨store, safe, asks⟩
    · exact .inl ⟨result, fun executor s => refused executor _ owners s ownersRead someOwner⟩
    · exact .inr ⟨store, safe, owners, asks, ownersRead⟩

/-- A queue that is not empty was asked for by numbers that fit into words. -/
theorem askable_of_reconstructFrom {σ : Type} {executor : Executor σ} {store safe : Address}
    {ownersGiven : List Value} {s u : σ} {groups : List Contenders}
    (storeRead : storeGiven.toAddress = .ok store) (safeRead : safeGiven.toAddress = .ok safe)
    (run : (reconstructFrom executor storeGiven safeGiven (.int chainId) (.int pageSize)
      (.list ownersGiven) (.int start) (.int window)).runFrom s = (.ok groups, u))
    (some : groups ≠ []) :
    ∃ owners, ownersGiven.mapM Value.toAddress = .ok owners ∧
      (0 ≤ chainId ∧ chainId < 2 ^ (256 : Nat)) ∧ (1 ≤ pageSize ∧ pageSize < 2 ^ (256 : Nat)) ∧
        0 ≤ start ∧ 0 ≤ window ∧ start + window ≤ 2 ^ (256 : Nat) := by
  obtain ⟨positive, fromStart, forward, owners, some, ownersRead, run⟩ :=
    exists_queueOf_of_reconstructFrom storeRead safeRead run some
  obtain ⟨found, t, records, reads, -, -⟩ := Reader.runFrom_queueOf_eq_ok.1 run
  obtain ⟨owner, isOwner⟩ := List.exists_mem_of_ne_nil owners some
  -- The request for the last nonce of the window has been made.
  have isAsked : start + window - 1 ∈ NonceWindow.nonces ⟨start, window.toNat⟩ := by
    apply NonceWindow.mem_nonces.2
    simp only
    omega
  have isFirst : ⟨owner, start + window - 1, 0⟩ ∈ Cursor.first owners _ :=
    Cursor.mem_first.2 ⟨isOwner, isAsked, rfl⟩
  obtain ⟨call, called⟩ := reads.exists_callFor isFirst
  obtain ⟨reader, cursor⟩ := Reader.askable_of_callFor rfl positive called
  obtain ⟨_, same, pageSize_mem⟩ := reader.pageSize
  cases same
  have below : start + window - 1 < 2 ^ (256 : Nat) := cursor.1.2
  exact ⟨owners, ownersRead, reader.chainId, pageSize_mem, fromStart, Int.le_of_lt forward,
    by omega⟩

end Client

end MultisigQueue
