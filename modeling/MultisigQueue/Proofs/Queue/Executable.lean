/-
Module: MultisigQueue.Proofs.Queue.Executable
Purpose: The authorization of a candidate is one that a Safe can accept.
Main exports:
  FullSignature, FullSignature.at?, FullSignature.signer?, Acceptable, Signature.ofOctets?_full,
  authorization_of_ascending, Client.acceptable_authorization
-/
import MultisigQueue.Proofs.Simulation.Chain

namespace MultisigQueue

/-!
A Safe cuts an authorization into pieces of 65 octets, recovers a signer from each, and wants the
signers to be owners in strictly ascending order. The signatures of a candidate are in this order
already, so the authorization holds them one behind the other.
-/

/-- A full signature as a Safe reads it. -/
structure FullSignature where
  r : Word
  s : Word
  v : Nat
deriving DecidableEq, Repr

namespace FullSignature

/-- The full signature in a piece of an authorization. -/
def ofOctets? (piece : Bytes) : Option FullSignature := do
  let r ← FixedBytes.ofBytes? 32 (piece.take 32)
  let s ← FixedBytes.ofBytes? 32 ((piece.drop 32).take 32)
  let v ← piece[64]?
  return ⟨r, s, v.toNat⟩

/-- The full signature at a position of an authorization. -/
def at? (octets : Bytes) (position : Nat) : Option FullSignature :=
  ofOctets? ((octets.drop (65 * position)).take 65)

/-- The signer of a full signature over a hash, if it is one of an externally owned account. -/
def signer? (recovery : Recovery) (hash : Word) (full : FullSignature) : Option Address :=
  if full.v = 27 ∨ full.v = 28 then recovery (full.v - 27) full.r full.s hash else none

end FullSignature

/-- Whether an authorization is made of full signatures over a hash, as many as a threshold asks
for, whose signers are owners in strictly ascending order. -/
def Acceptable (recovery : Recovery) (owners : List Address) (threshold : Int) (hash : Word)
    (octets : Bytes) : Prop :=
  ∃ signers : List Address, octets.length = 65 * signers.length ∧ threshold ≤ signers.length ∧
    (∀ (position : Nat) (below : position < signers.length),
      (FullSignature.at? octets position).bind (FullSignature.signer? recovery hash) =
        some signers[position]) ∧
    Ascending FixedBytes.toNat signers ∧ ∀ signer ∈ signers, signer ∈ owners

namespace Signature

theorem yParity_lt (g : Signature) : g.yParity < 2 := by
  have small : g.vs.toNat < 256 ^ (32 : Nat) := g.vs.toNat_lt
  rw [yParity, Nat.div_lt_iff_lt_mul (by decide)]
  exact Nat.lt_of_lt_of_le small (by decide)

theorem length_full (g : Signature) : g.full.length = 65 := by
  simp [full, FixedBytes.length_eq]

/-- A full signature is read back from its octets. -/
theorem ofOctets?_full (g : Signature) :
    FullSignature.ofOctets? g.full = some ⟨g.r, g.s, 27 + g.yParity⟩ := by
  have parity := g.yParity_lt
  have first : g.full.take 32 = g.r.bytes := by
    rw [full, List.append_assoc, List.take_left' g.r.length_eq]
  have second : (g.full.drop 32).take 32 = g.s.bytes := by
    rw [full, List.append_assoc, List.drop_left' g.r.length_eq, List.take_left' g.s.length_eq]
  have last : g.full[64]? = some (UInt8.ofNat g.v) := by
    have behind : (g.r.bytes ++ g.s.bytes).length = 64 := by simp [FixedBytes.length_eq]
    rw [full, List.getElem?_append_right (by omega), behind]
    rfl
  have small : (UInt8.ofNat g.v).toNat = 27 + g.yParity := by
    rw [v, UInt8.toNat_ofNat', Nat.mod_eq_of_lt (by omega)]
  simp [FullSignature.ofOctets?, first, second, last, small]

/-- Whom a Safe takes to be the signer is whom the recovery says. -/
theorem signer?_full (recovery : Recovery) (g : Signature) :
    (FullSignature.ofOctets? g.full).bind (FullSignature.signer? recovery g.txHash) =
      signerUnder recovery g := by
  have parity := g.yParity_lt
  have isParity : 27 + g.yParity = 27 ∨ 27 + g.yParity = 28 := by omega
  rw [ofOctets?_full, Option.bind_some, FullSignature.signer?, if_pos isParity,
    Nat.add_sub_cancel_left]
  rfl

/-- The full signature at a position is that of the signature there. -/
theorem at?_flatMap_full {signatures : List Signature} {position : Nat}
    (below : position < signatures.length) :
    FullSignature.at? (signatures.flatMap full) position =
      FullSignature.ofOctets? signatures[position].full := by
  induction signatures generalizing position with
  | nil => simp at below
  | cons g rest ih =>
      cases position with
      | zero =>
          rw [FullSignature.at?, Nat.mul_zero, List.drop_zero, List.flatMap_cons,
            List.take_left' g.length_full]
          rfl
      | succ position =>
          have next : (g.full ++ rest.flatMap full).drop (65 * (position + 1)) =
              (rest.flatMap full).drop (65 * position) := by
            rw [show 65 * (position + 1) = 65 + 65 * position by omega, ← List.drop_drop,
              List.drop_left' g.length_full]
          rw [FullSignature.at?, List.flatMap_cons, next]
          exact ih (by simpa using below)

theorem length_flatMap_full (signatures : List Signature) :
    (signatures.flatMap full).length = 65 * signatures.length := by
  induction signatures with
  | nil => rfl
  | cons g rest ih =>
      rw [List.flatMap_cons, List.length_append, length_full, ih, List.length_cons]
      omega

end Signature

/-- Signatures that are in order stay as they are when they are sorted. -/
theorem sortBySigner_of_ascending {signatures : List Signature}
    (ascends : Ascending (fun g => g.signer.toNat) signatures) :
    sortBySigner signatures = signatures := by
  refine List.mergeSort_of_pairwise (ascends.imp ?_)
  intro a b below
  exact decide_eq_true (Nat.le_of_lt below)

theorem authorization_of_ne_nil {signatures : List Signature} (some : signatures ≠ []) :
    authorization signatures = .ok ((sortBySigner signatures).flatMap Signature.full) := by
  rw [authorization, if_neg (by simpa using some)]

/-- The authorization of signatures in order holds them one behind the other. -/
theorem authorization_of_ascending {signatures : List Signature} (some : signatures ≠ [])
    (ascends : Ascending (fun g => g.signer.toNat) signatures) :
    authorization signatures = .ok (signatures.flatMap Signature.full) := by
  rw [authorization_of_ne_nil some, sortBySigner_of_ascending ascends]

/-- A recovery that finds no mismatch among some signatures finds the claimed signer of each. -/
theorem signerUnder_of_mismatchedUnder {recovery : Recovery} {signatures : List Signature}
    (genuine : mismatchedUnder recovery signatures = []) {g : Signature} (member : g ∈ signatures) :
    signerUnder recovery g = some g.signer := by
  have passed := List.filter_eq_nil_iff.1 genuine g member
  simpa using passed

/-- If the signers have made all filings of a ledger, no mismatch is found in its queue. -/
theorem Ledger.mismatchedUnder_eq_nil {l : Ledger} {recovery : Recovery}
    (genuine : ∀ f ∈ l.filings, signerUnder recovery (f.signature.by f.signer) = some f.signer)
    {safe : Address} {chainId : Int} {owners : List Address} {nonces : List Int}
    {group : Contenders} (member : group ∈ (l.holdings safe chainId).queue owners nonces)
    {entry : Candidate} (shown : entry ∈ group.entries) :
    mismatchedUnder recovery entry.signatures = [] := by
  obtain ⟨-, -, -, supported⟩ := (Holdings.mem_group_iff member).1 shown
  refine List.filter_eq_nil_iff.2 ?_
  intro g signs
  rw [supported] at signs
  obtain ⟨stored, found, same⟩ := Option.map_eq_some_iff.1 (Holdings.mem_supporters.1 signs).2
  obtain ⟨f, isListed, rfl⟩ := List.mem_map.1 (List.mem_of_find?_eq_some found)
  obtain ⟨isFiling, ofSigner⟩ := List.mem_filter.1 isListed
  have isSigner : f.signer = g.signer := (of_decide_eq_true ofSigner).1
  have made := genuine f isFiling
  rw [isSigner, same] at made
  simp [made]

/-- By pages of one signature, the sample pass comes to the queue of the sample ledger. -/
theorem Chain.runFrom_samplePass :
    ∃ t, (Client.samplePass 1 (Batch.execute node sample.batchAddress)).runFrom sample =
      (.ok ((Ledger.sample.holdings (.ofNat 1) 1).queue [.ofNat 2, .ofNat 3, .ofNat 2]
        (NonceWindow.nonces ⟨0, 2⟩)), t) := by
  rw [Client.samplePass, Client.runFrom_reconstructFrom rfl rfl rfl (by decide) (by decide)
    (by decide)]
  exact runFrom_reconstruct tells_sample (by decide) (by decide)

/-- Whatever an executor answers, the authorization of a candidate with enough signatures is one
that a Safe can accept, if the signers are whom the recovery says. -/
theorem Client.acceptable_authorization {σ : Type} {executor : Executor σ}
    {store safe chainId pageSize ownersGiven start window : Value} {owners : List Address} {s u : σ}
    {groups : List Contenders} {group : Contenders} {entry : Candidate} {threshold : Int}
    {recovery : Recovery}
    (ownersRead : (do (← ownersGiven.toItems).mapM Value.toAddress) = Except.ok owners)
    (run : (reconstructFrom executor store safe chainId pageSize ownersGiven start window).runFrom s
      = (.ok groups, u))
    (member : group ∈ groups) (shown : entry ∈ group.entries)
    (enough : reaches entry.signatures threshold = true)
    (genuine : mismatchedUnder recovery entry.signatures = []) :
    ∃ octets, authorization entry.signatures = .ok octets ∧
      Acceptable recovery owners threshold entry.hash octets := by
  obtain ⟨readOwners, nonces, ordered, sameOwners⟩ := wellOrdered_of_reconstructFrom run
  obtain rfl : owners = readOwners := by
    have read := sameOwners (List.ne_nil_of_mem member)
    rw [ownersRead] at read
    cases read
    rfl
  have ascends := ordered.signers_ascend group member entry shown
  refine ⟨_, authorization_of_ascending (ordered.signatures_ne_nil group member entry shown)
    ascends, entry.signatures.map Signature.signer, ?length, ?quorum, ?recovered, ?order, ?known⟩
  case length => rw [Signature.length_flatMap_full, List.length_map]
  case quorum => simpa [reaches] using enough
  case order => exact List.pairwise_map.2 ascends
  case recovered =>
    intro position below
    have inside : position < entry.signatures.length := by simpa using below
    have signs : entry.signatures[position] ∈ entry.signatures := List.getElem_mem inside
    rw [Signature.at?_flatMap_full inside,
      ← ordered.signature_hash group member entry shown _ signs, Signature.signer?_full,
      signerUnder_of_mismatchedUnder genuine signs, List.getElem_map]
  case known =>
    intro signer signs
    obtain ⟨g, isSignature, rfl⟩ := List.mem_map.1 signs
    exact ordered.signer_mem group member entry shown g isSignature

/-- The signatures in the sample ledger are genuine if the `r` of a signature tells its signer. -/
theorem Client.acceptable_sample :
    ∃ groups t, (samplePass 1 (Batch.execute Chain.node Chain.sample.batchAddress)).runFrom
        Chain.sample = (.ok groups, t) ∧
      ∃ group ∈ groups, ∃ entry ∈ group.entries, ∃ octets,
        authorization entry.signatures = .ok octets ∧
          Acceptable (fun _ r _ _ => some (.ofNat r.toNat)) [.ofNat 2, .ofNat 3, .ofNat 2] 1
            entry.hash octets := by
  obtain ⟨t, run⟩ := Chain.runFrom_samplePass
  obtain ⟨group, member, -⟩ := Ledger.exists_group_sample [.ofNat 2, .ofNat 3, .ofNat 2] (by decide)
  have ordered := (Ledger.sample.holdings (.ofNat 1) 1).wellOrdered_queue
    [.ofNat 2, .ofNat 3, .ofNat 2] (NonceWindow.ascending_nonces ⟨0, 2⟩)
  obtain ⟨entry, shown⟩ := List.exists_mem_of_ne_nil _ (ordered.entries_ne_nil group member)
  have some := List.length_pos_iff.2 (ordered.signatures_ne_nil group member entry shown)
  refine ⟨_, t, run, group, member, entry, shown, ?_⟩
  refine acceptable_authorization rfl run member shown ?enough ?genuine
  case enough =>
    simp only [reaches, decide_eq_true_eq]
    omega
  case genuine =>
    exact Ledger.mismatchedUnder_eq_nil (by decide) member shown

end MultisigQueue
