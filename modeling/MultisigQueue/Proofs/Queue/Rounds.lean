/-
Module: MultisigQueue.Proofs.Queue.Rounds
Purpose: Successful readings of lists of signatures, one round of replies after the other.
Main exports:
  Reader.Reads, Reader.runFrom_readPages_eq_ok, Reader.error_of_readPages, Reader.Reads.page_origin,
  Reader.Reads.ascribed
-/
import MultisigQueue.Proofs.Query
import MultisigQueue.Proofs.Queue.Tally

namespace MultisigQueue

/-!
A reading that succeeds is a finite sequence of rounds. In each of them the calls of all open
cursors are made in one batch, every cursor absorbs the reply at its position, and those that are
not at the end of their lists stay open. What a round preserves is therefore preserved by the
reading, whatever the executor answers.
-/

namespace Cursor

variable {ν : Type} {c d : Cursor ν} {reply : Reply} {signatures : List Signature}

/-- A cursor stays in its list. -/
theorem key_of_absorb (absorbed : c.absorb reply = (signatures, some d)) : d.key = c.key := by
  unfold absorb at absorbed
  split at absorbed
  · split at absorbed
    · simp only at absorbed
      split at absorbed
      · cases absorbed
      · cases absorbed
        rfl
    · cases absorbed
  · cases absorbed

/-- A page that yields a signature has been decoded, and the signature stands on it. -/
theorem exists_page_of_mem_absorb {g : Signature} (yields : g ∈ (c.absorb reply).1) :
    ∃ page, reply.success = true ∧ Store.decodePage reply.data = .ok page ∧
      g ∈ page.signatures c.owner := by
  unfold absorb at yields
  split at yields
  · rename_i hasData
    cases decoded : Store.decodePage reply.data with
    | error e =>
        simp [Store.decodeSignatures, decoded, bind, Except.bind] at yields
    | ok page =>
        refine ⟨page, by simp [Reply.hasData] at hasData; exact hasData.1, rfl, ?_⟩
        simp only [Store.decodeSignatures, decoded, bind, Except.bind, pure, Except.pure] at yields
        split at yields <;> exact yields
  · simp at yields

/-- Every signature is ascribed to the owner in whose list it was found. -/
theorem signer_of_mem_absorb {g : Signature} (yields : g ∈ (c.absorb reply).1) :
    g.signer = c.owner := by
  obtain ⟨page, -, -, member⟩ := exists_page_of_mem_absorb yields
  obtain ⟨stored, -, rfl⟩ := List.mem_map.1 member
  rfl

variable {pending : List (Cursor ν)} {replies : List Reply}

/-- A round pairs every cursor with what it absorbs of the reply at its position. -/
theorem mem_yields {yielded : List Signature × Option (Cursor ν)} :
    (c, yielded) ∈ List.zipWith (fun c reply => (c, c.absorb reply)) pending replies ↔
      ∃ reply, (c, reply) ∈ pending.zip replies ∧ c.absorb reply = yielded := by
  rw [← List.map_uncurry_zip_eq_zipWith, List.mem_map]
  constructor
  · rintro ⟨⟨d, reply⟩, together, same⟩
    cases same
    exact ⟨reply, together, rfl⟩
  · rintro ⟨reply, together, rfl⟩
    exact ⟨(c, reply), together, rfl⟩

/-- A page that a round yields is what a cursor absorbed of the reply at its position. -/
theorem exists_of_mem_absorbRound {page : Found ν}
    (yielded : page ∈ (absorbRound pending replies).1) :
    ∃ reply, (page.cursor, reply) ∈ pending.zip replies ∧
      (page.cursor.absorb reply).1 = page.signatures := by
  simp only [absorbRound, List.mem_filterMap] at yielded
  obtain ⟨⟨c, signatures, next⟩, member, kept⟩ := yielded
  obtain ⟨reply, together, absorbed⟩ := mem_yields.1 member
  split at kept
  · cases kept
  · cases kept
    exact ⟨reply, together, by rw [absorbed]⟩

/-- A cursor that stays open comes from an open one in the same list. -/
theorem exists_of_mem_pending (next : d ∈ (absorbRound pending replies).2) :
    ∃ c reply, (c, reply) ∈ pending.zip replies ∧ (c.absorb reply).2 = some d ∧ d.key = c.key := by
  simp only [absorbRound, List.mem_filterMap] at next
  obtain ⟨⟨c, signatures, follower⟩, member, kept⟩ := next
  obtain ⟨reply, together, absorbed⟩ := mem_yields.1 member
  simp only at kept
  subst kept
  exact ⟨c, reply, together, by rw [absorbed], key_of_absorb absorbed⟩

/-- A cursor that absorbs a reply and stays open is open after the round. -/
theorem mem_pending_of_absorb (together : (c, reply) ∈ pending.zip replies)
    (next : (c.absorb reply).2 = some d) : d ∈ (absorbRound pending replies).2 := by
  simp only [absorbRound, List.mem_filterMap]
  exact ⟨(c, c.absorb reply), mem_yields.2 ⟨reply, together, rfl⟩, next⟩

end Cursor

namespace Reader

variable {σ ν : Type} [IntegerLike ν]

/-- The call at a cursor in a list of a numbered nonce, by pages of a number of signatures. -/
theorem callFor_int {r : Reader} {pageSize : Int} (sized : r.pageSize = .int pageSize)
    (c : Cursor Int) :
    r.callFor c = (Store.pageCall r.store c.owner r.safe r.chainId c.nonce c.offset
      pageSize).mapError Fault.abi := by
  rw [callFor, sized]
  rfl

/-- A successful reading of some lists: the pages found, and the states of the node before and after
it. -/
inductive Reads (r : Reader) (executor : Executor σ) :
    List (Cursor ν) → σ → List (Found ν) → σ → Prop where
  | done (s : σ) : Reads r executor [] s [] s
  | round {pending : List (Cursor ν)} {calls : List Call} {replies : List Reply} {s t u : σ}
      {later : List (Found ν)} (isOpen : pending ≠ [])
      (asked : pending.mapM r.callFor = .ok calls)
      (answered : (executor calls).runFrom s = (.ok replies, t))
      (rest : Reads r executor (Cursor.absorbRound pending replies).2 t later u) :
      Reads r executor pending s ((Cursor.absorbRound pending replies).1 ++ later) u

variable {r : Reader} {executor : Executor σ} {pending : List (Cursor ν)} {s u : σ}
  {found : List (Found ν)}

/-- The pages of lists are read exactly by the successful readings. -/
theorem runFrom_readPages_eq_ok :
    (r.readPages executor pending).runFrom s = (.ok found, u) ↔
      r.Reads executor pending s found u := by
  constructor
  · intro run
    induction pending using readPages.induct generalizing s found with
    | case1 =>
        rw [readPages, if_pos rfl] at run
        cases run
        exact .done _
    | case2 pending isOpen ih =>
        rw [readPages, if_neg isOpen] at run
        simp only [Query.runFrom_bind_eq_ok, Query.runFrom_mapM, Query.runFrom_pure] at run
        obtain ⟨calls, t, asking, replies, v, answered, later, w, rest, same⟩ := run
        obtain ⟨asked, rfl⟩ := Prod.mk.inj asking
        cases same
        exact .round isOpen asked answered (ih replies rest)
  · intro reads
    induction reads with
    | done => rw [readPages, if_pos rfl, Query.runFrom_pure]
    | round isOpen asked answered rest ih =>
        rw [readPages, if_neg isOpen]
        simp only [Query.runFrom_bind, Query.runFrom_mapM, asked, answered, ih,
          Query.runFrom_pure]

/-- A reading fails only as a call for a page or the executor does. -/
theorem error_of_readPages {P : Fault → Prop} {e : Fault}
    (calling : ∀ (c : Cursor ν) e, r.callFor c = .error e → P e)
    (executing : ∀ calls s e t, (executor calls).runFrom s = (.error e, t) → P e)
    (run : (r.readPages executor pending).runFrom s = (.error e, u)) : P e := by
  induction pending using readPages.induct generalizing s with
  | case1 =>
      rw [readPages, if_pos rfl] at run
      cases run
  | case2 pending isOpen ih =>
      rw [readPages, if_neg isOpen, Query.runFrom_bind_eq_error] at run
      rcases run with asking | ⟨calls, _, _, run⟩
      · rw [Query.runFrom_mapM] at asking
        obtain ⟨c, -, failure⟩ := exists_error_of_mapM (Prod.mk.inj asking).1
        exact calling c e failure
      · rcases Query.runFrom_bind_eq_error.1 run with answering | ⟨replies, t, _, run⟩
        · exact executing calls _ e u answering
        · rcases Query.runFrom_bind_eq_error.1 run with later | ⟨later, _, _, same⟩
          · exact ih replies later
          · cases same

namespace Reads

/-- A reading has made the call at each of its first cursors. -/
theorem exists_callFor (reads : r.Reads executor pending s found u) {c : Cursor ν}
    (member : c ∈ pending) : ∃ call, r.callFor c = .ok call := by
  cases reads with
  | done => cases member
  | round _ asked _ _ =>
      obtain ⟨call, -, called⟩ := exists_ok_of_mapM asked member
      exact ⟨call, called⟩

/-- What every batch preserves, a reading preserves. -/
theorem preserves {P : σ → Prop}
    (step : ∀ {calls replies s t}, (executor calls).runFrom s = (.ok replies, t) → P s → P t)
    (reads : r.Reads executor pending s found u) (atStart : P s) : P u := by
  induction reads with
  | done s => exact atStart
  | round _ _ answered _ ih => exact ih (step answered atStart)

/-- Every page of a reading was absorbed in one of its rounds by a cursor whose call was in the
batch of the round; `recorded` is what the state of the node keeps of the batch. -/
theorem page_origin (recorded : σ → List Call → List Reply → Prop)
    (records : ∀ {calls replies s t}, calls ≠ [] → (executor calls).runFrom s = (.ok replies, t) →
      recorded t calls replies)
    (remembers : ∀ {calls replies others answers s t},
      (executor others).runFrom s = (.ok answers, t) → recorded s calls replies →
        recorded t calls replies)
    (reads : r.Reads executor pending s found u) {page : Found ν} (member : page ∈ found) :
    ∃ (cursors : List (Cursor ν)) (calls : List Call) (replies : List Reply) (reply : Reply),
      recorded u calls replies ∧ cursors.mapM r.callFor = .ok calls ∧
        (page.cursor, reply) ∈ cursors.zip replies ∧
        (page.cursor.absorb reply).1 = page.signatures := by
  induction reads with
  | done s => cases member
  | @round pending calls replies s t u later isOpen asked answered rest ih =>
      rcases List.mem_append.1 member with now | afterwards
      · obtain ⟨reply, together, absorbed⟩ := Cursor.exists_of_mem_absorbRound now
        have some : calls ≠ [] := ne_nil_of_mapM asked isOpen
        have known : recorded u calls replies :=
          rest.preserves (P := fun s => recorded s calls replies) remembers (records some answered)
        exact ⟨pending, calls, replies, reply, known, asked, together, absorbed⟩
      · exact ih afterwards

/-- Every page of a reading is of a list that was asked for, and its signatures are ascribed to the
owner of this list. -/
theorem page_ascribed (reads : r.Reads executor pending s found u) {page : Found ν}
    (member : page ∈ found) :
    page.cursor.key ∈ pending.map Cursor.key ∧
      ∀ g ∈ page.signatures, g.signer = page.cursor.owner := by
  induction reads with
  | done s => cases member
  | round _ _ _ _ ih =>
      rcases List.mem_append.1 member with now | afterwards
      · obtain ⟨reply, together, absorbed⟩ := Cursor.exists_of_mem_absorbRound now
        refine ⟨List.mem_map_of_mem (List.of_mem_zip together).1, ?_⟩
        intro g onPage
        rw [← absorbed] at onPage
        exact Cursor.signer_of_mem_absorb onPage
      · obtain ⟨listed, ascribed⟩ := ih afterwards
        refine ⟨?_, ascribed⟩
        obtain ⟨d, next, same⟩ := List.mem_map.1 listed
        obtain ⟨c, reply, together, -, sameKey⟩ := Cursor.exists_of_mem_pending next
        rw [← same, sameKey]
        exact List.mem_map_of_mem (List.of_mem_zip together).1

end Reads

end Reader

namespace Cursor

/-- The first cursors of some owners and nonces are in the lists of these. -/
theorem mem_first {ν : Type} {owners : List Address} {nonces : List ν} {c : Cursor ν} :
    c ∈ first owners nonces ↔ c.owner ∈ owners ∧ c.nonce ∈ nonces ∧ c.offset = 0 := by
  simp only [first, List.mem_flatMap, List.mem_map, List.mem_eraseDups]
  constructor
  · rintro ⟨nonce, asked, owner, isOwner, rfl⟩
    exact ⟨isOwner, asked, rfl⟩
  · rintro ⟨isOwner, asked, atStart⟩
    refine ⟨c.nonce, asked, c.owner, isOwner, ?_⟩
    rcases c with ⟨owner, nonce, offset⟩
    simp only at atStart
    rw [atStart]

end Cursor

/-- The pages of a reading from the first cursors on are of the lists asked for. -/
theorem Reader.Reads.ascribed {σ : Type} {r : Reader} {executor : Executor σ}
    {owners : List Address} {nonces : List Int} {s u : σ} {found : List (Found Int)}
    (reads : r.Reads executor (Cursor.first owners nonces) s found u) :
    Reader.Ascribed owners nonces found := by
  intro page member
  obtain ⟨listed, ascribed⟩ := reads.page_ascribed member
  obtain ⟨c, isFirst, same⟩ := List.mem_map.1 listed
  obtain ⟨isOwner, asked, -⟩ := Cursor.mem_first.1 isFirst
  obtain ⟨sameOwner, sameNonce⟩ := Prod.mk.inj same
  exact ⟨sameOwner ▸ isOwner, sameNonce ▸ asked, ascribed⟩

end MultisigQueue
