import AttributeRegistry.Proofs.QueryMap.LastWins

/-!
# What readers see of a batch

A batch need not be there beforehand.  It may be made while it is pulled and look at the map in between, so
that its next entry hangs on what was to be seen; such a batch is a `Feed`.  `Writer` is what takes it in:
`keeping` prepares its bindings entry by entry, `overwriting` only collects the entries.

Either way no reader sees a part of the batch (`batch_unseen`).  All that is needed of a writer is that one
pulled entry leaves the map alone that readers see (`Writer.Hides`); then every look during the whole feed
sees the map as it was at the start, and so the feed comes out as the list of entries that it makes of that
map.
-/

namespace AttributeRegistry.QueryMap

variable {K V : Type} [BEq K]

/-! ## Feeds -/

/-- A batch that may look at the map while it is pulled. -/
inductive Feed (K V : Type) [BEq K] where
  /-- There are no more entries. -/
  | stop
  /-- Looks at the map and goes on with what is seen there. -/
  | look (next : QueryMap K V → Feed K V)
  /-- Hands over the next entry. -/
  | entry (e : K × V) (rest : Feed K V)

/-- The entries that come of a feed if `m` is what it sees whenever it looks. -/
def Feed.entries (m : QueryMap K V) : Feed K V → List (K × V)
  | .stop => []
  | .look next => (next m).entries m
  | .entry e rest => e :: rest.entries m

/-- A moment while a feed is pulled. -/
structure Moment (K V : Type) [BEq K] where
  /-- The map as its readers see it. -/
  seen : QueryMap K V
  /-- The entry that is being pulled, or nothing if the feed looks at the map. -/
  pulled? : Option (K × V)

/-! ## Writers -/

/-- A way to take a batch into a map, entry by entry. -/
structure Writer (K V S A : Type) [BEq K] where
  /-- The map as its readers see it. -/
  live : S → QueryMap K V
  /-- Takes one more entry out of the batch. -/
  pull : S → K × V → S
  /-- Writes what the batch has come to. -/
  finish : S → Effect (QueryMap K V) A

/-- The writer that keeps existing bindings. -/
def keeping : Writer K V (Draft K V) (Table K V) := ⟨Draft.live, Draft.pull, Draft.finish⟩

/-- The writer that replaces them. -/
def overwriting : Writer K V (Intake K V) Unit := ⟨Intake.live, Intake.pull, Intake.finish⟩

namespace Writer

variable {S A : Type}

/-- Pulls all of a feed, which sees the live map whenever it looks. -/
def drain (w : Writer K V S A) (s : S) : Feed K V → S × List (Moment K V)
  | .stop => (s, [])
  | .look next =>
      let (final, moments) := w.drain s (next (w.live s))
      (final, ⟨w.live s, none⟩ :: moments)
  | .entry e rest =>
      let (final, moments) := w.drain (w.pull s e) rest
      (final, ⟨w.live s, some e⟩ :: moments)

/-- Pulls all of a feed and writes it. -/
def write (w : Writer K V S A) (s : S) (feed : Feed K V) : Effect (QueryMap K V) A :=
  w.finish (w.drain s feed).1

/-- The moments of a write, up to its end. -/
def moments (w : Writer K V S A) (s : S) (feed : Feed K V) : List (Moment K V) :=
  (w.drain s feed).2

/-- A pulled entry leaves the map alone that readers see. -/
def Hides (w : Writer K V S A) : Prop := ∀ s e, w.live (w.pull s e) = w.live s

theorem hides_keeping : (keeping : Writer K V (Draft K V) (Table K V)).Hides :=
  fun d e => Draft.live_foldl_pull d [e]

theorem hides_overwriting : (overwriting : Writer K V (Intake K V) Unit).Hides := fun _ _ => rfl

/-- A feed comes to what its entries come to. -/
theorem Hides.drain_fst {w : Writer K V S A} (hw : w.Hides) (s : S) (feed : Feed K V) :
    (w.drain s feed).1 = (feed.entries (w.live s)).foldl w.pull s := by
  induction feed generalizing s with
  | stop => rfl
  | look next ih => exact ih (w.live s) s
  | entry e rest ih =>
      have hrest := ih (w.pull s e)
      rw [hw s e] at hrest
      exact hrest

theorem Hides.moments_pulled {w : Writer K V S A} (hw : w.Hides) (s : S) (feed : Feed K V) :
    (w.moments s feed).filterMap Moment.pulled? = feed.entries (w.live s) := by
  induction feed generalizing s with
  | stop => rfl
  | look next ih => exact ih (w.live s) s
  | entry e rest ih =>
      have hrest := ih (w.pull s e)
      rw [hw s e] at hrest
      exact congrArg (e :: ·) hrest

/-- What is to be seen at the start is to be seen all the while. -/
theorem Hides.moments_seen {w : Writer K V S A} (hw : w.Hides) (s : S) (feed : Feed K V) :
    ∀ moment ∈ w.moments s feed, moment.seen = w.live s := by
  induction feed generalizing s with
  | stop => exact List.forall_mem_nil _
  | look next ih => exact List.forall_mem_cons.2 ⟨rfl, ih (w.live s) s⟩
  | entry e rest ih =>
      have hrest := ih (w.pull s e)
      rw [hw s e] at hrest
      exact List.forall_mem_cons.2 ⟨rfl, hrest⟩

end Writer

/-! ## Batches as a whole -/

/-- A feed that keeps existing bindings is written as its entries are. -/
theorem write_keeping (m : QueryMap K V) (feed : Feed K V) :
    keeping.write (Draft.start m) feed = m.insertAllIfNew (feed.entries m) :=
  congrArg Draft.finish (Writer.hides_keeping.drain_fst (Draft.start m) feed)

theorem write_overwriting (m : QueryMap K V) (feed : Feed K V) :
    overwriting.write (Intake.start m) feed = m.insertAll (feed.entries m) :=
  congrArg Intake.finish (Writer.hides_overwriting.drain_fst (Intake.start m) feed)

/-- An entry that the draft accepts is bound behind the batch. -/
theorem get?_insertAllIfNew_of_accepted [EquivBEq K] {m : QueryMap K V} {before : List (K × V)} {e : K × V}
    (h : (before.foldl Draft.pull (Draft.start m)).pending.get? e.1 = none) (after : List (K × V)) :
    (m.insertAllIfNew (before ++ e :: after)).state.get? e.1 = some e.2 := by
  rw [Draft.get?_pending_foldl_pull] at h
  have hbefore : (m.get? e.1).or (firstOf before e.1) = none := h
  rw [get?_insertAllIfNew, firstOf_append, ← Option.or_assoc, hbefore, firstOf_cons, if_pos BEq.rfl,
    Option.none_or, Option.some_or]

/-- The moments of a write let nothing of the batch be seen: its entries are pulled in their order, each
once, and what readers see is `m`. -/
structure Unseen (m : QueryMap K V) (batch : List (K × V)) (moments : List (Moment K V)) : Prop where
  pulled : moments.filterMap Moment.pulled? = batch
  seen : ∀ moment ∈ moments, moment.seen = m

/-- For any map and any feed, whatever it makes of what it sees.

The feed comes out as a batch, the same for both writers: the entries that it makes of the map as it was
before.  While it is pulled that map is what is seen, with its size, its bindings and its generation; the
bindings of the entries that are accepted already are in the draft only.  Right behind it the map holds all
that was accepted: the keeping writer has bound each accepted entry, the overwriting one each entry that is
the last for its key, and keys that the batch has not are bound as before.  The map is `m` or the one
generation after it, so there is nothing between the two to be seen.  Of a batch that is there beforehand
`pulls` tells the same. -/
theorem batch_unseen [EquivBEq K] (m : QueryMap K V) (feed : Feed K V) :
    let batch := feed.entries m
    let kept := (keeping.write (Draft.start m) feed).state
    let overwritten := (overwriting.write (Intake.start m) feed).state
    Unseen m batch (keeping.moments (Draft.start m) feed) ∧
    Unseen m batch (overwriting.moments (Intake.start m) feed) ∧
    keeping.write (Draft.start m) feed = m.insertAllIfNew batch ∧
    overwriting.write (Intake.start m) feed = m.insertAll batch ∧
    (∀ before e after, batch = before ++ e :: after →
      let draft := before.foldl Draft.pull (Draft.start m)
      (∀ k, draft.pending.get? k = (m.get? k).or (firstOf before k)) ∧
      (draft.pending.get? e.1 = none → kept.get? e.1 = some e.2) ∧
      ((∀ x ∈ after, (x.1 == e.1) = false) → overwritten.get? e.1 = some e.2)) ∧
    (∀ k, (∀ e ∈ batch, (e.1 == k) = false) →
      kept.get? k = m.get? k ∧ overwritten.get? k = m.get? k) ∧
    (kept = m ∨ kept = m.publish kept.contents) ∧
    (overwritten = m ∨ overwritten = m.publish overwritten.contents) ∧
    (∀ c : Call K V, m.pulls c = c.batch.map fun e => (e, m)) := by
  intro batch kept overwritten
  have hkept : kept = (m.insertAllIfNew batch).state := congrArg Effect.state (write_keeping m feed)
  have hoverwritten : overwritten = (m.insertAll batch).state :=
    congrArg Effect.state (write_overwriting m feed)
  refine ⟨⟨Writer.hides_keeping.moments_pulled .., Writer.hides_keeping.moments_seen _ _⟩,
    ⟨Writer.hides_overwriting.moments_pulled .., Writer.hides_overwriting.moments_seen _ _⟩,
    write_keeping m feed, write_overwriting m feed, ?_, ?_, ?_, ?_, m.pulls_eq⟩
  · intro before e after hbatch draft
    refine ⟨fun k => Draft.get?_pending_foldl_pull (Draft.start m) before k, ?_, ?_⟩
    · intro hnew
      rw [hkept, hbatch]
      exact get?_insertAllIfNew_of_accepted hnew after
    · intro hlast
      rw [hoverwritten, get?_insertAll_eq_last, hbatch, lastOf_append_cons BEq.rfl hlast, Option.some_or]
  · intro k hother
    constructor
    · rw [hkept, get?_insertAllIfNew, firstOf_eq_none_iff.2 hother, Option.or_none]
    · rw [hoverwritten, get?_insertAll_eq_last, lastOf_eq_none_iff.2 hother, Option.none_or]
  · by_cases hnew : ∃ e ∈ batch, m.get? e.1 = none
    · exact Or.inr (by rw [hkept]; exact (insertAllIfNew_of_unbound hnew).1)
    · exact Or.inl (hkept.trans (insertAllIfNew_of_bound hnew).1)
  · rw [hoverwritten, insertAll_eq]
    split
    · exact Or.inl rfl
    · exact Or.inr rfl

/-- A feed that hands over a key twice because it still sees it unbound. -/
theorem batch_unseen_twice :
    let coal : Shared String := ⟨⟨0⟩, "coal"⟩
    let other : Shared String := ⟨⟨1⟩, "coal"⟩
    let m : QueryMap (Shared String) ℕ := (insert ∅ coal 1).state
    let again : Feed (Shared String) ℕ :=
      .look fun seen => if seen.contains other then .stop else .entry (other, 6) .stop
    let feed : Feed (Shared String) ℕ := .look fun seen =>
      if seen.contains other then .stop else .entry (other, 5) again
    EquivBEq (Shared String) ∧
      (keeping.moments (Draft.start m) feed).filterMap Moment.pulled? = [(other, 5), (other, 6)] ∧
      (∀ moment ∈ keeping.moments (Draft.start m) feed, moment.seen.contains other = false) ∧
      (keeping.write (Draft.start m) feed).state.get? other = some 5 ∧
      (overwriting.write (Intake.start m) feed).state.get? other = some 6 := by
  intro coal other m again feed
  obtain ⟨hkeeping, -, -, -, hbound, -⟩ := batch_unseen m feed
  have hbatch : feed.entries m = [(other, 5), (other, 6)] := rfl
  have hnew : m.contains other = false := by decide
  refine ⟨inferInstance, hkeeping.pulled.trans hbatch, ?_, ?_, ?_⟩
  · intro moment hmoment
    rw [hkeeping.seen moment hmoment, hnew]
  · exact (hbound [] (other, 5) [(other, 6)] hbatch).2.1 (by decide)
  · exact (hbound [(other, 5)] (other, 6) [] hbatch).2.2 (by simp)

end AttributeRegistry.QueryMap
