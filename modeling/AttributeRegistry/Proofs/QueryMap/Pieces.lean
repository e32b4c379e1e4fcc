import AttributeRegistry.Proofs.QueryMap.ClosedForm
import AttributeRegistry.Proofs.Table.Entries

/-!
# Batches in pieces

A batch that keeps existing bindings may be cut anywhere.  Its pieces, offered one after the other, leave
the map with the same contents, and the reports about them together say what the report about the whole
says (`insertAllIfNew_in_pieces`).  The same holds of its entries when each is offered on its own, because
that is a batch of one (`state_inTurn_insertEntryIfNew`, `exists_answer_insertEntryIfNew`).

The two ways differ in what a repeated key meets.  Within one batch that is the draft, behind a cut the map
as it was published; both have the same bindings, so the report about a batch is made of the reports about
its parts (`get?_answer_append`).  That the parts agree with each other is because a report stays true,
whatever is offered later (`get?_inTurn_of_mem_answer`).
-/

namespace AttributeRegistry

variable {K V : Type} [BEq K]

/-- Offers the entries of a list one after the other. -/
def Table.insertAllIfNew (t : Table K V) (batch : List (K × V)) : Table K V :=
  batch.foldl (fun t e => t.insertIfNew e.1 e.2) t

namespace QueryMap

/-! ## One argument after the other -/

section InTurn

variable {α β : Type} (op : QueryMap K V → α → Effect (QueryMap K V) β)

/-- Performs an operation on one argument after the other: the map afterwards, with all answers and all
events in order. -/
def inTurn (m : QueryMap K V) : List α → Effect (QueryMap K V) (List β)
  | [] => ⟨m, [], []⟩
  | a :: rest =>
    let e := op m a
    let r := inTurn e.state rest
    ⟨r.state, e.answer :: r.answer, e.events ++ r.events⟩

/-- How many times a generation is published on the way. -/
def publications (m : QueryMap K V) : List α → ℕ
  | [] => 0
  | a :: rest =>
    (if (op m a).state.snapshot.sameGeneration m.snapshot then 0 else 1)
      + publications (op m a).state rest

variable {op}

/-- Where each call writes to the table and nothing else counts, the calls write in turn. -/
theorem contents_inTurn (write : Table K V → α → Table K V)
    (h : ∀ m a, (op m a).state.contents = write m.contents a) (m : QueryMap K V) (args : List α) :
    (inTurn op m args).state.contents = args.foldl write m.contents := by
  induction args generalizing m with
  | nil => rfl
  | cons a args ih => rw [inTurn, ih, h, List.foldl_cons]

end InTurn

/-! ## Contents -/

theorem Draft.pending_pull (d : Draft K V) (e : K × V) :
    (d.pull e).pending = d.pending.insertIfNew e.1 e.2 := by
  cases h : d.pending.get? e.1 with
  | some v => rw [pull_of_some h, Table.insertIfNew_of_some h]
  | none => rw [pull_of_none h, Table.insertIfNew_of_none h]

/-- A batch leaves in the table what its entries leave there one by one. -/
theorem contents_insertAllIfNew_eq (m : QueryMap K V) (batch : List (K × V)) :
    (m.insertAllIfNew batch).state.contents = m.contents.insertAllIfNew batch := by
  have hdraft (d : Draft K V) :
      (batch.foldl Draft.pull d).pending = d.pending.insertAllIfNew batch := by
    induction batch generalizing d with
    | nil => rfl
    | cons e batch ih =>
        rw [List.foldl_cons, ih, Draft.pending_pull]
        rfl
  rw [contents_insertAllIfNew, hdraft]
  rfl

theorem contents_inTurn_insertAllIfNew (m : QueryMap K V) (pieces : List (List (K × V))) :
    (inTurn insertAllIfNew m pieces).state.contents =
      (m.insertAllIfNew pieces.flatten).state.contents := by
  rw [contents_inTurn Table.insertAllIfNew contents_insertAllIfNew_eq, contents_insertAllIfNew_eq,
    Table.insertAllIfNew, List.foldl_flatten]
  rfl

/-! ## Reports -/

section Reports

variable [EquivBEq K] {m : QueryMap K V} {k : K} {v : V}

/-- What is reported is what the map has behind the batch. -/
theorem get?_state_of_answer {batch : List (K × V)}
    (h : (m.insertAllIfNew batch).answer.get? k = some v) :
    (m.insertAllIfNew batch).state.get? k = some v := by
  rw [get?_answer_insertAllIfNew, PartialMap.late, Option.ite_none_right_eq_some] at h
  rw [get?_insertAllIfNew_eq_fill, h.2]

/-- The first part of a batch reports as it does alone, and the second as on the map that the first
leaves; of a key that both report the first one counts. -/
theorem get?_answer_append (m : QueryMap K V) (batch rest : List (K × V)) (k : K) :
    (m.insertAllIfNew (batch ++ rest)).answer.get? k =
      ((m.insertAllIfNew batch).answer.get? k).or
        (((m.insertAllIfNew batch).state.insertAllIfNew rest).answer.get? k) := by
  have hdraft : (batch.foldl Draft.pull (Draft.start m)).pending =
      (m.insertAllIfNew batch).state.contents := (contents_insertAllIfNew m batch).symm
  rw [answer_insertAllIfNew, List.foldl_append, Draft.get?_rejected_foldl_pull,
    ← answer_insertAllIfNew, hdraft, get?_answer_insertAllIfNew (m.insertAllIfNew batch).state]
  rfl

/-- Of the reports about the pieces that have a key, the first says what the report about the whole batch
says. -/
theorem get?_answer_flatten (m : QueryMap K V) (pieces : List (List (K × V))) (k : K) :
    (m.insertAllIfNew pieces.flatten).answer.get? k =
      (inTurn insertAllIfNew m pieces).answer.findSome? (·.get? k) := by
  induction pieces generalizing m with
  | nil => rfl
  | cons piece pieces ih =>
      rw [List.flatten_cons, get?_answer_append, ih, inTurn, List.findSome?_cons]
      cases (m.insertAllIfNew piece).answer.get? k with
      | some v => rfl
      | none => rfl

/-- A bound key keeps its value, whatever is offered. -/
theorem get?_inTurn_of_some (h : m.get? k = some v) (pieces : List (List (K × V))) :
    (inTurn insertAllIfNew m pieces).state.get? k = some v := by
  induction pieces generalizing m with
  | nil => exact h
  | cons piece pieces ih =>
      refine ih ?_
      rw [get?_insertAllIfNew, h, Option.some_or]

/-- A report stays true while further pieces are offered. -/
theorem get?_inTurn_of_mem_answer {pieces : List (List (K × V))} {report : Table K V}
    (hreport : report ∈ (inTurn insertAllIfNew m pieces).answer) (hk : report.get? k = some v) :
    (inTurn insertAllIfNew m pieces).state.get? k = some v := by
  induction pieces generalizing m with
  | nil => cases hreport
  | cons piece pieces ih =>
      rcases List.mem_cons.1 hreport with rfl | hlater
      · exact get?_inTurn_of_some (get?_state_of_answer hk) pieces
      · exact ih hlater

/-- What the whole batch reports is what some piece reports. -/
theorem get?_answer_flatten_iff {pieces : List (List (K × V))} :
    (m.insertAllIfNew pieces.flatten).answer.get? k = some v ↔
      ∃ report ∈ (inTurn insertAllIfNew m pieces).answer, report.get? k = some v := by
  rw [get?_answer_flatten]
  constructor
  · exact List.exists_of_findSome?_eq_some
  · rintro ⟨report, hreport, hk⟩
    cases hfirst : (inTurn insertAllIfNew m pieces).answer.findSome? (·.get? k) with
    | none =>
        rw [List.findSome?_eq_none_iff.1 hfirst report hreport] at hk
        cases hk
    | some w =>
        -- the first report that has the key is as true as this one
        obtain ⟨other, hother, hw⟩ := List.exists_of_findSome?_eq_some hfirst
        rw [← get?_inTurn_of_mem_answer hother hw]
        exact get?_inTurn_of_mem_answer hreport hk

end Reports

/-! ## Generations -/

/-- A batch publishes one generation if it has an unbound key, and else none. -/
theorem generation_insertAllIfNew (m : QueryMap K V) (batch : List (K × V)) :
    (m.insertAllIfNew batch).state.snapshot.generation =
      m.snapshot.generation + if ∃ e ∈ batch, m.get? e.1 = none then 1 else 0 := by
  by_cases h : ∃ e ∈ batch, m.get? e.1 = none
  · rw [if_pos h]
    exact congrArg (fun m : QueryMap K V => m.snapshot.generation) (insertAllIfNew_of_unbound h).1
  · rw [if_neg h, (insertAllIfNew_of_bound h).1]
    rfl

/-- Pieces publish nothing if none of them has an unbound key to start with. -/
theorem publications_eq_zero_iff (m : QueryMap K V) (pieces : List (List (K × V))) :
    publications insertAllIfNew m pieces = 0 ↔ ¬ ∃ e ∈ pieces.flatten, m.get? e.1 = none := by
  induction pieces generalizing m with
  | nil => simp [publications]
  | cons piece pieces ih =>
      rw [publications, List.flatten_cons]
      have hsame : (m.insertAllIfNew piece).state.snapshot.sameGeneration m.snapshot = true ↔
          ¬ ∃ e ∈ piece, m.get? e.1 = none := by
        rw [Snapshot.sameGeneration, beq_iff_eq, generation_insertAllIfNew]
        simp
      by_cases h : ∃ e ∈ piece, m.get? e.1 = none
      · rw [if_neg (mt hsame.1 (not_not.2 h))]
        obtain ⟨e, he, hnone⟩ := h
        refine iff_of_false (by omega) (not_not.2 ⟨e, ?_, hnone⟩)
        exact List.mem_append_left _ he
      · -- the piece leaves the map as it is for those behind it
        rw [if_pos (hsame.2 h), (insertAllIfNew_of_bound h).1, Nat.zero_add, ih]
        refine not_congr ?_
        constructor
        · rintro ⟨e, he, hnone⟩
          exact ⟨e, List.mem_append_right _ he, hnone⟩
        · rintro ⟨e, he, hnone⟩
          rcases List.mem_append.1 he with hpiece | hrest
          · exact absurd ⟨e, hpiece, hnone⟩ h
          · exact ⟨e, hrest, hnone⟩

theorem generation_flatten (m : QueryMap K V) (pieces : List (List (K × V))) :
    (m.insertAllIfNew pieces.flatten).state.snapshot.generation =
      m.snapshot.generation + min 1 (publications insertAllIfNew m pieces) := by
  rw [generation_insertAllIfNew]
  have hzero := publications_eq_zero_iff m pieces
  split
  · next hsome =>
    have hpublished : publications insertAllIfNew m pieces ≠ 0 := fun h => hzero.1 h hsome
    omega
  · next hnone =>
    have hpublished : publications insertAllIfNew m pieces = 0 := hzero.2 hnone
    omega

/-! ## Single entries -/

/-- Offers one entry on its own. -/
def insertEntryIfNew (m : QueryMap K V) (e : K × V) : Effect (QueryMap K V) (Option V) :=
  m.insertIfNew e.1 e.2

/-- An entry on its own is a batch of one. -/
theorem state_insertEntryIfNew (m : QueryMap K V) (e : K × V) :
    (m.insertEntryIfNew e).state = (m.insertAllIfNew [e]).state := by
  rw [insertEntryIfNew, insertIfNew, insertAllIfNew, List.foldl_cons, List.foldl_nil]
  cases h : m.get? e.1 with
  | some v =>
      rw [Draft.pull_of_some (d := Draft.start m) h]
      rfl
  | none =>
      rw [Draft.pull_of_none (d := Draft.start m) h]
      rfl

/-- What an entry on its own answers is what the batch of one reports. -/
theorem get?_answer_singleton [EquivBEq K] (m : QueryMap K V) (e : K × V) (k : K) :
    (m.insertAllIfNew [e]).answer.get? k =
      if e.1 == k then (m.insertEntryIfNew e).answer else none := by
  rw [get?_answer_insertAllIfNew, insertEntryIfNew, answer_insertIfNew]
  by_cases he : (e.1 == k) = true
  · have hkey : m.get? e.1 = m.get? k := Table.get?_congr m.contents he
    rw [if_pos he, hkey]
    cases hk : m.get? k with
    | some v => exact PartialMap.late_cons_of_some he hk []
    | none => exact PartialMap.late_cons_of_none he hk []
  · rw [if_neg he, PartialMap.late_cons_of_not_beq he, PartialMap.late_nil]

theorem state_inTurn_insertEntryIfNew (m : QueryMap K V) (batch : List (K × V)) :
    (inTurn insertEntryIfNew m batch).state =
      (inTurn insertAllIfNew m (batch.map fun e => [e])).state := by
  induction batch generalizing m with
  | nil => rfl
  | cons e batch ih => rw [List.map_cons, inTurn, ih, state_insertEntryIfNew, inTurn]

theorem publications_insertEntryIfNew (m : QueryMap K V) (batch : List (K × V)) :
    publications insertEntryIfNew m batch =
      publications insertAllIfNew m (batch.map fun e => [e]) := by
  induction batch generalizing m with
  | nil => rfl
  | cons e batch ih => rw [List.map_cons, publications, ih, state_insertEntryIfNew, publications]

/-- What the batches of one report is what their entries answer that find their keys bound. -/
theorem exists_answer_insertEntryIfNew [EquivBEq K] {m : QueryMap K V} {batch : List (K × V)} {k : K}
    {v : V} :
    (∃ report ∈ (inTurn insertAllIfNew m (batch.map fun e => [e])).answer, report.get? k = some v) ↔
      ∃ x ∈ batch.zip (inTurn insertEntryIfNew m batch).answer,
        (x.1.1 == k) = true ∧ x.2 = some v := by
  induction batch generalizing m with
  | nil => simp [inTurn]
  | cons e batch ih =>
      rw [List.map_cons, inTurn, inTurn, List.zip_cons_cons, List.exists_mem_cons_iff,
        List.exists_mem_cons_iff, ih, state_insertEntryIfNew, get?_answer_singleton,
        Option.ite_none_right_eq_some]

/-! ## The whole and its parts -/

/-- For any map, any batch and any way to cut it.

The pieces offered one after the other leave the same contents as the whole batch, and so do the entries
when each is offered on its own.  A key is reported by the whole batch with a value exactly if it is
reported so by some piece, and exactly if some entry for it gets this value in answer; no two reports
differ on a key.  The whole batch publishes one generation if the pieces publish any, or the single
entries, and none if they publish none. -/
theorem insertAllIfNew_in_pieces [EquivBEq K] (m : QueryMap K V) (pieces : List (List (K × V))) :
    let whole := m.insertAllIfNew pieces.flatten
    let cut := inTurn insertAllIfNew m pieces
    let single := inTurn insertEntryIfNew m pieces.flatten
    (cut.state.contents = whole.state.contents ∧ single.state.contents = whole.state.contents) ∧
    (∀ k v, whole.answer.get? k = some v ↔ ∃ report ∈ cut.answer, report.get? k = some v) ∧
    (∀ k v, whole.answer.get? k = some v ↔
      ∃ x ∈ pieces.flatten.zip single.answer, (x.1.1 == k) = true ∧ x.2 = some v) ∧
    (∀ report ∈ cut.answer, ∀ other ∈ cut.answer, ∀ k v w,
      report.get? k = some v → other.get? k = some w → v = w) ∧
    whole.state.snapshot.generation =
      m.snapshot.generation + min 1 (publications insertAllIfNew m pieces) ∧
    whole.state.snapshot.generation =
      m.snapshot.generation + min 1 (publications insertEntryIfNew m pieces.flatten) := by
  intro whole cut single
  have hcut (k : K) (v : V) :
      whole.answer.get? k = some v ↔ ∃ report ∈ cut.answer, report.get? k = some v :=
    get?_answer_flatten_iff
  have hwhole : whole = m.insertAllIfNew (pieces.flatten.map fun e => [e]).flatten := by
    rw [← List.flatMap_def, List.flatMap_singleton']
  refine ⟨⟨contents_inTurn_insertAllIfNew m pieces, ?_⟩, hcut, ?_, ?_, generation_flatten m pieces, ?_⟩
  · rw [hwhole, ← contents_inTurn_insertAllIfNew, ← state_inTurn_insertEntryIfNew]
  · intro k v
    rw [hwhole, get?_answer_flatten_iff, exists_answer_insertEntryIfNew]
  · intro report hreport other hother k v w hv hw
    have hsame : some v = some w :=
      ((hcut k v).2 ⟨report, hreport, hv⟩).symm.trans ((hcut k w).2 ⟨other, hother, hw⟩)
    exact Option.some.inj hsame
  · rw [hwhole, generation_flatten, publications_insertEntryIfNew]

/-- A batch that is cut between two entries for one key, of which another handle with the same text comes
in between. -/
theorem insertAllIfNew_in_pieces_shared :
    let coal : Shared String := ⟨⟨0⟩, "coal"⟩
    let other : Shared String := ⟨⟨1⟩, "coal"⟩
    let m : QueryMap (Shared String) ℕ := (insert ∅ coal 1).state
    let pieces := [[(other, 2)], [], [(coal, 3), (other, 4)]]
    EquivBEq (Shared String) ∧
      (inTurn insertAllIfNew m pieces).state.contents =
        (m.insertAllIfNew pieces.flatten).state.contents ∧
      (m.insertAllIfNew pieces.flatten).answer.get? other = some 2 ∧
      (m.insertAllIfNew pieces.flatten).state.snapshot.generation = 2 := by
  intro coal other m pieces
  obtain ⟨⟨hcontents, -⟩, hreport, -, -, hgeneration, -⟩ := insertAllIfNew_in_pieces m pieces
  refine ⟨inferInstance, hcontents, ?_, ?_⟩
  · rw [hreport]
    exact ⟨_, List.mem_of_getElem? (i := 2) rfl, by decide⟩
  · exact hgeneration.trans (by decide)

end QueryMap

end AttributeRegistry
