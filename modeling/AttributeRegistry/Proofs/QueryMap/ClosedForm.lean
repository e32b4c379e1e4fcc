import AttributeRegistry.Proofs.QueryMap.Batch
import AttributeRegistry.Proofs.QueryMap.PartialMap

/-!
# Batches that keep existing bindings, as a whole

`QueryMap.insertAllIfNew` pulls one entry after the other, and whether an entry is accepted hangs on
those before it.  What the batch comes to can be said without going through it: which keys are
reported is told by how often they occur in it (`get?_answer_insertAllIfNew`), and whether anything is
published by the keys that were unbound at its start (`insertAllIfNew_of_unbound`,
`insertAllIfNew_of_bound`).

The loop invariant is `Draft.get?_rejected_foldl_pull`.  It holds of any draft, because a batch that
is cut in two goes on with the draft of its first part.
-/

namespace AttributeRegistry

variable {K V : Type} [BEq K]

namespace QueryMap

/-- The number of entries that a batch has for `k`. -/
def occurrences (batch : List (K × V)) (k : K) : ℕ := batch.countP fun e => e.1 == k

@[simp] theorem occurrences_nil (k : K) : occurrences ([] : List (K × V)) k = 0 := rfl

theorem occurrences_cons_of_beq {e : K × V} {k : K} (h : (e.1 == k) = true)
    (batch : List (K × V)) : occurrences (e :: batch) k = occurrences batch k + 1 :=
  List.countP_cons_of_pos (p := fun e : K × V => e.1 == k) h

theorem occurrences_cons_of_not_beq {e : K × V} {k : K} (h : ¬ (e.1 == k) = true)
    (batch : List (K × V)) : occurrences (e :: batch) k = occurrences batch k :=
  List.countP_cons_of_neg (p := fun e : K × V => e.1 == k) h

end QueryMap

namespace PartialMap

open QueryMap (firstOf occurrences)

/-- The bindings with the keys of a batch that are unbound bound to the first value that the batch
has for each. -/
def fill (M : PartialMap K V) (batch : List (K × V)) : PartialMap K V :=
  fun k => (M k).or (firstOf batch k)

/-- A batch has an entry for `k` that comes too late: `k` is bound already, or another entry for it
comes first. -/
def TooLate (M : PartialMap K V) (batch : List (K × V)) (k : K) : Prop :=
  ((M k).isSome = true ∧ 1 ≤ occurrences batch k) ∨ 2 ≤ occurrences batch k

instance (M : PartialMap K V) (batch : List (K × V)) (k : K) : Decidable (M.TooLate batch k) :=
  inferInstanceAs (Decidable (_ ∨ _))

/-- The keys for which a batch has entries that come too late, with the values that they have behind
the batch. -/
def late (M : PartialMap K V) (batch : List (K × V)) : PartialMap K V :=
  fun k => if M.TooLate batch k then M.fill batch k else none

@[simp] theorem late_nil (M : PartialMap K V) (k : K) : M.late [] k = none := by
  simp [late, TooLate]

variable {M : PartialMap K V} {e : K × V} {k : K}

/-- Whether a key is late is told by its binding, and by the entries for it alone. -/
theorem late_congr {M' : PartialMap K V} {batch batch' : List (K × V)} (hbound : M k = M' k)
    (hfirst : firstOf batch k = firstOf batch' k)
    (hoccurs : occurrences batch k = occurrences batch' k) : M.late batch k = M'.late batch' k := by
  have hlate : M.TooLate batch k ↔ M'.TooLate batch' k := by
    rw [TooLate, TooLate, hbound, hoccurs]
  have hfill : M.fill batch k = M'.fill batch' k := by rw [fill, fill, hbound, hfirst]
  exact if_congr hlate hfill rfl

/-- An entry for another key is nothing to `k`. -/
theorem late_cons_of_not_beq (h : ¬ (e.1 == k) = true) (batch : List (K × V)) :
    M.late (e :: batch) k = M.late batch k := by
  apply late_congr rfl
  · rw [QueryMap.firstOf_cons, if_neg h, Option.none_or]
  · exact QueryMap.occurrences_cons_of_not_beq h batch

/-- A bound key is late with its first entry. -/
theorem late_cons_of_some (h : (e.1 == k) = true) {v : V} (hk : M k = some v)
    (batch : List (K × V)) : M.late (e :: batch) k = some v := by
  have hlate : M.TooLate (e :: batch) k := by
    rw [TooLate, QueryMap.occurrences_cons_of_beq h, hk]
    exact Or.inl ⟨rfl, by omega⟩
  rw [late, if_pos hlate, fill, hk, Option.some_or]

/-- An unbound key is late if it comes again behind its first entry. -/
theorem late_cons_of_none (h : (e.1 == k) = true) (hk : M k = none) (batch : List (K × V)) :
    M.late (e :: batch) k = if 1 ≤ occurrences batch k then some e.2 else none := by
  have hlate : M.TooLate (e :: batch) k ↔ 1 ≤ occurrences batch k := by
    rw [TooLate, QueryMap.occurrences_cons_of_beq h, hk]
    simp
  have hfill : M.fill (e :: batch) k = some e.2 := by
    rw [fill, hk, QueryMap.firstOf_cons, if_pos h, Option.none_or, Option.some_or]
  exact if_congr hlate hfill rfl

end PartialMap

namespace QueryMap

variable [EquivBEq K]

/-! ## The draft -/

/-- What a draft reports behind a batch is what it reported before it, and the keys of the batch that
come too late for the bindings that the draft had. -/
theorem Draft.get?_rejected_foldl_pull (d : Draft K V) (batch : List (K × V)) (k : K) :
    (batch.foldl Draft.pull d).rejected.get? k =
      (d.rejected.get? k).or (PartialMap.late d.pending.get? batch k) := by
  induction batch generalizing d with
  | nil => rw [List.foldl_nil, PartialMap.late_nil, Option.or_none]
  | cons e batch ih =>
      rw [List.foldl_cons, ih]
      by_cases he : (e.1 == k) = true
      · have hkey := Table.get?_congr d.pending he
        cases hbound : d.pending.get? e.1 with
        | some v =>
            -- the entry is turned away, and whatever else the batch has for `k`
            have hk : d.pending.get? k = some v := hkey.symm.trans hbound
            have hrest : (some v).or (PartialMap.late d.pending.get? batch k) = some v :=
              Option.some_or
            rw [pull_of_some hbound, Table.get?_insertIfNew, if_pos he, Option.or_assoc, hrest,
              PartialMap.late_cons_of_some he hk]
        | none =>
            -- the entry is accepted, so `k` is bound for all that comes behind it
            have hk : d.pending.get? k = none := hkey.symm.trans hbound
            have hbinds : (d.pending.insert e.1 e.2).get? k = some e.2 := by
              rw [Table.get?_insert, if_pos he]
            rw [pull_of_none hbound, PartialMap.late_cons_of_none he hk]
            refine congrArg (Option.or _) (if_congr ?_ ?_ rfl)
            · rw [PartialMap.TooLate, hbinds, Option.isSome_some, eq_self_iff_true, true_and]
              omega
            · rw [PartialMap.fill, hbinds, Option.some_or]
      · have hrest : PartialMap.late (d.pull e).pending.get? batch k =
            PartialMap.late d.pending.get? batch k := by
          refine PartialMap.late_congr ?_ rfl rfl
          rw [get?_pending_pull, if_neg he, Option.or_none]
        have hreport : (d.pull e).rejected.get? k = d.rejected.get? k := by
          cases hbound : d.pending.get? e.1 with
          | some v => rw [pull_of_some hbound, Table.get?_insertIfNew, if_neg he, Option.or_none]
          | none => rw [pull_of_none hbound]
        rw [hrest, hreport, PartialMap.late_cons_of_not_beq he]

/-! ## The map -/

theorem get?_insertAllIfNew_eq_fill (m : QueryMap K V) (batch : List (K × V)) :
    (m.insertAllIfNew batch).state.get? = PartialMap.fill m.get? batch :=
  funext fun k => get?_insertAllIfNew m batch k

/-- The keys of a batch that come too late are reported, and no others. -/
theorem get?_answer_insertAllIfNew (m : QueryMap K V) (batch : List (K × V)) :
    (m.insertAllIfNew batch).answer.get? = PartialMap.late m.get? batch := by
  funext k
  rw [answer_insertAllIfNew, Draft.get?_rejected_foldl_pull]
  exact Option.none_or

/-- What a batch that keeps existing bindings comes to, for any map and any batch.

Behind it a bound key has the value it had, every other key of the batch the first value that the batch
has for it, and no other key is bound.  It reports the keys of the batch that were bound or occur at
least twice in it, each with the value that it has behind the batch.  If some key of the batch was
unbound, then one generation is published, with one event that has the size before, the size behind it
and the number of keys reported; if not, then nothing is published and there is no event. -/
theorem insertAllIfNew_closed (m : QueryMap K V) (batch : List (K × V)) :
    let e := m.insertAllIfNew batch
    let filled : PartialMap K V := fun k => (m.get? k).or (firstOf batch k)
    let reported : PartialMap K V := fun k =>
      if ((m.get? k).isSome = true ∧ 1 ≤ occurrences batch k) ∨ 2 ≤ occurrences batch k then
        e.state.get? k
      else none
    e.state.get? = filled ∧ e.answer.get? = reported ∧
    ((∃ x ∈ batch, m.get? x.1 = none) →
      e.state.snapshot.generation = m.snapshot.generation + 1 ∧
      e.events = [.batchPublished (PartialMap.size m.get?) filled.size reported.size] ∧
      ∀ event ∈ e.events, event.level = .trace) ∧
    ((¬ ∃ x ∈ batch, m.get? x.1 = none) → e.state = m ∧ e.events = []) := by
  intro e filled reported
  have hfilled : e.state.get? = filled := get?_insertAllIfNew_eq_fill m batch
  have hreported : e.answer.get? = reported := by
    have hlate : e.answer.get? = PartialMap.late m.get? batch := get?_answer_insertAllIfNew m batch
    rw [hlate]
    funext k
    simp only [reported, hfilled]
    rfl
  refine ⟨hfilled, hreported, ?_, insertAllIfNew_of_bound⟩
  intro hunbound
  obtain ⟨hstate, hevents⟩ := insertAllIfNew_of_unbound hunbound
  have hsizes : e.events =
      [.batchPublished (PartialMap.size m.get?) filled.size reported.size] := by
    rw [← hfilled, ← hreported]
    refine hevents.trans ?_
    rw [size, size, Table.size_eq_size_get?, Table.size_eq_size_get?, Table.size_eq_size_get?]
    rfl
  refine ⟨congrArg (fun m : QueryMap K V => m.snapshot.generation) hstate, hsizes, ?_⟩
  rw [hsizes]
  intro event hevent
  rw [List.mem_singleton.1 hevent]
  rfl

/-- Two keys with one text, of which the first is bound and the second comes twice. -/
theorem insertAllIfNew_closed_shared :
    let coal : Shared String := ⟨⟨0⟩, "coal"⟩
    let other : Shared String := ⟨⟨1⟩, "coal"⟩
    let m : QueryMap (Shared String) ℕ := (insert ∅ coal 1).state
    let batch := [(other, 2), (coal, 3), (other, 4)]
    EquivBEq (Shared String) ∧
      (m.insertAllIfNew batch).state.get? other = some 2 ∧
      (m.insertAllIfNew batch).answer.get? coal = some 1 ∧
      (m.insertAllIfNew batch).answer.get? other = some 2 ∧
      (m.insertAllIfNew batch).state.snapshot.generation = 2 := by
  intro coal other m batch
  obtain ⟨hstate, hanswer, hpublished, -⟩ := insertAllIfNew_closed m batch
  refine ⟨inferInstance, ?_, ?_, ?_, ?_⟩
  · rw [hstate]
    decide
  · rw [hanswer]
    decide
  · rw [hanswer]
    decide
  · exact (hpublished (by decide)).1

end QueryMap

end AttributeRegistry
