import AttributeRegistry.Proofs.QueryMap.Batch
import AttributeRegistry.Proofs.QueryMap.PartialMap

/-!
# Query maps refine finite partial functions

Whoever sees only the answers of a query map cannot tell it from a partial function
(`run_observed_eq`).  The view of a map is its `get?`, and every call does to the view what the same
call does to a partial function (`perform_observed`); a run is then an induction over its calls.

The one write that takes an argument is `insertAllIfNew`: it compares with a draft that is not
published yet, and its report keeps the first value it has for a key where the partial function
writes the last.  The two agree because a draft never rebinds a key, so that a report tells of each
key the value which the draft still has for it (`Draft.Honest`).
-/

namespace AttributeRegistry

variable {K V : Type} [BEq K]

/-! ## Observations -/

namespace QueryMap

/-- What can be seen of the answer to a call; a report is seen as a partial function. -/
inductive Observation (K V : Type) where
  | done
  | value (v : Option V)
  | flag (b : Bool)
  | count (n : ℕ)
  /-- The keys of a batch that were found bound, with the values they were bound to. -/
  | rejected (M : PartialMap K V)

/-- What can be seen of an answer. -/
def Answer.observed : Answer K V → Observation K V
  | .done => .done
  | .value v => .value v
  | .flag b => .flag b
  | .count n => .count n
  | .rejected t => .rejected t.get?

end QueryMap

namespace PartialMap

open QueryMap (Call Observation)

variable [EquivBEq K] [BEq V]

open Classical in
/-- Performs a call on a partial function: the bindings afterwards and what is seen of the answer. -/
noncomputable def perform (M : PartialMap K V) : Call K V → PartialMap K V × Observation K V
  | .get k => (M, .value (M k))
  | .contains k => (M, .flag (M k).isSome)
  | .containsValue v => (M, .flag (decide (∃ k w, M k = some w ∧ (w == v) = true)))
  | .size => (M, .count M.size)
  | .isEmpty => (M, .flag (decide (∀ k, M k = none)))
  | .insert k v => (M.insert k v, .value (M k))
  | .insertIfNew k v => ((M.insertIfNew k v).1, .value (M.insertIfNew k v).2)
  | .erase k => (M.erase k, .value (M k))
  | .clear => (empty, .done)
  | .insertAll batch => (M.insertAll batch, .done)
  | .insertAllIfNew batch => ((M.insertAllIfNew batch).1, .rejected (M.insertAllIfNew batch).2)

/-- The bindings after a run of calls. -/
noncomputable def after (M : PartialMap K V) (calls : List (Call K V)) : PartialMap K V :=
  calls.foldl (fun M c => (M.perform c).1) M

/-- What is seen of the answers to a run of calls. -/
noncomputable def run (M : PartialMap K V) : List (Call K V) → List (Observation K V)
  | [] => []
  | c :: rest => (M.perform c).2 :: run (M.perform c).1 rest

end PartialMap

namespace QueryMap

/-! ## Single writes -/

section Views

variable (m : QueryMap K V)

variable [EquivBEq K]

theorem view_insert (k : K) (v : V) :
    (m.insert k v).state.get? = PartialMap.insert m.get? k v :=
  funext fun j => get?_insert m k j v

theorem view_erase (k : K) : (m.erase k).state.get? = PartialMap.erase m.get? k :=
  funext fun j => get?_erase m k j

theorem view_insertIfNew (k : K) (v : V) :
    ((m.insertIfNew k v).state.get?, (m.insertIfNew k v).answer) =
      PartialMap.insertIfNew m.get? k v := by
  unfold insertIfNew
  cases h : m.get? k with
  | some old =>
      rw [PartialMap.insertIfNew_of_some h]
  | none =>
      rw [PartialMap.insertIfNew_of_none h]
      exact Prod.ext (funext fun j => Table.get?_insert m.contents k j v) rfl

theorem view_insertAll (batch : List (K × V)) :
    (m.insertAll batch).state.get? = PartialMap.insertAll m.get? batch := by
  show (m.insertAll batch).state.contents.get? = _
  rw [contents_insertAll]
  exact Table.get?_insertAll m.contents batch

end Views

/-! ## Batches that keep existing bindings -/

namespace Draft

/-- What a draft shows: its bindings, and what it reports of the keys turned away. -/
def view (d : Draft K V) : PartialMap K V × PartialMap K V :=
  (d.pending.get?, d.rejected.get?)

/-- A report is honest if each key in it is bound to what it says. -/
def Honest (d : Draft K V) : Prop :=
  ∀ k v, d.rejected.get? k = some v → d.pending.get? k = some v

theorem Honest.start (m : QueryMap K V) : (Draft.start m).Honest := by
  intro k v h
  cases h

variable [EquivBEq K]

theorem Honest.pull {d : Draft K V} (h : d.Honest) (e : K × V) : (d.pull e).Honest := by
  intro k v hk
  cases hpending : d.pending.get? e.1 with
  | some old =>
      rw [pull_of_some hpending] at hk ⊢
      simp only [Table.get?_insertIfNew, Option.or_eq_some_iff] at hk
      rcases hk with hk | ⟨-, hk⟩
      · exact h k v hk
      · by_cases hkey : (e.1 == k) = true
        · rw [if_pos hkey] at hk
          rw [← hk, ← hpending]
          exact (Table.get?_congr d.pending hkey).symm
        · rw [if_neg hkey] at hk
          cases hk
  | none =>
      rw [pull_of_none hpending] at hk ⊢
      have hbound : d.pending.get? k = some v := h k v hk
      -- the key is not the new one, which was unbound
      by_cases hkey : (e.1 == k) = true
      · rw [← Table.get?_congr d.pending hkey, hpending] at hbound
        cases hbound
      · simp only [Table.get?_insert, if_neg hkey]
        exact hbound

/-- An honest draft takes an entry as a partial function does. -/
theorem Honest.view_pull {d : Draft K V} (h : d.Honest) (e : K × V) :
    (d.pull e).view = PartialMap.offer d.view e := by
  unfold view
  cases hpending : d.pending.get? e.1 with
  | some old =>
      rw [pull_of_some hpending, PartialMap.offer_of_some hpending]
      refine Prod.ext rfl (funext fun k => ?_)
      show (d.rejected.insertIfNew e.1 old).get? k = if e.1 == k then some old else d.rejected.get? k
      rw [Table.get?_insertIfNew]
      by_cases hkey : (e.1 == k) = true
      · -- a value that was reported before is the same
        rw [if_pos hkey, if_pos hkey]
        cases hreported : d.rejected.get? k with
        | none => rfl
        | some v =>
            have hbound := h k v hreported
            rw [← Table.get?_congr d.pending hkey, hpending] at hbound
            exact hbound.symm
      · rw [if_neg hkey, if_neg hkey, Option.or_none]
  | none =>
      rw [pull_of_none hpending, PartialMap.offer_of_none hpending]
      exact Prod.ext (funext fun k => Table.get?_insert d.pending e.1 k e.2) rfl

theorem Honest.view_foldl_pull {d : Draft K V} (h : d.Honest) (batch : List (K × V)) :
    (batch.foldl Draft.pull d).view = batch.foldl PartialMap.offer d.view := by
  induction batch generalizing d with
  | nil => rfl
  | cons e batch ih => rw [List.foldl_cons, ih (h.pull e), h.view_pull, List.foldl_cons]

end Draft

theorem view_insertAllIfNew [EquivBEq K] (m : QueryMap K V) (batch : List (K × V)) :
    ((m.insertAllIfNew batch).state.get?, (m.insertAllIfNew batch).answer.get?) =
      PartialMap.insertAllIfNew m.get? batch := by
  have h := (Draft.Honest.start m).view_foldl_pull batch
  rw [Draft.view, ← contents_insertAllIfNew, ← answer_insertAllIfNew] at h
  exact h

/-! ## Runs -/

variable [EquivBEq K] [BEq V]

/-- Every call does to the view of a map what it does to a partial function, and is answered alike. -/
theorem perform_observed (m : QueryMap K V) (c : Call K V) :
    ((m.perform c).state.get?, (m.perform c).answer.observed) = PartialMap.perform m.get? c := by
  classical
  cases c with
  | get k => rfl
  | contains k => rfl
  | containsValue v =>
      have h := m.contents.any_values_iff (· == v)
      refine Prod.ext rfl (congrArg Observation.flag ?_)
      rw [Bool.eq_iff_iff, decide_eq_true_iff]
      exact h
  | size => exact Prod.ext rfl (congrArg Observation.count m.contents.size_eq_size_get?)
  | isEmpty =>
      refine Prod.ext rfl (congrArg Observation.flag ?_)
      rw [Bool.eq_iff_iff, decide_eq_true_iff]
      exact Table.isEmpty_iff_get?
  | insert k v => exact Prod.ext (m.view_insert k v) rfl
  | insertIfNew k v =>
      rw [PartialMap.perform, ← m.view_insertIfNew k v]
      rfl
  | erase k => exact Prod.ext (m.view_erase k) (congrArg Observation.value (m.answer_erase k))
  | clear => rfl
  | insertAll batch => exact Prod.ext (m.view_insertAll batch) rfl
  | insertAllIfNew batch =>
      rw [PartialMap.perform, ← m.view_insertAllIfNew batch]
      rfl

theorem view_after (m : QueryMap K V) (calls : List (Call K V)) :
    (m.after calls).get? = PartialMap.after m.get? calls := by
  induction calls generalizing m with
  | nil => rfl
  | cons c calls ih =>
      have hstep : (m.perform c).state.get? = (PartialMap.perform m.get? c).1 :=
        congrArg Prod.fst (m.perform_observed c)
      show ((m.perform c).state.after calls).get? = _
      rw [ih, hstep]
      rfl

theorem observed_run (m : QueryMap K V) (calls : List (Call K V)) :
    (m.run calls).map (·.answer.observed) = PartialMap.run m.get? calls := by
  induction calls generalizing m with
  | nil => rfl
  | cons c calls ih =>
      have hstep := m.perform_observed c
      rw [run, List.map_cons, ih, PartialMap.run, ← hstep]

/-- A map as it is made: without bindings, with or without room for some. -/
def made : Option ℕ → QueryMap K V
  | none => ∅
  | some capacity => withCapacity capacity

/-- A run on a new map is answered as on a partial function that starts without bindings, and after
it (so after each of its steps, for each begins a run of its own) the reads of every key are those
of the partial function. -/
theorem run_observed_eq (capacity : Option ℕ) (calls : List (Call K V)) :
    let m : QueryMap K V := (made capacity).after calls
    let M : PartialMap K V := PartialMap.after .empty calls
    ((made capacity).run calls).map (·.answer.observed) = PartialMap.run .empty calls ∧
      (∀ k, m.get? k = M k ∧ m.contains k = (M k).isSome) ∧
      M.domain.Finite ∧ m.size = M.size ∧ (m.isEmpty = true ↔ ∀ k, M k = none) := by
  intro m M
  have hmade : (made capacity : QueryMap K V).get? = PartialMap.empty := by
    cases capacity with
    | none => rfl
    | some n => rfl
  have hview : m.get? = M := by rw [view_after, hmade]
  refine ⟨by rw [observed_run, hmade], ?_, ?_, ?_, ?_⟩
  · intro k
    rw [← hview]
    exact ⟨rfl, rfl⟩
  · rw [← hview]
    exact m.contents.finite_domain_get?
  · rw [← hview]
    exact m.contents.size_eq_size_get?
  · rw [← hview]
    exact Table.isEmpty_iff_get?

/-- Keys by identity: two handles with one text are two keys, and a batch may repeat a key. -/
theorem run_observed_eq_shared :
    let coal : Shared String := ⟨⟨0⟩, "coal"⟩
    let other : Shared String := ⟨⟨1⟩, "coal"⟩
    let calls : List (Call (Shared String) ℕ) :=
      [.insertAllIfNew [(coal, 1), (other, 2), (coal, 3)], .insert coal 4, .erase other]
    EquivBEq (Shared String) ∧
      ((made (some 8)).run calls).map (·.answer.observed) = PartialMap.run .empty calls ∧
      PartialMap.after .empty calls coal = some 4 ∧ (PartialMap.after .empty calls).size = 1 := by
  intro coal other calls
  obtain ⟨hrun, hget, -, hsize, -⟩ := run_observed_eq (some 8) calls
  refine ⟨inferInstance, hrun, ?_, ?_⟩
  · rw [← (hget coal).1]
    rfl
  · rw [← hsize]
    rfl

end QueryMap

end AttributeRegistry
