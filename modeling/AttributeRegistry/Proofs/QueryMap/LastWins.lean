import AttributeRegistry.Proofs.QueryMap.Pieces

/-!
# Batches that overwrite

Of the values that an overwriting batch has for a key the last one stays (`get?_insertAll_eq_last`).  Read
backwards the batch has it first, so the same bindings come of a batch that keeps existing bindings, if it
is the reversed one and meets a map from which its keys are gone (`insertAll_last_wins`).
-/

namespace AttributeRegistry

variable {K V : Type} [BEq K]

namespace QueryMap

/-! ## First and last values -/

theorem firstOf_append (batch rest : List (K × V)) (k : K) :
    firstOf (batch ++ rest) k = (firstOf batch k).or (firstOf rest k) := by
  rw [firstOf, List.find?_append, Option.map_or, firstOf, firstOf]

/-- The last value that a batch has for `k`. -/
def lastOf (batch : List (K × V)) (k : K) : Option V := firstOf batch.reverse k

theorem lastOf_cons (e : K × V) (batch : List (K × V)) (k : K) :
    lastOf (e :: batch) k = (lastOf batch k).or (if e.1 == k then some e.2 else none) := by
  rw [lastOf, List.reverse_cons, firstOf_append, firstOf_cons, firstOf_nil, Option.or_none, lastOf]

/-- A batch has a last value for exactly the keys of its entries. -/
theorem isSome_lastOf (batch : List (K × V)) (k : K) :
    (lastOf batch k).isSome = batch.any fun e => e.1 == k := by
  rw [lastOf, firstOf, Option.isSome_map, List.isSome_find?, List.any_reverse]

theorem lastOf_eq_none_iff {batch : List (K × V)} {k : K} :
    lastOf batch k = none ↔ ∀ e ∈ batch, (e.1 == k) = false := by
  rw [lastOf, firstOf_eq_none_iff]
  simp only [List.mem_reverse]

/-- An entry is the last one for its key if none for it comes behind. -/
theorem lastOf_append_cons {e : K × V} {after : List (K × V)} {k : K} (hkey : (e.1 == k) = true)
    (hafter : ∀ x ∈ after, (x.1 == k) = false) (before : List (K × V)) :
    lastOf (before ++ e :: after) k = some e.2 := by
  have hnone : firstOf after.reverse k = none := lastOf_eq_none_iff.2 hafter
  rw [lastOf, List.reverse_append, List.reverse_cons, firstOf_append, firstOf_append, hnone,
    firstOf_cons, if_pos hkey]
  rfl

/-! ## Bindings -/

/-- Entries that are inserted in order bind a key to its last value among them. -/
theorem insertAll_apply (M : PartialMap K V) (batch : List (K × V)) (k : K) :
    M.insertAll batch k = (lastOf batch k).or (M k) := by
  induction batch generalizing M with
  | nil => rfl
  | cons e batch ih =>
      show (M.insert e.1 e.2).insertAll batch k = _
      rw [ih, PartialMap.insert, lastOf_cons, Option.or_assoc]
      split
      · rfl
      · rfl

section Bindings

variable [EquivBEq K]

theorem get?_insertAll_eq_last (m : QueryMap K V) (batch : List (K × V)) (k : K) :
    (m.insertAll batch).state.get? k = (lastOf batch k).or (m.get? k) := by
  rw [get?, contents_insertAll, Table.get?_insertAll, insertAll_apply]
  rfl

/-- After all keys of a list are erased these are unbound and the others as they were. -/
theorem get?_inTurn_erase (m : QueryMap K V) (keys : List K) (k : K) :
    (inTurn erase m keys).state.get? k = if keys.any (· == k) then none else m.get? k := by
  induction keys generalizing m with
  | nil => rfl
  | cons j keys ih =>
      rw [inTurn, ih, get?_erase, List.any_cons]
      by_cases hj : (j == k) = true
      · rw [hj, if_pos rfl, Bool.true_or, if_pos rfl, ite_self]
      · rw [Bool.eq_false_iff.2 hj, if_neg Bool.false_ne_true, Bool.false_or]

/-- Keys that are erased first are bound to the first values of the reversed batch. -/
theorem get?_reversed (m : QueryMap K V) (batch : List (K × V)) :
    ((inTurn erase m (batch.map (·.1))).state.insertAllIfNew batch.reverse).state.get? =
      (m.insertAll batch).state.get? := by
  funext k
  have hgone : (batch.map (·.1)).any (· == k) = (lastOf batch k).isSome := by
    rw [isSome_lastOf, List.any_map]
    rfl
  have hlast : firstOf batch.reverse k = lastOf batch k := rfl
  rw [get?_insertAllIfNew, get?_inTurn_erase, get?_insertAll_eq_last, hgone, hlast]
  cases lastOf batch k with
  | none => rw [Option.isSome_none, if_neg Bool.false_ne_true, Option.or_none, Option.none_or]
  | some v => rw [Option.isSome_some, if_pos rfl, Option.none_or, Option.some_or]

end Bindings

end QueryMap

/-! ## Size -/

/-- The keys of a batch that are unbound, equal ones taken as one. -/
def PartialMap.freshKeys [EquivBEq K] (M : PartialMap K V) (batch : List (K × V)) :
    Set (Quotient (keySetoid K)) :=
  {c | ∃ e ∈ batch, Quotient.mk (keySetoid K) e.1 = c ∧ M e.1 = none}

namespace QueryMap

section Size

variable [EquivBEq K] (m : QueryMap K V) (batch : List (K × V))

theorem domain_insertAll :
    PartialMap.domain (m.insertAll batch).state.get? =
      PartialMap.domain m.get? ∪ PartialMap.freshKeys m.get? batch := by
  ext c
  constructor
  · rintro ⟨k, rfl, hk⟩
    rw [get?_insertAll_eq_last] at hk
    cases hbound : m.get? k with
    | some v => exact Or.inl ⟨k, rfl, by rw [hbound, Option.isSome_some]⟩
    | none =>
        rw [hbound, Option.or_none, isSome_lastOf, List.any_eq_true] at hk
        obtain ⟨e, he, hkey⟩ := hk
        exact Or.inr ⟨e, he, Quotient.sound hkey, (Table.get?_congr m.contents hkey).trans hbound⟩
  · rintro (⟨k, rfl, hk⟩ | ⟨e, he, rfl, -⟩)
    · refine ⟨k, rfl, ?_⟩
      rw [get?_insertAll_eq_last, Option.isSome_or, hk, Bool.or_true]
    · refine ⟨e.1, rfl, ?_⟩
      have hlast : (lastOf batch e.1).isSome = true := by
        rw [isSome_lastOf, List.any_eq_true]
        exact ⟨e, he, BEq.rfl⟩
      rw [get?_insertAll_eq_last, Option.isSome_or, hlast, Bool.true_or]

theorem notMem_freshKeys {c : Quotient (PartialMap.keySetoid K)}
    (h : c ∈ PartialMap.domain m.get?) : c ∉ PartialMap.freshKeys m.get? batch := by
  obtain ⟨k, rfl, hk⟩ := h
  rintro ⟨e, -, hkey, hnone⟩
  have hsame : m.get? e.1 = m.get? k := Table.get?_congr m.contents (Quotient.exact hkey)
  rw [← hsame, hnone] at hk
  cases hk

/-- A batch adds its unbound keys to the size, each once. -/
theorem size_insertAll :
    (m.insertAll batch).state.size = m.size + (PartialMap.freshKeys m.get? batch).ncard := by
  have hbefore : (PartialMap.domain m.get?).Finite := m.contents.finite_domain_get?
  have hafter : (PartialMap.domain (m.insertAll batch).state.get?).Finite :=
    (m.insertAll batch).state.contents.finite_domain_get?
  have hfresh : (PartialMap.freshKeys m.get? batch).Finite := by
    refine hafter.subset ?_
    rw [domain_insertAll]
    exact Set.subset_union_right
  calc (m.insertAll batch).state.size
      = (PartialMap.domain (m.insertAll batch).state.get?).ncard := Table.size_eq_size_get? _
    _ = (PartialMap.domain m.get?).ncard + (PartialMap.freshKeys m.get? batch).ncard := by
        rw [domain_insertAll,
          Set.ncard_union_eq (Set.disjoint_left.2 fun _ => m.notMem_freshKeys batch) hbefore hfresh]
    _ = m.size + (PartialMap.freshKeys m.get? batch).ncard :=
        congrArg (· + _) (Table.size_eq_size_get? m.contents).symm

end Size

/-! ## The batch as a whole -/

/-- Binds one entry on its own. -/
def insertEntry (m : QueryMap K V) (e : K × V) : Effect (QueryMap K V) (Option V) :=
  m.insert e.1 e.2

theorem contents_inTurn_insertEntry (m : QueryMap K V) (batch : List (K × V)) :
    (inTurn insertEntry m batch).state.contents = (m.insertAll batch).state.contents := by
  rw [contents_inTurn (fun t e => t.insert e.1 e.2) fun _ _ => rfl, contents_insertAll]
  rfl

theorem contents_inTurn_insertAll (m : QueryMap K V) (pieces : List (List (K × V))) :
    (inTurn insertAll m pieces).state.contents = (m.insertAll pieces.flatten).state.contents := by
  rw [contents_inTurn Table.insertAll contents_insertAll, contents_insertAll, Table.insertAll,
    List.foldl_flatten]
  rfl

/-- For any map and any batch that overwrites.

A key of the batch is bound to the value of its last entry, and every other key as it was; so the size
grows by the number of keys that the batch has and the map had not.  The same bindings come of the reversed
batch, if it keeps existing bindings and the keys are erased before.  The same contents come of the entries
inserted one by one, and of the pieces of the batch, however it is cut.  A batch with entries is reported
in one event with the sizes before and behind it; an empty batch publishes nothing and is not reported. -/
theorem insertAll_last_wins [EquivBEq K] (m : QueryMap K V) (batch : List (K × V)) :
    let e := m.insertAll batch
    let erased := (inTurn erase m (batch.map (·.1))).state
    (∀ before x after k, batch = before ++ x :: after → (x.1 == k) = true →
      (∀ y ∈ after, (y.1 == k) = false) → e.state.get? k = some x.2) ∧
    (∀ k, (∀ x ∈ batch, (x.1 == k) = false) → e.state.get? k = m.get? k) ∧
    e.state.size = m.size + (PartialMap.freshKeys m.get? batch).ncard ∧
    (erased.insertAllIfNew batch.reverse).state.get? = e.state.get? ∧
    (inTurn insertEntry m batch).state.contents = e.state.contents ∧
    (∀ pieces, pieces.flatten = batch →
      (inTurn insertAll m pieces).state.contents = e.state.contents) ∧
    (batch ≠ [] → e.events = [.generationPublished m.size e.state.size] ∧
      ∀ event ∈ e.events, event.level = .trace) ∧
    (batch = [] → e.state = m ∧ e.events = []) := by
  intro e erased
  refine ⟨?_, ?_, m.size_insertAll batch, m.get?_reversed batch,
    m.contents_inTurn_insertEntry batch, ?_, ?_, ?_⟩
  · rintro before x after k rfl hkey hafter
    rw [get?_insertAll_eq_last, lastOf_append_cons hkey hafter, Option.some_or]
  · intro k hother
    rw [get?_insertAll_eq_last, lastOf_eq_none_iff.2 hother, Option.none_or]
  · rintro pieces rfl
    exact m.contents_inTurn_insertAll pieces
  · intro hne
    have he : e = m.replace (m.contents.insertAll batch) () :=
      (insertAll_eq m batch).trans (if_neg (mt List.isEmpty_iff.1 hne))
    rw [he]
    refine ⟨rfl, ?_⟩
    intro event hevent
    rw [List.mem_singleton.1 hevent]
    rfl
  · rintro rfl
    exact ⟨rfl, rfl⟩

/-- Two keys with one text, of which the first is bound and comes twice. -/
theorem insertAll_last_wins_shared :
    let coal : Shared String := ⟨⟨0⟩, "coal"⟩
    let other : Shared String := ⟨⟨1⟩, "coal"⟩
    let m : QueryMap (Shared String) ℕ := (insert ∅ coal 1).state
    let batch := [(coal, 2), (other, 3), (coal, 4)]
    EquivBEq (Shared String) ∧
      (m.insertAll batch).state.get? coal = some 4 ∧
      (PartialMap.freshKeys m.get? batch).ncard = 1 ∧
      ((inTurn erase m (batch.map (·.1))).state.insertAllIfNew batch.reverse).state.get? coal =
        some 4 := by
  intro coal other m batch
  obtain ⟨hlast, -, hsize, hreversed, -⟩ := insertAll_last_wins m batch
  have hcoal : (m.insertAll batch).state.get? coal = some 4 :=
    hlast [(coal, 2), (other, 3)] (coal, 4) [] coal rfl rfl (by simp)
  refine ⟨inferInstance, hcoal, ?_, by rw [hreversed, hcoal]⟩
  have htwo : (m.insertAll batch).state.size = 2 := by decide
  have hone : m.size = 1 := by decide
  omega

end QueryMap

end AttributeRegistry
