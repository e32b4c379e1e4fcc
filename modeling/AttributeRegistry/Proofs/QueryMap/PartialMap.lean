import Mathlib.Data.Set.Card
import AttributeRegistry.QueryMap.Call

/-!
# Finite partial functions as maps

A map for somebody who knows nothing of tables, drafts and generations: a partial function from keys
to values, with the calls of a query map told on it one binding at a time.

Keys are compared with `==`.  Equal keys are one key, so a partial function is counted by the classes
of its bound keys (`PartialMap.domain`), and of a table these are its entries, each once
(`Table.size_eq_size_get?`).
-/

namespace AttributeRegistry

/-- A partial function from keys to values. -/
abbrev PartialMap (K V : Type) := K → Option V

namespace PartialMap

variable {K V : Type} [BEq K]

/-! ## Operations -/

/-- Nothing is bound. -/
def empty : PartialMap K V := fun _ => none

/-- Binds `k` to `v`, whatever it was bound to. -/
def insert (M : PartialMap K V) (k : K) (v : V) : PartialMap K V :=
  fun j => if k == j then some v else M j

/-- Unbinds `k`. -/
def erase (M : PartialMap K V) (k : K) : PartialMap K V :=
  fun j => if k == j then none else M j

/-- Binds `k` to `v` if it is unbound; else tells the value it was found bound to. -/
def insertIfNew (M : PartialMap K V) (k : K) (v : V) : PartialMap K V × Option V :=
  match M k with
  | some old => (M, some old)
  | none => (M.insert k v, none)

/-- Inserts the entries of a batch in order. -/
def insertAll (M : PartialMap K V) (batch : List (K × V)) : PartialMap K V :=
  batch.foldl (fun M e => M.insert e.1 e.2) M

/-- Offers one more entry of a batch: the bindings so far, and what keys were found bound to. -/
def offer (s : PartialMap K V × PartialMap K V) (e : K × V) : PartialMap K V × PartialMap K V :=
  match s.1.insertIfNew e.1 e.2 with
  | (M, some old) => (M, s.2.insert e.1 old)
  | (M, none) => (M, s.2)

/-- Offers the entries of a batch in order: the bindings afterwards, and for each key that was found
bound the value that it was found bound to. -/
def insertAllIfNew (M : PartialMap K V) (batch : List (K × V)) : PartialMap K V × PartialMap K V :=
  batch.foldl offer (M, empty)

theorem insertIfNew_of_some {M : PartialMap K V} {k : K} {old : V} (h : M k = some old) (v : V) :
    M.insertIfNew k v = (M, some old) := by
  rw [insertIfNew, h]

theorem insertIfNew_of_none {M : PartialMap K V} {k : K} (h : M k = none) (v : V) :
    M.insertIfNew k v = (M.insert k v, none) := by
  rw [insertIfNew, h]

theorem offer_of_some {M : PartialMap K V} {e : K × V} {old : V} (h : M e.1 = some old)
    (found : PartialMap K V) : offer (M, found) e = (M, found.insert e.1 old) := by
  rw [offer, insertIfNew_of_some h]

theorem offer_of_none {M : PartialMap K V} {e : K × V} (h : M e.1 = none)
    (found : PartialMap K V) : offer (M, found) e = (M.insert e.1 e.2, found) := by
  rw [offer, insertIfNew_of_none h]

/-! ## Counting -/

/-- Keys up to `==`. -/
def keySetoid (K : Type) [BEq K] [EquivBEq K] : Setoid K where
  r j k := (j == k) = true
  iseqv := ⟨fun _ => BEq.rfl, BEq.symm, BEq.trans⟩

/-- The bound keys, equal ones taken as one. -/
def domain [EquivBEq K] (M : PartialMap K V) : Set (Quotient (keySetoid K)) :=
  {c | ∃ k, Quotient.mk (keySetoid K) k = c ∧ (M k).isSome = true}

/-- The number of bound keys. -/
noncomputable def size [EquivBEq K] (M : PartialMap K V) : ℕ := M.domain.ncard

end PartialMap

namespace Table

variable {K V : Type} [BEq K]

/-- A key is bound if some entry has an equal one. -/
theorem isSome_get?_iff {t : Table K V} {k : K} :
    (t.get? k).isSome = true ↔ ∃ e ∈ t.entries, (e.1 == k) = true := by
  simp [get?, getBy]

theorem isEmpty_iff_get? [EquivBEq K] {t : Table K V} :
    t.isEmpty = true ↔ ∀ k, t.get? k = none := by
  rw [isEmpty, List.isEmpty_iff]
  constructor
  · intro h k
    rw [get?_eq_none_iff, h]
    exact fun e he => absurd he List.not_mem_nil
  · intro h
    cases hentries : t.entries with
    | nil => rfl
    | cons e rest =>
        have hget := get?_of_mem (t := t) (e := e) (by rw [hentries]; exact List.mem_cons_self)
        rw [h e.1] at hget
        cases hget

/-- The classes of a table's keys are all different. -/
private theorem nodup_classes [EquivBEq K] (t : Table K V) :
    (t.keys.map (Quotient.mk (PartialMap.keySetoid K))).Nodup := by
  rw [keys, List.map_map, List.Nodup, List.pairwise_map]
  refine t.distinct.imp ?_
  intro a b hab hclass
  have : (a.1 == b.1) = true := Quotient.exact hclass
  rw [hab] at this
  cases this

private theorem domain_get? [EquivBEq K] [DecidableEq (Quotient (PartialMap.keySetoid K))]
    (t : Table K V) :
    PartialMap.domain t.get? =
      ↑(t.keys.map (Quotient.mk (PartialMap.keySetoid K))).toFinset := by
  ext c
  simp only [PartialMap.domain, Set.mem_ofPred_eq, isSome_get?_iff, Finset.mem_coe,
    List.mem_toFinset, List.mem_map, keys]
  constructor
  · rintro ⟨k, rfl, e, he, hek⟩
    exact ⟨e.1, ⟨e, he, rfl⟩, Quotient.sound hek⟩
  · rintro ⟨_, ⟨e, he, rfl⟩, rfl⟩
    exact ⟨e.1, rfl, e, he, BEq.rfl⟩

theorem finite_domain_get? [EquivBEq K] (t : Table K V) : (PartialMap.domain t.get?).Finite := by
  classical
  rw [domain_get?]
  exact Finset.finite_toSet _

/-- A table has as many entries as its view has bound keys. -/
theorem size_eq_size_get? [EquivBEq K] (t : Table K V) : t.size = PartialMap.size t.get? := by
  classical
  rw [PartialMap.size, domain_get?, Set.ncard_coe_finset,
    List.toFinset_card_of_nodup t.nodup_classes, List.length_map, keys, List.length_map]
  rfl

/-- A value is bound somewhere if the view has it at some key. -/
theorem any_values_iff [EquivBEq K] (t : Table K V) (p : V → Bool) :
    t.values.any p = true ↔ ∃ k w, t.get? k = some w ∧ p w = true := by
  rw [List.any_eq_true]
  constructor
  · rintro ⟨w, hw, hp⟩
    obtain ⟨e, he, rfl⟩ := List.mem_map.1 hw
    exact ⟨e.1, e.2, get?_of_mem he, hp⟩
  · rintro ⟨k, w, hget, hp⟩
    simp only [get?, getBy, Option.map_eq_some_iff] at hget
    obtain ⟨e, he, rfl⟩ := hget
    exact ⟨e.2, List.mem_map.2 ⟨e, List.mem_of_find?_eq_some he, rfl⟩, hp⟩

/-- The view of a table after a batch of insertions. -/
theorem get?_insertAll [EquivBEq K] (t : Table K V) (batch : List (K × V)) :
    (t.insertAll batch).get? = PartialMap.insertAll t.get? batch := by
  induction batch generalizing t with
  | nil => rfl
  | cons e batch ih =>
      have hinsert : (t.insert e.1 e.2).get? = PartialMap.insert t.get? e.1 e.2 :=
        funext fun j => get?_insert t e.1 j e.2
      show ((t.insert e.1 e.2).insertAll batch).get? = _
      rw [ih, hinsert]
      rfl

end Table

end AttributeRegistry
