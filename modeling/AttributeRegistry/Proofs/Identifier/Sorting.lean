import Mathlib.Data.List.Sort
import AttributeRegistry.Proofs.Identifier.Comparison

/-!
# Sorted identifiers

Sorting, both ways to drop repeats and the greatest of a list are each told by their members and their
order.  An ascending list is determined by its members, so each of them can be read off the sorted list
(`order_coherent`).
-/

namespace AttributeRegistry.Identifier

open Text (compareBytes)

/-! ## Lists without repeats -/

/-- The members that are kept stand as they stood, and no two of them are equal. -/
theorem pairwise_eraseDups {α : Type} [BEq α] [LawfulBEq α] {R : α → α → Prop} {l : List α}
    (h : l.Pairwise R) : l.eraseDups.Pairwise fun a b => R a b ∧ a ≠ b := by
  match l with
  | [] => exact .nil
  | a :: l =>
      obtain ⟨hhead, htail⟩ := List.pairwise_cons.1 h
      rw [List.eraseDups_cons]
      refine List.pairwise_cons.2 ⟨fun b hb => ?_, pairwise_eraseDups (htail.filter fun b => !b == a)⟩
      obtain ⟨hmem, hne⟩ := List.mem_filter.1 (List.mem_eraseDups.1 hb)
      refine ⟨hhead b hmem, ?_⟩
      rintro rfl
      simp at hne
termination_by l.length
decreasing_by exact Nat.lt_succ_of_le (List.length_filter_le _ _)

/-- Identifiers are kept or dropped with what they are packed as. -/
theorem eraseDups_map_pack (ids : List Identifier) :
    (ids.map pack).eraseDups = ids.eraseDups.map pack := by
  match ids with
  | [] => rfl
  | i :: ids =>
      have hequal : (fun p : Packed => !p == i.pack) ∘ pack = fun j => !j == i := rfl
      rw [List.map_cons, List.eraseDups_cons, List.eraseDups_cons, List.map_cons, List.filter_map,
        hequal, eraseDups_map_pack (ids.filter fun j => !j == i)]
termination_by ids.length
decreasing_by exact Nat.lt_succ_of_le (List.length_filter_le _ _)

theorem mem_distinct {ids : List Identifier} {i : Identifier} : i ∈ distinct ids ↔ i ∈ ids :=
  List.mem_eraseDups

theorem nodup_distinct (ids : List Identifier) : (distinct ids).Nodup :=
  (pairwise_eraseDups (List.pairwise_of_forall (R := fun _ _ => True) fun _ _ => trivial)).imp And.right

/-- To look at the hashes first makes no difference. -/
theorem distinct_map_pack (ids : List Identifier) :
    Packed.distinct (ids.map pack) = (distinct ids).map pack := by
  have hhash : (fun p q : Packed => hash p == hash q && p == q) = fun p q => p == q :=
    funext fun p => funext fun q => congrFun (Table.hash_beq_and_beq q) p
  rw [Packed.distinct, hhash]
  exact eraseDups_map_pack ids

/-! ## Sorting -/

theorem sort_perm (ids : List Identifier) : (sort ids).Perm ids := List.mergeSort_perm ..

theorem pairwise_sort (ids : List Identifier) : (sort ids).Pairwise (· ≤ ·) := by
  refine List.Pairwise.imp (fun h => le_iff_compare.2 h) (List.pairwise_mergeSort ?_ ?_ ids)
  · intro a b c
    simp only [← le_iff_compare]
    exact le_trans
  · intro a b
    simp only [Bool.or_eq_true, ← le_iff_compare]
    exact le_total a b

/-- The sorted list is the same for every arrangement of the identifiers, and for no others. -/
theorem sort_eq_iff_perm {ids ids' : List Identifier} : sort ids = sort ids' ↔ ids.Perm ids' := by
  constructor
  · intro h
    exact (sort_perm ids).symm.trans (h ▸ sort_perm ids')
  · intro h
    refine List.Perm.eq_of_pairwise' (pairwise_sort ids) (pairwise_sort ids') ?_
    exact (sort_perm ids).trans (h.trans (sort_perm ids').symm)

/-! ## Ordered sets -/

theorem mem_insertOrdered {i j : Identifier} {set : List Identifier} :
    j ∈ insertOrdered i set ↔ j = i ∨ j ∈ set := by
  induction set with
  | nil => simp [insertOrdered]
  | cons k set ih =>
      rw [insertOrdered]
      cases h : compare i k with
      | lt => simp
      | eq =>
          obtain rfl := Std.compare_eq_iff_eq.1 h
          simp
      | gt => simp [ih, or_left_comm]

theorem pairwise_insertOrdered {set : List Identifier} (h : set.Pairwise (· < ·)) (i : Identifier) :
    (insertOrdered i set).Pairwise (· < ·) := by
  induction set with
  | nil => exact List.pairwise_singleton ..
  | cons k set ih =>
      obtain ⟨hhead, htail⟩ := List.pairwise_cons.1 h
      rw [insertOrdered]
      cases hik : compare i k with
      | lt =>
          have hlt : i < k := lt_iff_compare.2 hik
          refine List.pairwise_cons.2 ⟨fun j hj => ?_, h⟩
          rcases List.mem_cons.1 hj with rfl | hj
          · exact hlt
          · exact hlt.trans (hhead j hj)
      | eq => exact h
      | gt =>
          have hlt : k < i := Std.compare_eq_gt.1 hik
          refine List.pairwise_cons.2 ⟨fun j hj => ?_, ih htail⟩
          rcases mem_insertOrdered.1 hj with rfl | hj
          · exact hlt
          · exact hhead j hj

theorem mem_orderedSet {ids : List Identifier} {i : Identifier} : i ∈ orderedSet ids ↔ i ∈ ids := by
  have hfold (set : List Identifier) :
      i ∈ ids.foldl (fun set i => insertOrdered i set) set ↔ i ∈ ids ∨ i ∈ set := by
    induction ids generalizing set with
    | nil => simp
    | cons j ids ih => rw [List.foldl_cons, ih, mem_insertOrdered, List.mem_cons, or_left_comm, or_assoc]
  rw [orderedSet, hfold, or_iff_left List.not_mem_nil]

theorem pairwise_orderedSet (ids : List Identifier) : (orderedSet ids).Pairwise (· < ·) := by
  have hfold {set : List Identifier} (h : set.Pairwise (· < ·)) :
      (ids.foldl (fun set i => insertOrdered i set) set).Pairwise (· < ·) := by
    induction ids generalizing set with
    | nil => exact h
    | cons j ids ih => exact ih (pairwise_insertOrdered h j)
  exact hfold .nil

/-- The ordered set is the sorted list without its repeats. -/
theorem orderedSet_eq (ids : List Identifier) : orderedSet ids = (sort ids).eraseDups := by
  have hsorted : (sort ids).eraseDups.Pairwise (· < ·) :=
    (pairwise_eraseDups (pairwise_sort ids)).imp fun h => lt_of_le_of_ne h.1 h.2
  refine (pairwise_orderedSet ids).eq_of_mem_iff hsorted fun i => ?_
  rw [mem_orderedSet, List.mem_eraseDups, (sort_perm ids).mem_iff]

theorem distinct_perm_orderedSet (ids : List Identifier) : (distinct ids).Perm (orderedSet ids) := by
  rw [List.perm_ext_iff_of_nodup (nodup_distinct ids) ((pairwise_orderedSet ids).imp ne_of_lt)]
  intro i
  rw [mem_distinct, mem_orderedSet]

/-! ## The greatest -/

/-- The one of two that is kept is one of them and above both. -/
theorem exists_kept (i j : Identifier) :
    ∃ k, (if (compare i j).isGT then i else j) = k ∧ (k = i ∨ k = j) ∧ i ≤ k ∧ j ≤ k := by
  by_cases h : (compare i j).isGT = true
  · exact ⟨i, if_pos h, .inl rfl, le_rfl, (Std.compare_eq_gt.1 (Ordering.isGT_iff_eq_gt.1 h)).le⟩
  · refine ⟨j, if_neg h, .inr rfl, le_iff_compare.2 ?_, le_rfl⟩
    rw [← Ordering.not_isGT_eq_isLE, Bool.not_eq_true', Bool.eq_false_iff]
    exact h

/-- A list that is not empty has a greatest, which is in it and above all of it. -/
theorem exists_greatest? (i : Identifier) (ids : List Identifier) :
    ∃ m, greatest? (i :: ids) = some m ∧ m ∈ i :: ids ∧ ∀ j ∈ i :: ids, j ≤ m := by
  induction ids generalizing i with
  | nil => exact ⟨i, rfl, List.mem_cons_self, fun j hj => (List.mem_singleton.1 hj).le⟩
  | cons j ids ih =>
      obtain ⟨k, hk, hkept, hi, hj⟩ := exists_kept i j
      obtain ⟨m, hm, hmem, habove⟩ := ih k
      have hkm : k ≤ m := habove k List.mem_cons_self
      refine ⟨m, ?_, ?_, ?_⟩
      · rw [← hm, ← hk]
        rfl
      · rcases List.mem_cons.1 hmem with rfl | hrest
        · rcases hkept with rfl | rfl
          · exact List.mem_cons_self
          · exact List.mem_cons_of_mem i List.mem_cons_self
        · exact List.mem_cons_of_mem i (List.mem_cons_of_mem j hrest)
      · refine List.forall_mem_cons.2 ⟨hi.trans hkm, List.forall_mem_cons.2 ⟨hj.trans hkm, ?_⟩⟩
        exact (List.forall_mem_cons.1 habove).2

/-- So is the last of the sorted list. -/
theorem getLast?_sort {ids : List Identifier} {m : Identifier} (h : (sort ids).getLast? = some m) :
    m ∈ ids ∧ ∀ i ∈ ids, i ≤ m := by
  obtain ⟨front, hsplit⟩ := List.getLast?_eq_some_iff.1 h
  have hordered := pairwise_sort ids
  rw [hsplit, List.pairwise_append] at hordered
  have hmem {i : Identifier} : i ∈ ids ↔ i ∈ front ∨ i = m := by
    rw [← (sort_perm ids).mem_iff, hsplit, List.mem_append, List.mem_singleton]
  refine ⟨hmem.2 (.inr rfl), fun i hi => ?_⟩
  rcases hmem.1 hi with hfront | rfl
  · exact hordered.2.2 i hfront m List.mem_cons_self
  · exact le_rfl

theorem greatest?_eq (ids : List Identifier) : greatest? ids = (sort ids).getLast? := by
  cases hlast : (sort ids).getLast? with
  | none =>
      have hnil : ids = [] := by
        rw [← List.length_eq_zero_iff, ← (sort_perm ids).length_eq, List.getLast?_eq_none_iff.1 hlast,
          List.length_nil]
      rw [hnil]
      rfl
  | some last =>
      obtain ⟨hmem, habove⟩ := getLast?_sort hlast
      cases ids with
      | nil => exact absurd hmem List.not_mem_nil
      | cons i ids =>
          obtain ⟨m, hm, hmem', habove'⟩ := exists_greatest? i ids
          rw [hm, le_antisymm (habove m hmem') (habove' last hmem)]

/-! ## What agrees -/

/-- Comparison, equality and hash of two identifiers tell the same. -/
structure Coherent (a b : Identifier) : Prop where
  compare_eq_iff : compare a b = .eq ↔ (a == b) = true
  beq_iff_text : (a == b) = true ↔ a.text = b.text
  /-- The order is by namespace and then by path, byte for byte. -/
  compare_bytes : compare a b = (compareBytes a.ns b.ns).then (compareBytes a.path b.path)
  compare_swap : compare b a = (compare a b).swap
  partialCompare_eq : a.partialCompare b = some (compare a b)
  lt_iff : a < b ↔ compare a b = .lt
  le_iff : a ≤ b ↔ (compare a b).isLE = true
  /-- Packed, they compare by what is cut at the stored offsets. -/
  compare_pack : a.pack.compare? b.pack = some (compare a b)
  beq_pack : (a.pack == b.pack) = (a == b)
  hash_pack : (a == b) = true → hash a.pack = hash b.pack

/-- What becomes of a list of identifiers by order is what becomes of it by equality and hash. -/
structure Arranged (ids : List Identifier) : Prop where
  sort_perm : (sort ids).Perm ids
  pairwise_sort : (sort ids).Pairwise (· ≤ ·)
  /-- Sorting forgets how the list was arranged, and nothing else. -/
  sort_texts : ∀ ids', (sort ids).map text = (sort ids').map text ↔ ids.Perm ids'
  mem_distinct : ∀ i, i ∈ distinct ids ↔ i ∈ ids
  nodup_distinct : (distinct ids).Nodup
  /-- Packed, those are kept that differ in hash or text. -/
  distinct_pack : Packed.distinct (ids.map pack) = (distinct ids).map pack
  distinct_perm : (distinct ids).Perm (orderedSet ids)
  orderedSet_eq : orderedSet ids = (sort ids).eraseDups
  greatest?_eq : greatest? ids = (sort ids).getLast?

theorem coherent (a b : Identifier) : Coherent a b where
  compare_eq_iff := Std.compare_eq_iff_eq.trans beq_iff_eq.symm
  beq_iff_text := beq_iff_eq (α := String)
  compare_bytes := compare_eq_bytes a b
  compare_swap := Std.OrientedOrd.eq_swap
  partialCompare_eq := rfl
  lt_iff := lt_iff_compare
  le_iff := le_iff_compare
  compare_pack := compare?_pack a b
  beq_pack := rfl
  hash_pack h := LawfulHashable.hash_eq a.pack b.pack h

theorem arranged (ids : List Identifier) : Arranged ids where
  sort_perm := sort_perm ids
  pairwise_sort := pairwise_sort ids
  sort_texts ids' := by
    have htext : Function.Injective text := fun a b h => text_injective h
    rw [htext.list_map.eq_iff, sort_eq_iff_perm]
  mem_distinct _ := mem_distinct
  nodup_distinct := nodup_distinct ids
  distinct_pack := distinct_map_pack ids
  distinct_perm := distinct_perm_orderedSet ids
  orderedSet_eq := orderedSet_eq ids
  greatest?_eq := greatest?_eq ids

/-- Of any two identifiers comparison, equality and hash tell the same; the comparison is a strict linear
order; and of any list the sorted one, the distinct ones, the ordered set and the greatest are in
agreement. -/
theorem order_coherent :
    (∀ a b : Identifier, Coherent a b) ∧
    (∀ a b c : Identifier, compare a b = .lt → compare b c = .lt → compare a c = .lt) ∧
    ∀ ids : List Identifier, Arranged ids := by
  refine ⟨coherent, fun a b c hab hbc => ?_, arranged⟩
  exact lt_iff_compare.1 ((lt_iff_compare.2 hab).trans (lt_iff_compare.2 hbc))

end AttributeRegistry.Identifier
