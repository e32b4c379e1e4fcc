import Mathlib.Data.List.Basic
import AttributeRegistry.Table

/-!
# The entries of a table

`Table.get?` is the view of a table from outside; here is what the operations do to the list of
entries inside.  Two tables with the same entries in another order have one view
(`Table.get?_eq_of_perm`), and a table whose keys and values are replaced one by one goes through the
same operations as before, because of a key an operation sees only which others it equals and of a value
nothing (`Table.carry_insert`).
-/

namespace AttributeRegistry

namespace Table

variable {K V : Type} [BEq K]

theorem ext_entries {t u : Table K V} (h : t.entries = u.entries) : t = u := by
  cases t
  cases u
  cases h
  rfl

/-! ## Insertions -/

/-- A key that is new goes to the end. -/
theorem entries_insert_of_none {t : Table K V} {k : K} (h : t.get? k = none) (v : V) :
    (t.insert k v).entries = t.entries ++ [(k, v)] := by
  unfold insert
  split
  · next w hw =>
    rw [h] at hw
    cases hw
  · rfl

/-- A bound key keeps its place. -/
theorem entries_insert_of_some {t : Table K V} {k : K} {w : V} (h : t.get? k = some w) (v : V) :
    (t.insert k v).entries = t.entries.map fun e => (e.1, if e.1 == k then v else e.2) := by
  unfold insert
  split
  · rfl
  · next hnone =>
    rw [h] at hnone
    cases hnone

theorem insertIfNew_of_some {t : Table K V} {k : K} {w : V} (h : t.get? k = some w) (v : V) :
    t.insertIfNew k v = t := by
  rw [insertIfNew, contains, h, if_pos (Option.isSome_some)]

theorem insertIfNew_of_none {t : Table K V} {k : K} (h : t.get? k = none) (v : V) :
    t.insertIfNew k v = t.insert k v := by
  rw [insertIfNew, contains, h, if_neg (by simp)]

/-- A key gets in as it is offered. -/
theorem mem_keys_insertIfNew {t : Table K V} {j k : K} {v : V} (h : k ∈ (t.insertIfNew j v).keys) :
    k ∈ t.keys ∨ k = j := by
  cases hj : t.get? j with
  | some w =>
      rw [insertIfNew_of_some hj] at h
      exact Or.inl h
  | none =>
      rw [insertIfNew_of_none hj, keys, entries_insert_of_none hj, List.map_append, List.mem_append,
        List.map_singleton, List.mem_singleton] at h
      exact h

/-! ## The entries of one key -/

/-- A key has one entry with its value if it is bound, and none if it is not. -/
theorem map_filter_entries [EquivBEq K] (t : Table K V) (k : K) :
    (t.entries.filter fun e => e.1 == k).map (·.2) = (t.get? k).toList := by
  obtain ⟨entries, hdistinct⟩ := t
  show _ = ((entries.find? fun e => e.1 == k).map (·.2)).toList
  induction entries with
  | nil => rfl
  | cons e entries ih =>
      rw [List.pairwise_cons] at hdistinct
      by_cases hk : (e.1 == k) = true
      · have hrest : entries.filter (fun f => f.1 == k) = [] := by
          rw [List.filter_eq_nil_iff]
          intro f hf hfk
          have hsame : (e.1 == f.1) = true := BEq.trans hk (BEq.symm hfk)
          rw [hdistinct.1 f hf] at hsame
          cases hsame
        rw [List.filter_cons_of_pos (p := fun f : K × V => f.1 == k) hk, hrest,
          List.find?_cons_of_pos (p := fun f : K × V => f.1 == k) hk]
        rfl
      · rw [List.filter_cons_of_neg (p := fun f : K × V => f.1 == k) hk,
          List.find?_cons_of_neg (p := fun f : K × V => f.1 == k) hk]
        exact ih hdistinct.2

/-- A bound key is listed once. -/
theorem countP_keys [EquivBEq K] (t : Table K V) (k : K) :
    t.keys.countP (· == k) = if (t.get? k).isSome then 1 else 0 := by
  have hvalues := congrArg List.length (t.map_filter_entries k)
  rw [List.length_map] at hvalues
  rw [keys, List.countP_map, List.countP_eq_length_filter]
  refine hvalues.trans ?_
  cases t.get? k with
  | some v => rfl
  | none => rfl

/-- A bound key has one entry. -/
theorem filter_entries_of_some [LawfulBEq K] {t : Table K V} {k : K} {v : V}
    (h : t.get? k = some v) : t.entries.filter (fun e => e.1 == k) = [(k, v)] := by
  have hvalues := t.map_filter_entries k
  rw [h, Option.toList_some, List.map_eq_singleton_iff] at hvalues
  obtain ⟨e, he, rfl⟩ := hvalues
  have hmem : e ∈ t.entries.filter fun e => e.1 == k := he ▸ List.mem_singleton_self e
  rw [he, ← eq_of_beq (List.mem_filter.1 hmem).2]

/-- An unbound key has none. -/
theorem filter_entries_of_none {t : Table K V} {k : K} (h : t.get? k = none) :
    t.entries.filter (fun e => e.1 == k) = [] := by
  rw [List.filter_eq_nil_iff]
  intro e he
  rw [get?_eq_none_iff.1 h e he]
  exact Bool.false_ne_true

/-- A bound key is the key of an entry with its value. -/
theorem exists_mem_of_get? {t : Table K V} {k : K} {v : V} (h : t.get? k = some v) :
    ∃ e ∈ t.entries, (e.1 == k) = true ∧ e.2 = v := by
  simp only [get?, getBy, Option.map_eq_some_iff] at h
  obtain ⟨e, he, rfl⟩ := h
  have hk := List.find?_some he
  exact ⟨e, List.mem_of_find?_eq_some he, hk, rfl⟩

/-- No key is bound at two places. -/
theorem place_unique [EquivBEq K] {t : Table K V} {m n : ℕ} {e f : K × V}
    (he : t.entries[m]? = some e) (hf : t.entries[n]? = some f) (hkey : (e.1 == f.1) = true) :
    m = n := by
  obtain ⟨hm, rfl⟩ := List.getElem?_eq_some_iff.1 he
  obtain ⟨hn, rfl⟩ := List.getElem?_eq_some_iff.1 hf
  have hdistinct := List.pairwise_iff_getElem.1 t.distinct
  rcases Nat.lt_trichotomy m n with hlt | heq | hgt
  · rw [hdistinct m n hm hn hlt] at hkey
    cases hkey
  · exact heq
  · rw [BEq.comm, hdistinct n m hn hm hgt] at hkey
    cases hkey

/-! ## The order of the entries -/

/-- The order of the entries takes no part in the view. -/
theorem get?_eq_of_perm [EquivBEq K] {t u : Table K V} (h : t.entries.Perm u.entries) (k : K) :
    t.get? k = u.get? k := by
  cases hget : t.get? k with
  | some v =>
      obtain ⟨e, he, hk, rfl⟩ := exists_mem_of_get? hget
      rw [← get?_congr u hk, get?_of_mem (h.mem_iff.1 he)]
  | none =>
      symm
      rw [get?_eq_none_iff]
      intro e he
      exact get?_eq_none_iff.1 hget e (h.mem_iff.2 he)

end Table

/-! ## Other keys and other values -/

/-- Takes keys to other keys: equal ones to equal ones, and different ones to different ones. -/
structure KeyMap (K J : Type) [BEq K] [BEq J] where
  toFun : K → J
  beq_toFun : ∀ a b, (toFun a == toFun b) = (a == b)

namespace KeyMap

variable {K J : Type} [BEq K] [BEq J]

instance : CoeFun (KeyMap K J) fun _ => K → J := ⟨toFun⟩

/-- Keys stay what they are. -/
def id : KeyMap K K := ⟨fun k => k, fun _ _ => rfl⟩

end KeyMap

namespace Table

section Carry

variable {K J V W : Type} [BEq K] [BEq J]

/-- The table with other keys, and with what `g` makes of the values. -/
def carry (f : KeyMap K J) (g : V → W) (t : Table K V) : Table J W :=
  ⟨t.entries.map fun e => (f e.1, g e.2), List.pairwise_map.2 (t.distinct.imp fun {a b} h => by
    rw [f.beq_toFun a.1 b.1, h])⟩

variable (f : KeyMap K J) (g : V → W) (t : Table K V)

theorem entries_carry : (t.carry f g).entries = t.entries.map fun e => (f e.1, g e.2) := rfl

@[simp] theorem carry_empty : (∅ : Table K V).carry f g = ∅ := rfl

@[simp] theorem size_carry : (t.carry f g).size = t.size :=
  List.length_map _

@[simp] theorem isEmpty_carry : (t.carry f g).isEmpty = t.isEmpty :=
  List.isEmpty_map

@[simp] theorem get?_carry (k : K) : (t.carry f g).get? (f k) = (t.get? k).map g := by
  have hkey : (fun e : J × W => e.1 == f k) ∘ (fun e : K × V => (f e.1, g e.2)) = fun e => e.1 == k :=
    funext fun e => f.beq_toFun e.1 k
  rw [get?, getBy, get?, getBy, entries_carry, List.find?_map, hkey, Option.map_map, Option.map_map]
  rfl

theorem carry_insert (k : K) (v : V) :
    (t.insert k v).carry f g = (t.carry f g).insert (f k) (g v) := by
  apply ext_entries
  cases h : t.get? k with
  | none =>
      have hcarry : (t.carry f g).get? (f k) = none := by rw [get?_carry, h, Option.map_none]
      rw [entries_insert_of_none hcarry, entries_carry, entries_carry, entries_insert_of_none h,
        List.map_append]
      rfl
  | some w =>
      have hcarry : (t.carry f g).get? (f k) = some (g w) := by rw [get?_carry, h, Option.map_some]
      rw [entries_insert_of_some hcarry, entries_carry, entries_carry, entries_insert_of_some h,
        List.map_map, List.map_map]
      refine List.map_congr_left fun e _ => ?_
      simp only [Function.comp_apply, apply_ite g, f.beq_toFun]

theorem carry_insertIfNew (k : K) (v : V) :
    (t.insertIfNew k v).carry f g = (t.carry f g).insertIfNew (f k) (g v) := by
  cases h : t.get? k with
  | none =>
      have hcarry : (t.carry f g).get? (f k) = none := by rw [get?_carry, h, Option.map_none]
      rw [insertIfNew_of_none h, insertIfNew_of_none hcarry, carry_insert]
  | some w =>
      have hcarry : (t.carry f g).get? (f k) = some (g w) := by rw [get?_carry, h, Option.map_some]
      rw [insertIfNew_of_some h, insertIfNew_of_some hcarry]

theorem carry_erase (k : K) : (t.erase k).carry f g = (t.carry f g).erase (f k) := by
  apply ext_entries
  have hkey : (fun e : J × W => !(e.1 == f k)) ∘ (fun e : K × V => (f e.1, g e.2)) =
      fun e => !(e.1 == k) :=
    funext fun e => congrArg (! ·) (f.beq_toFun e.1 k)
  show (t.entries.filter _).map _ = (t.entries.map _).filter _
  rw [List.filter_map, hkey]

theorem carry_insertAll (batch : List (K × V)) :
    (t.insertAll batch).carry f g = (t.carry f g).insertAll (batch.map fun e => (f e.1, g e.2)) := by
  induction batch generalizing t with
  | nil => rfl
  | cons e batch ih =>
      show ((t.insert e.1 e.2).insertAll batch).carry f g = _
      rw [ih, carry_insert]
      rfl

end Carry

/-! ## Other values for the same keys -/

section Map

variable {K V W : Type} [BEq K] (f : V → W) (t : Table K V)

/-- The same keys, with what `f` makes of their values. -/
def map (f : V → W) (t : Table K V) : Table K W :=
  ⟨t.entries.map fun e => (e.1, f e.2), List.pairwise_map.2 t.distinct⟩

theorem map_eq_carry : t.map f = t.carry KeyMap.id f := rfl

@[simp] theorem map_empty : (∅ : Table K V).map f = ∅ := rfl

@[simp] theorem get?_map (k : K) : (t.map f).get? k = (t.get? k).map f :=
  get?_carry KeyMap.id f t k

theorem map_insert (k : K) (v : V) : (t.insert k v).map f = (t.map f).insert k (f v) :=
  carry_insert KeyMap.id f t k v

@[simp] theorem keys_map : (t.map f).keys = t.keys := by
  rw [keys, keys, map_eq_carry, entries_carry, List.map_map]
  rfl

/-- The keys are the same, so a search by any property of them finds the same. -/
@[simp] theorem getBy_map (p : K → Bool) : (t.map f).getBy p = (t.getBy p).map f := by
  rw [getBy, getBy, map_eq_carry, entries_carry, List.find?_map, Option.map_map, Option.map_map]
  rfl

end Map

end Table

end AttributeRegistry
