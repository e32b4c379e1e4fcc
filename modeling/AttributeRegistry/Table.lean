/-!
# Tables

A table binds finitely many keys to values and remembers in which order the keys were first
bound.  `Table.get?` is its view as a partial function, and each operation has one equation that
says what it does to that view.

Keys are compared with `==`, which may identify keys that are not equal as values.  The
equations need it to be an equivalence and nothing more.
-/

namespace AttributeRegistry

/-- Bindings in order of first binding, each key once. -/
structure Table (K V : Type) [BEq K] where
  entries : List (K × V)
  /-- No key is bound twice. -/
  distinct : entries.Pairwise fun a b => (a.1 == b.1) = false

namespace Table

variable {K V : Type} [BEq K]

/-- The table without bindings. -/
def empty : Table K V := ⟨[], .nil⟩

instance : EmptyCollection (Table K V) := ⟨empty⟩

instance : Inhabited (Table K V) := ⟨empty⟩

/-- The value of the first key for which `p` holds. -/
def getBy (t : Table K V) (p : K → Bool) : Option V :=
  (t.entries.find? fun e => p e.1).map (·.2)

/-- The value bound to `k`. -/
def get? (t : Table K V) (k : K) : Option V :=
  t.getBy (· == k)

/-- Whether `k` is bound. -/
def contains (t : Table K V) (k : K) : Bool :=
  (t.get? k).isSome

/-- The number of bindings. -/
def size (t : Table K V) : Nat :=
  t.entries.length

/-- Whether nothing is bound. -/
def isEmpty (t : Table K V) : Bool :=
  t.entries.isEmpty

/-- The bound keys, in order. -/
def keys (t : Table K V) : List K :=
  t.entries.map (·.1)

/-- The values in the order of their keys. -/
def values (t : Table K V) : List V :=
  t.entries.map (·.2)

theorem get?_eq_none_iff {t : Table K V} {k : K} :
    t.get? k = none ↔ ∀ e ∈ t.entries, (e.1 == k) = false := by
  simp [get?, getBy, List.find?_eq_none]

/-- The same keys with other values. -/
private theorem pairwise_map_value {l : List (K × V)} {W : Type} (f : K × V → W)
    (h : l.Pairwise fun a b => (a.1 == b.1) = false) :
    (l.map fun e => (e.1, f e)).Pairwise fun a b => (a.1 == b.1) = false :=
  List.pairwise_map.2 h

/-- Binds `k` to `v`.  A bound key keeps its place, a new one goes to the end. -/
def insert (t : Table K V) (k : K) (v : V) : Table K V :=
  match h : t.get? k with
  | some _ =>
    ⟨t.entries.map fun e => (e.1, if e.1 == k then v else e.2), pairwise_map_value _ t.distinct⟩
  | none =>
    ⟨t.entries ++ [(k, v)], List.pairwise_append.2
      ⟨t.distinct, List.pairwise_singleton .., fun e he f hf => by
        rw [List.mem_singleton.1 hf]; exact get?_eq_none_iff.1 h e he⟩⟩

/-- Binds `k` to `v` unless it is bound. -/
def insertIfNew (t : Table K V) (k : K) (v : V) : Table K V :=
  if t.contains k then t else t.insert k v

/-- Unbinds `k`. -/
def erase (t : Table K V) (k : K) : Table K V :=
  ⟨t.entries.filter fun e => !(e.1 == k), t.distinct.filter _⟩

/-- Inserts the entries of a list one after the other. -/
def insertAll (t : Table K V) (batch : List (K × V)) : Table K V :=
  batch.foldl (fun t e => t.insert e.1 e.2) t

/-- The entries in ascending order of their keys. -/
def sorted [Ord K] (t : Table K V) : List (K × V) :=
  t.entries.mergeSort fun a b => (compare a.1 b.1).isLE

/-! ## The view as a partial function -/

@[simp] theorem get?_empty (k : K) : (∅ : Table K V).get? k = none := rfl

@[simp] theorem size_empty : (∅ : Table K V).size = 0 := rfl

/-- Equal keys have one value. -/
theorem get?_congr [EquivBEq K] (t : Table K V) {j k : K} (h : j == k) : t.get? j = t.get? k := by
  have : (fun e : K × V => e.1 == j) = fun e => e.1 == k :=
    funext fun _ => BEq.congr_right h
  simp [get?, getBy, this]

private theorem find?_map_value [EquivBEq K] (l : List (K × V)) (k j : K) (v : V) :
    ((l.map fun e => (e.1, if e.1 == k then v else e.2)).find? fun e => e.1 == j).map (·.2) =
      if k == j then (l.find? fun e => e.1 == j).map fun _ => v
      else (l.find? fun e => e.1 == j).map (·.2) := by
  induction l with
  | nil => simp
  | cons e l ih =>
    by_cases hj : (e.1 == j) = true
    · simp [hj, BEq.congr_left hj, BEq.comm (a := j) (b := k)]
      split <;> rfl
    · simp only [List.map_cons, List.find?_cons, hj]
      simpa using ih

/-- After an insertion the key has the new value and every other key what it had. -/
theorem get?_insert [EquivBEq K] (t : Table K V) (k j : K) (v : V) :
    (t.insert k v).get? j = if k == j then some v else t.get? j := by
  unfold insert
  split
  · next w h =>
    have hfind := find?_map_value t.entries k j v
    simp only [get?, getBy]
    rw [hfind]
    split
    · next hkj =>
      have : t.get? j = some w := (get?_congr t hkj).symm.trans h
      simp only [get?, getBy, Option.map_eq_some_iff] at this
      obtain ⟨e, he, -⟩ := this
      simp [he]
    · rfl
  · next h =>
    simp only [get?, getBy, List.find?_append]
    split
    · next hkj =>
      have : t.get? j = none := (get?_congr t hkj).symm.trans h
      simp only [get?, getBy, Option.map_eq_none_iff] at this
      simp [this, hkj]
    · next hkj => simp [hkj]

theorem get?_insert_self [EquivBEq K] (t : Table K V) (k : K) (v : V) :
    (t.insert k v).get? k = some v := by
  simp [get?_insert]

/-- An insertion that finds its key bound leaves the table as it is. -/
theorem get?_insertIfNew [EquivBEq K] (t : Table K V) (k j : K) (v : V) :
    (t.insertIfNew k v).get? j = (t.get? j).or (if k == j then some v else none) := by
  unfold insertIfNew contains
  by_cases hkj : (k == j) = true
  · cases hk : t.get? k <;> simp [get?_insert, hkj, hk, ← get?_congr t hkj]
  · cases hk : t.get? k <;> simp [get?_insert, hkj]

/-- After an erasure the key is unbound and every other key has what it had. -/
theorem get?_erase [EquivBEq K] (t : Table K V) (k j : K) :
    (t.erase k).get? j = if k == j then none else t.get? j := by
  simp only [get?, getBy, erase, List.find?_filter]
  split
  · next hkj =>
    have : ∀ e : K × V, (!(e.1 == k) && e.1 == j) = false := fun e => by
      rw [BEq.congr_right hkj]; simp
    simp [this]
  · next hkj =>
    have : ∀ e : K × V, (!(e.1 == k) && e.1 == j) = (e.1 == j) := fun e => by
      by_cases hej : (e.1 == j) = true
      · have : (e.1 == k) = false := by
          rw [BEq.congr_left hej, BEq.comm]; simpa using hkj
        simp [this]
      · simp [hej]
    simp [this]

/-! ## Entries -/

/-- A table binds the key of each of its entries to that entry's value. -/
theorem get?_of_mem [EquivBEq K] {t : Table K V} {e : K × V} (h : e ∈ t.entries) :
    t.get? e.1 = some e.2 := by
  obtain ⟨before, after, hsplit⟩ := List.append_of_mem h
  have hd := t.distinct
  rw [hsplit] at hd
  have hbefore : ∀ x ∈ before, (x.1 == e.1) = false := fun x hx =>
    (List.pairwise_append.1 hd).2.2 x hx e (by simp)
  have : before.find? (fun x => x.1 == e.1) = none := by
    simpa [List.find?_eq_none] using hbefore
  simp [get?, getBy, hsplit, List.find?_append, this]

end Table

end AttributeRegistry
