import AttributeRegistry.Event
import AttributeRegistry.QueryMap.Snapshot

/-!
# Query maps

A map for many reads and few writes.  It is its current generation and nothing else; a write
publishes a new generation, or leaves the map exactly as it is when there is nothing to write.
Which writes publish, and which of those are reported, is part of what each one does:

* `insert`, `clear` and `insertAll` of a non-empty batch always publish and are reported;
* `erase` publishes when the key is bound, `insertIfNew` when it is not, both without report.

Batches that keep existing bindings are in `AttributeRegistry.QueryMap.Draft`.  These and
`insertIfNew` must only ever add to a map.  What they publish is not checked for that, because they
never drop a key that is bound (`dropped_insertIfNew`, `dropped_insertAllIfNew`).
-/

namespace AttributeRegistry

/-- A map in its current generation. -/
structure QueryMap (K V : Type) [BEq K] where
  /-- What a snapshot taken now shows. -/
  snapshot : Snapshot K V

namespace QueryMap

variable {K V : Type} [BEq K]

/-- The first generation of a map, with no bindings. -/
def empty : QueryMap K V := ⟨⟨0, ∅⟩⟩

/-- An empty map made ready for `_capacity` bindings; room is no part of what a map holds. -/
def withCapacity (_capacity : Nat) : QueryMap K V := empty

instance : EmptyCollection (QueryMap K V) := ⟨empty⟩

instance : Inhabited (QueryMap K V) := ⟨empty⟩

/-- The current bindings. -/
def contents (m : QueryMap K V) : Table K V := m.snapshot.contents

/-- The map with `t` as its next generation. -/
def publish (m : QueryMap K V) (t : Table K V) : QueryMap K V :=
  ⟨⟨m.snapshot.generation + 1, t⟩⟩

/-! ## Reads -/

/-- The value bound to `k`. -/
def get? (m : QueryMap K V) (k : K) : Option V := m.contents.get? k

/-- Whether `k` is bound. -/
def contains (m : QueryMap K V) (k : K) : Bool := m.contents.contains k

/-- Whether some key is bound to a value that equals `v`. -/
def containsValue [BEq V] (m : QueryMap K V) (v : V) : Bool := m.contents.values.any (· == v)

/-- The number of bindings. -/
def size (m : QueryMap K V) : Nat := m.contents.size

/-- Whether nothing is bound. -/
def isEmpty (m : QueryMap K V) : Bool := m.contents.isEmpty

/-! ## Writes -/

/-- Publishes `t` and reports the sizes. -/
def replace {α : Type} (m : QueryMap K V) (t : Table K V) (answer : α) :
    Effect (QueryMap K V) α :=
  ⟨m.publish t, answer, [.generationPublished m.size t.size]⟩

/-- Binds `k` to `v` and answers the value it had. -/
def insert (m : QueryMap K V) (k : K) (v : V) : Effect (QueryMap K V) (Option V) :=
  m.replace (m.contents.insert k v) (m.get? k)

/-- Binds `k` to `v` if it is unbound; else answers the value it has. -/
def insertIfNew (m : QueryMap K V) (k : K) (v : V) : Effect (QueryMap K V) (Option V) :=
  match m.get? k with
  | some existing => ⟨m, some existing, []⟩
  | none => ⟨m.publish (m.contents.insert k v), none, []⟩

/-- Unbinds `k` and answers the value it had. -/
def erase (m : QueryMap K V) (k : K) : Effect (QueryMap K V) (Option V) :=
  match m.get? k with
  | some existing => ⟨m.publish (m.contents.erase k), some existing, []⟩
  | none => ⟨m, none, []⟩

/-- Unbinds every key. -/
def clear (m : QueryMap K V) : Effect (QueryMap K V) Unit :=
  ⟨m.publish ∅, (), [.cleared]⟩

/-! ## What the writes do to a key -/

@[simp] theorem contents_publish (m : QueryMap K V) (t : Table K V) :
    (m.publish t).contents = t := rfl

@[simp] theorem get?_empty (k : K) : (∅ : QueryMap K V).get? k = none := rfl

theorem get?_insert [EquivBEq K] (m : QueryMap K V) (k j : K) (v : V) :
    (m.insert k v).state.get? j = if k == j then some v else m.get? j :=
  Table.get?_insert ..

/-- A bound key keeps its value. -/
theorem get?_insertIfNew [EquivBEq K] (m : QueryMap K V) (k j : K) (v : V) :
    (m.insertIfNew k v).state.get? j = (m.get? j).or (if k == j then some v else none) := by
  unfold insertIfNew
  cases hk : m.get? k with
  | some w =>
    by_cases hkj : (k == j) = true
    · have : m.get? j = some w := (Table.get?_congr m.contents hkj).symm.trans hk
      simp [this]
    · simp [hkj]
  | none =>
    simp only [get?, contents_publish, Table.get?_insert]
    by_cases hkj : (k == j) = true
    · have : m.contents.get? j = none := (Table.get?_congr m.contents hkj).symm.trans hk
      simp [hkj, this]
    · simp [hkj]

theorem get?_erase [EquivBEq K] (m : QueryMap K V) (k j : K) :
    (m.erase k).state.get? j = if k == j then none else m.get? j := by
  unfold erase
  cases hk : m.get? k with
  | some w => exact Table.get?_erase ..
  | none =>
    by_cases hkj : (k == j) = true
    · have : m.get? j = none := (Table.get?_congr m.contents hkj).symm.trans hk
      simp [hkj, this]
    · simp [hkj]

/-- The bound keys of `m` that are unbound in `next`. -/
def dropped (m next : QueryMap K V) : List K := m.contents.keys.filter fun k => !next.contains k

theorem dropped_eq_nil_iff [EquivBEq K] {m next : QueryMap K V} :
    m.dropped next = [] ↔ ∀ k, m.contains k = true → next.contains k = true := by
  simp only [dropped, List.filter_eq_nil_iff, Table.keys, List.mem_map, Bool.not_eq_true',
    Bool.not_eq_false]
  constructor
  · intro h k hk
    obtain ⟨v, hv⟩ := Option.isSome_iff_exists.1 hk
    obtain ⟨e, he, -⟩ := Option.map_eq_some_iff.1 hv
    have hsame : (e.1 == k) = true := List.find?_some (p := fun e : K × V => e.1 == k) he
    have hkey : next.get? e.1 = next.get? k := Table.get?_congr next.contents hsame
    have hbound := h e.1 ⟨e, List.mem_of_find?_eq_some he, rfl⟩
    exact (congrArg Option.isSome hkey).symm.trans hbound
  · rintro h _ ⟨e, he, rfl⟩
    exact h e.1 (Option.isSome_of_mem (Table.get?_of_mem he))

/-- Nothing is dropped by a write that only adds to what is bound. -/
theorem dropped_eq_nil_of_or [EquivBEq K] {m next : QueryMap K V} {added : K → Option V}
    (h : ∀ k, next.get? k = (m.get? k).or (added k)) : m.dropped next = [] := by
  rw [dropped_eq_nil_iff]
  intro k hk
  show (next.get? k).isSome = true
  rw [h, Option.isSome_or]
  exact Bool.or_eq_true_iff.2 (Or.inl hk)

theorem dropped_insertIfNew [EquivBEq K] (m : QueryMap K V) (k : K) (v : V) :
    m.dropped (m.insertIfNew k v).state = [] :=
  dropped_eq_nil_of_or fun j => get?_insertIfNew m k j v

/-- An insertion of a new key answers what the key was bound to, which is nothing if it was new. -/
theorem answer_insertIfNew (m : QueryMap K V) (k : K) (v : V) :
    (m.insertIfNew k v).answer = m.get? k := by
  unfold insertIfNew
  cases h : m.get? k with
  | some w => rfl
  | none => rfl

/-- An erasure answers what the key was bound to. -/
theorem answer_erase (m : QueryMap K V) (k : K) : (m.erase k).answer = m.get? k := by
  unfold erase
  cases h : m.get? k with
  | some v => rfl
  | none => rfl

@[simp] theorem get?_clear (m : QueryMap K V) (j : K) : m.clear.state.get? j = none := rfl

/-! ## Batches that overwrite -/

/-- A batch on its way into a map: nothing is written until all of it is there. -/
structure Intake (K V : Type) [BEq K] where
  /-- The map as its readers see it. -/
  live : QueryMap K V
  /-- The entries pulled so far. -/
  pulled : Array (K × V)

namespace Intake

/-- Nothing is pulled yet. -/
def start (m : QueryMap K V) : Intake K V := ⟨m, #[]⟩

/-- Takes one more entry out of the batch. -/
def pull (i : Intake K V) (e : K × V) : Intake K V := { i with pulled := i.pulled.push e }

/-- Writes what was pulled as one generation; an empty batch writes nothing. -/
def finish (i : Intake K V) : Effect (QueryMap K V) Unit :=
  if i.pulled.isEmpty then ⟨i.live, (), []⟩
  else i.live.replace (i.live.contents.insertAll i.pulled.toList) ()

/-- The map that readers see while each entry of a batch is pulled. -/
def seen (i : Intake K V) : List (K × V) → List (QueryMap K V)
  | [] => []
  | e :: rest => i.live :: (i.pull e).seen rest

end Intake

/-- Binds every key of a batch to the last value that the batch has for it. -/
def insertAll (m : QueryMap K V) (batch : List (K × V)) : Effect (QueryMap K V) Unit :=
  (batch.foldl Intake.pull (Intake.start m)).finish

/-- Pulling leaves the map alone and keeps the entries in their order. -/
theorem Intake.foldl_pull (i : Intake K V) (batch : List (K × V)) :
    batch.foldl Intake.pull i = ⟨i.live, i.pulled ++ batch⟩ := by
  induction batch generalizing i with
  | nil => simp
  | cons e rest ih => simp [ih, Intake.pull]

/-- A batch is written as a whole, and not at all if it is empty. -/
theorem insertAll_eq (m : QueryMap K V) (batch : List (K × V)) :
    m.insertAll batch =
      if batch.isEmpty then ⟨m, (), []⟩ else m.replace (m.contents.insertAll batch) () := by
  simp [insertAll, Intake.foldl_pull, Intake.start, Intake.finish]

/-- Written or not, the map afterwards holds all of the batch. -/
theorem contents_insertAll (m : QueryMap K V) (batch : List (K × V)) :
    (m.insertAll batch).state.contents = m.contents.insertAll batch := by
  rw [insertAll_eq]
  cases batch with
  | nil => rfl
  | cons e rest => rfl

end QueryMap

end AttributeRegistry
