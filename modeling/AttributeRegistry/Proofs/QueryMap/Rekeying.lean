import Mathlib.Data.Multiset.MapFold
import AttributeRegistry.Proofs.QueryMap.Locality
import AttributeRegistry.QueryMap.Session

/-!
# Sessions with other keys

A session sees of a key which others it equals, and nothing else.  So with other keys that are equal
where the first ones are, every step goes the same way (`Session.step_rekey`) and a run is reported on
alike (`Session.view_run_rekey`).

Two things about a report are left out of this.  A list of bindings comes in the order of the keys, which
is another one for other keys, so lists are seen without their order.  And the text that shows a generation
shows the keys themselves.
-/

namespace AttributeRegistry

/-! ## What is seen of a report -/

namespace QueryMap

/-- What is seen of a finding, the keys being known as members of `κ`. -/
inductive Finding.View (κ V : Type) where
  | done
  | value (v : Option V)
  | flag (b : Bool)
  | count (n : ℕ)
  | bindings (entries : Multiset (κ × V))
  | keys (ks : Multiset κ)
  | values (vs : List V)
  /-- A text that shows keys and values. -/
  | text
  | batch (rejected : Option (Multiset (κ × V))) (seen : List (ℕ × Bool))
  | handles (r : HandleReport)
  | badKey (e : IdentifierError)
  | unknownName

/-- What is seen of a report. -/
structure Report.View (κ V : Type) where
  finding : Finding.View κ V
  size : ℕ
  published : Bool
  log : List Event

variable {K J V κ : Type}

/-- Bindings without their order, by the names of their keys. -/
def named (name : K → κ) (entries : List (K × V)) : Multiset (κ × V) :=
  entries.map fun e => (name e.1, e.2)

/-- What is seen of a finding by somebody who knows the key `k` as `name k`. -/
def Finding.view (name : K → κ) : Finding K V → Finding.View κ V
  | .done => .done
  | .value v => .value v
  | .flag b => .flag b
  | .count n => .count n
  | .bindings entries => .bindings (named name entries)
  | .keys ks => .keys (ks.map name)
  | .values vs => .values vs
  | .outline _ => .text
  | .batch rejected seen => .batch (rejected.map (named name)) seen
  | .handles r => .handles r
  | .badKey e => .badKey e
  | .unknownName => .unknownName

/-- What is seen of a report by somebody who knows the key `k` as `name k`. -/
def Report.view (name : K → κ) (r : Report K V) : Report.View κ V :=
  ⟨r.finding.view name, r.size, r.published, r.log⟩

/-! ## Other keys -/

/-- The call with `f k` for the key `k`. -/
def Call.mapKeys (f : K → J) : Call K V → Call J V
  | .get k => .get (f k)
  | .contains k => .contains (f k)
  | .containsValue v => .containsValue v
  | .size => .size
  | .isEmpty => .isEmpty
  | .insert k v => .insert (f k) v
  | .insertIfNew k v => .insertIfNew (f k) v
  | .erase k => .erase (f k)
  | .clear => .clear
  | .insertAll batch => .insertAll (batch.map fun e => (f e.1, e.2))
  | .insertAllIfNew batch => .insertAllIfNew (batch.map fun e => (f e.1, e.2))

/-- The question with `f k` for the key `k`. -/
def Query.mapKeys (f : K → J) : Query K → Query J
  | .get k => .get (f k)
  | .contains k => .contains (f k)
  | .size => .size
  | .isEmpty => .isEmpty
  | .bindings => .bindings
  | .keys => .keys
  | .values => .values
  | .outline => .outline

/-- The step with `f k` for the key `k`. -/
def Step.mapKeys (f : K → J) : Step K V → Step J V
  | .call c => .call (c.mapKeys f)
  | .look q => .look (q.mapKeys f)
  | .keep name => .keep name
  | .copy name other => .copy name other
  | .ask name q => .ask name (q.mapKeys f)
  | .sameGeneration name other => .sameGeneration name other
  | .handles a b => .handles a b

end QueryMap

variable {K J V κ : Type} [BEq K] [BEq J]

/-- The same table for other keys. -/
abbrev Table.rekey (f : KeyMap K J) (t : Table K V) : Table J V := t.carry f id

/-- The same generation for other keys. -/
abbrev Snapshot.rekey (f : KeyMap K J) (s : Snapshot K V) : Snapshot J V := s.carry f id

namespace QueryMap

/-- The same map for other keys. -/
abbrev rekey (f : KeyMap K J) (m : QueryMap K V) : QueryMap J V := m.carry f id

/-- The same answer for other keys. -/
def Answer.rekey (f : KeyMap K J) : Answer K V → Answer J V
  | .done => .done
  | .value v => .value v
  | .flag b => .flag b
  | .count n => .count n
  | .rejected t => .rejected (t.rekey f)

/-- The same session for other keys. -/
def Session.rekey (f : KeyMap K J) (s : Session K V) : Session J V :=
  ⟨s.map.rekey f, s.kept.map (Snapshot.rekey f)⟩

end QueryMap

/-! ## Calls -/

variable (f : KeyMap K J)

theorem Table.get?_rekey (t : Table K V) (k : K) : (t.rekey f).get? (f k) = t.get? k := by
  rw [get?_carry, Option.map_id_apply]

theorem Table.insert_rekey (t : Table K V) (k : K) (v : V) :
    (t.rekey f).insert (f k) v = (t.insert k v).rekey f :=
  (t.carry_insert f id k v).symm

theorem Table.insertAll_rekey (t : Table K V) (batch : List (K × V)) :
    (t.rekey f).insertAll (batch.map fun e => (f e.1, e.2)) = (t.insertAll batch).rekey f :=
  (t.carry_insertAll f id batch).symm

theorem Table.values_rekey (t : Table K V) : (t.rekey f).values = t.values := by
  rw [values, values, entries_carry, List.map_map]
  rfl

namespace QueryMap

variable (m : QueryMap K V)

theorem get?_rekey (k : K) : (m.rekey f).get? (f k) = m.get? k :=
  m.contents.get?_rekey f k

theorem contains_rekey (k : K) : (m.rekey f).contains (f k) = m.contains k :=
  congrArg Option.isSome (m.get?_rekey f k)

theorem replace_rekey {α : Type} (t : Table K V) (a : α) :
    (m.rekey f).replace (t.rekey f) a =
      let e := m.replace t a
      ⟨e.state.rekey f, e.answer, e.events⟩ := by
  rw [replace, size_carry, Table.size_carry]
  rfl

theorem insert_rekey (k : K) (v : V) :
    (m.rekey f).insert (f k) v =
      let e := m.insert k v
      ⟨e.state.rekey f, e.answer, e.events⟩ := by
  rw [insert, get?_rekey, contents_carry, Table.insert_rekey, replace_rekey]
  rfl

theorem insertIfNew_rekey (k : K) (v : V) :
    (m.rekey f).insertIfNew (f k) v =
      let e := m.insertIfNew k v
      ⟨e.state.rekey f, e.answer, e.events⟩ := by
  unfold insertIfNew
  rw [get?_rekey, contents_carry, Table.insert_rekey]
  cases m.get? k with
  | some existing => rfl
  | none => rfl

theorem erase_rekey (k : K) :
    (m.rekey f).erase (f k) =
      let e := m.erase k
      ⟨e.state.rekey f, e.answer, e.events⟩ := by
  unfold erase
  rw [get?_rekey, contents_carry, ← m.contents.carry_erase f id k]
  cases m.get? k with
  | some existing => rfl
  | none => rfl

theorem insertAll_rekey (batch : List (K × V)) :
    (m.rekey f).insertAll (batch.map fun e => (f e.1, e.2)) =
      let e := m.insertAll batch
      ⟨e.state.rekey f, e.answer, e.events⟩ := by
  rw [insertAll_eq, insertAll_eq, List.isEmpty_map, contents_carry, Table.insertAll_rekey]
  cases batch.isEmpty with
  | true => rfl
  | false => exact m.replace_rekey f (m.contents.insertAll batch) ()

/-- A call with other keys, on a map with these keys, does the same. -/
theorem perform_rekey [BEq V] (c : Call K V) :
    (m.rekey f).perform (c.mapKeys f) =
      let e := m.perform c
      ⟨e.state.rekey f, e.answer.rekey f, e.events⟩ := by
  cases c with
  | get k => rw [Call.mapKeys, perform, get?_rekey]; rfl
  | contains k => rw [Call.mapKeys, perform, contains_rekey]; rfl
  | containsValue v =>
      rw [Call.mapKeys, perform, containsValue, contents_carry, Table.values_rekey]
      rfl
  | size => rw [Call.mapKeys, perform, size_carry]; rfl
  | isEmpty => rw [Call.mapKeys, perform, isEmpty, contents_carry, Table.isEmpty_carry]; rfl
  | insert k v => rw [Call.mapKeys, perform, insert_rekey]; rfl
  | insertIfNew k v => rw [Call.mapKeys, perform, insertIfNew_rekey]; rfl
  | erase k => rw [Call.mapKeys, perform, erase_rekey]; rfl
  | clear => rfl
  | insertAll batch => rw [Call.mapKeys, perform, insertAll_rekey]; rfl
  | insertAllIfNew batch =>
      have h := m.insertAllIfNew_carry f id batch
      exact congrArg (Effect.map Answer.rejected) h

theorem sightings_rekey (c : Call K V) :
    Session.sightings (m.rekey f) (c.mapKeys f) = Session.sightings m c := by
  have hbatch : (c.mapKeys f).batch = c.batch.map fun e => (f e.1, e.2) := by
    cases c <;> rfl
  unfold Session.sightings
  rw [pulls_eq, pulls_eq, hbatch, List.map_map, List.map_map, List.map_map]
  refine List.map_congr_left fun e _ => ?_
  exact Prod.ext (m.size_carry f id) (m.contains_rekey f e.1)

/-! ## Answers -/

/-- The order that lists go by is not seen. -/
theorem named_sorted [Ord K] (name : K → κ) (t : Table K V) :
    named name t.sorted = named name t.entries :=
  Multiset.coe_eq_coe.2 ((List.mergeSort_perm _ _).map _)

section Views

variable [Ord K] [Ord J] (name : J → κ)

theorem named_sorted_rekey (t : Table K V) :
    named name (t.rekey f).sorted = named (name ∘ f) t.sorted := by
  rw [named_sorted, named_sorted, Table.entries_carry, named, named, List.map_map]
  rfl

/-- The answer to a call with other keys is shown alike. -/
theorem view_finding_rekey (c : Call K V) (a : Answer K V) :
    (Session.finding (m.rekey f) (c.mapKeys f) (a.rekey f)).view name =
      (Session.finding m c a).view (name ∘ f) := by
  cases c with
  | insertAll batch =>
      -- shown as a batch, whatever the answer is
      exact congrArg (Finding.View.batch none) (m.sightings_rekey f (.insertAll batch))
  | _ =>
      cases a with
      | rejected t =>
          exact congrArg₂ (fun entries => Finding.View.batch (some entries))
            (named_sorted_rekey f name t) (m.sightings_rekey f _)
      | _ => rfl

variable [Ord V] [Inspect K] [Inspect J] [Inspect V]

/-- A question with other keys, to a generation with these keys, is answered alike. -/
theorem view_answer_rekey (s : Snapshot K V) (q : Query K) :
    (Session.answer (s.rekey f) (q.mapKeys f)).view name =
      (Session.answer s q).view (name ∘ f) := by
  have hget (k : K) : (s.rekey f).get? (f k) = s.get? k := s.contents.get?_rekey f k
  cases q with
  | get k => exact congrArg Finding.View.value (hget k)
  | contains k => exact congrArg (fun v => Finding.View.flag v.isSome) (hget k)
  | size => exact congrArg Finding.View.count (s.contents.size_carry f id)
  | isEmpty => exact congrArg Finding.View.flag (s.contents.isEmpty_carry f id)
  | bindings => exact congrArg Finding.View.bindings (named_sorted_rekey f name s.contents)
  | keys =>
      -- the keys are what the bindings show without their values
      have h := congrArg (Multiset.map Prod.fst) (named_sorted_rekey f name s.contents)
      simp only [named, Multiset.map_coe, List.map_map] at h
      refine congrArg Finding.View.keys ?_
      rw [List.map_map, List.map_map]
      exact h
  | values =>
      exact congrArg (fun vs => Finding.View.values (List.mergeSort vs _)) (s.contents.values_rekey f)
  | outline => rfl

/-! ## Sessions -/

variable [BEq V]

/-- A step with other keys, in a session with these keys, does the same. -/
theorem Session.step_rekey (s : Session K V) (x : Step K V) :
    let e := s.step x
    let e' := (s.rekey f).step (x.mapKeys f)
    e'.state = e.state.rekey f ∧ e'.answer.view name = e.answer.view (name ∘ f) ∧
      e'.events = e.events := by
  have hkept (name : String) :
      (s.rekey f).kept.get? name = (s.kept.get? name).map (Snapshot.rekey f) :=
    Table.get?_map (Snapshot.rekey f) s.kept name
  have hkeep (name : String) (g : Snapshot K V) :
      (s.rekey f).kept.insert name (g.rekey f) = (s.kept.insert name g).map (Snapshot.rekey f) :=
    (Table.map_insert (Snapshot.rekey f) s.kept name g).symm
  cases x with
  | call c =>
      have h := s.map.perform_rekey f c
      have hmap : (s.rekey f).map = s.map.rekey f := rfl
      simp only [step, Step.mapKeys, hmap, h]
      exact ⟨rfl, s.map.view_finding_rekey f name c _, trivial⟩
  | look q => exact ⟨rfl, view_answer_rekey f name s.map.snapshot q, rfl⟩
  | keep key =>
      exact ⟨congrArg (Session.mk _) (hkeep key s.map.snapshot), rfl, rfl⟩
  | copy key other =>
      simp only [step, Step.mapKeys, hkept]
      cases s.kept.get? key with
      | some g => exact ⟨congrArg (Session.mk _) (hkeep other g), rfl, rfl⟩
      | none => exact ⟨rfl, rfl, rfl⟩
  | ask key q =>
      simp only [step, Step.mapKeys, hkept]
      cases s.kept.get? key with
      | some g => exact ⟨rfl, view_answer_rekey f name g q, rfl⟩
      | none => exact ⟨rfl, rfl, rfl⟩
  | sameGeneration key other =>
      simp only [step, Step.mapKeys, hkept]
      cases s.kept.get? key with
      | some g =>
          cases s.kept.get? other with
          | some h => exact ⟨rfl, rfl, rfl⟩
          | none => exact ⟨rfl, rfl, rfl⟩
      | none => exact ⟨rfl, rfl, rfl⟩
  | handles a b => exact ⟨rfl, rfl, rfl⟩

/-- A run with other keys is reported on alike. -/
theorem Session.view_run_rekey (s : Session K V) (steps : List (Step K V)) :
    ((s.rekey f).run (steps.map fun x => .ok (x.mapKeys f))).map (Report.view name) =
      (s.run (steps.map .ok)).map (Report.view (name ∘ f)) := by
  induction steps generalizing s with
  | nil => rfl
  | cons x steps ih =>
      -- the steps leave sessions that are again the same up to keys
      obtain ⟨hstate, hanswer, hevents⟩ := s.step_rekey f name x
      simp only [List.map_cons, run, attempt, hstate, ih, Report.view, hanswer, hevents]
      rw [← (s.step x).state.map.size_carry f id]
      rfl

end Views

end QueryMap

end AttributeRegistry
