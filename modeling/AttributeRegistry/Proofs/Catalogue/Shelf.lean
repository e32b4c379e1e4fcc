import AttributeRegistry.Catalogue.Call
import AttributeRegistry.Proofs.ItemLookup.Registration
import AttributeRegistry.Proofs.Registry.Requests

/-!
# The lookups of a catalogue as a list

A registry of slots beside an array of places that may be empty leaves room for much that never
happens: a slot without a place, a place without a lookup, a lookup of other types than its slot.  A
catalogue that `Holds` a list of lookups has none of it: its records are the lookups' identifiers and
types in order, and the place of each is filled.  The list is all there is to know, and each
operation is told on it (`Holds.get`, `Holds.register`).
-/

namespace AttributeRegistry.Catalogue

variable {β V : Type}

/-! ## Slots -/

/-- An identifier with a record has the slot of its record, if the types agree. -/
theorem slot_of_some {c : Catalogue β V} {id : Identifier} {record : Record Slot}
    (h : c.registry.records.get? id = some record) (types : Signature) :
    c.slot id types =
      ⟨c, if record.types == types then .ok record.lookup else .error ⟨id, record.types, types⟩,
        []⟩ := by
  unfold slot Registry.request
  simp only [h]
  by_cases htypes : (record.types == types) = true
  · simp only [htypes, if_true]
    rfl
  · simp only [htypes, Bool.false_eq_true, if_false]
    rfl

/-- An identifier without a record gets a slot with a new place, which is empty. -/
theorem slot_of_none {c : Catalogue β V} {id : Identifier}
    (h : c.registry.records.get? id = none) (types : Signature) :
    c.slot id types =
      let slot : Slot := ⟨⟨id, types⟩, ⟨c.lookups.size⟩⟩
      ⟨⟨{ c.registry with records := c.registry.records.insert id ⟨slot, types⟩ },
        c.lookups.push none⟩, .ok slot, [.creatingLookup c.registry.label id types]⟩ := by
  unfold slot Registry.request
  simp only [h]
  rfl

/-- A slot whose lookup is made opens for the types of the lookup. -/
theorem openSlot_of_some {c : Catalogue β V} (slot : Slot) {l : ItemLookup β V}
    (h : c.lookup? slot.place = some l) (types : Signature) :
    c.openSlot slot types =
      (c.setLookup slot.place l, if l.types == types then some slot.place else none) := by
  unfold openSlot
  rw [h, Option.getD_some]

/-- A slot whose lookup is yet to be made opens for any types. -/
theorem openSlot_of_none {c : Catalogue β V} (slot : Slot) (h : c.lookup? slot.place = none)
    (types : Signature) :
    c.openSlot slot types = (c.setLookup slot.place (.new slot.id types), some slot.place) := by
  unfold openSlot
  rw [h, Option.getD_none]
  exact congrArg _ (if_pos (BEq.refl types))

/-- A request that is given a slot, and whose slot opens, gets the lookup. -/
theorem get_of_openSlot {c c₁ c₂ : Catalogue β V} {id : Identifier} {types : Signature} {slot : Slot}
    {events : List Event} {ref : LookupRef} (hslot : c.slot id types = ⟨c₁, .ok slot, events⟩)
    (hopen : c₁.openSlot slot types = (c₂, some ref)) :
    c.get id types = ⟨c₂, .ok ref, events⟩ := by
  unfold get
  simp only [hslot, hopen]

/-- A request that is given no slot is a conflict. -/
theorem get_of_slot_error {c c₁ : Catalogue β V} {id : Identifier} {types : Signature}
    {conflict : TypeConflict} {events : List Event}
    (hslot : c.slot id types = ⟨c₁, .error conflict, events⟩) :
    c.get id types = ⟨c₁, .error (.typeConflict conflict), events⟩ := by
  unfold get
  simp only [hslot]

/-! ## Shelves -/

/-- The record of the lookup that stands at the place `i`. -/
def recordAt (i : ℕ) (l : ItemLookup β V) : Identifier × Record Slot :=
  (l.id, ⟨⟨⟨l.id, l.types⟩, ⟨i⟩⟩, l.types⟩)

/-- The catalogue is made up of these lookups, in the order in which they were made. -/
structure Holds (c : Catalogue β V) (shelf : List (ItemLookup β V)) : Prop where
  entries_eq : c.registry.records.entries = shelf.mapIdx recordAt
  lookups_eq : c.lookups.toList = shelf.map some

theorem Holds.empty : Holds (.empty : Catalogue β V) [] := ⟨rfl, rfl⟩

/-- An identifier has a lookup at some place, or no lookup is its own. -/
theorem exists_place_or_forall_ne (shelf : List (ItemLookup β V)) (id : Identifier) :
    (∃ (i : ℕ) (l : ItemLookup β V), shelf[i]? = some l ∧ l.id = id) ∨ ∀ l ∈ shelf, l.id ≠ id := by
  by_cases hknown : ∃ l ∈ shelf, l.id = id
  · obtain ⟨l, hl, hid⟩ := hknown
    obtain ⟨i, hi⟩ := List.mem_iff_getElem?.1 hl
    exact Or.inl ⟨i, l, hi, hid⟩
  · exact Or.inr fun l hl hid => hknown ⟨l, hl, hid⟩

namespace Holds

variable {c : Catalogue β V} {shelf : List (ItemLookup β V)}

/-! ## Reads -/

/-- A reference leads to the lookup at its place. -/
theorem lookup?_eq (h : Holds c shelf) (ref : LookupRef) : c.lookup? ref = shelf[ref.index]? := by
  rw [lookup?, ← Array.getElem?_toList, h.lookups_eq, List.getElem?_map]
  cases shelf[ref.index]? with
  | none => rfl
  | some l => rfl

theorem size_eq (h : Holds c shelf) : c.lookups.size = shelf.length := by
  rw [← Array.length_toList, h.lookups_eq, List.length_map]

/-- An identifier has the record of its lookup. -/
theorem get?_of_getElem? (h : Holds c shelf) {i : ℕ} {l : ItemLookup β V} (hl : shelf[i]? = some l) :
    c.registry.records.get? l.id = some (recordAt i l).2 := by
  have hmem : recordAt i l ∈ c.registry.records.entries := by
    obtain ⟨hi, rfl⟩ := List.getElem?_eq_some_iff.1 hl
    rw [h.entries_eq, List.mem_mapIdx]
    exact ⟨i, hi, rfl⟩
  have hrecord := Table.get?_of_mem hmem
  exact hrecord

/-- An identifier without a lookup has no record. -/
theorem get?_of_forall_ne (h : Holds c shelf) {id : Identifier} (hid : ∀ l ∈ shelf, l.id ≠ id) :
    c.registry.records.get? id = none := by
  rw [Table.get?_eq_none_iff, h.entries_eq]
  intro e he
  obtain ⟨i, hi, rfl⟩ := List.mem_mapIdx.1 he
  exact beq_false_of_ne (hid _ (List.getElem_mem hi))

/-- No two lookups have one identifier. -/
theorem place_unique (h : Holds c shelf) {i j : ℕ} {l m : ItemLookup β V}
    (hl : shelf[i]? = some l) (hm : shelf[j]? = some m) (hid : l.id = m.id) : i = j := by
  have hrecord := h.get?_of_getElem? hl
  rw [hid, h.get?_of_getElem? hm] at hrecord
  have hslot := congrArg Record.lookup (Option.some.inj hrecord)
  have hplace := congrArg (fun s : Slot => s.place.index) hslot
  exact hplace.symm

/-- A lookup is found by its identifier. -/
theorem find?_of_getElem? (h : Holds c shelf) {i : ℕ} {l : ItemLookup β V}
    (hl : shelf[i]? = some l) : shelf.find? (fun m => m.id == l.id) = some l := by
  obtain ⟨hi, hget⟩ := List.getElem?_eq_some_iff.1 hl
  rw [List.find?_eq_some_iff_getElem]
  refine ⟨BEq.refl l.id, i, hi, hget, ?_⟩
  intro j hj
  -- a lookup of the same identifier further up would stand at the same place
  have hother : shelf[j].id ≠ l.id := by
    intro hid
    have hplace : j = i := h.place_unique (List.getElem?_eq_getElem (by omega)) hl hid
    omega
  rw [beq_false_of_ne hother]
  rfl

/-- The listing shows the identifiers and the types of the lookups. -/
theorem entries_eq_map (h : Holds c shelf) : c.entries = shelf.map fun l => ⟨l.id, l.types⟩ := by
  unfold entries Registry.lookups Table.values
  rw [h.entries_eq]
  refine List.ext_getElem? fun i => ?_
  rw [List.getElem?_map, List.getElem?_map, List.getElem?_map, List.getElem?_mapIdx,
    List.getElem?_map, Option.map_map, Option.map_map, Option.map_map]
  rfl

/-! ## Writes -/

/-- A lookup may be replaced by one of the same identifier and types. -/
theorem setLookup (h : Holds c shelf) {i : ℕ} {l m : ItemLookup β V} (hl : shelf[i]? = some l)
    (hid : m.id = l.id) (htypes : m.types = l.types) :
    Holds (c.setLookup ⟨i⟩ m) (shelf.set i m) := by
  have hrecord : recordAt i m = recordAt i l := by
    unfold recordAt
    rw [hid, htypes]
  constructor
  · show c.registry.records.entries = _
    rw [h.entries_eq]
    refine List.ext_getElem? fun j => ?_
    rw [List.getElem?_mapIdx, List.getElem?_mapIdx, List.getElem?_set]
    by_cases hj : i = j
    · subst hj
      rw [if_pos rfl, hl, if_pos (List.getElem?_eq_some_iff.1 hl).1, Option.map_some,
        Option.map_some, hrecord]
    · rw [if_neg hj]
  · rw [Catalogue.setLookup, Array.toList_setIfInBounds, h.lookups_eq, List.map_set]

/-- Nothing changes when a lookup is put where it is. -/
theorem setLookup_self (h : Holds c shelf) {i : ℕ} {l : ItemLookup β V} (hl : shelf[i]? = some l) :
    Holds (c.setLookup ⟨i⟩ l) shelf := by
  have hset := h.setLookup hl rfl rfl
  obtain ⟨hi, rfl⟩ := List.getElem?_eq_some_iff.1 hl
  rwa [List.set_getElem_self] at hset

/-! ## Operations -/

/-- An identifier that has a lookup gets that lookup if the types agree, and else a conflict with
the types of the lookup. -/
theorem get_of_getElem? (h : Holds c shelf) {i : ℕ} {l : ItemLookup β V} (hl : shelf[i]? = some l)
    (types : Signature) :
    Holds (c.get l.id types).state shelf ∧
      (c.get l.id types).answer =
        if l.types == types then .ok ⟨i⟩
        else .error (.typeConflict ⟨l.id, l.types, types⟩) := by
  have hslot := slot_of_some (h.get?_of_getElem? hl) types
  by_cases htypes : (l.types == types) = true
  · have hplace : c.lookup? ⟨i⟩ = some l := by rw [h.lookup?_eq, hl]
    have hopen := openSlot_of_some ⟨⟨l.id, l.types⟩, ⟨i⟩⟩ hplace types
    rw [recordAt, if_pos htypes] at hslot
    rw [if_pos htypes] at hopen
    rw [get_of_openSlot hslot hopen, if_pos htypes]
    exact ⟨h.setLookup_self hl, rfl⟩
  · rw [recordAt, if_neg htypes] at hslot
    rw [get_of_slot_error hslot, if_neg htypes]
    exact ⟨h, rfl⟩

/-- An identifier that has no lookup gets a new one, at a place behind all others. -/
theorem get_of_forall_ne (h : Holds c shelf) {id : Identifier} (hid : ∀ l ∈ shelf, l.id ≠ id)
    (types : Signature) :
    Holds (c.get id types).state (shelf ++ [.new id types]) ∧
      (c.get id types).answer = .ok ⟨shelf.length⟩ := by
  have hrecord := h.get?_of_forall_ne hid
  have hslot := slot_of_none hrecord types
  rw [h.size_eq] at hslot
  -- the place is new, so nothing is kept there yet
  have hplace : (c.slot id types).state.lookup? ⟨shelf.length⟩ = none := by
    rw [hslot, lookup?, ← h.size_eq, Array.getElem?_push_size]
    rfl
  rw [hslot] at hplace
  have hopen := openSlot_of_none ⟨⟨id, types⟩, ⟨shelf.length⟩⟩ hplace types
  rw [get_of_openSlot hslot hopen]
  refine ⟨⟨?_, ?_⟩, rfl⟩
  · show (c.registry.records.insert id _).entries = _
    rw [Table.entries_insert_of_none hrecord, h.entries_eq, List.mapIdx_concat]
    rfl
  · show ((c.lookups.push none).setIfInBounds shelf.length _).toList = _
    rw [Array.toList_setIfInBounds, Array.toList_push, h.lookups_eq, List.map_append,
      List.set_append_right _ _ (Nat.le_of_eq (List.length_map _)), List.length_map, Nat.sub_self]
    rfl

/-- A registration changes the lookup that its reference leads to and no other. -/
theorem register_of_getElem? (h : Holds c shelf) {ref : LookupRef} {l : ItemLookup β V}
    (hl : shelf[ref.index]? = some l) (r : ItemLookup.Registration β V) :
    ∃ e, c.register ref r = some e ∧ e.answer = (l.register r).answer ∧
      Holds e.state (shelf.set ref.index (l.register r).state) := by
  have hplace : c.lookup? ref = some l := by rw [h.lookup?_eq, hl]
  refine ⟨⟨c.setLookup ref (l.register r).state, (l.register r).answer, (l.register r).events⟩,
    ?_, rfl, ?_⟩
  · rw [register, hplace]
    rfl
  · exact h.setLookup hl (ItemLookup.id_register l r) (ItemLookup.types_register l r)

/-- A reference that leads nowhere is good for nothing. -/
theorem register_of_getElem?_none (h : Holds c shelf) {ref : LookupRef}
    (hl : shelf[ref.index]? = none) (r : ItemLookup.Registration β V) :
    c.register ref r = none := by
  rw [register, h.lookup?_eq, hl]
  rfl

end Holds

end AttributeRegistry.Catalogue
