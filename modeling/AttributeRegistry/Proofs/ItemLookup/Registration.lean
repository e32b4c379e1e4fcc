import Mathlib.Data.List.Basic
import AttributeRegistry.ItemLookup.Basic
import AttributeRegistry.Proofs.QueryMap.Batch

/-!
# What registrations do to a lookup

One equation for each part of a lookup says what a registration does to it.  From these follows what
a whole run does: an item has the provider of the first accepted registration that listed it
(`provider?_after`), and the fallbacks stand in the order of their registration
(`fallbacks_after`).

A registration that is turned down gives nothing to anybody, so the equations go by the history of
the run, which has the answer to each registration beside it.
-/

namespace AttributeRegistry.ItemLookup

variable {β V : Type}

/-- The provider that a registration has for items, with these items; none for a fallback.  The
attribute of the lookup is of the type `attr`. -/
def Registration.offer? (attr : TypeTag) :
    Registration β V → Option (Provider β × List (ItemRef V))
  | .forItems p items => some (p, items)
  | .self address items => some (⟨address, .ownValue attr⟩, items)
  | .fallback _ => none

/-- The fallback that a registration adds, if it adds one. -/
def Registration.fallback? : Registration β V → Option (Provider β)
  | .forItems .. => none
  | .self .. => none
  | .fallback p => some p

/-- A registration with the answer that it got. -/
abbrev Answered (β V : Type) := Registration β V × Except LookupError (Rejected β V)

/-- The provider that a registration has for the item at `a`: it must have been accepted and have
listed the item. -/
def Answered.offers (attr : TypeTag) (a : Address) (e : Answered β V) : Option (Provider β) :=
  match e.1.offer? attr, e.2 with
  | some (p, items), .ok _ => if items.any (·.address == a) then some p else none
  | _, _ => none

/-- The registrations of a run with their answers. -/
def history (l : ItemLookup β V) : List (Registration β V) → List (Answered β V)
  | [] => []
  | r :: run => (r, (l.register r).answer) :: (l.register r).state.history run

theorem after_cons (l : ItemLookup β V) (r : Registration β V) (run : List (Registration β V)) :
    l.after (r :: run) = (l.register r).state.after run := rfl

theorem after_append (l : ItemLookup β V) (run rest : List (Registration β V)) :
    l.after (run ++ rest) = (l.after run).after rest :=
  List.foldl_append

/-! ## One registration -/

/-- The provider of an item is what the map of providers has for it. -/
theorem provider?_eq_get? (l : ItemLookup β V) (item : ItemRef V) :
    l.provider? item = l.providers.get? item := rfl

/-- A registration for no items is turned down. -/
theorem registerFor_nil (l : ItemLookup β V) (p : Provider β) :
    l.registerFor p [] = ⟨l, .error (.invalidArgument .noItems), []⟩ := rfl

/-- A registration for some items is accepted, and its report is that of the map of providers. -/
theorem registerFor_of_ne_nil (l : ItemLookup β V) (p : Provider β) {items : List (ItemRef V)}
    (h : items ≠ []) :
    l.registerFor p items =
      let e := l.providers.insertAllIfNew (items.map fun item => (item, p))
      ⟨{ l with providers := e.state }, .ok e.answer, e.events ++ l.warnings e.answer⟩ := by
  unfold registerFor
  rw [if_neg]
  rwa [List.isEmpty_iff]

/-- Items of another type turn the registration down before anything else is looked at. -/
theorem registerSelf_of_find?_eq_some (l : ItemLookup β V) (address : Address)
    {items : List (ItemRef V)} {item : ItemRef V}
    (h : items.find? (fun item => !(item.value.type == l.types.attr)) = some item) :
    l.registerSelf address items =
      ⟨l, .error (.invalidArgument (.notSelfAttribute l.types.attr item.value.typeName)), []⟩ := by
  unfold registerSelf
  rw [h]

/-- Items of the right type are registered with the provider that is made for them. -/
theorem registerSelf_of_find?_eq_none (l : ItemLookup β V) (address : Address)
    {items : List (ItemRef V)}
    (h : items.find? (fun item => !(item.value.type == l.types.attr)) = none) :
    l.registerSelf address items = l.registerFor ⟨address, .ownValue l.types.attr⟩ items := by
  unfold registerSelf
  rw [h]

private theorem provider?_registerFor (l : ItemLookup β V) (p : Provider β)
    (items : List (ItemRef V)) (item : ItemRef V) :
    (l.registerFor p items).state.provider? item =
      (l.provider? item).or
        (Answered.offers l.types.attr item.address
          (.forItems p items, (l.registerFor p items).answer)) := by
  cases items with
  | nil => simp [registerFor_nil, Answered.offers, Registration.offer?]
  | cons first items =>
      rw [registerFor_of_ne_nil l p (List.cons_ne_nil first items), provider?_eq_get?,
        QueryMap.get?_insertAllIfNew, QueryMap.firstOf_map_const]
      rfl

/-- A registration gives its provider to the items that it lists and that have none. -/
theorem provider?_register (l : ItemLookup β V) (r : Registration β V) (item : ItemRef V) :
    (l.register r).state.provider? item =
      (l.provider? item).or
        (Answered.offers l.types.attr item.address (r, (l.register r).answer)) := by
  cases r with
  | forItems p items => exact provider?_registerFor l p items item
  | self address items =>
      rw [register]
      cases h : items.find? (fun item => !(item.value.type == l.types.attr)) with
      | some wrong =>
          simp [registerSelf_of_find?_eq_some l address h, Answered.offers, Registration.offer?]
      | none =>
          rw [registerSelf_of_find?_eq_none l address h]
          exact provider?_registerFor l _ items item
  | fallback p =>
      simp [Answered.offers, Registration.offer?, register, registerFallback, Effect.map,
        provider?, providerAt]

/-- A keyed registration leaves all but the providers of items as it is. -/
private theorem registerFor_frame (l : ItemLookup β V) (p : Provider β)
    (items : List (ItemRef V)) :
    (l.registerFor p items).state.id = l.id ∧ (l.registerFor p items).state.types = l.types ∧
      (l.registerFor p items).state.fallbacks = l.fallbacks := by
  unfold registerFor
  split
  · exact ⟨rfl, rfl, rfl⟩
  · exact ⟨rfl, rfl, rfl⟩

private theorem registerSelf_frame (l : ItemLookup β V) (address : Address)
    (items : List (ItemRef V)) :
    (l.registerSelf address items).state.id = l.id ∧
      (l.registerSelf address items).state.types = l.types ∧
      (l.registerSelf address items).state.fallbacks = l.fallbacks := by
  unfold registerSelf
  split
  · exact ⟨rfl, rfl, rfl⟩
  · exact registerFor_frame l _ items

@[simp] theorem id_register (l : ItemLookup β V) (r : Registration β V) :
    (l.register r).state.id = l.id := by
  cases r with
  | forItems p items => exact (registerFor_frame l p items).1
  | self address items => exact (registerSelf_frame l address items).1
  | fallback p => rfl

@[simp] theorem types_register (l : ItemLookup β V) (r : Registration β V) :
    (l.register r).state.types = l.types := by
  cases r with
  | forItems p items => exact (registerFor_frame l p items).2.1
  | self address items => exact (registerSelf_frame l address items).2.1
  | fallback p => rfl

/-- A fallback goes behind those before it; no other registration touches them. -/
theorem fallbacks_register (l : ItemLookup β V) (r : Registration β V) :
    (l.register r).state.fallbacks = l.fallbacks ++ r.fallback?.toList := by
  cases r with
  | forItems p items =>
      rw [Registration.fallback?, Option.toList_none, List.append_nil]
      exact (registerFor_frame l p items).2.2
  | self address items =>
      rw [Registration.fallback?, Option.toList_none, List.append_nil]
      exact (registerSelf_frame l address items).2.2
  | fallback p => rfl

/-! ## A run of registrations -/

@[simp] theorem id_after (l : ItemLookup β V) (run : List (Registration β V)) :
    (l.after run).id = l.id := by
  induction run generalizing l with
  | nil => rfl
  | cons r run ih => rw [after_cons, ih, id_register]

@[simp] theorem types_after (l : ItemLookup β V) (run : List (Registration β V)) :
    (l.after run).types = l.types := by
  induction run generalizing l with
  | nil => rfl
  | cons r run ih => rw [after_cons, ih, types_register]

/-- After a run an item has the provider that it had, or else that of the first accepted
registration that listed it. -/
theorem provider?_after (l : ItemLookup β V) (run : List (Registration β V)) (item : ItemRef V) :
    (l.after run).provider? item =
      (l.provider? item).or
        ((l.history run).findSome? (Answered.offers l.types.attr item.address)) := by
  induction run generalizing l with
  | nil => simp [after, history]
  | cons r run ih =>
      rw [after_cons, ih, types_register, provider?_register, history, List.findSome?_cons,
        Option.or_assoc]
      cases Answered.offers l.types.attr item.address (r, (l.register r).answer) with
      | none => rfl
      | some p => rfl

/-- After a run the fallbacks are those from before it and then those that it registered, in order
and as often as it did. -/
theorem fallbacks_after (l : ItemLookup β V) (run : List (Registration β V)) :
    (l.after run).fallbacks = l.fallbacks ++ run.filterMap Registration.fallback? := by
  induction run generalizing l with
  | nil => simp [after]
  | cons r run ih =>
      rw [after_cons, ih, fallbacks_register, List.append_assoc, List.filterMap_eq_flatMap_toList,
        List.filterMap_eq_flatMap_toList, List.flatMap_cons]

end AttributeRegistry.ItemLookup
