import AttributeRegistry.Proofs.ItemLookup.Consultation
import AttributeRegistry.Proofs.QueryMap.ClosedForm

/-!
# Items as their own providers

Items are registered as their own providers all together or not at all.  One item of another type
turns the registration down before anything is written, and where none does, every item of the list
has a provider from then on: the one that it had, or the one that is made for the call
(`registerSelf_lasting`).

That provider answers an item of the attribute's type with the item.  It is asked about no other
items, because the types of the listed ones were checked and a provider is never replaced
(`provider?_after_of_some`), so its answer lasts and no fallback is ever asked.
-/

namespace AttributeRegistry.ItemLookup

variable {β V C : Type}

/-! ## Providers that stay -/

/-- An item that has a provider keeps it, whatever is registered later. -/
theorem provider?_after_of_some {l : ItemLookup β V} {item : ItemRef V} {p : Provider β}
    (h : l.provider? item = some p) (run : List (Registration β V)) :
    (l.after run).provider? item = some p := by
  rw [provider?_after, h, Option.some_or]

/-- A provider that has an answer for every stack of an item is the only one to be asked. -/
theorem query_of_answer {l : ItemLookup β V} {stack : Stack V} {p : Provider β}
    (h : l.provider? stack.item = some p) {answer : Provider β → Option V} {v : V}
    (hp : answer p = some v) : l.query answer stack = (some v, [p]) := by
  have horder : l.order stack = p :: l.fallbacks := by
    rw [order, show l.providerAt stack.item.address = some p from h]
    rfl
  rw [query_eq, horder, askInTurn_cons_some hp]

/-! ## What a registration for items reports -/

/-- The number of times that a list has an item. -/
def listings (items : List (ItemRef V)) (item : ItemRef V) : ℕ := items.countP (· == item)

theorem occurrences_map (p : Provider β) (items : List (ItemRef V)) (item : ItemRef V) :
    QueryMap.occurrences (items.map fun i => (i, p)) item = listings items item :=
  List.countP_map

theorem one_le_listings {items : List (ItemRef V)} {item : ItemRef V} (h : item ∈ items) :
    1 ≤ listings items item :=
  List.countP_pos_iff.2 ⟨item, h, BEq.rfl⟩

/-- A registration for some items is accepted.  It reports the items that had a provider and those
that it lists more than once, each with the provider that it has now. -/
theorem answer_registerFor (l : ItemLookup β V) (p : Provider β) {items : List (ItemRef V)}
    (h : items ≠ []) :
    ∃ rejected, (l.registerFor p items).answer = .ok rejected ∧ ∀ item,
      rejected.get? item =
        if ((l.provider? item).isSome = true ∧ 1 ≤ listings items item) ∨ 2 ≤ listings items item
        then (l.registerFor p items).state.provider? item
        else none := by
  rw [registerFor_of_ne_nil l p h]
  refine ⟨_, rfl, fun item => ?_⟩
  have hlate := congrFun
    (QueryMap.get?_answer_insertAllIfNew l.providers (items.map fun i => (i, p))) item
  have hstate := congrFun
    (QueryMap.get?_insertAllIfNew_eq_fill l.providers (items.map fun i => (i, p))) item
  refine hlate.trans (if_congr ?_ hstate.symm rfl)
  rw [PartialMap.TooLate, occurrences_map]
  rfl

/-! ## The check of the types -/

/-- An item is of the type of the attribute. -/
def Owns (l : ItemLookup β V) (item : ItemRef V) : Prop :=
  item.value.type.uid = l.types.attr.uid

theorem not_beq_iff_not_owns {l : ItemLookup β V} {item : ItemRef V} :
    (!(item.value.type == l.types.attr)) = true ↔ ¬ l.Owns item := by
  rw [Bool.not_eq_true', Bool.eq_false_iff, ne_eq, TypeTag.beq_iff]
  rfl

/-- The first item of another type is the one that a registration is turned down for. -/
theorem registerSelf_of_not_owns (l : ItemLookup β V) (address : Address)
    {items : List (ItemRef V)} (h : ∃ item ∈ items, ¬ l.Owns item) :
    ∃ before first rest, items = before ++ first :: rest ∧ (∀ item ∈ before, l.Owns item) ∧
      ¬ l.Owns first ∧ l.registerSelf address items =
        ⟨l, .error (.invalidArgument (.notSelfAttribute l.types.attr first.value.typeName)), []⟩ := by
  cases hfind : items.find? fun item => !(item.value.type == l.types.attr) with
  | none =>
      obtain ⟨item, hitem, hother⟩ := h
      exact absurd (not_beq_iff_not_owns.2 hother) (List.find?_eq_none.1 hfind item hitem)
  | some first =>
      obtain ⟨hfirst, before, rest, hsplit, hbefore⟩ := List.find?_eq_some_iff_append.1 hfind
      refine ⟨before, first, rest, hsplit, ?_, not_beq_iff_not_owns.1 hfirst,
        registerSelf_of_find?_eq_some l address hfind⟩
      intro item hitem
      by_contra hother
      have hpass := hbefore item hitem
      rw [not_beq_iff_not_owns.2 hother] at hpass
      cases hpass

/-- Items that are all of the type are registered with the provider that is made for them. -/
theorem registerSelf_of_owns (l : ItemLookup β V) (address : Address) {items : List (ItemRef V)}
    (h : ∀ item ∈ items, l.Owns item) :
    l.registerSelf address items = l.registerFor ⟨address, .ownValue l.types.attr⟩ items := by
  apply registerSelf_of_find?_eq_none
  rw [List.find?_eq_none]
  intro item hitem hother
  exact not_beq_iff_not_owns.1 hother (h item hitem)

/-! ## The answers -/

/-- The provider that is made for items of the attribute's type answers each with itself. -/
theorem answer_own {l : ItemLookup β V} {stack : Stack V} (h : l.Owns stack.item)
    (behave : β → Stack V → C → Option V) (context : C) (address : Address) :
    Provider.answer behave stack context ⟨address, .ownValue l.types.attr⟩ =
      some stack.item.value.value := by
  show stack.item.value.valueAs l.types.attr = _
  rw [Item.valueAs, if_pos (TypeTag.beq_iff.2 h)]

/-- For any lookup and any list of items.

If some item is not of the type of the attribute, the registration fails and names the first such
item; if there are no items, it fails too.  Either way the lookup is as it was and nothing is reported.

Otherwise it is accepted.  An item of the list that had no provider is from then on, after any later
registrations, found in any number and any context to have itself as its attribute, and nobody but
its own provider is asked.  An item that had a provider keeps it and is reported with it. -/
theorem registerSelf_lasting (l : ItemLookup β V) (address : Address) (items : List (ItemRef V))
    (behave : β → Stack V → C → Option V) :
    let e := l.registerSelf address items
    let own : Provider β := ⟨address, .ownValue l.types.attr⟩
    ((∃ item ∈ items, ¬ l.Owns item) →
      ∃ before first rest, items = before ++ first :: rest ∧ (∀ item ∈ before, l.Owns item) ∧
        ¬ l.Owns first ∧ e =
          ⟨l, .error (.invalidArgument (.notSelfAttribute l.types.attr first.value.typeName)), []⟩) ∧
    (items = [] → e = ⟨l, .error (.invalidArgument .noItems), []⟩) ∧
    (items ≠ [] → (∀ item ∈ items, l.Owns item) →
      ∃ rejected, e.answer = .ok rejected ∧
        (∀ item ∈ items, l.provider? item = none → ∀ run count context,
          let stack : Stack V := ⟨item, count⟩
          (e.state.after run).query (Provider.answer behave stack context) stack =
            (some item.value.value, [own])) ∧
        ∀ item ∈ items, ∀ p, l.provider? item = some p →
          rejected.get? item = some p ∧ ∀ run, (e.state.after run).provider? item = some p) := by
  intro e own
  refine ⟨registerSelf_of_not_owns l address, ?_, ?_⟩
  · rintro rfl
    rfl
  · intro hne howns
    have he : e = l.registerFor own items := registerSelf_of_owns l address howns
    obtain ⟨rejected, hanswer, hrejected⟩ := l.answer_registerFor own hne
    have hprovider (item : ItemRef V) (hitem : item ∈ items) :
        e.state.provider? item = (l.provider? item).or (some own) := by
      have hlisted : items.any (·.address == item.address) = true :=
        List.any_eq_true.2 ⟨item, hitem, BEq.rfl⟩
      have hregister := l.provider?_register (.forItems own items) item
      change (l.registerFor own items).state.provider? item = _ at hregister
      rw [he, hregister]
      refine congrArg (Option.or _) ?_
      show Answered.offers _ _ (_, (l.registerFor own items).answer) = _
      rw [hanswer]
      exact if_pos hlisted
    refine ⟨rejected, by rw [he, hanswer], ?_, ?_⟩
    · intro item hitem hnone run count context
      have hown : e.state.provider? item = some own := by
        rw [hprovider item hitem, hnone, Option.none_or]
      exact query_of_answer (provider?_after_of_some hown run)
        (answer_own (howns item hitem) behave context address)
    · intro item hitem p hp
      have hkept : e.state.provider? item = some p := by
        rw [hprovider item hitem, hp, Option.some_or]
      refine ⟨?_, provider?_after_of_some hkept⟩
      have hlate : (l.provider? item).isSome = true ∧ 1 ≤ listings items item :=
        ⟨by rw [hp, Option.isSome_some], one_le_listings hitem⟩
      rw [hrejected, if_pos (Or.inl hlate), ← he, hkept]

end AttributeRegistry.ItemLookup
