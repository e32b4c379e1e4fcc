import AttributeRegistry.Proofs.ItemLookup.Consultation
import AttributeRegistry.Proofs.QueryMap.Locality

/-!
# Where the providers made by a lookup live

A lookup makes providers of its own, one for each registration of items as their own providers, and
nobody chooses where these live.  Nothing depends on it: with other places for them a lookup answers
every registration and every search as before, up to these places (`register_rename`,
`query_rename`).
-/

namespace AttributeRegistry

variable {β V C : Type} (ρ : Address → Address)

/-- The provider at another place, if it is one that a lookup made. -/
def Provider.rename (p : Provider β) : Provider β :=
  match p.source with
  | .rule _ => p
  | .ownValue _ => { p with address := ρ p.address }

theorem Provider.source_rename (p : Provider β) : (p.rename ρ).source = p.source := by
  unfold rename
  split
  · rfl
  · rfl

/-- What a provider answers has nothing to do with where it lives. -/
@[simp] theorem Provider.answer_rename (behave : β → Stack V → C → Option V) (stack : Stack V)
    (context : C) (p : Provider β) :
    (p.rename ρ).answer behave stack context = p.answer behave stack context := by
  unfold answer consult
  rw [source_rename]

namespace ItemLookup

/-- The lookup with its own providers at other places. -/
def rename (l : ItemLookup β V) : ItemLookup β V :=
  { l with
    providers := l.providers.map (Provider.rename ρ)
    fallbacks := l.fallbacks.map (Provider.rename ρ) }

/-- The registration with the providers that lookups made at other places. -/
def Registration.rename : Registration β V → Registration β V
  | .forItems p items => .forItems (p.rename ρ) items
  | .self address items => .self (ρ address) items
  | .fallback p => .fallback (p.rename ρ)

/-- The answer with the providers that lookups made at other places. -/
def renameAnswer (a : Except LookupError (Rejected β V)) : Except LookupError (Rejected β V) :=
  a.map (Table.map (Provider.rename ρ))

@[simp] theorem id_rename (l : ItemLookup β V) : (l.rename ρ).id = l.id := rfl

@[simp] theorem types_rename (l : ItemLookup β V) : (l.rename ρ).types = l.types := rfl

@[simp] theorem providerAt_rename (l : ItemLookup β V) (a : Address) :
    (l.rename ρ).providerAt a = (l.providerAt a).map (Provider.rename ρ) :=
  Table.getBy_map (Provider.rename ρ) l.providers.contents (·.address == a)

theorem provider?_rename (l : ItemLookup β V) (item : ItemRef V) :
    (l.rename ρ).provider? item = (l.provider? item).map (Provider.rename ρ) :=
  providerAt_rename ρ l item.address

@[simp] theorem fallbackCount_rename (l : ItemLookup β V) :
    (l.rename ρ).fallbackCount = l.fallbackCount :=
  List.length_map _

theorem order_rename (l : ItemLookup β V) (stack : Stack V) :
    (l.rename ρ).order stack = (l.order stack).map (Provider.rename ρ) := by
  unfold order
  rw [providerAt_rename, List.map_append]
  cases l.providerAt stack.item.address with
  | none => rfl
  | some p => rfl

/-! ## Searches -/

/-- Providers that answer alike may stand in for each other. -/
theorem askInTurn_map {answer : Provider β → Option V} {f : Provider β → Provider β}
    (h : ∀ p, answer (f p) = answer p) (order : List (Provider β)) :
    askInTurn answer (order.map f) =
      ((askInTurn answer order).1, (askInTurn answer order).2.map f) := by
  induction order with
  | nil => rfl
  | cons p order ih =>
      rw [List.map_cons]
      cases hp : answer p with
      | some v =>
          rw [askInTurn_cons_some hp, askInTurn_cons_some ((h p).trans hp)]
          rfl
      | none =>
          rw [askInTurn_cons_none hp, askInTurn_cons_none ((h p).trans hp), ih]
          rfl

/-- A search finds the same, and asks the same providers wherever they live. -/
theorem query_rename (l : ItemLookup β V) (behave : β → Stack V → C → Option V) (stack : Stack V)
    (context : C) :
    (l.rename ρ).query (Provider.answer behave stack context) stack =
      let q := l.query (Provider.answer behave stack context) stack
      (q.1, q.2.map (Provider.rename ρ)) := by
  rw [query_eq, query_eq, order_rename]
  exact askInTurn_map (Provider.answer_rename ρ behave stack context) _

/-! ## Registrations -/

theorem registerFor_rename (l : ItemLookup β V) (p : Provider β) (items : List (ItemRef V)) :
    (l.rename ρ).registerFor (p.rename ρ) items =
      let e := l.registerFor p items
      ⟨e.state.rename ρ, renameAnswer ρ e.answer, e.events⟩ := by
  cases items with
  | nil => rfl
  | cons first items =>
      have hne := List.cons_ne_nil first items
      have hbatch := QueryMap.insertAllIfNew_map (Provider.rename ρ) l.providers
        ((first :: items).map fun item => (item, p))
      rw [List.map_map] at hbatch
      rw [registerFor_of_ne_nil _ _ hne, registerFor_of_ne_nil _ _ hne]
      have hproviders : (l.rename ρ).providers = l.providers.map (Provider.rename ρ) := rfl
      have hwarnings (t : Rejected β V) :
          (l.rename ρ).warnings (t.map (Provider.rename ρ)) = l.warnings t := by
        rw [warnings, warnings, Table.keys_map, id_rename]
      change (l.providers.map (Provider.rename ρ)).insertAllIfNew
        ((first :: items).map fun item => (item, p.rename ρ)) = _ at hbatch
      simp only [hproviders, hbatch, hwarnings]
      rfl

/-- A lookup answers a registration as before, wherever the providers live that it makes. -/
theorem register_rename (l : ItemLookup β V) (r : Registration β V) :
    (l.rename ρ).register (r.rename ρ) =
      let e := l.register r
      ⟨e.state.rename ρ, renameAnswer ρ e.answer, e.events⟩ := by
  cases r with
  | forItems p items => exact registerFor_rename ρ l p items
  | self address items =>
      rw [Registration.rename, register, register]
      cases h : items.find? (fun item => !(item.value.type == l.types.attr)) with
      | some wrong =>
          rw [registerSelf_of_find?_eq_some (l.rename ρ) (ρ address) h,
            registerSelf_of_find?_eq_some l address h]
          rfl
      | none =>
          rw [registerSelf_of_find?_eq_none (l.rename ρ) (ρ address) h,
            registerSelf_of_find?_eq_none l address h]
          exact registerFor_rename ρ l ⟨address, .ownValue l.types.attr⟩ items
  | fallback p =>
      rw [Registration.rename, register, register, registerFallback, registerFallback]
      simp [Effect.map, rename, renameAnswer, fallbackCount, Except.map]

end ItemLookup

end AttributeRegistry
