import AttributeRegistry.ItemLookup.Query
import AttributeRegistry.Proofs.ItemLookup.Registration
import AttributeRegistry.Proofs.QueryMap.Views

/-!
# Who is consulted, and in which order

A search asks the provider of the stack's item and then the fallbacks, one after the other, and
stops at the first answer (`query_eq`).  Together with what a run of registrations leaves in a lookup
this gives the search after any run in terms of the run alone (`query_after_new`): the item's
provider is the one of the first accepted registration that listed the item, however many later ones
list it too, and a fallback is asked as often as it was registered.  The other ways to look at a lookup
go by the same run (`reflects_after_new`).
-/

namespace AttributeRegistry

variable {β V C : Type}

/-- What a provider answers about a stack in a context, where `behave` says what the rules of
providers come to. -/
def Provider.answer (behave : β → Stack V → C → Option V) (stack : Stack V) (context : C)
    (p : Provider β) : Option V :=
  Id.run (p.consult (fun rule => pure (behave rule stack context)) stack)

namespace ItemLookup

/-! ## One search -/

/-- Asks providers in turn up to the first that answers: the answer, and everyone who was asked. -/
def askInTurn (answer : Provider β → Option V) :
    List (Provider β) → Option V × List (Provider β)
  | [] => (none, [])
  | p :: rest =>
    match answer p with
    | some v => (some v, [p])
    | none => ((askInTurn answer rest).1, p :: (askInTurn answer rest).2)

theorem askInTurn_cons_some {answer : Provider β → Option V} {p : Provider β} {v : V}
    (h : answer p = some v) (rest : List (Provider β)) :
    askInTurn answer (p :: rest) = (some v, [p]) := by
  rw [askInTurn, h]

theorem askInTurn_cons_none {answer : Provider β → Option V} {p : Provider β}
    (h : answer p = none) (rest : List (Provider β)) :
    askInTurn answer (p :: rest) =
      ((askInTurn answer rest).1, p :: (askInTurn answer rest).2) := by
  rw [askInTurn, h]

/-- The first who answers is the last to be asked. -/
theorem askInTurn_append_cons {answer : Provider β → Option V} {before : List (Provider β)}
    {p : Provider β} {v : V} (hbefore : ∀ q ∈ before, answer q = none) (hp : answer p = some v)
    (rest : List (Provider β)) :
    askInTurn answer (before ++ p :: rest) = (some v, before ++ [p]) := by
  induction before with
  | nil => exact askInTurn_cons_some hp rest
  | cons q before ih =>
      have hq : answer q = none := hbefore q List.mem_cons_self
      rw [List.cons_append, askInTurn_cons_none hq,
        ih fun r hr => hbefore r (List.mem_cons_of_mem q hr)]
      rfl

/-- Where nobody answers, everyone is asked. -/
theorem askInTurn_of_forall_none {answer : Provider β → Option V} {order : List (Provider β)}
    (h : ∀ q ∈ order, answer q = none) : askInTurn answer order = (none, order) := by
  induction order with
  | nil => rfl
  | cons p order ih =>
      rw [askInTurn_cons_none (h p List.mem_cons_self),
        ih fun q hq => h q (List.mem_cons_of_mem p hq)]

/-- Nobody is asked out of turn. -/
theorem asked_prefix_order (answer : Provider β → Option V) (order : List (Provider β)) :
    (askInTurn answer order).2 <+: order := by
  induction order with
  | nil => exact List.prefix_rfl
  | cons p order ih =>
      cases h : answer p with
      | some v =>
          rw [askInTurn_cons_some h]
          exact ⟨order, rfl⟩
      | none =>
          rw [askInTurn_cons_none h]
          exact List.prefix_cons_inj p |>.2 ih

/-- Whoever comes first is asked. -/
theorem asked_cons (answer : Provider β → Option V) (p : Provider β) (order : List (Provider β)) :
    ∃ rest, rest <+: order ∧ (askInTurn answer (p :: order)).2 = p :: rest := by
  cases h : answer p with
  | some v => exact ⟨[], List.nil_prefix, by rw [askInTurn_cons_some h]⟩
  | none => exact ⟨_, asked_prefix_order answer order, by rw [askInTurn_cons_none h]⟩

/-- The fallbacks are asked in turn, behind those who were asked already. -/
theorem findSomeM?_noting (answer : Provider β → Option V) (order asked : List (Provider β)) :
    (order.findSomeM? (noting answer)).run asked =
      ((askInTurn answer order).1, asked ++ (askInTurn answer order).2) := by
  induction order generalizing asked with
  | nil =>
      rw [List.findSomeM?_nil, askInTurn, List.append_nil]
      rfl
  | cons p order ih =>
      rw [List.findSomeM?]
      cases h : answer p with
      | some v =>
          simp [noting, h, askInTurn_cons_some h]
          rfl
      | none => simp [noting, h, askInTurn_cons_none h, ih]

/-- A search asks the provider of the item and then the fallbacks, up to the first answer. -/
theorem query_eq (l : ItemLookup β V) (answer : Provider β → Option V) (stack : Stack V) :
    l.query answer stack = askInTurn answer (l.order stack) := by
  unfold query find order
  cases hkeyed : l.providerAt stack.item.address with
  | none => simp [hkeyed, findSomeM?_noting]
  | some p =>
      cases h : answer p with
      | some v =>
          simp [hkeyed, noting, h, askInTurn_cons_some h]
          rfl
      | none => simp [hkeyed, noting, h, askInTurn_cons_none h, findSomeM?_noting]

/-! ## The search after a run -/

/-- Everyone who may be asked about the item at `a` after a run on a new lookup, as the run has it:
the provider of the first accepted registration that listed the item, then all fallbacks. -/
def orderAfter (id : Identifier) (types : Signature) (run : List (Registration β V))
    (a : Address) : List (Provider β) :=
  (((new id types).history run).findSome? (Answered.offers types.attr a)).toList
    ++ run.filterMap Registration.fallback?

/-- The provider that the item at `a` has after a run on a new lookup, as the run has it. -/
def providerAfter (id : Identifier) (types : Signature) (run : List (Registration β V))
    (a : Address) : Option (Provider β) :=
  ((new id types).history run).findSome? (Answered.offers types.attr a)

theorem provider?_after_new (id : Identifier) (types : Signature) (run : List (Registration β V))
    (item : ItemRef V) :
    ((new id types).after run).provider? item = providerAfter id types run item.address := by
  have hkeyed := provider?_after (new id types) run item
  have hnew : (new id types : ItemLookup β V).provider? item = none := rfl
  rw [hnew, Option.none_or] at hkeyed
  exact hkeyed

theorem fallbacks_after_new (id : Identifier) (types : Signature) (run : List (Registration β V)) :
    ((new id types).after run).fallbacks = run.filterMap Registration.fallback? :=
  fallbacks_after (new id types) run

/-- The order that a lookup has after a run is the one that the run has. -/
theorem order_after_new (id : Identifier) (types : Signature) (run : List (Registration β V))
    (stack : Stack V) :
    ((new id types).after run).order stack = orderAfter id types run stack.item.address := by
  unfold order orderAfter
  rw [← provider?, provider?_after_new, fallbacks_after_new]
  rfl

/-- However a lookup is looked at, what is seen is a new lookup with a run of registrations behind it. -/
structure Reflects (l : ItemLookup β V) (id : Identifier) (types : Signature)
    (run : List (Registration β V)) : Prop where
  query : ∀ answer stack,
    l.query answer stack = askInTurn answer (orderAfter id types run stack.item.address)
  provider? : ∀ item : ItemRef V, l.provider? item = providerAfter id types run item.address
  /-- All providers of items, in every view of a snapshot. -/
  view : l.view.Shows fun item => providerAfter id types run item.address
  fallbackCount : l.fallbackCount = (run.filterMap Registration.fallback?).length
  id : l.id = id
  types : l.types = types

theorem reflects_after_new (id : Identifier) (types : Signature) (run : List (Registration β V)) :
    ((new id types).after run).Reflects id types run where
  query answer stack := by rw [query_eq, order_after_new]
  provider? item := provider?_after_new id types run item
  view := Snapshot.shows_iff.2 (funext fun item => provider?_after_new id types run item)
  fallbackCount := congrArg List.length (fallbacks_after_new id types run)
  id := id_after (new id types) run
  types := types_after (new id types) run

/-- After any run of registrations on a new lookup, those turned down included, a search consults in
the order of the run.  It stops at the first who answers and gives that answer; if nobody does, it
has asked everyone and finds nothing. -/
theorem query_after_new (id : Identifier) (types : Signature) (run : List (Registration β V))
    (behave : β → Stack V → C → Option V) (stack : Stack V) (context : C) :
    let lookup := (new id types).after run
    let answer := Provider.answer behave stack context
    let order := orderAfter id types run stack.item.address
    ((∃ before p rest v, order = before ++ p :: rest ∧ (∀ q ∈ before, answer q = none) ∧
        answer p = some v ∧ lookup.query answer stack = (some v, before ++ [p])) ∨
      ((∀ q ∈ order, answer q = none) ∧ lookup.query answer stack = (none, order))) ∧
    ((lookup.query answer stack).1 = none ↔ ∀ q ∈ order, answer q = none) := by
  intro lookup answer order
  have hquery : lookup.query answer stack = askInTurn answer order := by
    rw [query_eq, order_after_new]
  rw [hquery]
  cases hfirst : order.findSome? answer with
  | some v =>
      obtain ⟨before, p, rest, hsplit, hp, hbefore⟩ := List.findSome?_eq_some_iff.1 hfirst
      have hask : askInTurn answer order = (some v, before ++ [p]) := by
        rw [hsplit, askInTurn_append_cons hbefore hp]
      refine ⟨Or.inl ⟨before, p, rest, v, hsplit, hbefore, hp, hask⟩, ?_⟩
      rw [hask]
      constructor
      · intro hnone
        cases hnone
      · intro hnone
        rw [hnone p (by rw [hsplit]; simp)] at hp
        cases hp
  | none =>
      have hall : ∀ q ∈ order, answer q = none := List.findSome?_eq_none_iff.1 hfirst
      have hask : askInTurn answer order = (none, order) := askInTurn_of_forall_none hall
      refine ⟨Or.inr ⟨hall, hask⟩, ?_⟩
      rw [hask]
      exact iff_of_true rfl hall

end ItemLookup

end AttributeRegistry
