import AttributeRegistry.Proofs.ItemLookup.Renaming

/-!
# Registrations in another order

Whoever registers first has an item, so order matters for an item that is listed twice, and it
matters among fallbacks.  It does not matter otherwise: two neighbouring registrations that list no
item in common, not both of them fallbacks, may be exchanged (`exchange`).

A registration sees nothing of a lookup but the providers of the items that it lists
(`exists_gains`), so each of the two comes to the same before and after the other.  They leave the
items in another order, which nothing that follows can tell (`Alike`).
-/

namespace AttributeRegistry

/-- The event without the sizes of maps that it gives. -/
def Event.sizeless : Event → Event
  | .generationPublished _ _ => .generationPublished 0 0
  | .batchPublished _ _ rejected => .batchPublished 0 0 rejected
  | e => e

namespace ItemLookup

variable {β V C : Type}

/-- The items that a registration lists. -/
def Registration.items : Registration β V → List (ItemRef V)
  | .forItems _ items => items
  | .self _ items => items
  | .fallback _ => []

/-- Two registrations that list no item in common, of which at most one is a fallback. -/
def Registration.Independent (r s : Registration β V) : Prop :=
  (∀ i ∈ r.items, ∀ j ∈ s.items, i.address ≠ j.address) ∧
    (r.fallback? = none ∨ s.fallback? = none)

instance (r s : Registration β V) : Decidable (r.Independent s) :=
  inferInstanceAs (Decidable (_ ∧ _))

/-! ## What a registration comes to -/

/-- What is done to `l` gives providers to the items of `added`, behind those that have one, and is
answered and reported like this, sizes aside. -/
structure Gains (l : ItemLookup β V)
    (e : Effect (ItemLookup β V) (Except LookupError (Rejected β V)))
    (added : List (ItemRef V × Provider β)) (answer : Except LookupError (Rejected β V))
    (events : List Event) : Prop where
  entries_eq : e.state.providers.contents.entries = l.providers.contents.entries ++ added
  answer_eq : e.answer = answer
  events_eq : e.events.map Event.sizeless = events

/-- What fails gives nothing to anybody. -/
theorem Gains.of_error (l : ItemLookup β V) (e : LookupError) :
    l.Gains ⟨l, .error e, []⟩ [] (.error e) [] :=
  ⟨(List.append_nil _).symm, rfl, rfl⟩

section

variable {l l' : ItemLookup β V}

private theorem exists_gains_registerFor (hid : l.id = l'.id) (p : Provider β)
    {items : List (ItemRef V)} (hitems : ∀ item ∈ items, l.provider? item = l'.provider? item) :
    ∃ added answer events, l.Gains (l.registerFor p items) added answer events ∧
      l'.Gains (l'.registerFor p items) added answer events := by
  cases items with
  | nil => exact ⟨[], _, [], .of_error l _, .of_error l' _⟩
  | cons first items =>
      have hne := List.cons_ne_nil first items
      have hkeys : ∀ e ∈ (first :: items).map fun item => (item, p),
          l.providers.get? e.1 = l'.providers.get? e.1 := by
        intro e he
        obtain ⟨item, hitem, rfl⟩ := List.mem_map.1 he
        exact hitems item hitem
      obtain ⟨added, rejected, h, h'⟩ := QueryMap.exists_takes hkeys
      have hwarnings : l'.warnings rejected = l.warnings rejected := by
        rw [warnings, warnings, hid]
      have hevents (m : QueryMap (ItemRef V) (Provider β)) :
          (if added.isEmpty then []
            else [Event.batchPublished m.size (m.size + added.length) rejected.size]).map
              Event.sizeless =
            if added.isEmpty then [] else [.batchPublished 0 0 rejected.size] := by
        split
        · rfl
        · rfl
      refine ⟨added, .ok rejected, (if added.isEmpty then [] else [.batchPublished 0 0 rejected.size])
        ++ (l.warnings rejected).map Event.sizeless, ?_, ?_⟩
      · rw [registerFor_of_ne_nil l p hne]
        refine ⟨h.entries_eq, congrArg Except.ok h.answer_eq, ?_⟩
        rw [List.map_append, h.events_eq, hevents, h.answer_eq]
      · rw [registerFor_of_ne_nil l' p hne]
        refine ⟨h'.entries_eq, congrArg Except.ok h'.answer_eq, ?_⟩
        rw [List.map_append, h'.events_eq, hevents, h'.answer_eq, hwarnings]

/-- A registration comes to the same for two lookups that have the same providers for the items that
it lists; a fallback counts those before it. -/
theorem exists_gains (hid : l.id = l'.id) (htypes : l.types = l'.types) {r : Registration β V}
    (hitems : ∀ item ∈ r.items, l.provider? item = l'.provider? item)
    (hfallbacks : r.fallback? = none ∨ l.fallbacks.length = l'.fallbacks.length) :
    ∃ added answer events, l.Gains (l.register r) added answer events ∧
      l'.Gains (l'.register r) added answer events := by
  cases r with
  | forItems p items => exact exists_gains_registerFor hid p hitems
  | self address items =>
      rw [register, register]
      cases h : items.find? (fun item => !(item.value.type == l.types.attr)) with
      | some wrong =>
          have h' := h
          rw [htypes] at h'
          rw [registerSelf_of_find?_eq_some l address h, registerSelf_of_find?_eq_some l' address h',
            htypes]
          exact ⟨[], _, [], .of_error l _, .of_error l' _⟩
      | none =>
          have h' := h
          rw [htypes] at h'
          rw [registerSelf_of_find?_eq_none l address h, registerSelf_of_find?_eq_none l' address h',
            htypes]
          exact exists_gains_registerFor hid _ hitems
  | fallback p =>
      rcases hfallbacks with hnone | hlength
      · cases hnone
      · refine ⟨[], .ok ∅, [.fallbackRegistered l.id (l.fallbacks.length + 1)], ?_, ?_⟩
        · refine ⟨(List.append_nil _).symm, rfl, ?_⟩
          simp [register, registerFallback, Effect.map, fallbackCount, Event.sizeless]
        · refine ⟨(List.append_nil _).symm, rfl, ?_⟩
          simp [register, registerFallback, Effect.map, fallbackCount, Event.sizeless, hid, hlength]

end

/-- A registration gives nothing to an item that it does not list. -/
theorem provider?_register_of_forall_ne (l : ItemLookup β V) {r : Registration β V}
    {item : ItemRef V} (h : ∀ i ∈ r.items, i.address ≠ item.address) :
    (l.register r).state.provider? item = l.provider? item := by
  have hnot {items : List (ItemRef V)} (h : ∀ i ∈ items, i.address ≠ item.address) :
      items.any (fun i => i.address == item.address) = false := by
    rw [List.any_eq_false]
    intro i hi
    rw [beq_iff_eq]
    exact h i hi
  have hoffers : Answered.offers l.types.attr item.address (r, (l.register r).answer) = none := by
    unfold Answered.offers
    split
    · next p items _ hoffer _ =>
      have hitems : r.items = items := by
        cases r with
        | forItems q is =>
            cases hoffer
            rfl
        | self a is =>
            cases hoffer
            rfl
        | fallback q => cases hoffer
      rw [← hitems, hnot h, if_neg Bool.false_ne_true]
    · rfl
  rw [provider?_register, hoffers, Option.or_none]

/-- A registration comes to the same before and after one that is independent of it. -/
theorem exists_gains_of_independent (l : ItemLookup β V) {x y : Registration β V}
    (h : x.Independent y) :
    ∃ added answer events, l.Gains (l.register x) added answer events ∧
      (l.register y).state.Gains ((l.register y).state.register x) added answer events := by
  refine exists_gains (id_register l y).symm (types_register l y).symm ?_ ?_
  · intro item hitem
    exact (l.provider?_register_of_forall_ne fun j hj => (h.1 item hitem j hj).symm).symm
  · rcases h.2 with hx | hy
    · exact Or.inl hx
    · refine Or.inr ?_
      rw [fallbacks_register, hy, Option.toList_none, List.append_nil]

theorem Registration.Independent.symm {x y : Registration β V} (h : x.Independent y) :
    y.Independent x :=
  ⟨fun i hi j hj => (h.1 j hj i hi).symm, h.2.symm⟩

/-! ## Lookups that are alike -/

/-- Two lookups that differ at most in the order in which their items got providers. -/
structure Alike (l l' : ItemLookup β V) : Prop where
  id_eq : l.id = l'.id
  types_eq : l.types = l'.types
  fallbacks_eq : l.fallbacks = l'.fallbacks
  entries_perm : l.providers.contents.entries.Perm l'.providers.contents.entries

namespace Alike

variable {l l' : ItemLookup β V}

theorem provider?_eq (h : Alike l l') (item : ItemRef V) : l.provider? item = l'.provider? item :=
  Table.get?_eq_of_perm h.entries_perm item

theorem order_eq (h : Alike l l') (stack : Stack V) : l.order stack = l'.order stack := by
  have hprovider : l.providerAt stack.item.address = l'.providerAt stack.item.address :=
    h.provider?_eq stack.item
  rw [order, order, hprovider, h.fallbacks_eq]

/-- They answer a registration alike and stay alike. -/
theorem register (h : Alike l l') (r : Registration β V) :
    (l.register r).answer = (l'.register r).answer ∧
      (l.register r).events.map Event.sizeless = (l'.register r).events.map Event.sizeless ∧
      Alike (l.register r).state (l'.register r).state := by
  obtain ⟨added, answer, events, hl, hl'⟩ := exists_gains h.id_eq h.types_eq (r := r)
    (fun item _ => h.provider?_eq item) (Or.inr (congrArg List.length h.fallbacks_eq))
  refine ⟨hl.answer_eq.trans hl'.answer_eq.symm, hl.events_eq.trans hl'.events_eq.symm, ?_, ?_, ?_, ?_⟩
  · rw [id_register, id_register, h.id_eq]
  · rw [types_register, types_register, h.types_eq]
  · rw [fallbacks_register, fallbacks_register, h.fallbacks_eq]
  · rw [hl.entries_eq, hl'.entries_eq]
    exact h.entries_perm.append_right added

/-- Independent registrations leave lookups that are alike, whichever comes first. -/
theorem of_independent (l : ItemLookup β V) {x y : Registration β V} (h : x.Independent y) :
    Alike ((l.register x).state.register y).state ((l.register y).state.register x).state := by
  obtain ⟨addedX, _, _, hx, hxy⟩ := l.exists_gains_of_independent h
  obtain ⟨addedY, _, _, hy, hyx⟩ := l.exists_gains_of_independent h.symm
  refine ⟨?_, ?_, ?_, ?_⟩
  · rw [id_register, id_register, id_register, id_register]
  · rw [types_register, types_register, types_register, types_register]
  · rw [fallbacks_register, fallbacks_register, fallbacks_register, fallbacks_register]
    -- one of the two adds no fallback
    rcases h.2 with hnone | hnone
    · rw [hnone, Option.toList_none, List.append_nil, List.append_nil]
    · rw [hnone, Option.toList_none, List.append_nil, List.append_nil]
  · rw [hyx.entries_eq, hx.entries_eq, hxy.entries_eq, hy.entries_eq, List.append_assoc,
      List.append_assoc]
    exact List.perm_append_comm.append_left _

end Alike

/-! ## Runs -/

/-- A registration with all that comes of it, the sizes of maps aside. -/
structure Account (β V : Type) where
  registration : Registration β V
  answer : Except LookupError (Rejected β V)
  events : List Event

/-- The account with the providers that lookups made at other places. -/
def Account.rename (ρ : Address → Address) (a : Account β V) : Account β V :=
  ⟨a.registration.rename ρ, renameAnswer ρ a.answer, a.events⟩

/-- The account of one registration. -/
def account (l : ItemLookup β V) (r : Registration β V) : Account β V :=
  ⟨r, (l.register r).answer, (l.register r).events.map Event.sizeless⟩

/-- The accounts of a run of registrations. -/
def accounts (l : ItemLookup β V) : List (Registration β V) → List (Account β V)
  | [] => []
  | r :: run => l.account r :: (l.register r).state.accounts run

theorem accounts_append (l : ItemLookup β V) (run rest : List (Registration β V)) :
    l.accounts (run ++ rest) = l.accounts run ++ (l.after run).accounts rest := by
  induction run generalizing l with
  | nil => rfl
  | cons r run ih => rw [List.cons_append, accounts, ih, accounts, after_cons, List.cons_append]

theorem length_accounts (l : ItemLookup β V) (run : List (Registration β V)) :
    (l.accounts run).length = run.length := by
  induction run generalizing l with
  | nil => rfl
  | cons r run ih => rw [accounts, List.length_cons, List.length_cons, ih]

theorem after_rename (ρ : Address → Address) (l : ItemLookup β V) (run : List (Registration β V)) :
    (l.rename ρ).after (run.map (Registration.rename ρ)) = (l.after run).rename ρ := by
  induction run generalizing l with
  | nil => rfl
  | cons r run ih => rw [List.map_cons, after_cons, register_rename, ih, after_cons]

theorem accounts_rename (ρ : Address → Address) (l : ItemLookup β V)
    (run : List (Registration β V)) :
    (l.rename ρ).accounts (run.map (Registration.rename ρ)) =
      (l.accounts run).map (Account.rename ρ) := by
  induction run generalizing l with
  | nil => rfl
  | cons r run ih =>
      rw [List.map_cons, accounts, account, register_rename, ih, accounts, List.map_cons]
      rfl

/-- Lookups that are alike go through any run alike. -/
theorem Alike.run {l l' : ItemLookup β V} (h : Alike l l') (run : List (Registration β V)) :
    l.accounts run = l'.accounts run ∧ Alike (l.after run) (l'.after run) := by
  induction run generalizing l l' with
  | nil => exact ⟨rfl, h⟩
  | cons r run ih =>
      obtain ⟨hanswer, hevents, hstate⟩ := h.register r
      obtain ⟨haccounts, hafter⟩ := ih hstate
      refine ⟨?_, hafter⟩
      rw [accounts, accounts, haccounts, account, account, hanswer, hevents]

/-- Independent registrations have the same accounts in either order. -/
theorem accounts_exchange (l : ItemLookup β V) {x y : Registration β V} (h : x.Independent y) :
    l.account x = (l.register y).state.account x ∧
      (l.register x).state.account y = l.account y := by
  obtain ⟨_, _, _, hx, hxy⟩ := l.exists_gains_of_independent h
  obtain ⟨_, _, _, hy, hyx⟩ := l.exists_gains_of_independent h.symm
  constructor
  · rw [account, account, hx.answer_eq, hx.events_eq, hxy.answer_eq, hxy.events_eq]
  · rw [account, account, hy.answer_eq, hy.events_eq, hyx.answer_eq, hyx.events_eq]

/-- In any run, exchange two neighbouring registrations that list no item in common, not both of them
fallbacks, and let the providers that the lookup makes live anywhere.  All registrations are answered
and reported as before, those of the two and those behind them, and at the end, so at any point behind
the two, every search finds the same and asks the same providers in the same order, every item has the
same provider, and there are as many fallbacks. -/
theorem exchange (id : Identifier) (types : Signature) (before rest : List (Registration β V))
    {x y : Registration β V} (h : x.Independent y) (ρ : Address → Address)
    (behave : β → Stack V → C → Option V) :
    let new : ItemLookup β V := new id types
    let run := before ++ x :: y :: rest
    let exchanged := (before ++ y :: x :: rest).map (Registration.rename ρ)
    let first := new.after run
    let second := new.after exchanged
    (∃ earlier ax ay later, earlier.length = before.length ∧
      ax.registration = x ∧ ay.registration = y ∧
      new.accounts run = earlier ++ ax :: ay :: later ∧
      new.accounts exchanged = (earlier ++ ay :: ax :: later).map (Account.rename ρ)) ∧
    (∀ stack context, second.query (Provider.answer behave stack context) stack =
      let q := first.query (Provider.answer behave stack context) stack
      (q.1, q.2.map (Provider.rename ρ))) ∧
    (∀ item, second.provider? item = (first.provider? item).map (Provider.rename ρ)) ∧
    second.view.toList.Perm (first.view.toList.map fun e => (e.1, e.2.rename ρ)) ∧
    second.fallbackCount = first.fallbackCount := by
  intro new run exchanged first second
  let l := new.after before
  -- the exchanged run is compared without the renaming first
  let third := new.after (before ++ y :: x :: rest)
  have hsecond : second = third.rename ρ := after_rename ρ new (before ++ y :: x :: rest)
  obtain ⟨hx, hy⟩ := l.accounts_exchange h
  obtain ⟨hlater, hafter⟩ := (Alike.of_independent l h).run rest
  have hfirst : first = l.after (x :: y :: rest) := after_append new before (x :: y :: rest)
  have hthird : third = l.after (y :: x :: rest) := after_append new before (y :: x :: rest)
  have halike : Alike first third := by
    rw [hfirst, hthird]
    exact hafter
  refine ⟨?_, ?_, ?_, ?_, ?_⟩
  · refine ⟨new.accounts before, l.account x, l.account y,
      ((l.register x).state.register y).state.accounts rest, length_accounts new before, rfl, rfl,
      ?_, ?_⟩
    · rw [← hy]
      exact accounts_append new before (x :: y :: rest)
    · refine (accounts_rename ρ new _).trans (congrArg (List.map (Account.rename ρ)) ?_)
      rw [accounts_append, hx, hlater]
      rfl
  · intro stack context
    rw [hsecond, query_rename, query_eq, query_eq, halike.order_eq]
  · intro item
    rw [hsecond, provider?_rename, halike.provider?_eq]
  · rw [hsecond]
    exact (halike.entries_perm.map fun e => (e.1, e.2.rename ρ)).symm
  · rw [hsecond, fallbackCount_rename, fallbackCount, fallbackCount, halike.fallbacks_eq]

/-- Two items that look alike are two items, so their registrations may be exchanged. -/
theorem exchange_twins :
    let name : Identifier := ⟨"minecraft", "coal", by decide⟩
    let number : TypeTag := ⟨0, "u32"⟩
    let coal : ItemRef ℕ := ⟨⟨0⟩, ⟨name, number, "u32", 5⟩⟩
    let twin : ItemRef ℕ := ⟨⟨1⟩, coal.value⟩
    let x : Registration ℕ ℕ := .forItems ⟨⟨10⟩, .rule 7⟩ [coal, coal]
    let y : Registration ℕ ℕ := .self ⟨11⟩ [twin]
    let moved : Address → Address := fun _ => ⟨12⟩
    let answer := Provider.answer (fun rule (_ : Stack ℕ) () => some rule) (.single twin) ()
    x.Independent y ∧
      ((new name ⟨number, number⟩).after [y.rename moved, x.rename moved]).query answer (.single twin)
        = (some 5, [⟨⟨12⟩, .ownValue number⟩]) := by
  intro name number coal twin x y moved answer
  have hindependent : x.Independent y := by decide
  obtain ⟨-, hquery, -⟩ := exchange name ⟨number, number⟩ [] [] hindependent moved
    fun rule _ () => some rule
  exact ⟨hindependent, (hquery (.single twin) ()).trans rfl⟩

end ItemLookup

end AttributeRegistry
