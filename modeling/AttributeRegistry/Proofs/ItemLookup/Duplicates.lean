import AttributeRegistry.Proofs.ItemLookup.Ownership
import AttributeRegistry.Proofs.Table.Entries

/-!
# Duplicate registrations

A registration for items tells its caller which of them were turned away, and warns of each.  The caller's
report, the warnings and the providers that the lookup keeps come from one batch, and they agree: an item is
reported if it had a provider or is listed twice, with the provider that it has from then on, and is warned
about once, however often it is listed (`registerFor_duplicates`).

Items count by their places.  A warning tells of an item only its identifier, so there are two equal
warnings about two items that look alike.
-/

namespace AttributeRegistry

namespace QueryMap

variable {K V : Type} [BEq K]

/-- A report has the keys that it had before a batch, and of the batch keys as they stand in it. -/
theorem Draft.mem_keys_rejected_foldl_pull {d : Draft K V} {batch : List (K × V)} {k : K}
    (h : k ∈ (batch.foldl Draft.pull d).rejected.keys) :
    k ∈ d.rejected.keys ∨ k ∈ batch.map (·.1) := by
  induction batch generalizing d with
  | nil => exact Or.inl h
  | cons e batch ih =>
      rcases ih h with hpull | hrest
      · cases hbound : d.pending.get? e.1 with
        | none =>
            rw [pull_of_none hbound] at hpull
            exact Or.inl hpull
        | some v =>
            rw [pull_of_some hbound] at hpull
            rcases Table.mem_keys_insertIfNew hpull with hold | rfl
            · exact Or.inl hold
            · exact Or.inr List.mem_cons_self
      · exact Or.inr (List.mem_cons_of_mem _ hrest)

/-- Nothing is reported that the batch does not have. -/
theorem mem_of_mem_keys_answer {m : QueryMap K V} {batch : List (K × V)} {k : K}
    (h : k ∈ (m.insertAllIfNew batch).answer.keys) : k ∈ batch.map (·.1) := by
  rw [answer_insertAllIfNew] at h
  exact (Draft.mem_keys_rejected_foldl_pull h).resolve_left List.not_mem_nil

end QueryMap

namespace ItemLookup

variable {β V : Type}

/-! ## Providers in force -/

/-- A listed item has the provider that it had, or else the new one. -/
theorem provider?_registerFor_eq (l : ItemLookup β V) (p : Provider β) (items : List (ItemRef V))
    (item : ItemRef V) :
    (l.registerFor p items).state.provider? item =
      (l.provider? item).or (if 1 ≤ listings items item then some p else none) := by
  cases items with
  | nil => exact Option.or_none.symm
  | cons first items =>
      rw [registerFor_of_ne_nil l p (List.cons_ne_nil first items), provider?_eq_get?,
        QueryMap.get?_insertAllIfNew, QueryMap.firstOf_map_const]
      refine congrArg (Option.or _) (if_congr ?_ rfl rfl)
      rw [List.any_eq_true]
      exact List.countP_pos_iff.symm

/-- The provider with which a registration of `p` for `items` reports an item: the one that it has, if
it is listed, and `p` itself if it has none and is listed more than once. -/
def inForce? (l : ItemLookup β V) (p : Provider β) (items : List (ItemRef V)) (item : ItemRef V) :
    Option (Provider β) :=
  match l.provider? item with
  | some earlier => if 1 ≤ listings items item then some earlier else none
  | none => if 2 ≤ listings items item then some p else none

/-- The report has the providers in force. -/
theorem answer_eq_inForce? (l : ItemLookup β V) (p : Provider β) {items : List (ItemRef V)}
    (h : items ≠ []) :
    ∃ rejected, (l.registerFor p items).answer = .ok rejected ∧
      rejected.get? = l.inForce? p items := by
  obtain ⟨rejected, hanswer, hrejected⟩ := l.answer_registerFor p h
  refine ⟨rejected, hanswer, funext fun item => ?_⟩
  rw [hrejected, provider?_registerFor_eq, inForce?]
  cases l.provider? item with
  | some earlier =>
      rw [Option.some_or]
      refine if_congr ?_ rfl rfl
      simp only [Option.isSome_some, true_and]
      omega
  | none =>
      simp only [Option.isSome_none, Bool.false_eq_true, false_and, false_or, Option.none_or]
      split
      · next htwice => rw [if_pos (by omega)]
      · rfl

/-- Who is reported has the provider of the report. -/
theorem provider?_of_inForce? {l : ItemLookup β V} {p q : Provider β} {items : List (ItemRef V)}
    {item : ItemRef V} (h : l.inForce? p items item = some q) :
    (l.registerFor p items).state.provider? item = some q := by
  rw [provider?_registerFor_eq]
  rw [inForce?] at h
  cases hearlier : l.provider? item with
  | some earlier =>
      rw [hearlier] at h
      rw [Option.some_or]
      exact (Option.ite_none_right_eq_some.1 h).2
  | none =>
      rw [hearlier] at h
      obtain ⟨htwice, hq⟩ := Option.ite_none_right_eq_some.1 h
      rw [Option.none_or, if_pos (by omega), hq]

/-! ## Events -/

/-- The batch is reported first, if it gives some item a provider. -/
theorem events_registerFor (l : ItemLookup β V) (p : Provider β) {items : List (ItemRef V)}
    (h : items ≠ []) {rejected : Rejected β V} (hanswer : (l.registerFor p items).answer = .ok rejected) :
    (l.registerFor p items).events =
      (if ∃ item ∈ items, l.provider? item = none then
        [.batchPublished l.providers.size (l.registerFor p items).state.providers.size rejected.size]
      else []) ++ l.warnings rejected := by
  rw [registerFor_of_ne_nil l p h] at hanswer ⊢
  obtain rfl := Except.ok.inj hanswer
  refine congrArg (· ++ _) ?_
  have hunbound : (∃ item ∈ items, l.provider? item = none) ↔
      ∃ e ∈ items.map fun item => (item, p), l.providers.get? e.1 = none := by
    simp only [List.mem_map, exists_exists_and_eq_and]
    rfl
  split
  · next hsome => exact (QueryMap.insertAllIfNew_of_unbound (hunbound.1 hsome)).2
  · next hnone => exact (QueryMap.insertAllIfNew_of_bound (mt hunbound.2 hnone)).2

/-- For any lookup, any provider and any list of items that is not empty, the registration is accepted.

It reports the items of the list that had a provider, each with this provider, and the others that are
listed more than once, each with the new one.  What it reports of an item is the provider that the item
has from then on, after any later registrations.  The events are one about the batch, if some item of
the list had no provider, and behind it one warning for each item that is reported, with the identifier
of the lookup and that of the item. -/
theorem registerFor_duplicates (l : ItemLookup β V) (p : Provider β) {items : List (ItemRef V)}
    (h : items ≠ []) :
    let e := l.registerFor p items
    ∃ (rejected : Rejected β V) (warned : List (ItemRef V)),
      e.answer = .ok rejected ∧
      (∀ item, rejected.get? item = l.inForce? p items item) ∧
      (∀ item q, rejected.get? item = some q → ∀ run, (e.state.after run).provider? item = some q) ∧
      e.events =
        (if ∃ item ∈ items, l.provider? item = none then
          [.batchPublished l.providers.size e.state.providers.size rejected.size]
        else []) ++ warned.map (fun item => .alreadyRegistered l.id item.value.id) ∧
      (∀ event ∈ e.events, event.level = .warn ↔
        ∃ item ∈ warned, event = .alreadyRegistered l.id item.value.id) ∧
      (∀ item ∈ warned, item ∈ items) ∧
      ∀ item, warned.countP (· == item) = if (rejected.get? item).isSome then 1 else 0 := by
  intro e
  obtain ⟨rejected, hanswer, hreport⟩ := l.answer_eq_inForce? p h
  have hevents := l.events_registerFor p h hanswer
  refine ⟨rejected, rejected.keys, hanswer, congrFun hreport, ?_, hevents, ?_, ?_,
    rejected.countP_keys⟩
  · intro item q hq run
    rw [hreport] at hq
    exact provider?_after_of_some (provider?_of_inForce? hq) run
  · intro event hevent
    rw [hevents, List.mem_append] at hevent
    constructor
    · intro hwarn
      rcases hevent with hbatch | hwarning
      · -- the event about the batch is no warning
        rw [List.mem_ite_nil_right, List.mem_singleton] at hbatch
        rw [hbatch.2] at hwarn
        cases hwarn
      · obtain ⟨item, hitem, rfl⟩ := List.mem_map.1 hwarning
        exact ⟨item, hitem, rfl⟩
    · rintro ⟨item, -, rfl⟩
      rfl
  · intro item hitem
    rw [registerFor_of_ne_nil l p h] at hanswer
    obtain rfl := Except.ok.inj hanswer
    have hlisted := QueryMap.mem_of_mem_keys_answer hitem
    simpa using hlisted

/-- Coal has a provider, and its twin, which looks the same, is listed twice.  There are two warnings with
one identifier, and none about the ash. -/
theorem registerFor_duplicates_twins :
    let coal : ItemRef ℕ := ⟨⟨0⟩, ⟨⟨"minecraft", "coal", by decide⟩, ⟨0, "u32"⟩, "u32", 5⟩⟩
    let twin : ItemRef ℕ := ⟨⟨1⟩, coal.value⟩
    let ash : ItemRef ℕ := ⟨⟨2⟩, ⟨⟨"minecraft", "ash", by decide⟩, ⟨0, "u32"⟩, "u32", 6⟩⟩
    let first : Provider Unit := ⟨⟨10⟩, .rule ()⟩
    let second : Provider Unit := ⟨⟨11⟩, .rule ()⟩
    let l := ((new coal.value.id ⟨⟨0, "u32"⟩, ⟨9, "()"⟩⟩).registerFor first [coal]).state
    let items := [twin, coal, ash, twin]
    items ≠ [] ∧ ∃ (rejected : Rejected Unit ℕ) (warned : List (ItemRef ℕ)),
      (l.registerFor second items).answer = .ok rejected ∧
      rejected.get? coal = some first ∧ rejected.get? twin = some second ∧ rejected.get? ash = none ∧
      warned.countP (· == coal) = 1 ∧ warned.countP (· == twin) = 1 ∧ warned.countP (· == ash) = 0 ∧
      (l.registerFor second items).events = [.batchPublished 1 3 rejected.size] ++
        warned.map (fun item => .alreadyRegistered l.id item.value.id) := by
  intro coal twin ash first second l items
  have hitems : items ≠ [] := List.cons_ne_nil _ _
  obtain ⟨rejected, warned, hanswer, hreport, -, hevents, -, -, hwarned⟩ :=
    registerFor_duplicates l second hitems
  have hcoal : rejected.get? coal = some first := hreport coal
  have htwin : rejected.get? twin = some second := hreport twin
  have hash : rejected.get? ash = none := hreport ash
  have hnew : ∃ item ∈ items, l.provider? item = none := ⟨ash, by simp [items], rfl⟩
  have hbefore : l.providers.size = 1 := by decide
  have hafter : (l.registerFor second items).state.providers.size = 3 := by decide
  rw [if_pos hnew, hbefore, hafter] at hevents
  refine ⟨hitems, rejected, warned, hanswer, hcoal, htwin, hash, ?_, ?_, ?_, hevents⟩
  · rw [hwarned, hcoal, Option.isSome_some, if_pos rfl]
  · rw [hwarned, htwin, Option.isSome_some, if_pos rfl]
  · rw [hwarned, hash, Option.isSome_none, if_neg Bool.false_ne_true]

end ItemLookup

end AttributeRegistry
