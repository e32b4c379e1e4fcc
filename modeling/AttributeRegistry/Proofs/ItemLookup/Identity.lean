import AttributeRegistry.Proofs.ItemLookup.Consultation
import AttributeRegistry.Proofs.QueryMap.Identity

/-!
# Items by identity

A lookup is told of an item in several ways: by a handle on it, by something that names it, or by a
stack of it.  It is asked about an item by a handle, by a snapshot of its providers and by a search.
All of them come down to the place of the item, so they agree with each other, and neither the way an
item is named nor what the item looks like makes a difference (`bound_by_identity`).

The proof leaves the items behind.  A `Keyring` is what a lookup keeps, for keys of any kind, and a run
of uses goes the same way on it with other keys (`Keyring.sights_carry`).  With the places of the items
as keys this shows that a handle is as good as another, and with the indices of two lists of items as
keys that the items of the one list are as good as those of the other.
-/

namespace AttributeRegistry

/-! ## Uses of a lookup -/

/-- A use of a lookup with all that it is given, where `κ` is the type of handles on items. -/
inductive Use (β κ C : Type) where
  | register (p : Provider β) (items : List (Naming κ))
  | providerOf (item : Naming κ)
  | providers
  /-- A search on a stack of `count`. -/
  | find (item : Naming κ) (count : UInt32) (context : C)

/-- A use of a lookup with the items that it is about, however they were named. -/
inductive Access (β κ : Type) where
  | register (p : Provider β) (items : List κ)
  | providerOf (item : κ)
  | providers
  | find (item : κ)

/-- What comes back from a use, the items being known as members of `κ`. -/
inductive Sight (β κ : Type) where
  | failed (e : LookupError)
  | rejected (bindings : Multiset (κ × Provider β))
  | provider (p : Option (Provider β))
  | providers (bindings : Multiset (κ × Provider β))
  /-- Who was the first to be asked in a search. -/
  | asked (p : Option (Provider β))

variable {β κ κ' V C : Type}

/-- The use with `f item` for each handle `item`. -/
def Use.map (f : κ → κ') : Use β κ C → Use β κ' C
  | .register p items => .register p (items.map (Naming.map f))
  | .providerOf item => .providerOf (item.map f)
  | .providers => .providers
  | .find item count context => .find (item.map f) count context

/-- The access with `f item` for each item. -/
def Access.map (f : κ → κ') : Access β κ → Access β κ'
  | .register p items => .register p (items.map f)
  | .providerOf item => .providerOf (f item)
  | .providers => .providers
  | .find item => .find (f item)

/-- What a use is about. -/
def Use.access : Use β κ C → Access β κ
  | .register p items => .register p (items.map Naming.item)
  | .providerOf item => .providerOf item.item
  | .providers => .providers
  | .find item _ _ => .find item.item

/-- The places that a use is about.  It no longer says by which handles they were named, nor how, nor
how many of an item there were. -/
def Use.places (x : Use β (ItemRef V) C) : Access β Address := x.access.map Shared.address

theorem Use.access_map (f : κ → κ') (x : Use β κ C) : (x.map f).access = x.access.map f := by
  cases x with
  | register p items =>
      have hitem : Naming.item ∘ Naming.map f = f ∘ Naming.item (κ := κ) :=
        funext fun n => n.item_map f
      simp only [map, access, Access.map, List.map_map, hitem]
  | providerOf item => exact congrArg Access.providerOf (item.item_map f)
  | providers => rfl
  | find item count context => exact congrArg Access.find (item.item_map f)

namespace ItemLookup

/-- The lookup after a use; only registrations change it. -/
def use (l : ItemLookup β V) : Use β (ItemRef V) C → ItemLookup β V
  | .register p items => (l.registerFor p (items.map Naming.item)).state
  | .providerOf _ => l
  | .providers => l
  | .find .. => l

/-- The lookup after a run of uses. -/
def afterUses (l : ItemLookup β V) (run : List (Use β (ItemRef V) C)) : ItemLookup β V :=
  run.foldl use l

/-- What comes back from a use to somebody who knows the item `i` as `name i`. -/
def sight (behave : β → Stack V → C → Option V) (name : ItemRef V → κ) (l : ItemLookup β V) :
    Use β (ItemRef V) C → Sight β κ
  | .register p items =>
    match (l.registerFor p (items.map Naming.item)).answer with
    | .ok rejected => .rejected (QueryMap.named name rejected.entries)
    | .error e => .failed e
  | .providerOf item => .provider (l.provider? item.item)
  | .providers => .providers (QueryMap.named name l.view.toList)
  | .find item count context =>
    let stack : Stack V := ⟨item.item, count⟩
    .asked (l.query (Provider.answer behave stack context) stack).2.head?

/-- What comes back from each use of a run. -/
def sights (behave : β → Stack V → C → Option V) (name : ItemRef V → κ) (l : ItemLookup β V) :
    List (Use β (ItemRef V) C) → List (Sight β κ)
  | [] => []
  | x :: run => l.sight behave name x :: (l.use x).sights behave name run

end ItemLookup

/-! ## The same with keys of any kind -/

/-- What a lookup keeps, with keys of any kind for the items. -/
structure Keyring (β K : Type) [BEq K] where
  bindings : QueryMap K (Provider β)
  fallbacks : List (Provider β)

namespace Keyring

variable {J K : Type} [BEq J] [BEq K]

/-- The entries that a registration offers. -/
def offers (p : Provider β) (items : List K) : List (K × Provider β) := items.map fun item => (item, p)

/-- The keyring after an access. -/
def use (r : Keyring β K) : Access β K → Keyring β K
  | .register p items => { r with bindings := (r.bindings.insertAllIfNew (offers p items)).state }
  | .providerOf _ => r
  | .providers => r
  | .find _ => r

/-- What comes back from an access to somebody who knows the key `k` as `name k`. -/
def sight (name : K → κ) (r : Keyring β K) : Access β K → Sight β κ
  | .register p items =>
    if items.isEmpty then .failed (.invalidArgument .noItems)
    else .rejected
      (QueryMap.named name (r.bindings.insertAllIfNew (offers p items)).answer.entries)
  | .providerOf item => .provider (r.bindings.get? item)
  | .providers => .providers (QueryMap.named name r.bindings.contents.entries)
  | .find item => .asked ((r.bindings.get? item).toList ++ r.fallbacks).head?

/-- What comes back from each access of a run. -/
def sights (name : K → κ) (r : Keyring β K) : List (Access β K) → List (Sight β κ)
  | [] => []
  | x :: run => r.sight name x :: (r.use x).sights name run

/-- The keyring with other keys. -/
def carry (f : KeyMap J K) (r : Keyring β J) : Keyring β K := ⟨r.bindings.rekey f, r.fallbacks⟩

variable (f : KeyMap J K) (name : K → κ) (r : Keyring β J)

theorem offers_map (p : Provider β) (items : List J) :
    offers p (items.map f) = (offers p items).map fun e => (f e.1, e.2) := by
  rw [offers, offers, List.map_map, List.map_map]
  rfl

/-- A registration with other keys, for a keyring with these keys, does the same. -/
theorem register_carry (p : Provider β) (items : List J) :
    (r.carry f).bindings.insertAllIfNew (offers p (items.map f)) =
      let e := r.bindings.insertAllIfNew (offers p items)
      ⟨e.state.rekey f, e.answer.rekey f, e.events⟩ := by
  rw [offers_map]
  exact r.bindings.insertAllIfNew_carry f id (offers p items)

theorem use_carry (x : Access β J) : (r.carry f).use (x.map f) = (r.use x).carry f := by
  cases x with
  | register p items =>
      rw [Access.map, use, register_carry]
      rfl
  | _ => rfl

theorem named_carry (t : Table J (Provider β)) :
    QueryMap.named name (t.rekey f).entries = QueryMap.named (name ∘ f) t.entries := by
  rw [QueryMap.named, QueryMap.named, Table.entries_carry, List.map_map]
  rfl

theorem sight_carry (x : Access β J) :
    (r.carry f).sight name (x.map f) = r.sight (name ∘ f) x := by
  have hget (item : J) : (r.carry f).bindings.get? (f item) = r.bindings.get? item :=
    r.bindings.get?_rekey f item
  cases x with
  | register p items =>
      rw [Access.map, sight, sight, register_carry, List.isEmpty_map]
      simp only [named_carry]
  | providerOf item => exact congrArg Sight.provider (hget item)
  | providers => exact congrArg Sight.providers (named_carry f name r.bindings.contents)
  | find item => rw [Access.map, sight, sight, hget]; rfl

/-- A run with other keys is seen alike. -/
theorem sights_carry (run : List (Access β J)) :
    (r.carry f).sights name (run.map (Access.map f)) = r.sights (name ∘ f) run := by
  induction run generalizing r with
  | nil => rfl
  | cons x run ih => rw [List.map_cons, sights, sights, sight_carry, use_carry, ih]

/-- Of the items that a run is about only the places are seen. -/
theorem sights_places (r : Keyring β (ItemRef V)) (run : List (Use β (ItemRef V) C)) :
    r.sights Shared.address (run.map Use.access) =
      (r.carry QueryMap.byPlace).sights id (run.map Use.places) := by
  have h := sights_carry QueryMap.byPlace id r (run.map Use.access)
  rw [List.map_map] at h
  exact h.symm

end Keyring

namespace ItemLookup

/-! ## A lookup is its keyring -/

/-- What a lookup keeps. -/
def keyring (l : ItemLookup β V) : Keyring β (ItemRef V) := ⟨l.providers, l.fallbacks⟩

theorem keyring_use (l : ItemLookup β V) (x : Use β (ItemRef V) C) :
    (l.use x).keyring = l.keyring.use x.access := by
  cases x with
  | register p items => cases items with
    | nil => rfl
    | cons first items => rfl
  | _ => rfl

/-- The first to be asked in a search is the first in the order. -/
theorem head?_asked (l : ItemLookup β V) (answer : Provider β → Option V) (stack : Stack V) :
    (l.query answer stack).2.head? = (l.order stack).head? := by
  rw [query_eq]
  cases l.order stack with
  | nil => rfl
  | cons p order =>
      obtain ⟨rest, -, hasked⟩ := asked_cons answer p order
      rw [hasked]
      rfl

theorem sight_keyring (behave : β → Stack V → C → Option V) (name : ItemRef V → κ)
    (l : ItemLookup β V) (x : Use β (ItemRef V) C) :
    l.sight behave name x = l.keyring.sight name x.access := by
  cases x with
  | register p items => cases items with
    | nil => rfl
    | cons first items => rfl
  | find item count context => exact congrArg Sight.asked (l.head?_asked _ _)
  | _ => rfl

theorem sights_keyring (behave : β → Stack V → C → Option V) (name : ItemRef V → κ)
    (l : ItemLookup β V) (run : List (Use β (ItemRef V) C)) :
    l.sights behave name run = l.keyring.sights name (run.map Use.access) := by
  induction run generalizing l with
  | nil => rfl
  | cons x run ih => rw [List.map_cons, sights, Keyring.sights, sight_keyring, ih, keyring_use]

/-- A run on a lookup that has no items yet, with the items `f` for its keys, is seen as one with the
keys themselves. -/
theorem sights_empty {K : Type} [BEq K] (f : KeyMap K (ItemRef V)) (name : ItemRef V → κ)
    (behave : β → Stack V → C → Option V) (id : Identifier) (types : Signature)
    (fallbacks : List (Provider β)) (run : List (Use β K C)) :
    (ItemLookup.mk id types ∅ fallbacks).sights behave name (run.map (Use.map f)) =
      (Keyring.mk ∅ fallbacks).sights (name ∘ f) (run.map Use.access) := by
  have h := Keyring.sights_carry f name (Keyring.mk ∅ fallbacks) (run.map Use.access)
  have haccess : Use.access ∘ Use.map f = Access.map f ∘ Use.access (β := β) (C := C) :=
    funext fun x => x.access_map f
  rw [sights_keyring, List.map_map, haccess, ← List.map_map]
  exact h

/-! ## The ways to a provider -/

/-- Items that live at one place have one provider. -/
theorem provider?_congr (l : ItemLookup β V) {i j : ItemRef V} (h : i.address = j.address) :
    l.provider? i = l.provider? j :=
  congrArg l.providerAt h

/-- The provider of an item is found by a handle on it, by its place, where the search goes by hash, and
as the one binding of the item in the list of them all. -/
theorem view_provider? (l : ItemLookup β V) (item : ItemRef V) :
    l.view.get? item = l.provider? item ∧ l.view.getAt item.address = l.provider? item ∧
      (l.view.toList.filter fun e => e.1 == item).map (·.2) = (l.provider? item).toList :=
  ⟨rfl, l.view.getAt_address item, l.providers.contents.map_filter_entries item⟩

/-- A search asks the provider of the item, if there is one, and then none but fallbacks. -/
theorem exists_asked (l : ItemLookup β V) (answer : Provider β → Option V) (stack : Stack V) :
    ∃ rest, rest <+: l.fallbacks ∧
      (l.query answer stack).2 = (l.provider? stack.item).toList ++ rest := by
  rw [query_eq, order, ← provider?]
  cases l.provider? stack.item with
  | none => exact ⟨_, asked_prefix_order answer l.fallbacks, rfl⟩
  | some p => exact asked_cons answer p l.fallbacks

theorem fallbacks_use (l : ItemLookup β V) (x : Use β (ItemRef V) C) :
    (l.use x).fallbacks = l.fallbacks := by
  have h := congrArg Keyring.fallbacks (l.keyring_use x)
  cases x with
  | register p items => exact h
  | _ => rfl

/-- The uses of a run leave the fallbacks alone. -/
theorem fallbacks_afterUses (l : ItemLookup β V) (run : List (Use β (ItemRef V) C)) :
    (l.afterUses run).fallbacks = l.fallbacks := by
  induction run generalizing l with
  | nil => rfl
  | cons x run ih => exact (ih (l.use x)).trans (l.fallbacks_use x)

/-- A lookup keeps providers by the identity of items.  Take two lists of items in which the same members
share places.

Whatever a lookup was used for before, an item has the same provider, or none, by every way to it: by
a handle, in the snapshot by a handle or by its place, and in the list of the bindings, where it comes at
most once.  A search on any stack of the item, whatever names the item, asks this provider first and
apart from it none but fallbacks.

Two runs of uses that are about the same places come to the same, whatever names the items.

The members of the one list of items come to the same as those of the other, when they are known by
their places in the lists: the same of them have providers, and these providers, the same are rejected
and searches ask the same providers first. -/
theorem bound_by_identity {ι W : Type} (t : ι → ItemRef V) (u : ι → ItemRef W)
    (hplaces : ∀ i j, (t i).address = (t j).address ↔ (u i).address = (u j).address)
    (behave : β → Stack V → C → Option V) (behave' : β → Stack W → C → Option W) :
    (∀ (start : ItemLookup β V) (run : List (Use β (ItemRef V) C)) (item : ItemRef V),
      let l := start.afterUses run
      let keyed := l.provider? item
      (l.view.get? item = keyed ∧ l.view.getAt item.address = keyed ∧
        (l.view.toList.filter fun e => e.1 == item).map (·.2) = keyed.toList) ∧
      ∀ (n : Naming (ItemRef V)) (count : UInt32) (context : C), n.item.address = item.address →
        let stack : Stack V := ⟨n.item, count⟩
        ∃ rest, rest <+: start.fallbacks ∧
          (l.query (Provider.answer behave stack context) stack).2 = keyed.toList ++ rest) ∧
    (∀ (start : ItemLookup β V) (x y : List (Use β (ItemRef V) C)),
      x.map Use.places = y.map Use.places →
        start.sights behave Shared.address x = start.sights behave Shared.address y) ∧
    ∀ (id : Identifier) (types : Signature) (fallbacks : List (Provider β))
      (run : List (Use β ι C)),
      (ItemLookup.mk id types ∅ fallbacks).sights behave (QueryMap.indices t)
          (run.map (Use.map t)) =
        (ItemLookup.mk id types ∅ fallbacks).sights behave' (QueryMap.indices u)
          (run.map (Use.map u)) := by
  refine ⟨fun start run item => ?_, fun start x y h => ?_, fun id types fallbacks run => ?_⟩
  · refine ⟨(start.afterUses run).view_provider? item, fun n count context hn => ?_⟩
    obtain ⟨rest, hrest, hasked⟩ := (start.afterUses run).exists_asked
      (Provider.answer behave ⟨n.item, count⟩ context) ⟨n.item, count⟩
    rw [fallbacks_afterUses] at hrest
    rw [provider?_congr _ hn] at hasked
    exact ⟨rest, hrest, hasked⟩
  · rw [sights_keyring, sights_keyring, Keyring.sights_places, Keyring.sights_places, h]
  · -- the indices stand for the items of both lists
    let _ : BEq ι := ⟨fun i j => t i == t j⟩
    have hbeq (i j : ι) : (u i == u j) = (t i == t j) := by
      rw [Bool.eq_iff_iff, Shared.beq_iff, Shared.beq_iff]
      exact (hplaces i j).symm
    let f : KeyMap ι (ItemRef V) := ⟨t, fun _ _ => rfl⟩
    let g : KeyMap ι (ItemRef W) := ⟨u, hbeq⟩
    have hname : QueryMap.indices t ∘ f = QueryMap.indices u ∘ g :=
      funext fun j => Set.ext fun i => (congrArg (· = true) (hbeq i j)).to_iff.symm
    have ht := sights_empty f (QueryMap.indices t) behave id types fallbacks run
    have hu := sights_empty g (QueryMap.indices u) behave' id types fallbacks run
    rw [← hname] at hu
    exact ht.trans hu.symm

/-- Two items that look alike, at different places, come to the same as two that have nothing in common.
The third is another handle on the place of the first and keeps the provider of the first. -/
theorem bound_by_identity_twins :
    let coal : Item ℕ := ⟨⟨"minecraft", "coal", by decide⟩, ⟨1, "Coal"⟩, "Coal", 5⟩
    let ash : Item String := ⟨⟨"minecraft", "ash", by decide⟩, ⟨2, "Ash"⟩, "Ash", "grey"⟩
    let bone : Item String := ⟨⟨"minecraft", "bone", by decide⟩, ⟨3, "Bone"⟩, "Bone", "white"⟩
    let t : Fin 3 → ItemRef ℕ := ![⟨⟨0⟩, coal⟩, ⟨⟨1⟩, coal⟩, ⟨⟨0⟩, coal⟩]
    let u : Fin 3 → ItemRef String := ![⟨⟨7⟩, ash⟩, ⟨⟨3⟩, bone⟩, ⟨⟨7⟩, ash⟩]
    let types : Signature := ⟨⟨8, "u32"⟩, ⟨9, "()"⟩⟩
    let first : Provider Unit := ⟨⟨20⟩, .rule ()⟩
    let second : Provider Unit := ⟨⟨21⟩, .rule ()⟩
    let run : List (Use Unit (Fin 3) Unit) :=
      [.register first [.handle 0], .register second [.stack (.handle 1) 64, .reference (.handle 2)],
        .providerOf (.handle 2), .providers, .find (.handle 1) 3 ()]
    let lookup : ItemLookup Unit ℕ := ⟨coal.id, types, ∅, []⟩
    (∀ i j, (t i).address = (t j).address ↔ (u i).address = (u j).address) ∧
      lookup.sights (fun _ _ _ => none) (QueryMap.indices t) (run.map (Use.map t)) =
        (ItemLookup.mk coal.id types ∅ []).sights (fun _ _ _ => none) (QueryMap.indices u)
          (run.map (Use.map u)) ∧
      [0, 1, 2].map (fun i => ((lookup.afterUses (run.map (Use.map t))).provider? (t i)).map
        Provider.address) = [some ⟨20⟩, some ⟨21⟩, some ⟨20⟩] := by
  intro coal ash bone t u types first second run lookup
  have hplaces : ∀ i j, (t i).address = (t j).address ↔ (u i).address = (u j).address := by decide
  exact ⟨hplaces, (bound_by_identity t u hplaces _ _).2.2 coal.id types [] run, by decide⟩

end ItemLookup

end AttributeRegistry
