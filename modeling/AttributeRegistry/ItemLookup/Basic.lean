import AttributeRegistry.ItemLookup.Error
import AttributeRegistry.Provider
import AttributeRegistry.QueryMap.Draft

/-!
# Item lookups

A lookup finds one attribute on stacks of items.  It has at most one provider for each item, kept
under the item's identity, and a list of fallbacks for what the items' own providers do not answer.

Registration only ever adds.  The first provider of an item stays; later ones are turned away,
reported to the caller and warned about.  Fallbacks are kept in the order of their registration,
as often as they were registered.
-/

namespace AttributeRegistry

/-- The providers registered for one attribute. -/
structure ItemLookup (β V : Type) where
  id : Identifier
  types : Signature
  /-- The provider of each item that has one. -/
  providers : QueryMap (ItemRef V) (Provider β)
  /-- The fallbacks in order of registration. -/
  fallbacks : List (Provider β)

/-- Items that were turned away, each with the provider that it has. -/
abbrev Rejected (β V : Type) := Table (ItemRef V) (Provider β)

namespace ItemLookup

variable {β V : Type}

/-- A lookup without providers. -/
def new (id : Identifier) (types : Signature) : ItemLookup β V := ⟨id, types, ∅, []⟩

/-! ## Reads -/

/-- The provider of the item that lives at `a`. -/
def providerAt (l : ItemLookup β V) (a : Address) : Option (Provider β) :=
  l.providers.contents.getAt a

/-- The provider of an item. -/
def provider? (l : ItemLookup β V) (item : ItemRef V) : Option (Provider β) :=
  l.providerAt item.address

/-- The providers of the items, as of now. -/
def view (l : ItemLookup β V) : Snapshot (ItemRef V) (Provider β) := l.providers.snapshot

/-- The number of fallbacks. -/
def fallbackCount (l : ItemLookup β V) : Nat := l.fallbacks.length

/-- Shown by its types and the numbers of its providers. -/
instance : Inspect (ItemLookup β V) :=
  ⟨fun l => inspectFields "ItemAttributeLookup"
    [("id", inspect l.id), ("attribute", inspect l.types.attr),
     ("context", inspect l.types.context), ("providers", inspect l.providers.size),
     ("fallbacks", inspect l.fallbackCount)]⟩

/-! ## Registration -/

/-- The warning about each item of a report. -/
def warnings (l : ItemLookup β V) (rejected : Rejected β V) : List Event :=
  rejected.keys.map fun item => .alreadyRegistered l.id item.value.id

/-- Makes `p` the provider of those of `items` that have none.  The others are answered with the
providers that they keep. -/
def registerFor (l : ItemLookup β V) (p : Provider β) (items : List (ItemRef V)) :
    Effect (ItemLookup β V) (Except LookupError (Rejected β V)) :=
  if items.isEmpty then ⟨l, .error (.invalidArgument .noItems), []⟩
  else
    let e := l.providers.insertAllIfNew (items.map fun item => (item, p))
    ⟨{ l with providers := e.state }, .ok e.answer, e.events ++ l.warnings e.answer⟩

/-- Makes items their own providers, if all of them are of the attribute's type; else none of
them.  The provider that they share is made for the call and lives at `address`. -/
def registerSelf (l : ItemLookup β V) (address : Address) (items : List (ItemRef V)) :
    Effect (ItemLookup β V) (Except LookupError (Rejected β V)) :=
  match items.find? fun item => !(item.value.type == l.types.attr) with
  | some item =>
    ⟨l, .error (.invalidArgument (.notSelfAttribute l.types.attr item.value.typeName)), []⟩
  | none => l.registerFor ⟨address, .ownValue l.types.attr⟩ items

/-- Puts `p` behind the fallbacks. -/
def registerFallback (l : ItemLookup β V) (p : Provider β) : Effect (ItemLookup β V) Unit :=
  let l := { l with fallbacks := l.fallbacks ++ [p] }
  ⟨l, (), [.fallbackRegistered l.id l.fallbackCount]⟩

/-- A registration with its arguments. -/
inductive Registration (β V : Type) where
  | forItems (p : Provider β) (items : List (ItemRef V))
  /-- Items as their own providers; the provider made for them lives at `address`. -/
  | self (address : Address) (items : List (ItemRef V))
  | fallback (p : Provider β)

/-- Performs a registration; a fallback is never turned away. -/
def register (l : ItemLookup β V) :
    Registration β V → Effect (ItemLookup β V) (Except LookupError (Rejected β V))
  | .forItems p items => l.registerFor p items
  | .self address items => l.registerSelf address items
  | .fallback p => (l.registerFallback p).map fun _ => .ok ∅

/-- The lookup after a run of registrations. -/
def after (l : ItemLookup β V) (run : List (Registration β V)) : ItemLookup β V :=
  run.foldl (fun l r => (l.register r).state) l

end ItemLookup

end AttributeRegistry
