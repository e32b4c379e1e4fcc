import AttributeRegistry.ItemLookup.Query

/-!
# Catalogues

A catalogue keeps the item lookups of an application, one for each identifier.  Lookups are
handed out as references, so that a provider registered through one holder of a lookup is found
through every other.

The registry of a catalogue knows nothing of lookups: it keeps slots, each with the place at which a
lookup is kept once it is made.  That happens when the slot is first opened, with the types it is
then opened with, and a slot opens only for the types that its lookup was made with.
-/

namespace AttributeRegistry

/-- A reference to a lookup of a catalogue. -/
structure LookupRef where
  /-- The place of the lookup among those of its catalogue. -/
  index : Nat
  deriving DecidableEq, Repr

namespace Catalogue

/-- What a catalogue lists of a lookup. -/
structure Entry where
  id : Identifier
  types : Signature

/-- Shown with its types. -/
instance : Inspect Entry :=
  ⟨fun e => inspectFields "ItemLookupEntry"
    [("id", inspect e.id), ("attribute", inspect e.types.attr),
     ("context", inspect e.types.context)]⟩

/-- What the registry keeps for an identifier: its entry, and where its lookup is kept. -/
structure Slot extends Entry where
  place : LookupRef

end Catalogue

/-- The lookups of an application. -/
structure Catalogue (β V : Type) where
  registry : Registry Catalogue.Slot
  /-- The lookups as they are now; a place is empty until its lookup is made. -/
  lookups : Array (Option (ItemLookup β V))

namespace Catalogue

variable {β V : Type}

/-- The label of a catalogue's registry. -/
def label : String := "item_attribute_lookup"

/-- A catalogue without lookups. -/
def empty : Catalogue β V := ⟨.empty label, #[]⟩

instance : Inhabited (Catalogue β V) := ⟨empty⟩

/-- The number of lookups. -/
def size (c : Catalogue β V) : Nat := c.registry.size

/-- Whether there is no lookup. -/
def isEmpty (c : Catalogue β V) : Bool := c.registry.isEmpty

/-- Shown as its registry. -/
instance : Inspect (Catalogue β V) :=
  ⟨fun c => inspectFields "ItemAttributeLookups" [("lookups", inspect c.registry)]⟩

/-- The entries of the lookups in the order in which they were made. -/
def entries (c : Catalogue β V) : List Entry :=
  c.registry.lookups.map (·.toEntry)

/-! ## Places -/

/-- The lookup that a reference leads to. -/
def lookup? (c : Catalogue β V) (ref : LookupRef) : Option (ItemLookup β V) :=
  c.lookups[ref.index]?.join

/-- Keeps `l` at the place that a reference leads to. -/
def setLookup (c : Catalogue β V) (ref : LookupRef) (l : ItemLookup β V) : Catalogue β V :=
  { c with lookups := c.lookups.setIfInBounds ref.index (some l) }

/-! ## Requests -/

/-- Requests the slot of `id` with the given types; a new slot has a place of its own. -/
def slot (c : Catalogue β V) (id : Identifier) (types : Signature) :
    Effect (Catalogue β V) (Except TypeConflict Slot) :=
  let construct (id : Identifier) (types : Signature) : Except Empty Slot :=
    .ok ⟨⟨id, types⟩, ⟨c.lookups.size⟩⟩
  let reply := c.registry.request construct id types
  { state :=
      { registry := reply.registry
        lookups := if reply.built.isSome then c.lookups.push none else c.lookups }
    answer := match reply.answer with
      | .ok slot => .ok slot
      | .error (.typeConflict conflict) => .error conflict
    events := reply.events }

/-- Opens a slot for the given types.  Its lookup is made with them if there is none yet; a lookup
that was made with other types is not handed out. -/
def openSlot (c : Catalogue β V) (slot : Slot) (types : Signature) :
    Catalogue β V × Option LookupRef :=
  let l := (c.lookup? slot.place).getD (.new slot.id types)
  (c.setLookup slot.place l, if l.types == types then some slot.place else none)

/-- Requests the lookup of `id` with the given types, which is made if there is none yet. -/
def get (c : Catalogue β V) (id : Identifier) (types : Signature) :
    Effect (Catalogue β V) (Except LookupError LookupRef) :=
  let e := c.slot id types
  match e.answer with
  | .error conflict => ⟨e.state, .error (.typeConflict conflict), e.events⟩
  | .ok slot =>
    let opened := e.state.openSlot slot types
    { state := opened.1
      answer := match opened.2 with
        | some ref => .ok ref
        | none => .error (.typeConflict ⟨id, slot.types, types⟩)
      events := e.events }

/-- Requests a lookup by the text of its identifier. -/
def getNamed (c : Catalogue β V) (text : String) (types : Signature) :
    Effect (Catalogue β V) (Except LookupError LookupRef) :=
  match Identifier.parse text with
  | .ok id => c.get id types
  | .error e => ⟨c, .error (.invalidArgument (.identifier e)), []⟩

/-! ## Registrations -/

/-- Performs a registration on the lookup that a reference leads to. -/
def register (c : Catalogue β V) (ref : LookupRef) (r : ItemLookup.Registration β V) :
    Option (Effect (Catalogue β V) (Except LookupError (Rejected β V))) := do
  let e := (← c.lookup? ref).register r
  return ⟨c.setLookup ref e.state, e.answer, e.events⟩

end Catalogue

end AttributeRegistry
