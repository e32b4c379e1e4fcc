import AttributeRegistry.Event
import AttributeRegistry.Table

/-!
# Registries

A registry keeps one record for each identifier that was ever requested with success: the lookup
that was built for it and the types it was requested with.  The first request for an identifier
builds the record.  Every later one gets the same lookup if it asks for the same types, and is a
conflict otherwise.  Records are never changed or dropped, and they are listed in the order in
which they were built.

The lookup is built by a constructor that the caller supplies and that may fail; a failed
construction leaves no record.  A reply tells, besides the answer, what was done on the way and in
what order: the event, then the run of the constructor.
-/

namespace AttributeRegistry

/-- A lookup with the types that its identifier is bound to. -/
structure Record (L : Type) where
  lookup : L
  /-- The types of the request that built it. -/
  types : Signature

/-- Two requests that do not agree on the types of one identifier. -/
structure TypeConflict where
  id : Identifier
  /-- The types of its record. -/
  registered : Signature
  /-- The types of the request that was turned down. -/
  requested : Signature

/-- The message for people. -/
def TypeConflict.message (c : TypeConflict) : String :=
  "lookup " ++ c.id.text ++ " is already registered with attribute type " ++ c.registered.attr.name
    ++ " and context type " ++ c.registered.context.name
    ++ "; it cannot be requested with attribute type " ++ c.requested.attr.name
    ++ " and context type " ++ c.requested.context.name

/-- One lookup for each identifier. -/
structure Registry (L : Type) where
  /-- The name of the registry in diagnostics. -/
  label : String
  /-- The records in the order in which they were built. -/
  records : Table Identifier (Record L)

namespace Registry

variable {ε L : Type}

/-- The label of a registry that is not given one. -/
def defaultLabel : String := "attribute_lookup"

/-- A registry without records. -/
def empty (label : String) : Registry L := ⟨label, ∅⟩

/-- The number of records. -/
def size (r : Registry L) : Nat := r.records.size

/-- Whether there is no record. -/
def isEmpty (r : Registry L) : Bool := r.records.isEmpty

/-- Whether there is a record for `id`. -/
def contains (r : Registry L) (id : Identifier) : Bool := r.records.contains id

/-- The types that `id` is bound to. -/
def registeredTypes (r : Registry L) (id : Identifier) : Option Signature :=
  (r.records.get? id).map (·.types)

/-- The lookups in the order in which they were built. -/
def lookups (r : Registry L) : List L := r.records.values.map (·.lookup)

/-- Shown by its label and the identifiers of its records, in order. -/
instance : Inspect (Registry L) :=
  ⟨fun r => inspectFields "AttributeLookupMap"
    [("label", inspect r.label), ("ids", inspectList r.records.keys)]⟩

/-! ## Requests -/

/-- Why a request gets no lookup; `ε` is what a constructor fails with. -/
inductive RequestError (ε : Type) where
  /-- The identifier is bound to other types. -/
  | typeConflict (c : TypeConflict)
  /-- The constructor was run and failed. -/
  | construction (e : ε)

/-- Something that is done in the course of a request. -/
inductive Action where
  | emit (e : Event)
  | construct (id : Identifier) (types : Signature)

/-- What a request comes to. -/
structure Reply (ε L : Type) where
  registry : Registry L
  answer : Except (RequestError ε) L
  /-- What was done, in order. -/
  actions : List Action

/-- The events of a request. -/
def Reply.events (reply : Reply ε L) : List Event :=
  reply.actions.filterMap fun
    | .emit e => some e
    | .construct .. => none

/-- The lookup that the request built, if it built one. -/
def Reply.built (reply : Reply ε L) : Option L :=
  match reply.answer, reply.actions with
  | .ok lookup, _ :: _ => some lookup
  | _, _ => none

/-- Requests the lookup of `id` with the given types.  The constructor is run only if there is no
record for `id`. -/
def request (r : Registry L) (construct : Identifier → Signature → Except ε L) (id : Identifier)
    (types : Signature) : Reply ε L :=
  match r.records.get? id with
  | some record =>
    { registry := r
      answer := if record.types == types then .ok record.lookup
        else .error (.typeConflict ⟨id, record.types, types⟩)
      actions := [] }
  | none =>
    let actions := [.emit (.creatingLookup r.label id types), .construct id types]
    match construct id types with
    | .ok lookup =>
      ⟨{ r with records := r.records.insert id ⟨lookup, types⟩ }, .ok lookup, actions⟩
    | .error e => ⟨r, .error (.construction e), actions⟩

/-! ## Cursors -/

/-- A walk through the lookups that a registry had at one moment. -/
structure Cursor (L : Type) where
  /-- The lookups still to come. -/
  remaining : List L

/-- A walk through the lookups of now. -/
def cursor (r : Registry L) : Cursor L := ⟨r.lookups⟩

/-- The next lookup, and the walk behind it. -/
def Cursor.next (c : Cursor L) : Option L × Cursor L := (c.remaining.head?, ⟨c.remaining.tail⟩)

/-- All lookups still to come, and the walk at its end. -/
def Cursor.rest (c : Cursor L) : List L × Cursor L := (c.remaining, ⟨[]⟩)

end Registry

end AttributeRegistry
