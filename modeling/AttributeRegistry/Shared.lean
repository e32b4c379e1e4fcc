import AttributeRegistry.Table
import AttributeRegistry.Text.Inspect

/-!
# Shared values

A shared value is a value together with the place it lives at, so that it can be compared by
identity: two handles are equal when they are handles on one place, whatever the values are.
`Shared.share` reads a list of declarations, each a new value or another handle on an earlier
one, into the handles.
-/

namespace AttributeRegistry

/-- The place of a shared value. -/
structure Address where
  index : Nat
  deriving DecidableEq, Hashable, Repr

instance : Ord Address := ⟨fun a b => compare a.index b.index⟩

/-- Places differ from run to run, so they are shown without their number. -/
instance : Inspect Address := ⟨fun _ => "Address(_)"⟩

/-- A handle on a value that has an identity. -/
structure Shared (α : Type) where
  /-- Where the value lives. -/
  address : Address
  value : α

namespace Shared

variable {α : Type}

/-- Handles are compared by identity; the values take no part. -/
instance : BEq (Shared α) := ⟨fun a b => a.address == b.address⟩

theorem beq_iff {a b : Shared α} : (a == b) = true ↔ a.address = b.address :=
  beq_iff_eq (α := Address)

instance : EquivBEq (Shared α) where
  rfl := beq_iff.2 rfl
  symm h := beq_iff.2 (beq_iff.1 h).symm
  trans h h' := beq_iff.2 ((beq_iff.1 h).trans (beq_iff.1 h'))

/-- Handles are hashed by their places, so that a handle may be searched for by its place. -/
instance : Hashable (Shared α) := ⟨fun s => hash s.address⟩

instance : LawfulHashable (Shared α) where
  hash_eq _ _ h := congrArg (hash (α := Address)) (beq_iff.1 h)

instance : Ord (Shared α) := ⟨fun a b => compare a.address b.address⟩

/-- Shown as a key by identity: the place, and the value for orientation. -/
instance [Inspect α] : Inspect (Shared α) :=
  ⟨fun s => inspectFields "ByAddress" [("address", inspect s.address), ("value", inspect s.value)]⟩

/-- How a handle comes about. -/
inductive Declaration (α : Type) where
  | fresh (value : α)
  /-- Another handle on the place of an earlier declaration. -/
  | same (index : Nat)

/-- Adds the handle that one more declaration makes; none for a reference that leads nowhere.
A place is numbered by the first handle on it. -/
def declare (handles : Array (Shared α)) : Declaration α → Option (Array (Shared α))
  | .fresh value => some (handles.push ⟨⟨handles.size⟩, value⟩)
  | .same i => handles[i]?.map handles.push

/-- The handles that a list of declarations makes, one for each. -/
def share (declarations : List (Declaration α)) : Option (Array (Shared α)) :=
  declarations.foldlM declare #[]

end Shared

/-- The value bound to the shared key that lives at `a`. -/
def Table.getAt {α V : Type} (t : Table (Shared α) V) (a : Address) : Option V :=
  t.getBy (·.address == a)

/-- Looking up a place and looking up a handle on it are the same. -/
theorem Table.getAt_address {α V : Type} (t : Table (Shared α) V) (s : Shared α) :
    t.getAt s.address = t.get? s := rfl

end AttributeRegistry
