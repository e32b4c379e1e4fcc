import AttributeRegistry.Identifier.Basic
import AttributeRegistry.Shared
import AttributeRegistry.TypeTag

/-!
# Items and stacks

An item exists once and is shared: what tells two items apart is where they live, not what they
look like.  A stack is a quantity of one item.

`V` is the type of attribute values.  Every item is also one: the value it would be if an
attribute of the item's own type were asked of it.
-/

namespace AttributeRegistry

/-- What an item is. -/
structure Item (V : Type) where
  /-- The identifier, for diagnostics. -/
  id : Identifier
  /-- The item's own type. -/
  type : TypeTag
  /-- What the item calls its type, for diagnostics. -/
  typeName : String
  value : V

/-- A handle on an item, compared by identity. -/
abbrev ItemRef (V : Type) := Shared (Item V)

/-- The item as a value of the type `attr`, if that is its own type. -/
def Item.valueAs {V : Type} (i : Item V) (attr : TypeTag) : Option V :=
  if i.type == attr then some i.value else none

/-- An item is shown as its value. -/
instance {V : Type} [Inspect V] : Inspect (Item V) := ⟨fun i => inspect i.value⟩

/-- A quantity of one item. -/
structure Stack (V : Type) where
  item : ItemRef V
  count : UInt32

namespace Stack

variable {V : Type}

/-- A stack of one. -/
def single (item : ItemRef V) : Stack V := ⟨item, 1⟩

/-- The stack with another count. -/
def withCount (s : Stack V) (count : UInt32) : Stack V := { s with count }

/-- Whether there is none of the item. -/
def isEmpty (s : Stack V) : Bool := s.count == 0

/-- Shown by item and count. -/
instance [Inspect V] : Inspect (Stack V) :=
  ⟨fun s => inspectFields "ItemStack"
    [("item", inspect s.item.value), ("count", inspect s.count.toNat)]⟩

end Stack

/-- A way to name an item, where `κ` is the type of handles: a handle on it, a reference to something
that names it, or a stack of what something names. -/
inductive Naming (κ : Type) where
  | handle (item : κ)
  | reference (n : Naming κ)
  | stack (n : Naming κ) (count : UInt32)

namespace Naming

variable {κ κ' : Type}

/-- The handle on the item that is named. -/
def item : Naming κ → κ
  | handle item => item
  | reference n => n.item
  | stack n _ => n.item

/-- The same way to name an item by another handle. -/
def map (f : κ → κ') : Naming κ → Naming κ'
  | handle item => handle (f item)
  | reference n => reference (n.map f)
  | stack n count => stack (n.map f) count

@[simp] theorem item_map (f : κ → κ') (n : Naming κ) : (n.map f).item = f n.item := by
  induction n with
  | handle item => rfl
  | reference n ih => exact ih
  | stack n count ih => exact ih

end Naming

end AttributeRegistry
