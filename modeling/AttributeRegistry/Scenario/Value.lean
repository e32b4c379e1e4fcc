import AttributeRegistry.ItemLookup.Query

/-!
# Attribute values of a session

The items that a session can declare, the values that its attributes can have, and the contexts in
which it can ask for them.
-/

namespace AttributeRegistry.Scenario

/-- What an item of a session is. -/
inductive Body where
  | block (id : Identifier)
  | battery (id : Identifier) (capacity : UInt32)
  | tool (id : Identifier) (durability : Int32)
  | unit

/-- Shown by kind and particulars. -/
instance : Inspect Body where
  inspect
    | .block id => inspectFields "Block" [("id", inspect id)]
    | .battery id capacity =>
      inspectFields "Battery" [("id", inspect id), ("capacity", inspect capacity.toNat)]
    | .tool id durability =>
      inspectFields "Tool" [("id", inspect id), ("durability", inspect durability.toInt)]
    | .unit => "Unit"

/-- The value of an attribute. -/
inductive Value where
  | number (n : Int64)
  | text (s : String)
  /-- What some item is. -/
  | body (b : Body)

/-- Numbers and texts are shown as such, a body by kind and particulars. -/
instance : Inspect Value where
  inspect
    | .number n => inspect n.toInt
    | .text s => inspect s
    | .body b => inspect b

/-- The context of a query. -/
inductive Context where
  | furnace (speed : UInt32)
  | unit
  | text (s : String)
  deriving DecidableEq

/-- A context as a number: the speed, nothing, or the length of the text in bytes. -/
def Context.number : Context → Int64
  | furnace speed => .ofNat speed.toNat
  | unit => 0
  | text s => .ofNat s.utf8ByteSize

/-- How an attribute can hold a number. -/
inductive NumberForm where
  | number
  /-- As its decimal text. -/
  | decimal
  | none

/-- The value that holds a number in this form. -/
def NumberForm.value? : NumberForm → Int64 → Option Value
  | number, n => some (.number n)
  | decimal, n => some (.text (inspect n.toInt))
  | none, _ => Option.none

end AttributeRegistry.Scenario
