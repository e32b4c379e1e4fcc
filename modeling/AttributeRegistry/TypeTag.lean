import AttributeRegistry.Text.Inspect

/-!
# Type tags

The identity of a type at run time, with its name for messages.  Only the identity counts: a
type may be reached under several words, and two types may have the same name.
-/

namespace AttributeRegistry

/-- A type's identity and its name. -/
structure TypeTag where
  /-- The number that tells the type from every other. -/
  uid : Nat
  /-- The type's name, for messages. -/
  name : String
  deriving Repr

namespace TypeTag

/-- Tags are compared by identity; the names take no part. -/
instance : BEq TypeTag := ⟨fun a b => a.uid == b.uid⟩

theorem beq_iff {a b : TypeTag} : (a == b) = true ↔ a.uid = b.uid :=
  beq_iff_eq (α := Nat)

instance : EquivBEq TypeTag where
  rfl := beq_iff.2 rfl
  symm h := beq_iff.2 (beq_iff.1 h).symm
  trans h h' := beq_iff.2 ((beq_iff.1 h).trans (beq_iff.1 h'))

/-- Shown with the name of its kind around its name. -/
instance : Inspect TypeTag := ⟨fun t => "TypeTag(" ++ t.name ++ ")"⟩

/-- The first of each group of tags of one type. -/
def distinct (tags : List TypeTag) : List TypeTag :=
  tags.eraseDups

end TypeTag

end AttributeRegistry
