import AttributeRegistry.TypeTag

/-!
# Signatures

The two types that a lookup is requested with: the type of the attribute it finds and the type
of the context it is asked in.
-/

namespace AttributeRegistry

/-- The types of a lookup. -/
structure Signature where
  /-- The type of the values it finds. -/
  attr : TypeTag
  /-- The type of the context of a query. -/
  context : TypeTag

namespace Signature

/-- Signatures agree when both types do. -/
instance : BEq Signature := ⟨fun s t => s.attr == t.attr && s.context == t.context⟩

theorem beq_iff {s t : Signature} :
    (s == t) = true ↔ (s.attr == t.attr) = true ∧ (s.context == t.context) = true :=
  Bool.and_eq_true_iff

instance : EquivBEq Signature where
  rfl := beq_iff.2 ⟨BEq.rfl, BEq.rfl⟩
  symm h := beq_iff.2 ⟨BEq.symm (beq_iff.1 h).1, BEq.symm (beq_iff.1 h).2⟩
  trans h h' := beq_iff.2
    ⟨BEq.trans (beq_iff.1 h).1 (beq_iff.1 h').1, BEq.trans (beq_iff.1 h).2 (beq_iff.1 h').2⟩

end Signature

end AttributeRegistry
