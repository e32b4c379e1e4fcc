import AttributeRegistry.Item

/-!
# Providers

A provider answers for a stack whether it has an attribute, and with which value.  It either goes
by a rule of its maker or answers every item with the item itself.  Like items, providers are
compared by identity: two that do the same are still two.

`β` is the type of rules.  What a rule does is up to whoever consults the provider.
-/

namespace AttributeRegistry

/-- Where the answers of a provider come from. -/
inductive Source (β : Type) where
  | rule (behaviour : β)
  /-- The item of the stack, if it is of the type `attr`. -/
  | ownValue (attr : TypeTag)

/-- A provider: its identity and the source of its answers. -/
structure Provider (β : Type) where
  /-- Where the provider lives. -/
  address : Address
  source : Source β

namespace Provider

variable {β V : Type}

/-- Providers are compared by identity. -/
instance : BEq (Provider β) := ⟨fun p q => p.address == q.address⟩

/-- Shown by its place alone. -/
instance : Inspect (Provider β) := ⟨fun p => "ItemAttributeProvider(" ++ inspect p.address ++ ")"⟩

/-- Asks the provider about a stack; `behave` carries out a rule. -/
def consult {m : Type → Type} [Monad m] (behave : β → m (Option V)) (stack : Stack V)
    (p : Provider β) : m (Option V) :=
  match p.source with
  | .rule b => behave b
  | .ownValue attr => pure (stack.item.value.valueAs attr)

end Provider

end AttributeRegistry
