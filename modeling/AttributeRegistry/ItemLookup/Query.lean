import AttributeRegistry.ItemLookup.Basic

/-!
# Queries

How a lookup finds its attribute on a stack: the provider of the stack's item is asked first, and
if there is none or it has no answer, the fallbacks are asked in turn.  The first answer counts and
nobody is asked after it.

Providers may do anything while they are asked, registering further providers included, so
`ItemLookup.find` runs in the monad of whoever consults them and reads the lookup afresh: once for
the item's provider, and once more for the fallbacks after that provider has been asked.
`ItemLookup.query` is the case of providers that leave the lookup alone.
-/

namespace AttributeRegistry.ItemLookup

variable {β V : Type}

/-- Finds the attribute on `stack`.  `current` reads the lookup and `consult` asks a provider. -/
def find {m : Type → Type} [Monad m] (current : m (ItemLookup β V))
    (consult : Provider β → m (Option V)) (stack : Stack V) : m (Option V) := do
  let keyed ← match (← current).providerAt stack.item.address with
    | some p => consult p
    | none => pure none
  match keyed with
  | some v => pure (some v)
  | none => (← current).fallbacks.findSomeM? consult

/-- Asks a provider that goes by `answer`, and notes that it was asked. -/
def noting (answer : Provider β → Option V) (p : Provider β) :
    StateM (List (Provider β)) (Option V) := do
  modify (· ++ [p])
  pure (answer p)

/-- What is found on `stack` when providers only answer, and who was asked, in order. -/
def query (l : ItemLookup β V) (answer : Provider β → Option V) (stack : Stack V) :
    Option V × List (Provider β) :=
  (find (pure l) (noting answer) stack).run []

/-- Everyone who may be asked about a stack, in order: its item's provider, then the fallbacks. -/
def order (l : ItemLookup β V) (stack : Stack V) : List (Provider β) :=
  (l.providerAt stack.item.address).toList ++ l.fallbacks

end AttributeRegistry.ItemLookup
