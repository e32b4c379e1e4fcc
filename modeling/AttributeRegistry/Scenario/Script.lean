import AttributeRegistry.Catalogue
import AttributeRegistry.Scenario.Value

/-!
# Scripts

The steps of a session with catalogues, and the rules by which its providers answer.  Steps refer
to lookups, providers, stacks and views by the names they were given; a rule may be a script of
steps of its own, so a provider can query and register while it is asked.
-/

namespace AttributeRegistry.Scenario

/-- How a step names a stack. -/
inductive StackTerm where
  | new (stack : Stack Value)
  /-- A copy of the stack kept under a name. -/
  | kept (name : String)

/-- A step of a session.  Of the names, `lookup` and `provider` say under which name a lookup or a
provider is known, and `catalogue` is the number of a catalogue. -/
inductive Step where
  /-- Requests a lookup by the text of its identifier and keeps it under a name; `named` leaves the
  reading of the text to the catalogue. -/
  | get (lookup : String) (catalogue : Nat) (text : String) (types : Signature) (named : Bool)
  | find (lookup : String) (stack : StackTerm) (context : Context)
  | registerFor (lookup provider : String) (items : List (ItemRef Value))
  | registerSelf (lookup : String) (items : List (ItemRef Value))
  | registerFallback (lookup provider : String)
  | fallbackCount (lookup : String)
  | providerOf (lookup : String) (item : ItemRef Value)
  | sameProvider (lookup : String) (a b : ItemRef Value)
  | providers (lookup : String)
  | keepView (lookup name : String)
  | showView (name : String)
  | consult (provider : String) (stack : StackTerm) (context : Context)
  | providersEqual (a b : String)
  | inspectProvider (provider : String)
  | describe (lookup : String)
  | inspectLookup (lookup : String)
  | sameLookup (a b : String)
  | size (catalogue : Nat)
  | isEmpty (catalogue : Nat)
  | entries (catalogue : Nat)
  | inspectCatalogue (catalogue : Nat)
  | keepStack (name : String) (stack : StackTerm)
  | setCount (name : String) (count : UInt32)
  | describeStack (stack : StackTerm)

/-- Something that a rule can require of a stack and a context. -/
inductive Condition where
  | atLeast (n : Nat)
  | isEmpty
  /-- An item that lives at one of some places. -/
  | itemAmong (places : List Nat)
  | namespaceIs (s : String)
  | pathIs (s : String)
  /-- An item that calls its type so. -/
  | typeNameIs (s : String)
  | contextIs (c : Context)

/-- Whether a stack in a context meets the condition. -/
def Condition.holds (stack : Stack Value) (context : Context) : Condition → Bool
  | atLeast n => n ≤ stack.count.toNat
  | isEmpty => stack.isEmpty
  | itemAmong places => places.contains stack.item.address.index
  | namespaceIs s => stack.item.value.id.ns == s
  | pathIs s => stack.item.value.id.path == s
  | typeNameIs s => stack.item.value.typeName == s
  | contextIs c => context == c

/-- A number that a rule can read off a stack and a context. -/
inductive Quantity where
  | count
  | context
  /-- The count times the context, as a word of 64 bits. -/
  | product
  /-- The capacity of the item, if it is a battery. -/
  | capacity

/-- The number, if there is one. -/
def Quantity.value? (stack : Stack Value) (context : Context) : Quantity → Option Int64
  | count => some (.ofNat stack.count.toNat)
  | .context => some context.number
  | product => some (.ofNat stack.count.toNat * context.number)
  | capacity =>
    match stack.item.value.value with
    | .body (.battery _ c) => some (.ofNat c.toNat)
    | _ => none

/-- How a provider comes to its answer. -/
inductive Rule where
  | const (v : Value)
  | absent
  | whenever (c : Condition) (v : Value)
  | measure (q : Quantity)
  /-- The item itself, if it is of the attribute's type. -/
  | own
  | script (steps : List Step) (next : Rule)

/-- The rule of a provider with what it needs to know of the provider. -/
structure Behaviour where
  name : String
  /-- The type of its attribute. -/
  attr : TypeTag
  /-- How that attribute holds a number. -/
  form : NumberForm
  rule : Rule

/-- The name of a provider; one that was made for items themselves has none of its own. -/
def nameOf (p : Provider Behaviour) : String :=
  match p.source with
  | .rule b => b.name
  | .ownValue _ => "self"

end AttributeRegistry.Scenario
