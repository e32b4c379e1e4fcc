import AttributeRegistry.Identifier.Order
import AttributeRegistry.Signature

/-!
# Events

What the library reports while it works, as data.  An operation never writes a log: it returns
its new state, its answer and the events it caused (`Effect`), and the caller decides what
becomes of them.
-/

namespace AttributeRegistry

/-- How much attention an event deserves. -/
inductive Level where
  /-- Of interest only when the flow of writes is followed. -/
  | trace
  /-- Of interest when a configuration is looked into. -/
  | debug
  /-- A request that was set aside. -/
  | warn
  deriving DecidableEq, Repr

/-- The things worth reporting. -/
inductive Event where
  /-- A query map replaced its contents; the sizes before and after. -/
  | generationPublished (before after : Nat)
  /-- A query map took entries of a batch; the sizes, and how many keys it turned away. -/
  | batchPublished (before after rejected : Nat)
  /-- A query map dropped all its entries. -/
  | cleared
  /-- A registry is about to build a record. -/
  | creatingLookup (registry : String) (lookup : Identifier) (types : Signature)
  /-- A lookup got another fallback; how many it has now. -/
  | fallbackRegistered (lookup : Identifier) (fallbacks : Nat)
  /-- A lookup kept the provider that an item had. -/
  | alreadyRegistered (lookup item : Identifier)

namespace Event

/-- The level at which an event is reported. -/
def level : Event → Level
  | generationPublished .. | batchPublished .. | cleared => .trace
  | creatingLookup .. | fallbackRegistered .. => .debug
  | alreadyRegistered .. => .warn

/-- The message for people; the particulars are the event's own fields. -/
def message : Event → String
  | generationPublished .. => "query map generation published"
  | batchPublished .. => "query map batch published"
  | cleared => "query map cleared"
  | creatingLookup .. => "creating attribute lookup"
  | fallbackRegistered .. => "registered fallback attribute provider"
  | alreadyRegistered .. => "attribute provider already registered for item; new entry ignored"

/-! ## Listing

The warnings about one batch come from an unordered report, so neighbouring warnings have no
order of their own. A listing puts them by item and then by lookup and leaves all else alone.
-/

/-- The lookup and the item of a warning. -/
def warning? : Event → Option (Identifier × Identifier)
  | alreadyRegistered lookup item => some (lookup, item)
  | _ => none

/-- Whether the first warning is listed no later than the second. -/
def warningLE (a b : Identifier × Identifier) : Bool :=
  ((compare a.2.text b.2.text).then (compare a.1.text b.1.text)).isLE

/-- Lists `events` behind the `pending` warnings that stand directly before them. -/
def listAfter (pending : List (Identifier × Identifier)) : List Event → List Event
  | [] => release pending
  | e :: rest =>
    match e.warning? with
    | some w => listAfter (pending ++ [w]) rest
    | none => release pending ++ e :: listAfter [] rest
where
  /-- The collected warnings in their listed order. -/
  release (ws : List (Identifier × Identifier)) : List Event :=
    (ws.mergeSort warningLE).map fun w => alreadyRegistered w.1 w.2

/-- The events in order of emission, with each run of neighbouring warnings put in order. -/
def listing (events : List Event) : List Event :=
  listAfter [] events

end Event

/-- What an operation does: the state it leaves, its answer, and the events it caused in order. -/
structure Effect (σ α : Type) where
  state : σ
  answer : α
  /-- The events, oldest first. -/
  events : List Event

/-- The same effect with another answer. -/
def Effect.map {σ α β : Type} (f : α → β) (e : Effect σ α) : Effect σ β :=
  ⟨e.state, f e.answer, e.events⟩

end AttributeRegistry
