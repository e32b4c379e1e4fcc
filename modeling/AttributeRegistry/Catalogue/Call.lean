import AttributeRegistry.Catalogue

/-!
# Calls on a catalogue

Requests for lookups and registrations on them as data, so that a run is a list of calls.
`Catalogue.perform` answers one call, and `Catalogue.history` puts the answers of a run beside its
calls.
-/

namespace AttributeRegistry.Catalogue

variable {β V : Type}

/-- How a request names its identifier. -/
inductive Name where
  | identifier (id : Identifier)
  | text (s : String)

/-- The identifier that is named, if the text of the name is well formed. -/
def Name.read : Name → Except IdentifierError Identifier
  | .identifier id => .ok id
  | .text s => Identifier.parse s

/-- Requests the lookup that is named. -/
def request (c : Catalogue β V) : Name → Signature →
    Effect (Catalogue β V) (Except LookupError LookupRef)
  | .identifier id, types => c.get id types
  | .text s, types => c.getNamed s types

/-- An operation with its arguments. -/
inductive Call (β V : Type) where
  | request (name : Name) (types : Signature)
  | register (ref : LookupRef) (r : ItemLookup.Registration β V)

/-- What a call answers. -/
inductive Answer (β V : Type) where
  | lookup (a : Except LookupError LookupRef)
  /-- What the lookup answered to the registration. -/
  | registered (a : Except LookupError (Rejected β V))
  | unknownLookup

/-- Performs one call. -/
def perform (c : Catalogue β V) : Call β V → Effect (Catalogue β V) (Answer β V)
  | .request name types => (c.request name types).map .lookup
  | .register ref r =>
    match c.register ref r with
    | some e => e.map .registered
    | none => ⟨c, .unknownLookup, []⟩

/-- The catalogue after a run of calls. -/
def after (c : Catalogue β V) (run : List (Call β V)) : Catalogue β V :=
  run.foldl (fun c call => (c.perform call).state) c

/-- A call with the answer to it. -/
abbrev Answered (β V : Type) := Call β V × Answer β V

/-- The calls of a run with their answers. -/
def history (c : Catalogue β V) : List (Call β V) → List (Answered β V)
  | [] => []
  | call :: run => (call, (c.perform call).answer) :: (c.perform call).state.history run

end AttributeRegistry.Catalogue
