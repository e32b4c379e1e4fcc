import AttributeRegistry.Registry.Basic

/-!
# Lookup errors

The requests and registrations that fail outright.  Each is a mistake of the caller, and none
leaves a trace.
-/

namespace AttributeRegistry

/-- An argument that cannot be used. -/
inductive InvalidArgument where
  /-- A provider is registered for no item at all. -/
  | noItems
  /-- An item that is called `item` is to provide itself, but is not of the type `attr`. -/
  | notSelfAttribute (attr : TypeTag) (item : String)
  | identifier (e : IdentifierError)

/-- The message for people. -/
def InvalidArgument.message : InvalidArgument → String
  | noItems => "at least one item must be provided when registering an attribute provider"
  | notSelfAttribute attr item =>
    "failed to register self-implementing items: attribute type " ++ attr.name
      ++ " is not assignable from item type " ++ item
  | identifier e => e.message

/-- Why a request or a registration fails. -/
inductive LookupError where
  | invalidArgument (a : InvalidArgument)
  | typeConflict (c : TypeConflict)

/-- The message for people. -/
def LookupError.message : LookupError → String
  | invalidArgument a => "invalid argument: " ++ a.message
  | typeConflict c => c.message

end AttributeRegistry
