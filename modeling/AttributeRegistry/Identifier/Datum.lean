import AttributeRegistry.Identifier.Basic

/-!
# Stored identifiers

In structured data an identifier is kept as its canonical text (`Identifier.toDatum`).  Reading
takes every text that parses (`Identifier.ofDatum`), so a text may be stored in a shorter form
than the one in which it is written back.  A datum that is no text is refused by its kind.
-/

namespace AttributeRegistry

/-- A datum that is no text, as far as a message tells such data apart. -/
inductive NonText where
  | null
  | boolean (b : Bool)
  | integer (n : Int)
  | sequence
  | map
  deriving DecidableEq, Repr

/-- What a message calls the datum; a single value is named in backquotes. -/
def NonText.description : NonText → String
  | null => "null"
  | boolean b => "boolean \x60" ++ (if b then "true" else "false") ++ "\x60"
  | integer n => "integer \x60" ++ inspect n ++ "\x60"
  | sequence => "sequence"
  | map => "map"

/-- A piece of structured data. -/
inductive Datum where
  | text (s : String)
  | other (d : NonText)
  deriving DecidableEq, Repr

/-- Why a datum is no identifier. -/
inductive DatumError where
  | notText (d : NonText)
  | identifier (e : IdentifierError)
  deriving DecidableEq, Repr

/-- The message for people. -/
def DatumError.message : DatumError → String
  | notText d => "invalid type: " ++ d.description ++ ", expected a string"
  | identifier e => e.message

namespace Identifier

/-- The datum in which an identifier is kept. -/
def toDatum (i : Identifier) : Datum := .text i.text

/-- Reads an identifier from a datum. -/
def ofDatum : Datum → Except DatumError Identifier
  | .text s => (parse s).mapError .identifier
  | .other d => .error (.notText d)

end Identifier

end AttributeRegistry
