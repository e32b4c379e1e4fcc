import AttributeRegistry.Text.Printable

/-!
# Quoted text

How a text or a character is shown in a message: between quotation marks, on one line, and so
that nothing in it can be mistaken for the mark that ends it.  The usual control characters have
a letter after a backslash; whatever else has no shape of its own is shown by its number.
-/

namespace AttributeRegistry.Text

/-- The escape of a code point by number: lower-case hexadecimal digits in braces. -/
def numberEscape (c : Char) : List Char :=
  ['\\', 'u', '\x7b'] ++ Nat.toDigits 16 c.toNat ++ ['\x7d']

/-- A character between two `mark`s, escaped where it could not stand as it is. -/
def escapeChar (mark c : Char) : List Char :=
  if c = '\x00' then ['\\', '0']
  else if c = '\t' then ['\\', 't']
  else if c = '\r' then ['\\', 'r']
  else if c = '\n' then ['\\', 'n']
  else if c = '\\' then ['\\', '\\']
  else if c = mark then ['\\', c]
  else if standsAlone c then [c]
  else numberEscape c

/-- The characters `cs` between two `mark`s. -/
def encloseIn (mark : Char) (cs : List Char) : List Char :=
  mark :: (cs.flatMap (escapeChar mark) ++ [mark])

/-- A text between double quotation marks. -/
def quoteText (s : String) : String :=
  String.ofList (encloseIn '"' s.toList)

/-- A character between single quotation marks. -/
def quoteChar (c : Char) : String :=
  String.ofList (encloseIn '\x27' [c])

end AttributeRegistry.Text
