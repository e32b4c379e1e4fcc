import AttributeRegistry.Text.Quoted

/-!
# Values in diagnostics

`Inspect` gives the text by which a value is recognised in messages and listings.  It is for
people and is not read back.
-/

namespace AttributeRegistry

/-- How a value is shown in diagnostics. -/
class Inspect (α : Type) where
  inspect : α → String

export Inspect (inspect)

/-- Texts are quoted, so that their ends and any invisible character in them can be seen. -/
instance : Inspect String := ⟨Text.quoteText⟩

/-- Characters are quoted for the same reason. -/
instance : Inspect Char := ⟨Text.quoteChar⟩

/-- Numbers are shown in decimal. -/
instance : Inspect Int := ⟨Int.repr⟩

/-- Counts are shown in decimal. -/
instance : Inspect Nat := ⟨Nat.repr⟩

/-- A record with named fields on one line, as in `Point { x: 1, y: 2 }`. -/
def inspectFields (name : String) (fields : List (String × String)) : String :=
  name ++ " \x7b " ++ ", ".intercalate (fields.map fun f => f.1 ++ ": " ++ f.2) ++ " \x7d"

/-- Values in square brackets, separated by commas. -/
def inspectList {α : Type} [Inspect α] (values : List α) : String :=
  "[" ++ ", ".intercalate (values.map inspect) ++ "]"

end AttributeRegistry
