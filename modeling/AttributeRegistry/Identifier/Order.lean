import AttributeRegistry.Identifier.Basic

/-!
# The order of identifiers

Identifiers are ordered by namespace, then by path, each in the order of code points.  This is
not the order of their texts: the colon that ends a shorter namespace stands above the hyphen,
the dot and the digits.

Besides sorting, the module has the two ways to drop repeats, one by equality (`distinct`) and
one by the order (`orderedSet`).
-/

namespace AttributeRegistry.Identifier

/-- By namespace first, and by path where the namespaces agree. -/
instance : Ord Identifier where
  compare a b := (compare a.ns b.ns).then (compare a.path b.path)

/-- Any two identifiers compare. -/
def partialCompare (a b : Identifier) : Option Ordering := some (compare a b)

instance : LT Identifier := ⟨fun a b => a.partialCompare b = some .lt⟩

instance : LE Identifier :=
  ⟨fun a b => a.partialCompare b = some .lt ∨ a.partialCompare b = some .eq⟩

/-- In ascending order, repeats kept. -/
def sort (ids : List Identifier) : List Identifier :=
  ids.mergeSort fun a b => (compare a b).isLE

/-- The first of each group of equal identifiers. -/
def distinct (ids : List Identifier) : List Identifier :=
  ids.eraseDups

/-- Puts an identifier into an ascending list without repeats, unless it is in it already. -/
def insertOrdered (i : Identifier) : List Identifier → List Identifier
  | [] => [i]
  | j :: rest =>
    match compare i j with
    | .lt => i :: j :: rest
    | .eq => j :: rest
    | .gt => j :: insertOrdered i rest

/-- The ascending list without repeats that a set ordered by `compare` holds. -/
def orderedSet (ids : List Identifier) : List Identifier :=
  ids.foldl (fun set i => insertOrdered i set) []

/-- The greatest identifier of a list; of equal ones the last. -/
def greatest? : List Identifier → Option Identifier
  | [] => none
  | i :: rest => some (rest.foldl (fun best j => if (compare best j).isGT then best else j) i)

end AttributeRegistry.Identifier
