import AttributeRegistry.Text.Inspect

/-!
# Faulty identifiers

What can be wrong with a namespace and a path, and how it is reported.  `IdentifierFault.find?`
is the whole grammar: a pair is well formed exactly when it finds nothing
(`IdentifierFault.find?_eq_none_iff`).
-/

namespace AttributeRegistry

/-- A namespace is written in lower-case letters, digits, underscores, dots and hyphens. -/
def isNamespaceChar (c : Char) : Bool :=
  c.isLower || c.isDigit || c == '_' || c == '.' || c == '-'

/-- A path may also have slashes. -/
def isPathChar (c : Char) : Bool :=
  isNamespaceChar c || c == '/'

/-- The ways in which a namespace and a path can fail to form an identifier. -/
inductive IdentifierFault where
  | emptyNamespace
  | emptyPath
  /-- The namespace holds `c`, which no namespace may hold. -/
  | namespaceChar (c : Char)
  /-- The path holds `c`, which no path may hold. -/
  | pathChar (c : Char)
  deriving DecidableEq, Repr

namespace IdentifierFault

/-- The fault that is reported for a namespace and a path: an empty part before a bad character,
the namespace before the path, and of several bad characters the first. -/
def find? (ns path : String) : Option IdentifierFault :=
  if ns.isEmpty then some .emptyNamespace
  else if path.isEmpty then some .emptyPath
  else match ns.toList.find? (fun c => !isNamespaceChar c) with
    | some c => some (.namespaceChar c)
    | none => (path.toList.find? fun c => !isPathChar c).map .pathChar

/-- A pair without a fault has two non-empty parts, each over its own characters. -/
theorem find?_eq_none_iff {ns path : String} :
    find? ns path = none ↔
      (ns ≠ "" ∧ ∀ c ∈ ns.toList, isNamespaceChar c = true) ∧
      (path ≠ "" ∧ ∀ c ∈ path.toList, isPathChar c = true) := by
  unfold find?
  by_cases hns : ns = "" <;> by_cases hpath : path = ""
  · simp [hns]
  · simp [hns]
  · simp [hns, hpath]
  · simp only [String.isEmpty_iff, hns, hpath, if_false, ne_eq, not_false_eq_true, true_and]
    cases h : ns.toList.find? (fun c => !isNamespaceChar c) with
    | some c =>
      have := List.find?_some h
      simp only [reduceCtorEq, false_iff, not_and]
      intro hall
      exact absurd (hall c (List.mem_of_find?_eq_some h)) (by simpa using this)
    | none => simp_all [List.find?_eq_none]

end IdentifierFault

/-- A fault together with the text in which it was found, as the caller wrote it. -/
structure IdentifierError where
  fault : IdentifierFault
  text : String
  deriving DecidableEq, Repr

/-- The message for people. -/
def IdentifierError.message (e : IdentifierError) : String :=
  match e.fault with
  | .emptyNamespace => "identifier " ++ inspect e.text ++ " has an empty namespace"
  | .emptyPath => "identifier " ++ inspect e.text ++ " has an empty path"
  | .namespaceChar c =>
    "invalid character " ++ inspect c ++ " in namespace of identifier " ++ inspect e.text
  | .pathChar c => "invalid character " ++ inspect c ++ " in path of identifier " ++ inspect e.text

end AttributeRegistry
