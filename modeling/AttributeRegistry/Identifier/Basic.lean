import AttributeRegistry.Identifier.Error

/-!
# Identifiers

A namespaced name such as `mymod:fuel`.  An identifier is a namespace and a path without a
fault; its text joins them with a colon.  `Identifier.new` builds one from its two parts and
`Identifier.parse` reads one, with `minecraft` for a namespace that is left out.

Two identifiers count as equal when their texts are equal.  No namespace holds a colon, so the
text can be taken apart in one way only (`Identifier.text_injective`), and that equality is
equality of namespace and path.
-/

namespace AttributeRegistry

/-- A well-formed pair of a namespace and a path. -/
structure Identifier where
  /-- The part before the colon. -/
  ns : String
  /-- The part after the colon. -/
  path : String
  /-- Both parts are well formed. -/
  faultless : IdentifierFault.find? ns path = none

namespace Identifier

/-- The namespace of a text that names none. -/
def defaultNamespace : String := "minecraft"

/-- The canonical text, `namespace:path`. -/
def text (i : Identifier) : String :=
  i.ns ++ ":" ++ i.path

/-- The identifier with these parts, or the fault in them, reported against `text`. -/
def check (text ns path : String) : Except IdentifierError Identifier :=
  match h : IdentifierFault.find? ns path with
  | some fault => .error ⟨fault, text⟩
  | none => .ok ⟨ns, path, h⟩

/-- The identifier with this namespace and path; faults are reported against the joined text. -/
def new (ns path : String) : Except IdentifierError Identifier :=
  check (ns ++ ":" ++ path) ns path

/-- What stands before the first colon, and what stands after it if there is one. -/
def splitColon (cs : List Char) : List Char × Option (List Char) :=
  (cs.takeWhile (· != ':'), (cs.dropWhile (· != ':')).tail?)

/-- Reads `namespace:path`.  A namespace that is absent or empty stands for the default one, and
every fault is reported against the text as it was given. -/
def parse (text : String) : Except IdentifierError Identifier :=
  match splitColon text.toList with
  | (_, none) => check text defaultNamespace text
  | ([], some path) => check text defaultNamespace (String.ofList path)
  | (ns, some path) => check text (String.ofList ns) (String.ofList path)

/-! ## Equality -/

/-- The characters of a namespace exclude the colon. -/
theorem colon_notMem_ns (i : Identifier) : ':' ∉ i.ns.toList := fun h =>
  absurd ((IdentifierFault.find?_eq_none_iff.1 i.faultless).1.2 _ h) (by decide)

/-- A text that starts without a colon up to its first one splits there. -/
theorem splitColon_append {ns : List Char} (h : ':' ∉ ns) (path : List Char) :
    splitColon (ns ++ ':' :: path) = (ns, some path) := by
  have hne : ∀ c ∈ ns, (c != ':') = true := fun c hc => by
    simpa using fun heq : c = ':' => h (heq ▸ hc)
  rw [splitColon, List.takeWhile_append_of_pos hne, List.dropWhile_append_of_pos hne]
  simp

theorem toList_text (i : Identifier) : i.text.toList = i.ns.toList ++ ':' :: i.path.toList := by
  simp [text, String.toList_append]

/-- The canonical text splits into the namespace and the path. -/
theorem splitColon_text (i : Identifier) :
    splitColon i.text.toList = (i.ns.toList, some i.path.toList) := by
  rw [toList_text, splitColon_append i.colon_notMem_ns]

/-- Identifiers with one text are one identifier. -/
theorem text_injective {a b : Identifier} (h : a.text = b.text) : a = b := by
  have hsplit := a.splitColon_text
  rw [h, b.splitColon_text] at hsplit
  cases a
  cases b
  simp_all [String.toList_inj]

/-- Identifiers are compared by their canonical texts. -/
instance : BEq Identifier := ⟨fun a b => a.text == b.text⟩

instance : LawfulBEq Identifier where
  eq_of_beq h := text_injective (eq_of_beq h)
  rfl := beq_self_eq_true (α := String) _

instance : DecidableEq Identifier := instDecidableEqOfLawfulBEq

/-- Shown with the name of its kind around its text. -/
instance : Inspect Identifier := ⟨fun i => "Identifier(" ++ i.text ++ ")"⟩

end Identifier

end AttributeRegistry
