import AttributeRegistry.Identifier.Datum
import AttributeRegistry.Text.Bytes

/-!
# Packed identifiers

In memory an identifier is one text with the offset at which its namespace ends.  The namespace and
the path are slices of that text, so they exist only if the offset is one at which the text may be
cut; equality and hash look at the text alone, but the order looks at the slices.

`Packed.new` and `Packed.parse` pack what they are given.  A text that has a namespace of its own is
kept as it is, every other one is joined from its parts.
-/

namespace AttributeRegistry

/-- An identifier in one text. -/
structure Packed where
  full : String
  /-- How many bytes of the text are the namespace. -/
  split : Nat

namespace Packed

/-- Packed identifiers are compared by their texts; the offset takes no part. -/
instance : BEq Packed := ⟨fun a b => a.full == b.full⟩

/-- They are hashed by their texts too. -/
instance : Hashable Packed := ⟨fun p => hash p.full⟩

instance : LawfulHashable Packed where
  hash_eq _ _ h := congrArg (hash (α := String)) (eq_of_beq (α := String) h)

/-- The slice of the text before the offset; none if no character starts there. -/
def ns? (p : Packed) : Option String :=
  (p.full.pos? ⟨p.split⟩).map fun pos => (p.full.sliceTo pos).copy

/-- The slice of the text from one byte behind the offset; none if no character starts there. -/
def path? (p : Packed) : Option String :=
  (p.full.pos? ⟨p.split + 1⟩).map fun pos => (p.full.sliceFrom pos).copy

/-- By the bytes of the namespaces, and where these agree by those of the paths; none if a slice that
is looked at does not exist. -/
def compare? (p q : Packed) : Option Ordering := do
  match Text.compareBytes (← p.ns?) (← q.ns?) with
  | .eq => return Text.compareBytes (← p.path?) (← q.path?)
  | order => return order

/-- The first of each group that agrees in hash and text. -/
def distinct (ps : List Packed) : List Packed :=
  ps.eraseDupsBy fun p q => hash p == hash q && p == q

/-- Packs `text` as the identifier with these parts, unless they have a fault. -/
def check (text ns path : String) : Except IdentifierError Packed :=
  match IdentifierFault.find? ns path with
  | some fault => .error ⟨fault, text⟩
  | none => .ok ⟨text, ns.utf8ByteSize⟩

/-- Packs the joined text of a namespace and a path. -/
def new (ns path : String) : Except IdentifierError Packed :=
  check (ns ++ ":" ++ path) ns path

/-- Packs a text.  A fault found in the text that was joined for it is reported against the text as
it was given. -/
def parse (text : String) : Except IdentifierError Packed :=
  match Identifier.splitColon text.toList with
  | (_, none) => (new Identifier.defaultNamespace text).mapError fun e => { e with text }
  | ([], some path) =>
    (new Identifier.defaultNamespace (String.ofList path)).mapError fun e => { e with text }
  | (ns, some path) => check text (String.ofList ns) (String.ofList path)

/-- Packs the identifier that a datum holds. -/
def ofDatum : Datum → Except DatumError Packed
  | .text s => (parse s).mapError .identifier
  | .other d => .error (.notText d)

end Packed

/-- How an identifier is packed. -/
def Identifier.pack (i : Identifier) : Packed := ⟨i.text, i.ns.utf8ByteSize⟩

end AttributeRegistry
