import AttributeRegistry.Proofs.Identifier.Encoding
import AttributeRegistry.Proofs.Table.Entries
import AttributeRegistry.QueryMap.Place

/-!
# Spellings of an identifier

Different texts may name one identifier.  They do so exactly if they have the same namespace and the
same path (`Identifier.partsOf?`), and then they are packed alike, so that nothing behind the reading of
a text can tell which of them it was (`Identifier.parse_congr`).

A table with packed identifiers for keys is searched by the hash and the comparison of their texts.
Both are those of the identifiers, so it is as good as a table with identifiers (`getHashed_packing`).
-/

namespace AttributeRegistry

/-- Both parts, if they can be cut out of the text. -/
def Packed.parts? (p : Packed) : Option (String × String) := do return (← p.ns?, ← p.path?)

namespace Identifier

/-- The namespace and the path. -/
def parts (i : Identifier) : String × String := (i.ns, i.path)

/-- The namespace and the path that a text comes to; none if it is malformed. -/
def partsOf? (text : String) : Option (String × String) :=
  (Packed.parse text).toOption.bind Packed.parts?

/-- The text `b` may stand for `a`: it is the same text, or it has the same namespace and path. -/
def Respells (a b : String) : Prop :=
  a = b ∨ ∃ parts, partsOf? a = some parts ∧ partsOf? b = some parts

theorem parts_injective {i j : Identifier} (h : i.parts = j.parts) : i = j :=
  eq_of_beq (beq_iff_parts.2 (Prod.mk.injEq .. |>.mp h))

theorem parts?_pack (i : Identifier) : i.pack.parts? = some i.parts := by
  obtain ⟨hns, hpath⟩ := i.slices_pack
  rw [Packed.parts?, hns, hpath]
  rfl

/-- The parts of a text are those of the identifier that it names. -/
theorem partsOf?_eq (text : String) : partsOf? text = (parse text).toOption.map parts := by
  rw [partsOf?, Packed.parse_eq]
  cases parse text with
  | ok i => exact i.parts?_pack
  | error e => rfl

theorem partsOf?_eq_some_iff {text : String} {p : String × String} :
    partsOf? text = some p ↔ ∃ i, parse text = .ok i ∧ i.parts = p := by
  rw [partsOf?_eq]
  cases parse text with
  | ok i => simp [Except.toOption]
  | error e => simp [Except.toOption]

theorem partsOf?_of_parse {text : String} {i : Identifier} (h : parse text = .ok i) :
    partsOf? text = some i.parts :=
  partsOf?_eq_some_iff.2 ⟨i, h, rfl⟩

/-- Texts that may stand for each other are read alike. -/
theorem parse_congr {a b : String} (h : Respells a b) : parse a = parse b := by
  obtain rfl | ⟨p, ha, hb⟩ := h
  · rfl
  · obtain ⟨i, hi, rfl⟩ := partsOf?_eq_some_iff.1 ha
    obtain ⟨j, hj, hparts⟩ := partsOf?_eq_some_iff.1 hb
    rw [hi, hj, parts_injective hparts]

/-- They are packed alike, down to the offset. -/
theorem packed_congr {a b : String} (h : Respells a b) : Packed.parse a = Packed.parse b := by
  rw [Packed.parse_eq, Packed.parse_eq, parse_congr h]

/-! ## Tables with packed identifiers -/

/-- Packed identifiers are equal when the identifiers are. -/
def packing : KeyMap Identifier Packed := ⟨pack, fun _ _ => rfl⟩

variable {R : Type} (t : Table Identifier R)

/-- The hash and the comparison of packed texts find what is bound to the identifier. -/
theorem getHashed_packing (i : Identifier) :
    (t.carry packing id).getHashed (hash i.pack) (· == i.pack) = t.get? i := by
  rw [Table.getHashed_hash]
  exact (t.get?_carry packing id i).trans (Option.map_id_apply ..)

/-- What a text is packed as serves as a key just as the identifier that it names. -/
theorem packed_key {text : String} {p : Packed} (h : Packed.parse text = .ok p) :
    ∃ i, parse text = .ok i ∧ p.parts? = some i.parts ∧
      (t.carry packing id).getHashed (hash p) (· == p) = t.get? i ∧
      ∀ r, (t.carry packing id).insert p r = (t.insert i r).carry packing id := by
  rw [Packed.parse_eq] at h
  cases hi : parse text with
  | error e =>
      rw [hi] at h
      cases h
  | ok i =>
      rw [hi] at h
      obtain rfl := Except.ok.inj h
      exact ⟨i, rfl, i.parts?_pack, getHashed_packing t i, fun r => (t.carry_insert packing id i r).symm⟩

end Identifier

end AttributeRegistry
