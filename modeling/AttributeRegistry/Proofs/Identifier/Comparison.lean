import Mathlib.Order.Std
import AttributeRegistry.Identifier.Order
import AttributeRegistry.Proofs.Identifier.Spelling

/-!
# Comparing identifiers

Identifiers are equal by their texts and ordered by their two parts.  Because the text tells the parts,
the two views agree, and the order is linear.

Packed identifiers compare by the bytes of the slices that are cut at the stored offset
(`Packed.compare?_pack`).  That is the order of identifiers, since both alphabets are of single bytes.
-/

namespace AttributeRegistry.Identifier

open Text (Plain compareBytes)

/-! ## A linear order -/

instance : Std.TransOrd Identifier :=
  inferInstanceAs (Std.TransCmp (compareLex (compareOn Identifier.ns) (compareOn Identifier.path)))

instance : Std.LawfulEqOrd Identifier where
  eq_of_compare {a b} h := by
    obtain ⟨hns, hpath⟩ := Ordering.then_eq_eq.1 h
    exact parts_injective (Prod.ext (Std.compare_eq_iff_eq.1 hns) (Std.compare_eq_iff_eq.1 hpath))

theorem lt_iff_compare {a b : Identifier} : a < b ↔ compare a b = .lt := Option.some_inj

theorem le_iff_compare {a b : Identifier} : a ≤ b ↔ (compare a b).isLE = true := by
  have hle : a ≤ b ↔ compare a b = .lt ∨ compare a b = .eq := or_congr Option.some_inj Option.some_inj
  rw [hle]
  cases compare a b <;> decide

instance : Std.LawfulOrderOrd Identifier where
  isLE_compare _ _ := le_iff_compare.symm
  isGE_compare a b := by
    rw [le_iff_compare, Std.OrientedOrd.eq_swap (a := b), Ordering.isLE_swap]

instance : Std.LawfulOrderLT Identifier where
  lt_iff a b := by
    rw [lt_iff_compare, le_iff_compare, le_iff_compare, Std.OrientedOrd.eq_swap (a := b)]
    cases compare a b <;> decide

instance : LinearOrder Identifier := LinearOrder.ofStd Identifier

/-! ## The order of bytes -/

/-- The letters of both alphabets are single bytes. -/
theorem toNat_lt_of_pathLetter {c : Char} (h : PathLetter c) : c.toNat < 128 := by
  have hbelow {d : Char} (hle : c ≤ d) (hd : d.toNat < 128) : c.toNat < 128 :=
    Nat.lt_of_le_of_lt (UInt32.le_iff_toNat_le.1 hle) hd
  rcases h with (⟨-, hz⟩ | ⟨-, hnine⟩ | hmark) | rfl
  · exact hbelow hz (by decide)
  · exact hbelow hnine (by decide)
  · simp only [List.mem_cons, List.not_mem_nil, or_false] at hmark
    rcases hmark with rfl | rfl | rfl <;> decide
  · decide

theorem namespaceLetter_of_mem {i : Identifier} {c : Char} (h : c ∈ i.ns.toList) : NamespaceLetter c :=
  isNamespaceChar_iff.1 ((IdentifierFault.find?_eq_none_iff.1 i.faultless).1.2 c h)

theorem pathLetter_of_mem {i : Identifier} {c : Char} (h : c ∈ i.path.toList) : PathLetter c :=
  isPathChar_iff.1 ((IdentifierFault.find?_eq_none_iff.1 i.faultless).2.2 c h)

theorem plain_ns (i : Identifier) : Plain i.ns :=
  fun _ hc => toNat_lt_of_pathLetter (.inl (namespaceLetter_of_mem hc))

theorem plain_path (i : Identifier) : Plain i.path :=
  fun _ hc => toNat_lt_of_pathLetter (pathLetter_of_mem hc)

theorem plain_text (i : Identifier) : Plain i.text := by
  intro c hc
  rw [toList_text, List.mem_append, List.mem_cons] at hc
  rcases hc with hns | rfl | hpath
  · exact i.plain_ns c hns
  · decide
  · exact i.plain_path c hpath

/-- The order is that of the bytes of the namespaces, and then of the paths. -/
theorem compare_eq_bytes (a b : Identifier) :
    compare a b = (compareBytes a.ns b.ns).then (compareBytes a.path b.path) := by
  rw [Text.compareBytes_eq a.plain_ns b.plain_ns, Text.compareBytes_eq a.plain_path b.plain_path]
  rfl

/-- The slices that are cut at the stored offset compare as the identifiers. -/
theorem compare?_pack (a b : Identifier) : a.pack.compare? b.pack = some (compare a b) := by
  obtain ⟨hns, hpath⟩ := a.slices_pack
  obtain ⟨hns', hpath'⟩ := b.slices_pack
  rw [Packed.compare?, hns, hns', hpath, hpath', compare_eq_bytes]
  cases h : compareBytes a.ns b.ns with
  | lt => simp [h]
  | eq => simp [h]
  | gt => simp [h]

end AttributeRegistry.Identifier
