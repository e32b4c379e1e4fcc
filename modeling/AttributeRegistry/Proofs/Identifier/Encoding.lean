import Mathlib.Data.Set.Insert
import AttributeRegistry.Identifier.Packed
import AttributeRegistry.Proofs.Identifier.Reading

/-!
# The canonical text as an encoding

The text of an identifier tells its two parts, because the one colon in it stands between them: both
parts can be cut out of the packed text, reading the text gives the identifier back, and no other text
does so unless the namespace is the default one (`Identifier.canonical`).

Packing fills the offset in three places, one for each way in which a text names an identifier, and in
each of them it is the offset of that colon (`Packed.parse_eq`).
-/

namespace AttributeRegistry

/-! ## The alphabets -/

/-- A lower-case letter, a digit, an underscore, a dot or a hyphen. -/
def NamespaceLetter (c : Char) : Prop :=
  ('a' ≤ c ∧ c ≤ 'z') ∨ ('0' ≤ c ∧ c ≤ '9') ∨ c ∈ ['_', '.', '-']

/-- The same, or a slash. -/
def PathLetter (c : Char) : Prop := NamespaceLetter c ∨ c = '/'

theorem isNamespaceChar_iff {c : Char} : isNamespaceChar c = true ↔ NamespaceLetter c := by
  have hlower : c.isLower = (decide ('a' ≤ c) && decide (c ≤ 'z')) := rfl
  have hdigit : c.isDigit = (decide ('0' ≤ c) && decide (c ≤ '9')) := rfl
  simp [isNamespaceChar, NamespaceLetter, hlower, hdigit, or_assoc]

theorem isPathChar_iff {c : Char} : isPathChar c = true ↔ PathLetter c := by
  simp [isPathChar, PathLetter, isNamespaceChar_iff]

/-! ## Packing -/

namespace Packed

/-- A text that starts with `s` may be cut behind it. -/
theorem exists_pos?_append (s t : String) :
    ∃ pos : (s ++ t).Pos, (s ++ t).pos? ⟨s.utf8ByteSize⟩ = some pos ∧ pos.Splits s t := by
  have hvalid : String.Pos.Raw.IsValid (s ++ t) ⟨s.utf8ByteSize⟩ :=
    String.Pos.Raw.isValid_iff_exists_append.2 ⟨s, t, rfl, rfl⟩
  refine ⟨⟨_, hvalid⟩, ?_, ⟨rfl, rfl⟩⟩
  have hslice := String.Pos.Raw.isValidForSlice_toSlice_iff.2 hvalid
  rw [String.pos?, String.Slice.pos?, dif_pos (String.Pos.Raw.isValidForSlice_eq_true_iff.2 hslice)]
  rfl

theorem ns?_eq {p : Packed} {s t : String} (hfull : p.full = s ++ t)
    (hsplit : p.split = s.utf8ByteSize) : p.ns? = some s := by
  obtain ⟨pos, hpos, hcut⟩ := exists_pos?_append s t
  rw [ns?, hfull, hsplit, hpos, Option.map_some, hcut.copy_sliceTo_eq]

theorem path?_eq {p : Packed} {s t : String} (hfull : p.full = s ++ t)
    (hsplit : p.split + 1 = s.utf8ByteSize) : p.path? = some t := by
  obtain ⟨pos, hpos, hcut⟩ := exists_pos?_append s t
  rw [path?, hfull, hsplit, hpos, Option.map_some, hcut.copy_sliceFrom_eq]

/-- A check of a joined text packs the identifier that it finds. -/
theorem new_eq (ns path : String) :
    new ns path = (Identifier.new ns path).map Identifier.pack := by
  unfold new check Identifier.new
  cases h : IdentifierFault.find? ns path with
  | some fault =>
      rw [Identifier.check_of_some h]
      rfl
  | none =>
      rw [Identifier.check_of_none h]
      rfl

/-- A joined text is packed in place of `text`, and faults are reported against `text`. -/
theorem new_mapError (text ns path : String) :
    (new ns path).mapError (fun e => { e with text }) =
      (Identifier.check text ns path).map Identifier.pack := by
  rw [new_eq, Identifier.new, ← Identifier.check_mapError (ns ++ ":" ++ path) text]
  cases Identifier.check (ns ++ ":" ++ path) ns path <;> rfl

/-- Each way to read a text packs the identifier that is read. -/
theorem parse_eq (text : String) : parse text = (Identifier.parse text).map Identifier.pack := by
  obtain hcolon | ⟨path, rfl⟩ | ⟨ns, path, hne, hcolon, rfl⟩ := Identifier.spelling_cases text
  · rw [Identifier.parse_of_notMem hcolon, ← new_mapError, parse,
      Identifier.splitColon_of_notMem hcolon]
  · have hsplit : Identifier.splitColon (":" ++ path).toList = ([], some path.toList) := by
      rw [String.toList_append]
      exact Identifier.splitColon_append List.not_mem_nil _
    rw [Identifier.parse_colon, ← new_mapError, parse, hsplit]
    simp only [String.ofList_toList]
  · have hsplit : Identifier.splitColon (ns ++ ":" ++ path).toList =
        (ns.toList, some path.toList) := by
      rw [String.toList_append, String.toList_append, List.append_assoc]
      exact Identifier.splitColon_append hcolon _
    have hnew : check (ns ++ ":" ++ path) ns path =
        (Identifier.check (ns ++ ":" ++ path) ns path).map Identifier.pack := new_eq ns path
    rw [Identifier.parse_append hne hcolon, parse, hsplit]
    cases hns : ns.toList with
    | nil => exact absurd (String.toList_inj.1 hns) hne
    | cons c cs => simpa only [← hns, String.ofList_toList] using hnew

theorem ofDatum_eq (d : Datum) : ofDatum d = (Identifier.ofDatum d).map Identifier.pack := by
  cases d with
  | text s =>
      rw [ofDatum, Identifier.ofDatum, parse_eq]
      cases Identifier.parse s with
      | ok i => rfl
      | error e => rfl
  | other d => rfl

end Packed

/-! ## The encoding -/

namespace Identifier

/-- The text of an identifier encodes it, and exactly it. -/
structure Canonical (i : Identifier) : Prop where
  /-- The packed text is the namespace, a colon and the path. -/
  full_pack : i.pack.full = i.ns ++ ":" ++ i.path
  /-- There is no other colon in it. -/
  count_colon : i.text.toList.count ':' = 1
  ns_written : i.ns ≠ "" ∧ ∀ c ∈ i.ns.toList, NamespaceLetter c
  path_written : i.path ≠ "" ∧ ∀ c ∈ i.path.toList, PathLetter c
  /-- Both parts can be cut out of it at the offset that is packed with it. -/
  slices_pack : i.pack.ns? = some i.ns ∧ i.pack.path? = some i.path
  /-- What is written is read back. -/
  parse_text : parse i.text = .ok i
  ofDatum_toDatum : ofDatum i.toDatum = .ok i
  /-- Equality of texts is equality of both parts, packed or not. -/
  beq_iff : ∀ j, ((i == j) = true ↔ i.ns = j.ns ∧ i.path = j.path) ∧
    ((i.pack == j.pack) = true ↔ i.ns = j.ns ∧ i.path = j.path)
  /-- The texts that are read as the identifier. -/
  spellings : {text | parse text = .ok i} =
    if i.ns = "minecraft" then {i.text, i.path, ":" ++ i.path} else {i.text}
  /-- They are three different texts. -/
  spellings_distinct : i.ns = "minecraft" → [i.text, i.path, ":" ++ i.path].Nodup

theorem count_colon_text (i : Identifier) : i.text.toList.count ':' = 1 := by
  rw [toList_text, List.count_append, List.count_cons_self,
    List.count_eq_zero_of_not_mem i.colon_notMem_ns, List.count_eq_zero_of_not_mem i.colon_notMem_path]

theorem beq_iff_parts {i j : Identifier} : (i == j) = true ↔ i.ns = j.ns ∧ i.path = j.path := by
  rw [beq_iff_eq]
  constructor
  · rintro rfl
    exact ⟨rfl, rfl⟩
  · rintro ⟨hns, hpath⟩
    cases i
    cases j
    cases hns
    cases hpath
    rfl

theorem slices_pack (i : Identifier) : i.pack.ns? = some i.ns ∧ i.pack.path? = some i.path := by
  constructor
  · refine Packed.ns?_eq (t := ":" ++ i.path) ?_ rfl
    rw [pack, text, String.append_assoc]
  · refine Packed.path?_eq (s := i.ns ++ ":") rfl ?_
    rw [String.utf8ByteSize_append]
    rfl

/-- The three texts differ in how many characters stand before the first colon. -/
theorem nodup_spellings (i : Identifier) : [i.text, i.path, ":" ++ i.path].Nodup := by
  have hcolon : ':' ∈ i.text.toList := by simp [toList_text]
  have hpath : i.text ≠ i.path := fun h => i.colon_notMem_path (h ▸ hcolon)
  have hfront : i.text ≠ ":" ++ i.path := by
    intro h
    have hsplit := congrArg (splitColon ∘ String.toList) h
    simp only [Function.comp_apply, splitColon_text, String.toList_append] at hsplit
    rw [show ":".toList ++ i.path.toList = [] ++ ':' :: i.path.toList from rfl,
      splitColon_append List.not_mem_nil, Prod.mk.injEq] at hsplit
    exact i.ns_ne_empty (String.toList_inj.1 hsplit.1)
  have hpath' : i.path ≠ ":" ++ i.path := by
    intro h
    refine i.colon_notMem_path ?_
    rw [h, String.toList_append]
    exact List.mem_cons_self
  simp [hpath, hfront, hpath']

/-- However an identifier comes about, it is packed as what it is; and its text encodes exactly it. -/
theorem canonical :
    (∀ ns path, Packed.new ns path = (new ns path).map pack) ∧
    (∀ text, Packed.parse text = (parse text).map pack) ∧
    (∀ d, Packed.ofDatum d = (ofDatum d).map pack) ∧
    ∀ i : Identifier, i.Canonical := by
  refine ⟨Packed.new_eq, Packed.parse_eq, Packed.ofDatum_eq, fun i => ?_⟩
  have hgrammar := IdentifierFault.find?_eq_none_iff.1 i.faultless
  refine ⟨rfl, i.count_colon_text, ?_, ?_, i.slices_pack, i.parse_text, ?_, ?_, ?_, fun _ =>
    i.nodup_spellings⟩
  · exact ⟨hgrammar.1.1, fun c hc => isNamespaceChar_iff.1 (hgrammar.1.2 c hc)⟩
  · exact ⟨hgrammar.2.1, fun c hc => isPathChar_iff.1 (hgrammar.2.2 c hc)⟩
  · rw [toDatum, ofDatum, Identifier.parse_text]
    rfl
  · exact fun j => ⟨beq_iff_parts, beq_iff_parts⟩
  · ext text
    rw [Set.mem_ofPred_eq, parse_eq_ok_iff]
    by_cases hns : i.ns = "minecraft"
    · rw [if_pos hns]
      simp [defaultNamespace, hns]
    · rw [if_neg hns]
      simp [defaultNamespace, hns]

end Identifier

end AttributeRegistry
