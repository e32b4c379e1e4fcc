import Mathlib.Data.List.TakeWhile
import AttributeRegistry.Identifier.Basic

/-!
# Reading identifiers

A text names an identifier in one of three ways: without a colon, with a colon in front, or with a
namespace before its first colon (`Identifier.spelling_cases`).  For each there is one equation that
says what `Identifier.parse` checks, and behind it nobody needs to know how a text is taken apart.
-/

namespace AttributeRegistry.Identifier

/-! ## Taking a text apart -/

theorem splitColon_of_notMem {cs : List Char} (h : ':' ∉ cs) : splitColon cs = (cs, none) := by
  have hne : ∀ c ∈ cs, (c != ':') = true := fun c hc => by
    simpa using fun heq : c = ':' => h (heq ▸ hc)
  rw [splitColon, List.takeWhile_eq_self_iff.2 hne, List.dropWhile_eq_nil_iff.2 hne]
  rfl

/-- A text has no colon, or it starts with one, or it has something without colons before its first
one. -/
theorem spelling_cases (text : String) :
    ':' ∉ text.toList ∨ (∃ path, text = ":" ++ path) ∨
      ∃ ns path, ns ≠ "" ∧ ':' ∉ ns.toList ∧ text = ns ++ ":" ++ path := by
  by_cases h : ':' ∈ text.toList
  · right
    obtain ⟨ns, path, hsplit, hns⟩ := List.eq_append_cons_of_mem h
    have htext : text = String.ofList ns ++ ":" ++ String.ofList path := by
      rw [← String.toList_inj]
      simp [String.toList_append, hsplit]
    by_cases hempty : ns = []
    · left
      refine ⟨String.ofList path, ?_⟩
      rw [htext, hempty]
      rfl
    · right
      refine ⟨String.ofList ns, String.ofList path, ?_, ?_, htext⟩
      · intro h
        rw [← String.toList_inj, String.toList_ofList] at h
        exact hempty h
      · rwa [String.toList_ofList]
  · exact Or.inl h

/-! ## What is checked -/

/-- A text without a colon is a path. -/
theorem parse_of_notMem {text : String} (h : ':' ∉ text.toList) :
    parse text = check text defaultNamespace text := by
  rw [parse, splitColon_of_notMem h]

/-- A text with a colon in front is a colon and a path. -/
theorem parse_colon (path : String) :
    parse (":" ++ path) = check (":" ++ path) defaultNamespace path := by
  have hsplit : splitColon (":" ++ path).toList = ([], some path.toList) := by
    rw [String.toList_append]
    exact splitColon_append List.not_mem_nil _
  rw [parse, hsplit]
  simp only [String.ofList_toList]

/-- A text with something before its first colon is a namespace, a colon and a path. -/
theorem parse_append {ns : String} (hne : ns ≠ "") (hcolon : ':' ∉ ns.toList) (path : String) :
    parse (ns ++ ":" ++ path) = check (ns ++ ":" ++ path) ns path := by
  have hsplit : splitColon (ns ++ ":" ++ path).toList = (ns.toList, some path.toList) := by
    rw [String.toList_append, String.toList_append, List.append_assoc]
    exact splitColon_append hcolon _
  rw [parse, hsplit]
  cases hns : ns.toList with
  | nil => exact absurd (String.toList_inj.1 hns) hne
  | cons c cs => simp only [← hns, String.ofList_toList]

/-! ## What comes of it -/

theorem check_of_some {ns path : String} {fault : IdentifierFault}
    (h : IdentifierFault.find? ns path = some fault) (text : String) :
    check text ns path = .error ⟨fault, text⟩ := by
  unfold check
  split
  · next other hother =>
    rw [h] at hother
    cases hother
    rfl
  · next hnone =>
    rw [h] at hnone
    cases hnone

theorem check_of_none {ns path : String} (h : IdentifierFault.find? ns path = none)
    (text : String) : check text ns path = .ok ⟨ns, path, h⟩ := by
  unfold check
  split
  · next fault hfault =>
    rw [h] at hfault
    cases hfault
  · rfl

/-- Faults are found in the parts, whatever the text is that they are reported against. -/
theorem check_mapError (text text' ns path : String) :
    (check text ns path).mapError (fun e => { e with text := text' }) = check text' ns path := by
  cases h : IdentifierFault.find? ns path with
  | some fault =>
      rw [check_of_some h, check_of_some h]
      rfl
  | none =>
      rw [check_of_none h, check_of_none h]
      rfl

/-- A check passes with the identifier that has the parts it was given, whatever the text. -/
theorem check_eq_ok_iff {text ns path : String} {i : Identifier} :
    check text ns path = .ok i ↔ i.ns = ns ∧ i.path = path := by
  constructor
  · intro h
    cases hfind : IdentifierFault.find? ns path with
    | some fault =>
        rw [check_of_some hfind] at h
        cases h
    | none =>
        rw [check_of_none hfind] at h
        cases h
        exact ⟨rfl, rfl⟩
  · rintro ⟨rfl, rfl⟩
    exact check_of_none i.faultless text

theorem ns_ne_empty (i : Identifier) : i.ns ≠ "" :=
  (IdentifierFault.find?_eq_none_iff.1 i.faultless).1.1

/-- The characters of a path exclude the colon. -/
theorem colon_notMem_path (i : Identifier) : ':' ∉ i.path.toList := fun h =>
  absurd ((IdentifierFault.find?_eq_none_iff.1 i.faultless).2.2 _ h) (by decide)

/-- The texts that name an identifier: its own text, and if its namespace is the default one, its path
with a colon in front or without. -/
theorem parse_eq_ok_iff {text : String} {i : Identifier} :
    parse text = .ok i ↔
      text = i.text ∨ i.ns = defaultNamespace ∧ (text = i.path ∨ text = ":" ++ i.path) := by
  constructor
  · intro h
    obtain hcolon | ⟨path, rfl⟩ | ⟨ns, path, hne, hcolon, rfl⟩ := spelling_cases text
    · rw [parse_of_notMem hcolon, check_eq_ok_iff] at h
      exact Or.inr ⟨h.1, Or.inl h.2.symm⟩
    · rw [parse_colon, check_eq_ok_iff] at h
      exact Or.inr ⟨h.1, Or.inr (by rw [h.2])⟩
    · rw [parse_append hne hcolon, check_eq_ok_iff] at h
      exact Or.inl (by rw [text, h.1, h.2])
  · rintro (rfl | ⟨hns, rfl | rfl⟩)
    · rw [text, parse_append i.ns_ne_empty i.colon_notMem_ns, check_eq_ok_iff]
      exact ⟨rfl, rfl⟩
    · rw [parse_of_notMem i.colon_notMem_path, check_eq_ok_iff]
      exact ⟨hns, rfl⟩
    · rw [parse_colon, check_eq_ok_iff]
      exact ⟨hns, rfl⟩

theorem parse_text (i : Identifier) : parse i.text = .ok i :=
  parse_eq_ok_iff.2 (Or.inl rfl)

end AttributeRegistry.Identifier
