import AttributeRegistry.Proofs.Identifier.Spelling

/-!
# The grammar of identifiers

What a text comes to is told in two steps.  It spells a namespace and a path (`Spells`), and about a
namespace and a path there is a verdict (`Verdict`): they are well formed, or there is one fault that is
named before all others.  Reading a text and joining two parts come back with the verdict and nothing else
(`grammar_exact`).

A fault is found in the parts and reported against the text as it was given, so the default namespace, which
is checked like any other, appears in no report.
-/

namespace AttributeRegistry.Identifier

/-! ## Verdicts -/

/-- The character `c` is no `letter`, and it is the first such in `s`. -/
def FirstForeign (letter : Char → Prop) (s : String) (c : Char) : Prop :=
  ∃ before after, s.toList = before ++ c :: after ∧ (∀ d ∈ before, letter d) ∧ ¬ letter c

/-- What is to be said of a namespace and a path, where faults are reported against `text`. -/
inductive Verdict (text ns path : String) : Except IdentifierError (String × String) → Prop where
  | emptyNamespace (hns : ns = "") : Verdict text ns path (.error ⟨.emptyNamespace, text⟩)
  | emptyPath (hns : ns ≠ "") (hpath : path = "") : Verdict text ns path (.error ⟨.emptyPath, text⟩)
  | namespaceChar (hns : ns ≠ "") (hpath : path ≠ "") {c : Char}
      (hc : FirstForeign NamespaceLetter ns c) :
      Verdict text ns path (.error ⟨.namespaceChar c, text⟩)
  | pathChar (hns : ns ≠ "") (hpath : path ≠ "") (hwritten : ∀ c ∈ ns.toList, NamespaceLetter c)
      {c : Char} (hc : FirstForeign PathLetter path c) :
      Verdict text ns path (.error ⟨.pathChar c, text⟩)
  | wellFormed (hns : ns ≠ "") (hpath : path ≠ "") (hwritten : ∀ c ∈ ns.toList, NamespaceLetter c)
      (hwritten' : ∀ c ∈ path.toList, PathLetter c) : Verdict text ns path (.ok (ns, path))

section Characters

variable {letter : Char → Prop} {allowed : Char → Bool} (h : ∀ {c}, allowed c = true ↔ letter c)
  {s : String} {c : Char}

include h

/-- A search for a character that is not allowed finds the first foreign one. -/
theorem find?_eq_some_iff_firstForeign :
    s.toList.find? (fun c => !allowed c) = some c ↔ FirstForeign letter s c := by
  have hletter (d : Char) : (!!allowed d) = true ↔ letter d := by rw [Bool.not_not, h]
  have hforeign : (!allowed c) = true ↔ ¬ letter c := by rw [Bool.not_eq_true', ← h, Bool.not_eq_true]
  simp only [List.find?_eq_some_iff_append, FirstForeign, hletter, hforeign]
  constructor
  · rintro ⟨hc, before, after, hsplit, hbefore⟩
    exact ⟨before, after, hsplit, hbefore, hc⟩
  · rintro ⟨before, after, hsplit, hbefore, hc⟩
    exact ⟨hc, before, after, hsplit, hbefore⟩

/-- It finds nothing in a text of letters. -/
theorem find?_eq_none_iff_letters :
    s.toList.find? (fun c => !allowed c) = none ↔ ∀ c ∈ s.toList, letter c := by
  simp only [List.find?_eq_none, Bool.not_eq_true', Bool.not_eq_false, h]

end Characters

variable {text ns path : String} {r : Except IdentifierError (String × String)}

/-- Of two parts that are not empty the characters are looked at, those of the namespace first. -/
theorem find?_of_ne (hns : ns ≠ "") (hpath : path ≠ "") :
    IdentifierFault.find? ns path =
      ((ns.toList.find? fun c => !isNamespaceChar c).map .namespaceChar).or
        ((path.toList.find? fun c => !isPathChar c).map .pathChar) := by
  rw [IdentifierFault.find?, if_neg (mt String.isEmpty_iff.1 hns),
    if_neg (mt String.isEmpty_iff.1 hpath)]
  cases ns.toList.find? fun c => !isNamespaceChar c with
  | some c => rfl
  | none => rfl

/-- A check comes back with the verdict. -/
theorem Verdict.check_eq (h : Verdict text ns path r) : (check text ns path).map parts = r := by
  cases h with
  | emptyNamespace hns =>
      have hfault : IdentifierFault.find? ns path = some .emptyNamespace := by
        rw [IdentifierFault.find?, if_pos (String.isEmpty_iff.2 hns)]
      rw [check_of_some hfault]
      rfl
  | emptyPath hns hpath =>
      have hfault : IdentifierFault.find? ns path = some .emptyPath := by
        rw [IdentifierFault.find?, if_neg (mt String.isEmpty_iff.1 hns),
          if_pos (String.isEmpty_iff.2 hpath)]
      rw [check_of_some hfault]
      rfl
  | @namespaceChar hns hpath c hc =>
      have hfault : IdentifierFault.find? ns path = some (.namespaceChar c) := by
        rw [find?_of_ne hns hpath, (find?_eq_some_iff_firstForeign isNamespaceChar_iff).2 hc]
        rfl
      rw [check_of_some hfault]
      rfl
  | @pathChar hns hpath hwritten c hc =>
      have hfault : IdentifierFault.find? ns path = some (.pathChar c) := by
        rw [find?_of_ne hns hpath, (find?_eq_none_iff_letters isNamespaceChar_iff).2 hwritten,
          (find?_eq_some_iff_firstForeign isPathChar_iff).2 hc]
        rfl
      rw [check_of_some hfault]
      rfl
  | wellFormed hns hpath hwritten hwritten' =>
      have hnone : IdentifierFault.find? ns path = none := by
        rw [find?_of_ne hns hpath, (find?_eq_none_iff_letters isNamespaceChar_iff).2 hwritten,
          (find?_eq_none_iff_letters isPathChar_iff).2 hwritten']
        rfl
      rw [check_of_none hnone]
      rfl

/-- About any two parts there is a verdict. -/
theorem exists_verdict (text ns path : String) : ∃ r, Verdict text ns path r := by
  by_cases hns : ns = ""
  · exact ⟨_, .emptyNamespace hns⟩
  by_cases hpath : path = ""
  · exact ⟨_, .emptyPath hns hpath⟩
  cases hfirst : ns.toList.find? (fun c => !isNamespaceChar c) with
  | some c =>
      exact ⟨_, .namespaceChar hns hpath ((find?_eq_some_iff_firstForeign isNamespaceChar_iff).1 hfirst)⟩
  | none =>
      have hwritten := (find?_eq_none_iff_letters isNamespaceChar_iff).1 hfirst
      cases hsecond : path.toList.find? (fun c => !isPathChar c) with
      | some c =>
          have hc := (find?_eq_some_iff_firstForeign isPathChar_iff).1 hsecond
          exact ⟨_, .pathChar hns hpath hwritten hc⟩
      | none =>
          have hwritten' := (find?_eq_none_iff_letters isPathChar_iff).1 hsecond
          exact ⟨_, .wellFormed hns hpath hwritten hwritten'⟩

theorem check_eq_iff_verdict : (check text ns path).map parts = r ↔ Verdict text ns path r := by
  constructor
  · rintro rfl
    obtain ⟨r, hr⟩ := exists_verdict text ns path
    rwa [hr.check_eq]
  · exact Verdict.check_eq

/-- A verdict is on the text that was given. -/
theorem Verdict.text_eq {e : IdentifierError} (h : Verdict text ns path (.error e)) : e.text = text := by
  cases h with
  | emptyNamespace hns => rfl
  | emptyPath hns hpath => rfl
  | namespaceChar hns hpath hc => rfl
  | pathChar hns hpath hwritten hc => rfl

/-! ## Spellings -/

/-- The text spells this namespace and this path: what stands before its first colon and what stands
behind it, or the default namespace if nothing stands before it or there is none. -/
inductive Spells (text : String) : String → String → Prop where
  | bare (hcolon : ':' ∉ text.toList) : Spells text "minecraft" text
  | front {path : String} (htext : text = ":" ++ path) : Spells text "minecraft" path
  | full {ns path : String} (hns : ns ≠ "") (hcolon : ':' ∉ ns.toList)
      (htext : text = ns ++ ":" ++ path) : Spells text ns path

theorem exists_spells (text : String) : ∃ ns path, Spells text ns path := by
  obtain hcolon | ⟨path, htext⟩ | ⟨ns, path, hns, hcolon, htext⟩ := spelling_cases text
  · exact ⟨_, _, .bare hcolon⟩
  · exact ⟨_, _, .front htext⟩
  · exact ⟨_, _, .full hns hcolon htext⟩

/-- What is checked of a text is what it spells. -/
theorem Spells.parse_eq (h : Spells text ns path) : parse text = check text ns path := by
  cases h with
  | bare hcolon => exact parse_of_notMem hcolon
  | front htext =>
      rw [htext]
      exact parse_colon path
  | full hns hcolon htext =>
      rw [htext]
      exact parse_append hns hcolon path

theorem Spells.ns_ne_empty (h : Spells text ns path) : ns ≠ "" := by
  cases h with
  | bare hcolon => decide
  | front htext => decide
  | full hns hcolon htext => exact hns

theorem parse_eq_iff_verdict :
    (parse text).map parts = r ↔ ∃ ns path, Spells text ns path ∧ Verdict text ns path r := by
  constructor
  · intro h
    obtain ⟨ns, path, hspells⟩ := exists_spells text
    rw [hspells.parse_eq] at h
    exact ⟨ns, path, hspells, check_eq_iff_verdict.1 h⟩
  · rintro ⟨ns, path, hspells, hverdict⟩
    rw [hspells.parse_eq]
    exact hverdict.check_eq

/-! ## Reading and joining -/

/-- The parts of what is packed are the parts of the identifier. -/
theorem map_parts?_pack (r : Except IdentifierError Identifier) :
    (r.map pack).map Packed.parts? = (r.map parts).map some := by
  cases r with
  | ok i => exact congrArg Except.ok i.parts?_pack
  | error e => rfl

/-- Two parts that are joined, whatever they are, come back with the verdict about them, reported against
the joined text.  A text, whatever it is, comes back with the verdict about the parts that it spells,
reported against the text itself; and never is it that the namespace is empty.  What is packed comes back
with the same, fault for fault and part for part. -/
theorem grammar_exact :
    (∀ ns path r, (new ns path).map parts = r ↔ Verdict (ns ++ ":" ++ path) ns path r) ∧
    (∀ text r, (parse text).map parts = r ↔
      ∃ ns path, Spells text ns path ∧ Verdict text ns path r) ∧
    (∀ ns path e, new ns path = .error e → e.text = ns ++ ":" ++ path) ∧
    (∀ text e, parse text = .error e → e.text = text ∧ e.fault ≠ .emptyNamespace) ∧
    (∀ ns path, (Packed.new ns path).map Packed.parts? = ((new ns path).map parts).map some) ∧
    ∀ text, (Packed.parse text).map Packed.parts? = ((parse text).map parts).map some := by
  refine ⟨fun ns path r => check_eq_iff_verdict, fun text r => parse_eq_iff_verdict, ?_, ?_, ?_, ?_⟩
  · intro ns path e h
    have hverdict : Verdict (ns ++ ":" ++ path) ns path (.error e) :=
      check_eq_iff_verdict.1 (congrArg (Except.map parts) h)
    exact hverdict.text_eq
  · intro text e h
    obtain ⟨ns, path, hspells, hverdict⟩ := parse_eq_iff_verdict.1 (congrArg (Except.map parts) h)
    refine ⟨hverdict.text_eq, ?_⟩
    intro hempty
    cases hverdict with
    | emptyNamespace hns => exact hspells.ns_ne_empty hns
    | emptyPath hns hpath => cases hempty
    | namespaceChar hns hpath hc => cases hempty
    | pathChar hns hpath hwritten hc => cases hempty
  · intro ns path
    rw [Packed.new_eq, map_parts?_pack]
  · intro text
    rw [Packed.parse_eq, map_parts?_pack]

/-- A report has no namespace that the text has not. -/
example : Packed.parse ":fu el" = .error ⟨.pathChar ' ', ":fu el"⟩ := by rfl

end AttributeRegistry.Identifier
