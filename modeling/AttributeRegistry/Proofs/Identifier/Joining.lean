import AttributeRegistry.Proofs.Identifier.Spelling

/-!
# Joining and reading

An identifier comes from two parts, which are joined, or from a text, which is read.  The joined text of
two parts is read as they are joined, result for result and fault for fault, as long as it is taken apart
where it was put together (`joins_as_read`).

It is not if a colon stands in the namespace or nothing does.  A colon in the namespace is refused either
way: reading moves it to the path, where it is as foreign.  A namespace that is left out is a fault of two
parts, while a text without it has the default one.
-/

namespace AttributeRegistry

/-- The text in which two parts are joined is read as they are joined. -/
structure JoinsAsRead {α : Type} (join : String → String → Except IdentifierError α)
    (read : String → Except IdentifierError α) : Prop where
  /-- Both succeed together, and with the same. -/
  ok_iff : ∀ ns path, ns ≠ "" → ∀ a, join ns path = .ok a ↔ read (ns ++ ":" ++ path) = .ok a
  /-- Without a colon in the namespace they fail together too, and for the same reason. -/
  eq_of_notMem : ∀ ns path, ns ≠ "" → ':' ∉ ns.toList → read (ns ++ ":" ++ path) = join ns path
  error_of_mem : ∀ ns path, ':' ∈ ns.toList →
    (∃ e, join ns path = .error e) ∧ ∃ e, read (ns ++ ":" ++ path) = .error e
  join_empty : ∀ path, join "" path = .error ⟨.emptyNamespace, ":" ++ path⟩
  /-- A text with nothing before its colon is read as its rest is joined to the default namespace, but
  the report is about the text. -/
  read_colon : ∀ path,
    read (":" ++ path) = (join "minecraft" path).mapError fun e => { e with text := ":" ++ path }

/-- What is made of the results leaves them in agreement. -/
theorem JoinsAsRead.map {α β : Type} {join : String → String → Except IdentifierError α}
    {read : String → Except IdentifierError α} (h : JoinsAsRead join read) (f : α → β) :
    JoinsAsRead (fun ns path => (join ns path).map f) fun text => (read text).map f := by
  have hok {r : Except IdentifierError α} {b : β} : r.map f = .ok b ↔ ∃ a, r = .ok a ∧ f a = b := by
    cases r <;> simp [Except.map]
  refine ⟨fun ns path hns b => ?_, fun ns path hns hcolon => ?_, fun ns path hcolon => ?_,
    fun path => ?_, fun path => ?_⟩
  · simp only [hok, h.ok_iff ns path hns]
  · rw [h.eq_of_notMem ns path hns hcolon]
  · obtain ⟨⟨e, he⟩, e', he'⟩ := h.error_of_mem ns path hcolon
    exact ⟨⟨e, by rw [he]; rfl⟩, e', by rw [he']; rfl⟩
  · rw [h.join_empty]
    rfl
  · rw [h.read_colon]
    cases join "minecraft" path <;> rfl

namespace Identifier

theorem parts_of_new {ns path : String} {i : Identifier} (h : new ns path = .ok i) :
    i.ns = ns ∧ i.path = path :=
  check_eq_ok_iff.1 h

/-- No text with two colons is read. -/
theorem count_colon_of_parse {text : String} {i : Identifier} (h : parse text = .ok i) :
    text.toList.count ':' ≤ 1 := by
  have hpath : i.path.toList.count ':' = 0 := List.count_eq_zero_of_not_mem i.colon_notMem_path
  rcases parse_eq_ok_iff.1 h with rfl | ⟨-, rfl | rfl⟩
  · exact i.count_colon_text.le
  · omega
  · rw [String.toList_append, List.count_append, hpath]
    decide

theorem new_of_mem_colon {ns : String} (h : ':' ∈ ns.toList) (path : String) (i : Identifier) :
    new ns path ≠ .ok i := by
  intro hnew
  rw [← (parts_of_new hnew).1] at h
  exact i.colon_notMem_ns h

/-- A colon in the namespace is a second one in the joined text. -/
theorem parse_of_mem_colon {ns : String} (h : ':' ∈ ns.toList) (path : String) (i : Identifier) :
    parse (ns ++ ":" ++ path) ≠ .ok i := by
  intro hparse
  have hcount := count_colon_of_parse hparse
  have hns : 1 ≤ ns.toList.count ':' := List.one_le_count_iff.2 h
  have hcolon : ":".toList.count ':' = 1 := rfl
  rw [String.toList_append, String.toList_append, List.count_append, List.count_append] at hcount
  omega

theorem joinsAsRead : JoinsAsRead new parse := by
  have herror {r : Except IdentifierError Identifier} (h : ∀ i, r ≠ .ok i) : ∃ e, r = .error e := by
    cases r with
    | ok i => exact absurd rfl (h i)
    | error e => exact ⟨e, rfl⟩
  have heq (ns path : String) (hns : ns ≠ "") (hcolon : ':' ∉ ns.toList) :
      parse (ns ++ ":" ++ path) = new ns path := parse_append hns hcolon path
  refine ⟨fun ns path hns i => ?_, heq, fun ns path hcolon => ?_, fun path => ?_, fun path => ?_⟩
  · by_cases hcolon : ':' ∈ ns.toList
    · exact iff_of_false (new_of_mem_colon hcolon path i) (parse_of_mem_colon hcolon path i)
    · rw [heq ns path hns hcolon]
  · exact ⟨herror (new_of_mem_colon hcolon path), herror (parse_of_mem_colon hcolon path)⟩
  · have hempty : IdentifierFault.find? "" path = some .emptyNamespace := rfl
    rw [new, check_of_some hempty, String.empty_append]
  · rw [parse_colon, new, check_mapError]
    rfl

/-- Joining two parts and reading their joined text agree for all parts, whether what comes of it is an
identifier or is packed; and the parts that come out are those that went in. -/
theorem joins_as_read :
    JoinsAsRead new parse ∧ JoinsAsRead Packed.new Packed.parse ∧
    (∀ ns path i, new ns path = .ok i → i.ns = ns ∧ i.path = path) ∧
    ∀ ns path p, Packed.new ns path = .ok p → p.ns? = some ns ∧ p.path? = some path := by
  refine ⟨joinsAsRead, ?_, fun ns path i => parts_of_new, fun ns path p hp => ?_⟩
  · rw [show Packed.new = fun ns path => (new ns path).map pack from
        funext fun ns => funext fun path => Packed.new_eq ns path,
      show Packed.parse = fun text => (parse text).map pack from funext Packed.parse_eq]
    exact joinsAsRead.map pack
  · rw [Packed.new_eq] at hp
    cases hnew : new ns path with
    | error e =>
        rw [hnew] at hp
        cases hp
    | ok i =>
        rw [hnew] at hp
        obtain rfl := Except.ok.inj hp
        obtain ⟨hns, hpath⟩ := parts_of_new hnew
        rw [← hns, ← hpath]
        exact i.slices_pack

end Identifier

end AttributeRegistry
