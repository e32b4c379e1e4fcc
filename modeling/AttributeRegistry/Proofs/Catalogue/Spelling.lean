import AttributeRegistry.Proofs.Catalogue.Solitude
import AttributeRegistry.Proofs.Registry.Spelling

/-!
# Catalogues and spellings

A catalogue is asked for lookups by text, too, and it goes by the parts of the texts as registries do
(`keyed_by_parts`).

Only the references that it hands out tell how many other lookups there are.  Apart from them the answer
to a request and its events are told by the types of the first request with the same parts
(`Tracks.get_eq`).
-/

namespace AttributeRegistry

namespace Catalogue

variable {β V : Type}

/-! ## Calls by text -/

/-- The namespace and the path of the identifier that is named. -/
def Name.parts? : Name → Option (String × String)
  | .identifier id => some id.parts
  | .text s => Identifier.partsOf? s

/-- The call is a request for an identifier with these parts. -/
def Call.names (parts : String × String) : Call β V → Bool
  | .request name _ => name.parts? = some parts
  | .register .. => false

/-- The same call, or the same request by a text that may stand for the other. -/
inductive Call.Respells : Call β V → Call β V → Prop where
  | refl (call : Call β V) : Respells call call
  | request {a b : String} (h : Identifier.Respells a b) (types : Signature) :
    Respells (.request (.text a) types) (.request (.text b) types)

/-- What each call of a run does. -/
def effects (c : Catalogue β V) : List (Call β V) → List (Effect (Catalogue β V) (Answer β V))
  | [] => []
  | call :: run => c.perform call :: (c.perform call).state.effects run

theorem Name.parts?_eq_some_iff {name : Name} {p : String × String} :
    name.parts? = some p ↔ ∃ id, name.read = .ok id ∧ id.parts = p := by
  cases name with
  | identifier id => simp [parts?, read]
  | text s => exact Identifier.partsOf?_eq_some_iff

/-! ## Other spellings -/

/-- A call goes by the reading of its text. -/
theorem perform_congr (c : Catalogue β V) {x y : Call β V} (h : x.Respells y) :
    c.perform x = c.perform y := by
  cases h with
  | refl => rfl
  | request h types =>
      rw [perform, perform, request, request, getNamed, getNamed, Identifier.parse_congr h]

/-- A run goes by the readings of its texts. -/
theorem effects_congr (c : Catalogue β V) {run run' : List (Call β V)}
    (h : List.Forall₂ Call.Respells run run') : c.effects run = c.effects run' := by
  induction h generalizing c with
  | nil => rfl
  | cons hx _ ih => rw [effects, effects, perform_congr c hx, ih]

/-! ## Requests with different parts -/

theorem label_after (c : Catalogue β V) (run : List (Call β V)) :
    (c.after run).registry.label = c.registry.label := by
  induction run generalizing c with
  | nil => rfl
  | cons call run ih =>
      have hcall := label_respond (C := Unit) (fun _ _ _ => none) c (.call call)
      exact (ih (c.perform call).state).trans hcall

/-- A call that asks for an identifier is a request with its parts. -/
theorem Call.names_of_wanted {call : Call β V} {id : Identifier}
    (h : call.wanted?.any (fun q => q.1 == id) = true) : call.names id.parts = true := by
  obtain ⟨q, hq, hid⟩ := (Option.any_eq_true _ _).1 h
  cases call with
  | register ref r => cases hq
  | request name types =>
      -- the call asks for what its name is read as
      rw [names, decide_eq_true_iff, Name.parts?_eq_some_iff]
      rw [wanted?] at hq
      cases hread : name.read with
      | error e =>
          rw [hread] at hq
          cases hq
      | ok named =>
          rw [hread] at hq
          cases hq
          exact ⟨named, rfl, congrArg Identifier.parts (eq_of_beq hid)⟩

/-- The first request for an identifier is found among the requests with its parts. -/
theorem firstTypes_filter (run : List (Call β V)) (id : Identifier) :
    firstTypes (run.filter (Call.names id.parts)) id = firstTypes run id := by
  have hwanted (call : Call β V) :
      decide (call.names id.parts = true ∧ (call.wanted?.any fun q => q.1 == id) = true) =
        call.wanted?.any fun q => q.1 == id := by
    rw [Bool.eq_iff_iff, decide_eq_true_iff, and_iff_right_iff_imp]
    exact Call.names_of_wanted
  unfold firstTypes wanted
  rw [List.find?_filterMap, List.find?_filterMap, List.find?_filter]
  simp only [hwanted]

section

variable {c : Catalogue β V} {run : List (Call β V)} {h : List (Answered β V)}
  {shelf : List (ItemLookup β V)}

/-- What a request gets and reports, as the run has it.  The first request for an identifier makes its
lookup and reports it; a later one gets the lookup or a conflict, by the types of the first. -/
theorem Tracks.get_eq (ht : Tracks run h shelf) (hholds : Holds c shelf) (id : Identifier)
    (types : Signature) :
    ((c.get id types).answer.map (fun _ => ()) = match firstTypes run id with
      | some first =>
        if first == types then .ok () else .error (.typeConflict ⟨id, first, types⟩)
      | none => .ok ()) ∧
    (c.get id types).events = match firstTypes run id with
      | some _ => []
      | none => [.creatingLookup c.registry.label id types] := by
  rcases exists_place_or_forall_ne shelf id with ⟨i, l, hl, rfl⟩ | hnew
  · rw [ht.firstTypes_of_getElem? hholds hl, (hholds.get_of_getElem? hl types).2, events_get,
      hholds.get?_of_getElem? hl, if_neg (Option.some_ne_none _)]
    refine ⟨?_, rfl⟩
    show Except.map _ _ = if l.types == types then _ else _
    split
    · rfl
    · rfl
  · rw [ht.firstTypes_of_forall_ne hnew, (hholds.get_of_forall_ne hnew types).2, events_get,
      hholds.get?_of_forall_ne hnew, if_pos rfl]
    exact ⟨rfl, rfl⟩

end

/-! ## What a request reaches -/

/-- A lookup stays at its place in any run, with its identifier. -/
theorem Holds.kept_after {c : Catalogue β V} {shelf : List (ItemLookup β V)} (h : Holds c shelf)
    {i : ℕ} {l : ItemLookup β V} (hl : shelf[i]? = some l) (run : List (Call β V)) :
    ∃ shelf' l', Holds (c.after run) shelf' ∧ shelf'[i]? = some l' ∧ l'.id = l.id := by
  induction run generalizing c shelf l with
  | nil => exact ⟨shelf, l, h, hl, rfl⟩
  | cons call run ih =>
      obtain ⟨mid, ho, hmid⟩ := h.perform call
      obtain ⟨m, hm, hid⟩ := ho.kept hl
      obtain ⟨shelf', l', hholds, hl', hid'⟩ := ih hmid hm
      exact ⟨shelf', l', hholds, hl', hid'.trans hid⟩

/-- A request that is given a lookup finds it listed under the parts that it named, at the place that
its reference tells, and there it stays. -/
theorem Holds.exists_entry {c : Catalogue β V} {shelf : List (ItemLookup β V)} (h : Holds c shelf)
    {name : Name} {types : Signature} {ref : LookupRef}
    (href : (c.request name types).answer = .ok ref) (rest : List (Call β V)) :
    ∃ parts entry, name.parts? = some parts ∧
      (c.after (.request name types :: rest)).entries[ref.index]? = some entry ∧
        entry.id.parts = parts := by
  obtain ⟨mid, ho, hmid⟩ := h.perform (.request name types)
  have hanswer : (c.perform (.request name types)).answer = .lookup (.ok ref) :=
    congrArg Answer.lookup href
  rw [hanswer] at ho
  -- a lookup that is handed out was found at its place or is made there
  have hlisted : ∃ l, mid[ref.index]? = some l ∧ name.read = .ok l.id := by
    cases ho with
    | found hl hname _ => exact ⟨_, hl, hname⟩
    | made hnew hname => exact ⟨_, List.getElem?_concat_length, hname⟩
  obtain ⟨l, hl, hname⟩ := hlisted
  obtain ⟨shelf', l', hholds, hl', hid⟩ := hmid.kept_after hl rest
  refine ⟨l.id.parts, ⟨l'.id, l'.types⟩, Name.parts?_eq_some_iff.2 ⟨l.id, hname, rfl⟩, ?_, ?_⟩
  · show (Catalogue.after _ rest).entries[ref.index]? = _
    rw [hholds.entries_eq_map, List.getElem?_map, hl']
    rfl
  · rw [hid]

/-- Catalogues go by the parts that texts come to. -/
structure KeyedByParts (β V : Type) : Prop where
  /-- Texts that may stand for each other make no difference to what any call of a run does. -/
  respelled : ∀ (c : Catalogue β V) (run run' : List (Call β V)),
    List.Forall₂ Call.Respells run run' → c.effects run = c.effects run'
  /-- Registrations, and requests with other parts or with none, make no difference to a request, but for
  the place of the lookup that it is given. -/
  alone : ∀ (run : List (Call β V)) (name : Name) (types : Signature) (parts : String × String),
    name.parts? = some parts →
      let e := (empty.after run).request name types
      let e' := (empty.after (run.filter (Call.names parts))).request name types
      e'.answer.map (fun _ => ()) = e.answer.map (fun _ => ()) ∧ e'.events = e.events
  /-- A lookup that is handed out is listed from then on at its place, under the parts that it was asked
  for by. -/
  reached : ∀ (run : List (Call β V)) (name : Name) (types : Signature) (ref : LookupRef),
    ((empty.after run).request name types).answer = .ok ref →
      ∀ rest, ∃ parts entry, name.parts? = some parts ∧
        (empty.after (run ++ .request name types :: rest)).entries[ref.index]? = some entry ∧
          entry.id.parts = parts
  /-- Different parts are listed at different places, and the same parts at one. -/
  separate : ∀ (run : List (Call β V)) (m n : ℕ) (e f : Entry),
    (empty.after run).entries[m]? = some e → (empty.after run).entries[n]? = some f →
      (m = n ↔ e.id.parts = f.id.parts)

theorem keyedByParts : KeyedByParts β V := by
  refine ⟨fun c run run' h => c.effects_congr h, ?_, ?_, ?_⟩
  · intro run name types parts hparts e e'
    obtain ⟨id, hname, rfl⟩ := Name.parts?_eq_some_iff.1 hparts
    obtain ⟨shelf, hholds, ht⟩ := Tracks.after Holds.empty (Tracks.empty (β := β) (V := V)) run
    obtain ⟨shelf', hholds', ht'⟩ := Tracks.after Holds.empty (Tracks.empty (β := β) (V := V))
      (run.filter (Call.names id.parts))
    have he : e = (empty.after run).get id types := request_of_read hname types
    have he' : e' = (empty.after (run.filter (Call.names id.parts))).get id types :=
      request_of_read hname types
    obtain ⟨hanswer, hevents⟩ := ht.get_eq hholds id types
    obtain ⟨hanswer', hevents'⟩ := ht'.get_eq hholds' id types
    rw [List.nil_append, firstTypes_filter] at hanswer' hevents'
    rw [List.nil_append] at hanswer hevents
    rw [label_after] at hevents hevents'
    rw [he, he', hanswer, hanswer', hevents, hevents']
    exact ⟨rfl, rfl⟩
  · intro run name types ref href rest
    obtain ⟨shelf, hholds, -⟩ := Tracks.after Holds.empty (Tracks.empty (β := β) (V := V)) run
    have happend : (empty : Catalogue β V).after (run ++ .request name types :: rest) =
        ((empty.after run).after (.request name types :: rest)) := List.foldl_append
    rw [happend]
    exact hholds.exists_entry href rest
  · intro run m n e f he hf
    obtain ⟨shelf, hholds, -⟩ := Tracks.after Holds.empty (Tracks.empty (β := β) (V := V)) run
    rw [hholds.entries_eq_map, List.getElem?_map] at he hf
    obtain ⟨l, hl, rfl⟩ := Option.map_eq_some_iff.1 he
    obtain ⟨l', hl', rfl⟩ := Option.map_eq_some_iff.1 hf
    constructor
    · rintro rfl
      rw [Option.some.inj (hl.symm.trans hl')]
    · intro hparts
      exact hholds.place_unique hl hl' (Identifier.parts_injective hparts)

end Catalogue

/-- Lookups are kept by the namespace and the path that a text comes to.

Texts with the same parts are packed alike, down to the offset.  What a text is packed as is found and
inserted, by the hash and the comparison of packed texts, as the identifier that the text names.

So a registry and a catalogue cannot tell such texts from each other, and texts with different parts
have nothing to do with each other: no call with the one changes what a call with the other answers or
reports, conflicts included, and the lookups that they are given are listed at different places. -/
theorem keyed_by_parts (ε L β V R : Type) :
    (∀ (a b : String) (parts : String × String), Identifier.partsOf? a = some parts →
      Identifier.partsOf? b = some parts → ∃ p, Packed.parse a = .ok p ∧ Packed.parse b = .ok p) ∧
    (∀ (t : Table Identifier R) (text : String) (p : Packed), Packed.parse text = .ok p →
      ∃ i, Identifier.parse text = .ok i ∧ p.parts? = some i.parts ∧
        (t.carry Identifier.packing id).getHashed (hash p) (· == p) = t.get? i ∧
        ∀ r, (t.carry Identifier.packing id).insert p r =
          (t.insert i r).carry Identifier.packing id) ∧
    (∀ r : Registry L, r.KeyedByParts ε) ∧ Catalogue.KeyedByParts β V := by
  refine ⟨?_, ?_, fun r => r.keyedByParts, Catalogue.keyedByParts⟩
  · intro a b parts ha hb
    obtain ⟨i, hi, -⟩ := Identifier.partsOf?_eq_some_iff.1 ha
    have hpacked := Identifier.packed_congr (Or.inr ⟨parts, ha, hb⟩)
    rw [Packed.parse_eq a, hi] at hpacked
    exact ⟨i.pack, by rw [Packed.parse_eq, hi]; rfl, hpacked.symm⟩
  · intro t text p hp
    exact Identifier.packed_key t hp

/-- One identifier is spelled in three ways in the first run and in one way in the second. -/
theorem keyed_by_parts_coal :
    let types : Signature := ⟨⟨1, "Fuel"⟩, ⟨2, "()"⟩⟩
    let others : Signature := ⟨⟨3, "Heat"⟩, ⟨2, "()"⟩⟩
    let call (text : String) (types : Signature) : Catalogue.Call Unit Unit :=
      .request (.text text) types
    let mixed := [call "coal" types, call ":coal" others, call "minecraft:coal" types]
    let plain := [call "coal" types, call "coal" others, call "coal" types]
    List.Forall₂ Catalogue.Call.Respells mixed plain ∧
      Catalogue.empty.effects mixed = Catalogue.empty.effects plain := by
  intro types others call mixed plain
  let coal : Identifier := ⟨"minecraft", "coal", by decide⟩
  have hpath : Identifier.partsOf? "coal" = some coal.parts :=
    Identifier.partsOf?_of_parse (Identifier.parse_eq_ok_iff.2 (Or.inr ⟨rfl, Or.inl rfl⟩))
  have hcolon : Identifier.partsOf? ":coal" = some coal.parts :=
    Identifier.partsOf?_of_parse (Identifier.parse_eq_ok_iff.2 (Or.inr ⟨rfl, Or.inr rfl⟩))
  have hfull : Identifier.partsOf? "minecraft:coal" = some coal.parts :=
    Identifier.partsOf?_of_parse (Identifier.parse_eq_ok_iff.2 (Or.inl rfl))
  have hrespells : List.Forall₂ Catalogue.Call.Respells mixed plain :=
    .cons (.refl _) (.cons (.request (.inr ⟨_, hcolon, hpath⟩) others)
      (.cons (.request (.inr ⟨_, hfull, hpath⟩) types) .nil))
  exact ⟨hrespells, (keyed_by_parts Unit Unit Unit Unit Unit).2.2.2.respelled .empty mixed plain
    hrespells⟩

end AttributeRegistry
