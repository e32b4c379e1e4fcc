import Mathlib.Data.List.Induction
import Mathlib.Data.List.Nodup
import AttributeRegistry.Proofs.Catalogue.Shelf
import AttributeRegistry.Proofs.ItemLookup.Consultation

/-!
# One lookup for each identifier

Requests and registrations come in any order, and the lookups that are handed out are used from
anywhere.  What a run makes of a catalogue is told by the run alone (`shared_after_empty`): who gets
a lookup and who is turned down depends on the first well-formed request for the identifier, all
holders of one identifier have one lookup, and whatever they see of it reflects every registration made
through any of them.

The proof follows the list of lookups that the catalogue holds.  `Outcome` is what a call can do to
that list, one constructor for each way it can go, and `Tracks` ties the list to the history: the
lookup at a place is a new one after the registrations that went through the place.
-/

namespace AttributeRegistry.Catalogue

variable {β V : Type}

/-! ## What a history says -/

/-- The identifier and the types that a call asks for, if it is a well-formed request. -/
def Call.wanted? : Call β V → Option (Identifier × Signature)
  | .request name types => name.read.toOption.map fun id => (id, types)
  | .register .. => none

/-- The well-formed requests of a run. -/
def wanted (run : List (Call β V)) : List (Identifier × Signature) :=
  run.filterMap Call.wanted?

/-- The types of the first well-formed request for `id`. -/
def firstTypes (run : List (Call β V)) (id : Identifier) : Option Signature :=
  ((wanted run).find? fun q => q.1 == id).map (·.2)

/-- Puts a request behind those before it, unless one of them is for the same identifier. -/
def addFirst (seen : List (Identifier × Signature)) (q : Identifier × Signature) :
    List (Identifier × Signature) :=
  if seen.any fun s => s.1 == q.1 then seen else seen ++ [q]

/-- The first request for each identifier, in order. -/
def firsts (requests : List (Identifier × Signature)) : List (Identifier × Signature) :=
  requests.foldl addFirst []

/-- The lookup that was handed out in answer to a request for `id`. -/
def Answered.handle? (id : Identifier) (e : Answered β V) : Option LookupRef :=
  match e.1.wanted?, e.2 with
  | some (i, _), .lookup (.ok ref) => if i = id then some ref else none
  | _, _ => none

/-- The lookups that were handed out for `id`, once for each request that got one. -/
def handles (h : List (Answered β V)) (id : Identifier) : List LookupRef :=
  h.filterMap (Answered.handle? id)

/-- The registration that was performed by a call, if its reference is among `refs`. -/
def Answered.registration? (refs : List LookupRef) (e : Answered β V) :
    Option (ItemLookup.Registration β V) :=
  match e with
  | (.register ref r, .registered _) => if ref ∈ refs then some r else none
  | _ => none

/-- The registrations that were performed through one of `refs`, in order. -/
def registrations (h : List (Answered β V)) (refs : List LookupRef) :
    List (ItemLookup.Registration β V) :=
  h.filterMap (Answered.registration? refs)

/-! ## One call -/

/-- What a call can come to: the lookups it leaves and its answer. -/
inductive Outcome (shelf : List (ItemLookup β V)) :
    Call β V → List (ItemLookup β V) → Answer β V → Prop where
  | malformed {name : Name} {types : Signature} {e : IdentifierError} : name.read = .error e →
    Outcome shelf (.request name types) shelf (.lookup (.error (.invalidArgument (.identifier e))))
  | found {name : Name} {types : Signature} {i : ℕ} {l : ItemLookup β V} : shelf[i]? = some l →
    name.read = .ok l.id → l.types.Agrees types →
    Outcome shelf (.request name types) shelf (.lookup (.ok ⟨i⟩))
  | conflict {name : Name} {types : Signature} {i : ℕ} {l : ItemLookup β V} : shelf[i]? = some l →
    name.read = .ok l.id → ¬ l.types.Agrees types →
    Outcome shelf (.request name types) shelf
      (.lookup (.error (.typeConflict ⟨l.id, l.types, types⟩)))
  | made {name : Name} {types : Signature} {id : Identifier} :
    (∀ l ∈ shelf, l.id ≠ id) →
    name.read = .ok id →
    Outcome shelf (.request name types) (shelf ++ [.new id types]) (.lookup (.ok ⟨shelf.length⟩))
  | registered {ref : LookupRef} {r : ItemLookup.Registration β V} {l : ItemLookup β V} :
    shelf[ref.index]? = some l →
    Outcome shelf (.register ref r) (shelf.set ref.index (l.register r).state)
      (.registered (l.register r).answer)
  | unknown {ref : LookupRef} {r : ItemLookup.Registration β V} : shelf[ref.index]? = none →
    Outcome shelf (.register ref r) shelf .unknownLookup

/-- A request that names its identifier well is a request for that identifier. -/
theorem request_of_read {c : Catalogue β V} {name : Name} {id : Identifier}
    (h : name.read = .ok id) (types : Signature) : c.request name types = c.get id types := by
  cases name with
  | identifier i =>
      cases h
      rfl
  | text s =>
      rw [request, getNamed]
      rw [Name.read] at h
      rw [h]

/-- A request whose text is malformed fails with the fault of the text. -/
theorem request_of_read_error {c : Catalogue β V} {name : Name} {e : IdentifierError}
    (h : name.read = .error e) (types : Signature) :
    c.request name types = ⟨c, .error (.invalidArgument (.identifier e)), []⟩ := by
  cases name with
  | identifier i => cases h
  | text s =>
      rw [request, getNamed]
      rw [Name.read] at h
      rw [h]

/-- Every call has one of the outcomes, and the catalogue holds what the outcome leaves. -/
theorem Holds.perform {c : Catalogue β V} {shelf : List (ItemLookup β V)} (h : Holds c shelf)
    (call : Call β V) :
    ∃ shelf', Outcome shelf call shelf' (c.perform call).answer ∧
      Holds (c.perform call).state shelf' := by
  cases call with
  | request name types =>
      rw [Catalogue.perform]
      cases hname : name.read with
      | error e =>
          rw [request_of_read_error hname]
          exact ⟨shelf, .malformed hname, h⟩
      | ok id =>
          rw [request_of_read hname]
          -- an identifier has a record only beside a lookup, so the lookups decide the case
          rcases exists_place_or_forall_ne shelf id with ⟨i, l, hl, rfl⟩ | hnew
          · obtain ⟨hstate, hanswer⟩ := h.get_of_getElem? hl types
            refine ⟨shelf, ?_, hstate⟩
            rw [Effect.map, hanswer]
            by_cases htypes : (l.types == types) = true
            · rw [if_pos htypes]
              exact .found hl hname (Signature.beq_iff_agrees.1 htypes)
            · rw [if_neg htypes]
              exact .conflict hl hname (mt Signature.beq_iff_agrees.2 htypes)
          · obtain ⟨hstate, hanswer⟩ := h.get_of_forall_ne hnew types
            refine ⟨_, ?_, hstate⟩
            rw [Effect.map, hanswer]
            exact .made hnew hname
  | register ref r =>
      cases hl : shelf[ref.index]? with
      | some l =>
          obtain ⟨e, he, hanswer, hstate⟩ := h.register_of_getElem? hl r
          refine ⟨_, ?_, by rw [Catalogue.perform, he]; exact hstate⟩
          rw [Catalogue.perform, he]
          show Outcome shelf _ _ (.registered e.answer)
          rw [hanswer]
          exact .registered hl
      | none =>
          rw [Catalogue.perform, h.register_of_getElem?_none hl]
          exact ⟨shelf, .unknown hl, h⟩

/-! ## One more call in a history -/

private theorem filterMap_concat {α γ : Type} (f : α → Option γ) (l : List α) (a : α) :
    (l ++ [a]).filterMap f = l.filterMap f ++ (f a).toList := by
  rw [List.filterMap_append, List.filterMap_eq_flatMap_toList f [a], List.flatMap_singleton]

theorem Call.wanted?_of_read {name : Name} {id : Identifier} (h : name.read = .ok id)
    (types : Signature) : (request name types : Call β V).wanted? = some (id, types) := by
  rw [wanted?, h]
  rfl

theorem wanted_concat (run : List (Call β V)) (call : Call β V) :
    wanted (run ++ [call]) = wanted run ++ call.wanted?.toList :=
  filterMap_concat ..

theorem handles_concat (h : List (Answered β V)) (e : Answered β V) (id : Identifier) :
    handles (h ++ [e]) id = handles h id ++ (e.handle? id).toList :=
  filterMap_concat ..

theorem registrations_concat (h : List (Answered β V)) (e : Answered β V)
    (refs : List LookupRef) :
    registrations (h ++ [e]) refs = registrations h refs ++ (e.registration? refs).toList :=
  filterMap_concat ..

/-- Registrations are told by which references they went through, not by how these are listed. -/
theorem registrations_congr (h : List (Answered β V)) {refs refs' : List LookupRef}
    (hrefs : ∀ ref, ref ∈ refs ↔ ref ∈ refs') : registrations h refs = registrations h refs' := by
  refine List.filterMap_congr fun e _ => ?_
  unfold Answered.registration?
  split
  · simp only [hrefs]
  · rfl

/-! ## First requests -/

theorem firsts_concat (requests : List (Identifier × Signature)) (q : Identifier × Signature) :
    firsts (requests ++ [q]) = addFirst (firsts requests) q :=
  List.foldl_concat ..

/-- A request for an identifier that was requested before is not a first one. -/
theorem addFirst_of_mem {seen : List (Identifier × Signature)} {s q : Identifier × Signature}
    (hs : s ∈ seen) (hid : s.1 = q.1) : addFirst seen q = seen := by
  unfold addFirst
  rw [if_pos]
  rw [List.any_eq_true]
  exact ⟨s, hs, beq_iff_eq.2 hid⟩

theorem addFirst_of_forall_ne {seen : List (Identifier × Signature)} {q : Identifier × Signature}
    (h : ∀ s ∈ seen, s.1 ≠ q.1) : addFirst seen q = seen ++ [q] := by
  unfold addFirst
  rw [if_neg]
  rw [List.any_eq_true]
  rintro ⟨s, hs, hid⟩
  exact h s hs (beq_iff_eq.1 hid)

/-- A request is a repeated one and left out, or it is a first one and put behind the others. -/
theorem addFirst_cases (seen : List (Identifier × Signature)) (q : Identifier × Signature) :
    ((∃ s ∈ seen, s.1 = q.1) ∧ addFirst seen q = seen) ∨
      ((∀ s ∈ seen, s.1 ≠ q.1) ∧ addFirst seen q = seen ++ [q]) := by
  by_cases hseen : ∃ s ∈ seen, s.1 = q.1
  · obtain ⟨s, hs, hid⟩ := hseen
    exact Or.inl ⟨⟨s, hs, hid⟩, addFirst_of_mem hs hid⟩
  · have hnew : ∀ s ∈ seen, s.1 ≠ q.1 := fun s hs hid => hseen ⟨s, hs, hid⟩
    exact Or.inr ⟨hnew, addFirst_of_forall_ne hnew⟩

/-- No identifier has two first requests. -/
theorem nodup_firsts (requests : List (Identifier × Signature)) :
    ((firsts requests).map (·.1)).Nodup := by
  induction requests using List.reverseRecOn with
  | nil => exact List.nodup_nil
  | append_singleton requests q ih =>
      rw [firsts_concat]
      rcases addFirst_cases (firsts requests) q with ⟨-, hadd⟩ | ⟨hnew, hadd⟩
      · rwa [hadd]
      · rw [hadd, List.map_append, List.nodup_append]
        refine ⟨ih, List.nodup_singleton _, ?_⟩
        intro id hid other hother
        obtain ⟨s, hs, rfl⟩ := List.mem_map.1 hid
        obtain rfl := List.mem_singleton.1 hother
        exact hnew s hs

/-- The first request for an identifier is the one that comes first among all. -/
theorem find?_firsts (requests : List (Identifier × Signature)) (id : Identifier) :
    (firsts requests).find? (fun q => q.1 == id) = requests.find? fun q => q.1 == id := by
  induction requests using List.reverseRecOn with
  | nil => rfl
  | append_singleton requests q ih =>
      rw [firsts_concat, List.find?_append, ← ih]
      rcases addFirst_cases (firsts requests) q with ⟨⟨s, hs, hid⟩, hadd⟩ | ⟨-, hadd⟩
      · rw [hadd]
        -- `q` adds nothing: it is for another identifier, or `s` is found before it
        by_cases hq : q.1 = id
        · have hfound : ((firsts requests).find? fun q => q.1 == id).isSome = true := by
            rw [List.find?_isSome]
            exact ⟨s, hs, beq_iff_eq.2 (hid.trans hq)⟩
          rw [Option.or_of_isSome hfound]
        · rw [List.find?_singleton, if_neg (mt beq_iff_eq.1 hq), Option.or_none]
      · rw [hadd, List.find?_append]

/-! ## The lookups that a history is behind -/

/-- The lookups `shelf` are what became of a catalogue in the run of the history `h`. -/
structure Tracks (run : List (Call β V)) (h : List (Answered β V)) (shelf : List (ItemLookup β V)) :
    Prop where
  /-- There is one lookup for each identifier, of the types that were requested first. -/
  firsts_eq : firsts (wanted run) = shelf.map fun l => (l.id, l.types)
  /-- A lookup is handed out for its own identifier. -/
  handed : ∀ id, ∀ ref ∈ handles h id, ∃ l, shelf[ref.index]? = some l ∧ l.id = id
  /-- A lookup is a new one after the registrations that went through its place. -/
  contents : ∀ (ref : LookupRef) (l : ItemLookup β V), shelf[ref.index]? = some l →
    l = (ItemLookup.new l.id l.types).after (registrations h [ref])
  /-- No registration goes through a place before there is a lookup. -/
  unused : ∀ ref : LookupRef, shelf[ref.index]? = none → registrations h [ref] = []

theorem Tracks.empty : Tracks [] [] ([] : List (ItemLookup β V)) := by
  refine ⟨rfl, ?_, ?_, ?_⟩
  · intro id ref href
    cases href
  · intro ref l hl
    cases hl
  · intro ref _
    rfl

namespace Outcome

variable {shelf shelf' : List (ItemLookup β V)} {call : Call β V} {answer : Answer β V}

/-- A lookup stays at its place, with its identifier. -/
theorem kept (ho : Outcome shelf call shelf' answer) {i : ℕ} {l : ItemLookup β V}
    (hl : shelf[i]? = some l) : ∃ l', shelf'[i]? = some l' ∧ l'.id = l.id := by
  cases ho with
  | malformed _ => exact ⟨l, hl, rfl⟩
  | found _ _ _ => exact ⟨l, hl, rfl⟩
  | conflict _ _ _ => exact ⟨l, hl, rfl⟩
  | made _ _ =>
      refine ⟨l, ?_, rfl⟩
      rw [List.getElem?_append_left (List.getElem?_eq_some_iff.1 hl).1, hl]
  | @registered ref r m hm =>
      by_cases hi : ref.index = i
      · subst hi
        obtain rfl := Option.some.inj (hl.symm.trans hm)
        refine ⟨(l.register r).state, ?_, ItemLookup.id_register l r⟩
        rw [List.getElem?_set_self (List.getElem?_eq_some_iff.1 hl).1]
      · exact ⟨l, by rw [List.getElem?_set_ne hi, hl], rfl⟩
  | unknown _ => exact ⟨l, hl, rfl⟩

/-- Only a first request for an identifier brings a lookup, which is of the types requested. -/
theorem firsts_eq (ho : Outcome shelf call shelf' answer) {run : List (Call β V)}
    (h : firsts (wanted run) = shelf.map fun l => (l.id, l.types)) :
    firsts (wanted (run ++ [call])) = shelf'.map fun l => (l.id, l.types) := by
  have hrepeat {i : ℕ} {l : ItemLookup β V} (hl : shelf[i]? = some l) (types : Signature) :
      addFirst (firsts (wanted run)) (l.id, types) = firsts (wanted run) := by
    refine addFirst_of_mem (s := (l.id, l.types)) ?_ rfl
    rw [h]
    exact List.mem_map_of_mem (List.mem_of_getElem? hl)
  rw [wanted_concat]
  cases ho with
  | @malformed name types e hname =>
      rw [Call.wanted?, hname]
      exact (congrArg firsts (List.append_nil _)).trans h
  | found hl hname _ =>
      rw [Call.wanted?_of_read hname, Option.toList_some, firsts_concat, hrepeat hl, h]
  | conflict hl hname _ =>
      rw [Call.wanted?_of_read hname, Option.toList_some, firsts_concat, hrepeat hl, h]
  | @made name types id hnew hname =>
      rw [Call.wanted?_of_read hname, Option.toList_some, firsts_concat, addFirst_of_forall_ne, h,
        List.map_append]
      · rfl
      · rw [h]
        intro s hs
        obtain ⟨l, hl, rfl⟩ := List.mem_map.1 hs
        exact hnew l hl
  | @registered ref r l hl =>
      obtain ⟨hi, rfl⟩ := List.getElem?_eq_some_iff.1 hl
      -- a registration keeps the identifier and the types, so nothing is set anew
      have hsame := List.map_set (f := fun l : ItemLookup β V => (l.id, l.types)) (l := shelf)
        (i := ref.index) (a := shelf[ref.index])
      rw [List.set_getElem_self] at hsame
      rw [Call.wanted?, Option.toList_none, List.append_nil, h, List.map_set,
        ItemLookup.id_register, ItemLookup.types_register]
      exact hsame
  | unknown _ => rw [Call.wanted?, Option.toList_none, List.append_nil, h]

/-- What is handed out is a lookup of the identifier that was asked for. -/
theorem handed (ho : Outcome shelf call shelf' answer) {id : Identifier} {ref : LookupRef}
    (h : Answered.handle? id (call, answer) = some ref) :
    ∃ l, shelf'[ref.index]? = some l ∧ l.id = id := by
  unfold Answered.handle? at h
  cases ho with
  | malformed _ => simp at h
  | @found name types i l hl hname _ =>
      rw [Call.wanted?_of_read hname] at h
      obtain ⟨hid, href⟩ := Option.ite_none_right_eq_some.1 h
      obtain rfl := Option.some.inj href
      exact ⟨l, hl, hid⟩
  | conflict _ _ _ => simp at h
  | @made name types id' _ hname =>
      rw [Call.wanted?_of_read hname] at h
      obtain ⟨hid, href⟩ := Option.ite_none_right_eq_some.1 h
      obtain rfl := Option.some.inj href
      exact ⟨.new id' types, List.getElem?_concat_length, hid⟩
  | registered _ => simp [Call.wanted?] at h
  | unknown _ => simp [Call.wanted?] at h

/-- No registration goes through an empty place. -/
theorem unused (ho : Outcome shelf call shelf' answer) {h : List (Answered β V)}
    (hunused : ∀ ref : LookupRef, shelf[ref.index]? = none → registrations h [ref] = [])
    {ref : LookupRef} (hl : shelf'[ref.index]? = none) :
    registrations (h ++ [(call, answer)]) [ref] = [] := by
  have hempty : shelf[ref.index]? = none := by
    rw [Option.eq_none_iff_forall_ne_some]
    intro l hsome
    obtain ⟨l', hl', -⟩ := ho.kept hsome
    rw [hl] at hl'
    cases hl'
  rw [registrations_concat, hunused ref hempty, List.nil_append]
  cases ho with
  | malformed _ => rfl
  | found _ _ _ => rfl
  | conflict _ _ _ => rfl
  | made _ _ => rfl
  | @registered ref' r m hm =>
      have hne : ref' ∉ [ref] := by
        intro href
        rw [List.mem_singleton.1 href, hempty] at hm
        cases hm
      rw [Answered.registration?, if_neg hne, Option.toList_none]
  | unknown _ => rfl

/-- A new lookup has no registrations behind it, and the others change as registrations on them
do. -/
theorem contents (ho : Outcome shelf call shelf' answer) {h : List (Answered β V)}
    (hcontents : ∀ (ref : LookupRef) (l : ItemLookup β V), shelf[ref.index]? = some l →
      l = (ItemLookup.new l.id l.types).after (registrations h [ref]))
    (hunused : ∀ ref : LookupRef, shelf[ref.index]? = none → registrations h [ref] = [])
    {ref : LookupRef} {l : ItemLookup β V} (hl : shelf'[ref.index]? = some l) :
    l = (ItemLookup.new l.id l.types).after (registrations (h ++ [(call, answer)]) [ref]) := by
  have hidle (hl : shelf[ref.index]? = some l) :
      l = (ItemLookup.new l.id l.types).after (registrations h [ref] ++ []) := by
    rw [List.append_nil]
    exact hcontents ref l hl
  rw [registrations_concat]
  cases ho with
  | malformed _ => exact hidle hl
  | found _ _ _ => exact hidle hl
  | conflict _ _ _ => exact hidle hl
  | unknown _ => exact hidle hl
  | @made name types id hnew hname =>
      cases hold : shelf[ref.index]? with
      | some m =>
          rw [List.getElem?_append_left (List.getElem?_eq_some_iff.1 hold).1] at hl
          exact hidle hl
      | none =>
          -- the reference leads to the new lookup, through whose place nothing went before
          rw [List.getElem?_append_right (List.getElem?_eq_none_iff.1 hold)] at hl
          obtain rfl := List.mem_singleton.1 (List.mem_of_getElem? hl)
          rw [hunused ref hold]
          rfl
  | @registered ref' r m hm =>
      -- a registration through another reference leaves the lookup as it is
      by_cases href : ref' = ref
      · subst href
        rw [List.getElem?_set_self (List.getElem?_eq_some_iff.1 hm).1] at hl
        obtain rfl := Option.some.inj hl
        rw [Answered.registration?, if_pos List.mem_cons_self, Option.toList_some,
          ItemLookup.id_register, ItemLookup.types_register, ItemLookup.after_append,
          ← hcontents ref' m hm]
        rfl
      · have hindex : ref'.index ≠ ref.index := fun h => href (congrArg LookupRef.mk h)
        rw [List.getElem?_set_ne hindex] at hl
        rw [Answered.registration?, if_neg (mt List.mem_singleton.1 href), Option.toList_none]
        exact hidle hl

end Outcome

/-- One more call, whatever it comes to, is tracked by what it leaves. -/
theorem Tracks.outcome {run : List (Call β V)} {h : List (Answered β V)}
    {shelf shelf' : List (ItemLookup β V)} {call : Call β V} {answer : Answer β V}
    (ht : Tracks run h shelf) (ho : Outcome shelf call shelf' answer) :
    Tracks (run ++ [call]) (h ++ [(call, answer)]) shelf' := by
  refine ⟨ho.firsts_eq ht.firsts_eq, ?_, ?_, ?_⟩
  · intro id ref href
    rw [handles_concat, List.mem_append, Option.mem_toList] at href
    rcases href with hold | hnew
    · obtain ⟨l, hl, hid⟩ := ht.handed id ref hold
      obtain ⟨l', hl', hkept⟩ := ho.kept hl
      exact ⟨l', hl', hkept.trans hid⟩
    · exact ho.handed hnew
  · intro ref l hl
    exact ho.contents ht.contents ht.unused hl
  · intro ref hl
    exact ho.unused ht.unused hl

/-- The lookups of a catalogue are tracked through any run. -/
theorem Tracks.after {c : Catalogue β V} {before : List (Call β V)} {h : List (Answered β V)}
    {shelf : List (ItemLookup β V)} (hholds : Holds c shelf) (ht : Tracks before h shelf)
    (run : List (Call β V)) :
    ∃ shelf', Holds (c.after run) shelf' ∧ Tracks (before ++ run) (h ++ c.history run) shelf' := by
  -- the calls move over one by one to the history, which grows at its end
  induction run generalizing c before h shelf with
  | nil =>
      refine ⟨shelf, hholds, ?_⟩
      rwa [history, List.append_nil, List.append_nil]
  | cons call run ih =>
      obtain ⟨mid, ho, hmid⟩ := hholds.perform call
      obtain ⟨shelf', hholds', ht'⟩ := ih hmid (ht.outcome ho)
      refine ⟨shelf', hholds', ?_⟩
      rwa [List.append_assoc, List.append_assoc, List.singleton_append, List.singleton_append]
        at ht'

/-! ## What the run tells -/

section

variable {c : Catalogue β V} {run : List (Call β V)} {h : List (Answered β V)}
  {shelf : List (ItemLookup β V)}

/-- The first types for an identifier are those of its lookup. -/
theorem Tracks.firstTypes_of_getElem? (ht : Tracks run h shelf) (hholds : Holds c shelf) {i : ℕ}
    {l : ItemLookup β V} (hl : shelf[i]? = some l) : firstTypes run l.id = some l.types := by
  have hfound : (shelf.map fun m => (m.id, m.types)).find? (fun q => q.1 == l.id) =
      some (l.id, l.types) := by
    rw [List.find?_map]
    exact congrArg (Option.map _) (hholds.find?_of_getElem? hl)
  rw [firstTypes, ← find?_firsts, ht.firsts_eq, hfound, Option.map_some]

/-- An identifier without a lookup was never requested. -/
theorem Tracks.firstTypes_of_forall_ne (ht : Tracks run h shelf) {id : Identifier}
    (hnew : ∀ l ∈ shelf, l.id ≠ id) : firstTypes run id = none := by
  rw [firstTypes, ← find?_firsts, ht.firsts_eq, Option.map_eq_none_iff, List.find?_eq_none]
  intro q hq hid
  obtain ⟨l, hl, rfl⟩ := List.mem_map.1 hq
  exact hnew l hl (eq_of_beq hid)

/-- A request of malformed text fails with the fault of the text.  Any other gets the lookup of its
identifier, or a conflict with the first types that were requested for it. -/
theorem Tracks.request (ht : Tracks run h shelf) (hholds : Holds c shelf) (name : Name)
    (types : Signature) :
    (∀ error, (c.request name types).answer = .error (.invalidArgument (.identifier error)) ↔
      name.read = .error error) ∧
    ∀ id, name.read = .ok id → ∃ first,
      firstTypes (run ++ [.request name types]) id = some first ∧
      (first.Agrees types → ∃ ref l, (c.request name types).answer = .ok ref ∧
        (c.request name types).state.lookup? ref = some l ∧ l.id = id ∧ l.types.Agrees types) ∧
      (¬ first.Agrees types →
        (c.request name types).answer = .error (.typeConflict ⟨id, first, types⟩)) := by
  obtain ⟨shelf', ho, hholds'⟩ := hholds.perform (.request name types)
  have ht' := ht.outcome ho
  have hfirst {i : ℕ} {l : ItemLookup β V} (hl : shelf'[i]? = some l) :=
    ht'.firstTypes_of_getElem? hholds' hl
  -- the outcome is told of the call, so the request is read as one
  have hplace := hholds'.lookup?_eq
  change ∀ ref, (c.request name types).state.lookup? ref = _ at hplace
  generalize hanswer : (c.perform (.request name types)).answer = answer at ho ht' hfirst
  change Answer.lookup (c.request name types).answer = answer at hanswer
  cases ho with
  | malformed hname =>
      rw [Answer.lookup.inj hanswer, hname]
      simp
  | @found _ _ i l hl hname htypes =>
      rw [Answer.lookup.inj hanswer, hname]
      refine ⟨by simp, ?_⟩
      intro id hid
      obtain rfl := Except.ok.inj hid
      refine ⟨l.types, hfirst hl, ?_, fun hother => absurd htypes hother⟩
      intro _
      exact ⟨⟨i⟩, l, rfl, (hplace ⟨i⟩).trans hl, rfl, htypes⟩
  | @conflict _ _ i l hl hname htypes =>
      rw [Answer.lookup.inj hanswer, hname]
      refine ⟨by simp, ?_⟩
      intro id hid
      obtain rfl := Except.ok.inj hid
      exact ⟨l.types, hfirst hl, fun hsame => absurd hsame htypes, fun _ => rfl⟩
  | @made _ _ new hnew hname =>
      rw [Answer.lookup.inj hanswer, hname]
      refine ⟨by simp, ?_⟩
      intro id hid
      obtain rfl := Except.ok.inj hid
      have hl : (shelf ++ [ItemLookup.new new types])[shelf.length]? = some (.new new types) :=
        List.getElem?_concat_length
      have htypes := hfirst hl
      have hsame : types.Agrees types := ⟨rfl, rfl⟩
      refine ⟨types, htypes, ?_, fun hother => absurd hsame hother⟩
      intro _
      exact ⟨⟨shelf.length⟩, .new new types, rfl, (hplace _).trans hl, rfl, hsame⟩

/-- The lookups that were handed out are told apart by what they were handed out for. -/
theorem Tracks.handle_eq_iff (ht : Tracks run h shelf) (hholds : Holds c shelf)
    {id id' : Identifier} {ref ref' : LookupRef} (href : ref ∈ handles h id)
    (href' : ref' ∈ handles h id') : ref = ref' ↔ id = id' := by
  obtain ⟨l, hl, rfl⟩ := ht.handed id ref href
  obtain ⟨l', hl', rfl⟩ := ht.handed id' ref' href'
  constructor
  · rintro rfl
    rw [hl] at hl'
    rw [Option.some.inj hl']
  · intro hid
    exact congrArg LookupRef.mk (hholds.place_unique hl hl' hid)

/-- A lookup that was handed out is a new one of the first types, with all registrations behind it
that went through a lookup handed out for the identifier. -/
theorem Tracks.lookup?_handle (ht : Tracks run h shelf) (hholds : Holds c shelf) {id : Identifier}
    {ref : LookupRef} (href : ref ∈ handles h id) :
    ∃ first, firstTypes run id = some first ∧
      c.lookup? ref = some ((ItemLookup.new id first).after (registrations h (handles h id))) := by
  obtain ⟨l, hl, rfl⟩ := ht.handed id ref href
  have hrefs (ref' : LookupRef) : ref' ∈ handles h l.id ↔ ref' ∈ [ref] := by
    rw [List.mem_singleton]
    constructor
    · intro href'
      exact (ht.handle_eq_iff hholds href' href).2 rfl
    · rintro rfl
      exact href
  refine ⟨l.types, ht.firstTypes_of_getElem? hholds hl, ?_⟩
  rw [registrations_congr h hrefs, ← ht.contents ref l hl, hholds.lookup?_eq, hl]

end

/-- After any run of requests and registrations:
the next request fails if its text is malformed, conflicts if the first request for its identifier
was for other types, and else has the lookup that it asked for;
lookups are the same if they were handed out for the same identifier, and then each has the
registrations made through any of them, which is what a search, the provider of an item, the view of all
providers and the number of fallbacks go by;
and the listing shows the first request for each identifier. -/
theorem shared_after_empty (run : List (Call β V)) :
    let c : Catalogue β V := empty.after run
    let h : List (Answered β V) := empty.history run
    (∀ name types,
      (∀ error, (c.request name types).answer = .error (.invalidArgument (.identifier error)) ↔
        name.read = .error error) ∧
      ∀ id, name.read = .ok id → ∃ first,
        firstTypes (run ++ [.request name types]) id = some first ∧
        (first.Agrees types → ∃ ref l, (c.request name types).answer = .ok ref ∧
          (c.request name types).state.lookup? ref = some l ∧ l.id = id ∧ l.types.Agrees types) ∧
        (¬ first.Agrees types →
          (c.request name types).answer = .error (.typeConflict ⟨id, first, types⟩))) ∧
    (∀ id id', ∀ ref ∈ handles h id, ∀ ref' ∈ handles h id', ref = ref' ↔ id = id') ∧
    (∀ id, ∀ ref ∈ handles h id,
      let made := registrations h (handles h id)
      ∃ first l, firstTypes run id = some first ∧ c.lookup? ref = some l ∧
        l = (ItemLookup.new id first).after made ∧ l.Reflects id first made) ∧
    c.entries = (firsts (wanted run)).map (fun q => ⟨q.1, q.2⟩) ∧
    (c.entries.map (·.id)).Nodup := by
  intro c h
  obtain ⟨shelf, hholds, ht⟩ := Tracks.after Holds.empty (Tracks.empty (β := β) (V := V)) run
  have hentries : c.entries = (firsts (wanted run)).map fun q => ⟨q.1, q.2⟩ := by
    have hfirsts : firsts (wanted run) = _ := ht.firsts_eq
    rw [hholds.entries_eq_map, hfirsts, List.map_map]
    rfl
  refine ⟨?_, ?_, ?_, hentries, ?_⟩
  · intro name types
    exact ht.request hholds name types
  · intro id id' ref href ref' href'
    exact ht.handle_eq_iff hholds href href'
  · intro id ref href made
    obtain ⟨first, hfirst, hl⟩ := ht.lookup?_handle hholds href
    exact ⟨first, _, hfirst, hl, rfl, ItemLookup.reflects_after_new id first made⟩
  · rw [hentries, List.map_map]
    exact nodup_firsts (wanted run)

end AttributeRegistry.Catalogue
