import Mathlib.Data.List.Basic
import AttributeRegistry.Proofs.Table.Entries
import AttributeRegistry.Registry.Basic

/-!
# Runs of requests

A registry is what its successful constructions made of it: after any run its entries are the records
that were built, in that order (`entries_after`).  Everything else that can be asked of a registry is
read off that list, and so is the answer to the next request (`reply_after_empty`), which depends on
the run only through the first construction that succeeded for its identifier.
-/

namespace AttributeRegistry

/-- Two signatures are of the same types.  The names of the types take no part. -/
def Signature.Agrees (s t : Signature) : Prop :=
  s.attr.uid = t.attr.uid ∧ s.context.uid = t.context.uid

theorem Signature.beq_iff_agrees {s t : Signature} : (s == t) = true ↔ s.Agrees t := by
  rw [beq_iff, TypeTag.beq_iff, TypeTag.beq_iff]
  rfl

namespace Registry

variable {ε L : Type}

/-- A request, with what the constructor comes to if it is run for it.  A constructor may keep a state
of its own: it is run at most once in a request, so each request has its own outcome. -/
structure Request (ε L : Type) where
  id : Identifier
  types : Signature
  construct : Identifier → Signature → Except ε L

/-- Puts a request to a registry. -/
def reply (r : Registry L) (q : Request ε L) : Reply ε L :=
  r.request q.construct q.id q.types

/-- The registry after a run of requests. -/
def after (r : Registry L) (run : List (Request ε L)) : Registry L :=
  run.foldl (fun r q => (r.reply q).registry) r

/-- A request with the reply to it. -/
abbrev Answered (ε L : Type) := Request ε L × Reply ε L

/-- The requests of a run with their replies. -/
def history (r : Registry L) : List (Request ε L) → List (Answered ε L)
  | [] => []
  | q :: run => (q, r.reply q) :: (r.reply q).registry.history run

/-- The lookup that was built for a request: the constructor was run and it succeeded. -/
def Answered.built? (e : Answered ε L) : Option L :=
  e.2.actions.findSome? fun
    | .construct id types => (e.1.construct id types).toOption
    | .emit _ => none

/-- The first request for `id` for which a lookup was built. -/
def firstBuilt (h : List (Answered ε L)) (id : Identifier) : Option (Answered ε L) :=
  h.find? fun e => e.1.id == id && e.built?.isSome

/-! ## One request -/

/-- An identifier with a record is answered from the record, and nothing is done. -/
theorem reply_of_some {r : Registry L} {q : Request ε L} {record : Record L}
    (h : r.records.get? q.id = some record) :
    r.reply q =
      { registry := r
        answer := if record.types == q.types then .ok record.lookup
          else .error (.typeConflict ⟨q.id, record.types, q.types⟩)
        actions := [] } := by
  unfold reply request
  rw [h]

/-- What is done for an identifier without a record. -/
def Request.creation (q : Request ε L) (label : String) : List Action :=
  [.emit (.creatingLookup label q.id q.types), .construct q.id q.types]

/-- A construction that succeeds is recorded. -/
theorem reply_of_none_ok {r : Registry L} {q : Request ε L} {lookup : L}
    (h : r.records.get? q.id = none) (hq : q.construct q.id q.types = .ok lookup) :
    r.reply q =
      ⟨{ r with records := r.records.insert q.id ⟨lookup, q.types⟩ }, .ok lookup,
        q.creation r.label⟩ := by
  unfold reply request
  rw [h, hq]
  rfl

/-- A construction that fails leaves the registry as it is. -/
theorem reply_of_none_error {r : Registry L} {q : Request ε L} {e : ε}
    (h : r.records.get? q.id = none) (hq : q.construct q.id q.types = .error e) :
    r.reply q = ⟨r, .error (.construction e), q.creation r.label⟩ := by
  unfold reply request
  rw [h, hq]
  rfl

/-- The record that a request added, with its identifier. -/
def Answered.record? (e : Answered ε L) : Option (Identifier × Record L) :=
  e.built?.map fun lookup => (e.1.id, ⟨lookup, e.1.types⟩)

/-- A request adds the record that was built for it, and nothing else. -/
theorem entries_reply (r : Registry L) (q : Request ε L) :
    (r.reply q).registry.records.entries =
      r.records.entries ++ (Answered.record? (q, r.reply q)).toList := by
  cases hr : r.records.get? q.id with
  | some record => simp [reply_of_some hr, Answered.record?, Answered.built?]
  | none =>
      cases hq : q.construct q.id q.types with
      | ok lookup =>
          simp [reply_of_none_ok hr hq, Answered.record?, Answered.built?, Request.creation, hq,
            Except.toOption, Table.entries_insert_of_none hr]
      | error e =>
          simp [reply_of_none_error hr hq, Answered.record?, Answered.built?, Request.creation, hq,
            Except.toOption]

@[simp] theorem label_reply (r : Registry L) (q : Request ε L) :
    (r.reply q).registry.label = r.label := by
  cases hr : r.records.get? q.id with
  | some record => rw [reply_of_some hr]
  | none =>
      cases hq : q.construct q.id q.types with
      | ok lookup => rw [reply_of_none_ok hr hq]
      | error e => rw [reply_of_none_error hr hq]

/-! ## A run of requests -/

theorem label_after (r : Registry L) (run : List (Request ε L)) :
    (r.after run).label = r.label := by
  induction run generalizing r with
  | nil => rfl
  | cons q run ih =>
      show ((r.reply q).registry.after run).label = r.label
      rw [ih, label_reply]

/-- After a run a registry has the records from before it and then those that the run built. -/
theorem entries_after (r : Registry L) (run : List (Request ε L)) :
    (r.after run).records.entries =
      r.records.entries ++ (r.history run).filterMap Answered.record? := by
  induction run generalizing r with
  | nil => simp [after, history]
  | cons q run ih =>
      show ((r.reply q).registry.after run).records.entries = _
      rw [ih, entries_reply, history, List.append_assoc, List.filterMap_eq_flatMap_toList,
        List.filterMap_eq_flatMap_toList, List.flatMap_cons]

/-- After a run a registry lists the lookups from before it and then those that the run built. -/
theorem lookups_after (r : Registry L) (run : List (Request ε L)) :
    (r.after run).lookups = r.lookups ++ (r.history run).filterMap Answered.built? := by
  rw [lookups, Table.values, entries_after, List.map_append, List.map_append]
  refine congrArg (r.lookups ++ ·) ?_
  rw [List.map_filterMap, List.map_filterMap]
  refine List.filterMap_congr fun e _ => ?_
  rw [Answered.record?, Option.map_map, Option.map_map]
  exact Option.map_id' ..

/-- An identifier has the record of its first construction that succeeded. -/
theorem get?_after_empty (label : String) (run : List (Request ε L)) (id : Identifier) :
    ((empty label).after run).records.get? id =
      ((firstBuilt ((empty label).history run) id).bind Answered.record?).map (·.2) := by
  have hentries := entries_after (empty label) run
  have hnone : (empty label : Registry L).records.entries = [] := rfl
  rw [hnone, List.nil_append] at hentries
  have hfirst (e : Answered ε L) :
      (e.record?).any (fun record => record.1 == id) = (e.1.id == id && e.built?.isSome) := by
    unfold Answered.record?
    cases e.built? with
    | none => simp
    | some lookup => simp
  rw [Table.get?, Table.getBy, hentries, List.find?_filterMap, firstBuilt]
  simp only [hfirst]

/-- What is found first is a request for the identifier, and its construction succeeded. -/
theorem record?_of_firstBuilt {h : List (Answered ε L)} {id : Identifier} {first : Answered ε L}
    (hfirst : firstBuilt h id = some first) :
    ∃ lookup, first.built? = some lookup ∧ first.record? = some (id, ⟨lookup, first.1.types⟩) := by
  have hfound := List.find?_some hfirst
  rw [Bool.and_eq_true, Option.isSome_iff_exists] at hfound
  obtain ⟨hid, lookup, hbuilt⟩ := hfound
  refine ⟨lookup, hbuilt, ?_⟩
  rw [Answered.record?, hbuilt, eq_of_beq hid]
  rfl

/-- A registry accounts for the history `h` that is behind it. -/
structure AccountsFor (r : Registry L) (h : List (Answered ε L)) : Prop where
  /-- There are as many records as lookups that were built. -/
  size_eq : r.size = (h.filterMap Answered.built?).length
  /-- The listing shows these lookups in the order in which they were built. -/
  lookups_eq : r.lookups = h.filterMap Answered.built?
  /-- A registered identifier has one record, and its types are those of that record. -/
  one_record : ∀ id, r.contains id = true → ∃ record,
    r.records.entries.filter (fun e => e.1 == id) = [(id, record)] ∧
      r.registeredTypes id = some record.types
  /-- Any other identifier has none, and no types. -/
  no_record : ∀ id, r.contains id = false →
    r.records.entries.filter (fun e => e.1 == id) = [] ∧ r.registeredTypes id = none
  /-- The registered identifiers are those for which a lookup was built. -/
  contains_eq : ∀ id, r.contains id = (firstBuilt h id).isSome
  /-- Their types are those of the request for which that was done. -/
  registeredTypes_eq : ∀ id, r.registeredTypes id = (firstBuilt h id).map (·.1.types)

theorem accountsFor_after_empty (label : String) (run : List (Request ε L)) :
    ((empty label).after run).AccountsFor ((empty label).history run) := by
  have hlookups : ((empty label).after run).lookups =
      ((empty label).history run).filterMap Answered.built? :=
    lookups_after (empty label) run
  have hget := get?_after_empty (ε := ε) (L := L) label run
  refine ⟨?_, hlookups, ?_, ?_, ?_, ?_⟩
  · rw [← hlookups, lookups, List.length_map, Table.values, List.length_map]
    rfl
  · intro id hid
    obtain ⟨record, hrecord⟩ := Option.isSome_iff_exists.1 hid
    exact ⟨record, Table.filter_entries_of_some hrecord, by rw [registeredTypes, hrecord]; rfl⟩
  · intro id hid
    have hrecord : ((empty label).after run).records.get? id = none := by
      simpa [contains, Table.contains] using hid
    exact ⟨Table.filter_entries_of_none hrecord, by rw [registeredTypes, hrecord]; rfl⟩
  · intro id
    rw [contains, Table.contains, hget]
    cases hfirst : firstBuilt ((empty label).history run) id with
    | none => rfl
    | some first =>
        obtain ⟨lookup, -, hrecord⟩ := record?_of_firstBuilt hfirst
        simp [hrecord]
  · intro id
    rw [registeredTypes, hget]
    cases hfirst : firstBuilt ((empty label).history run) id with
    | none => rfl
    | some first =>
        obtain ⟨lookup, -, hrecord⟩ := record?_of_firstBuilt hfirst
        simp [hrecord]

/-- At any moment of any run a registry accounts for its history, and the next request is answered
by the first construction that succeeded for its identifier.  If there is one, nothing is done, and
the answer is that very lookup or a conflict with the types of that request.  If there is none, the
constructor is run once, behind one event, and its outcome is the answer. -/
theorem reply_after_empty (label : String) (run : List (Request ε L)) (q : Request ε L) :
    let r : Registry L := (empty label).after run
    let h := (empty label).history run
    let reply := r.reply q
    r.AccountsFor h ∧
    (∀ first, firstBuilt h q.id = some first → reply.actions = [] ∧
      ∃ lookup, first.built? = some lookup ∧
        (first.1.types.Agrees q.types → reply.answer = .ok lookup) ∧
        (¬ first.1.types.Agrees q.types →
          reply.answer = .error (.typeConflict ⟨q.id, first.1.types, q.types⟩))) ∧
    (firstBuilt h q.id = none →
      reply.actions = [.emit (.creatingLookup label q.id q.types), .construct q.id q.types] ∧
      (Event.creatingLookup label q.id q.types).level = .debug ∧
      (∀ lookup, q.construct q.id q.types = .ok lookup → reply.answer = .ok lookup) ∧
      ∀ e, q.construct q.id q.types = .error e → reply.answer = .error (.construction e)) := by
  intro r h reply
  have hget : r.records.get? q.id = ((firstBuilt h q.id).bind Answered.record?).map (·.2) :=
    get?_after_empty label run q.id
  refine ⟨accountsFor_after_empty label run, ?_, ?_⟩
  · intro first hfirst
    obtain ⟨lookup, hbuilt, hrecord⟩ := record?_of_firstBuilt hfirst
    rw [hfirst, Option.bind_some, hrecord] at hget
    have hreply : reply = _ := reply_of_some hget
    rw [hreply]
    refine ⟨rfl, lookup, hbuilt, ?_, ?_⟩
    · intro hsame
      exact if_pos (Signature.beq_iff_agrees.2 hsame)
    · intro hother
      exact if_neg (mt Signature.beq_iff_agrees.1 hother)
  · intro hfirst
    rw [hfirst] at hget
    have hlabel : r.label = label := label_after (empty label) run
    cases hq : q.construct q.id q.types with
    | ok built =>
        have hreply : reply = _ := reply_of_none_ok hget hq
        rw [hreply, hlabel]
        refine ⟨rfl, rfl, ?_, ?_⟩
        · intro lookup hlookup
          cases hlookup
          rfl
        · intro e he
          cases he
    | error failure =>
        have hreply : reply = _ := reply_of_none_error hget hq
        rw [hreply, hlabel]
        refine ⟨rfl, rfl, ?_, ?_⟩
        · intro lookup hlookup
          cases hlookup
        · intro e he
          cases he
          rfl

end Registry

end AttributeRegistry
