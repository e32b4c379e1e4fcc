import AttributeRegistry.Proofs.Identifier.Spelling
import AttributeRegistry.Proofs.Registry.Requests

/-!
# Registries and spellings

Lookups are asked for by text, and a registry goes by the parts that a text comes to.  Two texts with the
same parts may stand for each other anywhere in a run, because a call depends on its text through the
reading of it (`performNamed_congr`).  Two texts with different parts have nothing to do with each other: a
call adds records under its own identifier only (`entries_operate`), so it leaves what a call with other
parts gets as it is (`Alike.after`).
-/

namespace AttributeRegistry.Registry

variable {ε L : Type}

/-! ## Calls by text -/

/-- What is asked of a registry about the lookup of an identifier. -/
inductive Operation (ε L : Type) where
  | request (types : Signature) (construct : Identifier → Signature → Except ε L)
  | contains
  | registeredTypes

/-- An operation on the lookup that a text names. -/
structure NamedCall (ε L : Type) where
  text : String
  operation : Operation ε L

/-- What a call by text answers. -/
inductive NamedAnswer (ε L : Type) where
  | malformed (e : IdentifierError)
  | lookup (a : Except (RequestError ε) L)
  | flag (b : Bool)
  | types (t : Option Signature)

/-- Performs an operation on the lookup of `id`. -/
def operate (r : Registry L) (id : Identifier) :
    Operation ε L → Effect (Registry L) (NamedAnswer ε L)
  | .request types construct =>
    let reply := r.request construct id types
    ⟨reply.registry, .lookup reply.answer, reply.events⟩
  | .contains => ⟨r, .flag (r.contains id), []⟩
  | .registeredTypes => ⟨r, .types (r.registeredTypes id), []⟩

/-- Reads the text of a call and performs its operation. -/
def performNamed (r : Registry L) (x : NamedCall ε L) : Effect (Registry L) (NamedAnswer ε L) :=
  match Identifier.parse x.text with
  | .ok id => r.operate id x.operation
  | .error e => ⟨r, .malformed e, []⟩

/-- The registry after a run of calls. -/
def afterNamed (r : Registry L) (run : List (NamedCall ε L)) : Registry L :=
  run.foldl (fun r x => (r.performNamed x).state) r

/-- What each call of a run does. -/
def effects (r : Registry L) : List (NamedCall ε L) → List (Effect (Registry L) (NamedAnswer ε L))
  | [] => []
  | x :: run => r.performNamed x :: (r.performNamed x).state.effects run

/-- The same operation, with a text that may stand for the other. -/
def NamedCall.Respells (x y : NamedCall ε L) : Prop :=
  x.operation = y.operation ∧ Identifier.Respells x.text y.text

/-- The text of the call comes to these parts. -/
def NamedCall.names (parts : String × String) (x : NamedCall ε L) : Bool :=
  Identifier.partsOf? x.text = some parts

/-- The lookup stands at the place `n` in the listing, under an identifier with these parts. -/
def Lists (r : Registry L) (n : ℕ) (parts : String × String) (lookup : L) : Prop :=
  ∃ e, r.records.entries[n]? = some e ∧ e.1.parts = parts ∧ e.2.lookup = lookup

theorem performNamed_of_parse {x : NamedCall ε L} {id : Identifier}
    (h : Identifier.parse x.text = .ok id) (r : Registry L) :
    r.performNamed x = r.operate id x.operation := by
  unfold performNamed
  rw [h]

theorem performNamed_of_parse_error {x : NamedCall ε L} {e : IdentifierError}
    (h : Identifier.parse x.text = .error e) (r : Registry L) :
    r.performNamed x = ⟨r, .malformed e, []⟩ := by
  unfold performNamed
  rw [h]

/-! ## Other spellings -/

/-- A call goes by the reading of its text. -/
theorem performNamed_congr (r : Registry L) {x y : NamedCall ε L} (h : x.Respells y) :
    r.performNamed x = r.performNamed y := by
  unfold performNamed
  rw [Identifier.parse_congr h.2, h.1]

/-- A run goes by the readings of its texts. -/
theorem effects_congr (r : Registry L) {run run' : List (NamedCall ε L)}
    (h : List.Forall₂ NamedCall.Respells run run') : r.effects run = r.effects run' := by
  induction h generalizing r with
  | nil => rfl
  | cons hx _ ih => rw [effects, effects, performNamed_congr r hx, ih]

/-! ## What a call does to the records -/

/-- An operation adds records under its own identifier only. -/
theorem entries_operate (r : Registry L) (id : Identifier) (op : Operation ε L) :
    ∃ added, (r.operate id op).state.records.entries = r.records.entries ++ added ∧
      ∀ e ∈ added, e.1 = id := by
  cases op with
  | request types construct =>
      refine ⟨_, r.entries_reply ⟨id, types, construct⟩, ?_⟩
      intro e he
      obtain ⟨lookup, -, rfl⟩ := Option.map_eq_some_iff.1 (Option.mem_toList.1 he)
      rfl
  | contains => exact ⟨[], (List.append_nil _).symm, fun e he => by cases he⟩
  | registeredTypes => exact ⟨[], (List.append_nil _).symm, fun e he => by cases he⟩

@[simp] theorem label_operate (r : Registry L) (id : Identifier) (op : Operation ε L) :
    (r.operate id op).state.label = r.label := by
  cases op with
  | request types construct => exact r.label_reply ⟨id, types, construct⟩
  | _ => rfl

/-- The record of another identifier is as it was. -/
theorem get?_operate_of_ne (r : Registry L) {id j : Identifier} (h : id ≠ j) (op : Operation ε L) :
    (r.operate id op).state.records.get? j = r.records.get? j := by
  obtain ⟨added, hentries, hadded⟩ := r.entries_operate id op
  have hnone : added.find? (fun e => e.1 == j) = none := by
    rw [List.find?_eq_none]
    intro e he hj
    exact h ((hadded e he).symm.trans (eq_of_beq hj))
  rw [Table.get?, Table.getBy, hentries, List.find?_append, hnone, Option.or_none]
  rfl

theorem entries_prefix_performNamed (r : Registry L) (x : NamedCall ε L) :
    r.records.entries <+: (r.performNamed x).state.records.entries := by
  cases hparse : Identifier.parse x.text with
  | ok id =>
      obtain ⟨added, hentries, -⟩ := r.entries_operate id x.operation
      rw [performNamed_of_parse hparse, hentries]
      exact List.prefix_append ..
  | error e => exact ⟨[], by rw [performNamed_of_parse_error hparse, List.append_nil]⟩

/-- What is listed stays where it is. -/
theorem entries_prefix_afterNamed (r : Registry L) (run : List (NamedCall ε L)) :
    r.records.entries <+: (r.afterNamed run).records.entries := by
  induction run generalizing r with
  | nil => exact List.prefix_rfl
  | cons x run ih => exact (r.entries_prefix_performNamed x).trans (ih _)

/-! ## Calls with different parts -/

/-- The registries agree on all that matters for the lookup of `id`. -/
structure Alike (id : Identifier) (r r' : Registry L) : Prop where
  label_eq : r'.label = r.label
  get?_eq : r'.records.get? id = r.records.get? id

/-- A request for the lookup comes to the same on both. -/
theorem Alike.reply {q : Request ε L} {r r' : Registry L} (h : Alike q.id r r') :
    (r'.reply q).answer = (r.reply q).answer ∧ (r'.reply q).actions = (r.reply q).actions ∧
      Alike q.id (r.reply q).registry (r'.reply q).registry := by
  have hlabel : (r'.reply q).registry.label = (r.reply q).registry.label := by
    rw [label_reply, label_reply, h.label_eq]
  cases hr : r.records.get? q.id with
  | some record =>
      have hr' := h.get?_eq.trans hr
      rw [reply_of_some hr, reply_of_some hr']
      exact ⟨rfl, rfl, h⟩
  | none =>
      have hr' := h.get?_eq.trans hr
      cases hq : q.construct q.id q.types with
      | ok lookup =>
          rw [reply_of_none_ok hr hq, reply_of_none_ok hr' hq] at hlabel ⊢
          refine ⟨rfl, by rw [h.label_eq], hlabel, ?_⟩
          rw [Table.get?_insert_self, Table.get?_insert_self]
      | error e =>
          rw [reply_of_none_error hr hq, reply_of_none_error hr' hq, h.label_eq]
          exact ⟨rfl, rfl, h⟩

/-- An operation on the lookup comes to the same on both. -/
theorem Alike.operate {id : Identifier} {r r' : Registry L} (h : Alike id r r')
    (op : Operation ε L) :
    (r'.operate id op).answer = (r.operate id op).answer ∧
      (r'.operate id op).events = (r.operate id op).events ∧
      Alike id (r.operate id op).state (r'.operate id op).state := by
  cases op with
  | request types construct =>
      have hreply : Alike (Request.mk id types construct).id r r' := h
      obtain ⟨hanswer, hactions, hstate⟩ := hreply.reply
      exact ⟨congrArg NamedAnswer.lookup hanswer, congrArg (List.filterMap _) hactions, hstate⟩
  | contains =>
      exact ⟨congrArg (fun found => NamedAnswer.flag (Option.isSome found)) h.get?_eq, rfl, h⟩
  | registeredTypes =>
      exact ⟨congrArg (fun found => NamedAnswer.types (Option.map Record.types found)) h.get?_eq,
        rfl, h⟩

/-- A call that names another lookup, or none, goes by unnoticed. -/
theorem Alike.of_other {id : Identifier} {r r' : Registry L} (h : Alike id r r')
    {x : NamedCall ε L} (hother : Identifier.parse x.text ≠ .ok id) :
    Alike id (r.performNamed x).state r' := by
  cases hparse : Identifier.parse x.text with
  | ok j =>
      have hne : j ≠ id := by
        rintro rfl
        exact hother hparse
      rw [performNamed_of_parse hparse]
      refine ⟨?_, ?_⟩
      · rw [label_operate, h.label_eq]
      · rw [get?_operate_of_ne r hne, h.get?_eq]
  | error e =>
      rw [performNamed_of_parse_error hparse]
      exact h

theorem NamedCall.names_iff {id : Identifier} {x : NamedCall ε L} :
    x.names id.parts = true ↔ Identifier.parse x.text = .ok id := by
  rw [names, decide_eq_true_iff, Identifier.partsOf?_eq_some_iff]
  constructor
  · rintro ⟨j, hj, hparts⟩
    rw [hj, Identifier.parts_injective hparts]
  · intro h
    exact ⟨id, h, rfl⟩

/-- With all calls struck out that name other lookups, a run leaves the lookup as it does with them. -/
theorem Alike.after {id : Identifier} {r r' : Registry L} (h : Alike id r r')
    (run : List (NamedCall ε L)) :
    Alike id (r.afterNamed run) (r'.afterNamed (run.filter (NamedCall.names id.parts))) := by
  induction run generalizing r r' with
  | nil => exact h
  | cons x run ih =>
      by_cases hx : x.names id.parts = true
      · rw [List.filter_cons_of_pos hx]
        have hparse := NamedCall.names_iff.1 hx
        have hnext := (h.operate x.operation).2.2
        rw [← performNamed_of_parse hparse, ← performNamed_of_parse hparse] at hnext
        exact ih hnext
      · rw [List.filter_cons_of_neg hx]
        exact ih (h.of_other (mt NamedCall.names_iff.2 hx))

/-! ## What a call reaches -/

/-- The lookup that is handed out is the one on record. -/
theorem get?_of_answer_ok {r : Registry L} {q : Request ε L} {lookup : L}
    (h : (r.reply q).answer = .ok lookup) :
    ∃ types, (r.reply q).registry.records.get? q.id = some ⟨lookup, types⟩ := by
  cases hr : r.records.get? q.id with
  | some record =>
      have hanswer := congrArg Reply.answer (reply_of_some hr)
      rw [h] at hanswer
      rw [reply_of_some hr]
      refine ⟨record.types, hr.trans ?_⟩
      split at hanswer
      · rw [Except.ok.inj hanswer]
      · cases hanswer
  | none =>
      cases hq : q.construct q.id q.types with
      | ok built =>
          rw [reply_of_none_ok hr hq] at h ⊢
          cases h
          exact ⟨q.types, Table.get?_insert_self ..⟩
      | error e =>
          rw [reply_of_none_error hr hq] at h
          cases h

theorem get?_of_answer {r : Registry L} {id : Identifier} {op : Operation ε L} {lookup : L}
    (h : (r.operate id op).answer = .lookup (.ok lookup)) :
    ∃ types, (r.operate id op).state.records.get? id = some ⟨lookup, types⟩ := by
  cases op with
  | request types construct =>
      exact get?_of_answer_ok (q := ⟨id, types, construct⟩) (NamedAnswer.lookup.inj h)
  | contains => cases h
  | registeredTypes => cases h

/-- A call that is given a lookup finds it listed under the parts of its text, and it stays where it is
listed. -/
theorem exists_lists {r : Registry L} {x : NamedCall ε L} {lookup : L}
    (h : (r.performNamed x).answer = .lookup (.ok lookup)) (rest : List (NamedCall ε L)) :
    ∃ parts n, Identifier.partsOf? x.text = some parts ∧
      (r.afterNamed (x :: rest)).Lists n parts lookup := by
  cases hparse : Identifier.parse x.text with
  | error e =>
      rw [performNamed_of_parse_error hparse] at h
      cases h
  | ok id =>
      rw [performNamed_of_parse hparse] at h
      obtain ⟨types, hrecord⟩ := get?_of_answer h
      obtain ⟨e, he, hid, hvalue⟩ := Table.exists_mem_of_get? hrecord
      -- its entry is among those behind the call, and what follows only adds to them
      rw [← performNamed_of_parse hparse] at he
      obtain ⟨n, hn, hlisted⟩ := List.getElem_of_mem he
      have hkept := (r.performNamed x).state.entries_prefix_afterNamed rest
      refine ⟨id.parts, n, Identifier.partsOf?_of_parse hparse, e, ?_, ?_, ?_⟩
      · rw [← hlisted]
        exact List.prefix_iff_getElem?.1 hkept n hn
      · rw [eq_of_beq hid]
      · rw [hvalue]

/-- The listing has one place for each pair of parts. -/
theorem Lists.place_eq_iff {r : Registry L} {m n : ℕ} {p q : String × String} {l l' : L}
    (h : r.Lists m p l) (h' : r.Lists n q l') : m = n ↔ p = q := by
  obtain ⟨e, he, rfl, rfl⟩ := h
  obtain ⟨f, hf, rfl, rfl⟩ := h'
  constructor
  · rintro rfl
    rw [Option.some.inj (he.symm.trans hf)]
  · intro hparts
    exact Table.place_unique he hf (beq_iff_eq.2 (Identifier.parts_injective hparts))

/-- A registry goes by the parts that texts come to. -/
structure KeyedByParts (ε : Type) (r : Registry L) : Prop where
  /-- Texts that may stand for each other make no difference to what any call of a run does. -/
  respelled : ∀ run run' : List (NamedCall ε L), List.Forall₂ NamedCall.Respells run run' →
    r.effects run = r.effects run'
  /-- Calls whose texts come to other parts, or to none, make no difference to a call. -/
  alone : ∀ (run : List (NamedCall ε L)) (x : NamedCall ε L) (parts : String × String),
    Identifier.partsOf? x.text = some parts →
      let e := (r.afterNamed run).performNamed x
      let e' := (r.afterNamed (run.filter (NamedCall.names parts))).performNamed x
      e'.answer = e.answer ∧ e'.events = e.events
  /-- A lookup that is handed out is listed from then on, under the parts that it was asked for by. -/
  reached : ∀ (run : List (NamedCall ε L)) (x : NamedCall ε L) (lookup : L),
    ((r.afterNamed run).performNamed x).answer = .lookup (.ok lookup) →
      ∀ rest, ∃ parts n, Identifier.partsOf? x.text = some parts ∧
        (r.afterNamed (run ++ x :: rest)).Lists n parts lookup
  /-- Different parts are listed at different places, and the same parts at one. -/
  separate : ∀ (run : List (NamedCall ε L)) (m n : ℕ) (p q : String × String) (l l' : L),
    (r.afterNamed run).Lists m p l → (r.afterNamed run).Lists n q l' → (m = n ↔ p = q)

theorem keyedByParts (r : Registry L) : r.KeyedByParts ε := by
  refine ⟨fun run run' h => r.effects_congr h, ?_, ?_, ?_⟩
  · intro run x parts hparts e e'
    obtain ⟨id, hparse, rfl⟩ := Identifier.partsOf?_eq_some_iff.1 hparts
    have halike : Alike id r r := ⟨rfl, rfl⟩
    obtain ⟨hanswer, hevents, -⟩ := (halike.after run).operate x.operation
    rw [← performNamed_of_parse hparse, ← performNamed_of_parse hparse] at hanswer hevents
    exact ⟨hanswer, hevents⟩
  · intro run x lookup hanswer rest
    have happend : r.afterNamed (run ++ x :: rest) = (r.afterNamed run).afterNamed (x :: rest) :=
      List.foldl_append
    rw [happend]
    exact exists_lists hanswer rest
  · intro run m n p q l l' h h'
    exact h.place_eq_iff h'

end AttributeRegistry.Registry
