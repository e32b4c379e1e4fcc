import AttributeRegistry.Proofs.Catalogue.Commands
import AttributeRegistry.Proofs.ItemLookup.Renaming

/-!
# A lookup by itself

Lookups stand side by side in a catalogue, and a run goes back and forth between them and between
catalogues, with the same items and the same providers in many of them.  A lookup notices nothing of
it: with all commands struck out that are about other lookups, those about it come back with what
they came back with before (`log_alone`).

Where a lookup stands alone it stands at the first place.  That, and where the providers live that it
makes, is all that may differ.  `Isolates` ties a catalogue to one that has only the one lookup;
commands about other lookups keep the tie (`Isolates.of_other`), and commands about it are answered
alike on both sides and keep it too (`Isolates.respond`).
-/

namespace AttributeRegistry

variable {ι β V C : Type} (ρ : Address → Address)

/-! ## Questions -/

/-- What a lookup says, with the providers that lookups made at other places. -/
def ItemLookup.Finding.rename : Finding β V → Finding β V
  | .found value asked => .found value (asked.map (Provider.rename ρ))
  | .provider p => .provider (p.map (Provider.rename ρ))
  | .providers view => .providers (view.map (Provider.rename ρ))
  | .fallbackCount n => .fallbackCount n

theorem ItemLookup.ask_rename (behave : β → Stack V → C → Option V) (l : ItemLookup β V)
    (q : Question V C) : (l.rename ρ).ask behave q = (l.ask behave q).rename ρ := by
  cases q with
  | find stack context =>
      rw [ask, query_rename]
      rfl
  | providerOf item =>
      rw [ask, provider?_rename]
      rfl
  | providers => rfl
  | fallbackCount =>
      rw [ask, fallbackCount_rename]
      rfl

namespace Catalogue

/-! ## Commands to a catalogue of one lookup -/

/-- The command as it is given where its lookup stands alone. -/
def Command.alone : Command β V C → Command β V C
  | .call (.request name types) => .call (.request name types)
  | .call (.register _ r) => .call (.register ⟨0⟩ (r.rename ρ))
  | .ask _ q => .ask ⟨0⟩ q

/-- The response as it is given where its lookup stands alone. -/
def Response.alone : Response β V → Response β V
  | .answer (.lookup a) => .answer (.lookup (a.map fun _ => ⟨0⟩))
  | .answer (.registered a) => .answer (.registered (ItemLookup.renameAnswer ρ a))
  | .answer .unknownLookup => .answer .unknownLookup
  | .finding f => .finding (f.rename ρ)

/-- The occurrence as it is where its lookup stands alone. -/
def Occurrence.alone (o : Occurrence ι β V C) : Occurrence ι β V C :=
  { o with command := o.command.alone ρ, response := o.response.alone ρ }

/-! ## Requests in full -/

/-- What a request does to the registry and reports is done by the request for its slot. -/
theorem registry_get (c : Catalogue β V) (id : Identifier) (types : Signature) :
    (c.get id types).state.registry = (c.slot id types).state.registry ∧
      (c.get id types).events = (c.slot id types).events := by
  unfold get
  cases h : (c.slot id types).answer with
  | error conflict => simp only [h, and_self]
  | ok slot =>
      simp only [h]
      exact ⟨rfl, trivial⟩

@[simp] theorem label_get (c : Catalogue β V) (id : Identifier) (types : Signature) :
    (c.get id types).state.registry.label = c.registry.label := by
  rw [(registry_get c id types).1]
  cases h : c.registry.records.get? id with
  | some record => rw [slot_of_some h]
  | none => rw [slot_of_none h]

/-- A request reports that it makes a lookup, if it makes one. -/
theorem events_get (c : Catalogue β V) (id : Identifier) (types : Signature) :
    (c.get id types).events =
      if c.registry.records.get? id = none then [.creatingLookup c.registry.label id types]
      else [] := by
  rw [(registry_get c id types).2]
  cases h : c.registry.records.get? id with
  | some record =>
      rw [slot_of_some h]
      rfl
  | none =>
      rw [slot_of_none h]
      rfl

/-- A registration on a lookup that there is, in full. -/
theorem perform_register {c : Catalogue β V} {ref : LookupRef} {l : ItemLookup β V}
    (hl : c.lookup? ref = some l) (r : ItemLookup.Registration β V) :
    c.perform (.register ref r) =
      let e := l.register r
      ⟨c.setLookup ref e.state, .registered e.answer, e.events⟩ := by
  rw [perform, register, hl]
  rfl

/-- No command changes the label of a catalogue. -/
theorem label_respond (behave : β → Stack V → C → Option V) (c : Catalogue β V)
    (command : Command β V C) :
    (c.respond behave command).state.registry.label = c.registry.label := by
  cases command with
  | ask ref q => rfl
  | call call =>
      cases call with
      | request name types =>
          show (c.request name types).state.registry.label = _
          cases hname : name.read with
          | error e => rw [request_of_read_error hname]
          | ok id => rw [request_of_read hname, label_get]
      | register ref r =>
          show (c.perform (.register ref r)).state.registry.label = _
          cases hl : c.lookup? ref with
          | some l =>
              rw [perform_register hl]
              rfl
          | none =>
              rw [perform, register, hl]
              rfl

/-! ## One lookup of many -/

/-- The lookups `own` are the lookup `id` of those on `shelf`, if it is among them. -/
inductive Sole (id : Identifier) (shelf : List (ItemLookup β V)) : List (ItemLookup β V) → Prop
  | absent : (∀ l ∈ shelf, l.id ≠ id) → Sole id shelf []
  | present {i : ℕ} {l : ItemLookup β V} : shelf[i]? = some l → l.id = id →
    Sole id shelf [l.rename ρ]

/-- Of the lookups of `c`, the catalogue `c'` has the one of `id` and nothing else. -/
structure Isolates (id : Identifier) (c c' : Catalogue β V) : Prop where
  label_eq : c'.registry.label = c.registry.label
  shelves : ∃ shelf own, Holds c shelf ∧ Holds c' own ∧ Sole ρ id shelf own

theorem Isolates.empty (id : Identifier) :
    Isolates ρ id (.empty : Catalogue β V) .empty := by
  refine ⟨rfl, [], [], Holds.empty, Holds.empty, .absent ?_⟩
  intro l hl
  cases hl

variable {ρ}

/-- A call about another lookup leaves the lookup where and what it is. -/
theorem Outcome.getElem?_iff {c : Catalogue β V} {shelf shelf' : List (ItemLookup β V)}
    {call : Call β V} {answer : Answer β V} (h : Holds c shelf)
    (ho : Outcome shelf call shelf' answer) {id : Identifier}
    (hother : c.subject (.call call : Command β V C) ≠ some id) {i : ℕ} {l : ItemLookup β V}
    (hid : l.id = id) : shelf'[i]? = some l ↔ shelf[i]? = some l := by
  cases ho with
  | malformed _ => exact Iff.rfl
  | found _ _ _ => exact Iff.rfl
  | conflict _ _ _ => exact Iff.rfl
  | unknown _ => exact Iff.rfl
  | @made name types new _ hname =>
      have hne : new ≠ id := by
        rintro rfl
        rw [subject, hname] at hother
        exact hother rfl
      by_cases hi : i < shelf.length
      · rw [List.getElem?_append_left hi]
      · rw [List.getElem?_append_right (Nat.le_of_not_lt hi),
          List.getElem?_eq_none (Nat.le_of_not_lt hi)]
        constructor
        · intro hl
          obtain rfl := List.mem_singleton.1 (List.mem_of_getElem? hl)
          exact absurd hid hne
        · intro hl
          cases hl
  | @registered ref r m hm =>
      have hne : m.id ≠ id := by
        rintro rfl
        rw [subject, h.lookup?_eq, hm] at hother
        exact hother rfl
      by_cases hi : ref.index = i
      · subst hi
        rw [List.getElem?_set_self (List.getElem?_eq_some_iff.1 hm).1, hm]
        constructor
        · intro hl
          rw [← Option.some.inj hl, ItemLookup.id_register] at hid
          exact absurd hid hne
        · intro hl
          rw [← Option.some.inj hl] at hid
          exact absurd hid hne
      · rw [List.getElem?_set_ne hi]

theorem Sole.congr {id : Identifier} {shelf shelf' own : List (ItemLookup β V)}
    (h : Sole ρ id shelf own)
    (hshelf : ∀ (i : ℕ) (l : ItemLookup β V), l.id = id → (shelf'[i]? = some l ↔ shelf[i]? = some l)) :
    Sole ρ id shelf' own := by
  cases h with
  | absent habsent =>
      refine .absent fun l hl hid => ?_
      obtain ⟨i, hi⟩ := List.mem_iff_getElem?.1 hl
      exact habsent l (List.mem_of_getElem? ((hshelf i l hid).1 hi)) hid
  | present hl hid => exact .present ((hshelf _ _ hid).2 hl) hid

namespace Isolates

variable {id : Identifier} {c c' : Catalogue β V}

/-- A command about another lookup, or about none, goes by unnoticed. -/
theorem of_other (h : Isolates ρ id c c') (behave : β → Stack V → C → Option V)
    {command : Command β V C} (hother : c.subject command ≠ some id) :
    Isolates ρ id (c.respond behave command).state c' := by
  refine ⟨h.label_eq.trans (label_respond behave c command).symm, ?_⟩
  obtain ⟨shelf, own, hc, hc', hsole⟩ := h.shelves
  cases command with
  | ask ref q => exact ⟨shelf, own, hc, hc', hsole⟩
  | call call =>
      obtain ⟨shelf', ho, hstate⟩ := hc.perform call
      exact ⟨shelf', own, hstate, hc', hsole.congr fun i l hid => ho.getElem?_iff hc hother hid⟩

/-- The lookup stands at the first place. -/
theorem lookup?_eq (h : Isolates ρ id c c') {ref : LookupRef} {l : ItemLookup β V}
    (hl : c.lookup? ref = some l) (hid : l.id = id) : c'.lookup? ⟨0⟩ = some (l.rename ρ) := by
  obtain ⟨shelf, own, hc, hc', hsole⟩ := h.shelves
  rw [hc.lookup?_eq] at hl
  rw [hc'.lookup?_eq]
  cases hsole with
  | absent habsent => exact absurd hid (habsent l (List.mem_of_getElem? hl))
  | @present i m hm hmid =>
      have hplace := hc.place_unique hl hm (hid.trans hmid.symm)
      rw [← hplace, hl] at hm
      rw [Option.some.inj hm]
      rfl

/-- The lookup changes alike on both sides. -/
theorem setLookup (h : Isolates ρ id c c') {ref : LookupRef} {l m : ItemLookup β V}
    (hl : c.lookup? ref = some l) (hid : l.id = id) (hm : m.id = l.id)
    (htypes : m.types = l.types) :
    Isolates ρ id (c.setLookup ref m) (c'.setLookup ⟨0⟩ (m.rename ρ)) := by
  refine ⟨h.label_eq, ?_⟩
  have hl' := h.lookup?_eq hl hid
  obtain ⟨shelf, own, hc, hc', hsole⟩ := h.shelves
  rw [hc.lookup?_eq] at hl
  rw [hc'.lookup?_eq] at hl'
  refine ⟨_, _, hc.setLookup hl hm htypes, hc'.setLookup hl' hm htypes, ?_⟩
  have hset : own.set 0 (m.rename ρ) = [m.rename ρ] := by
    cases hsole with
    | absent _ => cases hl'
    | present _ _ => rfl
  rw [hset]
  exact .present (List.getElem?_set_self (List.getElem?_eq_some_iff.1 hl).1) (hm.trans hid)

/-- A request for the lookup gets it on both sides, or the same conflict. -/
theorem get (h : Isolates ρ id c c') (types : Signature) :
    (c'.get id types).answer = (c.get id types).answer.map (fun _ => ⟨0⟩) ∧
      (c'.get id types).events = (c.get id types).events ∧
      Isolates ρ id (c.get id types).state (c'.get id types).state := by
  have hlabel : (c'.get id types).state.registry.label = (c.get id types).state.registry.label := by
    rw [label_get, label_get, h.label_eq]
  obtain ⟨shelf, own, hc, hc', hsole⟩ := h.shelves
  cases hsole with
  | absent habsent =>
      have hnone : ∀ l ∈ ([] : List (ItemLookup β V)), l.id ≠ id := fun l hl => by cases hl
      obtain ⟨hstate, hanswer⟩ := hc.get_of_forall_ne habsent types
      obtain ⟨hstate', hanswer'⟩ := hc'.get_of_forall_ne hnone types
      refine ⟨?_, ?_, hlabel, _, _, hstate, hstate', ?_⟩
      · rw [hanswer, hanswer']
        rfl
      · rw [events_get, events_get, hc.get?_of_forall_ne habsent, hc'.get?_of_forall_ne hnone,
          h.label_eq]
      · exact .present List.getElem?_concat_length rfl
  | @present i l hl hid =>
      subst hid
      have hl' : [l.rename ρ][0]? = some (l.rename ρ) := rfl
      obtain ⟨hstate, hanswer⟩ := hc.get_of_getElem? hl types
      obtain ⟨hstate', hanswer'⟩ := hc'.get_of_getElem? hl' types
      refine ⟨?_, ?_, hlabel, _, _, hstate, hstate', .present hl rfl⟩
      · change (c'.get l.id types).answer = _ at hanswer'
        rw [hanswer, hanswer', ItemLookup.types_rename]
        split
        · rfl
        · rfl
      · have hrecord' := hc'.get?_of_getElem? hl'
        rw [ItemLookup.id_rename] at hrecord'
        rw [events_get, events_get, hc.get?_of_getElem? hl, hrecord', if_neg (Option.some_ne_none _),
          if_neg (Option.some_ne_none _)]

/-- A command about the lookup is answered alike on both sides, and reported alike. -/
theorem respond (h : Isolates ρ id c c') (behave : β → Stack V → C → Option V)
    {command : Command β V C} (hsubject : c.subject command = some id) :
    let e := c.respond behave command
    let e' := c'.respond behave (command.alone ρ)
    c'.subject (command.alone ρ) = some id ∧ e'.answer = e.answer.alone ρ ∧ e'.events = e.events ∧
      Isolates ρ id e.state e'.state := by
  intro e e'
  cases command with
  | ask ref q =>
      obtain ⟨l, hl, hid⟩ := leads_of_subject hsubject rfl
      have hl' := h.lookup?_eq hl hid
      refine ⟨?_, ?_, rfl, h⟩
      · rw [Command.alone, subject, hl', Option.map_some, ItemLookup.id_rename, hid]
      · show (c'.respond behave (.ask ⟨0⟩ q)).answer = _
        rw [answer_respond_ask behave hl', ItemLookup.ask_rename]
        show _ = Response.alone ρ (c.respond behave (.ask ref q)).answer
        rw [answer_respond_ask behave hl]
        rfl
  | call call =>
      cases call with
      | request name types =>
          have hname := read_of_subject hsubject
          obtain ⟨hanswer, hevents, hstate⟩ := h.get types
          have he : e = (c.request name types).map fun a => .answer (.lookup a) := rfl
          have he' : e' = (c'.request name types).map fun a => .answer (.lookup a) := rfl
          rw [request_of_read hname] at he he'
          rw [he, he']
          refine ⟨hsubject, ?_, hevents, hstate⟩
          exact congrArg (fun a => Response.answer (.lookup a)) hanswer
      | register ref r =>
          obtain ⟨l, hl, hid⟩ := leads_of_subject hsubject rfl
          have hl' := h.lookup?_eq hl hid
          have he : e = ((c.perform (.register ref r)).map .answer) := rfl
          have he' : e' = ((c'.perform (.register ⟨0⟩ (r.rename ρ))).map .answer) := rfl
          rw [perform_register hl] at he
          rw [perform_register hl', ItemLookup.register_rename] at he'
          rw [he, he']
          refine ⟨?_, rfl, rfl, ?_⟩
          · rw [Command.alone, subject, hl', Option.map_some, ItemLookup.id_rename, hid]
          · exact h.setLookup hl hid (ItemLookup.id_register l r) (ItemLookup.types_register l r)

end Isolates

/-! ## Runs -/

variable [DecidableEq ι]

/-- What comes of the commands about a lookup comes of them without the others. -/
theorem Isolates.log_eq {id : Identifier} {i : ι} {cs cs' : ι → Catalogue β V}
    (h : Isolates ρ id (cs i) (cs' i)) (behave : β → Stack V → C → Option V)
    (run : List (ι × Command β V C)) :
    let own := (log behave cs run).filter (Occurrence.concerns i id)
    log behave cs' (own.map fun o => (o.catalogue, o.command.alone ρ)) =
      own.map (Occurrence.alone ρ) := by
  induction run generalizing cs cs' with
  | nil => rfl
  | cons head run ih =>
      obtain ⟨j, command⟩ := head
      intro own
      by_cases hconcerns : (occur behave j (cs j) command).concerns i id = true
      · have hown : own = _ :: _ := List.filter_cons_of_pos hconcerns
        obtain ⟨rfl, hsubject⟩ := concerns_occur_iff.1 hconcerns
        obtain ⟨hsubject', hanswer, hevents, hstate⟩ := h.respond behave hsubject
        have hoccur : occur behave j (cs' j) (command.alone ρ) =
            (occur behave j (cs j) command).alone ρ := by
          rw [occur, occur, Occurrence.alone, hsubject', hanswer, hevents, hsubject]
        have hnext : Isolates ρ id
            (Function.update cs j ((cs j).respond behave command).state j)
            (Function.update cs' j ((cs' j).respond behave (command.alone ρ)).state j) := by
          rw [Function.update_self, Function.update_self]
          exact hstate
        rw [hown, List.map_cons, List.map_cons]
        exact congrArg₂ List.cons hoccur (ih hnext)
      · have hown : own = _ := List.filter_cons_of_neg hconcerns
        rw [hown]
        refine ih ?_
        by_cases hj : j = i
        · subst hj
          rw [Function.update_self]
          exact h.of_other behave fun hsubject => hconcerns (concerns_occur_iff.2 ⟨rfl, hsubject⟩)
        · rw [Function.update_of_ne (Ne.symm hj)]
          exact h

/-- In any run of commands to any number of catalogues, take the commands about one lookup, given by
its catalogue and its identifier, and run them without the others, with the providers that the lookup
makes anywhere.  Everything comes of them that came of them before: the same answers, the same
findings from the same providers asked in the same order, and the same events.

The lookup then stands at the first place, and all commands about it go through the one reference that
it stood at before. -/
theorem log_alone (behave : β → Stack V → C → Option V) (run : List (ι × Command β V C)) (i : ι)
    (id : Identifier) (ρ : Address → Address) :
    let new : ι → Catalogue β V := fun _ => empty
    let full := log behave new run
    let own := full.filter (Occurrence.concerns i id)
    full.map Occurrence.given = run ∧
      log behave new (own.map fun o => (o.catalogue, o.command.alone ρ)) =
        own.map (Occurrence.alone ρ) ∧
      ∃ place, ∀ o ∈ own, ∀ ref, o.Through ref → ref = place := by
  intro new full own
  have hholds : Holds (new i) [] := Holds.empty
  have hempty : Isolates ρ id (new i) (new i) := Isolates.empty ρ id
  obtain ⟨place, -, hplace⟩ := exists_place behave hholds id run
  exact ⟨map_given_log behave new run, hempty.log_eq behave run, place, hplace⟩

end Catalogue

end AttributeRegistry
