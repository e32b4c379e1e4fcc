import Mathlib.Logic.Function.Basic
import AttributeRegistry.Proofs.Catalogue.Sharing
import AttributeRegistry.Proofs.ItemLookup.Consultation

/-!
# Several catalogues in use

Calls change a catalogue and questions to its lookups only read it.  Both are commands, and a run of
commands goes to any number of catalogues, in any order.  Its `log` has everything that comes of it,
command by command, and says which lookup each command was about.

A lookup stays where it is, so whatever leads to the lookup of an identifier is the same reference
from first to last (`exists_place`).
-/

namespace AttributeRegistry

variable {ι β V C : Type}

/-! ## Questions to a lookup -/

/-- What a lookup can be asked. -/
inductive ItemLookup.Question (V C : Type) where
  | find (stack : Stack V) (context : C)
  | providerOf (item : ItemRef V)
  | providers
  | fallbackCount

/-- What a lookup says to a question. -/
inductive ItemLookup.Finding (β V : Type) where
  /-- The value that was found, if any, and the providers that were asked for it, in order. -/
  | found (value : Option V) (asked : List (Provider β))
  | provider (p : Option (Provider β))
  | providers (view : Snapshot (ItemRef V) (Provider β))
  | fallbackCount (n : ℕ)

/-- Asks a lookup, where `behave` says what the rules of providers come to. -/
def ItemLookup.ask (behave : β → Stack V → C → Option V) (l : ItemLookup β V) :
    Question V C → Finding β V
  | .find stack context =>
    let q := l.query (Provider.answer behave stack context) stack
    .found q.1 q.2
  | .providerOf item => .provider (l.provider? item)
  | .providers => .providers l.view
  | .fallbackCount => .fallbackCount l.fallbackCount

namespace Catalogue

/-! ## Commands -/

/-- A call, or a question to the lookup that a reference leads to. -/
inductive Command (β V C : Type) where
  | call (call : Call β V)
  | ask (ref : LookupRef) (q : ItemLookup.Question V C)

/-- What a command comes back with. -/
inductive Response (β V : Type) where
  | answer (a : Answer β V)
  | finding (f : ItemLookup.Finding β V)

/-- Carries out a command.  A question is answered from the lookup as it is, and reports nothing. -/
def respond (behave : β → Stack V → C → Option V) (c : Catalogue β V) :
    Command β V C → Effect (Catalogue β V) (Response β V)
  | .call call => (c.perform call).map .answer
  | .ask ref q =>
    { state := c
      answer := match c.lookup? ref with
        | some l => .finding (l.ask behave q)
        | none => .answer .unknownLookup
      events := [] }

/-- The reference that a command goes through. -/
def Command.ref? : Command β V C → Option LookupRef
  | .call (.request _ _) => none
  | .call (.register ref _) => some ref
  | .ask ref _ => some ref

/-- The reference that is handed out. -/
def Response.ref? : Response β V → Option LookupRef
  | .answer (.lookup (.ok ref)) => some ref
  | _ => none

/-- The identifier of the lookup that a command is about: the one requested, or the one of the lookup
that the command goes through. -/
def subject (c : Catalogue β V) : Command β V C → Option Identifier
  | .call (.request name _) => name.read.toOption
  | .call (.register ref _) => (c.lookup? ref).map (·.id)
  | .ask ref _ => (c.lookup? ref).map (·.id)

/-- A request is about the identifier that it names. -/
theorem read_of_subject {c : Catalogue β V} {name : Name} {types : Signature} {id : Identifier}
    (h : c.subject (.call (.request name types) : Command β V C) = some id) :
    name.read = .ok id := by
  rw [subject] at h
  cases hread : name.read with
  | error e =>
      rw [hread] at h
      cases h
  | ok named =>
      rw [hread] at h
      rw [Option.some.inj h]

/-! ## Runs -/

/-- A command with the catalogue it went to, the lookup it was about and all that came of it. -/
structure Occurrence (ι β V C : Type) where
  catalogue : ι
  subject : Option Identifier
  command : Command β V C
  response : Response β V
  events : List Event

/-- The command as it was given. -/
def Occurrence.given (o : Occurrence ι β V C) : ι × Command β V C := (o.catalogue, o.command)

/-- The command went through the reference, or handed it out. -/
def Occurrence.Through (o : Occurrence ι β V C) (ref : LookupRef) : Prop :=
  o.command.ref? = some ref ∨ o.response.ref? = some ref

/-- One command to the catalogue `i`, which is `c`. -/
def occur (behave : β → Stack V → C → Option V) (i : ι) (c : Catalogue β V)
    (command : Command β V C) : Occurrence ι β V C :=
  let e := c.respond behave command
  ⟨i, c.subject command, command, e.answer, e.events⟩

variable [DecidableEq ι]

/-- The command was about the lookup `id` of the catalogue `i`. -/
def Occurrence.concerns (i : ι) (id : Identifier) (o : Occurrence ι β V C) : Bool :=
  o.catalogue = i ∧ o.subject = some id

theorem concerns_occur_iff {behave : β → Stack V → C → Option V} {i j : ι} {c : Catalogue β V}
    {command : Command β V C} {id : Identifier} :
    (occur behave j c command).concerns i id = true ↔ j = i ∧ c.subject command = some id :=
  decide_eq_true_iff

/-- Everything that comes of a run of commands to the catalogues `cs`. -/
def log (behave : β → Stack V → C → Option V) (cs : ι → Catalogue β V) :
    List (ι × Command β V C) → List (Occurrence ι β V C)
  | [] => []
  | (i, command) :: run =>
    occur behave i (cs i) command ::
      log behave (Function.update cs i ((cs i).respond behave command).state) run

/-- A log lists the commands of its run. -/
theorem map_given_log (behave : β → Stack V → C → Option V) (cs : ι → Catalogue β V)
    (run : List (ι × Command β V C)) : (log behave cs run).map Occurrence.given = run := by
  induction run generalizing cs with
  | nil => rfl
  | cons head run ih => rw [log, List.map_cons, ih, occur, Occurrence.given]

/-! ## What a reference leads to -/

/-- The reference leads to the lookup `id`. -/
def Leads (c : Catalogue β V) (ref : LookupRef) (id : Identifier) : Prop :=
  ∃ l, c.lookup? ref = some l ∧ l.id = id

/-- A command goes through a reference that leads to the lookup that it is about. -/
theorem leads_of_subject {c : Catalogue β V} {command : Command β V C} {id : Identifier}
    (h : c.subject command = some id) {ref : LookupRef} (href : command.ref? = some ref) :
    c.Leads ref id := by
  cases command with
  | call call =>
      cases call with
      | request name types => cases href
      | register ref' r =>
          obtain rfl := Option.some.inj href
          exact Option.map_eq_some_iff.1 h
  | ask ref' q =>
      obtain rfl := Option.some.inj href
      exact Option.map_eq_some_iff.1 h

/-- A question to a lookup that there is gets what the lookup says. -/
theorem answer_respond_ask (behave : β → Stack V → C → Option V) {c : Catalogue β V}
    {ref : LookupRef} {l : ItemLookup β V} (hl : c.lookup? ref = some l)
    (q : ItemLookup.Question V C) :
    (c.respond behave (.ask ref q)).answer = .finding (l.ask behave q) := by
  simp only [respond, hl]

/-- Only a request that gets its lookup hands out a reference. -/
theorem Response.ref?_eq_some_iff {response : Response β V} {ref : LookupRef} :
    response.ref? = some ref ↔ response = .answer (.lookup (.ok ref)) := by
  unfold ref?
  split
  · simp
  · next hother =>
    simp only [reduceCtorEq, false_iff]
    rintro rfl
    exact hother ref rfl

namespace Holds

variable {c : Catalogue β V} {shelf : List (ItemLookup β V)}

theorem leads_iff (h : Holds c shelf) {ref : LookupRef} {id : Identifier} :
    c.Leads ref id ↔ ∃ l, shelf[ref.index]? = some l ∧ l.id = id := by
  rw [Leads, h.lookup?_eq]

/-- There is one reference to the lookup of an identifier. -/
theorem leads_unique (h : Holds c shelf) {ref ref' : LookupRef} {id : Identifier}
    (href : c.Leads ref id) (href' : c.Leads ref' id) : ref = ref' := by
  obtain ⟨l, hl, rfl⟩ := h.leads_iff.1 href
  obtain ⟨m, hm, hid⟩ := h.leads_iff.1 href'
  exact congrArg LookupRef.mk (h.place_unique hl hm hid.symm)

/-- A catalogue that holds lookups does so after any command.  What leads to a lookup still does, and
what is handed out leads to the lookup that was asked for. -/
theorem respond (h : Holds c shelf) (behave : β → Stack V → C → Option V)
    (command : Command β V C) :
    let e := c.respond behave command
    (∃ shelf', Holds e.state shelf') ∧
      (∀ ref id, c.Leads ref id → e.state.Leads ref id) ∧
      ∀ ref id, c.subject command = some id → e.answer.ref? = some ref → e.state.Leads ref id := by
  intro e
  cases command with
  | ask ref q =>
      refine ⟨⟨shelf, h⟩, fun _ _ hleads => hleads, ?_⟩
      intro ref' id hsubject hhanded
      obtain ⟨l, hl, -⟩ := leads_of_subject hsubject rfl
      rw [answer_respond_ask behave hl] at hhanded
      cases hhanded
  | call call =>
      obtain ⟨shelf', ho, h'⟩ := h.perform call
      change Holds e.state shelf' at h'
      refine ⟨⟨shelf', h'⟩, ?_, ?_⟩
      · intro ref id hleads
        obtain ⟨l, hl, rfl⟩ := h.leads_iff.1 hleads
        exact h'.leads_iff.2 (ho.kept hl)
      · intro ref id hsubject hhanded
        rw [Response.answer.inj (Response.ref?_eq_some_iff.1 hhanded)] at ho
        rw [h'.leads_iff]
        cases ho with
        | @found name types i l hl hname htypes =>
            rw [read_of_subject hsubject] at hname
            exact ⟨l, hl, (Except.ok.inj hname).symm⟩
        | @made name types new hnew hname =>
            rw [read_of_subject hsubject] at hname
            exact ⟨.new new types, List.getElem?_concat_length, (Except.ok.inj hname).symm⟩

end Holds

/-- In a run, the commands about one lookup all go through one reference and hand out no other. -/
theorem exists_place (behave : β → Stack V → C → Option V) {cs : ι → Catalogue β V} {i : ι}
    {shelf : List (ItemLookup β V)} (h : Holds (cs i) shelf) (id : Identifier)
    (run : List (ι × Command β V C)) :
    ∃ place, (∀ ref, (cs i).Leads ref id → ref = place) ∧
      ∀ o ∈ (log behave cs run).filter (Occurrence.concerns i id), ∀ ref, o.Through ref →
        ref = place := by
  induction run generalizing cs shelf with
  | nil =>
      -- there may be no lookup, and then any place will do
      by_cases hleads : ∃ ref, (cs i).Leads ref id
      · obtain ⟨place, hplace⟩ := hleads
        refine ⟨place, fun ref href => h.leads_unique href hplace, ?_⟩
        intro o ho
        cases ho
      · refine ⟨⟨0⟩, fun ref href => absurd ⟨ref, href⟩ hleads, ?_⟩
        intro o ho
        cases ho
  | cons head run ih =>
      obtain ⟨j, command⟩ := head
      rw [log, List.filter_cons]
      by_cases hj : j = i
      · subst hj
        obtain ⟨⟨shelf', h'⟩, hkept, hhanded⟩ := h.respond behave command
        rw [← Function.update_self j ((cs j).respond behave command).state cs] at h'
        obtain ⟨place, hplace, hrest⟩ := ih h'
        rw [Function.update_self] at hplace
        refine ⟨place, fun ref href => hplace ref (hkept ref id href), ?_⟩
        split
        · next hconcerns =>
          have hsubject := (concerns_occur_iff.1 hconcerns).2
          intro o ho ref hthrough
          rcases List.mem_cons.1 ho with rfl | ho
          · rcases hthrough with hcommand | hresponse
            · exact hplace ref (hkept ref id (leads_of_subject hsubject hcommand))
            · exact hplace ref (hhanded ref id hsubject hresponse)
          · exact hrest o ho ref hthrough
        · exact hrest
      · have h' := h
        rw [← Function.update_of_ne (Ne.symm hj) ((cs j).respond behave command).state cs] at h'
        obtain ⟨place, hplace, hrest⟩ := ih h'
        rw [Function.update_of_ne (Ne.symm hj)] at hplace
        refine ⟨place, hplace, ?_⟩
        rwa [if_neg fun hconcerns => hj (concerns_occur_iff.1 hconcerns).1]

end Catalogue

end AttributeRegistry
