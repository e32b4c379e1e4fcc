import AttributeRegistry.Scenario.Script

/-!
# Scenarios

A session has a number of independent catalogues and some providers, and keeps lookups, stacks and
views under names.  Its steps are carried out one after the other; each is reported with its
finding, the providers that were asked in its course and the events it caused.

A provider whose rule is a script takes steps while it is asked.  They act on the same session and
are part of the step that led to them.  Scripts may lead to one another, so steps are taken with a
bound on how deep they nest.
-/

namespace AttributeRegistry.Scenario

/-- Items with the names of their providers, in order of the items. -/
abbrev Bindings := List (ItemRef Value × String)

/-- What a step finds. -/
inductive Finding where
  | done
  | found (v : Option Value)
  /-- The items that a registration turned away, with the providers that they keep. -/
  | rejected (l : Bindings)
  /-- The items that have providers. -/
  | bindings (l : Bindings)
  | provider (name : Option String)
  | flag (b : Bool)
  /-- Yes or no, if the question applies. -/
  | flag? (b : Option Bool)
  | count (n : Nat)
  | text (s : String)
  | lookup (e : Catalogue.Entry)
  | entries (l : List Catalogue.Entry)
  | stack (s : Stack Value)
  | failed (e : LookupError)
  | badIdentifier (e : IdentifierError)
  | unknownName
  /-- Scripts nest too deep. -/
  | tooDeep

/-- What is noted while a step is carried out. -/
inductive Note where
  | asked (name : String)
  /-- A step of a script was taken and found this. -/
  | nested (f : Finding)

/-- A session. -/
structure Session where
  catalogues : Array (Catalogue Behaviour Value)
  providers : Table String (Provider Behaviour)
  /-- The number of places at which providers live. -/
  places : Nat
  /-- The lookups kept, by name, each with the number of its catalogue. -/
  lookups : Table String (Nat × LookupRef)
  heldStacks : Table String (Stack Value)
  views : Table String (Snapshot (ItemRef Value) (Provider Behaviour))
  /-- What was noted in the course of the current step, oldest first. -/
  notes : Array Note
  /-- The events of the current step, oldest first. -/
  events : Array Event

/-- An activity that reads and changes a session. -/
abbrev Play := StateM Session

namespace Session

/-- A session with `catalogues` empty catalogues and the given providers. -/
def start (catalogues : Nat) (behaviours : List Behaviour) : Session where
  catalogues := Array.replicate catalogues .empty
  providers := behaviours.foldl (fun t b => t.insert b.name ⟨⟨t.size⟩, .rule b⟩) ∅
  places := behaviours.length
  lookups := ∅
  heldStacks := ∅
  views := ∅
  notes := #[]
  events := #[]

/-- The lookup that a catalogue has at a reference. -/
def lookupAt (s : Session) (catalogue : Nat) (ref : LookupRef) :
    Option (ItemLookup Behaviour Value) :=
  s.catalogues[catalogue]?.bind fun c => c.lookup? ref

/-- The lookup kept under a name. -/
def lookup? (s : Session) (name : String) : Option (ItemLookup Behaviour Value) :=
  (s.lookups.get? name).bind fun l => s.lookupAt l.1 l.2

/-- The stack that a term stands for. -/
def stack? (s : Session) : StackTerm → Option (Stack Value)
  | .new stack => some stack
  | .kept name => s.heldStacks.get? name

/-- Items with the names of their providers, in order of the items. -/
def bindings (t : Table (ItemRef Value) (Provider Behaviour)) : Bindings :=
  t.sorted.map fun e => (e.1, nameOf e.2)

end Session

namespace Play

/-- Adds to the notes of the current step. -/
def note (n : Note) : Play Unit :=
  modify fun s => { s with notes := s.notes.push n }

/-- Adds to the events of the current step. -/
def emit (events : List Event) : Play Unit :=
  modify fun s => { s with events := s.events ++ events }

/-- Goes on with what is read from the session, if there is such a thing. -/
def known {α : Type} (read : Session → Option α) (k : α → Play Finding) : Play Finding := do
  match read (← get) with
  | some a => k a
  | none => pure .unknownName

/-- Changes a catalogue by an operation and goes on with the answer. -/
def onCatalogue {α : Type} (catalogue : Nat)
    (f : Catalogue Behaviour Value → Option (Effect (Catalogue Behaviour Value) α))
    (k : α → Play Finding) : Play Finding :=
  known (fun s => s.catalogues[catalogue]?.bind f) fun e => do
    modify fun s => { s with catalogues := s.catalogues.setIfInBounds catalogue e.state }
    emit e.events
    k e.answer

/-- Requests a lookup and keeps it under a name. -/
def request (name : String) (catalogue : Nat)
    (f : Catalogue Behaviour Value → Effect (Catalogue Behaviour Value)
      (Except LookupError LookupRef)) : Play Finding :=
  onCatalogue catalogue (fun c => some (f c)) fun
    | .error e => pure (.failed e)
    | .ok ref => do
      modify fun s => { s with lookups := s.lookups.insert name (catalogue, ref) }
      known (·.lookup? name) fun l => pure (.lookup ⟨l.id, l.types⟩)

/-- Performs a registration on the lookup kept under a name. -/
def register (name : String) (r : ItemLookup.Registration Behaviour Value) : Play Finding :=
  known (·.lookups.get? name) fun (catalogue, ref) =>
    onCatalogue catalogue (fun c => c.register ref r) fun
      | .error e => pure (.failed e)
      | .ok rejected => pure (.rejected (Session.bindings rejected))

/-- Answers by a rule; `take` takes the steps of a script. -/
def follow (take : Step → Play Finding) (b : Behaviour) (stack : Stack Value) (context : Context) :
    Rule → Play (Option Value)
  | .const v => pure (some v)
  | .absent => pure none
  | .whenever c v => pure (if c.holds stack context then some v else none)
  | .measure q => pure ((q.value? stack context).bind b.form.value?)
  | .own => pure (stack.item.value.valueAs b.attr)
  | .script steps next => do
    steps.forM fun step => do note (.nested (← take step))
    follow take b stack context next

/-- Asks a provider, which is noted if it has a name of its own. -/
def consult (take : Step → Play Finding) (stack : Stack Value) (context : Context)
    (p : Provider Behaviour) : Play (Option Value) :=
  p.consult (fun b => do note (.asked b.name); follow take b stack context b.rule) stack

/-- Finds the attribute of the lookup that is kept under a name now.  The search stays with that
lookup, whatever the name comes to mean in its course. -/
def find (take : Step → Play Finding) (name : String) (stack : Stack Value) (context : Context) :
    Play Finding :=
  known (·.lookups.get? name) fun (catalogue, ref) =>
    known (·.lookupAt catalogue ref) fun l => do
      let current := return ((← get).lookupAt catalogue ref).getD l
      return .found (← ItemLookup.find current (consult take stack context) stack)

/-- Carries out a step; `take` takes the steps of the scripts that it leads to. -/
def perform (take : Step → Play Finding) : Step → Play Finding
  | .get name catalogue text types named =>
    if named then request name catalogue fun c => c.getNamed text types
    else match Identifier.parse text with
      | .ok id => request name catalogue fun c => c.get id types
      | .error e => pure (.badIdentifier e)
  | .find name term context =>
    known (·.stack? term) fun stack => find take name stack context
  | .registerFor name provider items =>
    known (·.providers.get? provider) fun p => register name (.forItems p items)
  | .registerSelf name items => do
    let address : Address := ⟨(← get).places⟩
    modify fun s => { s with places := s.places + 1 }
    register name (.self address items)
  | .registerFallback name provider =>
    known (·.providers.get? provider) fun p => do
      match ← register name (.fallback p) with
      | .rejected _ => pure .done
      | other => pure other
  | .fallbackCount name =>
    known (·.lookup? name) fun l => pure (.count l.fallbackCount)
  | .providerOf name item =>
    known (·.lookup? name) fun l => pure (.provider ((l.provider? item).map nameOf))
  | .sameProvider name a b =>
    known (·.lookup? name) fun l =>
      pure (.flag? do return (← l.provider? a) == (← l.provider? b))
  | .providers name =>
    known (·.lookup? name) fun l =>
      pure (.bindings (Session.bindings l.view.contents))
  | .keepView name view =>
    known (·.lookup? name) fun l => do
      modify fun s => { s with views := s.views.insert view l.view }
      pure .done
  | .showView view =>
    known (·.views.get? view) fun v => pure (.bindings (Session.bindings v.contents))
  | .consult provider term context =>
    known (·.providers.get? provider) fun p =>
      known (·.stack? term) fun stack =>
        return .found (← consult take stack context p)
  | .providersEqual a b =>
    known (·.providers.get? a) fun p =>
      known (·.providers.get? b) fun q => pure (.flag (p == q))
  | .inspectProvider provider =>
    known (·.providers.get? provider) fun p => pure (.text (inspect p))
  | .describe name =>
    known (·.lookup? name) fun l => pure (.lookup ⟨l.id, l.types⟩)
  | .inspectLookup name =>
    known (·.lookup? name) fun l => pure (.text (inspect l))
  | .sameLookup a b =>
    known (·.lookups.get? a) fun i =>
      known (·.lookups.get? b) fun j => pure (.flag (i == j))
  | .size catalogue =>
    known (·.catalogues[catalogue]?) fun c => pure (.count c.size)
  | .isEmpty catalogue =>
    known (·.catalogues[catalogue]?) fun c => pure (.flag c.isEmpty)
  | .entries catalogue =>
    known (·.catalogues[catalogue]?) fun c => pure (.entries c.entries)
  | .inspectCatalogue catalogue =>
    known (·.catalogues[catalogue]?) fun c => pure (.text (inspect c))
  | .keepStack name term =>
    known (·.stack? term) fun stack => do
      modify fun s => { s with heldStacks := s.heldStacks.insert name stack }
      pure .done
  | .setCount name count =>
    known (·.heldStacks.get? name) fun stack => do
      modify fun s => { s with heldStacks := s.heldStacks.insert name (stack.withCount count) }
      pure .done
  | .describeStack term =>
    known (·.stack? term) fun stack => pure (.stack stack)

/-- Takes a step whose scripts nest less than `depth` deep. -/
def take : Nat → Step → Play Finding
  | 0, _ => pure .tooDeep
  | depth + 1, step => perform (take depth) step

end Play

namespace Session

/-- The report of a step. -/
structure Report where
  finding : Finding
  /-- What was noted in its course, oldest first. -/
  notes : List Note
  /-- The events, in listed order. -/
  log : List Event

/-- How deep steps may nest.  A script that leads back to itself without end has no finding; one
that has an end may still change the stacks that decide it on its way, and so go as deep as these
have combinations.  The bound is beyond any depth that can be held in memory. -/
def nestingLimit : Nat := 0x100000000

/-- Takes one step: its report, and the session after it. -/
def step (s : Session) (x : Step) : Report × Session :=
  let (finding, t) := (Play.take nestingLimit x).run { s with notes := #[], events := #[] }
  ({ finding, notes := t.notes.toList, log := Event.listing t.events.toList }, t)

/-- The reports of a list of steps. -/
def run (s : Session) : List Step → List Report
  | [] => []
  | x :: rest => (s.step x).1 :: (s.step x).2.run rest

end Session

end AttributeRegistry.Scenario
