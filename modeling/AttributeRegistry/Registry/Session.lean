import AttributeRegistry.Registry.Basic

/-!
# Sessions with a registry

A session is a registry whose constructor numbers what it builds, with the instances and the
cursors that were kept under names.  Its steps name lookups by text; a text that is no identifier
fails the step and changes nothing.
-/

namespace AttributeRegistry.Registry

/-- What the constructor of a session builds. -/
structure Numbered where
  /-- The place among all that was built, from one. -/
  number : Nat
  id : Identifier
  types : Signature

/-- A step of a session. -/
inductive Step where
  /-- Requests a lookup and keeps it under a name, if one is given; `fails` says what becomes of
  the constructor if it is run. -/
  | request (text : String) (types : Signature) (keep : Option String) (fails : Bool)
  /-- Asks whether two kept instances are one. -/
  | same (a b : String)
  | contains (text : String)
  | registeredTypes (text : String)
  | size
  | isEmpty
  | label
  | list
  | cursor (name : String)
  /-- Moves a cursor on by one. -/
  | next (name : String)
  /-- Moves a cursor to its end. -/
  | rest (name : String)
  | inspect

/-- What a step answers. -/
inductive Finding where
  | done
  | found (i : Option Numbered)
  | instances (l : List Numbered)
  | flag (b : Bool)
  | count (n : Nat)
  | text (s : String)
  | types (t : Option Signature)
  | badIdentifier (e : IdentifierError)
  | refused (e : RequestError Unit)
  | unknownName

/-- A registry in use. -/
structure Session where
  registry : Registry Numbered
  /-- How many instances the constructor has built. -/
  built : Nat
  held : Table String Numbered
  cursors : Table String (Cursor Numbered)

/-- The report of a step. -/
structure Report where
  finding : Finding
  /-- The number of records after it. -/
  size : Nat
  /-- The number of instances built by then. -/
  built : Nat
  /-- The events, in listed order. -/
  log : List Event

namespace Session

/-- An empty registry of which nothing is kept. -/
def start (label : String) : Session := ⟨.empty label, 0, ∅, ∅⟩

/-- The constructor of a session: the next number, unless it is to fail. -/
def construct (s : Session) (fails : Bool) (id : Identifier) (types : Signature) :
    Except Unit Numbered :=
  if fails then .error () else .ok ⟨s.built + 1, id, types⟩

/-- Requests a lookup and keeps what is found. -/
def request (s : Session) (id : Identifier) (types : Signature) (keep : Option String)
    (fails : Bool) : Effect Session Finding :=
  let reply := s.registry.request (s.construct fails) id types
  let s := { s with
    registry := reply.registry
    built := if reply.built.isSome then s.built + 1 else s.built }
  match reply.answer, keep with
  | .ok i, some name => ⟨{ s with held := s.held.insert name i }, .found (some i), reply.events⟩
  | .ok i, none => ⟨s, .found (some i), reply.events⟩
  | .error e, _ => ⟨s, .refused e, reply.events⟩

/-- Takes one step. -/
def step (s : Session) : Step → Effect Session Finding
  | .request text types keep fails =>
    match Identifier.parse text with
    | .ok id => s.request id types keep fails
    | .error e => ⟨s, .badIdentifier e, []⟩
  | .same a b =>
    match s.held.get? a, s.held.get? b with
    | some i, some j => ⟨s, .flag (i.number == j.number), []⟩
    | _, _ => ⟨s, .unknownName, []⟩
  | .contains text =>
    match Identifier.parse text with
    | .ok id => ⟨s, .flag (s.registry.contains id), []⟩
    | .error e => ⟨s, .badIdentifier e, []⟩
  | .registeredTypes text =>
    match Identifier.parse text with
    | .ok id => ⟨s, .types (s.registry.registeredTypes id), []⟩
    | .error e => ⟨s, .badIdentifier e, []⟩
  | .size => ⟨s, .count s.registry.size, []⟩
  | .isEmpty => ⟨s, .flag s.registry.isEmpty, []⟩
  | .label => ⟨s, .text s.registry.label, []⟩
  | .list => ⟨s, .instances s.registry.lookups, []⟩
  | .cursor name =>
    ⟨{ s with cursors := s.cursors.insert name s.registry.cursor }, .done, []⟩
  | .next name =>
    match s.cursors.get? name with
    | some c => ⟨{ s with cursors := s.cursors.insert name c.next.2 }, .found c.next.1, []⟩
    | none => ⟨s, .unknownName, []⟩
  | .rest name =>
    match s.cursors.get? name with
    | some c => ⟨{ s with cursors := s.cursors.insert name c.rest.2 }, .instances c.rest.1, []⟩
    | none => ⟨s, .unknownName, []⟩
  | .inspect => ⟨s, .text (AttributeRegistry.inspect s.registry), []⟩

/-- The reports of a list of steps. -/
def run (s : Session) : List Step → List Report
  | [] => []
  | x :: rest =>
    let e := s.step x
    { finding := e.answer
      size := e.state.registry.size
      built := e.state.built
      log := Event.listing e.events } :: e.state.run rest

end Session

end AttributeRegistry.Registry
