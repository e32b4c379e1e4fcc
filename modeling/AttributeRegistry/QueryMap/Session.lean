import AttributeRegistry.QueryMap.Call

/-!
# Sessions with a query map

A session is a query map and the snapshots that were kept of it under names.  Its steps are the
calls on the map, the reads of the kept snapshots, and questions about handles on shared texts.
Each step is reported with the size of the map after it, whether it published a generation, and
the events it caused.

A generation has no order of its own, so whatever lists bindings lists them by key.
-/

namespace AttributeRegistry.QueryMap

variable {K V : Type} [BEq K]

/-- A question to one kept snapshot. -/
inductive Query (K : Type) where
  | get (k : K)
  | contains (k : K)
  | size
  | isEmpty
  | bindings
  | keys
  | values
  | outline

/-- A step of a session. -/
inductive Step (K V : Type) where
  | call (c : Call K V)
  | look (q : Query K)
  | keep (name : String)
  | copy (name other : String)
  | ask (name : String) (q : Query K)
  /-- Asks whether two kept snapshots show the same generation. -/
  | sameGeneration (name other : String)
  | handles (a b : Shared String)

/-- What is found when two handles are compared. -/
structure HandleReport where
  samePlace : Bool
  /-- Whether the handles are equal as keys. -/
  sameKey : Bool
  sameText : Bool
  /-- Whether a copy of the first handle equals it as a key. -/
  copyIsSame : Bool
  text : String
  /-- The first as it is shown. -/
  shown : String

/-- Compares two handles. -/
def HandleReport.of (a b : Shared String) : HandleReport where
  samePlace := a.address == b.address
  sameKey := a == b
  sameText := a.value == b.value
  copyIsSame := a == a
  text := a.value
  shown := inspect a

/-- What a step answers. -/
inductive Finding (K V : Type) where
  | done
  | value (v : Option V)
  | flag (b : Bool)
  | count (n : Nat)
  /-- Bindings in order of their keys. -/
  | bindings (entries : List (K × V))
  /-- Keys in order. -/
  | keys (ks : List K)
  | values (vs : List V)
  | outline (o : Snapshot.Outline)
  /-- What came of a batch: the keys turned away with the values that kept them, if the call
  reports them, and for each entry the size that readers saw while it was pulled and whether
  they saw its key. -/
  | batch (rejected : Option (List (K × V))) (seen : List (Nat × Bool))
  | handles (r : HandleReport)
  | badKey (e : IdentifierError)
  | unknownName

/-- A map with the snapshots kept of it. -/
structure Session (K V : Type) [BEq K] where
  map : QueryMap K V
  /-- The snapshots kept, by name. -/
  kept : Table String (Snapshot K V)

/-- The report of a step. -/
structure Report (K V : Type) where
  finding : Finding K V
  /-- The size of the map after it. -/
  size : Nat
  /-- Whether the map is in another generation than before. -/
  published : Bool
  /-- The events, in listed order. -/
  log : List Event

namespace Session

variable [Ord K] [Ord V] [Inspect K] [Inspect V]

/-- An empty map of which nothing is kept. -/
def start : Session K V := ⟨∅, ∅⟩

/-- Answers a question from a snapshot. -/
def answer (s : Snapshot K V) : Query K → Finding K V
  | .get k => .value (s.get? k)
  | .contains k => .flag (s.contains k)
  | .size => .count s.size
  | .isEmpty => .flag s.isEmpty
  | .bindings => .bindings s.contents.sorted
  | .keys => .keys (s.contents.sorted.map (·.1))
  | .values => .values (s.values.mergeSort fun a b => (compare a b).isLE)
  | .outline => .outline s.outline

/-- What readers see while a call pulls the entries of its batch. -/
def sightings (m : QueryMap K V) (c : Call K V) : List (Nat × Bool) :=
  (m.pulls c).map fun p => (p.2.size, p.2.contains p.1.1)

/-- What the session shows of the answer to a call. -/
def finding (m : QueryMap K V) (c : Call K V) (a : Answer K V) : Finding K V :=
  match c, a with
  | .insertAll _, _ => .batch none (sightings m c)
  | _, .rejected t => .batch (some t.sorted) (sightings m c)
  | _, .done => .done
  | _, .value v => .value v
  | _, .flag b => .flag b
  | _, .count n => .count n

/-- Takes one step: the session after it, what it answers, and its events. -/
def step [BEq V] (s : Session K V) : Step K V → Effect (Session K V) (Finding K V)
  | .call c =>
    let e := s.map.perform c
    ⟨{ s with map := e.state }, finding s.map c e.answer, e.events⟩
  | .look q => ⟨s, answer s.map.snapshot q, []⟩
  | .keep name => ⟨{ s with kept := s.kept.insert name s.map.snapshot }, .done, []⟩
  | .copy name other =>
    match s.kept.get? name with
    | some g => ⟨{ s with kept := s.kept.insert other g }, .done, []⟩
    | none => ⟨s, .unknownName, []⟩
  | .ask name q =>
    match s.kept.get? name with
    | some g => ⟨s, answer g q, []⟩
    | none => ⟨s, .unknownName, []⟩
  | .sameGeneration name other =>
    match s.kept.get? name, s.kept.get? other with
    | some g, some h => ⟨s, .flag (g.sameGeneration h), []⟩
    | _, _ => ⟨s, .unknownName, []⟩
  | .handles a b => ⟨s, .handles (.of a b), []⟩

/-- Takes a step that may have failed to name its keys; then it changes nothing. -/
def attempt [BEq V] (s : Session K V) :
    Except IdentifierError (Step K V) → Effect (Session K V) (Finding K V)
  | .ok step => s.step step
  | .error e => ⟨s, .badKey e, []⟩

/-- The reports of a list of steps. -/
def run [BEq V] (s : Session K V) :
    List (Except IdentifierError (Step K V)) → List (Report K V)
  | [] => []
  | a :: rest =>
    let e := s.attempt a
    { finding := e.answer
      size := e.state.map.size
      published := !e.state.map.snapshot.sameGeneration s.map.snapshot
      log := Event.listing e.events } :: e.state.run rest

end Session

end AttributeRegistry.QueryMap
