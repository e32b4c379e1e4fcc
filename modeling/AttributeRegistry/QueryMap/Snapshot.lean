import AttributeRegistry.Shared

/-!
# Snapshots

A snapshot is one generation of a query map: the contents that the map had from one publication
to the next.  A write never changes a generation, it publishes another, so what a snapshot shows
stays as it was when it was taken.

Generations of one map are numbered in the order of their publication.  The number and not the
contents is what makes two snapshots the same generation: a map that returns to earlier contents
is in a new generation all the same.
-/

namespace AttributeRegistry

/-- One generation of a map. -/
structure Snapshot (K V : Type) [BEq K] where
  /-- The number of the generation among those of its map. -/
  generation : Nat
  /-- The bindings, fixed for good. -/
  contents : Table K V

namespace Snapshot

variable {K V : Type} [BEq K]

/-- The value bound to `k`. -/
def get? (s : Snapshot K V) (k : K) : Option V := s.contents.get? k

/-- Whether `k` is bound. -/
def contains (s : Snapshot K V) (k : K) : Bool := s.contents.contains k

/-- The number of bindings. -/
def size (s : Snapshot K V) : Nat := s.contents.size

/-- Whether nothing is bound. -/
def isEmpty (s : Snapshot K V) : Bool := s.contents.isEmpty

/-- The bindings, each once. -/
def toList (s : Snapshot K V) : List (K × V) := s.contents.entries

/-- A loop over a snapshot goes through its bindings. -/
instance {m : Type → Type} [Monad m] : ForIn m (Snapshot K V) (K × V) :=
  ⟨fun s => forIn s.contents.entries⟩

/-- The bound keys. -/
def keys (s : Snapshot K V) : List K := s.contents.keys

/-- The bound values, one for each key. -/
def values (s : Snapshot K V) : List V := s.contents.values

/-- Whether two snapshots of one map show the same generation. -/
def sameGeneration (s t : Snapshot K V) : Bool := s.generation == t.generation

/-! ## Text -/

/-- How the bindings of a generation are shown. -/
inductive Outline where
  /-- The whole of it on one line. -/
  | line (text : String)
  /-- A line for each binding, sorted, between a line that opens and a line that closes. -/
  | block (lines : List String)

/-- One binding, key first. -/
def inspectEntry [Inspect K] [Inspect V] (e : K × V) : String :=
  inspect e.1 ++ ": " ++ inspect e.2

/-- All bindings on one line, in braces. -/
instance [Inspect K] [Inspect V] : Inspect (Snapshot K V) :=
  ⟨fun s => "\x7b" ++ ", ".intercalate (s.toList.map inspectEntry) ++ "\x7d"⟩

/-- At most one binding fits on a line.  More have no order of their own, so they are laid out one
to a line and the lines are sorted. -/
def outline [Inspect K] [Inspect V] (s : Snapshot K V) : Outline :=
  if s.size ≤ 1 then .line (inspect s)
  else
    let lines := s.toList.map fun e => "    " ++ inspectEntry e ++ ","
    .block ("\x7b" :: (lines.mergeSort fun a b => (compare a b).isLE) ++ ["\x7d"])

end Snapshot

end AttributeRegistry
