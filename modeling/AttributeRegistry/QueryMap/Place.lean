import AttributeRegistry.QueryMap.Session

/-!
# Looking keys up by their places

A map with shared keys can be asked for the place of a key, without a handle on it, and so can a
snapshot.  Sessions with such lookups are runs of `PlaceStep`.

A search goes by hash and compares only keys whose hash is right, so that it finds a place at all
because a handle has the hash of its place.  With such hashes a search finds what comparison alone
would find (`Table.getHashed_hash`), and a place is as good as a handle on it
(`Snapshot.getAt_address`, `QueryMap.eraseAt_address`).
-/

namespace AttributeRegistry

namespace Table

variable {K V α : Type} [BEq K] [Hashable K]

/-- The value of the first key that has the hash `h` and passes `p`. -/
def getHashed (t : Table K V) (h : UInt64) (p : K → Bool) : Option V :=
  t.getBy fun k => hash k == h && p k

/-- The hash of a key excludes no key that equals it. -/
theorem hash_beq_and_beq [LawfulHashable K] (k : K) :
    (fun j => hash j == hash k && j == k) = fun j => j == k := by
  funext j
  cases h : j == k with
  | true => rw [LawfulHashable.hash_eq j k h, beq_self_eq_true, Bool.true_and]
  | false => rw [Bool.and_false]

/-- A search for a key finds what is bound to it. -/
theorem getHashed_hash [LawfulHashable K] (t : Table K V) (k : K) :
    t.getHashed (hash k) (· == k) = t.get? k := by
  rw [getHashed, hash_beq_and_beq, get?]

/-- Unbinds the key that lives at `a`. -/
def eraseAt (t : Table (Shared α) V) (a : Address) : Table (Shared α) V :=
  ⟨t.entries.filter fun e => !(hash e.1 == hash a && e.1.address == a), t.distinct.filter _⟩

theorem eraseAt_address (t : Table (Shared α) V) (s : Shared α) :
    t.eraseAt s.address = t.erase s := by
  have hkey : (fun e : Shared α × V => !(hash e.1 == hash s.address && e.1.address == s.address)) =
      fun e => !(e.1 == s) :=
    funext fun e => congrArg (! ·) (congrFun (hash_beq_and_beq s) e.1)
  simp only [eraseAt, erase, hkey]

end Table

variable {α V : Type}

namespace Snapshot

/-- The value of the key that lives at `a`. -/
def getAt (s : Snapshot (Shared α) V) (a : Address) : Option V :=
  s.contents.getHashed (hash a) (·.address == a)

/-- Whether the key that lives at `a` is bound. -/
def containsAt (s : Snapshot (Shared α) V) (a : Address) : Bool := (s.getAt a).isSome

theorem getAt_address (s : Snapshot (Shared α) V) (k : Shared α) :
    s.getAt k.address = s.get? k :=
  s.contents.getHashed_hash k

end Snapshot

namespace QueryMap

variable (m : QueryMap (Shared α) V)

/-- The value of the key that lives at `a`. -/
def getAt (a : Address) : Option V := m.snapshot.getAt a

/-- Whether the key that lives at `a` is bound. -/
def containsAt (a : Address) : Bool := m.snapshot.containsAt a

/-- Unbinds the key that lives at `a` and answers the value it had. -/
def eraseAt (a : Address) : Effect (QueryMap (Shared α) V) (Option V) :=
  match m.getAt a with
  | some existing => ⟨m.publish (m.contents.eraseAt a), some existing, []⟩
  | none => ⟨m, none, []⟩

theorem eraseAt_address (k : Shared α) : m.eraseAt k.address = m.erase k := by
  have hget : m.getAt k.address = m.get? k := m.snapshot.getAt_address k
  unfold eraseAt erase
  rw [hget]
  cases m.get? k with
  | some existing =>
      exact congrArg (fun t => Effect.mk (m.publish t) (some existing) [])
        (m.contents.eraseAt_address k)
  | none => rfl

/-! ## Sessions -/

/-- A step of a session with shared keys, each of them known as a member of `κ`.  A lookup is by a
handle on the key or by the place of one. -/
inductive PlaceStep (κ V : Type) where
  | byHandle (x : Step κ V)
  | getAt (k : κ)
  | containsAt (k : κ)
  | eraseAt (k : κ)
  /-- Asks a kept snapshot for the value of a key. -/
  | askGetAt (name : String) (k : κ)
  | askContainsAt (name : String) (k : κ)

namespace Session

variable [Inspect α] [Ord V] [Inspect V] [BEq V]

/-- Takes one step. -/
def take (s : Session (Shared α) V) :
    PlaceStep (Shared α) V → Effect (Session (Shared α) V) (Finding (Shared α) V)
  | .byHandle x => s.step x
  | .getAt k => ⟨s, .value (s.map.getAt k.address), []⟩
  | .containsAt k => ⟨s, .flag (s.map.containsAt k.address), []⟩
  | .eraseAt k =>
    let e := s.map.eraseAt k.address
    ⟨{ s with map := e.state }, .value e.answer, e.events⟩
  | .askGetAt name k =>
    match s.kept.get? name with
    | some g => ⟨s, .value (g.getAt k.address), []⟩
    | none => ⟨s, .unknownName, []⟩
  | .askContainsAt name k =>
    match s.kept.get? name with
    | some g => ⟨s, .flag (g.containsAt k.address), []⟩
    | none => ⟨s, .unknownName, []⟩

/-- The reports of a list of steps. -/
def reports (s : Session (Shared α) V) :
    List (PlaceStep (Shared α) V) → List (Report (Shared α) V)
  | [] => []
  | x :: rest =>
    let e := s.take x
    { finding := e.answer
      size := e.state.map.size
      published := !e.state.map.snapshot.sameGeneration s.map.snapshot
      log := Event.listing e.events } :: e.state.reports rest

end Session

end QueryMap

end AttributeRegistry
