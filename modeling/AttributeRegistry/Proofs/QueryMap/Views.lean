import AttributeRegistry.Binary64.Text
import AttributeRegistry.Proofs.QueryMap.Generations
import AttributeRegistry.Proofs.QueryMap.Refinement
import AttributeRegistry.Proofs.Table.Entries

/-!
# The views of a generation

A snapshot can be asked for one key, listed, looped over, taken as a table and counted.  Whatever run it
was taken in, all of these show the same bindings: those that the run had made by then.  The map itself
showed them at that moment too (`Session.views_agree`).

A lookup stops at the first entry of a key, so it would hide a second one, and an entry that should be gone
is found only by somebody who asks for its key; a list shows both.  So the views are told by what the lists
hold (`PartialMap.ListedBy`).  No table lists a key twice, which brings all of them down to the lookups
(`Snapshot.shows_iff`): these are what every call has to leave as they should be (`shows_perform`).
-/

namespace AttributeRegistry

variable {K V : Type} [BEq K]

/-! ## Lists of bindings -/

/-- A list has one entry for each key that `M` binds, with the value of the key, and none for any other
key. -/
def PartialMap.ListedBy (M : PartialMap K V) (entries : List (K × V)) : Prop :=
  ∀ k, (entries.filter fun e => e.1 == k).map (·.2) = (M k).toList

namespace Snapshot

/-- The bindings that a loop over a snapshot comes to, in order. -/
def visited (s : Snapshot K V) : List (K × V) := Id.run do
  let mut visited := #[]
  for e in s do
    visited := visited.push e
  return visited.toList

theorem forIn_eq_forIn_toList {m : Type → Type} [Monad m] {β : Type} (s : Snapshot K V) (b : β)
    (f : K × V → β → m (ForInStep β)) : forIn s b f = forIn s.toList b f := rfl

/-- A loop comes to what is listed. -/
theorem visited_eq (s : Snapshot K V) : s.visited = s.toList := by
  simp [visited, forIn_eq_forIn_toList]

theorem listedBy_toList [EquivBEq K] (s : Snapshot K V) : PartialMap.ListedBy s.get? s.toList :=
  s.contents.map_filter_entries

theorem contains_iff_keys (s : Snapshot K V) (k : K) :
    s.contains k = true ↔ ∃ j ∈ s.keys, (j == k) = true := by
  refine Table.isSome_get?_iff.trans ?_
  simp only [keys, Table.keys, List.mem_map]
  constructor
  · rintro ⟨e, he, hk⟩
    exact ⟨e.1, ⟨e, he, rfl⟩, hk⟩
  · rintro ⟨j, ⟨e, he, rfl⟩, hk⟩
    exact ⟨e, he, hk⟩

/-! ## All views of one generation -/

/-- Whichever way a generation is read, it shows the bindings `M`. -/
structure Shows [EquivBEq K] (s : Snapshot K V) (M : PartialMap K V) : Prop where
  get? : ∀ k, s.get? k = M k
  listed : M.ListedBy s.toList
  visited : M.ListedBy s.visited
  /-- Taken as a table, it is searched and listed alike. -/
  table : (∀ k, s.contents.get? k = M k) ∧ M.ListedBy s.contents.entries
  keys : s.keys = s.toList.map (·.1) ∧ s.keys.length = s.size
  values : s.values = s.toList.map (·.2) ∧ s.values.length = s.size
  /-- What is counted are the entries, and also the keys that `M` binds, equal keys taken as one. -/
  size : s.size = s.toList.length ∧ M.domain.Finite ∧ s.size = M.size
  contains : ∀ k, s.contains k = true ↔ ∃ j ∈ s.keys, (j == k) = true
  isEmpty : s.isEmpty = true ↔ s.toList = []

variable [EquivBEq K]

/-- A generation shows the bindings that its lookups find. -/
theorem shows_get? (s : Snapshot K V) : s.Shows s.get? where
  get? _ := rfl
  listed := s.listedBy_toList
  visited := s.visited_eq.symm ▸ s.listedBy_toList
  table := ⟨fun _ => rfl, s.listedBy_toList⟩
  keys := ⟨rfl, List.length_map _⟩
  values := ⟨rfl, List.length_map _⟩
  size := ⟨rfl, s.contents.finite_domain_get?, s.contents.size_eq_size_get?⟩
  contains := s.contains_iff_keys
  isEmpty := List.isEmpty_iff

theorem shows_iff {s : Snapshot K V} {M : PartialMap K V} : s.Shows M ↔ s.get? = M := by
  constructor
  · intro h
    exact funext h.get?
  · rintro rfl
    exact s.shows_get?

end Snapshot

namespace QueryMap

/-- The map, read itself, agrees with what a snapshot shows. -/
structure Mirrors [BEq V] (m : QueryMap K V) (s : Snapshot K V) : Prop where
  get? : ∀ k, m.get? k = s.get? k
  contains : ∀ k, m.contains k = s.contains k
  size : m.size = s.size
  isEmpty : m.isEmpty = s.isEmpty
  /-- A value is found if one that is listed equals it; that it is listed itself is not enough. -/
  containsValue : ∀ v, m.containsValue v = true ↔ ∃ e ∈ s.toList, (e.2 == v) = true

theorem mirrors_snapshot [BEq V] (m : QueryMap K V) : m.Mirrors m.snapshot where
  get? _ := rfl
  contains _ := rfl
  size := rfl
  isEmpty := rfl
  containsValue v := by
    rw [containsValue, Table.values, List.any_map, List.any_eq_true]
    rfl

/-! ## Runs -/

namespace Session

/-- The call that a step makes on the map, if it makes one. -/
def call? {K V : Type} : Attempt K V → Option (Call K V)
  | .ok (.call c) => some c
  | _ => none

/-- The calls that a run makes on the map, in order. -/
def calls {K V : Type} (run : List (Attempt K V)) : List (Call K V) := run.filterMap call?

theorem calls_cons {K V : Type} (a : Attempt K V) (run : List (Attempt K V)) :
    calls (a :: run) = (call? a).toList ++ calls run := by
  rw [calls, List.filterMap_cons]
  cases call? a with
  | none => rfl
  | some c => rfl

end Session

variable [EquivBEq K]

/-- A map as it is made shows nothing. -/
theorem shows_made (capacity : Option ℕ) :
    (made capacity : QueryMap K V).snapshot.Shows PartialMap.empty := by
  refine Snapshot.shows_iff.2 ?_
  cases capacity with
  | none => rfl
  | some n => rfl

variable [BEq V]

/-- If the generation that a call meets shows the bindings `M`, the one that it leaves shows what the call
makes of them. -/
theorem shows_perform {m : QueryMap K V} {M : PartialMap K V} (h : m.snapshot.Shows M) (c : Call K V) :
    (m.perform c).state.snapshot.Shows (M.perform c).1 := by
  have hview : m.get? = M := Snapshot.shows_iff.1 h
  have hstep := congrArg Prod.fst (m.perform_observed c)
  rw [hview] at hstep
  exact Snapshot.shows_iff.2 hstep

namespace Session

variable [Ord K] [Ord V] [Inspect K] [Inspect V]

/-- Of the steps of a session only calls have to be looked at. -/
theorem shows_attempt {s : Session K V} {M : PartialMap K V} (h : s.map.snapshot.Shows M)
    (a : Attempt K V) : (s.attempt a).state.map.snapshot.Shows (M.after (call? a).toList) := by
  unfold call?
  split
  · next c => exact shows_perform h c
  · next hquiet =>
      rw [map_attempt_of_forall_ne hquiet]
      exact h

theorem shows_after {s : Session K V} {M : PartialMap K V} (h : s.map.snapshot.Shows M)
    (run : List (Attempt K V)) : (s.after run).map.snapshot.Shows (M.after (calls run)) := by
  induction run generalizing s M with
  | nil => exact h
  | cons a run ih =>
      rw [calls_cons, PartialMap.after, List.foldl_append]
      exact ih (shows_attempt h a)

omit [EquivBEq K] in
/-- Whatever a session shows at the end of a run is the generation of some point of it. -/
theorem exists_takenAt {m : QueryMap K V} {run : List (Attempt K V)} {h : Handle} {g : Snapshot K V}
    (hg : ((onMap m).after run).shown h = some g) :
    ∃ n, takenAt run h = some n ∧ (onMap m).generationAt run n = g := by
  cases h with
  | live =>
      refine ⟨run.length, rfl, ?_⟩
      rw [generationAt, upTo_length]
      exact Option.some.inj hg
  | kept name =>
      have hkept := kept_upTo m run run.length name
      rw [upTo_length, List.take_length] at hkept
      exact Option.map_eq_some_iff.1 (hkept.symm.trans hg)

/-- In any run on a new map, a snapshot that is there at its end, kept under some name or copied, was taken
at some point of the run.  All its views show the bindings that the calls up to that point had made, and
the map as it was at that point agrees with them.

A snapshot that is taken while a call pulls its batch shows the bindings made before that call, and the map
agrees with it. -/
theorem views_agree (capacity : Option ℕ) (run : List (Attempt K V)) :
    let s : Session K V := onMap (made capacity)
    let live (n : ℕ) : QueryMap K V := (s.upTo run n).map
    let bound (n : ℕ) : PartialMap K V := PartialMap.after .empty (calls (run.take n))
    (∀ h g, (s.after run).shown h = some g →
      ∃ n, takenAt run h = some n ∧ g.Shows (bound n) ∧ (live n).Mirrors g) ∧
    ∀ n c, run[n]? = some (.ok (.call c)) → ∀ e m, (e, m) ∈ (live n).pulls c →
      m.snapshot.Shows (bound n) ∧ m.Mirrors m.snapshot := by
  intro s live bound
  have hlive (n : ℕ) : (live n).snapshot.Shows (bound n) := shows_after (shows_made capacity) (run.take n)
  constructor
  · intro h g hg
    obtain ⟨n, hn, rfl⟩ := exists_takenAt hg
    exact ⟨n, hn, hlive n, (live n).mirrors_snapshot⟩
  · intro n c _ e m hpulled
    -- nothing of the batch is seen while it is pulled
    rw [pulls_eq] at hpulled
    obtain ⟨_, -, hentry⟩ := List.mem_map.1 hpulled
    obtain ⟨-, rfl⟩ := Prod.mk.inj hentry
    exact ⟨hlive n, (live n).mirrors_snapshot⟩

/-- A value that does not equal itself: it is listed, and a search for it finds nothing.  The snapshot is
taken between two calls and copied, and the second call then binds the key anew. -/
theorem views_agree_nan :
    let coal : Shared String := ⟨⟨0⟩, "coal"⟩
    let other : Shared String := ⟨⟨1⟩, "coal"⟩
    let nan : Binary64 := ⟨0x7FF8000000000000⟩
    let one : Binary64 := ⟨0x3FF0000000000000⟩
    let fill : Call (Shared String) Binary64 := .insertAllIfNew [(coal, nan), (other, one), (coal, one)]
    let rebind : Call (Shared String) Binary64 := .insertAll [(coal, one)]
    let run : List (Attempt (Shared String) Binary64) :=
      [.ok (.call fill), .ok (.keep "first"), .ok (.copy "first" "copy"), .ok (.call rebind)]
    let s : Session (Shared String) Binary64 := onMap (made (some 8))
    let live : QueryMap (Shared String) Binary64 := (s.upTo run 1).map
    let pulling : QueryMap (Shared String) Binary64 := (s.upTo run 3).map
    EquivBEq (Shared String) ∧
    (∃ g, (s.after run).shown (.kept "copy") = some g ∧ g.Shows (PartialMap.after .empty [fill]) ∧
      g.toList = [(coal, nan), (other, one)] ∧ live.Mirrors g) ∧
    live.containsValue nan = false ∧ live.containsValue one = true ∧
    ((coal, one), pulling) ∈ pulling.pulls rebind ∧
    pulling.snapshot.Shows (PartialMap.after .empty [fill]) ∧ pulling.Mirrors pulling.snapshot := by
  intro coal other nan one fill rebind run s live pulling
  obtain ⟨hviews, hpulled⟩ := views_agree (some 8) run
  obtain ⟨n, hn, hshows, hmirrors⟩ := hviews (.kept "copy") live.snapshot rfl
  have hone : n = 1 := by
    have htaken : takenAt run (.kept "copy") = some 1 := by decide
    exact Option.some.inj (hn.symm.trans htaken)
  subst hone
  have hmem : ((coal, one), pulling) ∈ pulling.pulls rebind := List.mem_singleton_self _
  exact ⟨inferInstance, ⟨_, rfl, hshows, rfl, hmirrors⟩, by decide, by decide, hmem,
    hpulled 3 rebind rfl (coal, one) pulling hmem⟩

end Session

end QueryMap

end AttributeRegistry
