import AttributeRegistry.QueryMap.Basic

/-!
# Batches that keep existing bindings

`QueryMap.insertAllIfNew` offers a batch of bindings to a map, entry by entry.  An entry whose key
is unbound is accepted, one whose key is bound is turned away, and an earlier entry of the same
batch counts as a binding.  What was accepted is published as one generation; if nothing was, the
map is left alone.  The answer reports each key that was turned away with the value that kept it.
-/

namespace AttributeRegistry.QueryMap

variable {K V : Type} [BEq K]

/-- A batch under way: what readers see, and what is being prepared. -/
structure Draft (K V : Type) [BEq K] where
  /-- The map as its readers see it. -/
  live : QueryMap K V
  /-- The bindings that are to be published. -/
  pending : Table K V
  /-- Whether some entry has been accepted. -/
  accepted : Bool
  /-- The keys turned away, with the values that kept them. -/
  rejected : Table K V

namespace Draft

/-- Nothing is pulled yet. -/
def start (m : QueryMap K V) : Draft K V := ⟨m, m.contents, false, ∅⟩

/-- Pulls one entry and accepts it or turns it away. -/
def pull (d : Draft K V) (e : K × V) : Draft K V :=
  match d.pending.get? e.1 with
  | some existing => { d with rejected := d.rejected.insertIfNew e.1 existing }
  | none => { d with pending := d.pending.insert e.1 e.2, accepted := true }

/-- Publishes what was accepted, if anything was.  It binds every key of the live map, so there is
nothing to check before (`dropped_insertAllIfNew`). -/
def finish (d : Draft K V) : Effect (QueryMap K V) (Table K V) :=
  if d.accepted then
    ⟨d.live.publish d.pending, d.rejected,
      [.batchPublished d.live.size d.pending.size d.rejected.size]⟩
  else ⟨d.live, d.rejected, []⟩

/-- The map that readers see while each entry of a batch is pulled. -/
def seen (d : Draft K V) : List (K × V) → List (QueryMap K V)
  | [] => []
  | e :: rest => d.live :: (d.pull e).seen rest

end Draft

/-- Binds every unbound key of a batch to the first value that the batch has for it, and answers
the keys that were bound already or came again, with the values they have. -/
def insertAllIfNew (m : QueryMap K V) (batch : List (K × V)) :
    Effect (QueryMap K V) (Table K V) :=
  (batch.foldl Draft.pull (Draft.start m)).finish

/-- Pulling leaves the map that readers see alone. -/
theorem Draft.live_foldl_pull (d : Draft K V) (batch : List (K × V)) :
    (batch.foldl Draft.pull d).live = d.live := by
  induction batch generalizing d with
  | nil => rfl
  | cons e rest ih =>
    rw [List.foldl_cons, ih]
    unfold Draft.pull
    split <;> rfl

/-- A pulled entry binds its key unless it is bound already, by the map or by an earlier entry. -/
theorem Draft.get?_pending_pull [EquivBEq K] (d : Draft K V) (e : K × V) (j : K) :
    (d.pull e).pending.get? j = (d.pending.get? j).or (if e.1 == j then some e.2 else none) := by
  unfold Draft.pull
  cases hk : d.pending.get? e.1 with
  | some w =>
    by_cases hkj : (e.1 == j) = true
    · simp [(Table.get?_congr d.pending hkj).symm.trans hk]
    · simp [hkj]
  | none =>
    simp only [Table.get?_insert]
    by_cases hkj : (e.1 == j) = true
    · simp [hkj, (Table.get?_congr d.pending hkj).symm.trans hk]
    · simp [hkj]

end AttributeRegistry.QueryMap
