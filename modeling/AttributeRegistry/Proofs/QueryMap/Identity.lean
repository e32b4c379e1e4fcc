import Mathlib.Data.Fin.VecNotation
import Mathlib.Data.Set.Basic
import AttributeRegistry.Proofs.QueryMap.Rekeying
import AttributeRegistry.QueryMap.Place

/-!
# Keys by identity

Of a shared key a map sees which place it is a handle on, and nothing else (`keyed_by_identity`).  Two
lists of shared values whose members share places in the same pattern serve as keys equally well,
whatever the values are; and it makes no difference by which handle on a place, or whether by a handle
or by the place, a step refers to a key.

Both come down to a session with other keys.  In the first the common keys are the indices of the two
lists, in the second the places.
-/

namespace AttributeRegistry.QueryMap

/-- The step with `f k` for the key `k`. -/
def PlaceStep.mapKeys {κ κ' V : Type} (f : κ → κ') : PlaceStep κ V → PlaceStep κ' V
  | .byHandle x => .byHandle (x.mapKeys f)
  | .getAt k => .getAt (f k)
  | .containsAt k => .containsAt (f k)
  | .eraseAt k => .eraseAt (f k)
  | .askGetAt name k => .askGetAt name (f k)
  | .askContainsAt name k => .askContainsAt name (f k)

/-- The step with a handle wherever there was a place. -/
def PlaceStep.handled {κ V : Type} : PlaceStep κ V → Step κ V
  | .byHandle x => x
  | .getAt k => .call (.get k)
  | .containsAt k => .call (.contains k)
  | .eraseAt k => .call (.erase k)
  | .askGetAt name k => .ask name (.get k)
  | .askContainsAt name k => .ask name (.contains k)

/-- The step with the place of each of its keys, so that it no longer says which handle on the place
was used, or whether one was. -/
def PlaceStep.places {α V : Type} (x : PlaceStep (Shared α) V) : Step Address V :=
  x.handled.mapKeys Shared.address

/-- Handles are equal when their places are. -/
def byPlace {α : Type} : KeyMap (Shared α) Address := ⟨Shared.address, fun _ _ => rfl⟩

theorem PlaceStep.handled_mapKeys {κ κ' V : Type} (f : κ → κ') (x : PlaceStep κ V) :
    (x.mapKeys f).handled = x.handled.mapKeys f := by
  cases x <;> rfl

namespace Session

section Places

variable {α V : Type} [Inspect α] [Ord V] [Inspect V] [BEq V]

/-- A place does what a handle on it does. -/
theorem take_eq (s : Session (Shared α) V) (x : PlaceStep (Shared α) V) :
    s.take x = s.step x.handled := by
  have hget (g : Snapshot (Shared α) V) (k : Shared α) : g.getAt k.address = g.get? k :=
    g.getAt_address k
  have hcontains (g : Snapshot (Shared α) V) (k : Shared α) :
      g.containsAt k.address = g.contains k := congrArg Option.isSome (hget g k)
  cases x with
  | byHandle x => rfl
  | getAt k => exact congrArg (fun v => Effect.mk s (Finding.value v) []) (hget s.map.snapshot k)
  | containsAt k => exact congrArg (fun b => Effect.mk s (Finding.flag b) []) (hcontains s.map.snapshot k)
  | eraseAt k =>
      exact congrArg (fun e => Effect.mk { s with map := e.state } (Finding.value e.answer) e.events)
        (s.map.eraseAt_address k)
  | askGetAt name k =>
      simp only [take, PlaceStep.handled, step]
      cases s.kept.get? name with
      | some g => exact congrArg (fun v => Effect.mk s (Finding.value v) []) (hget g k)
      | none => rfl
  | askContainsAt name k =>
      simp only [take, PlaceStep.handled, step]
      cases s.kept.get? name with
      | some g => exact congrArg (fun b => Effect.mk s (Finding.flag b) []) (hcontains g k)
      | none => rfl

theorem reports_eq (s : Session (Shared α) V) (steps : List (PlaceStep (Shared α) V)) :
    s.reports steps = s.run (steps.map fun x => .ok x.handled) := by
  induction steps generalizing s with
  | nil => rfl
  | cons x steps ih => rw [reports, ih, List.map_cons, run, attempt, take_eq]

/-- Which handle on a place is used, and whether a handle or the place, is not seen. -/
theorem view_reports_places (s : Session (Shared α) V) (steps : List (PlaceStep (Shared α) V)) :
    (s.reports steps).map (Report.view Shared.address) =
      ((s.rekey byPlace).run (steps.map fun x => .ok x.places)).map (Report.view id) := by
  have h := view_run_rekey byPlace id s (steps.map PlaceStep.handled)
  rw [List.map_map, List.map_map] at h
  rw [reports_eq]
  exact h.symm

/-- A run with the handles `f` for its keys is reported on as one with the keys themselves. -/
theorem view_reports_rekey {K κ : Type} [BEq K] [Ord K] [Inspect K] (f : KeyMap K (Shared α))
    (name : Shared α → κ) (s : Session K V) (steps : List (PlaceStep K V)) :
    ((s.rekey f).reports (steps.map fun x => x.mapKeys f)).map (Report.view name) =
      (s.run (steps.map fun x => .ok x.handled)).map (Report.view (name ∘ f)) := by
  have h := view_run_rekey f name s (steps.map PlaceStep.handled)
  rw [List.map_map, List.map_map] at h
  rw [reports_eq, List.map_map]
  simp only [Function.comp_def, PlaceStep.handled_mapKeys] at h ⊢
  exact h

end Places

end Session

/-- The members of a list of shared values that share the place of a handle. -/
def indices {ι α : Type} (t : ι → Shared α) (k : Shared α) : Set ι := {i | t i == k}

/-- Of shared keys a map sees only which of them share a place.

Take any two lists of shared values in which the same members share places.  A run on a new map that
has the members of the one list as its keys is reported on, step by step, as the run with the members
of the other; a key in a report is known there by the members that share its place.

In any session, if two runs refer to the same places, by whatever handles on them and by handles or
places as they like, then they are reported on alike.  Nor does it matter that a search goes by hash. -/
theorem keyed_by_identity {ι α β V : Type} [Inspect α] [Inspect β] [Ord V] [Inspect V] [BEq V]
    (t : ι → Shared α) (u : ι → Shared β)
    (hplaces : ∀ i j, (t i).address = (t j).address ↔ (u i).address = (u j).address) :
    (∀ steps : List (PlaceStep ι V),
      (Session.start.reports (steps.map fun x => x.mapKeys t)).map (Report.view (indices t)) =
        (Session.start.reports (steps.map fun x => x.mapKeys u)).map (Report.view (indices u))) ∧
      (∀ (s : Session (Shared α) V) (x y : List (PlaceStep (Shared α) V)),
        x.map PlaceStep.places = y.map PlaceStep.places →
          (s.reports x).map (Report.view Shared.address) =
            (s.reports y).map (Report.view Shared.address)) ∧
      ∀ (bindings : Table (Shared α) V) (k : Shared α),
        bindings.getHashed (hash k) (· == k) = bindings.get? k := by
  refine ⟨fun steps => ?_, fun s x y h => ?_, fun bindings k => bindings.getHashed_hash k⟩
  · -- the indices stand for the keys of both runs
    let _ : BEq ι := ⟨fun i j => t i == t j⟩
    let _ : Ord ι := ⟨fun i j => compare (t i) (t j)⟩
    let _ : Inspect ι := ⟨fun i => inspect (t i)⟩
    have hbeq (i j : ι) : (u i == u j) = (t i == t j) := by
      rw [Bool.eq_iff_iff, Shared.beq_iff, Shared.beq_iff]
      exact (hplaces i j).symm
    let f : KeyMap ι (Shared α) := ⟨t, fun _ _ => rfl⟩
    let g : KeyMap ι (Shared β) := ⟨u, hbeq⟩
    have hname : indices t ∘ f = indices u ∘ g :=
      funext fun j => Set.ext fun i => (congrArg (· = true) (hbeq i j)).to_iff.symm
    have ht := Session.view_reports_rekey f (indices t) Session.start steps
    have hu := Session.view_reports_rekey g (indices u) Session.start steps
    rw [← hname] at hu
    exact ht.trans hu.symm
  · -- and the places for those of these two
    have hsteps := congrArg (List.map (Except.ok (ε := IdentifierError))) h
    rw [List.map_map, List.map_map] at hsteps
    rw [Session.view_reports_places, Session.view_reports_places]
    exact congrArg (fun l => ((s.rekey byPlace).run l).map (Report.view id)) hsteps

/-- Twins, with one text in two places, are as good as two shared values with nothing in common.  The
third member is another handle on the place of the first. -/
theorem keyed_by_identity_twins :
    let t : Fin 3 → Shared String := ![⟨⟨0⟩, "coal"⟩, ⟨⟨1⟩, "coal"⟩, ⟨⟨0⟩, "coal"⟩]
    let u : Fin 3 → Shared String := ![⟨⟨7⟩, "ash"⟩, ⟨⟨3⟩, "bone"⟩, ⟨⟨7⟩, "ash"⟩]
    let steps : List (PlaceStep (Fin 3) ℕ) :=
      [.byHandle (.call (.insertAllIfNew [(0, 1), (1, 2), (2, 3)])), .byHandle (.keep "first"),
        .eraseAt 2, .getAt 1, .askGetAt "first" 0, .byHandle (.ask "first" .bindings)]
    (∀ i j, (t i).address = (t j).address ↔ (u i).address = (u j).address) ∧
      (Session.start.reports (steps.map fun x => x.mapKeys t)).map (Report.view (indices t)) =
        (Session.start.reports (steps.map fun x => x.mapKeys u)).map (Report.view (indices u)) ∧
      (Session.start.reports (steps.map fun x => x.mapKeys t)).map (·.size) = [2, 2, 1, 1, 1, 1] := by
  intro t u steps
  have hplaces : ∀ i j, (t i).address = (t j).address ↔ (u i).address = (u j).address := by decide
  refine ⟨hplaces, (keyed_by_identity t u hplaces).1 steps, ?_⟩
  rw [Session.reports_eq]
  decide

end AttributeRegistry.QueryMap
