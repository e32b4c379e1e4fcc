import AttributeRegistry.QueryMap.Call

/-!
# Batches that keep existing bindings, key by key

`QueryMap.insertAllIfNew` works on a draft and publishes it at the end, or not at all.  Either way
the map holds what the draft holds (`contents_insertAllIfNew`), so the batch is understood one pulled
entry at a time: a key keeps the value that it has, and a new key gets the first value that the batch
has for it (`get?_insertAllIfNew`).
-/

namespace AttributeRegistry.QueryMap

variable {K V : Type} [BEq K]

/-- The first value that a batch has for `k`. -/
def firstOf (batch : List (K × V)) (k : K) : Option V :=
  (batch.find? fun e => e.1 == k).map (·.2)

@[simp] theorem firstOf_nil (k : K) : firstOf ([] : List (K × V)) k = none := rfl

theorem firstOf_cons (e : K × V) (batch : List (K × V)) (k : K) :
    firstOf (e :: batch) k = (if e.1 == k then some e.2 else none).or (firstOf batch k) := by
  by_cases h : (e.1 == k) = true
  · simp [firstOf, h]
  · simp [firstOf, h]

theorem firstOf_eq_none_iff {batch : List (K × V)} {k : K} :
    firstOf batch k = none ↔ ∀ e ∈ batch, (e.1 == k) = false := by
  rw [firstOf, Option.map_eq_none_iff, List.find?_eq_none]
  simp only [Bool.not_eq_true]

/-- A batch that has one value for all its keys has it for exactly these. -/
theorem firstOf_map_const (keys : List K) (v : V) (k : K) :
    firstOf (keys.map fun j => (j, v)) k = if keys.any (· == k) then some v else none := by
  induction keys with
  | nil => rfl
  | cons j keys ih =>
      rw [List.map_cons, firstOf_cons, ih, List.any_cons]
      by_cases h : (j == k) = true
      · simp [h]
      · simp [h]

/-! ## The draft -/

/-- A bound key is turned away with its value. -/
theorem Draft.pull_of_some {d : Draft K V} {e : K × V} {v : V} (h : d.pending.get? e.1 = some v) :
    d.pull e = { d with rejected := d.rejected.insertIfNew e.1 v } := by
  unfold Draft.pull
  rw [h]

/-- An unbound key is bound. -/
theorem Draft.pull_of_none {d : Draft K V} {e : K × V} (h : d.pending.get? e.1 = none) :
    d.pull e = { d with pending := d.pending.insert e.1 e.2, accepted := true } := by
  unfold Draft.pull
  rw [h]

/-- After a batch each key has what the draft had for it, or else the batch's first value. -/
theorem Draft.get?_pending_foldl_pull [EquivBEq K] (d : Draft K V) (batch : List (K × V)) (k : K) :
    (batch.foldl Draft.pull d).pending.get? k = (d.pending.get? k).or (firstOf batch k) := by
  induction batch generalizing d with
  | nil => simp
  | cons e batch ih =>
      rw [List.foldl_cons, ih, Draft.get?_pending_pull, firstOf_cons, Option.or_assoc]

/-- A draft does not go back on what it accepted. -/
theorem Draft.accepted_foldl_pull {d : Draft K V} (h : d.accepted = true) (batch : List (K × V)) :
    (batch.foldl Draft.pull d).accepted = true := by
  induction batch generalizing d with
  | nil => exact h
  | cons e batch ih =>
      refine ih ?_
      cases hk : d.pending.get? e.1 with
      | some v => rw [Draft.pull_of_some hk]; exact h
      | none => rw [Draft.pull_of_none hk]

/-- A batch of which nothing is accepted leaves the draft's bindings alone. -/
theorem Draft.pending_foldl_pull {d : Draft K V} {batch : List (K × V)}
    (h : (batch.foldl Draft.pull d).accepted = false) :
    (batch.foldl Draft.pull d).pending = d.pending := by
  induction batch generalizing d with
  | nil => rfl
  | cons e batch ih =>
      rw [List.foldl_cons] at h ⊢
      rw [ih h]
      cases hk : d.pending.get? e.1 with
      | some v => rw [Draft.pull_of_some hk]
      | none =>
          -- the entry was accepted, and so is the batch
          rw [Draft.pull_of_none hk, Draft.accepted_foldl_pull rfl] at h
          cases h

/-- A draft that has accepted nothing yet accepts something of a batch if the batch has a key that is
unbound at its start. -/
theorem Draft.accepted_foldl_pull_iff (d : Draft K V) (batch : List (K × V)) :
    (batch.foldl Draft.pull d).accepted = true ↔
      d.accepted = true ∨ ∃ e ∈ batch, d.pending.get? e.1 = none := by
  induction batch generalizing d with
  | nil => simp
  | cons e batch ih =>
      rw [List.foldl_cons]
      cases hk : d.pending.get? e.1 with
      | some v =>
          rw [Draft.pull_of_some hk, ih]
          simp [hk]
      | none =>
          rw [Draft.pull_of_none hk, Draft.accepted_foldl_pull rfl]
          simp [hk]

/-- Whatever a batch has, readers see the same map while all of it is pulled. -/
theorem Draft.seen_eq (d : Draft K V) (batch : List (K × V)) :
    d.seen batch = batch.map fun _ => d.live := by
  induction batch generalizing d with
  | nil => rfl
  | cons e batch ih =>
      have hlive : (d.pull e).live = d.live := live_foldl_pull d [e]
      rw [seen, ih, hlive, List.map_cons]

theorem Intake.seen_eq (i : Intake K V) (batch : List (K × V)) :
    i.seen batch = batch.map fun _ => i.live := by
  induction batch generalizing i with
  | nil => rfl
  | cons e batch ih =>
      rw [seen, ih, List.map_cons]
      rfl

/-- The entries of the batch that a call has. -/
def Call.batch : Call K V → List (K × V)
  | .insertAll batch | .insertAllIfNew batch => batch
  | .get _ | .contains _ | .containsValue _ | .size | .isEmpty | .insert _ _ | .insertIfNew _ _
  | .erase _ | .clear => []

/-- A call pulls every entry of its batch once, in order, and readers see the map as it was. -/
theorem pulls_eq (m : QueryMap K V) (c : Call K V) : m.pulls c = c.batch.map fun e => (e, m) := by
  have hzip (batch : List (K × V)) :
      batch.zip (batch.map fun _ => m) = batch.map fun e => (e, m) := by
    have h := List.zip_map' (f := id) (g := fun _ => m) (l := batch)
    rw [List.map_id] at h
    exact h
  cases c with
  | insertAll batch => rw [pulls, Intake.seen_eq]; exact hzip batch
  | insertAllIfNew batch => rw [pulls, Draft.seen_eq]; exact hzip batch
  | _ => rfl

/-! ## The map -/

/-- Published or not, the map afterwards holds the draft's bindings. -/
theorem contents_insertAllIfNew (m : QueryMap K V) (batch : List (K × V)) :
    (m.insertAllIfNew batch).state.contents = (batch.foldl Draft.pull (Draft.start m)).pending := by
  unfold insertAllIfNew Draft.finish
  split
  · rfl
  · next h =>
    rw [Draft.live_foldl_pull, Draft.pending_foldl_pull (Bool.eq_false_iff.2 h)]
    rfl

theorem answer_insertAllIfNew (m : QueryMap K V) (batch : List (K × V)) :
    (m.insertAllIfNew batch).answer = (batch.foldl Draft.pull (Draft.start m)).rejected := by
  unfold insertAllIfNew Draft.finish
  split <;> rfl

/-- A batch accepts something if it has a key that is unbound. -/
theorem accepted_start_iff (m : QueryMap K V) (batch : List (K × V)) :
    (batch.foldl Draft.pull (Draft.start m)).accepted = true ↔ ∃ e ∈ batch, m.get? e.1 = none := by
  rw [Draft.accepted_foldl_pull_iff]
  exact or_iff_right Bool.false_ne_true

/-- A batch with an unbound key is published as one generation and reported with the sizes. -/
theorem insertAllIfNew_of_unbound {m : QueryMap K V} {batch : List (K × V)}
    (h : ∃ e ∈ batch, m.get? e.1 = none) :
    let e := m.insertAllIfNew batch
    e.state = m.publish e.state.contents ∧
      e.events = [.batchPublished m.size e.state.size e.answer.size] := by
  intro e
  have haccepted := (accepted_start_iff m batch).2 h
  have hlive : (batch.foldl Draft.pull (Draft.start m)).live = m := Draft.live_foldl_pull ..
  simp only [e, insertAllIfNew, Draft.finish, if_pos haccepted, hlive]
  exact ⟨rfl, rfl⟩

/-- A batch without unbound keys changes nothing and is not reported. -/
theorem insertAllIfNew_of_bound {m : QueryMap K V} {batch : List (K × V)}
    (h : ¬ ∃ e ∈ batch, m.get? e.1 = none) :
    (m.insertAllIfNew batch).state = m ∧ (m.insertAllIfNew batch).events = [] := by
  have haccepted := mt (accepted_start_iff m batch).1 h
  have hlive : (batch.foldl Draft.pull (Draft.start m)).live = m := Draft.live_foldl_pull ..
  rw [insertAllIfNew, Draft.finish, if_neg haccepted, hlive]
  exact ⟨rfl, rfl⟩

/-- A bound key keeps its value and a new one gets the first that the batch has for it. -/
theorem get?_insertAllIfNew [EquivBEq K] (m : QueryMap K V) (batch : List (K × V)) (k : K) :
    (m.insertAllIfNew batch).state.get? k = (m.get? k).or (firstOf batch k) := by
  rw [get?, contents_insertAllIfNew, Draft.get?_pending_foldl_pull]
  rfl

/-- A batch drops no key, so what a draft comes to may be published as it is. -/
theorem dropped_insertAllIfNew [EquivBEq K] (m : QueryMap K V) (batch : List (K × V)) :
    m.dropped (m.insertAllIfNew batch).state = [] :=
  dropped_eq_nil_of_or (get?_insertAllIfNew m batch)

end AttributeRegistry.QueryMap
