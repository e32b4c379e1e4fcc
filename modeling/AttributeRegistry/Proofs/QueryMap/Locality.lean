import AttributeRegistry.Proofs.QueryMap.Batch
import AttributeRegistry.Proofs.Table.Entries

/-!
# What a batch looks at

A batch that keeps existing bindings looks at a map only through the keys that it lists.  Two maps
that agree on these take the same entries of it and turn the same keys away (`exists_takes`), however
much they differ otherwise.  Nor does a batch look at values, and of its keys it sees only which of them
are equal: with other keys and values it goes the same way (`insertAllIfNew_carry`).
-/

namespace AttributeRegistry

variable {K V W : Type} [BEq K]

namespace QueryMap

/-! ## Keys -/

/-- The map takes the entries `added` of a batch, behind those it has, and turns the keys of
`rejected` away. -/
structure Takes (m : QueryMap K V) (batch added : List (K × V)) (rejected : Table K V) : Prop where
  entries_eq : (m.insertAllIfNew batch).state.contents.entries = m.contents.entries ++ added
  answer_eq : (m.insertAllIfNew batch).answer = rejected
  events_eq : (m.insertAllIfNew batch).events =
    if added.isEmpty then []
    else [.batchPublished m.size (m.size + added.length) rejected.size]

namespace Draft

/-- The draft `d'` has `added` behind the bindings of `d`, and turned the keys of `rejected` away. -/
structure Grew (d d' : Draft K V) (added : List (K × V)) (rejected : Table K V) : Prop where
  live_eq : d'.live = d.live
  entries_eq : d'.pending.entries = d.pending.entries ++ added
  accepted_eq : d'.accepted = (d.accepted || !added.isEmpty)
  rejected_eq : d'.rejected = rejected

/-- Two drafts that agree on the keys of a batch take the same entries of it. -/
theorem exists_grew [EquivBEq K] {d c : Draft K V} {batch : List (K × V)}
    (hpending : ∀ e ∈ batch, d.pending.get? e.1 = c.pending.get? e.1)
    (hrejected : d.rejected = c.rejected) :
    ∃ added rejected, d.Grew (batch.foldl pull d) added rejected ∧
      c.Grew (batch.foldl pull c) added rejected := by
  induction batch generalizing d c with
  | nil =>
      refine ⟨[], d.rejected, ⟨rfl, ?_, ?_, rfl⟩, ⟨rfl, ?_, ?_, hrejected.symm⟩⟩
      · exact (List.append_nil _).symm
      · exact (Bool.or_false _).symm
      · exact (List.append_nil _).symm
      · exact (Bool.or_false _).symm
  | cons e batch ih =>
      have hrest : ∀ f ∈ batch, d.pending.get? f.1 = c.pending.get? f.1 := fun f hf =>
        hpending f (List.mem_cons_of_mem e hf)
      have hkey := hpending e List.mem_cons_self
      cases hget : d.pending.get? e.1 with
      | some v =>
          rw [List.foldl_cons, List.foldl_cons, pull_of_some hget, pull_of_some (hkey ▸ hget)]
          obtain ⟨added, rejected, h, h'⟩ :=
            ih (d := { d with rejected := d.rejected.insertIfNew e.1 v })
              (c := { c with rejected := c.rejected.insertIfNew e.1 v }) hrest
              (by rw [hrejected])
          exact ⟨added, rejected, ⟨h.live_eq, h.entries_eq, h.accepted_eq, h.rejected_eq⟩,
            ⟨h'.live_eq, h'.entries_eq, h'.accepted_eq, h'.rejected_eq⟩⟩
      | none =>
          have hget' : c.pending.get? e.1 = none := hkey ▸ hget
          rw [List.foldl_cons, List.foldl_cons, pull_of_none hget, pull_of_none hget']
          obtain ⟨added, rejected, h, h'⟩ :=
            ih (d := { d with pending := d.pending.insert e.1 e.2, accepted := true })
              (c := { c with pending := c.pending.insert e.1 e.2, accepted := true })
              (fun f hf => by simp only [Table.get?_insert, hrest f hf]) hrejected
          have hentries := h.entries_eq
          have hentries' := h'.entries_eq
          simp only [Table.entries_insert_of_none hget] at hentries
          simp only [Table.entries_insert_of_none hget'] at hentries'
          refine ⟨e :: added, rejected, ⟨h.live_eq, ?_, ?_, h.rejected_eq⟩,
            ⟨h'.live_eq, ?_, ?_, h'.rejected_eq⟩⟩
          · rw [hentries, List.append_assoc, List.singleton_append]
          · rw [h.accepted_eq, Bool.true_or, List.isEmpty_cons, Bool.not_false, Bool.or_true]
          · rw [hentries', List.append_assoc, List.singleton_append]
          · rw [h'.accepted_eq, Bool.true_or, List.isEmpty_cons, Bool.not_false, Bool.or_true]

/-- What a batch comes to is read off the draft behind it. -/
theorem Grew.takes {m : QueryMap K V} {batch added : List (K × V)} {rejected : Table K V}
    (h : (start m).Grew (batch.foldl pull (start m)) added rejected) :
    m.Takes batch added rejected := by
  have haccepted : (batch.foldl pull (start m)).accepted = !added.isEmpty := by
    rw [h.accepted_eq]
    exact Bool.false_or _
  refine ⟨?_, ?_, ?_⟩
  · rw [contents_insertAllIfNew, h.entries_eq]
    rfl
  · rw [answer_insertAllIfNew, h.rejected_eq]
  · unfold insertAllIfNew finish
    rw [haccepted]
    cases hadded : added.isEmpty with
    | true => rfl
    | false =>
        have hsize : (batch.foldl pull (start m)).pending.size = m.size + added.length := by
          rw [Table.size, h.entries_eq, List.length_append]
          rfl
        rw [hsize, h.live_eq, h.rejected_eq]
        rfl

end Draft

/-- Two maps that agree on the keys of a batch take the same entries of it. -/
theorem exists_takes [EquivBEq K] {m m' : QueryMap K V} {batch : List (K × V)}
    (h : ∀ e ∈ batch, m.get? e.1 = m'.get? e.1) :
    ∃ added rejected, m.Takes batch added rejected ∧ m'.Takes batch added rejected := by
  obtain ⟨added, rejected, hm, hm'⟩ :=
    Draft.exists_grew (d := Draft.start m) (c := Draft.start m') h rfl
  exact ⟨added, rejected, hm.takes, hm'.takes⟩

end QueryMap

/-! ## Other keys and other values -/

variable {J : Type} [BEq J]

/-- The same generation with other keys and values. -/
def Snapshot.carry (f : KeyMap K J) (g : V → W) (s : Snapshot K V) : Snapshot J W :=
  ⟨s.generation, s.contents.carry f g⟩

namespace QueryMap

/-- The same map with other keys and values. -/
def carry (f : KeyMap K J) (g : V → W) (m : QueryMap K V) : QueryMap J W := ⟨m.snapshot.carry f g⟩

/-- The same draft with other keys and values. -/
def Draft.carry (f : KeyMap K J) (g : V → W) (d : Draft K V) : Draft J W :=
  ⟨d.live.carry f g, d.pending.carry f g, d.accepted, d.rejected.carry f g⟩

section Carry

variable (f : KeyMap K J) (g : V → W)

@[simp] theorem contents_carry (m : QueryMap K V) :
    (m.carry f g).contents = m.contents.carry f g := rfl

theorem size_carry (m : QueryMap K V) : (m.carry f g).size = m.size := by
  rw [size, size, contents_carry, Table.size_carry]

theorem get?_carry (m : QueryMap K V) (k : K) : (m.carry f g).get? (f k) = (m.get? k).map g := by
  rw [get?, get?, contents_carry, Table.get?_carry]

theorem Draft.carry_pull (d : Draft K V) (e : K × V) :
    (d.pull e).carry f g = (d.carry f g).pull (f e.1, g e.2) := by
  cases h : d.pending.get? e.1 with
  | some v =>
      have hcarry : (d.carry f g).pending.get? (f e.1) = some (g v) := by
        rw [carry, Table.get?_carry, h, Option.map_some]
      rw [pull_of_some h, pull_of_some hcarry, carry, carry, Table.carry_insertIfNew]
  | none =>
      have hcarry : (d.carry f g).pending.get? (f e.1) = none := by
        rw [carry, Table.get?_carry, h, Option.map_none]
      rw [pull_of_none h, pull_of_none hcarry, carry, carry, Table.carry_insert]

theorem Draft.carry_foldl_pull (d : Draft K V) (batch : List (K × V)) :
    (batch.foldl pull d).carry f g = (batch.map fun e => (f e.1, g e.2)).foldl pull (d.carry f g) := by
  induction batch generalizing d with
  | nil => rfl
  | cons e batch ih => rw [List.foldl_cons, ih, carry_pull, List.map_cons, List.foldl_cons]

/-- A batch with other keys and values, for a map with these keys and values, goes the same way. -/
theorem insertAllIfNew_carry (m : QueryMap K V) (batch : List (K × V)) :
    (m.carry f g).insertAllIfNew (batch.map fun e => (f e.1, g e.2)) =
      let e := m.insertAllIfNew batch
      ⟨e.state.carry f g, e.answer.carry f g, e.events⟩ := by
  have hstart : Draft.start (m.carry f g) = (Draft.start m).carry f g := rfl
  unfold insertAllIfNew
  rw [hstart, ← Draft.carry_foldl_pull]
  generalize batch.foldl Draft.pull (Draft.start m) = d
  unfold Draft.finish
  cases haccepted : d.accepted with
  | true =>
      simp only [Draft.carry, haccepted, if_true, size_carry, Table.size_carry]
      rfl
  | false =>
      simp only [Draft.carry, haccepted, Bool.false_eq_true, if_false]

end Carry

end QueryMap

/-! ## Other values for the same keys -/

/-- The same generation with other values. -/
def Snapshot.map (f : V → W) (s : Snapshot K V) : Snapshot K W := ⟨s.generation, s.contents.map f⟩

namespace QueryMap

/-- The same map with other values. -/
def map (f : V → W) (m : QueryMap K V) : QueryMap K W := ⟨m.snapshot.map f⟩

/-- A batch with other values, for a map with other values, goes the same way. -/
theorem insertAllIfNew_map (f : V → W) (m : QueryMap K V) (batch : List (K × V)) :
    (m.map f).insertAllIfNew (batch.map fun e => (e.1, f e.2)) =
      let e := m.insertAllIfNew batch
      ⟨e.state.map f, e.answer.map f, e.events⟩ :=
  insertAllIfNew_carry KeyMap.id f m batch

end QueryMap

end AttributeRegistry
