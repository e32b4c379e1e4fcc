import AttributeRegistry.Proofs.QueryMap.Batch
import AttributeRegistry.QueryMap.Call

/-!
# One key on its own

What a run of calls tells of one key, it tells of it also when everything about other keys is taken
out: the calls on them, and their entries in batches (`heard_without_others`).

The two runs do not go the same way.  A batch that is accepted in the one may be empty in the other,
which then publishes nothing and reads on from the bindings that it had.  Both drafts agree on the key
all the same, at every entry (`Draft.AgreeAt`), and that is all that a step needs to know.
-/

namespace AttributeRegistry.QueryMap

variable {K V : Type} [BEq K]

/-! ## Taking out other keys -/

/-- The key of a call on a single key. -/
def Call.key? : Call K V → Option K
  | .get k | .contains k | .insert k _ | .insertIfNew k _ | .erase k => some k
  | .containsValue _ | .size | .isEmpty | .clear | .insertAll _ | .insertAllIfNew _ => none

/-- The entries of a batch that are for `k`. -/
def entriesOf (k : K) (batch : List (K × V)) : List (K × V) := batch.filter fun e => e.1 == k

/-- The call with no entries in its batch but those for `k`. -/
def Call.prune (k : K) : Call K V → Call K V
  | .insertAll batch => .insertAll (entriesOf k batch)
  | .insertAllIfNew batch => .insertAllIfNew (entriesOf k batch)
  | c => c

/-- The call is on no single key other than `k`. -/
def Call.allows (k : K) (c : Call K V) : Bool := c.key?.all (· == k)

/-- The run without the calls on single keys other than `k` and without their entries in batches; all
other calls stay, with batches that may be empty now. -/
def withoutOthers (k : K) (calls : List (Call K V)) : List (Call K V) :=
  (calls.filter (Call.allows k)).map (Call.prune k)

/-! ## What is told of a key -/

/-- What an answer tells of one key. -/
inductive Tidings (V : Type) where
  | nothing
  | flag (b : Bool)
  /-- The value of the key, or the value with which a batch reports it. -/
  | value (v : Option V)
  deriving DecidableEq

/-- What the answer to a call tells of `k`, if the call is on no other key. -/
def Answer.tidings (k : K) : Call K V → Answer K V → Tidings V
  | .containsValue _, _ | .size, _ | .isEmpty, _ => .nothing
  | _, .done | _, .count _ => .nothing
  | _, .flag b => .flag b
  | _, .value v => .value v
  | _, .rejected t => .value (t.get? k)

/-- What a run tells of `k`: for each call that is on no other key, what is told in answer to it. -/
def heard [BEq V] (k : K) (m : QueryMap K V) (calls : List (Call K V)) : List (Tidings V) :=
  ((calls.zip (m.run calls)).filter fun e => e.1.allows k).map fun e => e.2.answer.tidings k e.1

theorem heard_cons [BEq V] (k : K) (m : QueryMap K V) (c : Call K V) (calls : List (Call K V)) :
    heard k m (c :: calls) =
      if c.allows k then (m.perform c).answer.tidings k c :: heard k (m.perform c).state calls
      else heard k (m.perform c).state calls := by
  rw [heard, run, List.zip_cons_cons, List.filter_cons]
  split
  · rfl
  · rfl

theorem withoutOthers_cons (k : K) (c : Call K V) (calls : List (Call K V)) :
    withoutOthers k (c :: calls) =
      if c.allows k then c.prune k :: withoutOthers k calls else withoutOthers k calls := by
  rw [withoutOthers, List.filter_cons]
  split
  · rfl
  · rfl

theorem length_heard [BEq V] (k : K) (m : QueryMap K V) (calls : List (Call K V)) :
    (heard k m calls).length = (withoutOthers k calls).length := by
  induction calls generalizing m with
  | nil => rfl
  | cons c calls ih =>
      rw [heard_cons, withoutOthers_cons]
      cases hc : c.allows k with
      | true => rw [if_pos rfl, if_pos rfl, List.length_cons, List.length_cons, ih]
      | false => rw [if_neg Bool.false_ne_true, if_neg Bool.false_ne_true, ih]

theorem entriesOf_cons_of_beq {k : K} {e : K × V} (h : (e.1 == k) = true) (batch : List (K × V)) :
    entriesOf k (e :: batch) = e :: entriesOf k batch :=
  List.filter_cons_of_pos (p := fun e : K × V => e.1 == k) h

theorem entriesOf_cons_of_not_beq {k : K} {e : K × V} (h : ¬ (e.1 == k) = true)
    (batch : List (K × V)) : entriesOf k (e :: batch) = entriesOf k batch :=
  List.filter_cons_of_neg (p := fun e : K × V => e.1 == k) h

/-- Taking entries out of a batch does not change what the call is on. -/
@[simp] theorem Call.allows_prune (k : K) (c : Call K V) : (c.prune k).allows k = c.allows k := by
  cases c <;> rfl

/-! ## Batches -/

namespace Draft

/-- Two drafts have the same for `k`, and report the same of it. -/
structure AgreeAt (k : K) (d d' : Draft K V) : Prop where
  pending : d.pending.get? k = d'.pending.get? k
  rejected : d.rejected.get? k = d'.rejected.get? k

namespace AgreeAt

variable [EquivBEq K] {k : K} {d d' : Draft K V} {e : K × V}

/-- An entry for another key is nothing to `k`. -/
theorem pull_other (h : d.AgreeAt k d') (he : (e.1 == k) = false) : (d.pull e).AgreeAt k d' := by
  refine ⟨?_, ?_⟩
  · rw [get?_pending_pull, he, if_neg Bool.false_ne_true, Option.or_none, h.pending]
  · rw [← h.rejected]
    cases hget : d.pending.get? e.1 with
    | some v =>
        rw [pull_of_some hget, Table.get?_insertIfNew, he, if_neg Bool.false_ne_true, Option.or_none]
    | none => rw [pull_of_none hget]

/-- An entry for `k` is taken by both drafts or turned away by both, for the same reason. -/
theorem pull_own (h : d.AgreeAt k d') (he : (e.1 == k) = true) :
    (d.pull e).AgreeAt k (d'.pull e) := by
  have hkey : d.pending.get? e.1 = d'.pending.get? e.1 := by
    rw [Table.get?_congr d.pending he, Table.get?_congr d'.pending he, h.pending]
  refine ⟨?_, ?_⟩
  · rw [get?_pending_pull, get?_pending_pull, h.pending]
  · cases hget : d.pending.get? e.1 with
    | some v =>
        rw [pull_of_some hget, pull_of_some (hkey ▸ hget), Table.get?_insertIfNew,
          Table.get?_insertIfNew, h.rejected]
    | none =>
        rw [pull_of_none hget, pull_of_none (hkey ▸ hget)]
        exact h.rejected

/-- A batch and its entries for `k` come to the same for `k`. -/
theorem foldl_pull_entriesOf (h : d.AgreeAt k d') (batch : List (K × V)) :
    (batch.foldl pull d).AgreeAt k ((entriesOf k batch).foldl pull d') := by
  induction batch generalizing d d' with
  | nil => exact h
  | cons e batch ih =>
      by_cases he : (e.1 == k) = true
      · rw [entriesOf_cons_of_beq he]
        exact ih (h.pull_own he)
      · rw [entriesOf_cons_of_not_beq he]
        exact ih (h.pull_other (Bool.eq_false_iff.2 he))

end AgreeAt

end Draft

theorem insertAllIfNew_entriesOf [EquivBEq K] {k : K} {m m' : QueryMap K V}
    (h : m.get? k = m'.get? k) (batch : List (K × V)) :
    (m.insertAllIfNew batch).state.get? k = (m'.insertAllIfNew (entriesOf k batch)).state.get? k ∧
      (m.insertAllIfNew batch).answer.get? k =
        (m'.insertAllIfNew (entriesOf k batch)).answer.get? k := by
  have hstart : (Draft.start m).AgreeAt k (Draft.start m') := ⟨h, rfl⟩
  have hend := hstart.foldl_pull_entriesOf batch
  rw [get?, get?, contents_insertAllIfNew, contents_insertAllIfNew, answer_insertAllIfNew,
    answer_insertAllIfNew]
  exact ⟨hend.pending, hend.rejected⟩

/-- What a batch that overwrites leaves for `k` is told by its entries for `k`. -/
theorem get?_insertAll_entriesOf [EquivBEq K] {k : K} {t t' : Table K V}
    (h : t.get? k = t'.get? k) (batch : List (K × V)) :
    (t.insertAll batch).get? k = (t'.insertAll (entriesOf k batch)).get? k := by
  induction batch generalizing t t' with
  | nil => exact h
  | cons e batch ih =>
      by_cases he : (e.1 == k) = true
      · rw [entriesOf_cons_of_beq he]
        refine ih ?_
        rw [Table.get?_insert, Table.get?_insert, if_pos he, if_pos he]
      · rw [entriesOf_cons_of_not_beq he]
        refine ih ?_
        rw [Table.get?_insert, if_neg he, h]

theorem insertAll_entriesOf [EquivBEq K] {k : K} {m m' : QueryMap K V}
    (h : m.get? k = m'.get? k) (batch : List (K × V)) :
    (m.insertAll batch).state.get? k = (m'.insertAll (entriesOf k batch)).state.get? k := by
  rw [get?, get?, contents_insertAll, contents_insertAll]
  exact get?_insertAll_entriesOf h batch

/-! ## Calls -/

variable [EquivBEq K] [BEq V]

/-- A call on another key leaves `k` as it was. -/
theorem get?_perform_of_not_allows {k : K} {c : Call K V} (h : c.allows k = false)
    (m : QueryMap K V) : (m.perform c).state.get? k = m.get? k := by
  cases c with
  | get j => rfl
  | contains j => rfl
  | insert j v =>
      have hj : ¬ (j == k) = true := Bool.eq_false_iff.1 h
      show (m.insert j v).state.get? k = m.get? k
      rw [get?_insert, if_neg hj]
  | insertIfNew j v =>
      have hj : ¬ (j == k) = true := Bool.eq_false_iff.1 h
      show (m.insertIfNew j v).state.get? k = m.get? k
      rw [get?_insertIfNew, if_neg hj, Option.or_none]
  | erase j =>
      have hj : ¬ (j == k) = true := Bool.eq_false_iff.1 h
      show (m.erase j).state.get? k = m.get? k
      rw [get?_erase, if_neg hj]
  | containsValue v => cases h
  | size => cases h
  | isEmpty => cases h
  | clear => cases h
  | insertAll batch => cases h
  | insertAllIfNew batch => cases h

/-- For maps that agree on `k`, a call leaves them in agreement and tells the same of `k`, with or
without the entries that its batch has for other keys. -/
theorem perform_prune {k : K} {m m' : QueryMap K V} (h : m.get? k = m'.get? k) {c : Call K V}
    (hc : c.allows k = true) :
    (m.perform c).state.get? k = (m'.perform (c.prune k)).state.get? k ∧
      (m.perform c).answer.tidings k c =
        (m'.perform (c.prune k)).answer.tidings k (c.prune k) := by
  have hkey {j : K} (hj : (j == k) = true) : m.get? j = m'.get? j :=
    (Table.get?_congr m.contents hj).trans (h.trans (Table.get?_congr m'.contents hj).symm)
  cases c with
  | get j => exact ⟨h, congrArg Tidings.value (hkey hc)⟩
  | contains j => exact ⟨h, congrArg (fun v : Option V => Tidings.flag v.isSome) (hkey hc)⟩
  | containsValue v => exact ⟨h, rfl⟩
  | size => exact ⟨h, rfl⟩
  | isEmpty => exact ⟨h, rfl⟩
  | insert j v =>
      refine ⟨?_, congrArg Tidings.value (hkey hc)⟩
      show (m.insert j v).state.get? k = (m'.insert j v).state.get? k
      rw [get?_insert, get?_insert, h]
  | insertIfNew j v =>
      refine ⟨?_, congrArg Tidings.value ?_⟩
      · show (m.insertIfNew j v).state.get? k = (m'.insertIfNew j v).state.get? k
        rw [get?_insertIfNew, get?_insertIfNew, h]
      · rw [answer_insertIfNew, answer_insertIfNew, hkey hc]
  | erase j =>
      refine ⟨?_, congrArg Tidings.value ?_⟩
      · show (m.erase j).state.get? k = (m'.erase j).state.get? k
        rw [get?_erase, get?_erase, h]
      · rw [answer_erase, answer_erase, hkey hc]
  | clear => exact ⟨rfl, rfl⟩
  | insertAll batch => exact ⟨insertAll_entriesOf h batch, rfl⟩
  | insertAllIfNew batch =>
      obtain ⟨hstate, hanswer⟩ := insertAllIfNew_entriesOf h batch
      exact ⟨hstate, congrArg Tidings.value hanswer⟩

theorem heard_eq_of_agree {k : K} {m m' : QueryMap K V} (h : m.get? k = m'.get? k)
    (calls : List (Call K V)) : heard k m calls = heard k m' (withoutOthers k calls) := by
  induction calls generalizing m m' with
  | nil => rfl
  | cons c calls ih =>
      rw [heard_cons, withoutOthers_cons]
      cases hc : c.allows k with
      | true =>
          obtain ⟨hstate, htidings⟩ := perform_prune h hc
          rw [if_pos rfl, if_pos rfl, heard_cons, Call.allows_prune, if_pos hc, ih hstate, htidings]
      | false =>
          rw [if_neg Bool.false_ne_true, if_neg Bool.false_ne_true]
          exact ih ((get?_perform_of_not_allows hc m).trans h)

/-- Take out of any run, on any map, all calls on single keys other than `k` and all their entries in
batches.  Each call that stays tells the same of `k` as before: what a read of `k` finds, what a write
of `k` answers, and whether and with which value a batch reports `k`. -/
theorem heard_without_others (k : K) (m : QueryMap K V) (calls : List (Call K V)) :
    (heard k m calls).length = (withoutOthers k calls).length ∧
      heard k m calls = heard k m (withoutOthers k calls) :=
  ⟨length_heard k m calls, heard_eq_of_agree rfl calls⟩

/-- Two keys with one text.  Without the other key the second batch is empty and publishes nothing. -/
theorem heard_without_others_shared :
    let coal : Shared String := ⟨⟨0⟩, "coal"⟩
    let other : Shared String := ⟨⟨1⟩, "coal"⟩
    let calls : List (Call (Shared String) Nat) :=
      [.insertAllIfNew [(other, 1), (coal, 2), (coal, 3)], .erase other, .insertAllIfNew [(other, 4)],
        .insertAll [(coal, 5), (other, 6)], .get coal, .size, .contains other, .clear, .contains coal]
    EquivBEq (Shared String) ∧
      heard coal ∅ calls = heard coal ∅ (withoutOthers coal calls) ∧
      heard coal ∅ calls = [.value (some 2), .value none, .nothing, .value (some 5), .nothing,
        .nothing, .flag false] := by
  intro coal other calls
  exact ⟨inferInstance, (heard_without_others coal ∅ calls).2, by decide⟩

end AttributeRegistry.QueryMap
