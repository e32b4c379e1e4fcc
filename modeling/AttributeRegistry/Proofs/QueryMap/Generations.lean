import Mathlib.Data.List.Basic
import Mathlib.Data.List.Induction
import Mathlib.Order.Monotone.Basic
import AttributeRegistry.Proofs.QueryMap.Batch
import AttributeRegistry.QueryMap.Session

/-!
# Generations over a run

A call publishes one generation or leaves the map exactly as it is, and which of the two is told by
the call and the bindings it meets (`Call.Publishes`, `perform_cases`).  So the number of the current
generation never falls over a run, and between two points of it the generation is the same exactly
if nothing was published there (`Session.sameGeneration_iff`).

A snapshot that is kept goes back to the step that took it, copied or not (`Session.origins`), and
shows what the map held at that point.
-/

namespace AttributeRegistry.QueryMap

variable {K V : Type} [BEq K]

/-! ## One call -/

/-- The calls that publish a generation when they are performed on `m`. -/
def Call.Publishes (m : QueryMap K V) : Call K V → Prop
  | .insert .. => True
  | .clear => True
  | .insertAll batch => batch ≠ []
  | .erase k => m.contains k = true
  | .insertIfNew k _ => m.contains k = false
  | .insertAllIfNew batch => ∃ e ∈ batch, m.contains e.1 = false
  | .get _ | .contains _ | .containsValue _ | .size | .isEmpty => False

theorem contains_eq_false_iff {m : QueryMap K V} {k : K} : m.contains k = false ↔ m.get? k = none := by
  rw [contains, Table.contains, get?, Option.isSome_eq_false_iff, Option.isNone_iff_eq_none]

/-- A batch is published if it has a key that is unbound, and else leaves no trace on the map. -/
theorem insertAllIfNew_cases (m : QueryMap K V) (batch : List (K × V)) :
    ((∃ e ∈ batch, m.contains e.1 = false) ∧ ∃ t, (m.insertAllIfNew batch).state = m.publish t) ∨
      ((¬ ∃ e ∈ batch, m.contains e.1 = false) ∧ (m.insertAllIfNew batch).state = m) := by
  simp only [contains_eq_false_iff]
  by_cases h : ∃ e ∈ batch, m.get? e.1 = none
  · exact Or.inl ⟨h, _, (insertAllIfNew_of_unbound h).1⟩
  · exact Or.inr ⟨h, (insertAllIfNew_of_bound h).1⟩

/-- A call publishes one generation, or the map stays in the one it is in. -/
theorem perform_cases [BEq V] (m : QueryMap K V) (c : Call K V) :
    (c.Publishes m ∧ ∃ t, (m.perform c).state = m.publish t) ∨
      (¬ c.Publishes m ∧ (m.perform c).state = m) := by
  cases c with
  | get k => exact Or.inr ⟨id, rfl⟩
  | contains k => exact Or.inr ⟨id, rfl⟩
  | containsValue v => exact Or.inr ⟨id, rfl⟩
  | size => exact Or.inr ⟨id, rfl⟩
  | isEmpty => exact Or.inr ⟨id, rfl⟩
  | insert k v => exact Or.inl ⟨trivial, _, rfl⟩
  | clear => exact Or.inl ⟨trivial, _, rfl⟩
  | insertIfNew k v =>
      rw [Call.Publishes, contains_eq_false_iff, perform, Effect.map, insertIfNew]
      cases hk : m.get? k with
      | some w => exact Or.inr ⟨by simp, rfl⟩
      | none => exact Or.inl ⟨rfl, _, rfl⟩
  | erase k =>
      rw [Call.Publishes, contains, Table.contains, perform, Effect.map, erase, get?]
      cases hk : m.contents.get? k with
      | some w => exact Or.inl ⟨rfl, _, rfl⟩
      | none => exact Or.inr ⟨by simp, rfl⟩
  | insertAll batch =>
      rw [Call.Publishes, perform, Effect.map, insertAll_eq]
      cases batch with
      | nil => exact Or.inr ⟨by simp, rfl⟩
      | cons e rest => exact Or.inl ⟨List.cons_ne_nil e rest, _, rfl⟩
  | insertAllIfNew batch => exact m.insertAllIfNew_cases batch

/-! ## Points of a run -/

/-- A step that may have failed to name its keys. -/
abbrev Attempt (K V : Type) := Except IdentifierError (Step K V)

/-- Something in a session that shows a generation. -/
inductive Handle where
  /-- The map itself, in its current generation. -/
  | live
  /-- The snapshot kept under a name. -/
  | kept (name : String)

namespace Session

section

variable [Ord K] [Ord V] [Inspect K] [Inspect V] [BEq V]

/-- The session after a run of steps. -/
def after (s : Session K V) (run : List (Attempt K V)) : Session K V :=
  run.foldl (fun s a => (s.attempt a).state) s

/-- The session at the point where `n` steps of a run are taken. -/
def upTo (s : Session K V) (run : List (Attempt K V)) (n : ℕ) : Session K V :=
  s.after (run.take n)

/-- The step that is taken behind the point `n` publishes a generation. -/
def PublishesAt (s : Session K V) (run : List (Attempt K V)) (n : ℕ) : Prop :=
  ∃ c, run[n]? = some (.ok (.call c)) ∧ c.Publishes (s.upTo run n).map

/-- The generation that the map is in at the point `n`. -/
def generationAt (s : Session K V) (run : List (Attempt K V)) (n : ℕ) : Snapshot K V :=
  (s.upTo run n).map.snapshot

end

/-- The generation that a handle shows. -/
def shown (s : Session K V) : Handle → Option (Snapshot K V)
  | .live => some s.map.snapshot
  | .kept name => s.kept.get? name

/-- Takes one more step into account, of which the number is given. -/
def noteOrigin (origins : Table String ℕ) : Attempt K V × ℕ → Table String ℕ
  | (.ok (.keep name), n) => origins.insert name n
  | (.ok (.copy name other), _) =>
    match origins.get? name with
    | some n => origins.insert other n
    | none => origins
  | _ => origins

/-- The points of a run at which the snapshots were taken that it leaves, by name.  A copy goes back to
the same point as what it is a copy of. -/
def origins (run : List (Attempt K V)) : Table String ℕ :=
  run.zipIdx.foldl noteOrigin ∅

omit [BEq K] in
theorem origins_concat (run : List (Attempt K V)) (a : Attempt K V) :
    origins (run ++ [a]) = noteOrigin (origins run) (a, run.length) := by
  rw [origins, List.zipIdx_append, List.foldl_append, Nat.zero_add]
  rfl

/-- The point of a run at which a handle that it leaves was taken; the map is as of the end. -/
def takenAt (run : List (Attempt K V)) : Handle → Option ℕ
  | .live => some run.length
  | .kept name => (origins run).get? name

variable [Ord K] [Ord V] [Inspect K] [Inspect V] [BEq V]

/-! ## One step -/

theorem map_attempt_call (s : Session K V) (c : Call K V) :
    (s.attempt (.ok (.call c))).state.map = (s.map.perform c).state := rfl

/-- Only a call changes the map. -/
theorem map_attempt_of_forall_ne {s : Session K V} {a : Attempt K V}
    (h : ∀ c, a ≠ .ok (.call c)) : (s.attempt a).state.map = s.map := by
  cases a with
  | error e => rfl
  | ok step =>
      rw [attempt]
      cases step with
      | call c => exact absurd rfl (h c)
      | look q => rfl
      | keep name => rfl
      | copy name other =>
          rw [Session.step]
          split
          · rfl
          · rfl
      | ask name q =>
          rw [Session.step]
          split
          · rfl
          · rfl
      | sameGeneration name other =>
          rw [Session.step]
          split
          · rfl
          · rfl
      | handles a b => rfl

theorem after_concat (s : Session K V) (run : List (Attempt K V)) (a : Attempt K V) :
    s.after (run ++ [a]) = ((s.after run).attempt a).state :=
  List.foldl_concat ..

theorem upTo_length (s : Session K V) (run : List (Attempt K V)) :
    s.upTo run run.length = s.after run := by
  rw [upTo, List.take_length]

theorem upTo_succ (s : Session K V) {run : List (Attempt K V)} {n : ℕ} {a : Attempt K V}
    (h : run[n]? = some a) : s.upTo run (n + 1) = ((s.upTo run n).attempt a).state := by
  rw [upTo, List.take_add_one, h, Option.toList_some, after_concat, upTo]

/-- Nothing happens behind the end. -/
theorem upTo_succ_of_none (s : Session K V) {run : List (Attempt K V)} {n : ℕ}
    (h : run[n]? = none) : s.upTo run (n + 1) = s.upTo run n := by
  rw [upTo, List.take_add_one, h, Option.toList_none, List.append_nil, upTo]

/-- A step publishes one generation, or the map stays in the one it is in. -/
theorem map_upTo_succ (s : Session K V) (run : List (Attempt K V)) (n : ℕ) :
    (s.PublishesAt run n ∧ ∃ t, (s.upTo run (n + 1)).map = (s.upTo run n).map.publish t) ∨
      (¬ s.PublishesAt run n ∧ (s.upTo run (n + 1)).map = (s.upTo run n).map) := by
  by_cases hcall : ∃ c, run[n]? = some (.ok (.call c))
  · obtain ⟨c, hc⟩ := hcall
    have hiff : s.PublishesAt run n ↔ c.Publishes (s.upTo run n).map := by
      unfold PublishesAt
      rw [hc]
      simp
    rw [hiff, upTo_succ s hc, map_attempt_call]
    exact perform_cases _ c
  · have hquiet : ¬ s.PublishesAt run n := fun ⟨c, hc, _⟩ => hcall ⟨c, hc⟩
    refine Or.inr ⟨hquiet, ?_⟩
    cases ha : run[n]? with
    | none => rw [upTo_succ_of_none s ha]
    | some a =>
        rw [upTo_succ s ha]
        refine map_attempt_of_forall_ne ?_
        rintro c rfl
        exact hcall ⟨c, ha⟩

/-! ## A run of steps -/

/-- The number of the generation never falls. -/
theorem generation_mono (s : Session K V) (run : List (Attempt K V)) :
    Monotone fun n => (s.generationAt run n).generation := by
  refine monotone_nat_of_le_succ fun n => ?_
  unfold generationAt
  rcases s.map_upTo_succ run n with ⟨-, t, hstep⟩ | ⟨-, hstep⟩
  · rw [hstep]
    exact Nat.le_succ _
  · rw [hstep]

/-- While nothing is published the map stays as it is. -/
theorem map_upTo_of_forall_not (s : Session K V) (run : List (Attempt K V)) {i j : ℕ} (hij : i ≤ j)
    (hquiet : ∀ n, i ≤ n → n < j → ¬ s.PublishesAt run n) :
    (s.upTo run j).map = (s.upTo run i).map := by
  induction j, hij using Nat.le_induction with
  | base => rfl
  | succ j hij ih =>
      rcases s.map_upTo_succ run j with ⟨hpublishes, -⟩ | ⟨-, hstep⟩
      · exact absurd hpublishes (hquiet j hij (Nat.lt_succ_self j))
      · rw [hstep]
        exact ih fun n hn hnj => hquiet n hn (Nat.lt_succ_of_lt hnj)

/-- Where the number of the generation is the same, nothing was published in between. -/
theorem not_publishesAt_of_generation_eq (s : Session K V) (run : List (Attempt K V)) {i j : ℕ}
    (h : (s.generationAt run i).generation = (s.generationAt run j).generation) {n : ℕ} (hi : i ≤ n)
    (hj : n < j) : ¬ s.PublishesAt run n := by
  have hmono := s.generation_mono run
  have hlow : (s.generationAt run i).generation ≤ (s.generationAt run n).generation := hmono hi
  have hhigh : (s.generationAt run (n + 1)).generation ≤ (s.generationAt run j).generation := hmono hj
  rcases s.map_upTo_succ run n with ⟨-, t, hstep⟩ | ⟨hquiet, -⟩
  · have hnext : (s.generationAt run (n + 1)).generation =
        (s.generationAt run n).generation + 1 := by
      rw [generationAt, hstep]
      rfl
    omega
  · exact hquiet

/-- Two points of a run are in one generation exactly if nothing is published between them. -/
theorem sameGeneration_iff (s : Session K V) (run : List (Attempt K V)) {i j : ℕ} (hij : i ≤ j) :
    (s.generationAt run i).sameGeneration (s.generationAt run j) = true ↔
      ∀ n, i ≤ n → n < j → ¬ s.PublishesAt run n := by
  rw [Snapshot.sameGeneration, beq_iff_eq]
  constructor
  · intro h n hi hj
    exact s.not_publishesAt_of_generation_eq run h hi hj
  · intro hquiet
    rw [generationAt, generationAt, s.map_upTo_of_forall_not run hij hquiet]

/-- One generation shows the same at any two points. -/
theorem generationAt_eq_of_sameGeneration (s : Session K V) (run : List (Attempt K V)) {i j : ℕ}
    (hij : i ≤ j) (h : (s.generationAt run i).sameGeneration (s.generationAt run j) = true) :
    s.generationAt run i = s.generationAt run j := by
  have hquiet := (s.sameGeneration_iff run hij).1 h
  rw [generationAt, generationAt, s.map_upTo_of_forall_not run hij hquiet]

/-! ## Kept snapshots -/

/-- A session with a map of which nothing is kept yet. -/
def onMap (m : QueryMap K V) : Session K V := ⟨m, ∅⟩

/-- A step that notes a point for a name keeps the generation of that point under it, if the names
noted before are kept so. -/
theorem kept_attempt {s : Session K V} {o : Table String ℕ} {g : ℕ → Snapshot K V} {n : ℕ}
    (hlive : s.map.snapshot = g n) (hkept : ∀ name, s.kept.get? name = (o.get? name).map g)
    (a : Attempt K V) (name : String) :
    (s.attempt a).state.kept.get? name = ((noteOrigin o (a, n)).get? name).map g := by
  cases a with
  | error e => exact hkept name
  | ok step =>
      rw [attempt]
      cases step with
      | call c => exact hkept name
      | look q => exact hkept name
      | handles a b => exact hkept name
      | keep new =>
          rw [Session.step, noteOrigin, Table.get?_insert, Table.get?_insert, hlive]
          by_cases hname : (new == name) = true
          · rw [if_pos hname, if_pos hname, Option.map_some]
          · rw [if_neg hname, if_neg hname, hkept name]
      | copy old new =>
          rw [Session.step, noteOrigin, hkept old]
          cases o.get? old with
          | none => exact hkept name
          | some p =>
              simp only [Option.map_some, Table.get?_insert]
              by_cases hname : (new == name) = true
              · rw [if_pos hname, if_pos hname, Option.map_some]
              · rw [if_neg hname, if_neg hname, hkept name]
      | ask old q =>
          rw [Session.step, noteOrigin]
          · split
            · exact hkept name
            · exact hkept name
          all_goals simp
      | sameGeneration old other =>
          rw [Session.step, noteOrigin]
          · split
            · exact hkept name
            · exact hkept name
          all_goals simp

/-- A snapshot that is kept shows the generation of the point that it goes back to. -/
theorem kept_upTo (m : QueryMap K V) (run : List (Attempt K V)) (n : ℕ) (name : String) :
    ((onMap m).upTo run n).kept.get? name =
      ((origins (run.take n)).get? name).map ((onMap m).generationAt run) := by
  induction n generalizing name with
  | zero => rfl
  | succ n ih =>
      cases ha : run[n]? with
      | none =>
          rw [upTo_succ_of_none _ ha, ih, List.take_add_one, ha, Option.toList_none, List.append_nil]
      | some a =>
          have hlength : (run.take n).length = n := by
            rw [List.length_take]
            have := (List.getElem?_eq_some_iff.1 ha).1
            omega
          rw [upTo_succ _ ha, List.take_add_one, ha, Option.toList_some, origins_concat, hlength]
          exact kept_attempt rfl ih a name

/-- In any session with a map:
a step publishes one generation or leaves the map as it is;
the map is in the same generation at two points exactly if nothing is published between them, and then
it holds the same;
a generation that was left is not returned to;
and a handle on a generation, the map itself or a snapshot kept under some name, copied or not, shows
what the map was at the point where it was taken. -/
theorem generations (m : QueryMap K V) (run : List (Attempt K V)) :
    let s : Session K V := onMap m
    let generation := s.generationAt run
    (∀ n, (s.PublishesAt run n ∧ ∃ t, (s.upTo run (n + 1)).map = (s.upTo run n).map.publish t) ∨
      (¬ s.PublishesAt run n ∧ (s.upTo run (n + 1)).map = (s.upTo run n).map)) ∧
    (∀ i j, ((generation i).sameGeneration (generation j) = true ↔
        ∀ n, min i j ≤ n → n < max i j → ¬ s.PublishesAt run n) ∧
      ((generation i).sameGeneration (generation j) = true →
        (generation i).contents = (generation j).contents)) ∧
    (∀ i j k, i ≤ j → j ≤ k → (generation i).sameGeneration (generation j) = false →
      (generation i).sameGeneration (generation k) = false) ∧
    ∀ h, (s.after run).shown h = (takenAt run h).map generation := by
  intro s generation
  refine ⟨s.map_upTo_succ run, ?_, ?_, ?_⟩
  · intro i j
    rcases Nat.le_total i j with hij | hji
    · rw [Nat.min_eq_left hij, Nat.max_eq_right hij]
      refine ⟨s.sameGeneration_iff run hij, fun h => ?_⟩
      exact congrArg Snapshot.contents (s.generationAt_eq_of_sameGeneration run hij h)
    · have hcomm : (generation i).sameGeneration (generation j) =
          (generation j).sameGeneration (generation i) := BEq.comm
      rw [Nat.min_eq_right hji, Nat.max_eq_left hji, hcomm]
      refine ⟨s.sameGeneration_iff run hji, fun h => ?_⟩
      exact congrArg Snapshot.contents (s.generationAt_eq_of_sameGeneration run hji h).symm
  · intro i j k hij hjk hleft
    rw [Bool.eq_false_iff] at hleft ⊢
    intro hback
    have hquiet := (s.sameGeneration_iff run (hij.trans hjk)).1 hback
    refine hleft ((s.sameGeneration_iff run hij).2 fun n hi hj => ?_)
    exact hquiet n hi (hj.trans_le hjk)
  · intro h
    cases h with
    | live =>
        rw [shown, takenAt, Option.map_some, ← upTo_length]
        rfl
    | kept name =>
        have hkept := kept_upTo m run run.length name
        rw [upTo_length, List.take_length] at hkept
        exact hkept

/-- Binding a key to the value that it has is a new generation all the same. -/
example :
    let m : QueryMap String ℕ := ((∅ : QueryMap String ℕ).insert "coal" 1).state
    let again := (m.insert "coal" 1).state
    m.contents.entries = again.contents.entries ∧
      m.snapshot.sameGeneration again.snapshot = false := by
  decide

end Session

end AttributeRegistry.QueryMap
