import AttributeRegistry.Proofs.Registry.Requests

/-!
# Cursors over a growing registry

A cursor walks through the lookups that were registered when it was made, whatever happens to the
registry and to other cursors meanwhile (`Tour.cursor_lifetime`).  What it has yielded and what it has
still to yield are together always the same list (`Tour.yields_append_remaining`), so over its whole
life it yields just that list, each lookup in its turn.

A registry only grows at its end, so of two cursors the older one walks through a prefix of what the
younger one walks through.
-/

namespace AttributeRegistry.Registry

variable {ε L : Type}

/-- A step of a run on a registry. -/
inductive Move (ε L : Type) where
  | request (q : Request ε L)
  /-- Makes a cursor, known from then on by its place among the cursors made. -/
  | cursor
  /-- Moves the cursor `c` on by one. -/
  | next (c : ℕ)
  /-- Moves the cursor `c` to its end. -/
  | rest (c : ℕ)

/-- The move is one of the cursor `c`. -/
def Move.isOf (c : ℕ) : Move ε L → Bool
  | .next b | .rest b => b == c
  | .request _ | .cursor => false

/-- The request that is made, if one is. -/
def Move.request? : Move ε L → Option (Request ε L)
  | .request q => some q
  | .cursor | .next _ | .rest _ => none

/-- A registry with the cursors that were made on it, oldest first. -/
structure Tour (L : Type) where
  registry : Registry L
  cursors : List (Cursor L)

namespace Tour

/-- An empty registry without cursors. -/
def start (label : String) : Tour L := ⟨.empty label, []⟩

/-- Takes one step: the tour after it, and what a cursor yields in it. -/
def move (t : Tour L) : Move ε L → Tour L × List L
  | .request q => ({ t with registry := (t.registry.reply q).registry }, [])
  | .cursor => ({ t with cursors := t.cursors ++ [t.registry.cursor] }, [])
  | .next c =>
    match t.cursors[c]? with
    | some k => ({ t with cursors := t.cursors.set c k.next.2 }, k.next.1.toList)
    | none => (t, [])
  | .rest c =>
    match t.cursors[c]? with
    | some k => ({ t with cursors := t.cursors.set c k.rest.2 }, k.rest.1)
    | none => (t, [])

/-- The tour after a run. -/
def after (t : Tour L) (run : List (Move ε L)) : Tour L :=
  run.foldl (fun t x => (t.move x).1) t

/-- All that the cursor `c` yields in a run. -/
def yields (c : ℕ) (t : Tour L) : List (Move ε L) → List L
  | [] => []
  | x :: run => (if x.isOf c then (t.move x).2 else []) ++ yields c (t.move x).1 run

/-- All that the cursor `c` yields over its whole life, which takes it through a run and then to its
end. -/
def lifetime (c : ℕ) (t : Tour L) (run : List (Move ε L)) : List L :=
  t.yields c (run ++ [.rest c])

/-- The lookups that are built in a run, in order of their construction. -/
def built (t : Tour L) (run : List (Move ε L)) : List L :=
  (t.registry.history (run.filterMap Move.request?)).filterMap Answered.built?

/-- The move takes the cursor `c` to its end, or shows that it is there. -/
def Ends (c : ℕ) (t : Tour L) (x : Move ε L) : Prop :=
  x = .rest c ∨ x = .next c ∧ (t.move x).2 = []

theorem after_append (t : Tour L) (run more : List (Move ε L)) :
    t.after (run ++ more) = (t.after run).after more :=
  List.foldl_append

theorem yields_append (c : ℕ) (t : Tour L) (run more : List (Move ε L)) :
    t.yields c (run ++ more) = t.yields c run ++ (t.after run).yields c more := by
  induction run generalizing t with
  | nil => rfl
  | cons x run ih =>
      rw [List.cons_append, yields, yields, ih, List.append_assoc]
      rfl

/-! ## The registry -/

/-- Only requests change the registry. -/
theorem registry_after (t : Tour L) (run : List (Move ε L)) :
    (t.after run).registry = t.registry.after (run.filterMap Move.request?) := by
  induction run generalizing t with
  | nil => rfl
  | cons x run ih =>
      show ((t.move x).1.after run).registry = _
      rw [ih]
      cases x with
      | request q => rfl
      | cursor => rfl
      | next c =>
          rw [move]
          split
          · rfl
          · rfl
      | rest c =>
          rw [move]
          split
          · rfl
          · rfl

/-- A run adds the lookups that are built in it, behind those that were there. -/
theorem lookups_after (t : Tour L) (run : List (Move ε L)) :
    (t.after run).registry.lookups = t.registry.lookups ++ t.built run := by
  rw [registry_after, Registry.lookups_after, built]

/-! ## One cursor -/

/-- A move yields what the cursor had at the front of what it had still to yield; a move that is not
its own leaves the cursor alone. -/
theorem exists_cursor_move {c : ℕ} {t : Tour L} {k : Cursor L} (h : t.cursors[c]? = some k)
    (x : Move ε L) : ∃ k', (t.move x).1.cursors[c]? = some k' ∧
      (if x.isOf c then (t.move x).2 else []) ++ k'.remaining = k.remaining := by
  have hlt : c < t.cursors.length := (List.getElem?_eq_some_iff.1 h).1
  have hother {b : ℕ} (hb : b ≠ c) (k' : Cursor L) :
      (t.cursors.set b k')[c]? = some k := by
    rw [List.getElem?_set_ne hb, h]
  cases x with
  | request q => exact ⟨k, h, rfl⟩
  | cursor => exact ⟨k, by rw [move, List.getElem?_append_left hlt, h], rfl⟩
  | next b =>
      rw [Move.isOf, move]
      by_cases hb : b = c
      · subst hb
        refine ⟨k.next.2, ?_, ?_⟩
        · simp only [h, List.getElem?_set_self hlt]
        · simp only [h, beq_self_eq_true, if_true]
          cases hk : k.remaining with
          | nil => simp [Cursor.next, hk]
          | cons lookup left => simp [Cursor.next, hk]
      · refine ⟨k, ?_, by rw [if_neg (by simpa using hb)]; rfl⟩
        split
        · exact hother hb _
        · exact h
  | rest b =>
      rw [Move.isOf, move]
      by_cases hb : b = c
      · subst hb
        refine ⟨k.rest.2, ?_, ?_⟩
        · simp only [h, List.getElem?_set_self hlt]
        · simp only [h, beq_self_eq_true, if_true]
          exact List.append_nil _
      · refine ⟨k, ?_, by rw [if_neg (by simpa using hb)]; rfl⟩
        split
        · exact hother hb _
        · exact h

/-- What a cursor yields in a run and what it has still to yield behind it are what it had to yield
before. -/
theorem yields_append_remaining {c : ℕ} {t : Tour L} {k : Cursor L} (h : t.cursors[c]? = some k)
    (run : List (Move ε L)) : ∃ k', (t.after run).cursors[c]? = some k' ∧
      t.yields c run ++ k'.remaining = k.remaining := by
  induction run generalizing t k with
  | nil => exact ⟨k, h, rfl⟩
  | cons x run ih =>
      obtain ⟨k', hk', hmove⟩ := exists_cursor_move h x
      obtain ⟨k'', hk'', hrun⟩ := ih hk'
      refine ⟨k'', hk'', ?_⟩
      rw [yields, List.append_assoc, hrun, hmove]

theorem yields_rest {c : ℕ} {t : Tour L} {k : Cursor L} (h : t.cursors[c]? = some k) :
    t.yields c [(.rest c : Move ε L)] = k.remaining := by
  rw [yields, yields, Move.isOf, move, List.append_nil]
  simp only [h, beq_self_eq_true, if_true]
  rfl

/-- Whatever is done with a cursor, over its whole life it yields what it has still to yield. -/
theorem lifetime_eq {c : ℕ} {t : Tour L} {k : Cursor L} (h : t.cursors[c]? = some k)
    (run : List (Move ε L)) : t.lifetime c run = k.remaining := by
  obtain ⟨k', hk', hrun⟩ := yields_append_remaining h run
  rw [lifetime, yields_append, yields_rest hk', hrun]

/-- At the end of its life a cursor has yielded all that it had to yield. -/
theorem yields_eq_of_ends {c : ℕ} {t : Tour L} {k : Cursor L} (h : t.cursors[c]? = some k)
    {run more : List (Move ε L)} {x : Move ε L} (hx : (t.after run).Ends c x) :
    t.yields c (run ++ x :: more) = k.remaining := by
  obtain ⟨k', hk', hrun⟩ := yields_append_remaining h run
  obtain ⟨k'', hk'', hmove⟩ := exists_cursor_move hk' x
  obtain ⟨last, -, hmore⟩ := yields_append_remaining hk'' more
  have hleft : k''.remaining = [] := by
    rcases hx with rfl | ⟨rfl, hnothing⟩
    · rw [Move.isOf, beq_self_eq_true, if_pos rfl, move, hk'] at hmove
      exact List.append_cancel_left (hmove.trans (List.append_nil _).symm)
    · rw [move, hk'] at hnothing
      have hempty : k'.remaining = [] := by
        cases hk : k'.remaining with
        | nil => rfl
        | cons lookup left => simp [Cursor.next, hk] at hnothing
      rw [hempty] at hmove
      exact (List.append_eq_nil_iff.1 hmove).2
  rw [hleft, List.append_eq_nil_iff] at hmore
  rw [hleft, List.append_nil] at hmove
  rw [yields_append, yields, hmove, hmore.1, List.append_nil, hrun]

/-! ## Cursors made in a run -/

/-- A move makes at most one cursor, behind all others. -/
theorem length_cursors_move (t : Tour L) (x : Move ε L) :
    t.cursors.length ≤ (t.move x).1.cursors.length := by
  cases x with
  | request q => exact Nat.le_refl _
  | cursor =>
      rw [move, List.length_append]
      exact Nat.le_add_right _ _
  | next c =>
      rw [move]
      split
      · exact Nat.le_of_eq (List.length_set ..).symm
      · exact Nat.le_refl _
  | rest c =>
      rw [move]
      split
      · exact Nat.le_of_eq (List.length_set ..).symm
      · exact Nat.le_refl _

/-- A cursor that is not made yet yields nothing. -/
theorem yields_eq_nil {c : ℕ} {t : Tour L} {run : List (Move ε L)}
    (h : (t.after run).cursors.length ≤ c) : t.yields c run = [] ∧ t.cursors.length ≤ c := by
  induction run generalizing t with
  | nil => exact ⟨rfl, h⟩
  | cons x run ih =>
      obtain ⟨hrun, hlength⟩ := ih h
      have hc : t.cursors.length ≤ c := Nat.le_trans (t.length_cursors_move x) hlength
      refine ⟨?_, hc⟩
      rw [yields, hrun, List.append_nil]
      cases x with
      | request q => rfl
      | cursor => rfl
      | next b =>
          rw [Move.isOf]
          split
          · next hb =>
            rw [move, eq_of_beq hb, List.getElem?_eq_none hc]
          · rfl
      | rest b =>
          rw [Move.isOf]
          split
          · next hb =>
            rw [move, eq_of_beq hb, List.getElem?_eq_none hc]
          · rfl

/-- A cursor that is made now starts with all lookups of now before it. -/
theorem cursors_move_cursor (t : Tour L) :
    (t.move (.cursor : Move ε L)).1.cursors[t.cursors.length]? = some ⟨t.registry.lookups⟩ := by
  rw [move, List.getElem?_concat_length]
  rfl

/-- A cursor yields nothing before it is made. -/
theorem yields_append_cursor (t : Tour L) (before behind : List (Move ε L)) :
    t.yields (t.after before).cursors.length (before ++ .cursor :: behind) =
      ((t.after before).move (.cursor : Move ε L)).1.yields (t.after before).cursors.length behind := by
  rw [yields_append, (yields_eq_nil (Nat.le_refl _)).1]
  rfl

theorem lifetime_append_cursor (t : Tour L) (before behind : List (Move ε L)) :
    t.lifetime (t.after before).cursors.length (before ++ .cursor :: behind) =
      (t.after before).registry.lookups := by
  rw [lifetime, List.append_assoc, List.cons_append, yields_append_cursor]
  exact lifetime_eq (cursors_move_cursor _) behind

/-- A cursor walks through the lookups that were registered when it was made.  Over its whole life it
yields all of them, in order of their construction, and a part of its life yields the first of them;
once it is at its end it has yielded all.  And of two cursors, the younger one yields over its life what
the older one does and behind that the lookups that were built between the points where the two were
made. -/
theorem cursor_lifetime (label : String) (before : List (Move ε L)) :
    let start : Tour L := start label
    let p := start.after before
    let c := p.cursors.length
    p.registry.lookups = start.built before ∧
    (∀ behind, let run := before ++ .cursor :: behind
      start.lifetime c run = start.built before ∧ start.yields c run <+: start.built before) ∧
    (∀ first x later, (start.after (before ++ .cursor :: first)).Ends c x →
      start.yields c (before ++ .cursor :: (first ++ x :: later)) = start.built before) ∧
    ∀ between behind, let run := before ++ .cursor :: (between ++ .cursor :: behind)
      let d := (p.after (.cursor :: between)).cursors.length
      start.lifetime d run = start.lifetime c run ++ p.built between := by
  intro start p c
  have hbuilt : p.registry.lookups = start.built before := lookups_after start before
  have hcursor := p.cursors_move_cursor (ε := ε)
  refine ⟨hbuilt, ?_, ?_, ?_⟩
  · intro behind run
    refine ⟨(lifetime_append_cursor start before behind).trans hbuilt, ?_⟩
    obtain ⟨k, -, hrun⟩ := yields_append_remaining hcursor behind
    rw [← hbuilt, yields_append_cursor]
    exact ⟨k.remaining, hrun⟩
  · intro first x later hends
    rw [after_append] at hends
    rw [← hbuilt, yields_append_cursor]
    exact yields_eq_of_ends hcursor hends
  · intro between behind run d
    have hp : p.after (.cursor :: between) = start.after (before ++ .cursor :: between) :=
      (after_append start before _).symm
    have hyounger := lifetime_append_cursor start (before ++ .cursor :: between) behind
    have holder := lifetime_append_cursor start before (between ++ .cursor :: behind)
    rw [List.append_assoc, List.cons_append, ← hp] at hyounger
    rw [holder]
    exact hyounger.trans (lookups_after p (.cursor :: between))

end Tour

end AttributeRegistry.Registry
