import AttributeRegistry.Proofs.Registry.Requests
import AttributeRegistry.Registry.Session

/-!
# Refused requests

A request gets no lookup because its identifier is bound to other types, or because the constructor
was run and failed.  Either way it leaves no mark: the session after it is the one before it, with
its numbers and cursors (`state_of_refused`).  So refused requests may be taken out of a run, as many
as one likes, and the reports on all other steps stay what they are; and an identifier for which
nothing but refused requests was made is free for any types (`run_without_refused`).
-/

namespace AttributeRegistry.Registry

/-- The step is a request for `id`. -/
def Step.Asks (id : Identifier) (x : Step) : Prop :=
  ∃ text types keep fails, x = .request text types keep fails ∧ Identifier.parse text = .ok id

/-- A request was made and got no lookup. -/
def Finding.isRefusal : Finding → Bool
  | .refused _ => true
  | _ => false

namespace Session

/-- The session after a run of steps. -/
def after (s : Session) (run : List Step) : Session :=
  run.foldl (fun s x => (s.step x).state) s

/-- The steps of a run with their reports. -/
def history (s : Session) (run : List Step) : List (Step × Report) :=
  run.zip (s.run run)

/-- What is left of a run, with the reports on it, when the requests that are marked are taken out
where they are refused. -/
def remaining (s : Session) (run : List (Step × Bool)) : List (Step × Report) :=
  ((run.zip (s.run (run.map (·.1)))).filter fun e => !(e.1.2 && e.2.finding.isRefusal)).map
    fun e => (e.1.1, e.2)

/-- The session in which an instance is kept, if it is to be kept under a name. -/
def hold (s : Session) (i : Numbered) : Option String → Session
  | some name => { s with held := s.held.insert name i }
  | none => s

/-! ## One request -/

section

variable {s : Session} {id : Identifier} (types : Signature) (keep : Option String)

/-- An identifier with a record is answered from the record, if the types agree. -/
theorem request_of_some {record : Record Numbered} (h : s.registry.records.get? id = some record)
    (fails : Bool) :
    s.request id types keep fails =
      if record.types == types then ⟨s.hold record.lookup keep, .found (some record.lookup), []⟩
      else ⟨s, .refused (.typeConflict ⟨id, record.types, types⟩), []⟩ := by
  have hreply := reply_of_some (q := ⟨id, types, s.construct fails⟩) h
  unfold reply at hreply
  unfold request
  by_cases htypes : (record.types == types) = true
  · simp only [hreply, htypes, if_true]
    cases keep with
    | none => rfl
    | some name => rfl
  · simp only [hreply, htypes]
    rfl

/-- A constructor that fails leaves the session as it is. -/
theorem request_of_none_fails (h : s.registry.records.get? id = none) :
    s.request id types keep true =
      ⟨s, .refused (.construction ()), [.creatingLookup s.registry.label id types]⟩ := by
  have hreply := reply_of_none_error (q := ⟨id, types, s.construct true⟩) h rfl
  unfold reply at hreply
  unfold request
  simp only [hreply]
  rfl

/-- A constructor that succeeds builds the instance with the next number. -/
theorem request_of_none (h : s.registry.records.get? id = none) :
    s.request id types keep false =
      let i : Numbered := ⟨s.built + 1, id, types⟩
      let built : Session := { s with
        registry := { s.registry with records := s.registry.records.insert id ⟨i, types⟩ }
        built := s.built + 1 }
      ⟨built.hold i keep, .found (some i), [.creatingLookup s.registry.label id types]⟩ := by
  have hreply := reply_of_none_ok (q := ⟨id, types, s.construct false⟩) h rfl
  unfold reply at hreply
  unfold request
  simp only [hreply]
  cases keep with
  | none => rfl
  | some name => rfl

end

@[simp] theorem registry_hold (s : Session) (i : Numbered) (keep : Option String) :
    (s.hold i keep).registry = s.registry := by
  cases keep with
  | none => rfl
  | some name => rfl

/-- A request that gets no lookup leaves the session as it is. -/
theorem state_of_request_refused {s : Session} {id : Identifier} {types : Signature}
    {keep : Option String} {fails : Bool}
    (h : (s.request id types keep fails).answer.isRefusal = true) :
    (s.request id types keep fails).state = s := by
  cases hr : s.registry.records.get? id with
  | some record =>
      rw [request_of_some types keep hr] at h ⊢
      by_cases htypes : (record.types == types) = true
      · rw [if_pos htypes] at h
        cases h
      · rw [if_neg htypes]
  | none =>
      cases fails with
      | true => rw [request_of_none_fails types keep hr]
      | false =>
          rw [request_of_none types keep hr] at h
          cases h

/-- A request is for its own identifier alone. -/
theorem get?_request_of_ne {s : Session} {id other : Identifier} (hne : id ≠ other)
    (types : Signature) (keep : Option String) (fails : Bool) :
    (s.request id types keep fails).state.registry.records.get? other =
      s.registry.records.get? other := by
  cases hr : s.registry.records.get? id with
  | some record =>
      rw [request_of_some types keep hr]
      split
      · rw [registry_hold]
      · rfl
  | none =>
      cases fails with
      | true => rw [request_of_none_fails types keep hr]
      | false =>
          rw [request_of_none types keep hr]
          simp only [registry_hold]
          rw [Table.get?_insert, beq_false_of_ne hne, if_neg Bool.false_ne_true]

/-! ## One step -/

theorem step_request_of_ok {text : String} {id : Identifier} (h : Identifier.parse text = .ok id)
    (s : Session) (types : Signature) (keep : Option String) (fails : Bool) :
    s.step (.request text types keep fails) = s.request id types keep fails := by
  rw [step, h]

theorem step_request_of_error {text : String} {e : IdentifierError}
    (h : Identifier.parse text = .error e) (s : Session) (types : Signature) (keep : Option String)
    (fails : Bool) : s.step (.request text types keep fails) = ⟨s, .badIdentifier e, []⟩ := by
  rw [step, h]

/-- No step but a request changes the registry or is refused. -/
theorem step_of_not_request (s : Session) {x : Step}
    (h : ∀ text types keep fails, x ≠ .request text types keep fails) :
    (s.step x).state.registry = s.registry ∧ (s.step x).answer.isRefusal = false := by
  cases x with
  | request text types keep fails => exact absurd rfl (h text types keep fails)
  | same a b =>
      rw [step]
      split
      · exact ⟨rfl, rfl⟩
      · exact ⟨rfl, rfl⟩
  | contains text =>
      rw [step]
      split
      · exact ⟨rfl, rfl⟩
      · exact ⟨rfl, rfl⟩
  | registeredTypes text =>
      rw [step]
      split
      · exact ⟨rfl, rfl⟩
      · exact ⟨rfl, rfl⟩
  | size => exact ⟨rfl, rfl⟩
  | isEmpty => exact ⟨rfl, rfl⟩
  | label => exact ⟨rfl, rfl⟩
  | list => exact ⟨rfl, rfl⟩
  | cursor name => exact ⟨rfl, rfl⟩
  | next name =>
      rw [step]
      split
      · exact ⟨rfl, rfl⟩
      · exact ⟨rfl, rfl⟩
  | rest name =>
      rw [step]
      split
      · exact ⟨rfl, rfl⟩
      · exact ⟨rfl, rfl⟩
  | inspect => exact ⟨rfl, rfl⟩

/-- A refused step leaves the session as it is. -/
theorem state_of_refused {s : Session} {x : Step} (h : (s.step x).answer.isRefusal = true) :
    (s.step x).state = s := by
  by_cases hx : ∃ text types keep fails, x = .request text types keep fails
  · obtain ⟨text, types, keep, fails, rfl⟩ := hx
    cases hparse : Identifier.parse text with
    | error e => rw [step_request_of_error hparse]
    | ok id =>
        rw [step_request_of_ok hparse] at h ⊢
        exact state_of_request_refused h
  · have hother := (s.step_of_not_request fun text types keep fails hx' =>
      hx ⟨text, types, keep, fails, hx'⟩).2
    rw [h] at hother
    cases hother

/-- An identifier has no record after a step, if it had none and no request for it went well. -/
theorem get?_step_eq_none {s : Session} {x : Step} {id : Identifier}
    (hnone : s.registry.records.get? id = none)
    (h : x.Asks id → (s.step x).answer.isRefusal = true) :
    (s.step x).state.registry.records.get? id = none := by
  by_cases hx : ∃ text types keep fails, x = .request text types keep fails
  · obtain ⟨text, types, keep, fails, rfl⟩ := hx
    cases hparse : Identifier.parse text with
    | error e => rwa [step_request_of_error hparse]
    | ok i =>
        by_cases hi : i = id
        · subst hi
          rwa [state_of_refused (h ⟨text, types, keep, fails, rfl, hparse⟩)]
        · rwa [step_request_of_ok hparse, get?_request_of_ne hi]
  · rwa [(s.step_of_not_request fun text types keep fails hx' =>
      hx ⟨text, types, keep, fails, hx'⟩).1]

/-! ## A run of steps -/

/-- The report on a step. -/
def report (s : Session) (x : Step) : Report where
  finding := (s.step x).answer
  size := (s.step x).state.registry.size
  built := (s.step x).state.built
  log := Event.listing (s.step x).events

theorem run_cons (s : Session) (x : Step) (run : List Step) :
    s.run (x :: run) = s.report x :: (s.step x).state.run run := rfl

theorem history_cons (s : Session) (x : Step) (run : List Step) :
    s.history (x :: run) = (x, s.report x) :: (s.step x).state.history run := rfl

theorem after_cons (s : Session) (x : Step) (run : List Step) :
    s.after (x :: run) = (s.step x).state.after run := rfl

theorem remaining_cons (s : Session) (x : Step) (marked : Bool) (run : List (Step × Bool)) :
    s.remaining ((x, marked) :: run) =
      if marked && (s.step x).answer.isRefusal then (s.step x).state.remaining run
      else (x, s.report x) :: (s.step x).state.remaining run := by
  unfold remaining
  rw [List.map_cons, run_cons, List.zip_cons_cons, List.filter_cons]
  cases h : marked && (s.step x).answer.isRefusal with
  | true => simp [report, h]
  | false => simp [report, h]

/-- What is left of a run is reported on as before. -/
theorem run_remaining (s : Session) (run : List (Step × Bool)) :
    s.run ((s.remaining run).map (·.1)) = (s.remaining run).map (·.2) := by
  induction run generalizing s with
  | nil => rfl
  | cons entry run ih =>
      obtain ⟨x, marked⟩ := entry
      rw [remaining_cons]
      by_cases hout : (marked && (s.step x).answer.isRefusal) = true
      · rw [if_pos hout, state_of_refused (Bool.and_eq_true_iff.1 hout).2]
        exact ih s
      · rw [if_neg hout, List.map_cons, run_cons, ih, List.map_cons]

/-- An identifier is without a record as long as no request for it went well. -/
theorem get?_after_eq_none {s : Session} {run : List Step} {id : Identifier}
    (hnone : s.registry.records.get? id = none)
    (h : ∀ e ∈ s.history run, e.1.Asks id → e.2.finding.isRefusal = true) :
    (s.after run).registry.records.get? id = none := by
  induction run generalizing s with
  | nil => exact hnone
  | cons x run ih =>
      rw [history_cons] at h
      have hstep := get?_step_eq_none hnone (h _ List.mem_cons_self)
      rw [after_cons]
      exact ih hstep fun e he => h e (List.mem_cons_of_mem _ he)

/-- In any run, take out any of the requests that were refused: all other steps are reported on as
before, with the same answers, numbers and events.  And if no request for an identifier went well in
a run, then a constructor that fails for it once more leaves no mark either, and one that succeeds,
whatever the types, builds the instance with the next number, which is listed behind all others. -/
theorem run_without_refused (label : String) (run : List (Step × Bool)) :
    (start label).run (((start label).remaining run).map (·.1)) =
      ((start label).remaining run).map (·.2) ∧
    ∀ text id, Identifier.parse text = .ok id →
      (∀ e ∈ (start label).history (run.map (·.1)), e.1.Asks id → e.2.finding.isRefusal = true) →
      let s := (start label).after (run.map (·.1))
      ∀ types keep,
        (s.step (.request text types keep true)).answer = .refused (.construction ()) ∧
        (s.step (.request text types keep true)).state = s ∧
        let success := s.step (.request text types keep false)
        let i : Numbered := ⟨s.built + 1, id, types⟩
        success.answer = .found (some i) ∧
        success.state.registry.lookups = s.registry.lookups ++ [i] ∧
        success.state.registry.registeredTypes id = some types := by
  refine ⟨run_remaining (start label) run, ?_⟩
  intro text id hparse hrefused s types keep
  have hnone : s.registry.records.get? id = none := get?_after_eq_none (s := start label) rfl hrefused
  rw [step_request_of_ok hparse, step_request_of_ok hparse, request_of_none_fails types keep hnone,
    request_of_none types keep hnone]
  refine ⟨rfl, rfl, rfl, ?_, ?_⟩
  · simp only [registry_hold]
    rw [lookups, Table.values, Table.entries_insert_of_none hnone, List.map_append, List.map_append]
    rfl
  · simp only [registry_hold]
    rw [registeredTypes, Table.get?_insert_self]
    rfl

end Session

end AttributeRegistry.Registry
