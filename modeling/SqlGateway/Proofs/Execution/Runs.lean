import SqlGateway.Execution.Run

/-! How a part of a run goes, from the state in which it begins: one equation for each
way of making a part, so that a run can be taken apart step by step. -/

namespace SqlGateway.Execution

variable {σ α β : Type}

theorem run_pure (a : α) (r : Run σ) :
    (pure a : Execution σ α).run.run r = some (.ok a, r) := rfl

theorem run_lift (x : Except GatewayError α) (r : Run σ) :
    (liftM x : Execution σ α).run.run r = some (x, r) := rfl

theorem run_get (r : Run σ) : (get : Execution σ (Run σ)).run.run r = some (.ok r, r) := rfl

theorem run_enter (p : Phase) (r : Run σ) :
    (enter p).run.run r = some (.ok (), { r with progress := r.progress.enter p }) := rfl

theorem run_bind (x : Execution σ β) (f : β → Execution σ α) (r : Run σ) :
    (x >>= f).run.run r = (x.run.run r).bind fun (outcome, r') =>
      match outcome with
      | .ok b => (f b).run.run r'
      | .error e => some (.error e, r') := by
  change (x.run.run r).bind _ = _
  refine congrArg (x.run.run r).bind (funext fun (outcome, r') => ?_)
  cases outcome <;> rfl

theorem run_call (f : σ → Except StoreError α × σ) (r : Run σ) :
    (call f).run.run r =
      some ((f r.store).1.mapError .storeFailed, { r with store := (f r.store).2 }) := by
  rw [call, run_bind, run_get, Option.bind_some]
  rcases hf : f r.store with ⟨e | a, s⟩ <;> simp only [hf] <;> rfl

/-- A response, if it reports success. -/
def checked (verb : String) (answer : Except StoreError Document) : Except GatewayError Document := do
  let response ← answer.mapError .storeFailed
  Response.check verb response
  return response

theorem run_respond (store : DocumentStore σ) (database verb : String) (command : Document)
    (r : Run σ) :
    (respond store database verb command).run.run r =
      some (checked verb (store.run r.store database command).1,
        { r with store := (store.run r.store database command).2 }) := by
  rw [respond, run_bind, run_call, Option.bind_some]
  rcases (store.run r.store database command).1 with e | response
  · rfl
  · dsimp only [Except.mapError]
    rw [run_bind, run_lift, Option.bind_some, checked]
    dsimp only [bind, Except.bind, Except.mapError]
    cases Response.check verb response <;> rfl

/-! ### Ends -/

/-- Whether a part of a run that begins in one state ends with an outcome in another. -/
def Ends (x : Execution σ α) (r : Run σ) (outcome : Except GatewayError α) (r' : Run σ) : Prop :=
  x.run.run r = some (outcome, r')

/-- A sequence ends as its second part does after the first, or as the first does with an error. -/
theorem ends_bind {x : Execution σ β} {f : β → Execution σ α} {r r' : Run σ}
    {outcome : Except GatewayError α} :
    Ends (x >>= f) r outcome r' ↔
      (∃ b r₁, Ends x r (.ok b) r₁ ∧ Ends (f b) r₁ outcome r') ∨
        ∃ e, Ends x r (.error e) r' ∧ outcome = .error e := by
  rw [Ends, run_bind, Option.bind_eq_some_iff]
  constructor
  · rintro ⟨⟨b | e, r₁⟩, hx, h⟩
    · cases h
      exact .inr ⟨_, hx, rfl⟩
    · exact .inl ⟨_, r₁, hx, h⟩
  · rintro (⟨b, r₁, hx, h⟩ | ⟨e, hx, rfl⟩)
    · exact ⟨(.ok b, r₁), hx, h⟩
    · exact ⟨(.error e, r'), hx, rfl⟩

theorem ends_pure {a : α} {r r' : Run σ} {outcome : Except GatewayError α} :
    Ends (pure a : Execution σ α) r outcome r' ↔ outcome = .ok a ∧ r' = r := by
  rw [Ends, run_pure, Option.some.injEq, Prod.mk.injEq, eq_comm, @eq_comm _ r]

theorem ends_lift {x : Except GatewayError α} {r r' : Run σ} {outcome : Except GatewayError α} :
    Ends (liftM x : Execution σ α) r outcome r' ↔ outcome = x ∧ r' = r := by
  rw [Ends, run_lift, Option.some.injEq, Prod.mk.injEq, eq_comm, @eq_comm _ r]

/-- A sequence has a result only if both its parts have one. -/
theorem ends_bind_ok {x : Execution σ β} {f : β → Execution σ α} {r r' : Run σ} {a : α} :
    Ends (x >>= f) r (.ok a) r' ↔ ∃ b r₁, Ends x r (.ok b) r₁ ∧ Ends (f b) r₁ (.ok a) r' := by
  rw [ends_bind]
  exact or_iff_left fun ⟨_, _, h⟩ => nomatch h

/-- Nothing has happened when a computation that may fail has given its result. -/
theorem ends_bind_lift_ok {x : Except GatewayError β} {f : β → Execution σ α} {r r' : Run σ}
    {a : α} (h : Ends (liftM x >>= f) r (.ok a) r') : ∃ b, x = .ok b ∧ Ends (f b) r (.ok a) r' := by
  obtain ⟨b, r₁, hx, hf⟩ := ends_bind_ok.mp h
  obtain ⟨hb, rfl⟩ := ends_lift.mp hx
  exact ⟨b, hb.symm, hf⟩

/-- A part that goes on after the next phase is entered begins in that phase. -/
theorem ends_bind_enter {p : Phase} {f : Unit → Execution σ α} {r r' : Run σ}
    {outcome : Except GatewayError α} :
    Ends (enter p >>= f) r outcome r' ↔
      Ends (f ()) { r with progress := r.progress.enter p } outcome r' := by
  rw [Ends, run_bind, run_enter, Option.bind_some, Ends]

theorem ends_bind_get {f : Run σ → Execution σ α} {r r' : Run σ} {outcome : Except GatewayError α} :
    Ends (MonadState.get >>= f) r outcome r' ↔ Ends (f r) r outcome r' := by
  rw [Ends, run_bind]
  exact Iff.rfl

/-- What answers a command that has been sent. -/
theorem ends_call {f : σ → Except StoreError α × σ} {r r' : Run σ}
    {outcome : Except GatewayError α} :
    Ends (call f) r outcome r' ↔
      outcome = (f r.store).1.mapError .storeFailed ∧ r' = { r with store := (f r.store).2 } := by
  rw [Ends, run_call, Option.some.injEq, Prod.mk.injEq, eq_comm, @eq_comm _ r']

end SqlGateway.Execution
