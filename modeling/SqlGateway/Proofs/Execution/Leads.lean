import SqlGateway.Execution.Run

/-! What a part of a run leads to. From every state that satisfies the assertion before
it, the part comes to an end, with a result and a state that satisfy the assertion
after it or with an error and a state that satisfies the assertion about failures. -/

namespace SqlGateway.Execution

variable {σ α β : Type}

/-- Whether a part of a run has an outcome from every state of `P`: a result and a state of `Q`, or
an error and a state of `E`. -/
def Leads (P : Run σ → Prop) (x : Execution σ α) (Q : α → Run σ → Prop) (E : Run σ → Prop) : Prop :=
  ∀ r, P r → ∃ outcome r', x.run.run r = some (outcome, r') ∧
    match outcome with
    | .ok a => Q a r'
    | .error _ => E r'

/-- Whether a part of a run has an outcome from every state of `I` and stays in `I`. -/
def Keeps (I : Run σ → Prop) (x : Execution σ α) : Prop := Leads I x (fun _ => I) I

variable {P P' : Run σ → Prop} {Q : α → Run σ → Prop} {E : Run σ → Prop}

namespace Leads

theorem pure {a : α} (h : ∀ r, P r → Q a r) : Leads P (pure a) Q E :=
  fun r hr => ⟨.ok a, r, rfl, h r hr⟩

theorem throw {e : GatewayError} (h : ∀ r, P r → E r) : Leads P (throw e : Execution σ α) Q E :=
  fun r hr => ⟨.error e, r, rfl, h r hr⟩

theorem bind {x : Execution σ β} {f : β → Execution σ α} {R : β → Run σ → Prop}
    (hx : Leads P x R E) (hf : ∀ b, Leads (R b) (f b) Q E) : Leads P (x >>= f) Q E := by
  intro r hr
  obtain ⟨outcome, r', hrun, houtcome⟩ := hx r hr
  have hbind : (x >>= f).run.run r = (x.run.run r).bind fun (outcome, r') =>
      match outcome with
      | .ok b => (f b).run.run r'
      | .error e => some (.error e, r') := by
    change (x.run.run r).bind _ = _
    refine congrArg (x.run.run r).bind (funext fun (outcome, r') => ?_)
    cases outcome <;> rfl
  rw [hbind, hrun]
  cases outcome with
  | ok b => exact hf b r' houtcome
  | error e => exact ⟨.error e, r', rfl, houtcome⟩

theorem map {x : Execution σ β} {f : β → α} {R : β → Run σ → Prop} (hx : Leads P x R E)
    (hf : ∀ b r, R b r → Q (f b) r) : Leads P (f <$> x) Q E := by
  rw [map_eq_pure_bind]
  exact .bind hx fun b => .pure (hf b)

theorem weaken {x : Execution σ α} {Q' : α → Run σ → Prop} {E' : Run σ → Prop}
    (h : Leads P x Q E) (hP : ∀ r, P' r → P r) (hQ : ∀ a r, Q a r → Q' a r)
    (hE : ∀ r, E r → E' r) : Leads P' x Q' E' := by
  intro r hr
  obtain ⟨outcome, r', hrun, houtcome⟩ := h r (hP r hr)
  refine ⟨outcome, r', hrun, ?_⟩
  cases outcome with
  | ok a => exact hQ a r' houtcome
  | error e => exact hE r' houtcome

theorem lift {x : Except GatewayError α} (hok : ∀ a r, x = .ok a → P r → Q a r)
    (herror : ∀ r, P r → E r) : Leads P (liftM x : Execution σ α) Q E := by
  intro r hr
  refine ⟨x, r, rfl, ?_⟩
  cases x with
  | ok a => exact hok a r rfl hr
  | error e => exact herror r hr

/-- After a computation that may fail, its result is known. -/
theorem bind_lift {x : Except GatewayError β} {f : β → Execution σ α}
    (hf : ∀ b, x = .ok b → Leads P (f b) Q E) (herror : ∀ r, P r → E r) :
    Leads P (liftM x >>= f) Q E := by
  refine .bind (R := fun b r => x = .ok b ∧ P r) ?_ fun b => ?_
  · exact .lift (fun b r hb hr => ⟨hb, hr⟩) herror
  · exact fun r hr => hf b hr.1 r hr.2

/-- What follows a computation with a known result starts with that result. -/
theorem bind_ok {b : β} {f : β → Execution σ α} (hf : Leads P (f b) Q E) :
    Leads P (liftM (Except.ok b : Except GatewayError β) >>= f) Q E :=
  hf

theorem get {Q : Run σ → Run σ → Prop} (h : ∀ r, P r → Q r r) :
    Leads P (get : Execution σ (Run σ)) Q E :=
  fun r hr => ⟨.ok r, r, rfl, h r hr⟩

/-- What follows a look at the state starts in the state that was seen. -/
theorem bind_get {f : Run σ → Execution σ α}
    (hf : ∀ r₀, Leads (fun r => r₀ = r ∧ P r) (f r₀) Q E) : Leads P (MonadState.get >>= f) Q E :=
  .bind (.get fun _ hr => ⟨rfl, hr⟩) hf

theorem modify {f : Run σ → Run σ} {Q : Unit → Run σ → Prop} (h : ∀ r, P r → Q () (f r)) :
    Leads P (modify f : Execution σ Unit) Q E :=
  fun r hr => ⟨.ok (), f r, rfl, h r hr⟩

theorem enter {p : Phase} {Q : Unit → Run σ → Prop}
    (h : ∀ r, P r → Q () { r with progress := r.progress.enter p }) :
    Leads P (enter p : Execution σ Unit) Q E :=
  modify h

theorem set {r' : Run σ} {Q : PUnit → Run σ → Prop} (h : ∀ r, P r → Q ⟨⟩ r') :
    Leads P (set r' : Execution σ PUnit) Q E :=
  fun r hr => ⟨.ok ⟨⟩, r', rfl, h r hr⟩

theorem call {f : σ → Except StoreError α × σ}
    (hok : ∀ r a, P r → (f r.store).1 = .ok a → Q a { r with store := (f r.store).2 })
    (herror : ∀ r e, P r → (f r.store).1 = .error e → E { r with store := (f r.store).2 }) :
    Leads P (call f) Q E := by
  refine .bind_get fun r₀ => ?_
  rcases hf : f r₀.store with ⟨e | a, s⟩ <;> dsimp only
  · refine .bind (R := fun _ => E) (.set fun r hr => ?_) fun _ => .throw fun _ hr => hr
    obtain ⟨rfl, hr⟩ := hr
    simpa only [hf] using herror r₀ e hr (by rw [hf])
  · refine .bind (R := fun _ => Q a) (.set fun r hr => ?_) fun _ => .pure fun _ hr => hr
    obtain ⟨rfl, hr⟩ := hr
    simpa only [hf] using hok r₀ a hr (by rw [hf])

end Leads

namespace Keeps

variable {I : Run σ → Prop}

theorem pure (a : α) : Keeps I (pure a : Execution σ α) := Leads.pure fun _ => id

theorem throw (e : GatewayError) : Keeps I (throw e : Execution σ α) := Leads.throw fun _ => id

theorem bind {x : Execution σ β} {f : β → Execution σ α} (hx : Keeps I x)
    (hf : ∀ b, Keeps I (f b)) : Keeps I (x >>= f) :=
  Leads.bind hx hf

theorem lift (x : Except GatewayError α) : Keeps I (liftM x : Execution σ α) :=
  Leads.lift (fun _ _ _ => id) fun _ => id

theorem bind_lift {x : Except GatewayError β} {f : β → Execution σ α}
    (hf : ∀ b, x = .ok b → Keeps I (f b)) : Keeps I (liftM x >>= f) :=
  Leads.bind_lift hf fun _ => id

theorem mapM {f : β → Execution σ α} (hf : ∀ b, Keeps I (f b)) (bs : List β) :
    Keeps I (bs.mapM f) := by
  induction bs with
  | nil => exact pure []
  | cons b bs ih =>
    rw [List.mapM_cons]
    exact bind (hf b) fun a => bind ih fun as => pure (a :: as)

end Keeps

end SqlGateway.Execution
