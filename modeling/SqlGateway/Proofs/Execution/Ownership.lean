import SqlGateway.Proofs.Execution.Steps
import SqlGateway.Store.Recording
import SqlGateway.Store.Scripted

/-! Whose transaction it is. A run opens at most one transaction, after everything is
prepared, and closes none but its own: it commits when all has been carried out, aborts
when something has failed and the transaction is still open, and sends nothing after
that. The store may answer, fail and drop transactions as it likes. -/

namespace SqlGateway.Gateway

attribute [local instance] Host.universal

open Execution

variable {σ : Type} (store : DocumentStore σ) (database : String)

/-! ### The course of a run -/

theorem run_openTransaction (r : Run σ) :
    (openTransaction store).run.run r =
      if store.inTransaction r.store then some (.ok (), r)
      else
        let r' := { r with
          store := (store.startTransaction r.store).2
          progress := r.progress.enter .transactionStart }
        match (store.startTransaction r.store).1 with
        | .error e => some (.error (.storeFailed e), r')
        | .ok () => some (.ok (), { r' with ownsTransaction := true }) := by
  rw [openTransaction, run_bind, run_get, Option.bind_some]
  dsimp only
  cases store.inTransaction r.store
  · simp only [Bool.not_false, if_true, run_bind, run_enter, Option.bind_some, run_call]
    rcases (store.startTransaction r.store).1 with e | ⟨⟩ <;> rfl
  · rfl

theorem run_closeTransaction (r : Run σ) :
    (closeTransaction store).run.run r =
      if r.ownsTransaction then
        let r' := { r with
          store := (store.commitTransaction r.store).2
          progress := r.progress.enter .commit }
        match (store.commitTransaction r.store).1 with
        | .error e => some (.error (.storeFailed e), r')
        | .ok () => some (.ok (), { r' with ownsTransaction := false })
      else some (.ok (), r) := by
  rw [closeTransaction, run_bind, run_get, Option.bind_some]
  dsimp only
  split
  · simp only [run_bind, run_enter, Option.bind_some, run_call]
    rcases (store.commitTransaction r.store).1 with e | ⟨⟩ <;> rfl
  · rfl

variable {store database}

/-- What the steps of reading and writing leave alone: whose transaction it is. -/
theorem spans_ownsTransaction :
    Spans store database fun r r' => r'.ownsTransaction = r.ownsTransaction where
  refl _ := rfl
  trans h h' := h'.trans h
  enter _ _ := rfl
  key _ _ := rfl
  send _ _ := rfl

variable (store database)

/-- The state in which a plan is carried out whose transaction has just been opened. -/
def opening (r : Run σ) : Run σ :=
  { r with
    store := (store.startTransaction r.store).2
    progress := (r.progress.enter .transactionStart).enter .executing
    ownsTransaction := true }

/-- The ways in which a run that begins in a state can end. -/
inductive Course [Host] (id : ObjectId) (t : QueryTree) (autoCommit : Bool) (r : Run σ) :
    Except GatewayError (List Row) → Run σ → Prop
  /-- Planning fails, or the sampling of a key does. -/
  | unprepared {e : GatewayError} {r' : Run σ}
      (hprepare : Ends (prepare store database id t) r (.error e) r') :
      Course id t autoCommit r (.error e) r'
  /-- The plan is carried out without a transaction of its own. -/
  | joined {plan : Plan} {r₁ r' : Run σ} {outcome : Except GatewayError (List Row)}
      (hprepare : Ends (prepare store database id t) r (.ok plan) r₁)
      (hjoined : autoCommit = false ∨ store.inTransaction r₁.store = true)
      (hperform : Ends (perform store database plan)
        { r₁ with progress := r₁.progress.enter .executing } outcome r') :
      Course id t autoCommit r outcome r'
  /-- The transaction does not start. -/
  | unopened {plan : Plan} {r₁ : Run σ} {e : StoreError}
      (hprepare : Ends (prepare store database id t) r (.ok plan) r₁)
      (hauto : autoCommit = true) (hidle : store.inTransaction r₁.store = false)
      (hstart : (store.startTransaction r₁.store).1 = .error e) :
      Course id t autoCommit r (.error (.storeFailed e))
        { r₁ with
          store := (store.startTransaction r₁.store).2
          progress := r₁.progress.enter .transactionStart }
  /-- The transaction starts, and carrying out the plan fails. -/
  | failed {plan : Plan} {r₁ r' : Run σ} {e : GatewayError}
      (hprepare : Ends (prepare store database id t) r (.ok plan) r₁)
      (hauto : autoCommit = true) (hidle : store.inTransaction r₁.store = false)
      (hstart : (store.startTransaction r₁.store).1 = .ok ())
      (hperform : Ends (perform store database plan) (opening store r₁) (.error e) r') :
      Course id t autoCommit r (.error e) r'
  /-- The plan is carried out, and the transaction does not commit. -/
  | uncommitted {plan : Plan} {r₁ r₂ : Run σ} {rows : List Row} {e : StoreError}
      (hprepare : Ends (prepare store database id t) r (.ok plan) r₁)
      (hauto : autoCommit = true) (hidle : store.inTransaction r₁.store = false)
      (hstart : (store.startTransaction r₁.store).1 = .ok ())
      (hperform : Ends (perform store database plan) (opening store r₁) (.ok rows) r₂)
      (hcommit : (store.commitTransaction r₂.store).1 = .error e) :
      Course id t autoCommit r (.error (.storeFailed e))
        { r₂ with
          store := (store.commitTransaction r₂.store).2
          progress := r₂.progress.enter .commit
          ownsTransaction := true }
  /-- The plan is carried out, and the transaction commits. -/
  | committed {plan : Plan} {r₁ r₂ : Run σ} {rows : List Row}
      (hprepare : Ends (prepare store database id t) r (.ok plan) r₁)
      (hauto : autoCommit = true) (hidle : store.inTransaction r₁.store = false)
      (hstart : (store.startTransaction r₁.store).1 = .ok ())
      (hperform : Ends (perform store database plan) (opening store r₁) (.ok rows) r₂)
      (hcommit : (store.commitTransaction r₂.store).1 = .ok ()) :
      Course id t autoCommit r (.ok rows)
        { r₂ with
          store := (store.commitTransaction r₂.store).2
          progress := r₂.progress.enter .commit
          ownsTransaction := false }

variable {store database}

/-- What follows the opening of a transaction fails as the plan's performance does, or ends as the
commit after it. -/
theorem ends_performed [Host] {plan : Plan} {r r' : Run σ} {result : Except GatewayError (List Row)}
    (h : Ends (do
        enter .executing
        let rows ← perform store database plan
        closeTransaction store
        return rows) r result r') :
    (∃ e, Ends (perform store database plan)
        { r with progress := r.progress.enter .executing } (.error e) r' ∧ result = .error e) ∨
      ∃ rows r₂, Ends (perform store database plan)
          { r with progress := r.progress.enter .executing } (.ok rows) r₂ ∧
        r₂.ownsTransaction = r.ownsTransaction ∧
          Ends (do closeTransaction store; return rows) r₂ result r' := by
  rw [ends_bind_enter] at h
  refine (ends_bind.mp h).symm.imp_right fun ⟨rows, r₂, hperform, h⟩ => ?_
  have howns := spans_ownsTransaction.perform plan _ _ _ hperform
  exact ⟨rows, r₂, hperform, howns, h⟩

/-- A run that owns no transaction takes one of these courses. -/
theorem course_of_runTree [Host] {id : ObjectId} {t : QueryTree} {autoCommit : Bool} {r r' : Run σ}
    {result : Except GatewayError (List Row)} (howns : r.ownsTransaction = false)
    (h : Ends (runTree store database id t autoCommit) r result r') :
    Course store database id t autoCommit r result r' := by
  rw [runTree_eq] at h
  rcases (ends_bind.mp h).symm with ⟨e, hprepare, rfl⟩ | ⟨plan, r₁, hprepare, h⟩
  · exact .unprepared hprepare
  have howns₁ : r₁.ownsTransaction = false :=
    (spans_ownsTransaction.prepare id t _ _ _ hprepare).trans howns
  have hjoined (hauto : autoCommit = false ∨ store.inTransaction r₁.store = true)
      (h : Ends (do
        enter .executing
        let rows ← perform store database plan
        closeTransaction store
        return rows) r₁ result r') :
      Course store database id t autoCommit r result r' := by
    rcases ends_performed h with ⟨e, hperform, rfl⟩ | ⟨rows, r₂, hperform, howns₂, h⟩
    · exact .joined hprepare hauto hperform
    · rw [Ends, run_bind, run_closeTransaction, howns₂, howns₁] at h
      cases h
      exact .joined hprepare hauto hperform
  cases autoCommit with
  | false => exact hjoined (.inl rfl) h
  | true =>
    simp only [if_true] at h
    rw [Ends, run_bind, run_openTransaction] at h
    cases hidle : store.inTransaction r₁.store with
    | true =>
      rw [hidle] at h
      exact hjoined (.inr hidle) h
    | false =>
      rw [hidle] at h
      cases hstart : (store.startTransaction r₁.store).1 with
      | error e =>
        simp only [hstart] at h
        cases h
        exact .unopened hprepare rfl hidle hstart
      | ok =>
        simp only [hstart] at h
        rcases ends_performed h with ⟨e, hperform, rfl⟩ | ⟨rows, r₂, hperform, howns₂, h⟩
        · exact .failed hprepare rfl hidle hstart hperform
        · rw [Ends, run_bind, run_closeTransaction, howns₂] at h
          cases hcommit : (store.commitTransaction r₂.store).1 with
          | error e =>
            simp only [hcommit] at h
            cases h
            exact .uncommitted hprepare rfl hidle hstart hperform hcommit
          | ok =>
            simp only [hcommit] at h
            cases h
            exact .committed hprepare rfl hidle hstart hperform hcommit

/-! ### Calls -/

/-- Whether calls all send commands to a database. -/
def OnlyCommands (database : String) (calls : List StoreCall) : Prop :=
  ∀ call ∈ calls, ∃ command, call = .run database command

/-- The calls that send commands of a plan. -/
def callsOf (database : String) (cs : List Command) : List StoreCall :=
  cs.map fun c => .run database c.document

/-- Whether only commands have been sent between two states of a run. -/
def Asks (database : String) (r r' : Run (Recorded σ)) : Prop :=
  ∃ sent, r'.store.calls = r.store.calls ++ sent ∧ OnlyCommands database sent

theorem Asks.isPrefix {r r' : Run (Recorded σ)} (h : Asks database r r') :
    r.store.calls <+: r'.store.calls :=
  have ⟨sent, hsent, _⟩ := h
  ⟨sent, hsent.symm⟩

theorem spans_asks (store : DocumentStore σ) (database : String) :
    Spans store.recorded database (Asks database) where
  refl r := ⟨[], by simp, nofun⟩
  trans := by
    rintro r r₁ r₂ ⟨sent, h, hsent⟩ ⟨more, h', hmore⟩
    refine ⟨sent ++ more, by rw [h', h, List.append_assoc], fun call hcall => ?_⟩
    exact (List.mem_append.mp hcall).elim (hsent call) (hmore call)
  enter r _ := ⟨[], by simp, nofun⟩
  key r _ := ⟨[], by simp, nofun⟩
  send r command := by
    refine ⟨[.run database command], rfl, fun call hcall => ?_⟩
    exact ⟨command, List.mem_singleton.mp hcall⟩

theorem calls_dispatch {c : Command} {response : Document} {r r' : Run (Recorded σ)}
    (h : Ends (dispatch store.recorded database c) r (.ok response) r') :
    r'.store.calls = r.store.calls ++ [.run database c.document] := by
  rw [Ends, dispatch, run_respond, Option.some.injEq, Prod.mk.injEq] at h
  rw [← h.2]
  rfl

/-- What begins with an answered command has sent it first. -/
theorem calls_of_dispatch {α : Type} {c : Command} {f : Document → Execution (Recorded σ) α}
    (hf : ∀ response, Stays (Asks database) (f response)) {r r' : Run (Recorded σ)} {a : α}
    (h : Ends (dispatch store.recorded database c >>= f) r (.ok a) r') :
    r.store.calls ++ callsOf database [c] <+: r'.store.calls := by
  obtain ⟨response, r₁, hdispatch, hrest⟩ := ends_bind_ok.mp h
  exact calls_dispatch hdispatch ▸ (hf response r₁ _ r' hrest).isPrefix

theorem calls_fetch {c : Command} {docs : List Document} {r r' : Run (Recorded σ)}
    (h : Ends (fetch store.recorded database c) r (.ok docs) r') :
    r.store.calls ++ callsOf database [c] <+: r'.store.calls := by
  rw [fetch] at h
  split at h
  · cases h
  · refine calls_of_dispatch (fun response => ?_) h
    have hspans := spans_asks store database
    exact hspans.bind (hspans.lift _) fun batch => hspans.bind hspans.get fun r => hspans.drain _ _ _

theorem calls_runSelect [Host] {p : Plan} {strategy : Strategy} {rows : List Row}
    {r r' : Run (Recorded σ)}
    (h : Ends (runSelect store.recorded database p strategy) r (.ok rows) r') :
    r.store.calls ++ callsOf database p.commands <+: r'.store.calls := by
  unfold runSelect at h
  split at h
  · obtain ⟨c, hc, h⟩ := ends_bind_lift_ok h
    rw [commands_of_singleCommand hc]
    exact calls_of_dispatch ((spans_asks store database).decodeDistinct _) h
  · obtain ⟨c, hc, h⟩ := ends_bind_lift_ok h
    rw [commands_of_singleCommand hc]
    obtain ⟨docs, r₁, hfetch, hrest⟩ := ends_bind_ok.mp h
    have hasks := (spans_asks store database).decodeDocuments p docs _ _ _ hrest
    exact (calls_fetch hfetch).trans hasks.isPrefix

theorem calls_runCommands {affected n : Int64} {cs : List Command} {r r' : Run (Recorded σ)}
    (h : Ends (runCommands store.recorded database affected cs) r (.ok n) r') :
    r'.store.calls = r.store.calls ++ callsOf database cs := by
  induction cs generalizing affected r with
  | nil =>
    obtain ⟨-, rfl⟩ := ends_pure.mp h
    simp [callsOf]
  | cons c cs ih =>
    obtain ⟨response, r₁, hdispatch, hrest⟩ := ends_bind_ok.mp h
    rw [ih hrest, calls_dispatch hdispatch]
    simp [callsOf]

theorem calls_runWrites {p : Plan} {row : Row} {r r' : Run (Recorded σ)}
    (h : Ends (runWrites store.recorded database p) r (.ok row) r') :
    r.store.calls ++ callsOf database p.commands <+: r'.store.calls := by
  obtain ⟨affected, r₁, hcommands, hrest⟩ := ends_bind_ok.mp h
  rw [← calls_runCommands hcommands]
  dsimp only at hrest
  split at hrest
  · rw [ends_bind_get] at hrest
    obtain ⟨-, rfl⟩ := ends_pure.mp hrest
    exact List.prefix_rfl
  · obtain ⟨-, rfl⟩ := ends_pure.mp hrest
    exact List.prefix_rfl

/-- A plan that has been carried out has sent its commands, before any getMore or type probe. -/
theorem calls_perform [Host] {p : Plan} {rows : List Row} {r r' : Run (Recorded σ)}
    (h : Ends (perform store.recorded database p) r (.ok rows) r') :
    r.store.calls ++ callsOf database p.commands <+: r'.store.calls := by
  unfold perform at h
  split at h
  · exact calls_runSelect h
  · rw [map_eq_pure_bind] at h
    obtain ⟨row, r₁, hwrites, hrest⟩ := ends_bind_ok.mp h
    obtain ⟨-, rfl⟩ := ends_pure.mp hrest
    exact calls_runWrites hwrites

/-! ### Ownership -/

theorem ends_of_execute [Host] {id : ObjectId} {t : QueryTree} {autoCommit : Bool} {s : σ}
    {result : Except GatewayError (List Row)} {r : Run σ}
    (h : execute store database id t autoCommit s = some (result, r)) :
    ∃ r', Ends (runTree store database id t autoCommit) { store := s } result r' ∧
      r = settle store (!result.isOk) r' := by
  obtain ⟨⟨result', r'⟩, hrun, h⟩ := Option.bind_eq_some_iff.mp h
  cases result' <;> cases h <;> exact ⟨r', hrun, rfl⟩

theorem execute_of_ends [Host] {id : ObjectId} {t : QueryTree} {autoCommit : Bool} {s : σ}
    {result : Except GatewayError (List Row)} {r : Run σ}
    (h : Ends (runTree store database id t autoCommit) { store := s } result r) :
    execute store database id t autoCommit s = some (result, settle store (!result.isOk) r) := by
  rw [Ends] at h
  rw [execute, h]
  cases result <;> rfl

/-- The call that a failed run ends with, if its transaction is still open in a state of the store. -/
def abortCalls (store : DocumentStore σ) (s : σ) : List StoreCall :=
  if store.inTransaction s then [.abortTransaction] else []

theorem calls_settle_failed {r : Run (Recorded σ)} (h : r.ownsTransaction = true) :
    (settle store.recorded true r).store.calls = r.store.calls ++ abortCalls store r.store.state := by
  rw [settle, abortCalls, h]
  cases hopen : store.inTransaction r.store.state with
  | true =>
    have hrecorded : store.recorded.inTransaction r.store = true := hopen
    simp only [hrecorded]
    rfl
  | false =>
    have hrecorded : store.recorded.inTransaction r.store = false := hopen
    simp only [hrecorded]
    exact (List.append_nil _).symm

theorem settle_store_of_not_owned {failed : Bool} {r : Run σ}
    (h : failed = false ∨ r.ownsTransaction = false) : (settle store failed r).store = r.store := by
  rw [settle]
  rcases h with rfl | h
  · rfl
  · rw [h, Bool.and_false]
    rfl

/-- Whether a run opens a transaction, after it has planned its statement and sampled a key. -/
def Begins (store : DocumentStore σ) (autoCommit : Bool) (prepared : Except GatewayError Plan)
    (s : σ) : Prop :=
  autoCommit = true ∧ (∃ plan, prepared = .ok plan) ∧ store.inTransaction s = false

/-- Which calls a run makes that begins with a preparation, and which end they bring about. -/
structure OwnCalls [Host] (store : DocumentStore σ) (database : String) (autoCommit : Bool)
    (prepared : Except GatewayError Plan) (r₁ : Run (Recorded σ))
    (result : Except GatewayError (List Row)) (r : Run (Recorded σ)) : Prop where
  /-- Only commands are sent in the preparation. -/
  prepares : OnlyCommands database r₁.store.calls
  /-- Only commands are sent at all if no transaction is to be opened. -/
  joins : ¬ Begins store autoCommit prepared r₁.store.state → OnlyCommands database r.store.calls
  /-- A transaction that does not start is the end. -/
  unopened : ∀ e, Begins store autoCommit prepared r₁.store.state →
    (store.startTransaction r₁.store.state).1 = .error e →
    result = .error (.storeFailed e) ∧ r.store.calls = r₁.store.calls ++ [.startTransaction]
  /-- A transaction that starts holds the commands that carry out the plan. It is committed once
  they are all sent and answered and the rows are decoded; it is aborted if anything has failed and
  the store still has it open. -/
  opened : ∀ plan, Begins store autoCommit prepared r₁.store.state → prepared = .ok plan →
    (store.startTransaction r₁.store.state).1 = .ok () →
    ∃ performed r₂ sent,
      Ends (perform store.recorded database plan) (opening store.recorded r₁) performed r₂ ∧
      r₂.store.calls = r₁.store.calls ++ .startTransaction :: sent ∧ OnlyCommands database sent ∧
      (∀ e, performed = .error e →
        result = .error e ∧ r.store.calls = r₂.store.calls ++ abortCalls store r₂.store.state) ∧
      ∀ rows, performed = .ok rows →
        callsOf database plan.commands <+: sent ∧
        let (answer, closed) := store.commitTransaction r₂.store.state
        result = (answer.mapError .storeFailed).map (fun _ => rows) ∧
          r.store.calls = r₂.store.calls ++ .commitTransaction ::
            if answer.isOk then [] else abortCalls store closed

section

variable {autoCommit : Bool} {prepared : Except GatewayError Plan} {plan : Plan}
  {r₁ r : Run (Recorded σ)} {result : Except GatewayError (List Row)}

theorem OwnCalls.of_not_begins [Host] (hprepares : OnlyCommands database r₁.store.calls)
    (hnot : ¬ Begins store autoCommit prepared r₁.store.state)
    (hcommands : OnlyCommands database r.store.calls) :
    OwnCalls store database autoCommit prepared r₁ result r where
  prepares := hprepares
  joins _ := hcommands
  unopened _ h := absurd h hnot
  opened _ h := absurd h hnot

theorem OwnCalls.of_unopened [Host] {e : StoreError} (hprepares : OnlyCommands database r₁.store.calls)
    (hbegins : Begins store autoCommit prepared r₁.store.state)
    (hstart : (store.startTransaction r₁.store.state).1 = .error e)
    (hcalls : r.store.calls = r₁.store.calls ++ [.startTransaction]) :
    OwnCalls store database autoCommit prepared r₁ (.error (.storeFailed e)) r where
  prepares := hprepares
  joins h := absurd hbegins h
  unopened e' _ he' := by
    cases hstart.symm.trans he'
    exact ⟨rfl, hcalls⟩
  opened _ _ _ h := nomatch hstart.symm.trans h

theorem OwnCalls.of_opened [Host] {performed : Except GatewayError (List Row)} {r₂ : Run (Recorded σ)}
    (hprepares : OnlyCommands database r₁.store.calls)
    (hbegins : Begins store autoCommit (.ok plan) r₁.store.state)
    (hstart : (store.startTransaction r₁.store.state).1 = .ok ())
    (hperform : Ends (perform store.recorded database plan) (opening store.recorded r₁) performed r₂)
    (herror : ∀ e, performed = .error e →
      result = .error e ∧ r.store.calls = r₂.store.calls ++ abortCalls store r₂.store.state)
    (hok : ∀ rows, performed = .ok rows →
      let (answer, closed) := store.commitTransaction r₂.store.state
      result = (answer.mapError .storeFailed).map (fun _ => rows) ∧
        r.store.calls = r₂.store.calls ++ .commitTransaction ::
          if answer.isOk then [] else abortCalls store closed) :
    OwnCalls store database autoCommit (.ok plan) r₁ result r where
  prepares := hprepares
  joins h := absurd hbegins h
  unopened _ _ h := nomatch hstart.symm.trans h
  opened := by
    rintro _ - ⟨⟩ -
    obtain ⟨sent, hcalls, hsent⟩ := (spans_asks store database).perform plan _ _ _ hperform
    refine ⟨performed, r₂, sent, hperform, ?_, hsent, herror, fun rows hrows => ⟨?_, hok rows hrows⟩⟩
    · rw [hcalls]
      exact List.append_assoc _ _ _
    · have hplanned := calls_perform (hrows ▸ hperform)
      rwa [hcalls, List.prefix_append_right_inj] at hplanned

end

/-- A run opens no transaction but one of its own, and it commits or aborts no other, whatever the
store answers. -/
theorem execute_transaction_calls [Host] {id : ObjectId} {t : QueryTree} {autoCommit : Bool} {s : σ}
    {result : Except GatewayError (List Row)} {r : Run (Recorded σ)}
    (h : execute store.recorded database id t autoCommit ⟨s, []⟩ = some (result, r)) :
    ∃ prepared r₁, Ends (prepare store.recorded database id t) { store := ⟨s, []⟩ } prepared r₁ ∧
      OwnCalls store database autoCommit prepared r₁ result r := by
  obtain ⟨r', hrun, rfl⟩ := ends_of_execute h
  have hprepared {prepared : Except GatewayError Plan} {r₁ : Run (Recorded σ)}
      (hprepare : Ends (prepare store.recorded database id t) { store := ⟨s, []⟩ } prepared r₁) :
      r₁.ownsTransaction = false ∧ OnlyCommands database r₁.store.calls := by
    obtain ⟨sent, hcalls, hsent⟩ := (spans_asks store database).prepare id t _ _ _ hprepare
    rw [hcalls]
    exact ⟨spans_ownsTransaction.prepare id t _ _ _ hprepare, hsent⟩
  cases course_of_runTree rfl hrun with
  | @unprepared e r' hprepare =>
    obtain ⟨howns, hcommands⟩ := hprepared hprepare
    refine ⟨_, r', hprepare, .of_not_begins hcommands (fun ⟨_, ⟨_, hplan⟩, _⟩ => nomatch hplan) ?_⟩
    rwa [settle_store_of_not_owned (.inr howns)]
  | @joined plan r₁ r' outcome hprepare hjoined hperform =>
    obtain ⟨howns, hcommands⟩ := hprepared hprepare
    have howns' : r'.ownsTransaction = false :=
      (spans_ownsTransaction.perform plan _ _ _ hperform).trans howns
    obtain ⟨sent, hcalls, hsent⟩ := (spans_asks store database).perform plan _ _ _ hperform
    refine ⟨_, r₁, hprepare, .of_not_begins hcommands (fun ⟨hauto, _, hidle⟩ => ?_) ?_⟩
    · rcases hjoined with h | h
      · cases hauto.symm.trans h
      · cases hidle.symm.trans h
    · rw [settle_store_of_not_owned (.inr howns'), hcalls]
      exact fun call hcall => (List.mem_append.mp hcall).elim (hcommands call) (hsent call)
  | @unopened plan r₁ e hprepare hauto hidle hstart =>
    obtain ⟨howns, hcommands⟩ := hprepared hprepare
    refine ⟨_, r₁, hprepare, .of_unopened hcommands ⟨hauto, ⟨plan, rfl⟩, hidle⟩ hstart ?_⟩
    rw [settle_store_of_not_owned (.inr (by exact howns))]
    rfl
  | @failed plan r₁ r₂ e hprepare hauto hidle hstart hperform =>
    have hbegins : Begins store autoCommit (.ok plan) r₁.store.state := ⟨hauto, ⟨plan, rfl⟩, hidle⟩
    refine ⟨_, r₁, hprepare,
      .of_opened (hprepared hprepare).2 hbegins hstart hperform (fun e' he => ?_) nofun⟩
    cases he
    exact ⟨rfl, calls_settle_failed (spans_ownsTransaction.perform plan _ _ _ hperform)⟩
  | @uncommitted plan r₁ r₂ rows e hprepare hauto hidle hstart hperform hcommit =>
    have hbegins : Begins store autoCommit (.ok plan) r₁.store.state := ⟨hauto, ⟨plan, rfl⟩, hidle⟩
    refine ⟨_, r₁, hprepare,
      .of_opened (hprepared hprepare).2 hbegins hstart hperform nofun fun rows' hrows => ?_⟩
    cases hrows
    replace hcommit : (store.commitTransaction r₂.store.state).1 = .error e := hcommit
    dsimp only
    rw [hcommit]
    refine ⟨rfl, (calls_settle_failed rfl).trans ?_⟩
    exact List.append_assoc _ _ _
  | @committed plan r₁ r₂ rows hprepare hauto hidle hstart hperform hcommit =>
    have hbegins : Begins store autoCommit (.ok plan) r₁.store.state := ⟨hauto, ⟨plan, rfl⟩, hidle⟩
    refine ⟨_, r₁, hprepare,
      .of_opened (hprepared hprepare).2 hbegins hstart hperform nofun fun rows' hrows => ?_⟩
    cases hrows
    replace hcommit : (store.commitTransaction r₂.store.state).1 = .ok () := hcommit
    dsimp only
    rw [hcommit]
    exact ⟨rfl, congrArg Recorded.calls (settle_store_of_not_owned (.inl rfl))⟩

/-- Emptying a collection of a store that answers the command and refuses to commit. -/
theorem execute_transaction_calls_refused :
    let s : ScriptedStore := ⟨[.ok [("ok", .int 1), ("n", .int 2)]], ["commit"], false⟩
    ∃ result r, execute ScriptedStore.store.recorded "app" default (.document (.truncate "t")) true
        ⟨s, []⟩ = some (result, r) ∧
      (∃ command, r.store.calls =
        [.startTransaction, .run "app" command, .commitTransaction, .abortTransaction]) ∧
      ∃ prepared r₁, Ends (prepare ScriptedStore.store.recorded "app" default
          (.document (.truncate "t"))) { store := ⟨s, []⟩ } prepared r₁ ∧
        OwnCalls ScriptedStore.store "app" true prepared r₁ result r :=
  ⟨_, _, rfl, ⟨_, rfl⟩, execute_transaction_calls rfl⟩

end SqlGateway.Gateway
