import SqlGateway.Execution.Gateway
import SqlGateway.Proofs.Execution.Runs
import SqlGateway.Proofs.Plan.Commands

/-! What lies between the beginning and the end of a part of a run, whatever the store
does. A relation that holds around every single step of reading and writing holds
around each part that is made of such steps. Nothing is said of a part without an end. -/

namespace SqlGateway.Gateway

open Execution

variable {σ : Type} (store : DocumentStore σ) (database : String)

/-! ### The parts of a run -/

/-- Plans the statement of a tree, and samples the key that the plan asks for. -/
def prepare [Host] (id : ObjectId) (t : QueryTree) : Execution σ Plan := do
  enter .planning
  withKey store database (← Plan.ofTree id t)

/-- Carries a plan out, up to its rows. -/
def perform [Host] (p : Plan) : Execution σ (List Row) :=
  match p.shape with
  | .select strategy => runSelect store database p strategy
  | _ => (fun row => [row]) <$> runWrites store database p

theorem runTree_eq [Host] (id : ObjectId) (t : QueryTree) (autoCommit : Bool) :
    runTree store database id t autoCommit = (do
      let plan ← prepare store database id t
      if autoCommit then openTransaction store
      enter .executing
      let rows ← perform store database plan
      closeTransaction store
      return rows) := by
  have hperform (plan : Plan) (f : List Row → Execution σ (List Row)) :
      perform store database plan >>= f =
        match plan.shape with
        | .select strategy => runSelect store database plan strategy >>= f
        | _ => ((fun row => [row]) <$> runWrites store database plan) >>= f := by
    unfold perform
    split <;> rfl
  simp only [runTree, prepare, bind_assoc]
  refine bind_congr fun _ => bind_congr fun p => bind_congr fun plan => ?_
  cases autoCommit with
  | false => exact bind_congr fun _ => (hperform plan _).symm
  | true => exact bind_congr fun _ => bind_congr fun _ => (hperform plan _).symm

theorem commands_of_singleCommand {p : Plan} {c : Command} (h : singleCommand p = .ok c) :
    p.commands = [c] := by
  rw [singleCommand] at h
  split at h
  · next hcommands =>
    cases h
    exact hcommands
  · cases h

theorem headed_singleCommand {p : Plan} (hp : p.Headed) {c : Command}
    (h : singleCommand p = .ok c) : c.Headed :=
  hp c (commands_of_singleCommand h ▸ List.mem_singleton_self c)

end SqlGateway.Gateway

namespace SqlGateway.Execution

variable {σ α β : Type}

/-- Whether a part of a run only ends in states that are related to the one it began in. -/
def Stays (R : Run σ → Run σ → Prop) (x : Execution σ α) : Prop :=
  ∀ r outcome r', Ends x r outcome r' → R r r'

/-- Whether a relation holds around the steps in which commands are sent: nothing happens, one thing
after another, or a command is sent. -/
structure Sends (store : DocumentStore σ) (database : String) (R : Run σ → Run σ → Prop) : Prop where
  refl : ∀ r, R r r
  trans : ∀ {r r₁ r₂}, R r r₁ → R r₁ r₂ → R r r₂
  send : ∀ r command, R r { r with store := (store.run r.store database command).2 }

namespace Sends

variable {store : DocumentStore σ} {database : String} {R : Run σ → Run σ → Prop}

theorem pure (h : Sends store database R) (a : α) : Stays R (pure a : Execution σ α) := by
  intro r outcome r' hend
  obtain ⟨-, rfl⟩ := ends_pure.mp hend
  exact h.refl _

theorem lift (h : Sends store database R) (x : Except GatewayError α) :
    Stays R (liftM x : Execution σ α) := by
  intro r outcome r' hend
  obtain ⟨-, rfl⟩ := ends_lift.mp hend
  exact h.refl _

theorem throw (h : Sends store database R) (e : GatewayError) :
    Stays R (throw e : Execution σ α) := h.lift (.error e)

theorem bind (h : Sends store database R) {x : Execution σ β} {f : β → Execution σ α}
    (hx : Stays R x) (hf : ∀ b, Stays R (f b)) : Stays R (x >>= f) := by
  intro r outcome r' hend
  rcases ends_bind.mp hend with ⟨b, r₁, hfirst, hsecond⟩ | ⟨e, hfirst, -⟩
  · exact h.trans (hx r _ r₁ hfirst) (hf b r₁ _ r' hsecond)
  · exact hx r _ r' hfirst

theorem map (h : Sends store database R) {x : Execution σ β} (f : β → α) (hx : Stays R x) :
    Stays R (f <$> x) := by
  rw [map_eq_pure_bind]
  exact h.bind hx fun b => h.pure (f b)

theorem mapM (h : Sends store database R) {f : β → Execution σ α} (hf : ∀ b, Stays R (f b))
    (bs : List β) : Stays R (bs.mapM f) := by
  induction bs with
  | nil => exact h.pure []
  | cons b bs ih =>
    rw [List.mapM_cons]
    exact h.bind (hf b) fun a => h.bind ih fun as => h.pure (a :: as)

theorem get (h : Sends store database R) : Stays R (MonadState.get : Execution σ (Run σ)) :=
  fun r _ _ hend => by cases hend; exact h.refl r

theorem call (_ : Sends store database R) {f : σ → Except StoreError α × σ}
    (hf : ∀ r, R r { r with store := (f r.store).2 }) : Stays R (Execution.call f) := by
  intro r outcome r' hend
  obtain ⟨-, rfl⟩ := ends_call.mp hend
  exact hf r

/-! ### Commands -/

theorem respond (h : Sends store database R) (verb : String) (command : Document) :
    Stays R (respond store database verb command) := by
  exact h.bind (h.call fun r => h.send r command) fun response => h.bind (h.lift _) fun _ => h.pure _

theorem dispatch (h : Sends store database R) (c : Command) : Stays R (dispatch store database c) :=
  h.respond _ _

theorem drain (h : Sends store database R) (collection : String) (patience : Nat)
    (batch : Response.Batch) : Stays R (drain store database collection patience batch) := by
  induction patience generalizing batch with
  | zero =>
    rw [Execution.drain]
    split
    · exact h.pure _
    · exact fun r outcome r' hend => nomatch hend
  | succ patience ih =>
    rw [Execution.drain]
    split
    · exact h.pure _
    · refine h.bind (h.respond _ _) fun response => h.bind (h.lift _) fun next => ?_
      exact h.bind (ih next) fun rest => h.pure _

theorem fetch (h : Sends store database R) (c : Command) : Stays R (fetch store database c) := by
  rw [Execution.fetch]
  split
  · exact h.throw _
  · refine h.bind (h.dispatch c) fun response => h.bind (h.lift _) fun batch => ?_
    exact h.bind h.get fun r => h.drain _ _ _

/-! ### Parts that send commands only -/

open Gateway

theorem sampleNextKey [Host] (h : Sends store database R) (c : CountedColumn) :
    Stays R (sampleNextKey store database c) := by
  refine h.bind (h.lift _) fun plan => h.bind (h.lift _) fun command => ?_
  exact h.bind (h.fetch command) fun docs => h.lift _

theorem ofCollection (h : Sends store database R) (collection : String) (isJoined : Bool)
    (types : TypeMap) (cs : List ProbeColumn) :
    Stays R (Typing.ofCollection (Execution.fetch store database) collection isJoined types cs) := by
  rw [Typing.ofCollection]
  split
  · exact h.pure types
  · refine h.bind (h.fetch _) fun answers => ?_
    split
    · exact h.lift _
    · split
      · exact h.pure _
      · exact h.throw _

theorem infer (h : Sends store database R) (t : ProbeTarget) (sample : Document) :
    Stays R (Typing.infer (Execution.fetch store database) t sample) := by
  rw [Typing.infer]
  dsimp only
  refine h.bind (h.ofCollection _ _ _ _) fun types => ?_
  split
  · exact h.ofCollection _ _ _ _
  · exact h.pure types

theorem runCommands (h : Sends store database R) (affected : Int64) (cs : List Command) :
    Stays R (runCommands store database affected cs) := by
  induction cs generalizing affected with
  | nil => exact h.pure affected
  | cons c cs ih => exact h.bind (h.dispatch c) fun response => ih _

theorem runWrites (h : Sends store database R) (p : Plan) :
    Stays R (runWrites store database p) := by
  refine h.bind (h.runCommands 0 p.commands) fun affected => ?_
  dsimp only
  split
  · exact h.bind h.get fun r => h.pure _
  · exact h.pure _

end Sends

/-- Whether a relation holds around the steps of reading and writing: those in which commands are
sent, and those in which a phase is entered or a key is found. -/
structure Spans (store : DocumentStore σ) (database : String) (R : Run σ → Run σ → Prop) : Prop
    extends Sends store database R where
  enter : ∀ r p, R r { r with progress := r.progress.enter p }
  key : ∀ r key, R r { r with lastInsertId := some key }

namespace Spans

variable {store : DocumentStore σ} {database : String} {R : Run σ → Run σ → Prop}

open Gateway

theorem enterPhase (h : Spans store database R) (p : Phase) : Stays R (Execution.enter p) :=
  fun r _ _ hend => by cases hend; exact h.enter r p

theorem withKey [Host] (h : Spans store database R) (p : Plan) : Stays R (withKey store database p) := by
  rw [Gateway.withKey]
  split
  · exact h.pure p
  · refine h.bind (h.enterPhase _) fun _ => h.bind (h.sampleNextKey _) fun key => ?_
    refine h.bind (fun r outcome r' hend => ?_) fun _ => h.pure _
    cases hend
    exact h.key r key

/-- Around the decoding of a column's different values. -/
theorem decodeDistinct [Host] (h : Spans store database R) (output : String) (response : Document) :
    Stays R (do
      Execution.enter .rowDecode
      (← Response.distinctValues response).mapM fun v => do
        return [(output, ← Cell.decode output (.ofValue v) v)] : Execution σ (List Row)) := by
  refine h.bind (h.enterPhase _) fun _ => h.bind (h.lift _) fun vs => h.mapM (fun v => ?_) vs
  exact h.bind (h.lift _) fun cell => h.pure _

/-- Around the decoding of documents, whose types are probed first. -/
theorem decodeDocuments [Host] (h : Spans store database R) (p : Plan) (docs : List Document) :
    Stays R (match docs with
      | [] => return []
      | sample :: docs => do
        Execution.enter .typeInference
        match p.probe with
        | none => MonadExcept.throw (.missingMetadata "select plan carries no type probe target")
        | some target =>
          let types ← Typing.infer (Execution.fetch store database) target sample
          Execution.enter .rowDecode
          Row.ofDocuments types (target.join.map (·.field)) (sample :: docs) :
      Execution σ (List Row)) := by
  split
  · exact h.pure []
  · refine h.bind (h.enterPhase _) fun _ => ?_
    split
    · exact h.throw _
    · refine h.bind (h.infer _ _) fun types => h.bind (h.enterPhase _) fun _ => h.lift _

theorem runSelect [Host] (h : Spans store database R) (p : Plan) (strategy : Strategy) :
    Stays R (runSelect store database p strategy) := by
  unfold Gateway.runSelect
  split
  · refine h.bind (h.lift _) fun c => h.bind (h.dispatch c) fun answer => ?_
    exact h.decodeDistinct _ answer
  · refine h.bind (h.lift _) fun c => h.bind (h.fetch c) fun docs => ?_
    exact h.decodeDocuments p docs

theorem prepare [Host] (h : Spans store database R) (id : ObjectId) (t : QueryTree) :
    Stays R (Gateway.prepare store database id t) :=
  h.bind (h.enterPhase _) fun _ => h.bind (h.lift _) fun p => h.withKey p

theorem perform [Host] (h : Spans store database R) (p : Plan) :
    Stays R (Gateway.perform store database p) := by
  unfold Gateway.perform
  split
  · exact h.runSelect p _
  · exact h.map _ (h.runWrites p)

end Spans

/-- Whether a relation holds around the steps of whole runs: those of reading and writing, and those
that open and close a transaction. -/
structure SpansRuns (store : DocumentStore σ) (database : String) (R : Run σ → Run σ → Prop) : Prop
    extends Spans store database R where
  start : ∀ r, R r { r with store := (store.startTransaction r.store).2 }
  commit : ∀ r, R r { r with store := (store.commitTransaction r.store).2 }
  own : ∀ r owns, R r { r with ownsTransaction := owns }

namespace SpansRuns

variable {store : DocumentStore σ} {database : String} {R : Run σ → Run σ → Prop}

theorem setOwner (h : SpansRuns store database R) (owns : Bool) :
    Stays R (modify fun r => { r with ownsTransaction := owns } : Execution σ Unit) :=
  fun r _ _ hend => by cases hend; exact h.own r owns

open Gateway

theorem openTransaction (h : SpansRuns store database R) : Stays R (openTransaction store) := by
  refine h.bind h.get fun r => ?_
  split
  · exact h.bind (h.enterPhase _) fun _ => h.bind (h.call h.start) fun _ => h.setOwner true
  · exact h.pure _

theorem closeTransaction (h : SpansRuns store database R) : Stays R (closeTransaction store) := by
  refine h.bind h.get fun r => ?_
  split
  · exact h.bind (h.enterPhase _) fun _ => h.bind (h.call h.commit) fun _ => h.setOwner false
  · exact h.pure _

theorem runTree [Host] (h : SpansRuns store database R) (id : ObjectId) (t : QueryTree)
    (autoCommit : Bool) : Stays R (runTree store database id t autoCommit) := by
  have hrest (plan : Plan) : Stays R (do
      enter .executing
      let rows ← Gateway.perform store database plan
      Gateway.closeTransaction store
      return rows : Execution σ (List Row)) :=
    h.bind (h.enterPhase _) fun _ => h.bind (h.perform plan) fun rows =>
      h.bind h.closeTransaction fun _ => h.pure rows
  rw [runTree_eq]
  refine h.bind (h.prepare id t) fun plan => ?_
  dsimp only
  split
  · exact h.bind h.openTransaction fun _ => hrest plan
  · exact hrest plan

end SpansRuns

end SqlGateway.Execution
