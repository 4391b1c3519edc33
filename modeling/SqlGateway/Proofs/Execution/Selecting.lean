import SqlGateway.Proofs.Execution.Ownership
import SqlGateway.Proofs.Execution.Reading
import SqlGateway.Proofs.Plan.Strategies
import SqlGateway.Proofs.Store.Retrieval

/-! How a SELECT that has given rows went: it had a plan of four parts, its command was run over the
databases as they were, and each document that was found has become one row. -/

namespace SqlGateway

variable [Host]

open Execution MemoryStore

variable {database : String}

/-! ### Fetching -/

namespace Execution

/-- The documents that have been read are those of the command, and but for the number of the next
cursor the store is as it was. -/
theorem eq_of_fetch {c : Command} {r r' : Run MemoryStore} {docs : List Document}
    (hs : r.store.Sound) (hroom : r.store.nextCursor < 2 ^ 63) (hheaded : c.Headed)
    (hcursor : c.verb.returnsCursor = true)
    (h : Ends (fetch store database c) r (.ok docs) r') :
    documentsOf database c r.store = .ok docs ∧
      ∃ next, r.store.nextCursor ≤ next ∧ next ≤ r.store.nextCursor + 1 ∧
        r' = { r with store := { r.store with nextCursor := next } } := by
  obtain ⟨next, hle, hnext, hends⟩ := ends_fetch hs hroom database hheaded hcursor
  obtain ⟨hdocs, hstore⟩ := Prod.ext_iff.mp (Option.some.inj (hends.symm.trans h))
  exact ⟨hdocs, next, hle, hnext, hstore.symm⟩

theorem documentsOf_of_fetch {c : Command} {r r' : Run MemoryStore} {docs : List Document}
    (hs : r.store.Sound) (hroom : r.store.nextCursor < 2 ^ 63) (hheaded : c.Headed)
    (hcursor : c.verb.returnsCursor = true)
    (h : Ends (fetch store database c) r (.ok docs) r') :
    documentsOf database c r.store = .ok docs :=
  (eq_of_fetch hs hroom hheaded hcursor h).1

theorem retrieve_of_documentsOf {c : Command} {s : MemoryStore} {docs : List Document}
    (h : documentsOf database c s = .ok docs) :
    s.Serving ∧ ∃ result, s.databases.retrieve c.verb.name database c.document = .ok result ∧
      result.documents = docs := by
  rw [documentsOf] at h
  split at h
  · cases h
  next honline =>
  split at h
  · cases h
  next hcommitting =>
  refine ⟨⟨by simpa using honline, by simpa using hcommitting⟩, ?_⟩
  cases hresult : s.databases.retrieve c.verb.name database c.document with
  | error f =>
    rw [hresult] at h
    cases h
  | ok result =>
    rw [hresult] at h
    cases h
    exact ⟨result, rfl, rfl⟩

/-- The documents that a pipeline has given are those of its stages. -/
theorem run_of_fetch_sound {collection : String} {stages : List Document} {r r' : Run MemoryStore}
    {docs : List Document} (hs : r.store.Sound) (hroom : r.store.nextCursor < 2 ^ 63)
    (h : Ends (fetch store database (.aggregate collection stages)) r (.ok docs) r') :
    r.store.Serving ∧ Pipeline.run (r.store.databases.documents database)
      (r.store.databases.documents database collection) stages = .ok docs := by
  have hdocs := documentsOf_of_fetch hs hroom (Command.headed_aggregate collection stages) rfl h
  obtain ⟨hserving, result, hresult, rfl⟩ := retrieve_of_documentsOf hdocs
  change r.store.databases.retrieve "aggregate" database _ = _ at hresult
  rw [Databases.retrieve_aggregate] at hresult
  obtain ⟨docs, hrun, rfl⟩ := Except.map_eq_ok.mp hresult
  exact ⟨hserving, hrun⟩

theorem run_of_fetch {collection : String} {stages : List Document} {r r' : Run MemoryStore}
    {docs : List Document} (hs : r.store.Reachable) (hroom : r.store.nextCursor < 2 ^ 63)
    (h : Ends (fetch store database (.aggregate collection stages)) r (.ok docs) r') :
    r.store.Serving ∧ Pipeline.run (r.store.databases.documents database)
      (r.store.databases.documents database collection) stages = .ok docs :=
  run_of_fetch_sound (sound_of_reachable hs) hroom h

/-- A store that serves gives the documents of a pipeline whose stages can be run. -/
theorem exists_fetch_of_run {collection : String} {stages : List Document} {r : Run MemoryStore}
    {docs : List Document} (hs : r.store.Reachable) (hroom : r.store.nextCursor < 2 ^ 63)
    (hserving : r.store.Serving)
    (hrun : Pipeline.run (r.store.databases.documents database)
      (r.store.databases.documents database collection) stages = .ok docs) :
    ∃ r', Ends (fetch store database (.aggregate collection stages)) r (.ok docs) r' := by
  have hresult : r.store.databases.retrieve "aggregate" database
      (Command.aggregate collection stages).document =
        .ok ⟨Databases.namespaceOf database collection, docs, none⟩ := by
    rw [Databases.retrieve_aggregate, hrun]
    rfl
  obtain ⟨next, -, -, hends⟩ := ends_fetch (sound_of_reachable hs) hroom database
    (Command.headed_aggregate collection stages) rfl
  rw [documentsOf_of_retrieve (c := .aggregate collection stages) hserving hresult] at hends
  exact ⟨_, hends⟩

end Execution

namespace Gateway

/-! ### Rows -/

/-- Rows that are no DISTINCT's are read from documents, with the types of the first of them. -/
theorem ends_runSelect {p : Plan} {strategy : Strategy} {r r' : Run MemoryStore} {rows : List Row}
    (hstrategy : ∀ output, strategy ≠ .distinct output)
    (h : Ends (runSelect store database p strategy) r (.ok rows) r') :
    ∃ c docs r₁, singleCommand p = .ok c ∧ Ends (fetch store database c) r (.ok docs) r₁ ∧
      (docs = [] ∧ rows = [] ∨
        ∃ sample rest target types r₂, docs = sample :: rest ∧ p.probe = some target ∧
          Ends (Typing.infer (fetch store database) target sample)
            { r₁ with progress := r₁.progress.enter .typeInference } (.ok types) r₂ ∧
          Row.ofDocuments types (target.join.map (·.field)) docs = .ok rows) := by
  unfold runSelect at h
  split at h
  · next output => exact absurd rfl (hstrategy output)
  obtain ⟨c, hc, h⟩ := ends_bind_lift_ok h
  obtain ⟨docs, r₁, hfetch, h⟩ := ends_bind_ok.mp h
  refine ⟨c, docs, r₁, hc, hfetch, ?_⟩
  cases docs with
  | nil =>
    obtain ⟨hrows, -⟩ := ends_pure.mp h
    exact .inl ⟨rfl, Except.ok.inj hrows⟩
  | cons sample rest =>
    dsimp only at h
    rw [ends_bind_enter] at h
    cases hprobe : p.probe with
    | none =>
      rw [hprobe] at h
      cases h
    | some target =>
      rw [hprobe] at h
      obtain ⟨types, r₂, hinfer, h⟩ := ends_bind_ok.mp h
      rw [ends_bind_enter] at h
      obtain ⟨hrows, -⟩ := ends_lift.mp h
      exact .inr ⟨sample, rest, target, types, r₂, rfl, rfl, hinfer, hrows.symm⟩

/-- All documents of a plan are read under one set of types, which was asked for if there is one. -/
theorem ends_runSelect_selecting {strategy : Strategy} {command : Command} {target : ProbeTarget}
    {r r' : Run MemoryStore} {rows : List Row} (hstrategy : ∀ output, strategy ≠ .distinct output)
    (h : Ends (runSelect store database (Plan.selecting strategy command target) strategy) r
      (.ok rows) r') :
    ∃ docs r₁ types, Ends (fetch store database command) r (.ok docs) r₁ ∧
      Row.ofDocuments types (target.join.map (·.field)) docs = .ok rows ∧
      ∀ sample rest, docs = sample :: rest → ∃ r₂,
        Ends (Typing.infer (fetch store database) target sample)
          { r₁ with progress := r₁.progress.enter .typeInference } (.ok types) r₂ := by
  obtain ⟨c, docs, r₁, hcommand, hfetch, hrows⟩ := ends_runSelect hstrategy h
  obtain rfl : command = c := Except.ok.inj hcommand
  refine ⟨docs, r₁, ?_⟩
  rcases hrows with ⟨rfl, rfl⟩ | ⟨sample, rest, target', types, r₂, rfl, hprobe, hinfer, hrows⟩
  · exact ⟨[], hfetch, rfl, fun _ _ hdocs => absurd hdocs.symm (List.cons_ne_nil _ _)⟩
  · obtain rfl : target = target' := Option.some.inj hprobe
    refine ⟨types, hfetch, hrows, fun _ _ hdocs => ⟨r₂, ?_⟩⟩
    obtain ⟨rfl, -⟩ := List.cons.inj hdocs
    exact hinfer

/-- Once documents have been read, all that is left is to find their types and to decode them. -/
theorem ends_runSelect_of_fetch {p : Plan} {strategy : Strategy} {c : Command}
    {target : ProbeTarget} {r r₁ r' : Run MemoryStore} {sample : Document} {docs : List Document}
    {outcome : Except GatewayError (List Row)}
    (hstrategy : ∀ output, strategy ≠ .distinct output) (hcommand : singleCommand p = .ok c)
    (hprobe : p.probe = some target)
    (hfetch : Ends (fetch store database c) r (.ok (sample :: docs)) r₁)
    (h : Ends (do
      let types ← Typing.infer (fetch store database) target sample
      enter .rowDecode
      liftM (Row.ofDocuments types (target.join.map (·.field)) (sample :: docs)))
        { r₁ with progress := r₁.progress.enter .typeInference } outcome r') :
    Ends (runSelect store database p strategy) r outcome r' := by
  unfold runSelect
  split
  · next output => exact absurd rfl (hstrategy output)
  refine ends_bind.mpr (.inl ⟨c, r, ends_lift.mpr ⟨hcommand.symm, rfl⟩, ?_⟩)
  refine ends_bind.mpr (.inl ⟨_, r₁, hfetch, ?_⟩)
  dsimp only
  rw [ends_bind_enter, hprobe]
  exact h

/-! ### Whole statements -/

/-- Whether a run reads what a store holds: it may stand inside a transaction that it has opened. -/
structure Reading (s : MemoryStore) (r : Run MemoryStore) : Prop where
  sound : r.store.Sound
  databases : r.store.databases = s.databases
  nextCursor : r.store.nextCursor = s.nextCursor

theorem ends_prepare_select {id : ObjectId} {q : Select} {plan : Plan} {r r' : Run MemoryStore}
    (h : Ends (prepare store database id (.document (.select q))) r (.ok plan) r') :
    Plan.ofSelect q = .ok plan ∧ r' = { r with progress := r.progress.enter .planning } := by
  rw [prepare, ends_bind_enter] at h
  obtain ⟨p, hp, h⟩ := ends_bind_lift_ok h
  change Plan.ofSelect q = .ok p at hp
  obtain ⟨join, strategy, command, target, -, rfl⟩ := Plan.ofSelect_eq_ok.mp hp
  obtain ⟨hplan, rfl⟩ := ends_pure.mp h
  exact ⟨hp.trans hplan.symm, rfl⟩

/-- A SELECT that has given rows has read them over the databases as they were. -/
theorem ends_select {id : ObjectId} {q : Select} {autoCommit : Bool} {s : MemoryStore}
    (hs : s.Sound) {rows : List Row} {r : Run MemoryStore}
    (h : execute store database id (.document (.select q)) autoCommit s = some (.ok rows, r)) :
    ∃ join strategy command target r₁ r₂, Plan.Selects q join strategy command target ∧
      Reading s r₁ ∧
      Ends (runSelect store database (Plan.selecting strategy command target) strategy) r₁
        (.ok rows) r₂ := by
  obtain ⟨r', hends, -⟩ := ends_of_execute h
  have hperformed {plan : Plan} {r₁ r₂ : Run MemoryStore} (hplan : Plan.ofSelect q = .ok plan)
      (hreading : Reading s r₁) (hperform : Ends (perform store database plan) r₁ (.ok rows) r₂) :
      ∃ join strategy command target r₁ r₂, Plan.Selects q join strategy command target ∧
        Reading s r₁ ∧
        Ends (runSelect store database (Plan.selecting strategy command target) strategy) r₁
          (.ok rows) r₂ := by
    obtain ⟨join, strategy, command, target, hselects, rfl⟩ := Plan.ofSelect_eq_ok.mp hplan
    exact ⟨join, strategy, command, target, r₁, r₂, hselects, hreading, hperform⟩
  cases course_of_runTree rfl hends with
  | joined hprepare _ hperform =>
    obtain ⟨hplan, rfl⟩ := ends_prepare_select hprepare
    exact hperformed hplan ⟨hs, rfl, rfl⟩ hperform
  | committed hprepare _ _ _ hperform _ =>
    obtain ⟨hplan, rfl⟩ := ends_prepare_select hprepare
    refine hperformed hplan ⟨hs.startTransaction, ?_, ?_⟩ hperform
    · exact databases_startTransaction s
    · exact s.sameServer_startTransaction.nextCursor

end Gateway

end SqlGateway
