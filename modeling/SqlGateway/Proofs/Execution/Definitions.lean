import SqlGateway.Proofs.Execution.Ownership
import SqlGateway.Proofs.Execution.Reading
import SqlGateway.Proofs.Store.Indexing
import SqlGateway.Proofs.Store.Transactions

/-! Statements that define collections. On a store at rest the commands of a
definition are carried out in a transaction of its own, which leaves the store as
the commands alone would. What is dropped and created is then as if it had always
been so. -/

namespace SqlGateway

attribute [local instance] Host.universal

namespace MemoryStore

variable {database : String} {s t : MemoryStore}

/-! ### Commands one after another -/

/-- Whether a store serves, can commit and has no transaction open. -/
structure AtRest (s : MemoryStore) : Prop where
  online : s.online = true
  committing : s.standalone = false
  idle : s.inTransaction = false
  snapshot : s.snapshot = none

theorem atRest_of_reachable [Host] (hs : s.Reachable) (honline : s.online = true)
    (hcommitting : s.standalone = false) (hidle : s.inTransaction = false) : s.AtRest where
  online := honline
  committing := hcommitting
  idle := hidle
  snapshot := (sound_of_reachable hs).snapshot_of_idle hidle

theorem AtRest.serving (h : s.AtRest) : s.Serving := ⟨h.online, by rw [h.committing]; rfl⟩

theorem AtRest.of_sameSession (h : s.AtRest) (hsame : SameSession s t) : t.AtRest where
  online := hsame.online.trans h.online
  committing := hsame.standalone.trans h.committing
  idle := hsame.transactionActive.trans h.idle
  snapshot := hsame.snapshot.trans h.snapshot

/-- A store with other databases. -/
def withDatabases (s : MemoryStore) (dbs : Databases) : MemoryStore := { s with databases := dbs }

/-- A command that only changes databases leaves the rest of the store as it is. -/
theorem run_of_dispatch [Host] (hs : s.Serving) {c : Command} (hheaded : c.Headed)
    {dbs : Databases} {reply : Databases.Reply}
    (hdispatch : s.dispatch database c.verb.name c.document = s.changed (dbs, reply)) :
    s.run database c.document = (.ok (response reply), s.withDatabases dbs) := by
  obtain ⟨v, rest, hdocument⟩ := hheaded
  rw [hdocument] at hdispatch ⊢
  rw [run_of_serving hs, hdispatch]
  rfl

/-- Commands that count no documents, of which each succeeds and takes the store to the next
state. -/
inductive Carries [Host] (database : String) : MemoryStore → List Command → MemoryStore → Prop
  | nil (s : MemoryStore) : Carries database s [] s
  | cons {s s' t : MemoryStore} {c : Command} {cs : List Command} {reply : Document}
      (hcounts : c.verb.isWrite = false)
      (hrun : s.run database c.document = (.ok (response (.ok reply)), s'))
      (herrors : reply.get? "writeErrors" = none) (hrest : Carries database s' cs t) :
      Carries database s (c :: cs) t

theorem sameSession_of_run [Host] {command : Document} {answer : Except StoreError Document}
    (hrun : s.run database command = (answer, t)) : SameSession s t := by
  have hsame := s.sameSession_run database command
  rwa [hrun] at hsame

theorem Carries.sameSession [Host] {cs : List Command} (h : Carries database s cs t) : SameSession s t := by
  induction h with
  | nil s => exact .refl s
  | cons _ hrun _ _ ih => exact (sameSession_of_run hrun).trans ih

/-- Commands are carried out in a transaction as they are without one. -/
theorem Carries.within [Host] {cs : List Command} (h : Carries database s cs t) (before : Databases)
    (honline : s.online = true) (hcommitting : s.standalone = false) :
    Carries database (within before s) cs (within before t) := by
  induction h with
  | nil s => exact .nil _
  | @cons s s' t c cs reply hcounts hrun herrors _ ih =>
    have hsame := sameSession_of_run hrun
    have hwithin : (MemoryStore.within before s).run database c.document = _ :=
      run_within honline hcommitting database c.document
    rw [hrun] at hwithin
    exact .cons hcounts hwithin herrors
      (ih (hsame.online.trans honline) (hsame.standalone.trans hcommitting))

end MemoryStore

namespace Gateway

open Execution MemoryStore

variable {database : String} {s t : MemoryStore}

/-! ### Statements -/

theorem check_response {reply : Document} (h : reply.get? "writeErrors" = none) (verb : String) :
    Response.check verb (response (.ok reply)) = .ok () := by
  have herrors : (response (.ok reply)).get? "writeErrors" = none := by
    rw [response, Fields.get?_set, if_neg (by decide), h]
  rw [Response.check, succeeded?_response, herrors]

theorem ends_runCommands [Host] {cs : List Command} {r : Run MemoryStore}
    (h : Carries database r.store cs t) (affected : Int64) :
    Ends (runCommands store database affected cs) r (.ok affected) { r with store := t } := by
  generalize hs : r.store = s at h
  induction h generalizing r with
  | nil s =>
    subst hs
    exact ends_pure.mpr ⟨rfl, rfl⟩
  | @cons s s' t c cs reply hcounts hrun herrors _ ih =>
    subst hs
    have hchecked : checked c.verb.name (.ok (response (.ok reply))) =
        .ok (response (.ok reply)) := by
      rw [checked_ok, check_response herrors]
      rfl
    refine ends_bind.mpr (.inl ⟨_, _, ends_dispatch hrun hchecked, ?_⟩)
    rw [hcounts]
    exact ih (r := { r with store := s' }) rfl

/-- The row of a statement that defines something. -/
def definedRow : Row := [(affectedRows, .long 0)]

theorem ends_perform [Host] {plan : Plan} (hshape : plan.shape = .definition) {r : Run MemoryStore}
    (h : Carries database r.store plan.commands t) :
    Ends (perform store database plan) r (.ok [definedRow]) { r with store := t } := by
  have hperform : perform store database plan =
      (fun row => [row]) <$> runWrites store database plan := by
    unfold perform
    rw [hshape]
  rw [hperform, map_eq_pure_bind, runWrites]
  refine ends_bind.mpr (.inl ⟨definedRow, _, ?_, ends_pure.mpr ⟨rfl, rfl⟩⟩)
  refine ends_bind.mpr (.inl ⟨_, _, ends_runCommands h 0, ?_⟩)
  dsimp only
  rw [hshape, if_neg (by decide)]
  exact ends_pure.mpr ⟨rfl, rfl⟩

theorem ends_prepare [Host] {id : ObjectId} {tree : QueryTree} {plan : Plan}
    (hplan : Plan.ofTree id tree = .ok plan) (huncounted : plan.autoIncrement = none)
    (r : Run MemoryStore) :
    Ends (prepare store database id tree) r (.ok plan)
      { r with progress := r.progress.enter .planning } := by
  refine ends_bind_enter.mpr (ends_bind.mpr (.inl ⟨plan, _, ends_lift.mpr ⟨hplan.symm, rfl⟩, ?_⟩))
  rw [withKey, huncounted]
  exact ends_pure.mpr ⟨rfl, rfl⟩

theorem ends_openTransaction [Host] {r : Run MemoryStore} (h : r.store.AtRest) :
    Ends (openTransaction store) r (.ok ())
      { r with
        store := within r.store.databases r.store
        progress := r.progress.enter .transactionStart
        ownsTransaction := true } := by
  have hidle : store.inTransaction r.store = false := h.idle
  have hstart : store.startTransaction r.store = (.ok (), within r.store.databases r.store) :=
    startTransaction_of_idle h.online h.idle
  rw [Ends, run_openTransaction, hidle, hstart]
  rfl

theorem ends_closeTransaction [Host] {r : Run MemoryStore} {before : Databases} (h : t.AtRest)
    (hr : r.store = within before t) (howns : r.ownsTransaction = true) :
    Ends (closeTransaction store) r (.ok ())
      { r with store := t, progress := r.progress.enter .commit, ownsTransaction := false } := by
  have hclosed : { t with snapshot := none, transactionActive := false } = t := by
    rw [← h.snapshot, ← show t.transactionActive = false from h.idle]
  have hcommit : store.commitTransaction r.store = (.ok (), t) := by
    rw [hr, ← hclosed]
    exact commitTransaction_within h.online h.committing
  rw [Ends, run_closeTransaction, howns, hcommit]
  rfl

/-- A statement whose commands are carried out one after another succeeds and leaves the store as
they do. -/
theorem execute_of_carries [Host] (hs : s.AtRest) {id : ObjectId} {tree : QueryTree} {plan : Plan}
    (hplan : Plan.ofTree id tree = .ok plan) (hshape : plan.shape = .definition)
    (huncounted : plan.autoIncrement = none) (h : Carries database s plan.commands t) :
    ∃ r, execute store database id tree true s = some (.ok [definedRow], r) ∧ r.store = t := by
  have ht : t.AtRest := hs.of_sameSession h.sameSession
  have hwithin := h.within s.databases hs.online hs.committing
  let r₁ : Run MemoryStore := { store := s, progress := Progress.start.enter .planning }
  let r₂ : Run MemoryStore :=
    { r₁ with
      store := within s.databases s
      progress := (r₁.progress.enter .transactionStart).enter .executing
      ownsTransaction := true }
  have hends : Ends (runTree store database id tree true) { store := s } (.ok [definedRow])
      { r₂ with store := t, progress := r₂.progress.enter .commit, ownsTransaction := false } := by
    rw [runTree_eq]
    refine ends_bind_ok.mpr ⟨plan, r₁, ends_prepare hplan huncounted _, ?_⟩
    refine ends_bind_ok.mpr ⟨(), _, ends_openTransaction hs, ends_bind_enter.mpr ?_⟩
    refine ends_bind_ok.mpr ⟨_, _, ends_perform (r := r₂) hshape hwithin, ?_⟩
    exact ends_bind_ok.mpr ⟨(), _, ends_closeTransaction ht rfl rfl, ends_pure.mpr ⟨rfl, rfl⟩⟩
  exact ⟨_, execute_of_ends hends, settle_store_of_not_owned (.inl rfl)⟩

/-! ### Dropping and creating -/

/-- Whether a statement that commits by itself succeeds and takes a store to another state. -/
def Succeeds [Host] (database : String) (statement : Statement) (s t : MemoryStore) : Prop :=
  ∀ id, ∃ rows r, execute store database id (.document statement) true s = some (.ok rows, r) ∧
    r.store = t

theorem succeeds_of_carries [Host] (hs : s.AtRest) {statement : Statement} {plan : Plan}
    (hplan : ∀ id, Plan.ofStatement id statement = .ok plan) (hshape : plan.shape = .definition)
    (huncounted : plan.autoIncrement = none) (h : Carries database s plan.commands t) :
    Succeeds database statement s t := fun id =>
  have htree : Plan.ofTree id (.document statement) = .ok plan := hplan id
  have ⟨r, hexecute, hr⟩ := execute_of_carries hs htree hshape huncounted h
  ⟨_, r, hexecute, hr⟩

theorem succeeds_drop [Host] (hs : s.AtRest) (database name : String) :
    Succeeds database (.drop name) s (s.withDatabases (s.databases.without database name)) := by
  obtain ⟨reply, herrors, hdrop⟩ := s.databases.drop_of_drop database name
  have hdispatch : s.dispatch database "drop" (Command.of .drop name).document =
      s.changed (s.databases.without database name, .ok reply) := congrArg s.changed hdrop
  have hrun := run_of_dispatch hs.serving (Command.headed_of .drop name) hdispatch
  exact succeeds_of_carries hs (fun _ => rfl) rfl rfl (.cons rfl hrun herrors (.nil _))

theorem carries_createIndexes [Host] (hs : s.AtRest) (dbs : Databases) (database name : String)
    (columns : List String) :
    Carries database (s.withDatabases (dbs.putCollection database name .new))
      (Plan.createIndexes name columns)
      (s.withDatabases (dbs.putCollection database name (.backed name columns.eraseDups))) := by
  cases hcolumns : columns.isEmpty with
  | true =>
    rw [List.isEmpty_iff.mp hcolumns]
    exact .nil _
  | false =>
    have hnew : (dbs.putCollection database name .new).collection? database name = some .new := by
      rw [Databases.collection?_putCollection, if_pos ⟨rfl, rfl⟩]
    obtain ⟨c, reply, hcommands, hheaded, hverb, herrors, hcreate⟩ :=
      (dbs.putCollection database name .new).createIndexes_of_ne_nil database name hnew hcolumns
    rw [Databases.putCollection_putCollection] at hcreate
    rw [hcommands]
    have hdispatch : (s.withDatabases (dbs.putCollection database name .new)).dispatch database
        c.verb.name c.document = (s.withDatabases (dbs.putCollection database name .new)).changed
          (dbs.putCollection database name (.backed name columns.eraseDups), .ok reply) := by
      rw [hverb]
      exact congrArg (changed _) hcreate
    have hserving : (s.withDatabases (dbs.putCollection database name .new)).Serving := hs.serving
    exact .cons (by rw [hverb]; rfl) (run_of_dispatch hserving hheaded hdispatch) herrors (.nil _)

theorem succeeds_create [Host] (hs : s.AtRest) {database name : String}
    (hnone : s.databases.collection? database name = none) (columns : List ColumnDef) :
    Succeeds database (.create name columns) s (s.withDatabases
      (s.databases.putCollection database name
        (.backed name (Plan.indexedNames columns).eraseDups))) := by
  have hdispatch : s.dispatch database "create" (Command.of .create name).document =
      s.changed (s.databases.putCollection database name .new, .ok []) :=
    congrArg s.changed (s.databases.create_of_create database name hnone)
  have hrun := run_of_dispatch hs.serving (Command.headed_of .create name) hdispatch
  exact succeeds_of_carries hs (fun _ => rfl) rfl rfl
    (.cons rfl hrun rfl (carries_createIndexes hs _ _ _ _))

/-- Dropping a collection and creating it succeeds in every state of a store at rest. It leaves the
collection empty, with the identity index and then one unique index for each backed column in the
order of first mention, and nothing else changed; doing both again changes nothing. -/
theorem exists_recreated [Host] {s : MemoryStore} (hs : s.Reachable) (honline : s.online = true)
    (hcommitting : s.standalone = false) (hidle : s.inTransaction = false) (database name : String)
    (columns : List ColumnDef) :
    ∃ dropped t, Succeeds database (.drop name) s dropped ∧
      Succeeds database (.create name columns) dropped t ∧
      t.databases.collection? database name = some
        { documents := []
          indexes := ⟨"_id_", [("_id", .int 1)], true⟩ ::
            ((columns.filter (·.isIndexed)).map (·.name)).eraseDups.map fun column =>
              ⟨name ++ "_" ++ column ++ "_puk", [(column, .int 1)], true⟩ } ∧
      (∀ db n, ¬(db = database ∧ n = name) →
        t.databases.collection? db n = s.databases.collection? db n) ∧
      ∃ again, Succeeds database (.drop name) t again ∧
        Succeeds database (.create name columns) again t := by
  let c : Collection := .backed name (Plan.indexedNames columns).eraseDups
  let t := s.withDatabases (s.databases.renewed database name c)
  have hboth (u : MemoryStore) (hu : u.AtRest) : ∃ dropped, Succeeds database (.drop name) u dropped ∧
      Succeeds database (.create name columns) dropped
        (u.withDatabases (u.databases.renewed database name c)) := by
    have hdropped : (u.withDatabases (u.databases.without database name)).AtRest :=
      ⟨hu.online, hu.committing, hu.idle, hu.snapshot⟩
    have hcreate := succeeds_create hdropped (u.databases.collection?_without database name) columns
    rw [show (u.withDatabases (u.databases.without database name)).databases =
      u.databases.without database name from rfl, Databases.putCollection_without] at hcreate
    exact ⟨_, succeeds_drop hu database name, hcreate⟩
  have hrest := atRest_of_reachable hs honline hcommitting hidle
  obtain ⟨dropped, hdrop, hcreate⟩ := hboth s hrest
  obtain ⟨again, hdrop', hcreate'⟩ :=
    hboth t ⟨hrest.online, hrest.committing, hrest.idle, hrest.snapshot⟩
  have hsame : t.withDatabases (t.databases.renewed database name c) = t :=
    congrArg s.withDatabases (s.databases.renewed_renewed database name c c)
  refine ⟨dropped, t, hdrop, hcreate, ?_, fun db n hne => ?_, again, hdrop', hsame ▸ hcreate'⟩
  · exact (s.databases.collection?_renewed database name c database name).trans
      (if_pos ⟨rfl, rfl⟩)
  · exact (s.databases.collection?_renewed database name c db n).trans (if_neg hne)

/-- A collection with a document is made anew with a column that is backed twice. -/
theorem exists_recreated_repeated :
    let s := holding "t" [[("_id", .int 1), ("a", .int 7)]]
    let columns : List ColumnDef :=
      [{ name := "a", constraints := [.primaryKey] }, { name := "b" },
        { name := "a", constraints := [.unique] }, { name := "c", constraints := [.notNull, .unique] }]
    s.online = true ∧ s.standalone = false ∧ s.inTransaction = false ∧
      s.databases.documents "app" "t" = [[("_id", .int 1), ("a", .int 7)]] ∧
      ∃ dropped t, Succeeds "app" (.drop "t") s dropped ∧
        Succeeds "app" (.create "t" columns) dropped t ∧
        t.databases.documents "app" "t" = [] ∧ t.indexNames "app" "t" = ["_id_", "t_a_puk", "t_c_puk"] ∧
        ∃ again, Succeeds "app" (.drop "t") t again ∧ Succeeds "app" (.create "t" columns) again t := by
  intro s columns
  obtain ⟨dropped, t, hdrop, hcreate, hcollection, -, hagain⟩ :=
    exists_recreated (reachable_holding "t" _) rfl rfl rfl "app" "t" columns
  refine ⟨rfl, rfl, rfl, rfl, dropped, t, hdrop, hcreate, ?_, ?_, hagain⟩
  · rw [Databases.documents, hcollection]
    rfl
  · rw [indexNames, hcollection]
    decide

end Gateway

end SqlGateway
