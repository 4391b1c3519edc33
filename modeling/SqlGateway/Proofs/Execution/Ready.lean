import SqlGateway.Proofs.Execution.Leads
import SqlGateway.Proofs.Execution.Ownership
import SqlGateway.Proofs.Execution.Reading
import SqlGateway.Proofs.Store.Transactions

/-! Statements on a store in memory that serves them: it is online and can commit. What a
statement does is then what its plan does to the databases; opening and closing a transaction
around it never fails. -/

namespace SqlGateway.Execution

open MemoryStore

/-- Whether a run stands on a store that serves and holds given databases, with a key that has been
found. -/
structure Ready (dbs : Databases) (key : Option Int) (r : Run MemoryStore) : Prop where
  databases : r.store.databases = dbs
  online : r.store.online = true
  committing : r.store.standalone = false
  key : r.lastInsertId = key
  owned : r.ownsTransaction = true → r.store.inTransaction = true

variable {database : String} {dbs : Databases} {key : Option Int} {E : Run MemoryStore → Prop}

namespace Ready

/-- A run starts ready on a store that serves. -/
theorem start {s : MemoryStore} (honline : s.online = true) (hcommitting : s.standalone = false) :
    Ready s.databases none { store := s } :=
  ⟨rfl, honline, hcommitting, rfl, nofun⟩

variable {r : Run MemoryStore}

theorem serving (h : Ready dbs key r) : r.store.Serving := by
  rw [Serving, h.committing]
  exact ⟨h.online, rfl⟩

/-- What stays of a run whose store has run a command. -/
theorem run [Host] (h : Ready dbs key r) (command : Document) {dbs' : Databases}
    (hdbs : (r.store.run database command).2.databases = dbs') :
    Ready dbs' key { r with store := (r.store.run database command).2 } :=
  have hsame := r.store.sameSession_run database command
  { databases := hdbs
    online := hsame.online.trans h.online
    committing := hsame.standalone.trans h.committing
    key := h.key
    owned := fun howns => hsame.transactionActive.trans (h.owned howns) }

end Ready

theorem leads_enter (p : Phase) : Leads (Ready dbs key) (enter p) (fun _ => Ready dbs key) E :=
  .enter fun _ hr => ⟨hr.databases, hr.online, hr.committing, hr.key, hr.owned⟩

theorem leads_of_ends {σ α : Type} {x : Execution σ α} {r r' : Run σ}
    {outcome : Except GatewayError α} (h : Ends x r outcome r') {Q : α → Run σ → Prop}
    {E : Run σ → Prop}
    (hok : ∀ a, outcome = .ok a → Q a r') (herror : ∀ e, outcome = .error e → E r') :
    Leads (r = ·) x Q E := by
  rintro _ rfl
  refine ⟨outcome, r', h, ?_⟩
  cases outcome with
  | ok a => exact hok a rfl
  | error e => exact herror e rfl

/-! ### Commands -/

/-- A result of at most one document is read, and nothing else happens. -/
theorem leads_fetch [Host] {c : Command} (hheaded : c.Headed) (hcursor : c.verb.returnsCursor = true)
    {result : ResultSet}
    (hresult : dbs.retrieve c.verb.name database c.document = .ok result)
    (hshort : result.documents.length ≤ 1) :
    Leads (Ready dbs key) (fetch store database c)
      (fun docs r => docs = result.documents ∧ Ready dbs key r) E := by
  intro r hr
  have hends := ends_fetch_short hr.serving hheaded hcursor (hr.databases ▸ hresult) hshort
  exact ⟨_, r, hends, rfl, hr⟩

/-- A document is stored, unless another one has its key. -/
theorem leads_insert [Host] {c : Command} {name : String} {d : Document}
    (hdoc : c.document = Databases.insertOf name d) (hid : (Fields.get? d "_id").isSome)
    (hrefused : dbs.refusal? database name d ≠ none → ∀ r, E r) :
    Leads (Ready dbs key) (dispatch store database c)
      (fun response r => Response.affected? response = some 1 ∧
        Ready (dbs.appended database name d) key r) E := by
  intro r hr
  obtain ⟨hanswer, hstored⟩ := run_insertOf hr.serving database name hid
  rw [← hdoc, hr.databases] at hanswer hstored
  have hrun : r.store.run database c.document = (_, (r.store.run database c.document).2) :=
    Prod.ext hanswer rfl
  have hends := ends_dispatch hrun rfl
  refine ⟨_, _, hends, ?_⟩
  cases hrefusal : dbs.refusal? database name d with
  | none =>
    rw [checked_inserted]
    exact ⟨rfl, hr.run c.document (hstored hrefusal)⟩
  | some f =>
    obtain ⟨e, he⟩ := checked_refused c.verb.name f
    rw [he]
    exact hrefused (by rw [hrefusal]; nofun) _

open Gateway

/-- The row of a statement that has stored one document. -/
def insertedRow (key : Int64) : Row := [("AffectedRows", .long 1), ("LastInsertId", .long key)]

/-- What the carrying out of a plan does that stores one document. -/
theorem leads_perform_insert [Host] {plan : Plan} {c : Command} (hshape : plan.shape = .insert)
    (hcommands : plan.commands = [c]) (hverb : c.verb = .insert) {name : String} {d : Document}
    (hdoc : c.document = Databases.insertOf name d) (hid : (Fields.get? d "_id").isSome)
    (hrefused : dbs.refusal? database name d ≠ none → ∀ r, E r) :
    Leads (Ready dbs key) (perform store database plan)
      (fun rows r => rows = [insertedRow (Int64.ofInt (key.getD 0))] ∧
        Ready (dbs.appended database name d) key r) E := by
  have hcommand : Leads (Ready dbs key) (runCommands store database 0 [c])
      (fun n r => n = 1 ∧ Ready (dbs.appended database name d) key r) E := by
    refine .bind (leads_insert hdoc hid hrefused) fun response => ?_
    rintro r ⟨haffected, hr⟩
    have hcount : (!c.verb.isWrite || (0 : Int64) == unknownAffected) = false := by
      rw [hverb]
      decide
    rw [hcount, haffected]
    exact ⟨_, r, rfl, rfl, hr⟩
  have hwrites : Leads (Ready dbs key) (runWrites store database plan)
      (fun row r => row = insertedRow (Int64.ofInt (key.getD 0)) ∧
        Ready (dbs.appended database name d) key r) E := by
    rw [runWrites, hcommands]
    refine .bind hcommand fun n => ?_
    rintro r ⟨rfl, hr⟩
    rw [hshape, if_pos rfl]
    refine Leads.bind_get (P := Ready (dbs.appended database name d) key) (fun r₀ => ?_) r hr
    refine .pure fun r hr => ?_
    obtain ⟨rfl, hr⟩ := hr
    rw [hr.key]
    exact ⟨rfl, hr⟩
  have hperform : perform store database plan =
      (fun row => [row]) <$> runWrites store database plan := by
    unfold perform
    rw [hshape]
  rw [hperform]
  refine .map hwrites ?_
  rintro row r ⟨rfl, hr⟩
  exact ⟨rfl, hr⟩

/-! ### Whole statements -/

theorem Ready.leads_openTransaction [Host] :
    Leads (Ready dbs key) (openTransaction store) (fun _ => Ready dbs key) E := by
  intro r hr
  have hrun := run_openTransaction store r
  change _ = if r.store.inTransaction then _ else _ at hrun
  split at hrun
  · exact ⟨_, _, hrun, hr⟩
  · next hidle =>
    have hstart : store.startTransaction r.store = (.ok (), within r.store.databases r.store) :=
      startTransaction_of_idle hr.online (by simpa using hidle)
    rw [hstart] at hrun
    exact ⟨_, _, hrun, hr.databases, hr.online, hr.committing, hr.key, fun _ => rfl⟩

theorem Ready.leads_closeTransaction [Host] :
    Leads (Ready dbs key) (closeTransaction store) (fun _ => Ready dbs key) E := by
  intro r hr
  have hrun := run_closeTransaction store r
  split at hrun
  · next howns =>
    have hcommit : store.commitTransaction r.store =
        (.ok (), { r.store with snapshot := none, transactionActive := false }) :=
      commitTransaction_of_active hr.online (hr.owned howns) hr.committing
    rw [hcommit] at hrun
    exact ⟨_, _, hrun, hr.databases, hr.online, hr.committing, hr.key, nofun⟩
  · exact ⟨_, _, hrun, hr⟩

/-- What comes before and after the carrying out of a plan neither fails nor changes databases. -/
theorem Ready.leads_runTree [Host] {id : ObjectId} {t : QueryTree}
    {P : Run MemoryStore → Prop} {Q : List Row → Prop} {dbs' : Databases} {plan : Plan}
    (hprepare : Leads P (prepare store database id t) (fun p r => p = plan ∧ Ready dbs key r) E)
    (hperform : Leads (Ready dbs key) (perform store database plan)
      (fun rows r => Q rows ∧ Ready dbs' key r) E) (autoCommit : Bool) :
    Leads P (runTree store database id t autoCommit) (fun rows r => Q rows ∧ Ready dbs' key r) E := by
  have hrest : Leads (Ready dbs key) (do
      enter .executing
      let rows ← perform store database plan
      closeTransaction store
      return rows) (fun rows r => Q rows ∧ Ready dbs' key r) E := by
    refine .bind (leads_enter _) fun _ => .bind hperform fun rows => ?_
    rintro r ⟨hrows, hr⟩
    exact Leads.bind Ready.leads_closeTransaction (fun _ => .pure fun r hr => ⟨hrows, hr⟩) r hr
  rw [runTree_eq]
  refine .bind hprepare fun p => ?_
  rintro r ⟨rfl, hr⟩
  cases autoCommit with
  | false => exact hrest r hr
  | true => exact Leads.bind Ready.leads_openTransaction (fun _ => hrest) r hr

/-- A statement whose run leads somewhere has an outcome there. -/
theorem exists_execute [Host] {id : ObjectId} {t : QueryTree} {autoCommit : Bool} {s : MemoryStore}
    {Q : List Row → Run MemoryStore → Prop}
    (h : Leads (({ store := s } : Run MemoryStore) = ·) (runTree store database id t autoCommit) Q E) :
    ∃ result r r', execute store database id t autoCommit s = some (result, r) ∧
      match result with
      | .ok rows => Q rows r' ∧ r.store = r'.store
      | .error _ => E r' := by
  obtain ⟨result, r', hends, houtcome⟩ := h _ rfl
  refine ⟨result, _, r', execute_of_ends hends, ?_⟩
  cases result with
  | ok rows => exact ⟨houtcome, settle_store_of_not_owned (.inl rfl)⟩
  | error e => exact houtcome

/-- A statement without a counted column is planned, and nothing else happens. -/
theorem leads_prepare [Host] {id : ObjectId} {t : QueryTree} {plan : Plan}
    (hplan : Plan.ofTree id t = .ok plan) (huncounted : plan.autoIncrement = none) :
    Leads (Ready dbs key) (prepare store database id t)
      (fun p r => p = plan ∧ Ready dbs key r) E := by
  rw [prepare, hplan]
  refine .bind (leads_enter _) fun _ => .bind_ok ?_
  rw [withKey, huncounted]
  exact .pure fun r hr => ⟨rfl, hr⟩

/-- A statement whose plan leads to rows gives these rows. -/
theorem execute_of_leads [Host] {s : MemoryStore} (honline : s.online = true)
    (hcommitting : s.standalone = false) {id : ObjectId} {t : QueryTree} {plan : Plan}
    {rows : List Row} {dbs : Databases} (hplan : Plan.ofTree id t = .ok plan)
    (huncounted : plan.autoIncrement = none)
    (hperform : Leads (Ready s.databases none) (perform store database plan)
      (fun result r => result = rows ∧ Ready dbs none r) fun _ => False) (autoCommit : Bool) :
    ∃ r, execute store database id t autoCommit s = some (.ok rows, r) ∧
      r.store.databases = dbs ∧ r.store.online = true ∧ r.store.standalone = false := by
  have hprepare : Leads (({ store := s } : Run MemoryStore) = ·) (prepare store database id t)
      (fun p r => p = plan ∧ Ready s.databases none r) (fun _ => False) := by
    refine (leads_prepare hplan huncounted).weaken ?_ (fun _ _ hr => hr) fun _ hr => hr
    rintro _ rfl
    exact .start honline hcommitting
  obtain ⟨result, r, r', hexecute, houtcome⟩ :=
    exists_execute (Ready.leads_runTree hprepare hperform autoCommit)
  cases result with
  | error e => exact houtcome.elim
  | ok result =>
    obtain ⟨⟨rfl, hready⟩, hstore⟩ := houtcome
    refine ⟨r, hexecute, ?_⟩
    rw [hstore]
    exact ⟨hready.databases, hready.online, hready.committing⟩

end SqlGateway.Execution
