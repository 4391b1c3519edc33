import SqlGateway.Execution.Gateway
import SqlGateway.Proofs.Execution.Fetching
import SqlGateway.Proofs.Execution.Steps

/-! A statement that commits by itself is carried out as a whole or not at all. Up to
the start of its transaction only reading is done; from then on the snapshot is what the
databases were, whatever commands do; and a run that fails brings the snapshot back. -/

namespace SqlGateway.Gateway

attribute [local instance] Host.universal

open Execution MemoryStore

variable {database : String} {φ : MemoryStore → Prop} {owns : Bool}

/-! ### Statements -/

theorem keeps_ofCollection [Host] (hφ : CommandsKeep database φ) (collection : String) (isJoined : Bool)
    (types : TypeMap) (cs : List ProbeColumn) :
    Keeps (Holds φ owns)
      (Typing.ofCollection (fetch store database) collection isJoined types cs) := by
  rw [Typing.ofCollection]
  split
  · exact .pure types
  · refine .bind (keeps_fetch hφ.reading (Command.headed_aggregate _ _)) fun answers => ?_
    split
    · exact .lift _
    · split
      · exact .pure _
      · exact .throw _

theorem keeps_infer [Host] (hφ : CommandsKeep database φ) (t : ProbeTarget) (sample : Document) :
    Keeps (Holds φ owns) (Typing.infer (fetch store database) t sample) := by
  rw [Typing.infer]
  dsimp only
  refine .bind (keeps_ofCollection hφ _ _ _ _) fun types => ?_
  split
  · exact keeps_ofCollection hφ _ _ _ _
  · exact .pure types

theorem keeps_runSelect [Host] (hφ : CommandsKeep database φ) {p : Plan} (hp : p.Headed)
    (strategy : Strategy) : Keeps (Holds φ owns) (runSelect store database p strategy) := by
  unfold runSelect
  split
  · refine .bind_lift fun c hc => .bind (keeps_respond _ fun s => hφ.run s _) fun answer => ?_
    refine .bind (keeps_enter _) fun _ => .bind (.lift _) fun vs => .mapM (fun v => ?_) vs
    exact .bind (.lift _) fun cell => .pure _
  · refine .bind_lift fun c hc => ?_
    refine .bind (keeps_fetch hφ.reading (headed_singleCommand hp hc)) fun docs => ?_
    split
    · exact .pure []
    · refine .bind (keeps_enter _) fun _ => ?_
      split
      · exact .throw _
      · refine .bind (keeps_infer hφ _ _) fun types => .bind (keeps_enter _) fun _ => ?_
        exact .lift _

theorem keeps_runCommands [Host] (hφ : CommandsKeep database φ) (affected : Int64) (cs : List Command) :
    Keeps (Holds φ owns) (runCommands store database affected cs) := by
  induction cs generalizing affected with
  | nil => exact .pure affected
  | cons c cs ih => exact .bind (keeps_respond _ fun s => hφ.run s _) fun response => ih _

theorem keeps_runWrites [Host] (hφ : CommandsKeep database φ) (p : Plan) :
    Keeps (Holds φ owns) (runWrites store database p) := by
  refine .bind (keeps_runCommands hφ 0 p.commands) fun affected => ?_
  dsimp only
  split
  · exact .bind (Leads.get fun _ => id) fun r => .pure _
  · exact .pure _

/-! ### Transactions -/

/-- Whether no transaction is open in a store that holds given databases. -/
structure Idle (dbs : Databases) (s : MemoryStore) : Prop where
  sound : s.Sound
  databases : s.databases = dbs
  inactive : s.transactionActive = false
  online : s.online = true

/-- Whether the transaction of a store was opened when it held given databases. -/
structure Opened (dbs : Databases) (s : MemoryStore) : Prop where
  sound : s.Sound
  snapshot : s.snapshot = some dbs
  active : s.transactionActive = true
  online : s.online = true

variable {dbs : Databases}

theorem readingKeeps_idle [Host] : ReadingKeeps database (Idle dbs) where
  sound _ hs := hs.sound
  run s verb v rest hverb hs :=
    have hsame := s.sameSession_run database ((verb, v) :: rest)
    { sound := hs.sound.run database _
      databases := (s.databases_run_reading database hverb v rest).trans hs.databases
      inactive := hsame.transactionActive.trans hs.inactive
      online := hsame.online.trans hs.online }

theorem commandsKeep_opened [Host] : CommandsKeep database (Opened dbs) where
  sound _ hs := hs.sound
  run s command hs :=
    have hsame := s.sameSession_run database command
    { sound := hs.sound.run database command
      snapshot := hsame.snapshot.trans hs.snapshot
      active := hsame.transactionActive.trans hs.active
      online := hsame.online.trans hs.online }

theorem leads_openTransaction [Host] {E : Run MemoryStore → Prop} :
    Leads (Holds (Idle dbs) false) (openTransaction store) (fun _ => Holds (Opened dbs) true) E := by
  refine .bind_get fun r₀ => ?_
  have hstart (s : MemoryStore) (hs : Idle dbs s) :
      s.startTransaction = (.ok (), { s with snapshot := some dbs, transactionActive := true }) := by
    rw [startTransaction, inTransaction, hs.online, hs.inactive, hs.databases]
    rfl
  split
  · refine .bind (R := fun _ => Holds (Idle dbs) false) (.enter fun r hr => hr.2) fun _ => ?_
    refine .bind (R := fun _ r => Opened dbs r.store) (.call ?_ ?_) fun _ => ?_
    · rintro r ⟨⟩ hr -
      change Opened dbs r.store.startTransaction.2
      have hsound := hr.1.sound.startTransaction
      rw [hstart r.store hr.1] at hsound ⊢
      exact ⟨hsound, rfl, rfl, hr.1.online⟩
    · intro r e hr herror
      change r.store.startTransaction.1 = .error e at herror
      rw [hstart r.store hr.1] at herror
      cases herror
    · exact .modify fun r hr => ⟨hr, rfl⟩
  · next hopen =>
    rintro r ⟨rfl, hr⟩
    exact absurd hr.1.inactive (by simpa [store, inTransaction] using hopen)

theorem leads_closeTransaction [Host] :
    Leads (Holds (Opened dbs) true) (closeTransaction store)
      (fun _ r => r.store.inTransaction = false) (Holds (Opened dbs) true) := by
  refine .bind_get fun r₀ => ?_
  split
  · refine .bind (R := fun _ => Holds (Opened dbs) true) (.enter fun r hr => hr.2) fun _ => ?_
    refine .bind (R := fun _ r => r.store.inTransaction = false) (.call ?_ ?_) fun _ => ?_
    · rintro r ⟨⟩ hr hcommit
      exact inTransaction_of_commit hcommit
    · intro r e hr herror
      refine ⟨?_, hr.2⟩
      change Opened dbs r.store.commitTransaction.2
      rw [commitTransaction_of_error herror]
      exact hr.1
    · exact .modify fun r => id
  · next hopen =>
    rintro r ⟨rfl, hr⟩
    exact absurd hr.2 hopen

/-! ### Whole runs -/

theorem keeps_sampleNextKey [Host] (c : CountedColumn) :
    Keeps (Holds (Idle dbs) false) (sampleNextKey store database c) := by
  refine .bind_lift fun plan hplan => .bind_lift fun command hcommand => ?_
  have hheaded := headed_singleCommand (Plan.headed_ofSelect hplan) hcommand
  exact .bind (keeps_fetch readingKeeps_idle hheaded) fun docs => .lift _

theorem leads_withKey [Host] {p : Plan} (hp : p.Headed) :
    Leads (Holds (Idle dbs) false) (withKey store database p)
      (fun p' r => p'.Headed ∧ Holds (Idle dbs) false r) (Holds (Idle dbs) false) := by
  rw [withKey]
  split
  · exact .pure fun r hr => ⟨hp, hr⟩
  · refine .bind (keeps_enter _) fun _ => .bind (keeps_sampleNextKey _) fun key => ?_
    refine .bind (R := fun _ => Holds (Idle dbs) false) (.modify fun r => id) fun _ => ?_
    refine .pure fun r hr => ⟨fun c hc => ?_, hr⟩
    obtain ⟨c', hc', rfl⟩ := List.mem_map.mp hc
    exact (hp c' hc').setInserted _ _

/-- A statement that is run in the transaction of its run. -/
theorem leads_statement [Host] {plan : Plan} (hplan : plan.Headed) :
    Leads (Holds (Opened dbs) true)
      (do
        enter .executing
        let rows ← match plan.shape with
          | .select strategy => runSelect store database plan strategy
          | _ => (fun row => [row]) <$> runWrites store database plan
        closeTransaction store
        return rows)
      (fun _ r => r.store.inTransaction = false) (Holds (Opened dbs) true) := by
  have hclose (rows : List Row) :
      Leads (Holds (Opened dbs) true) (do closeTransaction store; return rows)
        (fun _ r => r.store.inTransaction = false) (Holds (Opened dbs) true) :=
    .bind leads_closeTransaction fun _ => .pure fun _ hr => hr
  refine .bind (keeps_enter _) fun _ => ?_
  dsimp only
  split
  · exact .bind (keeps_runSelect commandsKeep_opened hplan _) hclose
  · exact .bind (.map (keeps_runWrites commandsKeep_opened plan) fun _ _ hr => hr) hclose

/-- A run that commits by itself ends without a transaction, or it fails before its transaction is
open or while it is. -/
theorem leads_runTree [Host] (id : ObjectId) (t : QueryTree) :
    Leads (Holds (Idle dbs) false) (runTree store database id t true)
      (fun _ r => r.store.inTransaction = false)
      (fun r => Holds (Idle dbs) false r ∨ Holds (Opened dbs) true r) := by
  refine .bind (R := fun _ => Holds (Idle dbs) false) (.enter fun r hr => hr) fun _ => ?_
  refine .bind_lift (fun p hp => ?_) fun r => .inl
  refine .bind (R := fun plan r => Plan.Headed plan ∧ Holds (Idle dbs) false r) ?_ fun plan => ?_
  · have hheaded := Plan.headed_ofTree hp
    exact (leads_withKey hheaded).weaken (fun _ hr => hr) (fun _ _ hr => hr) fun _ => .inl
  intro r ⟨hplan, hr⟩
  refine Leads.bind (P := Holds (Idle dbs) false) leads_openTransaction (fun _ => ?_) r hr
  exact (leads_statement hplan).weaken (fun _ hr => hr) (fun _ _ hr => hr) fun _ => .inr

/-- A failed run brings the databases back. -/
theorem settle_restores [Host] {r : Run MemoryStore}
    (hr : Holds (Idle dbs) false r ∨ Holds (Opened dbs) true r) :
    (settle store true r).store.inTransaction = false ∧
      (settle store true r).store.databases = dbs := by
  rcases hr with ⟨hidle, howns⟩ | ⟨hopen, howns⟩
  · have hstore : (settle store true r).store = r.store := by
      rw [settle, howns]
      rfl
    rw [hstore]
    exact ⟨hidle.inactive, hidle.databases⟩
  · have hstore : (settle store true r).store = r.store.abortTransaction.2 := by
      have hactive : store.inTransaction r.store = true := hopen.active
      rw [settle, howns, hactive]
      rfl
    have habort : r.store.abortTransaction.2 =
        { r.store with databases := dbs, snapshot := none, transactionActive := false } := by
      rw [abortTransaction, inTransaction, hopen.active, hopen.snapshot]
      rfl
    rw [hstore, habort]
    exact ⟨rfl, rfl⟩

/-- A statement that commits by itself has an outcome in every state of a store that is online and
has no transaction open; it leaves none open, and if it fails the databases are what they were. -/
theorem execute_all_or_nothing [Host] {s : MemoryStore} (hs : s.Reachable) (honline : s.online = true)
    (hidle : s.inTransaction = false) (database : String) (id : ObjectId) (t : QueryTree) :
    ∃ result r, execute store database id t true s = some (result, r) ∧
      r.store.inTransaction = false ∧
        ∀ e, result = .error e → r.store.databases = s.databases := by
  have hbefore : Holds (Idle s.databases) false ({ store := s } : Run MemoryStore) :=
    ⟨⟨sound_of_reachable hs, rfl, hidle, honline⟩, rfl⟩
  obtain ⟨result, r, hrun, houtcome⟩ := leads_runTree id t _ hbefore
  refine ⟨result, _, by rw [execute, hrun]; rfl, ?_⟩
  cases result with
  | ok rows => exact ⟨houtcome, nofun⟩
  | error e =>
    obtain ⟨hclosed, hrestored⟩ := settle_restores houtcome
    exact ⟨hclosed, fun _ _ => hrestored⟩

/-- Emptying a collection of a store that can open a transaction but never commit it. -/
theorem execute_all_or_nothing_standalone :
    let s := (({ MemoryStore.new true with latency := 0, ids := .numbered }.withBatchSize 2).run "app"
      [("insert", .string "t"), ("documents", .array [.document [("_id", .int 1)]])]).2
    s.databases.documents "app" "t" = [[("_id", .int 1)]] ∧
      ∃ result r, execute store "app" default (.document (.truncate "t")) true s = some (result, r) ∧
        r.store.inTransaction = false ∧
          ∀ e, result = .error e → r.store.databases = s.databases := by
  intro s
  have hs : s.Reachable := .run _ _ (.new true 2 0 .numbered)
  exact ⟨rfl, execute_all_or_nothing hs rfl rfl "app" default (.document (.truncate "t"))⟩

end SqlGateway.Gateway
