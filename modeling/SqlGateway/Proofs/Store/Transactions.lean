import SqlGateway.Proofs.Store.Invariant

/-! Transactions of a store in memory. Commands act on the databases and never on the snapshot, so
that aborting brings back what there was. A transaction changes nothing about what commands answer
and do, so that committing leaves what they would have left without one; but a store without
transactions carries nothing out in one and never commits it. -/

namespace SqlGateway.MemoryStore

attribute [local instance] Host.universal

/-! ### Inside a transaction -/

/-- A store in a transaction that was opened when it held given databases. -/
def within (before : Databases) (s : MemoryStore) : MemoryStore :=
  { s with snapshot := some before, transactionActive := true }

theorem startTransaction_of_idle {s : MemoryStore} (honline : s.online = true)
    (hidle : s.inTransaction = false) :
    s.startTransaction = (.ok (), within s.databases s) := by
  rw [startTransaction, if_neg (by simp [honline]), if_neg (by simp [hidle])]
  rfl

theorem commitTransaction_of_active {s : MemoryStore} (honline : s.online = true)
    (hactive : s.inTransaction = true) (hstandalone : s.standalone = false) :
    s.commitTransaction = (.ok (), { s with snapshot := none, transactionActive := false }) := by
  rw [commitTransaction, if_neg (by simp [honline]), if_neg (by simp [hactive]),
    if_neg (by simp [hstandalone])]

theorem commitTransaction_within {before : Databases} {s : MemoryStore} (honline : s.online = true)
    (hstandalone : s.standalone = false) :
    (within before s).commitTransaction =
      (.ok (), { s with snapshot := none, transactionActive := false }) :=
  commitTransaction_of_active honline rfl hstandalone

theorem commitTransaction_standalone {before : Databases} {s : MemoryStore}
    (honline : s.online = true) (hstandalone : s.standalone = true) :
    (within before s).commitTransaction =
      (.error (.transaction noTransactions), within before s) := by
  unfold commitTransaction inTransaction within
  simp only [honline, hstandalone]
  rfl

/-! ### Commands in a transaction -/

variable (before : Databases) (s : MemoryStore)

theorem opened_within (result : Except CommandFailure ResultSet) :
    (within before s).opened result = ((s.opened result).1.within before, (s.opened result).2) := by
  cases result with
  | error f => rfl
  | ok r =>
    unfold opened openCursor within
    dsimp only
    split <;> rfl

theorem getMore_within (command : Document) :
    (within before s).getMore command =
      ((s.getMore command).1.within before, (s.getMore command).2) := by
  have hparts : (within before s).moreParts command = s.moreParts command := rfl
  unfold getMore
  rw [hparts]
  split
  · rfl
  · dsimp only
    split <;> rfl

theorem dispatch_within [Host] (database verb : String) (command : Document) :
    (within before s).dispatch database verb command =
      ((s.dispatch database verb command).1.within before,
        (s.dispatch database verb command).2) := by
  unfold dispatch
  split
  case h_9 => exact opened_within before s _
  case h_10 => exact opened_within before s _
  case h_12 => exact getMore_within before s command
  all_goals rfl

variable {before s}

/-- A command does in a transaction what it does without one. -/
theorem run_within [Host] (honline : s.online = true) (hstandalone : s.standalone = false)
    (database : String) (command : Document) :
    (within before s).run database command =
      ((s.run database command).1, (s.run database command).2.within before) := by
  have hserving : s.Serving := ⟨honline, by rw [hstandalone]; rfl⟩
  have hwithin : (within before s).Serving := ⟨honline, congrArg (· && true) hstandalone⟩
  rcases command with _ | ⟨⟨verb, v⟩, rest⟩
  · have hnil (t : MemoryStore) (ht : t.online = true) :
        t.run database [] = (.error (.malformed "empty command document"), t) := by
      rw [run.eq_def, if_neg (by simp [ht])]
    rw [hnil s honline, hnil (within before s) honline]
  · rw [run_of_serving hwithin, run_of_serving hserving, dispatch_within]

/-- What a store without transactions answers in one. -/
def refused (command : Document) : Except StoreError Document :=
  if command.isEmpty then .error (.malformed "empty command document")
  else .ok (CommandFailure.illegalOperation noTransactions).toResponse

/-- A store without transactions carries nothing out in one. -/
theorem run_standalone [Host] (honline : s.online = true) (hstandalone : s.standalone = true)
    (database : String) (command : Document) :
    (within before s).run database command = (refused command, within before s) := by
  have hrefused : ((within before s).standalone && (within before s).inTransaction) = true :=
    congrArg (· && true) hstandalone
  have hswitched : ¬(!(within before s).online) = true := by simp [within, honline]
  rw [run.eq_def, if_neg hswitched]
  rcases command with _ | ⟨⟨verb, v⟩, rest⟩
  · rfl
  · dsimp only
    rw [if_pos hrefused]
    rfl

/-! ### Commands one after another -/

/-- The answers to commands that are run one after another, each on its database, and the state
after them. -/
def runEach [Host] (s : MemoryStore) :
    List (String × Document) → List (Except StoreError Document) × MemoryStore
  | [] => ([], s)
  | (database, command) :: calls =>
    let (answer, s) := s.run database command
    let (answers, s) := s.runEach calls
    (answer :: answers, s)

theorem sameSession_runEach [Host] (s : MemoryStore) (calls : List (String × Document)) :
    SameSession s (s.runEach calls).2 := by
  induction calls generalizing s with
  | nil => exact .refl s
  | cons call calls ih =>
    exact (s.sameSession_run call.1 call.2).trans (ih (s.run call.1 call.2).2)

theorem runEach_within [Host] (honline : s.online = true) (hstandalone : s.standalone = false)
    (calls : List (String × Document)) :
    (within before s).runEach calls =
      ((s.runEach calls).1, (s.runEach calls).2.within before) := by
  induction calls generalizing s with
  | nil => rfl
  | cons call calls ih =>
    have hsame := s.sameSession_run call.1 call.2
    rw [runEach, run_within honline hstandalone]
    dsimp only
    rw [ih (hsame.online.trans honline) (hsame.standalone.trans hstandalone)]
    rfl

theorem runEach_standalone [Host] (honline : s.online = true) (hstandalone : s.standalone = true)
    (calls : List (String × Document)) :
    (within before s).runEach calls = (calls.map fun c => refused c.2, within before s) := by
  induction calls with
  | nil => rfl
  | cons call calls ih =>
    rw [runEach, run_standalone honline hstandalone]
    dsimp only
    rw [ih]
    rfl

/-! ### Whole transactions -/

/-- A transaction that is aborted leaves the databases as they were. One that is committed leaves
the store as its commands without a transaction would, and answers them the same. A store without
transactions refuses every command in one and stays as it is, and only aborting ends it. -/
theorem transaction_snapshot [Host] {s : MemoryStore} (hs : s.Reachable) (honline : s.online = true)
    (hidle : s.inTransaction = false) (calls : List (String × Document)) :
    s.startTransaction.1 = .ok () ∧
    ((s.startTransaction.2.runEach calls).2.abortTransaction.1 = .ok () ∧
      (s.startTransaction.2.runEach calls).2.abortTransaction.2.databases = s.databases) ∧
    (s.standalone = false →
      (s.startTransaction.2.runEach calls).1 = (s.runEach calls).1 ∧
      (s.startTransaction.2.runEach calls).2.commitTransaction = (.ok (), (s.runEach calls).2)) ∧
    (s.standalone = true →
      (s.startTransaction.2.runEach calls).1 =
        calls.map (fun (_, command) =>
          if command.isEmpty then .error (.malformed "empty command document")
          else .ok [("ok", .ofFloat 0.0),
            ("errmsg", .string
              "Transaction numbers are only allowed on a replica set member or mongos"),
            ("code", .int 20), ("codeName", .string "IllegalOperation")]) ∧
      (s.startTransaction.2.runEach calls).2 = s.startTransaction.2 ∧
      s.startTransaction.2.databases = s.databases ∧
      (∃ e, s.startTransaction.2.commitTransaction = (.error e, s.startTransaction.2)) ∧
      s.startTransaction.2.inTransaction = true) := by
  have hsession := sameSession_runEach (within s.databases s) calls
  have hplain := sameSession_runEach s calls
  rw [startTransaction_of_idle honline hidle]
  refine ⟨rfl, ?_, fun hstandalone => ?_, fun hstandalone => ?_⟩
  · rw [abortTransaction, inTransaction, hsession.transactionActive, hsession.snapshot]
    exact ⟨rfl, rfl⟩
  · have hnone : s.snapshot = none := by
      have hsnapshot := (sound_of_reachable hs).snapshot
      rwa [show s.transactionActive = false from hidle, Option.isSome_eq_false_iff,
        Option.isNone_iff_eq_none] at hsnapshot
    have hclosed (t : MemoryStore) (hsnapshot : t.snapshot = none)
        (hactive : t.transactionActive = false) :
        { t with snapshot := none, transactionActive := false } = t := by
      rw [← hsnapshot, ← hactive]
    rw [runEach_within honline hstandalone]
    refine ⟨rfl, ?_⟩
    rw [commitTransaction_within (hplain.online.trans honline)
      (hplain.standalone.trans hstandalone),
      hclosed _ (hplain.snapshot.trans hnone) (hplain.transactionActive.trans hidle)]
  · rw [runEach_standalone honline hstandalone, commitTransaction_standalone honline hstandalone]
    exact ⟨rfl, rfl, rfl, ⟨_, rfl⟩, rfl⟩

/-- An insert that clashes in part and a drop, in a transaction of a store that has them. -/
theorem transaction_snapshot_insert :
    let s := (({ new false with latency := 0, ids := .numbered }.withBatchSize 1).run "app"
      [("insert", .string "t"), ("documents", .array [.document [("_id", .int 1)]])]).2
    let calls : List (String × Document) :=
      [("app", [("insert", .string "t"), ("documents", .array [.document [("a", .int 5)],
        .document [("_id", .long 1)]])]), ("app", [("drop", .string "t")])]
    s.online = true ∧ s.inTransaction = false ∧ s.standalone = false ∧
      s.databases.documents "app" "t" = [[("_id", .int 1)]] ∧
      (s.startTransaction.2.runEach calls).2.abortTransaction.2.databases = s.databases ∧
      (s.startTransaction.2.runEach calls).2.commitTransaction = (.ok (), (s.runEach calls).2) := by
  intro s calls
  have hs : s.Reachable := .run _ _ (.new false 1 0 .numbered)
  obtain ⟨-, ⟨-, habort⟩, hcommit, -⟩ := transaction_snapshot hs rfl rfl calls
  exact ⟨rfl, rfl, rfl, rfl, habort, (hcommit rfl).2⟩

/-- An empty command is malformed also where every command is refused. -/
theorem runEach_standalone_empty :
    let s := { new true with latency := 0, ids := .numbered }.withBatchSize 1
    s.Reachable ∧ s.online = true ∧ s.inTransaction = false ∧ s.standalone = true ∧
      (s.startTransaction.2.runEach [("app", [])]).1 =
        [.error (.malformed "empty command document")] ∧
      ¬∀ answer ∈ (s.startTransaction.2.runEach [("app", [])]).1,
        ∃ response : Document, answer = .ok response ∧ response.get? "code" = some (.int 20) := by
  intro s
  refine ⟨.new true 1 0 .numbered, rfl, rfl, rfl, rfl, fun h => ?_⟩
  obtain ⟨response, hresponse, -⟩ := h _ (List.mem_singleton.mpr rfl)
  cases hresponse

end SqlGateway.MemoryStore
