import SqlGateway.Execution.Gateway
import SqlGateway.Proofs.Execution.Ownership
import SqlGateway.Proofs.Execution.Reading
import SqlGateway.Proofs.Store.Alike

/-! Two runs of one statement over stores that hold the same. They have the same outcome, and
leave stores that hold the same: neither the batch size nor the open cursors of a store,
nor how many cursors and identifiers it has given out, can be told from an outcome. -/

namespace SqlGateway.Execution

open Gateway MemoryStore

variable {α β : Type} {database : String} {m n : Nat}

/-- Whether two states of a run differ only in what stores keep for themselves, and in the phases
gone through. -/
structure RunsAlike (room : Nat) (r r' : Run MemoryStore) : Prop where
  store : Alike room r.store r'.store
  lastInsertId : r'.lastInsertId = r.lastInsertId
  ownsTransaction : r'.ownsTransaction = r.ownsTransaction

theorem RunsAlike.mono {room room' : Nat} {r r' : Run MemoryStore} (h : RunsAlike room r r')
    (hle : room' ≤ room) : RunsAlike room' r r' :=
  { h with store := h.store.mono hle }

/-- Whether a part of a run has an outcome, the same from states that are alike, and opens at most
some number of cursors on the way. -/
def Agrees (n : Nat) (x : Execution MemoryStore α) : Prop :=
  ∀ room r r', RunsAlike (room + n) r r' →
    ∃ outcome t t', Ends x r outcome t ∧ Ends x r' outcome t' ∧ RunsAlike room t t'

namespace Agrees

theorem pure (a : α) : Agrees 0 (pure a : Execution MemoryStore α) :=
  fun _ r r' h => ⟨.ok a, r, r', rfl, rfl, h⟩

theorem lift (x : Except GatewayError α) : Agrees 0 (liftM x : Execution MemoryStore α) :=
  fun _ r r' h => ⟨x, r, r', rfl, rfl, h⟩

theorem throw (e : GatewayError) : Agrees 0 (throw e : Execution MemoryStore α) :=
  lift (.error e)

theorem mono {x : Execution MemoryStore α} (h : Agrees m x) (hle : m ≤ n) : Agrees n x :=
  fun room r r' hr => h room r r' (hr.mono (Nat.add_le_add_left hle room))

/-- What follows a part of a run need only agree after the results that the part can have. -/
theorem bind_of_ends {x : Execution MemoryStore β} {f : β → Execution MemoryStore α}
    (hx : Agrees m x) (hf : ∀ b r t, Ends x r (.ok b) t → Agrees n (f b)) :
    Agrees (n + m) (x >>= f) := by
  intro room r r' h
  rw [← Nat.add_assoc] at h
  obtain ⟨outcome, t, t', hend, hend', ht⟩ := hx (room + n) r r' h
  cases outcome with
  | error e =>
    refine ⟨.error e, t, t', ?_, ?_, ht.mono (Nat.le_add_right room n)⟩
    · exact ends_bind.mpr (.inr ⟨e, hend, rfl⟩)
    · exact ends_bind.mpr (.inr ⟨e, hend', rfl⟩)
  | ok b =>
    obtain ⟨outcome, u, u', hrest, hrest', hu⟩ := hf b r t hend room t t' ht
    refine ⟨outcome, u, u', ?_, ?_, hu⟩
    · exact ends_bind.mpr (.inl ⟨b, t, hend, hrest⟩)
    · exact ends_bind.mpr (.inl ⟨b, t', hend', hrest'⟩)

theorem bind {x : Execution MemoryStore β} {f : β → Execution MemoryStore α} (hx : Agrees m x)
    (hf : ∀ b, Agrees n (f b)) : Agrees (n + m) (x >>= f) :=
  hx.bind_of_ends fun b _ _ _ => hf b

/-- After a computation that may fail, its result is known. -/
theorem bind_lift {x : Except GatewayError β} {f : β → Execution MemoryStore α}
    (hf : ∀ b, x = .ok b → Agrees n (f b)) : Agrees n (liftM x >>= f) := by
  cases x with
  | error e => exact (throw e).mono (Nat.zero_le n)
  | ok b => exact hf b rfl

theorem map {x : Execution MemoryStore β} (hx : Agrees m x) (f : β → α) : Agrees m (f <$> x) := by
  rw [map_eq_pure_bind, ← Nat.zero_add m]
  exact hx.bind fun b => pure (f b)

theorem mapM {f : β → Execution MemoryStore α} (hf : ∀ b, Agrees 0 (f b)) (bs : List β) :
    Agrees 0 (bs.mapM f) := by
  induction bs with
  | nil => exact pure []
  | cons b bs ih =>
    rw [List.mapM_cons]
    exact (hf b).bind fun a => ih.bind fun as => pure (a :: as)

/-- What follows a look at the state goes on the same way from states that are alike. -/
theorem bind_get {f : Run MemoryStore → Execution MemoryStore α} (hf : ∀ r, Agrees n (f r))
    (hsame : ∀ room r r', RunsAlike room r r' → f r' = f r) :
    Agrees n (MonadState.get >>= f) := by
  intro room r r' h
  obtain ⟨outcome, t, t', hend, hend', ht⟩ := hf r room r r' h
  rw [← hsame _ r r' h] at hend'
  exact ⟨outcome, t, t', ends_bind_get.mpr hend, ends_bind_get.mpr hend', ht⟩

theorem modify {f : Run MemoryStore → Run MemoryStore}
    (hf : ∀ room r r', RunsAlike room r r' → RunsAlike room (f r) (f r')) :
    Agrees 0 (modify f : Execution MemoryStore Unit) :=
  fun room r r' h => ⟨.ok (), f r, f r', rfl, rfl, hf room r r' h⟩

theorem enter (p : Phase) : Agrees 0 (enter p : Execution MemoryStore Unit) :=
  modify fun _ _ _ h => ⟨h.store, h.lastInsertId, h.ownsTransaction⟩

theorem call {f : MemoryStore → Except StoreError α × MemoryStore}
    (hf : ∀ room s t, Alike room s t → (f t).1 = (f s).1 ∧ Alike room (f s).2 (f t).2) :
    Agrees 0 (call f) := by
  intro room r r' h
  obtain ⟨hanswer, hstore⟩ := hf room _ _ h.store
  refine ⟨_, _, _, ends_call.mpr ⟨rfl, rfl⟩, ends_call.mpr ⟨by rw [hanswer], rfl⟩, ?_⟩
  exact ⟨hstore, h.lastInsertId, h.ownsTransaction⟩

/-! ### Commands -/

theorem dispatch [Host] {c : Command} (hc : c.Plain) : Agrees 0 (dispatch store database c) := by
  refine (call fun room s t h => h.run database hc).bind fun response => ?_
  exact (lift _).bind fun _ => pure _

theorem documentsOf_congr [Host] {room : Nat} {s t : MemoryStore} (h : Alike room s t) (c : Command) :
    documentsOf database c t = documentsOf database c s := by
  rw [documentsOf, documentsOf, inTransaction, inTransaction, h.online, h.standalone,
    h.transactionActive, h.databases]

theorem fetch [Host] {c : Command} (hc : c.Headed) : Agrees 1 (fetch store database c) := by
  by_cases hcursor : c.verb.returnsCursor = true
  · intro room r r' h
    have hroom := h.store.room
    obtain ⟨next, hle, hlt, hend⟩ := ends_fetch h.store.sound.1 (by omega) database hc hcursor
    obtain ⟨next', hle', hlt', hend'⟩ := ends_fetch h.store.sound.2 (by omega) database hc hcursor
    rw [documentsOf_congr h.store] at hend'
    refine ⟨_, _, _, hend, hend', ?_, h.lastInsertId, h.ownsTransaction⟩
    exact h.store.skip ⟨hle, hlt⟩ ⟨hle', hlt'⟩
  · rw [fetch_of_cursorless hcursor]
    exact (throw _).mono (Nat.zero_le 1)

/-! ### Statements -/

open Gateway

theorem ofCollection [Host] (collection : String) (isJoined : Bool) (types : TypeMap)
    (cs : List ProbeColumn) :
    Agrees 1 (Typing.ofCollection (Execution.fetch store database) collection isJoined types cs) := by
  rw [Typing.ofCollection]
  split
  · exact (pure types).mono (Nat.zero_le 1)
  · refine (fetch (Command.headed_aggregate _ _)).bind fun answers => ?_
    split
    · exact lift _
    · split
      · exact pure _
      · exact throw _

theorem infer [Host] (t : ProbeTarget) (sample : Document) :
    Agrees 2 (Typing.infer (Execution.fetch store database) t sample) := by
  rw [Typing.infer]
  refine (ofCollection _ _ _ _).bind fun types => ?_
  split
  · exact ofCollection _ _ _ _
  · exact (pure types).mono (Nat.zero_le 1)

theorem runSelect [Host] {p : Plan} (hp : p.Regular) {strategy : Strategy}
    (hshape : p.shape = .select strategy) : Agrees 3 (runSelect store database p strategy) := by
  unfold Gateway.runSelect
  split
  · next output =>
    -- the only SELECT without a cursor; its command has to be plain
    refine mono ?_ (Nat.zero_le 3)
    refine bind_lift fun c hc => ?_
    have hplain : c.Plain := by
      rcases hp.2 with ⟨strategy, hselect, hother⟩ | hplain
      · rw [hshape] at hselect
        cases hselect
        exact absurd rfl (hother output)
      · exact hplain c (commands_of_singleCommand hc ▸ List.mem_singleton_self c)
    refine (dispatch hplain).bind fun response => (enter _).bind fun _ => ?_
    refine (lift _).bind fun vs => mapM (fun v => ?_) vs
    exact (lift _).bind fun cell => pure _
  · refine bind_lift fun c hc => (fetch (headed_singleCommand hp.1 hc)).bind fun docs => ?_
    split
    · exact (pure []).mono (Nat.zero_le 2)
    · refine (enter _).bind fun _ => ?_
      split
      · exact (throw _).mono (Nat.zero_le 2)
      · exact (infer _ _).bind fun types => (enter _).bind fun _ => lift _

theorem runCommands [Host] {cs : List Command} (hcs : ∀ c ∈ cs, c.Plain) (affected : Int64) :
    Agrees 0 (runCommands store database affected cs) := by
  induction cs generalizing affected with
  | nil => exact pure affected
  | cons c cs ih =>
    obtain ⟨hc, hcs⟩ := List.forall_mem_cons.mp hcs
    exact (dispatch hc).bind fun response => ih hcs _

theorem runWrites [Host] {p : Plan} (hp : ∀ c ∈ p.commands, c.Plain) :
    Agrees 0 (runWrites store database p) := by
  refine (runCommands hp 0).bind fun affected => ?_
  dsimp only
  split
  · exact bind_get (fun r => pure _) fun room r r' h => by rw [h.lastInsertId]
  · exact pure _

theorem perform [Host] {p : Plan} (hp : p.Regular) : Agrees 3 (perform store database p) := by
  unfold Gateway.perform
  split
  · next strategy hshape => exact runSelect hp hshape
  · next hshape =>
    have hplain : ∀ c ∈ p.commands, c.Plain := by
      rcases hp.2 with ⟨strategy, hselect, -⟩ | hplain
      · exact absurd hselect (hshape strategy)
      · exact hplain
    exact ((runWrites hplain).map _).mono (Nat.zero_le 3)

theorem sampleNextKey [Host] (c : CountedColumn) : Agrees 1 (sampleNextKey store database c) := by
  refine bind_lift fun plan hplan => bind_lift fun command hcommand => ?_
  have hheaded := headed_singleCommand (Plan.headed_ofSelect hplan) hcommand
  exact (fetch hheaded).bind fun docs => lift _

theorem withKey [Host] (p : Plan) : Agrees 1 (withKey store database p) := by
  rw [Gateway.withKey]
  split
  · exact (pure p).mono (Nat.zero_le 1)
  · refine (enter _).bind fun _ => (sampleNextKey _).bind fun key => ?_
    have hset : Agrees 0 (MonadState.modifyGet fun r : Run MemoryStore =>
        ((), { r with lastInsertId := some key })) :=
      modify fun _ _ _ h => ⟨h.store, rfl, h.ownsTransaction⟩
    exact hset.bind fun _ => pure _

/-- A plan stays regular when its key is filled in. -/
theorem regular_of_withKey [Host] {p p' : Plan} (hp : p.Regular) {r r' : Run MemoryStore}
    (h : Ends (Gateway.withKey store database p) r (.ok p') r') : p'.Regular := by
  rw [Gateway.withKey] at h
  split at h
  · obtain ⟨h, -⟩ := ends_pure.mp h
    cases h
    exact hp
  · rw [ends_bind_enter] at h
    obtain ⟨key, r₁, -, h⟩ := ends_bind_ok.mp h
    obtain ⟨_, r₂, -, h⟩ := ends_bind_ok.mp h
    obtain ⟨h, -⟩ := ends_pure.mp h
    cases h
    exact hp.setInserted _ _

theorem prepare [Host] (id : ObjectId) (t : QueryTree) : Agrees 1 (prepare store database id t) :=
  (enter _).bind fun _ => (lift _).bind fun p => withKey p

theorem regular_of_prepare [Host] {id : ObjectId} {t : QueryTree} {p : Plan} {r r' : Run MemoryStore}
    (h : Ends (Gateway.prepare store database id t) r (.ok p) r') : p.Regular := by
  rw [Gateway.prepare, ends_bind_enter] at h
  obtain ⟨p', hp', h⟩ := ends_bind_lift_ok h
  exact regular_of_withKey (Plan.regular_ofTree hp') h

/-! ### Transactions -/

theorem openTransaction [Host] : Agrees 0 (openTransaction store) := by
  refine bind_get (fun r => ?_) fun room r r' h => ?_
  · split
    · refine (enter _).bind fun _ => (call fun room s t h => h.startTransaction).bind fun _ => ?_
      exact modify fun _ _ _ h => ⟨h.store, h.lastInsertId, rfl⟩
    · exact pure _
  · have hopen : store.inTransaction r'.store = store.inTransaction r.store :=
      h.store.transactionActive
    rw [hopen]

theorem closeTransaction [Host] : Agrees 0 (closeTransaction store) := by
  refine bind_get (fun r => ?_) fun room r r' h => ?_
  · split
    · refine (enter _).bind fun _ => (call fun room s t h => h.commitTransaction).bind fun _ => ?_
      exact modify fun _ _ _ h => ⟨h.store, h.lastInsertId, rfl⟩
    · exact pure _
  · rw [h.ownsTransaction]

/-- A whole run agrees. -/
theorem runTree [Host] (database : String) (id : ObjectId) (t : QueryTree) (autoCommit : Bool) :
    Agrees 4 (runTree store database id t autoCommit) := by
  rw [runTree_eq]
  -- one cursor for the key, then three for the rows and for the types of two collections
  refine (prepare id t).bind_of_ends fun plan _ _ hplan => ?_
  have hrest : Agrees 3 (do
      Execution.enter .executing
      let rows ← Gateway.perform store database plan
      Gateway.closeTransaction store
      return rows) :=
    (enter _).bind fun _ => (perform (regular_of_prepare hplan)).bind fun rows =>
      closeTransaction.bind fun _ => pure rows
  dsimp only
  split
  · exact openTransaction.bind fun _ => hrest
  · exact hrest

end Agrees

theorem runsAlike_settle [Host] {room : Nat} {r r' : Run MemoryStore} (h : RunsAlike room r r')
    (failed : Bool) :
    RunsAlike room (Gateway.settle store failed r) (Gateway.settle store failed r') := by
  have hopen : store.inTransaction r'.store = store.inTransaction r.store :=
    h.store.transactionActive
  unfold Gateway.settle
  rw [hopen, h.ownsTransaction]
  dsimp only
  split
  · exact ⟨h.store.abortTransaction, h.lastInsertId, rfl⟩
  · exact ⟨h.store, h.lastInsertId, h.ownsTransaction⟩

/-- A statement has an outcome, the same over stores that hold the same, and leaves such stores. -/
theorem execute_alike [Host] {room : Nat} {s t : MemoryStore} (h : Alike (room + 4) s t)
    (database : String) (id : ObjectId) (tree : QueryTree) (autoCommit : Bool) :
    ∃ result r r', Gateway.execute store database id tree autoCommit s = some (result, r) ∧
      Gateway.execute store database id tree autoCommit t = some (result, r') ∧
        RunsAlike room r r' := by
  obtain ⟨result, r, r', hend, hend', halike⟩ :=
    Agrees.runTree database id tree autoCommit room { store := s } { store := t } ⟨h, rfl, rfl⟩
  exact ⟨result, _, _, execute_of_ends hend, execute_of_ends hend', runsAlike_settle halike _⟩

/-! ### Coming back -/

theorem alike_opened [Host] {room : Nat} {s t : MemoryStore} (h : Alike room s t)
    (autoCommit : Bool) :
    Alike room (Gateway.opened store autoCommit s) (Gateway.opened store autoCommit t) := by
  have hopen : store.inTransaction t = store.inTransaction s := h.transactionActive
  rw [Gateway.opened, Gateway.opened, hopen]
  split
  · exact h.startTransaction.2
  · exact h

/-- Stores that hold the same come back from the same statements. -/
theorem comesBack_alike [Host] {room : Nat} {s t : MemoryStore} (h : Alike room s t)
    (database : String) (id : ObjectId) (tree : QueryTree) (autoCommit : Bool) :
    Gateway.comesBack store database id tree autoCommit t =
      Gateway.comesBack store database id tree autoCommit s := by
  have hcommand {s t : MemoryStore} (h : Alike room s t) (command : Document) :
      store.comesBack t database command = store.comesBack s database command :=
    h.comesBack database command
  have hplan (p : Plan) : Gateway.commandsComeBack store database p autoCommit t =
      Gateway.commandsComeBack store database p autoCommit s := by
    unfold Gateway.commandsComeBack
    simp only [hcommand h, hcommand (alike_opened h autoCommit)]
  unfold Gateway.comesBack
  simp only [hplan]

/-! ### Batches -/

theorem alike_withBatchSize {s : MemoryStore} (hs : s.Sound) {room : Nat}
    (hroom : s.nextCursor + room ≤ 2 ^ 63) (n m : Nat) :
    Alike room (s.withBatchSize n) (s.withBatchSize m) where
  databases := rfl
  snapshot := rfl
  transactionActive := rfl
  standalone := rfl
  online := rfl
  sound := ⟨{ hs with }, { hs with }⟩
  room := ⟨hroom, hroom⟩

end SqlGateway.Execution

namespace SqlGateway.Gateway

attribute [local instance] Host.universal

open Execution MemoryStore

/-- Results are delivered as a whole, once and in order, in batches of any size. For a store that
has numbers left for four cursors, of the 64-bit numbers that they have: the batches of a cursor are
a prefix of the result as it was when the command ran, whatever happens meanwhile; the last of them
names no cursor exactly if the result is complete, and then the cursor is unknown. A fetch gives the
whole result and leaves no cursor behind, and the outcome of a statement does not depend on the
size of batches. -/
theorem results_delivered_whole [Host] {s : MemoryStore} (hs : s.Reachable)
    (hroom : s.nextCursor + 4 ≤ 2 ^ 63) (database : String) :
    (∀ verb v rest answer first, verb = "find" ∨ verb = "aggregate" →
      (s.run database ((verb, v) :: rest)).1 = .ok answer → Response.Batch.first answer = .ok first →
      ∃ result, s.databases.retrieve verb database ((verb, v) :: rest) = .ok result ∧
        ∀ events : List StoreEvent,
          let opened := (s.run database ((verb, v) :: rest)).2
          let more := opened.deliveries first.id events
          let delivered := (first :: more).flatMap (·.documents)
          let last := more.getLastD first
          let after := events.foldl MemoryStore.after opened
          delivered <+: result.documents ∧
            (last.id = 0 ↔ delivered = result.documents) ∧ (last.id ≠ 0 → last.id = first.id) ∧
            (delivered = result.documents → after.Serving →
              ∀ database command size, moreOf? command = some first.id →
                CommandField.count? command "batchSize" = .ok size →
                (after.run database command).1 =
                  .ok (CommandFailure.cursorNotFound first.id).toResponse)) ∧
    (∀ r : Run MemoryStore, r.store = s → ∀ c : Command, c.Headed → c.verb.returnsCursor = true →
      ∃ next, Ends (fetch store database c) r (documentsOf database c s)
        { r with store := { s with nextCursor := next } }) ∧
    ∀ id t autoCommit n m, ∃ result r r',
      execute store database id t autoCommit (s.withBatchSize n) = some (result, r) ∧
        execute store database id t autoCommit (s.withBatchSize m) = some (result, r') := by
  have hsound := sound_of_reachable hs
  refine ⟨?_, ?_, fun id t autoCommit n m => ?_⟩
  · intro verb v rest answer first hverb hanswer hfirst
    obtain ⟨result, id, hresult, hid, hbound, hreports, hpages⟩ :=
      pages_of_first hsound (by omega) hverb hanswer hfirst
    refine ⟨result, hresult, fun events => ?_⟩
    obtain ⟨hdelivered, hlast⟩ := hpages.deliveries hbound hreports events
    dsimp only
    rw [hid, List.flatMap_cons]
    refine ⟨⟨_, hdelivered.whole⟩, hlast.1, hlast.2, fun hwhole hserving database command size => ?_⟩
    rw [hwhole] at hdelivered
    exact fun hmore hsize => run_more_of_delivered hdelivered hserving database hmore hsize
  · rintro r rfl c hc hcursor
    obtain ⟨next, -, -, hend⟩ := ends_fetch hsound (by omega) database hc hcursor
    exact ⟨next, hend⟩
  · obtain ⟨result, r, r', hrun, hrun', -⟩ :=
      execute_alike (alike_withBatchSize hsound hroom n m) database id t autoCommit
    exact ⟨result, r, r', hrun, hrun'⟩

/-- Three documents in batches of one; between the batches the collection is dropped. -/
theorem results_delivered_whole_dropped :
    let s := (({ MemoryStore.new false with latency := 0, ids := .numbered }.withBatchSize 1).run "app"
      [("insert", .string "t"), ("documents", .array [.document [("_id", .int 1)],
        .document [("_id", .int 2)], .document [("_id", .int 3)]])]).2
    let first : Response.Batch := ⟨1, [[("_id", .int 1)]]⟩
    let more := (s.run "app" [("find", .string "t")]).2.deliveries first.id
      [.call (.run "app" (moreOf 1 "t")), .call (.run "app" [("drop", .string "t")]),
        .call (.run "app" (moreOf 1 "t")), .call (.run "app" (moreOf 1 "t"))]
    more.map (·.documents.length) = [1, 1] ∧ s.nextCursor + 4 ≤ 2 ^ 63 ∧
      ∃ answer, (s.run "app" [("find", .string "t")]).1 = .ok answer ∧
        Response.Batch.first answer = .ok first ∧
        ∃ result, s.databases.retrieve "find" "app" [("find", .string "t")] = .ok result ∧
          (first :: more).flatMap (·.documents) <+: result.documents := by
  intro s first more
  have hs : s.Reachable := .run _ _ (.new false 1 0 .numbered)
  have hroom : s.nextCursor + 4 ≤ 2 ^ 63 := by decide
  have hmore : more.map (·.documents.length) = [1, 1] := by decide +kernel
  obtain ⟨answer, hanswer, hfirst⟩ : ∃ answer,
      (s.run "app" [("find", .string "t")]).1 = .ok answer ∧
        Response.Batch.first answer = .ok first := ⟨_, rfl, rfl⟩
  obtain ⟨hpages, -⟩ := results_delivered_whole hs hroom "app"
  obtain ⟨result, hresult, hevents⟩ :=
    hpages "find" (.string "t") [] answer first (.inl rfl) hanswer hfirst
  exact ⟨hmore, hroom, answer, hanswer, hfirst, result, hresult, (hevents _).1⟩

end SqlGateway.Gateway
