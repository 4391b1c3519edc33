import SqlGateway.Proofs.Execution.Runs
import SqlGateway.Proofs.Plan.Commands
import SqlGateway.Proofs.Store.Insertion
import SqlGateway.Proofs.Store.Paging

/-! What reading from a store in memory gives. All documents of a result arrive, in however
many batches, and the cursor that held them is gone when they have. -/

namespace SqlGateway.Execution

open MemoryStore

variable {database : String}

/-! ### Responses -/

/-- The error that follows a command that was refused. -/
def refusal (verb : String) (f : CommandFailure) : GatewayError :=
  .executionFailed (verb ++ " failed: " ++ f.reason ++ " (" ++ f.codeName ++ ")")

theorem checked_ok (verb : String) (response : Document) :
    checked verb (.ok response) = (Response.check verb response).map fun _ => response := by
  change (Response.check verb response).bind _ = _
  cases Response.check verb response <;> rfl

theorem checked_failure (verb : String) (f : CommandFailure) :
    checked verb (.ok f.toResponse) = .error (refusal verb f) := by
  have hok : Response.succeeded? (f.toResponse.get? "ok") = some false := by
    change Response.succeeded? (some (.ofFloat 0.0)) = some false
    decide
  rw [checked_ok, Response.check, hok]
  rfl

/-- The response to a command that was carried out reports success. -/
theorem succeeded?_response (reply : Document) :
    Response.succeeded? ((response (.ok reply)).get? "ok") = some true := by
  have hok : (response (.ok reply)).get? "ok" = some (.ofFloat 1.0) := by
    rw [response, Fields.get?_set, if_pos rfl]
  rw [hok]
  decide

theorem checked_batchReply (verb key : String) (docs : List Document) (id : Nat) (ns : String) :
    checked verb (.ok (response (.ok (batchReply key docs id ns)))) =
      .ok (response (.ok (batchReply key docs id ns))) := by
  rw [checked_ok, Response.check, succeeded?_response]
  rfl

theorem checked_inserted (verb : String) :
    checked verb (.ok (response (.ok (insertReply none)))) =
      .ok (response (.ok (insertReply none))) := by
  rw [checked_ok, Response.check, succeeded?_response]
  rfl

theorem checked_refused (verb : String) (f : CommandFailure) :
    ∃ e, checked verb (.ok (response (.ok (insertReply (some f))))) = .error e := by
  rw [checked_ok, Response.check, succeeded?_response]
  exact ⟨_, rfl⟩

/-! ### Cursors -/

theorem filter_of_left {s : MemoryStore} (hs : s.Sound) {id : Nat}
    (h : leftUnder s.cursors id = []) : s.cursors.filter (·.1 != id) = s.cursors := by
  rw [List.filter_eq_self]
  intro e he
  have hne : ¬((e.1 : Int) = id) := by
    simpa using List.find?_eq_none.mp (cursor?_eq_none_of_left hs h) e he
  simpa using fun heq : e.1 = id => hne (congrArg Int.ofNat heq)

theorem length_leftUnder_le (cursors : List (Nat × OpenCursor)) (id : Int) :
    (leftUnder cursors id).length ≤ waitingUnder cursors := by
  induction cursors with
  | nil => exact Nat.le_refl 0
  | cons e cursors ih =>
    rw [leftUnder, waitingUnder]
    split <;> omega

/-- The command that asks for more of a cursor. -/
def moreOf (id : Int) (collection : String) : Document :=
  [("getMore", .ofInt64 id), ("collection", .string collection)]

/-- A batch comes as long as something is left, and less waits after it. -/
theorem run_moreOf [Host] {s : MemoryStore} (hs : s.Sound) (hserving : s.Serving) {id : Nat}
    (hid : id < 2 ^ 63) (hleft : leftUnder s.cursors id ≠ []) (database collection : String) :
    ∃ answer batch rest,
      checked "getMore" (s.run database (moreOf id collection)).1 = .ok answer ∧
      Response.Batch.next answer = .ok ⟨(if rest = [] then 0 else id : Nat), batch⟩ ∧
      TakesBatch s (s.run database (moreOf id collection)).2 id batch rest ∧
      (s.run database (moreOf id collection)).2.waiting < s.waiting := by
  have hnumber : (Fields.get? (moreOf id collection) "getMore").bind Value.integer? =
      some (id : Int) := by
    change some (Int64.ofInt id).toInt = _
    rw [Int64.toInt_ofInt_of_le (by omega) (by omega)]
  obtain ⟨t, batch, rest, ns, hmore, htakes⟩ := getMore_of_left hnumber rfl hleft
  have hrun : s.run database (moreOf id collection) = (.ok (response (s.getMore _).2), _) :=
    run_of_serving hserving database "getMore" _ _
  change s.run database (moreOf id collection) =
    (.ok (response (s.getMore (moreOf id collection)).2), (s.getMore (moreOf id collection)).1) at hrun
  have hprogress : t.waiting < s.waiting := by
    have hbatch : Fields.get? (moreOf id collection) "batchSize" = none := rfl
    rcases getMore_progress hs hbatch with ⟨f, hf⟩ | ⟨t', _, _, _, h, hlt, -⟩
    · rw [hmore] at hf
      cases congrArg Prod.snd hf
    · have ht : t = t' := congrArg Prod.fst (hmore.symm.trans h)
      rwa [ht]
  rw [hmore] at hrun
  rw [hrun]
  refine ⟨_, batch, rest, checked_batchReply _ _ _ _ _, ?_, htakes, hprogress⟩
  rw [Response.Batch.next, read_batchReply (by decide) batch (by split <;> omega)]

/-- A state of a run whose store no longer has a cursor. -/
def closing (id : Nat) (r : Run MemoryStore) : Run MemoryStore :=
  { r with store := { r.store with cursors := r.store.cursors.filter (·.1 != id) } }

theorem closing_of_left {r : Run MemoryStore} (hs : r.store.Sound) {id : Nat}
    (h : leftUnder r.store.cursors id = []) : closing id r = r := by
  rw [closing, filter_of_left hs h]

theorem closing_of_takes {r : Run MemoryStore} {t : MemoryStore} {id : Nat}
    {batch rest : List Document} (h : TakesBatch r.store t id batch rest) :
    closing id { r with store := t } = closing id r := by
  have hstore : { t with cursors := t.cursors.filter (·.1 != id) } =
      { r.store with cursors := r.store.cursors.filter (·.1 != id) } := by
    rw [← h.others]
    exact congrArg (fun s : MemoryStore =>
      { s with cursors := t.cursors.filter (·.1 != id) }) h.same
  exact congrArg (fun s => { r with store := s }) hstore

theorem ends_drain_of_left [Host] {r : Run MemoryStore} (hs : r.store.Sound) (collection : String)
    (patience : Nat) {id : Nat} (hleft : leftUnder r.store.cursors id = []) {b : Response.Batch}
    (hb : b.id = 0) :
    Ends (drain store database collection patience b) r
      (.ok (b.documents ++ leftUnder r.store.cursors id)) (closing id r) := by
  have hdrain : drain store database collection patience b = pure b.documents := by
    cases patience <;> rw [drain, if_pos hb]
  rw [hdrain, hleft, List.append_nil, closing_of_left hs hleft]
  exact ends_pure.mpr ⟨rfl, rfl⟩

/-- All that is left under a cursor is read, and the cursor is closed. -/
theorem ends_drain [Host] {r : Run MemoryStore} (hs : r.store.Sound) (hserving : r.store.Serving)
    (database collection : String) {patience : Nat} (hpatience : r.store.waiting ≤ patience) {id : Nat}
    (hid : id < 2 ^ 63) {b : Response.Batch}
    (hb : b.id = (if leftUnder r.store.cursors id = [] then 0 else id : Nat)) :
    Ends (drain store database collection patience b) r
      (.ok (b.documents ++ leftUnder r.store.cursors id)) (closing id r) := by
  -- less waits after every batch, so that the patience lasts until nothing is left
  induction patience generalizing r b with
  | zero =>
    have hlength := length_leftUnder_le r.store.cursors id
    rw [waiting_eq] at hpatience
    have hleft : leftUnder r.store.cursors id = [] := List.length_eq_zero_iff.mp (by omega)
    exact ends_drain_of_left hs collection 0 hleft (by rw [hb, if_pos hleft]; rfl)
  | succ patience ih =>
    by_cases hleft : leftUnder r.store.cursors id = []
    · exact ends_drain_of_left hs collection _ hleft (by rw [hb, if_pos hleft]; rfl)
    have hpositive : id ≠ 0 := by
      rintro rfl
      exact hleft (leftUnder_of_not_mem (number_ne hs (.inl (Int.le_refl 0))))
    obtain ⟨answer, batch, rest, hanswer, hbatch, htakes, hlt⟩ :=
      run_moreOf hs hserving hid hleft database collection
    let r₁ : Run MemoryStore := { r with store := (r.store.run database (moreOf id collection)).2 }
    have hserving₁ : r₁.store.Serving :=
      (sameSession_run r.store database (moreOf id collection)).serving_iff.mpr hserving
    have hrest : Ends (drain store database collection patience
        ⟨(if rest = [] then 0 else id : Nat), batch⟩) r₁
        (.ok (batch ++ leftUnder r₁.store.cursors id)) (closing id r₁) := by
      refine ih (hs.run database _) hserving₁ (by dsimp only [r₁]; omega) ?_
      rw [htakes.after]
    rw [if_neg hleft] at hb
    rw [htakes.before, ← htakes.after, ← closing_of_takes htakes, drain, if_neg (by omega), hb]
    refine ends_bind.mpr (.inl ⟨answer, r₁, ?_, ?_⟩)
    · rw [Ends, run_respond, ← hanswer]
      rfl
    refine ends_bind.mpr (.inl ⟨_, r₁, ends_lift.mpr ⟨hbatch.symm, rfl⟩, ?_⟩)
    exact ends_bind.mpr (.inl ⟨_, _, hrest, ends_pure.mpr ⟨rfl, rfl⟩⟩)

/-! ### Fetching -/

/-- What a command gives that reads: its documents, or why there are none. -/
def documentsOf [Host] (database : String) (c : Command) (s : MemoryStore) :
    Except GatewayError (List Document) :=
  if !s.online then .error (.storeFailed offline)
  else if s.standalone && s.inTransaction then
    .error (refusal c.verb.name (.illegalOperation noTransactions))
  else
    ((s.databases.retrieve c.verb.name database c.document).map (·.documents)).mapError
      (refusal c.verb.name)

theorem documentsOf_of_retrieve [Host] {c : Command} {s : MemoryStore} (hserving : s.Serving)
    {result : ResultSet}
    (hresult : s.databases.retrieve c.verb.name database c.document = .ok result) :
    documentsOf database c s = .ok result.documents := by
  obtain ⟨honline, hcommitting⟩ := hserving
  rw [documentsOf, honline, hcommitting, hresult]
  rfl

theorem documentsOf_of_refused [Host] {c : Command} {s : MemoryStore} (hserving : s.Serving)
    {f : CommandFailure} (hrefused : s.databases.retrieve c.verb.name database c.document = .error f) :
    documentsOf database c s = .error (refusal c.verb.name f) := by
  obtain ⟨honline, hcommitting⟩ := hserving
  rw [documentsOf, honline, hcommitting, hrefused]
  rfl

theorem ends_dispatch [Host] {r : Run MemoryStore} {c : Command} {answer : Except StoreError Document}
    {s : MemoryStore} {outcome : Except GatewayError Document}
    (hrun : r.store.run database c.document = (answer, s))
    (hchecked : checked c.verb.name answer = outcome) :
    Ends (dispatch store database c) r outcome { r with store := s } := by
  rw [Ends, dispatch, run_respond]
  change some (checked c.verb.name (r.store.run database c.document).1,
    { r with store := (r.store.run database c.document).2 }) = _
  rw [hrun, hchecked]

theorem fetch_eq [Host] {c : Command} (hcursor : c.verb.returnsCursor = true) (database : String) :
    fetch store database c = (do
      let batch ← Response.Batch.first (← dispatch store database c)
      drain store database c.collection (store.patience (← get).store) batch) := by
  rw [fetch, hcursor]
  rfl

theorem fetch_of_cursorless [Host] {c : Command} (hcursor : ¬c.verb.returnsCursor = true)
    (database : String) :
    fetch store database c =
      throw (.executionFailed ("'" ++ c.verb.name ++ "' does not return a cursor")) := by
  rw [fetch, Bool.eq_false_iff.mpr hcursor]
  rfl

/-- A result is read as a whole, and its cursor does not stay open. -/
theorem ends_fetch_result [Host] {r : Run MemoryStore} (hs : r.store.Sound) (hserving : r.store.Serving)
    (hroom : r.store.nextCursor < 2 ^ 63) {c : Command} (hcursor : c.verb.returnsCursor = true)
    {result : ResultSet}
    (hrun : r.store.run database c.document =
      (.ok (response (.ok (r.store.openCursor result).2)), (r.store.openCursor result).1)) :
    ∃ next, r.store.nextCursor ≤ next ∧ next ≤ r.store.nextCursor + 1 ∧
      Ends (fetch store database c) r (.ok result.documents)
        { r with store := { r.store with nextCursor := next } } := by
  obtain ⟨batch, left, id, hreply, hwhole, hopens⟩ := openCursor_opens hs result
  have hid : id < 2 ^ 63 := Nat.lt_of_le_of_lt hopens.given.1 hroom
  let r₁ : Run MemoryStore := { r with store := (r.store.openCursor result).1 }
  have hs₁ : r₁.store.Sound := hs.opened (.ok result)
  have hserving₁ : r₁.store.Serving :=
    (r.store.sameSession_opened (.ok result)).serving_iff.mpr hserving
  refine ⟨r₁.store.nextCursor, hopens.next.1, hopens.next.2, ?_⟩
  have hdispatch : Ends (dispatch store database c) r
      (.ok (response (.ok (batchReply "firstBatch" batch id result.ns)))) r₁ := by
    rw [hreply] at hrun
    exact ends_dispatch hrun (checked_batchReply _ _ _ _ _)
  have hbatch : (Response.Batch.mk id batch).id =
      (if leftUnder r₁.store.cursors id = [] then 0 else id : Nat) := by
    rw [hopens.left]
    split
    · next hleft => rw [hopens.named.mpr hleft]
    · rfl
  have hdrain := ends_drain hs₁ hserving₁ database c.collection (Nat.le_refl _) hid hbatch
  have hclosing : closing id r₁ =
      { r with store := { r.store with nextCursor := r₁.store.nextCursor } } :=
    congrArg (fun s => { r with store := s }) hopens.others
  rw [hopens.left, hclosing, hwhole] at hdrain
  rw [fetch_eq hcursor]
  have hread := (read_batchReply (show "firstBatch" ≠ "id" by decide) batch hid result.ns).symm
  refine ends_bind.mpr (.inl ⟨_, r₁, hdispatch, ?_⟩)
  exact ends_bind.mpr (.inl ⟨_, r₁, ends_lift.mpr ⟨hread, rfl⟩, ends_bind_get.mpr hdrain⟩)

/-- A result of at most one document is read without a trace. -/
theorem ends_fetch_short [Host] {r : Run MemoryStore} (hserving : r.store.Serving) {database : String}
    {c : Command} (hheaded : c.Headed) (hcursor : c.verb.returnsCursor = true) {result : ResultSet}
    (hresult : r.store.databases.retrieve c.verb.name database c.document = .ok result)
    (hshort : result.documents.length ≤ 1) :
    Ends (fetch store database c) r (.ok result.documents) r := by
  obtain ⟨v, rest, hdoc⟩ := hheaded
  have hverb : c.verb.name = "find" ∨ c.verb.name = "aggregate" := by
    revert hcursor
    cases c.verb <;> simp [Verb.returnsCursor, Verb.name]
  have hrun := run_of_serving hserving database c.verb.name v rest
  rw [← hdoc, dispatch_reading _ database hverb, hresult, opened,
    openCursor_of_length_le r.store hshort] at hrun
  have hread := (read_batchReply (show "firstBatch" ≠ "id" by decide) result.documents
    (Nat.two_pow_pos 63) result.ns).symm
  rw [fetch_eq hcursor]
  refine ends_bind.mpr (.inl ⟨_, r, ends_dispatch hrun (checked_batchReply _ _ _ _ _), ?_⟩)
  refine ends_bind.mpr (.inl ⟨_, r, ends_lift.mpr ⟨hread, rfl⟩, ends_bind_get.mpr ?_⟩)
  have hdrain (patience : Nat) : drain store database c.collection patience ⟨0, result.documents⟩ =
      pure result.documents := by
    cases patience <;> rw [drain, if_pos rfl]
  change Ends (drain store database c.collection _ ⟨0, result.documents⟩) r _ r
  rw [hdrain]
  exact ends_pure.mpr ⟨rfl, rfl⟩

/-- What a command gives that reads is its documents or the reason why there are none, and but for
the number of the next cursor the store stays as it is. -/
theorem ends_fetch [Host] {r : Run MemoryStore} (hs : r.store.Sound) (hroom : r.store.nextCursor < 2 ^ 63)
    (database : String) {c : Command} (hheaded : c.Headed) (hcursor : c.verb.returnsCursor = true) :
    ∃ next, r.store.nextCursor ≤ next ∧ next ≤ r.store.nextCursor + 1 ∧
      Ends (fetch store database c) r (documentsOf database c r.store)
        { r with store := { r.store with nextCursor := next } } := by
  obtain ⟨v, rest, hdoc⟩ := hheaded
  have hverb : c.verb.name = "find" ∨ c.verb.name = "aggregate" := by
    revert hcursor
    cases c.verb <;> simp [Verb.returnsCursor, Verb.name]
  have hrefused {answer : Except StoreError Document} {e : GatewayError}
      (hrun : r.store.run database c.document = (answer, r.store))
      (hchecked : checked c.verb.name answer = .error e) :
      ∃ next, r.store.nextCursor ≤ next ∧ next ≤ r.store.nextCursor + 1 ∧
        Ends (fetch store database c) r (.error e)
          { r with store := { r.store with nextCursor := next } } := by
    refine ⟨r.store.nextCursor, Nat.le_refl _, Nat.le_succ _, ?_⟩
    rw [fetch_eq hcursor]
    exact ends_bind.mpr (.inr ⟨e, ends_dispatch hrun hchecked, rfl⟩)
  rw [documentsOf]
  split
  · next honline =>
    have hrun : r.store.run database c.document = (.error offline, r.store) := by
      unfold run
      rw [if_pos honline]
    exact hrefused hrun rfl
  split
  · next honline hstandalone =>
    refine hrefused ?_ (checked_failure _ _)
    unfold run
    rw [if_neg honline, hdoc]
    dsimp only
    rw [if_pos hstandalone]
  · next honline hstandalone =>
    have hserving : r.store.Serving := ⟨by simpa using honline, by simpa using hstandalone⟩
    have hrun := run_of_serving hserving database c.verb.name v rest
    rw [← hdoc, dispatch_reading _ database hverb] at hrun
    cases hresult : r.store.databases.retrieve c.verb.name database c.document with
    | error f =>
      rw [hresult] at hrun
      exact hrefused hrun (checked_failure _ _)
    | ok result =>
      rw [hresult] at hrun
      exact ends_fetch_result hs hserving hroom hcursor hrun

end SqlGateway.Execution
