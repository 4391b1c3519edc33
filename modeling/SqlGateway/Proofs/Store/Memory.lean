import SqlGateway.Store.Memory

/-! What a command can do to a store in memory. A store that is switched off, or
that has no transactions and is in one, carries nothing out. A command that is
carried out changes databases, cursors and the count of identifiers, and nothing
else. -/

namespace SqlGateway.MemoryStore

/-- Whether the store carries commands out. -/
def Serving (s : MemoryStore) : Prop :=
  s.online = true ∧ (s.standalone && s.inTransaction) = false

theorem run_of_serving [Host] {s : MemoryStore} (h : s.Serving) (database verb : String) (v : Value)
    (rest : Document) :
    s.run database ((verb, v) :: rest) =
      (.ok (response (s.dispatch database verb ((verb, v) :: rest)).2),
        (s.dispatch database verb ((verb, v) :: rest)).1) := by
  rw [run, h.1]
  dsimp only
  rw [h.2]
  rfl

theorem run_of_not_serving [Host] {s : MemoryStore} (h : ¬s.Serving) (database : String)
    (command : Document) : (s.run database command).2 = s := by
  unfold run
  by_cases honline : s.online = true
  · have hstandalone : (s.standalone && s.inTransaction) = true := by
      rw [← Bool.not_eq_false]
      exact fun h' => h ⟨honline, h'⟩
    rw [honline, hstandalone]
    rcases command with _ | ⟨⟨verb, v⟩, rest⟩ <;> rfl
  · simp [honline]

/-- A store that carries nothing out fails or answers with a failure. -/
theorem answer_of_not_serving [Host] {s : MemoryStore} (h : ¬s.Serving) {database : String}
    {command response : Document} (hanswer : (s.run database command).1 = .ok response) :
    ∃ f : CommandFailure, response = f.toResponse := by
  unfold run at hanswer
  split at hanswer
  · cases hanswer
  · next honline =>
    split at hanswer
    · cases hanswer
    split at hanswer
    · cases hanswer
      exact ⟨_, rfl⟩
    · next hstandalone =>
      exact absurd ⟨by simpa using honline, by simpa using hstandalone⟩ h

theorem run_nil [Host] (s : MemoryStore) (database : String) : (s.run database []).2 = s := by
  unfold run
  split <;> rfl

/-! ### Cursors -/

/-- Opening a cursor: the result fits in its first batch, or the rest waits under a new cursor. -/
theorem openCursor_cases (s : MemoryStore) (r : ResultSet) :
    s.openCursor r = (s, batchReply "firstBatch" r.documents 0 r.ns) ∨
      ∃ batch rest, batch ++ rest = r.documents ∧ rest ≠ [] ∧ s.openCursor r =
        ({ s with
            cursors := s.cursors ++ [(s.nextCursor, ⟨r.ns, rest⟩)]
            nextCursor := s.nextCursor + 1 },
          batchReply "firstBatch" batch s.nextCursor r.ns) := by
  obtain ⟨size, h⟩ : ∃ size, s.openCursor r =
      let rest := r.documents.drop size
      if rest.isEmpty then (s, batchReply "firstBatch" (r.documents.take size) 0 r.ns)
      else
        ({ s with
            cursors := s.cursors ++ [(s.nextCursor, ⟨r.ns, rest⟩)]
            nextCursor := s.nextCursor + 1 },
          batchReply "firstBatch" (r.documents.take size) s.nextCursor r.ns) := ⟨_, rfl⟩
  rw [h]
  dsimp only
  split
  · next hrest =>
    have hbatch := List.take_append_drop size r.documents
    rw [List.isEmpty_iff.mp hrest, List.append_nil] at hbatch
    exact .inl (by rw [hbatch])
  · next hrest => exact .inr ⟨_, _, List.take_append_drop size _, by simpa using hrest, rfl⟩

/-- A result of at most one document fits in its first batch. -/
theorem openCursor_of_length_le (s : MemoryStore) {r : ResultSet} (h : r.documents.length ≤ 1) :
    s.openCursor r = (s, batchReply "firstBatch" r.documents 0 r.ns) := by
  obtain ⟨size, hpos, hopen⟩ : ∃ size, 0 < size ∧ s.openCursor r =
      let rest := r.documents.drop size
      if rest.isEmpty then (s, batchReply "firstBatch" (r.documents.take size) 0 r.ns)
      else
        ({ s with
            cursors := s.cursors ++ [(s.nextCursor, ⟨r.ns, rest⟩)]
            nextCursor := s.nextCursor + 1 },
          batchReply "firstBatch" (r.documents.take size) s.nextCursor r.ns) := by
    refine ⟨_, ?_, rfl⟩
    split
    · exact Nat.succ_pos _
    · exact s.batchSize_pos
  have hfits : r.documents.length ≤ size := by omega
  rw [hopen, List.drop_of_length_le hfits, List.take_of_length_le hfits]
  rfl

/-- Fetching more: the command is refused, or the cursor it names is read to its end and closed, or
what remains waits under it. -/
theorem getMore_cases (s : MemoryStore) (command : Document) :
    (∃ f, s.getMore command = (s, .error f)) ∨
      ∃ id c size, s.moreParts command = .ok ((id, c), size) ∧
        ((c.remaining.drop size = [] ∧ s.getMore command =
            ({ s with cursors := s.cursors.filter (·.1 != id) },
              .ok (batchReply "nextBatch" (c.remaining.take size) 0 c.ns))) ∨
          (c.remaining.drop size ≠ [] ∧ s.getMore command =
            ({ s with
                cursors := s.cursors.map fun (n, o) =>
                  if n = id then (n, ⟨o.ns, c.remaining.drop size⟩) else (n, o) },
              .ok (batchReply "nextBatch" (c.remaining.take size) id c.ns)))) := by
  unfold getMore
  rcases s.moreParts command with f | ⟨⟨id, c⟩, size⟩
  · exact .inl ⟨f, rfl⟩
  · refine .inr ⟨id, c, size, rfl, ?_⟩
    dsimp only
    split
    · next h => exact .inl ⟨by simpa using h, rfl⟩
    · next h => exact .inr ⟨by simpa using h, rfl⟩

/-! ### What stays -/

/-- Whether nothing but databases, cursors and the count of identifiers differs. -/
structure SameSession (s t : MemoryStore) : Prop where
  snapshot : t.snapshot = s.snapshot
  transactionActive : t.transactionActive = s.transactionActive
  standalone : t.standalone = s.standalone
  online : t.online = s.online
  latency : t.latency = s.latency
  batchSize : t.batchSize = s.batchSize
  ids : t.ids = s.ids

namespace SameSession

theorem refl (s : MemoryStore) : SameSession s s := ⟨rfl, rfl, rfl, rfl, rfl, rfl, rfl⟩

theorem trans {s t u : MemoryStore} (h : SameSession s t) (h' : SameSession t u) :
    SameSession s u where
  snapshot := h'.snapshot.trans h.snapshot
  transactionActive := h'.transactionActive.trans h.transactionActive
  standalone := h'.standalone.trans h.standalone
  online := h'.online.trans h.online
  latency := h'.latency.trans h.latency
  batchSize := h'.batchSize.trans h.batchSize
  ids := h'.ids.trans h.ids

theorem serving_iff {s t : MemoryStore} (h : SameSession s t) : t.Serving ↔ s.Serving := by
  rw [Serving, Serving, inTransaction, inTransaction, h.online, h.standalone, h.transactionActive]

end SameSession

theorem sameSession_opened (s : MemoryStore) (result : Except CommandFailure ResultSet) :
    SameSession s (s.opened result).1 := by
  rcases result with f | r
  · exact .refl s
  · rw [opened]
    rcases s.openCursor_cases r with h | ⟨batch, rest, -, -, h⟩ <;> rw [h]
    · exact .refl s
    · exact ⟨rfl, rfl, rfl, rfl, rfl, rfl, rfl⟩

theorem sameSession_getMore (s : MemoryStore) (command : Document) :
    SameSession s (s.getMore command).1 := by
  rcases s.getMore_cases command with ⟨f, h⟩ | ⟨id, c, size, -, ⟨-, h⟩ | ⟨-, h⟩⟩ <;> rw [h]
  · exact .refl s
  · exact ⟨rfl, rfl, rfl, rfl, rfl, rfl, rfl⟩
  · exact ⟨rfl, rfl, rfl, rfl, rfl, rfl, rfl⟩

theorem sameSession_dispatch [Host] (s : MemoryStore) (database verb : String) (command : Document) :
    SameSession s (s.dispatch database verb command).1 := by
  unfold dispatch
  split
  case h_1 => exact .refl s
  case h_9 => exact s.sameSession_opened _
  case h_10 => exact s.sameSession_opened _
  case h_11 => exact .refl s
  case h_12 => exact s.sameSession_getMore command
  case h_13 => exact .refl s
  all_goals exact ⟨rfl, rfl, rfl, rfl, rfl, rfl, rfl⟩

theorem sameSession_run [Host] (s : MemoryStore) (database : String) (command : Document) :
    SameSession s (s.run database command).2 := by
  by_cases h : s.Serving
  · rcases command with _ | ⟨⟨verb, v⟩, rest⟩
    · rw [run_nil]
      exact .refl s
    · rw [run_of_serving h]
      exact s.sameSession_dispatch database verb _
  · rw [run_of_not_serving h]
    exact .refl s

/-- Reading through a cursor leaves the databases as they are. -/
theorem databases_run_reading [Host] (s : MemoryStore) (database : String) {verb : String}
    (hverb : verb = "find" ∨ verb = "aggregate" ∨ verb = "getMore") (v : Value) (rest : Document) :
    (s.run database ((verb, v) :: rest)).2.databases = s.databases := by
  have hopened (result : Except CommandFailure ResultSet) :
      (s.opened result).1.databases = s.databases := by
    rcases result with f | r
    · rfl
    · rw [opened]
      rcases s.openCursor_cases r with h | ⟨batch, rest, -, -, h⟩ <;> rw [h]
  by_cases h : s.Serving
  · rw [run_of_serving h]
    rcases hverb with rfl | rfl | rfl
    · exact hopened _
    · exact hopened _
    · change (s.getMore _).1.databases = s.databases
      rcases s.getMore_cases (("getMore", v) :: rest) with
        ⟨f, hmore⟩ | ⟨id, c, size, -, ⟨-, hmore⟩ | ⟨-, hmore⟩⟩ <;> rw [hmore]
  · rw [run_of_not_serving h]

/-! ### Transactions -/

/-- Whether nothing but databases and the state of a transaction differs. -/
structure SameServer (s t : MemoryStore) : Prop where
  cursors : t.cursors = s.cursors
  nextCursor : t.nextCursor = s.nextCursor
  standalone : t.standalone = s.standalone
  online : t.online = s.online

theorem SameServer.refl (s : MemoryStore) : SameServer s s := ⟨rfl, rfl, rfl, rfl⟩

theorem sameServer_startTransaction (s : MemoryStore) : SameServer s s.startTransaction.2 := by
  rw [startTransaction]
  split
  · exact .refl s
  · split <;> exact ⟨rfl, rfl, rfl, rfl⟩

theorem databases_startTransaction (s : MemoryStore) :
    s.startTransaction.2.databases = s.databases := by
  rw [startTransaction]
  split
  · rfl
  · split <;> rfl

theorem sameServer_commitTransaction (s : MemoryStore) : SameServer s s.commitTransaction.2 := by
  rw [commitTransaction]
  split
  · exact .refl s
  split
  · exact .refl s
  · split <;> exact ⟨rfl, rfl, rfl, rfl⟩

theorem sameServer_abortTransaction (s : MemoryStore) : SameServer s s.abortTransaction.2 := by
  rw [abortTransaction]
  split <;> exact ⟨rfl, rfl, rfl, rfl⟩

theorem inTransaction_of_commit {s : MemoryStore} (h : s.commitTransaction.1 = .ok ()) :
    s.commitTransaction.2.inTransaction = false := by
  unfold commitTransaction at h ⊢
  split at h
  · cases h
  split at h
  · cases h
  split at h
  · cases h
  · next honline hactive hstandalone =>
    rw [if_neg honline, if_neg hactive, if_neg hstandalone]
    rfl

theorem commitTransaction_of_error {s : MemoryStore} {e : StoreError}
    (h : s.commitTransaction.1 = .error e) : s.commitTransaction.2 = s := by
  unfold commitTransaction at h ⊢
  split
  · rfl
  split
  · rfl
  split
  · rfl
  · next honline hactive hstandalone =>
    rw [if_neg honline, if_neg hactive, if_neg hstandalone] at h
    cases h

end SqlGateway.MemoryStore
