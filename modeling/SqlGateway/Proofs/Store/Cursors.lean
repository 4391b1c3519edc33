import SqlGateway.Execution.Response
import SqlGateway.Proofs.Except
import SqlGateway.Proofs.Store.Invariant

/-! Reading on through cursors comes to an end. A cursor that is named in a reply has
documents waiting under it, and every further batch leaves fewer of them. -/

namespace SqlGateway.MemoryStore

/-! ### Documents that wait -/

/-- How many documents wait under cursors. -/
def waitingUnder : List (Nat × OpenCursor) → Nat
  | [] => 0
  | e :: cursors => e.2.remaining.length + waitingUnder cursors

theorem waitingUnder_append (l r : List (Nat × OpenCursor)) :
    waitingUnder (l ++ r) = waitingUnder l + waitingUnder r := by
  induction l with
  | nil => rw [List.nil_append, waitingUnder, Nat.zero_add]
  | cons e l ih => rw [List.cons_append, waitingUnder, waitingUnder, ih, Nat.add_assoc]

theorem waiting_eq (s : MemoryStore) : s.waiting = waitingUnder s.cursors := by
  have hfold (cursors : List (Nat × OpenCursor)) (n : Nat) :
      cursors.foldl (fun n e => n + e.2.remaining.length) n = n + waitingUnder cursors := by
    induction cursors generalizing n with
    | nil => rfl
    | cons e cursors ih => rw [List.foldl_cons, ih, waitingUnder, Nat.add_assoc]
  exact (hfold s.cursors 0).trans (Nat.zero_add _)

/-- An open cursor stands apart from all others, whose numbers are different. -/
theorem Sound.split_cursors {s : MemoryStore} (h : s.Sound) {id : Nat} {c : OpenCursor}
    (hmem : (id, c) ∈ s.cursors) :
    ∃ l r, s.cursors = l ++ (id, c) :: r ∧ (∀ e ∈ l, e.1 ≠ id) ∧ ∀ e ∈ r, e.1 ≠ id := by
  obtain ⟨l, r, hlr⟩ := List.append_of_mem hmem
  have hdistinct := h.distinct
  rw [hlr, List.map_append, List.map_cons, List.nodup_append, List.nodup_cons] at hdistinct
  refine ⟨l, r, hlr, fun e he => ?_, fun e he heq => hdistinct.2.1.1 ?_⟩
  · exact hdistinct.2.2 _ (List.mem_map_of_mem he) _ List.mem_cons_self
  · exact List.mem_map.mpr ⟨e, he, heq⟩

/-! ### Batches -/

theorem moreParts_eq_ok {s : MemoryStore} {command : Document} {id size : Nat} {c : OpenCursor}
    (hbatch : command.get? "batchSize" = none) (h : s.moreParts command = .ok ((id, c), size)) :
    (id, c) ∈ s.cursors ∧ size = s.batchSize := by
  rw [moreParts] at h
  split at h
  · cases h
  · obtain ⟨size', hsize, h⟩ := Except.bind_eq_ok.mp h
    rw [CommandField.count?, hbatch] at hsize
    cases hsize
    dsimp only at h
    split at h
    · cases h
    · next hfind =>
      cases h
      exact ⟨List.mem_of_find?_eq_some hfind, rfl⟩

/-- A further batch leaves fewer documents waiting, and some if it names its cursor again. -/
theorem getMore_progress {s : MemoryStore} (h : s.Sound) {command : Document}
    (hbatch : command.get? "batchSize" = none) :
    (∃ f, s.getMore command = (s, .error f)) ∨
      ∃ t docs id ns, s.getMore command = (t, .ok (batchReply "nextBatch" docs id ns)) ∧
        t.waiting < s.waiting ∧ (id ≠ 0 → 0 < t.waiting) := by
  rcases s.getMore_cases command with herror | ⟨id, c, size, hparts, hmore⟩
  · exact .inl herror
  obtain ⟨hmem, rfl⟩ := moreParts_eq_ok hbatch hparts
  have hpos : 0 < c.remaining.length := List.length_pos_iff.mpr (h.remaining _ hmem)
  have hsize := s.batchSize_pos
  obtain ⟨l, r, hlr, hl, hr⟩ := h.split_cursors hmem
  have hwaiting : s.waiting = waitingUnder l + (c.remaining.length + waitingUnder r) := by
    rw [waiting_eq, hlr, waitingUnder_append, waitingUnder]
  rcases hmore with ⟨-, hmore⟩ | ⟨hrest, hmore⟩
  · refine .inr ⟨_, _, _, _, hmore, ?_, by simp⟩
    have hclosed : s.cursors.filter (·.1 != id) = l ++ r := by
      rw [hlr, List.filter_append, List.filter_cons_of_neg (by simp),
        List.filter_eq_self.mpr fun e he => by simpa using hl e he,
        List.filter_eq_self.mpr fun e he => by simpa using hr e he]
    rw [waiting_eq, hwaiting]
    dsimp only
    rw [hclosed, waitingUnder_append]
    omega
  · refine .inr ⟨_, _, _, _, hmore, ?_⟩
    have hkept (es : List (Nat × OpenCursor)) (hes : ∀ e ∈ es, e.1 ≠ id) :
        (es.map fun e => if e.1 = id then (e.1, ⟨e.2.ns, c.remaining.drop s.batchSize⟩) else e) =
          es := by
      refine (List.map_congr_left fun e he => ?_).trans (List.map_id es)
      exact if_neg (hes e he)
    have hleft := List.length_pos_iff.mpr hrest
    rw [List.length_drop] at hleft
    rw [waiting_eq, hwaiting]
    dsimp only
    rw [hlr, List.map_append, List.map_cons, hkept l hl, hkept r hr, if_pos rfl,
      waitingUnder_append, waitingUnder]
    dsimp only
    rw [List.length_drop]
    omega

/-- A reply that names a cursor leaves documents waiting. -/
theorem openCursor_waiting (s : MemoryStore) (result : ResultSet) :
    ∃ docs id, (s.openCursor result).2 = batchReply "firstBatch" docs id result.ns ∧
      (id ≠ 0 → 0 < (s.openCursor result).1.waiting) := by
  rcases s.openCursor_cases result with h | ⟨docs, rest, -, hrest, h⟩ <;> rw [h]
  · exact ⟨result.documents, 0, rfl, by simp⟩
  · refine ⟨docs, s.nextCursor, rfl, fun _ => ?_⟩
    have := List.length_pos_iff.mpr hrest
    rw [waiting_eq]
    dsimp only
    rw [waitingUnder_append, waitingUnder]
    dsimp only
    omega

/-! ### Replies -/

open Response

theorem not_batch_of_failure {key : String} {f : CommandFailure} {b : Batch} :
    Batch.read key f.toResponse ≠ .ok b :=
  nofun

/-- The batch that is read from a reply is the one that was put into it. -/
theorem read_batchReply {key : String} (hkey : key ≠ "id") (docs : List Document) {id : Nat}
    (hid : id < 2 ^ 63) (ns : String) :
    Batch.read key (response (.ok (batchReply key docs id ns))) = .ok ⟨id, docs⟩ := by
  let cursor : Document :=
    [(key, .array (docs.map .document)), ("id", .ofInt64 id), ("ns", .string ns)]
  have hcursor : (response (.ok (batchReply key docs id ns))).get? "cursor" =
      some (.document cursor) := rfl
  have hfield : Fields.get? cursor "id" = some (.ofInt64 id) := by
    rw [Fields.get?_cons, if_neg hkey.symm]
    rfl
  have hitems : Fields.get? cursor key = some (.array (docs.map .document)) := by
    rw [Fields.get?_cons, if_pos rfl]
  have hnumber : (Value.ofInt64 id).integer? = some (id : Int) := by
    rw [Value.ofInt64, Value.integer?, Int64.toInt_ofInt_of_le (by omega) (by omega)]
  rw [Batch.read, hcursor]
  dsimp only [bind, Except.bind]
  rw [hfield]
  dsimp only
  rw [hnumber]
  dsimp only
  rw [hitems]
  dsimp only
  rw [Except.mapM_map_ok]
  · rfl
  · exact fun _ => rfl

/-- A batch goes on only if the reply that it was read from names a cursor. -/
theorem id_of_batchReply {key : String} (hkey : key ≠ "id") {docs : List Document} {id : Nat}
    {ns : String} {b : Batch}
    (h : Batch.read key (response (.ok (batchReply key docs id ns))) = .ok b) (hb : b.id ≠ 0) :
    id ≠ 0 := by
  rintro rfl
  rw [read_batchReply hkey docs (Nat.two_pow_pos 63)] at h
  cases h
  exact hb rfl

/-- What a further batch that was read from the answer of a store leaves waiting. -/
theorem run_getMore_progress [Host] {s : MemoryStore} (hs : s.Sound) {database : String} {v : Value}
    {rest answer : Document} {b : Batch} (hbatch : Fields.get? rest "batchSize" = none)
    (hanswer : (s.run database (("getMore", v) :: rest)).1 = .ok answer)
    (hb : Batch.next answer = .ok b) :
    (s.run database (("getMore", v) :: rest)).2.waiting < s.waiting ∧
      (b.id ≠ 0 → 0 < (s.run database (("getMore", v) :: rest)).2.waiting) := by
  by_cases hserving : s.Serving
  · rw [run_of_serving hserving] at hanswer ⊢
    cases hanswer
    have hcommand : Fields.get? (("getMore", v) :: rest) "batchSize" = none := by
      rw [Fields.get?_cons, if_neg (by decide), hbatch]
    change Batch.next (response (s.getMore _).2) = .ok b at hb
    change (s.getMore _).1.waiting < _ ∧ (_ → 0 < (s.getMore _).1.waiting)
    rcases getMore_progress hs hcommand with ⟨f, hmore⟩ | ⟨t, docs, id, ns, hmore, hlt, hpos⟩ <;>
      rw [hmore] at hb ⊢
    · exact absurd hb not_batch_of_failure
    · exact ⟨hlt, fun hid => hpos (id_of_batchReply (by decide) hb hid)⟩
  · obtain ⟨f, rfl⟩ := answer_of_not_serving hserving hanswer
    exact absurd hb not_batch_of_failure

/-- What a first batch that was read from the answer of a store leaves waiting. -/
theorem run_first_waiting [Host] {s : MemoryStore} {database verb : String} {v : Value}
    {rest answer : Document} {b : Batch} (hverb : verb = "find" ∨ verb = "aggregate")
    (hanswer : (s.run database ((verb, v) :: rest)).1 = .ok answer)
    (hb : Batch.first answer = .ok b) (hid : b.id ≠ 0) :
    0 < (s.run database ((verb, v) :: rest)).2.waiting := by
  by_cases hserving : s.Serving
  · rw [run_of_serving hserving] at hanswer ⊢
    cases hanswer
    obtain ⟨result, hresult⟩ : ∃ result,
        s.dispatch database verb ((verb, v) :: rest) = s.opened result := by
      rcases hverb with rfl | rfl <;> exact ⟨_, rfl⟩
    rw [hresult] at hb ⊢
    rcases result with f | r
    · exact absurd hb not_batch_of_failure
    · obtain ⟨docs, id, hreply, hpos⟩ := s.openCursor_waiting r
      rw [opened, hreply] at hb
      exact hpos (id_of_batchReply (by decide) hb hid)
  · obtain ⟨f, rfl⟩ := answer_of_not_serving hserving hanswer
    exact absurd hb not_batch_of_failure

end SqlGateway.MemoryStore
