import Mathlib.Data.List.Basic
import SqlGateway.Proofs.Plan.Commands
import SqlGateway.Proofs.Store.Deletion
import SqlGateway.Proofs.Store.Invariant

/-! Changing every document that satisfies a filter. The documents to change are
found first and then changed one at a time, in their places. A clash with a
unique index ends this early, with the changes made so far kept; an assignment to
the identifier is refused at the first document, before any change. -/

namespace SqlGateway

attribute [local instance] Host.universal

/-! ### One document -/

namespace Update

theorem foldlM_set_cases (fields : Document) :
    (∃ f, ∀ d, fields.foldlM (fun d (path, v) => applyField "$set" d path v) d = .error f) ∨
      ∀ d, ∃ next, fields.foldlM (fun d (path, v) => applyField "$set" d path v) d = .ok next := by
  induction fields with
  | nil => exact .inr fun d => ⟨d, rfl⟩
  | cons e fields ih =>
    obtain ⟨path, v⟩ := e
    have hcons (d : Document) :
        ((path, v) :: fields).foldlM (fun d (path, v) => applyField "$set" d path v) d = (do
          guardIdentity path
          fields.foldlM (fun d (path, v) => applyField "$set" d path v) (d.setPath path v)) := by
      rw [List.foldlM_cons]
      dsimp only [applyField]
      rcases guardIdentity path with f | ⟨⟨⟩⟩ <;> rfl
    simp only [hcons]
    rcases guardIdentity path with f | ⟨⟨⟩⟩
    · exact .inl ⟨f, fun _ => rfl⟩
    · rcases ih with ⟨f, hf⟩ | hnext
      · exact .inl ⟨f, fun d => hf _⟩
      · exact .inr fun d => hnext _

/-- Setting fields fails on every document or on none. -/
theorem apply_set_cases (fields : Document) :
    (∃ f, ∀ d, apply d [("$set", .document fields)] = .error f) ∨
      ∀ d, ∃ next modified, apply d [("$set", .document fields)] = .ok (next, modified) := by
  have happly (d : Document) : apply d [("$set", .document fields)] = do
      let next ← fields.foldlM (fun d (path, v) => applyField "$set" d path v) d
      return (next, !sameDocument d next) := by
    have hoperators : (Fields.keys [("$set", Value.document fields)]).any
        (fun k => k.toList.head? == some '$') = true := by
      change ["$set"].any (fun k => k.toList.head? == some '$') = true
      decide
    rw [apply, if_pos hoperators, List.foldlM_cons]
    exact congrArg (· >>= fun next => pure (next, !sameDocument d next)) (bind_pure _)
  simp only [happly]
  rcases foldlM_set_cases fields with ⟨f, hf⟩ | hnext
  · exact .inl ⟨f, fun d => by rw [hf]; rfl⟩
  · refine .inr fun d => ?_
    obtain ⟨next, hnext⟩ := hnext d
    exact ⟨next, _, by rw [hnext]; rfl⟩

end Update

/-! ### Documents at positions -/

/-- Documents before and after those at some positions are changed. -/
structure Document.ChangedAt (change : Document) (positions : List Nat) (docs after : List Document) :
    Prop where
  length : after.length = docs.length
  changed : ∀ i ∈ positions, ∃ d next modified, docs[i]? = some d ∧
    Update.apply d change = .ok (next, modified) ∧ after[i]? = some next
  kept : ∀ i, i ∉ positions → after[i]? = docs[i]?

namespace Document.ChangedAt

variable {change d next : Document} {done : List Nat} {docs after : List Document} {i : Nat}

theorem nil : change.ChangedAt [] docs docs := ⟨rfl, nofun, fun _ _ => rfl⟩

/-- One change before others elsewhere. -/
theorem cons {modified : Bool} (hd : docs[i]? = some d)
    (hnext : Update.apply d change = .ok (next, modified)) (hi : i ∉ done)
    (h : change.ChangedAt done (docs.set i next) after) : change.ChangedAt (i :: done) docs after where
  length := h.length.trans List.length_set
  changed j hj := by
    rcases List.mem_cons.mp hj with rfl | hj
    · refine ⟨d, next, modified, hd, hnext, (h.kept j hi).trans ?_⟩
      exact List.getElem?_set_self (List.getElem?_eq_some_iff.mp hd).1
    · have hij : i ≠ j := fun heq => hi (heq ▸ hj)
      obtain ⟨e, hej⟩ := h.changed j hj
      rw [List.getElem?_set_ne hij] at hej
      exact ⟨e, hej⟩
  kept j hj := by
    rw [List.mem_cons, not_or] at hj
    rw [h.kept j hj.2, List.getElem?_set_ne (Ne.symm hj.1)]

/-- Changed documents keep their identifiers. -/
theorem identifiers (h : change.ChangedAt done docs after)
    (hid : ∀ d ∈ docs, (d.get? "_id").isSome) :
    after.map (Fields.get? · "_id") = docs.map (Fields.get? · "_id") := by
  refine List.ext_getElem? fun i => ?_
  rw [List.getElem?_map, List.getElem?_map]
  by_cases hi : i ∈ done
  · obtain ⟨d, next, modified, hd, hnext, hafter⟩ := h.changed i hi
    obtain ⟨id, hdid⟩ := Option.isSome_iff_exists.mp (hid d (List.mem_of_getElem? hd))
    rw [hd, hafter, Option.map_some, Option.map_some, hdid, Update.get?_apply hdid hnext]
  · rw [h.kept i hi]

end Document.ChangedAt

namespace Collection

/-! ### The positions to change -/

theorem positions_cons [Host] (q d : Document) (start : Nat) (ds : List Document) :
    positions q true start (d :: ds) = (do
      if ← d.matches q then return start :: (← positions q true (start + 1) ds)
      else positions q true (start + 1) ds) :=
  rfl

theorem positions_of_evaluates [Host] {q : Document} {docs : List Document}
    (h : ∀ d ∈ docs, q.Evaluates d) (start : Nat) :
    positions q true start docs = .ok (docs.findIdxs q.accepts start) := by
  induction docs generalizing start with
  | nil => rfl
  | cons d docs ih =>
    obtain ⟨⟨b, hb⟩, h⟩ := List.forall_mem_cons.mp h
    have haccepts : q.accepts d = b := by rw [Document.accepts, hb]
    rw [positions_cons, hb, ih h, List.findIdxs_cons, haccepts]
    cases b <;> rfl

theorem positions_of_failsFirst [Host] {q : Document} {docs : List Document} {f : CommandFailure}
    (h : q.FailsFirst docs f) (start : Nat) : positions q true start docs = .error f := by
  obtain ⟨l, d, r, rfl, hl, hd⟩ := h
  induction l generalizing start with
  | nil =>
    rw [List.nil_append, positions_cons, hd]
    rfl
  | cons x l ih =>
    obtain ⟨⟨b, hb⟩, hl⟩ := List.forall_mem_cons.mp hl
    rw [List.cons_append, positions_cons, hb, ih (start + 1) hl]
    cases b <;> rfl

/-! ### Changing -/

variable {change : Document} {c : Collection}

/-- A change at a position fails, clashes, or puts the changed document in its place. -/
theorem changeAt_cases (ns : String) {i : Nat} {d : Document} (hd : c.documents[i]? = some d) :
    (∃ f, Update.apply d change = .error f ∧ c.changeAt ns change i = .error f) ∨
      (∃ f, c.changeAt ns change i = .ok (.error f)) ∨
      ∃ next modified, Update.apply d change = .ok (next, modified) ∧
        c.changeAt ns change i =
          .ok (.ok ({ c with documents := c.documents.set i next }, modified)) := by
  rw [changeAt, List.getD_eq_getElem?_getD, hd, Option.getD_some]
  rcases Update.apply d change with f | ⟨next, modified⟩
  · exact .inl ⟨f, rfl, rfl⟩
  · refine .inr ?_
    rw [Except.ok_bind]
    dsimp only
    rcases violation? c.indexes ns (c.documents.eraseIdx i) next with _ | f
    · exact .inr ⟨next, modified, rfl, rfl⟩
    · exact .inl ⟨f, rfl⟩

/-- Changes at different positions: the first of them are made, up to all, up to a clash, or up to a
document that cannot be changed. -/
theorem changeAll_cases (change : Document) (ns : String) (statement : Nat) {targets : List Nat}
    (hnodup : targets.Nodup) (htargets : ∀ i ∈ targets, i < c.documents.length) (w : Written) :
    ∃ done rest after modified, targets = done ++ rest ∧ change.ChangedAt done c.documents after ∧
      let w' := { w with count := w.count + done.length, modified }
      ((rest = [] ∧
          c.changeAll ns statement change w targets =
            ({ c with documents := after }, .ok (w', false))) ∨
        (rest ≠ [] ∧ ∃ f : CommandFailure,
          c.changeAll ns statement change w targets = ({ c with documents := after },
            .ok ({ w' with errors := w.errors ++ [.document (f.toWriteError statement)] }, true))) ∨
        ∃ d f, Update.apply d change = .error f ∧
          c.changeAll ns statement change w targets = ({ c with documents := after }, .error f)) := by
  induction targets generalizing c w with
  | nil => exact ⟨[], [], c.documents, w.modified, rfl, .nil, .inl ⟨rfl, rfl⟩⟩
  | cons i targets ih =>
    obtain ⟨hi, hnodup⟩ := List.nodup_cons.mp hnodup
    obtain ⟨hlt, htargets⟩ := List.forall_mem_cons.mp htargets
    have hd := List.getElem?_eq_getElem hlt
    rcases changeAt_cases ns hd with ⟨f, hfails, hat⟩ | ⟨f, hat⟩ | ⟨next, modified, hnext, hat⟩
    · refine ⟨[], i :: targets, c.documents, w.modified, rfl, .nil, .inr (.inr ?_)⟩
      exact ⟨_, f, hfails, by rw [changeAll, hat]⟩
    · refine ⟨[], i :: targets, c.documents, w.modified, rfl, .nil, .inr (.inl ?_)⟩
      exact ⟨List.cons_ne_nil _ _, f, by rw [changeAll, hat]; rfl⟩
    · -- the change at one position leaves the documents at all others to come as they were
      have htargets' : ∀ j ∈ targets, j < (c.documents.set i next).length := by
        rwa [List.length_set]
      obtain ⟨done, rest, after, m, rfl, hafter, hall⟩ :=
        ih (c := { c with documents := c.documents.set i next }) hnodup htargets'
          { w with count := w.count + 1, modified := w.modified + (if modified then 1 else 0) }
      have hdone : i ∉ done := fun hmem => hi (List.mem_append_left _ hmem)
      refine ⟨i :: done, rest, after, m, rfl, hafter.cons hd hnext hdone, ?_⟩
      rw [changeAll, hat]
      dsimp only
      rw [List.length_cons, Nat.add_comm done.length, ← Nat.add_assoc]
      exact hall

theorem update_updateMany [Host] (c : Collection) (ns : String) (q change : Document) :
    c.update ns .none 0 [.document [("q", .document q), ("u", .document change),
      ("multi", .bool true)]] =
      match positions q true 0 c.documents with
      | .error f => (c, .error f)
      | .ok targets =>
        ((c.changeAll ns 0 change .none targets).1,
          (c.changeAll ns 0 change .none targets).2.map Prod.fst) := by
  have hparts : updateParts (.document [("q", .document q), ("u", .document change),
      ("multi", .bool true)]) = .ok (q, change, true) := rfl
  rw [update, hparts]
  dsimp only
  rw [Except.ok_bind]
  rcases positions q true 0 c.documents with f | targets
  · rfl
  · dsimp only [Except.ok_bind, pure, Except.pure, bind, Except.bind]
    rcases c.changeAll ns 0 change .none targets with ⟨c, f | ⟨w, _ | _⟩⟩ <;> rfl

/-- Changing every document that satisfies a filter, where the change fails on every document or on
none: all are changed, the first of them are up to a clash, or none is. -/
theorem update_cases [Host] (hchange : (∃ f, ∀ d, Update.apply d change = .error f) ∨
      ∀ d, ∃ next modified, Update.apply d change = .ok (next, modified))
    (c : Collection) (ns : String) (q : Document) :
    ∃ after outcome, c.update ns .none 0 [.document [("q", .document q), ("u", .document change),
        ("multi", .bool true)]] = ({ c with documents := after }, outcome) ∧
      let targets := c.documents.findIdxs q.accepts
      (((∀ d ∈ c.documents, q.Evaluates d) ∧ change.ChangedAt targets c.documents after ∧
          ∃ modified, outcome = .ok ⟨targets.length, modified, []⟩) ∨
        ((∀ d ∈ c.documents, q.Evaluates d) ∧ ∃ k < targets.length,
          change.ChangedAt (targets.take k) c.documents after ∧
            ∃ modified, ∃ f : CommandFailure,
              outcome = .ok ⟨k, modified, [.document (f.toWriteError 0)]⟩) ∨
        (after = c.documents ∧ ∃ f, outcome = .error f)) := by
  rw [update_updateMany]
  rcases Document.evaluates_or_failsFirst q c.documents with heval | ⟨f, hfails⟩
  case inr =>
    rw [positions_of_failsFirst hfails]
    exact ⟨c.documents, .error f, rfl, .inr (.inr ⟨rfl, f, rfl⟩)⟩
  rw [positions_of_evaluates heval]
  have htargets : ∀ i ∈ c.documents.findIdxs q.accepts, i < c.documents.length := by
    intro i hi
    simpa using List.lt_add_of_mem_findIdxs i hi
  obtain ⟨done, rest, after, m, hdone, hafter, hall⟩ :=
    changeAll_cases change ns 0 List.nodup_findIdxs htargets .none
  dsimp only
  rw [hdone]
  rw [hdone] at hall
  rcases hall with ⟨rfl, hall⟩ | ⟨hrest, f, hall⟩ | ⟨d, f, hd, hall⟩
  · refine ⟨after, .ok ⟨0 + done.length, m, []⟩, by rw [hall]; rfl, .inl ⟨heval, ?_, m, ?_⟩⟩
    · rwa [List.append_nil]
    · rw [List.append_nil, Nat.zero_add]
  · refine ⟨after, .ok ⟨0 + done.length, m, [.document (f.toWriteError 0)]⟩, by rw [hall]; rfl,
      .inr (.inl ⟨heval, done.length, ?_, ?_, m, f, ?_⟩)⟩
    · have := List.length_pos_of_ne_nil hrest
      rw [List.length_append]
      omega
    · rwa [List.take_left]
    · rw [Nat.zero_add]
  · -- a change that fails at all has failed at the first document
    refine ⟨after, .error f, by rw [hall]; rfl, .inr (.inr ⟨?_, f, rfl⟩)⟩
    rcases hchange with ⟨g, hg⟩ | hchange
    · obtain rfl : done = [] := by
        refine List.eq_nil_iff_forall_not_mem.mpr fun i hi => ?_
        obtain ⟨e, next, modified, -, hnext, -⟩ := hafter.changed i hi
        rw [hg] at hnext
        cases hnext
      exact List.ext_getElem? fun i => hafter.kept i List.not_mem_nil
    · obtain ⟨next, modified, hnext⟩ := hchange d
      rw [hd] at hnext
      cases hnext

end Collection

/-! ### Commands -/

namespace Databases

theorem update_updateMany [Host] (dbs : Databases) (database name : String) (q change : Document) :
    dbs.update database (Command.updateMany name q change).document =
      match dbs.collection? database name with
      | none => (dbs, .ok [("n", .int 0), ("nModified", .int 0)])
      | some c =>
        let outcome := c.update (namespaceOf database name) .none 0
          [.document [("q", .document q), ("u", .document change), ("multi", .bool true)]]
        (dbs.putCollection database name outcome.1, outcome.2.map fun w =>
          withWriteErrors [("n", .ofInt32 w.count), ("nModified", .ofInt32 w.modified)] w) := by
  have hparts : (do
      let n ← CommandField.target (Command.updateMany name q change).document "update"
      return (n, ← CommandField.array (Command.updateMany name q change).document "updates")) =
      (.ok (name, [.document [("q", .document q), ("u", .document change), ("multi", .bool true)]]) :
        Except CommandFailure (String × List Value)) := rfl
  rw [update, hparts]
  dsimp only
  rcases dbs.collection? database name with _ | c <;> rfl

/-- What changing every document of a collection that satisfies a filter does to the databases. -/
theorem update_cases [Host] {change : Document}
    (hchange : (∃ f, ∀ d, Update.apply d change = .error f) ∨
      ∀ d, ∃ next modified, Update.apply d change = .ok (next, modified))
    (dbs : Databases) (database name : String) (q : Document) :
    let outcome := dbs.update database (Command.updateMany name q change).document
    let docs := dbs.documents database name
    let after := outcome.1.documents database name
    (((∀ d ∈ docs, q.Evaluates d) ∧ change.ChangedAt (docs.findIdxs q.accepts) docs after ∧
        ∃ modified : Nat, outcome.2 =
          .ok [("n", .ofInt32 (docs.countP q.accepts)), ("nModified", .ofInt32 modified)]) ∨
      ((∀ d ∈ docs, q.Evaluates d) ∧ ∃ k < docs.countP q.accepts,
        change.ChangedAt ((docs.findIdxs q.accepts).take k) docs after ∧
          ∃ (modified : Nat) (f : CommandFailure), outcome.2 = .ok [("n", .ofInt32 k),
            ("nModified", .ofInt32 modified),
            ("writeErrors", .array [.document (f.toWriteError 0)])]) ∨
      (∃ f, outcome.2 = .error f) ∧
        ∀ db n, outcome.1.collection? db n = dbs.collection? db n) ∧
    (∀ db n, ¬(db = database ∧ n = name) →
      outcome.1.collection? db n = dbs.collection? db n) ∧
    ∀ db n, (outcome.1.collection? db n).map (·.indexes) =
      (dbs.collection? db n).map (·.indexes) := by
  dsimp only
  rw [update_updateMany]
  rcases hc : dbs.collection? database name with _ | c
  · have hdocs : dbs.documents database name = [] := by rw [documents, hc]; rfl
    dsimp only
    rw [hdocs]
    exact ⟨.inl ⟨List.forall_mem_nil _, .nil, 0, rfl⟩, fun _ _ _ => rfl, fun _ _ => rfl⟩
  have hdocs : dbs.documents database name = c.documents := by rw [documents, hc]; rfl
  obtain ⟨after, outcome, hupdate, hcases⟩ :=
    Collection.update_cases hchange c (namespaceOf database name) q
  dsimp only
  rw [hupdate, hdocs, documents_putCollection, ← List.length_findIdxs]
  refine ⟨?_, fun db n hne => ?_, indexes_putCollection hc rfl⟩
  · rcases hcases with ⟨heval, hafter, m, rfl⟩ | ⟨heval, k, hk, hafter, m, f, rfl⟩ | ⟨rfl, f, rfl⟩
    · exact .inl ⟨heval, hafter, m, rfl⟩
    · exact .inr (.inl ⟨heval, k, hk, hafter, m, f, rfl⟩)
    · refine .inr (.inr ⟨⟨f, rfl⟩, fun db n => ?_⟩)
      rw [collection?_putCollection]
      split
      · next heq => rw [heq.1, heq.2, hc]
      · rfl
  · rw [collection?_putCollection, if_neg hne]

end Databases

namespace MemoryStore

/-- What changing every document of a collection that satisfies a filter does to a store, and what
the store answers. -/
theorem run_updateMany [Host] {change : Document}
    (hchange : (∃ f, ∀ d, Update.apply d change = .error f) ∨
      ∀ d, ∃ next modified, Update.apply d change = .ok (next, modified))
    (s : MemoryStore) (database collection : String) (q : Document) :
    let answer := (s.run database (Command.updateMany collection q change).document).1
    let t := (s.run database (Command.updateMany collection q change).document).2
    let docs := s.databases.documents database collection
    let after := t.databases.documents database collection
    (((∀ d ∈ docs, q.Evaluates d) ∧ change.ChangedAt (docs.findIdxs q.accepts) docs after ∧
        ∃ modified : Nat, answer = .ok [("n", .ofInt32 (docs.countP q.accepts)),
          ("nModified", .ofInt32 modified), ("ok", .ofFloat 1.0)]) ∨
      ((∀ d ∈ docs, q.Evaluates d) ∧ ∃ k < docs.countP q.accepts,
        change.ChangedAt ((docs.findIdxs q.accepts).take k) docs after ∧
          ∃ (modified : Nat) (f : CommandFailure), answer = .ok [("n", .ofInt32 k),
            ("nModified", .ofInt32 modified),
            ("writeErrors", .array [.document (f.toWriteError 0)]), ("ok", .ofFloat 1.0)]) ∨
      ((∃ f : CommandFailure, answer = .ok f.toResponse) ∧
        ∀ db n, t.databases.collection? db n = s.databases.collection? db n) ∨
      (∃ e, answer = .error e) ∧ t = s) ∧
    (∀ db n, ¬(db = database ∧ n = collection) →
      t.databases.collection? db n = s.databases.collection? db n) ∧
    ∀ db n, (t.databases.collection? db n).map (·.indexes) =
      (s.databases.collection? db n).map (·.indexes) := by
  intro answer t docs after
  by_cases hserving : s.Serving
  case neg =>
    have ht : t = s := run_of_not_serving hserving database _
    have hsame (db n : String) : t.databases.collection? db n = s.databases.collection? db n := by
      rw [ht]
    refine ⟨.inr (.inr ?_), fun db n _ => hsame db n, fun db n => by rw [hsame]⟩
    rcases hanswer : answer with e | response
    · exact .inr ⟨⟨e, rfl⟩, ht⟩
    · obtain ⟨f, rfl⟩ := answer_of_not_serving hserving hanswer
      exact .inl ⟨⟨f, rfl⟩, hsame⟩
  obtain ⟨hcases, hframe⟩ := Databases.update_cases hchange s.databases database collection q
  have hrun : s.run database (Command.updateMany collection q change).document =
      (.ok (response (s.databases.update database
        (Command.updateMany collection q change).document).2),
        { s with databases := (s.databases.update database
          (Command.updateMany collection q change).document).1 }) :=
    run_of_serving hserving database "update" _ _
  have ht : t.databases = (s.databases.update database
      (Command.updateMany collection q change).document).1 := congrArg (·.2.databases) hrun
  have hanswer : answer = .ok (response (s.databases.update database
      (Command.updateMany collection q change).document).2) := congrArg Prod.fst hrun
  rw [← ht] at hcases hframe
  refine ⟨?_, hframe⟩
  rcases hcases with ⟨heval, hchanged, m, hreply⟩ | ⟨heval, k, hk, hchanged, m, f, hreply⟩ |
    ⟨⟨f, hreply⟩, hsame⟩
  · rw [hreply] at hanswer
    exact .inl ⟨heval, hchanged, m, hanswer⟩
  · rw [hreply] at hanswer
    exact .inr (.inl ⟨heval, k, hk, hchanged, m, f, hanswer⟩)
  · rw [hreply] at hanswer
    exact .inr (.inr (.inl ⟨⟨f, hanswer⟩, hsame⟩))

/-- The command of an UPDATE changes each document that satisfies the filter, in its place, and
counts them; or the first of them, up to a clash with a unique index; or nothing. Identifiers,
indexes and other collections stay as they are, and no unique index is violated. -/
theorem run_ofUpdate [Host] {s : MemoryStore} (hs : s.Reachable) {collection : String}
    {values : Assignments} {wheres : List Predicate} {plan : Plan}
    (hplan : Plan.ofUpdate collection values wheres = .ok plan) (database : String) :
    ∃ filter command, Filter.ofPredicates? .plain wheres = .ok filter ∧ plan.commands = [command] ∧
      let q := filter.getD []
      let change : Document := [("$set", .document (Plan.storedValues values))]
      let answer := (s.run database command.document).1
      let t := (s.run database command.document).2
      let docs := s.databases.documents database collection
      let after := t.databases.documents database collection
      (((∀ d ∈ docs, q.Evaluates d) ∧ change.ChangedAt (docs.findIdxs q.accepts) docs after ∧
          ∃ modified : Nat, answer = .ok [("n", .ofInt32 (docs.countP q.accepts)),
            ("nModified", .ofInt32 modified), ("ok", .ofFloat 1.0)]) ∨
        ((∀ d ∈ docs, q.Evaluates d) ∧ ∃ k < docs.countP q.accepts,
          change.ChangedAt ((docs.findIdxs q.accepts).take k) docs after ∧
            ∃ (modified : Nat) (f : CommandFailure), answer = .ok [("n", .ofInt32 k),
              ("nModified", .ofInt32 modified),
              ("writeErrors", .array [.document (f.toWriteError 0)]), ("ok", .ofFloat 1.0)]) ∨
        ((∃ f : CommandFailure, answer = .ok f.toResponse) ∧
          ∀ db n, t.databases.collection? db n = s.databases.collection? db n) ∨
        (∃ e, answer = .error e) ∧ t = s) ∧
      after.map (Fields.get? · "_id") = docs.map (Fields.get? · "_id") ∧
      (∀ c, t.databases.collection? database collection = some c →
        ∀ i ∈ c.indexes, i.unique = true → i.Separates after) ∧
      (∀ db n, ¬(db = database ∧ n = collection) →
        t.databases.collection? db n = s.databases.collection? db n) ∧
      ∀ db n, (t.databases.collection? db n).map (·.indexes) =
        (s.databases.collection? db n).map (·.indexes) := by
  obtain ⟨filter, hfilter, hcommands⟩ := Plan.exists_commands_ofUpdate hplan
  refine ⟨filter, _, hfilter, hcommands, ?_⟩
  intro q change answer t docs after
  have hbefore : s.Sound := sound_of_reachable hs
  have hafter : t.Sound := hbefore.run database _
  have hid : ∀ d ∈ docs, (Fields.get? d "_id").isSome := hbefore.databases.hasIdentity _ _
  obtain ⟨hcases, hframe⟩ :=
    run_updateMany (Update.apply_set_cases (Plan.storedValues values)) s database collection q
  refine ⟨hcases, ?_, fun c hc => ?_, hframe⟩
  · rcases hcases with ⟨-, hchanged, -⟩ | ⟨-, k, -, hchanged, -⟩ | ⟨-, hsame⟩ | ⟨-, hsame⟩
    · exact hchanged.identifiers hid
    · exact hchanged.identifiers hid
    · have hdocs : after = docs := by
        rw [show after = t.databases.documents database collection from rfl, Databases.documents,
          hsame]
        rfl
      rw [hdocs]
    · have hdocs : after = docs := congrArg (·.databases.documents database collection) hsame
      rw [hdocs]
  · have hdocs : after = c.documents := by
      rw [show after = t.databases.documents database collection from rfl, Databases.documents, hc]
      rfl
    rw [hdocs]
    exact (hafter.databases.collection? hc).separated

/-- Two documents are to have one key under a unique index: the first is changed, and the second
ends the update. -/
theorem run_ofUpdate_clash :
    let s := ((holding "t" [[("_id", .int 1), ("a", .int 1)], [("_id", .int 2), ("a", .int 2)]]).run
      "app" [("createIndexes", .string "t"), ("indexes", .array [.document
        [("key", .document [("a", .int 1)]), ("name", .string "a_1"), ("unique", .bool true)]])]).2
    ∃ plan command, Plan.ofUpdate "t" [("a", .integer 5)] [] = .ok plan ∧ plan.commands = [command] ∧
      let t := (s.run "app" command.document).2
      t.databases.documents "app" "t" =
          [[("_id", .int 1), ("a", .int 5)], [("_id", .int 2), ("a", .int 2)]] ∧
        ∀ c, t.databases.collection? "app" "t" = some c →
          ∀ i ∈ c.indexes, i.unique = true → i.Separates (t.databases.documents "app" "t") := by
  intro s
  have hs : s.Reachable := .run _ _ (reachable_holding "t" _)
  obtain ⟨plan, hplan⟩ : ∃ plan, Plan.ofUpdate "t" [("a", .integer 5)] [] = .ok plan := ⟨_, rfl⟩
  obtain ⟨filter, command, -, hcommand, -, -, hseparated, -⟩ := run_ofUpdate hs hplan "app"
  refine ⟨plan, command, hplan, hcommand, ?_, hseparated⟩
  obtain rfl : command = .updateMany "t" [] [("$set", .document [("a", .int 5)])] := by
    cases hplan
    cases hcommand
    rfl
  rfl

end MemoryStore

end SqlGateway
