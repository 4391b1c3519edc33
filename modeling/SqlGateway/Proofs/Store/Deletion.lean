import SqlGateway.Plan.Command
import SqlGateway.Proofs.Store.Databases
import SqlGateway.Proofs.Store.Memory

/-! Deleting every document that satisfies a filter. If the filter can be
evaluated on all documents, the others stay in their order. If it fails on one of
them, the command reports the failure and the collection is left without
documents: the ones before it have been taken out and are not put back. -/

namespace SqlGateway

attribute [local instance] Host.universal

/-- Whether a filter can be evaluated on a document and the document satisfies it. -/
def Document.accepts [Host] (q d : Document) : Bool :=
  match d.matches q with
  | .ok b => b
  | .error _ => false

/-- Whether a filter can be evaluated on a document. -/
def Document.Evaluates [Host] (q d : Document) : Prop := ∃ b, d.matches q = .ok b

/-- Documents on which a filter can be evaluated, followed by one on which it fails. -/
def Document.FailsFirst [Host] (q : Document) (docs : List Document) (f : CommandFailure) : Prop :=
  ∃ l d r, docs = l ++ d :: r ∧ (∀ x ∈ l, q.Evaluates x) ∧ d.matches q = .error f

theorem Document.evaluates_or_failsFirst [Host] (q : Document) (docs : List Document) :
    (∀ d ∈ docs, q.Evaluates d) ∨ ∃ f, q.FailsFirst docs f := by
  induction docs with
  | nil => exact .inl (by simp)
  | cons d docs ih =>
    rcases hd : d.matches q with f | b
    · exact .inr ⟨f, [], d, docs, rfl, by simp, hd⟩
    · rcases ih with h | ⟨f, l, e, r, rfl, hl, he⟩
      · exact .inl (List.forall_mem_cons.mpr ⟨⟨b, hd⟩, h⟩)
      · exact .inr ⟨f, d :: l, e, r, rfl, List.forall_mem_cons.mpr ⟨⟨b, hd⟩, hl⟩, he⟩

/-! ### One statement -/

namespace Collection

theorem reject_cons [Host] (q d : Document) (n : Nat) (ds : List Document) :
    reject q false n (d :: ds) = do
      if ← d.matches q then reject q false (n + 1) ds
      else
        let (kept, removed) ← reject q false n ds
        return (d :: kept, removed) :=
  rfl

theorem reject_of_evaluates [Host] {q : Document} {docs : List Document}
    (h : ∀ d ∈ docs, q.Evaluates d) (n : Nat) :
    reject q false n docs = .ok (docs.filter (!q.accepts ·), n + docs.countP q.accepts) := by
  induction docs generalizing n with
  | nil => rfl
  | cons d docs ih =>
    obtain ⟨⟨b, hb⟩, h⟩ := List.forall_mem_cons.mp h
    have haccepts : q.accepts d = b := by rw [Document.accepts, hb]
    rw [reject_cons, hb]
    cases b with
    | true =>
      have := ih h (n + 1)
      rw [List.filter_cons_of_neg (by simp [haccepts]), List.countP_cons_of_pos haccepts]
      refine this.trans ?_
      rw [Nat.add_assoc, Nat.add_comm 1]
    | false =>
      rw [List.filter_cons_of_pos (by simp [haccepts]), List.countP_cons_of_neg (by simp [haccepts])]
      change (do let (kept, removed) ← reject q false n docs; return (d :: kept, removed)) = _
      rw [ih h n]
      rfl

theorem reject_of_failsFirst [Host] {q : Document} {docs : List Document} {f : CommandFailure}
    (h : q.FailsFirst docs f) (n : Nat) : reject q false n docs = .error f := by
  obtain ⟨l, d, r, rfl, hl, hd⟩ := h
  induction l generalizing n with
  | nil =>
    rw [List.nil_append, reject_cons, hd]
    rfl
  | cons x l ih =>
    obtain ⟨⟨b, hb⟩, hl⟩ := List.forall_mem_cons.mp hl
    rw [List.cons_append, reject_cons, hb]
    cases b with
    | true => exact ih (n + 1) hl
    | false =>
      change (do let (kept, removed) ← reject q false n (l ++ d :: r); return (x :: kept, removed)) = _
      rw [ih n hl]
      rfl

theorem delete_singleton [Host] {c : Collection} {statement : Document} {q : Document}
    (h : deleteParts (.document statement) = .ok (q, false)) (n : Nat) :
    c.delete n [.document statement] =
      match reject q false 0 c.documents with
      | .error f => ({ c with documents := [] }, .error f)
      | .ok (kept, m) => ({ c with documents := kept }, .ok (n + m)) := by
  rw [delete, h]
  dsimp only
  rcases reject q false 0 c.documents with f | ⟨kept, m⟩ <;> rfl

end Collection

/-! ### Commands -/

/-- A command whose one statement deletes every document of a collection that satisfies a filter. -/
structure Document.DeletesAll (command : Document) (name : String) (q : Document) : Prop where
  verb : command.head? = some ("delete", .string name)
  statement : ∃ statement : Document,
    command.get? "deletes" = some (.array [.document statement]) ∧
      statement.get? "q" = some (.document q) ∧
        CommandField.count? statement "limit" = .ok (some 0)

theorem Command.deletesAll_deleteMany (name : String) (q : Document) :
    (Command.deleteMany name q).document.DeletesAll name q :=
  ⟨rfl, _, rfl, rfl, rfl⟩

namespace Databases

/-- What deleting everything that satisfies a filter does to the databases. -/
theorem delete_of_deletesAll [Host] {command : Document} {name : String} {q : Document}
    (h : command.DeletesAll name q) (dbs : Databases) (database : String) :
    dbs.delete database command =
      match dbs.collection? database name with
      | none => (dbs, .ok [("n", .int 0)])
      | some c =>
        match Collection.reject q false 0 c.documents with
        | .error f => (dbs.putCollection database name { c with documents := [] }, .error f)
        | .ok (kept, n) =>
          (dbs.putCollection database name { c with documents := kept }, .ok [("n", .ofInt32 n)]) := by
  obtain ⟨hverb, statement, hdeletes, hq, hlimit⟩ := h
  have htarget : CommandField.target command "delete" = .ok name := by
    obtain ⟨rest, rfl⟩ := List.head?_eq_some_iff.mp hverb
    rfl
  have hparts : Collection.deleteParts (.document statement) = .ok (q, false) := by
    rw [Collection.deleteParts, hq, hlimit]
    rfl
  have hread : (do
      let name ← CommandField.target command "delete"
      return (name, ← CommandField.array command "deletes")) =
        (.ok (name, [.document statement]) : Except CommandFailure (String × List Value)) := by
    rw [htarget, CommandField.array, hdeletes]
    rfl
  rw [delete, hread]
  dsimp only
  rcases dbs.collection? database name with _ | c
  · rfl
  · dsimp only
    rw [Collection.delete_singleton hparts]
    rcases Collection.reject q false 0 c.documents with f | ⟨kept, m⟩
    · rfl
    · dsimp only
      rw [Nat.zero_add]
      rfl

end Databases

namespace MemoryStore

/-- A delete of everything that satisfies a filter takes out just that if the filter can be
evaluated on every document. Otherwise it reports the first failure and leaves no document. Other
collections and all indexes stay as they are. -/
theorem run_deleteAll [Host] {s : MemoryStore} (hs : s.Serving) {command : Document} {name : String}
    {q : Document} (h : command.DeletesAll name q) (database : String) :
    let docs := s.databases.documents database name
    let answer := (s.run database command).1
    let t := (s.run database command).2
    (((∀ d ∈ docs, q.Evaluates d) ∧
        answer = .ok [("n", .ofInt32 (docs.countP q.accepts)), ("ok", .ofFloat 1.0)] ∧
        t.databases.documents database name = docs.filter (!q.accepts ·)) ∨
      ∃ f, q.FailsFirst docs f ∧ docs ≠ [] ∧ answer = .ok f.toResponse ∧
        t.databases.documents database name = []) ∧
    (∀ db n, ¬(db = database ∧ n = name) →
      t.databases.collection? db n = s.databases.collection? db n) ∧
    ∀ db n, (t.databases.collection? db n).map (·.indexes) =
      (s.databases.collection? db n).map (·.indexes) := by
  obtain ⟨rest, rfl⟩ := List.head?_eq_some_iff.mp h.verb
  rw [run_of_serving hs]
  have hdispatch : s.dispatch database "delete" (("delete", .string name) :: rest) =
      s.changed (s.databases.delete database (("delete", .string name) :: rest)) := rfl
  rw [hdispatch, Databases.delete_of_deletesAll h, Databases.documents]
  rcases hc : s.databases.collection? database name with _ | c
  · exact ⟨.inl ⟨by simp, rfl, by simp [changed, Databases.documents, hc]⟩, fun _ _ _ => rfl,
      fun _ _ => rfl⟩
  dsimp only [Option.map_some, Option.getD_some]
  have hother (c' : Collection) (db n : String) (hne : ¬(db = database ∧ n = name)) :
      (s.databases.putCollection database name c').collection? db n =
        s.databases.collection? db n := by
    rw [Databases.collection?_putCollection, if_neg hne]
  rcases Document.evaluates_or_failsFirst q c.documents with heval | ⟨f, hfails⟩
  · rw [Collection.reject_of_evaluates heval, Nat.zero_add]
    refine ⟨.inl ⟨heval, rfl, ?_⟩, hother _, Databases.indexes_putCollection hc rfl⟩
    exact Databases.documents_putCollection _ _ _ _
  · rw [Collection.reject_of_failsFirst hfails]
    refine ⟨.inr ⟨f, hfails, ?_, rfl, ?_⟩, hother _, Databases.indexes_putCollection hc rfl⟩
    · obtain ⟨l, d, r, hdocs, -⟩ := hfails
      simp [hdocs]
    · exact Databases.documents_putCollection _ _ _ _

/-- Two of three documents are deleted. -/
theorem run_deleteAll_two :
    let docs : List Document :=
      [[("_id", .int 1), ("a", .int 7)], [("_id", .int 2)], [("_id", .int 3), ("a", .int 7)]]
    let s : MemoryStore :=
      { databases := Databases.putCollection [] "app" "t" ⟨docs, [.identity]⟩ }
    let q : Document := [("a", .document [("$eq", .int 7)])]
    ((s.run "app" (Command.deleteMany "t" q).document).2.databases.documents "app" "t" =
      [[("_id", .int 2)]]) := by
  intro docs s q
  have hs : s.Serving := ⟨rfl, rfl⟩
  have h := run_deleteAll hs (Command.deletesAll_deleteMany "t" q) "app"
  obtain ⟨⟨-, -, hafter⟩ | ⟨f, -, -, hanswer, -⟩, -⟩ := h
  · exact hafter
  · have := congrArg (fun a => a.toOption.bind (·.head?.map Prod.fst)) hanswer
    exact absurd this (show (some "n" : Option String) ≠ some "ok" by decide)

/-- A filter that fails on every document takes all of them with it. -/
theorem run_deleteAll_loses :
    let docs : List Document := [[("_id", .int 1)], [("_id", .int 2)]]
    let s : MemoryStore :=
      { databases := Databases.putCollection [] "app" "t" ⟨docs, [.identity]⟩ }
    let q : Document := [("a", .document [("$near", .int 1)])]
    let outcome := s.run "app" (Command.deleteMany "t" q).document
    outcome.1 = .ok (CommandFailure.badValue "unknown operator: $near").toResponse ∧
      s.databases.documents "app" "t" = docs ∧
        outcome.2.databases.documents "app" "t" = [] :=
  ⟨rfl, rfl, rfl⟩

end MemoryStore

end SqlGateway
