import SqlGateway.Proofs.Store.Databases
import SqlGateway.Proofs.Store.Memory

/-! Storing one document. It is appended to its collection, which comes into being if need be,
unless another document has its key under a unique index. -/

namespace SqlGateway

namespace Databases

variable (dbs : Databases) (database name : String) (d : Document)

/-- Databases with one more document in a collection. -/
def appended : Databases :=
  let c := (dbs.collection? database name).getD .new
  dbs.putCollection database name { c with documents := c.documents ++ [d] }

theorem documents_eq :
    dbs.documents database name = ((dbs.collection? database name).getD .new).documents := by
  rw [documents]
  cases dbs.collection? database name <;> rfl

theorem documents_appended :
    (dbs.appended database name d).documents database name = dbs.documents database name ++ [d] := by
  rw [appended, documents_putCollection, documents_eq]

/-- The failure of a document whose key another document of a collection has. -/
def refusal? : Option CommandFailure :=
  let c := (dbs.collection? database name).getD .new
  Collection.violation? c.indexes (namespaceOf database name) c.documents d

theorem refusal?_of_empty (h : dbs.documents database name = []) :
    dbs.refusal? database name d = none := by
  rw [documents_eq] at h
  rw [refusal?, h, Collection.violation?, Collection.clash?, Option.map_eq_none_iff,
    List.find?_eq_none]
  intro i _
  simp

/-- The command document that stores a document. -/
def insertOf : Document :=
  [("insert", .string name), ("documents", .array [.document d]), ("ordered", .bool true)]

variable {d}

/-- An insert stores its document or refuses it; the collection comes into being either way. -/
theorem insert_insertOf (hid : (Fields.get? d "_id").isSome) (ids : Nat → ObjectId) :
    dbs.insert ids database (insertOf name d) =
      match dbs.refusal? database name d with
      | none => (dbs.appended database name d, .ok [("n", .int 1)])
      | some f =>
        (dbs.putCollection database name ((dbs.collection? database name).getD .new),
          .ok [("n", .int 0), ("writeErrors", .array [.document (f.toWriteError 0)])]) := by
  let c := (dbs.collection? database name).getD .new
  let inserted := c.insert (namespaceOf database name) true .none 0 [some d]
  have hinsert : dbs.insert ids database (insertOf name d) =
      (dbs.putCollection database name inserted.1, do
        let w ← inserted.2
        return withWriteErrors [("n", .ofInt32 w.count)] w) := by
    have hitems : identified ids [.document d] = [some d] :=
      congrArg (fun e => [some e]) (withIdentity_of_has hid _)
    dsimp only [inserted, c]
    rw [← hitems]
    rfl
  rw [hinsert]
  split
  · next hnone =>
    have hstored : inserted =
        ({ c with documents := c.documents ++ [d] }, .ok ⟨1, 0, []⟩) := by
      dsimp only [inserted]
      rw [Collection.insert, show Collection.violation? _ _ _ _ = none from hnone]
      rfl
    rw [hstored]
    rfl
  · next f hsome =>
    have hrefused : inserted = (c, .ok ⟨0, 0, [.document (f.toWriteError 0)]⟩) := by
      dsimp only [inserted]
      rw [Collection.insert, show Collection.violation? _ _ _ _ = some f from hsome]
      rfl
    rw [hrefused]
    rfl

end Databases

namespace MemoryStore

variable {s : MemoryStore} {d : Document}

/-- The reply to a command that has stored one document, or to one whose document was refused. -/
def insertReply : Option CommandFailure → Document
  | none => [("n", .int 1)]
  | some f => [("n", .int 0), ("writeErrors", .array [.document (f.toWriteError 0)])]

theorem run_insertOf [Host] (hs : s.Serving) (database name : String) (hid : (Fields.get? d "_id").isSome) :
    (s.run database (Databases.insertOf name d)).1 =
        .ok (response (.ok (insertReply (s.databases.refusal? database name d)))) ∧
      (s.databases.refusal? database name d = none →
        (s.run database (Databases.insertOf name d)).2.databases =
          s.databases.appended database name d) := by
  have hinsert := s.databases.insert_insertOf database name hid fun i => s.ids (s.issued + i)
  let inserted := s.databases.insert (fun i => s.ids (s.issued + i)) database
    (Databases.insertOf name d)
  have hrun : s.run database (Databases.insertOf name d) =
      (.ok (response inserted.2), { s with issued := s.issued + 1, databases := inserted.1 }) :=
    run_of_serving hs database "insert" _ _
  rw [hrun]
  change Except.ok (response inserted.2) = _ ∧ (_ → inserted.1 = _)
  dsimp only [inserted]
  rw [hinsert]
  cases s.databases.refusal? database name d with
  | none => exact ⟨rfl, fun _ => rfl⟩
  | some f => exact ⟨rfl, nofun⟩

end MemoryStore

end SqlGateway
