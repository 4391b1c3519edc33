import SqlGateway.Proofs.Plan.Commands
import SqlGateway.Proofs.Store.Databases
import SqlGateway.Proofs.Store.Grouping

/-! Making a collection anew. What is dropped and created again is empty and has
the indexes that back its columns, one for each name in the order of first
mention, whatever the collection held before; doing it twice is doing it once. -/

namespace SqlGateway

/-! ### Indexes that back columns -/

theorem indexName_injective {collection a b : String}
    (h : indexName collection a = indexName collection b) : a = b := by
  rw [indexName, indexName, ← String.toList_inj] at h
  simpa [String.toList_inj] using h

theorem indexName_ne_identity (collection column : String) :
    identityIndexName ≠ indexName collection column := by
  intro h
  have hlast := congrArg (·.toList.getLast?) h
  rw [indexName, String.toList_append, List.getLast?_append,
    show "_puk".toList.getLast? = some 'k' from by decide, Option.some_or] at hlast
  exact absurd hlast (by decide)

/-- The unique index that backs a column. -/
def Index.backing (collection column : String) : Index :=
  ⟨indexName collection column, [(column, .int 1)], true⟩

theorem Index.ofSpec_indexSpec (collection column : String) :
    Index.ofSpec (.document (Plan.indexSpec collection column)) = .ok (.backing collection column) :=
  rfl

namespace Collection

/-- A collection without documents whose columns are backed by indexes. -/
def backed (collection : String) (columns : List String) : Collection :=
  ⟨[], .identity :: columns.map (.backing collection)⟩

theorem find?_backed (collection column : String) (columns : List String) :
    (backed collection columns).indexes.find? (·.name == indexName collection column) =
      if column ∈ columns then some (.backing collection column) else none := by
  have hidentity : ¬(Index.identity.name == indexName collection column) = true :=
    fun h => indexName_ne_identity collection column (beq_iff_eq.mp h)
  have hname (c : String) :
      ((Index.backing collection c).name == indexName collection column) = decide (c = column) := by
    rw [Bool.eq_iff_iff, beq_iff_eq, decide_eq_true_eq]
    exact ⟨indexName_injective, congrArg (indexName collection)⟩
  rw [backed]
  dsimp only
  rw [List.find?_cons, eq_false_of_ne_true hidentity]
  dsimp only
  induction columns with
  | nil => rfl
  | cons c columns ih =>
    rw [List.map_cons, List.find?_cons, hname, ih]
    by_cases hc : c = column
    · simp [hc]
    · simp [hc, Ne.symm hc]

theorem hasKey_backing (collection column : String) :
    (Index.backing collection column).hasKey (Index.backing collection column).key = true := by
  simp [Index.hasKey, Index.backing, Value.same, Value.sameFields]

/-- A column is backed once. -/
theorem addIndex_backed (ns collection column : String) (columns : List String) :
    (backed collection columns.eraseDups).addIndex ns (.backing collection column) =
      .ok (backed collection (columns ++ [column]).eraseDups) := by
  have hfind : (backed collection columns.eraseDups).indexes.find?
      (·.name == (Index.backing collection column).name) =
        if column ∈ columns then some (.backing collection column) else none := by
    rw [show (Index.backing collection column).name = indexName collection column from rfl,
      find?_backed]
    simp only [List.mem_eraseDups]
  rw [addIndex, hfind, eraseDups_concat]
  by_cases hmem : column ∈ columns
  · simp only [if_pos hmem, hasKey_backing, beq_self_eq_true, Bool.and_self, if_true]
  · simp [if_neg hmem, backed, indexViolation?]

theorem addIndexes_backed (ns collection : String) (before columns : List String) :
    (backed collection before.eraseDups).addIndexes ns
        (columns.map fun c => .document (Plan.indexSpec collection c)) =
      (backed collection (before ++ columns).eraseDups, .ok ()) := by
  induction columns generalizing before with
  | nil => rw [List.append_nil]; rfl
  | cons c columns ih =>
    rw [List.map_cons, addIndexes, Index.ofSpec_indexSpec, Except.ok_bind, addIndex_backed]
    dsimp only
    rw [ih, List.append_assoc, List.singleton_append]

end Collection

/-! ### Commands -/

namespace Databases

variable (dbs : Databases) (database name : String)

/-- Databases with a collection in the place of whatever was there. -/
def renewed (c : Collection) : Databases :=
  Table.put database (Table.put name c (Table.remove (dbs.collections database) name)) dbs

theorem collection?_renewed (c : Collection) (db n : String) :
    (dbs.renewed database name c).collection? db n =
      if db = database ∧ n = name then some c else dbs.collection? db n := by
  rw [collection?, renewed, collections_put]
  by_cases hdb : db = database
  · subst hdb
    rw [if_pos rfl, Table.get?_put, Table.get?_remove]
    by_cases hn : n = name <;> simp [hn, collection?]
  · simp [hdb, collection?]

theorem renewed_renewed (c c' : Collection) :
    (dbs.renewed database name c).renewed database name c' = dbs.renewed database name c' := by
  rw [renewed, renewed, renewed, collections_put, if_pos rfl, Table.put_put, Table.remove_put,
    Table.remove_remove]

theorem putCollection_putCollection (c c' : Collection) :
    (dbs.putCollection database name c).putCollection database name c' =
      dbs.putCollection database name c' := by
  rw [putCollection, putCollection, putCollection, collections_put, if_pos rfl, Table.put_put,
    Table.put_put]

/-- Databases without a collection. -/
def without : Databases :=
  match dbs.collection? database name with
  | some _ => dbs.dropCollection database name
  | none => dbs

theorem collection?_without : (dbs.without database name).collection? database name = none := by
  rw [without]
  split
  · rw [collection?, dropCollection, collections_put, if_pos rfl, Table.get?_remove, if_pos rfl]
  · assumption

theorem putCollection_without (c : Collection) :
    (dbs.without database name).putCollection database name c = dbs.renewed database name c := by
  rw [without]
  split
  · rw [putCollection, dropCollection, collections_put, if_pos rfl, Table.put_put, renewed]
  · next hnone => rw [putCollection, renewed, Table.remove_of_get?_eq_none hnone]

theorem drop_of_drop : ∃ reply : Document, reply.get? "writeErrors" = none ∧
    dbs.drop database (Command.of .drop name).document =
      (dbs.without database name, .ok reply) := by
  have htarget : CommandField.target (Command.of .drop name).document "drop" = .ok name := rfl
  rw [drop, htarget, without]
  dsimp only
  rcases dbs.collection? database name with _ | c <;> exact ⟨_, rfl, rfl⟩

theorem create_of_create (h : dbs.collection? database name = none) :
    dbs.create database (Command.of .create name).document =
      (dbs.putCollection database name .new, .ok []) := by
  have htarget : CommandField.target (Command.of .create name).document "create" = .ok name := rfl
  rw [create, htarget]
  dsimp only
  rw [h]

theorem createIndexes_of_ne_nil (h : dbs.collection? database name = some .new)
    {columns : List String} (hcolumns : columns.isEmpty = false) :
    ∃ c reply, Plan.createIndexes name columns = [c] ∧ c.Headed ∧ c.verb = .createIndexes ∧
      Fields.get? reply "writeErrors" = none ∧ dbs.createIndexes database c.document =
        (dbs.putCollection database name (.backed name columns.eraseDups), .ok reply) := by
  refine ⟨(Command.of .createIndexes name).withField "indexes"
      (.array (columns.map fun c => .document (Plan.indexSpec name c))), ?_⟩
  have hadded : Collection.addIndexes (namespaceOf database name) .new
      (columns.map fun c => .document (Plan.indexSpec name c)) =
        (.backed name columns.eraseDups, .ok ()) :=
    Collection.addIndexes_backed (namespaceOf database name) name [] columns
  have hparts : (do
      let n ← CommandField.target ((Command.of .createIndexes name).withField "indexes"
        (.array (columns.map fun c => .document (Plan.indexSpec name c)))).document "createIndexes"
      return (n, ← CommandField.array ((Command.of .createIndexes name).withField "indexes"
        (.array (columns.map fun c => .document (Plan.indexSpec name c)))).document "indexes")) =
      (.ok (name, columns.map fun c => .document (Plan.indexSpec name c)) :
        Except CommandFailure (String × List Value)) := rfl
  rw [createIndexes, hparts]
  dsimp only
  rw [h, Option.getD_some, hadded]
  refine ⟨_, ?_, (Command.headed_of .createIndexes name).withField "indexes" _, rfl, ?_, rfl⟩
  · rw [Plan.createIndexes, hcolumns]
    rfl
  · rfl

end Databases

end SqlGateway
