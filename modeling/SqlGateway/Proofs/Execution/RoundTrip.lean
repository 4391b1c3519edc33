import SqlGateway.Proofs.Execution.Typing
import SqlGateway.Proofs.Plan.Strategies
import SqlGateway.Proofs.Plan.Writes
import SqlGateway.Proofs.Row.Columns
import SqlGateway.Proofs.Row.Literals

/-! What is inserted into an empty collection is what is selected from it: one row, with the columns
of the insert in order and the cells that its literals are read back as. -/

namespace SqlGateway

/-- The fields that assignments are stored as. -/
def storedFields [Host] (values : Assignments) : Document := values.map fun e => (e.1, e.2.toValue)

/-- Whether assignments can be stored under their own names and read back. -/
structure Storable [Host] (values : Assignments) : Prop where
  distinct : (values.map (·.1)).Nodup
  name : ∀ e ∈ values, ColumnName e.1
  kept : ∀ e ∈ values, e.2.Kept

instance [Host] (values : Assignments) : Decidable (Storable values) :=
  decidable_of_iff ((values.map (·.1)).Nodup ∧ (∀ e ∈ values, ColumnName e.1) ∧
      ∀ e ∈ values, e.2.Kept)
    ⟨fun h => ⟨h.1, h.2.1, h.2.2⟩, fun h => ⟨h.distinct, h.name, h.kept⟩⟩

namespace Storable

variable [Host] {values : Assignments} (h : Storable values)

include h

theorem columns : Typing.Columns (storedFields values) where
  distinct := by
    rw [Fields.keys, storedFields, List.map_map]
    exact h.distinct
  name e he := by
    obtain ⟨a, ha, rfl⟩ := List.mem_map.mp he
    exact h.name a ha

theorem insertedDocument (id : ObjectId) :
    Plan.insertedDocument id none values = ("_id", .objectId id) :: storedFields values := by
  rw [Plan.insertedDocument, List.filter_eq_self.mpr]
  · refine Fields.setAll_eq_append h.columns.distinct fun key hkey hid => h.columns.unidentified ?_
    rwa [show key = "_id" from List.mem_singleton.mp hid] at hkey
  · exact fun _ _ => rfl

/-- The row of the stored fields under the types of their values. -/
theorem ofDocument :
    Row.ofDocument (Typing.ownTypes (storedFields values)) none (storedFields values) =
      .ok (values.map fun e => (e.1, e.2.cell)) := by
  rw [Row.ofDocument, storedFields, List.foldlM_map]
  refine Fields.foldlM_fresh (fun e he r => ?_) h.distinct
  have htype := h.columns.type (List.mem_map.mpr ⟨e, he, rfl⟩)
  have hcell : Row.cellOf (Typing.ownTypes (storedFields values)) e.1 e.2.toValue =
      .ok e.2.cell := by
    rw [Row.cellOf, htype]
    exact Literal.decode_toValue e.1 (h.kept e he)
  have hid : e.1 ≠ idField := (h.name e he).ordinary
  exact (Row.addField_none e.1 e.2.toValue).trans ((if_neg hid).trans (congrArg _ hcell))

end Storable

namespace Gateway

open Execution MemoryStore

variable {database collection : String} {dbs : Databases} {E : Run MemoryStore → Prop}

/-- The query for all columns of a collection. -/
def everything (collection : String) : Select := { collection, columns := [.wildcard] }

/-- Its command. -/
def everythingCommand (collection : String) : Command :=
  ⟨.find, collection,
    [("find", .string collection), ("projection", .document [("_id", .int 0)])]⟩

/-- Its plan: the types are those of the columns that are found. -/
def everythingPlan (collection : String) : Plan where
  statement := "select"
  shape := .select .find
  commands := [everythingCommand collection]
  probe := some ⟨collection, [], none⟩

theorem retrieve_everything [Host] {fields : Document} {id : Value} (hid : "_id" ∉ Fields.keys fields)
    (hdocs : dbs.documents database collection = [("_id", id) :: fields]) :
    dbs.retrieve "find" database (everythingCommand collection).document =
      .ok ⟨Databases.namespaceOf database collection, [fields], none⟩ := by
  have hfind : dbs.retrieve "find" database (everythingCommand collection).document = (do
      let docs ← (dbs.documents database collection).mapM (·.project [("_id", .int 0)])
      return ⟨Databases.namespaceOf database collection, docs, none⟩) := rfl
  have herase : Fields.erase (("_id", id) :: fields) "_id" = fields := by
    rw [Fields.erase, List.filter_cons_of_neg (by simp), List.filter_eq_self]
    intro e he
    have hne : e.1 ≠ "_id" := fun heq => hid (List.mem_map.mpr ⟨e, he, heq⟩)
    simpa using hne
  rw [hfind, hdocs, List.mapM_cons, Document.project_withoutIdentity, herase]
  rfl

/-- A collection of one document is read as one row. -/
theorem leads_perform_everything [Host] {key : Option Int} {fields : Document} {id : Value} {row : Row}
    (hcolumns : Typing.Columns fields)
    (hdocs : dbs.documents database collection = [("_id", id) :: fields])
    (hrow : Row.ofDocument (Typing.ownTypes fields) none fields = .ok row) :
    Leads (Ready dbs key) (perform store database (everythingPlan collection))
      (fun rows r => rows = [row] ∧ Ready dbs key r) E := by
  -- the query leaves out the identifier, but the probe is answered by the whole document
  have hwhole (e) (he : e ∈ fields) : Fields.get? (("_id", id) :: fields) e.1 = some e.2 := by
    rw [Fields.get?_cons, if_neg (hcolumns.name e he).ordinary]
    exact Fields.get?_of_mem hcolumns.distinct he
  have hresult := retrieve_everything hcolumns.unidentified hdocs
  have hrows : Row.ofDocuments (Typing.ownTypes fields) none [fields] = .ok [row] := by
    rw [Row.ofDocuments, List.mapM_cons, hrow]
    rfl
  refine .bind_ok (.bind (leads_fetch ⟨_, _, rfl⟩ rfl hresult (Nat.le_refl 1)) fun docs => ?_)
  rintro r ⟨rfl, hr⟩
  refine Leads.bind (leads_enter _) (fun _ => ?_) r hr
  refine .bind (hcolumns.leads_infer hwhole hdocs) fun types => ?_
  rintro r ⟨rfl, hr⟩
  refine Leads.bind (leads_enter _) (fun _ => ?_) r hr
  change Leads _ (liftM (Row.ofDocuments (Typing.ownTypes fields) none [fields])) _ _
  rw [hrows]
  exact fun r hr => ⟨_, r, rfl, rfl, hr⟩

/-! ### An insert and a query -/

section

variable {s : MemoryStore} (honline : s.online = true) (hcommitting : s.standalone = false)

include honline hcommitting

theorem execute_insert [Host] (hempty : s.databases.documents database collection = [])
    {values : Assignments} (h : Storable values) (id : ObjectId) (autoCommit : Bool) :
    ∃ r, execute store database id (.document (.insert collection none values)) autoCommit s =
        some (.ok [insertedRow 0], r) ∧
      r.store.databases.documents database collection =
        [("_id", .objectId id) :: storedFields values] ∧
      r.store.online = true ∧ r.store.standalone = false := by
  have hplan : Plan.ofTree id (.document (.insert collection none values)) =
      .ok (Plan.ofInsert id collection none values) := rfl
  have hperform : Leads (Ready s.databases none)
      (perform store database (Plan.ofInsert id collection none values))
      (fun rows r => rows = [insertedRow 0] ∧ Ready (s.databases.appended database collection
        (Plan.insertedDocument id none values)) none r) (fun _ => False) :=
    leads_perform_insert rfl rfl rfl rfl (Plan.isSome_insertedDocument id none values)
      fun hrefused => absurd (s.databases.refusal?_of_empty database collection _ hempty) hrefused
  obtain ⟨r, hexecute, hdbs, hsame⟩ :=
    execute_of_leads honline hcommitting hplan rfl hperform autoCommit
  refine ⟨r, hexecute, ?_, hsame⟩
  rw [hdbs, Databases.documents_appended, hempty, h.insertedDocument]
  rfl

theorem execute_everything [Host] {values : Assignments} (h : Storable values) {identity : Value}
    (hdocs : s.databases.documents database collection = [("_id", identity) :: storedFields values])
    (id : ObjectId) (autoCommit : Bool) :
    ∃ r, execute store database id (.document (.select (everything collection))) autoCommit s =
      some (.ok [values.map fun e => (e.1, e.2.cell)], r) := by
  have hplan : Plan.ofTree id (.document (.select (everything collection))) =
      .ok (everythingPlan collection) := rfl
  have hperform : Leads (Ready s.databases none)
      (perform store database (everythingPlan collection))
      (fun rows r => rows = [values.map fun e => (e.1, e.2.cell)] ∧ Ready s.databases none r)
      (fun _ => False) :=
    leads_perform_everything h.columns hdocs h.ofDocument
  obtain ⟨r, hexecute, -⟩ := execute_of_leads honline hcommitting hplan rfl hperform autoCommit
  exact ⟨r, hexecute⟩

end

/-- The first of January 1970 at so many seconds and nanoseconds. -/
def epochAt (second nano : Nat) (h : second < 86400 ∧ nano < 1000000000) : DateTime :=
  ⟨.epoch, ⟨second, nano, h.1, by omega, fun hleap => absurd h.2 (Nat.not_lt.mpr hleap)⟩⟩

end Gateway

end SqlGateway
