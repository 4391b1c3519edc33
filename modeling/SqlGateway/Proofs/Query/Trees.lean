import SqlGateway.Proofs.Query.Literals

/-! Query trees in JSON. A tree without floats and doubles is read from its text as it was written,
whatever its statements are, as long as it does not nest deeper than texts may; one that does is
refused. -/

namespace SqlGateway

open Json (Mode)

/-! ### Parts -/

/-- Whether what is written for a value is read from its text and read as that value. -/
structure Survives {α : Type} (write : α → Json) (read : Json → Option α) (a : α) : Prop where
  exact : (write a).Exact
  read_write : read (write a) = some a

namespace Survives

variable {α : Type} {write : α → Json} {read : Json → Option α}

/-- A list is refused if one of its items is. -/
theorem mapM_eq_none {l : List Json} {j : Json} (hj : j ∈ l) (h : read j = none) :
    l.mapM read = none := by
  induction l with
  | nil => cases hj
  | cons i l ih =>
    rw [List.mapM_cons]
    rcases List.mem_cons.mp hj with rfl | hj
    · rw [h]
      rfl
    · rw [ih hj]
      cases read i <;> rfl

/-- A list survives if its items do. -/
theorem list {l : List α} (h : ∀ a ∈ l, Survives write read a) :
    Survives (Json.ofList write) (Json.arrayOf? read) l where
  exact := .array (List.forall_mem_map.mpr fun a ha => (h a ha).exact)
  read_write := Json.mapM_map_eq_some fun a ha => (h a ha).read_write

/-- An optional value survives if what stands for one is not null. -/
theorem option {o : Option α} (h : ∀ a ∈ o, Survives write read a) (hnull : ∀ a, write a ≠ .null) :
    Survives (Json.ofOption write) (fun j => Json.optional? read (some j)) o := by
  cases o with
  | none => exact ⟨.null, rfl⟩
  | some a =>
    obtain ⟨hexact, hread⟩ := h a rfl
    refine ⟨hexact, ?_⟩
    have hvalue : Json.ofOption write (some a) = write a := rfl
    rw [hvalue, Json.optional?]
    · rw [hread, Option.map_some]
    · exact hnull a

theorem text (s : String) : Survives .string Json.string? s := ⟨.string s, rfl⟩

theorem bool (b : Bool) : Survives .bool Json.bool? b := ⟨.bool b, rfl⟩

theorem optionalText (o : Option String) :
    Survives (Json.ofOption .string) (fun j => Json.optional? Json.string? (some j)) o :=
  option (fun s _ => text s) nofun

/-- An enumerated value survives if its name is its own. -/
theorem named (mode : Mode) {name : α → String} {ofName? : String → Option α}
    (h : ∀ a, ofName? (name a) = some a) (a : α) :
    Survives (fun a => .string (name a)) (readName? mode ofName?) a :=
  ⟨.string _, h a⟩

end Survives

theorem Aggregation.ofName?_name (f : Aggregation) : ofName? f.name = some f := by
  cases f <;> rfl

theorem Connective.ofName?_name (c : Connective) : ofName? c.name = some c := by
  cases c <;> rfl

theorem Comparison.ofName?_name (c : Comparison) : ofName? c.name = some c := by
  cases c <;> rfl

theorem Dialect.ofName?_name (d : Dialect) : ofName? d.name = some d := by
  cases d <;> rfl

theorem JoinKind.ofName?_name (k : JoinKind) : ofName? k.name = some k := by
  cases k <;> rfl

theorem ConstraintKind.ofName?_name (k : ConstraintKind) : ofName? k.name = some k := by
  cases k <;> rfl

theorem Literal.survives (mode : Mode) {l : Literal} (h : l.isFloatFree = true) :
    Survives toJson (ofJson? mode) l := ⟨exact_toJson h, ofJson?_toJson h⟩

/-! ### Columns and predicates -/

theorem Column.survives (mode : Mode) (c : Column) : Survives toJson (ofJson? mode) c := by
  have hname := Survives.option (o := c.aggregation) (fun f _ => .named mode
    Aggregation.ofName?_name f) nofun
  have halias := Survives.optionalText c.asName
  constructor
  · refine .object ?_
    simp only [List.forall_mem_cons]
    exact ⟨.string _, halias.exact, hname.exact, .bool _, List.forall_mem_nil _⟩
  · have hfields : c.toJson.fields? ["name", "alias", "aggregation", "join_sourced"] =
        some [some (.string c.name), some (.ofOption .string c.asName),
          some (.ofOption (.string ·.name) c.aggregation), some (.bool c.joinSourced)] := rfl
    simp only [ofJson?, hfields, Option.bind_eq_bind, Option.bind_some, Json.string?,
      halias.read_write, hname.read_write, Json.defaulted?, Json.bool?]
    rfl

/-- Whether a predicate holds neither a float nor a double. -/
def Predicate.isFloatFree (p : Predicate) : Bool := p.value.isFloatFree

theorem Predicate.survives (mode : Mode) {p : Predicate} (h : p.isFloatFree = true) :
    Survives toJson (ofJson? mode) p := by
  have hcolumn := Column.survives mode p.column
  have hvalue := Literal.survives mode h
  have hop := Survives.named mode Comparison.ofName?_name p.op
  have hconnective := Survives.option (o := p.connective) (fun c _ => .named mode
    Connective.ofName?_name c) nofun
  constructor
  · refine .object ?_
    simp only [List.forall_mem_cons]
    exact ⟨hcolumn.exact, hop.exact, hvalue.exact, hconnective.exact, .bool _, .bool _,
      List.forall_mem_nil _⟩
  · have hfields : p.toJson.fields? ["column", "op", "value", "connective", "bracket_start",
        "bracket_end"] = some [some p.column.toJson, some (.string p.op.name), some p.value.toJson,
          some (.ofOption (.string ·.name) p.connective), some (.bool p.opens),
          some (.bool p.closes)] := rfl
    simp only [ofJson?, hfields, Option.bind_eq_bind, Option.bind_some, hcolumn.read_write,
      hop.read_write, hvalue.read_write, hconnective.read_write, Json.defaulted?, Json.bool?]
    rfl

/-! ### Clauses -/

theorem Relation.survives (r : Relation) : Survives toJson ofJson? r where
  exact := .object (by
    simp only [List.forall_mem_cons]
    exact ⟨.string _, .string _, List.forall_mem_nil _⟩)
  read_write := rfl

theorem Join.survives (mode : Mode) (j : Join) : Survives toJson (ofJson? mode) j := by
  have hkind := Survives.named mode JoinKind.ofName?_name j.kind
  have hrelations := Survives.list (l := j.relations) fun r _ => r.survives
  constructor
  · refine .object ?_
    simp only [List.forall_mem_cons]
    exact ⟨hkind.exact, .string _, hrelations.exact, List.forall_mem_nil _⟩
  · have hfields : j.toJson.fields? ["kind", "collection", "relations"] =
        some [some (.string j.kind.name), some (.string j.collection),
          some (.ofList Relation.toJson j.relations)] := rfl
    simp only [ofJson?, hfields, Option.bind_eq_bind, Option.bind_some, hkind.read_write,
      hrelations.read_write, Json.string?]
    rfl

theorem OrderTerm.survives (mode : Mode) (t : OrderTerm) : Survives toJson (ofJson? mode) t := by
  have hcolumn := t.column.survives mode
  constructor
  · refine .object ?_
    simp only [List.forall_mem_cons]
    exact ⟨hcolumn.exact, .bool _, List.forall_mem_nil _⟩
  · have hfields : t.toJson.fields? ["column", "ascending"] =
        some [some t.column.toJson, some (.bool t.ascending)] := rfl
    simp only [ofJson?, hfields, Option.bind_eq_bind, Option.bind_some, hcolumn.read_write,
      Json.bool?]
    rfl

/-- The JSON form of an ORDER BY. -/
def OrderTerm.listToJson (terms : List OrderTerm) : Json :=
  .object [("terms", .ofList (·.toJson) terms)]

theorem OrderTerm.list_survives (mode : Mode) (terms : List OrderTerm) :
    Survives listToJson (listOfJson? mode) terms := by
  have hterms := Survives.list (l := terms) fun t _ => t.survives mode
  constructor
  · exact .object (List.forall_mem_singleton.mpr hterms.exact)
  · have hfields : (listToJson terms).fields? ["terms"] =
        some [some (.ofList (·.toJson) terms)] := rfl
    simp only [listOfJson?, hfields, Option.bind_eq_bind, Option.bind_some, hterms.read_write]

theorem readUInt64?_toNat (n : UInt64) : readUInt64? (.integer n.toNat) = some n :=
  Literal.map_natCast_integer? n.toNat_lt_size UInt64.ofNat_toNat

theorem Limit.survives (l : Limit) : Survives toJson ofJson? l where
  exact := .object (by
    simp only [List.forall_mem_cons]
    exact ⟨.integer (.of_natCast l.offset.toNat_lt), .integer (.of_natCast l.count.toNat_lt),
      List.forall_mem_nil _⟩)
  read_write := by
    have hfields : l.toJson.fields? ["offset", "count"] =
        some [some (.integer l.offset.toNat), some (.integer l.count.toNat)] := rfl
    simp only [ofJson?, hfields, Option.bind_eq_bind, Option.bind_some, readUInt64?_toNat]
    rfl

/-! ### Definitions -/

/-- Whether the default of a column is neither a float nor a double and holds none. -/
def ColumnDef.isFloatFree (c : ColumnDef) : Bool := c.default.all (·.isFloatFree)

theorem ColumnDef.survives (mode : Mode) {c : ColumnDef} (h : c.isFloatFree = true) :
    Survives toJson (ofJson? mode) c := by
  have htype := Survives.optionalText c.dataType
  have hconstraints := Survives.list (l := c.constraints) fun k _ =>
    .named mode ConstraintKind.ofName?_name k
  have hdefault := Survives.option (o := c.default)
    (fun l hl => Literal.survives mode (by rw [isFloatFree, Option.mem_def.mp hl] at h; exact h))
    (fun l => by cases l <;> nofun)
  constructor
  · refine .object ?_
    simp only [List.forall_mem_cons]
    exact ⟨.string _, htype.exact, hconstraints.exact, hdefault.exact, List.forall_mem_nil _⟩
  · have hfields : c.toJson.fields? ["name", "data_type", "constraints", "default"] =
        some [some (.string c.name), some (.ofOption .string c.dataType),
          some (.ofList (.string ·.name) c.constraints),
          some (.ofOption (·.toJson) c.default)] := rfl
    simp only [ofJson?, hfields, Option.bind_eq_bind, Option.bind_some, htype.read_write,
      hconstraints.read_write, hdefault.read_write, Json.string?, Json.defaulted?]
    rfl

theorem ColumnDef.list_survives {columns : List ColumnDef}
    (h : columns.all (·.isFloatFree) = true) :
    Survives (Json.ofList toJson) (Json.arrayOf? (ofJson? .lenient)) columns :=
  .list fun c hc => c.survives .lenient (List.all_eq_true.mp h c hc)

theorem ColumnRename.survives (r : ColumnRename) : Survives toJson ofJson? r where
  exact := .object (by
    simp only [List.forall_mem_cons]
    exact ⟨.string _, .string _, .bool _, List.forall_mem_nil _⟩)
  read_write := rfl

theorem ConstraintDef.survives (mode : Mode) (c : ConstraintDef) :
    Survives toJson (ofJson? mode) c := by
  have hkind := Survives.named mode ConstraintKind.ofName?_name c.kind
  constructor
  · refine .object ?_
    simp only [List.forall_mem_cons]
    exact ⟨.string _, hkind.exact, List.forall_mem_nil _⟩
  · have hfields : c.toJson.fields? ["column", "kind"] =
        some [some (.string c.column), some (.string c.kind.name)] := rfl
    simp only [ofJson?, hfields, Option.bind_eq_bind, Option.bind_some, hkind.read_write,
      Json.string?]
    rfl

namespace AlterAction

/-- Whether no default of a column in an action holds a float or a double. -/
def isFloatFree : AlterAction → Bool
  | .addColumns cs | .dropColumns cs => cs.all (·.isFloatFree)
  | _ => true

/-- An action with one field is tagged by its name. -/
theorem tagged?_field (mode : Mode) (name : String) {field : String} (hfield : field ≠ "action")
    (j : Json) : (Json.object [("action", .string name), (field, j)]).tagged? mode "action" kinds =
      some (name, .object [(field, j)]) := by
  have hname : (field == "action") = false := beq_eq_false_iff_ne.mpr hfield
  simp [Json.tagged?, Json.tag?, hname, hfield]

theorem fields?_field (field : String) (j : Json) :
    (Json.object [(field, j)]).fields? [field] = some [some j] := by
  simp [Json.fields?]

theorem exact_field (name field : String) {j : Json} (hj : j.Exact) :
    (Json.object [("action", .string name), (field, j)]).Exact :=
  .object (List.forall_mem_cons.mpr ⟨.string name, List.forall_mem_singleton.mpr hj⟩)

theorem survives (mode : Mode) {a : AlterAction} (h : a.isFloatFree = true) :
    Survives toJson (ofJson? mode) a := by
  have hcolumns {cs : List ColumnDef} (hcs : cs.all (·.isFloatFree) = true) :=
    ColumnDef.list_survives hcs
  have hrenames (rs : List ColumnRename) := Survives.list (l := rs) fun r _ => r.survives
  have hconstraint (c : ConstraintDef) := c.survives .lenient
  cases a with
  | addColumns cs =>
    refine ⟨exact_field _ _ (hcolumns h).exact, ?_⟩
    simp only [toJson, ofJson?, tagged?_field mode _ (show "columns" ≠ "action" by decide),
      fields?_field, Option.bind_eq_bind, Option.bind_some, (hcolumns h).read_write]
    rfl
  | renameColumns rs =>
    refine ⟨exact_field _ _ (hrenames rs).exact, ?_⟩
    simp only [toJson, ofJson?, tagged?_field mode _ (show "renames" ≠ "action" by decide),
      fields?_field, Option.bind_eq_bind, Option.bind_some, (hrenames rs).read_write]
    rfl
  | dropColumns cs =>
    refine ⟨exact_field _ _ (hcolumns h).exact, ?_⟩
    simp only [toJson, ofJson?, tagged?_field mode _ (show "columns" ≠ "action" by decide),
      fields?_field, Option.bind_eq_bind, Option.bind_some, (hcolumns h).read_write]
    rfl
  | addConstraint c =>
    refine ⟨exact_field _ _ (hconstraint c).exact, ?_⟩
    simp only [toJson, ofJson?, tagged?_field mode _ (show "constraint" ≠ "action" by decide),
      fields?_field, Option.bind_eq_bind, Option.bind_some, (hconstraint c).read_write]
    rfl
  | dropConstraint c =>
    refine ⟨exact_field _ _ (hconstraint c).exact, ?_⟩
    simp only [toJson, ofJson?, tagged?_field mode _ (show "constraint" ≠ "action" by decide),
      fields?_field, Option.bind_eq_bind, Option.bind_some, (hconstraint c).read_write]
    rfl
  | renameConstraint source target =>
    constructor
    · refine .object ?_
      simp only [List.forall_mem_cons]
      exact ⟨.string _, (hconstraint source).exact, (hconstraint target).exact,
        List.forall_mem_nil _⟩
    · have htagged : (toJson (.renameConstraint source target)).tagged? mode "action" kinds =
          some ("rename_constraint",
            .object [("from", source.toJson), ("to", target.toJson)]) := rfl
      have hfields : (Json.object [("from", source.toJson), ("to", target.toJson)]).fields?
          ["from", "to"] = some [some source.toJson, some target.toJson] := rfl
      simp only [ofJson?, htagged, hfields, Option.bind_eq_bind, Option.bind_some,
        (hconstraint source).read_write, (hconstraint target).read_write]
      rfl

theorem list_survives {actions : List AlterAction} (h : actions.all (·.isFloatFree) = true) :
    Survives (Json.ofList toJson) (Json.arrayOf? (ofJson? .lenient)) actions :=
  .list fun a ha => a.survives .lenient (List.all_eq_true.mp h a ha)

end AlterAction

/-! ### Statements -/

/-- The JSON form of a column and the literal for it. -/
def assignmentJson (a : String × Literal) : Json := .array [.string a.1, a.2.toJson]

theorem assignment_survives {a : String × Literal} (h : a.2.isFloatFree = true) :
    Survives assignmentJson readAssignment? a := by
  have hvalue := Literal.survives .lenient h
  constructor
  · refine .array ?_
    simp only [List.forall_mem_cons]
    exact ⟨.string _, hvalue.exact, List.forall_mem_nil _⟩
  · rw [assignmentJson, readAssignment?, hvalue.read_write]
    rfl

/-- Whether no literal of a statement is a float or a double or holds one. -/
def Statement.isFloatFree : Statement → Bool
  | .select q => q.wheres.all (·.isFloatFree) && q.having.all (·.isFloatFree)
  | .insert _ _ values => values.all (·.2.isFloatFree)
  | .update _ values wheres => values.all (·.2.isFloatFree) && wheres.all (·.isFloatFree)
  | .delete _ wheres => wheres.all (·.isFloatFree)
  | .create _ columns => columns.all (·.isFloatFree)
  | .alter _ actions => actions.all (·.isFloatFree)
  | .drop _ | .truncate _ => true

theorem Predicate.list_survives {ps : List Predicate} (h : ps.all (·.isFloatFree) = true) :
    Survives (Json.ofList toJson) (fun j => listOfJson? (some j)) ps :=
  .list fun p hp => p.survives .lenient (List.all_eq_true.mp h p hp)

theorem assignments_survive {values : Assignments} (h : values.all (·.2.isFloatFree) = true) :
    Survives assignmentsJson (Json.arrayOf? readAssignment?) values :=
  .list fun a ha => assignment_survives (List.all_eq_true.mp h a ha)

/-- The fields of a SELECT. -/
def Select.fields (q : Select) : List (String × Json) :=
  [("collection", .string q.collection),
    ("distinct", .bool q.distinct),
    ("columns", .ofList (·.toJson) q.columns),
    ("wheres", .ofList (·.toJson) q.wheres),
    ("joins", .ofList (·.toJson) q.joins),
    ("group_by", .ofList (·.toJson) q.groupBy),
    ("having", .ofList (·.toJson) q.having),
    ("order_by", .ofOption OrderTerm.listToJson q.orderBy),
    ("limit", .ofOption (·.toJson) q.limit)]

theorem Select.survives {q : Select} (hwheres : q.wheres.all (·.isFloatFree) = true)
    (hhaving : q.having.all (·.isFloatFree) = true) :
    Survives (fun q => .object (fields q)) ofJson? q := by
  have hcolumns := Survives.list (l := q.columns) fun c _ => c.survives .lenient
  have hwheres := Predicate.list_survives hwheres
  have hjoins := Survives.list (l := q.joins) fun j _ => j.survives .lenient
  have hgroupBy := Survives.list (l := q.groupBy) fun c _ => c.survives .lenient
  have hhaving := Predicate.list_survives hhaving
  have horderBy := Survives.option (o := q.orderBy)
    (fun terms _ => OrderTerm.list_survives .lenient terms) nofun
  have hlimit := Survives.option (o := q.limit) (fun l _ => l.survives) nofun
  constructor
  · refine .object ?_
    simp only [fields, List.forall_mem_cons]
    exact ⟨.string _, .bool _, hcolumns.exact, hwheres.exact, hjoins.exact, hgroupBy.exact,
      hhaving.exact, horderBy.exact, hlimit.exact, List.forall_mem_nil _⟩
  · have hfields : (Json.object q.fields).fields? ["collection", "distinct", "columns", "wheres",
        "joins", "group_by", "having", "order_by", "limit"] = some (q.fields.map (some ·.2)) := rfl
    rw [ofJson?, hfields]
    simp only [fields, List.map_cons, List.map_nil, Option.bind_eq_bind, Option.bind_some,
      Json.string?, Json.bool?, Json.defaulted?, hcolumns.read_write, hwheres.read_write,
      hjoins.read_write, hgroupBy.read_write, hhaving.read_write, horderBy.read_write,
      hlimit.read_write]
    rfl

namespace Statement

theorem select_survives {q : Select} (hwheres : q.wheres.all (·.isFloatFree) = true)
    (hhaving : q.having.all (·.isFloatFree) = true) : Survives toJson ofJson? (.select q) := by
  have hselect := Select.survives hwheres hhaving
  have hexact : (toJson (.select q)).Exact := by
    cases hselect.exact with
    | object hfields => exact .object (List.forall_mem_cons.mpr ⟨.string _, hfields⟩)
  have htagged : (toJson (.select q)).tagged? .strict "kind" [] =
      some ("select", .object q.fields) := rfl
  refine ⟨hexact, ?_⟩
  rw [ofJson?, hexact.guard_isReadable]
  simp only [htagged, hselect.read_write, Option.bind_eq_bind, Option.bind_some, Option.pure_def]

variable (collection : String)

theorem insert_survives (autoIncrement : Option String) {values : Assignments}
    (h : values.all (·.2.isFloatFree) = true) :
    Survives toJson ofJson? (.insert collection autoIncrement values) := by
  have hauto := Survives.optionalText autoIncrement
  have hvalues := assignments_survive h
  have hexact : (toJson (.insert collection autoIncrement values)).Exact := by
    refine .object ?_
    simp only [List.forall_mem_cons]
    exact ⟨.string _, .string _, hauto.exact, hvalues.exact, List.forall_mem_nil _⟩
  have htagged : (toJson (.insert collection autoIncrement values)).tagged? .strict "kind" [] =
      some ("insert", .object [("collection", .string collection),
        ("auto_increment", .ofOption .string autoIncrement),
        ("values", assignmentsJson values)]) := rfl
  have hfields : (Json.object [("collection", .string collection),
      ("auto_increment", .ofOption .string autoIncrement),
      ("values", assignmentsJson values)]).fields? ["collection", "auto_increment", "values"] =
      some [some (.string collection), some (.ofOption .string autoIncrement),
        some (assignmentsJson values)] := rfl
  refine ⟨hexact, ?_⟩
  rw [ofJson?, hexact.guard_isReadable]
  simp only [htagged, hfields, hauto.read_write, hvalues.read_write, Json.string?,
    Option.bind_eq_bind, Option.bind_some, Option.pure_def]

theorem update_survives {values : Assignments} {wheres : List Predicate}
    (hvalues : values.all (·.2.isFloatFree) = true) (hwheres : wheres.all (·.isFloatFree) = true) :
    Survives toJson ofJson? (.update collection values wheres) := by
  have hvalues := assignments_survive hvalues
  have hwheres := Predicate.list_survives hwheres
  have hexact : (toJson (.update collection values wheres)).Exact := by
    refine .object ?_
    simp only [List.forall_mem_cons]
    exact ⟨.string _, .string _, hvalues.exact, hwheres.exact, List.forall_mem_nil _⟩
  have htagged : (toJson (.update collection values wheres)).tagged? .strict "kind" [] =
      some ("update", .object [("collection", .string collection),
        ("values", assignmentsJson values), ("wheres", .ofList (·.toJson) wheres)]) := rfl
  have hfields : (Json.object [("collection", .string collection),
      ("values", assignmentsJson values), ("wheres", .ofList (·.toJson) wheres)]).fields?
      ["collection", "values", "wheres"] = some [some (.string collection),
        some (assignmentsJson values), some (.ofList Predicate.toJson wheres)] := rfl
  refine ⟨hexact, ?_⟩
  rw [ofJson?, hexact.guard_isReadable]
  simp only [htagged, hfields, hvalues.read_write, hwheres.read_write, Json.string?,
    Option.bind_eq_bind, Option.bind_some, Option.pure_def]

/-- The JSON form of a statement with one field besides the collection. -/
def fieldJson (kind field : String) (j : Json) : Json :=
  .object [("kind", .string kind), ("collection", .string collection), (field, j)]

section

variable {collection} {kind field : String} {j : Json}

theorem exact_fieldJson (hj : j.Exact) : (fieldJson collection kind field j).Exact := by
  refine .object ?_
  simp only [List.forall_mem_cons]
  exact ⟨.string _, .string _, hj, List.forall_mem_nil _⟩

theorem tagged?_fieldJson (hfield : field ≠ "kind") :
    (fieldJson collection kind field j).tagged? .strict "kind" [] =
      some (kind, .object [("collection", .string collection), (field, j)]) := by
  have hname : (field == "kind") = false := beq_eq_false_iff_ne.mpr hfield
  simp [fieldJson, Json.tagged?, Json.tag?, hname, hfield]

theorem fields?_fieldJson (hfield : field ≠ "collection") :
    (Json.object [("collection", .string collection), (field, j)]).fields? ["collection", field] =
      some [some (.string collection), some j] := by
  have hname : (field == "collection") = false := beq_eq_false_iff_ne.mpr hfield
  have hother : ("collection" == field) = false := beq_eq_false_iff_ne.mpr hfield.symm
  simp [Json.fields?, hname, hother, List.lookup_cons]

end

theorem delete_survives {wheres : List Predicate} (h : wheres.all (·.isFloatFree) = true) :
    Survives toJson ofJson? (.delete collection wheres) := by
  have hwheres := Predicate.list_survives h
  have hexact : (fieldJson collection "delete" "wheres" (.ofList (·.toJson) wheres)).Exact :=
    exact_fieldJson hwheres.exact
  refine ⟨hexact, ?_⟩
  change ofJson? (fieldJson collection "delete" "wheres" _) = _
  rw [ofJson?, hexact.guard_isReadable]
  simp only [tagged?_fieldJson (show "wheres" ≠ "kind" by decide),
    fields?_fieldJson (show "wheres" ≠ "collection" by decide), hwheres.read_write, Json.string?,
    Option.bind_eq_bind, Option.bind_some, Option.pure_def]

theorem create_survives {columns : List ColumnDef} (h : columns.all (·.isFloatFree) = true) :
    Survives toJson ofJson? (.create collection columns) := by
  have hcolumns := ColumnDef.list_survives h
  have hexact : (fieldJson collection "create" "columns" (.ofList (·.toJson) columns)).Exact :=
    exact_fieldJson hcolumns.exact
  refine ⟨hexact, ?_⟩
  change ofJson? (fieldJson collection "create" "columns" _) = _
  rw [ofJson?, hexact.guard_isReadable]
  simp only [tagged?_fieldJson (show "columns" ≠ "kind" by decide),
    fields?_fieldJson (show "columns" ≠ "collection" by decide), hcolumns.read_write, Json.string?,
    Json.defaulted?, Option.bind_eq_bind, Option.bind_some, Option.pure_def]

theorem alter_survives {actions : List AlterAction} (h : actions.all (·.isFloatFree) = true) :
    Survives toJson ofJson? (.alter collection actions) := by
  have hactions := AlterAction.list_survives h
  have hexact : (fieldJson collection "alter" "actions" (.ofList (·.toJson) actions)).Exact :=
    exact_fieldJson hactions.exact
  refine ⟨hexact, ?_⟩
  change ofJson? (fieldJson collection "alter" "actions" _) = _
  rw [ofJson?, hexact.guard_isReadable]
  simp only [tagged?_fieldJson (show "actions" ≠ "kind" by decide),
    fields?_fieldJson (show "actions" ≠ "collection" by decide), hactions.read_write, Json.string?,
    Option.bind_eq_bind, Option.bind_some, Option.pure_def]

/-- A statement without floats and doubles is read as it was written. -/
theorem survives {s : Statement} (h : s.isFloatFree = true) : Survives toJson ofJson? s := by
  have hbare (kind collection : String) :
      (Json.object [("kind", .string kind), ("collection", .string collection)]).Exact := by
    refine .object ?_
    simp only [List.forall_mem_cons]
    exact ⟨.string _, .string _, List.forall_mem_nil _⟩
  cases s with
  | select q =>
    obtain ⟨hwheres, hhaving⟩ := Bool.and_eq_true_iff.mp h
    exact select_survives hwheres hhaving
  | insert collection autoIncrement values => exact insert_survives collection autoIncrement h
  | update collection values wheres =>
    obtain ⟨hvalues, hwheres⟩ := Bool.and_eq_true_iff.mp h
    exact update_survives collection hvalues hwheres
  | delete collection wheres => exact delete_survives collection h
  | create collection columns => exact create_survives collection h
  | alter collection actions => exact alter_survives collection h
  | drop collection => exact ⟨hbare _ _, rfl⟩
  | truncate collection => exact ⟨hbare _ _, rfl⟩

end Statement

/-! ### Trees -/

/-- What is not readable is no statement. -/
theorem Statement.ofJson?_of_isReadable_eq_false {j : Json} (h : j.isReadable = false) :
    ofJson? j = none := by
  have hguard : guard (j.isReadable = true) = none := if_neg (Bool.not_eq_true _ ▸ h)
  rw [ofJson?, hguard]
  rfl

namespace QueryTree

/-- Whether no literal of a tree is a float or a double or holds one. -/
def isFloatFree (t : QueryTree) : Bool := t.statements.all (·.isFloatFree)

variable {t : QueryTree}

theorem survives (h : t.isFloatFree = true) : Survives toJson ofJson? t := by
  have htarget := Survives.named .strict Dialect.ofName?_name t.target
  have hstatements := Survives.list (l := t.statements) fun s hs =>
    Statement.survives (List.all_eq_true.mp h s hs)
  constructor
  · refine .object ?_
    simp only [List.forall_mem_cons]
    exact ⟨htarget.exact, hstatements.exact, List.forall_mem_nil _⟩
  · have hfields : t.toJson.fields? ["target", "statements"] =
        some [some (.string t.target.name), some (.ofList Statement.toJson t.statements)] := rfl
    simp only [ofJson?, hfields, htarget.read_write, hstatements.read_write, Option.bind_eq_bind,
      Option.bind_some]
    rfl

/-- A tree whose statements are not all readable is refused. -/
theorem ofJson?_cut_of_lt_depth {d : Nat} (h : d + 2 < t.toJson.depth) :
    ofJson? (t.toJson.cut (d + 2)) = none := by
  have htarget := Survives.named .strict Dialect.ofName?_name t.target
  obtain ⟨v, hv, hdeep⟩ : ∃ v ∈ t.statements.map Statement.toJson, d < v.depth := by
    have hdepth : t.toJson.depth =
        max 0 (max (Json.itemsDepth (t.statements.map Statement.toJson) + 1) 0) + 1 := rfl
    have hitems : ¬ Json.itemsDepth (t.statements.map Statement.toJson) ≤ d := by omega
    rw [Json.itemsDepth_le_iff] at hitems
    simpa only [Classical.not_forall, Nat.not_le, exists_prop] using hitems
  have hcut : t.toJson.cut (d + 2) = .object [("target", .string t.target.name),
      ("statements", .array (Json.cutItems d (t.statements.map Statement.toJson)))] := rfl
  have hfields : (Json.object [("target", .string t.target.name),
      ("statements", .array (Json.cutItems d (t.statements.map Statement.toJson)))]).fields?
      ["target", "statements"] = some [some (.string t.target.name),
        some (.array (Json.cutItems d (t.statements.map Statement.toJson)))] := rfl
  have hnone : Json.arrayOf? Statement.ofJson?
      (.array (Json.cutItems d (t.statements.map Statement.toJson))) = none := by
    have hreadable : (v.cut d).isReadable = false :=
      Bool.eq_false_iff.mpr fun h => Nat.not_le.mpr hdeep (Json.depth_le_of_isReadable_cut h)
    rw [Json.cutItems_eq_map]
    exact Survives.mapM_eq_none (List.mem_map_of_mem hv)
      (Statement.ofJson?_of_isReadable_eq_false hreadable)
  simp only [hcut, ofJson?, hfields, htarget.read_write, hnone, Option.bind_eq_bind,
    Option.bind_some, Option.bind_none]

/-- A tree without floats and doubles is read from its text as it was written, unless it nests
deeper than texts may. -/
theorem read_written (h : t.isFloatFree = true) :
    (Json.ofText? t.toJson.text).bind ofJson? =
      if t.toJson.depth ≤ Json.maxDepth then some t else none := by
  have hsurvives := survives h
  rw [Json.ofText?_text hsurvives.exact, Option.bind_some]
  split
  · next hdepth => rw [Json.cut_of_depth_le hdepth, hsurvives.read_write]
  · next hdepth => exact ofJson?_cut_of_lt_depth (Nat.lt_of_not_le hdepth)

/-- The decimal `1.50` within `n` lists. -/
def nestedLiteral : Nat → Literal
  | 0 => .decimal ⟨150, 2, by decide, by decide⟩
  | n + 1 => .list [nestedLiteral n]

/-- A tree that stores `1.50` within `n` lists. -/
def nested (n : Nat) : QueryTree := .document (.insert "t" none [("a", nestedLiteral n)])

theorem isFloatFree_nestedLiteral : ∀ n, (nestedLiteral n).isFloatFree = true
  | 0 => rfl
  | n + 1 => by
    rw [nestedLiteral, Literal.isFloatFree, Literal.areFloatFree, isFloatFree_nestedLiteral n]
    rfl

theorem depth_nestedLiteral : ∀ n, (nestedLiteral n).toJson.depth = 2 * n + 1
  | 0 => rfl
  | n + 1 => by
    simp only [nestedLiteral, Literal.toJson, Literal.toJsons, Literal.typed, Json.depth,
      Json.itemsDepth, Json.membersDepth, depth_nestedLiteral n]
    omega

theorem isFloatFree_nested (n : Nat) : (nested n).isFloatFree = true := by
  have hfree : (nested n).isFloatFree = (((nestedLiteral n).isFloatFree && true) && true) := rfl
  rw [hfree, isFloatFree_nestedLiteral]
  rfl

/-- Every list adds an object and an array. -/
theorem depth_nested (n : Nat) : (nested n).toJson.depth = 2 * n + 6 := by
  simp only [nested, document, toJson, Statement.toJson, assignmentsJson, Json.ofList,
    Json.ofOption, List.map_cons, List.map_nil, Option.map_none, Option.getD_none, Json.depth,
    Json.itemsDepth, Json.membersDepth, depth_nestedLiteral]
  omega

theorem read_written_nested : (nested 60).isFloatFree = true ∧
    (Json.ofText? (nested 60).toJson.text).bind ofJson? = some (nested 60) :=
  ⟨isFloatFree_nested 60, (read_written (isFloatFree_nested 60)).trans
    (if_pos (by rw [depth_nested]; decide))⟩

/-- One list more is not read. -/
theorem read_nested_ne : (nested 61).isFloatFree = true ∧
    (Json.ofText? (nested 61).toJson.text).bind ofJson? ≠ some (nested 61) := by
  have hexact : (nested 61).toJson.Exact := (survives (isFloatFree_nested 61)).exact
  have hnone : ofJson? ((nested 61).toJson.cut Json.maxDepth) = none :=
    ofJson?_cut_of_lt_depth (show 125 + 2 < (nested 61).toJson.depth by rw [depth_nested]; decide)
  refine ⟨isFloatFree_nested 61, ?_⟩
  rw [Json.ofText?_text hexact, Option.bind_some, hnone]
  nofun

end QueryTree

end SqlGateway
