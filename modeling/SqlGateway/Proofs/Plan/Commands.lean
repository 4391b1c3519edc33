import SqlGateway.Plan.Tree
import SqlGateway.Proofs.Plan.Strategies
import SqlGateway.Proofs.Value.Fields

/-! Every command of a plan is what its verb says: the first field of its document, by
which a store tells what to do, has the name of the verb. What has been written to other fields is
found in them. -/

namespace SqlGateway

namespace Command

/-- Whether the document of a command begins with its verb. -/
def Headed (c : Command) : Prop := ∃ v rest, c.document = (c.verb.name, v) :: rest

@[simp] theorem verb_withField (c : Command) (key : String) (v : Value) :
    (c.withField key v).verb = c.verb := rfl

@[simp] theorem verb_withField? (c : Command) (key : String) (v : Option Value) :
    (c.withField? key v).verb = c.verb := by
  cases v <;> rfl

@[simp] theorem get?_of (verb : Verb) (collection key : String) :
    (of verb collection).document.get? key =
      if key = verb.name then some (.string collection) else none :=
  Fields.get?_cons _ _ _ _

@[simp] theorem get?_withField (c : Command) (field : String) (v : Value) (key : String) :
    (c.withField field v).document.get? key =
      if key = field then some v else c.document.get? key :=
  Fields.get?_set _ _ _ _

@[simp] theorem get?_withField? (c : Command) (field : String) (v : Option Value) (key : String) :
    (c.withField? field v).document.get? key =
      if key = field then v.or (c.document.get? key) else c.document.get? key := by
  cases v <;> simp [withField?]

theorem headed_of (verb : Verb) (collection : String) : (of verb collection).Headed := ⟨_, _, rfl⟩

namespace Headed

variable {c : Command}

theorem withField (h : c.Headed) (key : String) (v : Value) : (c.withField key v).Headed := by
  obtain ⟨w, rest, hdoc⟩ := h
  by_cases hkey : c.verb.name = key
  · refine ⟨v, rest, ?_⟩
    rw [Command.withField, hdoc, ← hkey]
    simp [Fields.set]
  · refine ⟨w, Fields.set key v rest, ?_⟩
    rw [Command.withField, hdoc]
    simp [Fields.set, hkey]

theorem withField? (h : c.Headed) (key : String) (v : Option Value) :
    (c.withField? key v).Headed := by
  cases v with
  | none => exact h
  | some v => exact h.withField key v

theorem setInserted (h : c.Headed) (field : String) (v : Value) :
    (c.setInserted field v).1.Headed := by
  rw [Command.setInserted]
  split
  · exact h.withField "documents" _
  · exact h

end Headed

theorem headed_aggregate (collection : String) (stages : List Document) :
    (aggregate collection stages).Headed :=
  ((headed_of .aggregate collection).withField "pipeline" _).withField "cursor" _

theorem headed_updateMany (collection : String) (filter change : Document) :
    (updateMany collection filter change).Headed :=
  (headed_of .update collection).withField "updates" _

theorem headed_deleteMany (collection : String) (filter : Document) :
    (deleteMany collection filter).Headed :=
  (headed_of .delete collection).withField "deletes" _

end Command

namespace Plan

/-- Whether every command of a plan begins with its verb. -/
def Headed (p : Plan) : Prop := ∀ c ∈ p.commands, c.Headed

/-! ### Reading -/

theorem headed_distinctCommand [Host] {names : Naming} {s : Select} {c : Command}
    (h : distinctCommand names s = .ok c) : c.Headed := by
  obtain ⟨column, -, h⟩ := Except.bind_eq_ok.mp h
  obtain ⟨filter, -, h⟩ := Except.bind_eq_ok.mp h
  obtain ⟨field, -, h⟩ := Except.bind_eq_ok.mp h
  cases h
  exact ((Command.headed_of .distinct s.collection).withField "key" _).withField? "query" _

/-- A `find` begins with its verb and ends with its window. -/
theorem windowed_findCommand [Host] {names : Naming} {s : Select} {c : Command}
    (h : findCommand names s = .ok c) :
    ∃ inner : Command, inner.Headed ∧ inner.verb = .find ∧
      c = (inner.withField? "skip" ((Window.ofLimit? s.limit).map fun w => .long w.skip)).withField?
        "limit" ((Window.ofLimit? s.limit).map fun w => .long w.limit) := by
  obtain ⟨filter, -, h⟩ := Except.bind_eq_ok.mp h
  obtain ⟨sort, -, h⟩ := Except.bind_eq_ok.mp h
  obtain ⟨projection, -, h⟩ := Except.bind_eq_ok.mp h
  have hfind := (Command.headed_of .find s.collection).withField? "filter" (filter.map .document)
  have hprojection := hfind.withField "projection" (.document projection)
  refine ⟨_, hprojection.withField? "sort" (sort.map .document), ?_, (Except.ok.inj h).symm⟩
  simp [Command.of]

theorem headed_findCommand [Host] {names : Naming} {s : Select} {c : Command}
    (h : findCommand names s = .ok c) : c.Headed := by
  obtain ⟨inner, hinner, -, rfl⟩ := windowed_findCommand h
  exact (hinner.withField? "skip" _).withField? "limit" _

theorem verb_findCommand [Host] {names : Naming} {s : Select} {c : Command}
    (h : findCommand names s = .ok c) : c.verb = .find := by
  obtain ⟨inner, -, hverb, rfl⟩ := windowed_findCommand h
  simpa using hverb

/-- A join runs a pipeline that ends with its window. -/
theorem aggregates_joinCommand [Host] {names : Naming} {j : Join} {s : Select} {c : Command}
    (h : joinCommand names j s = .ok c) :
    ∃ stages, c = .aggregate s.collection (stages ++ windowStages s.limit) := by
  obtain ⟨lookup, -, h⟩ := Except.bind_eq_ok.mp h
  obtain ⟨filter, -, h⟩ := Except.bind_eq_ok.mp h
  obtain ⟨projection, -, h⟩ := Except.bind_eq_ok.mp h
  obtain ⟨sort, -, h⟩ := Except.bind_eq_ok.mp h
  exact ⟨_, (Except.ok.inj h).symm⟩

/-- So does a grouping. -/
theorem aggregates_groupingCommand [Host] {names : Naming} {join : Option Join} {s : Select} {c : Command}
    (h : groupingCommand names join s = .ok c) :
    ∃ stages, c = .aggregate s.collection (stages ++ windowStages s.limit) := by
  obtain ⟨lookup, -, h⟩ := Except.bind_eq_ok.mp h
  obtain ⟨key, -, h⟩ := Except.bind_eq_ok.mp h
  obtain ⟨accumulators, -, h⟩ := Except.bind_eq_ok.mp h
  obtain ⟨projection, -, h⟩ := Except.bind_eq_ok.mp h
  obtain ⟨filter, -, h⟩ := Except.bind_eq_ok.mp h
  obtain ⟨sort, -, h⟩ := Except.bind_eq_ok.mp h
  exact ⟨_, (Except.ok.inj h).symm⟩

theorem headed_commandOf [Host] {join : Option Join} {s : Select} {strategy : Strategy} {c : Command}
    (h : commandOf join s strategy = .ok c) : c.Headed := by
  cases strategy with
  | distinct output => exact headed_distinctCommand h
  | find => exact headed_findCommand h
  | joinOnly =>
    cases join with
    | none => cases h
    | some j =>
      obtain ⟨stages, rfl⟩ := aggregates_joinCommand h
      exact Command.headed_aggregate _ _
  | grouping =>
    obtain ⟨stages, rfl⟩ := aggregates_groupingCommand h
    exact Command.headed_aggregate _ _

theorem headed_ofSelect [Host] {s : Select} {p : Plan} (h : ofSelect s = .ok p) : p.Headed := by
  obtain ⟨join, strategy, command, target, hselects, rfl⟩ := ofSelect_eq_ok.mp h
  intro c hc
  rw [List.mem_singleton.mp hc]
  exact headed_commandOf hselects.runs

/-! ### Writing -/

theorem headed_ofInsert [Host] (id : ObjectId) (collection : String) (autoIncrement : Option String)
    (values : Assignments) : (ofInsert id collection autoIncrement values).Headed := by
  intro c hc
  rw [List.mem_singleton.mp hc]
  exact ((Command.headed_of .insert collection).withField "documents" _).withField "ordered" _

/-- An UPDATE is one command, which sets fields of the documents that satisfy its filter. -/
theorem exists_commands_ofUpdate [Host] {collection : String} {values : Assignments}
    {wheres : List Predicate} {p : Plan} (h : ofUpdate collection values wheres = .ok p) :
    ∃ filter, Filter.ofPredicates? .plain wheres = .ok filter ∧
      p.commands = [.updateMany collection (filter.getD [])
        [("$set", .document (storedValues values))]] := by
  rw [ofUpdate] at h
  split at h
  · cases h
  obtain ⟨filter, hfilter, h⟩ := Except.bind_eq_ok.mp h
  cases h
  exact ⟨filter, hfilter, rfl⟩

theorem headed_ofUpdate [Host] {collection : String} {values : Assignments} {wheres : List Predicate}
    {p : Plan} (h : ofUpdate collection values wheres = .ok p) : p.Headed := by
  obtain ⟨filter, -, hcommands⟩ := exists_commands_ofUpdate h
  intro c hc
  rw [hcommands] at hc
  rw [List.mem_singleton.mp hc]
  exact Command.headed_updateMany _ _ _

theorem headed_ofDelete [Host] {collection : String} {wheres : List Predicate} {p : Plan}
    (h : ofDelete collection wheres = .ok p) : p.Headed := by
  obtain ⟨filter, -, h⟩ := Except.bind_eq_ok.mp h
  dsimp only at h
  split at h
  · cases h
  cases h
  intro c hc
  rw [List.mem_singleton.mp hc]
  exact Command.headed_deleteMany _ _

/-! ### Definitions -/

theorem headed_createIndexes (collection : String) (columns : List String) :
    ∀ c ∈ createIndexes collection columns, c.Headed := by
  intro c hc
  rw [createIndexes] at hc
  split at hc
  · cases hc
  · rw [List.mem_singleton.mp hc]
    exact (Command.headed_of .createIndexes collection).withField "indexes" _

theorem headed_dropIndexes (collection : String) (columns : List String) :
    ∀ c ∈ dropIndexes collection columns, c.Headed := by
  intro c hc
  rw [dropIndexes] at hc
  split at hc
  · cases hc
  · rw [List.mem_singleton.mp hc]
    exact (Command.headed_of .dropIndexes collection).withField "index" _

theorem headed_alterCommands [Host] (collection : String) (action : AlterAction) :
    ∀ c ∈ alterCommands collection action, c.Headed := by
  have hchange (operator : String) (fields : List (String × Value)) :
      (changeAll collection operator fields).Headed := Command.headed_updateMany _ _ _
  cases action with
  | addColumns columns =>
    exact List.forall_mem_cons.mpr ⟨hchange _ _, headed_createIndexes _ _⟩
  | renameColumns renames =>
    refine List.forall_mem_append.mpr ⟨headed_dropIndexes _ _, ?_⟩
    exact List.forall_mem_cons.mpr ⟨hchange _ _, headed_createIndexes _ _⟩
  | dropColumns columns =>
    exact List.forall_mem_append.mpr ⟨headed_dropIndexes _ _, by simpa using hchange _ _⟩
  | addConstraint c => exact headed_createIndexes _ _
  | dropConstraint c => exact headed_dropIndexes _ _
  | renameConstraint source target =>
    exact List.forall_mem_append.mpr ⟨headed_dropIndexes _ _, headed_createIndexes _ _⟩

theorem headed_ofCreate (collection : String) (columns : List ColumnDef) :
    (ofCreate collection columns).Headed :=
  List.forall_mem_cons.mpr ⟨Command.headed_of .create collection, headed_createIndexes _ _⟩

theorem headed_ofAlter [Host] {collection : String} {actions : List AlterAction} {p : Plan}
    (h : ofAlter collection actions = .ok p) : p.Headed := by
  rw [ofAlter] at h
  split at h
  · cases h
  cases h
  intro c hc
  obtain ⟨action, -, hc⟩ := List.mem_flatMap.mp hc
  exact headed_alterCommands collection action c hc

theorem headed_ofDrop (collection : String) : (ofDrop collection).Headed := by
  intro c hc
  rw [List.mem_singleton.mp hc]
  exact Command.headed_of .drop collection

theorem headed_ofTruncate (collection : String) : (ofTruncate collection).Headed := by
  intro c hc
  rw [List.mem_singleton.mp hc]
  exact Command.headed_deleteMany _ _

/-! ### Trees -/

/-- Every command of a plan begins with its verb. -/
theorem headed_ofTree [Host] {id : ObjectId} {t : QueryTree} {p : Plan} (h : ofTree id t = .ok p) :
    p.Headed := by
  rw [ofTree] at h
  split at h
  · cases h
  split at h
  · next s _ =>
    cases s with
    | select s => exact headed_ofSelect h
    | insert collection autoIncrement values => cases h; exact headed_ofInsert _ _ _ _
    | update collection values wheres => exact headed_ofUpdate h
    | delete collection wheres => exact headed_ofDelete h
    | create collection columns => cases h; exact headed_ofCreate _ _
    | alter collection actions => exact headed_ofAlter h
    | drop collection => cases h; exact headed_ofDrop _
    | truncate collection => cases h; exact headed_ofTruncate _
  · cases h

end Plan

end SqlGateway
