import SqlGateway.Proofs.Identifiers.Databases
import SqlGateway.Proofs.Identifiers.Pipelines
import SqlGateway.Proofs.Store.Retrieval

/-! Commands that read, under a renaming of identifiers. They give the same of renamed databases,
renamed, as long as no stage that they come to orders identifiers. -/

namespace SqlGateway

variable {f : ObjectId → ObjectId}

/-- A result with other identifiers. -/
def ResultSet.rename (f : ObjectId → ObjectId) (r : ResultSet) : ResultSet :=
  { r with documents := r.documents.map (Document.rename f) }

namespace Databases

open Pipeline

theorem renamedSource_documents (dbs : Databases) (database : String) :
    (dbs.rename f).documents database = renamedSource f (dbs.documents database) :=
  funext (documents_rename dbs database)

variable [Host] (dbs : Databases) (database : String) {command : Document}
  (hcommand : command.IdFree)

include hcommand

/-! ### Finding -/

theorem filtered_rename (docs : List Document) {filter : Option Document}
    (h : CommandField.document? command "filter" = .ok filter) :
    filtered (docs.map (Document.rename f)) filter =
      (filtered docs filter).map (List.map (Document.rename f)) := by
  cases filter with
  | none => rfl
  | some filter => exact filter_rename (CommandField.idFree_document? hcommand h) docs

omit [Host] in
theorem chosen_rename (docs : List Document) {projection : Option Document}
    (h : CommandField.document? command "projection" = .ok projection) :
    chosen (docs.map (Document.rename f)) projection =
      (chosen docs projection).map (List.map (Document.rename f)) := by
  cases projection with
  | none => rfl
  | some projection =>
    rw [chosen, chosen, List.mapM_map]
    exact Except.mapM_eq_map_mapM fun d _ =>
      Document.project_rename d (CommandField.idFree_document? hcommand h)

omit [Host] hcommand in
theorem limited_rename (docs : List Document) (limit : Option Nat) :
    limited (docs.map (Document.rename f)) limit = (limited docs limit).map (Document.rename f) := by
  match limit with
  | none => rfl
  | some 0 => rfl
  | some (_ + 1) => exact List.map_take.symm

theorem sortedByFind_rename : (dbs.rename f).sortedByFind database command =
    (dbs.sortedByFind database command).map fun r => (r.1.map (Document.rename f), r.2) := by
  rw [sortedByFind, sortedByFind]
  refine Except.bind_eq_map fun name _ => Except.bind_eq_map fun filter hfilter => ?_
  rw [documents_rename, filtered_rename hcommand _ hfilter]
  exact Except.map_bind_eq_map fun docs _ => Except.bind_eq_map fun _ _ => rfl

theorem metByFind_rename : (dbs.rename f).metByFind database command =
    (dbs.metByFind database command).map (MetStage.rename f) := by
  rw [metByFind, metByFind, sortedByFind_rename dbs database hcommand]
  cases dbs.sortedByFind database command with
  | error e => rfl
  | ok r =>
    obtain ⟨docs, order⟩ := r
    cases order <;> rfl

/-- A `find` that orders no identifiers finds the same among renamed documents, renamed. -/
theorem find_rename (hspares : ∀ m ∈ dbs.metByFind database command, m.SparesIdentifiers) :
    (dbs.rename f).find database command =
      (dbs.find database command).map (ResultSet.rename f) := by
  rw [find_eq, find_eq]
  refine Except.bind_eq_map fun name hname => Except.bind_eq_map fun filter hfilter => ?_
  rw [documents_rename, filtered_rename hcommand _ hfilter]
  refine Except.map_bind_eq_map fun docs hdocs => Except.bind_eq_map fun order horder => ?_
  have hordered : ordered (docs.map (Document.rename f)) order =
      (ordered docs order).map (List.map (Document.rename f)) := by
    cases order with
    | none => rfl
    | some order =>
      have hmet : dbs.metByFind database command = [⟨docs, "$sort", .document order⟩] := by
        rw [metByFind, sortedByFind, hname, Except.ok_bind, hfilter, Except.ok_bind, hdocs,
          Except.ok_bind, horder]
        rfl
      rw [hmet] at hspares
      exact Document.sort_rename ((hspares _ (List.mem_singleton_self _)).sort order rfl rfl)
  rw [hordered]
  refine Except.map_bind_eq_map fun docs _ => Except.bind_eq_map fun skip _ => ?_
  refine Except.bind_eq_map fun limit _ => Except.bind_eq_map fun projection hprojection => ?_
  rw [← List.map_drop, limited_rename, chosen_rename hcommand _ hprojection]
  exact Except.map_bind_eq_map fun docs _ => Except.bind_eq_map fun _ _ => rfl

/-! ### Aggregating -/

omit [Host] in
theorem idFree_pipelineOf {name : String} {stages : List Document}
    (h : pipelineOf command = .ok (name, stages)) : ∀ stage ∈ stages, stage.IdFree := by
  obtain ⟨_, -, h⟩ := Except.bind_eq_ok.mp h
  obtain ⟨items, hitems, h⟩ := Except.bind_eq_ok.mp h
  obtain ⟨read, hread, h⟩ := Except.bind_eq_ok.mp h
  obtain ⟨cursor, -, h⟩ := Except.bind_eq_ok.mp h
  have hstages : read = stages := by
    cases cursor with
    | none => cases h
    | some options =>
      obtain ⟨_, -, h⟩ := Except.bind_eq_ok.mp h
      cases h
      rfl
  rw [← hstages]
  intro stage hstage
  obtain ⟨item, hitem, hof⟩ := Except.exists_of_mem_mapM hread hstage
  have hfree := CommandField.idFree_array hcommand hitems item hitem
  cases item <;> cases hof
  exact Value.idFree_document.mp hfree

theorem metByAggregate_rename (hf : Function.Injective f)
    (hspares : ∀ m ∈ dbs.metByAggregate database command, m.SparesIdentifiers) :
    (dbs.rename f).metByAggregate database command =
      (dbs.metByAggregate database command).map (MetStage.rename f) := by
  rw [metByAggregate] at hspares
  rw [metByAggregate, metByAggregate]
  cases hparts : pipelineOf command with
  | error e => rfl
  | ok parts =>
    rw [hparts] at hspares
    dsimp only
    rw [renamedSource_documents]
    exact met_rename hf (idFree_pipelineOf hcommand hparts) hspares

theorem aggregate_rename (hf : Function.Injective f)
    (hspares : ∀ m ∈ dbs.metByAggregate database command, m.SparesIdentifiers) :
    (dbs.rename f).aggregate database command =
      (dbs.aggregate database command).map (ResultSet.rename f) := by
  rw [aggregate, aggregate]
  refine Except.bind_eq_map fun name hname => Except.bind_eq_map fun items hitems => ?_
  refine Except.bind_eq_map fun stages hstages => Except.bind_eq_map fun cursor hcursor => ?_
  cases cursor with
  | none => rfl
  | some options =>
    refine Except.bind_eq_map fun batchSize hbatchSize => ?_
    have hparts : pipelineOf command = .ok (name, stages) := by
      rw [pipelineOf, hname, Except.ok_bind, hitems, Except.ok_bind]
      refine (congrArg (· >>= _) hstages).trans ?_
      rw [Except.ok_bind, hcursor, Except.ok_bind]
      dsimp only
      rw [hbatchSize]
      rfl
    rw [metByAggregate, hparts] at hspares
    dsimp only at hspares
    rw [documents_rename, renamedSource_documents,
      run_rename hf (idFree_pipelineOf hcommand hparts) hspares]
    exact Except.map_bind_eq_map fun docs _ => rfl

omit hcommand in
/-- The stages that a planned pipeline comes to. -/
theorem met_aggregate (collection : String) (stages : List Document) :
    dbs.met database (Command.aggregate collection stages).document =
      Pipeline.met (dbs.documents database) (dbs.documents database collection) stages := by
  have hparts : pipelineOf (Command.aggregate collection stages).document = (do
      let stages ← (stages.map Value.document).mapM stageOf
      return (collection, stages)) := rfl
  rw [Except.mapM_map_ok (g := Value.document) (fun _ => rfl) stages] at hparts
  change dbs.metByAggregate database _ = _
  rw [metByAggregate, hparts]
  rfl

/-- A command that reads and orders no identifiers gives the same, renamed. -/
theorem retrieve_rename (hf : Function.Injective f) {verb : String} {v : Value} {rest : Document}
    (hverb : verb = "find" ∨ verb = "aggregate") (hheaded : command = (verb, v) :: rest)
    (hspares : ∀ m ∈ dbs.met database command, m.SparesIdentifiers) :
    (dbs.rename f).retrieve verb database command =
      (dbs.retrieve verb database command).map (ResultSet.rename f) := by
  rcases hverb with rfl | rfl
  · rw [hheaded] at hspares hcommand ⊢
    exact find_rename dbs database hcommand hspares
  · rw [hheaded] at hspares hcommand ⊢
    exact aggregate_rename dbs database hcommand hf hspares

theorem met_rename (hf : Function.Injective f)
    (hspares : ∀ m ∈ dbs.met database command, m.SparesIdentifiers) :
    (dbs.rename f).met database command = (dbs.met database command).map (MetStage.rename f) := by
  unfold met at hspares ⊢
  split at hspares
  · exact metByFind_rename dbs database hcommand
  · exact metByAggregate_rename dbs database hcommand hf hspares
  · rfl

/-! ### Different values -/

omit [Host] hcommand in
theorem valuesAt_rename (path : String) (d : Document) :
    valuesAt path (d.rename f) = (valuesAt path d).map (Value.rename f) := by
  rw [valuesAt, valuesAt, Document.getPath?_rename]
  cases d.getPath? path with
  | none => rfl
  | some v =>
    cases v with
    | array items => rw [Option.map_some, Value.rename_array]
    | document inner => rw [Option.map_some, Value.rename_document]; simp
    | _ => rfl

omit [Host] hcommand in
theorem distinctValues_rename (hf : Function.Injective f) (values : List Value) :
    distinctValues (values.map (Value.rename f)) = (distinctValues values).map (Value.rename f) := by
  have hfold (seen : List Value) :
      (values.map (Value.rename f)).foldl
          (fun seen v => if seen.any (·.equal v) then seen else seen ++ [v])
          (seen.map (Value.rename f)) =
        (values.foldl (fun seen v => if seen.any (·.equal v) then seen else seen ++ [v]) seen).map
          (Value.rename f) := by
    induction values generalizing seen with
    | nil => rfl
    | cons v values ih =>
      have hany : (seen.map (Value.rename f)).any (·.equal (v.rename f)) = seen.any (·.equal v) := by
        rw [List.any_map]
        exact congrArg _ (funext fun w => Value.equal_rename hf w v)
      rw [List.map_cons, List.foldl_cons, List.foldl_cons, hany]
      split
      · exact ih seen
      · rw [← ih, List.map_append, List.map_singleton]
  exact hfold []

theorem distinct_rename (hf : Function.Injective f) :
    (dbs.rename f).distinct database command =
      (dbs.distinct database command).map (Document.rename f) := by
  have hquery (docs : List Document) (filter : Option Document)
      (hfilter : CommandField.document? command "query" = .ok filter) :
      filtered (docs.map (Document.rename f)) filter =
        (filtered docs filter).map (List.map (Document.rename f)) := by
    cases filter with
    | none => rfl
    | some filter => exact filter_rename (CommandField.idFree_document? hcommand hfilter) docs
  have hvalues (path : String) (docs : List Document) :
      (docs.map (Document.rename f)).flatMap (valuesAt path) =
        (docs.flatMap (valuesAt path)).map (Value.rename f) := by
    rw [List.flatMap_map, List.map_flatMap]
    exact List.flatMap_congr fun d _ => valuesAt_rename path d
  rw [distinct, distinct]
  refine Except.bind_eq_map fun name _ => ?_
  split
  · refine Except.bind_eq_map fun path _ => Except.bind_eq_map fun filter hfilter => ?_
    rw [documents_rename, hquery _ filter hfilter]
    refine Except.map_bind_eq_map fun docs _ => ?_
    rw [hvalues, distinctValues_rename hf]
    refine congrArg (fun v => Except.ok [("values", v)]) ?_
    exact (Value.rename_array _).symm
  · rfl

end Databases

end SqlGateway
