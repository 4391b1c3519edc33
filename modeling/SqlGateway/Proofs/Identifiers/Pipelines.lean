import SqlGateway.Proofs.Identifiers.Groups
import SqlGateway.Proofs.Identifiers.Expressions
import SqlGateway.Proofs.Store.Sorting
import SqlGateway.Store.Retrieval

/-! Pipelines under a renaming of identifiers. Stages see of identifiers only whether they are
equal, but for those that put documents in order or choose the least or greatest of some values: a
pipeline gives the same of renamed documents, renamed, as long as no such stage comes to an
identifier. -/

namespace SqlGateway

variable {f : ObjectId → ObjectId}

/-! ### Order -/

namespace Document

/-- Whether no field of an order holds an identifier in some documents. -/
def OrderSpares (order : Document) (docs : List Document) : Prop :=
  ∀ e ∈ order, ∀ d ∈ docs, ∀ v, d.getPath? e.1 = some v → v.idFree = true

variable {docs : List Document} {order : Document} {keys : SortKeys}

theorem mem_of_sortKeys (h : sortKeys order = .ok keys) {key : String × Bool} (hkey : key ∈ keys) :
    ∃ e ∈ order, e.1 = key.1 := by
  obtain ⟨⟨field, v⟩, he, hread⟩ := Except.exists_of_mem_mapM h hkey
  dsimp only at hread
  split at hread
  · cases hread
    exact ⟨_, he, rfl⟩
  · cases hread

theorem orderBy_rename (hspares : order.OrderSpares docs) (hkeys : sortKeys order = .ok keys)
    {a b : Document} (ha : a ∈ docs) (hb : b ∈ docs) :
    orderBy keys (a.rename f) (b.rename f) = orderBy keys a b := by
  have hsame (d : Document) (hd : d ∈ docs) (key : String × Bool) (hkey : key ∈ keys) :
      (d.rename f).getPath? key.1 = d.getPath? key.1 := by
    obtain ⟨e, he, hname⟩ := mem_of_sortKeys hkeys hkey
    rw [getPath?_rename, ← hname]
    cases hv : d.getPath? e.1 with
    | none => rfl
    | some v => exact congrArg some (Value.rename_of_idFree v (hspares e he d hd v hv))
  exact orderBy_congr (hsame a ha) (hsame b hb)

theorem sort_rename (hspares : order.OrderSpares docs) :
    sort (docs.map (rename f)) order = (sort docs order).map (List.map (rename f)) := by
  cases hkeys : sortKeys order with
  | error e =>
    rw [sort, sort, hkeys]
    rfl
  | ok keys =>
    obtain ⟨sorted, hsorted, -⟩ := exists_sort hkeys docs
    rw [hsorted]
    exact sort_map (fun a ha b hb => orderBy_rename hspares hkeys ha hb) hkeys hsorted

theorem sortComesBack_rename (hspares : order.OrderSpares docs) :
    sortComesBack (docs.map (rename f)) order = sortComesBack docs order := by
  rw [sortComesBack, sortComesBack]
  split
  · next keys hkeys =>
    have hsame {a b : Document} (ha : a ∈ docs) (hb : b ∈ docs) :=
      orderBy_rename (f := f) hspares hkeys ha hb
    have htransitive : comparesTransitively keys (docs.map (rename f)) =
        comparesTransitively keys docs := by
      rw [comparesTransitively, comparesTransitively, Bool.eq_iff_iff]
      simp only [List.all_eq_true, List.forall_mem_map]
      refine forall₂_congr fun a ha => forall₂_congr fun b hb => forall₂_congr fun c hc => ?_
      rw [hsame ha hb, hsame hb hc, hsame ha hc]
    rw [List.length_map, htransitive]
  · rfl

end Document

/-! ### Stages -/

namespace MetStage

/-- Whether a stage orders no identifiers. -/
structure SparesIdentifiers (m : MetStage) : Prop where
  sort : ∀ order, m.name = "$sort" → m.spec = .document order →
    Document.OrderSpares order m.documents
  group : ∀ spec fields, m.name = "$group" → m.spec = .document spec →
    Group.fieldsOf spec = .ok fields → ∀ d ∈ m.documents, Group.Spares fields d

/-- A stage that is given documents with other identifiers. -/
def rename (f : ObjectId → ObjectId) (m : MetStage) : MetStage :=
  { m with documents := m.documents.map (Document.rename f) }

theorem spares_of_name {m : MetStage} (hsort : m.name ≠ "$sort") (hgroup : m.name ≠ "$group") :
    m.SparesIdentifiers :=
  ⟨fun _ hname => absurd hname hsort, fun _ _ hname => absurd hname hgroup⟩

theorem comesBack_rename {m : MetStage} (hm : m.SparesIdentifiers) :
    (m.rename f).comesBack = m.comesBack := by
  unfold comesBack rename
  dsimp only
  split
  · next order hname hspec => exact Document.sortComesBack_rename (hm.sort order hname hspec)
  · rfl

end MetStage

namespace Pipeline

variable [Host] {source : Source} {docs : List Document}

/-- The collections with other identifiers. -/
def renamedSource (f : ObjectId → ObjectId) (source : Source) : Source :=
  fun name => (source name).map (Document.rename f)

theorem filterAuxM_rename {filter : Document} (hfilter : filter.IdFree)
    (docs taken : List Document) :
    (docs.map (Document.rename f)).filterAuxM (fun d : Document => d.matches filter)
        (taken.map (Document.rename f)) =
      (docs.filterAuxM (fun d : Document => d.matches filter) taken).map
        (List.map (Document.rename f)) := by
  induction docs generalizing taken with
  | nil => rfl
  | cons d docs ih =>
    rw [List.map_cons, List.filterAuxM, List.filterAuxM, Document.matches_rename d hfilter]
    refine Except.bind_eq_map fun satisfied _ => ?_
    cases satisfied
    · exact ih taken
    · exact ih (d :: taken)

theorem filter_rename {filter : Document} (hfilter : filter.IdFree) (docs : List Document) :
    Pipeline.filter (docs.map (Document.rename f)) filter =
      (Pipeline.filter docs filter).map (List.map (Document.rename f)) := by
  rw [Pipeline.filter, Pipeline.filter, List.filterM, List.filterM]
  have hall := filterAuxM_rename (f := f) hfilter docs []
  rw [List.map_nil] at hall
  rw [hall]
  exact Except.map_bind_eq_map fun found _ => congrArg Except.ok List.map_reverse.symm

omit [Host] in
theorem keysMeet_rename (hf : Function.Injective f) (near far : Value) :
    keysMeet (near.rename f) (far.rename f) = keysMeet near far := by
  cases near with
  | array items =>
    rw [Value.rename_array, keysMeet, keysMeet, List.any_map]
    exact congrArg _ (funext fun v => Value.equal_rename hf v far)
  | _ => exact Value.equal_rename hf _ far

omit [Host] in
theorem lookup_rename (hf : Function.Injective f) (docs : List Document) (spec : Document) :
    lookup (renamedSource f source) (docs.map (Document.rename f)) spec =
      (lookup source docs spec).map (List.map (Document.rename f)) := by
  rw [lookup, lookup]
  refine Except.bind_eq_map fun name _ => Except.bind_eq_map fun near _ => ?_
  refine Except.bind_eq_map fun far _ => Except.bind_eq_map fun target _ => ?_
  refine congrArg Except.ok ?_
  dsimp only
  rw [List.map_map, List.map_map]
  refine List.map_congr_left fun d _ => ?_
  have hmeet (o : Document) :
      keysMeet (((d.rename f).getPath? near).getD .null) (((o.rename f).getPath? far).getD .null) =
        keysMeet ((d.getPath? near).getD .null) ((o.getPath? far).getD .null) := by
    rw [Document.getPath?_rename, Document.getPath?_rename, Accumulator.renamed_getD_null,
      Accumulator.renamed_getD_null, keysMeet_rename hf]
  dsimp only [Function.comp_def]
  rw [← Document.setPath_rename, Value.rename_array, renamedSource, List.filter_map, List.map_map,
    List.map_map]
  simp only [Function.comp_def, hmeet, Value.rename_document]

omit [Host] in
theorem unwindOne_rename (field : String) (preserve : Bool) (d : Document) :
    unwindOne field preserve (d.rename f) =
      (unwindOne field preserve d).map (Document.rename f) := by
  rw [unwindOne, unwindOne, Document.getPath?_rename]
  cases hv : d.getPath? field with
  | none => cases preserve <;> rfl
  | some v =>
    cases v with
    | array items =>
      rw [Option.map_some, Value.rename_array]
      cases items with
      | nil =>
        dsimp only [List.map_nil]
        rw [Document.removePath_rename]
        cases preserve <;> rfl
      | cons item items =>
        change ((item :: items).map (Value.rename f)).map ((d.rename f).setPath field) = _
        rw [List.map_map, List.map_map]
        exact List.map_congr_left fun v _ => Document.setPath_rename d field v
    | null => cases preserve <;> rfl
    | document inner => rw [Option.map_some, Value.rename_document]; rfl
    | _ => rfl

omit [Host] in
theorem replaceRoot_rename (docs : List Document) {spec : Document} (hspec : spec.IdFree) :
    replaceRoot (docs.map (Document.rename f)) spec =
      (replaceRoot docs spec).map (List.map (Document.rename f)) := by
  unfold replaceRoot
  split
  · rfl
  · next e he =>
    rw [List.mapM_map]
    refine Except.mapM_eq_map_mapM fun d _ => ?_
    dsimp only [Function.comp_def]
    rw [Expression.evaluate_rename d e (hspec.get? he)]
    refine Except.map_bind_eq_map fun v _ => ?_
    cases v with
    | none => rfl
    | some v =>
      cases v with
      | document root => rw [Option.map_some, Value.rename_document]; rfl
      | array items => rw [Option.map_some, Value.rename_array]; rfl
      | _ => rfl

omit [Host] in
theorem idFree_documentOf {stage : String} {spec : Value} {d : Document} (hspec : spec.idFree = true)
    (h : documentOf stage spec = .ok d) : d.IdFree := by
  cases spec <;> cases h
  exact Value.idFree_document.mp hspec

omit [Host] in
theorem eq_of_documentOf {stage : String} {spec : Value} {d : Document}
    (h : documentOf stage spec = .ok d) : spec = .document d := by
  cases spec <;> cases h
  rfl

/-- A stage that orders no identifiers gives the same of renamed documents, renamed. -/
theorem runStage_rename (hf : Function.Injective f) {name : String} {spec : Value}
    (hspec : spec.idFree = true) (hspares : MetStage.SparesIdentifiers ⟨docs, name, spec⟩) :
    runStage (renamedSource f source) (docs.map (Document.rename f)) name spec =
      (runStage source docs name spec).map (List.map (Document.rename f)) := by
  unfold runStage
  split
  · refine Except.bind_eq_map fun filter hfilter => ?_
    exact filter_rename (idFree_documentOf hspec hfilter) docs
  · refine Except.bind_eq_map fun projection hprojection => ?_
    rw [List.mapM_map]
    refine Except.mapM_eq_map_mapM fun d _ => ?_
    exact Document.project_rename d (idFree_documentOf hspec hprojection)
  · refine Except.bind_eq_map fun order horder => ?_
    exact Document.sort_rename (hspares.sort order rfl (eq_of_documentOf horder))
  · refine Except.bind_eq_map fun n _ => congrArg Except.ok List.map_drop.symm
  · refine Except.bind_eq_map fun n _ => ?_
    split
    · rfl
    · exact congrArg Except.ok List.map_take.symm
  · exact Except.bind_eq_map fun join _ => lookup_rename hf docs join
  · rw [unwind, unwind]
    refine Except.bind_eq_map fun field _ => congrArg Except.ok ?_
    rw [List.flatMap_map, List.map_flatMap]
    exact List.flatMap_congr fun d _ => unwindOne_rename field.1 field.2 d
  · refine Except.bind_eq_map fun group hgroup => ?_
    refine Group.collect_rename hf (idFree_documentOf hspec hgroup) fun fields hfields => ?_
    exact hspares.group group fields rfl (eq_of_documentOf hgroup) hfields
  · refine Except.bind_eq_map fun root hroot => ?_
    exact replaceRoot_rename docs (idFree_documentOf hspec hroot)
  · unfold count
    split
    · rw [List.isEmpty_map, List.length_map]
      split <;> rfl
    · rfl
  · rfl

/-! ### Pipelines -/

/-- The stages that a pipeline comes to are its own. -/
theorem mem_of_mem_met {stages : List Document} {m : MetStage} (hm : m ∈ met source docs stages) :
    [(m.name, m.spec)] ∈ stages := by
  induction stages generalizing docs with
  | nil => cases hm
  | cons stage stages ih =>
    match stage with
    | [] => cases hm
    | _ :: _ :: _ => cases hm
    | [(name, spec)] =>
      rw [met] at hm
      rcases List.mem_cons.mp hm with rfl | hm
      · exact List.mem_cons_self
      · split at hm
        · exact List.mem_cons_of_mem _ (ih hm)
        · cases hm

/-- So does a pipeline all of whose stages are such. -/
theorem run_rename (hf : Function.Injective f) {stages : List Document}
    (hstages : ∀ stage ∈ stages, stage.IdFree)
    (hspares : ∀ m ∈ met source docs stages, m.SparesIdentifiers) :
    run (renamedSource f source) (docs.map (Document.rename f)) stages =
      (run source docs stages).map (List.map (Document.rename f)) := by
  induction stages generalizing docs with
  | nil => rfl
  | cons stage stages ih =>
    obtain ⟨hstage, hrest⟩ := List.forall_mem_cons.mp hstages
    match stage with
    | [] => rfl
    | _ :: _ :: _ => rfl
    | [(name, spec)] =>
      rw [met] at hspares
      obtain ⟨hfirst, hspares⟩ := List.forall_mem_cons.mp hspares
      rw [run, run, runStage_rename hf (hstage _ List.mem_cons_self) hfirst]
      refine Except.map_bind_eq_map fun next hnext => ih hrest ?_
      rwa [hnext] at hspares

theorem met_rename (hf : Function.Injective f) {stages : List Document}
    (hstages : ∀ stage ∈ stages, stage.IdFree)
    (hspares : ∀ m ∈ met source docs stages, m.SparesIdentifiers) :
    met (renamedSource f source) (docs.map (Document.rename f)) stages =
      (met source docs stages).map (MetStage.rename f) := by
  induction stages generalizing docs with
  | nil => rfl
  | cons stage stages ih =>
    obtain ⟨hstage, hrest⟩ := List.forall_mem_cons.mp hstages
    match stage with
    | [] => rfl
    | _ :: _ :: _ => rfl
    | [(name, spec)] =>
      rw [met] at hspares
      obtain ⟨hfirst, hspares⟩ := List.forall_mem_cons.mp hspares
      rw [met, met, runStage_rename hf (hstage _ List.mem_cons_self) hfirst, List.map_cons]
      refine congrArg (_ :: ·) ?_
      cases hnext : runStage source docs name spec with
      | error e => rfl
      | ok next =>
        rw [hnext] at hspares
        exact ih hrest hspares

end Pipeline

end SqlGateway
