import SqlGateway.Proofs.Execution.Keys
import SqlGateway.Proofs.Execution.SortedSlices
import SqlGateway.Proofs.Filter.Return
import SqlGateway.Proofs.Identifiers.Runs
import SqlGateway.Proofs.Plan.Groupings

/-! What statements order, as can be told from the statements themselves. A statement that orders
nothing and has no column called `$and` comes back wherever it is met; and it comes to no
identifiers, as does one that orders the documents of a collection by other fields. -/

namespace SqlGateway

/-! ### Statements that order no identifiers -/

/-- Whether a SELECT puts nothing in order and takes no least or greatest value. -/
def Select.Unordered (q : Select) : Prop :=
  q.orderBy = none ∧ ∀ c ∈ q.columns, c.aggregation ≠ some .max ∧ c.aggregation ≠ some .min

/-- Whether a SELECT reads one collection, and orders its documents by fields that are not their
identifiers. -/
structure Select.OrdersFields (q : Select) : Prop where
  finds : Plan.Finds q
  fields : ∀ terms, q.orderBy = some terms → ∀ t ∈ terms, t.column.name ≠ "_id"

/-- Whether a statement comes to no identifiers wherever it is met: it orders nothing, or documents
by fields that are not their identifiers. -/
def Statement.OrdersPlainly : Statement → Prop
  | .select q => q.Unordered ∨ q.OrdersFields
  | .insert _ (some column) _ => PlainName column
  | _ => True

/-- Whether a statement orders nothing and has no conditions on a column called `$and`. -/
def Statement.Direct : Statement → Prop
  | .select q => q.Unordered ∧ ∀ p ∈ q.wheres ++ q.having, p.column.name ≠ "$and"
  | .insert _ autoIncrement _ => autoIncrement = none
  | .update _ _ wheres | .delete _ wheres => ∀ p ∈ wheres, p.column.name ≠ "$and"
  | _ => True

/-- Whether every statement of a tree orders no identifiers. -/
def QueryTree.OrdersPlainly (t : QueryTree) : Prop := ∀ st ∈ t.statements, st.OrdersPlainly

/-- Whether every statement of a tree is direct. -/
def QueryTree.Direct (t : QueryTree) : Prop := ∀ st ∈ t.statements, st.Direct

/-! ### Columns -/

/-- Fields of stored documents have the names of their columns; others have longer ones. -/
theorem Naming.field_ne {names : Naming} {c : Column} {key : String} (hname : c.name ≠ key)
    (hdotless : '.' ∉ key.toList) (hhead : key.toList.head? ∉ ['A', 'C', 'M', 'S'].map some) :
    names.field c ≠ .ok key := by
  intro h
  rw [Naming.field] at h
  split at h
  · cases h
  · next f _ _ => exact aggregatedName_ne hhead f c.name (Except.ok.inj h)
  · obtain ⟨joined, -, h⟩ := Except.bind_eq_ok.mp h
    refine hdotless (Except.ok.inj h ▸ ?_)
    simp
  · exact hname (Except.ok.inj h)

/-! ### Stages -/

/-- Whether a stage puts nothing in order and chooses no least or greatest values. -/
def Document.Unordered (stage : Document) : Prop :=
  ∀ name spec, stage = [(name, spec)] → name ≠ "$sort" ∧
    ∀ d fields, name = "$group" → spec = .document d → Group.fieldsOf d = .ok fields →
      ∀ f ∈ fields, Accumulator.chooses f.kind = false

theorem Document.unordered_of_name {name : String} (spec : Value) (hsort : name ≠ "$sort")
    (hgroup : name ≠ "$group") : Unordered [(name, spec)] := by
  intro name' spec' h
  cases h
  exact ⟨hsort, fun _ _ h => absurd h hgroup⟩

theorem MetStage.spares_of_unordered {m : MetStage} (h : Document.Unordered [(m.name, m.spec)]) :
    m.SparesIdentifiers := by
  obtain ⟨hsort, hgroup⟩ := h _ _ rfl
  refine ⟨fun _ hname => absurd hname hsort, fun spec fields hname hspec hfields d _ f hf hchooses => ?_⟩
  rw [hgroup spec fields hname hspec hfields f hf] at hchooses
  cases hchooses

theorem MetStage.comesBack_of_unordered {m : MetStage}
    (h : Document.Unordered [(m.name, m.spec)]) : m.comesBack = true := by
  rw [comesBack]
  split
  · next hname _ => exact absurd hname (h _ _ rfl).1
  · rfl

variable [Host]

/-! ### Selects -/

namespace Plan

variable {names : Naming} {q : Select} {c : Command}

omit [Host] in
theorem unordered_lookupStages {j : Join} {stages : List Document}
    (h : lookupStages j = .ok stages) : ∀ stage ∈ stages, stage.Unordered := by
  rw [lookupStages] at h
  split at h
  · cases h
  · cases h
    refine List.forall_mem_cons.mpr ⟨?_, List.forall_mem_singleton.mpr ?_⟩ <;>
      exact Document.unordered_of_name _ (by decide) (by decide)

omit [Host] in
theorem unordered_matchStages (filter : Option Document) :
    ∀ stage ∈ matchStages filter, stage.Unordered := by
  cases filter with
  | none => exact nofun
  | some d => exact List.forall_mem_singleton.mpr (Document.unordered_of_name _ (by decide) (by decide))

omit [Host] in
theorem unordered_windowStages (l : Option Limit) :
    ∀ stage ∈ windowStages l, stage.Unordered := by
  rw [windowStages]
  split
  · refine List.forall_mem_cons.mpr ⟨?_, List.forall_mem_singleton.mpr ?_⟩ <;>
      exact Document.unordered_of_name _ (by decide) (by decide)
  · exact List.forall_mem_nil _

omit [Host] in
theorem sortStages_of_unordered (h : q.Unordered) : sortStages names q = .ok [] := by
  rw [sortStages, h.1]

omit [Host] in
theorem extremumStages_of_unordered (h : q.Unordered) : extremumStages q = [] := by
  have hnone : q.columns.find? (fun c => c.aggregation == some .max || c.aggregation == some .min) =
      none := by
    refine List.find?_eq_none.mpr fun c hc => ?_
    simpa using h.2 c hc
  rw [extremumStages, hnone]

omit [Host] in
theorem unordered_groupSpec (h : q.Unordered) {key : Value} {accs : List (String × Value)}
    (haccs : accumulators names q.columns = .ok accs) :
    Document.Unordered [("$group", .document (groupSpec key accs))] := by
  intro name spec hstage
  cases hstage
  refine ⟨by decide, fun d fields _ hspec hfields f hf => ?_⟩
  cases hspec
  obtain ⟨⟨name, a⟩, he, hread⟩ := Except.exists_of_mem_mapM hfields hf
  obtain ⟨hmem, hname⟩ := List.mem_filter.mp he
  rcases Fields.mem_of_mem_set hmem with hrecord | hmem
  · cases hrecord
    cases hread
    rfl
  rcases Fields.mem_of_mem_setAll hmem with hkey | hacc
  · cases List.mem_singleton.mp hkey
    cases hname
  · obtain ⟨c, hc, aggregation, haggregation, hacc⟩ := exists_column_of_mem_accumulators haccs hacc
    obtain ⟨hmax, hmin⟩ := h.2 c hc
    cases hacc
    cases aggregation with
    | max => exact absurd haggregation hmax
    | min => exact absurd haggregation hmin
    | avg => cases hread; rfl
    | count => cases hread; rfl
    | sum => cases hread; rfl

/-- The pipelines of a SELECT that orders nothing have no stages that do. -/
theorem unordered_joinCommand (h : q.Unordered) {j : Join} (hc : joinCommand names j q = .ok c) :
    ∃ stages, c = .aggregate q.collection stages ∧ ∀ stage ∈ stages, stage.Unordered := by
  obtain ⟨lookup, filter, projection, sort, hlookup, -, -, hsort, rfl⟩ := stages_joinCommand hc
  rw [sortStages_of_unordered h] at hsort
  cases hsort
  refine ⟨_, rfl, ?_⟩
  simp only [List.forall_mem_append]
  refine ⟨⟨⟨⟨unordered_lookupStages hlookup, unordered_matchStages filter⟩, ?_⟩, nofun⟩,
    unordered_windowStages _⟩
  exact List.forall_mem_singleton.mpr (Document.unordered_of_name _ (by decide) (by decide))

theorem unordered_groupingCommand (h : q.Unordered) {join : Option Join}
    (hc : groupingCommand names join q = .ok c) :
    ∃ stages, c = .aggregate q.collection stages ∧ ∀ stage ∈ stages, stage.Unordered := by
  obtain ⟨lookup, hlookup, hc⟩ := Except.bind_eq_ok.mp hc
  obtain ⟨key, -, hc⟩ := Except.bind_eq_ok.mp hc
  obtain ⟨accs, haccs, hc⟩ := Except.bind_eq_ok.mp hc
  obtain ⟨projection, -, hc⟩ := Except.bind_eq_ok.mp hc
  obtain ⟨filter, -, hc⟩ := Except.bind_eq_ok.mp hc
  obtain ⟨sort, hsort, hc⟩ := Except.bind_eq_ok.mp hc
  rw [sortStages_of_unordered h] at hsort
  cases hsort
  rw [extremumStages_of_unordered h, List.nil_append] at hc
  have hjoined : ∀ stage ∈ lookup, stage.Unordered := by
    cases join with
    | none => cases hlookup; exact nofun
    | some j => exact unordered_lookupStages hlookup
  refine ⟨_, (Except.ok.inj hc).symm, ?_⟩
  simp only [List.forall_mem_append]
  refine ⟨⟨⟨⟨hjoined, ?_⟩, unordered_matchStages filter⟩, nofun⟩, unordered_windowStages _⟩
  refine List.forall_mem_cons.mpr ⟨unordered_groupSpec h haccs, List.forall_mem_cons.mpr ⟨?_, ?_⟩⟩
  · exact Document.unordered_of_name _ (by decide) (by decide)
  · exact List.forall_mem_singleton.mpr (Document.unordered_of_name _ (by decide) (by decide))

end Plan

/-! ### Stores -/

namespace MemoryStore

variable {s : MemoryStore} {database : String} {c : Command}

/-- A command that opens no cursor comes to no stages. -/
theorem met_of_cursorless (hc : c.Headed) (hcursor : c.verb.returnsCursor = false) :
    s.met database c.document = [] := by
  obtain ⟨v, rest, hdoc⟩ := hc
  rw [met, hdoc]
  split
  · cases hverb : c.verb with
    | find | aggregate =>
      rw [hverb] at hcursor
      cases hcursor
    | _ => rfl
  · rfl

theorem unordered_of_aggregate {collection : String} {stages : List Document}
    (h : ∀ stage ∈ stages, stage.Unordered) :
    ∀ m ∈ s.met database (Command.aggregate collection stages).document,
      Document.Unordered [(m.name, m.spec)] := by
  intro m hm
  rw [met] at hm
  split at hm
  · rw [Databases.met_aggregate] at hm
    exact h _ (Pipeline.mem_of_mem_met hm)
  · cases hm

/-- A `find` comes to no stage but the sort of documents of its collection. -/
theorem mem_met_find {names : Naming} {q : Select} (hc : Plan.findCommand names q = .ok c)
    {m : MetStage} (hm : m ∈ s.met database c.document) :
    ∃ terms order, q.orderBy = some terms ∧ sortOf names terms = .ok order ∧ m.name = "$sort" ∧
      m.spec = .document order ∧ m.documents ⊆ s.databases.documents database q.collection := by
  obtain ⟨filter, order, projection, -, horder, -, hfields⟩ := Plan.findFields_findCommand hc
  obtain ⟨v, rest, hdoc⟩ := Plan.headed_findCommand hc
  rw [Plan.verb_findCommand hc] at hdoc
  rw [met] at hm
  split at hm
  · have hmet : s.databases.met database c.document =
        s.databases.metByFind database c.document := by
      rw [hdoc]
      rfl
    rw [hmet, Databases.metByFind, Databases.sortedByFind, hfields.name, Except.ok_bind,
      hfields.filter, Except.ok_bind] at hm
    cases hmatched : Databases.filtered (s.databases.documents database q.collection) filter with
    | error e =>
      rw [hmatched] at hm
      cases hm
    | ok docs =>
      rw [hmatched, Except.ok_bind, hfields.order, Except.ok_bind] at hm
      cases order with
      | none => cases hm
      | some order =>
        cases List.mem_singleton.mp hm
        cases hterms : q.orderBy with
        | none =>
          rw [hterms] at horder
          cases horder
        | some terms =>
          rw [hterms] at horder
          obtain ⟨order', hsort, hsame⟩ := Except.map_eq_ok.mp horder
          cases hsame
          refine ⟨terms, order, rfl, hsort, rfl, rfl, ?_⟩
          obtain ⟨-, rfl⟩ := Databases.filtered_eq_ok.mp hmatched
          exact List.filter_subset_self _
  · cases hm

end MemoryStore

/-! ### Plans -/

namespace Plan

variable {q : Select} {p : Plan} {s : MemoryStore} {database : String} {labels : List ObjectId}

theorem unordered_ofSelect (h : q.Unordered) (hp : ofSelect q = .ok p) : ∀ c ∈ p.commands,
    ∀ m ∈ s.met database c.document, Document.Unordered [(m.name, m.spec)] := by
  obtain ⟨join, strategy, command, target, hselects, rfl⟩ := ofSelect_eq_ok.mp hp
  have hcommand := hselects.runs
  refine List.forall_mem_singleton.mpr fun m hm => ?_
  cases strategy with
  | distinct output =>
    have hcursor : command.verb.returnsCursor = false := by
      rw [verb_distinctCommand hcommand]
      rfl
    rw [MemoryStore.met_of_cursorless (headed_distinctCommand hcommand) hcursor] at hm
    cases hm
  | find =>
    obtain ⟨terms, -, hterms, -⟩ := MemoryStore.mem_met_find hcommand hm
    rw [h.1] at hterms
    cases hterms
  | joinOnly =>
    cases join with
    | none => cases hcommand
    | some j =>
      obtain ⟨stages, rfl, hstages⟩ := unordered_joinCommand h hcommand
      exact MemoryStore.unordered_of_aggregate hstages m hm
  | grouping =>
    obtain ⟨stages, rfl, hstages⟩ := unordered_groupingCommand h hcommand
    exact MemoryStore.unordered_of_aggregate hstages m hm

/-- Fields of documents that hold no identifiers but their own. -/
theorem spares_ofSelect_of_fields (h : q.OrdersFields) (hs : s.databases.Labelled labels)
    (hp : ofSelect q = .ok p) :
    ∀ c ∈ p.commands, ∀ m ∈ s.met database c.document, m.SparesIdentifiers := by
  obtain ⟨join, strategy, command, target, hselects, rfl⟩ := ofSelect_eq_ok.mp hp
  have hcommand := hselects.runs
  have hjoin : join = none := by
    have hnone := hselects.joins
    rw [singleJoin, h.finds.alone] at hnone
    exact (Except.ok.inj hnone).symm
  have hstrategy : strategy = .find := by
    have hfind := hselects.chooses
    rw [hjoin, h.finds.strategyOf] at hfind
    exact (Except.ok.inj hfind).symm
  rw [hstrategy] at hcommand
  refine List.forall_mem_singleton.mpr fun m hm => ?_
  obtain ⟨terms, order, hterms, horder, hname, hspec, hdocs⟩ :=
    MemoryStore.mem_met_find hcommand hm
  refine ⟨fun order' _ hspec' e he d hd v hv => ?_, fun _ _ hgroup => ?_⟩
  · obtain rfl : order = order' := by
      rw [hspec] at hspec'
      exact Value.document.inj hspec'
    obtain ⟨fields, hfields, horder⟩ := Except.bind_eq_ok.mp horder
    cases horder
    have hmem : e ∈ fields := (Fields.mem_of_mem_setAll he).resolve_left List.not_mem_nil
    obtain ⟨t, ht, hread⟩ := Except.exists_of_mem_mapM hfields hmem
    obtain ⟨field, hfield, hread⟩ := Except.bind_eq_ok.mp hread
    cases hread
    have hother : field ≠ "_id" := by
      rintro rfl
      exact Naming.field_ne (h.fields terms hterms t ht) (by decide) (by decide) hfield
    exact (hs.documents database q.collection d (hdocs hd)).idFree_getPath? hother hv
  · rw [hname] at hgroup
    exact absurd hgroup (by decide)

end Plan

/-! ### Keys -/

namespace Execution

open MemoryStore

variable {s : MemoryStore} {database : String} {labels : List ObjectId}

/-- The next key of a counted column is found without identifiers. -/
theorem keySparesIdentifiers_of_plain (hs : s.databases.Labelled labels) {c : CountedColumn}
    (hcolumn : PlainName c.column) : KeySparesIdentifiers database c s := by
  obtain ⟨plan, hplan, hsingle⟩ := NextKey.singleCommand_query hcolumn
  have hcommands : Gateway.keyCommands c = [NextKey.command c] := by
    rw [Gateway.keyCommands, hplan]
    exact Gateway.commands_of_singleCommand hsingle
  have hfields : (NextKey.query c).OrdersFields := by
    refine ⟨NextKey.finds_query c, fun terms hterms t ht => ?_⟩
    cases hterms
    cases List.mem_singleton.mp ht
    exact hcolumn.ordinary
  constructor
  · intro command hcommand
    rw [Gateway.keyCommands, hplan] at hcommand
    exact Plan.spares_ofSelect_of_fields hfields hs hplan command hcommand
  · rw [hcommands]
    refine List.forall_mem_singleton.mpr fun docs hdocs d hd v hv => ?_
    obtain ⟨-, result, hresult, rfl⟩ := retrieve_of_documentsOf hdocs
    obtain ⟨o, ho, hget⟩ :=
      NextKey.exists_of_retrieve_command hcolumn hresult (List.mem_of_mem_head? hd)
    exact ((hs.documents database c.collection o ho).get? (hget ▸ hv)).resolve_right
      fun h => hcolumn.ordinary h.1

/-! ### Statements -/

variable {label : ObjectId}

/-- The commands of other statements than SELECT come to no stages. -/
theorem met_ofStatement {st : Statement} {p : Plan} (hselect : ∀ q, st ≠ .select q)
    (hp : Plan.ofStatement label st = .ok p) :
    ∀ c ∈ p.commands, s.met database c.document = [] := by
  intro c hc
  have hplain := Plan.plain_ofStatement hselect hp c hc
  exact met_of_cursorless hplain.headed hplain.cursorless

/-- Keys are only counted for documents that are stored. -/
theorem exists_insert_of_autoIncrement {st : Statement} {p : Plan}
    (hp : Plan.ofStatement label st = .ok p) {c : CountedColumn} (hc : p.autoIncrement = some c) :
    ∃ collection values, st = .insert collection (some c.column) values := by
  cases st with
  | select q =>
    obtain ⟨_, _, _, _, -, rfl⟩ := Plan.ofSelect_eq_ok.mp hp
    cases hc
  | insert collection autoIncrement values =>
    cases hp
    obtain ⟨column, rfl, rfl⟩ := Option.map_eq_some_iff.mp hc
    exact ⟨collection, values, rfl⟩
  | update collection values wheres =>
    change Plan.ofUpdate collection values wheres = .ok p at hp
    rw [Plan.ofUpdate] at hp
    split at hp
    · cases hp
    · obtain ⟨filter, -, hp⟩ := Except.bind_eq_ok.mp hp
      cases hp
      cases hc
  | delete collection wheres =>
    obtain ⟨filter, -, hp⟩ := Except.bind_eq_ok.mp hp
    dsimp only at hp
    split at hp <;> cases hp
    cases hc
  | create collection columns => cases hp; cases hc
  | alter collection actions =>
    change Plan.ofAlter collection actions = .ok p at hp
    rw [Plan.ofAlter] at hp
    split at hp <;> cases hp
    cases hc
  | drop collection => cases hp; cases hc
  | truncate collection => cases hp; cases hc

end Execution

/-! ### Trees -/

theorem Plan.exists_statement_of_ofTree {label : ObjectId} {t : QueryTree} {p : Plan}
    (h : ofTree label t = .ok p) : ∃ st ∈ t.statements, ofStatement label st = .ok p := by
  rw [ofTree] at h
  split at h
  · cases h
  · split at h
    · next st hstatements => exact ⟨st, hstatements ▸ List.mem_singleton_self st, h⟩
    · cases h

namespace Execution

open MemoryStore

variable {s : MemoryStore} {database : String} {labels : List ObjectId} {t : QueryTree}

/-- A statement that orders no identifiers comes to none, over stores whose documents hold no
identifiers but their own. -/
theorem sparesIdentifiers_of_ordersPlainly (hs : s.Labelled labels) (h : t.OrdersPlainly)
    (label : ObjectId) (autoCommit : Bool) : SparesIdentifiers database label t autoCommit s := by
  constructor
  · intro p c hp hc
    obtain ⟨st, hst, hp⟩ := Plan.exists_statement_of_ofTree hp
    obtain ⟨collection, values, rfl⟩ := exists_insert_of_autoIncrement hp hc
    exact keySparesIdentifiers_of_plain hs.databases (h _ hst)
  · intro p hp c hc m hm
    obtain ⟨st, hst, hp⟩ := Plan.exists_statement_of_ofTree hp
    by_cases hselect : ∃ q, st = .select q
    · obtain ⟨q, rfl⟩ := hselect
      rcases h _ hst with hunordered | hfields
      · exact MetStage.spares_of_unordered (Plan.unordered_ofSelect hunordered hp c hc m hm)
      · have hopened : (Gateway.opened store autoCommit s).databases.Labelled labels := by
          rw [Gateway.opened]
          split
          · exact hs.startTransaction.databases
          · exact hs.databases
        exact Plan.spares_ofSelect_of_fields hfields hopened hp c hc m hm
    · rw [met_ofStatement (fun q hs => hselect ⟨q, hs⟩) hp c hc] at hm
      cases hm

theorem planComesBack_of_direct (h : t.Direct) : t.planComesBack = true := by
  have hfields {names : Naming} {ps : List Predicate} (hps : ∀ p ∈ ps, p.column.name ≠ "$and") :
      Filter.comesBack names ps = true :=
    Filter.comesBack_of_fields fun p hp => Naming.field_ne (hps p hp) (by decide) (by decide)
  rw [QueryTree.planComesBack]
  split
  · next st _ hstatements =>
    have hst : st.Direct := h st (hstatements ▸ List.mem_singleton_self st)
    cases st with
    | select q =>
      change Plan.selectComesBack q = true
      rw [Plan.selectComesBack]
      split
      · next names ps hlowered =>
        refine hfields fun p hp => hst.2 p ?_
        obtain ⟨join, -, hlowered⟩ := Except.bind_eq_ok.mp hlowered
        obtain ⟨strategy, -, hlowered⟩ := Except.bind_eq_ok.mp hlowered
        cases strategy with
        | grouping =>
          obtain ⟨-, -, hlowered⟩ := Except.bind_eq_ok.mp hlowered
          obtain ⟨-, -, hlowered⟩ := Except.bind_eq_ok.mp hlowered
          obtain ⟨-, -, hlowered⟩ := Except.bind_eq_ok.mp hlowered
          cases hlowered
          exact hp
        | _ =>
          cases hlowered
          exact List.mem_append_left _ hp
      · rfl
    | update collection values wheres =>
      change (values.isEmpty || Filter.comesBack .plain wheres) = true
      rw [hfields hst, Bool.or_true]
    | delete collection wheres => exact hfields hst
    | _ => rfl
  · rfl

/-- A direct statement comes back wherever it is met. -/
theorem comesBack_of_direct (h : t.Direct) (label : ObjectId) (autoCommit : Bool)
    (s : MemoryStore) : Gateway.comesBack store database label t autoCommit s = true := by
  rw [Gateway.comesBack, planComesBack_of_direct h, Bool.true_and]
  split
  · next p hp =>
    obtain ⟨st, hst, hp⟩ := Plan.exists_statement_of_ofTree hp
    have hdirect := h st hst
    rw [Gateway.commandsComeBack]
    split
    · next c hc =>
      obtain ⟨collection, values, rfl⟩ := exists_insert_of_autoIncrement hp hc
      cases hdirect
    · refine List.all_eq_true.mpr fun c hc => List.all_eq_true.mpr fun m hm => ?_
      by_cases hselect : ∃ q, st = .select q
      · obtain ⟨q, rfl⟩ := hselect
        exact MetStage.comesBack_of_unordered (Plan.unordered_ofSelect hdirect.1 hp c hc m hm)
      · rw [met_ofStatement (fun q hs => hselect ⟨q, hs⟩) hp c hc] at hm
        cases hm
  · rfl

end Execution

end SqlGateway
