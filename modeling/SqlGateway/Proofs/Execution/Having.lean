import SqlGateway.Proofs.Execution.Selecting
import SqlGateway.Proofs.Filter.Lowering
import SqlGateway.Proofs.Plan.Pipelines
import SqlGateway.Proofs.Plan.Showing

/-! What HAVING makes of groups. Its predicate tests an aggregate at the path of its field, in
documents that hold the column under its output name. So it filters by the column if that name is
the field; a column that has another name is not found, and then either all groups pass or none. -/

namespace SqlGateway

attribute [local instance] Host.universal

/-! ### Predicates -/

theorem isOperator_aggregatedName (f : Aggregation) (name : String) :
    isOperator (aggregatedName f name) = false := by
  cases f <;> simp [isOperator, aggregatedName, Aggregation.name]

namespace Predicate

/-- Whether a predicate holds of the value of its column. -/
def accepts [Host] (p : Predicate) (actual : Option Value) : Bool :=
  match p.operator with
  | .ok operators =>
    match operatorsMatch actual "" operators with
    | .ok b => b
    | .error _ => false
  | .error _ => false

/-- The filter of one predicate lets through the documents whose value in its field it accepts. -/
theorem accepts_ofPredicates? [Host] {names : Naming} {p : Predicate} {field : String}
    {filter : Option Document} (hfield : names.field p.column = .ok field)
    (hordinary : isOperator field = false) (h : Filter.ofPredicates? names [p] = .ok filter)
    (d : Document) : (filter.getD []).accepts d = p.accepts (d.getPath? field) := by
  obtain ⟨-, -, c, hc, rfl⟩ := Filter.ofPredicates?_single.mp h
  rw [condition, hfield, Except.ok_bind] at hc
  obtain ⟨operators, hoperators, hc⟩ := Except.bind_eq_ok.mp hc
  obtain rfl : ⟨field, operators⟩ = c := Except.ok.inj hc
  have hmatches := Condition.matches_toDocument (c := ⟨field, operators⟩) hordinary
    (isOperators_operator hoperators) d
  cases hverdict : operatorsMatch (d.getPath? field) "" operators <;>
    simp only [Option.getD_some, Document.accepts, hmatches, accepts, hoperators, hverdict]

/-- A predicate on an aggregate that has a filter has a field. -/
theorem field_of_ofPredicates? [Host] {names : Naming} {p : Predicate} {f : Aggregation}
    {filter : Option Document} (hp : p.column.aggregation = some f)
    (h : Filter.ofPredicates? names [p] = .ok filter) :
    names.field p.column = .ok (aggregatedName f p.column.name) := by
  obtain ⟨-, -, c, hc, -⟩ := Filter.ofPredicates?_single.mp h
  obtain ⟨field, hfield, -⟩ := Except.bind_eq_ok.mp hc
  rw [hfield, Naming.field_aggregated hp hfield]

end Predicate

/-! ### Statements -/

namespace Gateway

open Execution MemoryStore

/-- A grouping SELECT with one predicate in HAVING, on an aggregate that it also selects, gives the
results of the same SELECT without HAVING whose value in the field of the aggregate satisfies the
predicate. If the column is called as its field, these are the results whose value in the column
does. If it has another name and no column is found in the field, all results are given or none. -/
theorem fetch_having [Host] {q : Select} {h : Predicate} {f : Aggregation} {column : Column}
    (hwheres : q.wheres = []) (hhaving : q.having = [h]) (horder : q.orderBy = none)
    (hlimit : q.limit = none) (haggregation : h.column.aggregation = some f)
    (hcolumn : column ∈ q.columns) (hsame : { column with asName := h.column.asName } = h.column)
    {p : Plan} {c : Command} (hplan : Plan.ofSelect q = .ok p)
    (hshape : p.shape = .select .grouping) (hcommand : singleCommand p = .ok c)
    {r r' : Run MemoryStore} (hs : r.store.Reachable) (hroom : r.store.nextCursor < 2 ^ 63)
    {database : String} {docs : List Document}
    (hfetch : Ends (fetch store database c) r (.ok docs) r') :
    ∃ p₀ c₀ docs₀ r₀ join output, Plan.ofSelect { q with having := [] } = .ok p₀ ∧
      p₀.shape = .select .grouping ∧ singleCommand p₀ = .ok c₀ ∧
      Ends (fetch store database c₀) r (.ok docs₀) r₀ ∧
      Plan.singleJoin q = .ok join ∧ (Naming.ofJoin join).output column = .ok output ∧
      (docs = docs₀.filter fun d => h.accepts (d.getPath? (aggregatedName f column.name))) ∧
      (output = aggregatedName f column.name →
        docs = docs₀.filter fun d => h.accepts (d.getPath? output)) ∧
      (Hides (.ofJoin join) q.columns (aggregatedName f column.name) →
        docs = if h.accepts none then docs₀ else []) := by
  obtain ⟨join, strategy, command, target, hselects, rfl⟩ := Plan.ofSelect_eq_ok.mp hplan
  cases hshape
  cases hcommand
  have hname : h.column.name = column.name := by rw [← hsame]
  have hsum : column.aggregation = some f := by rw [← haggregation, ← hsame]
  obtain ⟨grouped, projection, filter, sort, hprojection, hfilter, hsort, rfl, hother⟩ :=
    Plan.stages_groupingCommand (c := c) hselects.runs
  obtain rfl : [] = sort := by
    rw [Plan.sortStages, horder] at hsort
    exact Except.ok.inj hsort
  rw [hwheres, hhaving, List.nil_append] at hfilter
  have hwindow : Plan.windowStages q.limit = [] := by
    rw [hlimit]
    rfl
  simp only [hwindow, List.append_nil] at hfetch hother
  have hfield := Predicate.field_of_ofPredicates? haggregation hfilter
  rw [hname] at hfield
  have hcolumnField : (Naming.ofJoin join).field column = .ok (aggregatedName f column.name) := by
    rw [← hfield, ← hsame]
    rfl
  -- the groups are made and projected before HAVING looks at them
  obtain ⟨hserving, hrun⟩ := run_of_fetch hs hroom hfetch
  rw [Pipeline.run_append] at hrun
  obtain ⟨docs₀, hgroups, hmatched⟩ := Except.bind_eq_ok.mp hrun
  obtain ⟨-, rfl⟩ := Pipeline.run_matchStages.mp hmatched
  have hbare : Plan.Selects { q with having := [] } join .grouping
      (.aggregate q.collection (grouped ++ [[("$project", .document projection)]])) target := {
    joins := hselects.joins
    chooses := Plan.strategyOf_having
      (List.any_eq_true.mpr ⟨column, hcolumn, by rw [hsum]; rfl⟩)
      hselects.chooses []
    runs := by
      have hnone := hother [] none (by rw [hwheres]; rfl)
      rwa [Plan.matchStages, List.append_nil] at hnone
    probes := hselects.probes }
  obtain ⟨r₀, hends⟩ := exists_fetch_of_run hs hroom hserving hgroups
  have haccepts : docs₀.filter (filter.getD []).accepts =
      docs₀.filter fun d => h.accepts (d.getPath? (aggregatedName f column.name)) :=
    List.filter_congr fun d _ =>
      Predicate.accepts_ofPredicates? (hname ▸ hfield) (isOperator_aggregatedName f _) hfilter d
  refine ⟨_, _, docs₀, r₀, join, column.asName.getD (aggregatedName f column.name),
    Plan.ofSelect_eq_ok.mpr ⟨join, .grouping, _, target, hbare, rfl⟩, rfl, rfl, hends,
    hselects.joins, ?_, haccepts, ?_, ?_⟩
  · rw [Naming.output, hcolumnField]
    rfl
  · intro houtput
    rw [houtput]
    exact haccepts
  · intro hhides
    obtain ⟨before, -, hprojected⟩ := Pipeline.run_project_eq_ok.mp hgroups
    have hmissing : ∀ d ∈ docs₀, d.getPath? (aggregatedName f column.name) = none := by
      intro d hd
      obtain ⟨group, -, hgroup⟩ := Except.exists_of_mem_mapM hprojected hd
      exact getPath?_of_hides hprojection hgroup hhides
    have hconstant : (docs₀.filter fun d => h.accepts (d.getPath? (aggregatedName f column.name))) =
        docs₀.filter fun _ => h.accepts none :=
      List.filter_congr fun d hd => by rw [hmissing d hd]
    rw [haccepts, hconstant]
    cases h.accepts none <;> simp

/-- Sales of two departments. -/
def sales : List Document :=
  [[("_id", .int 1), ("dept", .string "A"), ("amt", .int 10)],
    [("_id", .int 2), ("dept", .string "A"), ("amt", .int 30)],
    [("_id", .int 3), ("dept", .string "B"), ("amt", .int 5)]]

/-- More than one amount. -/
def severalAmounts : Predicate := .on (.aggregated .count "amt") .gt (.integer 1)

/-- The departments that a predicate keeps, with aggregates of their sales. -/
def byDepartment (aggregates : List Column) (h : Predicate) : Select :=
  { collection := "sales", columns := .named "dept" :: aggregates, groupBy := [.named "dept"],
    having := [h] }

/-- The departments with more than one amount, beside what they have sold. -/
def withSeveralAmounts : Select :=
  byDepartment [.aggregated .count "amt", .aggregated .sum "amt"] severalAmounts

theorem fetch_having_counted :
    ∃ p c r p₀ c₀ docs₀ r₀, Plan.ofSelect withSeveralAmounts = .ok p ∧ singleCommand p = .ok c ∧
      Ends (fetch store "app" c) { store := MemoryStore.holding "sales" sales }
        (.ok [[("dept", .string "A"), ("COUNT_amt", .int 2), ("SUM_amt", .int 40)]]) r ∧
      Plan.ofSelect { withSeveralAmounts with having := [] } = .ok p₀ ∧
      singleCommand p₀ = .ok c₀ ∧
      Ends (fetch store "app" c₀) { store := MemoryStore.holding "sales" sales } (.ok docs₀) r₀ ∧
      [[("dept", .string "A"), ("COUNT_amt", .int 2), ("SUM_amt", .int 40)]] =
        docs₀.filter fun d => severalAmounts.accepts (d.getPath? "COUNT_amt") := by
  obtain ⟨p, c, r, hplan, hshape, hcommand, hfetch⟩ : ∃ p c r,
      Plan.ofSelect withSeveralAmounts = .ok p ∧ p.shape = .select .grouping ∧
      singleCommand p = .ok c ∧
      Ends (fetch store "app" c) { store := MemoryStore.holding "sales" sales }
        (.ok [[("dept", .string "A"), ("COUNT_amt", .int 2), ("SUM_amt", .int 40)]]) r :=
    ⟨_, _, _, rfl, rfl, rfl, rfl⟩
  have hcolumn : .aggregated .count "amt" ∈ withSeveralAmounts.columns :=
    List.mem_cons_of_mem _ List.mem_cons_self
  obtain ⟨p₀, c₀, docs₀, r₀, join, output, hplan₀, -, hcommand₀, hends, hjoin, houtput, -, hkept,
    -⟩ := @fetch_having _ withSeveralAmounts severalAmounts .count (.aggregated .count "amt") rfl rfl
      rfl rfl rfl hcolumn rfl p c hplan hshape hcommand _ r
      (MemoryStore.reachable_holding "sales" sales) (by decide) "app" _ hfetch
  obtain rfl : none = join := Except.ok.inj hjoin
  obtain rfl : "COUNT_amt" = output := Except.ok.inj houtput
  exact ⟨p, c, r, p₀, c₀, docs₀, r₀, hplan, hcommand, hfetch, hplan₀, hcommand₀, hends, hkept rfl⟩

/-- The departments that have sold enough, with the sum under another name. -/
def withTotals : Select :=
  byDepartment [{ Column.aggregated .sum "amt" with asName := some "total" }]
    (.on (.aggregated .sum "amt") .gt (.integer 10))

/-- With another name for the sum, HAVING finds no sum: no department is given, and one of the two
has sold enough. -/
theorem fetch_having_renamed :
    ∃ p c r p₀ c₀ docs₀ r₀, Plan.ofSelect withTotals = .ok p ∧ singleCommand p = .ok c ∧
      Ends (fetch store "app" c) { store := MemoryStore.holding "sales" sales } (.ok []) r ∧
      Plan.ofSelect { withTotals with having := [] } = .ok p₀ ∧ singleCommand p₀ = .ok c₀ ∧
      Ends (fetch store "app" c₀) { store := MemoryStore.holding "sales" sales } (.ok docs₀) r₀ ∧
      (docs₀.filter fun d =>
        (Predicate.on (.aggregated .sum "amt") .gt (.integer 10)).accepts (d.getPath? "total")) =
          [[("dept", .string "A"), ("total", .int 40)]] :=
  ⟨_, _, _, _, _, _, _, rfl, rfl, rfl, rfl, rfl, rfl, rfl⟩

end Gateway

end SqlGateway
