import SqlGateway.Plan.Select
import SqlGateway.Proofs.Except

/-! What a plan of a SELECT is made of: a strategy, the command of that strategy and the target of
its type probe. A SELECT without joins, groups and aggregates becomes a single `find`. -/

namespace SqlGateway

/-- A column that is no wildcard is named. -/
theorem Column.filter_named_singleton {c : Column} (h : c.name ≠ wildcardName) :
    [c].filter (!·.isWildcard) = [c] := by
  simp [isWildcard, h]

namespace Plan

/-- The command of a strategy. -/
def commandOf [Host] (join : Option Join) (s : Select) (strategy : Strategy) :
    Except GatewayError Command :=
  match strategy, join with
  | .distinct _, _ => distinctCommand (.ofJoin join) s
  | .find, _ => findCommand (.ofJoin join) s
  | .joinOnly, some j => joinCommand (.ofJoin join) j s
  | .joinOnly, none => .error (.unsupportedJoin "join strategy without a join")
  | .grouping, _ => groupingCommand (.ofJoin join) join s

/-- The parts of a SELECT's plan. -/
structure Selects [Host] (s : Select) (join : Option Join) (strategy : Strategy) (command : Command)
    (target : ProbeTarget) : Prop where
  joins : singleJoin s = .ok join
  chooses : strategyOf (.ofJoin join) join s = .ok strategy
  runs : commandOf join s strategy = .ok command
  probes : probeTarget (.ofJoin join) join s = .ok target

/-- The plan that is made of a strategy, its command and a probe target. -/
def selecting (strategy : Strategy) (command : Command) (target : ProbeTarget) : Plan where
  statement := "select"
  shape := .select strategy
  commands := [command]
  probe := some target

theorem ofSelect_eq [Host] (s : Select) :
    ofSelect s = (do
      let join ← singleJoin s
      let strategy ← strategyOf (.ofJoin join) join s
      let command ← commandOf join s strategy
      let target ← probeTarget (.ofJoin join) join s
      return selecting strategy command target) := by
  rw [ofSelect]
  refine bind_congr fun join => bind_congr fun strategy => ?_
  cases strategy <;> cases join <;> rfl

/-- A SELECT has a plan exactly if its parts can be made, and its plan is then made of them. -/
theorem ofSelect_eq_ok [Host] {s : Select} {p : Plan} :
    ofSelect s = .ok p ↔ ∃ join strategy command target,
      Selects s join strategy command target ∧ selecting strategy command target = p := by
  rw [ofSelect_eq]
  constructor
  · intro h
    obtain ⟨join, hjoin, h⟩ := Except.bind_eq_ok.mp h
    obtain ⟨strategy, hstrategy, h⟩ := Except.bind_eq_ok.mp h
    obtain ⟨command, hcommand, h⟩ := Except.bind_eq_ok.mp h
    obtain ⟨target, htarget, h⟩ := Except.bind_eq_ok.mp h
    exact ⟨join, strategy, command, target, ⟨hjoin, hstrategy, hcommand, htarget⟩,
      Except.ok.inj h⟩
  · rintro ⟨join, strategy, command, target, h, rfl⟩
    rw [h.joins, Except.ok_bind, h.chooses, Except.ok_bind, h.runs, Except.ok_bind, h.probes]
    rfl

/-! ### Choice of strategy -/

variable {names : Naming} {s : Select} {join : Option Join} {strategy : Strategy}

/-- A DISTINCT is answered by the strategy of that name. -/
theorem strategyOf_distinct
    (hdistinct : s.distinct = true) (h : strategyOf names join s = .ok strategy) :
    ∃ output, strategy = .distinct output := by
  obtain ⟨⟨⟩, -, h⟩ := Except.bind_eq_ok.mp h
  rw [hdistinct, if_pos rfl] at h
  obtain ⟨column, -, h⟩ := Except.bind_eq_ok.mp h
  obtain ⟨output, -, h⟩ := Except.bind_eq_ok.mp h
  exact ⟨output, (Except.ok.inj h).symm⟩

/-- No other SELECT is. -/
theorem strategyOf_undistinct
    (hdistinct : s.distinct = false) (h : strategyOf names join s = .ok strategy)
    (output : String) : strategy ≠ .distinct output := by
  obtain ⟨⟨⟩, -, h⟩ := Except.bind_eq_ok.mp h
  rw [hdistinct, if_neg (by decide)] at h
  split at h
  · cases h
    exact nofun
  split at h <;> cases h <;> exact nofun

theorem distinct_eq_false_of_strategyOf (h : strategyOf names join s = .ok strategy)
    (hne : ∀ output, strategy ≠ .distinct output) : s.distinct = false := by
  rw [← Bool.not_eq_true]
  intro hdistinct
  obtain ⟨output, houtput⟩ := strategyOf_distinct hdistinct h
  exact hne output houtput

/-- A SELECT with an aggregate is a grouping: a DISTINCT of one has no plan. -/
theorem strategyOf_aggregated {c : Column} (hc : c ∈ namedColumns s)
    (haggregation : c.aggregation.isSome) (h : strategyOf names join s = .ok strategy) :
    strategy = .grouping := by
  have hdistinct : s.distinct = false := by
    rw [← Bool.not_eq_true]
    intro hdistinct
    obtain ⟨⟨⟩, -, h⟩ := Except.bind_eq_ok.mp h
    rw [hdistinct, if_pos rfl] at h
    obtain ⟨column, hcolumn, -⟩ := Except.bind_eq_ok.mp h
    rw [distinctColumn] at hcolumn
    split at hcolumn
    · next only honly =>
      rw [honly, List.mem_singleton] at hc
      rw [← hc, haggregation, if_pos rfl] at hcolumn
      split at hcolumn <;> cases hcolumn
    · cases hcolumn
  obtain ⟨⟨⟩, -, h⟩ := Except.bind_eq_ok.mp h
  have hsome : s.hasAggregation = true :=
    List.any_eq_true.mpr ⟨c, (List.mem_filter.mp hc).1, haggregation⟩
  rw [hdistinct, if_neg (by decide), hsome, Bool.or_true, if_pos rfl] at h
  exact (Except.ok.inj h).symm

/-- Only a SELECT without a join is a find, and then every column that it names is stored. -/
theorem strategyOf_find (h : strategyOf (.ofJoin join) join s = .ok .find) :
    join = none ∧ ∀ c ∈ namedColumns s, c.aggregation = none ∧ c.joinSourced = false := by
  have hdistinct := distinct_eq_false_of_strategyOf h fun _ => nofun
  obtain ⟨⟨⟩, hfields, h⟩ := Except.bind_eq_ok.mp h
  rw [hdistinct, if_neg (by decide)] at h
  split at h
  · cases h
  next hplain =>
  split at h
  · cases h
  next hjoin =>
  have hjoin : join = none := by simpa using hjoin
  subst hjoin
  refine ⟨rfl, fun c hc => ?_⟩
  have haggregation : c.aggregation = none := by
    have hnone : ∀ c ∈ s.columns, c.aggregation = none := by
      simp only [Bool.or_eq_true, not_or, Select.hasAggregation] at hplain
      simpa using hplain.2
    exact hnone c (List.mem_filter.mp hc).1
  have hfield := Except.of_forM hfields c hc
  refine ⟨haggregation, ?_⟩
  cases hjoined : c.joinSourced with
  | false => rfl
  | true =>
    rw [Naming.field, haggregation, hjoined] at hfield
    cases hfield

end Plan

end SqlGateway

/-! ### Plans that read one collection -/

namespace SqlGateway.Plan

/-- Whether a SELECT reads one collection, document by document. -/
structure Finds (s : Select) : Prop where
  repeats : s.distinct = false
  alone : s.joins = []
  ungrouped : s.groupBy = [] ∧ s.having = []
  stored : ∀ c ∈ s.columns, c.aggregation = none ∧ c.joinSourced = false

namespace Finds

variable {s : Select}

theorem field (h : Finds s) {c : Column} (hc : c ∈ s.columns) (names : Naming) :
    names.field c = .ok c.name := by
  obtain ⟨hplain, hstored⟩ := h.stored c hc
  rw [Naming.field, hplain, hstored]

theorem namedColumns_subset : namedColumns s ⊆ s.columns :=
  List.filter_sublist.subset

theorem strategyOf (h : Finds s) (names : Naming) : strategyOf names none s = .ok .find := by
  have hfields : (namedColumns s).forM (fun c => discard (names.field c)) = .ok () := by
    refine Except.forM_eq_ok fun c hc => ?_
    rw [h.field (namedColumns_subset hc)]
    rfl
  have haggregation : s.hasAggregation = false := by
    rw [Select.hasAggregation, List.any_eq_false]
    intro c hc
    rw [(h.stored c hc).1]
    decide
  rw [Plan.strategyOf, hfields, h.repeats, h.ungrouped.1, h.ungrouped.2, haggregation]
  rfl

theorem exists_probeTarget (h : Finds s) (names : Naming) :
    ∃ target, probeTarget names none s = .ok target := by
  obtain ⟨columns, hcolumns⟩ := Except.exists_mapM_eq_ok.mpr fun c (hc : c ∈ namedColumns s) =>
    show ∃ p : ProbeColumn, (do
        let key ← names.output c
        if c.joinSourced then return (⟨key, c.name, true⟩ : ProbeColumn)
        else return ⟨key, stripAggregation (← names.field c), false⟩ : Except GatewayError _) =
          .ok p by
      have hmem := namedColumns_subset hc
      rw [Naming.output, h.field hmem, (h.stored c hmem).2]
      exact ⟨_, rfl⟩
  rw [probeTarget, hcolumns]
  exact ⟨_, rfl⟩

theorem ofSelect [Host] (h : Finds s) {command : Command} {target : ProbeTarget}
    (hcommand : findCommand (.ofJoin none) s = .ok command)
    (htarget : probeTarget (.ofJoin none) none s = .ok target) :
    ofSelect s = .ok (selecting .find command target) := by
  have hjoin : singleJoin s = .ok none := by rw [singleJoin, h.alone]
  exact ofSelect_eq_ok.mpr
    ⟨none, .find, command, target, ⟨hjoin, h.strategyOf _, hcommand, htarget⟩, rfl⟩

end Finds

end SqlGateway.Plan
