import SqlGateway.Proofs.Plan.Strategies
import SqlGateway.Proofs.Store.Retrieval

/-! The pipelines of joins and groupings, stage by stage. A join filters what it has joined,
projects that and orders the projections. A grouping filters its projections, and HAVING has a part
in that filter alone. -/

namespace SqlGateway

variable [Host]

omit [Host] in
/-- An aggregate that has a field is found under its function and its column. -/
theorem Naming.field_aggregated {names : Naming} {c : Column} {f : Aggregation} {field : String}
    (hc : c.aggregation = some f) (h : names.field c = .ok field) :
    field = aggregatedName f c.name := by
  cases hjoined : c.joinSourced with
  | true =>
    rw [Naming.field, hc, hjoined] at h
    cases h
  | false =>
    rw [Naming.field, hc, hjoined] at h
    exact (Except.ok.inj h).symm

namespace Plan

variable {names : Naming} {s : Select} {c : Command}

theorem stages_joinCommand {j : Join} (h : joinCommand names j s = .ok c) :
    ∃ lookup filter projection sort, lookupStages j = .ok lookup ∧
      Filter.ofPredicates? names s.wheres = .ok filter ∧
      projectionOf names s.columns = .ok projection ∧ sortStages names s = .ok sort ∧
      c = .aggregate s.collection (lookup ++ matchStages filter ++
        [[("$project", .document projection)]] ++ sort ++ windowStages s.limit) := by
  obtain ⟨lookup, hlookup, h⟩ := Except.bind_eq_ok.mp h
  obtain ⟨filter, hfilter, h⟩ := Except.bind_eq_ok.mp h
  obtain ⟨projection, hprojection, h⟩ := Except.bind_eq_ok.mp h
  obtain ⟨sort, hsort, h⟩ := Except.bind_eq_ok.mp h
  exact ⟨lookup, filter, projection, sort, hlookup, hfilter, hprojection, hsort,
    (Except.ok.inj h).symm⟩

/-- Other predicates in HAVING lead to another filter and change nothing else. -/
theorem stages_groupingCommand {join : Option Join} (h : groupingCommand names join s = .ok c) :
    ∃ grouped projection filter sort, projectionOf names s.columns = .ok projection ∧
      Filter.ofPredicates? names (s.wheres ++ s.having) = .ok filter ∧
      sortStages names s = .ok sort ∧
      c = .aggregate s.collection (grouped ++ [[("$project", .document projection)]] ++
        matchStages filter ++ sort ++ windowStages s.limit) ∧
      ∀ having other, Filter.ofPredicates? names (s.wheres ++ having) = .ok other →
        groupingCommand names join { s with having } =
          .ok (.aggregate s.collection (grouped ++ [[("$project", .document projection)]] ++
            matchStages other ++ sort ++ windowStages s.limit)) := by
  obtain ⟨lookup, hlookup, h⟩ := Except.bind_eq_ok.mp h
  obtain ⟨key, hkey, h⟩ := Except.bind_eq_ok.mp h
  obtain ⟨accumulators, haccumulators, h⟩ := Except.bind_eq_ok.mp h
  obtain ⟨projection, hprojection, h⟩ := Except.bind_eq_ok.mp h
  obtain ⟨filter, hfilter, h⟩ := Except.bind_eq_ok.mp h
  obtain ⟨sort, hsort, h⟩ := Except.bind_eq_ok.mp h
  have hsplit (group root project : Document) :
      extremumStages s ++ lookup ++ [group, root, project] =
        extremumStages s ++ lookup ++ [group, root] ++ [project] := by
    rw [List.append_assoc (_ ++ lookup)]
    rfl
  rw [hsplit] at h
  refine ⟨_, projection, filter, sort, hprojection, hfilter, hsort, (Except.ok.inj h).symm, ?_⟩
  intro having other hother
  rw [← hsplit]
  refine Except.bind_eq_ok.mpr ⟨lookup, hlookup, Except.bind_eq_ok.mpr ⟨key, hkey, ?_⟩⟩
  refine Except.bind_eq_ok.mpr ⟨accumulators, haccumulators, ?_⟩
  refine Except.bind_eq_ok.mpr ⟨projection, hprojection, ?_⟩
  exact Except.bind_eq_ok.mpr ⟨other, hother, Except.bind_eq_ok.mpr ⟨sort, hsort, rfl⟩⟩

omit [Host] in
/-- A SELECT with an aggregate is a grouping whether it has a HAVING or not. -/
theorem strategyOf_having {join : Option Join} (haggregation : s.hasAggregation = true)
    (h : strategyOf names join s = .ok .grouping) (having : List Predicate) :
    strategyOf names join { s with having } = .ok .grouping := by
  have hdistinct := distinct_eq_false_of_strategyOf h fun _ => nofun
  obtain ⟨⟨⟩, hfields, -⟩ := Except.bind_eq_ok.mp h
  refine Except.bind_eq_ok.mpr ⟨(), hfields, ?_⟩
  dsimp only
  rw [hdistinct, if_neg (by decide), if_pos]
  · rfl
  · rw [Bool.or_eq_true]
    exact .inr haggregation

end Plan

/-- A stage with a filter gives what the filter lets through. -/
theorem Pipeline.run_matchStages {source : Source} {filter : Option Document}
    {docs matched : List Document} :
    run source docs (Plan.matchStages filter) = .ok matched ↔
      (∀ d ∈ docs, (filter.getD []).Evaluates d) ∧
        docs.filter (filter.getD []).accepts = matched := by
  rw [← Databases.filtered_eq_ok]
  cases filter with
  | none => rfl
  | some f =>
    have hstage : run source docs (Plan.matchStages (some f)) = Pipeline.filter docs f :=
      run_singleton source docs "$match" (.document f)
    rw [hstage]
    rfl

end SqlGateway
