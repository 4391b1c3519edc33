import SqlGateway.Proofs.Filter.Brackets
import SqlGateway.Proofs.Plan.Strategies

/-! Which predicates a plan of a SELECT has looked at. Every strategy reads WHERE, and a grouping reads
WHERE and HAVING as one list: a bracket that is opened in the one and closed in the other is then as
good as any, though neither list has a structure of its own. A DISTINCT never looks at HAVING. -/

namespace SqlGateway

attribute [local instance] Host.universal

/-! ### Lists with a structure -/

/-- Whether a predicate list has a structure. -/
def FilterItem.Reads [Host] (names : Naming) (ps : List Predicate) : Prop :=
  ∃ items, ofPredicates names ps = .ok items

namespace Segment

/-- A bracket that is opened in one list and closed in the next. -/
def Straddle (ps qs : List Predicate) : Prop :=
  ∃ (front back : List Segment) (opening : Predicate) (inner inner' : List Predicate)
    (closing : Predicate), (∀ s ∈ front ++ back, s.Bracketed) ∧
      (group opening (inner ++ inner') closing).Bracketed ∧
      front.flatMap (·.predicates) ++ opening :: inner = ps ∧
      inner' ++ closing :: back.flatMap (·.predicates) = qs

/-- A split of a group falls behind its opening and before its closing predicate. -/
theorem exists_split_predicates {s : Segment} {ps qs : List Predicate}
    (h : s.predicates = ps ++ qs) (hps : ps ≠ []) (hqs : qs ≠ []) :
    ∃ opening inner inner' closing, s = group opening (inner ++ inner') closing ∧
      opening :: inner = ps ∧ inner' ++ [closing] = qs := by
  obtain ⟨opening, inner, rfl⟩ := List.exists_cons_of_ne_nil hps
  obtain ⟨inner', closing, hclosing⟩ := (List.eq_nil_or_concat qs).resolve_left hqs
  rw [List.concat_eq_append] at hclosing
  subst hclosing
  cases s with
  | single p =>
    have := congrArg List.length h
    simp [predicates, head, tail] at this
  | group o middle c =>
    obtain ⟨rfl, htail⟩ := List.cons.inj h
    have hmiddle : middle ++ [c] = inner ++ inner' ++ [closing] :=
      htail.trans (List.append_assoc _ _ _).symm
    obtain ⟨rfl, hc⟩ := List.append_inj' hmiddle rfl
    obtain rfl : c = closing := List.singleton_inj.mp hc
    exact ⟨o, inner, inner', c, rfl, rfl, rfl⟩

/-- A split of segments falls between two of them or inside a group. -/
theorem split_flatMap {segments : List Segment} (hsegments : ∀ s ∈ segments, s.Bracketed)
    {ps qs : List Predicate} (h : segments.flatMap (·.predicates) = ps ++ qs) :
    (∃ front back, front ++ back = segments ∧ front.flatMap (·.predicates) = ps ∧
      back.flatMap (·.predicates) = qs) ∨ Straddle ps qs := by
  induction segments generalizing ps with
  | nil =>
    obtain ⟨rfl, rfl⟩ := List.append_eq_nil_iff.mp h.symm
    exact .inl ⟨[], [], rfl, rfl, rfl⟩
  | cons s segments ih =>
    obtain ⟨hs, hothers⟩ := List.forall_mem_cons.mp hsegments
    rw [List.flatMap_cons] at h
    rcases List.append_eq_append_iff.mp h with ⟨rest, rfl, hrest⟩ | ⟨rest, hrest, rfl⟩
    · -- the split is behind the first segment
      rcases ih hothers hrest with ⟨front, back, rfl, rfl, rfl⟩ |
        ⟨front, back, opening, inner, inner', closing, hall, hgroup, rfl, rfl⟩
      · exact .inl ⟨s :: front, back, rfl, rfl, rfl⟩
      · refine .inr ⟨s :: front, back, opening, inner, inner', closing,
          List.forall_mem_cons.mpr ⟨hs, hall⟩, hgroup, ?_, rfl⟩
        rw [List.flatMap_cons, List.append_assoc]
    · by_cases hps : ps = []
      · subst hps
        exact .inl ⟨[], s :: segments, rfl, rfl, by rw [List.flatMap_cons, hrest]; rfl⟩
      by_cases hempty : rest = []
      · subst hempty
        rw [List.append_nil] at hrest
        exact .inl ⟨[s], segments, rfl, by rw [List.flatMap_singleton, hrest], rfl⟩
      obtain ⟨opening, inner, inner', closing, rfl, rfl, rfl⟩ :=
        exists_split_predicates hrest hps hempty
      exact .inr ⟨[], segments, opening, inner, inner', closing, hothers, hs, rfl,
        List.append_cons _ _ _⟩

theorem countP_of_unbracketed {ps : List Predicate} (h : ∀ p ∈ ps, p.Unbracketed) :
    ps.countP (·.opens) = 0 ∧ ps.countP (·.closes) = 0 := by
  rw [List.countP_eq_zero, List.countP_eq_zero]
  exact ⟨fun p hp => by simp [(h p hp).1], fun p hp => by simp [(h p hp).2]⟩

theorem Bracketed.countP_opens {s : Segment} (h : s.Bracketed) :
    s.predicates.countP (·.opens) = s.predicates.countP (·.closes) := by
  cases s with
  | single p => simp [predicates, head, tail, h.1, h.2]
  | group opening inner closing =>
    obtain ⟨hopening, hinner, hclosing⟩ := h
    obtain ⟨hopens, hcloses⟩ := countP_of_unbracketed hinner
    simp [predicates, head, tail, hopening, hclosing, hopens, hcloses]

/-- Brackets are opened as often as they are closed. -/
theorem countP_opens_flatMap {segments : List Segment} (h : ∀ s ∈ segments, s.Bracketed) :
    (segments.flatMap (·.predicates)).countP (·.opens) =
      (segments.flatMap (·.predicates)).countP (·.closes) := by
  induction segments with
  | nil => rfl
  | cons s segments ih =>
    obtain ⟨hs, hsegments⟩ := List.forall_mem_cons.mp h
    rw [List.flatMap_cons, List.countP_append, List.countP_append, ih hsegments, hs.countP_opens]

end Segment

namespace FilterItem

variable {names : Naming} {ps qs : List Predicate}

theorem exists_segments_of_reads [Host] (h : Reads names ps) : ∃ segments : List Segment,
    segments.flatMap (·.predicates) = ps ∧ ∀ s ∈ segments, s.Bracketed ∧ s.Uniform := by
  obtain ⟨items, hitems⟩ := h
  obtain ⟨-, hread⟩ := ofPredicates_eq_ok.mp hitems
  obtain ⟨segments, hsegments, hps⟩ := exists_segments hread
  obtain rfl : segments.flatMap (·.predicates) = ps := hps
  have huniform := ((ofRest_segments hsegments).mp hread).1
  exact ⟨segments, rfl, fun s hs => ⟨hsegments s hs, huniform s hs⟩⟩

/-- A part of a list that has a structure has one if it is made of segments. -/
theorem Reads.of_segments [Host] (h : Reads names qs) (hps : ps ⊆ qs) {segments : List Segment}
    (hsegments : ∀ s ∈ segments, s.Bracketed ∧ s.Uniform)
    (heq : segments.flatMap (·.predicates) = ps) : Reads names ps := by
  subst heq
  obtain ⟨items, hitems⟩ := h
  have hconditions := Except.exists_mapM_eq_ok.mp ⟨_, conditions_ofPredicates hitems⟩
  have hxor := (ofPredicates_eq_ok.mp hitems).1
  obtain ⟨read, hread⟩ : ∃ items, Segment.HaveItems names true segments items :=
    exists_haveItems fun s hs p hp => hconditions p (hps (List.mem_flatMap.mpr ⟨s, hs, hp⟩))
  refine ⟨read, ofPredicates_eq_ok.mpr ⟨fun p hp => hxor p (hps hp), ?_⟩⟩
  exact (ofRest_segments fun s hs => (hsegments s hs).1).mpr ⟨fun s hs => (hsegments s hs).2, hread⟩

theorem not_reads_of_countP [Host] (h : ps.countP (·.opens) ≠ ps.countP (·.closes)) :
    ¬Reads names ps := by
  intro hreads
  obtain ⟨segments, rfl, hsegments⟩ := exists_segments_of_reads hreads
  exact h (Segment.countP_opens_flatMap fun s hs => (hsegments s hs).1)

/-- Neither of two lists has a structure if a bracket goes from one to the other. -/
theorem not_reads_of_straddle [Host] (h : Segment.Straddle ps qs) :
    ¬Reads names ps ∧ ¬Reads names qs := by
  obtain ⟨front, back, opening, inner, inner', closing, hall, ⟨hopening, hinner, hclosing⟩, rfl,
    rfl⟩ := h
  obtain ⟨hfront, hback⟩ := List.forall_mem_append.mp hall
  obtain ⟨hopens, hcloses⟩ := Segment.countP_of_unbracketed hinner
  rw [List.countP_append, Nat.add_eq_zero_iff] at hopens hcloses
  constructor <;> apply not_reads_of_countP
  · simp [Segment.countP_opens_flatMap hfront, hopening, hopens.1, hcloses.1]
  · simp [Segment.countP_opens_flatMap hback, hclosing, hopens.2, hcloses.2]

/-- Two lists that have a structure together have one each, unless a bracket goes from one to the
other. -/
theorem reads_of_append [Host] (h : Reads names (ps ++ qs)) :
    (Reads names ps ∧ Reads names qs) ∨ Segment.Straddle ps qs := by
  obtain ⟨segments, hps, hsegments⟩ := exists_segments_of_reads h
  rcases Segment.split_flatMap (fun s hs => (hsegments s hs).1) hps with
    ⟨front, back, rfl, hfront, hback⟩ | hstraddle
  · obtain ⟨hf, hb⟩ := List.forall_mem_append.mp hsegments
    exact .inl ⟨h.of_segments (List.subset_append_left _ _) hf hfront,
      h.of_segments (List.subset_append_right _ _) hb hback⟩
  · exact .inr hstraddle

theorem reads_of_ofPredicates? [Host] {filter : Option Document}
    (h : Filter.ofPredicates? names ps = .ok filter) : Reads names ps := by
  rw [Filter.ofPredicates?] at h
  split at h
  · next hempty =>
    rw [List.isEmpty_iff.mp hempty]
    exact ⟨[], rfl⟩
  · obtain ⟨items, hitems, -⟩ := Except.bind_eq_ok.mp h
    exact ⟨items, hitems⟩

end FilterItem

/-! ### Plans -/

namespace Plan

open FilterItem

variable {names : Naming} {q : Select} {join : Option Join} {strategy : Strategy}

/-- The plan of a DISTINCT is the same whatever its HAVING is. -/
theorem ofSelect_distinct_having [Host] (hdistinct : q.distinct = true) (having : List Predicate) :
    ofSelect { q with having } = ofSelect q := by
  rw [ofSelect_eq, ofSelect_eq]
  refine bind_congr fun join => ?_
  have hstrategy : strategyOf (.ofJoin join) join { q with having } =
      strategyOf (.ofJoin join) join q := by
    rw [strategyOf, strategyOf]
    dsimp only
    rw [hdistinct, if_pos rfl, if_pos rfl]
    rfl
  rw [hstrategy]
  rcases h : strategyOf (.ofJoin join) join q with e | strategy
  · rfl
  · obtain ⟨output, rfl⟩ := strategyOf_distinct hdistinct h
    rfl

/-- A SELECT with a HAVING is a DISTINCT or a grouping. -/
theorem having_eq_nil_of_strategyOf (hdistinct : q.distinct = false)
    (h : strategyOf names join q = .ok strategy) (hne : strategy ≠ .grouping) : q.having = [] := by
  obtain ⟨⟨⟩, -, h⟩ := Except.bind_eq_ok.mp h
  rw [hdistinct, if_neg (by decide)] at h
  split at h
  · exact absurd (Except.ok.inj h).symm hne
  · next hplain =>
    simp only [Bool.or_eq_true, not_or, Bool.not_eq_true', Bool.not_eq_false,
      List.isEmpty_iff] at hplain
    exact hplain.1.2

/-- A strategy reads WHERE; a grouping reads WHERE and HAVING as one list. -/
theorem reads_of_commandOf [Host] {command : Command} (h : commandOf join q strategy = .ok command) :
    Reads (.ofJoin join) (if strategy = .grouping then q.wheres ++ q.having else q.wheres) := by
  cases strategy with
  | find =>
    obtain ⟨filter, hfilter, -⟩ := Except.bind_eq_ok.mp h
    exact reads_of_ofPredicates? hfilter
  | distinct output =>
    obtain ⟨column, -, h⟩ := Except.bind_eq_ok.mp h
    obtain ⟨filter, hfilter, -⟩ := Except.bind_eq_ok.mp h
    exact reads_of_ofPredicates? hfilter
  | joinOnly =>
    cases join with
    | none => cases h
    | some j =>
      obtain ⟨lookup, -, h⟩ := Except.bind_eq_ok.mp h
      obtain ⟨filter, hfilter, -⟩ := Except.bind_eq_ok.mp h
      exact reads_of_ofPredicates? hfilter
  | grouping =>
    obtain ⟨lookup, -, h⟩ := Except.bind_eq_ok.mp h
    obtain ⟨key, -, h⟩ := Except.bind_eq_ok.mp h
    obtain ⟨accumulators, -, h⟩ := Except.bind_eq_ok.mp h
    obtain ⟨projection, -, h⟩ := Except.bind_eq_ok.mp h
    obtain ⟨filter, hfilter, -⟩ := Except.bind_eq_ok.mp h
    exact reads_of_ofPredicates? hfilter

/-- What the predicates of a planned SELECT are. A DISTINCT has a WHERE list with a structure, and
any HAVING list whatever. Any other SELECT has two lists with a structure, or it has a bracket that
goes from WHERE to HAVING: then neither has one, but both have one together. -/
theorem ofSelect_reads [Host] {p : Plan} (hplan : ofSelect q = .ok p) :
    ∃ join, singleJoin q = .ok join ∧
      ((q.distinct = true ∧ Reads (.ofJoin join) q.wheres ∧
          ∀ having, ofSelect { q with having } = .ok p) ∨
        q.distinct = false ∧
          (Reads (.ofJoin join) q.wheres ∧ Reads (.ofJoin join) q.having ∨
            Segment.Straddle q.wheres q.having ∧ Reads (.ofJoin join) (q.wheres ++ q.having) ∧
              ¬Reads (.ofJoin join) q.wheres ∧ ¬Reads (.ofJoin join) q.having)) := by
  obtain ⟨join, strategy, command, target, hselects, -⟩ := ofSelect_eq_ok.mp hplan
  have hreads := reads_of_commandOf hselects.runs
  refine ⟨join, hselects.joins, ?_⟩
  by_cases hdistinct : q.distinct = true
  · obtain ⟨output, rfl⟩ := strategyOf_distinct hdistinct hselects.chooses
    exact .inl ⟨hdistinct, hreads, fun having =>
      (ofSelect_distinct_having hdistinct having).trans hplan⟩
  rw [Bool.not_eq_true] at hdistinct
  refine .inr ⟨hdistinct, ?_⟩
  by_cases hgrouping : strategy = .grouping
  · rw [if_pos hgrouping] at hreads
    rcases reads_of_append hreads with hboth | hstraddle
    · exact .inl hboth
    · exact .inr ⟨hstraddle, hreads, not_reads_of_straddle hstraddle⟩
  · rw [if_neg hgrouping] at hreads
    rw [having_eq_nil_of_strategyOf hdistinct hselects.chooses hgrouping]
    exact .inl ⟨hreads, [], rfl⟩

/-- A group in WHERE and a predicate in HAVING. -/
theorem ofSelect_reads_group :
    let a : Predicate := ⟨.named "a", .gt, .integer 1, none, true, false⟩
    let b : Predicate := ⟨.named "b", .lt, .integer 5, some .or, false, true⟩
    let c : Predicate := .on (.aggregated .count "c") .gt (.integer 2)
    let q : Select := { collection := "t", columns := [.aggregated .count "c"], wheres := [a, b],
                        having := [c] }
    ∃ p, ofSelect q = .ok p ∧ Reads .plain q.wheres ∧ Reads .plain q.having := by
  intro a b c q
  obtain ⟨p, hplan⟩ : ∃ p, ofSelect q = .ok p := ⟨_, rfl⟩
  obtain ⟨join, hjoin, h⟩ := ofSelect_reads hplan
  obtain rfl : none = join := Except.ok.inj hjoin
  rcases h with ⟨hdistinct, -⟩ | ⟨-, hboth | ⟨-, -, hwheres, -⟩⟩
  · cases hdistinct
  · exact ⟨p, hplan, hboth⟩
  · exact absurd ⟨_, rfl⟩ hwheres

/-- A DISTINCT with an XOR in HAVING has a plan, and so has a grouping with a bracket that WHERE
opens and HAVING closes. -/
theorem ofSelect_reads_neither :
    let xor : Predicate := ⟨.named "a", .eq, .integer 1, some .xor, false, false⟩
    let opening : Predicate := ⟨.named "a", .gt, .integer 1, none, true, false⟩
    let closing : Predicate := ⟨.named "a", .lt, .integer 5, none, false, true⟩
    let q : Select := { collection := "t", columns := [.named "a"] }
    (¬Reads .plain [xor] ∧ ∃ p, ofSelect { q with distinct := true, having := [xor] } = .ok p) ∧
      ¬Reads .plain [opening] ∧ ¬Reads .plain [closing] ∧
        ∃ p, ofSelect { q with groupBy := [.named "a"], wheres := [opening],
                               having := [closing] } = .ok p :=
  ⟨⟨nofun, _, rfl⟩, nofun, nofun, _, rfl⟩

end Plan

end SqlGateway
