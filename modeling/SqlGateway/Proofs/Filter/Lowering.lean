import SqlGateway.Filter.Lowering
import SqlGateway.Proofs.Except
import SqlGateway.Proofs.Filter.Meaning

/-! The filter document of a predicate list says what the list says. A condition
holds of a document if its own filter matches, a group if all its conditions do
or, under OR, one of them. Whichever merges put the terms together, the filter of
the list has a verdict on every document, and it matches exactly if every term
of the list holds. -/

namespace SqlGateway

attribute [local instance] Host.universal

/-! ### What a list says -/

/-- Whether a condition, alone in a filter, matches a document. -/
def Condition.HoldsOf [Host] (d : Document) (c : Condition) : Prop := d.matches c.toDocument = .ok true

namespace FilterTerm

/-- The conditions of a term. -/
def conditions : FilterTerm → List Condition
  | .single c => [c]
  | .group _ cs => cs

/-- Whether a term holds of a document. -/
def HoldsOf [Host] (d : Document) : FilterTerm → Prop
  | .single c => c.HoldsOf d
  | .group .or cs => ∃ c ∈ cs, c.HoldsOf d
  | .group _ cs => ∀ c ∈ cs, c.HoldsOf d

end FilterTerm

/-- Whether the pattern of a LIKE can be read. -/
def Predicate.PatternReads (p : Predicate) : Prop :=
  p.op = .like ∨ p.op = .notLike → ∀ s, p.likePattern = .ok s → (Pattern.ofText? s "").isSome

/-! ### Conditions -/

namespace Condition

/-- A condition on a field whose operators have a verdict on every value. -/
structure Testable [Host] (c : Condition) : Prop where
  field : isOperator c.field = false
  operators : Filter.IsOperators c.operator
  decided : ∀ actual, ∃ b, operatorsMatch actual "" c.operator = .ok b

/-- The filter of a condition tests its operators on the value of its field. -/
theorem matches_toDocument [Host] {c : Condition} (hfield : isOperator c.field = false)
    (hoperators : Filter.IsOperators c.operator) (d : Document) :
    d.matches c.toDocument = operatorsMatch (d.getPath? c.field) "" c.operator := by
  rw [Document.matches, toDocument, satisfies_cons, satisfiesEntry_document hfield,
    hoperators.fieldMatches_eq]
  exact Verdict.and_true _

theorem Testable.expresses [Host] {c : Condition} (h : c.Testable) (d : Document) :
    Filter.Expresses d c.toDocument (c.HoldsOf d) := by
  obtain ⟨b, hb⟩ := h.decided (d.getPath? c.field)
  have hentry : satisfiesEntry d c.field (.document c.operator) = .ok b := by
    rw [satisfiesEntry_document h.field, h.operators.fieldMatches_eq, hb]
  refine (Filter.Expresses.singleton (.inl ⟨h.field, _, rfl, h.operators⟩) hentry).congr ?_
  have : satisfies d c.toDocument = .ok b := by
    rw [toDocument, satisfies_cons, hentry]
    cases b <;> rfl
  rw [HoldsOf, Document.matches, this, Except.ok.injEq]

end Condition

namespace Predicate

theorem isOperators_singleton {op : String} (v : Value) (hop : isOperator op = true)
    (hoptions : op ≠ "$options") : Filter.IsOperators [(op, v)] where
  operators := by simpa [Filter.isOperatorDocument, Fields.keys, isOperator] using hop
  nodup := by simp [Fields.keys]
  noOptions := by simpa [Fields.keys] using hoptions.symm

theorem fieldIn_listValue [Host] (actual : Option Value) (v : Value) :
    ∃ b, fieldIn actual (listValue v) = .ok b := by
  cases v <;> exact ⟨_, rfl⟩

theorem regex_decided [Host] {s : String} (h : (Pattern.ofText? s "").isSome) (actual : Option Value) :
    ∃ b, operatorsMatch actual "" [("$regex", .string s)] = .ok b := by
  obtain ⟨pattern, hpattern⟩ := Option.isSome_iff_exists.mp h
  have hread : operandPattern (.string s) "" = .ok pattern := by
    rw [operandPattern, readPattern, hpattern]
  exact ⟨_, (Verdict.and_true _).trans (congrArg (fieldMatchesPattern actual <$> ·) hread)⟩

theorem isOperators_operator [Host] {p : Predicate} {operators : Document}
    (h : p.operator = .ok operators) : Filter.IsOperators operators := by
  obtain ⟨column, op, value, connective, opens, closes⟩ := p
  cases op with
  | like =>
    obtain ⟨s, -, h⟩ := Except.bind_eq_ok.mp h
    cases h
    exact isOperators_singleton _ (by decide) (by decide)
  | notLike =>
    obtain ⟨s, -, h⟩ := Except.bind_eq_ok.mp h
    cases h
    exact isOperators_singleton _ (by decide) (by decide)
  | _ =>
    cases h
    exact isOperators_singleton _ (by decide) (by decide)

/-- The operators of a predicate have a verdict on every value. -/
theorem operator_testable [Host] {p : Predicate} {ops : Document} (h : p.operator = .ok ops)
    (hread : p.PatternReads) :
    Filter.IsOperators ops ∧ ∀ actual, ∃ b, operatorsMatch actual "" ops = .ok b := by
  refine ⟨isOperators_operator h, fun actual => ?_⟩
  obtain ⟨column, op, value, connective, opens, closes⟩ := p
  cases op with
  | like =>
    obtain ⟨s, hs, h⟩ := Except.bind_eq_ok.mp h
    cases h
    exact regex_decided (hread (.inl rfl) s hs) actual
  | notLike =>
    obtain ⟨s, hs, h⟩ := Except.bind_eq_ok.mp h
    cases h
    obtain ⟨b, hb⟩ := regex_decided (hread (.inr rfl) s hs) actual
    have hops : Filter.IsOperators [("$regex", .string s)] :=
      isOperators_singleton _ (by decide) (by decide)
    exact ⟨!b, (Verdict.and_true _).trans
      (congrArg ((!·) <$> ·) ((hops.fieldMatches_eq actual).trans hb))⟩
  | isIn =>
    cases h
    obtain ⟨b, hb⟩ := fieldIn_listValue actual value.toValue
    exact ⟨b, (Verdict.and_true _).trans hb⟩
  | notIn =>
    cases h
    obtain ⟨b, hb⟩ := fieldIn_listValue actual value.toValue
    exact ⟨!b, (Verdict.and_true _).trans (congrArg ((!·) <$> ·) hb)⟩
  | _ =>
    cases h
    exact ⟨_, Verdict.and_true (.ok _)⟩

theorem condition_testable [Host] {names : Naming} {p : Predicate} {c : Condition}
    (h : p.condition names = .ok c) (hread : p.PatternReads)
    (hfield : ∀ f, names.field p.column = .ok f → isOperator f = false) : c.Testable := by
  obtain ⟨f, hf, h⟩ := Except.bind_eq_ok.mp h
  obtain ⟨ops, ho, h⟩ := Except.bind_eq_ok.mp h
  cases h
  obtain ⟨hops, hdecided⟩ := operator_testable ho hread
  exact ⟨hfield f hf, hops, hdecided⟩

end Predicate

namespace FilterItem

/-- What reading one predicate can do: its condition closes the open group, joins it, opens a
group or is an item of its own. -/
theorem ofRest_cons [Host] {names : Naming} {p : Predicate} {ps : List Predicate} {first : Bool}
    {current : Option OpenGroup} {items : List FilterItem}
    (h : ofRest names first current (p :: ps) = .ok items) :
    ∃ connective c, p.condition names = .ok c ∧
      ((∃ g g' rest, (p.opens = false ∧ p.closes = true) ∧ current = some g ∧
          extend g connective c = .ok g' ∧ ofRest names false none ps = .ok rest ∧
          items = ofGroup g' :: rest) ∨
        (∃ g g', (p.opens = false ∧ p.closes = false) ∧ current = some g ∧
          extend g connective c = .ok g' ∧ ofRest names false (some g') ps = .ok items) ∨
        ((p.opens = true ∧ p.closes = false) ∧ current = none ∧
          ofRest names false (some ⟨connective, none, [c]⟩) ps = .ok items) ∨
        ∃ rest, (p.opens = false ∧ p.closes = false) ∧ current = none ∧
          ofRest names false none ps = .ok rest ∧ items = ⟨connective, .single c⟩ :: rest) := by
  rw [ofRest] at h
  by_cases hboth : (p.opens && p.closes) = true
  · rw [if_pos hboth] at h; cases h
  rw [if_neg hboth] at h
  obtain ⟨c, hc, h⟩ := Except.bind_eq_ok.mp h
  refine ⟨if first = true then .and else p.effectiveConnective, c, hc, ?_⟩
  cases current with
  | some g =>
    cases hopens : p.opens with
    | true => simp only [hopens, if_true] at h; cases h
    | false =>
      simp only [hopens] at h
      obtain ⟨g', hg', h⟩ := Except.bind_eq_ok.mp h
      split at h
      · next hcloses =>
        obtain ⟨rest, hrest, h⟩ := Except.bind_eq_ok.mp h
        cases h
        exact .inl ⟨g, g', rest, ⟨rfl, hcloses⟩, rfl, hg', hrest, rfl⟩
      · next hcloses => exact .inr (.inl ⟨g, g', ⟨rfl, by simpa using hcloses⟩, rfl, hg', h⟩)
  | none =>
    dsimp only at h
    split at h
    · next hopens =>
      exact .inr (.inr (.inl ⟨⟨hopens, by simpa [hopens] using hboth⟩, rfl, h⟩))
    split at h
    · cases h
    next hopens hcloses =>
    obtain ⟨rest, hrest, h⟩ := Except.bind_eq_ok.mp h
    cases h
    exact .inr (.inr (.inr ⟨rest, ⟨by simpa using hopens, by simpa using hcloses⟩, rfl, hrest, rfl⟩))

theorem conditions_extend {g g' : OpenGroup} {connective : Connective} {c : Condition}
    (h : extend g connective c = .ok g') : g'.conditions = g.conditions ++ [c] := by
  simp only [extend] at h
  split at h
  · cases h; rfl
  · cases h

/-- The conditions of the items are those of the open group and of the predicates, in order. -/
theorem conditions_ofRest [Host] {names : Naming} {ps : List Predicate} {first : Bool}
    {current : Option OpenGroup} {items : List FilterItem}
    (h : ofRest names first current ps = .ok items) :
    ∃ cs, ps.mapM (·.condition names) = .ok cs ∧
      items.flatMap (·.term.conditions) = (current.map (·.conditions)).getD [] ++ cs := by
  induction ps generalizing first current items with
  | nil =>
    cases current with
    | none => cases h; exact ⟨[], rfl, rfl⟩
    | some g => cases h
  | cons p ps ih =>
    obtain ⟨connective, c, hc, h⟩ := ofRest_cons h
    have hcons {cs : List Condition} (hcs : ps.mapM (·.condition names) = .ok cs) :
        (p :: ps).mapM (·.condition names) = .ok (c :: cs) := by
      rw [List.mapM_cons, hc, hcs]; rfl
    rcases h with ⟨g, g', rest, -, rfl, hg', hrest, rfl⟩ | ⟨g, g', -, rfl, hg', hrest⟩ |
      ⟨-, rfl, hrest⟩ | ⟨rest, -, rfl, hrest, rfl⟩
    · obtain ⟨cs, hcs, hitems⟩ := ih hrest
      refine ⟨c :: cs, hcons hcs, ?_⟩
      rw [List.flatMap_cons, hitems]
      simp [ofGroup, FilterTerm.conditions, conditions_extend hg']
    · obtain ⟨cs, hcs, hitems⟩ := ih hrest
      refine ⟨c :: cs, hcons hcs, ?_⟩
      rw [hitems]
      simp [conditions_extend hg']
    · obtain ⟨cs, hcs, hitems⟩ := ih hrest
      exact ⟨c :: cs, hcons hcs, hitems⟩
    · obtain ⟨cs, hcs, hitems⟩ := ih hrest
      refine ⟨c :: cs, hcons hcs, ?_⟩
      rw [List.flatMap_cons, hitems]
      rfl

/-- The conditions of the items are those of the predicates: none is lost and none is added. -/
theorem conditions_ofPredicates [Host] {names : Naming} {ps : List Predicate} {items : List FilterItem}
    (h : ofPredicates names ps = .ok items) :
    ps.mapM (·.condition names) = .ok (items.flatMap (·.term.conditions)) := by
  rw [ofPredicates] at h
  split at h
  · cases h
  obtain ⟨cs, hcs, hitems⟩ := conditions_ofRest h
  rw [hcs, hitems]
  rfl

theorem testable_of_ofPredicates [Host] {names : Naming} {ps : List Predicate} {items : List FilterItem}
    (h : ofPredicates names ps = .ok items)
    (hfield : ∀ p ∈ ps, ∀ f, names.field p.column = .ok f → isOperator f = false)
    (hread : ∀ p ∈ ps, p.PatternReads) :
    ∀ i ∈ items, ∀ c ∈ i.term.conditions, c.Testable := by
  intro i hi c hc
  have hmem : c ∈ items.flatMap (·.term.conditions) := List.mem_flatMap.mpr ⟨i, hi, hc⟩
  obtain ⟨p, hp, hpc⟩ := Except.exists_of_mem_mapM (conditions_ofPredicates h) hmem
  exact Predicate.condition_testable hpc (hread p hp) (hfield p hp)

end FilterItem

/-! ### Terms and lists -/

namespace Filter

variable {d : Document}

theorem expresses_anyOf [Host] {cs : List Condition} (h : ∀ c ∈ cs, c.Testable) :
    Expresses d [("$or", .array (cs.map fun c => .document c.toDocument))]
      (∃ c ∈ cs, c.HoldsOf d) := by
  have hany : ∃ b, anyHolds d (cs.map fun c => .document c.toDocument) = .ok b ∧
      (b = true ↔ ∃ c ∈ cs, c.HoldsOf d) := by
    induction cs with
    | nil => exact ⟨false, rfl, by simp⟩
    | cons c cs ih =>
      obtain ⟨b, hb, hbp⟩ := ih fun x hx => h x (List.mem_cons_of_mem c hx)
      obtain ⟨a, ha, hap⟩ := ((h c List.mem_cons_self).expresses d).verdict
      refine ⟨a || b, ?_, by simp [hap, hbp]⟩
      rw [List.map_cons, anyHolds, ha, hb]
      cases a <;> rfl
  obtain ⟨b, hb, hbp⟩ := hany
  refine (Expresses.singleton (.inr ⟨.inr rfl, _, rfl⟩) ?_).congr hbp
  simp [satisfiesEntry, checkBranches, Value.document?, hb, bind, Except.bind]

theorem expresses_allOf [Host] {cs : List Condition} (h : ∀ c ∈ cs, c.Testable) {f : Document} {p : Prop}
    (hf : Expresses d f p) :
    Expresses d (cs.foldl (fun d c => mergeField d c.field (.document c.operator)) f)
      (p ∧ ∀ c ∈ cs, c.HoldsOf d) := by
  induction cs generalizing f p with
  | nil => exact hf.congr (by simp)
  | cons c cs ih =>
    have hc := hf.mergeField ((h c List.mem_cons_self).expresses d)
    refine (ih (fun x hx => h x (List.mem_cons_of_mem c hx)) hc).congr ?_
    rw [and_assoc, List.forall_mem_cons]

theorem expresses_ofTerm [Host] {t : FilterTerm} (h : ∀ c ∈ t.conditions, c.Testable) :
    Expresses d (ofTerm t) (t.HoldsOf d) := by
  match t, h with
  | .single c, h => exact (h c List.mem_cons_self).expresses d
  | .group .or cs, h => exact expresses_anyOf h
  | .group .and cs, h => exact (expresses_allOf h .nil).congr (iff_of_eq (true_and _))
  | .group .xor cs, h => exact (expresses_allOf h .nil).congr (iff_of_eq (true_and _))

theorem connectiveKey_cases (c : Connective) : connectiveKey c = "$and" ∨ connectiveKey c = "$or" := by
  cases c
  · exact .inl rfl
  · exact .inr rfl
  · exact .inl rfl

theorem expresses_ofItems [Host] {items : List FilterItem}
    (h : ∀ i ∈ items, ∀ c ∈ i.term.conditions, c.Testable) :
    Expresses d (ofItems items) (∀ i ∈ items, i.term.HoldsOf d) := by
  induction items with
  | nil => exact Expresses.nil.congr (by simp)
  | cons i items ih =>
    obtain ⟨hi, hitems⟩ := List.forall_mem_cons.mp h
    have hterm := expresses_ofTerm (d := d) hi
    cases items with
    | nil => exact hterm.congr (by simp)
    | cons next rest =>
      have htail := ih hitems
      rw [ofItems]
      split
      · exact (hterm.mergeDocument htail).congr (by rw [List.forall_mem_cons (a := i)])
      · have hnested := htail.nest (connectiveKey_cases next.connective)
        exact (hterm.mergeField hnested).congr (by rw [List.forall_mem_cons (a := i)])

/-- A single predicate stands for its condition, unless it opens or closes a group or is joined by
XOR to what is not there. -/
theorem ofPredicates?_single [Host] {names : Naming} {p : Predicate} {filter : Option Document} :
    ofPredicates? names [p] = .ok filter ↔
      p.connective ≠ some .xor ∧ (p.opens = false ∧ p.closes = false) ∧
        ∃ c, p.condition names = .ok c ∧ some c.toDocument = filter := by
  constructor
  · intro h
    obtain ⟨items, hitems, h⟩ := Except.bind_eq_ok.mp h
    cases h
    rw [FilterItem.ofPredicates] at hitems
    split at hitems
    · cases hitems
    next hxor =>
    obtain ⟨connective, c, hc, h⟩ := FilterItem.ofRest_cons hitems
    rcases h with ⟨g, g', rest, -, hnone, -⟩ | ⟨g, g', -, hnone, -⟩ | ⟨-, -, hrest⟩ |
      ⟨rest, hbrackets, -, hrest, rfl⟩
    · cases hnone
    · cases hnone
    · cases hrest
    · cases hrest
      exact ⟨by simpa using hxor, hbrackets, c, hc, rfl⟩
  · rintro ⟨hxor, ⟨hopens, hcloses⟩, c, hc, rfl⟩
    have hitems : FilterItem.ofPredicates names [p] = .ok [⟨.and, .single c⟩] := by
      rw [FilterItem.ofPredicates, List.find?_cons_of_neg (by simpa using hxor), List.find?_nil,
        FilterItem.ofRest, hc, hopens, hcloses]
      rfl
    rw [ofPredicates?, hitems]
    rfl

/-- The filter of a predicate list has a verdict on every document, and it matches exactly if every
term of the list holds; the connectives between the terms change nothing. -/
theorem matches_ofItems [Host] {names : Naming} {ps : List Predicate} {items : List FilterItem}
    (h : FilterItem.ofPredicates names ps = .ok items)
    (hfield : ∀ p ∈ ps, ∀ f, names.field p.column = .ok f → isOperator f = false)
    (hread : ∀ p ∈ ps, p.PatternReads) (d : Document) :
    ∃ b, d.matches (ofItems items) = .ok b ∧ (b = true ↔ ∀ i ∈ items, i.term.HoldsOf d) ∧
      ∀ others : List FilterItem, others.map (·.term) = items.map (·.term) →
        d.matches (ofItems others) = .ok b := by
  have htestable := FilterItem.testable_of_ofPredicates h hfield hread
  obtain ⟨b, hb, hiff⟩ := (expresses_ofItems (d := d) htestable).verdict
  refine ⟨b, hb, hiff, fun others hothers => ?_⟩
  have hterms (P : FilterTerm → Prop) : (∀ i ∈ others, P i.term) ↔ ∀ i ∈ items, P i.term := by
    have := congrArg (fun ts => ∀ t ∈ ts, P t) hothers
    simpa using this
  have htestable' : ∀ i ∈ others, ∀ c ∈ i.term.conditions, c.Testable :=
    (hterms fun t => ∀ c ∈ t.conditions, c.Testable).mpr htestable
  obtain ⟨b', hb', hiff'⟩ := (expresses_ofItems (d := d) htestable').verdict
  have : b' = b := Bool.eq_iff_iff.mpr (hiff'.trans ((hterms (·.HoldsOf d)).trans hiff.symm))
  rw [Document.matches, hb', this]

/-- `a > 1 OR a > 2 AND (b = 3 OR b LIKE 'x%')`: both bounds on `a` count, and the OR between them
does not. -/
theorem matches_ofItems_bounds :
    let ps : List Predicate :=
      [.on (.named "a") .gt (.integer 1),
        ⟨.named "a", .gt, .integer 2, some .or, false, false⟩,
        ⟨.named "b", .eq, .integer 3, some .and, true, false⟩,
        ⟨.named "b", .like, .string "x%", some .or, false, true⟩]
    let d : Document := [("a", .int 2), ("b", .string "xy")]
    ∃ items, FilterItem.ofPredicates .plain ps = .ok items ∧
      ∃ b, d.matches (ofItems items) = .ok b ∧ (b = true ↔ ∀ i ∈ items, i.term.HoldsOf d) := by
  intro ps d
  have hfield : ∀ p ∈ ps, ∀ f, Naming.plain.field p.column = .ok f → isOperator f = false := by
    intro p hp f hf
    simp only [ps, List.mem_cons, List.not_mem_nil, or_false] at hp
    rcases hp with rfl | rfl | rfl | rfl <;> cases hf <;> decide
  have hread : ∀ p ∈ ps, p.PatternReads := by
    intro p hp hop s hs
    simp only [ps, List.mem_cons, List.not_mem_nil, or_false] at hp
    rcases hp with rfl | rfl | rfl | rfl
    · exact absurd hop (by decide)
    · exact absurd hop (by decide)
    · exact absurd hop (by decide)
    · cases hs
      decide +kernel
  obtain ⟨items, hitems⟩ : ∃ items, FilterItem.ofPredicates .plain ps = .ok items := ⟨_, rfl⟩
  obtain ⟨b, hb, hiff, -⟩ := matches_ofItems hitems hfield hread d
  exact ⟨items, hitems, b, hb, hiff⟩

end Filter

end SqlGateway
