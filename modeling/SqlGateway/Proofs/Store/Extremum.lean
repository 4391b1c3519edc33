import SqlGateway.Proofs.Store.Sorting
import SqlGateway.Store.Grouping

/-! The greatest or least value of a field among documents that are sorted by the field. It is the
first value that is not absent, and the first document holds it unless it has none: a missing field
is sorted as null, but it is passed over when values are compared. -/

namespace SqlGateway

/-! ### Absent values -/

namespace Value

theorem classRank_eq_of_order {a b : Value} (h : a.order b = .eq) : a.classRank = b.classRank := by
  rw [order_eq_within, Ordering.then_eq_eq] at h
  exact compare_eq_iff_eq.mp h.1

theorem isAbsent_iff {v : Value} : Accumulator.isAbsent v = true ↔ v.classRank = 1 := by
  cases v <;> simp [Accumulator.isAbsent, classRank]

/-- Absent values are ordered as null is. -/
theorem order_of_isAbsent {v : Value} (h : Accumulator.isAbsent v = true) (w : Value) :
    v.order w = Value.null.order w := by
  have hrank := isAbsent_iff.mp h
  have hwithin {u : Value} (hu : u.classRank = 1) : within u w = .eq := by
    rw [within_of_classRank (by rw [hu]; decide), orderScalars_of_classRank (by rw [hu]; decide)]
  rw [order_eq_within, order_eq_within, hwithin hrank, hwithin (u := .null) rfl, hrank]
  rfl

theorem order_null_ne_eq {v : Value} (h : Accumulator.isAbsent v = false) : v.order .null ≠ .eq :=
  fun heq => absurd (isAbsent_iff.mpr (classRank_eq_of_order heq)) (by simp [h])

end Value

namespace Document

/-- What a document holds at a path, with null for nothing. -/
def valueAt (path : String) (d : Document) : Value := (d.getPath? path).getD .null

/-- What a document holds at a path, if it is not absent. -/
def heldAt (path : String) (d : Document) : Option Value :=
  (d.getPath? path).filter (!Accumulator.isAbsent ·)

variable {path : String} {d e : Document} {docs rest : List Document} {wanted : Ordering}
  {v w : Value}

theorem valueAt_of_heldAt (h : d.heldAt path = some v) :
    d.valueAt path = v ∧ Accumulator.isAbsent v = false := by
  obtain ⟨hv, hpresent⟩ := Option.filter_eq_some_iff.mp h
  rw [valueAt, hv]
  exact ⟨rfl, by simpa using hpresent⟩

theorem isAbsent_valueAt (h : d.heldAt path = none) :
    Accumulator.isAbsent (d.valueAt path) = true := by
  rw [heldAt] at h
  rw [valueAt]
  cases hv : d.getPath? path with
  | none => rfl
  | some v =>
    rw [hv] at h
    simpa using h

/-- What is absent does not equal a value that is not. -/
theorem equal_valueAt_eq_false (h : d.heldAt path = none) (hv : Accumulator.isAbsent v = false) :
    (d.valueAt path).equal v = false := by
  refine Bool.eq_false_iff.mpr fun hequal => ?_
  have hrank := Value.classRank_eq_of_order (Value.equal_iff.mp hequal)
  rw [Value.isAbsent_iff.mp (isAbsent_valueAt h)] at hrank
  rw [Value.isAbsent_iff.mpr hrank.symm] at hv
  cases hv

/-! ### Orders -/

/-- Whether one document may stand before another where the values that are wanted come first. -/
def Leads (path : String) (wanted : Ordering) (d e : Document) : Prop :=
  (e.valueAt path).order (d.valueAt path) ≠ wanted

theorem leads_of_precedes {descending : Bool} (h : Precedes [(path, descending)] d e) :
    Leads path (if descending then .gt else .lt) d e := by
  rw [Precedes, orderBy, orderBy, Ordering.then_eq] at h
  rw [Leads, Value.order_swap (d.valueAt path)]
  change ((if descending then ((d.valueAt path).order (e.valueAt path)).swap
    else (d.valueAt path).order (e.valueAt path)).isLE) = true at h
  revert h
  cases descending <;> cases (d.valueAt path).order (e.valueAt path) <;> decide

theorem leads_iff (hd : d.heldAt path = some v) (he : e.heldAt path = some w) :
    Leads path wanted d e ↔ w.order v ≠ wanted := by
  rw [Leads, (valueAt_of_heldAt hd).1, (valueAt_of_heldAt he).1]

theorem leads_absent_iff (hd : d.heldAt path = some v) (he : e.heldAt path = none) :
    Leads path wanted d e ↔ Value.null.order v ≠ wanted := by
  rw [Leads, (valueAt_of_heldAt hd).1, Value.order_of_isAbsent (isAbsent_valueAt he)]

theorem absent_leads_iff (hd : d.heldAt path = none) (he : e.heldAt path = some w) :
    Leads path wanted d e ↔ w.order .null ≠ wanted := by
  rw [Leads, (valueAt_of_heldAt he).1, Value.order_swap (d.valueAt path) w,
    Value.order_of_isAbsent (isAbsent_valueAt hd), ← Value.order_swap]

/-! ### Accumulating -/

theorem accept_extremum (current : Option Value) (d : Document) :
    (Accumulator.extremum wanted current).accept (d.getPath? path) =
      match d.heldAt path, current with
      | none, _ => .extremum wanted current
      | some v, none => .extremum wanted (some v)
      | some v, some c => if v.order c = wanted then .extremum wanted (some v)
        else .extremum wanted (some c) := by
  rw [heldAt, Accumulator.accept.eq_def]
  dsimp only
  cases d.getPath? path with
  | none => rfl
  | some v =>
    cases hv : Accumulator.isAbsent v <;> cases current <;> simp [Option.filter, hv]

theorem foldl_accept_of_furthest
    (h : ∀ d ∈ docs, ∀ w, d.heldAt path = some w → w.order v ≠ wanted) :
    docs.foldl (fun (a : Accumulator) d => a.accept (d.getPath? path)) (.extremum wanted (some v)) =
      .extremum wanted (some v) := by
  induction docs with
  | nil => rfl
  | cons d docs ih =>
    obtain ⟨hd, hdocs⟩ := List.forall_mem_cons.mp h
    rw [List.foldl_cons, accept_extremum]
    cases hheld : d.heldAt path with
    | none => exact ih hdocs
    | some w =>
      dsimp only
      rw [if_neg (hd w hheld)]
      exact ih hdocs

/-- Of sorted documents the first value that is not absent is accumulated. -/
theorem foldl_accept_of_sorted (h : docs.Pairwise (Leads path wanted)) :
    docs.foldl (fun (a : Accumulator) d => a.accept (d.getPath? path)) (.extremum wanted none) =
      .extremum wanted (docs.findSome? (·.heldAt path)) := by
  induction docs with
  | nil => rfl
  | cons d docs ih =>
    obtain ⟨hd, hdocs⟩ := List.pairwise_cons.mp h
    rw [List.foldl_cons, accept_extremum, List.findSome?_cons]
    cases hheld : d.heldAt path with
    | none => exact ih hdocs
    | some v =>
      exact foldl_accept_of_furthest fun e he w hw => (leads_iff hheld hw).mp (hd e he)

/-- Whether a value is one that documents hold at a path, and none of them holds one that is further
in the order that is wanted. -/
structure Furthest (path : String) (wanted : Ordering) (docs : List Document) (v : Value) :
    Prop where
  held : ∃ d ∈ docs, d.heldAt path = some v
  furthest : ∀ d ∈ docs, ∀ w, d.heldAt path = some w → w.order v ≠ wanted

theorem furthest_of_sorted (hwanted : wanted ≠ .eq) (h : docs.Pairwise (Leads path wanted))
    (hv : docs.findSome? (·.heldAt path) = some v) : Furthest path wanted docs v := by
  induction docs with
  | nil => cases hv
  | cons d docs ih =>
    obtain ⟨hd, hdocs⟩ := List.pairwise_cons.mp h
    rw [List.findSome?_cons] at hv
    cases hheld : d.heldAt path with
    | none =>
      rw [hheld] at hv
      obtain ⟨⟨e, he, hev⟩, hfurthest⟩ := ih hdocs hv
      refine ⟨⟨e, List.mem_cons_of_mem d he, hev⟩, List.forall_mem_cons.mpr ⟨?_, hfurthest⟩⟩
      rw [hheld]
      exact nofun
    | some w =>
      rw [hheld] at hv
      cases hv
      refine ⟨⟨d, List.mem_cons_self, hheld⟩, List.forall_mem_cons.mpr ⟨fun u hu => ?_, ?_⟩⟩
      · cases hheld.symm.trans hu
        rw [Value.order_self]
        exact hwanted.symm
      · exact fun e he u hu => (leads_iff hheld hu).mp (hd e he)

/-- The first of sorted documents holds the value that is furthest exactly if all of them hold
values, or one of them holds a value that is further than null. -/
theorem lead_holds_iff (hwanted : wanted = .lt ∨ wanted = .gt)
    (h : (d :: rest).Pairwise (Leads path wanted))
    (hv : (d :: rest).findSome? (·.heldAt path) = some v) :
    (d.valueAt path).equal v = true ↔
      (∀ e ∈ d :: rest, e.heldAt path ≠ none) ∨
        ∃ e ∈ d :: rest, ∃ w, e.heldAt path = some w ∧ w.order .null = wanted := by
  obtain ⟨hd, -⟩ := List.pairwise_cons.mp h
  have hrest {e : Document} (he : e ∈ d :: rest) (hne : e.heldAt path ≠ d.heldAt path) : e ∈ rest :=
    List.mem_of_ne_of_mem (fun heq => hne (heq ▸ rfl)) he
  rw [List.findSome?_cons] at hv
  cases hheld : d.heldAt path with
  | some w =>
    rw [hheld] at hv
    cases hv
    obtain ⟨hvalue, hpresent⟩ := valueAt_of_heldAt hheld
    refine iff_of_true (by rw [hvalue]; exact v.equal_self) ?_
    by_cases hall : ∀ e ∈ d :: rest, e.heldAt path ≠ none
    · exact .inl hall
    · push Not at hall
      obtain ⟨e, he, hnone⟩ := hall
      refine .inr ⟨d, List.mem_cons_self, v, hheld, ?_⟩
      -- a document without a value comes behind, so null is not what is wanted
      have hleads := hd e (hrest he (by simp [hnone, hheld]))
      rw [leads_absent_iff hheld hnone, Value.order_swap v .null] at hleads
      have hne := Value.order_null_ne_eq hpresent
      have hfurther : ∀ o w : Ordering, w = .lt ∨ w = .gt → o ≠ .eq → o.swap ≠ w → o = w := by
        decide
      exact hfurther _ _ hwanted hne hleads
  | none =>
    rw [hheld] at hv
    obtain ⟨e, -, hev⟩ := List.exists_of_findSome?_eq_some hv
    rw [equal_valueAt_eq_false hheld (valueAt_of_heldAt hev).2]
    refine iff_of_false Bool.false_ne_true ?_
    rintro (hall | ⟨e, he, w, hw, hfurther⟩)
    · exact hall d List.mem_cons_self hheld
    · have hleads := hd e (hrest he (by simp [hw, hheld]))
      exact (absent_leads_iff hheld hw).mp hleads hfurther

end Document

end SqlGateway
