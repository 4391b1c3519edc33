import Mathlib.Data.List.Chain
import SqlGateway.Proofs.Filter.Brackets
import SqlGateway.Proofs.Value.Fields

/-! The filter document of a list without brackets, read from the left. The list is cut where the
connective changes. The filter starts with the conditions of the first part, one entry each, and the
filter of all that follows stands in one last entry, under the connective of the next part. -/

namespace SqlGateway

attribute [local instance] Host.universal

/-- The connectives of a predicate list; before the first predicate of a filter it is AND. -/
def Predicate.connectives (first : Bool) : List Predicate → List Connective
  | [] => []
  | p :: ps => (if first then .and else p.effectiveConnective) :: connectives false ps

theorem Predicate.length_connectives {first : Bool} {ps : List Predicate} :
    (connectives first ps).length = ps.length := by
  induction ps generalizing first with
  | nil => rfl
  | cons p ps ih => exact congrArg (· + 1) ih

/-- Neighbouring conditions under one connective. -/
structure Stretch where
  connective : Connective
  conditions : List Condition

namespace Stretch

/-- The connective before each condition. -/
def connectives (s : Stretch) : List Connective :=
  List.replicate s.conditions.length s.connective

/-- The items of the conditions. -/
def items (s : Stretch) : List FilterItem := s.conditions.map fun c => ⟨s.connective, .single c⟩

/-- One entry for each condition. -/
def entries (s : Stretch) : Document := s.conditions.map fun c => (c.field, .document c.operator)

/-- The filter of a stretch and of the stretches after it. -/
def filter (s : Stretch) : List Stretch → Document
  | [] => s.entries
  | next :: rest => s.entries ++
      [(Filter.connectiveKey next.connective, .array [.document (next.filter rest)])]

/-- Whether stretches reach from one change of the connective to the next: none is empty, and
neighbours differ in their connective. -/
structure Maximal (stretches : List Stretch) : Prop where
  nonempty : ∀ s ∈ stretches, s.conditions ≠ []
  change : stretches.IsChain (·.connective ≠ ·.connective)

/-- Whether stretches are those of a predicate list: maximal ones that hold its conditions and its
connectives in order. -/
structure Cut [Host] (names : Naming) (ps : List Predicate) (stretches : List Stretch) : Prop
    extends Maximal stretches where
  conditions : ps.mapM (·.condition names) = .ok (stretches.flatMap (·.conditions))
  connectives : stretches.flatMap (·.connectives) = Predicate.connectives true ps

/-! ### Cutting -/

theorem connectives_cons (o : Connective) (c : Condition) (cs : List Condition) :
    (⟨o, c :: cs⟩ : Stretch).connectives = o :: (⟨o, cs⟩ : Stretch).connectives :=
  List.replicate_succ

theorem items_eq (s : Stretch) :
    s.items = List.zipWith (fun o c => ⟨o, .single c⟩) s.connectives s.conditions := by
  obtain ⟨o, cs⟩ := s
  induction cs with
  | nil => rfl
  | cons c cs ih => rw [connectives_cons, List.zipWith_cons_cons, ← ih]; rfl

theorem flatMap_items (stretches : List Stretch) :
    stretches.flatMap (·.items) = List.zipWith (fun o c => ⟨o, .single c⟩)
      (stretches.flatMap (·.connectives)) (stretches.flatMap (·.conditions)) := by
  induction stretches with
  | nil => rfl
  | cons s rest ih =>
    have hlength : s.connectives.length = s.conditions.length := List.length_replicate
    rw [List.flatMap_cons, List.flatMap_cons, List.flatMap_cons, List.zipWith_append hlength,
      ← items_eq, ih]

/-- One more condition in front joins the first stretch or stands before it as its own. -/
theorem Maximal.exists_cons {stretches : List Stretch} (h : Maximal stretches) (o : Connective)
    (c : Condition) :
    ∃ more : List Stretch, more.flatMap (·.connectives) = o :: stretches.flatMap (·.connectives) ∧
      more.flatMap (·.conditions) = c :: stretches.flatMap (·.conditions) ∧ Maximal more := by
  have hown : (⟨o, [c]⟩ : Stretch).conditions ≠ [] := List.cons_ne_nil c []
  cases stretches with
  | nil => exact ⟨[⟨o, [c]⟩], rfl, rfl, List.forall_mem_singleton.mpr hown, .singleton _⟩
  | cons s rest =>
    by_cases hs : o = s.connective
    · subst hs
      obtain ⟨o, cs⟩ := s
      have hrest := (List.forall_mem_cons.mp h.nonempty).2
      refine ⟨⟨o, c :: cs⟩ :: rest, ?_, rfl, ?_, ?_⟩
      · rw [List.flatMap_cons, connectives_cons, List.cons_append, List.flatMap_cons]
      · exact List.forall_mem_cons.mpr ⟨List.cons_ne_nil c cs, hrest⟩
      · exact List.isChain_cons.mpr (List.isChain_cons.mp h.change)
    · exact ⟨⟨o, [c]⟩ :: s :: rest, rfl, rfl, List.forall_mem_cons.mpr ⟨hown, h.nonempty⟩,
        .cons_cons hs h.change⟩

/-- Conditions with a connective before each can be cut into stretches. -/
theorem exists_maximal {os : List Connective} {cs : List Condition} (h : os.length = cs.length) :
    ∃ stretches : List Stretch, stretches.flatMap (·.connectives) = os ∧
      stretches.flatMap (·.conditions) = cs ∧ Maximal stretches := by
  induction os generalizing cs with
  | nil =>
    obtain rfl := List.length_eq_zero_iff.mp h.symm
    exact ⟨[], rfl, rfl, List.forall_mem_nil _, .nil⟩
  | cons o os ih =>
    obtain ⟨c, cs, rfl⟩ := List.exists_cons_of_length_eq_add_one h.symm
    obtain ⟨stretches, rfl, rfl, hmaximal⟩ := ih (Nat.succ.inj h)
    exact hmaximal.exists_cons o c

end Stretch

/-! ### Reading the list -/

namespace FilterItem

variable {names : Naming} {first : Bool} {ps : List Predicate}

/-- Without brackets every condition is an item, under its connective. -/
theorem ofRest_unbracketed [Host] (hplain : ∀ p ∈ ps, p.Unbracketed) {items : List FilterItem} :
    ofRest names first none ps = .ok items ↔ ∃ cs, ps.mapM (·.condition names) = .ok cs ∧
      items = List.zipWith (fun o c => ⟨o, .single c⟩) (Predicate.connectives first ps) cs := by
  induction ps generalizing first items with
  | nil =>
    constructor
    · intro h
      cases h
      exact ⟨[], rfl, rfl⟩
    · rintro ⟨cs, hcs, rfl⟩
      rfl
  | cons p ps ih =>
    obtain ⟨hp, hrest⟩ := List.forall_mem_cons.mp hplain
    rw [ofRest_single hp]
    constructor
    · intro h
      obtain ⟨c, hc, h⟩ := Except.bind_eq_ok.mp h
      obtain ⟨is, his, h⟩ := Except.bind_eq_ok.mp h
      cases h
      obtain ⟨cs, hcs, rfl⟩ := (ih hrest).mp his
      exact ⟨c :: cs, Except.mapM_cons_eq_ok.mpr ⟨c, cs, hc, hcs, rfl⟩, rfl⟩
    · rintro ⟨_, hall, rfl⟩
      obtain ⟨c, cs, hc, hcs, rfl⟩ := Except.mapM_cons_eq_ok.mp hall
      exact Except.bind_eq_ok.mpr ⟨c, hc,
        Except.bind_eq_ok.mpr ⟨_, (ih hrest).mpr ⟨cs, hcs, rfl⟩, rfl⟩⟩

theorem map_field_of_mapM [Host] {fields : List String} {cs : List Condition}
    (hfields : ps.mapM (fun p => names.field p.column) = .ok fields)
    (hcs : ps.mapM (·.condition names) = .ok cs) : cs.map (·.field) = fields := by
  induction ps generalizing fields cs with
  | nil => cases hfields; cases hcs; rfl
  | cons p ps ih =>
    obtain ⟨field, more, hfield, hmore, rfl⟩ := Except.mapM_cons_eq_ok.mp hfields
    obtain ⟨c, rest, hc, hrest, rfl⟩ := Except.mapM_cons_eq_ok.mp hcs
    obtain ⟨_, hname, hc⟩ := Except.bind_eq_ok.mp hc
    obtain ⟨operator, -, hc⟩ := Except.bind_eq_ok.mp hc
    cases hc
    rw [List.map_cons, ih hmore hrest, Except.ok.inj (hname.symm.trans hfield)]

end FilterItem

/-! ### Merging -/

namespace Filter

theorem mergeField_of_not_mem {target : Document} {key : String} (h : key ∉ Fields.keys target)
    (v : Value) : mergeField target key v = target ++ [(key, v)] := by
  simp only [mergeField, Fields.get?_eq_none_iff.mpr h]
  exact Fields.set_of_not_mem h v

theorem mergeDocument_eq_append {target other : Document}
    (h : (Fields.keys (target ++ other)).Nodup) : mergeDocument target other = target ++ other := by
  induction other generalizing target with
  | nil => exact (List.append_nil target).symm
  | cons f other ih =>
    obtain ⟨key, v⟩ := f
    have hfresh : key ∉ Fields.keys target := by
      rw [Fields.keys, List.map_append] at h
      exact fun hmem => (List.nodup_append.mp h).2.2 key hmem key List.mem_cons_self rfl
    rw [List.append_cons] at h ⊢
    exact (congrArg (mergeDocument · other) (mergeField_of_not_mem hfresh v)).trans (ih h)

variable {o : Connective} {c : Condition} {cs : List Condition} {is : List FilterItem}
  {nested : Document}

/-- Under one connective the entries are put in front one by one. -/
theorem ofItems_stretch
    (hlast : ∀ d ∈ c :: cs, ofItems (⟨o, .single d⟩ :: is) = d.toDocument ++ nested)
    (hdistinct : (Fields.keys (Stretch.entries ⟨o, c :: cs⟩ ++ nested)).Nodup) :
    ofItems (Stretch.items ⟨o, c :: cs⟩ ++ is) = Stretch.entries ⟨o, c :: cs⟩ ++ nested := by
  induction cs generalizing c with
  | nil => exact hlast c List.mem_cons_self
  | cons next cs ih =>
    have hrest : ofItems (Stretch.items ⟨o, next :: cs⟩ ++ is) =
        Stretch.entries ⟨o, next :: cs⟩ ++ nested :=
      ih (fun d hd => hlast d (List.mem_cons_of_mem c hd)) (List.nodup_cons.mp hdistinct).2
    have hmerge : ofItems (Stretch.items ⟨o, c :: next :: cs⟩ ++ is) =
        mergeDocument c.toDocument (ofItems (Stretch.items ⟨o, next :: cs⟩ ++ is)) :=
      if_pos rfl
    rw [hmerge, hrest]
    exact mergeDocument_eq_append hdistinct

/-- Before another connective what follows is nested. -/
theorem ofItems_change {next : FilterItem} (hne : o ≠ next.connective)
    (hfresh : connectiveKey next.connective ≠ c.field) :
    ofItems (⟨o, .single c⟩ :: next :: is) = c.toDocument ++
      [(connectiveKey next.connective, .array [.document (ofItems (next :: is))])] := by
  have hnest : ofItems (⟨o, .single c⟩ :: next :: is) =
      mergeField c.toDocument (connectiveKey next.connective)
        (.array [.document (ofItems (next :: is))]) := if_neg hne.symm
  rw [hnest]
  exact mergeField_of_not_mem (fun hmem => hfresh (List.mem_singleton.mp hmem)) _

theorem isOperator_connectiveKey (o : Connective) : isOperator (connectiveKey o) = true := by
  cases o <;> decide

/-- The items of stretches have the filter that is read from the left. -/
theorem ofItems_stretches {s : Stretch} {rest : List Stretch} (h : Stretch.Maximal (s :: rest))
    (hdistinct : (((s :: rest).flatMap (·.conditions)).map (·.field)).Nodup)
    (hordinary : ∀ c ∈ (s :: rest).flatMap (·.conditions), isOperator c.field = false) :
    ofItems ((s :: rest).flatMap (·.items)) = s.filter rest := by
  induction rest generalizing s with
  | nil =>
    obtain ⟨o, cs⟩ := s
    obtain ⟨c, cs, rfl⟩ := List.exists_cons_of_ne_nil (h.nonempty _ List.mem_cons_self)
    have hkeys : (Fields.keys (Stretch.entries ⟨o, c :: cs⟩ ++ [])).Nodup := by
      simpa [Stretch.entries, Fields.keys, Function.comp_def] using hdistinct
    have hlast : ∀ d ∈ c :: cs, ofItems [⟨o, .single d⟩] = d.toDocument ++ [] :=
      fun d _ => (List.append_nil d.toDocument).symm
    have hfilter := ofItems_stretch hlast hkeys
    rw [List.append_nil, List.append_nil] at hfilter
    rw [List.flatMap_singleton, hfilter, Stretch.filter]
  | cons next rest ih =>
    obtain ⟨hs, hrest⟩ := List.forall_mem_cons.mp h.nonempty
    obtain ⟨hne, hchange⟩ := List.isChain_cons_cons.mp h.change
    rw [List.flatMap_cons] at hdistinct hordinary
    rw [List.map_append] at hdistinct
    obtain ⟨hown, hothers, -⟩ := List.nodup_append.mp hdistinct
    obtain ⟨hplain, hordinary⟩ := List.forall_mem_append.mp hordinary
    have hfresh : ∀ d ∈ s.conditions, connectiveKey next.connective ≠ d.field := by
      intro d hd heq
      have hfield := hplain d hd
      rw [← heq, isOperator_connectiveKey] at hfield
      cases hfield
    have hnext := ih ⟨hrest, hchange⟩ hothers hordinary
    obtain ⟨i, is, hitems, hi⟩ : ∃ i is, (next :: rest).flatMap (·.items) = i :: is ∧
        i.connective = next.connective := by
      obtain ⟨e, es, hes⟩ := List.exists_cons_of_ne_nil (List.forall_mem_cons.mp hrest).1
      rw [List.flatMap_cons, Stretch.items, hes]
      exact ⟨_, _, rfl, rfl⟩
    obtain ⟨o, cs⟩ := s
    obtain ⟨c, cs, rfl⟩ := List.exists_cons_of_ne_nil hs
    rw [List.flatMap_cons, Stretch.filter, ← hnext, hitems, ← hi]
    refine ofItems_stretch (fun d hd => ofItems_change (hi ▸ hne) (hi ▸ hfresh d hd)) ?_
    have hkeys : Fields.keys (Stretch.entries ⟨o, c :: cs⟩ ++
        [(connectiveKey i.connective, .array [.document (ofItems (i :: is))])]) =
        (c :: cs).map (·.field) ++ [connectiveKey next.connective] := by
      simp [Stretch.entries, Fields.keys, Function.comp_def, hi]
    rw [hkeys, List.nodup_append]
    refine ⟨hown, List.pairwise_singleton _ _, fun field hfield key hkey heq => ?_⟩
    obtain ⟨d, hd, rfl⟩ := List.mem_map.mp hfield
    exact hfresh d hd ((List.mem_singleton.mp hkey).symm.trans heq.symm)

end Filter

/-! ### Whole lists -/

namespace Stretch

variable {names : Naming} {ps : List Predicate} {cs : List Condition}

theorem exists_cut [Host] (hcs : ps.mapM (·.condition names) = .ok cs) :
    ∃ stretches, Cut names ps stretches := by
  have hlength : (Predicate.connectives true ps).length = cs.length := by
    rw [Predicate.length_connectives, Except.length_mapM hcs]
  obtain ⟨stretches, hconnectives, rfl, hmaximal⟩ := exists_maximal hlength
  exact ⟨stretches, hmaximal, hcs, hconnectives⟩

theorem Cut.eq_nil [Host] (h : Cut names ps []) : ps = [] :=
  List.length_eq_zero_iff.mp (Except.length_mapM h.conditions).symm

variable {fields : List String} {s : Stretch} {rest : List Stretch}

theorem Cut.ofPredicates?_eq_ok [Host] (h : Cut names ps (s :: rest)) (hplain : ∀ p ∈ ps, p.Unbracketed)
    (hxor : ∀ p ∈ ps, p.connective ≠ some .xor)
    (hfields : ps.mapM (fun p => names.field p.column) = .ok fields) (hdistinct : fields.Nodup)
    (hordinary : ∀ field ∈ fields, isOperator field = false) :
    Filter.ofPredicates? names ps = .ok (some (s.filter rest)) := by
  have hnames := FilterItem.map_field_of_mapM hfields h.conditions
  have hfilter : Filter.ofItems ((s :: rest).flatMap (·.items)) = s.filter rest := by
    refine Filter.ofItems_stretches h.toMaximal (hnames ▸ hdistinct) fun c hc => ?_
    exact hordinary c.field (hnames ▸ List.mem_map.mpr ⟨c, hc, rfl⟩)
  have hitems : FilterItem.ofPredicates names ps = .ok ((s :: rest).flatMap (·.items)) := by
    refine FilterItem.ofPredicates_eq_ok.mpr ⟨hxor, ?_⟩
    refine (FilterItem.ofRest_unbracketed hplain).mpr ⟨_, h.conditions, ?_⟩
    rw [flatMap_items, h.connectives]
  have hps : ps.isEmpty = false := by
    refine List.isEmpty_eq_false_iff.mpr fun hnil => ?_
    have hempty := h.conditions
    rw [hnil, List.flatMap_cons] at hempty
    exact h.nonempty s List.mem_cons_self (List.append_eq_nil_iff.mp (Except.ok.inj hempty).symm).1
  rw [Filter.ofPredicates?, hps, hitems, ← hfilter]
  rfl

end Stretch

theorem Filter.exists_conditions [Host] {names : Naming} {ps : List Predicate} {filter : Option Document}
    (h : ofPredicates? names ps = .ok filter) : ∃ cs, ps.mapM (·.condition names) = .ok cs := by
  rw [ofPredicates?] at h
  split at h
  · next hps => exact List.isEmpty_iff.mp hps ▸ ⟨[], rfl⟩
  · obtain ⟨items, hitems, -⟩ := Except.bind_eq_ok.mp h
    exact ⟨_, FilterItem.conditions_ofPredicates hitems⟩

/-- The filter of a list without brackets and without XOR, whose columns have different fields none
of which is an operator: it exists exactly if every LIKE has a text, and it is the one of the
stretches of the list, read from the left. -/
theorem Filter.ofPredicates?_unbracketed [Host] {names : Naming} {ps : List Predicate}
    {fields : List String} (hplain : ∀ p ∈ ps, p.Unbracketed)
    (hxor : ∀ p ∈ ps, p.connective ≠ some .xor)
    (hfields : ps.mapM (fun p => names.field p.column) = .ok fields) (hdistinct : fields.Nodup)
    (hordinary : ∀ field ∈ fields, isOperator field = false) :
    ((∃ filter, ofPredicates? names ps = .ok filter) ↔
      ∀ p ∈ ps, p.op = .like ∨ p.op = .notLike → ∃ text, p.value = .string text) ∧
    ∀ filter, ofPredicates? names ps = .ok filter ↔
      (ps = [] ∧ filter = none) ∨
        ∃ s rest, Stretch.Cut names ps (s :: rest) ∧ filter = some (s.filter rest) := by
  have hconditions : (∀ p ∈ ps, p.op = .like ∨ p.op = .notLike → ∃ text, p.value = .string text) ↔
      ∃ cs, ps.mapM (·.condition names) = .ok cs := by
    rw [Except.exists_mapM_eq_ok]
    refine forall₂_congr fun p hp => ?_
    rw [Predicate.condition_isOk, and_iff_right (Except.exists_mapM_eq_ok.mp ⟨_, hfields⟩ p hp)]
  have hof {s : Stretch} {rest : List Stretch} (h : Stretch.Cut names ps (s :: rest)) :
      ofPredicates? names ps = .ok (some (s.filter rest)) :=
    h.ofPredicates?_eq_ok hplain hxor hfields hdistinct hordinary
  rw [hconditions]
  refine ⟨⟨fun ⟨_, h⟩ => exists_conditions h, fun ⟨cs, hcs⟩ => ?_⟩, fun filter => ⟨fun h => ?_, ?_⟩⟩
  · obtain ⟨stretches, hcut⟩ := Stretch.exists_cut hcs
    cases stretches with
    | nil => exact hcut.eq_nil ▸ ⟨none, rfl⟩
    | cons s rest => exact ⟨_, hof hcut⟩
  · obtain ⟨cs, hcs⟩ := exists_conditions h
    obtain ⟨stretches, hcut⟩ := Stretch.exists_cut hcs
    cases stretches with
    | nil =>
      obtain rfl := hcut.eq_nil
      exact .inl ⟨rfl, (Except.ok.inj h).symm⟩
    | cons s rest => exact .inr ⟨s, rest, hcut, Except.ok.inj (h.symm.trans (hof hcut))⟩
  · rintro (⟨rfl, rfl⟩ | ⟨s, rest, hcut, rfl⟩)
    · rfl
    · exact hof hcut

/-- `a = 1 AND b = 2 OR c = 3 OR d = 4 AND e = 5`: three stretches, each nested in the one before. -/
theorem Filter.ofPredicates?_unbracketed_nested :
    let on (name : String) (n : Int32) (o : Connective) : Predicate :=
      ⟨.named name, .eq, .integer n, some o, false, false⟩
    let ps := [on "a" 1 .and, on "b" 2 .and, on "c" 3 .or, on "d" 4 .or, on "e" 5 .and]
    let entry (name : String) (n : Int32) : String × Value := (name, .document [("$eq", .int n)])
    (∀ p ∈ ps, p.Unbracketed) ∧ (∀ p ∈ ps, p.connective ≠ some .xor) ∧
      ps.mapM (fun p => Naming.plain.field p.column) = .ok ["a", "b", "c", "d", "e"] ∧
      ofPredicates? .plain ps = .ok (some [entry "a" 1, entry "b" 2, ("$or", .array [.document
        [entry "c" 3, entry "d" 4, ("$and", .array [.document [entry "e" 5]])]])]) := by
  intro on ps entry
  have hplain : ∀ p ∈ ps, p.Unbracketed := by simp [ps, on, Predicate.Unbracketed]
  have hxor : ∀ p ∈ ps, p.connective ≠ some .xor := by simp [ps, on]
  let condition (name : String) (n : Int32) : Condition := ⟨name, [("$eq", .int n)]⟩
  let s : Stretch := ⟨.and, [condition "a" 1, condition "b" 2]⟩
  let rest : List Stretch :=
    [⟨.or, [condition "c" 3, condition "d" 4]⟩, ⟨.and, [condition "e" 5]⟩]
  have hcut : Stretch.Cut .plain ps (s :: rest) :=
    ⟨⟨by simp [s, rest], by simp [s, rest]⟩, rfl, rfl⟩
  refine ⟨hplain, hxor, rfl, ?_⟩
  exact ((ofPredicates?_unbracketed hplain hxor rfl (by decide) (by decide)).2 _).mpr
    (.inr ⟨s, rest, hcut, rfl⟩)

end SqlGateway
