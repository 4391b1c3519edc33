import SqlGateway.Proofs.Filter.Lowering

/-! Which predicate lists have a structure. A list has one if it is a sequence of single predicates
and of bracketed groups, each group under one connective, and if every predicate has a condition;
and then its items are those of the sequence, in order. -/

namespace SqlGateway

attribute [local instance] Host.universal

/-! ### Conditions -/

namespace Predicate

theorem likePattern_isOk {p : Predicate} :
    (∃ pattern, p.likePattern = .ok pattern) ↔ ∃ text, p.value = .string text := by
  rw [likePattern]
  split
  · next text hvalue => exact iff_of_true ⟨_, rfl⟩ ⟨text, hvalue⟩
  · next hvalue => exact iff_of_false nofun fun ⟨text, htext⟩ => hvalue text htext

/-- Only a LIKE asks something of its literal. -/
theorem operator_isOk [Host] {p : Predicate} :
    (∃ ops, p.operator = .ok ops) ↔
      (p.op = .like ∨ p.op = .notLike → ∃ text, p.value = .string text) := by
  have hlike {f : String → Document} :
      (∃ ops, (do return f (← p.likePattern) : Except GatewayError Document) = .ok ops) ↔
        ∃ text, p.value = .string text := by
    rw [← likePattern_isOk]
    constructor
    · rintro ⟨ops, h⟩
      obtain ⟨pattern, hpattern, -⟩ := Except.bind_eq_ok.mp h
      exact ⟨pattern, hpattern⟩
    · rintro ⟨pattern, hpattern⟩
      exact ⟨_, Except.bind_eq_ok.mpr ⟨pattern, hpattern, rfl⟩⟩
  cases hop : p.op with
  | like => rw [operator, hop, hlike]; simp
  | notLike => rw [operator, hop, hlike]; simp
  | _ => simp [operator, hop]

theorem condition_isOk [Host] {names : Naming} {p : Predicate} :
    (∃ c, p.condition names = .ok c) ↔
      (∃ field, names.field p.column = .ok field) ∧
        (p.op = .like ∨ p.op = .notLike → ∃ text, p.value = .string text) := by
  rw [← operator_isOk]
  constructor
  · rintro ⟨c, h⟩
    obtain ⟨field, hfield, h⟩ := Except.bind_eq_ok.mp h
    obtain ⟨ops, hops, -⟩ := Except.bind_eq_ok.mp h
    exact ⟨⟨field, hfield⟩, ⟨ops, hops⟩⟩
  · rintro ⟨⟨field, hfield⟩, ops, hops⟩
    exact ⟨_, Except.bind_eq_ok.mpr ⟨field, hfield, Except.bind_eq_ok.mpr ⟨ops, hops, rfl⟩⟩⟩

/-- Whether a predicate neither opens nor closes a bracket. -/
def Unbracketed (p : Predicate) : Prop := p.opens = false ∧ p.closes = false

end Predicate

/-! ### Segments -/

/-- A part of a predicate list: a predicate on its own, or a group from the predicate that opens its
bracket to the one that closes it. -/
inductive Segment where
  | single (p : Predicate)
  | group (opening : Predicate) (inner : List Predicate) (closing : Predicate)

namespace Segment

/-- The first predicate of a segment. -/
def head : Segment → Predicate
  | .single p => p
  | .group opening _ _ => opening

/-- The predicates of a segment after the first. -/
def tail : Segment → List Predicate
  | .single _ => []
  | .group _ inner closing => inner ++ [closing]

/-- The predicates of a segment. -/
def predicates (s : Segment) : List Predicate := s.head :: s.tail

/-- Whether brackets stand at the ends of a group and nowhere else. -/
def Bracketed : Segment → Prop
  | .single p => p.Unbracketed
  | .group opening inner closing =>
    (opening.opens = true ∧ opening.closes = false) ∧ (∀ p ∈ inner, p.Unbracketed) ∧
      closing.opens = false ∧ closing.closes = true

/-- Whether all predicates of a segment after the first have one connective. -/
def Uniform (s : Segment) : Prop :=
  ∀ p ∈ s.tail, ∀ q ∈ s.tail, p.effectiveConnective = q.effectiveConnective

/-- Whether a term holds the conditions of a segment in order, and a group the connective of its
predicates after the first. -/
def HasTerm [Host] (names : Naming) : Segment → FilterTerm → Prop
  | .single p, .single c => p.condition names = .ok c
  | .group opening inner closing, .group connective cs =>
    (opening :: inner ++ [closing]).mapM (·.condition names) = .ok cs ∧
      connective = closing.effectiveConnective
  | _, _ => False

/-- Whether items are those of segments, one for each. Before the first item of a list stands an AND,
before any other the connective of the segment's first predicate. -/
def HaveItems [Host] (names : Naming) (first : Bool) : List Segment → List FilterItem → Prop
  | [], items => items = []
  | s :: ss, items => ∃ t is, s.HasTerm names t ∧ HaveItems names false ss is ∧
      items = ⟨if first then .and else s.head.effectiveConnective, t⟩ :: is

theorem uniform_group {opening closing : Predicate} {inner : List Predicate} :
    (group opening inner closing).Uniform ↔
      ∀ p ∈ inner, p.effectiveConnective = closing.effectiveConnective := by
  constructor
  · exact fun h p hp => h p (by simp [tail, hp]) closing (by simp [tail])
  · intro h p hp q hq
    have hall : ∀ r ∈ inner ++ [closing], r.effectiveConnective = closing.effectiveConnective := by
      exact List.forall_mem_append.mpr ⟨h, by simp⟩
    rw [hall p hp, hall q hq]

theorem Bracketed.notBoth {s : Segment} (h : s.Bracketed) :
    ∀ p ∈ s.predicates, ¬(p.opens = true ∧ p.closes = true) := by
  cases s with
  | single p => simp [predicates, head, tail, h.2]
  | group opening inner closing =>
    obtain ⟨hopening, hinner, hclosing⟩ := h
    simp only [predicates, head, tail, List.forall_mem_cons, List.forall_mem_append]
    exact ⟨by simp [hopening.2], fun p hp => by simp [(hinner p hp).2], by simp [hclosing.1]⟩

end Segment

/-- What a predicate list must be to have a structure. -/
structure WellBracketed (names : Naming) (ps : List Predicate) : Prop where
  noXor : ∀ p ∈ ps, p.connective ≠ some .xor
  notBoth : ∀ p ∈ ps, ¬(p.opens = true ∧ p.closes = true)
  segments : ∃ segments : List Segment,
    segments.flatMap (·.predicates) = ps ∧ ∀ s ∈ segments, s.Bracketed ∧ s.Uniform
  patterns : ∀ p ∈ ps, p.op = .like ∨ p.op = .notLike → ∃ text, p.value = .string text
  fields : ∀ p ∈ ps, ∃ field, names.field p.column = .ok field

/-! ### Reading one predicate -/

namespace FilterItem

variable {names : Naming} {first : Bool} {p : Predicate} {ps : List Predicate} {g : OpenGroup}

theorem ofRest_single [Host] (h : p.Unbracketed) :
    ofRest names first none (p :: ps) = (do
      let c ← p.condition names
      return ⟨if first then .and else p.effectiveConnective, .single c⟩ ::
        (← ofRest names false none ps)) := by
  rw [ofRest, h.1, h.2]
  rfl

theorem ofRest_opening [Host] (h : p.opens = true ∧ p.closes = false) :
    ofRest names first none (p :: ps) = (do
      let c ← p.condition names
      let connective := if first then .and else p.effectiveConnective
      ofRest names false (some ⟨connective, none, [c]⟩) ps) := by
  rw [ofRest, h.1, h.2]
  rfl

theorem ofRest_inner [Host] (h : p.Unbracketed) :
    ofRest names false (some g) (p :: ps) = (do
      let c ← p.condition names
      ofRest names false (some (← extend g p.effectiveConnective c)) ps) := by
  rw [ofRest, h.1, h.2]
  rfl

theorem ofRest_closing [Host] (h : p.opens = false ∧ p.closes = true) :
    ofRest names false (some g) (p :: ps) = (do
      let c ← p.condition names
      let g ← extend g p.effectiveConnective c
      return ofGroup g :: (← ofRest names false none ps)) := by
  rw [ofRest, h.1, h.2]
  rfl

theorem extend_eq_ok {g' : OpenGroup} {connective : Connective} {c : Condition} :
    extend g connective c = .ok g' ↔ g.inner.getD connective = connective ∧
      ⟨g.connective, some connective, g.conditions ++ [c]⟩ = g' := by
  rw [extend]
  split
  · next h => rw [h, Except.ok.injEq]; simp
  · next h => simp [h]

/-! ### Reading segments -/

/-- An open group is read up to the predicate that closes it. -/
theorem ofRest_open [Host] {inner rest : List Predicate} {closing : Predicate}
    (hinner : ∀ p ∈ inner, p.Unbracketed)
    (hclosing : closing.opens = false ∧ closing.closes = true) {items : List FilterItem} :
    ofRest names false (some g) (inner ++ closing :: rest) = .ok items ↔
      ((∀ p ∈ inner, p.effectiveConnective = closing.effectiveConnective) ∧
        g.inner.getD closing.effectiveConnective = closing.effectiveConnective) ∧
      ∃ cs is, (inner ++ [closing]).mapM (·.condition names) = .ok cs ∧
        ofRest names false none rest = .ok is ∧
        items = ⟨g.connective, .group closing.effectiveConnective (g.conditions ++ cs)⟩ :: is := by
  induction inner generalizing g with
  | nil =>
    rw [List.nil_append, List.nil_append, ofRest_closing hclosing]
    constructor
    · intro h
      obtain ⟨c, hc, h⟩ := Except.bind_eq_ok.mp h
      obtain ⟨g', hg', h⟩ := Except.bind_eq_ok.mp h
      obtain ⟨is, his, h⟩ := Except.bind_eq_ok.mp h
      obtain ⟨hinner, rfl⟩ := extend_eq_ok.mp hg'
      cases h
      refine ⟨⟨List.forall_mem_nil _, hinner⟩, [c], is, ?_, his, rfl⟩
      exact Except.mapM_cons_eq_ok.mpr ⟨c, [], hc, rfl, rfl⟩
    · rintro ⟨⟨-, hinner⟩, cs, is, hcs, his, rfl⟩
      obtain ⟨c, cs, hc, hnil, rfl⟩ := Except.mapM_cons_eq_ok.mp hcs
      cases hnil
      refine Except.bind_eq_ok.mpr ⟨c, hc, ?_⟩
      refine Except.bind_eq_ok.mpr ⟨_, extend_eq_ok.mpr ⟨hinner, rfl⟩, ?_⟩
      exact Except.bind_eq_ok.mpr ⟨is, his, rfl⟩
  | cons p inner ih =>
    obtain ⟨hp, hplain⟩ := List.forall_mem_cons.mp hinner
    rw [List.cons_append, ofRest_inner hp]
    constructor
    · intro h
      obtain ⟨c, hc, h⟩ := Except.bind_eq_ok.mp h
      obtain ⟨g', hg', h⟩ := Except.bind_eq_ok.mp h
      obtain ⟨hconnective, rfl⟩ := extend_eq_ok.mp hg'
      obtain ⟨⟨hall, hp'⟩, cs, is, hcs, his, rfl⟩ := (ih hplain).mp h
      rw [Option.getD_some] at hp'
      rw [hp'] at hconnective
      refine ⟨⟨List.forall_mem_cons.mpr ⟨hp', hall⟩, hconnective⟩, c :: cs, is, ?_, his, ?_⟩
      · exact Except.mapM_cons_eq_ok.mpr ⟨c, cs, hc, hcs, rfl⟩
      · rw [List.append_assoc, List.singleton_append]
    · rintro ⟨⟨hall, hconnective⟩, cs, is, hcs, his, rfl⟩
      obtain ⟨hp', hall⟩ := List.forall_mem_cons.mp hall
      obtain ⟨c, cs, hc, hinner, rfl⟩ := Except.mapM_cons_eq_ok.mp hcs
      rw [← hp'] at hconnective
      refine Except.bind_eq_ok.mpr ⟨c, hc,
        Except.bind_eq_ok.mpr ⟨_, extend_eq_ok.mpr ⟨hconnective, rfl⟩, ?_⟩⟩
      refine (ih hplain).mpr ⟨⟨hall, hp'⟩, cs, is, hinner, his, ?_⟩
      rw [List.append_assoc, List.singleton_append]

/-- A whole segment is read off the front of a list. -/
theorem ofRest_segment [Host] {s : Segment} (h : s.Bracketed) {rest : List Predicate}
    {items : List FilterItem} :
    ofRest names first none (s.predicates ++ rest) = .ok items ↔
      s.Uniform ∧ ∃ t is, s.HasTerm names t ∧ ofRest names false none rest = .ok is ∧
        items = ⟨if first then .and else s.head.effectiveConnective, t⟩ :: is := by
  cases s with
  | single p =>
    change ofRest names first none (p :: rest) = _ ↔ _
    rw [ofRest_single h]
    constructor
    · intro h
      obtain ⟨c, hc, h⟩ := Except.bind_eq_ok.mp h
      obtain ⟨is, his, h⟩ := Except.bind_eq_ok.mp h
      cases h
      exact ⟨List.forall_mem_nil _, .single c, is, hc, his, rfl⟩
    · rintro ⟨-, t, is, ht, his, rfl⟩
      cases t with
      | single c => exact Except.bind_eq_ok.mpr ⟨c, ht, Except.bind_eq_ok.mpr ⟨is, his, rfl⟩⟩
      | group => exact absurd ht id
  | group opening inner closing =>
    obtain ⟨hopening, hinner, hclosing⟩ := h
    change ofRest names first none (opening :: (inner ++ [closing] ++ rest)) = _ ↔ _
    rw [List.append_assoc, List.singleton_append, ofRest_opening hopening, Segment.uniform_group]
    constructor
    · intro h
      obtain ⟨c, hc, h⟩ := Except.bind_eq_ok.mp h
      obtain ⟨⟨hall, -⟩, cs, is, hcs, his, rfl⟩ := (ofRest_open hinner hclosing).mp h
      have hterm : (Segment.group opening inner closing).HasTerm names
          (.group closing.effectiveConnective (c :: cs)) :=
        ⟨Except.mapM_cons_eq_ok.mpr ⟨c, cs, hc, hcs, rfl⟩, rfl⟩
      exact ⟨hall, _, is, hterm, his, rfl⟩
    · rintro ⟨hall, t, is, ht, his, rfl⟩
      cases t with
      | single => exact absurd ht id
      | group connective conditions =>
        obtain ⟨hconditions, rfl⟩ := ht
        obtain ⟨c, cs, hc, hcs, rfl⟩ := Except.mapM_cons_eq_ok.mp hconditions
        refine Except.bind_eq_ok.mpr ⟨c, hc, (ofRest_open hinner hclosing).mpr ?_⟩
        exact ⟨⟨hall, rfl⟩, cs, is, hcs, his, rfl⟩

/-- Segments are read one after another. -/
theorem ofRest_segments [Host] {segments : List Segment} (h : ∀ s ∈ segments, s.Bracketed)
    {items : List FilterItem} :
    ofRest names first none (segments.flatMap (·.predicates)) = .ok items ↔
      (∀ s ∈ segments, s.Uniform) ∧ Segment.HaveItems names first segments items := by
  induction segments generalizing first items with
  | nil =>
    rw [List.flatMap_nil, ofRest, Segment.HaveItems, Except.ok.injEq, eq_comm]
    exact (and_iff_right (List.forall_mem_nil _)).symm
  | cons s segments ih =>
    obtain ⟨hs, hsegments⟩ := List.forall_mem_cons.mp h
    rw [List.flatMap_cons, ofRest_segment hs, List.forall_mem_cons, Segment.HaveItems]
    constructor
    · rintro ⟨hs, t, is, ht, his, rfl⟩
      obtain ⟨hrest, his⟩ := (ih hsegments).mp his
      exact ⟨⟨hs, hrest⟩, t, is, ht, his, rfl⟩
    · rintro ⟨⟨hs, hrest⟩, t, is, ht, his, rfl⟩
      exact ⟨hs, t, is, ht, (ih hsegments).mpr ⟨hrest, his⟩, rfl⟩

/-- Whether predicates are those of segments, after the rest of the group that is open. -/
def Completes (segments : List Segment) (ps : List Predicate) : Option OpenGroup → Prop
  | none => segments.flatMap (·.predicates) = ps
  | some _ => ∃ inner closing, (∀ p ∈ inner, p.Unbracketed) ∧
      (closing.opens = false ∧ closing.closes = true) ∧
      inner ++ closing :: segments.flatMap (·.predicates) = ps

/-- What is read is made of segments. -/
theorem exists_segments [Host] {current : Option OpenGroup} {items : List FilterItem}
    (h : ofRest names first current ps = .ok items) :
    ∃ segments : List Segment, (∀ s ∈ segments, s.Bracketed) ∧ Completes segments ps current := by
  induction ps generalizing first current items with
  | nil =>
    cases current with
    | none => exact ⟨[], List.forall_mem_nil _, rfl⟩
    | some g => cases h
  | cons p ps ih =>
    obtain ⟨connective, c, -, hcases⟩ := ofRest_cons h
    rcases hcases with ⟨g, g', is, hp, rfl, -, his, -⟩ | ⟨g, g', hp, rfl, -, hrest⟩ |
      ⟨hp, rfl, hrest⟩ | ⟨is, hp, rfl, his, -⟩
    · obtain ⟨segments, hsegments, hps⟩ := ih his
      exact ⟨segments, hsegments, [], p, List.forall_mem_nil _, hp, congrArg (p :: ·) hps⟩
    · obtain ⟨segments, hsegments, inner, closing, hinner, hclosing, hps⟩ := ih hrest
      exact ⟨segments, hsegments, p :: inner, closing, List.forall_mem_cons.mpr ⟨hp, hinner⟩,
        hclosing, congrArg (p :: ·) hps⟩
    · obtain ⟨segments, hsegments, inner, closing, hinner, hclosing, hps⟩ := ih hrest
      have hgroup : (Segment.group p inner closing).Bracketed := ⟨hp, hinner, hclosing⟩
      refine ⟨.group p inner closing :: segments, List.forall_mem_cons.mpr ⟨hgroup, hsegments⟩, ?_⟩
      rw [Completes, ← hps]
      simp [Segment.predicates, Segment.head, Segment.tail]
    · obtain ⟨segments, hsegments, hps⟩ := ih his
      exact ⟨.single p :: segments, List.forall_mem_cons.mpr ⟨hp, hsegments⟩,
        congrArg (p :: ·) hps⟩

/-! ### Whole lists -/

theorem ofPredicates_eq_ok [Host] {items : List FilterItem} :
    ofPredicates names ps = .ok items ↔
      (∀ p ∈ ps, p.connective ≠ some .xor) ∧ ofRest names true none ps = .ok items := by
  rw [ofPredicates]
  split
  · next p hp =>
    have hxor := List.find?_some hp
    refine iff_of_false (by simp) fun h => ?_
    exact h.1 p (List.mem_of_find?_eq_some hp) (by simpa using hxor)
  · next hnone => exact (and_iff_right (by simpa using List.find?_eq_none.mp hnone)).symm

theorem exists_haveItems [Host] {segments : List Segment}
    (h : ∀ s ∈ segments, ∀ p ∈ s.predicates, ∃ c, p.condition names = .ok c) :
    ∃ items, Segment.HaveItems names first segments items := by
  induction segments generalizing first with
  | nil => exact ⟨[], rfl⟩
  | cons s segments ih =>
    obtain ⟨hs, hsegments⟩ := List.forall_mem_cons.mp h
    obtain ⟨is, his⟩ : ∃ is, Segment.HaveItems names false segments is := ih hsegments
    obtain ⟨cs, hcs⟩ := Except.exists_mapM_eq_ok.mpr hs
    cases s with
    | single p =>
      obtain ⟨c, -, hc, -, -⟩ := Except.mapM_cons_eq_ok.mp hcs
      exact ⟨_, .single c, is, hc, his, rfl⟩
    | group opening inner closing =>
      exact ⟨_, .group closing.effectiveConnective cs, is, ⟨hcs, rfl⟩, his, rfl⟩

/-- A group of items that are those of segments has at least two conditions. -/
theorem two_le_of_haveItems [Host] {segments : List Segment} {items : List FilterItem}
    (h : Segment.HaveItems names first segments items) {i : FilterItem} (hi : i ∈ items)
    {connective : Connective} {cs : List Condition} (hterm : i.term = .group connective cs) :
    2 ≤ cs.length := by
  induction segments generalizing first items with
  | nil =>
    cases h
    cases hi
  | cons s segments ih =>
    obtain ⟨t, is, ht, his, rfl⟩ := h
    rcases List.mem_cons.mp hi with rfl | hi
    · cases hterm
      cases s with
      | single => exact absurd ht id
      | group opening inner closing =>
        rw [Except.length_mapM ht.1]
        simp
    · exact ih his hi

/-- A predicate list has a structure exactly if it holds no XOR, is a sequence of single predicates
and of groups under one connective each, and gives every LIKE a text and every column a field. The
items are then those of the sequence: they hold every condition once and in order, each stands under
the connective of its first predicate (AND before the first of all), and a group has two conditions
or more under the connective of those after its first. An empty list has no filter. -/
theorem ofPredicates_accepts [Host] (names : Naming) (ps : List Predicate) :
    ((∃ items, ofPredicates names ps = .ok items) ↔ WellBracketed names ps) ∧
    (∀ items, ofPredicates names ps = .ok items →
      ps.mapM (·.condition names) = .ok (items.flatMap (·.term.conditions)) ∧
      (∀ segments : List Segment, segments.flatMap (·.predicates) = ps →
        (∀ s ∈ segments, s.Bracketed) → Segment.HaveItems names true segments items) ∧
      ∀ i ∈ items, ∀ connective cs, i.term = .group connective cs → 2 ≤ cs.length) ∧
    Filter.ofPredicates? names [] = .ok none := by
  refine ⟨⟨fun ⟨items, hitems⟩ => ?_, fun h => ?_⟩, fun items hitems => ?_, rfl⟩
  · have hconditions := Except.exists_mapM_eq_ok.mp ⟨_, conditions_ofPredicates hitems⟩
    obtain ⟨hxor, hread⟩ := ofPredicates_eq_ok.mp hitems
    obtain ⟨segments, hsegments, hps⟩ := exists_segments hread
    obtain rfl : segments.flatMap (·.predicates) = ps := hps
    have huniform := ((ofRest_segments hsegments).mp hread).1
    exact {
      noXor := hxor
      notBoth := by
        intro p hp
        obtain ⟨s, hs, hp⟩ := List.mem_flatMap.mp hp
        exact (hsegments s hs).notBoth p hp
      segments := ⟨segments, rfl, fun s hs => ⟨hsegments s hs, huniform s hs⟩⟩
      patterns := fun p hp => (Predicate.condition_isOk.mp (hconditions p hp)).2
      fields := fun p hp => (Predicate.condition_isOk.mp (hconditions p hp)).1 }
  · obtain ⟨segments, rfl, hsegments⟩ := h.segments
    have hconditions : ∀ s ∈ segments, ∀ p ∈ s.predicates, ∃ c, p.condition names = .ok c := by
      intro s hs p hp
      have hp := List.mem_flatMap.mpr ⟨s, hs, hp⟩
      exact Predicate.condition_isOk.mpr ⟨h.fields p hp, h.patterns p hp⟩
    obtain ⟨items, hitems⟩ : ∃ items, Segment.HaveItems names true segments items :=
      exists_haveItems hconditions
    refine ⟨items, ofPredicates_eq_ok.mpr ⟨h.noXor, ?_⟩⟩
    exact (ofRest_segments fun s hs => (hsegments s hs).1).mpr
      ⟨fun s hs => (hsegments s hs).2, hitems⟩
  · obtain ⟨-, hread⟩ := ofPredicates_eq_ok.mp hitems
    have hgiven {segments : List Segment} (hps : segments.flatMap (·.predicates) = ps)
        (hsegments : ∀ s ∈ segments, s.Bracketed) :
        Segment.HaveItems names true segments items := by
      subst hps
      exact ((ofRest_segments hsegments).mp hread).2
    obtain ⟨segments, hsegments, hps⟩ := exists_segments hread
    exact ⟨conditions_ofPredicates hitems, fun _ => hgiven,
      fun i hi _ _ => two_le_of_haveItems (hgiven hps hsegments) hi⟩

/-- `a = 1 OR (b = 2 OR c LIKE 'x%')`: a condition, and a group under OR. -/
theorem ofPredicates_accepts_group :
    let a : Predicate := .on (.named "a") .eq (.integer 1)
    let b : Predicate := ⟨.named "b", .eq, .integer 2, some .or, true, false⟩
    let c : Predicate := ⟨.named "c", .like, .string "x%", some .or, false, true⟩
    WellBracketed .plain [a, b, c] ∧
      ∃ items, ofPredicates .plain [a, b, c] = .ok items ∧
        Segment.HaveItems .plain true [.single a, .group b [] c] items := by
  intro a b c
  obtain ⟨hiff, hitems, -⟩ := ofPredicates_accepts .plain [a, b, c]
  have hbracketed : ∀ s ∈ [Segment.single a, .group b [] c], s.Bracketed :=
    List.forall_mem_cons.mpr ⟨⟨rfl, rfl⟩, List.forall_mem_singleton.mpr
      ⟨⟨rfl, rfl⟩, List.forall_mem_nil _, ⟨rfl, rfl⟩⟩⟩
  exact ⟨hiff.mp ⟨_, rfl⟩, _, rfl, (hitems _ rfl).2.1 _ rfl hbracketed⟩

end FilterItem

end SqlGateway
