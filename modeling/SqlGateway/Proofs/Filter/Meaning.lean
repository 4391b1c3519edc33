import Mathlib.Tactic.Choose
import SqlGateway.Filter.Lowering
import SqlGateway.Proofs.Value.Fields
import SqlGateway.Store.Matching

/-! What a filter document says of a document. A filter expresses a proposition
if each of its entries can be tested on the document and all of them hold
exactly when the proposition does. Whatever way two filters are merged, the
result expresses the conjunction of what they express. -/

namespace SqlGateway

/-! ### Tests one after another -/

/-- The verdict of two tests of which the second is made only if the first succeeds. -/
def Verdict.and (v w : Verdict) : Verdict := do
  if ← v then w else .ok false

namespace Verdict

theorem and_true (v : Verdict) : v.and (.ok true) = v := by
  rcases v with _ | b
  · rfl
  · cases b <;> rfl

theorem and_assoc (u v w : Verdict) : (u.and v).and w = u.and (v.and w) := by
  rcases u with _ | b
  · rfl
  · cases b <;> rfl

theorem and_eq_ok {v w : Verdict} {a b : Bool} (hv : v = .ok a) (hw : w = .ok b) :
    v.and w = .ok (a && b) := by
  subst hv hw
  cases a <;> rfl

end Verdict

theorem satisfies_cons [Host] (d : Document) (e : String × Value) (f : Document) :
    satisfies d (e :: f) = (satisfiesEntry d e.1 e.2).and (satisfies d f) :=
  rfl

/-- The verdict on a filter whose entries all have one. -/
theorem satisfies_of_entries [Host] {d : Document} {f : Document} {b : String × Value → Bool}
    (h : ∀ e ∈ f, satisfiesEntry d e.1 e.2 = .ok (b e)) : satisfies d f = .ok (f.all b) := by
  induction f with
  | nil => rfl
  | cons e f ih =>
    have he := h e List.mem_cons_self
    have hf := ih fun x hx => h x (List.mem_cons_of_mem e hx)
    rw [satisfies_cons, Verdict.and_eq_ok he hf, List.all_cons]

theorem allHold_append [Host] (d : Document) (xs ys : List Value) :
    allHold d (xs ++ ys) = (allHold d xs).and (allHold d ys) := by
  induction xs with
  | nil => rfl
  | cons x xs ih =>
    cases x with
    | document f =>
      have hcons (zs : List Value) :
          allHold d (.document f :: zs) = (satisfies d f).and (allHold d zs) := rfl
      rw [List.cons_append, hcons, hcons, ih, Verdict.and_assoc]
    | _ => exact ih

theorem checkBranches_append {xs ys : List Value} (hx : checkBranches xs = .ok ())
    (hy : checkBranches ys = .ok ()) : checkBranches (xs ++ ys) = .ok () := by
  simp only [checkBranches, List.all_append] at *
  split at hx <;> simp_all

theorem operatorsMatch_cons [Host] (actual : Option Value) (options : String) (x : String × Value) :
    ∃ v : Verdict, ∀ xs,
      operatorsMatch actual options (x :: xs) = v.and (operatorsMatch actual options xs) := by
  obtain ⟨op, operand⟩ := x
  refine ⟨operatorsMatch actual options [(op, operand)], fun xs => ?_⟩
  rw [operatorsMatch.eq_def actual options ((op, operand) :: xs),
    operatorsMatch.eq_def actual options [(op, operand)]]
  dsimp only
  split <;> exact (Verdict.and_assoc _ (.ok true) _).symm

theorem operatorsMatch_append [Host] (actual : Option Value) (options : String)
    (xs ys : List (String × Value)) :
    operatorsMatch actual options (xs ++ ys) =
      (operatorsMatch actual options xs).and (operatorsMatch actual options ys) := by
  induction xs with
  | nil => rfl
  | cons x xs ih =>
    obtain ⟨v, hv⟩ := operatorsMatch_cons actual options x
    rw [List.cons_append, hv, hv, ih, Verdict.and_assoc]

theorem satisfiesEntry_document [Host] {d : Document} {key : String} (hkey : isOperator key = false)
    (ops : Document) :
    satisfiesEntry d key (.document ops) = fieldMatches (d.getPath? key) (.document ops) := by
  have hand : key ≠ "$and" := fun h => by subst h; exact absurd hkey (by decide)
  have hor : key ≠ "$or" := fun h => by subst h; exact absurd hkey (by decide)
  have hnor : key ≠ "$nor" := fun h => by subst h; exact absurd hkey (by decide)
  simp [satisfiesEntry, hand, hor, hnor, hkey]

/-! ### Operators of one field -/

namespace Filter

/-- Distinct operators, none of which only tells how another is read. -/
structure IsOperators (ops : Document) : Prop where
  operators : isOperatorDocument ops = true
  nodup : ops.keys.Nodup
  noOptions : "$options" ∉ ops.keys

namespace IsOperators

variable {xs ys : Document}

theorem append (hx : IsOperators xs) (hy : IsOperators ys)
    (hdisj : ∀ key ∈ ys.keys, key ∉ xs.keys) : IsOperators (xs ++ ys) := by
  have hkeys : Fields.keys (xs ++ ys) = xs.keys ++ ys.keys := List.map_append
  refine ⟨?_, ?_, ?_⟩
  · have hx' := hx.operators
    have hy' := hy.operators
    simp only [isOperatorDocument, hkeys, List.all_append, Bool.and_eq_true] at hx' hy' ⊢
    exact ⟨by cases xs <;> simp_all, hx'.2, hy'.2⟩
  · rw [hkeys, List.nodup_append]
    exact ⟨hx.nodup, hy.nodup, fun a ha b hb hab => hdisj b hb (hab ▸ ha)⟩
  · rw [hkeys, List.mem_append, not_or]
    exact ⟨hx.noOptions, hy.noOptions⟩

theorem fieldMatches_eq [Host] (h : IsOperators xs) (actual : Option Value) :
    fieldMatches actual (.document xs) = operatorsMatch actual "" xs := by
  have hfirst : isOperatorCondition xs = true := by
    have := h.operators
    cases xs with
    | nil => simp [isOperatorDocument] at this
    | cons x xs =>
      simp only [isOperatorDocument, Fields.keys, List.map_cons, List.all_cons,
        Bool.and_eq_true] at this
      exact this.2.1
  have hoptions : patternOptions xs = "" := by
    have : Fields.get? xs "$options" = none := Fields.get?_eq_none_iff.mpr h.noOptions
    rw [Fields.get?] at this
    simp [patternOptions, this]
  rw [fieldMatches, hfirst, hoptions]
  rfl

end IsOperators

end Filter

/-! ### Expressed propositions -/

namespace Filter

/-- An entry that a merge can join with another of its key: distinct operators on a field, or
filters under `$and` or `$or`. -/
def Mergeable (e : String × Value) : Prop :=
  (isOperator e.1 = false ∧ ∃ ops, e.2 = .document ops ∧ IsOperators ops) ∨
    ((e.1 = "$and" ∨ e.1 = "$or") ∧ ∃ items, e.2 = .array items)

theorem Mergeable.of_document {key : String} {ops : Document}
    (h : Mergeable (key, .document ops)) : isOperator key = false ∧ IsOperators ops := by
  rcases h with ⟨hkey, _, hops, h⟩ | ⟨-, _, hitems⟩
  · cases hops
    exact ⟨hkey, h⟩
  · cases hitems

/-- A filter whose tests on a document all have a verdict and that holds exactly if a proposition
does. -/
structure Expresses [Host] (d : Document) (f : Document) (p : Prop) : Prop where
  mergeable : ∀ e ∈ f, Mergeable e
  decided : ∀ e ∈ f, ∃ b, satisfiesEntry d e.1 e.2 = .ok b
  holds : (∀ e ∈ f, satisfiesEntry d e.1 e.2 = .ok true) ↔ p

namespace Expresses

variable {d : Document} {f g : Document} {p q : Prop}

theorem congr [Host] (h : Expresses d f p) (hpq : p ↔ q) : Expresses d f q :=
  ⟨h.mergeable, h.decided, h.holds.trans hpq⟩

theorem nil [Host] : Expresses d [] True := ⟨by simp, by simp, by simp⟩

theorem append [Host] (hf : Expresses d f p) (hg : Expresses d g q) : Expresses d (f ++ g) (p ∧ q) where
  mergeable e he := (List.mem_append.mp he).elim (hf.mergeable e) (hg.mergeable e)
  decided e he := (List.mem_append.mp he).elim (hf.decided e) (hg.decided e)
  holds := by rw [← hf.holds, ← hg.holds, List.forall_mem_append]

/-- The parts of a filter each express what they say. -/
theorem of_append [Host] (h : Expresses d (f ++ g) p) :
    ∃ p₁ p₂, Expresses d f p₁ ∧ Expresses d g p₂ ∧ (p₁ ∧ p₂ ↔ p) := by
  have hm := List.forall_mem_append.mp h.mergeable
  have hd := List.forall_mem_append.mp h.decided
  refine ⟨_, _, ⟨hm.1, hd.1, Iff.rfl⟩, ⟨hm.2, hd.2, Iff.rfl⟩, ?_⟩
  rw [← h.holds, List.forall_mem_append]

/-- The verdict of a filter. -/
theorem verdict [Host] (h : Expresses d f p) : ∃ b, satisfies d f = .ok b ∧ (b = true ↔ p) := by
  choose! b hb using h.decided
  refine ⟨f.all b, satisfies_of_entries hb, ?_⟩
  rw [List.all_eq_true, ← h.holds]
  refine forall₂_congr fun e he => ?_
  rw [hb e he, Except.ok.injEq]

/-- A filter expresses its own verdict. -/
theorem singleton [Host] {e : String × Value} {b : Bool} (hm : Mergeable e)
    (h : satisfiesEntry d e.1 e.2 = .ok b) : Expresses d [e] (b = true) where
  mergeable := by simpa using hm
  decided e' he' := by rw [List.mem_singleton.mp he']; exact ⟨b, h⟩
  holds := by simp [h]

theorem decided_singleton [Host] {e : String × Value} (h : Expresses d [e] p) :
    ∃ b, satisfiesEntry d e.1 e.2 = .ok b ∧ (b = true ↔ p) := by
  obtain ⟨b, hb⟩ := h.decided e List.mem_cons_self
  refine ⟨b, hb, ?_⟩
  rw [← h.holds, List.forall_mem_singleton, hb, Except.ok.injEq]

/-- A filter under `$and` or `$or` says what it said. -/
theorem nest [Host] {key : String} (hkey : key = "$and" ∨ key = "$or") (h : Expresses d f p) :
    Expresses d [(key, .array [.document f])] p := by
  obtain ⟨b, hb, hp⟩ := h.verdict
  refine (singleton (b := b) (.inr ⟨hkey, _, rfl⟩) ?_).congr hp
  rcases hkey with rfl | rfl <;> cases b <;>
    simp [satisfiesEntry, checkBranches, Value.document?, allHold, anyHolds, hb, bind, Except.bind]

/-! #### Merging -/

/-- An entry replaced by one that makes two tests in its place. -/
theorem replace [Host] {l r : Document} {key : String} {v w u : Value}
    (hf : Expresses d (l ++ (key, w) :: r) p) (he : Expresses d [(key, v)] q)
    (hm : Mergeable (key, u))
    (hu : satisfiesEntry d key u = (satisfiesEntry d key w).and (satisfiesEntry d key v)) :
    Expresses d (l ++ (key, u) :: r) (p ∧ q) := by
  obtain ⟨p₁, p', hl, hwr, hp⟩ := hf.of_append
  obtain ⟨p₂, p₃, hw, hr, hp'⟩ := of_append (f := [(key, w)]) hwr
  obtain ⟨a, ha, hap⟩ := hw.decided_singleton
  obtain ⟨b, hb, hbq⟩ := he.decided_singleton
  have hmid : Expresses d [(key, u)] ((a && b) = true) :=
    singleton hm (hu.trans (Verdict.and_eq_ok ha hb))
  refine (hl.append (hmid.append hr)).congr ?_
  rw [Bool.and_eq_true, hap, hbq, ← hp, ← hp']
  exact ⟨fun ⟨h₁, ⟨h₂, h⟩, h₃⟩ => ⟨⟨h₁, h₂, h₃⟩, h⟩, fun ⟨⟨h₁, h₂, h₃⟩, h⟩ => ⟨h₁, ⟨h₂, h⟩, h₃⟩⟩

/-- An `$and` entry has a verdict only if its filters are documents that have one. -/
theorem of_conjuncts [Host] {vs : List Value} (h : Expresses d [("$and", .array vs)] p) :
    checkBranches vs = .ok () ∧ satisfiesEntry d "$and" (.array vs) = allHold d vs := by
  obtain ⟨b, hb, -⟩ := h.decided_singleton
  have hentry : satisfiesEntry d "$and" (.array vs) = (do checkBranches vs; allHold d vs) := by
    simp [satisfiesEntry]
  rw [hentry] at hb ⊢
  rcases hc : checkBranches vs with _ | ⟨⟩
  · rw [hc] at hb
    cases hb
  · exact ⟨rfl, rfl⟩

theorem addConjuncts [Host] {vs : List Value} (hf : Expresses d f p)
    (he : Expresses d [("$and", .array vs)] q) : Expresses d (addConjuncts f vs) (p ∧ q) := by
  rcases hget : Fields.get? f "$and" with _ | w
  · rw [Filter.addConjuncts, hget]
    simp only
    rw [Fields.set_of_not_mem (Fields.get?_eq_none_iff.mp hget)]
    exact hf.append he
  obtain ⟨l, r, rfl, hset⟩ := Fields.exists_split_of_get? hget
  obtain ⟨p₁, p', -, hwr, -⟩ := hf.of_append
  obtain ⟨p₂, p₃, hw, -, -⟩ := of_append (f := [("$and", w)]) hwr
  obtain ⟨ws, rfl⟩ : ∃ ws, w = .array ws := by
    rcases hw.mergeable _ List.mem_cons_self with ⟨hop, -⟩ | ⟨-, ws, hws⟩
    · exact absurd (show isOperator "$and" = false from hop) (by decide)
    · exact ⟨ws, hws⟩
  rw [Filter.addConjuncts, hget]
  simp only
  rw [hset]
  obtain ⟨hcw, hw⟩ := hw.of_conjuncts
  obtain ⟨hcv, hv⟩ := he.of_conjuncts
  refine hf.replace he (.inr ⟨.inl rfl, _, rfl⟩) ?_
  have happ : satisfiesEntry d "$and" (.array (ws ++ vs)) = allHold d (ws ++ vs) := by
    simp [satisfiesEntry, checkBranches_append hcw hcv, bind, Except.bind]
  rw [happ, hw, hv, allHold_append]

theorem mergeOperators [Host] {l r xs ys : Document} {key : String} (hkey : isOperator key = false)
    (hx : IsOperators xs) (hy : IsOperators ys) (hmerge : canMergeOperators xs ys = true)
    (hf : Expresses d (l ++ (key, .document xs) :: r) p)
    (he : Expresses d [(key, .document ys)] q) :
    Expresses d (l ++ (key, .document (Fields.setAll xs ys)) :: r) (p ∧ q) := by
  have hdisj : ∀ k ∈ ys.keys, k ∉ xs.keys := by
    simp only [canMergeOperators, Bool.and_eq_true, List.all_eq_true] at hmerge
    intro k hk
    have := hmerge.2 k hk
    rw [Fields.has_eq_isSome, Bool.not_eq_true', Option.isSome_eq_false_iff,
      Option.isNone_iff_eq_none] at this
    exact Fields.get?_eq_none_iff.mp this
  rw [Fields.setAll_eq_append hy.nodup hdisj]
  have hxy := hx.append hy hdisj
  refine hf.replace he (.inl ⟨hkey, _, rfl, hxy⟩) ?_
  rw [satisfiesEntry_document hkey, satisfiesEntry_document hkey, satisfiesEntry_document hkey,
    hxy.fieldMatches_eq, hx.fieldMatches_eq, hy.fieldMatches_eq, operatorsMatch_append]

theorem mergeField [Host] {e : String × Value} (hf : Expresses d f p) (he : Expresses d [e] q) :
    Expresses d (mergeField f e.1 e.2) (p ∧ q) := by
  obtain ⟨key, v⟩ := e
  -- what collides is moved under `$and`, whatever it collides with
  have hmoved : Expresses d (Filter.addConjuncts f [.document [(key, v)]]) (p ∧ q) :=
    hf.addConjuncts (he.nest (.inl rfl))
  simp only [Filter.mergeField]
  split
  case h_1 hget =>
    rw [Fields.set_of_not_mem (Fields.get?_eq_none_iff.mp hget)]
    exact hf.append he
  case h_2 hget =>
    split
    · split
      · next hkey => subst hkey; exact hf.addConjuncts he
      · exact hmoved
    · exact hmoved
  case h_3 xs hget =>
    split
    · split
      · next ys hmerge =>
        obtain ⟨l, r, rfl, hset⟩ := Fields.exists_split_of_get? hget
        rw [hset]
        obtain ⟨hkey, hxs⟩ := (hf.mergeable (key, .document xs) (by simp)).of_document
        exact mergeOperators hkey hxs (he.mergeable _ List.mem_cons_self).of_document.2 hmerge hf he
      · exact hmoved
    · exact hmoved
  case h_4 => exact hmoved

theorem mergeDocument [Host] (hf : Expresses d f p) (hg : Expresses d g q) :
    Expresses d (mergeDocument f g) (p ∧ q) := by
  induction g generalizing f p q with
  | nil => exact hf.congr ⟨fun h => ⟨h, hg.holds.mp (by simp)⟩, And.left⟩
  | cons e g ih =>
    obtain ⟨q₁, q₂, he, hg, hq⟩ := of_append (f := [e]) hg
    exact (ih (hf.mergeField he) hg).congr (by rw [and_assoc, hq])

end Expresses

end Filter

end SqlGateway
