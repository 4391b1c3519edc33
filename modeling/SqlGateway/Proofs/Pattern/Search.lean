import SqlGateway.Pattern.Basic

/-! Where patterns match that are a text with anything around it. Matches end at positions of the
text; a repetition that may be left out keeps the positions at which it starts. So the pattern is
found exactly if the text stands somewhere, whatever stands before and after it. -/

namespace SqlGateway

namespace CharSet

theorem has_single (c d : Char) : (single c).has d = true ↔ d = c := by
  have hnat : d = c ↔ d.toNat = c.toNat := Char.toNat_inj.symm
  rw [has, hasCode, single, hasFrom, hasFrom, hasFrom, hnat]
  split
  · simp; omega
  · split <;> simp <;> omega

end CharSet

namespace Pattern

variable {t : Text}

/-! ### Reached positions -/

theorem subset_reach (step : List Nat → List Nat) (n : Nat) (newest seen : List Nat) :
    seen ⊆ reach step n newest seen := by
  induction n generalizing newest seen with
  | zero => exact List.Subset.refl seen
  | succ n ih =>
    rw [reach]
    split
    · exact List.Subset.refl seen
    · exact fun i hi => ih _ _ (List.mem_append_left _ hi)

/-- What holds of the positions at the start and of those after a step, holds of all. -/
theorem forall_reach {step : List Nat → List Nat} {P : Nat → Prop}
    (hstep : ∀ s, (∀ i ∈ s, P i) → ∀ i ∈ step s, P i) (n : Nat) {newest seen : List Nat}
    (hnewest : ∀ i ∈ newest, P i) (hseen : ∀ i ∈ seen, P i) :
    ∀ i ∈ reach step n newest seen, P i := by
  induction n generalizing newest seen with
  | zero => exact hseen
  | succ n ih =>
    have hnew : ∀ i ∈ (step newest).filter (!seen.contains ·), P i := fun i hi =>
      hstep newest hnewest i (List.mem_filter.mp hi).1
    rw [reach]
    split
    · exact hseen
    · refine ih hnew fun i hi => ?_
      rcases List.mem_append.mp hi with hi | hi
      · exact hseen i hi
      · exact hnew i hi

/-! ### Single characters -/

theorem mem_ends_chars {set : CharSet} {s : List Nat} {i : Nat} :
    i ∈ ends t (.chars set) s ↔ ∃ j ∈ s, (∃ c, t[j]? = some c ∧ set.has c = true) ∧ j + 1 = i := by
  simp only [ends, List.mem_map, List.mem_filter, Option.any_eq_true, and_assoc]

/-- A match of a single character ends behind it. -/
theorem mem_ends_single {c : Char} {s : List Nat} {i : Nat} :
    i ∈ ends t (.chars (.single c)) s ↔ ∃ j ∈ s, t[j]? = some c ∧ j + 1 = i := by
  simp [mem_ends_chars, CharSet.has_single]

/-! ### Anything -/

/-- Any number of characters of a set. -/
def anyOf (set : CharSet) : Pattern := .repeated (.chars set) 0 none

theorem subset_ends_anyOf (set : CharSet) (s : List Nat) : s ⊆ ends t (anyOf set) s :=
  subset_reach _ _ s s

theorem le_size_of_mem_ends_anyOf {set : CharSet} {s : List Nat} (hs : ∀ i ∈ s, i ≤ t.size) :
    ∀ i ∈ ends t (anyOf set) s, i ≤ t.size := by
  refine forall_reach (fun r _ i hi => ?_) _ hs hs
  obtain ⟨j, -, ⟨c, hc, -⟩, rfl⟩ := mem_ends_chars.mp hi
  exact (Array.getElem?_eq_some_iff.mp hc).1

theorem ends_anyOf_nil (set : CharSet) : ends t (anyOf set) [] = [] :=
  List.eq_nil_iff_forall_not_mem.mpr <|
    forall_reach (P := fun _ => False) (fun _ hr _ hi =>
      let ⟨j, hj, _⟩ := mem_ends_chars.mp hi
      hr j hj) _ nofun nofun

/-! ### A text with anything around it -/

/-- A text, and then any number of characters of a set. -/
def startingWith (set : CharSet) (cs : List Char) : Pattern :=
  cs.foldr (fun c rest => .seq (.chars (.single c)) rest) (anyOf set)

/-- A text between any numbers of characters of a set. -/
def containing (set : CharSet) (cs : List Char) : Pattern :=
  .seq (anyOf set) (startingWith set cs)

theorem cons_prefix_drop {c : Char} {cs l : List Char} {i : Nat} :
    c :: cs <+: l.drop i ↔ l[i]? = some c ∧ cs <+: l.drop (i + 1) := by
  by_cases hi : i < l.length
  · rw [List.drop_eq_getElem_cons hi, List.cons_prefix_cons, List.getElem?_eq_getElem hi,
      Option.some.injEq, eq_comm]
  · rw [List.drop_eq_nil_of_le (Nat.not_lt.mp hi), List.getElem?_eq_none (Nat.not_lt.mp hi)]
    simp

/-- There are matches of a text where it stands. -/
theorem exists_mem_ends_startingWith {set : CharSet} {cs : List Char} {s : List Nat} :
    (∃ i, i ∈ ends t (startingWith set cs) s) ↔ ∃ i ∈ s, cs <+: t.toList.drop i := by
  -- for all positions at once, since every character of the text moves them on
  induction cs generalizing s with
  | nil =>
    simp only [List.nil_prefix, and_true]
    constructor
    · rintro ⟨i, hi⟩
      cases s with
      | nil =>
        rw [startingWith, List.foldr_nil, ends_anyOf_nil] at hi
        cases hi
      | cons j s => exact ⟨j, List.mem_cons_self⟩
    · rintro ⟨i, hi⟩
      exact ⟨i, subset_ends_anyOf set s hi⟩
  | cons c cs ih =>
    have hstep : ends t (startingWith set (c :: cs)) s =
        ends t (startingWith set cs) (ends t (.chars (.single c)) s) := rfl
    rw [hstep, ih]
    simp only [cons_prefix_drop, Array.getElem?_toList]
    constructor
    · rintro ⟨i, hi, hrest⟩
      obtain ⟨j, hj, hc, rfl⟩ := mem_ends_single.mp hi
      exact ⟨j, hj, hc, hrest⟩
    · rintro ⟨j, hj, hc, hrest⟩
      exact ⟨j + 1, mem_ends_single.mpr ⟨j, hj, hc, rfl⟩, hrest⟩

/-- The pattern is found exactly in the texts of which the text is a part. -/
theorem isIn_containing (set : CharSet) (cs : List Char) (s : String) :
    (containing set cs).isIn s = true ↔ cs <:+: s.toList := by
  have hstart (i : Nat) : i ∈ ends s.toList.toArray (anyOf set)
      (List.range (s.toList.toArray.size + 1)) ↔ i ≤ s.toList.length := by
    constructor
    · exact le_size_of_mem_ends_anyOf (fun j hj => Nat.le_of_lt_succ (List.mem_range.mp hj)) i
    · exact fun hi => subset_ends_anyOf set _ (List.mem_range.mpr (Nat.lt_succ_of_le hi))
  have hfound : (containing set cs).isIn s = true ↔ ∃ i, i ∈ ends s.toList.toArray
      (startingWith set cs) (ends s.toList.toArray (anyOf set)
        (List.range (s.toList.toArray.size + 1))) := by
    rw [isIn, Bool.not_eq_true', List.isEmpty_eq_false_iff_exists_mem]
    rfl
  rw [hfound, exists_mem_ends_startingWith, List.infix_iff_prefix_suffix]
  simp only [hstart]
  constructor
  · rintro ⟨i, -, hprefix⟩
    exact ⟨s.toList.drop i, hprefix, List.drop_suffix i _⟩
  · rintro ⟨rest, hprefix, hsuffix⟩
    obtain ⟨before, hbefore⟩ := hsuffix
    refine ⟨before.length, ?_, ?_⟩
    · rw [← hbefore, List.length_append]
      exact Nat.le_add_right _ _
    · rw [← hbefore, List.drop_left]
      exact hprefix

end Pattern

end SqlGateway
