import SqlGateway.Proofs.Filter.Lowering
import SqlGateway.Proofs.Pattern.Literal
import SqlGateway.Proofs.Value.Path

/-! What LIKE matches. Whatever characters its pattern has, the text that is left of it without
percent signs is searched for as it stands, in the text of a column or in those of its items. -/

namespace SqlGateway

attribute [local instance] Host.universal

/-! ### Searched texts -/

namespace Value

/-- The text of a string or a symbol. -/
def text? : Value → Option String
  | .string s | .symbol s => some s
  | _ => none

/-- The texts in which a value is searched: its own, or those of its items. -/
def texts : Value → List String
  | .array items => items.filterMap text?
  | v => v.text?.toList

theorem textMatches_eq (p : Pattern) (v : Value) : v.textMatches p = v.text?.any p.isIn := by
  cases v <;> rfl

theorem any_textMatches (p : Pattern) (vs : List Value) :
    vs.any (·.textMatches p) = (vs.filterMap text?).any p.isIn := by
  induction vs with
  | nil => rfl
  | cons v vs ih =>
    rw [List.any_cons, List.filterMap_cons, ih, textMatches_eq]
    cases v.text? <;> rfl

theorem any_candidates (p : Pattern) (v : Value) :
    v.candidates.any (·.textMatches p) = v.texts.any p.isIn := by
  rw [any_textMatches]
  cases v <;> rfl

end Value

/-- A field matches a pattern if it has a value with a text that does. -/
theorem fieldMatchesPattern_iff {actual : Option Value} {p : Pattern} :
    fieldMatchesPattern actual p = true ↔ ∃ v ∈ actual, ∃ s ∈ v.texts, p.isIn s = true := by
  cases actual with
  | none => simp [fieldMatchesPattern]
  | some v => simp [fieldMatchesPattern, Value.any_candidates]

/-! ### Operators -/

section

variable [Host] {s : String} {p : Pattern} (h : Pattern.ofText? s "" = some p) (actual : Option Value)

include h

theorem operatorsMatch_regex :
    operatorsMatch actual "" [("$regex", .string s)] = .ok (fieldMatchesPattern actual p) := by
  have hread : operandPattern (.string s) "" = .ok p := by rw [operandPattern, readPattern, h]
  exact (Verdict.and_true _).trans (congrArg (fieldMatchesPattern actual <$> ·) hread)

theorem operatorsMatch_not_regex :
    operatorsMatch actual "" [("$not", .document [("$regex", .string s)])] =
      .ok (!fieldMatchesPattern actual p) := by
  have hregex : fieldMatches actual (.document [("$regex", .string s)]) =
      .ok (fieldMatchesPattern actual p) :=
    operatorsMatch_regex h actual
  exact (Verdict.and_true _).trans (congrArg ((!·) <$> ·) hregex)

end

namespace Predicate

/-- What a LIKE searches for: its pattern without percent signs. -/
def withoutPercents (pattern : String) : List Char := pattern.toList.filter (· != '%')

/-- The pattern that it searches with. -/
def likeSearch (pattern : String) : Pattern :=
  .containing Pattern.pointSet (withoutPercents pattern)

theorem condition_eq [Host] {p : Predicate} {names : Naming} {field : String} {operators : Document}
    (hfield : names.field p.column = .ok field) (hoperators : p.operator = .ok operators) :
    p.condition names = .ok ⟨field, operators⟩ := by
  rw [condition, hfield, hoperators]
  rfl

section

variable {pattern : String} (hfits : (likeSearch pattern).fits = true)

include hfits

/-- The pattern of a predicate is read as a search for its text. -/
theorem exists_likePattern {p : Predicate} (hp : p.value = .string pattern) :
    ∃ s, p.likePattern = .ok s ∧ Pattern.ofText? s "" = some (likeSearch pattern) := by
  refine ⟨_, by rw [likePattern, hp], ?_⟩
  rw [Pattern.escape, String.toList_ofList]
  exact Pattern.ofText?_containing hfits

theorem operator_like [Host] (column : Column) :
    ∃ ops, (on column .like (.string pattern)).operator = .ok ops ∧ Filter.IsOperators ops ∧
      ∀ actual, operatorsMatch actual "" ops =
        .ok (fieldMatchesPattern actual (likeSearch pattern)) := by
  obtain ⟨s, hs, hread⟩ := exists_likePattern hfits (p := on column .like (.string pattern)) rfl
  exact ⟨_, Except.bind_eq_ok.mpr ⟨s, hs, rfl⟩, isOperators_singleton _ (by decide) (by decide),
    operatorsMatch_regex hread⟩

theorem operator_notLike [Host] (column : Column) :
    ∃ ops, (on column .notLike (.string pattern)).operator = .ok ops ∧ Filter.IsOperators ops ∧
      ∀ actual, operatorsMatch actual "" ops =
        .ok (!fieldMatchesPattern actual (likeSearch pattern)) := by
  obtain ⟨s, hs, hread⟩ := exists_likePattern hfits (p := on column .notLike (.string pattern)) rfl
  exact ⟨_, Except.bind_eq_ok.mpr ⟨s, hs, rfl⟩, isOperators_singleton _ (by decide) (by decide),
    operatorsMatch_not_regex hread⟩

end

/-- The filters of LIKE and NOT LIKE on one column. On every document they have opposite verdicts;
LIKE holds if some text of the column contains the pattern without its percent signs. In particular
that is what it says of a text stored in a plain column. -/
theorem matches_like [Host] {pattern : String} (hfits : (likeSearch pattern).fits = true)
    {names : Naming} {column : Column} {field : String}
    (hfield : names.field column = .ok field) (hordinary : isOperator field = false) :
    ∃ like notLike,
      Filter.ofPredicates? names [.on column .like (.string pattern)] = .ok (some like) ∧
      Filter.ofPredicates? names [.on column .notLike (.string pattern)] = .ok (some notLike) ∧
      (∀ d : Document, ∃ holds, d.matches like = .ok holds ∧ d.matches notLike = .ok !holds ∧
        (holds = true ↔ ∃ v ∈ d.getPath? field, ∃ s ∈ v.texts,
          withoutPercents pattern <:+: s.toList)) ∧
      ('.' ∉ field.toList → ∀ s : String, ∃ holds,
        Document.matches [(field, .string s)] like = .ok holds ∧
          (holds = true ↔ withoutPercents pattern <:+: s.toList)) := by
  obtain ⟨likes, hlikes, hlike, hlikesMatch⟩ := operator_like hfits column
  obtain ⟨others, hothers, hnotLike, hothersMatch⟩ := operator_notLike hfits column
  have hcontains (actual : Option Value) :
      fieldMatchesPattern actual (likeSearch pattern) = true ↔
        ∃ v ∈ actual, ∃ s ∈ v.texts, withoutPercents pattern <:+: s.toList := by
    simp only [fieldMatchesPattern_iff, likeSearch, Pattern.isIn_containing]
  have hverdict (d : Document) : d.matches (Condition.toDocument ⟨field, likes⟩) =
      .ok (fieldMatchesPattern (d.getPath? field) (likeSearch pattern)) :=
    (Condition.matches_toDocument hordinary hlike d).trans (hlikesMatch _)
  have hopposite (d : Document) : d.matches (Condition.toDocument ⟨field, others⟩) =
      .ok !fieldMatchesPattern (d.getPath? field) (likeSearch pattern) :=
    (Condition.matches_toDocument hordinary hnotLike d).trans (hothersMatch _)
  refine ⟨_, _,
    Filter.ofPredicates?_single.mpr ⟨nofun, ⟨rfl, rfl⟩, _, condition_eq hfield hlikes, rfl⟩,
    Filter.ofPredicates?_single.mpr ⟨nofun, ⟨rfl, rfl⟩, _, condition_eq hfield hothers, rfl⟩,
    fun d => ⟨_, hverdict d, hopposite d, hcontains _⟩, fun hdotless s => ⟨_, hverdict _, ?_⟩⟩
  rw [hcontains, Document.getPath?_of_dotless hdotless, Fields.get?_cons, if_pos rfl]
  simp [Value.texts, Value.text?]

/-- A pattern with characters that mean something in search patterns, in a text of two lines, in
one that only resembles it, in a list, and where there is no text. -/
theorem matches_like_lines :
    ∃ like notLike,
      Filter.ofPredicates? .plain [.on (.named "c") .like (.string "%a.b\n(%")] = .ok (some like) ∧
      Filter.ofPredicates? .plain [.on (.named "c") .notLike (.string "%a.b\n(%")] =
        .ok (some notLike) ∧
      Document.matches [("c", .string "x\na.b\n(y")] like = .ok true ∧
      Document.matches [("c", .string "x\naxb\n(y")] notLike = .ok true ∧
      Document.matches [("c", .array [.int 1, .string "a.b\n("])] like = .ok true ∧
      Document.matches [("d", .string "a.b\n(")] notLike = .ok true := by
  have hfits : (likeSearch "%a.b\n(%").fits = true := Pattern.fits_containing (by decide +kernel)
  obtain ⟨like, notLike, hlike, hnotLike, hopposite, hplain⟩ :=
    @matches_like _ "%a.b\n(%" hfits .plain (.named "c") "c" rfl (by decide)
  have hsearched : withoutPercents "%a.b\n(%" = "a.b\n(".toList := by decide +kernel
  rw [hsearched] at hopposite hplain
  refine ⟨like, notLike, hlike, hnotLike, ?_, ?_, ?_, ?_⟩
  · obtain ⟨holds, hholds, hiff⟩ := hplain (by decide) "x\na.b\n(y"
    have hfound : holds = true := hiff.mpr (by decide +kernel)
    rwa [hfound] at hholds
  · obtain ⟨holds, hlikes, hholds, -⟩ := hopposite [("c", .string "x\naxb\n(y")]
    obtain ⟨other, hother, hiff⟩ := hplain (by decide) "x\naxb\n(y"
    obtain rfl : holds = other := Except.ok.inj (hlikes.symm.trans hother)
    have hmissing : holds = false := by
      rw [← Bool.not_eq_true, hiff]
      decide +kernel
    rwa [hmissing] at hholds
  · obtain ⟨holds, hholds, -, hiff⟩ := hopposite [("c", .array [.int 1, .string "a.b\n("])]
    have hfound : holds = true :=
      hiff.mpr ⟨_, rfl, _, List.mem_singleton.mpr rfl, List.infix_refl _⟩
    rwa [hfound] at hholds
  · obtain ⟨holds, -, hholds, hiff⟩ := hopposite [("d", .string "a.b\n(")]
    have hmissing : holds = false := by
      rw [← Bool.not_eq_true, hiff]
      rintro ⟨v, hv, -⟩
      cases hv
    rwa [hmissing] at hholds

end Predicate

end SqlGateway
