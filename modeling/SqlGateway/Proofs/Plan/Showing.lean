import SqlGateway.Naming
import SqlGateway.Proofs.Store.Projection

/-! What is left of stored fields in the results of a select list. A column that is selected without
another name stands in them at its own path; under another name it is no longer found there. -/

namespace SqlGateway

variable {names : Naming} {columns : List Column} {spec : Document} {path : String}

/-! ### Select lists -/

namespace Column

/-- Whether results hold a column at the path at which it is stored. -/
structure KeepsTo (names : Naming) (path : String) (c : Column) : Prop where
  output : names.output c = .ok path
  expression : columnExpression names c = .ok (.string ("$" ++ path))

/-- Whether results hold a column apart from a path, if they hold it at all. -/
def KeepsOff (names : Naming) (path : String) (c : Column) : Prop :=
  ∀ output, names.output c = .ok output → output = "_id" ∨ PathsApart output path

theorem KeepsOff.of_output {c : Column} {output : String} (houtput : names.output c = .ok output)
    (hapart : PathsApart output path) : c.KeepsOff names path := by
  intro other hother
  obtain rfl : output = other := Except.ok.inj (houtput.symm.trans hother)
  exact .inr hapart

end Column

/-- Whether results hold at a path what is stored there: nothing but wildcards is selected, or the
path itself is and no other column stands in its way. -/
inductive Shows (names : Naming) (columns : List Column) (path : String) : Prop
  | wildcards (all : ∀ c ∈ columns, c.isWildcard = true)
      (path_ne : (pathSegments path).head? ≠ some "_id")
  | column (selected : ∃ c ∈ columns, c.isWildcard = false ∧ c.KeepsTo names path)
      (others : ∀ c ∈ columns, c.isWildcard = false → c.KeepsTo names path ∨ c.KeepsOff names path)
      (path_ne : path ≠ "_id") (undollared : path.toList.head? ≠ some '$')

/-- Whether results hold under the name of a column what stands at a path: no other column is in its
way. -/
structure Renders (names : Naming) (columns : List Column) (path output : String) : Prop where
  selected : ∃ c ∈ columns, c.isWildcard = false ∧ names.output c = .ok output ∧
    columnExpression names c = .ok (.string ("$" ++ path))
  others : ∀ c ∈ columns, c.isWildcard = false →
    names.output c = .ok output ∧ columnExpression names c = .ok (.string ("$" ++ path)) ∨
      c.KeepsOff names output
  output_ne : output ≠ "_id"
  undollared : path.toList.head? ≠ some '$'

/-- Whether results hold a column under a name: no other column is in its way. -/
structure Column.StandsAt (names : Naming) (columns : List Column) (output : String) (c : Column) :
    Prop where
  mem : c ∈ columns
  named : c.isWildcard = false
  called : names.output c = .ok output
  others : ∀ other ∈ columns, other.isWildcard = false →
    names.output other = .ok output ∧ columnExpression names other = columnExpression names c ∨
      other.KeepsOff names output
  output_ne : output ≠ "_id"

theorem Renders.exists_standsAt {output : String} (h : Renders names columns path output) :
    ∃ c : Column, c.StandsAt names columns output ∧
      columnExpression names c = .ok (.string ("$" ++ path)) := by
  obtain ⟨c, hc, hnamed, houtput, hexpression⟩ := h.selected
  refine ⟨c, ⟨hc, hnamed, houtput, fun other hother hnamed => ?_, h.output_ne⟩, hexpression⟩
  rw [hexpression]
  exact (h.others other hother hnamed).imp_left id

/-- Whether results hold nothing at a path: some column is selected, and none stands there. -/
structure Hides (names : Naming) (columns : List Column) (path : String) : Prop where
  selected : ∃ c ∈ columns, c.isWildcard = false ∧
    ∃ output, names.output c = .ok output ∧ output ≠ "_id"
  apart : ∀ c ∈ columns, c.isWildcard = false → c.KeepsOff names path

/-! ### Entries of a projection -/

theorem flag?_columnExpression {c : Column} {e : Value}
    (h : columnExpression names c = .ok e) : e.flag? = none := by
  obtain ⟨field, -, h⟩ := Except.bind_eq_ok.mp h
  split at h <;> cases h <;> rfl

section

variable (hspec : projectionOf names columns = .ok spec)

include hspec

theorem get?_projectionOf : spec.get? "_id" = some (.int 0) := by
  obtain ⟨fields, -, hspec⟩ := Except.bind_eq_ok.mp hspec
  cases hspec
  exact (Fields.get?_set _ _ _ _).trans (if_pos rfl)

theorem nodup_keys_projectionOf : (Fields.keys spec).Nodup := by
  obtain ⟨fields, -, hspec⟩ := Except.bind_eq_ok.mp hspec
  cases hspec
  have hnil : (Fields.keys ([] : Document)).Nodup := List.nodup_nil
  exact Fields.nodup_keys_set (Fields.nodup_keys_setAll hnil fields) _ _

/-- Every entry but the one that drops the identifier is a column's. -/
theorem exists_column_of_mem {e : String × Value} (he : e ∈ spec) :
    e = ("_id", .int 0) ∨ e.1 ≠ "_id" ∧ ∃ c ∈ columns, c.isWildcard = false ∧
      names.output c = .ok e.1 ∧ columnExpression names c = .ok e.2 := by
  have hidentity := get?_projectionOf hspec
  have hget := Fields.get?_of_mem (nodup_keys_projectionOf hspec) he
  obtain ⟨fields, hfields, hspec⟩ := Except.bind_eq_ok.mp hspec
  cases hspec
  by_cases hid : e.1 = "_id"
  · rw [hid] at hget
    exact .inl (Prod.ext hid (Option.some.inj (hget.symm.trans hidentity)))
  refine .inr ⟨hid, ?_⟩
  have hlist : e ∈ Fields.ofList fields :=
    (Fields.mem_of_mem_set he).resolve_left fun heq => hid (congrArg Prod.fst heq)
  have hfield : e ∈ fields := (Fields.mem_of_mem_setAll hlist).resolve_left List.not_mem_nil
  obtain ⟨c, hc, he⟩ := Except.exists_of_mem_mapM hfields hfield
  obtain ⟨hc, hnamed⟩ := List.mem_filter.mp hc
  obtain ⟨output, houtput, he⟩ := Except.bind_eq_ok.mp he
  obtain ⟨expression, hexpression, he⟩ := Except.bind_eq_ok.mp he
  cases he
  exact ⟨c, hc, by simpa using hnamed, houtput, hexpression⟩

/-- Every column has an entry, unless it is called as the identifier. -/
theorem exists_mem_of_column {c : Column} (hc : c ∈ columns) (hnamed : c.isWildcard = false)
    {output : String} (houtput : names.output c = .ok output) :
    ∃ e, (output, e) ∈ spec := by
  obtain ⟨fields, hfields, hspec⟩ := Except.bind_eq_ok.mp hspec
  cases hspec
  have hcolumn : c ∈ columns.filter (!·.isWildcard) := by simp [hc, hnamed]
  obtain ⟨e, he, hstep⟩ := Except.exists_mem_of_mapM hfields hcolumn
  rw [houtput, Except.ok_bind] at hstep
  obtain ⟨expression, -, hstep⟩ := Except.bind_eq_ok.mp hstep
  cases hstep
  have hlist : output ∈ Fields.keys (Fields.ofList fields) :=
    Fields.mem_keys_setAll.mpr (.inr (List.mem_map.mpr ⟨_, he, rfl⟩))
  have hmem : output ∈ Fields.keys ((Fields.ofList fields).set "_id" (.int 0)) := by
    rw [Fields.keys_set]
    split
    · exact hlist
    · exact List.mem_append_left _ hlist
  obtain ⟨entry, hentry, rfl⟩ := List.mem_map.mp hmem
  exact ⟨entry.2, hentry⟩

theorem isExclusion_projectionOf {c : Column} (hc : c ∈ columns) (hnamed : c.isWildcard = false)
    {output : String} (houtput : names.output c = .ok output) (hid : output ≠ "_id") :
    spec.isExclusion = false := by
  obtain ⟨e, he⟩ := exists_mem_of_column hspec hc hnamed houtput
  have hflag : e.flag? = none := by
    rcases exists_column_of_mem hspec he with heq | ⟨-, other, -, -, -, hother⟩
    · exact absurd (congrArg Prod.fst heq) hid
    · exact flag?_columnExpression hother
  rw [Document.isExclusion, List.all_eq_false]
  refine ⟨(output, e), List.mem_filter.mpr ⟨he, by simpa using hid⟩, ?_⟩
  rw [Value.isDropped, hflag]
  decide

/-- A select list that names nothing but the identifier only drops it. -/
theorem eq_of_unselected (h : ∀ c ∈ columns, c.isWildcard = false → names.output c = .ok "_id") :
    spec = [("_id", .int 0)] := by
  have hdrops : ∀ e ∈ spec, e = ("_id", .int 0) := fun e he => by
    rcases exists_column_of_mem hspec he with heq | ⟨hid, c, hc, hnamed, houtput, -⟩
    · exact heq
    · exact absurd (Except.ok.inj (houtput.symm.trans (h c hc hnamed))) hid
  have hdistinct := nodup_keys_projectionOf hspec
  match spec, hdrops, hdistinct, get?_projectionOf hspec with
  | [e], hdrops, _, _ => rw [hdrops e List.mem_cons_self]
  | e :: other :: _, hdrops, hdistinct, _ =>
    rw [hdrops e List.mem_cons_self, hdrops other (by simp)] at hdistinct
    simp [Fields.keys] at hdistinct

/-! ### Results -/

variable {d result : Document} (hresult : d.project spec = .ok result)

include hresult

/-- Every field of the results leads to a selected column, if one is selected. -/
theorem exists_column_of_mem_result {c : Column} (hc : c ∈ columns) (hnamed : c.isWildcard = false)
    {output : String} (houtput : names.output c = .ok output) (hid : output ≠ "_id")
    {e : String × Value} (he : e ∈ result) :
    ∃ c ∈ columns, c.isWildcard = false ∧
      ∃ output, names.output c = .ok output ∧ Document.LeadsTo output e := by
  have hinclusion := isExclusion_projectionOf hspec hc hnamed houtput hid
  obtain ⟨entry, hentry, hkept, hleads⟩ :=
    Document.mem_project (get?_projectionOf hspec) hinclusion hresult he
  rcases exists_column_of_mem hspec hentry with rfl | ⟨-, c, hc, hnamed, houtput, -⟩
  · cases hkept
  · exact ⟨c, hc, hnamed, entry.1, houtput, hleads⟩

/-- What a column computes is read in the results under its name. -/
theorem getPath?_of_standsAt {c : Column} {output : String} (h : c.StandsAt names columns output)
    {e : Value} (hexpression : columnExpression names c = .ok e) {w : Option Value}
    (hvalue : Expression.evaluate d e = .ok w) : result.getPath? output = w := by
  have hinclusion := isExclusion_projectionOf hspec h.mem h.named h.called h.output_ne
  have hentry : ∀ entry ∈ spec, entry = (output, e) ∨ Document.Spares output entry := by
    intro entry hmem
    rcases exists_column_of_mem hspec hmem with rfl | ⟨hid, other, hother, hnamed, houtput, hread⟩
    · exact .inr (.inl ⟨rfl, rfl⟩)
    rcases h.others other hother hnamed with ⟨hsame, heq⟩ | hoff
    · have hkey := Except.ok.inj (houtput.symm.trans hsame)
      rw [hread, hexpression] at heq
      exact .inl (Prod.ext hkey (Except.ok.inj heq))
    · exact .inr (.inr ((hoff entry.1 houtput).resolve_left hid))
  have hread : (output, e) ∈ spec := by
    obtain ⟨v, hv⟩ := exists_mem_of_column hspec h.mem h.named h.called
    rcases hentry _ hv with heq | hdropped | hapart
    · exact heq ▸ hv
    · exact absurd hdropped.1 h.output_ne
    · exact absurd List.prefix_rfl hapart.outside
  exact Document.getPath?_project_read (get?_projectionOf hspec) hinclusion
    (flag?_columnExpression hexpression) hvalue hread hentry hresult

/-- What a select list renders is read in its results under the name of its column. -/
theorem getPath?_of_renders {output : String} (h : Renders names columns path output) :
    result.getPath? output = d.getPath? path := by
  obtain ⟨c, hc, hexpression⟩ := h.exists_standsAt
  exact getPath?_of_standsAt hspec hresult hc hexpression (Expression.evaluate_path h.undollared d)

/-- What a select list shows is read in its results as it is stored. -/
theorem getPath?_of_shows (h : Shows names columns path) :
    result.getPath? path = d.getPath? path := by
  cases h with
  | wildcards all path_ne =>
    have hnone : columns.filter (!·.isWildcard) = [] := by simpa using all
    have hdrop : spec = [("_id", .int 0)] := by
      rw [projectionOf, hnone] at hspec
      exact (Except.ok.inj hspec).symm
    rw [hdrop, Document.project_withoutIdentity] at hresult
    cases hresult
    obtain ⟨s, ss, hpath⟩ := List.exists_cons_of_ne_nil (pathSegments_ne_nil path)
    rw [hpath, List.head?_cons, ne_eq, Option.some.injEq] at path_ne
    rw [Document.getPath?, Document.getPath?, hpath]
    exact Document.getSegments?_congr (by rw [Fields.get?_erase, if_neg path_ne]) ss
  | column selected others path_ne undollared =>
    obtain ⟨c, hc, hnamed, hkept⟩ := selected
    exact getPath?_of_renders hspec hresult {
      selected := ⟨c, hc, hnamed, hkept.output, hkept.expression⟩
      others := fun c hc hnamed =>
        (others c hc hnamed).imp_left fun hkept => ⟨hkept.output, hkept.expression⟩
      output_ne := path_ne
      undollared := undollared }

/-- What it hides is not in its results. -/
theorem getPath?_of_hides (h : Hides names columns path) : result.getPath? path = none := by
  obtain ⟨c, hc, hnamed, output, houtput, hid⟩ := h.selected
  refine Document.getPath?_project_spared (get?_projectionOf hspec)
    (isExclusion_projectionOf hspec hc hnamed houtput hid) (fun e he => ?_) hresult
  rcases exists_column_of_mem hspec he with rfl | ⟨hid, c, hc, hnamed, houtput, -⟩
  · exact .inl ⟨rfl, rfl⟩
  · exact .inr ((h.apart c hc hnamed e.1 houtput).resolve_left hid)

end

end SqlGateway
