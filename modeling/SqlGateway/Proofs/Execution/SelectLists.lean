import Mathlib.Data.List.Perm.Subperm
import SqlGateway.Proofs.Execution.SortedSlices
import SqlGateway.Proofs.Pairing
import SqlGateway.Proofs.Plan.Showing
import SqlGateway.Proofs.Row.Columns

/-! What a select list chooses of stored documents. A projection keeps what it names if it names
anything but the identifier; otherwise it only drops the identifier, and all other fields are left.
A wildcard has no entry of its own: it is that case, and beside other columns it counts for
nothing. -/

namespace SqlGateway

attribute [local instance] Host.universal

/-! ### Plans -/

namespace Plan

variable {names : Naming} {q : Select}

theorem filter_namedColumns (q : Select) :
    (namedColumns q).filter (!·.isWildcard) = namedColumns q := by
  rw [namedColumns, List.filter_filter]
  simp only [Bool.and_self]

theorem projectionOf_namedColumns :
    projectionOf names (namedColumns q) = projectionOf names q.columns := by
  rw [projectionOf, filter_namedColumns]
  rfl

/-- A SELECT is a find if nothing in it asks for another strategy. -/
theorem strategyOf_eq_find {join : Option Join} :
    strategyOf names join q = .ok .find ↔
      (namedColumns q).forM (fun c => discard (names.field c)) = .ok () ∧ q.distinct = false ∧
        q.groupBy = [] ∧ q.having = [] ∧ q.hasAggregation = false ∧ join = none := by
  constructor
  · intro h
    have hdistinct := distinct_eq_false_of_strategyOf h fun _ => nofun
    obtain ⟨⟨⟩, hfields, h⟩ := Except.bind_eq_ok.mp h
    rw [hdistinct, if_neg (by decide)] at h
    split at h
    · cases h
    next hplain =>
    split at h
    · cases h
    next hjoin =>
    simp only [Bool.or_eq_true, not_or, Bool.not_eq_true', Bool.not_eq_false,
      List.isEmpty_iff, Bool.not_eq_true] at hplain
    exact ⟨hfields, hdistinct, hplain.1.1, hplain.1.2, hplain.2, by simpa using hjoin⟩
  · rintro ⟨hfields, hdistinct, hgroupBy, hhaving, haggregation, rfl⟩
    rw [strategyOf, hfields, Except.ok_bind, hdistinct, hgroupBy, hhaving, haggregation]
    rfl

/-- A SELECT that finds has the plan of its list without wildcards. -/
theorem Selects.withoutWildcards [Host] {join : Option Join} {command : Command} {target : ProbeTarget}
    (h : Selects q join .find command target) :
    Selects { q with columns := namedColumns q } join .find command target where
  joins := h.joins
  chooses := by
    obtain ⟨hfields, hdistinct, hgroupBy, hhaving, haggregation, hjoin⟩ :=
      strategyOf_eq_find.mp h.chooses
    refine strategyOf_eq_find.mpr ⟨?_, hdistinct, hgroupBy, hhaving, ?_, hjoin⟩
    · rwa [← filter_namedColumns] at hfields
    · rw [Select.hasAggregation, List.any_eq_false] at haggregation ⊢
      exact fun c hc => haggregation c (List.mem_filter.mp hc).1
  runs := by
    have hruns := h.runs
    rw [commandOf, findCommand] at hruns ⊢
    rw [projectionOf_namedColumns]
    exact hruns
  probes := by
    have hprobes := h.probes
    rw [probeTarget, ← filter_namedColumns] at hprobes
    exact hprobes

end Plan

/-! ### Finding -/

/-- Whether documents are some that satisfy the conditions of a SELECT, in whatever order, and all
of these if it has no limit. -/
def Select.Picks [Host] (q : Select) (stored found : List Document) : Prop :=
  ∃ filter, Filter.ofPredicates? .plain q.wheres = .ok filter ∧
    (∀ d ∈ stored, (filter.getD []).Evaluates d) ∧
    found.Subperm (stored.filter (filter.getD []).accepts) ∧
    (q.limit = none → found.Perm (stored.filter (filter.getD []).accepts))

namespace Databases

variable {docs sorted : List Document}

theorem perm_of_ordered {order : Option Document} (h : ordered docs order = .ok sorted) :
    sorted.Perm docs := by
  cases order with
  | none =>
    cases h
    exact .refl docs
  | some order => exact Document.perm_of_sort h

/-- What a window leaves of a list stands in the list. -/
theorem window_sublist (docs : List Document) (skip : Nat) (limit : Option Nat) :
    (limited (docs.drop skip) limit).Sublist docs := by
  refine List.Sublist.trans ?_ (List.drop_sublist skip docs)
  rw [limited.eq_def]
  split
  · exact List.take_sublist _ _
  · exact .refl _

end Databases

namespace Execution

open MemoryStore

variable {database : String}

/-- What a SELECT finds are projections of the documents that it picks. -/
theorem exists_picks_of_fetch [Host] {q : Select} {join : Option Join} {c : Command}
    {target : ProbeTarget} (hselects : Plan.Selects q join .find c target)
    {r r' : Run MemoryStore} (hs : r.store.Sound) (hroom : r.store.nextCursor < 2 ^ 63)
    {docs : List Document} (h : Ends (fetch store database c) r (.ok docs) r') :
    ∃ found projection, q.Picks (r.store.databases.documents database q.collection) found ∧
      projectionOf .plain q.columns = .ok projection ∧
      found.mapM (·.project projection) = .ok docs := by
  obtain ⟨rfl, -⟩ := Plan.strategyOf_find hselects.chooses
  have hruns : Plan.findCommand .plain q = .ok c := hselects.runs
  have hverb := Plan.verb_findCommand hruns
  have hdocs := documentsOf_of_fetch hs hroom (Plan.headed_findCommand hruns) (by rw [hverb]; rfl) h
  obtain ⟨-, result, hresult, rfl⟩ := retrieve_of_documentsOf hdocs
  obtain ⟨filter, order, projection, hfilter, -, hprojection, hfields⟩ :=
    Plan.findFields_findCommand hruns
  rw [hverb] at hresult
  change r.store.databases.find database c.document = _ at hresult
  rw [Databases.find_of_fields hfields] at hresult
  obtain ⟨matched, hmatched, hresult⟩ := Except.bind_eq_ok.mp hresult
  obtain ⟨sorted, hsorted, hresult⟩ := Except.bind_eq_ok.mp hresult
  obtain ⟨rows, hrows, hresult⟩ := Except.bind_eq_ok.mp hresult
  cases hresult
  obtain ⟨hall, rfl⟩ := Databases.filtered_eq_ok.mp hmatched
  have hperm := Databases.perm_of_ordered hsorted
  refine ⟨_, projection, ⟨filter, hfilter, hall, ?_, fun hlimit => ?_⟩, hprojection, hrows⟩
  · exact (Databases.window_sublist sorted _ _).subperm.trans hperm.subperm
  · rw [hlimit]
    exact hperm

end Execution

namespace Gateway

open Execution MemoryStore

variable {database : String}

/-- The rows of a SELECT that finds are read from these. -/
theorem exists_picks_of_execute [Host] {q : Select} {p : Plan} (hplan : Plan.ofSelect q = .ok p)
    (hshape : p.shape = .select .find) {s : MemoryStore} (hs : s.Sound)
    (hroom : s.nextCursor < 2 ^ 63) {id : ObjectId} {autoCommit : Bool} {rows : List Row}
    {r : Run MemoryStore}
    (h : execute store database id (.document (.select q)) autoCommit s = some (.ok rows, r)) :
    ∃ found projection docs types, q.Picks (s.databases.documents database q.collection) found ∧
      projectionOf .plain q.columns = .ok projection ∧
      found.mapM (·.project projection) = .ok docs ∧
      docs.mapM (Row.ofDocument types none) = .ok rows := by
  obtain ⟨join, strategy, command, target, r₁, r₂, hselects, hreading, hrun⟩ :=
    ends_select hs h
  obtain rfl : Plan.selecting strategy command target = p :=
    Except.ok.inj ((Plan.ofSelect_eq_ok.mpr
      ⟨join, strategy, command, target, hselects, rfl⟩).symm.trans hplan)
  cases hshape
  have hfind (output : String) : Strategy.find ≠ .distinct output := nofun
  obtain ⟨docs, r₃, types, hfetch, hrows, -⟩ := ends_runSelect_selecting hfind hrun
  obtain ⟨found, projection, hpicks, hprojection, hdocs⟩ :=
    exists_picks_of_fetch hselects hreading.sound (hreading.nextCursor ▸ hroom) hfetch
  rw [hreading.databases] at hpicks
  obtain ⟨rfl, -⟩ := Plan.strategyOf_find hselects.chooses
  obtain ⟨columns, -, htarget⟩ := Except.bind_eq_ok.mp hselects.probes
  cases htarget
  exact ⟨found, projection, docs, types, hpicks, hprojection, hdocs, hrows⟩

/-! ### Columns of rows -/

theorem exists_output_of_find [Host] {q : Select} {p : Plan} (hplan : Plan.ofSelect q = .ok p)
    (hshape : p.shape = .select .find) {c : Column} (hc : c ∈ q.columns)
    (hnamed : c.isWildcard = false) : ∃ output, Naming.plain.output c = .ok output := by
  obtain ⟨join, strategy, command, target, hselects, rfl⟩ := Plan.ofSelect_eq_ok.mp hplan
  cases hshape
  obtain ⟨-, hstored⟩ := Plan.strategyOf_find hselects.chooses
  obtain ⟨haggregation, hjoined⟩ := hstored c (List.mem_filter.mpr ⟨hc, by simp [hnamed]⟩)
  rw [Naming.output, Naming.field, haggregation, hjoined]
  exact ⟨_, rfl⟩

/-- Without wildcards a SELECT that finds gives rows with selected columns only, if it selects
anything but the identifier. If it does not, its rows have columns for all other fields of the
documents that it picks. -/
theorem columns_execute_find [Host] {q : Select} {p : Plan} (hplan : Plan.ofSelect q = .ok p)
    (hshape : p.shape = .select .find) (hnamed : ∀ c ∈ q.columns, c.isWildcard = false)
    {s : MemoryStore} (hs : s.Reachable) (hroom : s.nextCursor < 2 ^ 63) {id : ObjectId}
    {autoCommit : Bool} {rows : List Row} {r : Run MemoryStore}
    (h : execute store database id (.document (.select q)) autoCommit s = some (.ok rows, r)) :
    ((∃ c ∈ q.columns, Naming.plain.output c ≠ .ok "_id") → ∀ row ∈ rows,
      ∀ column ∈ Fields.keys row, ∃ c ∈ q.columns, Naming.plain.output c = .ok column) ∧
    ((∀ c ∈ q.columns, Naming.plain.output c = .ok "_id") →
      ∃ found, q.Picks (s.databases.documents database q.collection) found ∧
        List.Forall₂ (fun d row => ∀ column,
          column ∈ Fields.keys row ↔ column ∈ Fields.keys d ∧ column ≠ "_id") found rows) := by
  obtain ⟨found, projection, docs, types, hpicks, hprojection, hdocs, hrows⟩ :=
    exists_picks_of_execute hplan hshape (sound_of_reachable hs) hroom h
  constructor
  · rintro ⟨c, hc, hother⟩ row hrow column hcolumn
    obtain ⟨output, houtput⟩ := exists_output_of_find hplan hshape hc (hnamed c hc)
    have hid : output ≠ "_id" := fun hid => hother (hid ▸ houtput)
    obtain ⟨doc, hdoc, hdecoded⟩ := Except.exists_of_mem_mapM hrows hrow
    obtain ⟨d, -, hprojected⟩ := Except.exists_of_mem_mapM hdocs hdoc
    obtain ⟨hcolumnid, hkey⟩ := (Row.mem_keys_ofDocument hdecoded).mp hcolumn
    obtain ⟨e, he, rfl⟩ := List.mem_map.mp hkey
    obtain ⟨c, hc, -, output, houtput, hleads⟩ :=
      exists_column_of_mem_result hprojection hprojected hc (hnamed c hc) houtput hid he
    -- a row has no field that holds a document, so the output is the name of the field
    have hwhole : output = e.1 := hleads.whole.resolve_right fun ⟨inner, hinner⟩ =>
      Row.scalar_of_ofDocument hdecoded he hcolumnid inner hinner
    exact ⟨c, hc, hwhole ▸ houtput⟩
  · intro houtputs
    obtain rfl := eq_of_unselected hprojection fun c hc _ => houtputs c hc
    rw [Except.mapM_eq_map fun d _ => d.project_withoutIdentity] at hdocs
    cases hdocs
    refine ⟨found, hpicks, ?_⟩
    refine (List.forall₂_map_left_iff.mp (Except.mapM_eq_ok_iff_forall₂.mp hrows)).imp ?_
    intro d row hdecoded column
    rw [Row.mem_keys_ofDocument hdecoded, Fields.keys_erase, List.mem_filter]
    simp [idField, and_comm]

/-- A document with two fields beside its identifier. -/
def twoFields : Document := [("_id", .int 1), ("a", .int 5), ("b", .int 6)]

/-- One of them under another name, and the identifier, which rows leave out. -/
theorem columns_execute_find_renamed :
    let q : Select :=
      { collection := "t", columns := [{ Column.named "a" with asName := some "c" }, .named "_id"] }
    let s := MemoryStore.holding "t" [twoFields]
    ∃ p row r, Plan.ofSelect q = .ok p ∧ p.shape = .select .find ∧ s.Reachable ∧
      execute store "app" default (.document (.select q)) true s = some (.ok [row], r) ∧
      row = [("c", .int 5)] ∧
      ∀ column ∈ Fields.keys row, ∃ c ∈ q.columns, Naming.plain.output c = .ok column := by
  intro q s
  obtain ⟨p, row, r, hplan, hshape, hexecute, hrow⟩ : ∃ p row r, Plan.ofSelect q = .ok p ∧
      p.shape = .select .find ∧
      execute store "app" default (.document (.select q)) true s = some (.ok [row], r) ∧
      row = [("c", .int 5)] :=
    ⟨_, _, _, rfl, rfl, rfl, rfl⟩
  have hs : s.Reachable := MemoryStore.reachable_holding "t" _
  have hnamed : ∀ c ∈ q.columns, c.isWildcard = false := by decide
  obtain ⟨hcolumns, -⟩ := columns_execute_find hplan hshape hnamed hs (by decide) hexecute
  have hselected : ∃ c ∈ q.columns, Naming.plain.output c ≠ .ok "_id" :=
    ⟨_, List.mem_cons_self, by simp [Naming.output, Naming.field, Column.named]⟩
  exact ⟨p, row, r, hplan, hshape, hs, hexecute, hrow,
    hcolumns hselected row List.mem_cons_self⟩

/-- The identifier alone gives the columns of all other fields. -/
theorem columns_execute_find_identity :
    let q : Select := { collection := "t", columns := [.named "_id"] }
    let s := MemoryStore.holding "t" [twoFields]
    ∃ p row r, Plan.ofSelect q = .ok p ∧ p.shape = .select .find ∧ q.columns ≠ [] ∧
      (∀ c ∈ q.columns, c.isWildcard = false) ∧ s.Reachable ∧
      execute store "app" default (.document (.select q)) true s = some (.ok [row], r) ∧
      row = [("a", .int 5), ("b", .int 6)] ∧
      ¬ ∀ column ∈ Fields.keys row, ∃ c ∈ q.columns, Naming.plain.output c = .ok column := by
  intro q s
  refine ⟨_, _, _, rfl, rfl, nofun, by decide, MemoryStore.reachable_holding "t" _, rfl, rfl, ?_⟩
  intro hcolumns
  obtain ⟨c, hc, houtput⟩ := hcolumns "a" List.mem_cons_self
  obtain rfl := List.mem_singleton.mp hc
  have houtputs : "_id" = "a" := Except.ok.inj houtput
  exact absurd houtputs (by decide)

/-! ### Wildcards -/

/-- A SELECT that finds is planned as if it had no wildcards. If its other columns are called as the
identifier, or there are none, the documents that it picks are given whole but for their
identifiers. If not, nothing is given but what the other columns lead to. -/
theorem fetch_wildcard [Host] {q : Select} {p : Plan} {c : Command} (hplan : Plan.ofSelect q = .ok p)
    (hshape : p.shape = .select .find) (hcommand : singleCommand p = .ok c)
    {r r' : Run MemoryStore} (hs : r.store.Reachable) (hroom : r.store.nextCursor < 2 ^ 63)
    {docs : List Document} (h : Ends (fetch store database c) r (.ok docs) r') :
    Plan.ofSelect { q with columns := Plan.namedColumns q } = .ok p ∧
    ∃ found, q.Picks (r.store.databases.documents database q.collection) found ∧
      found.length = docs.length ∧
      ((∀ c ∈ Plan.namedColumns q, Naming.plain.output c = .ok "_id") →
        docs = found.map (Fields.erase · "_id")) ∧
      ((∃ c ∈ Plan.namedColumns q, Naming.plain.output c ≠ .ok "_id") →
        ∀ doc ∈ docs, ∀ field ∈ doc, ∃ c ∈ Plan.namedColumns q,
          ∃ output, Naming.plain.output c = .ok output ∧ Document.LeadsTo output field) := by
  obtain ⟨join, strategy, command, target, hselects, rfl⟩ := Plan.ofSelect_eq_ok.mp hplan
  cases hshape
  cases hcommand
  obtain ⟨found, projection, hpicks, hprojection, hdocs⟩ :=
    exists_picks_of_fetch hselects (sound_of_reachable hs) hroom h
  refine ⟨Plan.ofSelect_eq_ok.mpr ⟨join, .find, c, target, hselects.withoutWildcards, rfl⟩,
    found, hpicks, (Except.length_mapM hdocs).symm, fun houtputs => ?_, ?_⟩
  · obtain rfl := eq_of_unselected hprojection fun c hc hnamed =>
      houtputs c (List.mem_filter.mpr ⟨hc, by simp [hnamed]⟩)
    rw [Except.mapM_eq_map fun d _ => d.project_withoutIdentity] at hdocs
    exact (Except.ok.inj hdocs).symm
  · rintro ⟨c, hc, hother⟩ doc hdoc field hfield
    obtain ⟨hc, hnamed⟩ := List.mem_filter.mp hc
    have hnamed : c.isWildcard = false := by simpa using hnamed
    obtain ⟨output, houtput⟩ := exists_output_of_find hplan rfl hc hnamed
    have hid : output ≠ "_id" := fun hid => hother (hid ▸ houtput)
    obtain ⟨d, -, hprojected⟩ := Except.exists_of_mem_mapM hdocs hdoc
    obtain ⟨c, hc, hnamed, hleads⟩ :=
      exists_column_of_mem_result hprojection hprojected hc hnamed houtput hid hfield
    exact ⟨c, List.mem_filter.mpr ⟨hc, by simp [hnamed]⟩, hleads⟩

/-- Alone a wildcard gives all fields. -/
theorem fetch_wildcard_alone :
    let q : Select := { collection := "t", columns := [.wildcard] }
    ∃ p c r, Plan.ofSelect q = .ok p ∧ singleCommand p = .ok c ∧
      Ends (fetch store "app" c) { store := .holding "t" [twoFields] }
        (.ok [[("a", .int 5), ("b", .int 6)]]) r ∧
      ∃ found, q.Picks [twoFields] found ∧
        [[("a", .int 5), ("b", .int 6)]] = found.map (Fields.erase · "_id") := by
  intro q
  obtain ⟨p, c, r, hplan, hshape, hcommand, hfetch⟩ : ∃ p c r, Plan.ofSelect q = .ok p ∧
      p.shape = .select .find ∧ singleCommand p = .ok c ∧
      Ends (fetch store "app" c) { store := .holding "t" [twoFields] }
        (.ok [[("a", .int 5), ("b", .int 6)]]) r :=
    ⟨_, _, _, rfl, rfl, rfl, rfl⟩
  obtain ⟨-, found, hpicks, -, hwhole, -⟩ := fetch_wildcard hplan hshape hcommand
    (MemoryStore.reachable_holding "t" [twoFields]) (by decide) hfetch
  exact ⟨p, c, r, hplan, hcommand, hfetch, found, hpicks, hwhole nofun⟩

/-- Beside a column under another name it gives none. -/
theorem fetch_wildcard_beside :
    let q : Select :=
      { collection := "t", columns := [.wildcard, { Column.named "a" with asName := some "c" }] }
    ∃ p c r doc, Plan.ofSelect q = .ok p ∧ p.shape = .select .find ∧ singleCommand p = .ok c ∧
      Ends (fetch store "app" c) { store := .holding "t" [twoFields] } (.ok [doc]) r ∧
      doc = [("c", .int 5)] ∧ (∀ c ∈ q.columns, Naming.plain.output c ≠ .ok "b") ∧
      Fields.get? twoFields "b" = some (.int 6) ∧ Fields.get? doc "b" = none :=
  ⟨_, _, _, _, rfl, rfl, rfl, rfl, rfl, by decide, rfl, rfl⟩

end Gateway

end SqlGateway
