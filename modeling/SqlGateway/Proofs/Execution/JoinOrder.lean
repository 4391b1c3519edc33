import SqlGateway.Proofs.Execution.Selecting
import SqlGateway.Proofs.Execution.SortedSlices
import SqlGateway.Proofs.Plan.Pipelines
import SqlGateway.Proofs.Plan.Showing

/-! In which order the results of a join come. They are put in order after they have been projected,
by the stored paths of the ORDER BY. A select list that shows these paths gives the order that the
joined documents have; one that hides them leaves the results in the order of the join. -/

namespace SqlGateway

attribute [local instance] Host.universal

/-! ### Sorted projections -/

namespace Document

variable {names : Naming} {columns : List Column} {projection spec : Document} {keys : SortKeys}
  {matched projected docs : List Document}
  (hprojection : projectionOf names columns = .ok projection)
  (hspec : sortKeys spec = .ok keys)
  (hprojected : matched.mapM (·.project projection) = .ok projected)

include hprojection hspec hprojected

/-- Sorting by what the projections show is projecting what is sorted. -/
theorem exists_arranged_of_shows (hshows : ∀ key ∈ keys, Shows names columns key.1)
    (hconsistent : Consistent keys matched) (hsort : sort projected spec = .ok docs) :
    ∃ arranged, Arranges keys matched arranged ∧
      arranged.mapM (·.project projection) = .ok docs := by
  let shown (d : Document) : Document := (d.project projection).toOption.getD []
  have hshown : ∀ d ∈ matched, d.project projection = .ok (shown d) := by
    intro d hd
    obtain ⟨row, -, hrow⟩ := Except.exists_mem_of_mapM hprojected hd
    simp only [shown, hrow]
    rfl
  obtain rfl : projected = matched.map shown :=
    Except.ok.inj (hprojected.symm.trans (Except.mapM_eq_map hshown))
  have hpath : ∀ d ∈ matched, ∀ key ∈ keys, (shown d).getPath? key.1 = d.getPath? key.1 :=
    fun d hd key hkey => getPath?_of_shows hprojection (hshown d hd) (hshows key hkey)
  obtain ⟨arranged, harranged, hperm, -⟩ := exists_sort hspec matched
  have hrows := sort_map (fun a ha b hb => orderBy_congr (hpath a ha) (hpath b hb)) hspec harranged
  obtain rfl : arranged.map shown = docs := Except.ok.inj (hrows.symm.trans hsort)
  refine ⟨arranged, arranges_of_sort hspec hconsistent harranged, ?_⟩
  exact Except.mapM_eq_map fun d hd => hshown d (hperm.subset hd)

/-- Sorting by what the projections hide changes nothing. -/
theorem sort_of_hides (hhides : ∀ key ∈ keys, Hides names columns key.1) :
    sort projected spec = .ok projected := by
  have hmissing : ∀ d ∈ projected, ∀ key ∈ keys, d.getPath? key.1 = none := by
    intro d hd key hkey
    obtain ⟨source, -, hsource⟩ := Except.exists_of_mem_mapM hprojected hd
    exact getPath?_of_hides hprojection hsource (hhides key hkey)
  refine sort_of_ties hspec fun a ha b hb => ?_
  rw [← orderBy_self keys b]
  refine orderBy_congr (fun key hkey => ?_) fun _ _ => rfl
  rw [hmissing a ha key hkey, hmissing b hb key hkey]

end Document

/-! ### Statements -/

namespace Gateway

open Execution MemoryStore

/-- A SELECT that joins sorts the projections of the joined documents that satisfy its conditions.
If its select list shows the columns of the ORDER BY, it gives the projections of these documents in
the order that is asked for, with those that it does not tell apart as they were joined. If its
select list hides these columns, it gives the projections as the documents were joined. -/
theorem fetch_join_order [Host] {q : Select} {p : Plan} {c : Command} (hplan : Plan.ofSelect q = .ok p)
    (hshape : p.shape = .select .joinOnly) (hcommand : singleCommand p = .ok c) {join : Join}
    (hjoin : Plan.singleJoin q = .ok (some join)) {terms : List OrderTerm}
    (hterms : q.orderBy = some terms) (hlimit : q.limit = none) {keys : Document.SortKeys}
    (hkeys : (Naming.ofJoin (some join)).orderKeys terms = .ok keys)
    (hdistinct : (keys.map (·.1)).Nodup) {r r' : Run MemoryStore} (hs : r.store.Reachable)
    (hroom : r.store.nextCursor < 2 ^ 63) {database : String} {docs : List Document}
    (hfetch : Ends (fetch store database c) r (.ok docs) r') :
    ∃ lookup filter projection joined projected,
      Plan.lookupStages join = .ok lookup ∧
      Filter.ofPredicates? (.ofJoin (some join)) q.wheres = .ok filter ∧
      projectionOf (.ofJoin (some join)) q.columns = .ok projection ∧
      Pipeline.run (r.store.databases.documents database)
        (r.store.databases.documents database q.collection) lookup = .ok joined ∧
      (∀ d ∈ joined, (filter.getD []).Evaluates d) ∧
      let matched := joined.filter (filter.getD []).accepts
      matched.mapM (·.project projection) = .ok projected ∧ docs.Perm projected ∧
      (Document.Consistent keys projected → Document.Arranges keys projected docs) ∧
      ((∀ d ∈ matched, ∀ key ∈ keys, ∀ v ∈ d.getPath? key.1, v.Exact) →
        (∀ key ∈ keys, Shows (.ofJoin (some join)) q.columns key.1) →
        ∃ arranged, Document.Arranges keys matched arranged ∧
          arranged.mapM (·.project projection) = .ok docs) ∧
      ((∀ key ∈ keys, Hides (.ofJoin (some join)) q.columns key.1) → docs = projected) := by
  obtain ⟨other, strategy, command, target, hselects, rfl⟩ := Plan.ofSelect_eq_ok.mp hplan
  cases hshape
  cases hcommand
  obtain rfl : some join = other := Except.ok.inj (hjoin.symm.trans hselects.joins)
  obtain ⟨lookup, filter, projection, sort, hlookup, hfilter, hprojection, hsort, rfl⟩ :=
    Plan.stages_joinCommand (c := c) hselects.runs
  obtain ⟨spec, hspec, rfl⟩ : ∃ spec, sortOf (.ofJoin (some join)) terms = .ok spec ∧
      [[("$sort", .document spec)]] = sort := by
    rw [Plan.sortStages, hterms] at hsort
    obtain ⟨spec, hspec, hsort⟩ := Except.bind_eq_ok.mp hsort
    exact ⟨spec, hspec, Except.ok.inj hsort⟩
  have hread := sortKeys_of_sortOf hspec hkeys hdistinct
  have hwindow : Plan.windowStages q.limit = [] := by
    rw [hlimit]
    rfl
  rw [hwindow, List.append_nil] at hfetch
  obtain ⟨-, hrun⟩ := run_of_fetch hs hroom hfetch
  rw [Pipeline.run_append] at hrun
  obtain ⟨projected, hprojected, hsorted⟩ := Except.bind_eq_ok.mp hrun
  rw [Pipeline.run_sort] at hsorted
  obtain ⟨matched, hmatched, hprojected⟩ := Pipeline.run_project_eq_ok.mp hprojected
  rw [Pipeline.run_append] at hmatched
  obtain ⟨joined, hjoined, hmatched⟩ := Except.bind_eq_ok.mp hmatched
  obtain ⟨hall, rfl⟩ := Pipeline.run_matchStages.mp hmatched
  obtain ⟨same, hsame, hperm, -⟩ := Document.exists_sort hread projected
  obtain rfl : same = docs := Except.ok.inj (hsame.symm.trans hsorted)
  refine ⟨lookup, filter, projection, joined, projected, hlookup, hfilter, hprojection, hjoined,
    hall, hprojected, hperm, fun hconsistent => ?_, fun hexact hshows => ?_, fun hhides => ?_⟩
  · exact Document.arranges_of_sort hread hconsistent hsorted
  · exact Document.exists_arranged_of_shows hprojection hread hprojected hshows
      (Document.consistent_of_exact hexact) hsorted
  · have hsame := Document.sort_of_hides hprojection hread hprojected hhides
    exact Except.ok.inj (hsorted.symm.trans hsame)

/-- A part with a label and a size, in a bigger part or not. -/
def part (label : String) (size : Int32) (within : Option String) : Document :=
  [("_id", .string label), ("label", .string label), ("size", .int size)] ++
    (within.map fun whole => ("within", .string whole)).toList

/-- A part, two parts in it, and one part in one of these. -/
def partStore [Host] : MemoryStore :=
  .holding "parts"
    [part "a" 9 none, part "b" 4 (some "a"), part "c" 2 (some "a"), part "d" 3 (some "b")]

theorem reachable_partStore [Host] : partStore.Reachable := MemoryStore.reachable_holding "parts" _

/-- The parts that are in another one, each beside that one. -/
def innerParts : List Document :=
  [part "b" 4 (some "a") ++ [("join_parts", .document (part "a" 9 none))],
    part "c" 2 (some "a") ++ [("join_parts", .document (part "a" 9 none))],
    part "d" 3 (some "b") ++ [("join_parts", .document (part "b" 4 (some "a")))]]

/-- Each part with the one that it is in. -/
def wholes : Join := { kind := .inner, collection := "parts", relations := [⟨"within", "_id"⟩] }

theorem run_wholes [Host] {lookup : List Document} (h : Plan.lookupStages wholes = .ok lookup) :
    Pipeline.run (partStore.databases.documents "app")
      (partStore.databases.documents "app" "parts") lookup = .ok innerParts := by
  cases h
  rfl

/-- A plan that joins, projects and sorts the parts, step by step. -/
theorem exists_fetch_wholes [Host] {p : Plan} {lookup rows sorted : List Document}
    {projection order : Document} (hlookup : Plan.lookupStages wholes = .ok lookup)
    (hcommand : singleCommand p = .ok (.aggregate "parts" (lookup ++
      [[("$project", .document projection)]] ++ [[("$sort", .document order)]])))
    (hrows : innerParts.mapM (·.project projection) = .ok rows)
    (hsorted : Document.sort rows order = .ok sorted) :
    ∃ c r, singleCommand p = .ok c ∧
      Ends (fetch store "app" c) { store := partStore } (.ok sorted) r := by
  have hrun : Pipeline.run (partStore.databases.documents "app")
      (partStore.databases.documents "app" "parts") (lookup ++
        [[("$project", .document projection)]] ++ [[("$sort", .document order)]]) = .ok sorted := by
    rw [Pipeline.run_append, Pipeline.run_project_eq_ok.mpr ⟨_, run_wholes hlookup, hrows⟩,
      Except.ok_bind, Pipeline.run_sort, hsorted]
  obtain ⟨r, hfetch⟩ := exists_fetch_of_run (r := { store := partStore }) reachable_partStore
    (show 1 < 2 ^ 63 by decide) ⟨rfl, rfl⟩ hrun
  exact ⟨_, r, hcommand, hfetch⟩

/-- The labels by the sizes of the wholes, and backwards where these are the same. -/
def byWhole : Select :=
  { collection := "parts", columns := [.named "label", .joined "size"], joins := [wholes],
    orderBy := some [⟨.joined "size", true⟩, ⟨.named "label", false⟩] }

/-- The results: a label beside the size of a whole. -/
def wholeRows : List Document :=
  [[("label", .string "d"), ("join_parts", .document [("size", .int 4)])],
    [("label", .string "c"), ("join_parts", .document [("size", .int 9)])],
    [("label", .string "b"), ("join_parts", .document [("size", .int 9)])]]

theorem fetch_join_order_wholes :
    ∃ p c r projection arranged, Plan.ofSelect byWhole = .ok p ∧ singleCommand p = .ok c ∧
      Ends (fetch store "app" c) { store := partStore } (.ok wholeRows) r ∧
      projectionOf (.ofJoin (some wholes)) byWhole.columns = .ok projection ∧
      Document.Arranges [("join_parts.size", false), ("label", true)] innerParts arranged ∧
      arranged.mapM (·.project projection) = .ok wholeRows := by
  obtain ⟨p, lookup, projection, order, hplan, hshape, hlookup, hprojection, horder, hplanned⟩ :
      ∃ p lookup projection order, Plan.ofSelect byWhole = .ok p ∧ p.shape = .select .joinOnly ∧
        Plan.lookupStages wholes = .ok lookup ∧
        projectionOf (.ofJoin (some wholes)) byWhole.columns = .ok projection ∧
        sortOf (.ofJoin (some wholes)) (byWhole.orderBy.getD []) = .ok order ∧
        singleCommand p = .ok (.aggregate "parts" (lookup ++
          [[("$project", .document projection)]] ++ [[("$sort", .document order)]])) :=
    ⟨_, _, _, _, rfl, rfl, rfl, rfl, rfl, rfl⟩
  have hprojected : innerParts.mapM (·.project projection) = .ok wholeRows.reverse := by
    cases hprojection
    rfl
  have hsorted : Document.sort wholeRows.reverse order = .ok wholeRows := by
    cases horder
    rfl
  obtain ⟨c, r, hcommand, hfetch⟩ := exists_fetch_wholes hlookup hplanned hprojected hsorted
  obtain ⟨stages, filter, spec, joined, projected, hstages, hfilter, hspec, hjoined, -, -, -, -,
    hshown, -⟩ := @fetch_join_order _ byWhole p c hplan hshape hcommand wholes rfl _ rfl rfl
      [("join_parts.size", false), ("label", true)] rfl (by decide) { store := partStore } r
      reachable_partStore (by decide) "app" _ hfetch
  cases hfilter
  obtain rfl : innerParts = joined := Except.ok.inj ((run_wholes hstages).symm.trans hjoined)
  have hmatched : innerParts.filter (Document.accepts []) = innerParts := rfl
  rw [Option.getD_none, hmatched] at hshown
  have hexact : ∀ d ∈ innerParts, ∀ key ∈ [("join_parts.size", false), ("label", true)],
      ∀ v ∈ d.getPath? key.1, v.Exact := by decide +kernel
  have hlabel : Shows (.ofJoin (some wholes)) byWhole.columns "label" := by
    refine .column ⟨_, List.mem_cons_self, rfl, rfl, rfl⟩ ?_ (by decide) (by decide)
    refine List.forall_mem_cons.mpr ⟨fun _ => .inl ⟨rfl, rfl⟩, List.forall_mem_singleton.mpr ?_⟩
    exact fun _ => .inr (.of_output rfl (by decide))
  have hsize : Shows (.ofJoin (some wholes)) byWhole.columns "join_parts.size" := by
    refine .column ⟨_, List.mem_cons_of_mem _ List.mem_cons_self, rfl, rfl, rfl⟩ ?_ (by decide)
      (by decide)
    refine List.forall_mem_cons.mpr ⟨fun _ => .inr (.of_output rfl (by decide)), ?_⟩
    exact List.forall_mem_singleton.mpr fun _ => .inl ⟨rfl, rfl⟩
  obtain ⟨arranged, harranges, hrows⟩ := hshown hexact
    (List.forall_mem_cons.mpr ⟨hsize, List.forall_mem_singleton.mpr hlabel⟩)
  exact ⟨p, c, r, spec, arranged, hplan, hcommand, hfetch, hspec, harranges, hrows⟩

/-- The labels by the sizes, which are not selected. -/
def bySize : Select :=
  { collection := "parts", columns := [.named "label"], joins := [wholes],
    orderBy := some [⟨.named "size", true⟩] }

/-- The labels as the parts were joined. -/
def labelRows : List Document :=
  [[("label", .string "b")], [("label", .string "c")], [("label", .string "d")]]

/-- By a column that is not selected the results come as they were joined, and that is no order of
the column. -/
theorem fetch_join_order_unselected :
    ∃ p c r lookup projection, Plan.ofSelect bySize = .ok p ∧ p.shape = .select .joinOnly ∧
      singleCommand p = .ok c ∧
      Ends (fetch store "app" c) { store := partStore } (.ok labelRows) r ∧
      Plan.lookupStages wholes = .ok lookup ∧
      Pipeline.run (partStore.databases.documents "app")
        (partStore.databases.documents "app" "parts") lookup = .ok innerParts ∧
      projectionOf (.ofJoin (some wholes)) bySize.columns = .ok projection ∧
      ¬ ∃ arranged, Document.Arranges [("size", false)] innerParts arranged ∧
        arranged.mapM (·.project projection) = .ok labelRows := by
  obtain ⟨p, lookup, projection, order, hplan, hshape, hlookup, hprojection, horder, hplanned⟩ :
      ∃ p lookup projection order, Plan.ofSelect bySize = .ok p ∧ p.shape = .select .joinOnly ∧
        Plan.lookupStages wholes = .ok lookup ∧
        projectionOf (.ofJoin (some wholes)) bySize.columns = .ok projection ∧
        sortOf (.ofJoin (some wholes)) (bySize.orderBy.getD []) = .ok order ∧
        singleCommand p = .ok (.aggregate "parts" (lookup ++
          [[("$project", .document projection)]] ++ [[("$sort", .document order)]])) :=
    ⟨_, _, _, _, rfl, rfl, rfl, rfl, rfl, rfl⟩
  have hprojected : innerParts.mapM (·.project projection) = .ok labelRows := by
    cases hprojection
    rfl
  have hsorted : Document.sort labelRows order = .ok labelRows := by
    cases horder
    rfl
  obtain ⟨c, r, hcommand, hfetch⟩ := exists_fetch_wholes hlookup hplanned hprojected hsorted
  refine ⟨p, c, r, lookup, projection, hplan, hshape, hcommand, hfetch, hlookup, run_wholes hlookup,
    hprojection, ?_⟩
  rintro ⟨arranged, harranges, hrows⟩
  have hlabel : Shows (.ofJoin (some wholes)) bySize.columns "label" :=
    .column ⟨_, List.mem_cons_self, rfl, rfl, rfl⟩
      (List.forall_mem_singleton.mpr fun _ => .inl ⟨rfl, rfl⟩) (by decide) (by decide)
  -- by size no part called b comes before one called c, as it does here
  have hbigger : ∀ x ∈ innerParts, ∀ y ∈ innerParts,
      (x.getPath? "label").bind Value.string? = some "b" →
      (y.getPath? "label").bind Value.string? = some "c" →
        (Document.orderBy [("size", false)] x y).isLE = false := by decide +kernel
  obtain ⟨x, y, z, rfl⟩ := List.length_eq_three.mp harranges.perm.length_eq
  obtain ⟨first, rows, hx, hrows, hrow⟩ := Except.mapM_cons_eq_ok.mp hrows
  cases hrow
  obtain ⟨second, rows, hy, hrows, hrow⟩ := Except.mapM_cons_eq_ok.mp hrows
  cases hrow
  have hmem := harranges.perm.subset
  have hxlabel := getPath?_of_shows hprojection hx hlabel
  have hylabel := getPath?_of_shows hprojection hy hlabel
  have hprecedes : Document.Precedes [("size", false)] x y :=
    (List.pairwise_cons.mp harranges.ordered).1 y List.mem_cons_self
  have hnot := hbigger x (hmem List.mem_cons_self) y
    (hmem (List.mem_cons_of_mem x List.mem_cons_self)) (by rw [← hxlabel]; rfl)
    (by rw [← hylabel]; rfl)
  rw [Document.Precedes, hnot] at hprecedes
  cases hprecedes

end Gateway

end SqlGateway
