import SqlGateway.Proofs.Execution.Groups
import SqlGateway.Proofs.Plan.Rows
import SqlGateway.Proofs.Plan.Showing
import SqlGateway.Proofs.Store.Extremum

/-! Rows beside a MAX or MIN. The documents of a grouping are sorted so that the first document of a
group should be one that has the extremum; the row shows that document. A missing or null value is
sorted like any other one but is no extremum, so where it comes first the row shows a document that
has none. -/

namespace SqlGateway

attribute [local instance] Host.universal

/-! ### Sorting before groups -/

/-- How a value is ordered to others that is to be preferred. -/
def Aggregation.wanted (f : Aggregation) : Ordering := if f = .max then .gt else .lt

theorem Aggregation.wanted_cases (f : Aggregation) : f.wanted = .lt ∨ f.wanted = .gt := by
  cases f <;> decide

/-- Whether a column is the first MAX or MIN of a select list. -/
structure Select.Leading (q : Select) (m : Column) (f : Aggregation) : Prop where
  first : q.columns.find? (fun c => c.aggregation == some .max || c.aggregation == some .min) =
    some m
  aggregation : m.aggregation = some f

namespace Select.Leading

variable {q : Select} {m : Column} {f : Aggregation} (h : q.Leading m f)

include h

theorem mem : m ∈ q.columns := List.mem_of_find?_eq_some h.first

theorem max_or_min : f = .max ∨ f = .min := by
  have hfound := List.find?_some h.first
  simpa [h.aggregation] using hfound

/-- Documents are sorted by the column, with what is preferred at the beginning. -/
theorem pairwise_of_run [Host] {source : Pipeline.Source} {docs arranged : List Document}
    (hexact : ∀ d ∈ docs, ∀ v ∈ d.getPath? m.name, v.Exact)
    (hrun : Pipeline.run source docs (Plan.extremumStages q) = .ok arranged) :
    arranged.Pairwise (Document.Leads m.name f.wanted) := by
  have hstages : Plan.extremumStages q =
      [[("$sort", .document [(m.name, .int (if f = .max then -1 else 1))])]] := by
    rw [Plan.extremumStages, h.first]
    simp only [h.aggregation, Option.some.injEq]
  have hkeys : Document.sortKeys [(m.name, .int (if f = .max then -1 else 1))] =
      .ok [(m.name, decide (f = .max))] := by
    rcases h.max_or_min with rfl | rfl <;> rfl
  rw [hstages, Pipeline.run_sort] at hrun
  have hconsistent : Document.Consistent [(m.name, decide (f = .max))] docs :=
    Document.consistent_of_exact fun d hd key hkey => by
      rw [List.mem_singleton.mp hkey]
      exact hexact d hd
  refine (Document.arranges_of_sort hkeys hconsistent hrun).ordered.imp fun hprecedes => ?_
  simpa only [Aggregation.wanted, decide_eq_true_iff] using Document.leads_of_precedes hprecedes

/-- What is accumulated over a sorted group is its first value that is not absent. -/
theorem exists_accumulated (hundollared : m.name.toList.head? ≠ some '$') :
    ∃ kind, AccumulatorKind.ofName? f.accumulator = some kind ∧
      ∀ group : List Document, group.Pairwise (Document.Leads m.name f.wanted) →
        (Group.accumulate Group.taken group
          ⟨aggregatedName f m.name, kind, .string ("$" ++ m.name)⟩).finish =
            (group.findSome? (·.heldAt m.name)).getD .null := by
  have htaken (kind : AccumulatorKind) : Group.taken ⟨aggregatedName f m.name, kind,
      .string ("$" ++ m.name)⟩ = (·.getPath? m.name) := by
    funext d
    exact Expression.value?_of_evaluate (Expression.evaluate_path hundollared d)
  rcases h.max_or_min with rfl | rfl
  · refine ⟨.max, rfl, fun group hgroup => ?_⟩
    rw [Group.accumulate, htaken]
    exact congrArg Accumulator.finish (Document.foldl_accept_of_sorted hgroup)
  · refine ⟨.min, rfl, fun group hgroup => ?_⟩
    rw [Group.accumulate, htaken]
    exact congrArg Accumulator.finish (Document.foldl_accept_of_sorted hgroup)

end Select.Leading

/-! ### Rows of groups -/

/-- Whether no aggregate of a select list is called as the first part of a path. -/
def Select.Spares (q : Select) (path : String) : Prop :=
  ∀ c ∈ q.columns, ∀ f, c.aggregation = some f →
    (pathSegments path).head? ≠ some (aggregatedName f c.name)

/-- Whether a row holds of a document what a select list renders of it. -/
def Select.RowOf (q : Select) (d row : Document) : Prop :=
  ∀ path output, Renders .plain q.columns path output → q.Spares path →
    row.getPath? output = d.getPath? path

/-- Whether a row holds a value wherever a select list renders a field. -/
def Select.Reports (q : Select) (field : String) (v : Value) (row : Document) : Prop :=
  ∀ output, Renders .plain q.columns field output → row.getPath? output = some v

theorem Plan.Overlays.getPath? {q : Select} {lead root : Document} {part : List Document}
    (h : Overlays q.columns lead part root) {path : String} (hpath : q.Spares path) :
    root.getPath? path = lead.getPath? path := by
  obtain ⟨s, ss, hsegments⟩ := List.exists_cons_of_ne_nil (pathSegments_ne_nil path)
  rw [Document.getPath?, Document.getPath?, hsegments]
  refine Document.getSegments?_congr (h.lead s fun c hc f hf heq => ?_) ss
  exact hpath c hc f hf (by rw [hsegments, List.head?_cons, heq])

/-- Of a group in which some document holds a value, the row reports the extremum. -/
theorem Select.Leading.exists_furthest {q : Select} {m : Column} {f : Aggregation}
    (hm : q.Leading m f) (hdotless : '.' ∉ m.name.toList)
    (hundollared : m.name.toList.head? ≠ some '$') {lead root row projection : Document}
    {group : List Document} (hroot : Plan.Overlays q.columns lead group root)
    (hprojection : projectionOf .plain q.columns = .ok projection)
    (hproject : root.project projection = .ok row)
    (hordered : group.Pairwise (Document.Leads m.name f.wanted))
    (hheld : ∃ d ∈ group, d.heldAt m.name ≠ none) :
    ∃ v, group.findSome? (·.heldAt m.name) = some v ∧
      Document.Furthest m.name f.wanted group v ∧ q.Reports (aggregatedName f m.name) v row := by
  obtain ⟨v, hv⟩ : ∃ v, group.findSome? (·.heldAt m.name) = some v := by
    obtain ⟨d, hd, hheld⟩ := hheld
    exact Option.ne_none_iff_exists'.mp fun hnone =>
      hheld (List.findSome?_eq_none_iff.mp hnone d hd)
  have hne : f.wanted ≠ .eq := by rcases f.wanted_cases with h | h <;> rw [h] <;> decide
  refine ⟨v, hv, Document.furthest_of_sorted hne hordered hv, fun output hrenders => ?_⟩
  obtain ⟨kind, hkind, haccumulated⟩ := hm.exists_accumulated hundollared
  have hplain := plainName_aggregatedName hdotless f
  rw [getPath?_of_renders hprojection hproject hrenders,
    Document.getPath?_of_dotless hplain.dotless,
    hroot.aggregate m hm.mem hdotless f hm.aggregation kind hkind, haccumulated group hordered, hv]
  rfl

/-! ### Statements -/

namespace Gateway

open Execution MemoryStore

variable {database : String}

/-- Each row of a grouping with a MAX or MIN shows one document of its group in all its other
columns. Where any document of the group holds a value at the column of the first MAX or MIN, the
row reports the extremum of these values. The document that is shown has it exactly if all documents
of the group hold values, or one of them holds a value that is further than null. -/
theorem fetch_extremum [Host] {q : Select} {p : Plan} {c : Command} (hplan : Plan.ofSelect q = .ok p)
    (hshape : p.shape = .select .grouping) (hcommand : singleCommand p = .ok c)
    (hjoins : q.joins = []) (hwheres : q.wheres = []) (hhaving : q.having = []) {m : Column}
    {f : Aggregation} (hm : q.Leading m f) (hdotless : '.' ∉ m.name.toList)
    (hundollared : m.name.toList.head? ≠ some '$') {r r' : Run MemoryStore}
    (hs : r.store.Reachable) (hroom : r.store.nextCursor < 2 ^ 63) {stored : List Document}
    (hstored : r.store.databases.documents database q.collection = stored)
    (hdistinct : ∀ d ∈ stored, (Fields.keys d).Nodup)
    (hexact : ∀ d ∈ stored, ∀ v ∈ d.getPath? m.name, v.Exact) {docs : List Document}
    (h : Ends (fetch store database c) r (.ok docs) r') :
    ∃ key stages arranged rows, Plan.groupKey .plain q.groupBy = .ok key ∧
      Plan.groupStages .plain q = .ok stages ∧ arranged.Perm stored ∧ docs.Subperm rows ∧
      (q.limit = none → docs.Perm rows) ∧
      List.Forall₂ (fun group row =>
        Pipeline.run (r.store.databases.documents database) group stages = .ok [row] ∧
        ∃ lead ∈ group, q.RowOf lead row ∧
          ((∃ d ∈ group, d.heldAt m.name ≠ none) →
            ∃ v, Document.Furthest m.name f.wanted group v ∧
              q.Reports (aggregatedName f m.name) v row ∧
              ((lead.valueAt m.name).equal v = true ↔
                (∀ d ∈ group, d.heldAt m.name ≠ none) ∨
                  ∃ d ∈ group, ∃ w, d.heldAt m.name = some w ∧ w.order .null = f.wanted)))
        (Group.split (Group.sameKey key) arranged) rows := by
  obtain ⟨stages, arranged, rows, hstages, harranged, hrows, hsome, hall⟩ :=
    run_of_fetch_grouping hplan hshape hcommand hjoins hwheres hhaving hs hroom h
  obtain ⟨key, accs, projection, hkey, haccs, hprojection, rfl⟩ :=
    Plan.groupStages_eq_ok.mp hstages
  rw [hstored] at harranged
  have hperm := Pipeline.perm_of_run_extremumStages harranged
  have hsorted := hm.pairwise_of_run hexact harranged
  have hsplits := Group.splits_split (Group.sameKey key) arranged
  have hgroups := Pipeline.forall₂_of_run_rowStages (Plan.get?_groupSpec_identity haccs) hrows
  refine ⟨key, _, arranged, rows, hkey, hstages, hperm, hsome, hall, ?_⟩
  refine hgroups.imp_of_mem fun group hgroup row hrun => ⟨hrun, ?_⟩
  have halone := Group.split_of_mem hgroup
  have hordered := hsorted.sublist (hsplits.ordered group hgroup)
  have hmem := (hsplits.ordered group hgroup).subset
  obtain ⟨lead, rest, rfl, -⟩ := hsplits.alike group hgroup
  have hlead := hdistinct lead (hperm.subset (hmem List.mem_cons_self))
  obtain ⟨root, hroot, hproject⟩ := Plan.exists_overlays_of_run haccs hlead halone hrun
  refine ⟨lead, List.mem_cons_self, fun path output hrenders hspares => ?_, fun hheld => ?_⟩
  · rw [getPath?_of_renders hprojection hproject hrenders, hroot.getPath? hspares]
  · obtain ⟨v, hv, hfurthest, hreports⟩ := hm.exists_furthest hdotless hundollared hroot
      hprojection hproject hordered hheld
    exact ⟨v, hfurthest, hreports, Document.lead_holds_iff f.wanted_cases hordered hv⟩

/-- The greatest or least amount of each department, and who has it. -/
def amountOf (f : Aggregation) : Select :=
  { collection := "sales", columns := [.named "dept", .named "who", .aggregated f "amt"],
    groupBy := [.named "dept"] }

theorem leading_amountOf {f : Aggregation} (h : f = .max ∨ f = .min) :
    (amountOf f).Leading (.aggregated f "amt") f := by
  rcases h with rfl | rfl <;> exact ⟨rfl, rfl⟩

/-- Sales that all have amounts. -/
def amounts : List Document :=
  [[("_id", .int 1), ("dept", .string "A"), ("who", .string "x"), ("amt", .int 10)],
    [("_id", .int 2), ("dept", .string "A"), ("who", .string "y"), ("amt", .int 30)],
    [("_id", .int 3), ("dept", .string "B"), ("who", .string "z"), ("amt", .int 5)]]

/-- The greatest of them. -/
def greatestRows : List Document :=
  [[("dept", .string "A"), ("who", .string "y"), ("MAX_amt", .int 30)],
    [("dept", .string "B"), ("who", .string "z"), ("MAX_amt", .int 5)]]

theorem fetch_extremum_amounts :
    ∃ p c r key arranged rows, Plan.ofSelect (amountOf .max) = .ok p ∧ singleCommand p = .ok c ∧
      Ends (fetch store "app" c) { store := .holding "sales" amounts } (.ok greatestRows) r ∧
      Plan.groupKey .plain (amountOf .max).groupBy = .ok key ∧ arranged.Perm amounts ∧
      greatestRows.Perm rows ∧
      List.Forall₂ (fun group (row : Document) => ∃ lead ∈ group,
        row.getPath? "who" = Document.getPath? lead "who" ∧
        ∃ v, row.getPath? "MAX_amt" = some v ∧ (lead.valueAt "amt").equal v = true)
        (Group.split (Group.sameKey key) arranged) rows := by
  obtain ⟨p, c, r, hplan, hshape, hcommand, hfetch⟩ : ∃ p c r,
      Plan.ofSelect (amountOf .max) = .ok p ∧ p.shape = .select .grouping ∧
      singleCommand p = .ok c ∧
      Ends (fetch store "app" c) { store := .holding "sales" amounts } (.ok greatestRows) r :=
    ⟨_, _, _, rfl, rfl, rfl, rfl⟩
  have hstored : (MemoryStore.holding "sales" amounts).databases.documents "app" "sales" =
      amounts := rfl
  have hexact : ∀ d ∈ amounts, ∀ v ∈ d.getPath? "amt", v.Exact := by decide +kernel
  obtain ⟨key, stages, arranged, rows, hkey, -, hperm, -, hall, hrows⟩ :=
    fetch_extremum hplan hshape hcommand rfl rfl rfl (leading_amountOf (.inl rfl)) (by decide)
      (by decide) (MemoryStore.reachable_holding "sales" amounts) (by decide) hstored (by decide)
      hexact hfetch
  refine ⟨p, c, r, key, arranged, rows, hplan, hcommand, hfetch, hkey, hperm, hall rfl, ?_⟩
  have hwho : Renders .plain (amountOf .max).columns "who" "who" := {
    selected := ⟨_, List.mem_cons_of_mem _ List.mem_cons_self, rfl, rfl, rfl⟩
    others := List.forall_mem_cons.mpr ⟨fun _ => .inr (.of_output rfl (by decide)),
      List.forall_mem_cons.mpr ⟨fun _ => .inl ⟨rfl, rfl⟩,
        List.forall_mem_singleton.mpr fun _ => .inr (.of_output rfl (by decide))⟩⟩
    output_ne := by decide
    undollared := by decide }
  have hamount : Renders .plain (amountOf .max).columns "MAX_amt" "MAX_amt" := {
    selected := ⟨_, List.mem_cons_of_mem _ (List.mem_cons_of_mem _ List.mem_cons_self), rfl, rfl,
      rfl⟩
    others := List.forall_mem_cons.mpr ⟨fun _ => .inr (.of_output rfl (by decide)),
      List.forall_mem_cons.mpr ⟨fun _ => .inr (.of_output rfl (by decide)),
        List.forall_mem_singleton.mpr fun _ => .inl ⟨rfl, rfl⟩⟩⟩
    output_ne := by decide
    undollared := by decide }
  have hspares : (amountOf .max).Spares "who" := by
    refine List.forall_mem_cons.mpr ⟨nofun, List.forall_mem_cons.mpr ⟨nofun, ?_⟩⟩
    refine List.forall_mem_singleton.mpr fun f hf => ?_
    cases hf
    decide
  have hheld : ∀ d ∈ amounts, d.heldAt "amt" ≠ none := by
    have hsome : ∀ d ∈ amounts, (d.heldAt "amt").isSome = true := by decide +kernel
    exact fun d hd => Option.isSome_iff_ne_none.mp (hsome d hd)
  refine hrows.imp_of_mem ?_
  rintro group hgroup row ⟨-, lead, hlead, hrow, hreport⟩
  have hmem (d : Document) (hd : d ∈ group) : d ∈ amounts :=
    hperm.subset (((Group.splits_split _ arranged).ordered group hgroup).subset hd)
  obtain ⟨v, -, hreports, hequal⟩ := hreport ⟨lead, hlead, hheld lead (hmem lead hlead)⟩
  exact ⟨lead, hlead, hrow "who" "who" hwho hspares, v, hreports "MAX_amt" hamount,
    hequal.mpr (.inl fun d hd => hheld d (hmem d hd))⟩

/-- Sales of one department, one of them without an amount. -/
def sparseAmounts : List Document :=
  [[("_id", .int 1), ("dept", .string "A"), ("who", .string "x")],
    [("_id", .int 2), ("dept", .string "A"), ("who", .string "y"), ("amt", .int 10)]]

/-- The least amount stands beside the one who has none. -/
theorem fetch_extremum_sparse :
    ∃ p c r, Plan.ofSelect (amountOf .min) = .ok p ∧ p.shape = .select .grouping ∧
      singleCommand p = .ok c ∧ (amountOf .min).Leading (.aggregated .min "amt") .min ∧
      Ends (fetch store "app" c) { store := .holding "sales" sparseAmounts }
        (.ok [[("dept", .string "A"), ("who", .string "x"), ("MIN_amt", .int 10)]]) r ∧
      (∃ d ∈ sparseAmounts, d.heldAt "amt" ≠ none) ∧
      ∀ d ∈ sparseAmounts, (d.valueAt "amt").equal (.int 10) = true →
        (d.getPath? "who").bind Value.string? ≠ some "x" := by
  refine ⟨_, _, _, rfl, rfl, rfl, leading_amountOf (.inr rfl), rfl, ?_, by decide +kernel⟩
  exact ⟨_, List.mem_cons_of_mem _ List.mem_cons_self, nofun⟩

end Gateway

end SqlGateway
