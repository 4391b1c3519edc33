import SqlGateway.Proofs.Execution.ColumnTypes
import SqlGateway.Proofs.Execution.Groups
import SqlGateway.Proofs.Plan.Rows
import SqlGateway.Proofs.Plan.Showing
import SqlGateway.Proofs.Row.Columns
import SqlGateway.Proofs.Store.Counting

/-! The cells of a COUNT. A group collects the different values of a column as a set, the projection
takes its size, and the row reads that size under the type that was found for the column itself. So
the cell counts the values, but values of a column of doubles or decimals are counted in doubles or
decimals. -/

namespace SqlGateway

attribute [local instance] Host.universal

/-! ### Sets of a group -/

/-- Whether documents hold a number of different values at a path: so many represent what they hold,
and no other number does if that is exact. -/
structure Document.HoldDifferent (path : String) (docs : List Document) (n : Nat) : Prop where
  represented : ∃ values, Value.Represent values (docs.filterMap (·.getPath? path)) ∧
    values.length = n
  only : (∀ d ∈ docs, ∀ v ∈ d.getPath? path, v.Exact) → ∀ values,
    Value.Represent values (docs.filterMap (·.getPath? path)) → values.length = n

theorem Expression.evaluate_size {root : Document} {s : String} {items : List Value}
    (h : evaluate root (.string s) = .ok (some (.array items))) :
    evaluate root (.document [("$size", .string s)]) = .ok (some (.ofInt32 items.length)) := by
  have hsize : evaluate root (.document [("$size", .string s)]) =
      apply "$size" (.string s) [evaluate root (.string s)] := rfl
  rw [hsize, h]
  rfl

theorem stripAggregation_aggregatedName (f : Aggregation) {name : String} (h : name ≠ "") :
    stripAggregation (aggregatedName f name) = name := by
  obtain ⟨c, cs, hname⟩ : ∃ c cs, name.toList = c :: cs :=
    List.exists_cons_of_ne_nil fun hnil => h (String.toList_eq_nil_iff.mp hnil)
  rw [stripAggregation]
  simp only [toList_aggregatedName, hname]
  have hwhole : String.ofList (c :: cs) = name := hname ▸ String.ofList_toList
  cases f <;> exact hwhole

theorem columnExpression_count {names : Naming} {c : Column} (hcount : c.aggregation = some .count)
    {field : String} (hfield : names.field c = .ok field) :
    columnExpression names c =
      .ok (.document [("$size", .string ("$" ++ aggregatedName .count c.name))]) := by
  rw [columnExpression, hfield, Naming.field_aggregated hcount hfield, hcount]
  rfl

/-- What reads the size of a set reads it in its own field. -/
theorem field_of_columnExpression {names : Naming} {c : Column} {name field : String}
    (hname : names.field c = .ok name)
    (h : columnExpression names c = .ok (.document [("$size", .string ("$" ++ field))])) :
    name = field := by
  rw [columnExpression, hname, Except.ok_bind] at h
  split at h
  · have hpaths : "$" ++ name = "$" ++ field := by simpa using Except.ok.inj h
    rw [← String.toList_inj, Expression.toList_dollar, Expression.toList_dollar] at hpaths
    exact String.toList_inj.mp (List.cons.inj hpaths).2
  · cases h

section

variable {columns : List Column} {lead root : Document} {part : List Document} {c : Column}
  (hcount : c.aggregation = some .count) (hdotless : '.' ∉ c.name.toList)
  (hundollared : c.name.toList.head? ≠ some '$')

include hcount hdotless hundollared

/-- The set of a count stands in the document from which a row is projected. -/
theorem Plan.Overlays.get?_set (h : Overlays columns lead part root) (hc : c ∈ columns) :
    root.get? (aggregatedName .count c.name) =
      some (.array (Databases.distinctValues (part.filterMap (·.getPath? c.name)))) := by
  have htaken : Group.taken ⟨aggregatedName .count c.name, .addToSet, .string ("$" ++ c.name)⟩ =
      (·.getPath? c.name) := by
    funext d
    exact Expression.value?_of_evaluate (Expression.evaluate_path hundollared d)
  rw [h.aggregate c hc hdotless .count hcount .addToSet rfl, Group.accumulate, htaken]
  exact congrArg (fun a => some (Accumulator.finish a)) (Value.foldl_accept c.name part [])

/-- It has as many items as the documents of the group hold different values. -/
theorem Plan.Overlays.exists_set (h : Overlays columns lead part root) (hc : c ∈ columns) :
    ∃ items, root.get? (aggregatedName .count c.name) = some (.array items) ∧
      Document.HoldDifferent c.name part items.length := by
  have hrepresent := Value.represent_distinctValues (part.filterMap (·.getPath? c.name))
  refine ⟨_, h.get?_set hcount hdotless hundollared hc, ⟨_, hrepresent, rfl⟩,
    fun hexact values hvalues => ?_⟩
  refine Value.Represent.length_eq (fun v hv => ?_) hvalues hrepresent
  obtain ⟨d, hd, hheld⟩ := List.mem_filterMap.mp hv
  exact hexact d hd v hheld

/-- A row holds the size of the set, read under the type of its column. -/
theorem Column.StandsAt.exists_cell [Host] {output : String} (hc : c.StandsAt .plain columns output)
    (hid : (pathSegments output).head? ≠ some idField) {projection d : Document} {types : TypeMap}
    {row : Row} (hroot : Plan.Overlays columns lead part root)
    (hprojection : projectionOf .plain columns = .ok projection)
    (hproject : root.project projection = .ok d) (hrow : Row.ofDocument types none d = .ok row) :
    ∃ n, Document.HoldDifferent c.name part n ∧
      row.get? output = some (.ofInt32 ((types.get? output).getD .missing) (.ofInt n)) := by
  obtain ⟨items, hitems, hdifferent⟩ :=
    hroot.exists_set hcount hdotless hundollared hc.mem
  refine ⟨items.length, hdifferent, ?_⟩
  have hplain := plainName_aggregatedName hdotless .count
  obtain ⟨field, hfield, -⟩ := Except.bind_eq_ok.mp hc.called
  have hread : Expression.evaluate root (.string ("$" ++ aggregatedName .count c.name)) =
      .ok (some (.array items)) := by
    rw [Expression.evaluate_field hplain, hitems]
  have hvalue := getPath?_of_standsAt hprojection hproject hc (columnExpression_count hcount hfield)
    (Expression.evaluate_size hread)
  -- a name with a dot would make a document of its first field, and no row holds one
  have hget := Document.get?_of_getPath? hvalue fun e he hhead =>
    Row.scalar_of_ofDocument hrow he fun heq => hid (heq ▸ hhead)
  have hdistinct := Document.nodup_keys_project (get?_projectionOf hprojection)
    (isExclusion_projectionOf hprojection hc.mem hc.named hc.called hc.output_ne) hproject
  have hne : output ≠ idField := hc.output_ne
  obtain ⟨cell, hcell, hrow⟩ := Row.get?_ofDocument hrow hdistinct hne hget
  have hdecoded : Row.cellOf types output (.ofInt32 items.length) =
      .ok (.ofInt32 ((types.get? output).getD .missing) (.ofInt items.length)) :=
    Cell.decode_int _ _ _
  rw [hrow, Except.ok.inj (hdecoded.symm.trans hcell)]

end

/-! ### Types of counts -/

/-- What is asked for a count that has a name in the result. -/
def Plan.probeOfCount (c : Column) (output : String) : ProbeColumn :=
  ⟨output, stripAggregation (aggregatedName .count c.name), false⟩

/-- What the type of a count is: that of the field that is answered for under the key of its column,
and so that of the column if no other field is asked for under its key. -/
structure Typing.TypedCount (first : Document) (sources : List String) (types : TypeMap)
    (c : Column) (output : String) : Prop where
  answered : Answers first sources types (Plan.probeOfCount c output)
  own : c.name ≠ "" → (∀ s ∈ sources, probeKey s = probeKey c.name → s = c.name) →
    types.get? output = some (.ofField (first.getPath? c.name))

theorem Typing.Answers.typedCount {first : Document} {sources : List String} {types : TypeMap}
    {c : Column} {output : String} (hundollared : c.name.toList.head? ≠ some '$')
    (h : Answers first sources types (Plan.probeOfCount c output)) :
    TypedCount first sources types c output where
  answered := h
  own hname halone := by
    have hsource : (Plan.probeOfCount c output).source = c.name :=
      stripAggregation_aggregatedName .count hname
    rw [← hsource] at hundollared halone
    exact hsource ▸ h.own hundollared halone

theorem Plan.mem_namedColumns {q : Select} {c : Column} :
    c ∈ namedColumns q ↔ c ∈ q.columns ∧ c.isWildcard = false := by
  rw [namedColumns, List.mem_filter, Bool.not_eq_true']

section

variable {q : Select} {c : Column} {output : String} {target : ProbeTarget}
  (hc : c.StandsAt .plain q.columns output)
  (htarget : Plan.probeTarget .plain none q = .ok target)

include hc htarget

/-- All that is asked for under the name of a count is asked for at its column. -/
theorem Column.StandsAt.asked (hcount : c.aggregation = some .count) :
    Plan.probeOfCount c output ∈ target.columns ∧ ∀ other ∈ target.columns,
      other.key = output → other.source = (Plan.probeOfCount c output).source := by
  have hcolumns := (Plan.mem_probeTarget htarget).2
  obtain ⟨field, hfield, houtput⟩ := Except.bind_eq_ok.mp hc.called
  obtain rfl : c.asName.getD field = output := Except.ok.inj houtput
  have hnamed := Plan.mem_namedColumns.mpr ⟨hc.mem, hc.named⟩
  refine ⟨(hcolumns _).mpr ⟨c, hnamed, field, hfield, ?_⟩, fun p hp hkey => ?_⟩
  · rw [Plan.probeOfCount, Naming.field_aggregated hcount hfield]
  · obtain ⟨other, hother, name, hname, rfl⟩ := (hcolumns p).mp hp
    obtain ⟨hother, hnamed⟩ := Plan.mem_namedColumns.mp hother
    have hcalled : Naming.plain.output other = .ok (c.asName.getD field) := by
      rw [Naming.output, hname]
      exact congrArg Except.ok hkey
    rcases hc.others other hother hnamed with ⟨-, hsame⟩ | hoff
    · rw [columnExpression_count hcount hfield] at hsame
      rw [field_of_columnExpression hname hsame]
      rfl
    · rcases hoff _ hcalled with hid | hapart
      · exact absurd hid hc.output_ne
      · exact absurd List.prefix_rfl hapart.outside

/-- For a document that has become a row nothing is asked for but the columns. -/
theorem Column.StandsAt.probedColumns_eq [Host] {projection root d : Document} {types : TypeMap}
    {row : Row} (hprojection : projectionOf .plain q.columns = .ok projection)
    (hproject : root.project projection = .ok d) (hrow : Row.ofDocument types none d = .ok row) :
    Typing.probedColumns target d = target.columns := by
  obtain ⟨htarget, hcolumns⟩ := Plan.mem_probeTarget htarget
  rw [htarget]
  refine Typing.probedColumns_of_keys fun e he hid => ?_
  obtain ⟨other, hother, hnamed, path, hpath, hleads⟩ :=
    exists_column_of_mem_result hprojection hproject hc.mem hc.named hc.called hc.output_ne he
  have hcalled : path = e.1 := by
    refine hleads.whole.resolve_right fun hinner => ?_
    obtain ⟨inner, hinner⟩ := hinner
    exact Row.scalar_of_ofDocument hrow he hid inner hinner
  obtain ⟨field, hfield, houtput⟩ := Except.bind_eq_ok.mp hpath
  refine List.mem_map.mpr ⟨_, (hcolumns _).mpr ⟨other,
    Plan.mem_namedColumns.mpr ⟨hother, hnamed⟩, field, hfield, rfl⟩, ?_⟩
  rw [← hcalled]
  exact Except.ok.inj houtput

end

/-! ### Statements -/

namespace Gateway

open Execution MemoryStore

variable {database : String} {q : Select} {c : Column} {output : String}

/-- The type of a count is that of the field that is answered for. -/
theorem answers_of_infer [Host] (hcount : c.aggregation = some .count)
    (hc : c.StandsAt .plain q.columns output) {target : ProbeTarget}
    (htarget : Plan.probeTarget .plain none q = .ok target) {sample : Document}
    (hasked : Typing.probedColumns target sample = target.columns) {r r' : Run MemoryStore}
    {types : TypeMap}
    (h : Ends (Typing.infer (fetch store database) target sample) r (.ok types) r')
    (hs : r.store.Sound) (hroom : r.store.nextCursor < 2 ^ 63) {first : Document}
    {rest : List Document}
    (hstored : r.store.databases.documents database q.collection = first :: rest) :
    Typing.Answers first (Typing.withoutRepeats (target.columns.map (·.source))) types
      (Plan.probeOfCount c output) := by
  obtain ⟨hmem, hsame⟩ := hc.asked htarget hcount
  obtain ⟨htarget, hcolumns⟩ := Plan.mem_probeTarget htarget
  have hunjoined : ∀ p ∈ target.columns, p.joined = false := by
    intro p hp
    obtain ⟨other, -, field, -, rfl⟩ := (hcolumns p).mp hp
    rfl
  rw [← hasked] at hunjoined
  rw [htarget] at h hasked hunjoined
  rw [Typing.infer_unjoined hunjoined, hasked] at h
  exact Typing.answers_of_ends h hs hroom hstored hmem hsame

/-- How a SELECT with an aggregate has gone that has succeeded: each of its documents is made of one
group, and they are read as rows under types that are found while the store is as it was. -/
theorem exists_groups_of_execute [Host] (hjoins : q.joins = []) (hc : c ∈ Plan.namedColumns q)
    (haggregation : c.aggregation.isSome) {s : MemoryStore} (hs : s.Sound)
    (hroom : s.nextCursor + 1 < 2 ^ 63) {id : ObjectId} {autoCommit : Bool} {rows : List Row}
    {r : Run MemoryStore}
    (h : execute store database id (.document (.select q)) autoCommit s = some (.ok rows, r)) :
    ∃ key accs projection target arranged groups docs types,
      Plan.groupKey .plain q.groupBy = .ok key ∧ Plan.accumulators .plain q.columns = .ok accs ∧
      projectionOf .plain q.columns = .ok projection ∧
      Plan.probeTarget .plain none q = .ok target ∧
      arranged.Perm (s.databases.documents database q.collection) ∧
      groups.Subperm (Group.split (Group.sameKey key) arranged) ∧
      (q.wheres = [] → q.having = [] → q.limit = none →
        groups.Perm (Group.split (Group.sameKey key) arranged)) ∧
      List.Forall₂ (fun group d => Pipeline.run (s.databases.documents database) group
        (Plan.rowStages key accs projection) = .ok [d]) groups docs ∧
      Row.ofDocuments types none docs = .ok rows ∧
      ∀ sample rest, docs = sample :: rest → ∃ r r' : Run MemoryStore, r.store.Sound ∧
        r.store.nextCursor < 2 ^ 63 ∧ r.store.databases = s.databases ∧
        Ends (Typing.infer (fetch store database) target sample) r (.ok types) r' := by
  obtain ⟨join, strategy, command, target, r₁, r₂, hselects, hreading, hrun⟩ := ends_select hs h
  obtain rfl : none = join := by
    have hjoin := hselects.joins
    rw [Plan.singleJoin, hjoins] at hjoin
    exact Except.ok.inj hjoin
  obtain rfl : strategy = .grouping :=
    Plan.strategyOf_aggregated hc haggregation hselects.chooses
  have htarget : Plan.probeTarget .plain none q = .ok target := hselects.probes
  have hstrategy (name : String) : Strategy.grouping ≠ .distinct name := by simp
  obtain ⟨docs, r₃, types, hfetch, hdecoded, hinferred⟩ := ends_runSelect_selecting hstrategy hrun
  have hroom₁ : r₁.store.nextCursor + 1 < 2 ^ 63 := by rwa [hreading.nextCursor]
  obtain ⟨key, accs, projection, arranged, groups, hkey, haccs, hprojection, hperm, hgroups, hall,
    hpaired⟩ := exists_groups_of_fetch hselects hjoins hreading.sound (Nat.lt_of_succ_lt hroom₁)
      hfetch
  rw [hreading.databases] at hperm hpaired
  have hjoin : target.join = none := congrArg ProbeTarget.join (Plan.mem_probeTarget htarget).1
  rw [hjoin] at hdecoded
  refine ⟨key, accs, projection, target, arranged, groups, docs, types, hkey, haccs, hprojection,
    htarget, hperm, hgroups, hall, hpaired, hdecoded, fun sample rest hdocs => ?_⟩
  obtain ⟨stages, rfl⟩ := Plan.aggregates_groupingCommand hselects.runs
  obtain ⟨-, next, hle, hnext, rfl⟩ := eq_of_fetch hreading.sound (Nat.lt_of_succ_lt hroom₁)
    (Command.headed_aggregate _ _) rfl hfetch
  obtain ⟨r₄, hinfer⟩ := hinferred sample rest hdocs
  refine ⟨_, r₄, ?_, ?_, ?_, hinfer⟩
  · exact Alike.sound_skip hreading.sound hle
  · exact Nat.lt_of_le_of_lt hnext hroom₁
  · exact hreading.databases

/-- A SELECT with a COUNT that succeeds gives rows of groups of its documents, of all groups if it
has no conditions and no limit. In each row the cell of the COUNT is the number of different values
that the documents of the group hold at the column, read under the type of the count. That is the
type, in the first document of the collection, of the field that is answered for under the name of
the column. -/
theorem execute_count [Host] (hjoins : q.joins = []) (hcount : c.aggregation = some .count)
    (hdotless : '.' ∉ c.name.toList) (hundollared : c.name.toList.head? ≠ some '$')
    (hc : c.StandsAt .plain q.columns output)
    (hid : (pathSegments output).head? ≠ some idField) {s : MemoryStore} (hs : s.Reachable)
    (hroom : s.nextCursor + 1 < 2 ^ 63) {id : ObjectId} {autoCommit : Bool} {rows : List Row}
    {r : Run MemoryStore}
    (h : execute store database id (.document (.select q)) autoCommit s = some (.ok rows, r)) :
    ∃ key stages arranged groups types, Plan.groupKey .plain q.groupBy = .ok key ∧
      Plan.groupStages .plain q = .ok stages ∧
      arranged.Perm (s.databases.documents database q.collection) ∧
      groups.Subperm (Group.split (Group.sameKey key) arranged) ∧
      (q.wheres = [] → q.having = [] → q.limit = none →
        groups.Perm (Group.split (Group.sameKey key) arranged)) ∧
      List.Forall₂ (fun group row =>
        (∃ d, Pipeline.run (s.databases.documents database) group stages = .ok [d] ∧
          Row.ofDocument types none d = .ok row) ∧
        ∃ n, Document.HoldDifferent c.name group n ∧
          row.get? output = some (.ofInt32 ((types.get? output).getD .missing) (.ofInt n)))
        groups rows ∧
      (rows ≠ [] → ∃ first rest target,
        s.databases.documents database q.collection = first :: rest ∧
        Plan.probeTarget .plain none q = .ok target ∧
        Typing.TypedCount first (Typing.withoutRepeats (target.columns.map (·.source))) types c
          output) := by
  obtain ⟨key, accs, projection, target, arranged, groups, docs, types, hkey, haccs, hprojection,
    htarget, hperm, hgroups, hall, hpaired, hdecoded, hinferred⟩ :=
    exists_groups_of_execute hjoins (Plan.mem_namedColumns.mpr ⟨hc.mem, hc.named⟩)
      (by rw [hcount]; rfl) (sound_of_reachable hs) hroom h
  have hdecoded := Except.mapM_eq_ok_iff_forall₂.mp hdecoded
  have hroot (group d) (hgroup : group ∈ groups) (hrun : Pipeline.run
      (s.databases.documents database) group (Plan.rowStages key accs projection) = .ok [d]) :=
    Plan.exists_root_of_mem_split haccs (hgroups.subset hgroup) hrun
  refine ⟨key, _, arranged, groups, types, hkey,
    Plan.groupStages_eq_ok.mpr ⟨key, accs, projection, hkey, haccs, hprojection, rfl⟩, hperm,
    hgroups, hall, ?_, fun hsome => ?_⟩
  · have hrows := List.exists_forall₂_forall₂_iff.mp ⟨docs, hpaired, hdecoded⟩
    refine hrows.imp_of_mem fun group hgroup row ⟨d, hd, hrow⟩ => ?_
    obtain ⟨lead, root, hroot, hproject⟩ := hroot group d hgroup hd
    exact ⟨⟨d, hd, hrow⟩, hc.exists_cell hcount hdotless hundollared hid hroot hprojection
      hproject hrow⟩
  · -- the first row comes of a group that is not empty, and its document was asked for the types
    obtain ⟨row, others, rfl⟩ := List.exists_cons_of_ne_nil hsome
    obtain ⟨sample, rest, hrow, -, rfl⟩ := List.forall₂_cons_right_iff.mp hdecoded
    obtain ⟨group, parts, hgroup, -, rfl⟩ := List.forall₂_cons_right_iff.mp hpaired
    obtain ⟨lead, root, -, hproject⟩ := hroot group sample List.mem_cons_self hgroup
    have hasked := hc.probedColumns_eq htarget hprojection hproject hrow
    obtain ⟨r₁, r₂, hsound, hroom₁, hdatabases, hinfer⟩ := hinferred sample rest rfl
    obtain ⟨d, hstored⟩ : ∃ d, d ∈ s.databases.documents database q.collection := by
      have hmem := hgroups.subset List.mem_cons_self
      obtain ⟨d, hd⟩ := List.exists_mem_of_ne_nil _ (Group.ne_nil_of_mem_split hmem)
      exact ⟨d, hperm.subset (Group.subset_of_mem_split hmem hd)⟩
    obtain ⟨first, kept, hfirst⟩ := List.exists_cons_of_ne_nil (List.ne_nil_of_mem hstored)
    have hanswers := answers_of_infer hcount hc htarget hasked hinfer hsound hroom₁
      (hdatabases ▸ hfirst)
    exact ⟨first, kept, target, hfirst, htarget, hanswers.typedCount hundollared⟩

/-- How many different notes each author has. -/
def notesByAuthor : Select :=
  { collection := "t", groupBy := [.named "author"],
    columns := [.named "author", { Column.aggregated .count "note" with asName := some "n" }] }

/-- Notes of two authors, one of them written twice. -/
def notes : List Document :=
  [[("_id", .int 1), ("author", .string "x"), ("note", .string "p")],
    [("_id", .int 2), ("author", .string "x"), ("note", .string "q")],
    [("_id", .int 3), ("author", .string "x"), ("note", .string "p")],
    [("_id", .int 4), ("author", .string "y"), ("note", .string "q")]]

/-- The rows of these notes. -/
def noteRows : List Row :=
  [[("author", .string "x"), ("n", .int 2)], [("author", .string "y"), ("n", .int 1)]]

theorem execute_count_notes :
    ∃ r key arranged groups,
      execute store "app" default (.document (.select notesByAuthor)) true (.holding "t" notes) =
        some (.ok noteRows, r) ∧
      Plan.groupKey .plain notesByAuthor.groupBy = .ok key ∧ arranged.Perm notes ∧
      groups.Perm (Group.split (Group.sameKey key) arranged) ∧
      List.Forall₂ (fun group row => ∃ n, Document.HoldDifferent "note" group n ∧
        row.get? "n" = some (.int (.ofInt n))) groups noteRows := by
  obtain ⟨r, hexecute⟩ : ∃ r, execute store "app" default (.document (.select notesByAuthor)) true
      (.holding "t" notes) = some (.ok noteRows, r) := ⟨_, rfl⟩
  have hcount : Column.StandsAt .plain notesByAuthor.columns "n"
      { Column.aggregated .count "note" with asName := some "n" } := {
    mem := List.mem_cons_of_mem _ List.mem_cons_self
    named := rfl
    called := rfl
    others := List.forall_mem_cons.mpr ⟨fun _ => .inr (.of_output rfl (by decide)),
      List.forall_mem_singleton.mpr fun _ => .inl ⟨rfl, rfl⟩⟩
    output_ne := by decide }
  obtain ⟨key, stages, arranged, groups, types, hkey, -, hperm, -, hall, hrows, htyped⟩ :=
    execute_count rfl rfl (by decide) (by decide) hcount (by decide)
      (MemoryStore.reachable_holding "t" notes) (by decide) hexecute
  refine ⟨r, key, arranged, groups, hexecute, hkey, hperm, hall rfl rfl rfl, ?_⟩
  obtain ⟨first, rest, target, hstored, htarget, htyped⟩ := htyped (by decide)
  cases hstored
  cases htarget
  have htype : types.get? "n" = some .string := htyped.own (by decide) (by decide)
  refine hrows.imp fun group row hrow => ?_
  obtain ⟨-, n, hn, hcell⟩ := hrow
  rw [htype] at hcell
  exact ⟨n, hn, hcell⟩

/-- Two documents with different doubles. -/
def halves : List Document :=
  [[("_id", .int 1), ("a", .double ⟨0x4004000000000000⟩)],
    [("_id", .int 2), ("a", .double ⟨0x400c000000000000⟩)]]

/-- Their number is a double. -/
theorem execute_count_halves :
    ∃ r x, (MemoryStore.holding "t" halves).Reachable ∧
      execute store "app" default
          (.document (.select { collection := "t", columns := [.aggregated .count "a"] })) true
          (.holding "t" halves) = some (.ok [[("COUNT_a", .double x)]], r) ∧
      ∀ n, Fields.get? [("COUNT_a", Cell.double x)] "COUNT_a" ≠ some (.int n) :=
  ⟨_, _, MemoryStore.reachable_holding _ _, rfl, nofun⟩

end Gateway

end SqlGateway
