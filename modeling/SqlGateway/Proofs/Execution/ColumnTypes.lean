import SqlGateway.Proofs.Execution.Probing
import SqlGateway.Proofs.Execution.Selecting
import SqlGateway.Proofs.Store.Alike

/-! The types with which the documents of a find are read. The first stored document is asked for
the field of every column, under a key in which dots are underscores and from which the name of an
aggregate is taken off. So a column has the type of its own field unless its name begins like that
of an aggregate or another field is asked for under the same key. -/

namespace SqlGateway

attribute [local instance] Host.universal

open Execution MemoryStore

/-! ### Plans -/

/-- Without a join no column that has a field is a joined one. -/
theorem Naming.joinSourced_of_field {c : Column} {field : String}
    (h : Naming.plain.field c = .ok field) : c.joinSourced = false := by
  cases hjoined : c.joinSourced with
  | false => rfl
  | true =>
    cases haggregation : c.aggregation with
    | none =>
      rw [Naming.field, haggregation, hjoined] at h
      cases h
    | some f =>
      rw [Naming.field, haggregation, hjoined] at h
      cases h

namespace Plan

variable {s : Select}

/-- The name of a stored column in the result. -/
def outputOf (c : Column) : String := c.asName.getD c.name

/-- What is asked for a stored column. -/
def probeOf (c : Column) : ProbeColumn := ⟨outputOf c, stripAggregation c.name, false⟩

/-- Stored columns under different names are all asked for. -/
theorem probeTarget_of_stored
    (hstored : ∀ c ∈ namedColumns s, c.aggregation = none ∧ c.joinSourced = false)
    (houtputs : ((namedColumns s).map outputOf).Nodup) (names : Naming) :
    probeTarget names none s = .ok ⟨s.collection, (namedColumns s).map probeOf, none⟩ := by
  have hcolumns : (namedColumns s).mapM (fun c => do
        let key ← names.output c
        if c.joinSourced then return (⟨key, c.name, true⟩ : ProbeColumn)
        else return ⟨key, stripAggregation (← names.field c), false⟩) =
      .ok ((namedColumns s).map probeOf) := by
    refine Except.mapM_eq_map fun c hc => ?_
    obtain ⟨haggregation, hjoined⟩ := hstored c hc
    have hfield : names.field c = .ok c.name := by rw [Naming.field, haggregation, hjoined]
    rw [Naming.output, hfield, hjoined]
    rfl
  have honce : ((namedColumns s).map probeOf).foldl
      (fun seen c => if seen.contains c then seen else seen ++ [c]) [] =
        (namedColumns s).map probeOf := by
    have hseen (seen : List ProbeColumn) (c : ProbeColumn) (hc : c.key ∉ seen.map (·.key)) :
        seen.contains c = false := by
      rw [← Bool.not_eq_true, List.contains_iff_mem]
      exact fun hmem => hc (List.mem_map.mpr ⟨c, hmem, rfl⟩)
    refine Typing.foldl_fresh hseen [] ?_
    rw [List.nil_append, List.map_map]
    exact houtputs
  rw [probeTarget, hcolumns]
  exact congrArg (fun cs => Except.ok (ProbeTarget.mk s.collection cs none)) honce

/-- Without a join every column that is named is asked for, at the field behind its name in the
store. -/
theorem mem_probeTarget {target : ProbeTarget} (h : probeTarget .plain none s = .ok target) :
    target = ⟨s.collection, target.columns, none⟩ ∧ ∀ p : ProbeColumn, p ∈ target.columns ↔
      ∃ c ∈ namedColumns s, ∃ field, Naming.plain.field c = .ok field ∧
        p = ⟨c.asName.getD field, stripAggregation field, false⟩ := by
  obtain ⟨columns, hcolumns, h⟩ := Except.bind_eq_ok.mp h
  cases h
  refine ⟨rfl, fun p => (Typing.mem_foldl_contains columns []).trans ?_⟩
  rw [or_iff_right List.not_mem_nil]
  have hasked {c : Column} {p : ProbeColumn} {field : String}
      (hfield : Naming.plain.field c = .ok field) :
      (do
        let key ← Naming.plain.output c
        if c.joinSourced then return (⟨key, c.name, true⟩ : ProbeColumn)
        else return ⟨key, stripAggregation (← Naming.plain.field c), false⟩) = .ok p ↔
          p = ⟨c.asName.getD field, stripAggregation field, false⟩ := by
    have hjoined := Naming.joinSourced_of_field hfield
    rw [Naming.output, hfield, hjoined]
    exact ⟨fun h => (Except.ok.inj h).symm, fun h => congrArg Except.ok h.symm⟩
  constructor
  · intro hp
    obtain ⟨c, hc, hstep⟩ := Except.exists_of_mem_mapM hcolumns hp
    obtain ⟨key, hkey, -⟩ := Except.bind_eq_ok.mp hstep
    obtain ⟨field, hfield, -⟩ := Except.bind_eq_ok.mp hkey
    exact ⟨c, hc, field, hfield, (hasked hfield).mp hstep⟩
  · rintro ⟨c, hc, field, hfield, rfl⟩
    obtain ⟨p, hp, hstep⟩ := Except.exists_mem_of_mapM hcolumns hc
    rwa [← (hasked hfield).mp hstep]

/-- The parts of the plan of a find. -/
theorem Selects.find [Host] {join : Option Join} {command : Command} {target : ProbeTarget}
    (h : Selects s join .find command target) (houtputs : ((namedColumns s).map outputOf).Nodup) :
    target = ⟨s.collection, (namedColumns s).map probeOf, none⟩ ∧ command.Headed ∧
      command.verb = .find := by
  obtain ⟨rfl, hstored⟩ := strategyOf_find h.chooses
  have htarget := h.probes
  rw [probeTarget_of_stored hstored houtputs] at htarget
  have hcommand : findCommand (.ofJoin none) s = .ok command := h.runs
  exact ⟨(Except.ok.inj htarget).symm, headed_findCommand hcommand, verb_findCommand hcommand⟩

end Plan

namespace Typing

variable {database : String}

/-- The fields that are asked for. -/
def sourcesOf (t : ProbeTarget) (sample : Document) : List String :=
  withoutRepeats ((probedColumns t sample).map (·.source))

/-- Whether types are those of the fields that are answered for. -/
def Answers (first : Document) (sources : List String) (types : TypeMap) (c : ProbeColumn) : Prop :=
  ∃ s v, answered? sources c.source = some s ∧
    Expression.evaluate first (.string ("$" ++ s)) = .ok v ∧ types.get? c.key = some (.ofField v)

section

variable {collection : String} {r : Run MemoryStore} {first : Document} {rest : List Document}

/-- Columns under different names are given the types of the fields that are answered for. -/
theorem readProbe_answers {answer : Document} {sources : List String} {cs : List ProbeColumn}
    (hproject : first.project ((questions sources).set idField (.int 0)) = .ok answer)
    (hkeys : (cs.map (·.key)).Nodup) (hmem : ∀ c ∈ cs, c.source ∈ sources) :
    ∃ types, readProbe collection answer [] cs = .ok types ∧
      ∀ c ∈ cs, Answers first sources types c := by
  refine ⟨_, readProbe_eq hkeys (fun c hc => ?_) collection, fun c hc => ?_⟩
  · obtain ⟨s, v, -, -, hanswer⟩ := type_of_answer hproject (hmem c hc)
    exact ⟨_, hanswer⟩
  · obtain ⟨s, v, hs, hv, hanswer⟩ := type_of_answer hproject (hmem c hc)
    have htype : typeIn answer c = .ofField v := by
      rw [typeIn, hanswer]
      exact ofName_name_ofField v
    have hdistinct : (Fields.keys (cs.map fun c => (c.key, typeIn answer c))).Nodup := by
      rw [Fields.keys, List.map_map]
      exact hkeys
    refine ⟨s, v, hs, hv, ?_⟩
    rw [← htype]
    exact Fields.get?_of_mem hdistinct (List.mem_map.mpr ⟨c, hc, rfl⟩)

/-- The types of columns that a collection holds are found, unless one of them is a variable. -/
theorem ends_ofCollection [Host] (hs : r.store.Sound) (hserving : r.store.Serving)
    (hroom : r.store.nextCursor < 2 ^ 63)
    (hdocs : r.store.databases.documents database collection = first :: rest)
    {cs : List ProbeColumn} (hkeys : (cs.map (·.key)).Nodup) :
    let sources := withoutRepeats (cs.map (·.source))
    (∃ types, Ends (ofCollection (fetch store database) collection false [] cs) r (.ok types) r ∧
      ∀ c ∈ cs, Answers first sources types c) ∨
    (∃ e r', Ends (ofCollection (fetch store database) collection false [] cs) r (.error e) r') ∧
      ∃ s ∈ sources, s.toList.head? = some '$' := by
  intro sources
  by_cases hnone : cs = []
  · subst hnone
    exact .inl ⟨[], ends_pure.mpr ⟨rfl, rfl⟩, nofun⟩
  have hmem (c) (hc : c ∈ cs) : c.source ∈ sources :=
    mem_withoutRepeats.mpr (List.mem_map.mpr ⟨c, hc, rfl⟩)
  have hsources : sources ≠ [] := by
    obtain ⟨c, cs, rfl⟩ := List.exists_cons_of_ne_nil hnone
    exact List.ne_nil_of_mem (hmem c List.mem_cons_self)
  have hresult := retrieve_probe hdocs sources
  rw [ofCollection, if_neg (by simpa using hnone)]
  cases hproject : first.project ((questions sources).set idField (.int 0)) with
  | ok answer =>
    rw [hproject] at hresult
    have hfetch := ends_fetch_short (c := probe collection sources) hserving ⟨_, _, rfl⟩ rfl hresult
      (Nat.le_refl 1)
    obtain ⟨types, htypes, hanswers⟩ := readProbe_answers hproject hkeys hmem
    exact .inl ⟨types, ends_bind_ok.mpr ⟨_, r, hfetch, ends_lift.mpr ⟨htypes.symm, rfl⟩⟩,
      hanswers⟩
  | error f =>
    rw [hproject] at hresult
    obtain ⟨next, -, -, hfetch⟩ := ends_fetch hs hroom database (c := probe collection sources)
      ⟨_, _, rfl⟩ rfl
    rw [documentsOf_of_refused (c := probe collection sources) hserving hresult] at hfetch
    refine .inr ⟨⟨_, _, ends_bind.mpr (.inr ⟨_, hfetch, rfl⟩)⟩, ?_⟩
    refine Classical.byContradiction fun hpaths => ?_
    obtain ⟨answer, hanswer⟩ := exists_answer (d := first) hsources fun s hs hdollar =>
      hpaths ⟨s, hs, hdollar⟩
    rw [hproject] at hanswer
    cases hanswer

/-- Without joined columns one collection is asked. -/
theorem infer_unjoined [Host] {columns : List ProbeColumn} {sample : Document}
    (hunjoined : ∀ c ∈ probedColumns ⟨collection, columns, none⟩ sample, c.joined = false) :
    infer (fetch store database) ⟨collection, columns, none⟩ sample =
      ofCollection (fetch store database) collection false []
        (probedColumns ⟨collection, columns, none⟩ sample) := by
  have hpartition : (probedColumns ⟨collection, columns, none⟩ sample).partition (·.joined) =
      ([], probedColumns ⟨collection, columns, none⟩ sample) := by
    rw [List.partition_eq_filter_filter, List.filter_eq_nil_iff.mpr, List.filter_eq_self.mpr]
    · exact fun c hc => congrArg not (hunjoined c hc)
    · exact fun c hc => by rw [hunjoined c hc]; decide
  rw [infer, hpartition]
  exact bind_pure _

/-- The types of columns of one collection are found, unless one of them is a variable. -/
theorem ends_infer [Host] {columns : List ProbeColumn} (hkeys : (columns.map (·.key)).Nodup)
    (hstored : ∀ c ∈ columns, c.joined = false) (hs : r.store.Sound) (hserving : r.store.Serving)
    (hroom : r.store.nextCursor < 2 ^ 63)
    (hdocs : r.store.databases.documents database collection = first :: rest) (sample : Document) :
    let target : ProbeTarget := ⟨collection, columns, none⟩
    (∃ types, Ends (infer (fetch store database) target sample) r (.ok types) r ∧
      ∀ c ∈ probedColumns target sample, Answers first (sourcesOf target sample) types c) ∨
    (∃ e r', Ends (infer (fetch store database) target sample) r (.error e) r') ∧
      ∃ s ∈ sourcesOf target sample, s.toList.head? = some '$' := by
  intro target
  obtain ⟨added, hadded, hdistinct, hprobed⟩ := probedColumns_eq (t := target) hkeys sample
  rw [← hprobed] at hdistinct
  have hbase : ∀ c ∈ probedColumns target sample, c.joined = false := by
    rw [hprobed]
    refine List.forall_mem_append.mpr ⟨hstored, fun c hc => ?_⟩
    exact joined_of_mem_documentColumns (hadded hc)
  rw [infer_unjoined hbase]
  exact ends_ofCollection hs hserving hroom hdocs hdistinct

/-- Types that have been found for a column are those of the field that is answered for, if all
columns under its name ask for its field. -/
theorem answers_of_ends [Host] {cs : List ProbeColumn} {types : TypeMap} {r' : Run MemoryStore}
    (h : Ends (ofCollection (fetch store database) collection false [] cs) r (.ok types) r')
    (hs : r.store.Sound) (hroom : r.store.nextCursor < 2 ^ 63)
    (hdocs : r.store.databases.documents database collection = first :: rest) {c : ProbeColumn}
    (hc : c ∈ cs) (hsame : ∀ other ∈ cs, other.key = c.key → other.source = c.source) :
    Answers first (withoutRepeats (cs.map (·.source))) types c := by
  have hsources : c.source ∈ withoutRepeats (cs.map (·.source)) :=
    mem_withoutRepeats.mpr (List.mem_map.mpr ⟨c, hc, rfl⟩)
  generalize hasked : withoutRepeats (cs.map (·.source)) = sources at hsources ⊢
  rw [ofCollection, if_neg (by simpa using List.ne_nil_of_mem hc), hasked] at h
  obtain ⟨docs, r₁, hfetch, h⟩ := ends_bind_ok.mp h
  have hfound := documentsOf_of_fetch (c := probe collection sources) hs hroom ⟨_, _, rfl⟩ rfl hfetch
  obtain ⟨-, result, hresult, rfl⟩ := retrieve_of_documentsOf hfound
  change r.store.databases.retrieve "aggregate" database _ = _ at hresult
  rw [retrieve_probe hdocs] at hresult
  obtain ⟨answer, hanswer, rfl⟩ := Except.map_eq_ok.mp hresult
  obtain ⟨hread, -⟩ := ends_lift.mp h
  obtain ⟨s, v, hs, hv, htold⟩ := type_of_answer hanswer hsources
  refine ⟨s, v, hs, hv, ?_⟩
  rw [get?_readProbe hread.symm hsame (.inl hc), typeIn, htold]
  exact congrArg some (ofName_name_ofField v)

end

/-- What the type of a stored column is: that of the field that is answered for under its key, and
so that of its own field if its name is asked for as it stands and no other field under its key. -/
structure Typed (first : Document) (sources : List String) (types : TypeMap) (c : Column) :
    Prop where
  answered : ∃ s v, answered? sources (stripAggregation c.name) = some s ∧
    Expression.evaluate first (.string ("$" ++ s)) = .ok v ∧
    types.get? (Plan.outputOf c) = some (.ofField v)
  own : stripAggregation c.name = c.name → c.name.toList.head? ≠ some '$' →
    (∀ s ∈ sources, probeKey s = probeKey c.name → s = c.name) →
      types.get? (Plan.outputOf c) = some (.ofField (first.getPath? c.name))

/-- The type of a column is that of its own field if no other one is asked for under its key. -/
theorem Answers.own {first : Document} {sources : List String} {types : TypeMap} {c : ProbeColumn}
    (h : Answers first sources types c) (hpath : c.source.toList.head? ≠ some '$')
    (halone : ∀ s ∈ sources, probeKey s = probeKey c.source → s = c.source) :
    types.get? c.key = some (.ofField (first.getPath? c.source)) := by
  obtain ⟨s, v, hs, hv, htype⟩ := h
  obtain ⟨hmem, hkey⟩ := List.mem_filter.mp (List.mem_of_getLast? hs)
  rw [halone s hmem (of_decide_eq_true hkey), Expression.evaluate_path hpath] at hv
  cases hv
  exact htype

theorem Answers.typed {first : Document} {sources : List String} {types : TypeMap} {c : Column}
    (h : Answers first sources types (Plan.probeOf c)) : Typed first sources types c where
  answered := h
  own hname hpath halone := by
    have hsource : (Plan.probeOf c).source = c.name := hname
    rw [← hsource] at hpath halone
    exact hsource ▸ h.own hpath halone

end Typing

/-! ### Rows -/

namespace Gateway

open Typing

/-- The types with which the documents of a find are read. Each column that the query names is given
the type in the first stored document of the last field that is asked for under its key; that is
its own field, if its name begins neither like that of an aggregate nor with a dollar sign and no
other field has its key. If nothing is read, some field that is asked for begins with a dollar
sign. -/
theorem runSelect_find_types [Host] {q : Select} {p : Plan} {c : Command} {database : String}
    (hplan : Plan.ofSelect q = .ok p) (hshape : p.shape = .select .find)
    (houtputs : ((Plan.namedColumns q).map Plan.outputOf).Nodup)
    (hcommand : singleCommand p = .ok c) {r : Run MemoryStore} (hs : r.store.Reachable)
    (hroom : r.store.nextCursor + 1 < 2 ^ 63) {first sample : Document} {rest docs : List Document}
    (hstored : r.store.databases.documents database q.collection = first :: rest)
    (hfound : documentsOf database c r.store = .ok (sample :: docs)) :
    ∃ target r₁, p.probe = some target ∧
      Ends (fetch store database c) r (.ok (sample :: docs)) r₁ ∧
      let inferring := { r₁ with progress := r₁.progress.enter .typeInference }
      let sources := sourcesOf target sample
      (∃ types r',
        Ends (infer (fetch store database) target sample) inferring (.ok types) inferring ∧
        Ends (runSelect store database p .find) r (Row.ofDocuments types none (sample :: docs)) r' ∧
        ∀ column ∈ Plan.namedColumns q, Typed first sources types column) ∨
      (∃ e r', Ends (runSelect store database p .find) r (.error e) r') ∧
        ∃ s ∈ sources, s.toList.head? = some '$' := by
  obtain ⟨join, strategy, command, target, hselects, rfl⟩ := Plan.ofSelect_eq_ok.mp hplan
  cases hshape
  cases hcommand
  obtain ⟨rfl, hheaded, hverb⟩ := hselects.find houtputs
  have hsound := sound_of_reachable hs
  obtain ⟨hserving, -⟩ := retrieve_of_documentsOf hfound
  obtain ⟨next, hle, hlt, hfetch⟩ := ends_fetch hsound (by omega) database hheaded
    (by rw [hverb]; rfl)
  rw [hfound] at hfetch
  refine ⟨_, _, rfl, hfetch, ?_⟩
  intro inferring sources
  have hkeys : (((Plan.namedColumns q).map Plan.probeOf).map (·.key)).Nodup := by
    rw [List.map_map]
    exact houtputs
  have hbase : ∀ c ∈ (Plan.namedColumns q).map Plan.probeOf, c.joined = false := by
    rw [List.forall_mem_map]
    exact fun _ _ => rfl
  rcases ends_infer (r := inferring) hkeys hbase (Alike.sound_skip hsound hle) hserving
    (by dsimp only [inferring]; omega) hstored sample with
    ⟨types, hinfer, htypes⟩ | ⟨⟨e, r', hinfer⟩, hdollar⟩
  · let decoding := { inferring with progress := inferring.progress.enter .rowDecode }
    refine .inl ⟨types, decoding, hinfer, ends_runSelect_of_fetch nofun rfl rfl hfetch ?_, ?_⟩
    · exact ends_bind.mpr (.inl ⟨types, inferring, hinfer,
        ends_bind_enter.mpr (ends_lift.mpr ⟨rfl, rfl⟩)⟩)
    intro column hcolumn
    obtain ⟨added, -, -, hprobed⟩ := probedColumns_eq
      (t := ⟨q.collection, (Plan.namedColumns q).map Plan.probeOf, none⟩) hkeys sample
    refine (htypes _ ?_).typed
    rw [hprobed]
    exact List.mem_append_left _ (List.mem_map.mpr ⟨column, hcolumn, rfl⟩)
  · exact .inr ⟨⟨e, r', ends_runSelect_of_fetch nofun rfl rfl hfetch
      (ends_bind.mpr (.inr ⟨e, hinfer, rfl⟩))⟩, hdollar⟩

/-- A document with a path and a field that differ in a dot, and with a field that is named like an
aggregate of another one. -/
def neighbours : Document :=
  [("_id", .int 1), ("a", .document [("b", .int 1)]), ("a_b", .string "text"), ("SUM_x", .int 1),
    ("x", .string "text")]

/-- A collection of this document. -/
def neighbouring [Host] : MemoryStore := .holding "t" [neighbours]

theorem reachable_neighbouring [Host] : neighbouring.Reachable := MemoryStore.reachable_holding _ _

/-- A path of `neighbours` under another name. -/
def nested : Column := { name := "a.b", asName := some "p" }

/-- Two columns that nothing else is asked for with have their own types. -/
theorem runSelect_find_types_nested :
    ∃ plan target types r,
      Plan.ofSelect { collection := "t", columns := [nested, .named "x"] } = .ok plan ∧
      plan.probe = some target ∧
      Ends (infer (fetch store "app") target [("p", .int 1), ("x", .string "text")]) r (.ok types)
        r ∧
      types.get? "p" = some .int ∧ types.get? "x" = some .string := by
  have hstored : neighbouring.databases.documents "app" "t" = [neighbours] := rfl
  obtain ⟨target, r, hprobe, -, htypes⟩ := runSelect_find_types
    (q := { collection := "t", columns := [nested, .named "x"] }) rfl rfl (by decide) rfl
    (r := { store := neighbouring }) reachable_neighbouring (by decide) hstored
    (show documentsOf "app" _ neighbouring = .ok [[("p", .int 1), ("x", .string "text")]] from rfl)
  cases hprobe
  rcases htypes with ⟨types, r', hinfer, -, htyped⟩ | ⟨-, hdollar⟩
  · refine ⟨_, _, types, _, rfl, rfl, hinfer, ?_, ?_⟩
    · exact (htyped nested (.head _)).own rfl (by decide) (by decide)
    · exact (htyped (.named "x") (.tail _ (.head _))).own rfl (by decide) (by decide)
  · exact absurd hdollar (by decide)

/-- A path is given the type of a field that differs from it in a dot, and a field that is named
like an aggregate the type of the field behind that name. -/
theorem infer_neighbours :
    neighbouring.Reachable ∧ neighbouring.databases.documents "app" "t" = [neighbours] ∧
      ∃ plan target c sample types r,
        Plan.ofSelect { collection := "t", columns := [nested, .named "a_b", .named "SUM_x"] } =
          .ok plan ∧
        plan.shape = .select .find ∧ plan.probe = some target ∧ singleCommand plan = .ok c ∧
        Ends (fetch store "app" c) { store := neighbouring } (.ok [sample]) r ∧
        Ends (infer (fetch store "app") target sample) r (.ok types) r ∧
        types.get? "p" ≠ some (.ofField (neighbours.getPath? "a.b")) ∧
        types.get? "SUM_x" ≠ some (.ofField (neighbours.getPath? "SUM_x")) := by
  refine ⟨reachable_neighbouring, rfl, _, _, _,
    [("p", .int 1), ("a_b", .string "text"), ("SUM_x", .int 1)],
    [("p", .string), ("a_b", .string), ("SUM_x", .string)], { store := neighbouring },
    rfl, rfl, rfl, rfl, rfl, rfl, ?_, ?_⟩
  · decide
  · decide

end Gateway

end SqlGateway
