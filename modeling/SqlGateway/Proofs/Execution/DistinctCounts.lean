import SqlGateway.Proofs.Execution.Counts

/-! Counting the different values of a column and listing them. A count goes through a pipeline that
makes one group of all documents, collects their values as a set and takes its size; a listing is a
command of its own. On a collection that holds no array at the column the two agree: there are as
many values as are counted, whatever their types and however they are compared. -/

namespace SqlGateway

attribute [local instance] Host.universal

/-! ### Plans -/

/-- The query that counts the different values of a column. -/
def countQuery (collection column : String) : Select :=
  { collection, columns := [.aggregated .count column] }

/-- The query that lists them. -/
def distinctQuery (collection column : String) : Select :=
  { collection, columns := [.named column], distinct := true }

namespace Plan

/-- Whether a SELECT is planned as one command. -/
def PlannedAs [Host] (q : Select) (c : Command) : Prop :=
  ∃ plan, ofSelect q = .ok plan ∧ plan.commands = [c]

/-- What the count is projected with. -/
def countProjection (column : String) : Document :=
  [(aggregatedName .count column,
      .document [("$size", .string ("$" ++ aggregatedName .count column))]),
    ("_id", .int 0)]

/-- The command that counts. -/
def countCommand (collection column : String) : Command :=
  .aggregate collection
    (rowStages .null [accumulatorOf .count column] (countProjection column))

/-- The command that lists. -/
def distinctValuesCommand (collection column : String) : Command :=
  (Command.of .distinct collection).withField "key" (.string column)

variable {collection column : String}

theorem plannedAs_countCommand [Host] (hcolumn : PlainName column) (hstar : column ≠ "*") :
    PlannedAs (countQuery collection column) (countCommand collection column) := by
  have hname := plainName_aggregatedName hcolumn.dotless .count
  have hnamed : (countQuery collection column).columns.filter (!·.isWildcard) =
      [.aggregated .count column] := Column.filter_named_singleton hstar
  have hprojection : projectionOf .plain (countQuery collection column).columns =
      .ok (countProjection column) := by
    rw [projectionOf, hnamed]
    change Except.ok (Fields.set "_id" (Value.int 0) [(aggregatedName .count column, _)]) = _
    rw [Fields.set_of_not_mem (by simpa [Fields.keys] using hname.ordinary.symm)]
    rfl
  have hcommand : groupingCommand .plain none (countQuery collection column) =
      .ok (countCommand collection column) := by
    unfold groupingCommand
    rw [hprojection]
    rfl
  have hstrategy : strategyOf .plain none (countQuery collection column) = .ok .grouping := by
    rw [strategyOf, namedColumns, hnamed]
    rfl
  obtain ⟨target, htarget⟩ : ∃ target,
      probeTarget .plain none (countQuery collection column) = .ok target := by
    rw [probeTarget, namedColumns, hnamed]
    exact ⟨_, rfl⟩
  exact ⟨_, ofSelect_eq_ok.mpr ⟨none, .grouping, _, target,
    ⟨rfl, hstrategy, hcommand, htarget⟩, rfl⟩, rfl⟩

theorem plannedAs_distinctValuesCommand [Host] (hstar : column ≠ "*") :
    PlannedAs (distinctQuery collection column) (distinctValuesCommand collection column) := by
  have hnamed : namedColumns (distinctQuery collection column) = [.named column] :=
    Column.filter_named_singleton hstar
  have hdistinct : distinctColumn (distinctQuery collection column) = .ok (.named column) := by
    rw [distinctColumn, hnamed]
    rfl
  have hcommand : distinctCommand .plain (distinctQuery collection column) =
      .ok (distinctValuesCommand collection column) := by
    rw [distinctCommand, hdistinct]
    rfl
  have hstrategy : strategyOf .plain none (distinctQuery collection column) =
      .ok (.distinct column) := by
    rw [strategyOf, hnamed, hdistinct]
    rfl
  obtain ⟨target, htarget⟩ : ∃ target,
      probeTarget .plain none (distinctQuery collection column) = .ok target := by
    rw [probeTarget, hnamed]
    exact ⟨_, rfl⟩
  exact ⟨_, ofSelect_eq_ok.mpr ⟨none, .distinct column, _, target,
    ⟨rfl, hstrategy, hcommand, htarget⟩, rfl⟩, rfl⟩

end Plan

/-! ### The pipeline of a count -/

namespace Plan

open SqlGateway.Group

variable {column : String}

/-- What a count accumulates: its set, and the first document. -/
def countFields (column : String) : List GroupField :=
  [⟨aggregatedName .count column, .addToSet, .string ("$" ++ column)⟩,
    ⟨recordField, .first, .string "$$ROOT"⟩]

theorem readFields_count (hcolumn : PlainName column) :
    ((groupSpec .null [accumulatorOf .count column]).filter (·.1 != "_id")).mapM
      (fun e => readField e.1 e.2) = .ok (countFields column) := by
  have hname := plainName_aggregatedName hcolumn.dotless .count
  have hrecord : aggregatedName .count column ≠ recordField :=
    aggregatedName_ne (by decide) .count column
  have hspec : groupSpec .null [accumulatorOf .count column] = [("_id", .null),
      accumulatorOf .count column, (recordField, .document [("$first", .string "$$ROOT")])] := by
    simp [groupSpec, Fields.setAll, Fields.set, accumulatorOf, hname.ordinary.symm, hrecord,
      show "_id" ≠ recordField by decide]
  rw [hspec, List.filter_cons_of_neg (by decide),
    List.filter_cons_of_pos (by simpa [accumulatorOf] using hname.ordinary)]
  rfl

theorem groupable_count (hcolumn : PlainName column) (d : Document) :
    Groupable (countFields column) .null d where
  key := ⟨_, rfl⟩
  fields := by
    simp only [countFields, List.forall_mem_cons]
    exact ⟨⟨_, Expression.evaluate_path hcolumn.undollared d⟩, ⟨_, rfl⟩, nofun⟩

/-- All documents make one group, and its row holds the size of its set. -/
theorem run_countStages [Host] (hcolumn : PlainName column) (source : Pipeline.Source) (lead : Document)
    (rest : List Document) :
    Pipeline.run source (lead :: rest)
        (rowStages .null [accumulatorOf .count column] (countProjection column)) =
      .ok [[(aggregatedName .count column, .ofInt32
        (Databases.distinctValues ((lead :: rest).filterMap (·.getPath? column))).length)]] := by
  have hname := plainName_aggregatedName hcolumn.dotless .count
  have haccs : accumulators .plain [.aggregated .count column] =
      .ok [accumulatorOf .count column] := rfl
  have hfields := readFields_count hcolumn
  have hsplit : split (sameKey .null) (lead :: rest) = [lead :: rest] :=
    split_cons_of_same fun _ _ => rfl
  have hundollared : ∀ e ∈ [accumulatorOf .count column], e.1.toList.head? ≠ some '$' :=
    List.forall_mem_singleton.mpr (undollared_aggregatedName .count column)
  have hroot := evaluate_overlay hundollared (get?_summary_record hfields lead rest)
  have hset := (overlays_shown haccs hfields (Fields.setAll [] lead) (lead :: rest)).get?_set rfl
    hcolumn.dotless hcolumn.undollared List.mem_cons_self
  refine (Pipeline.run_rowStages_eq_ok (get?_groupSpec_identity haccs)).mpr
    ⟨_, hfields, fun d _ => groupable_count hcolumn d, ?_⟩
  rw [hsplit]
  refine .cons ⟨_, hroot, Document.project_single hname rfl (Expression.evaluate_size ?_)⟩ .nil
  exact (Expression.evaluate_field hname _).trans (congrArg Except.ok hset)

end Plan

/-! ### Answers -/

namespace MemoryStore

open Databases (namespaceOf)

variable {s : MemoryStore} {database collection column : String}

/-- A pipeline that gives one document is answered with it, and no cursor is opened. -/
theorem run_aggregate_single [Host] (hs : s.Serving) {stages : List Document} {d : Document}
    (h : Pipeline.run (s.databases.documents database) (s.databases.documents database collection)
      stages = .ok [d]) :
    s.run database (Command.aggregate collection stages).document =
      (.ok (response (.ok (batchReply "firstBatch" [d] 0 (namespaceOf database collection)))),
        s) := by
  have hresult : s.databases.aggregate database (Command.aggregate collection stages).document =
      .ok ⟨namespaceOf database collection, [d], none⟩ := by
    have hretrieve := s.databases.retrieve_aggregate database collection stages
    rw [h] at hretrieve
    exact hretrieve
  have hdispatch : s.dispatch database "aggregate" (Command.aggregate collection stages).document =
      (s, .ok (batchReply "firstBatch" [d] 0 (namespaceOf database collection))) := by
    change s.opened (s.databases.aggregate database _) = _
    have hcursor := openCursor_of_length_le s
      (r := ⟨namespaceOf database collection, [d], none⟩) (Nat.le_refl 1)
    rw [hresult, opened, hcursor]
  have hrun : s.run database (Command.aggregate collection stages).document =
      (.ok (response (s.dispatch database "aggregate"
        (Command.aggregate collection stages).document).2),
        (s.dispatch database "aggregate" (Command.aggregate collection stages).document).1) :=
    run_of_serving hs database "aggregate" _ _
  rw [hrun, hdispatch]

/-- The listing command is answered with the different values at its path. -/
theorem run_distinctValues [Host] (hs : s.Serving) :
    s.run database (Plan.distinctValuesCommand collection column).document =
      (.ok (response (.ok [("values", .array (Databases.distinctValues
        ((s.databases.documents database collection).flatMap
          (Databases.valuesAt column))))])), s) :=
  run_of_serving hs database "distinct" _ _

end MemoryStore

/-! ### Agreement -/

open Databases (namespaceOf) in
/-- On a collection that is not empty and holds no array at a column, the query that counts the
different values of the column is answered with one document, with a number of 32 bits, and the
query that lists them with a list of values. There are as many values as the number says, no two of
them are equal, and everything that is held at the column equals one of them. -/
theorem MemoryStore.run_count_distinct [Host] {s : MemoryStore} (hs : s.Serving)
    {database collection column : String} (hcolumn : PlainName column) (hstar : column ≠ "*")
    (hstored : s.databases.documents database collection ≠ [])
    (harrays : ∀ d ∈ s.databases.documents database collection, ∀ items,
      d.get? column ≠ some (.array items)) :
    ∃ counting listing n values,
      Plan.PlannedAs (countQuery collection column) counting ∧
      Plan.PlannedAs (distinctQuery collection column) listing ∧
      s.run database counting.document = (.ok (response (.ok (batchReply "firstBatch"
        [[(aggregatedName .count column, .int n)]] 0 (namespaceOf database collection)))), s) ∧
      s.run database listing.document = (.ok (response (.ok [("values", .array values)])), s) ∧
      (values.length < 2 ^ 31 → n.toInt = values.length) ∧
      Value.Represent values
        ((s.databases.documents database collection).filterMap (·.get? column)) := by
  obtain ⟨lead, rest, hdocs⟩ := List.exists_cons_of_ne_nil hstored
  have hpath : ∀ d : Document, d.getPath? column = d.get? column :=
    Document.getPath?_of_dotless hcolumn.dotless
  have hheld : (s.databases.documents database collection).flatMap (Databases.valuesAt column) =
      (s.databases.documents database collection).filterMap (·.get? column) := by
    simp only [← hpath] at harrays ⊢
    exact Value.flatMap_valuesAt harrays
  have hcount := Plan.run_countStages hcolumn (s.databases.documents database) lead rest
  simp only [hpath] at hcount
  rw [← hdocs] at hcount
  have hlist : s.run database (Plan.distinctValuesCommand collection column).document = _ :=
    run_distinctValues hs
  rw [hheld] at hlist
  refine ⟨_, _, _, _, Plan.plannedAs_countCommand hcolumn hstar,
    Plan.plannedAs_distinctValuesCommand hstar, run_aggregate_single hs hcount, hlist,
    fun hlength => ?_, Value.represent_distinctValues _⟩
  exact Int32.toInt_ofInt_of_le (by omega) (by omega)

open Databases (namespaceOf) in
/-- Documents that hold one number in two types, a null, a text and nothing. -/
theorem MemoryStore.run_count_distinct_mixed :
    let s := MemoryStore.holding "t" [[("x", .int 1)], [("x", .long 1)], [("x", .null)],
      [("x", .string "a")], [("y", .int 2)]]
    s.Serving ∧ ∃ counting listing n values,
      Plan.PlannedAs (countQuery "t" "x") counting ∧
      Plan.PlannedAs (distinctQuery "t" "x") listing ∧
      s.run "app" counting.document = (.ok (response (.ok (batchReply "firstBatch"
        [[("COUNT_x", .int n)]] 0 (namespaceOf "app" "t")))), s) ∧
      s.run "app" listing.document = (.ok (response (.ok [("values", .array values)])), s) ∧
      (values.length < 2 ^ 31 → n.toInt = values.length) ∧
      Value.Represent values [.int 1, .long 1, .null, .string "a"] := by
  intro s
  have hs : s.Serving := ⟨rfl, rfl⟩
  have hheld : (s.databases.documents "app" "t").map (·.get? "x") =
      [some (.int 1), some (.long 1), some .null, some (.string "a"), none] := rfl
  have harrays : ∀ d ∈ s.databases.documents "app" "t", ∀ items,
      d.get? "x" ≠ some (.array items) := by
    intro d hd items hitems
    have hmem : d.get? "x" ∈ (s.databases.documents "app" "t").map (·.get? "x") :=
      List.mem_map_of_mem hd
    rw [hheld, hitems] at hmem
    simp at hmem
  exact ⟨hs, run_count_distinct hs (by decide) (by decide) (by decide) harrays⟩

end SqlGateway
