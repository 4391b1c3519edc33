import Mathlib.Algebra.Order.BigOperators.Group.List
import Mathlib.Algebra.Order.Group.Nat
import Mathlib.Algebra.Order.Ring.Int
import SqlGateway.Execution.Gateway
import SqlGateway.Proofs.Execution.Reading
import SqlGateway.Proofs.Plan.Strategies
import SqlGateway.Proofs.Store.Grouping
import SqlGateway.Proofs.Store.Projection
import SqlGateway.Proofs.Store.Retrieval
import SqlGateway.Proofs.Value.Arithmetic
import SqlGateway.Proofs.Value.Order

/-! Sums by group. The pipeline of a SELECT that sums one column for each text of another one
gives one document for each text, in the order in which the texts first appear, with the exact sum
of the numbers beside it. -/

namespace SqlGateway

attribute [local instance] Host.universal

namespace GroupedSums

/-- The query for the sums of one column by another one. -/
def query (collection g a : String) : Select :=
  { collection, columns := [.named g, .aggregated .sum a], groupBy := [.named g] }

/-- The field of the sums. -/
def sumField (a : String) : String := aggregatedName .sum a

/-- A name behind a dollar sign. -/
def pathOf (name : String) : Value := .string ("$" ++ name)

/-- The argument of the first stage: groups by text, with the sum and the first document of each. -/
def groupSpec (g a : String) : Document :=
  [("_id", .document [(g, pathOf g)]), (sumField a, .document [("$sum", pathOf a)]),
    (Plan.recordField, .document [("$first", .string "$$ROOT")])]

/-- The argument of the second stage: the first document of a group with the sum in its place. -/
def rootSpec (a : String) : Document :=
  [("newRoot", .document [("$mergeObjects",
    .array [pathOf Plan.recordField, .document [(sumField a, pathOf (sumField a))]])])]

/-- The argument of the last stage: the text and the sum. -/
def projection (g a : String) : Document :=
  [(g, pathOf g), (sumField a, pathOf (sumField a)), ("_id", .int 0)]

/-- The pipeline of the query. -/
def stages (g a : String) : List Document :=
  [[("$group", .document (groupSpec g a))], [("$replaceRoot", .document (rootSpec a))],
    [("$project", .document (projection g a))]]

section

variable {g a : String}

theorem plainName_sumField (ha : PlainName a) : PlainName (sumField a) := by
  have htext : (sumField a).toList = 'S' :: 'U' :: 'M' :: '_' :: a.toList := by
    simp [sumField, aggregatedName, Aggregation.name]
  refine ⟨?_, ?_, ?_⟩
  · simp [htext, ha.dotless]
  · simp [htext]
  · intro heq
    rw [heq] at htext
    cases htext

theorem sumField_ne_record : sumField a ≠ Plan.recordField := by
  intro heq
  have htext := congrArg String.toList heq
  simp [sumField, aggregatedName, Aggregation.name, Plan.recordField] at htext

theorem groupKey_eq (hg : PlainName g) :
    Plan.groupKey .plain [.named g] = .ok (.document [(g, pathOf g)]) := by
  change Except.ok (Value.document [(String.ofList (g.toList.map _), .string ("$" ++ g))]) = _
  rw [map_underscore_of_dotless hg.dotless, String.ofList_toList]
  rfl

/-- The plan of the query runs the three stages. -/
theorem ofSelect_query [Host] (hg : PlainName g) (ha : PlainName a) (hgstar : g ≠ "*") (hastar : a ≠ "*")
    (hne : g ≠ sumField a) (collection : String) :
    ∃ plan, Plan.ofSelect (query collection g a) = .ok plan ∧
      Gateway.singleCommand plan = .ok (.aggregate collection (stages g a)) := by
  have hsum := plainName_sumField ha
  have hcolumns : (query collection g a).columns.filter (!·.isWildcard) =
      [.named g, .aggregated .sum a] := by
    simp [query, Column.isWildcard, Column.named, Column.aggregated, Column.wildcardName, hgstar,
      hastar]
  have hprojection : projectionOf .plain (query collection g a).columns = .ok (projection g a) := by
    rw [projectionOf, hcolumns]
    change Except.ok (((Fields.set (sumField a) (pathOf (sumField a)) [(g, pathOf g)]).set "_id"
      (.int 0))) = _
    simp [Fields.set, hne, hg.ordinary, hsum.ordinary, projection]
  have hgroup : (Fields.setAll [("_id", .document [(g, pathOf g)])]
      [(sumField a, .document [("$sum", pathOf a)])]).set Plan.recordField
        (.document [("$first", .string "$$ROOT")]) = groupSpec g a := by
    have hrecord : "_id" ≠ Plan.recordField := by decide
    simp [Fields.setAll, Fields.set, hsum.ordinary.symm, sumField_ne_record, hrecord, groupSpec]
  have hcommand : Plan.groupingCommand .plain none (query collection g a) =
      .ok (.aggregate collection (stages g a)) := by
    have haccumulators : Plan.accumulators .plain (query collection g a).columns =
        .ok [(sumField a, .document [("$sum", pathOf a)])] := rfl
    unfold Plan.groupingCommand
    rw [show Plan.groupKey .plain (query collection g a).groupBy = _ from groupKey_eq hg,
      haccumulators, hprojection]
    simp only [Except.ok_bind, hgroup]
    rfl
  have hstrategy : Plan.strategyOf .plain none (query collection g a) = .ok .grouping := by
    rw [Plan.strategyOf, Plan.namedColumns, hcolumns]
    rfl
  have htarget : ∃ target, Plan.probeTarget .plain none (query collection g a) = .ok target := by
    rw [Plan.probeTarget, Plan.namedColumns, hcolumns]
    exact ⟨_, rfl⟩
  obtain ⟨target, htarget⟩ := htarget
  refine ⟨_, Plan.ofSelect_eq_ok.mpr ⟨none, .grouping, _, target, ?_, rfl⟩, rfl⟩
  exact ⟨rfl, hstrategy, hcommand, htarget⟩

end

/-! ### Texts and sums -/

/-- The text in a field of a document. -/
def textAt (g : String) (d : Document) : String := ((d.get? g).bind Value.string?).getD ""

/-- The whole number in a field of a document. -/
def wholeAt (a : String) (d : Document) : Int := ((d.get? a).bind Value.integer?).getD 0

/-- The texts in a field of documents, each where it first appears. -/
def texts (g : String) (docs : List Document) : List String := (docs.map (textAt g)).eraseDups

/-- The documents with a text. -/
def withText (g t : String) (docs : List Document) : List Document := docs.filter (textAt g · = t)

/-- The first document with a text. -/
def lead (g : String) (docs : List Document) (t : String) : Document := (withText g t docs).headD []

/-- The sum over the documents with a text. -/
def total (g a : String) (docs : List Document) (t : String) : Int :=
  ((withText g t docs).map (wholeAt a)).sum

/-- The sum of the absolute numbers in a field. -/
def weight (a : String) (docs : List Document) : Nat := (docs.map fun d => (wholeAt a d).natAbs).sum

/-- Whether a document has no field twice, a text in one field and a whole number in another. -/
structure Countable (g a : String) (d : Document) : Prop where
  distinct : (Fields.keys d).Nodup
  text : ∃ t, d.get? g = some (.string t)
  whole : ∃ v n, d.get? a = some v ∧ v.integer? = some n

/-- Takes in a field of documents, one after another. -/
def takeIn (a : String) (acc : Accumulator) (docs : List Document) : Accumulator :=
  docs.foldl (fun acc d => acc.accept (d.get? a)) acc

/-- The sum of a field as it is stored. -/
def stored (a : String) (docs : List Document) : Value := (takeIn a (.start .sum) docs).finish

section

variable {g a : String}

theorem Countable.get?_text {d : Document} (h : Countable g a d) :
    d.get? g = some (.string (textAt g d)) := by
  obtain ⟨t, ht⟩ := h.text
  rw [textAt, ht]
  rfl

theorem Countable.get?_whole {d : Document} (h : Countable g a d) :
    ∃ v, d.get? a = some v ∧ v.integer? = some (wholeAt a d) := by
  obtain ⟨v, n, hv, hn⟩ := h.whole
  refine ⟨v, hv, ?_⟩
  rw [wholeAt, hv, Option.bind_some, hn]
  rfl

theorem mem_withText {t : String} {docs : List Document} {d : Document} :
    d ∈ withText g t docs ↔ d ∈ docs ∧ textAt g d = t := by
  simp [withText]

theorem withText_eq_cons {t : String} {docs : List Document} (ht : t ∈ texts g docs) :
    ∃ ds, withText g t docs = lead g docs t :: ds := by
  rw [texts, List.mem_eraseDups] at ht
  obtain ⟨d, hd, rfl⟩ := List.mem_map.mp ht
  have hmem : d ∈ withText g (textAt g d) docs := mem_withText.mpr ⟨hd, rfl⟩
  obtain ⟨e, ds, hdocs⟩ := List.exists_cons_of_ne_nil (List.ne_nil_of_mem hmem)
  exact ⟨ds, by rw [lead, hdocs, List.headD_cons]⟩

theorem mem_lead {t : String} {docs : List Document} (ht : t ∈ texts g docs) :
    lead g docs t ∈ docs ∧ textAt g (lead g docs t) = t := by
  obtain ⟨ds, hdocs⟩ := withText_eq_cons ht
  exact mem_withText.mp (hdocs ▸ List.mem_cons_self)

theorem weight_withText_le (t : String) (docs : List Document) :
    weight a (withText g t docs) ≤ weight a docs :=
  (List.filter_sublist.map _).sum_le_sum fun _ _ => Nat.zero_le _

/-- Every partial sum fits in a long, since the absolute numbers do together. -/
theorem takeIn_sum {docs : List Document} (hdocs : ∀ d ∈ docs, Countable g a d) {v : Value}
    {m : Int} (hv : v.integer? = some m)
    (hbound : m.natAbs + weight a docs ≤ Int64.maxValue.toInt) :
    ∃ w, takeIn a (.sum v) docs = .sum w ∧ w.integer? = some (m + (docs.map (wholeAt a)).sum) := by
  induction docs generalizing v m with
  | nil => exact ⟨v, rfl, by simpa using hv⟩
  | cons d docs ih =>
    obtain ⟨hd, hdocs⟩ := List.forall_mem_cons.mp hdocs
    obtain ⟨u, hu, hnumber⟩ := hd.get?_whole
    have hweight : weight a (d :: docs) = (wholeAt a d).natAbs + weight a docs := by
      simp [weight]
    have hmax : Int64.maxValue.toInt = 2 ^ 63 - 1 := rfl
    have hmin : Int64.minValue.toInt = -2 ^ 63 := rfl
    have hfits : Value.fitsInt64 (m + wholeAt a d) = true := by
      simp only [Value.fitsInt64, Bool.and_eq_true, decide_eq_true_iff]
      omega
    obtain ⟨next, hadd, hnext⟩ := Value.add?_of_integer? hv hnumber hfits
    have haccept : (Accumulator.sum v).accept (d.get? a) = .sum next := by
      rw [Accumulator.accept, hu, Option.bind_some, hadd]
      rfl
    obtain ⟨w, hw, hsum⟩ := ih hdocs hnext (by omega)
    refine ⟨w, ?_, ?_⟩
    · rw [takeIn, List.foldl_cons, haccept]
      exact hw
    · rw [hsum, List.map_cons, List.sum_cons, Int.add_assoc]

/-- The stored sum is exact. -/
theorem integer?_stored {docs : List Document} (hdocs : ∀ d ∈ docs, Countable g a d)
    (hbound : weight a docs ≤ Int64.maxValue.toInt) :
    (stored a docs).integer? = some (docs.map (wholeAt a)).sum := by
  obtain ⟨w, hw, hsum⟩ := takeIn_sum hdocs (v := .int 0) (m := 0) rfl (by simpa using hbound)
  rw [stored, Accumulator.start, hw, Accumulator.finish, hsum, Int.zero_add]

end

/-! ### The documents of the pipeline -/

/-- The fields that the first stage accumulates. -/
def groupFields (a : String) : List GroupField :=
  [⟨sumField a, .sum, pathOf a⟩, ⟨Plan.recordField, .first, .string "$$ROOT"⟩]

/-- What they take in of a document. -/
def valueOf (a : String) (f : GroupField) (d : Document) : Option Value :=
  if f.kind = .sum then d.get? a else some (.document d)

/-- The key of a text. -/
def keyOf (g t : String) : Value := .document [(g, .string t)]

/-- The results: each text with the sum over its documents. -/
def rows (g a : String) (docs : List Document) : List Document :=
  (texts g docs).map fun t => [(g, .string t), (sumField a, stored a (withText g t docs))]

section

variable {g a : String}

theorem evaluate_named {name : String} (hname : PlainName name) {e : Value} {d : Document}
    {v : Value} (he : Expression.evaluate d e = .ok (some v)) :
    Expression.evaluate d (.document [(name, e)]) = .ok (some (.document [(name, v)])) := by
  have hplain : Expression.isOperation [(name, e)] = false := by
    simpa [Expression.isOperation] using hname.undollared
  rw [Expression.evaluate, hplain, if_neg (by decide)]
  simp only [Expression.evaluateFields, he, Except.ok_bind]
  rfl

theorem keyOf_equal (g s t : String) : (keyOf g s).equal (keyOf g t) = decide (s = t) := by
  have hname : Value.orderText g g = .eq := Value.orderText_eq_iff.mpr rfl
  have htext : (Value.string s).order (.string t) = Value.orderText s t := rfl
  have horder : (keyOf g s).order (keyOf g t) = Value.orderText s t := by
    rw [keyOf, keyOf, Value.order, Value.orderFields, Value.orderFields, htext, hname]
    simp
  rw [Value.equal, horder, Bool.eq_iff_iff, beq_iff_eq, Value.orderText_eq_iff, decide_eq_true_iff]

theorem groups (hg : PlainName g) (ha : PlainName a) {docs : List Document}
    (hdocs : ∀ d ∈ docs, Countable g a d) :
    Group.Groups (groupFields a) (.document [(g, pathOf g)]) (textAt g) (keyOf g) (valueOf a)
      docs where
  keyed d hd := by
    have hpath : Expression.evaluate d (pathOf g) = .ok (some (.string (textAt g d))) := by
      rw [pathOf, Expression.evaluate_field hg, (hdocs d hd).get?_text]
    exact evaluate_named hg hpath
  distinct := keyOf_equal g
  evaluated d hd f hf := by
    rcases List.mem_cons.mp hf with rfl | hf
    · exact Expression.evaluate_field ha d
    · rw [List.mem_singleton.mp hf]
      rfl

/-- The first stage keeps the first document of each text beside its sum. -/
theorem collect_groupSpec (hg : PlainName g) (ha : PlainName a) {docs : List Document}
    (hdocs : ∀ d ∈ docs, Countable g a d) :
    Group.collect docs (groupSpec g a) = .ok ((texts g docs).map fun t =>
      [("_id", keyOf g t), (sumField a, stored a (withText g t docs)),
        (Plan.recordField, .document (lead g docs t))]) := by
  have hsum := plainName_sumField ha
  have hfields : ((groupSpec g a).filter (·.1 != "_id")).mapM
      (fun e => Group.readField e.1 e.2) = .ok (groupFields a) := by
    have hrest : (groupSpec g a).filter (·.1 != "_id") =
        [(sumField a, .document [("$sum", pathOf a)]),
          (Plan.recordField, .document [("$first", .string "$$ROOT")])] := by
      have hrecord : Plan.recordField ≠ "_id" := by decide
      simp [groupSpec, hsum.ordinary, hrecord]
    rw [hrest]
    rfl
  have hlead (d : Document) (ds : List Document) :
      Group.accumulate (valueOf a) (d :: ds)
        ⟨Plan.recordField, .first, .string "$$ROOT"⟩ = .first (some (.document d)) := by
    rw [Group.accumulate, List.foldl_cons]
    induction ds with
    | nil => rfl
    | cons e ds ih => exact ih
  rw [Group.collect_eq (groups hg ha hdocs) rfl hfields]
  refine congrArg Except.ok (List.map_congr_left fun t ht => ?_)
  obtain ⟨ds, hdocs⟩ := withText_eq_cons ht
  change [("_id", keyOf g t), (sumField a, stored a (withText g t docs)),
    (Plan.recordField, (Group.accumulate (valueOf a) (withText g t docs) _).finish)] = _
  rw [hdocs, hlead]
  rfl

/-- A group as the first stage gives it. -/
def grouped (g a t : String) (sum : Value) (d : Document) : Document :=
  [("_id", keyOf g t), (sumField a, sum), (Plan.recordField, .document d)]

/-- The second stage puts the sum into the first document of the group. -/
theorem evaluate_root (ha : PlainName a) (t : String) (sum : Value) {d : Document}
    (hd : (Fields.keys d).Nodup) :
    Expression.evaluate (grouped g a t sum d)
        (.document [("$mergeObjects",
          .array [pathOf Plan.recordField, .document [(sumField a, pathOf (sumField a))]])]) =
      .ok (some (.document (Fields.set (sumField a) sum d))) := by
  have hsum := plainName_sumField ha
  have hrecord : PlainName Plan.recordField := by decide
  have hfirst : Expression.evaluate (grouped g a t sum d) (pathOf Plan.recordField) =
      .ok (some (.document d)) := by
    rw [pathOf, Expression.evaluate_field hrecord, grouped, Fields.get?_cons, Fields.get?_cons,
      if_neg (by decide), if_neg sumField_ne_record.symm, Fields.get?_cons, if_pos rfl]
  have hsecond : Expression.evaluate (grouped g a t sum d) (pathOf (sumField a)) =
      .ok (some sum) := by
    rw [pathOf, Expression.evaluate_field hsum, grouped, Fields.get?_cons, Fields.get?_cons,
      if_neg hsum.ordinary, if_pos rfl]
  have hwhole : Fields.setAll [] d = d := by
    rw [Fields.setAll_eq_append hd fun _ _ => List.not_mem_nil, List.nil_append]
  have hmerge (root : Document) (x y : Value) :
      Expression.evaluate root (.document [("$mergeObjects", .array [x, y])]) = (do
        return some (.document (← Expression.mergeObjects []
          [Expression.evaluate root x, Expression.evaluate root y]))) := by
    simp [Expression.evaluate, Expression.isOperation, Expression.evaluateOperation,
      Expression.evaluateEach, Expression.apply]
  rw [hmerge, hfirst, evaluate_named hsum hsecond]
  simp only [Expression.mergeObjects, Except.ok_bind, hwhole]
  rfl

/-- The last stage keeps the text and the sum. -/
theorem project_projection (hg : PlainName g) (ha : PlainName a) (hne : g ≠ sumField a)
    {d : Document} (hd : Countable g a d) (sum : Value) :
    Document.project (Fields.set (sumField a) sum d) (projection g a) =
      .ok [(g, .string (textAt g d)), (sumField a, sum)] := by
  have hsum := plainName_sumField ha
  have hcomputes : Document.Computes (Fields.set (sumField a) sum d) id pathOf
      (Fields.get? (Fields.set (sumField a) sum d)) [g, sumField a] := {
    distinct := by simpa using hne
    field := by
      simp [hg.ordinary, hg.dotless, hsum.ordinary, hsum.dotless]
    computed := by
      simp only [List.mem_cons, List.not_mem_nil, or_false, forall_eq_or_imp, forall_eq]
      exact ⟨⟨rfl, Expression.evaluate_field hg _⟩, ⟨rfl, Expression.evaluate_field hsum _⟩⟩ }
  have htext : Fields.get? (Fields.set (sumField a) sum d) g = some (.string (textAt g d)) := by
    rw [Fields.get?_set, if_neg hne, hd.get?_text]
  have htotal : Fields.get? (Fields.set (sumField a) sum d) (sumField a) = some sum := by
    rw [Fields.get?_set, if_pos rfl]
  have hproject := Document.project_computed hcomputes (List.cons_ne_nil _ _)
  simp only [List.filterMap_cons, List.filterMap_nil, htext, htotal, Option.map_some, id]
    at hproject
  exact hproject

/-- The pipeline gives each text with its sum. -/
theorem run_stages [Host] (hg : PlainName g) (ha : PlainName a) (hne : g ≠ sumField a)
    {docs : List Document} (hdocs : ∀ d ∈ docs, Countable g a d) (source : Pipeline.Source) :
    Pipeline.run source docs (stages g a) = .ok (rows g a docs) := by
  have hlead (t) (ht : t ∈ texts g docs) := mem_lead ht
  have hroot : Pipeline.replaceRoot ((texts g docs).map fun t =>
        grouped g a t (stored a (withText g t docs)) (lead g docs t)) (rootSpec a) =
      .ok ((texts g docs).map fun t =>
        Fields.set (sumField a) (stored a (withText g t docs)) (lead g docs t)) := by
    change (List.map _ _).mapM _ = _
    rw [List.mapM_map]
    refine Except.mapM_eq_map fun t ht => ?_
    rw [Function.comp_apply, evaluate_root ha t _ (hdocs _ (hlead t ht).1).distinct]
    rfl
  have hproject : ((texts g docs).map fun t =>
        Fields.set (sumField a) (stored a (withText g t docs)) (lead g docs t)).mapM
          (Document.project · (projection g a)) = .ok (rows g a docs) := by
    rw [List.mapM_map]
    refine Except.mapM_eq_map fun t ht => ?_
    have hrow := project_projection hg ha hne (hdocs _ (hlead t ht).1)
      (stored a (withText g t docs))
    rwa [(hlead t ht).2] at hrow
  refine Except.bind_eq_ok.mpr ⟨_, collect_groupSpec hg ha hdocs, ?_⟩
  refine Except.bind_eq_ok.mpr ⟨_, hroot, ?_⟩
  exact Except.bind_eq_ok.mpr ⟨_, hproject, rfl⟩

end

/-! ### Rows -/

/-- Whether documents are one for each text, in the order in which the texts first appear, with the
text and its exact sum as an int or a long. -/
def AreSums (g a : String) (docs rows : List Document) : Prop :=
  List.Forall₂ (fun t row => ∃ v : Value, v.integer? = some (total g a docs t) ∧
    row = [(g, .string t), ("SUM_" ++ a, v)]) (docs.map (textAt g)).eraseDups rows

/-- A document with its ints as longs. -/
def widened (d : Document) : Document := d.map fun (key, v) => (key, v.widened)

section

variable {g a : String} {docs : List Document}

theorem integer?_sum (hdocs : ∀ d ∈ docs, Countable g a d)
    (hbound : weight a docs ≤ Int64.maxValue.toInt) (t : String) :
    (stored a (withText g t docs)).integer? = some (total g a docs t) := by
  have hweight := weight_withText_le (a := a) (g := g) t docs
  exact integer?_stored (fun d hd => hdocs d (mem_withText.mp hd).1) (by omega)

theorem areSums_rows (hdocs : ∀ d ∈ docs, Countable g a d)
    (hbound : weight a docs ≤ Int64.maxValue.toInt) : AreSums g a docs (rows g a docs) := by
  refine List.forall₂_map_right_iff.mpr (List.forall₂_same.mpr fun t _ => ?_)
  exact ⟨_, integer?_sum hdocs hbound t, rfl⟩

/-- Other orders of the documents give the same rows in another order, but for the width of sums. -/
theorem perm_rows {docs' : List Document} (hperm : docs'.Perm docs)
    (hdocs : ∀ d ∈ docs, Countable g a d) (hbound : weight a docs ≤ Int64.maxValue.toInt) :
    ((rows g a docs').map widened).Perm ((rows g a docs).map widened) := by
  have hdocs' : ∀ d ∈ docs', Countable g a d := fun d hd => hdocs d (hperm.mem_iff.mp hd)
  have hbound' : weight a docs' ≤ Int64.maxValue.toInt := by
    have hweight : weight a docs' = weight a docs := (hperm.map _).sum_nat
    rwa [hweight]
  have hwidened {docs : List Document} (hdocs : ∀ d ∈ docs, Countable g a d)
      (hbound : weight a docs ≤ Int64.maxValue.toInt) :
      (rows g a docs).map widened = (texts g docs).map fun t =>
        [(g, .string t), (sumField a, .ofInt64 (total g a docs t))] := by
    rw [rows, List.map_map]
    refine List.map_congr_left fun t _ => ?_
    have hsum := Value.widened_of_integer? (integer?_sum hdocs hbound t)
    simp only [Function.comp_apply, widened, List.map_cons, List.map_nil, hsum]
    rfl
  have htotal (t : String) : total g a docs' t = total g a docs t :=
    ((hperm.filter _).map _).sum_eq
  rw [hwidened hdocs hbound, hwidened hdocs' hbound']
  simp only [htotal]
  exact (perm_eraseDups (hperm.map _)).map _

end

open Execution MemoryStore

/-- Whether a command gives documents, in however many batches, over every state of a store that
serves and holds other documents in a collection. -/
def Reads [Host] (c : Command) (collection : String) (docs rows : List Document) : Prop :=
  ∀ (database : String) (r : Run MemoryStore), r.store.Reachable → r.store.Serving →
    r.store.nextCursor < 2 ^ 63 → r.store.databases.documents database collection = docs →
      ∃ next, Ends (fetch store database c) r (.ok rows)
        { r with store := { r.store with nextCursor := next } }

theorem reads_stages [Host] {g a collection : String} (hg : PlainName g) (ha : PlainName a)
    (hne : g ≠ sumField a) {docs : List Document} (hdocs : ∀ d ∈ docs, Countable g a d) :
    Reads (.aggregate collection (stages g a)) collection docs (rows g a docs) := by
  intro database r hreachable hserving hroom hcollection
  have hresult : r.store.databases.retrieve "aggregate" database
      (Command.aggregate collection (stages g a)).document =
        .ok ⟨Databases.namespaceOf database collection, rows g a docs, none⟩ := by
    rw [Databases.retrieve_aggregate, hcollection, run_stages hg ha hne hdocs]
    rfl
  obtain ⟨next, -, -, hends⟩ := ends_fetch (sound_of_reachable hreachable) hroom database
    (Command.headed_aggregate collection (stages g a)) rfl
  rw [documentsOf_of_retrieve (c := .aggregate collection (stages g a)) hserving hresult] at hends
  exact ⟨next, hends⟩

/-- The sums of one column by another one are exact, and do not depend on the order in which the
documents are stored: whenever the absolute numbers fit in a long together, the planned command
gives one document for each text, in the order in which the texts first appear; and over the same
documents in any other order it gives the same ones up to their order and the width of sums. -/
theorem fetch_sums [Host] (collection : String) {g a : String} (hg : PlainName g) (ha : PlainName a)
    (hgstar : g ≠ "*") (hastar : a ≠ "*") (hne : g ≠ "SUM_" ++ a) {docs : List Document}
    (hdocs : ∀ d ∈ docs, Countable g a d) (hbound : weight a docs ≤ Int64.maxValue.toInt) :
    ∃ plan c rows, Plan.ofSelect (query collection g a) = .ok plan ∧
      Gateway.singleCommand plan = .ok c ∧ Reads c collection docs rows ∧ AreSums g a docs rows ∧
      ∀ docs', docs'.Perm docs →
        ∃ rows', Reads c collection docs' rows' ∧ (rows'.map widened).Perm (rows.map widened) := by
  obtain ⟨plan, hplan, hcommand⟩ := ofSelect_query hg ha hgstar hastar hne collection
  refine ⟨plan, _, _, hplan, hcommand, reads_stages hg ha hne hdocs, areSums_rows hdocs hbound, ?_⟩
  intro docs' hperm
  have hdocs' : ∀ d ∈ docs', Countable g a d := fun d hd => hdocs d (hperm.mem_iff.mp hd)
  exact ⟨_, reads_stages hg ha hne hdocs', perm_rows hperm hdocs hbound⟩

/-- Two texts, one of whose sums no longer fits in an int. -/
theorem fetch_sums_wide :
    let docs : List Document :=
      [[("_id", .int 1), ("g", .string "x"), ("a", .int 2147483647)],
        [("_id", .int 2), ("g", .string "y"), ("a", .long (-5))],
        [("_id", .int 3), ("g", .string "x"), ("a", .int 1)]]
    let s := MemoryStore.holding "t" docs
    (∀ d ∈ docs, Countable "g" "a" d) ∧ weight "a" docs ≤ Int64.maxValue.toInt ∧
      ∃ plan c rows next, Plan.ofSelect (query "t" "g" "a") = .ok plan ∧
        Gateway.singleCommand plan = .ok c ∧ AreSums "g" "a" docs rows ∧
        Ends (fetch store "app" c) { store := s } (.ok rows)
          { store := { s with nextCursor := next } } := by
  intro docs s
  have hdocs : ∀ d ∈ docs, Countable "g" "a" d := by
    simp only [docs, List.mem_cons, List.not_mem_nil, or_false, forall_eq_or_imp, forall_eq]
    refine ⟨⟨by decide, ⟨_, rfl⟩, ⟨_, _, rfl, rfl⟩⟩, ⟨by decide, ⟨_, rfl⟩, ⟨_, _, rfl, rfl⟩⟩,
      ⟨by decide, ⟨_, rfl⟩, ⟨_, _, rfl, rfl⟩⟩⟩
  have hbound : weight "a" docs ≤ Int64.maxValue.toInt := by decide
  obtain ⟨plan, c, rows, hplan, hcommand, hreads, hsums, -⟩ :=
    fetch_sums "t" (g := "g") (a := "a") (by decide) (by decide) (by decide)
      (by decide) (by decide) hdocs hbound
  have hs : s.Reachable := MemoryStore.reachable_holding "t" docs
  obtain ⟨next, hends⟩ := hreads "app" { store := s } hs ⟨rfl, rfl⟩ (by decide) rfl
  exact ⟨hdocs, hbound, plan, c, rows, next, hplan, hcommand, hsums, hends⟩

end GroupedSums

end SqlGateway
