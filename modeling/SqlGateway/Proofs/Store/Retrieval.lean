import SqlGateway.Plan.Command
import SqlGateway.Proofs.Except
import SqlGateway.Proofs.Store.Deletion
import SqlGateway.Proofs.Store.Paging

/-! What the commands that read a collection give: a `find` step by step, and an aggregation stage
by stage. With a limit, neither gives more documents than that. -/

namespace SqlGateway

variable [Host]

/-! ### Pipelines -/

namespace Pipeline

/-- Stages behind others begin with what those have left. -/
theorem run_append (source : Source) (docs : List Document) (xs ys : List Document) :
    run source docs (xs ++ ys) = (do run source (← run source docs xs) ys) := by
  induction xs generalizing docs with
  | nil => rfl
  | cons x xs ih =>
    match x with
    | [(name, spec)] =>
      rw [List.cons_append, run, run]
      cases runStage source docs name spec with
      | error f => rfl
      | ok docs => exact ih docs
    | [] => rfl
    | _ :: _ :: _ => rfl

theorem run_singleton (source : Source) (docs : List Document) (name : String) (spec : Value) :
    run source docs [[(name, spec)]] = runStage source docs name spec := by
  rw [run]
  exact bind_pure _

/-- A pipeline that ends with a projection. -/
theorem run_project_eq_ok {source : Source} {docs rows : List Document} {stages : List Document}
    {spec : Document} :
    run source docs (stages ++ [[("$project", .document spec)]]) = .ok rows ↔
      ∃ before, run source docs stages = .ok before ∧ before.mapM (·.project spec) = .ok rows := by
  rw [run_append, Except.bind_eq_ok]
  refine exists_congr fun before => and_congr_right fun _ => ?_
  rw [run_singleton]
  rfl

/-- A stage that sorts. -/
theorem run_sort (source : Source) (docs : List Document) (spec : Document) :
    run source docs [[("$sort", .document spec)]] = Document.sort docs spec :=
  run_singleton source docs "$sort" (.document spec)

/-- A pipeline that ends with a limit gives no more documents than that. -/
theorem length_run_limit {source : Source} {docs rows : List Document} {stages : List Document}
    {n : Int64} (hn : 0 < n.toInt)
    (h : run source docs (stages ++ [[("$limit", .long n)]]) = .ok rows) :
    rows.length ≤ n.toInt.toNat := by
  rw [run_append] at h
  obtain ⟨before, -, h⟩ := Except.bind_eq_ok.mp h
  have hcount : countOf "$limit" (.long n) = .ok n.toInt.toNat := by
    simp only [countOf]
    rw [if_neg (by omega)]
  have htake : run source before [[("$limit", .long n)]] = .ok (before.take n.toInt.toNat) := by
    have hstage : runStage source before "$limit" (.long n) = (do
        let m ← countOf "$limit" (.long n)
        if m = 0 then throw (.badValue "the limit must be positive")
        else return before.take m) := rfl
    rw [run, hstage, hcount, Except.ok_bind, if_neg (by omega)]
    rfl
  rw [htake] at h
  cases h
  exact List.length_take_le _ _

theorem filterAuxM_eq_ok {f : Document} {docs taken matched : List Document} :
    docs.filterAuxM (·.matches f) taken = .ok matched ↔
      (∀ d ∈ docs, f.Evaluates d) ∧ (docs.filter f.accepts).reverse ++ taken = matched := by
  induction docs generalizing taken with
  | nil => exact ⟨fun h => ⟨nofun, Except.ok.inj h⟩, fun h => congrArg Except.ok h.2⟩
  | cons d docs ih =>
    rw [List.filterAuxM, List.forall_mem_cons]
    cases hd : d.matches f with
    | error e =>
      refine ⟨nofun, fun h => ?_⟩
      obtain ⟨b, hb⟩ := h.1.1
      cases hd.symm.trans hb
    | ok b =>
      have haccepts : f.accepts d = b := by rw [Document.accepts, hd]
      have hevaluates : f.Evaluates d := ⟨b, hd⟩
      rw [Except.ok_bind, ih, List.filter_cons, haccepts]
      cases b <;> simp [hevaluates]

/-- Documents are filtered if the filter can be evaluated on all of them. -/
theorem filter_eq_ok {f : Document} {docs matched : List Document} :
    filter docs f = .ok matched ↔
      (∀ d ∈ docs, f.Evaluates d) ∧ docs.filter f.accepts = matched := by
  rw [filter, List.filterM, Except.bind_eq_ok]
  simp only [filterAuxM_eq_ok, List.append_nil]
  constructor
  · rintro ⟨reversed, ⟨hall, rfl⟩, h⟩
    exact ⟨hall, (List.reverse_reverse _).symm.trans (Except.ok.inj h)⟩
  · rintro ⟨hall, rfl⟩
    exact ⟨_, ⟨hall, rfl⟩, congrArg Except.ok (List.reverse_reverse _)⟩

/-- The stage that an item of a pipeline is. -/
def stageOf : Value → Except CommandFailure Document
  | .document stage => .ok stage
  | _ => .error (.typeMismatch "pipeline stages must be objects")

end Pipeline

/-! ### Commands -/

namespace Databases

open Pipeline in
/-- The command of a pipeline runs its stages over the documents of its collection. -/
theorem retrieve_aggregate (dbs : Databases) (database collection : String)
    (stages : List Document) :
    dbs.retrieve "aggregate" database (Command.aggregate collection stages).document =
      (run (dbs.documents database) (dbs.documents database collection) stages).map
        fun docs => ⟨namespaceOf database collection, docs, none⟩ := by
  have haggregate :
      dbs.retrieve "aggregate" database (Command.aggregate collection stages).document = (do
        let stages ← (stages.map Value.document).mapM stageOf
        let docs ← run (dbs.documents database) (dbs.documents database collection) stages
        return ⟨namespaceOf database collection, docs, none⟩) := rfl
  have hstages : (stages.map Value.document).mapM stageOf = .ok stages :=
    Except.mapM_map_ok (g := Value.document) (fun _ => rfl) stages
  rw [haggregate, hstages, Except.ok_bind]
  rfl

/-- A filter that is left out accepts all documents, as an empty one does. -/
theorem filtered_eq_ok {filter : Option Document} {docs matched : List Document} :
    filtered docs filter = .ok matched ↔
      (∀ d ∈ docs, (filter.getD []).Evaluates d) ∧
        docs.filter (filter.getD []).accepts = matched := by
  cases filter with
  | some f => exact Pipeline.filter_eq_ok
  | none =>
    have hall : docs.filter (Document.accepts []) = docs := List.filter_eq_self.mpr fun _ _ => rfl
    rw [Option.getD_none, hall]
    exact ⟨fun h => ⟨fun _ _ => ⟨true, rfl⟩, Except.ok.inj h⟩, fun h => congrArg Except.ok h.2⟩

/-- Documents in an order, if one is asked for. -/
def ordered (docs : List Document) : Option Document → Except CommandFailure (List Document)
  | some order => Document.sort docs order
  | none => .ok docs

/-- Documents up to a limit; a limit of none is no limit. -/
def limited (docs : List Document) : Option Nat → List Document
  | some (n + 1) => docs.take (n + 1)
  | _ => docs

/-- Documents with chosen fields, if some are asked for. -/
def chosen (docs : List Document) : Option Document → Except CommandFailure (List Document)
  | some projection => docs.mapM (·.project projection)
  | none => .ok docs

/-- The steps of a `find`. -/
theorem find_eq (dbs : Databases) (database : String) (command : Document) :
    dbs.find database command = (do
      let name ← CommandField.target command "find"
      let filter ← CommandField.document? command "filter"
      let docs ← filtered (dbs.documents database name) filter
      let order ← CommandField.document? command "sort"
      let docs ← ordered docs order
      let skip ← CommandField.count? command "skip"
      let limit ← CommandField.count? command "limit"
      let projection ← CommandField.document? command "projection"
      let docs ← chosen (limited (docs.drop (skip.getD 0)) limit) projection
      let batchSize ← CommandField.count? command "batchSize"
      return ⟨namespaceOf database name, docs, batchSize⟩) := by
  rw [find]
  refine bind_congr fun name => bind_congr fun filter => bind_congr fun docs => ?_
  -- only where the sort and the projection may be missing are the two written differently
  refine bind_congr fun order => ?_
  cases order <;>
    refine bind_congr fun docs => bind_congr fun skip => bind_congr fun limit => ?_ <;>
    refine bind_congr fun projection => ?_ <;> cases projection <;> rfl

omit [Host] in
theorem limited_of_pos (docs : List Document) {n : Nat} (hn : 0 < n) :
    limited docs (some n) = docs.take n := by
  obtain ⟨m, rfl⟩ := Nat.exists_eq_succ_of_ne_zero (Nat.ne_of_gt hn)
  rfl

omit [Host] in
theorem length_limited (docs : List Document) {n : Nat} (hn : 0 < n) :
    (limited docs (some n)).length ≤ n := by
  rw [limited_of_pos docs hn]
  exact List.length_take_le _ _

/-- A `find` with a limit gives no more documents than that. -/
theorem length_find {dbs : Databases} {database : String} {command : Document} {result : ResultSet}
    {n : Int64} (hn : 0 < n.toInt) (hlimit : command.get? "limit" = some (.long n))
    (h : dbs.find database command = .ok result) : result.documents.length ≤ n.toInt.toNat := by
  have hcount : CommandField.count? command "limit" = .ok (some n.toInt.natAbs) := by
    rw [CommandField.count?, hlimit]
  rw [find_eq] at h
  obtain ⟨name, -, h⟩ := Except.bind_eq_ok.mp h
  obtain ⟨filter, -, h⟩ := Except.bind_eq_ok.mp h
  obtain ⟨matched, -, h⟩ := Except.bind_eq_ok.mp h
  obtain ⟨order, -, h⟩ := Except.bind_eq_ok.mp h
  obtain ⟨sorted, -, h⟩ := Except.bind_eq_ok.mp h
  obtain ⟨skip, -, h⟩ := Except.bind_eq_ok.mp h
  rw [hcount, Except.ok_bind] at h
  obtain ⟨projection, -, h⟩ := Except.bind_eq_ok.mp h
  obtain ⟨docs, hdocs, h⟩ := Except.bind_eq_ok.mp h
  obtain ⟨batchSize, -, h⟩ := Except.bind_eq_ok.mp h
  cases h
  have hlimited := length_limited (sorted.drop (skip.getD 0)) (n := n.toInt.natAbs) (by omega)
  have hchosen : docs.length =
      (limited (sorted.drop (skip.getD 0)) (some n.toInt.natAbs)).length := by
    cases projection with
    | none => cases hdocs; rfl
    | some projection => exact Except.length_mapM hdocs
  dsimp only
  omega

end Databases

end SqlGateway
