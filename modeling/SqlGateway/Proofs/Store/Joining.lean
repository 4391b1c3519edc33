import SqlGateway.Plan.Select
import SqlGateway.Proofs.Except
import SqlGateway.Proofs.Value.Path
import SqlGateway.Store.Pipeline

/-! What the two stages of a join leave of the base documents. The first one
puts all partners of a document into one array under the joined field, the
second one takes that array apart again. Together they give one copy of the
document for each partner, in the order of the joined collection; a document
without partners is dropped by an inner join and kept once by a left one. -/

namespace SqlGateway.Pipeline

attribute [local instance] Host.universal

/-! ### Partners -/

/-- The value at a path; a missing one counts as null. -/
def joinKey (path : String) (d : Document) : Value := (d.getPath? path).getD .null

/-- Whether the key of a base document meets that of a joined one: some item of an array equals
it, or the key does that is no array. -/
inductive Meets : Value → Value → Prop where
  | item {items : List Value} {v far : Value} (hmem : v ∈ items) (heq : v.equal far) :
      Meets (.array items) far
  | whole {near far : Value} (harray : ∀ items, near ≠ .array items) (heq : near.equal far) :
      Meets near far

theorem keysMeet_iff (near far : Value) : keysMeet near far = true ↔ Meets near far := by
  constructor
  · intro h
    unfold keysMeet at h
    split at h
    · obtain ⟨v, hv, heq⟩ := List.any_eq_true.mp h
      exact .item hv heq
    · next hother => exact .whole hother h
  · intro h
    cases h with
    | item hmem heq => exact List.any_eq_true.mpr ⟨_, hmem, heq⟩
    | whole harray heq =>
      unfold keysMeet
      split
      · exact absurd rfl (harray _)
      · exact heq

instance (near far : Value) : Decidable (Meets near far) :=
  decidable_of_iff _ (keysMeet_iff near far)

/-- The documents of the joined collection that a base document is paired with. -/
def partnersOf (left right : String) (others : List Document) (b : Document) : List Document :=
  others.filter fun f => Meets (joinKey left b) (joinKey right f)

/-- The results of a join for one base document: a copy with each partner in the joined field,
and, if there are no partners and the join keeps such documents, one copy without that field. -/
def joinOne (kind : JoinKind) (field left right : String) (others : List Document)
    (b : Document) : List Document :=
  let partners := partnersOf left right others b
  partners.map (fun f => b.set field (.document f)) ++
    if kind = .left ∧ partners = [] then [b.erase field] else []

/-! ### The two stages -/

theorem lookup_eq (source : Source) (base : List Document) (collection left right : String)
    {field : String} (hfield : '.' ∉ field.toList) :
    lookup source base [("from", .string collection), ("localField", .string left),
        ("foreignField", .string right), ("as", .string field)] =
      .ok (base.map fun b =>
        b.set field (.array ((partnersOf left right (source collection) b).map .document))) := by
  refine congrArg Except.ok (List.map_congr_left fun b _ => ?_)
  have hpartners : (source collection).filter
      (fun o => keysMeet ((b.getPath? left).getD .null) ((o.getPath? right).getD .null)) =
        partnersOf left right (source collection) b := by
    refine List.filter_congr fun f _ => ?_
    rw [Bool.eq_iff_iff, keysMeet_iff, decide_eq_true_iff]
    rfl
  rw [← hpartners]
  exact Document.setPath_of_dotless hfield _ _

/-- Taking the array in a field apart undoes the writing of that array. -/
theorem unwindOne_set {field : String} (hfield : '.' ∉ field.toList) (keep : Bool)
    (b : Document) (items : List Value) :
    unwindOne field keep (b.set field (.array items)) =
      items.map (fun v => b.set field v) ++ if keep ∧ items = [] then [b.erase field] else [] := by
  have hget : Document.getPath? (b.set field (.array items)) field = some (.array items) := by
    rw [Document.getPath?_of_dotless hfield, Fields.get?_set, if_pos rfl]
  cases items with
  | nil =>
    rw [unwindOne, hget, Document.removePath_of_dotless hfield, Fields.erase_set]
    simp
  | cons v vs =>
    have hcopy : Document.setPath (b.set field (.array (v :: vs))) field = fun w => b.set field w :=
      funext fun w => by rw [Document.setPath_of_dotless hfield, Fields.set_set]
    rw [unwindOne, hget]
    simp [hcopy]

/-- The argument that a join gives to its second stage. -/
def unwindSpec (kind : JoinKind) (field : String) : Value :=
  if kind = .left then
    .document [("path", .string ("$" ++ field)), ("preserveNullAndEmptyArrays", .bool true)]
  else .string ("$" ++ field)

theorem unwindField_unwindSpec (kind : JoinKind) (field : String) :
    unwindField (unwindSpec kind field) = .ok (field, decide (kind = .left)) := by
  have hnamed : ∀ keep, unwindField.named ("$" ++ field) keep = .ok (field, keep) := fun keep => by
    have htext : ("$" ++ field).toList = '$' :: field.toList := by simp
    rw [unwindField.named, htext]
    simp
  unfold unwindSpec
  split
  · next hleft =>
    rw [decide_eq_true hleft]
    exact hnamed true
  · next hother =>
    rw [decide_eq_false hother]
    exact hnamed false

theorem unwind_eq (base : List Document) (kind : JoinKind) {field : String}
    (hfield : '.' ∉ field.toList) (arrays : Document → List Value) :
    unwind (base.map fun b => b.set field (.array (arrays b))) (unwindSpec kind field) =
      .ok (base.flatMap fun b => (arrays b).map (fun v => b.set field v) ++
        if kind = .left ∧ arrays b = [] then [b.erase field] else []) := by
  refine Except.bind_eq_ok.mpr ⟨_, unwindField_unwindSpec kind field, congrArg Except.ok ?_⟩
  rw [List.flatMap_map]
  simp only [unwindOne_set hfield, decide_eq_true_iff]

theorem joinPrefix_dotless {collection : String} (h : '.' ∉ collection.toList) :
    '.' ∉ (joinPrefix collection).toList := by
  simp [joinPrefix, h]

/-- The two stages one after another. -/
theorem run_lookup_unwind [Host] (source : Source) (base : List Document) (spec : Document) (w : Value) :
    run source base [[("$lookup", .document spec)], [("$unwind", w)]] =
      (do unwind (← lookup source base spec) w) := by
  have hstages : run source base [[("$lookup", .document spec)], [("$unwind", w)]] =
      (do
        let docs ← lookup source base spec
        let docs ← unwind docs w
        Except.ok docs) := rfl
  rw [hstages]
  exact bind_congr fun docs => bind_pure (unwind docs w)

/-- The stages of a join on a pair of columns give the base documents one after another, each of
them once for every partner in the joined collection; only a left join adds those without one. -/
theorem run_lookupStages [Host] {j : Join} {on : Relation} {more : List Relation}
    (hon : j.relations = on :: more) (hname : '.' ∉ j.collection.toList)
    (source : Source) (base : List Document) :
    ∃ stages, Plan.lookupStages j = .ok stages ∧
      run source base stages =
        .ok (base.flatMap
          (joinOne j.kind (joinPrefix j.collection) on.left on.right (source j.collection))) := by
  refine ⟨_, by rw [Plan.lookupStages, hon], ?_⟩
  have hfield := joinPrefix_dotless hname
  have hpaired := lookup_eq source base j.collection on.left on.right hfield
  have hapart := unwind_eq base j.kind hfield fun b =>
    (partnersOf on.left on.right (source j.collection) b).map .document
  rw [run_lookup_unwind, hpaired, Except.ok_bind]
  refine hapart.trans ?_
  simp only [List.map_map, List.map_eq_nil_iff]
  rfl

/-- A left join on an array with one partner, on a missing value whose partner misses its own, and
on a value without partners. -/
theorem run_lookupStages_left :
    ∃ stages, Plan.lookupStages
        { collection := "orders", relations := [⟨"ids", "of"⟩], kind := .left } = .ok stages ∧
      run (fun _ => [[("of", .int 2)], [("n", .int 1)]])
          [[("ids", .array [.int 1, .long 2]), ("join_orders", .null)], [("k", .int 7)],
            [("join_orders", .null), ("ids", .string "none")]] stages =
        .ok [[("ids", .array [.int 1, .long 2]), ("join_orders", .document [("of", .int 2)])],
          [("k", .int 7), ("join_orders", .document [("n", .int 1)])],
          [("ids", .string "none")]] := by
  obtain ⟨stages, hstages, hrun⟩ := run_lookupStages
    (j := { collection := "orders", relations := [⟨"ids", "of"⟩], kind := .left }) rfl (by decide)
    (fun _ => [[("of", .int 2)], [("n", .int 1)]])
    [[("ids", .array [.int 1, .long 2]), ("join_orders", .null)], [("k", .int 7)],
      [("join_orders", .null), ("ids", .string "none")]]
  exact ⟨stages, hstages, hrun.trans rfl⟩

end SqlGateway.Pipeline
