import SqlGateway.Proofs.Except
import SqlGateway.Proofs.Identifiers.Values
import SqlGateway.Store.Matching
import SqlGateway.Store.Selection

/-! Filters, expressions and projections under a renaming of identifiers. A filter without identifiers
holds of the same documents whatever the identifiers in them are called. What an expression or a
projection computes of a renamed document is what it computes of the document, renamed. -/

namespace SqlGateway

variable {f : ObjectId → ObjectId}

section

/-! ### Fields -/

namespace Value

theorem candidates_rename (v : Value) : (v.rename f).candidates = v.candidates.map (rename f) := by
  cases v with
  | array vs => rw [rename_array, candidates, candidates, List.map_cons, rename_array]
  | _ => rfl

@[simp] theorem textMatches_rename [Host] (p : Pattern) (v : Value) :
    (v.rename f).textMatches p = v.textMatches p := by
  cases v <;> rfl

end Value

variable [Host]

theorem candidateEquals_rename {expected : Value} (he : expected.idFree = true) (v : Value) :
    candidateEquals expected (v.rename f) = candidateEquals expected v := by
  have hequal := v.equal_rename_left (f := f) expected he
  cases expected with
  | regex r =>
    cases v with
    | regex _ => rfl
    | _ => simp only [candidateEquals, Value.rename, Value.textMatches]
  | _ => simpa only [candidateEquals] using hequal

theorem fieldEquals_rename (actual : Option Value) {expected : Value}
    (he : expected.idFree = true) :
    fieldEquals (actual.map (Value.rename f)) expected = fieldEquals actual expected := by
  cases actual with
  | none => rfl
  | some v =>
    rw [Option.map_some, fieldEquals, fieldEquals, Value.candidates_rename, List.any_map]
    exact congrArg _ (funext fun c => candidateEquals_rename he c)

omit [Host] in
theorem fieldOrdered_rename (actual : Option Value) {bound : Value} (hb : bound.idFree = true)
    (accept : Ordering → Bool) :
    fieldOrdered (actual.map (Value.rename f)) bound accept = fieldOrdered actual bound accept := by
  cases actual with
  | none => rfl
  | some v =>
    have hclass (c : Value) : (c.rename f).sameClass bound = c.sameClass bound := by
      rw [Value.sameClass, Value.sameClass, Value.classRank_rename]
    rw [Option.map_some, fieldOrdered, fieldOrdered, Value.candidates_rename, List.filter_map,
      List.any_map]
    simp only [Function.comp_def, hclass, Value.order_rename_left _ bound hb]

theorem fieldIn_rename (actual : Option Value) {expected : Value} (he : expected.idFree = true) :
    fieldIn (actual.map (Value.rename f)) expected = fieldIn actual expected := by
  cases expected with
  | array vs =>
    have hvs := Value.idFree_array.mp he
    rw [fieldIn, fieldIn]
    refine congrArg Except.ok (Bool.eq_iff_iff.mpr ?_)
    simp only [List.any_eq_true]
    refine exists_congr fun v => and_congr_right fun hv => ?_
    rw [fieldEquals_rename actual (hvs v hv)]
  | _ => rfl

theorem fieldMatchesPattern_rename (actual : Option Value) :
    fieldMatchesPattern (actual.map (Value.rename f)) = fieldMatchesPattern actual := by
  funext p
  cases actual with
  | none => rfl
  | some v =>
    rw [Option.map_some, fieldMatchesPattern, fieldMatchesPattern, Value.candidates_rename,
      List.any_map]
    exact congrArg _ (funext fun c => Value.textMatches_rename p c)

mutual

theorem fieldMatches_rename (actual : Option Value) (condition : Value)
    (hc : condition.idFree = true) :
    fieldMatches (actual.map (Value.rename f)) condition = fieldMatches actual condition := by
  cases condition with
  | document fields =>
    rw [fieldMatches, fieldMatches, operatorsMatch_rename actual _ fields hc,
      fieldEquals_rename actual hc]
  | _ =>
    simp only [fieldMatches]
    exact congrArg Except.ok (fieldEquals_rename actual hc)

theorem operatorsMatch_rename (actual : Option Value) (options : String)
    (operators : List (String × Value)) (ho : Value.fieldsIdFree operators = true) :
    operatorsMatch (actual.map (Value.rename f)) options operators =
      operatorsMatch actual options operators := by
  match operators with
  | [] => rfl
  | (op, operand) :: rest =>
    obtain ⟨hoperand, hrest⟩ := Bool.and_eq_true_iff.mp ho
    simp only [operatorsMatch, fieldEquals_rename actual hoperand,
      fieldOrdered_rename actual hoperand, fieldIn_rename actual hoperand,
      fieldMatchesPattern_rename, Option.isSome_map, fieldMatches_rename actual operand hoperand,
      operatorsMatch_rename actual options rest hrest]

end

/-! ### Documents -/

mutual

theorem satisfies_rename (d : Document) (filter : List (String × Value))
    (hfilter : Value.fieldsIdFree filter = true) :
    satisfies (d.rename f) filter = satisfies d filter := by
  match filter with
  | [] => rfl
  | (key, condition) :: rest =>
    obtain ⟨hcondition, hrest⟩ := Bool.and_eq_true_iff.mp hfilter
    rw [satisfies, satisfies, satisfiesEntry_rename d key condition hcondition,
      satisfies_rename d rest hrest]

theorem satisfiesEntry_rename (d : Document) (key : String) (condition : Value)
    (hcondition : condition.idFree = true) :
    satisfiesEntry (d.rename f) key condition = satisfiesEntry d key condition := by
  have hfield : fieldMatches ((d.rename f).getPath? key) condition =
      fieldMatches (d.getPath? key) condition := by
    rw [Document.getPath?_rename, fieldMatches_rename _ condition hcondition]
  cases condition with
  | array items =>
    simp only [satisfiesEntry, allHold_rename d items hcondition, anyHolds_rename d items hcondition,
      hfield]
  | _ => simp only [satisfiesEntry, hfield]

theorem allHold_rename (d : Document) (items : List Value) (hitems : Value.itemsIdFree items = true) :
    allHold (d.rename f) items = allHold d items := by
  match items with
  | [] => rfl
  | item :: rest =>
    obtain ⟨hitem, hrest⟩ := Bool.and_eq_true_iff.mp hitems
    cases item with
    | document filter =>
      rw [allHold, allHold, satisfies_rename d filter hitem, allHold_rename d rest hrest]
    | _ => simp only [allHold, allHold_rename d rest hrest]

theorem anyHolds_rename (d : Document) (items : List Value)
    (hitems : Value.itemsIdFree items = true) : anyHolds (d.rename f) items = anyHolds d items := by
  match items with
  | [] => rfl
  | item :: rest =>
    obtain ⟨hitem, hrest⟩ := Bool.and_eq_true_iff.mp hitems
    cases item with
    | document filter =>
      rw [anyHolds, anyHolds, satisfies_rename d filter hitem, anyHolds_rename d rest hrest]
    | _ => simp only [anyHolds, anyHolds_rename d rest hrest]

end

/-- A filter without identifiers does not tell documents apart by those in them. -/
theorem Document.matches_rename (d : Document) {filter : Document} (hfilter : filter.IdFree) :
    (d.rename f).matches filter = d.matches filter :=
  satisfies_rename d filter (Value.fieldsIdFree_iff.mpr hfilter)

end

namespace Expression

/-- The outcome of an evaluation with other identifiers. -/
def renamed (f : ObjectId → ObjectId) (v : Evaluated) : Evaluated :=
  v.map (Option.map (Value.rename f))

theorem ofString_rename (root : Document) (s : String) :
    ofString (root.rename f) s = renamed f (ofString root s) := by
  unfold ofString
  split
  · split
    · exact congrArg (fun v => Except.ok (some v)) (Value.rename_document root).symm
    · split
      · exact congrArg Except.ok (Document.getPath?_rename root _)
      · rfl
  · split
    · exact congrArg Except.ok (Document.getPath?_rename root _)
    · rfl

/-! ### Operators -/

theorem onlyArgument_rename (op : String) (arguments : List Evaluated) :
    onlyArgument op (arguments.map (renamed f)) = renamed f (onlyArgument op arguments) := by
  match arguments with
  | [] => rfl
  | [_] => rfl
  | _ :: _ :: _ => rfl

theorem ofField_rename (v : Option Value) :
    TypeTag.ofField (v.map (Value.rename f)) = TypeTag.ofField v := by
  cases v with
  | none => rfl
  | some v => exact Value.ofValue_rename v

theorem mergeObjects_rename (merged : Document) (arguments : List Evaluated) :
    mergeObjects (merged.rename f) (arguments.map (renamed f)) =
      (mergeObjects merged arguments).map (Document.rename f) := by
  induction arguments generalizing merged with
  | nil => rfl
  | cons v vs ih =>
    rw [List.map_cons, mergeObjects, mergeObjects]
    refine Except.map_bind_eq_map fun v _ => ?_
    cases v with
    | none => exact ih merged
    | some v =>
      cases v with
      | document d =>
        rw [Option.map_some, Value.rename_document]
        dsimp only
        rw [Document.setAll_rename]
        exact ih _
      | null => exact ih merged
      | array vs => rw [Option.map_some, Value.rename_array]; rfl
      | _ => rfl

theorem firstPresent_rename (arguments : List Evaluated) :
    firstPresent (arguments.map (renamed f)) = renamed f (firstPresent arguments) := by
  induction arguments with
  | nil => rfl
  | cons v vs ih =>
    rw [List.map_cons, firstPresent, firstPresent]
    refine Except.map_bind_eq_map fun v _ => ?_
    cases v with
    | none => exact ih
    | some v => cases v <;> first | exact ih | rfl

theorem apply_rename (op : String) {operand : Value} (ho : operand.idFree = true)
    (arguments : List Evaluated) :
    apply op operand (arguments.map (renamed f)) = renamed f (apply op operand arguments) := by
  unfold apply
  split
  · exact congrArg (fun v => Except.ok (some v)) (Value.rename_of_idFree operand ho).symm
  · rw [onlyArgument_rename]
    refine Except.map_bind_eq_map fun v _ => ?_
    cases v with
    | none => rfl
    | some v =>
      cases v with
      | array items =>
        rw [Option.map_some, Value.rename_array]
        dsimp only
        rw [List.length_map]
        rfl
      | _ => rfl
  · rw [onlyArgument_rename]
    refine Except.map_bind_eq_map fun v _ => ?_
    rw [ofField_rename]
    rfl
  · have hmerge := mergeObjects_rename (f := f) [] arguments
    rw [Document.rename_nil] at hmerge
    rw [hmerge]
    refine Except.map_bind_eq_map fun d _ => ?_
    exact congrArg (fun v => Except.ok (some v)) (Value.rename_document d).symm
  · exact firstPresent_rename arguments
  · rfl

/-! ### Evaluation -/

mutual

/-- An expression without identifiers gives the same of a renamed document, renamed. -/
theorem evaluate_rename (root : Document) (e : Value) (he : e.idFree = true) :
    evaluate (root.rename f) e = renamed f (evaluate root e) := by
  cases e with
  | string s => exact ofString_rename root s
  | document fields =>
    rw [evaluate, evaluate]
    split
    · exact evaluateOperation_rename root fields he
    · rw [evaluateFields_rename root fields he]
      refine Except.map_bind_eq_map fun d _ => ?_
      exact congrArg (fun v => Except.ok (some v)) (Value.rename_document d).symm
  | array items =>
    rw [evaluate, evaluate, evaluateEach_rename root items he, List.mapM_map,
      Function.comp_def]
    have hitem (v : Evaluated) :
        (do return (← renamed f v).getD .null : Except CommandFailure Value) =
          (do return (← v).getD .null : Except CommandFailure Value).map (Value.rename f) :=
      Except.map_bind_eq_map fun v _ => by cases v <;> rfl
    rw [Except.mapM_eq_map_mapM (h := Value.rename f) fun v _ => hitem v]
    refine Except.map_bind_eq_map fun vs _ => ?_
    exact congrArg (fun v => Except.ok (some v)) (Value.rename_array vs).symm
  | objectId id => cases he
  | codeWithScope s scope =>
    exact congrArg (fun v => Except.ok (some v)) (Value.rename_of_idFree _ he).symm
  | _ => rfl

theorem evaluateOperation_rename (root : Document) (fields : List (String × Value))
    (he : Value.fieldsIdFree fields = true) :
    evaluateOperation (root.rename f) fields = renamed f (evaluateOperation root fields) := by
  match fields with
  | [] => rfl
  | [(op, operand)] =>
    obtain ⟨hoperand, -⟩ := Bool.and_eq_true_iff.mp he
    cases operand with
    | array items =>
      rw [evaluateOperation, evaluateOperation, evaluateEach_rename root items hoperand,
        apply_rename op hoperand]
    | _ =>
      simp only [evaluateOperation, evaluate_rename root _ hoperand]
      exact apply_rename op hoperand [_]
  | (_, operand) :: _ :: _ => cases operand <;> rfl

theorem evaluateFields_rename (root : Document) (fields : List (String × Value))
    (he : Value.fieldsIdFree fields = true) :
    evaluateFields (root.rename f) fields =
      (evaluateFields root fields).map (Document.rename f) := by
  match fields with
  | [] => rfl
  | (key, e) :: rest =>
    obtain ⟨he, hrest⟩ := Bool.and_eq_true_iff.mp he
    rw [evaluateFields, evaluateFields, evaluate_rename root e he,
      evaluateFields_rename root rest hrest]
    refine Except.map_bind_eq_map fun v _ => ?_
    cases v with
    | none => rfl
    | some v => exact Except.map_bind_eq_map fun d _ => rfl

theorem evaluateEach_rename (root : Document) (es : List Value)
    (he : Value.itemsIdFree es = true) :
    evaluateEach (root.rename f) es = (evaluateEach root es).map (renamed f) := by
  match es with
  | [] => rfl
  | e :: es =>
    obtain ⟨he, hes⟩ := Bool.and_eq_true_iff.mp he
    rw [evaluateEach, evaluateEach, evaluate_rename root e he, evaluateEach_rename root es hes,
      List.map_cons]

end

end Expression

/-! ### Projections -/

namespace Document

variable {d : Document}

theorem projectField_rename (d result : Document) (key : String) {v : Value}
    (hv : v.idFree = true) :
    projectField (d.rename f) (result.rename f) key v =
      (projectField d result key v).map (rename f) := by
  rw [projectField, projectField]
  split
  · rfl
  split
  · rw [getPath?_rename]
    cases d.getPath? key with
    | none => rfl
    | some found => exact congrArg Except.ok (setPath_rename result key found)
  · rfl
  · rw [Expression.evaluate_rename d v hv]
    refine Except.map_bind_eq_map fun computed _ => ?_
    cases computed with
    | none => rfl
    | some computed => exact congrArg Except.ok (setPath_rename result key computed)

theorem keptIdentity_rename (d spec : Document) :
    (d.rename f).keptIdentity spec = (d.keptIdentity spec).rename f := by
  rw [keptIdentity, keptIdentity, get?_rename]
  split
  · rfl
  · cases d.get? "_id" <;> rfl

theorem removePaths_rename (paths : List (String × Value)) (d : Document) :
    paths.foldl (fun r (key, _) => (r.removePath key).1) (d.rename f) =
      (paths.foldl (fun r (key, _) => (r.removePath key).1) d).rename f := by
  induction paths generalizing d with
  | nil => rfl
  | cons path paths ih =>
    rw [List.foldl_cons, List.foldl_cons]
    dsimp only
    rw [removePath_rename]
    exact ih _

/-- A projection without identifiers chooses the same of a renamed document, renamed. -/
theorem project_rename (d : Document) {spec : Document} (hspec : spec.IdFree) :
    (d.rename f).project spec = (d.project spec).map (rename f) := by
  rw [project, project]
  split
  · exact congrArg Except.ok (removePaths_rename _ d)
  · rw [keptIdentity_rename]
    refine Except.foldlM_eq_map (P := fun _ => True) (fun e he r _ => ?_) (fun _ _ _ _ _ _ => trivial)
      trivial
    exact projectField_rename d r e.1 (hspec e he)

end Document

end SqlGateway
