import SqlGateway.Proofs.Filter.Lowering
import SqlGateway.Proofs.Identifiers.Stores
import SqlGateway.Proofs.Identifiers.Values
import SqlGateway.Proofs.Plan.Writes

/-! Plans name no identifiers, but that the plan of an INSERT names the one that it is given, as that
of the document. So the plan of a statement under another identifier is the plan, renamed. Filters
have no identifiers in them, as no literal has. -/

namespace SqlGateway

open Document

/-! ### Literals and predicates -/

mutual

theorem Literal.idFree_toValue [Host] (l : Literal) : l.toValue.idFree = true := by
  cases l with
  | list items => exact Literal.idFree_toValues items
  | ulong n =>
    rw [toValue]
    split <;> rfl
  | _ => rfl

theorem Literal.idFree_toValues [Host] (ls : List Literal) :
    Value.itemsIdFree (toValues ls) = true := by
  match ls with
  | [] => rfl
  | l :: ls =>
    rw [toValues, Value.itemsIdFree, Literal.idFree_toValue l, Literal.idFree_toValues ls]
    rfl

end

theorem Predicate.idFree_listValue {v : Value} (hv : v.idFree = true) :
    (listValue v).idFree = true := by
  cases v with
  | array vs => exact hv
  | _ => exact Value.idFree_array.mpr (List.forall_mem_singleton.mpr hv)

theorem Predicate.idFree_operator [Host] {p : Predicate} {ops : Document} (h : p.operator = .ok ops) :
    ops.IdFree := by
  have hv : p.value.toValue.idFree = true := p.value.idFree_toValue
  unfold operator at h
  dsimp only at h
  split at h
  case h_11 =>
    obtain ⟨pattern, -, h⟩ := Except.bind_eq_ok.mp h
    cases h
    exact .singleton _ rfl
  case h_12 =>
    obtain ⟨pattern, -, h⟩ := Except.bind_eq_ok.mp h
    cases h
    exact .singleton _ rfl
  all_goals
    cases h
    first
    | exact .singleton _ hv
    | exact .singleton _ (idFree_listValue hv)

theorem Predicate.idFree_condition [Host] {names : Naming} {p : Predicate} {c : Condition}
    (h : p.condition names = .ok c) : c.operator.IdFree := by
  obtain ⟨_, -, h⟩ := Except.bind_eq_ok.mp h
  obtain ⟨ops, hops, h⟩ := Except.bind_eq_ok.mp h
  cases h
  exact idFree_operator hops

/-! ### Filters -/

namespace Filter

variable {target other : Document}

theorem idFree_addConjuncts (ht : target.IdFree) {vs : List Value}
    (hvs : ∀ v ∈ vs, v.idFree = true) : (addConjuncts target vs).IdFree := by
  unfold addConjuncts
  split
  · exact ht.set _ (Value.idFree_array.mpr hvs)
  · next current hcurrent =>
    have hold := Value.idFree_array.mp (ht.get? hcurrent)
    exact ht.set _ (Value.idFree_array.mpr (List.forall_mem_append.mpr ⟨hold, hvs⟩))
  · next v _ hv =>
    have hfirst : (Value.document [("$and", v)]).idFree = true :=
      Value.idFree_document.mpr (.singleton _ (ht.get? hv))
    exact ht.set _ (Value.idFree_array.mpr (List.forall_mem_cons.mpr ⟨hfirst, hvs⟩))

theorem idFree_mergeField (ht : target.IdFree) (key : String) {v : Value} (hv : v.idFree = true) :
    (mergeField target key v).IdFree := by
  have hmoved : (addConjuncts target [.document [(key, v)]]).IdFree :=
    idFree_addConjuncts ht <| List.forall_mem_singleton.mpr <|
      Value.idFree_document.mpr (.singleton key hv)
  unfold mergeField
  dsimp only
  split
  · exact ht.set key hv
  · split
    · split
      · exact idFree_addConjuncts ht (Value.idFree_array.mp hv)
      · exact hmoved
    · exact hmoved
  · next current hcurrent =>
    split
    · split
      · have hboth := (Value.idFree_document.mp (ht.get? hcurrent)).setAll (Value.idFree_document.mp hv)
        exact ht.set key (Value.idFree_document.mpr hboth)
      · exact hmoved
    · exact hmoved
  · exact hmoved

theorem idFree_mergeDocument (ht : target.IdFree) (ho : other.IdFree) :
    (mergeDocument target other).IdFree := by
  rw [mergeDocument]
  induction other generalizing target with
  | nil => exact ht
  | cons e other ih =>
    obtain ⟨he, ho⟩ := List.forall_mem_cons.mp ho
    exact ih (idFree_mergeField ht e.1 he) ho

theorem idFree_ofTerm {t : FilterTerm} (h : ∀ c ∈ t.conditions, c.operator.IdFree) :
    (ofTerm t).IdFree := by
  have hcondition (c : Condition) (hc : c ∈ t.conditions) : c.toDocument.IdFree :=
    .singleton _ (Value.idFree_document.mpr (h c hc))
  have hall (cs : List Condition) (hcs : ∀ c ∈ cs, c ∈ t.conditions) (start : Document)
      (hstart : start.IdFree) :
      (cs.foldl (fun d c => mergeField d c.field (.document c.operator)) start).IdFree := by
    induction cs generalizing start with
    | nil => exact hstart
    | cons c cs ih =>
      obtain ⟨hc, hcs⟩ := List.forall_mem_cons.mp hcs
      exact ih hcs _ (idFree_mergeField hstart _ (Value.idFree_document.mpr (h c hc)))
  cases t with
  | single c => exact hcondition c List.mem_cons_self
  | group connective cs =>
    cases connective with
    | or =>
      refine .singleton _ (Value.idFree_array.mpr fun v hv => ?_)
      obtain ⟨c, hc, rfl⟩ := List.mem_map.mp hv
      exact Value.idFree_document.mpr (hcondition c hc)
    | and => exact hall cs (fun _ hc => hc) [] .nil
    | xor => exact hall cs (fun _ hc => hc) [] .nil

theorem idFree_ofItems {items : List FilterItem}
    (h : ∀ i ∈ items, ∀ c ∈ i.term.conditions, c.operator.IdFree) : (ofItems items).IdFree := by
  induction items with
  | nil => exact .nil
  | cons i items ih =>
    obtain ⟨hi, hitems⟩ := List.forall_mem_cons.mp h
    cases items with
    | nil => exact idFree_ofTerm hi
    | cons next rest =>
      have htail := ih hitems
      rw [ofItems]
      split
      · exact idFree_mergeDocument (idFree_ofTerm hi) htail
      · exact idFree_mergeField (idFree_ofTerm hi) _
          (Value.idFree_array.mpr (List.forall_mem_singleton.mpr (Value.idFree_document.mpr htail)))

/-- The filter of a predicate list has no identifiers. -/
theorem idFree_ofPredicates? [Host] {names : Naming} {ps : List Predicate} {filter : Option Document}
    (h : ofPredicates? names ps = .ok filter) : ∀ d ∈ filter, d.IdFree := by
  rw [ofPredicates?] at h
  split at h
  · cases h
    intro d hd
    cases hd
  · obtain ⟨items, hitems, h⟩ := Except.bind_eq_ok.mp h
    cases h
    rintro _ ⟨rfl⟩
    refine idFree_ofItems fun i hi c hc => ?_
    have hmem : c ∈ items.flatMap (·.term.conditions) := List.mem_flatMap.mpr ⟨i, hi, hc⟩
    obtain ⟨p, -, hp⟩ :=
      Except.exists_of_mem_mapM (FilterItem.conditions_ofPredicates hitems) hmem
    exact Predicate.idFree_condition hp

end Filter

variable {f : ObjectId → ObjectId}

/-! ### Commands -/

namespace Command

/-- Whether a command names no identifier and stores no document. -/
structure Nameless (c : Command) : Prop where
  idFree : c.document.IdFree
  verb : c.verb ≠ .insert

namespace Nameless

variable {c : Command}

theorem of {verb : Verb} (hverb : verb ≠ .insert) (collection : String) :
    (Command.of verb collection).Nameless :=
  ⟨.singleton _ rfl, hverb⟩

theorem withField (h : c.Nameless) (key : String) {v : Value} (hv : v.idFree = true) :
    (c.withField key v).Nameless :=
  ⟨h.idFree.set key hv, h.verb⟩

theorem withField? (h : c.Nameless) (key : String) {v : Option Value}
    (hv : ∀ w ∈ v, w.idFree = true) : (c.withField? key v).Nameless := by
  cases v with
  | none => exact h
  | some v => exact h.withField key (hv v rfl)

/-- What may be a document, or be left out. -/
theorem withDocument? (h : c.Nameless) (key : String) {d : Option Document}
    (hd : ∀ e ∈ d, e.IdFree) : (c.withField? key (d.map .document)).Nameless := by
  refine h.withField? key fun v hv => ?_
  obtain ⟨e, he, rfl⟩ := Option.mem_map.mp hv
  exact Value.idFree_document.mpr (hd e he)

theorem aggregate (collection : String) {stages : List Document} (h : ∀ s ∈ stages, s.IdFree) :
    (Command.aggregate collection stages).Nameless := by
  refine ((of (by decide) collection).withField _ (Value.idFree_array.mpr fun v hv => ?_)).withField _ rfl
  obtain ⟨stage, hstage, rfl⟩ := List.mem_map.mp hv
  exact Value.idFree_document.mpr (h stage hstage)

theorem updateMany (collection : String) {filter change : Document} (hfilter : filter.IdFree)
    (hchange : change.IdFree) : (Command.updateMany collection filter change).Nameless := by
  refine (of (by decide) collection).withField _ (Value.idFree_array.mpr (List.forall_mem_singleton.mpr ?_))
  exact Value.idFree_document.mpr <| .cons (Value.idFree_document.mpr hfilter) <|
    .cons (Value.idFree_document.mpr hchange) (.singleton _ rfl)

theorem deleteMany (collection : String) {filter : Document} (hfilter : filter.IdFree) :
    (Command.deleteMany collection filter).Nameless := by
  refine (of (by decide) collection).withField _ (Value.idFree_array.mpr (List.forall_mem_singleton.mpr ?_))
  exact Value.idFree_document.mpr <| .cons (Value.idFree_document.mpr hfilter) (.singleton _ rfl)

end Nameless

end Command

/-! ### Plans that read -/

namespace Plan

open Command

theorem idFree_ofList_mapM {α : Type} {g : α → Except GatewayError (String × Value)} {xs : List α}
    {fields : List (String × Value)} (h : xs.mapM g = .ok fields)
    (hg : ∀ x e, g x = .ok e → e.2.idFree = true) : Document.IdFree (Fields.ofList fields) := by
  refine IdFree.ofList fun e he => ?_
  obtain ⟨x, -, hx⟩ := Except.exists_of_mem_mapM h he
  exact hg x e hx

theorem idFree_columnExpression {names : Naming} {c : Column} {v : Value}
    (h : columnExpression names c = .ok v) : v.idFree = true := by
  obtain ⟨field, -, h⟩ := Except.bind_eq_ok.mp h
  split at h <;> cases h <;> rfl

theorem idFree_projectionOf {names : Naming} {columns : List Column} {projection : Document}
    (h : projectionOf names columns = .ok projection) : projection.IdFree := by
  obtain ⟨fields, hfields, h⟩ := Except.bind_eq_ok.mp h
  cases h
  refine (idFree_ofList_mapM hfields fun c e he => ?_).set _ rfl
  obtain ⟨_, -, he⟩ := Except.bind_eq_ok.mp he
  obtain ⟨v, hv, he⟩ := Except.bind_eq_ok.mp he
  cases he
  exact idFree_columnExpression hv

theorem idFree_sortOf {names : Naming} {terms : List OrderTerm} {order : Document}
    (h : sortOf names terms = .ok order) : order.IdFree := by
  obtain ⟨fields, hfields, h⟩ := Except.bind_eq_ok.mp h
  cases h
  refine idFree_ofList_mapM hfields fun t e he => ?_
  obtain ⟨_, -, he⟩ := Except.bind_eq_ok.mp he
  cases he
  rfl

theorem idFree_sortStages {names : Naming} {s : Select} {stages : List Document}
    (h : sortStages names s = .ok stages) : ∀ stage ∈ stages, stage.IdFree := by
  unfold sortStages at h
  split at h
  · obtain ⟨order, horder, h⟩ := Except.bind_eq_ok.mp h
    cases h
    exact List.forall_mem_singleton.mpr
      (.singleton _ (Value.idFree_document.mpr (idFree_sortOf horder)))
  · cases h
    exact nofun

theorem idFree_matchStages {filter : Option Document} (h : ∀ d ∈ filter, d.IdFree) :
    ∀ stage ∈ matchStages filter, stage.IdFree := by
  cases filter with
  | none => exact nofun
  | some d =>
    exact List.forall_mem_singleton.mpr (.singleton _ (Value.idFree_document.mpr (h d rfl)))

theorem idFree_windowStages (l : Option Limit) : ∀ stage ∈ windowStages l, stage.IdFree := by
  unfold windowStages
  split
  · exact List.forall_mem_cons.mpr ⟨.singleton _ rfl, List.forall_mem_singleton.mpr (.singleton _ rfl)⟩
  · exact nofun

theorem idFree_lookupStages {j : Join} {stages : List Document} (h : lookupStages j = .ok stages) :
    ∀ stage ∈ stages, stage.IdFree := by
  unfold lookupStages at h
  split at h
  · cases h
  · cases h
    refine List.forall_mem_cons.mpr ⟨.singleton _ rfl, List.forall_mem_singleton.mpr ?_⟩
    refine .singleton _ ?_
    split <;> rfl

theorem idFree_extremumStages (s : Select) : ∀ stage ∈ extremumStages s, stage.IdFree := by
  unfold extremumStages
  dsimp only
  split
  · exact List.forall_mem_singleton.mpr (.singleton _ rfl)
  · exact nofun

theorem idFree_groupKey {names : Naming} {columns : List Column} {key : Value}
    (h : groupKey names columns = .ok key) : key.idFree = true := by
  rw [groupKey] at h
  split at h
  · cases h
    rfl
  · obtain ⟨fields, hfields, h⟩ := Except.bind_eq_ok.mp h
    cases h
    refine Value.idFree_document.mpr (idFree_ofList_mapM hfields fun c e he => ?_)
    obtain ⟨_, -, he⟩ := Except.bind_eq_ok.mp he
    cases he
    rfl

theorem idFree_accumulators {names : Naming} {columns : List Column}
    {fields : List (String × Value)} (h : accumulators names columns = .ok fields) :
    Document.IdFree fields := by
  intro e he
  obtain ⟨⟨c, aggregation⟩, -, hc⟩ := Except.exists_of_mem_mapM h he
  obtain ⟨_, -, hc⟩ := Except.bind_eq_ok.mp hc
  cases hc
  rfl

theorem nameless_distinctCommand [Host] {names : Naming} {s : Select} {c : Command}
    (h : distinctCommand names s = .ok c) : c.Nameless := by
  obtain ⟨column, -, h⟩ := Except.bind_eq_ok.mp h
  obtain ⟨filter, hfilter, h⟩ := Except.bind_eq_ok.mp h
  obtain ⟨field, -, h⟩ := Except.bind_eq_ok.mp h
  cases h
  exact ((Nameless.of (by decide) _).withField _ rfl).withDocument? _
    (Filter.idFree_ofPredicates? hfilter)

theorem nameless_findCommand [Host] {names : Naming} {s : Select} {c : Command}
    (h : findCommand names s = .ok c) : c.Nameless := by
  obtain ⟨filter, hfilter, h⟩ := Except.bind_eq_ok.mp h
  obtain ⟨sort, hsort, h⟩ := Except.bind_eq_ok.mp h
  obtain ⟨projection, hprojection, h⟩ := Except.bind_eq_ok.mp h
  cases h
  have horder : ∀ order ∈ sort, order.IdFree := by
    cases hterms : s.orderBy with
    | none =>
      rw [hterms] at hsort
      cases hsort
      exact nofun
    | some terms =>
      rw [hterms] at hsort
      obtain ⟨order, horder, rfl⟩ := Except.map_eq_ok.mp hsort
      rintro _ ⟨rfl⟩
      exact idFree_sortOf horder
  have hnumber (g : Window → Int64) (w : Option Window) :
      ∀ v ∈ w.map fun w => Value.long (g w), v.idFree = true := by
    intro v hv
    obtain ⟨_, -, rfl⟩ := Option.mem_map.mp hv
    rfl
  have hfind := (Nameless.of (by decide : Verb.find ≠ .insert) s.collection).withDocument? "filter"
    (Filter.idFree_ofPredicates? hfilter)
  have hchosen := hfind.withField "projection"
    (Value.idFree_document.mpr (idFree_projectionOf hprojection))
  exact ((hchosen.withDocument? "sort" horder).withField? "skip" (hnumber Window.skip _)).withField?
    "limit" (hnumber Window.limit _)

theorem nameless_joinCommand [Host] {names : Naming} {j : Join} {s : Select} {c : Command}
    (h : joinCommand names j s = .ok c) : c.Nameless := by
  obtain ⟨lookup, hlookup, h⟩ := Except.bind_eq_ok.mp h
  obtain ⟨filter, hfilter, h⟩ := Except.bind_eq_ok.mp h
  obtain ⟨projection, hprojection, h⟩ := Except.bind_eq_ok.mp h
  obtain ⟨sort, hsort, h⟩ := Except.bind_eq_ok.mp h
  cases h
  have hproject : Document.IdFree [("$project", .document projection)] :=
    .singleton _ (Value.idFree_document.mpr (idFree_projectionOf hprojection))
  refine Nameless.aggregate _ ?_
  simp only [List.forall_mem_append, List.forall_mem_singleton]
  exact ⟨⟨⟨⟨idFree_lookupStages hlookup,
    idFree_matchStages (Filter.idFree_ofPredicates? hfilter)⟩, hproject⟩,
    idFree_sortStages hsort⟩, idFree_windowStages _⟩

theorem nameless_groupingCommand [Host] {names : Naming} {join : Option Join} {s : Select}
    {c : Command} (h : groupingCommand names join s = .ok c) : c.Nameless := by
  obtain ⟨lookup, hlookup, h⟩ := Except.bind_eq_ok.mp h
  obtain ⟨key, hkey, h⟩ := Except.bind_eq_ok.mp h
  obtain ⟨fields, hfields, h⟩ := Except.bind_eq_ok.mp h
  obtain ⟨projection, hprojection, h⟩ := Except.bind_eq_ok.mp h
  obtain ⟨filter, hfilter, h⟩ := Except.bind_eq_ok.mp h
  obtain ⟨sort, hsort, h⟩ := Except.bind_eq_ok.mp h
  cases h
  have hjoin : ∀ stage ∈ lookup, stage.IdFree := by
    cases join with
    | none =>
      cases hlookup
      exact List.forall_mem_nil _
    | some j => exact idFree_lookupStages hlookup
  have hgroup := ((IdFree.singleton "_id" (idFree_groupKey hkey)).setAll
    (idFree_accumulators hfields)).set recordField (v := .document [("$first", .string "$$ROOT")]) rfl
  have hroot {g : String × Value → String × Value} (hg : ∀ e, (g e).2.idFree = true) :
      Document.IdFree [("newRoot", .document [("$mergeObjects", .array
        [.string ("$" ++ recordField), .document (Fields.ofList (fields.map g))])])] := by
    have haggregates : Document.IdFree (Fields.ofList (fields.map g)) :=
      .ofList (List.forall_mem_map.mpr fun e _ => hg e)
    refine .singleton _ (Value.idFree_document.mpr (.singleton _ (Value.idFree_array.mpr ?_)))
    exact List.forall_mem_cons.mpr
      ⟨rfl, List.forall_mem_singleton.mpr (Value.idFree_document.mpr haggregates)⟩
  refine Nameless.aggregate _ ?_
  simp only [List.forall_mem_append, List.forall_mem_cons]
  exact ⟨⟨⟨⟨⟨idFree_extremumStages s, hjoin⟩, .singleton _ (Value.idFree_document.mpr hgroup),
    .singleton _ (Value.idFree_document.mpr (hroot fun _ => rfl)),
    .singleton _ (Value.idFree_document.mpr (idFree_projectionOf hprojection)),
    List.forall_mem_nil _⟩,
    idFree_matchStages (Filter.idFree_ofPredicates? hfilter)⟩, idFree_sortStages hsort⟩,
    idFree_windowStages _⟩

/-- Whether the commands of a plan name no identifiers and store no documents. -/
def Nameless (p : Plan) : Prop := ∀ c ∈ p.commands, c.Nameless

theorem nameless_ofSelect [Host] {s : Select} {p : Plan} (h : ofSelect s = .ok p) :
    p.Nameless := by
  obtain ⟨join, strategy, command, target, hselects, rfl⟩ := ofSelect_eq_ok.mp h
  have hcommand := hselects.runs
  refine List.forall_mem_singleton.mpr ?_
  cases strategy with
  | distinct output => exact nameless_distinctCommand hcommand
  | find => exact nameless_findCommand hcommand
  | joinOnly =>
    cases join with
    | none => cases hcommand
    | some j => exact nameless_joinCommand hcommand
  | grouping => exact nameless_groupingCommand hcommand

/-! ### Plans that change or define -/

theorem idFree_storedValues [Host] (values : Assignments) : (storedValues values).IdFree := by
  refine IdFree.ofList fun e he => ?_
  obtain ⟨⟨column, l⟩, -, rfl⟩ := List.mem_map.mp he
  exact l.idFree_toValue

theorem idFree_getD {filter : Option Document} (h : ∀ d ∈ filter, d.IdFree) :
    (filter.getD []).IdFree := by
  cases filter with
  | none => exact .nil
  | some d => exact h d rfl

theorem nameless_ofUpdate [Host] {collection : String} {values : Assignments}
    {wheres : List Predicate} {p : Plan} (h : ofUpdate collection values wheres = .ok p) :
    p.Nameless := by
  obtain ⟨filter, hfilter, hcommands⟩ := exists_commands_ofUpdate h
  rw [Nameless, hcommands]
  exact List.forall_mem_singleton.mpr <| Nameless.updateMany _
    (idFree_getD (Filter.idFree_ofPredicates? hfilter))
    (.singleton _ (Value.idFree_document.mpr (idFree_storedValues values)))

theorem nameless_ofDelete [Host] {collection : String} {wheres : List Predicate} {p : Plan}
    (h : ofDelete collection wheres = .ok p) : p.Nameless := by
  obtain ⟨filter, hfilter, h⟩ := Except.bind_eq_ok.mp h
  dsimp only at h
  split at h
  · cases h
  cases h
  exact List.forall_mem_singleton.mpr
    (Nameless.deleteMany _ (idFree_getD (Filter.idFree_ofPredicates? hfilter)))

theorem nameless_createIndexes (collection : String) (columns : List String) :
    ∀ c ∈ createIndexes collection columns, c.Nameless := by
  rw [createIndexes]
  split
  · exact List.forall_mem_nil _
  · refine List.forall_mem_singleton.mpr
      ((Nameless.of (by decide) _).withField _ (Value.idFree_array.mpr fun v hv => ?_))
    obtain ⟨column, -, rfl⟩ := List.mem_map.mp hv
    rfl

theorem nameless_dropIndexes (collection : String) (columns : List String) :
    ∀ c ∈ dropIndexes collection columns, c.Nameless := by
  rw [dropIndexes]
  split
  · exact List.forall_mem_nil _
  · refine List.forall_mem_singleton.mpr
      ((Nameless.of (by decide) _).withField _ (Value.idFree_array.mpr fun v hv => ?_))
    obtain ⟨column, -, rfl⟩ := List.mem_map.mp hv
    rfl

theorem nameless_changeAll (collection operator : String) {fields : List (String × Value)}
    (h : ∀ e ∈ fields, e.2.idFree = true) : (changeAll collection operator fields).Nameless :=
  Nameless.updateMany _ .nil (.singleton _ (Value.idFree_document.mpr (.ofList h)))

theorem nameless_alterCommands [Host] (collection : String) (action : AlterAction) :
    ∀ c ∈ alterCommands collection action, c.Nameless := by
  have hcolumn {α : Type} {g : α → String × Value} (hg : ∀ a, (g a).2.idFree = true)
      (columns : List α) : ∀ e ∈ columns.map g, e.2.idFree = true :=
    List.forall_mem_map.mpr fun a _ => hg a
  cases action with
  | addColumns columns =>
    refine List.forall_mem_cons.mpr
      ⟨nameless_changeAll _ _ (hcolumn (fun c => ?_) _), nameless_createIndexes _ _⟩
    dsimp only
    cases c.default with
    | none => rfl
    | some l => exact l.idFree_toValue
  | renameColumns renames =>
    refine List.forall_mem_append.mpr ⟨nameless_dropIndexes _ _, List.forall_mem_cons.mpr ?_⟩
    exact ⟨nameless_changeAll _ _ (hcolumn (fun _ => rfl) _), nameless_createIndexes _ _⟩
  | dropColumns columns =>
    refine List.forall_mem_append.mpr ⟨nameless_dropIndexes _ _, List.forall_mem_singleton.mpr ?_⟩
    exact nameless_changeAll _ _ (hcolumn (fun _ => rfl) _)
  | addConstraint c => exact nameless_createIndexes _ _
  | dropConstraint c => exact nameless_dropIndexes _ _
  | renameConstraint source target =>
    exact List.forall_mem_append.mpr ⟨nameless_dropIndexes _ _, nameless_createIndexes _ _⟩

theorem nameless_ofAlter [Host] {collection : String} {actions : List AlterAction} {p : Plan}
    (h : ofAlter collection actions = .ok p) : p.Nameless := by
  rw [ofAlter] at h
  split at h
  · cases h
  cases h
  intro c hc
  obtain ⟨action, -, hc⟩ := List.mem_flatMap.mp hc
  exact nameless_alterCommands collection action c hc

/-! ### Plans that store -/

theorem labelled_insertedDocument [Host] (id : ObjectId) (autoIncrement : Option String)
    (values : Assignments) : (insertedDocument id autoIncrement values).Labelled [id] := by
  have hstart : Document.Labelled [id] [(idField, .objectId id)] :=
    List.forall_mem_singleton.mpr (.inr ⟨rfl, id, List.mem_singleton_self id, rfl⟩)
  unfold insertedDocument
  refine Labelled.setAll ?_ fun e he => ?_
  · split
    · exact hstart.set _ rfl
    · exact hstart
  · obtain ⟨⟨column, l⟩, -, rfl⟩ := List.mem_map.mp he
    exact l.idFree_toValue

theorem insertedDocument_rename [Host] (id : ObjectId) (autoIncrement : Option String)
    (values : Assignments) :
    insertedDocument (f id) autoIncrement values =
      (insertedDocument id autoIncrement values).rename f := by
  have hvalues (es : Assignments) {g : String × Literal → String × Value}
      (hg : ∀ e, (g e).2 = e.2.toValue) : Document.IdFree (es.map g) :=
    List.forall_mem_map.mpr fun e _ => hg e ▸ e.2.idFree_toValue
  unfold insertedDocument
  dsimp only
  rw [← setAll_rename, Document.rename_of_idFree (hvalues _ ?_)]
  rotate_left
  · exact fun _ => rfl
  cases autoIncrement with
  | none => rfl
  | some column =>
    refine congrArg (Fields.setAll · _) ?_
    exact set_rename [(idField, .objectId id)] column .null

/-- Whether a plan names one identifier at most, as that of the only document that it stores. -/
def NamesOnly (id : ObjectId) (p : Plan) : Prop :=
  p.Nameless ∨ p.shape = .insert ∧ ∃ collection d, p.commands = [insertion collection d] ∧
    d.Labelled [id] ∧ (Fields.get? d "_id").isSome

/-- Every plan but that of an INSERT is made without regard to the identifier, and names none. -/
theorem nameless_ofStatement [Host] {id : ObjectId} {s : Statement} {p : Plan}
    (hinsert : ∀ collection autoIncrement values, s ≠ .insert collection autoIncrement values)
    (h : ofStatement id s = .ok p) : p.Nameless := by
  cases s with
  | insert collection autoIncrement values => exact absurd rfl (hinsert _ _ _)
  | select s => exact nameless_ofSelect h
  | update collection values wheres => exact nameless_ofUpdate h
  | delete collection wheres => exact nameless_ofDelete h
  | create collection columns =>
    cases h
    exact List.forall_mem_cons.mpr ⟨Nameless.of (by decide) collection, nameless_createIndexes _ _⟩
  | alter collection actions => exact nameless_ofAlter h
  | drop collection =>
    cases h
    exact List.forall_mem_singleton.mpr (Nameless.of (by decide) collection)
  | truncate collection =>
    cases h
    exact List.forall_mem_singleton.mpr (Nameless.deleteMany collection .nil)

theorem namesOnly_ofStatement [Host] {id : ObjectId} {s : Statement} {p : Plan}
    (h : ofStatement id s = .ok p) : p.NamesOnly id := by
  by_cases hinsert : ∃ collection autoIncrement values, s = .insert collection autoIncrement values
  · obtain ⟨collection, autoIncrement, values, rfl⟩ := hinsert
    cases h
    exact .inr ⟨rfl, collection, _, rfl, labelled_insertedDocument id autoIncrement values,
      isSome_insertedDocument id autoIncrement values⟩
  · exact .inl (nameless_ofStatement (fun _ _ _ hs => hinsert ⟨_, _, _, hs⟩) h)

theorem namesOnly_ofTree [Host] {id : ObjectId} {t : QueryTree} {p : Plan}
    (h : ofTree id t = .ok p) : p.NamesOnly id := by
  rw [ofTree] at h
  split at h
  · cases h
  · split at h
    · exact namesOnly_ofStatement h
    · cases h

/-! ### Renamed plans -/

/-- A plan with other identifiers. -/
def rename (f : ObjectId → ObjectId) (p : Plan) : Plan :=
  { p with commands := p.commands.map (Command.rename f) }

theorem rename_of_nameless {p : Plan} (h : p.Nameless) : p.rename f = p := by
  rw [rename, List.map_congr_left fun c hc => Command.rename_of_idFree (h c hc).idFree,
    List.map_id']

theorem ofStatement_rename [Host] (id : ObjectId) (s : Statement) :
    ofStatement (f id) s = (ofStatement id s).map (rename f) := by
  by_cases hinsert : ∃ collection autoIncrement values, s = .insert collection autoIncrement values
  · obtain ⟨collection, autoIncrement, values, rfl⟩ := hinsert
    have hcommands := rename_insertion (f := f) collection
      (insertedDocument id autoIncrement values)
    rw [← insertedDocument_rename] at hcommands
    exact congrArg (fun c => Except.ok
      { ofInsert id collection autoIncrement values with commands := [c] }) hcommands.symm
  · have hsame : ofStatement (f id) s = ofStatement id s := by
      cases s with
      | insert => exact absurd ⟨_, _, _, rfl⟩ hinsert
      | _ => rfl
    rw [hsame]
    cases hp : ofStatement id s with
    | error e => rfl
    | ok p =>
      have hp' := nameless_ofStatement (fun _ _ _ hs => hinsert ⟨_, _, _, hs⟩) hp
      exact congrArg Except.ok (rename_of_nameless hp').symm

/-- The plan of a statement under another identifier is the plan, renamed. -/
theorem ofTree_rename [Host] (id : ObjectId) (t : QueryTree) :
    ofTree (f id) t = (ofTree id t).map (rename f) := by
  rw [ofTree, ofTree]
  split
  · rfl
  · split
    · exact ofStatement_rename id _
    · rfl

/-! ### Numbered documents -/

/-- A plan whose inserted documents are given a field. -/
def setInserted (p : Plan) (column : String) (v : Value) : Plan :=
  { p with commands := p.commands.map fun c => (c.setInserted column v).1 }

theorem setInserted_of_ne {c : Command} (hc : c.verb ≠ .insert) (column : String) (v : Value) :
    (c.setInserted column v).1 = c := by
  rw [Command.setInserted]
  split
  · next hverb _ => exact absurd hverb hc
  · rfl

theorem setInserted_insertion (collection : String) (d : Document) (column : String) (v : Value) :
    ((insertion collection d).setInserted column v).1 = insertion collection (d.set column v) := rfl

theorem setInserted_of_nameless {p : Plan} (h : p.Nameless) (column : String) (v : Value) :
    p.setInserted column v = p := by
  rw [setInserted, List.map_congr_left fun c hc => setInserted_of_ne (h c hc).verb column v,
    List.map_id']

theorem NamesOnly.setInserted {id : ObjectId} {p : Plan} (h : p.NamesOnly id) (column : String)
    {v : Value} (hv : v.idFree = true) : (p.setInserted column v).NamesOnly id := by
  rcases h with h | ⟨hshape, collection, d, hcommands, hd, hid⟩
  · exact .inl ((setInserted_of_nameless h column v).symm ▸ h)
  · refine .inr ⟨hshape, collection, d.set column v, ?_, hd.set column hv, ?_⟩
    · rw [Plan.setInserted, hcommands]
      rfl
    · rw [Fields.get?_set]
      split
      · rfl
      · exact hid

theorem setInserted_rename {id : ObjectId} {p : Plan} (h : p.NamesOnly id) (column : String)
    {v : Value} (hv : v.idFree = true) :
    (p.rename f).setInserted column v = (p.setInserted column v).rename f := by
  rcases h with h | ⟨-, collection, d, hcommands, -, -⟩
  · rw [rename_of_nameless h, setInserted_of_nameless h, rename_of_nameless h]
  · have hset : (d.rename f).set column v = Document.rename f (d.set column v) := by
      rw [← set_rename, Value.rename_of_idFree v hv]
    rw [setInserted, setInserted, rename, rename, hcommands]
    refine congrArg (fun cs => { p with commands := cs }) ?_
    rw [List.map_singleton, List.map_singleton, List.map_singleton, List.map_singleton,
      rename_insertion, setInserted_insertion, setInserted_insertion, rename_insertion, hset]

end Plan

end SqlGateway
