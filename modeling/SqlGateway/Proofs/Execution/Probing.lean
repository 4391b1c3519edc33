import SqlGateway.Execution.Typing
import SqlGateway.Proofs.Store.Projection
import SqlGateway.Proofs.Store.Retrieval

/-! The question for the types of fields, and its answer. The first document of the collection is
asked; fields whose paths differ in nothing but dots and underscores are asked for under one key,
and the last of them is answered for all. -/

namespace SqlGateway.Typing

/-! ### Lists without repetitions -/

/-- What a list keeps of another one that is added item by item, unless an item is there already. -/
theorem foldl_fresh {α β : Type} {key : α → β} {seen? : List α → α → Bool}
    (hseen : ∀ xs x, key x ∉ xs.map key → seen? xs x = false) (xs : List α)
    {more : List α} (h : ((xs ++ more).map key).Nodup) :
    more.foldl (fun seen x => if seen? seen x then seen else seen ++ [x]) xs = xs ++ more := by
  induction more generalizing xs with
  | nil => exact (List.append_nil xs).symm
  | cons x more ih =>
    have hfresh : key x ∉ xs.map key := by
      rw [List.map_append, List.nodup_append] at h
      exact fun hmem => h.2.2 _ hmem _ List.mem_cons_self rfl
    rw [List.append_cons] at h ⊢
    rw [List.foldl_cons, hseen xs x hfresh]
    exact ih _ h

/-- Items that are added unless their keys are there already leave the first ones as they are, and
no key twice. -/
theorem foldl_keyed {α β : Type} {key : α → β} {seen? : List α → α → Bool}
    (hseen : ∀ xs x, seen? xs x = true ↔ key x ∈ xs.map key) {xs : List α}
    (hxs : (xs.map key).Nodup) (more : List α) :
    ∃ added, added ⊆ more ∧ ((xs ++ added).map key).Nodup ∧
      more.foldl (fun seen x => if seen? seen x then seen else seen ++ [x]) xs = xs ++ added := by
  induction more generalizing xs with
  | nil => exact ⟨[], List.Subset.refl _, by simpa using hxs, by simp⟩
  | cons x more ih =>
    rw [List.foldl_cons]
    by_cases hx : key x ∈ xs.map key
    · rw [if_pos ((hseen xs x).mpr hx)]
      obtain ⟨added, hsubset, hdistinct, hfold⟩ := ih hxs
      exact ⟨added, List.subset_cons_of_subset x hsubset, hdistinct, hfold⟩
    · rw [if_neg fun hs => hx ((hseen xs x).mp hs)]
      have hxs' : ((xs ++ [x]).map key).Nodup := by
        have hnew : ∀ k ∈ xs.map key, k ≠ key x := fun k hk heq => hx (heq ▸ hk)
        rw [List.map_append, List.map_singleton, List.nodup_append]
        exact ⟨hxs, by simp, by simpa using hnew⟩
      obtain ⟨added, hsubset, hdistinct, hfold⟩ := ih hxs'
      refine ⟨x :: added, List.cons_subset_cons x hsubset, ?_, ?_⟩
      · rwa [← List.append_cons] at hdistinct
      · rw [hfold, ← List.append_cons]

theorem withoutRepeats_of_nodup {ss : List String} (h : ss.Nodup) : withoutRepeats ss = ss := by
  have hseen (seen : List String) (s : String) (hs : s ∉ seen.map id) :
      seen.contains s = false := by
    simpa using hs
  exact foldl_fresh hseen [] (by simpa using h)

/-- Nothing is lost where items are added unless they are there already. -/
theorem mem_foldl_contains {α : Type} [BEq α] [LawfulBEq α] {x : α} (more seen : List α) :
    x ∈ more.foldl (fun seen y => if seen.contains y then seen else seen ++ [y]) seen ↔
      x ∈ seen ∨ x ∈ more := by
  induction more generalizing seen with
  | nil => simp
  | cons y more ih =>
    rw [List.foldl_cons, ih]
    split
    · next hy =>
      rw [List.contains_iff_mem] at hy
      grind
    · simp [or_assoc]

theorem mem_withoutRepeats {ss : List String} {s : String} : s ∈ withoutRepeats ss ↔ s ∈ ss :=
  (mem_foldl_contains ss []).trans (by simp)

/-! ### Keys of a probe -/

theorem toList_probeKey (name : String) :
    (probeKey name).toList =
      (name.toList.map fun c => if c = '.' then '_' else c) ++ ['T', 'y', 'p', 'e'] := by
  rw [probeKey, String.toList_append, String.toList_ofList]
  rfl

theorem probeKey_ordinary (name : String) :
    probeKey name ≠ "_id" ∧ '.' ∉ (probeKey name).toList := by
  constructor
  · intro heq
    have hlast := congrArg List.getLast? (congrArg String.toList heq)
    rw [toList_probeKey, List.getLast?_append] at hlast
    change some 'e' = some 'd' at hlast
    exact absurd hlast (by decide)
  · have hunderscored : '.' ∉ name.toList.map fun c => if c = '.' then '_' else c := by
      rw [List.mem_map]
      rintro ⟨c, -, hc⟩
      split at hc
      · cases hc
      · contradiction
    rw [toList_probeKey, List.mem_append]
    exact fun hmem => hmem.elim hunderscored (by decide)

theorem probeKey_injective {a b : String} (ha : '.' ∉ a.toList) (hb : '.' ∉ b.toList)
    (h : probeKey a = probeKey b) : a = b := by
  rw [← String.toList_inj, toList_probeKey, toList_probeKey, map_underscore_of_dotless ha,
    map_underscore_of_dotless hb] at h
  exact String.toList_inj.mp (List.append_cancel_right h)

/-! ### Questions -/

/-- Asks for the type of a field. -/
def question (s : String) : Value := .document [("$type", .string ("$" ++ s))]

/-- Asks for the types of fields, each under its key. -/
def questions (sources : List String) : Document :=
  Fields.ofList (sources.map fun s => (probeKey s, question s))

/-- The field that is answered for under the key of a field: the last one with that key. -/
def answered? (sources : List String) (s : String) : Option String :=
  (sources.filter (probeKey · = probeKey s)).getLast?

/-- The first document of a collection is asked. -/
theorem retrieve_probe [Host] {dbs : Databases} {database collection : String} {first : Document}
    {rest : List Document} (hdocs : dbs.documents database collection = first :: rest)
    (sources : List String) :
    dbs.retrieve "aggregate" database (probe collection sources).document =
      (first.project ((questions sources).set idField (.int 0))).map fun answer =>
        ⟨Databases.namespaceOf database collection, [answer], none⟩ := by
  rw [probe, Databases.retrieve_aggregate, hdocs]
  change Except.map _ ((do
    let docs ← [first].mapM (·.project ((questions sources).set idField (.int 0)))
    Except.ok docs) : Except CommandFailure (List Document)) = _
  rw [List.mapM_cons]
  cases first.project ((questions sources).set idField (.int 0)) <;> rfl

theorem evaluate_question {d : Document} {s : String} {w : Option Value} :
    Expression.evaluate d (question s) = .ok w ↔
      ∃ v, Expression.evaluate d (.string ("$" ++ s)) = .ok v ∧
        w = some (.string (TypeTag.ofField v).name) := by
  have hquestion : Expression.evaluate d (question s) = (do
      let v ← Expression.evaluate d (.string ("$" ++ s))
      return some (.string (TypeTag.ofField v).name)) := rfl
  rw [hquestion, Except.bind_eq_ok]
  refine exists_congr fun v => and_congr_right fun _ => ?_
  exact ⟨fun h => (Except.ok.inj h).symm, fun h => congrArg Except.ok h.symm⟩

theorem get?_questions (sources : List String) (s : String) :
    (questions sources).get? (probeKey s) = (answered? sources s).map question := by
  rw [questions, Fields.ofList, Fields.get?_setAll, List.filter_map, List.getLast?_map, answered?,
    Option.map_map]
  simp [Fields.get?, Function.comp_def]

theorem exists_answered {sources : List String} {s : String} (hs : s ∈ sources) :
    ∃ t, answered? sources s = some t ∧ t ∈ sources ∧ probeKey t = probeKey s := by
  have hmem : s ∈ sources.filter (probeKey · = probeKey s) := by simp [hs]
  cases ht : answered? sources s with
  | none =>
    rw [answered?, List.getLast?_eq_none_iff] at ht
    rw [ht] at hmem
    cases hmem
  | some t =>
    obtain ⟨ht, hsame⟩ := List.mem_filter.mp (List.mem_of_getLast? ht)
    exact ⟨t, rfl, ht, of_decide_eq_true hsame⟩

theorem nodup_keys_questions (sources : List String) : (Fields.keys (questions sources)).Nodup :=
  Fields.nodup_keys_setAll (show (Fields.keys []).Nodup from List.nodup_nil) _

theorem mem_questions {sources : List String} {e : String × Value} (he : e ∈ questions sources) :
    ∃ s ∈ sources, e = (probeKey s, question s) ∧ answered? sources s = some s := by
  have hget := Fields.get?_of_mem (nodup_keys_questions sources) he
  have hkey : e.1 ∈ Fields.keys (questions sources) := List.mem_map.mpr ⟨e, he, rfl⟩
  rw [questions, Fields.ofList, Fields.mem_keys_setAll, List.map_map] at hkey
  obtain ⟨s, hs, hkey⟩ := List.mem_map.mp (hkey.resolve_left List.not_mem_nil)
  change probeKey s = e.1 at hkey
  rw [← hkey, get?_questions] at hget
  obtain ⟨t, ht, hquestion⟩ := Option.map_eq_some_iff.mp hget
  obtain ⟨hmem, hsame⟩ := List.mem_filter.mp (List.mem_of_getLast? ht)
  have hsame : probeKey t = probeKey s := of_decide_eq_true hsame
  refine ⟨t, hmem, Prod.ext (hkey.symm.trans hsame.symm) hquestion.symm, ?_⟩
  rw [answered?, hsame]
  exact ht

theorem questions_ne_nil {sources : List String} (h : sources ≠ []) : questions sources ≠ [] := by
  obtain ⟨s, ss, rfl⟩ := List.exists_cons_of_ne_nil h
  have hkey : probeKey s ∈ Fields.keys (questions (s :: ss)) := by
    rw [questions, Fields.ofList, Fields.mem_keys_setAll]
    exact .inr List.mem_cons_self
  rintro hnil
  rw [hnil] at hkey
  cases hkey

theorem questions_ordinary {sources : List String} :
    ∀ e ∈ questions sources, e.1 ≠ "_id" ∧ e.2.flag? = none := by
  intro e he
  obtain ⟨s, -, rfl, -⟩ := mem_questions he
  exact ⟨(probeKey_ordinary s).1, rfl⟩

theorem set_idField_questions (sources : List String) :
    (questions sources).set idField (.int 0) = questions sources ++ [("_id", .int 0)] := by
  refine Fields.set_of_not_mem (fun hmem => ?_) _
  obtain ⟨e, he, hid⟩ := List.mem_map.mp hmem
  exact (questions_ordinary e he).1 hid

/-! ### Answers -/

/-- The answer to a question, if it has one. -/
def answerOf (d : Document) (e : Value) : Value :=
  match Expression.evaluate d e with
  | .ok (some v) => v
  | _ => .null

/-- A document that has a value for every question gives all of them. -/
theorem project_questions {d : Document} {sources : List String} (hsources : sources ≠ [])
    (hvalues : ∀ e ∈ questions sources, ∃ v, Expression.evaluate d e.2 = .ok v) :
    d.project ((questions sources).set idField (.int 0)) =
      .ok ((questions sources).map fun e => (e.1, answerOf d e.2)) := by
  have hcomputes : d.Computes (·.1) (·.2) (fun e => some (answerOf d e.2)) (questions sources) := {
    distinct := nodup_keys_questions sources
    field := fun e he => by
      obtain ⟨s, -, rfl, -⟩ := mem_questions he
      exact probeKey_ordinary s
    computed := fun e he => by
      obtain ⟨w, hw⟩ := hvalues e he
      obtain ⟨s, -, rfl, -⟩ := mem_questions he
      obtain ⟨v, hv, rfl⟩ := evaluate_question.mp hw
      refine ⟨rfl, ?_⟩
      dsimp only at hw ⊢
      rw [answerOf, hw] }
  have hproject := Document.project_computed hcomputes (questions_ne_nil hsources)
  rw [List.map_id'] at hproject
  rw [set_idField_questions, hproject]
  exact congrArg (fun f => Except.ok (f (questions sources))) List.filterMap_eq_map

/-- Each field is answered for with the type of the last one with its key. -/
theorem type_of_answer {d answer : Document} {sources : List String}
    (h : d.project ((questions sources).set idField (.int 0)) = .ok answer) {s : String}
    (hs : s ∈ sources) :
    ∃ t v, answered? sources s = some t ∧ Expression.evaluate d (.string ("$" ++ t)) = .ok v ∧
      answer.get? (probeKey s) = some (.string (TypeTag.ofField v).name) := by
  have hsources : sources ≠ [] := List.ne_nil_of_mem hs
  obtain ⟨t, ht, -, hsame⟩ := exists_answered hs
  have hquestion : (questions sources).get? (probeKey s) = some (question t) := by
    rw [get?_questions, ht]
    rfl
  have hvalues : ∀ e ∈ questions sources, ∃ v, Expression.evaluate d e.2 = .ok v := by
    rw [set_idField_questions] at h
    exact Document.exists_value_of_project (questions_ne_nil hsources) questions_ordinary h
  obtain ⟨w, hw⟩ := hvalues _ (Fields.mem_of_get? hquestion)
  obtain ⟨v, hv, rfl⟩ := evaluate_question.mp hw
  refine ⟨t, v, ht, hv, ?_⟩
  rw [project_questions hsources hvalues] at h
  cases h
  rw [Fields.get?_map, hquestion, Option.map_some, answerOf, hw]

/-- A question that is not answered is one for a variable. -/
theorem exists_answer {d : Document} {sources : List String} (hsources : sources ≠ [])
    (hpaths : ∀ s ∈ sources, s.toList.head? ≠ some '$') :
    ∃ answer, d.project ((questions sources).set idField (.int 0)) = .ok answer := by
  refine ⟨_, project_questions hsources fun e he => ?_⟩
  obtain ⟨s, hs, rfl, -⟩ := mem_questions he
  exact ⟨_, evaluate_question.mpr ⟨_, Expression.evaluate_path (hpaths s hs) d, rfl⟩⟩

/-! ### Types -/

theorem ofName_name_ofField (v : Option Value) :
    TypeTag.ofName (TypeTag.ofField v).name = TypeTag.ofField v := by
  cases v with
  | none => rfl
  | some v => exact TypeTag.ofName_name_ofValue v

/-- The type that an answer tells for a column. -/
def typeIn (answer : Document) (c : ProbeColumn) : TypeTag :=
  .ofName (((answer.get? (probeKey c.source)).bind Value.string?).getD "")

/-- Columns under different names are all given the types that the answer tells. -/
theorem readProbe_eq {answer : Document} {cs : List ProbeColumn} (hkeys : (cs.map (·.key)).Nodup)
    (hanswer : ∀ c ∈ cs, ∃ name, answer.get? (probeKey c.source) = some (.string name))
    (collection : String) :
    readProbe collection answer [] cs = .ok (cs.map fun c => (c.key, typeIn answer c)) := by
  refine Fields.foldlM_fresh (fun c hc types => ?_) hkeys
  obtain ⟨name, hname⟩ := hanswer c hc
  rw [typeIn, hname]
  rfl

/-- A column is given the type that the answer tells, if all columns under its name ask for its
field. -/
theorem get?_readProbe {collection : String} {answer : Document} {cs : List ProbeColumn}
    {before types : TypeMap} (h : readProbe collection answer before cs = .ok types)
    {c : ProbeColumn} (hsame : ∀ other ∈ cs, other.key = c.key → other.source = c.source)
    (hc : c ∈ cs ∨ before.get? c.key = some (typeIn answer c)) :
    types.get? c.key = some (typeIn answer c) := by
  induction cs generalizing before with
  | nil =>
    cases h
    exact hc.resolve_left List.not_mem_nil
  | cons first cs ih =>
    obtain ⟨hfirst, hrest⟩ := List.forall_mem_cons.mp hsame
    rw [readProbe, List.foldlM_cons] at h
    obtain ⟨next, hnext, h⟩ := Except.bind_eq_ok.mp h
    have hset : before.set first.key (typeIn answer first) = next := by
      split at hnext
      · next name hname =>
        rw [typeIn, hname]
        exact Except.ok.inj hnext
      · cases hnext
    refine ih h hrest ?_
    rw [← hset, Fields.get?_set]
    split
    · next hkey =>
      rw [typeIn, hfirst hkey.symm]
      exact .inr rfl
    · next hkey =>
      refine hc.imp_left fun hmem => (List.mem_cons.mp hmem).resolve_left fun heq => hkey ?_
      rw [heq]

/-- Columns that are not named are only added under names of their own. -/
theorem probedColumns_eq {t : ProbeTarget} (hkeys : (t.columns.map (·.key)).Nodup)
    (sample : Document) :
    ∃ added, added ⊆ documentColumns (t.join.map (·.field)) sample ∧
      ((t.columns ++ added).map (·.key)).Nodup ∧ probedColumns t sample = t.columns ++ added := by
  refine foldl_keyed (fun cs c => ?_) hkeys _
  rw [List.any_eq_true, List.mem_map]
  simp only [beq_iff_eq]

/-- Without a join every field but the identifier is a column. -/
theorem exists_of_mem_documentColumns {d : Document} {c : ProbeColumn}
    (hc : c ∈ documentColumns none d) :
    ∃ e ∈ d, e.1 ≠ idField ∧ c = ⟨e.1, stripAggregation e.1, false⟩ := by
  obtain ⟨⟨key, v⟩, he, hc⟩ := List.mem_flatMap.mp hc
  dsimp only at hc
  split at hc
  · cases hc
  next hid =>
  refine ⟨(key, v), he, hid, ?_⟩
  split at hc
  · rw [if_neg (Option.some_ne_none _).symm] at hc
    exact List.mem_singleton.mp hc
  · exact List.mem_singleton.mp hc

theorem joined_of_mem_documentColumns {d : Document} {c : ProbeColumn}
    (hc : c ∈ documentColumns none d) : c.joined = false := by
  obtain ⟨e, -, -, rfl⟩ := exists_of_mem_documentColumns hc
  rfl

/-- A document all of whose fields are named is asked for nothing else. -/
theorem probedColumns_of_keys {collection : String} {columns : List ProbeColumn} {sample : Document}
    (h : ∀ e ∈ sample, e.1 ≠ idField → e.1 ∈ columns.map (·.key)) :
    probedColumns ⟨collection, columns, none⟩ sample = columns := by
  have hseen : ∀ c ∈ documentColumns none sample, columns.any (·.key == c.key) = true := by
    intro c hc
    obtain ⟨e, he, hid, rfl⟩ := exists_of_mem_documentColumns hc
    obtain ⟨other, hother, hkey⟩ := List.mem_map.mp (h e he hid)
    exact List.any_eq_true.mpr ⟨other, hother, beq_iff_eq.mpr hkey⟩
  rw [probedColumns]
  change (documentColumns none sample).foldl _ columns = columns
  generalize documentColumns none sample = more at hseen ⊢
  induction more with
  | nil => rfl
  | cons c more ih =>
    obtain ⟨hc, hseen⟩ := List.forall_mem_cons.mp hseen
    rw [List.foldl_cons, hc, if_pos rfl, ih hseen]

end SqlGateway.Typing
