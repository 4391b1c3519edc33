import SqlGateway.Proofs.Except
import SqlGateway.Proofs.Value.Fields
import SqlGateway.Proofs.Value.Path
import SqlGateway.Store.Selection

/-! What projections give. Leaving out the identifier keeps all other fields; fields that are
computed stand in the order in which they are asked for, and those without a value are left out. -/

namespace SqlGateway

/-- Whether a name is that of a field as it stands, and not a path, a variable or the identifier. -/
structure PlainName (name : String) : Prop where
  dotless : '.' ∉ name.toList
  undollared : name.toList.head? ≠ some '$'
  ordinary : name ≠ "_id"

instance (name : String) : Decidable (PlainName name) :=
  decidable_of_iff ('.' ∉ name.toList ∧ name.toList.head? ≠ some '$' ∧ name ≠ "_id")
    ⟨fun h => ⟨h.1, h.2.1, h.2.2⟩, fun h => ⟨h.dotless, h.undollared, h.ordinary⟩⟩

namespace Expression

theorem toList_dollar (name : String) : ("$" ++ name).toList = '$' :: name.toList := by
  rw [String.toList_append]
  rfl

/-- A path behind a dollar sign is read at that path, unless it begins with one more. -/
theorem evaluate_path {path : String} (h : path.toList.head? ≠ some '$') (root : Document) :
    evaluate root (.string ("$" ++ path)) = .ok (root.getPath? path) := by
  have hvariable : after? "$$" ("$" ++ path) = none := by
    rw [after?, toList_dollar, if_neg]
    cases hpath : path.toList with
    | nil => decide
    | cons c cs =>
      rw [hpath, List.head?_cons, ne_eq, Option.some.injEq] at h
      simpa using Ne.symm h
  have hpath : after? "$" ("$" ++ path) = some path := by
    rw [after?, toList_dollar, if_pos (by rfl)]
    exact congrArg some String.ofList_toList
  rw [evaluate, ofString, hvariable, hpath]
  rfl

/-- A name behind a dollar sign is read as a field. -/
theorem evaluate_field {name : String} (h : PlainName name) (root : Document) :
    evaluate root (.string ("$" ++ name)) = .ok (root.get? name) := by
  rw [evaluate_path h.undollared, Document.getPath?_of_dotless h.dotless]

end Expression

namespace Document

theorem project_withoutIdentity (d : Document) :
    d.project [("_id", .int 0)] = .ok (Fields.erase d "_id") := by
  change Except.ok (d.removePath "_id").1 = _
  rw [removePath_of_dotless (by decide)]

/-- What a projection computes for a document: fields, each from an expression of its own. -/
structure Computes {α : Type} (d : Document) (key : α → String) (expression : α → Value)
    (value : α → Option Value) (xs : List α) : Prop where
  distinct : (xs.map key).Nodup
  field : ∀ x ∈ xs, key x ≠ "_id" ∧ '.' ∉ (key x).toList
  computed : ∀ x ∈ xs,
    (expression x).flag? = none ∧ Expression.evaluate d (expression x) = .ok (value x)

theorem projectField_computed {d result : Document} {key : String} {e : Value} {v : Option Value}
    (hid : key ≠ "_id") (hdots : '.' ∉ key.toList) (hflag : e.flag? = none)
    (he : Expression.evaluate d e = .ok v) (hfresh : key ∉ Fields.keys result) :
    projectField d result key e = .ok (result ++ (v.map (key, ·)).toList) := by
  rw [projectField, if_neg (by simp [hid]), hflag]
  dsimp only
  rw [he]
  cases v with
  | none => exact congrArg Except.ok (List.append_nil result).symm
  | some v =>
    change Except.ok (result.setPath key v) = _
    rw [setPath_of_dotless hdots, Fields.set_of_not_mem hfresh]
    rfl

section

variable {α : Type} {d : Document} {key : α → String} {expression : α → Value}
  {value : α → Option Value} {xs : List α}

theorem foldlM_computed (h : d.Computes key expression value xs) {result : Document}
    (hfresh : ∀ x ∈ xs, key x ∉ Fields.keys result) :
    (xs.map fun x => (key x, expression x)).foldlM (fun r (k, e) => projectField d r k e) result =
      .ok (result ++ xs.filterMap fun x => (value x).map (key x, ·)) := by
  induction xs generalizing result with
  | nil => exact congrArg Except.ok (List.append_nil result).symm
  | cons x xs ih =>
    obtain ⟨hkey, hdistinct⟩ := List.nodup_cons.mp h.distinct
    obtain ⟨⟨hid, hdots⟩, hfield⟩ := List.forall_mem_cons.mp h.field
    obtain ⟨⟨hflag, he⟩, hcomputed⟩ := List.forall_mem_cons.mp h.computed
    obtain ⟨hkeyfresh, hrestfresh⟩ := List.forall_mem_cons.mp hfresh
    have hfirst : (x :: xs).filterMap (fun x => (value x).map (key x, ·)) =
        ((value x).map (key x, ·)).toList ++ xs.filterMap fun x => (value x).map (key x, ·) := by
      rw [List.filterMap_cons]
      cases value x <;> rfl
    rw [List.map_cons, List.foldlM_cons]
    dsimp only
    rw [projectField_computed hid hdots hflag he hkeyfresh]
    refine (ih ⟨hdistinct, hfield, hcomputed⟩ fun y hy hmem => ?_).trans ?_
    · rw [Fields.keys, List.map_append, List.mem_append] at hmem
      rcases hmem with hmem | hmem
      · exact hrestfresh y hy hmem
      · cases hvalue : value x with
        | none => rw [hvalue] at hmem; cases hmem
        | some v =>
          rw [hvalue] at hmem
          exact hkey (List.mem_map.mpr ⟨y, hy, List.mem_singleton.mp hmem⟩)
    · rw [hfirst, List.append_assoc]

/-- A projection of computed fields without the identifier takes in one after another. -/
theorem project_eq_foldlM {entries : List (String × Value)} (hentries : entries ≠ [])
    (hfield : ∀ e ∈ entries, e.1 ≠ "_id" ∧ e.2.flag? = none) :
    d.project (entries ++ [("_id", .int 0)]) =
      entries.foldlM (fun r (k, e) => projectField d r k e) [] := by
  have hexclusion : isExclusion (entries ++ [("_id", .int 0)]) = false := by
    obtain ⟨e, rest, rfl⟩ := List.exists_cons_of_ne_nil hentries
    obtain ⟨hid, hflag⟩ := hfield e List.mem_cons_self
    have hdropped : e.2.isDropped = false := by
      rw [Value.isDropped, hflag]
      rfl
    rw [isExclusion, List.cons_append, List.filter_cons_of_pos (by simpa using hid), List.all_cons,
      hdropped, Bool.false_and]
  have hidentity : d.keptIdentity (entries ++ [("_id", .int 0)]) = [] := by
    have hget : Fields.get? (entries ++ [("_id", .int 0)]) "_id" = some (.int 0) := by
      rw [← Fields.set_of_not_mem, Fields.get?_set, if_pos rfl]
      intro hmem
      obtain ⟨e, he, hid⟩ := List.mem_map.mp hmem
      exact (hfield e he).1 hid
    rw [keptIdentity, hget]
    rfl
  rw [project, hexclusion, if_neg (by decide), hidentity, List.foldlM_append]
  exact bind_pure _

/-- A projection without the identifier gives the computed fields. -/
theorem project_computed (h : d.Computes key expression value xs) (hxs : xs ≠ []) :
    d.project ((xs.map fun x => (key x, expression x)) ++ [("_id", .int 0)]) =
      .ok (xs.filterMap fun x => (value x).map (key x, ·)) := by
  rw [project_eq_foldlM (by simpa using hxs)]
  · exact foldlM_computed h fun _ _ => List.not_mem_nil
  · intro e he
    obtain ⟨x, hx, rfl⟩ := List.mem_map.mp he
    exact ⟨(h.field x hx).1, (h.computed x hx).1⟩

/-- A projection of one computed field without the identifier. -/
theorem project_single {name : String} (hname : PlainName name)
    {e v : Value} (hflag : e.flag? = none) (he : Expression.evaluate d e = .ok (some v)) :
    d.project [(name, e), ("_id", .int 0)] = .ok [(name, v)] := by
  have hcomputes : d.Computes (fun _ : Unit => name) (fun _ => e) (fun _ => some v) [()] :=
    ⟨List.pairwise_singleton _ _, fun _ _ => ⟨hname.ordinary, hname.dotless⟩, fun _ _ => ⟨hflag, he⟩⟩
  exact project_computed hcomputes (List.cons_ne_nil _ _)

/-- A projection that gives a result has computed every field that it asks for. -/
theorem exists_value_of_project {entries : List (String × Value)} {result : Document}
    (hentries : entries ≠ []) (hfield : ∀ e ∈ entries, e.1 ≠ "_id" ∧ e.2.flag? = none)
    (h : d.project (entries ++ [("_id", .int 0)]) = .ok result) :
    ∀ e ∈ entries, ∃ v, Expression.evaluate d e.2 = .ok v := by
  rw [project_eq_foldlM hentries hfield] at h
  intro e he
  obtain ⟨r, r', hstep⟩ := Except.exists_step_of_foldlM h e he
  obtain ⟨hid, hflag⟩ := hfield e he
  change projectField d r e.1 e.2 = .ok r' at hstep
  rw [projectField, if_neg (by simp [hid]), hflag] at hstep
  obtain ⟨v, hv, -⟩ := Except.bind_eq_ok.mp hstep
  exact ⟨v, hv⟩

end

/-! ### Paths of results -/

/-- Whether an entry of a projection has no part in what a result holds at a path. -/
def Spares (path : String) (e : String × Value) : Prop :=
  e.1 = "_id" ∧ e.2.flag?.isSome ∨ PathsApart e.1 path

section

variable {d result before after : Document} {path : String}

theorem getPath?_projectField_spared {key : String} {v : Value} (h : Spares path (key, v))
    (hstep : projectField d before key v = .ok after) :
    after.getPath? path = before.getPath? path := by
  rw [projectField] at hstep
  split at hstep
  · cases hstep
    rfl
  next hkept =>
  have hapart : PathsApart key path := by
    refine h.resolve_left fun hdropped => hkept ?_
    rw [Bool.and_eq_true, decide_eq_true_iff]
    exact hdropped
  split at hstep
  · split at hstep <;> cases hstep
    · exact getPath?_setPath_apart hapart _ _
    · rfl
  · cases hstep
  · obtain ⟨v, -, hstep⟩ := Except.bind_eq_ok.mp hstep
    cases v with
    | none =>
      cases hstep
      rfl
    | some v =>
      cases hstep
      exact getPath?_setPath_apart hapart _ _

/-- The value of an expression stands in the result at the path of its entry; without one, the
result is left as it is. -/
theorem getPath?_projectField_read {output : String} {e : Value} {w : Option Value}
    (hflag : e.flag? = none) (hvalue : Expression.evaluate d e = .ok w)
    (hstep : projectField d before output e = .ok after) :
    after.getPath? output = w.or (before.getPath? output) := by
  rw [projectField, hflag, if_neg (by simp)] at hstep
  dsimp only at hstep
  rw [hvalue, Except.ok_bind] at hstep
  cases w with
  | none =>
    cases hstep
    rfl
  | some v =>
    cases hstep
    exact getPath?_setPath_self _ _ _

/-- An entry adds no field but the one that leads to its path, and none if it drops a field. -/
theorem mem_projectField {key : String} {v : Value}
    (hstep : projectField d before key v = .ok after) {e : String × Value} (he : e ∈ after) :
    e ∈ before ∨ v.isDropped = false ∧ LeadsTo key e := by
  have hwritten {w : Value} (hv : v.flag? ≠ some false) (he : e ∈ before.setPath key w) :
      e ∈ before ∨ v.isDropped = false ∧ LeadsTo key e :=
    (mem_setPath he).imp_right fun hleads => ⟨by simpa [Value.isDropped] using hv, hleads⟩
  rw [projectField] at hstep
  split at hstep
  · cases hstep
    exact .inl he
  split at hstep
  · next hflag =>
    split at hstep <;> cases hstep
    · exact hwritten (by rw [hflag]; decide) he
    · exact .inl he
  · cases hstep
  · next hflag =>
    obtain ⟨w, -, hstep⟩ := Except.bind_eq_ok.mp hstep
    cases w with
    | none =>
      cases hstep
      exact .inl he
    | some w =>
      cases hstep
      exact hwritten (by rw [hflag]; exact (Option.some_ne_none _).symm) he

theorem nodup_keys_projectField {key : String} {v : Value} (hbefore : (Fields.keys before).Nodup)
    (hstep : projectField d before key v = .ok after) : (Fields.keys after).Nodup := by
  rw [projectField] at hstep
  split at hstep
  · cases hstep
    exact hbefore
  split at hstep
  · split at hstep <;> cases hstep
    · exact nodup_keys_setPath hbefore _ _
    · exact hbefore
  · cases hstep
  · obtain ⟨w, -, hstep⟩ := Except.bind_eq_ok.mp hstep
    cases w with
    | none =>
      cases hstep
      exact hbefore
    | some w =>
      cases hstep
      exact nodup_keys_setPath hbefore _ _

variable {entries : List (String × Value)}

theorem mem_foldlM_projectField
    (hfold : entries.foldlM (fun r (k, v) => projectField d r k v) before = .ok after)
    {e : String × Value} (he : e ∈ after) :
    e ∈ before ∨ ∃ entry ∈ entries, entry.2.isDropped = false ∧ LeadsTo entry.1 e := by
  induction entries generalizing before with
  | nil =>
    cases hfold
    exact .inl he
  | cons entry entries ih =>
    rw [List.foldlM_cons] at hfold
    obtain ⟨next, hnext, hfold⟩ := Except.bind_eq_ok.mp hfold
    rcases ih hfold with he | ⟨other, hother, hleads⟩
    · exact (mem_projectField hnext he).imp_right fun hleads => ⟨entry, List.mem_cons_self, hleads⟩
    · exact .inr ⟨other, List.mem_cons_of_mem _ hother, hleads⟩

theorem nodup_keys_foldlM_projectField (hbefore : (Fields.keys before).Nodup)
    (hfold : entries.foldlM (fun r (k, v) => projectField d r k v) before = .ok after) :
    (Fields.keys after).Nodup := by
  induction entries generalizing before with
  | nil =>
    cases hfold
    exact hbefore
  | cons entry entries ih =>
    rw [List.foldlM_cons] at hfold
    obtain ⟨next, hnext, hfold⟩ := Except.bind_eq_ok.mp hfold
    exact ih (nodup_keys_projectField hbefore hnext) hfold

theorem getPath?_foldlM_spared (h : ∀ e ∈ entries, Spares path e)
    (hfold : entries.foldlM (fun r (k, v) => projectField d r k v) before = .ok after) :
    after.getPath? path = before.getPath? path :=
  Except.foldlM_keeps (getPath? · path) (fun e he _ _ => getPath?_projectField_spared (h e he))
    hfold

theorem getPath?_foldlM_read {output : String} {e : Value} {w : Option Value}
    (hflag : e.flag? = none) (hvalue : Expression.evaluate d e = .ok w)
    (hread : (output, e) ∈ entries)
    (h : ∀ entry ∈ entries, entry = (output, e) ∨ Spares output entry)
    (hfold : entries.foldlM (fun r (k, v) => projectField d r k v) before = .ok after) :
    after.getPath? output = w.or (before.getPath? output) := by
  induction entries generalizing before with
  | nil => cases hread
  | cons entry entries ih =>
    obtain ⟨hentry, hrest⟩ := List.forall_mem_cons.mp h
    rw [List.foldlM_cons] at hfold
    obtain ⟨next, hnext, hmade⟩ := Except.bind_eq_ok.mp hfold
    by_cases hmore : (output, e) ∈ entries
    · rw [ih hmore hrest hmade]
      rcases hentry with rfl | hentry
      · rw [getPath?_projectField_read hflag hvalue hnext, ← Option.or_assoc, Option.or_self]
      · rw [getPath?_projectField_spared hentry hnext]
    · -- the value is read now, and what follows has no part in it
      have hspared : ∀ entry ∈ entries, Spares output entry := fun entry hentry =>
        (hrest entry hentry).resolve_left fun heq => hmore (heq ▸ hentry)
      obtain rfl : (output, e) = entry := (List.mem_cons.mp hread).resolve_right hmore
      rw [getPath?_foldlM_spared hspared hmade, getPath?_projectField_read hflag hvalue hnext]

variable {spec : Document} (hidentity : spec.get? "_id" = some (.int 0))
  (hinclusion : spec.isExclusion = false)

include hidentity hinclusion

/-- A projection that keeps fields and drops the identifier begins with nothing. -/
theorem project_eq_foldlM_nil :
    d.project spec = spec.foldlM (fun r (k, v) => projectField d r k v) [] := by
  have hnone : d.keptIdentity spec = [] := by
    rw [keptIdentity, hidentity]
    rfl
  rw [project, hinclusion, if_neg (by decide), hnone]

/-- Every field of its results leads to an entry that drops nothing. -/
theorem mem_project (hproject : d.project spec = .ok result) {e : String × Value}
    (he : e ∈ result) : ∃ entry ∈ spec, entry.2.isDropped = false ∧ LeadsTo entry.1 e := by
  rw [project_eq_foldlM_nil hidentity hinclusion] at hproject
  exact (mem_foldlM_projectField hproject he).resolve_left List.not_mem_nil

/-- No field stands in its results twice. -/
theorem nodup_keys_project (hproject : d.project spec = .ok result) :
    (Fields.keys result).Nodup := by
  rw [project_eq_foldlM_nil hidentity hinclusion] at hproject
  exact nodup_keys_foldlM_projectField (show (Fields.keys []).Nodup from List.nodup_nil) hproject

theorem getPath?_project_spared (h : ∀ e ∈ spec, Spares path e)
    (hproject : d.project spec = .ok result) : result.getPath? path = none := by
  rw [project_eq_foldlM_nil hidentity hinclusion] at hproject
  rw [getPath?_foldlM_spared h hproject, getPath?, getSegments?_nil]

theorem getPath?_project_read {output : String} {e : Value} {w : Option Value}
    (hflag : e.flag? = none) (hvalue : Expression.evaluate d e = .ok w)
    (hread : (output, e) ∈ spec) (h : ∀ entry ∈ spec, entry = (output, e) ∨ Spares output entry)
    (hproject : d.project spec = .ok result) : result.getPath? output = w := by
  rw [project_eq_foldlM_nil hidentity hinclusion] at hproject
  have hnone : getPath? [] output = none := getSegments?_nil _
  rw [getPath?_foldlM_read hflag hvalue hread h hproject, hnone, Option.or_none]

end

end Document

end SqlGateway
