import SqlGateway.Proofs.Identifiers.Values
import SqlGateway.Proofs.Store.Update

/-! Documents that hold no identifiers but their own. No change of a document brings others in, and
changing a renamed document is renaming the changed one. -/

namespace SqlGateway

variable {f : ObjectId → ObjectId}

namespace Document

/-- Whether the only identifier in a document is its own, and is one of some. -/
def Labelled (labels : List ObjectId) (d : Document) : Prop :=
  ∀ e ∈ d, e.2.idFree = true ∨ e.1 = "_id" ∧ ∃ id ∈ labels, e.2 = .objectId id

namespace Labelled

variable {labels : List ObjectId} {d : Document}

theorem of_idFree (h : d.IdFree) : d.Labelled labels := fun e he => .inl (h e he)

theorem mono {more : List ObjectId} (h : d.Labelled labels) (hmore : labels ⊆ more) :
    d.Labelled more := fun e he =>
  (h e he).imp_right fun ⟨hkey, id, hid, hv⟩ => ⟨hkey, id, hmore hid, hv⟩

theorem get? (h : d.Labelled labels) {key : String} {v : Value} (hv : d.get? key = some v) :
    v.idFree = true ∨ key = "_id" ∧ ∃ id ∈ labels, v = .objectId id :=
  h _ (Fields.mem_of_get? hv)

/-- A document inside holds no identifiers. -/
theorem idFree_inner (h : d.Labelled labels) {key : String} {inner : Document}
    (hinner : d.get? key = some (.document inner)) : inner.IdFree := by
  rcases h.get? hinner with hfree | ⟨-, id, -, hid⟩
  · exact Value.idFree_document.mp hfree
  · cases hid

theorem set (h : d.Labelled labels) (key : String) {v : Value} (hv : v.idFree = true) :
    Labelled labels (d.set key v) := by
  intro e he
  rcases Fields.mem_of_mem_set he with rfl | he
  · exact .inl hv
  · exact h e he

theorem setAll (h : d.Labelled labels) {more : Document} (hmore : more.IdFree) :
    Labelled labels (d.setAll more) :=
  fun e he => (Fields.mem_of_mem_setAll he).elim (h e) fun he => .inl (hmore e he)

/-- Everywhere but in the field of the identifier there are none. -/
theorem idFree_getPath? (h : d.Labelled labels) {path : String} (hpath : path ≠ "_id") {v : Value}
    (hv : d.getPath? path = some v) : v.idFree = true := by
  obtain ⟨s, ss, hsegments⟩ := List.exists_cons_of_ne_nil (pathSegments_ne_nil path)
  rw [getPath?, hsegments] at hv
  by_cases hss : ss = []
  · rw [hss, getSegments?] at hv
    have hname := eq_of_pathSegments (hss ▸ hsegments)
    exact (h.get? hv).resolve_right fun h => hpath (hname.trans h.1)
  · rw [getSegments?] at hv
    · split at hv
      · next inner hinner => exact (h.idFree_inner hinner).getSegments? hv
      · cases hv
    · exact hss

theorem setPath (h : d.Labelled labels) (path : String) {v : Value} (hv : v.idFree = true) :
    Labelled labels (d.setPath path v) := by
  obtain ⟨s, ss, hsegments⟩ := List.exists_cons_of_ne_nil (pathSegments_ne_nil path)
  rw [setPath_eq, hsegments]
  by_cases hss : ss = []
  · rw [hss]
    exact h.set s hv
  · rw [setSegments]
    · split
      · next inner hinner =>
        exact h.set s (Value.idFree_document.mpr ((h.idFree_inner hinner).setSegments ss hv))
      · exact h.set s (Value.idFree_document.mpr (IdFree.nil.setSegments ss hv))
    · exact hss

theorem removePath (h : d.Labelled labels) (path : String) : Labelled labels (d.removePath path).1 := by
  obtain ⟨s, ss, hsegments⟩ := List.exists_cons_of_ne_nil (pathSegments_ne_nil path)
  rw [removePath_eq, hsegments]
  dsimp only
  by_cases hss : ss = []
  · rw [hss]
    exact fun e he => h e (List.mem_filter.mp he).1
  · rw [eraseSegments]
    · split
      · next inner hinner =>
        exact h.set s (Value.idFree_document.mpr ((h.idFree_inner hinner).eraseSegments ss))
      · exact h
    · exact hss

end Labelled

end Document

namespace Update

open Document

/-! ### Renamed documents -/

theorem ne_identity_of_guard {path : String} (h : guardIdentity path = .ok ()) : path ≠ "_id" := by
  rintro rfl
  cases h

theorem applyField_renamed (op : String) (d : Document) (path : String) {v : Value}
    (hv : v.idFree = true) :
    applyField op (d.rename f) path v = (applyField op d path v).map (rename f) := by
  have hset (v : Value) (hv : v.idFree = true) :
      (d.rename f).setPath path v = (d.setPath path v).rename f := by
    rw [← setPath_rename, Value.rename_of_idFree v hv]
  unfold applyField
  refine Except.bind_eq_map fun _ _ => ?_
  split
  · exact congrArg Except.ok (hset v hv)
  · rw [removePath_rename]
    rfl
  · split
    · refine Except.bind_eq_map fun _ _ => ?_
      rw [removePath_rename]
      cases hremoved : d.removePath path with
      | mk rest moved =>
        cases moved with
        | none => rfl
        | some moved => exact congrArg Except.ok (setPath_rename rest _ moved)
    · rfl
  · have hstart : ((d.rename f).getPath? path).getD (.int 0) =
        ((d.getPath? path).getD (.int 0)).rename f := by
      rw [getPath?_rename]
      cases d.getPath? path <;> rfl
    have hsum : (((d.rename f).getPath? path).getD (.int 0)).add? v =
        ((d.getPath? path).getD (.int 0)).add? v := by
      rw [hstart]
      conv => lhs; rw [← Value.rename_of_idFree (f := f) v hv]
      exact Value.add?_rename _ v
    rw [hsum]
    cases hadd : ((d.getPath? path).getD (.int 0)).add? v with
    | none => rfl
    | some sum => exact congrArg Except.ok (hset sum (Value.idFree_add? hadd))
  · rfl

theorem applyOperator_rename (d : Document) (op : String) {v : Value} (hv : v.idFree = true) :
    applyOperator (d.rename f) op v = (applyOperator d op v).map (rename f) := by
  cases v with
  | document fields =>
    rw [applyOperator, applyOperator]
    refine Except.foldlM_eq_map (P := fun _ => True) (fun e he d _ => ?_) (fun _ _ _ _ _ _ => trivial)
      trivial
    exact applyField_renamed op d e.1 (Value.idFree_document.mp hv e he)
  | _ => rfl

theorem sameDocument_rename (hf : Function.Injective f) (a b : Document) :
    sameDocument (a.rename f) (b.rename f) = sameDocument a b := by
  rw [sameDocument, sameDocument, rename, rename, List.length_map, List.length_map, List.zip_map,
    List.all_map]
  refine congrArg _ (congrArg _ (funext fun e => ?_))
  exact congrArg (e.1.1 == e.2.1 && ·) (Value.same_rename hf e.1.2 e.2.2)

theorem replace_rename (d : Document) {replacement : Document} (hnew : replacement.IdFree) :
    replace (d.rename f) replacement = (replace d replacement).map (rename f) := by
  have hrest : Document.rename f (replacement.filter (·.1 != "_id")) =
      replacement.filter (·.1 != "_id") :=
    rename_of_idFree fun e he => hnew e (List.mem_filter.mp he).1
  have hkept (id : Value) : Except.ok (("_id", id.rename f) :: replacement.filter (·.1 != "_id")) =
      (Except.ok (("_id", id) :: replacement.filter (·.1 != "_id")) :
        Except CommandFailure Document).map (rename f) := by
    change _ = Except.ok (Document.rename f _)
    rw [rename_cons, hrest]
  rw [replace, replace, get?_rename]
  cases d.get? "_id" with
  | none => exact congrArg Except.ok hrest.symm
  | some id =>
    cases hid : replacement.get? "_id" with
    | none => exact hkept id
    | some new =>
      dsimp only [Option.map_some]
      rw [Value.equal_rename_left id new (hnew.get? hid)]
      split
      · exact hkept id
      · rfl

/-- Changing a renamed document is renaming the changed one, and differs as much. -/
theorem apply_rename (hf : Function.Injective f) (d : Document) {change : Document}
    (hchange : change.IdFree) :
    apply (d.rename f) change = (apply d change).map fun r => (r.1.rename f, r.2) := by
  have hdiffers (next : Document) :
      (Except.ok (next.rename f, !sameDocument (d.rename f) (next.rename f)) :
        Except CommandFailure (Document × Bool)) = .ok (next.rename f, !sameDocument d next) := by
    rw [sameDocument_rename hf]
  unfold apply
  split
  · have hoperators {step : Document → String × Value → Except CommandFailure Document}
        (hstep : ∀ d e, step d e = applyOperator d e.1 e.2) :
        change.foldlM step (d.rename f) = (change.foldlM step d).map (rename f) :=
      Except.foldlM_eq_map (P := fun _ => True)
        (fun e he d _ => by rw [hstep, hstep, applyOperator_rename d e.1 (hchange e he)])
        (fun _ _ _ _ _ _ => trivial) trivial
    rw [hoperators fun _ _ => rfl]
    exact Except.map_bind_eq_map fun next _ => hdiffers next
  · rw [replace_rename d hchange]
    exact Except.map_bind_eq_map fun next _ => hdiffers next

/-! ### Labels -/

variable {labels : List ObjectId} {d next : Document}

theorem labelled_applyField {op path : String} {v : Value} (hd : d.Labelled labels)
    (hv : v.idFree = true) (h : applyField op d path v = .ok next) : next.Labelled labels := by
  unfold applyField at h
  obtain ⟨⟨⟩, hpath, h⟩ := Except.bind_eq_ok.mp h
  split at h
  · cases h
    exact hd.setPath path hv
  · cases h
    exact hd.removePath path
  · split at h
    · obtain ⟨⟨⟩, htarget, h⟩ := Except.bind_eq_ok.mp h
      split at h
      · next rest moved hremoved =>
        cases h
        have hmoved : d.getPath? path = some moved := by
          rw [removePath_eq] at hremoved
          exact congrArg Prod.snd hremoved
        have hrest := hd.removePath path
        rw [hremoved] at hrest
        exact hrest.setPath _ (hd.idFree_getPath? (ne_identity_of_guard hpath) hmoved)
      · cases h
        exact hd
    · cases h
  · split at h
    · next sum hsum =>
      cases h
      exact hd.setPath path (Value.idFree_add? hsum)
    · cases h
  · cases h

theorem labelled_applyOperator {op : String} {v : Value} (hd : d.Labelled labels)
    (hv : v.idFree = true) (h : applyOperator d op v = .ok next) : next.Labelled labels := by
  cases v with
  | document fields =>
    have hfields := Value.idFree_document.mp hv
    exact Except.foldlM_preserves (fun e he d d' hd hstep => labelled_applyField hd (hfields e he) hstep)
      hd h
  | _ => cases h

theorem labelled_replace {replacement : Document} (hd : d.Labelled labels)
    (hnew : replacement.IdFree) (h : replace d replacement = .ok next) : next.Labelled labels := by
  have hrest : Document.Labelled labels (replacement.filter (·.1 != "_id")) :=
    .of_idFree fun e he => hnew e (List.mem_filter.mp he).1
  have hkept {id : Value} (hid : d.get? "_id" = some id) :
      Document.Labelled labels (("_id", id) :: replacement.filter (·.1 != "_id")) :=
    List.forall_mem_cons.mpr ⟨hd _ (Fields.mem_of_get? hid), hrest⟩
  rw [replace] at h
  split at h
  · next hid _ =>
    split at h
    · cases h
      exact hkept hid
    · cases h
  · next hid _ =>
    cases h
    exact hkept hid
  · cases h
    exact hrest

/-- A changed document has no other identifiers than before. -/
theorem labelled_apply {change : Document} {differs : Bool} (hd : d.Labelled labels)
    (hchange : change.IdFree) (h : apply d change = .ok (next, differs)) : next.Labelled labels := by
  unfold apply at h
  split at h
  · obtain ⟨d', hd', h⟩ := Except.bind_eq_ok.mp h
    cases h
    exact Except.foldlM_preserves
      (fun e he d d' hd hstep => labelled_applyOperator hd (hchange e he) hstep) hd hd'
  · obtain ⟨d', hd', h⟩ := Except.bind_eq_ok.mp h
    cases h
    exact labelled_replace hd hchange hd'

end Update

end SqlGateway
