import Mathlib.Data.List.InsertIdx
import SqlGateway.Proofs.Identifiers.Labels
import SqlGateway.Proofs.Identifiers.Expressions
import SqlGateway.Proofs.Store.Collection

/-! Collections under a renaming of identifiers. Documents have different identifiers, so that no
two of them clash by one, and no message of a clash shows any. What is done to a renamed collection
is what is done to the collection, renamed, with the same answer. -/

namespace SqlGateway

variable {f : ObjectId → ObjectId}

/-! ### Clashes -/

namespace Document

/-- Whether two documents have no identifier in common. -/
def Alien (d e : Document) : Prop :=
  ∀ id, d.get? "_id" = some (.objectId id) → e.get? "_id" ≠ some (.objectId id)

theorem Alien.symm {d e : Document} (h : d.Alien e) : e.Alien d := fun id he hd => h id hd he

theorem alien_of_tells {d e : Document} (h : Index.identity.Tells d e) : d.Alien e := by
  intro id hd he
  obtain ⟨field, hfield, hdiffer⟩ := Index.tells_iff.mp h
  have hname : field = "_id" := List.mem_singleton.mp hfield
  have hdot : '.' ∉ "_id".toList := by decide
  rw [hname, getPath?_of_dotless hdot, getPath?_of_dotless hdot, hd, he, Option.getD_some,
    Value.equal, Value.order_self] at hdiffer
  cases hdiffer

end Document

namespace Index

variable {labels : List ObjectId}

theorem keyOf_rename (i : Index) (d : Document) :
    i.keyOf (d.rename f) = (i.keyOf d).map (Value.rename f) := by
  rw [keyOf, keyOf, List.map_map]
  refine List.map_congr_left fun field _ => ?_
  dsimp only [Function.comp_def]
  rw [Document.getPath?_rename]
  cases d.getPath? field <;> rfl

theorem keysEqual_rename (hf : Function.Injective f) (a b : List Value) :
    keysEqual (a.map (Value.rename f)) (b.map (Value.rename f)) = keysEqual a b := by
  rw [keysEqual, keysEqual, List.zip_map, List.all_map]
  exact congrArg _ (funext fun e => Value.equal_rename hf e.1 e.2)

theorem eq_of_equal_objectId {v : Value} {id : ObjectId} (h : v.equal (.objectId id) = true) :
    v = .objectId id := by
  have heq : v.order (.objectId id) = .eq := by simpa [Value.equal] using h
  have hsame : ∃ other, v = .objectId other := by
    cases v <;> first | exact ⟨_, rfl⟩ | cases heq
  obtain ⟨other, rfl⟩ := hsame
  have hbits : compare other.bits.toNat id.bits.toNat = .eq := heq
  rw [Value.bits_toNat_injective (Std.LawfulEqOrd.compare_eq_iff_eq.mp hbits)]

/-- Documents that have the same key and no identifier in common have no identifier in it. -/
theorem idFree_of_keysEqual {i : Index} {o d : Document} (hd : d.Labelled labels) (halien : o.Alien d)
    (hkeys : keysEqual (i.keyOf o) (i.keyOf d) = true) : ∀ v ∈ i.keyOf d, v.idFree = true := by
  intro v hv
  obtain ⟨field, hfield, rfl⟩ := List.mem_map.mp hv
  cases hvalue : d.getPath? field with
  | none => rfl
  | some v =>
    rw [Option.getD_some]
    by_cases hname : field = "_id"
    · have hdot : '.' ∉ "_id".toList := by decide
      have hequal : ((o.getPath? field).getD .null).equal ((d.getPath? field).getD .null) = true := by
        rw [← Bool.not_eq_false]
        intro hdiffer
        have htells := Index.tells_iff.mpr ⟨field, hfield, hdiffer⟩
        rw [Tells, hkeys] at htells
        cases htells
      rw [hvalue, Option.getD_some] at hequal
      rw [hname, Document.getPath?_of_dotless hdot] at hvalue hequal
      rcases hd.get? hvalue with hfree | ⟨-, id, -, rfl⟩
      · exact hfree
      · have hother := eq_of_equal_objectId hequal
        cases hget : o.get? "_id" with
        | none => rw [hget] at hother; cases hother
        | some w =>
          rw [hget, Option.getD_some] at hother
          exact absurd hvalue (halien id (hother ▸ hget))
    · exact hd.idFree_getPath? hname hvalue

end Index

namespace Collection

variable {labels : List ObjectId} {ns : String}

theorem clash?_rename (hf : Function.Injective f) (indexes : List Index) (others : List Document)
    (d : Document) :
    clash? indexes (others.map (Document.rename f)) (d.rename f) = clash? indexes others d := by
  rw [clash?, clash?]
  refine congrArg (List.find? · indexes) (funext fun i => congrArg _ ?_)
  rw [List.any_map]
  refine congrArg _ (funext fun o => ?_)
  dsimp only [Function.comp_def]
  rw [Index.keyOf_rename, Index.keyOf_rename, Index.keysEqual_rename hf]

/-- A clash shows no identifiers. -/
theorem violation?_rename (hf : Function.Injective f) {indexes : List Index} {others : List Document}
    {d : Document} (hd : d.Labelled labels) (halien : ∀ o ∈ others, o.Alien d) :
    violation? indexes ns (others.map (Document.rename f)) (d.rename f) =
      violation? indexes ns others d := by
  rw [violation?, violation?, clash?_rename hf]
  cases hclash : clash? indexes others d with
  | none => rfl
  | some i =>
    have hfound := List.find?_some hclash
    rw [Bool.and_eq_true, List.any_eq_true] at hfound
    obtain ⟨-, o, ho, hkeys⟩ := hfound
    have hfree := Index.idFree_of_keysEqual hd (halien o ho) hkeys
    have hkey : i.keyOf (d.rename f) = i.keyOf d := by
      rw [Index.keyOf_rename]
      exact (List.map_congr_left fun v hv => Value.rename_of_idFree v (hfree v hv)).trans
        (List.map_id _)
    rw [Option.map_some, Option.map_some, hkey]

/-! ### Collections -/

/-- A collection with other identifiers. -/
def rename (f : ObjectId → ObjectId) (c : Collection) : Collection :=
  { c with documents := c.documents.map (Document.rename f) }

/-- Whether the documents of a collection hold no identifiers but their own, which are among some. -/
def Labelled (labels : List ObjectId) (c : Collection) : Prop :=
  ∀ d ∈ c.documents, d.Labelled labels

variable {c : Collection}

theorem Sound.alien (h : c.Sound) : c.documents.Pairwise Document.Alien := by
  have hidentity : Index.identity ∈ c.indexes := List.mem_of_mem_head? h.identity
  exact (h.separated _ hidentity rfl).imp Document.alien_of_tells

theorem Labelled.mono {more : List ObjectId} (h : c.Labelled labels) (hmore : labels ⊆ more) :
    c.Labelled more := fun d hd => (h d hd).mono hmore

/-! ### Indexes -/

theorem indexViolation?_rename (hf : Function.Injective f) (i : Index) {before docs : List Document}
    (hdocs : ∀ d ∈ docs, d.Labelled labels) (halien : (before ++ docs).Pairwise Document.Alien) :
    indexViolation? ns i (before.map (Document.rename f)) (docs.map (Document.rename f)) =
      indexViolation? ns i before docs := by
  induction docs generalizing before with
  | nil => rfl
  | cons d docs ih =>
    obtain ⟨hd, hdocs⟩ := List.forall_mem_cons.mp hdocs
    have hothers : ∀ o ∈ before, o.Alien d := fun o ho =>
      (List.pairwise_append.mp halien).2.2 o ho d List.mem_cons_self
    have hnext : (before ++ [d] ++ docs).Pairwise Document.Alien := by
      rwa [List.append_assoc, List.singleton_append]
    have hrest := ih hdocs hnext
    rw [List.map_append, List.map_singleton] at hrest
    rw [List.map_cons, indexViolation?, indexViolation?, violation?_rename hf hd hothers, hrest]

theorem addIndex_rename (hf : Function.Injective f) (hc : c.Sound) (hlabels : c.Labelled labels)
    (i : Index) : addIndex ns (c.rename f) i = (addIndex ns c i).map (rename f) := by
  have hviolation : indexViolation? ns i [] (c.documents.map (Document.rename f)) =
      indexViolation? ns i [] c.documents := by
    have halien : ([] ++ c.documents).Pairwise Document.Alien := hc.alien
    exact indexViolation?_rename hf i hlabels halien
  have hindexes : (c.rename f).indexes = c.indexes := rfl
  have hdocuments : (c.rename f).documents = c.documents.map (Document.rename f) := rfl
  rw [addIndex, addIndex, hindexes, hdocuments, hviolation]
  split
  · split <;> rfl
  · split <;> rfl

theorem labelled_addIndex (hlabels : c.Labelled labels) {i : Index} {c' : Collection}
    (h : addIndex ns c i = .ok c') : c'.Labelled labels := by
  rw [addIndex] at h
  split at h
  · split at h
    · cases h
      exact hlabels
    · cases h
  · split at h
    · cases h
    · cases h
      exact hlabels

theorem addIndexes_rename (hf : Function.Injective f) (hc : c.Sound) (hlabels : c.Labelled labels)
    (specs : List Value) :
    addIndexes ns (c.rename f) specs =
      ((addIndexes ns c specs).1.rename f, (addIndexes ns c specs).2) := by
  induction specs generalizing c with
  | nil => rfl
  | cons spec specs ih =>
    have hadd : (do addIndex ns (c.rename f) (← Index.ofSpec spec) :
          Except CommandFailure Collection) =
        (do addIndex ns c (← Index.ofSpec spec) : Except CommandFailure Collection).map
          (rename f) :=
      Except.bind_eq_map fun i _ => addIndex_rename hf hc hlabels i
    rw [addIndexes, addIndexes, hadd]
    cases hnext : (do addIndex ns c (← Index.ofSpec spec) : Except CommandFailure Collection) with
    | error e => rfl
    | ok next =>
      obtain ⟨i, -, hi⟩ := Except.bind_eq_ok.mp hnext
      exact ih (hc.addIndex hi) (labelled_addIndex hlabels hi)

theorem labelled_addIndexes (hlabels : c.Labelled labels) (specs : List Value) :
    (addIndexes ns c specs).1.Labelled labels := by
  induction specs generalizing c with
  | nil => exact hlabels
  | cons spec specs ih =>
    rw [addIndexes]
    split
    · next hadd =>
      obtain ⟨i, -, hi⟩ := Except.bind_eq_ok.mp hadd
      exact ih (labelled_addIndex hlabels hi)
    · exact hlabels

theorem dropIndexes_rename (c : Collection) (selector : Option Value) :
    (c.rename f).dropIndexes selector = (c.dropIndexes selector).map (rename f) :=
  Except.bind_eq_map fun _ _ => Except.bind_eq_map fun _ _ => rfl

theorem labelled_dropIndexes (hlabels : c.Labelled labels) {selector : Option Value}
    {c' : Collection} (h : c.dropIndexes selector = .ok c') : c'.Labelled labels := by
  obtain ⟨names, -, h⟩ := Except.bind_eq_ok.mp h
  obtain ⟨_, -, h⟩ := Except.bind_eq_ok.mp h
  cases h
  exact hlabels

/-! ### Changing -/

variable [Host]

theorem positions_rename {filter : Document} (hfilter : filter.IdFree) (multi : Bool) (start : Nat)
    (docs : List Document) :
    positions filter multi start (docs.map (Document.rename f)) =
      positions filter multi start docs := by
  induction docs generalizing start with
  | nil => rfl
  | cons d docs ih =>
    rw [List.map_cons, positions, positions, Document.matches_rename d hfilter, ih]

omit [Host] in
theorem labelled_getD (hlabels : c.Labelled labels) (i : Nat) :
    Document.Labelled labels (c.documents.getD i []) := by
  rw [List.getD_eq_getElem?_getD]
  cases hi : c.documents[i]? with
  | none => exact .of_idFree .nil
  | some d => exact hlabels d (List.mem_of_getElem? hi)

omit [Host] in
/-- A changed document has no identifier in common with the others. -/
theorem alien_of_apply (hc : c.Sound) {change next : Document} (hchange : change.IdFree) {i : Nat}
    {differs : Bool} (h : Update.apply (c.documents.getD i []) change = .ok (next, differs)) :
    ∀ o ∈ c.documents.eraseIdx i, o.Alien next := by
  intro o ho id hid hnext
  by_cases hi : i < c.documents.length
  · rw [List.getD_eq_getElem?_getD, List.getElem?_eq_getElem hi, Option.getD_some] at h
    obtain ⟨v, hv⟩ := Option.isSome_iff_exists.mp (hc.identified _ (List.getElem_mem hi))
    rw [Update.get?_apply hv h] at hnext
    obtain ⟨j, hj, hji, rfl⟩ := List.mem_eraseIdx_iff_getElem.mp ho
    have halien := List.pairwise_iff_getElem.mp hc.alien
    rcases Nat.lt_or_gt_of_ne hji with hlt | hgt
    · exact halien j i hj hi hlt id hid (hv.trans hnext)
    · exact halien i j hi hj hgt id (hv.trans hnext) hid
  · rw [List.getD_eq_getElem?_getD, List.getElem?_eq_none (Nat.le_of_not_lt hi),
      Option.getD_none] at h
    -- no identifiers come into an empty document
    have hfree : next.Labelled [] := Update.labelled_apply (.of_idFree .nil) hchange h
    rcases hfree.get? hnext with hfree | ⟨-, _, hnone, -⟩
    · cases hfree
    · cases hnone

omit [Host] in
theorem changeAt_rename (hf : Function.Injective f) (hc : c.Sound) (hlabels : c.Labelled labels)
    {change : Document} (hchange : change.IdFree) (i : Nat) :
    changeAt ns change (c.rename f) i =
      (changeAt ns change c i).map (Except.map fun r => (r.1.rename f, r.2)) := by
  have hd : (c.rename f).documents.getD i [] = (c.documents.getD i []).rename f := by
    rw [List.getD_eq_getElem?_getD, List.getD_eq_getElem?_getD, rename, List.getElem?_map]
    cases c.documents[i]? <;> rfl
  rw [changeAt, changeAt, hd, Update.apply_rename hf _ hchange]
  refine Except.map_bind_eq_map fun r hr => ?_
  obtain ⟨next, differs⟩ := r
  have hnext := Update.labelled_apply (labelled_getD hlabels i) hchange hr
  have hviolation : violation? (c.rename f).indexes ns ((c.rename f).documents.eraseIdx i)
        (next.rename f) = violation? c.indexes ns (c.documents.eraseIdx i) next := by
    rw [← violation?_rename hf hnext (alien_of_apply hc hchange hr), ← List.eraseIdx_map]
    rfl
  dsimp only
  rw [hviolation]
  cases violation? c.indexes ns (c.documents.eraseIdx i) next with
  | some failure => rfl
  | none =>
    refine congrArg (fun docs => Except.ok (Except.ok (Collection.mk docs _, _))) ?_
    exact List.map_set.symm

omit [Host] in
theorem labelled_changeAt (hlabels : c.Labelled labels) {change : Document}
    (hchange : change.IdFree) {i : Nat} {c' : Collection} {differs : Bool}
    (h : changeAt ns change c i = .ok (.ok (c', differs))) : c'.Labelled labels := by
  rw [changeAt] at h
  obtain ⟨⟨next, _⟩, hnext, h⟩ := Except.bind_eq_ok.mp h
  dsimp only at h
  split at h
  · cases h
  · cases h
    intro d hd
    rcases List.mem_or_eq_of_mem_set hd with hd | rfl
    · exact hlabels d hd
    · exact Update.labelled_apply (labelled_getD hlabels i) hchange hnext

omit [Host] in
theorem changeAll_rename (hf : Function.Injective f) (statement : Nat) {change : Document}
    (hchange : change.IdFree) (hc : c.Sound) (hlabels : c.Labelled labels) (w : Written)
    (targets : List Nat) :
    changeAll ns statement change (c.rename f) w targets =
      ((changeAll ns statement change c w targets).1.rename f,
        (changeAll ns statement change c w targets).2) := by
  induction targets generalizing c w with
  | nil => rfl
  | cons i targets ih =>
    rw [changeAll, changeAll, changeAt_rename hf hc hlabels hchange]
    cases hnext : changeAt ns change c i with
    | error e => rfl
    | ok r =>
      cases r with
      | error e => rfl
      | ok r => exact ih (hc.changeAt hnext) (labelled_changeAt hlabels hchange hnext) _

omit [Host] in
theorem labelled_changeAll (statement : Nat) {change : Document} (hchange : change.IdFree)
    (hlabels : c.Labelled labels) (w : Written) (targets : List Nat) :
    (changeAll ns statement change c w targets).1.Labelled labels := by
  induction targets generalizing c w with
  | nil => exact hlabels
  | cons i targets ih =>
    rw [changeAll]
    split
    · exact hlabels
    · exact hlabels
    · next hnext => exact ih (labelled_changeAt hlabels hchange hnext) _

omit [Host] in
theorem idFree_updateParts {s : Value} (hs : s.idFree = true) {filter change : Document}
    {multi : Bool} (h : updateParts s = .ok (filter, change, multi)) :
    filter.IdFree ∧ change.IdFree := by
  cases s with
  | document d =>
    have hd := Value.idFree_document.mp hs
    rw [updateParts] at h
    split at h
    · next hfilter =>
      rw [Except.ok_bind] at h
      dsimp only at h
      split at h
      · next hchange =>
        cases h
        exact ⟨Value.idFree_document.mp (hd.get? hfilter), Value.idFree_document.mp (hd.get? hchange)⟩
      · cases h
    · cases h
  | _ => cases h

/-- The change that a statement makes, and the positions of the documents that it changes. -/
def targets (c : Collection) (s : Value) : Except CommandFailure (Document × List Nat) := do
  let (filter, change, multi) ← updateParts s
  return (change, ← positions filter multi 0 c.documents)

theorem update_cons (c : Collection) (w : Written) (position : Nat) (s : Value) (ss : List Value) :
    update ns c w position (s :: ss) =
      match c.targets s with
      | .error failure => (c, .error failure)
      | .ok (change, is) =>
        match changeAll ns position change c w is with
        | (c, .error failure) => (c, .error failure)
        | (c, .ok (w, true)) => (c, .ok w)
        | (c, .ok (w, false)) => update ns c w (position + 1) ss := rfl

theorem targets_rename {s : Value} (hs : s.idFree = true) :
    (c.rename f).targets s = c.targets s := by
  rw [targets, targets]
  cases hparts : updateParts s with
  | error e => rfl
  | ok parts =>
    obtain ⟨filter, change, multi⟩ := parts
    have hpositions := positions_rename (f := f) (idFree_updateParts hs hparts).1 multi 0 c.documents
    exact congrArg (fun is => (do return (change, ← is) : Except CommandFailure _)) hpositions

theorem idFree_targets {s : Value} (hs : s.idFree = true) {change : Document} {is : List Nat}
    (h : c.targets s = .ok (change, is)) : change.IdFree := by
  obtain ⟨⟨filter, change', multi⟩, hparts, h⟩ := Except.bind_eq_ok.mp h
  obtain ⟨_, -, h⟩ := Except.bind_eq_ok.mp h
  cases h
  exact (idFree_updateParts hs hparts).2

/-- Statements without identifiers change a renamed collection as they change the collection. -/
theorem update_rename (hf : Function.Injective f) (hc : c.Sound) (hlabels : c.Labelled labels)
    (w : Written) (position : Nat) {statements : List Value}
    (hstatements : ∀ s ∈ statements, s.idFree = true) :
    update ns (c.rename f) w position statements =
      ((update ns c w position statements).1.rename f, (update ns c w position statements).2) := by
  induction statements generalizing c w position with
  | nil => rfl
  | cons s statements ih =>
    obtain ⟨hs, hstatements⟩ := List.forall_mem_cons.mp hstatements
    rw [update_cons, update_cons, targets_rename hs]
    cases htargets : c.targets s with
    | error e => rfl
    | ok r =>
      obtain ⟨change, is⟩ := r
      have hchange := idFree_targets hs htargets
      have hsound : (changeAll ns position change c w is).1.Sound := hc.changeAll _ _ _ _
      have hlabelled : (changeAll ns position change c w is).1.Labelled labels :=
        labelled_changeAll _ hchange hlabels _ _
      dsimp only
      rw [changeAll_rename hf position hchange hc hlabels]
      cases hall : changeAll ns position change c w is with
      | mk after outcome =>
        rw [hall] at hsound hlabelled
        cases outcome with
        | error e => rfl
        | ok r =>
          obtain ⟨w, stopped⟩ := r
          cases stopped
          · exact ih hsound hlabelled w (position + 1) hstatements
          · rfl

theorem labelled_update (hlabels : c.Labelled labels) (w : Written) (position : Nat)
    {statements : List Value} (hstatements : ∀ s ∈ statements, s.idFree = true) :
    (update ns c w position statements).1.Labelled labels := by
  induction statements generalizing c w position with
  | nil => exact hlabels
  | cons s statements ih =>
    obtain ⟨hs, hstatements⟩ := List.forall_mem_cons.mp hstatements
    rw [update_cons]
    split
    · exact hlabels
    · next change is htargets =>
      have hall : (changeAll ns position change c w is).1.Labelled labels :=
        labelled_changeAll _ (idFree_targets hs htargets) hlabels _ _
      split
      · next heq => rwa [heq] at hall
      · next heq => rwa [heq] at hall
      · next heq =>
        rw [heq] at hall
        exact ih hall _ _ hstatements

/-! ### Deleting -/

theorem reject_rename {filter : Document} (hfilter : filter.IdFree) (single : Bool) (removed : Nat)
    (docs : List Document) :
    reject filter single removed (docs.map (Document.rename f)) =
      (reject filter single removed docs).map fun r => (r.1.map (Document.rename f), r.2) := by
  induction docs generalizing removed with
  | nil => rfl
  | cons d docs ih =>
    have hdone : reject.satisfiesUnlessDone filter single removed (d.rename f) =
        reject.satisfiesUnlessDone filter single removed d := by
      rw [reject.satisfiesUnlessDone, reject.satisfiesUnlessDone, Document.matches_rename d hfilter]
    rw [List.map_cons, reject, reject, hdone]
    refine Except.bind_eq_map fun satisfied _ => ?_
    split
    · exact ih (removed + 1)
    · rw [ih removed]
      exact Except.map_bind_eq_map fun r _ => rfl

omit [Host] in
theorem idFree_deleteParts {s : Value} (hs : s.idFree = true) {filter : Document} {single : Bool}
    (h : deleteParts s = .ok (filter, single)) : filter.IdFree := by
  cases s with
  | document d =>
    rw [deleteParts] at h
    split at h
    · next hfilter =>
      rw [Except.ok_bind] at h
      obtain ⟨_, -, h⟩ := Except.bind_eq_ok.mp h
      cases h
      exact Value.idFree_document.mp ((Value.idFree_document.mp hs).get? hfilter)
    · cases h
  | _ => cases h

/-- So do statements that delete. -/
theorem delete_rename (c : Collection) (removed : Nat) {statements : List Value}
    (hstatements : ∀ s ∈ statements, s.idFree = true) :
    delete (c.rename f) removed statements =
      ((delete c removed statements).1.rename f, (delete c removed statements).2) := by
  induction statements generalizing c removed with
  | nil => rfl
  | cons s statements ih =>
    obtain ⟨hs, hstatements⟩ := List.forall_mem_cons.mp hstatements
    have hdocuments : (c.rename f).documents = c.documents.map (Document.rename f) := rfl
    rw [delete, delete]
    cases hparts : deleteParts s with
    | error e => rfl
    | ok parts =>
      obtain ⟨filter, single⟩ := parts
      dsimp only
      rw [hdocuments, reject_rename (idFree_deleteParts hs hparts)]
      cases reject filter single 0 c.documents with
      | error e => rfl
      | ok r => exact ih { c with documents := r.1 } (removed + r.2) hstatements

theorem labelled_delete (hlabels : c.Labelled labels) (removed : Nat) (statements : List Value) :
    (delete c removed statements).1.Labelled labels := by
  induction statements generalizing c removed with
  | nil => exact hlabels
  | cons s statements ih =>
    rw [delete]
    split
    · exact hlabels
    · split
      · exact List.forall_mem_nil _
      · next hreject =>
        exact ih (fun d hd => hlabels d ((reject_sublist hreject).subset hd)) _

end Collection

end SqlGateway
