import SqlGateway.Proofs.Except
import SqlGateway.Proofs.Value.Path
import SqlGateway.Store.Update

/-! A change of a document keeps its identifier: no operator reaches the field, not
even by renaming another one, and a replacement takes the old identifier over. -/

namespace SqlGateway.Update

/-- A path that is allowed does not begin at the identifier. -/
theorem exists_segments_of_guard {path : String} (h : guardIdentity path = .ok ()) :
    ∃ s ss, pathSegments path = s :: ss ∧ "_id" ≠ s := by
  rcases hp : pathSegments path with _ | ⟨s, ss⟩
  · exact absurd hp (pathSegments_ne_nil path)
  refine ⟨s, ss, rfl, ?_⟩
  rintro rfl
  rw [guardIdentity] at h
  split at h
  · cases h
  · next hguard =>
    simp only [Bool.or_eq_true, decide_eq_true_eq, not_or] at hguard
    rcases path_of_pathSegments hp with hpath | ⟨rest, hpath⟩
    · exact hguard.1 hpath
    · refine hguard.2 ?_
      rw [hpath, List.isPrefixOf_iff_prefix]
      exact ⟨rest, by simp⟩

theorem get?_setPath {path : String} (h : guardIdentity path = .ok ()) (d : Document) (v : Value) :
    (d.setPath path v).get? "_id" = d.get? "_id" := by
  obtain ⟨s, ss, hpath, hs⟩ := exists_segments_of_guard h
  rw [Document.setPath_eq, hpath, Document.get?_setSegments hs]

theorem get?_removePath {path : String} (h : guardIdentity path = .ok ()) (d : Document) :
    (d.removePath path).1.get? "_id" = d.get? "_id" := by
  obtain ⟨s, ss, hpath, hs⟩ := exists_segments_of_guard h
  rw [Document.removePath_eq, hpath, Document.get?_eraseSegments hs]

theorem get?_applyField {op path : String} {d next : Document} {v : Value}
    (h : applyField op d path v = .ok next) : next.get? "_id" = d.get? "_id" := by
  unfold applyField at h
  obtain ⟨⟨⟩, hpath, h⟩ := Except.bind_eq_ok.mp h
  split at h
  · cases h
    exact get?_setPath hpath d v
  · cases h
    exact get?_removePath hpath d
  · split at h
    · obtain ⟨⟨⟩, htarget, h⟩ := Except.bind_eq_ok.mp h
      split at h
      · next rest moved hrest =>
        cases h
        rw [get?_setPath htarget, ← get?_removePath hpath d, hrest]
      · cases h
        rfl
    · cases h
  · split at h
    · cases h
      exact get?_setPath hpath d _
    · cases h
  · cases h

theorem get?_applyOperator {op : String} {d next : Document} {v : Value}
    (h : applyOperator d op v = .ok next) : next.get? "_id" = d.get? "_id" := by
  cases v with
  | document fields =>
    rw [applyOperator] at h
    exact Except.foldlM_keeps (Fields.get? · "_id") (fun _ _ _ _ hstep => get?_applyField hstep) h
  | _ => cases h

theorem get?_replace {d replacement next : Document} {id : Value} (hid : d.get? "_id" = some id)
    (h : replace d replacement = .ok next) : next.get? "_id" = some id := by
  rw [replace, hid] at h
  split at h
  · next heq _ =>
    cases heq
    split at h
    · cases h; rfl
    · cases h
  · next heq _ =>
    cases heq
    cases h; rfl
  · next hnone => cases hnone

/-- The identifier of a changed document is the one it had. -/
theorem get?_apply {d change next : Document} {changed : Bool} {id : Value}
    (hid : d.get? "_id" = some id) (h : apply d change = .ok (next, changed)) :
    next.get? "_id" = some id := by
  rw [apply] at h
  split at h
  · obtain ⟨d', hd', h⟩ := Except.bind_eq_ok.mp h
    cases h
    rw [← hid]
    exact Except.foldlM_keeps (Fields.get? · "_id") (fun _ _ _ _ hstep => get?_applyOperator hstep) hd'
  · obtain ⟨d', hd', h⟩ := Except.bind_eq_ok.mp h
    cases h
    exact get?_replace hid hd'

end SqlGateway.Update
