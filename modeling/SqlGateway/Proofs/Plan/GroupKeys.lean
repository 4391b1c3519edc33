import SqlGateway.Plan.Select
import SqlGateway.Proofs.Store.Projection
import SqlGateway.Proofs.Store.Splitting
import SqlGateway.Proofs.Value.Order

/-! The keys of a grouping. The key of a document holds what stands at the grouped paths, each under
the path with underscores for its dots, and leaves out the paths at which nothing stands. So of two
paths that are written alike only the later one counts, and a missing value is not null. -/

namespace SqlGateway

/-! ### Keys as documents -/

namespace Document

/-- Whether two documents hold equal values at a path, or both hold none. -/
def sameAt (path : String) (d e : Document) : Bool :=
  match d.getPath? path, e.getPath? path with
  | some v, some w => v.equal w
  | none, none => true
  | _, _ => false

/-- What a document holds at paths, each under a name of its own. -/
def shown (d : Document) (paths : Fields String) : Document :=
  paths.filterMap fun e => (d.getPath? e.2).map (e.1, ·)

variable {d e : Document} {paths : Fields String}

theorem shown_cons (d : Document) (f : String × String) (paths : Fields String) :
    d.shown (f :: paths) = ((d.getPath? f.2).map (f.1, ·)).toList ++ d.shown paths := by
  rw [shown, List.filterMap_cons]
  cases d.getPath? f.2 <;> rfl

theorem keys_shown_sublist (d : Document) (paths : Fields String) :
    (Fields.keys (d.shown paths)).Sublist paths.keys := by
  induction paths with
  | nil => exact .refl _
  | cons f paths ih =>
    rw [shown_cons]
    cases d.getPath? f.2 with
    | none => exact ih.cons f.1
    | some v => exact ih.cons_cons f.1

/-- A document whose first field another one does not have is not equal to it. -/
theorem orderFields_cons_ne_eq {k : String} {v : Value} {as bs : List (String × Value)}
    (h : k ∉ Fields.keys bs) : Value.orderFields ((k, v) :: as) bs ≠ .eq := by
  cases bs with
  | nil => exact nofun
  | cons b bs =>
    obtain ⟨l, w⟩ := b
    intro heq
    rw [Value.orderFields, Ordering.then_eq_eq, Ordering.then_eq_eq, Value.orderText_eq_iff] at heq
    exact h (List.mem_map.mpr ⟨(l, w), List.mem_cons_self, heq.1.2.symm⟩)

/-- What two documents hold at paths of different names is equal only path by path. -/
theorem orderFields_shown (hdistinct : paths.keys.Nodup) :
    Value.orderFields (d.shown paths) (e.shown paths) = .eq ↔
      ∀ f ∈ paths, d.sameAt f.2 e = true := by
  induction paths with
  | nil => exact iff_of_true rfl nofun
  | cons f paths ih =>
    obtain ⟨k, path⟩ := f
    obtain ⟨hk, hdistinct⟩ := List.nodup_cons.mp hdistinct
    have hfresh (d : Document) : k ∉ Fields.keys (d.shown paths) := fun hmem =>
      hk ((keys_shown_sublist d paths).subset hmem)
    rw [List.forall_mem_cons, shown_cons, shown_cons, ← ih hdistinct, sameAt]
    cases d.getPath? path with
    | none =>
      cases e.getPath? path with
      | none => simp
      | some w =>
        have hne : Value.orderFields ((k, w) :: e.shown paths) (d.shown paths) ≠ .eq :=
          orderFields_cons_ne_eq (hfresh d)
        have hswap := Value.orderFields_swap (d.shown paths) ((k, w) :: e.shown paths)
        simp only [Option.map_none, Option.map_some, Option.toList_none, Option.toList_some,
          List.nil_append, List.singleton_append, Bool.false_eq_true, false_and, iff_false]
        intro heq
        rw [heq] at hswap
        exact hne hswap
    | some v =>
      cases e.getPath? path with
      | none =>
        have hne : Value.orderFields ((k, v) :: d.shown paths) (e.shown paths) ≠ .eq :=
          orderFields_cons_ne_eq (hfresh e)
        simpa using hne
      | some w =>
        have hname : Value.orderText k k = .eq := Value.orderText_eq_iff.mpr rfl
        simp [Value.orderFields, Value.equal, hname]

end Document

theorem Expression.isOperation_of_undollared {fields : List (String × Value)}
    (h : ∀ f ∈ fields, f.1.toList.head? ≠ some '$') : isOperation fields = false := by
  rw [isOperation.eq_def]
  split
  · next op e =>
    rw [beq_eq_false_iff_ne]
    exact h (op, e) List.mem_cons_self
  · rfl

/-- What a key document holds of a document: what stands at its paths. -/
theorem Expression.evaluateFields_paths {paths : Fields String}
    (h : ∀ f ∈ paths, f.2.toList.head? ≠ some '$') (d : Document) :
    evaluateFields d (paths.map fun f => (f.1, .string ("$" ++ f.2))) = .ok (d.shown paths) := by
  induction paths with
  | nil => rfl
  | cons f paths ih =>
    obtain ⟨hf, hpaths⟩ := List.forall_mem_cons.mp h
    rw [List.map_cons, evaluateFields, evaluate_path hf, Except.ok_bind, ih hpaths,
      Document.shown_cons]
    cases d.getPath? f.2 <;> rfl

/-! ### Keys of statements -/

namespace Plan

/-- A path with underscores for its dots. -/
def underscored (path : String) : String :=
  String.ofList (path.toList.map fun ch => if ch = '.' then '_' else ch)

/-- The paths of a key by their names in it. Of two paths with one name the later one is left. -/
def keyPaths (fields : List String) : Fields String :=
  Fields.ofList (fields.map fun f => (underscored f, f))

theorem head?_underscored {path : String} (h : path.toList.head? ≠ some '$') :
    (underscored path).toList.head? ≠ some '$' := by
  rw [underscored, String.toList_ofList, List.head?_map]
  cases hhead : path.toList.head? with
  | none => exact nofun
  | some c =>
    rw [hhead] at h
    rw [Option.map_some]
    split
    · decide
    · exact h

theorem mem_keyPaths {fields : List String} {f : String × String} (h : f ∈ keyPaths fields) :
    f.2 ∈ fields ∧ f.1 = underscored f.2 := by
  obtain ⟨path, hpath, rfl⟩ :=
    List.mem_map.mp ((Fields.mem_of_mem_setAll h).resolve_left List.not_mem_nil)
  exact ⟨hpath, rfl⟩

/-- If different paths have different names, no path is lost. -/
theorem mem_keyPaths_iff {fields : List String}
    (h : ∀ f ∈ fields, ∀ g ∈ fields, underscored f = underscored g → f = g) {path : String} :
    (underscored path, path) ∈ keyPaths fields ↔ path ∈ fields := by
  refine ⟨fun hmem => (mem_keyPaths hmem).1, fun hpath => ?_⟩
  have hkey : underscored path ∈ (keyPaths fields).keys :=
    Fields.mem_keys_setAll.mpr
      (.inr (List.mem_map.mpr ⟨_, List.mem_map.mpr ⟨path, hpath, rfl⟩, rfl⟩))
  obtain ⟨f, hf, hname⟩ := List.mem_map.mp hkey
  obtain ⟨hfield, hunderscored⟩ := mem_keyPaths hf
  have hsame := h f.2 hfield path hpath (hunderscored.symm.trans hname)
  have hentry : f = (underscored path, path) := Prod.ext hname hsame
  exact hentry ▸ hf

theorem groupKey_eq {names : Naming} {columns : List Column} {fields : List String}
    (hfields : columns.mapM names.field = .ok fields) {key : Value}
    (hkey : groupKey names columns = .ok key) :
    columns = [] ∧ key = .null ∨
      key = .document ((keyPaths fields).map fun f => (f.1, .string ("$" ++ f.2))) := by
  rw [groupKey] at hkey
  split at hkey
  · next hempty => exact .inl ⟨List.isEmpty_iff.mp hempty, (Except.ok.inj hkey).symm⟩
  · obtain ⟨entries, hentries, hkey⟩ := Except.bind_eq_ok.mp hkey
    cases hkey
    have hmapped : entries = fields.map fun f => (underscored f, .string ("$" ++ f)) := by
      refine Except.ok.inj (hentries.symm.trans (Except.mapM_of_map (fun c => ?_) hfields))
      cases names.field c <;> rfl
    subst hmapped
    have hlist := Fields.setAll_map [] (fun f => Value.string ("$" ++ f))
      (fields.map fun f => (underscored f, f))
    rw [List.map_map] at hlist
    exact .inr (congrArg Value.document hlist)

/-- Two documents have equal keys if they agree at the paths that are left. -/
theorem sameKey_groupKey {names : Naming} {columns : List Column} {fields : List String}
    (hfields : columns.mapM names.field = .ok fields)
    (hundollared : ∀ f ∈ fields, f.toList.head? ≠ some '$') {key : Value}
    (hkey : groupKey names columns = .ok key) (d e : Document) :
    Group.sameKey key d e = true ↔ ∀ f ∈ keyPaths fields, d.sameAt f.2 e = true := by
  rcases groupKey_eq hfields hkey with ⟨rfl, rfl⟩ | rfl
  · cases hfields
    exact iff_of_true rfl nofun
  · have hpaths : ∀ f ∈ keyPaths fields, f.2.toList.head? ≠ some '$' :=
      fun f hf => hundollared f.2 (mem_keyPaths hf).1
    have hplain : Expression.isOperation
        ((keyPaths fields).map fun f => (f.1, .string ("$" ++ f.2))) = false := by
      refine Expression.isOperation_of_undollared fun e he => ?_
      obtain ⟨f, hf, rfl⟩ := List.mem_map.mp he
      obtain ⟨hfield, hname⟩ := mem_keyPaths hf
      exact hname ▸ head?_underscored (hundollared f.2 hfield)
    have hkeyAt (d : Document) : Group.keyAt
        (.document ((keyPaths fields).map fun f => (f.1, .string ("$" ++ f.2)))) d =
          .document (d.shown (keyPaths fields)) := by
      have hvalue : Expression.evaluate d
          (.document ((keyPaths fields).map fun f => (f.1, .string ("$" ++ f.2)))) =
            .ok (some (.document (d.shown (keyPaths fields)))) := by
        rw [Expression.evaluate, hplain, if_neg (by decide),
          Expression.evaluateFields_paths hpaths d]
        rfl
      rw [Group.keyAt, Expression.value?_of_evaluate hvalue]
      rfl
    have hnil : (Fields.keys ([] : Fields String)).Nodup := List.nodup_nil
    have hdistinct : (keyPaths fields).keys.Nodup := Fields.nodup_keys_setAll hnil _
    rw [Group.sameKey, hkeyAt, hkeyAt, Value.equal, beq_iff_eq, Value.order]
    exact Document.orderFields_shown hdistinct

end Plan

end SqlGateway
