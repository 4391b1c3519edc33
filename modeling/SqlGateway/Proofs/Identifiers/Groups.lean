import SqlGateway.Proofs.Identifiers.Expressions
import SqlGateway.Proofs.Pairing
import SqlGateway.Store.Grouping

/-! Groups under a renaming of identifiers. Documents are grouped by equal keys, so that renamed
ones fall into the same groups; what is accumulated over a group is renamed, unless it is a least or
greatest value and there are identifiers among those that it is chosen from. -/

namespace SqlGateway

variable {f : ObjectId → ObjectId}

namespace Accumulator

/-- What has been accumulated, with other identifiers. -/
def rename (f : ObjectId → ObjectId) : Accumulator → Accumulator
  | .sum total => .sum (total.rename f)
  | .avg total count => .avg (total.rename f) count
  | .extremum wanted current => .extremum wanted (current.map (Value.rename f))
  | .first value => .first (value.map (Value.rename f))
  | .last value => .last (value.rename f)
  | .addToSet items => .addToSet (items.map (Value.rename f))
  | .push items => .push (items.map (Value.rename f))

/-- Whether a function has to choose between values. -/
def chooses : AccumulatorKind → Bool
  | .min | .max => true
  | _ => false

/-- Whether what a function has accumulated has no identifiers in it if it has to choose. -/
def Settled (kind : AccumulatorKind) : Accumulator → Prop
  | .extremum _ current => chooses kind = true ∧ ∀ v, current = some v → v.idFree = true
  | _ => True

theorem settled_start (kind : AccumulatorKind) : Settled kind (start kind) := by
  cases kind <;> trivial

theorem rename_start (kind : AccumulatorKind) : (start kind).rename f = start kind := by
  cases kind <;> rfl

theorem add?_renamed (total : Value) (v : Option Value) :
    (v.map (Value.rename f)).bind (total.rename f).add? = v.bind total.add? := by
  cases v with
  | none => rfl
  | some v => exact Value.add?_rename total v

theorem renamed_getD_null (v : Option Value) :
    (v.map (Value.rename f)).getD .null = (v.getD .null).rename f := by
  cases v <;> rfl

/-- A least or greatest value stays or gives way to another one. -/
theorem accept_extremum_cases (wanted : Ordering) (current v : Option Value) :
    (extremum wanted current).accept v = extremum wanted current ∨
      ∃ w, v = some w ∧ (extremum wanted current).accept v = extremum wanted (some w) := by
  cases v with
  | none => exact .inl rfl
  | some w =>
    by_cases habsent : isAbsent w = true
    · exact .inl (if_pos habsent)
    cases current with
    | none => exact .inr ⟨w, rfl, if_neg habsent⟩
    | some c =>
      by_cases hbetter : w.order c = wanted
      · exact .inr ⟨w, rfl, (if_neg habsent).trans (if_pos hbetter)⟩
      · exact .inl ((if_neg habsent).trans (if_neg hbetter))

/-- Values of one document are taken in alike. -/
theorem accept_rename (hf : Function.Injective f) {kind : AccumulatorKind} {a : Accumulator}
    (ha : a.Settled kind) {v : Option Value}
    (hv : chooses kind = true → ∀ w, v = some w → w.idFree = true) :
    (a.rename f).accept (v.map (Value.rename f)) = (a.accept v).rename f := by
  cases a with
  | sum total =>
    rw [rename, accept, accept, add?_renamed]
    cases h : v.bind total.add? with
    | none => rfl
    | some sum =>
      obtain ⟨w, -, hw⟩ := Option.bind_eq_some_iff.mp h
      exact congrArg Accumulator.sum (Value.rename_of_idFree sum (Value.idFree_add? hw)).symm
  | avg total count =>
    rw [rename, accept, accept, add?_renamed]
    cases h : v.bind total.add? with
    | none => rfl
    | some sum =>
      obtain ⟨w, -, hw⟩ := Option.bind_eq_some_iff.mp h
      exact congrArg (Accumulator.avg · _) (Value.rename_of_idFree sum (Value.idFree_add? hw)).symm
  | extremum wanted current =>
    obtain ⟨hchooses, hcurrent⟩ := ha
    have hsame (x : Option Value) (hx : ∀ w, x = some w → w.idFree = true) :
        x.map (Value.rename f) = x := by
      cases x with
      | none => rfl
      | some w => exact congrArg some (Value.rename_of_idFree w (hx w rfl))
    rw [rename, hsame current hcurrent, hsame v (hv hchooses)]
    -- nothing is renamed, whichever of the two values is kept
    rcases accept_extremum_cases wanted current v with h | ⟨w, hw, h⟩
    · rw [h, rename, hsame current hcurrent]
    · rw [h, rename, ← hw, hsame v (hv hchooses)]
  | first value =>
    cases value with
    | none => exact congrArg (fun w => first (some w)) (renamed_getD_null v)
    | some w => rfl
  | last value => exact congrArg last (renamed_getD_null v)
  | addToSet items =>
    cases v with
    | none => rfl
    | some v =>
      have hany : (items.map (Value.rename f)).any (·.equal (v.rename f)) =
          items.any (·.equal v) := by
        rw [List.any_map]
        exact congrArg _ (funext fun w => Value.equal_rename hf w v)
      rw [rename, Option.map_some, accept, accept, hany]
      split
      · rfl
      · rw [rename, List.map_append, List.map_singleton]
  | push items =>
    rw [rename, accept, accept, rename, renamed_getD_null, List.map_append, List.map_singleton]

theorem settled_accept {kind : AccumulatorKind} {a : Accumulator} (ha : a.Settled kind)
    {v : Option Value} (hv : chooses kind = true → ∀ w, v = some w → w.idFree = true) :
    (a.accept v).Settled kind := by
  cases a with
  | extremum wanted current =>
    rcases accept_extremum_cases wanted current v with h | ⟨w, hw, h⟩
    · rwa [h]
    · rw [h]
      exact ⟨ha.1, fun x hx => hv ha.1 x (hw.trans hx)⟩
  | avg total count =>
    rw [accept]
    split <;> trivial
  | first value => cases value <;> trivial
  | addToSet items =>
    cases v with
    | none => trivial
    | some v =>
      rw [accept]
      split <;> trivial
  | _ => trivial

theorem finish_rename (a : Accumulator) : (a.rename f).finish = a.finish.rename f := by
  cases a with
  | avg total count =>
    have hquotient : (total.rename f).divide? count = total.divide? count := by
      rw [Value.divide?, Value.divide?, Value.ofValue?_rename]
    rw [rename, finish, finish, hquotient]
    split
    · rfl
    · cases h : total.divide? count with
      | none => rfl
      | some q => exact (Value.rename_of_idFree q (Value.idFree_divide? h)).symm
  | addToSet items => exact (Value.rename_array items).symm
  | push items => exact (Value.rename_array items).symm
  | extremum wanted current => exact renamed_getD_null current
  | first value => exact renamed_getD_null value
  | _ => rfl

end Accumulator

/-! ### Groups -/

namespace Group

/-- A group with other identifiers. -/
def rename (f : ObjectId → ObjectId) (g : Group) : Group :=
  ⟨g.key.rename f, g.accumulated.map (·.rename f)⟩

/-- Whether nothing in a group has been chosen from identifiers. -/
def Settled (fields : List GroupField) (g : Group) : Prop :=
  List.Forall₂ (fun field a => Accumulator.Settled field.kind a) fields g.accumulated

/-- Whether a document gives no identifiers to the fields that choose. -/
def Spares (fields : List GroupField) (d : Document) : Prop :=
  ∀ field ∈ fields, Accumulator.chooses field.kind = true →
    ∀ v, Expression.evaluate d field.expression = .ok (some v) → v.idFree = true

variable {fields : List GroupField} {d : Document}

theorem settled_start (fields : List GroupField) (key : Value) : (start fields key).Settled fields := by
  rw [Settled, start, List.forall₂_map_right_iff]
  exact List.forall₂_same.mpr fun field _ => Accumulator.settled_start field.kind

theorem rename_start (fields : List GroupField) (key : Value) :
    (start fields key).rename f = start fields (key.rename f) := by
  rw [rename, start, start, List.map_map]
  exact congrArg _ (List.map_congr_left fun field _ => Accumulator.rename_start field.kind)

section

variable {vs : List (Option Value)}
  (hvs : List.Forall₂ (fun e v => Expression.evaluate d e.expression = .ok v) fields vs)
  (hd : Spares fields d) {as : List Accumulator}
  (has : List.Forall₂ (fun e a => Accumulator.Settled e.kind a) fields as)

include hvs hd has

theorem acceptAll_rename (hf : Function.Injective f) :
    ((as.map (·.rename f)).zip (vs.map (Option.map (Value.rename f)))).map
        (fun (a, v) => a.accept v) =
      ((as.zip vs).map fun (a, v) => a.accept v).map (·.rename f) := by
  induction hvs generalizing as with
  | nil => cases has; rfl
  | cons hv _ ih =>
    obtain ⟨hd, hds⟩ := List.forall_mem_cons.mp hd
    obtain ⟨a, as, ha, hrest, rfl⟩ := List.forall₂_cons_left_iff.mp has
    rw [List.map_cons, List.map_cons, List.zip_cons_cons, List.zip_cons_cons, List.map_cons,
      List.map_cons, List.map_cons, ih hds hrest]
    refine congrArg (· :: _) (Accumulator.accept_rename hf ha fun hchooses w hw => ?_)
    exact hd hchooses w (hw ▸ hv)

theorem settled_acceptAll :
    List.Forall₂ (fun e a => Accumulator.Settled e.kind a) fields
      ((as.zip vs).map fun (a, v) => a.accept v) := by
  induction hvs generalizing as with
  | nil => cases has; exact .nil
  | cons hv _ ih =>
    obtain ⟨hd, hds⟩ := List.forall_mem_cons.mp hd
    obtain ⟨a, as, ha, hrest, rfl⟩ := List.forall₂_cons_left_iff.mp has
    rw [List.zip_cons_cons, List.map_cons]
    refine .cons (Accumulator.settled_accept ha fun hchooses w hw => ?_) (ih hds hrest)
    exact hd hchooses w (hw ▸ hv)

end

theorem accept_rename (hf : Function.Injective f) (hfields : ∀ e ∈ fields, e.expression.idFree = true)
    (hd : Spares fields d) {g : Group} (hg : g.Settled fields) :
    accept fields (d.rename f) (g.rename f) = (accept fields d g).map (rename f) := by
  have hvs : (fields.mapM fun e => Expression.evaluate (d.rename f) e.expression) =
      (fields.mapM fun e => Expression.evaluate d e.expression).map
        (List.map (Option.map (Value.rename f))) :=
    Except.mapM_eq_map_mapM fun e he => Expression.evaluate_rename d e.expression (hfields e he)
  rw [accept, accept, hvs]
  refine Except.map_bind_eq_map fun vs hvs => ?_
  have haccept := acceptAll_rename (Except.mapM_eq_ok_iff_forall₂.mp hvs) hd hg hf
  exact congrArg (fun as => Except.ok (Group.mk _ as)) haccept

theorem settled_accept (hd : Spares fields d) {g g' : Group} (hg : g.Settled fields)
    (h : accept fields d g = .ok g') : g'.Settled fields := by
  rw [accept] at h
  obtain ⟨vs, hvs, h⟩ := Except.bind_eq_ok.mp h
  cases h
  exact settled_acceptAll (Except.mapM_eq_ok_iff_forall₂.mp hvs) hd hg

theorem place_rename (hf : Function.Injective f) (hfields : ∀ e ∈ fields, e.expression.idFree = true)
    (hd : Spares fields d) (key : Value) {gs : List Group} (hgs : ∀ g ∈ gs, g.Settled fields) :
    place fields (key.rename f) (d.rename f) (gs.map (rename f)) =
      (place fields key d gs).map (List.map (rename f)) := by
  induction gs with
  | nil =>
    rw [List.map_nil, place, place, ← rename_start, accept_rename hf hfields hd (settled_start _ _)]
    exact Except.map_bind_eq_map fun _ _ => rfl
  | cons g gs ih =>
    obtain ⟨hg, hgs⟩ := List.forall_mem_cons.mp hgs
    have hkey : (g.rename f).key.equal (key.rename f) = g.key.equal key :=
      Value.equal_rename hf g.key key
    rw [List.map_cons, place, place, hkey, accept_rename hf hfields hd hg, ih hgs]
    split <;> exact Except.map_bind_eq_map fun _ _ => rfl

theorem settled_place (hd : Spares fields d) (key : Value) {gs gs' : List Group}
    (hgs : ∀ g ∈ gs, g.Settled fields) (h : place fields key d gs = .ok gs') :
    ∀ g ∈ gs', g.Settled fields := by
  induction gs generalizing gs' with
  | nil =>
    rw [place] at h
    obtain ⟨g, hg, h⟩ := Except.bind_eq_ok.mp h
    cases h
    exact List.forall_mem_singleton.mpr (settled_accept hd (settled_start _ _) hg)
  | cons g gs ih =>
    obtain ⟨hg, hgs⟩ := List.forall_mem_cons.mp hgs
    rw [place] at h
    split at h
    · obtain ⟨g', hg', h⟩ := Except.bind_eq_ok.mp h
      cases h
      exact List.forall_mem_cons.mpr ⟨settled_accept hd hg hg', hgs⟩
    · obtain ⟨rest, hrest, h⟩ := Except.bind_eq_ok.mp h
      cases h
      exact List.forall_mem_cons.mpr ⟨hg, ih hgs hrest⟩

theorem finish_rename (fields : List GroupField) (g : Group) :
    (g.rename f).finish fields = (g.finish fields).rename f := by
  rw [finish, finish, Document.rename_cons]
  refine congrArg (("_id", g.key.rename f) :: ·) ?_
  rw [rename, Document.rename, List.map_map, List.zip_map_right, List.map_map]
  exact List.map_congr_left fun e _ => congrArg (e.1.name, ·) (Accumulator.finish_rename e.2)

/-- The fields that a stage accumulates. -/
def fieldsOf (spec : Document) : Except CommandFailure (List GroupField) :=
  (spec.filter (·.1 != "_id")).mapM fun (name, a) => readField name a

theorem idFree_fieldsOf {spec : Document} (hspec : spec.IdFree) (h : fieldsOf spec = .ok fields) :
    ∀ e ∈ fields, e.expression.idFree = true := by
  intro e he
  obtain ⟨⟨name, a⟩, hentry, hread⟩ := Except.exists_of_mem_mapM h he
  have ha : a.idFree = true := hspec _ (List.mem_filter.mp hentry).1
  unfold readField at hread
  dsimp only at hread
  split at hread
  · split at hread
    · cases hread
      exact Value.idFree_document.mp ha _ (List.mem_singleton_self _)
    · cases hread
  · cases hread
  · cases hread

/-- Groups of renamed documents are the groups of the documents, renamed. -/
theorem collect_rename (hf : Function.Injective f) {docs : List Document} {spec : Document}
    (hspec : spec.IdFree)
    (hspares : ∀ fields, fieldsOf spec = .ok fields → ∀ d ∈ docs, Spares fields d) :
    collect (docs.map (Document.rename f)) spec =
      (collect docs spec).map (List.map (Document.rename f)) := by
  rw [collect, collect]
  cases hkey : spec.get? "_id" with
  | none => rfl
  | some key =>
    have hkeyFree : key.idFree = true := hspec.get? hkey
    dsimp only
    refine Except.bind_eq_map fun fields hfields => ?_
    have hexpressions := idFree_fieldsOf hspec hfields
    have hgroups : ((docs.map (Document.rename f)).foldlM (fun gs d => do
          place fields ((← Expression.evaluate d key).getD .null) d gs) []) =
        (docs.foldlM (fun gs d => do
          place fields ((← Expression.evaluate d key).getD .null) d gs) []).map
            (List.map (rename f)) := by
      rw [List.foldlM_map]
      refine Except.foldlM_eq_map (P := fun gs : List Group => ∀ g ∈ gs, g.Settled fields)
        (h := List.map (rename f)) (b := [])
        (fun d hd gs hgs => ?_) (fun d hd gs gs' hgs hplace => ?_) nofun
      · rw [Expression.evaluate_rename d key hkeyFree]
        refine Except.map_bind_eq_map fun v _ => ?_
        rw [Accumulator.renamed_getD_null]
        exact place_rename hf hexpressions (hspares fields hfields d hd) _ hgs
      · obtain ⟨v, -, hplace⟩ := Except.bind_eq_ok.mp hplace
        exact settled_place (hspares fields hfields d hd) _ hgs hplace
    rw [hgroups]
    refine Except.map_bind_eq_map fun gs _ => congrArg Except.ok ?_
    rw [List.map_map, List.map_map]
    exact List.map_congr_left fun g _ => finish_rename fields g

end Group

end SqlGateway
