import Mathlib.Data.List.Induction
import SqlGateway.Proofs.Except
import SqlGateway.Store.Grouping

/-! Groups of documents. When every document has a key and every field a value for it,
grouping gives one group for each key, in the order in which the keys first appear, and each
accumulator of a group has taken in the documents with its key, one after another. -/

namespace SqlGateway

/-! ### First appearances -/

section

variable {α : Type} [DecidableEq α]

/-- One more item at the end of a list is a new one if it has not appeared before. -/
theorem eraseDups_concat (xs : List α) (x : α) :
    (xs ++ [x]).eraseDups = if x ∈ xs then xs.eraseDups else xs.eraseDups ++ [x] := by
  rw [List.eraseDups_append]
  by_cases hx : x ∈ xs
  · simp [hx, List.removeAll]
  · simp [hx, List.removeAll, List.eraseDups_cons]

theorem nodup_eraseDups (xs : List α) : xs.eraseDups.Nodup := by
  induction xs using List.reverseRecOn with
  | nil => simp
  | append_singleton xs x ih =>
    rw [eraseDups_concat]
    split
    · exact ih
    · next hx =>
      have hnew : ∀ y ∈ xs, y ≠ x := fun y hy heq => hx (heq ▸ hy)
      simpa [List.nodup_append, ih] using hnew

theorem perm_eraseDups {xs ys : List α} (h : xs.Perm ys) : xs.eraseDups.Perm ys.eraseDups := by
  refine (List.perm_ext_iff_of_nodup (nodup_eraseDups xs) (nodup_eraseDups ys)).mpr fun x => ?_
  rw [List.mem_eraseDups, List.mem_eraseDups, h.mem_iff]

end

namespace Group

/-- Whether grouping never fails on documents: each has a key, keys are equal in the store only if
they are the same, and each field has a value or none. -/
structure Groups {κ : Type} [DecidableEq κ] (fields : List GroupField) (expression : Value)
    (key : Document → κ) (stored : κ → Value) (value : GroupField → Document → Option Value)
    (docs : List Document) : Prop where
  keyed : ∀ d ∈ docs, Expression.evaluate d expression = .ok (some (stored (key d)))
  distinct : ∀ k l, (stored k).equal (stored l) = decide (k = l)
  evaluated : ∀ d ∈ docs, ∀ f ∈ fields, Expression.evaluate d f.expression = .ok (value f d)

section

variable {κ : Type} [DecidableEq κ] {fields : List GroupField} {expression : Value}
  {key : Document → κ} {stored : κ → Value} {value : GroupField → Document → Option Value}

/-- What a field has accumulated over documents. -/
def accumulate (value : GroupField → Document → Option Value) (docs : List Document)
    (f : GroupField) : Accumulator :=
  docs.foldl (fun a d => a.accept (value f d)) (.start f.kind)

/-- The group of a key among documents. -/
def groupOf (fields : List GroupField) (key : Document → κ) (stored : κ → Value)
    (value : GroupField → Document → Option Value) (docs : List Document) (k : κ) : Group :=
  ⟨stored k, fields.map (accumulate value (docs.filter (key · = k)))⟩

theorem groupOf_of_not_mem {docs : List Document} {k : κ} (h : k ∉ docs.map key) :
    groupOf fields key stored value docs k = start fields (stored k) := by
  have hnone : docs.filter (key · = k) = [] := by
    rw [List.filter_eq_nil_iff]
    intro d hd heq
    exact h (List.mem_map.mpr ⟨d, hd, of_decide_eq_true heq⟩)
  rw [groupOf, hnone]
  rfl

theorem groupOf_concat_of_ne (docs : List Document) {d : Document} {k : κ} (h : key d ≠ k) :
    groupOf fields key stored value (docs ++ [d]) k = groupOf fields key stored value docs k := by
  simp [groupOf, List.filter_append, h]

theorem accept_groupOf {docs : List Document} {d : Document}
    (h : ∀ f ∈ fields, Expression.evaluate d f.expression = .ok (value f d)) :
    accept fields d (groupOf fields key stored value docs (key d)) =
      .ok (groupOf fields key stored value (docs ++ [d]) (key d)) := by
  have hadded : (docs ++ [d]).filter (key · = key d) = docs.filter (key · = key d) ++ [d] := by
    simp
  rw [accept, Except.mapM_eq_map h]
  refine congrArg (fun acc => Except.ok (Group.mk (stored (key d)) acc)) ?_
  rw [groupOf, hadded, List.zip_map', List.map_map]
  refine List.map_congr_left fun f _ => ?_
  rw [accumulate, List.foldl_append]
  rfl

/-- A document goes into the group of its key, which is made at the end if there is none. -/
theorem place_groupOf (docs : List Document) {d : Document} {ks : List κ} (hks : ks.Nodup)
    (hdistinct : ∀ k l, (stored k).equal (stored l) = decide (k = l))
    (hvalues : ∀ f ∈ fields, Expression.evaluate d f.expression = .ok (value f d))
    (hnew : key d ∉ ks → key d ∉ docs.map key) :
    place fields (stored (key d)) d (ks.map (groupOf fields key stored value docs)) =
      .ok ((if key d ∈ ks then ks else ks ++ [key d]).map
        (groupOf fields key stored value (docs ++ [d]))) := by
  induction ks with
  | nil =>
    rw [List.map_nil, place, ← groupOf_of_not_mem (hnew List.not_mem_nil), accept_groupOf hvalues]
    rfl
  | cons k ks ih =>
    obtain ⟨hk, hks⟩ := List.nodup_cons.mp hks
    have hkey : (groupOf fields key stored value docs k).key = stored k := rfl
    rw [List.map_cons, place, hkey, hdistinct]
    by_cases hmeet : k = key d
    · subst hmeet
      have hrest : ks.map (groupOf fields key stored value (docs ++ [d])) =
          ks.map (groupOf fields key stored value docs) :=
        List.map_congr_left fun l hl =>
          groupOf_concat_of_ne docs fun heq => hk (heq ▸ hl)
      rw [if_pos (by simp), if_pos List.mem_cons_self, accept_groupOf hvalues, List.map_cons, hrest]
      rfl
    · have hsame : groupOf fields key stored value (docs ++ [d]) k =
          groupOf fields key stored value docs k :=
        groupOf_concat_of_ne docs (Ne.symm hmeet)
      have hlater := ih hks fun hmem => hnew (by simp [Ne.symm hmeet, hmem])
      rw [if_neg (by simpa using hmeet), hlater, ← hsame]
      by_cases hmem : key d ∈ ks
      · rw [if_pos hmem, if_pos (List.mem_cons_of_mem k hmem)]
        rfl
      · rw [if_neg hmem, if_neg (by simp [Ne.symm hmeet, hmem])]
        rfl

/-- The groups of documents, key by key as they first appear. -/
theorem foldlM_place {docs : List Document}
    (h : Groups fields expression key stored value docs) :
    docs.foldlM (fun gs d => do
        place fields ((← Expression.evaluate d expression).getD .null) d gs) [] =
      .ok ((docs.map key).eraseDups.map (groupOf fields key stored value docs)) := by
  induction docs using List.reverseRecOn with
  | nil => rfl
  | append_singleton docs d ih =>
    have hkeyed := h.keyed d (by simp)
    have hvalues := h.evaluated d (by simp)
    have hbefore := ih ⟨fun e he => h.keyed e (by simp [he]), h.distinct,
      fun e he => h.evaluated e (by simp [he])⟩
    have hplaced := place_groupOf docs (nodup_eraseDups (docs.map key)) h.distinct hvalues
      fun hnew => by rwa [List.mem_eraseDups] at hnew
    rw [List.foldlM_append, hbefore, List.map_append, List.map_singleton, eraseDups_concat]
    simp only [List.mem_eraseDups] at hplaced
    rw [← hplaced]
    rw [Except.ok_bind, List.foldlM_cons, hkeyed]
    exact bind_pure _

/-- The result of grouping: one document for each key, in the order in which they first appear. -/
theorem collect_eq {docs : List Document} {spec : Document}
    (h : Groups fields expression key stored value docs) (hid : spec.get? "_id" = some expression)
    (hfields : (spec.filter (·.1 != "_id")).mapM (fun e => readField e.1 e.2) = .ok fields) :
    collect docs spec = .ok ((docs.map key).eraseDups.map fun k =>
      ("_id", stored k) :: fields.map fun f =>
        (f.name, (accumulate value (docs.filter (key · = k)) f).finish)) := by
  have hfinish (k : κ) : finish fields (groupOf fields key stored value docs k) =
      ("_id", stored k) :: fields.map fun f =>
        (f.name, (accumulate value (docs.filter (key · = k)) f).finish) := by
    have hpaired (acc : GroupField → Accumulator) :
        fields.zip (fields.map acc) = fields.map fun f => (f, acc f) := by
      simpa using List.zip_map' (f := id) (g := acc) (l := fields)
    rw [finish, groupOf, hpaired, List.map_map]
    rfl
  rw [collect, hid]
  refine Except.bind_eq_ok.mpr ⟨_, hfields, ?_⟩
  refine Except.bind_eq_ok.mpr ⟨_, foldlM_place h, congrArg Except.ok ?_⟩
  rw [List.map_map]
  exact List.map_congr_left fun k _ => hfinish k

end

end Group

end SqlGateway
