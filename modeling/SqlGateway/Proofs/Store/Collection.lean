import SqlGateway.Proofs.Store.Update
import SqlGateway.Proofs.Value.Order
import SqlGateway.Store.Collection

/-! What every operation on a collection keeps: the identity index stands first,
index names are distinct, every document has an identifier, and no two documents
have the same key under a unique index. It is kept also by operations that fail
part of the way. -/

namespace SqlGateway

/-! ### Keys -/

/-- A pairwise relation survives a new item that is related both ways to all items but the one it
replaces. -/
theorem pairwise_set {α : Type} {R : α → α → Prop} {xs : List α} {x : α} {i : Nat}
    (h : xs.Pairwise R) (hx : ∀ y ∈ xs.eraseIdx i, R y x ∧ R x y) : (xs.set i x).Pairwise R := by
  induction xs generalizing i with
  | nil => exact .nil
  | cons z xs ih =>
    obtain ⟨hz, hxs⟩ := List.pairwise_cons.mp h
    cases i with
    | zero => exact List.pairwise_cons.mpr ⟨fun y hy => (hx y hy).2, hxs⟩
    | succ i =>
      rw [List.eraseIdx_cons_succ] at hx
      obtain ⟨hzx, hx⟩ := List.forall_mem_cons.mp hx
      refine List.pairwise_cons.mpr ⟨fun y hy => ?_, ih hxs hx⟩
      rcases List.mem_or_eq_of_mem_set hy with hy | rfl
      · exact hz y hy
      · exact hzx.1

namespace Index

theorem keysEqual_symm {a b : List Value} (h : keysEqual a b = true) : keysEqual b a = true := by
  induction a generalizing b with
  | nil => cases b <;> rfl
  | cons x a ih =>
    cases b with
    | nil => rfl
    | cons y b =>
      simp only [keysEqual, List.zip_cons_cons, List.all_cons, Bool.and_eq_true] at h ⊢
      refine ⟨?_, ih h.2⟩
      rw [Value.equal, beq_iff_eq] at h ⊢
      exact Value.order_eq_symm h.1

/-- Whether two documents have different keys. -/
def Tells (i : Index) (d e : Document) : Prop := keysEqual (i.keyOf d) (i.keyOf e) = false

theorem Tells.symm {i : Index} {d e : Document} (h : i.Tells d e) : i.Tells e d := by
  rw [Tells, ← Bool.not_eq_true] at h ⊢
  exact fun hed => h (keysEqual_symm hed)

/-- Two keys are different if some field of theirs is; a missing field counts as null. -/
theorem tells_iff {i : Index} {d e : Document} :
    i.Tells d e ↔ ∃ f ∈ i.fields,
      ((d.getPath? f).getD .null).equal ((e.getPath? f).getD .null) = false := by
  have hall (fs : List String) (x y : String → Value) :
      keysEqual (fs.map x) (fs.map y) = fs.all fun f => (x f).equal (y f) := by
    induction fs with
    | nil => rfl
    | cons f fs ih =>
      rw [keysEqual] at ih ⊢
      rw [List.map_cons, List.map_cons, List.zip_cons_cons, List.all_cons, List.all_cons, ih]
  rw [Tells, keyOf, keyOf, hall, List.all_eq_false]
  simp

/-- Whether no two documents of a list have the same key. -/
def Separates (i : Index) (docs : List Document) : Prop := docs.Pairwise i.Tells

theorem Separates.tells {i : Index} {docs : List Document} (h : i.Separates docs) {m n : Nat}
    (hm : m < docs.length) (hn : n < docs.length) (hmn : m ≠ n) : i.Tells docs[m] docs[n] := by
  have hlt := List.pairwise_iff_getElem.mp h
  rcases Nat.lt_or_gt_of_ne hmn with hmn | hnm
  · exact hlt m n hm hn hmn
  · exact (hlt n m hn hm hnm).symm

end Index

namespace Collection

theorem violation?_eq_none {indexes : List Index} {ns : String} {others : List Document}
    {d : Document} (h : violation? indexes ns others d = none) {i : Index} (hi : i ∈ indexes)
    (hunique : i.unique = true) : ∀ o ∈ others, i.Tells o d := by
  intro o ho
  rw [violation?, Option.map_eq_none_iff, clash?, List.find?_eq_none] at h
  have := h i hi
  simp only [hunique, Bool.true_and, List.any_eq_true, not_exists, not_and,
    Bool.not_eq_true] at this
  exact this o ho

theorem separates_of_indexViolation? {ns : String} {i : Index} (hunique : i.unique = true)
    {before docs : List Document} (h : indexViolation? ns i before docs = none) :
    (∀ d ∈ docs, ∀ b ∈ before, i.Tells b d) ∧ i.Separates docs := by
  induction docs generalizing before with
  | nil => exact ⟨by simp, .nil⟩
  | cons d docs ih =>
    rw [indexViolation?] at h
    split at h
    · cases h
    · next hd =>
      obtain ⟨hbefore, hdocs⟩ := ih h
      have hd' := violation?_eq_none hd (List.mem_singleton.mpr rfl) hunique
      refine ⟨List.forall_mem_cons.mpr ⟨hd', fun e he b hb => ?_⟩, List.pairwise_cons.mpr ⟨?_, hdocs⟩⟩
      · exact hbefore e he b (List.mem_append_left _ hb)
      · exact fun e he => hbefore e he d (List.mem_append_right _ (List.mem_singleton.mpr rfl))

/-! ### The invariant -/

/-- What holds of every collection. -/
structure Sound (c : Collection) : Prop where
  identity : c.indexes.head? = some .identity
  names : (c.indexes.map (·.name)).Nodup
  identified : ∀ d ∈ c.documents, (d.get? "_id").isSome
  separated : ∀ i ∈ c.indexes, i.unique = true → i.Separates c.documents

namespace Sound

variable {c c' : Collection} {ns : String}

theorem new : Collection.new.Sound where
  identity := rfl
  names := by simp [Collection.new]
  identified := by simp [Collection.new]
  separated _ _ _ := .nil

/-- Fewer documents are no less sound. -/
theorem sublist (h : c.Sound) {docs : List Document} (hdocs : docs.Sublist c.documents) :
    Sound { c with documents := docs } where
  identity := h.identity
  names := h.names
  identified d hd := h.identified d (hdocs.subset hd)
  separated i hi hunique := (h.separated i hi hunique).sublist hdocs

/-! #### Indexes -/

theorem addIndex (h : c.Sound) {i : Index} (hadd : c.addIndex ns i = .ok c') : c'.Sound := by
  rw [Collection.addIndex] at hadd
  split at hadd
  · split at hadd
    · cases hadd; exact h
    · cases hadd
  · next hfresh =>
    split at hadd
    · cases hadd
    · next hviolation =>
      cases hadd
      have hname : i.name ∉ c.indexes.map (·.name) := by
        intro hmem
        obtain ⟨j, hj, hji⟩ := List.mem_map.mp hmem
        exact absurd (by simpa using hji) (List.find?_eq_none.mp hfresh j hj)
      refine ⟨?_, ?_, h.identified, ?_⟩
      · rw [List.head?_append, h.identity]; rfl
      · rw [List.map_append, List.nodup_append]
        refine ⟨h.names, by simp, ?_⟩
        rintro a ha b hb rfl
        simp only [List.map_cons, List.map_nil, List.mem_singleton] at hb
        exact hname (hb ▸ ha)
      · intro j hj hunique
        rcases List.mem_append.mp hj with hj | hj
        · exact h.separated j hj hunique
        · rw [List.mem_singleton.mp hj] at hunique ⊢
          rw [if_pos hunique] at hviolation
          exact (separates_of_indexViolation? hunique hviolation).2

theorem addIndexes (h : c.Sound) (specs : List Value) : (c.addIndexes ns specs).1.Sound := by
  induction specs generalizing c with
  | nil => exact h
  | cons spec specs ih =>
    rw [Collection.addIndexes]
    split
    · next hadd =>
      obtain ⟨i, -, hadd⟩ := Except.bind_eq_ok.mp hadd
      exact ih (h.addIndex hadd)
    · exact h

theorem dropIndexes (h : c.Sound) {selector : Option Value} (hdrop : c.dropIndexes selector = .ok c') :
    c'.Sound := by
  rw [Collection.dropIndexes] at hdrop
  obtain ⟨names, -, hdrop⟩ := Except.bind_eq_ok.mp hdrop
  obtain ⟨⟨⟩, hnames, hdrop⟩ := Except.bind_eq_ok.mp hdrop
  cases hdrop
  have hkeep : identityIndexName ∉ names := by
    intro hmem
    have := Except.of_forM hnames _ hmem
    rw [if_pos rfl] at this
    cases this
  have hsub : (c.indexes.filter fun i => !names.contains i.name).Sublist c.indexes :=
    List.filter_sublist
  refine ⟨?_, h.names.sublist (hsub.map _), h.identified, fun i hi => h.separated i (hsub.subset hi)⟩
  obtain ⟨rest, hrest⟩ := List.head?_eq_some_iff.mp h.identity
  rw [hrest, List.filter_cons_of_pos]
  · rfl
  · simpa [Index.identity] using hkeep

/-! #### Documents -/

theorem append (h : c.Sound) {d : Document} (hid : (d.get? "_id").isSome)
    (hd : violation? c.indexes ns c.documents d = none) :
    Sound { c with documents := c.documents ++ [d] } where
  identity := h.identity
  names := h.names
  identified := List.forall_mem_append.mpr ⟨h.identified, by simpa using hid⟩
  separated i hi hunique := by
    refine List.pairwise_append.mpr ⟨h.separated i hi hunique, List.pairwise_singleton .., ?_⟩
    intro o ho e he
    rw [List.mem_singleton.mp he]
    exact violation?_eq_none hd hi hunique o ho

theorem insert (h : c.Sound) (ordered : Bool) (w : Written) (position : Nat)
    {items : List (Option Document)} (hitems : ∀ d, some d ∈ items → (d.get? "_id").isSome) :
    (c.insert ns ordered w position items).1.Sound := by
  induction items generalizing c w position with
  | nil => exact h
  | cons item items ih =>
    have hrest : ∀ d, some d ∈ items → (d.get? "_id").isSome :=
      fun d hd => hitems d (List.mem_cons_of_mem item hd)
    cases item with
    | none => exact h
    | some d =>
      rw [Collection.insert]
      split
      · dsimp only
        split
        · exact h
        · exact ih h _ _ hrest
      · next hd => exact ih (h.append (hitems d List.mem_cons_self) hd) _ _ hrest

theorem changeAt (h : c.Sound) {change : Document} {i : Nat} {changed : Bool}
    (hchange : c.changeAt ns change i = .ok (.ok (c', changed))) : c'.Sound := by
  rw [Collection.changeAt] at hchange
  obtain ⟨⟨next, _⟩, hnext, hchange⟩ := Except.bind_eq_ok.mp hchange
  dsimp only at hchange
  split at hchange
  · cases hchange
  · next hclash =>
    cases hchange
    by_cases hi : i < c.documents.length
    · rw [List.getD_eq_getElem?_getD, List.getElem?_eq_getElem hi, Option.getD_some] at hnext
      obtain ⟨id, hid⟩ := Option.isSome_iff_exists.mp
        (h.identified c.documents[i] (List.getElem_mem hi))
      have hnextid := Update.get?_apply hid hnext
      refine ⟨h.identity, h.names, fun d hd => ?_, fun j hj hunique => ?_⟩
      · rcases List.mem_or_eq_of_mem_set hd with hd | rfl
        · exact h.identified d hd
        · rw [hnextid]; rfl
      · refine pairwise_set (h.separated j hj hunique) fun o ho => ?_
        have := violation?_eq_none hclash hj hunique o ho
        exact ⟨this, this.symm⟩
    · rwa [List.set_eq_of_length_le (Nat.le_of_not_lt hi)]

theorem changeAll (h : c.Sound) (statement : Nat) (change : Document) (w : Written)
    (targets : List Nat) : (c.changeAll ns statement change w targets).1.Sound := by
  induction targets generalizing c w with
  | nil => exact h
  | cons i targets ih =>
    rw [Collection.changeAll]
    split
    · exact h
    · exact h
    · next hchange => exact ih (h.changeAt hchange) _

theorem update [Host] (h : c.Sound) (w : Written) (position : Nat) (statements : List Value) :
    (c.update ns w position statements).1.Sound := by
  induction statements generalizing c w position with
  | nil => exact h
  | cons s statements ih =>
    rw [Collection.update]
    dsimp only
    split
    · exact h
    · next change targets _ =>
      have hall : (c.changeAll ns position change w targets).1.Sound := h.changeAll _ _ _ _
      split
      · next heq => rwa [heq] at hall
      · next heq => rwa [heq] at hall
      · next heq =>
        rw [heq] at hall
        exact ih hall _ _

end Sound

theorem reject_sublist [Host] {filter : Document} {single : Bool} {removed : Nat} {docs kept : List Document}
    {n : Nat} (h : reject filter single removed docs = .ok (kept, n)) : kept.Sublist docs := by
  induction docs generalizing removed kept n with
  | nil => cases h; exact .slnil
  | cons d docs ih =>
    rw [reject] at h
    obtain ⟨b, -, h⟩ := Except.bind_eq_ok.mp h
    split at h
    · exact (ih h).cons d
    · obtain ⟨⟨rest, m⟩, hrest, h⟩ := Except.bind_eq_ok.mp h
      cases h
      exact (ih hrest).cons_cons d

namespace Sound

theorem delete [Host] {c : Collection} (h : c.Sound) (removed : Nat) (statements : List Value) :
    (c.delete removed statements).1.Sound := by
  induction statements generalizing c removed with
  | nil => exact h
  | cons s statements ih =>
    rw [Collection.delete]
    split
    · exact h
    · split
      · exact h.sublist (List.nil_sublist _)
      · next hreject => exact ih (h.sublist (reject_sublist hreject)) _

end Sound

end Collection

end SqlGateway
