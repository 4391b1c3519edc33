import SqlGateway.Proofs.Except
import SqlGateway.Proofs.Value.Preorder
import SqlGateway.Store.Selection

/-! Documents put in order. Sorting leaves out no document and adds none, whatever their
values are; the result is in order wherever one order after another gives an order, as it does for
exact numbers, and what the order does not tell apart then stays as it stood. Documents that are
computed from others before they are sorted come out as if they had been computed afterwards, as
long as the fields of the order are still what they were. -/

namespace SqlGateway.Document

variable {keys : SortKeys} {docs : List Document}

theorem orderBy_swap (keys : SortKeys) (a b : Document) :
    orderBy keys b a = (orderBy keys a b).swap := by
  induction keys with
  | nil => rfl
  | cons key keys ih =>
    obtain ⟨field, descending⟩ := key
    have hfield := Value.order_swap ((a.getPath? field).getD .null) ((b.getPath? field).getD .null)
    cases descending with
    | false => simp only [orderBy, ih, hfield, Ordering.swap_then, if_false, Bool.false_eq_true]
    | true => simp only [orderBy, ih, hfield, Ordering.swap_then, if_true]

theorem orderBy_self (keys : SortKeys) (d : Document) : orderBy keys d d = .eq := by
  have hswap := orderBy_swap keys d d
  revert hswap
  cases orderBy keys d d <;> decide

/-- Whether the order of documents by fields is what their orders with others say. -/
def Consistent (keys : SortKeys) (docs : List Document) : Prop :=
  ∀ a ∈ docs, ∀ b ∈ docs, ∀ c ∈ docs,
    Composes (orderBy keys a b) (orderBy keys b c) (orderBy keys a c)

/-- Whether one document may stand before another. -/
def Precedes (keys : SortKeys) (a b : Document) : Prop := (orderBy keys a b).isLE

theorem precedes_of_not_lt {a b : Document} (h : orderBy keys a b ≠ .lt) : Precedes keys b a := by
  rw [Precedes, orderBy_swap keys a b]
  cases hab : orderBy keys a b with
  | lt => exact absurd hab h
  | eq => rfl
  | gt => rfl

/-- Whether an order does not tell two documents apart. -/
def ties (keys : SortKeys) (a b : Document) : Bool := orderBy keys a b == .eq

/-- Documents that tie with one document tie with each other. -/
theorem Consistent.orderBy_of_ties (h : Consistent keys docs) {x d e : Document} (hx : x ∈ docs)
    (hd : d ∈ docs) (he : e ∈ docs) (hxd : ties keys x d = true) (hxe : ties keys x e = true) :
    orderBy keys d e = .eq := by
  have hdx : orderBy keys d x = .eq := by rw [orderBy_swap keys x d, eq_of_beq hxd]; rfl
  have hthrough := h d hd x hx e he
  rw [hdx, eq_of_beq hxe] at hthrough
  exact hthrough rfl rfl

/-- Documents are ordered consistently by fields that hold no double in any of them, and no decimal
that stands for no number. -/
theorem consistent_of_exact
    (h : ∀ d ∈ docs, ∀ key ∈ keys, ∀ v ∈ d.getPath? key.1, v.Exact) :
    Consistent keys docs := by
  induction keys with
  | nil => exact fun _ _ _ _ _ _ _ _ => rfl
  | cons key keys ih =>
    obtain ⟨field, descending⟩ := key
    have hvalue : ∀ d ∈ docs, ((d.getPath? field).getD .null).Exact := by
      intro d hd
      cases hfield : d.getPath? field with
      | none => exact Value.exact_null
      | some v => exact h d hd _ List.mem_cons_self v hfield
    intro a ha b hb c hc
    have hrest := ih (fun d hd key hkey => h d hd key (List.mem_cons_of_mem _ hkey)) a ha b hb c hc
    refine .thenWith ?_ fun _ _ => hrest
    cases descending with
    | false => exact Value.composes_of_exact (hvalue a ha) (hvalue b hb) (hvalue c hc)
    | true =>
      simp only [if_true, ← Value.order_swap]
      exact (Value.composes_of_exact (hvalue c hc) (hvalue b hb) (hvalue a ha)).comm

/-! ### One document -/

theorem insertReversed_perm (keys : SortKeys) (d : Document) (run : List Document) :
    (insertReversed keys d run).Perm (d :: run) := by
  induction run with
  | nil => rfl
  | cons e es ih =>
    rw [insertReversed]
    split
    · exact (ih.cons e).trans (.swap d e es)
    · rfl

/-- A run in reverse order stays one when a document is put into it. -/
theorem pairwise_insertReversed (h : Consistent keys docs) {d : Document} (hd : d ∈ docs)
    {run : List Document} (hrun : run ⊆ docs)
    (hordered : run.Pairwise fun later earlier => Precedes keys earlier later) :
    (insertReversed keys d run).Pairwise fun later earlier => Precedes keys earlier later := by
  induction run with
  | nil => exact List.pairwise_singleton _ d
  | cons e es ih =>
    obtain ⟨hfirst, hrest⟩ := List.pairwise_cons.mp hordered
    obtain ⟨he, hes⟩ := List.cons_subset.mp hrun
    rw [insertReversed]
    split
    · next hlt =>
      refine List.pairwise_cons.mpr ⟨fun x hx => ?_, ih hes hrest⟩
      rcases List.mem_cons.mp ((insertReversed_perm keys d es).mem_iff.mp hx) with rfl | hx
      · rw [Precedes, hlt]
        rfl
      · exact hfirst x hx
    · next hge =>
      refine List.pairwise_cons.mpr ⟨fun x hx => ?_, hordered⟩
      rcases List.mem_cons.mp hx with rfl | hx
      · exact precedes_of_not_lt hge
      · exact (h x (hes hx) e he d hd).isLE (hfirst x hx) (precedes_of_not_lt hge)

/-- A document is put in front of those that it ties with. -/
theorem filter_insertReversed (h : Consistent keys docs) {x d : Document} (hx : x ∈ docs)
    (hd : d ∈ docs) {run : List Document} (hrun : run ⊆ docs) :
    (insertReversed keys d run).filter (ties keys x) = (d :: run).filter (ties keys x) := by
  induction run with
  | nil => rfl
  | cons e es ih =>
    obtain ⟨he, hes⟩ := List.cons_subset.mp hrun
    rw [insertReversed]
    split
    · next hlt =>
      rw [List.filter_cons, ih hes]
      cases hxd : ties keys x d with
      | false => simp [List.filter_cons, hxd]
      | true =>
        -- `e` comes behind `d` in the order, so that the two do not tie
        have hxe : ties keys x e = false := by
          rw [← Bool.not_eq_true]
          intro hxe
          rw [h.orderBy_of_ties hx hd he hxd hxe] at hlt
          cases hlt
        simp [hxd, hxe]
    · rfl

/-! ### All documents -/

theorem foldl_insertReversed_perm (keys : SortKeys) (docs run : List Document) :
    (docs.foldl (fun run d => insertReversed keys d run) run).Perm (docs ++ run) := by
  induction docs generalizing run with
  | nil => rfl
  | cons d docs ih =>
    rw [List.foldl_cons]
    exact (ih _).trans (((insertReversed_perm keys d run).append_left docs).trans List.perm_middle)

theorem pairwise_foldl_insertReversed (h : Consistent keys docs) {more run : List Document}
    (hmore : more ⊆ docs) (hrun : run ⊆ docs)
    (hordered : run.Pairwise fun later earlier => Precedes keys earlier later) :
    (more.foldl (fun run d => insertReversed keys d run) run).Pairwise
      fun later earlier => Precedes keys earlier later := by
  induction more generalizing run with
  | nil => exact hordered
  | cons d more ih =>
    obtain ⟨hd, hmore⟩ := List.cons_subset.mp hmore
    rw [List.foldl_cons]
    refine ih hmore (fun x hx => ?_) (pairwise_insertReversed h hd hrun hordered)
    exact List.cons_subset.mpr ⟨hd, hrun⟩ ((insertReversed_perm keys d run).subset hx)

theorem filter_foldl_insertReversed (h : Consistent keys docs) {x : Document} (hx : x ∈ docs)
    {more run : List Document} (hmore : more ⊆ docs) (hrun : run ⊆ docs) :
    (more.foldl (fun run d => insertReversed keys d run) run).filter (ties keys x) =
      (more.reverse ++ run).filter (ties keys x) := by
  induction more generalizing run with
  | nil => rfl
  | cons d more ih =>
    obtain ⟨hd, hmore⟩ := List.cons_subset.mp hmore
    have hput : insertReversed keys d run ⊆ docs := fun e he =>
      List.cons_subset.mpr ⟨hd, hrun⟩ ((insertReversed_perm keys d run).subset he)
    rw [List.foldl_cons, ih hmore hput, List.filter_append, filter_insertReversed h hx hd hrun,
      ← List.filter_append, List.reverse_cons, List.append_assoc]
    rfl

/-- Sorting by fields that have directions gives the documents in order, if they have one. -/
theorem exists_sort {spec : Document} (hspec : sortKeys spec = .ok keys) (docs : List Document) :
    ∃ sorted, sort docs spec = .ok sorted ∧ sorted.Perm docs ∧
      (Consistent keys docs → sorted.Pairwise (Precedes keys)) := by
  refine ⟨_, by rw [sort, hspec]; rfl, ?_, fun h => ?_⟩
  · have hfold := foldl_insertReversed_perm keys docs []
    rw [List.append_nil] at hfold
    exact (List.reverse_perm _).trans hfold
  · exact List.pairwise_reverse.mpr
      (pairwise_foldl_insertReversed h (List.Subset.refl docs) (List.nil_subset docs) .nil)

theorem perm_of_sort {spec : Document} {sorted : List Document}
    (h : sort docs spec = .ok sorted) : sorted.Perm docs := by
  obtain ⟨keys, hkeys, -⟩ := Except.bind_eq_ok.mp h
  obtain ⟨same, hsame, hperm, -⟩ := exists_sort hkeys docs
  obtain rfl : same = sorted := Except.ok.inj (hsame.symm.trans h)
  exact hperm

/-- Whether documents are others put in order: all of them and no more, each before those that come
after it by the fields, and those that these do not tell apart as they stood. -/
structure Arranges (keys : SortKeys) (docs sorted : List Document) : Prop where
  perm : sorted.Perm docs
  ordered : sorted.Pairwise (Precedes keys)
  stable : ∀ d ∈ docs, sorted.filter (ties keys d) = docs.filter (ties keys d)

theorem arranges_of_sort {spec : Document} (hspec : sortKeys spec = .ok keys)
    (h : Consistent keys docs) {sorted : List Document} (hsort : sort docs spec = .ok sorted) :
    Arranges keys docs sorted := by
  obtain ⟨same, hsame, hperm, hordered⟩ := exists_sort hspec docs
  obtain rfl : same = sorted := Except.ok.inj (hsame.symm.trans hsort)
  refine ⟨hperm, hordered h, fun d hd => ?_⟩
  rw [sort, hspec] at hsort
  cases hsort
  rw [List.filter_reverse, filter_foldl_insertReversed h hd (List.Subset.refl docs)
    (List.nil_subset docs), List.append_nil, List.filter_reverse, List.reverse_reverse]

/-- Without fields nothing is told apart. -/
theorem arranges_nil (docs : List Document) : Arranges [] docs docs :=
  ⟨.refl docs, List.pairwise_of_forall fun _ _ => rfl, fun _ _ => rfl⟩

/-! ### Documents computed from others -/

theorem orderBy_congr {a b a' b' : Document}
    (ha : ∀ key ∈ keys, a'.getPath? key.1 = a.getPath? key.1)
    (hb : ∀ key ∈ keys, b'.getPath? key.1 = b.getPath? key.1) :
    orderBy keys a' b' = orderBy keys a b := by
  induction keys with
  | nil => rfl
  | cons key keys ih =>
    obtain ⟨hakey, hakeys⟩ := List.forall_mem_cons.mp ha
    obtain ⟨hbkey, hbkeys⟩ := List.forall_mem_cons.mp hb
    rw [orderBy, orderBy, hakey, hbkey, ih hakeys hbkeys]

section

variable {g : Document → Document}
  (hg : ∀ a ∈ docs, ∀ b ∈ docs, orderBy keys (g a) (g b) = orderBy keys a b)

include hg

theorem insertReversed_map {d : Document} (hd : d ∈ docs) {run : List Document}
    (hrun : run ⊆ docs) :
    insertReversed keys (g d) (run.map g) = (insertReversed keys d run).map g := by
  induction run with
  | nil => rfl
  | cons e es ih =>
    obtain ⟨he, hes⟩ := List.cons_subset.mp hrun
    rw [List.map_cons, insertReversed, insertReversed, hg d hd e he, ih hes]
    split <;> rfl

theorem foldl_insertReversed_map {more run : List Document} (hmore : more ⊆ docs)
    (hrun : run ⊆ docs) :
    (more.map g).foldl (fun run d => insertReversed keys d run) (run.map g) =
      (more.foldl (fun run d => insertReversed keys d run) run).map g := by
  induction more generalizing run with
  | nil => rfl
  | cons d more ih =>
    obtain ⟨hd, hmore⟩ := List.cons_subset.mp hmore
    rw [List.map_cons, List.foldl_cons, List.foldl_cons, insertReversed_map hg hd hrun]
    refine ih hmore fun x hx => ?_
    exact List.cons_subset.mpr ⟨hd, hrun⟩ ((insertReversed_perm keys d run).subset hx)

/-- Sorting what is computed from documents is computing it from the sorted ones. -/
theorem sort_map {spec : Document} (hspec : sortKeys spec = .ok keys) {sorted : List Document}
    (hsort : sort docs spec = .ok sorted) : sort (docs.map g) spec = .ok (sorted.map g) := by
  rw [sort, hspec] at hsort ⊢
  cases hsort
  have hfold := foldl_insertReversed_map hg (List.Subset.refl docs) (List.nil_subset docs)
  rw [List.map_nil] at hfold
  rw [Except.ok_bind, hfold, List.map_reverse]
  rfl

end

theorem foldl_insertReversed_of_ties
    (h : ∀ a ∈ docs, ∀ b ∈ docs, orderBy keys a b = .eq) {more run : List Document}
    (hmore : more ⊆ docs) (hrun : run ⊆ docs) :
    more.foldl (fun run d => insertReversed keys d run) run = more.reverse ++ run := by
  induction more generalizing run with
  | nil => rfl
  | cons d more ih =>
    obtain ⟨hd, hmore⟩ := List.cons_subset.mp hmore
    have hfirst : insertReversed keys d run = d :: run := by
      cases run with
      | nil => rfl
      | cons e es =>
        have htie := h d hd e (hrun List.mem_cons_self)
        rw [insertReversed, if_neg (by rw [htie]; decide)]
    rw [List.foldl_cons, hfirst, ih hmore (List.cons_subset.mpr ⟨hd, hrun⟩), List.reverse_cons,
      List.append_assoc, List.singleton_append]

/-- Documents that an order does not tell apart stay as they are. -/
theorem sort_of_ties {spec : Document} (hspec : sortKeys spec = .ok keys)
    (h : ∀ a ∈ docs, ∀ b ∈ docs, orderBy keys a b = .eq) : sort docs spec = .ok docs := by
  have hfold := foldl_insertReversed_of_ties h (List.Subset.refl docs) (List.nil_subset docs)
  rw [sort, hspec, Except.ok_bind, hfold, List.append_nil, List.reverse_reverse]
  rfl

end SqlGateway.Document
