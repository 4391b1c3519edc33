import Mathlib.Data.List.Forall2
import Mathlib.Data.List.Perm.Basic
import Mathlib.Data.List.Perm.Subperm
import SqlGateway.Proofs.Except

/-! Lists item by item: runs over a list, each item beside its result. -/

namespace List

variable {α β γ : Type} {R : α → β → Prop} {S : β → γ → Prop}

/-- Lists that are related through a third one are related item by item. -/
theorem exists_forall₂_forall₂_iff {xs : List α} {zs : List γ} :
    (∃ ys, Forall₂ R xs ys ∧ Forall₂ S ys zs) ↔ Forall₂ (fun x z => ∃ y, R x y ∧ S y z) xs zs := by
  induction xs generalizing zs with
  | nil => simp
  | cons x xs ih =>
    rw [forall₂_cons_left_iff]
    constructor
    · rintro ⟨between, hbetween, hzs⟩
      obtain ⟨y, ys, hy, hys, rfl⟩ := forall₂_cons_left_iff.mp hbetween
      obtain ⟨z, zs, hz, hrest, rfl⟩ := forall₂_cons_left_iff.mp hzs
      exact ⟨z, zs, ⟨y, hy, hz⟩, ih.mp ⟨ys, hys, hrest⟩, rfl⟩
    · rintro ⟨z, zs, ⟨y, hy, hz⟩, hrest, rfl⟩
      obtain ⟨ys, hys, hzs⟩ := ih.mpr hrest
      exact ⟨y :: ys, .cons hy hys, .cons hz hzs⟩

/-- What follows for the items of a list follows item by item. -/
theorem Forall₂.imp_of_mem {T : α → β → Prop} {xs : List α} {ys : List β} (h : Forall₂ R xs ys)
    (himp : ∀ x ∈ xs, ∀ y, R x y → T x y) : Forall₂ T xs ys :=
  ((forall₂_and_left _ _).mpr ⟨himp, h⟩).imp fun _ y hxy => hxy.1 y hxy.2

theorem Forall₂.exists_of_sublist {xs : List α} {ys zs : List β} (h : Forall₂ R xs ys)
    (hzs : zs <+ ys) : ∃ ws, ws <+ xs ∧ Forall₂ R ws zs := by
  induction hzs generalizing xs with
  | slnil => exact ⟨[], nil_sublist xs, .nil⟩
  | cons y _ ih =>
    obtain ⟨x, rest, -, hrest, rfl⟩ := forall₂_cons_right_iff.mp h
    obtain ⟨ws, hws, hpaired⟩ := ih hrest
    exact ⟨ws, hws.cons x, hpaired⟩
  | cons_cons y _ ih =>
    obtain ⟨x, rest, hx, hrest, rfl⟩ := forall₂_cons_right_iff.mp h
    obtain ⟨ws, hws, hpaired⟩ := ih hrest
    exact ⟨x :: ws, hws.cons_cons x, .cons hx hpaired⟩

theorem Forall₂.exists_of_perm {xs : List α} {ys zs : List β} (h : Forall₂ R xs ys)
    (hzs : zs ~ ys) : ∃ ws, ws ~ xs ∧ Forall₂ R ws zs := by
  obtain ⟨ws, hws, hpaired⟩ : Relation.Comp Perm (Forall₂ R) xs zs := by
    rw [← forall₂_comp_perm_eq_perm_comp_forall₂]
    exact ⟨ys, h, hzs.symm⟩
  exact ⟨ws, hws.symm, hpaired⟩

/-- Some of the results, in whatever order, are those of some of the items. -/
theorem Forall₂.exists_of_subperm {xs : List α} {ys zs : List β} (h : Forall₂ R xs ys)
    (hzs : zs <+~ ys) : ∃ ws, ws <+~ xs ∧ Forall₂ R ws zs := by
  obtain ⟨kept, hperm, hsublist⟩ := hzs
  obtain ⟨between, hbetween, hkept⟩ := h.exists_of_sublist hsublist
  obtain ⟨ws, hws, hpaired⟩ := hkept.exists_of_perm hperm.symm
  exact ⟨ws, ⟨between, hws.symm, hbetween⟩, hpaired⟩

end List

/-- A run over a list gives one result for each item. -/
theorem Except.mapM_eq_ok_iff_forall₂ {ε α β : Type} {f : α → Except ε β} {xs : List α}
    {ys : List β} : xs.mapM f = .ok ys ↔ List.Forall₂ (fun x y => f x = .ok y) xs ys := by
  induction xs generalizing ys with
  | nil =>
    rw [List.forall₂_nil_left_iff]
    exact ⟨fun h => (Except.ok.inj h).symm, fun h => h ▸ rfl⟩
  | cons x xs ih =>
    rw [mapM_cons_eq_ok, List.forall₂_cons_left_iff]
    constructor
    · rintro ⟨y, zs, hy, hzs, rfl⟩
      exact ⟨y, zs, hy, ih.mp hzs, rfl⟩
    · rintro ⟨y, zs, hy, hzs, rfl⟩
      exact ⟨y, zs, hy, ih.mpr hzs, rfl⟩
