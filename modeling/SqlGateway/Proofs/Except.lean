/-! Taking apart computations that may fail. -/

namespace Except

variable {ε α β : Type}

theorem ok_bind (a : α) (f : α → Except ε β) : (Except.ok a >>= f) = f a := rfl

theorem bind_eq_ok {x : Except ε α} {f : α → Except ε β} {b : β} :
    x >>= f = .ok b ↔ ∃ a, x = .ok a ∧ f a = .ok b := by
  cases x with
  | error e => exact ⟨nofun, fun ⟨_, h, _⟩ => nomatch h⟩
  | ok a =>
    refine ⟨fun h => ⟨a, rfl, h⟩, fun ⟨a', ha, h⟩ => ?_⟩
    cases ha
    exact h

theorem map_eq_ok {x : Except ε α} {f : α → β} {b : β} :
    x.map f = .ok b ↔ ∃ a, x = .ok a ∧ f a = b := by
  cases x with
  | error e => exact ⟨nofun, fun ⟨_, h, _⟩ => nomatch h⟩
  | ok a => simp [Except.map]

theorem eq_map_id (x : Except ε α) : x = x.map id := by
  cases x <;> rfl

theorem exists_error_iff {x : Except ε α} : (∃ e, x = .error e) ↔ ¬∃ a, x = .ok a := by
  cases x <;> simp

/-- What holds at the beginning of a fold and after every step holds at its end. -/
theorem foldlM_preserves {P : β → Prop} {f : β → α → Except ε β} {xs : List α}
    (hstep : ∀ a ∈ xs, ∀ b b', P b → f b a = .ok b' → P b') {b r : β} (hb : P b)
    (h : xs.foldlM f b = .ok r) : P r := by
  induction xs generalizing b with
  | nil => cases h; exact hb
  | cons x xs ih =>
    obtain ⟨hx, hxs⟩ := List.forall_mem_cons.mp hstep
    rw [List.foldlM_cons] at h
    obtain ⟨b', hb', h⟩ := bind_eq_ok.mp h
    exact ih hxs (hx b b' hb hb') h

/-- What every step of a fold keeps, the fold keeps. -/
theorem foldlM_keeps {γ : Type} {f : β → α → Except ε β} (g : β → γ) {xs : List α}
    (hstep : ∀ a ∈ xs, ∀ b b', f b a = .ok b' → g b' = g b) {b r : β}
    (h : xs.foldlM f b = .ok r) : g r = g b :=
  foldlM_preserves (P := fun r => g r = g b)
    (fun a ha c c' hkept hc => (hstep a ha c c' hc).trans hkept) rfl h

/-- A fold that has a result has taken every step. -/
theorem exists_step_of_foldlM {f : β → α → Except ε β} {xs : List α} {b r : β}
    (h : xs.foldlM f b = .ok r) : ∀ x ∈ xs, ∃ c c', f c x = .ok c' := by
  induction xs generalizing b with
  | nil => exact nofun
  | cons x xs ih =>
    rw [List.foldlM_cons] at h
    obtain ⟨c, hc, h⟩ := bind_eq_ok.mp h
    exact List.forall_mem_cons.mpr ⟨⟨b, c, hc⟩, ih h⟩

theorem of_forM {f : α → Except ε Unit} {xs : List α} (h : xs.forM f = .ok ()) :
    ∀ x ∈ xs, f x = .ok () := by
  induction xs with
  | nil => simp
  | cons x xs ih =>
    obtain ⟨⟨⟩, hx, h⟩ := bind_eq_ok.mp h
    exact List.forall_mem_cons.mpr ⟨hx, ih h⟩

theorem forM_eq_ok {f : α → Except ε Unit} {xs : List α} (h : ∀ x ∈ xs, f x = .ok ()) :
    xs.forM f = .ok () := by
  induction xs with
  | nil => rfl
  | cons x xs ih =>
    obtain ⟨hx, hxs⟩ := List.forall_mem_cons.mp h
    exact bind_eq_ok.mpr ⟨(), hx, ih hxs⟩

/-- What stands in the result of a run over a list was computed from an item of the list. -/
theorem exists_of_mem_mapM {f : α → Except ε β} {xs : List α} {ys : List β}
    (h : xs.mapM f = .ok ys) {y : β} (hy : y ∈ ys) : ∃ x ∈ xs, f x = .ok y := by
  induction xs generalizing ys with
  | nil => cases h; cases hy
  | cons x xs ih =>
    rw [List.mapM_cons] at h
    obtain ⟨z, hz, h⟩ := bind_eq_ok.mp h
    obtain ⟨zs, hzs, h⟩ := bind_eq_ok.mp h
    cases h
    rcases List.mem_cons.mp hy with rfl | hy
    · exact ⟨x, List.mem_cons_self, hz⟩
    · obtain ⟨w, hw, hwy⟩ := ih hzs hy
      exact ⟨w, List.mem_cons_of_mem x hw, hwy⟩

theorem mapM_cons_eq_ok {f : α → Except ε β} {x : α} {xs : List α} {ys : List β} :
    (x :: xs).mapM f = .ok ys ↔ ∃ z zs, f x = .ok z ∧ xs.mapM f = .ok zs ∧ z :: zs = ys := by
  rw [List.mapM_cons, bind_eq_ok]
  refine exists_congr fun z => ?_
  rw [bind_eq_ok]
  constructor
  · rintro ⟨hz, zs, hzs, h⟩
    exact ⟨zs, hz, hzs, Except.ok.inj h⟩
  · rintro ⟨zs, hz, hzs, rfl⟩
    exact ⟨hz, zs, hzs, rfl⟩

/-- What is computed from an item of the list stands in the result. -/
theorem exists_mem_of_mapM {f : α → Except ε β} {xs : List α} {ys : List β}
    (h : xs.mapM f = .ok ys) {x : α} (hx : x ∈ xs) : ∃ y ∈ ys, f x = .ok y := by
  induction xs generalizing ys with
  | nil => cases hx
  | cons w xs ih =>
    obtain ⟨z, zs, hz, hzs, rfl⟩ := mapM_cons_eq_ok.mp h
    rcases List.mem_cons.mp hx with rfl | hx
    · exact ⟨z, List.mem_cons_self, hz⟩
    · obtain ⟨y, hy, hxy⟩ := ih hzs hx
      exact ⟨y, List.mem_cons_of_mem z hy, hxy⟩

/-- A run over a list has a result exactly if every item has one. -/
theorem exists_mapM_eq_ok {f : α → Except ε β} {xs : List α} :
    (∃ ys, xs.mapM f = .ok ys) ↔ ∀ x ∈ xs, ∃ y, f x = .ok y := by
  induction xs with
  | nil => exact iff_of_true ⟨[], rfl⟩ nofun
  | cons x xs ih =>
    rw [List.forall_mem_cons, ← ih]
    constructor
    · rintro ⟨ys, h⟩
      obtain ⟨z, zs, hz, hzs, -⟩ := mapM_cons_eq_ok.mp h
      exact ⟨⟨z, hz⟩, ⟨zs, hzs⟩⟩
    · rintro ⟨⟨z, hz⟩, zs, hzs⟩
      exact ⟨z :: zs, mapM_cons_eq_ok.mpr ⟨z, zs, hz, hzs, rfl⟩⟩

theorem length_mapM {f : α → Except ε β} {xs : List α} {ys : List β} (h : xs.mapM f = .ok ys) :
    ys.length = xs.length := by
  induction xs generalizing ys with
  | nil => cases h; rfl
  | cons x xs ih =>
    obtain ⟨z, zs, -, hzs, rfl⟩ := mapM_cons_eq_ok.mp h
    rw [List.length_cons, List.length_cons, ih hzs]

/-- A run over a list whose items all have results gives these results. -/
theorem mapM_eq_map {f : α → Except ε β} {g : α → β} {xs : List α}
    (h : ∀ x ∈ xs, f x = .ok (g x)) : xs.mapM f = .ok (xs.map g) := by
  induction xs with
  | nil => rfl
  | cons x xs ih =>
    obtain ⟨hx, hxs⟩ := List.forall_mem_cons.mp h
    rw [List.mapM_cons, hx, ih hxs]
    rfl

/-- A run over a list gives what its items give, if they all give something. -/
theorem mapM_eq_ok_iff {f : α → Except ε β} {g : α → β} {xs : List α} {ys : List β}
    (hg : ∀ x y, f x = .ok y → g x = y) :
    xs.mapM f = .ok ys ↔ (∀ x ∈ xs, ∃ y, f x = .ok y) ∧ xs.map g = ys := by
  constructor
  · intro h
    have hall := exists_mapM_eq_ok.mp ⟨ys, h⟩
    refine ⟨hall, Except.ok.inj ((mapM_eq_map fun x hx => ?_).symm.trans h)⟩
    obtain ⟨y, hy⟩ := hall x hx
    rw [hy, hg x y hy]
  · rintro ⟨hall, rfl⟩
    refine mapM_eq_map fun x hx => ?_
    obtain ⟨y, hy⟩ := hall x hx
    rw [hy, hg x y hy]

/-- A run over a list whose results are made of those of another run. -/
theorem mapM_of_map {γ : Type} {f : α → Except ε γ} {g : α → Except ε β} {h : β → γ}
    (hf : ∀ x, f x = (g x).map h) {xs : List α} {ys : List β} (hg : xs.mapM g = .ok ys) :
    xs.mapM f = .ok (ys.map h) := by
  induction xs generalizing ys with
  | nil => cases hg; rfl
  | cons x xs ih =>
    obtain ⟨z, zs, hz, hzs, rfl⟩ := mapM_cons_eq_ok.mp hg
    exact mapM_cons_eq_ok.mpr ⟨h z, zs.map h, by rw [hf, hz]; rfl, ih hzs, rfl⟩

/-- What a run over a list keeps of each item stands in its results in the same order. -/
theorem map_of_mapM {γ : Type} {f : α → Except ε β} {g : α → γ} {h : β → γ}
    (hf : ∀ x y, f x = .ok y → h y = g x) {xs : List α} {ys : List β}
    (hys : xs.mapM f = .ok ys) : ys.map h = xs.map g := by
  induction xs generalizing ys with
  | nil => cases hys; rfl
  | cons x xs ih =>
    obtain ⟨y, zs, hy, hzs, rfl⟩ := mapM_cons_eq_ok.mp hys
    rw [List.map_cons, List.map_cons, hf x y hy, ih hzs]

/-- A run over a list gives back what its items were made of. -/
theorem mapM_map_ok {f : α → Except ε β} {g : β → α} (h : ∀ b, f (g b) = .ok b) (bs : List β) :
    (bs.map g).mapM f = .ok bs := by
  induction bs with
  | nil => rfl
  | cons b bs ih =>
    rw [List.map_cons, List.mapM_cons, h, ih]
    rfl

/-! ### Computations that correspond step by step -/

variable {γ δ : Type}

/-- What corresponds after each result corresponds as a whole. -/
theorem bind_eq_map {x : Except ε α} {k : α → Except ε β} {k' : α → Except ε γ} {h : β → γ}
    (hk : ∀ a, x = .ok a → k' a = (k a).map h) : (x >>= k') = (x >>= k).map h := by
  cases x with
  | error e => rfl
  | ok a => exact hk a rfl

theorem map_bind_eq_map {x : Except ε α} {g : α → δ} {k : α → Except ε β} {k' : δ → Except ε γ}
    {h : β → γ} (hk : ∀ a, x = .ok a → k' (g a) = (k a).map h) :
    (x.map g >>= k') = (x >>= k).map h := by
  cases x with
  | error e => rfl
  | ok a => exact hk a rfl

theorem mapM_eq_map_mapM {f : α → Except ε β} {f' : α → Except ε γ} {h : β → γ} {xs : List α}
    (hf : ∀ x ∈ xs, f' x = (f x).map h) : xs.mapM f' = (xs.mapM f).map (List.map h) := by
  induction xs with
  | nil => rfl
  | cons x xs ih =>
    obtain ⟨hx, hxs⟩ := List.forall_mem_cons.mp hf
    rw [List.mapM_cons, List.mapM_cons, hx, ih hxs]
    exact map_bind_eq_map fun y _ => map_bind_eq_map fun ys _ => rfl

/-- A fold corresponds to another one as long as what it needs is kept. -/
theorem foldlM_eq_map {P : β → Prop} {f : β → α → Except ε β} {f' : γ → α → Except ε γ} {h : β → γ}
    {xs : List α} (hf : ∀ x ∈ xs, ∀ b, P b → f' (h b) x = (f b x).map h)
    (hP : ∀ x ∈ xs, ∀ b b', P b → f b x = .ok b' → P b') {b : β} (hb : P b) :
    xs.foldlM f' (h b) = (xs.foldlM f b).map h := by
  induction xs generalizing b with
  | nil => rfl
  | cons x xs ih =>
    obtain ⟨hx, hxs⟩ := List.forall_mem_cons.mp hf
    obtain ⟨hPx, hPxs⟩ := List.forall_mem_cons.mp hP
    rw [List.foldlM_cons, List.foldlM_cons, hx b hb]
    exact map_bind_eq_map fun b' hb' => ih hxs hPxs (hPx b b' hb hb')

end Except
