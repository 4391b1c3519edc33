import SqlGateway.Value.Fields

/-! Look-ups in named fields after they are written and removed. -/

namespace SqlGateway.Fields

variable {α : Type}

theorem get?_cons (k key : String) (w : α) (fs : Fields α) :
    get? ((k, w) :: fs) key = if key = k then some w else fs.get? key := by
  by_cases h : key = k
  · simp [get?, h]
  · have hb : (key == k) = false := by simpa using h
    simp [get?, List.lookup_cons, h, hb]

theorem has_eq_isSome (fs : Fields α) (key : String) : fs.has key = (fs.get? key).isSome := by
  induction fs with
  | nil => rfl
  | cons f fs ih =>
    obtain ⟨k, w⟩ := f
    rw [get?_cons]
    by_cases h : key = k
    · simp [has, h]
    · simp [has, h, Ne.symm h, ← ih]

theorem get?_eq_none_iff {fs : Fields α} {key : String} : fs.get? key = none ↔ key ∉ fs.keys := by
  rw [← Option.not_isSome_iff_eq_none, ← has_eq_isSome]
  simp [has, keys]

theorem get?_of_mem {fs : Fields α} (hdistinct : fs.keys.Nodup) {f : String × α} (hf : f ∈ fs) :
    fs.get? f.1 = some f.2 := by
  induction fs with
  | nil => cases hf
  | cons g fs ih =>
    obtain ⟨k, w⟩ := g
    obtain ⟨hk, hdistinct⟩ := List.nodup_cons.mp hdistinct
    rw [get?_cons]
    rcases List.mem_cons.mp hf with rfl | hf
    · rw [if_pos rfl]
    · have hne : f.1 ≠ k := fun heq => hk (List.mem_map.mpr ⟨f, hf, heq⟩)
      rw [if_neg hne, ih hdistinct hf]

theorem get?_map {β : Type} (fs : Fields α) (f : α → β) (key : String) :
    get? (fs.map fun e => (e.1, f e.2)) key = (fs.get? key).map f := by
  induction fs with
  | nil => rfl
  | cons e fs ih =>
    rw [List.map_cons, get?_cons, get?_cons, ih]
    split <;> rfl

/-! ### Writing -/

theorem set_of_not_mem {fs : Fields α} {key : String} (h : key ∉ fs.keys) (v : α) :
    fs.set key v = fs ++ [(key, v)] := by
  induction fs with
  | nil => rfl
  | cons f fs ih =>
    simp only [keys, List.map_cons, List.mem_cons, not_or] at h
    simp [set, Ne.symm h.1, ih h.2]

/-- A field that exists stands somewhere, and writing it changes nothing around it. -/
theorem exists_split_of_get? {fs : Fields α} {key : String} {w : α} (h : fs.get? key = some w) :
    ∃ l r, fs = l ++ (key, w) :: r ∧ ∀ v, fs.set key v = l ++ (key, v) :: r := by
  induction fs with
  | nil => simp [get?] at h
  | cons f fs ih =>
    obtain ⟨k, u⟩ := f
    rw [get?_cons] at h
    by_cases hk : key = k
    · subst hk
      simp only [if_true, Option.some.injEq] at h
      subst h
      exact ⟨[], fs, rfl, fun v => by simp [set]⟩
    · rw [if_neg hk] at h
      obtain ⟨l, r, hfs, hset⟩ := ih h
      exact ⟨(k, u) :: l, r, by simp [hfs], fun v => by simp [set, Ne.symm hk, hset]⟩

theorem mem_of_get? {fs : Fields α} {key : String} {w : α} (h : fs.get? key = some w) :
    (key, w) ∈ fs := by
  obtain ⟨l, r, hfs, -⟩ := exists_split_of_get? h
  simp [hfs]

theorem mem_of_mem_set {fs : Fields α} {key : String} {v : α} {f : String × α}
    (h : f ∈ fs.set key v) : f = (key, v) ∨ f ∈ fs := by
  induction fs with
  | nil => exact .inl (List.mem_singleton.mp h)
  | cons g fs ih =>
    obtain ⟨k, w⟩ := g
    rw [set] at h
    split at h
    · next hk =>
      rcases List.mem_cons.mp h with rfl | h
      · exact .inl (by rw [hk])
      · exact .inr (List.mem_cons_of_mem _ h)
    · rcases List.mem_cons.mp h with rfl | h
      · exact .inr List.mem_cons_self
      · exact (ih h).imp_right (List.mem_cons_of_mem _)

theorem keys_set (fs : Fields α) (key : String) (v : α) :
    (fs.set key v).keys = if key ∈ fs.keys then fs.keys else fs.keys ++ [key] := by
  by_cases hkey : key ∈ fs.keys
  · have hsome : fs.get? key ≠ none := fun hnone => get?_eq_none_iff.mp hnone hkey
    obtain ⟨w, hw⟩ := Option.ne_none_iff_exists'.mp hsome
    obtain ⟨l, r, hfs, hset⟩ := exists_split_of_get? hw
    rw [if_pos hkey, hset, hfs]
    simp [keys]
  · rw [if_neg hkey, set_of_not_mem hkey]
    simp [keys]

theorem nodup_keys_set {fs : Fields α} (h : fs.keys.Nodup) (key : String) (v : α) :
    (fs.set key v).keys.Nodup := by
  rw [keys_set]
  split
  · exact h
  · next hkey =>
    have hnew : ∀ k ∈ fs.keys, k ≠ key := fun k hk heq => hkey (heq ▸ hk)
    simpa [List.nodup_append, h] using hnew

/-! ### Writing many fields -/

theorem setAll_cons (fs : Fields α) (f : String × α) (more : List (String × α)) :
    fs.setAll (f :: more) = (fs.set f.1 f.2).setAll more := rfl

theorem nodup_keys_setAll {fs : Fields α} (h : fs.keys.Nodup) (more : List (String × α)) :
    (fs.setAll more).keys.Nodup := by
  induction more generalizing fs with
  | nil => exact h
  | cons f more ih => exact ih (nodup_keys_set h f.1 f.2)

theorem mem_of_mem_setAll {fs : Fields α} {more : List (String × α)} {f : String × α}
    (h : f ∈ fs.setAll more) : f ∈ fs ∨ f ∈ more := by
  induction more generalizing fs with
  | nil => exact .inl h
  | cons g more ih =>
    rw [setAll_cons] at h
    rcases ih h with h | h
    · rcases mem_of_mem_set h with rfl | h
      · exact .inr List.mem_cons_self
      · exact .inl h
    · exact .inr (List.mem_cons_of_mem _ h)

theorem mem_keys_setAll {fs : Fields α} {more : List (String × α)} {key : String} :
    key ∈ (fs.setAll more).keys ↔ key ∈ fs.keys ∨ key ∈ more.map (·.1) := by
  induction more generalizing fs with
  | nil => simp [setAll]
  | cons f more ih =>
    rw [setAll_cons, ih, keys_set, List.map_cons, List.mem_cons]
    split
    · next hf => grind
    · simp [or_assoc]

/-- The last write to a field counts. -/
theorem get?_setAll (fs : Fields α) (more : List (String × α)) (key : String) :
    (fs.setAll more).get? key =
      ((more.filter (·.1 = key)).getLast?.map (·.2)).or (fs.get? key) := by
  induction more generalizing fs with
  | nil => simp [setAll]
  | cons f more ih =>
    rw [setAll_cons, ih, get?_set]
    by_cases hf : f.1 = key
    · rw [if_pos hf.symm, List.filter_cons_of_pos (by simpa using hf), List.getLast?_cons]
      cases (more.filter (·.1 = key)).getLast? <;> simp
    · rw [if_neg (Ne.symm hf), List.filter_cons_of_neg (by simpa using hf)]

theorem get?_setAll_of_not_mem {fs : Fields α} {more : List (String × α)} {key : String}
    (h : key ∉ more.map (·.1)) : (fs.setAll more).get? key = fs.get? key := by
  have hnone : more.filter (·.1 = key) = [] := List.filter_eq_nil_iff.mpr fun f hf hkey =>
    h (List.mem_map.mpr ⟨f, hf, of_decide_eq_true hkey⟩)
  rw [get?_setAll, hnone]
  rfl

theorem get?_setAll_of_mem {fs more : Fields α} (hdistinct : more.keys.Nodup) {f : String × α}
    (hf : f ∈ more) : (fs.setAll more).get? f.1 = some f.2 := by
  have hmem : f ∈ more.filter (·.1 = f.1) := List.mem_filter.mpr ⟨hf, by simp⟩
  rw [get?_setAll]
  cases hlast : (more.filter (·.1 = f.1)).getLast? with
  | none => exact absurd (List.getLast?_eq_none_iff.mp hlast) (List.ne_nil_of_mem hmem)
  | some g =>
    obtain ⟨hg, hname⟩ := List.mem_filter.mp (List.mem_of_getLast? hlast)
    have hget := (get?_of_mem hdistinct hg).symm.trans
      (of_decide_eq_true hname ▸ get?_of_mem hdistinct hf)
    rw [Option.map_some, Option.some_or, hget]

theorem setAll_eq_append {fs more : Fields α} (hmore : more.keys.Nodup)
    (h : ∀ key ∈ more.keys, key ∉ fs.keys) : fs.setAll more = fs ++ more := by
  induction more generalizing fs with
  | nil => simp [setAll]
  | cons f more ih =>
    obtain ⟨k, v⟩ := f
    simp only [keys, List.map_cons, List.nodup_cons, List.mem_cons, forall_eq_or_imp] at hmore h
    have hset := set_of_not_mem h.1 v
    have : (fs ++ [(k, v)]).setAll more = fs ++ [(k, v)] ++ more := ih hmore.2 fun key hkey hfs => by
      simp only [keys, List.map_append, List.map_cons, List.map_nil, List.mem_append,
        List.mem_singleton] at hfs
      rcases hfs with hfs | rfl
      · exact h.2 key hkey hfs
      · exact hmore.1 hkey
    simpa [setAll, hset] using this

/-- Fields that are written one after another, each for the first time, stand in that order. -/
theorem foldlM_fresh {β ε : Type} {step : Fields α → β → Except ε (Fields α)} {key : β → String}
    {value : β → α} {more : List β}
    (hstep : ∀ x ∈ more, ∀ fs, step fs x = .ok (fs.set (key x) (value x))) {fs : Fields α}
    (hdistinct : (fs.keys ++ more.map key).Nodup) :
    more.foldlM step fs = .ok (fs ++ more.map fun x => (key x, value x)) := by
  induction more generalizing fs with
  | nil => exact congrArg Except.ok (List.append_nil fs).symm
  | cons x more ih =>
    obtain ⟨hx, hmore⟩ := List.forall_mem_cons.mp hstep
    have hfresh : key x ∉ fs.keys := fun hmem =>
      (List.nodup_append.mp hdistinct).2.2 _ hmem _ List.mem_cons_self rfl
    rw [List.map_cons, List.append_cons] at hdistinct
    rw [List.foldlM_cons, hx, set_of_not_mem hfresh]
    refine (ih hmore ?_).trans ?_
    · rwa [keys, List.map_append]
    · rw [List.append_assoc]
      rfl

theorem set_map {β : Type} (fs : Fields α) (f : α → β) (key : String) (v : α) :
    set key (f v) (fs.map fun e => (e.1, f e.2)) = (fs.set key v).map fun e => (e.1, f e.2) := by
  induction fs with
  | nil => rfl
  | cons e fs ih =>
    obtain ⟨k, w⟩ := e
    by_cases hk : k = key
    · simp [set, hk]
    · simp [set, hk, ih]

/-- Values that are computed one by one can be computed before or after they are written. -/
theorem setAll_map {β : Type} (fs : Fields α) (f : α → β) (more : List (String × α)) :
    setAll (fs.map fun e => (e.1, f e.2)) (more.map fun e => (e.1, f e.2)) =
      (fs.setAll more).map fun e => (e.1, f e.2) := by
  induction more generalizing fs with
  | nil => rfl
  | cons e more ih =>
    rw [List.map_cons, setAll_cons, setAll_cons, ← ih]
    exact congrArg (fun fs => setAll fs _) (set_map fs f e.1 e.2)

/-- Of two writes to one field only the second one is left. -/
theorem set_set (fs : Fields α) (key : String) (v w : α) :
    (fs.set key v).set key w = fs.set key w := by
  induction fs with
  | nil => simp [set]
  | cons f fs ih =>
    obtain ⟨k, u⟩ := f
    by_cases hk : k = key
    · simp [set, hk]
    · simp [set, hk, ih]

/-! ### Removing -/

theorem get?_erase (fs : Fields α) (key k : String) :
    (fs.erase key).get? k = if k = key then none else fs.get? k := by
  induction fs with
  | nil => simp [erase, get?]
  | cons f fs ih =>
    obtain ⟨l, w⟩ := f
    simp only [erase] at ih ⊢
    by_cases hl : l = key
    · subst hl
      rw [List.filter_cons_of_neg (by simp), ih, get?_cons]
      by_cases hk : k = l <;> simp [hk]
    · rw [List.filter_cons_of_pos (by simpa using hl), get?_cons, get?_cons, ih]
      by_cases hk : k = l
      · subst hk; simp [hl]
      · simp [hk]

theorem keys_erase (fs : Fields α) (key : String) :
    (fs.erase key).keys = fs.keys.filter (· != key) := by
  rw [keys, keys, List.filter_map]
  rfl

theorem erase_set (fs : Fields α) (key : String) (v : α) :
    (fs.set key v).erase key = fs.erase key := by
  induction fs with
  | nil => simp [set, erase]
  | cons f fs ih =>
    obtain ⟨k, u⟩ := f
    simp only [erase] at ih ⊢
    by_cases hk : k = key
    · simp [set, hk]
    · simp [set, hk, ih]

end SqlGateway.Fields
