import SqlGateway.Filter.Lowering
import SqlGateway.Proofs.Filter.Lowering

/-! Filters that are found. Moving an entry under `$and` a second time leads nowhere, so that two
steps tell whether there is a filter at all; if there is, it is the one that the list lowers to. A
list whose columns are not called `$and` always has one. -/

namespace SqlGateway.Filter

variable {target d : Document} {key : String} {v : Value}

/-! ### Steps -/

/-- Adds an entry to a filter document in so many steps. An entry that collides is moved under
`$and` in the next. -/
def mergeWithin : Nat → Document → String → Value → Option Document
  | 0, _, _, _ => none
  | n + 1, target, key, v =>
    (place? target key v).or (mergeWithin n target "$and" (.array [.document [(key, v)]]))

/-- Under `$and` one list collides like another. -/
theorem place?_conjuncts {vs : List Value} (h : place? target "$and" (.array vs) = none)
    (ws : List Value) : place? target "$and" (.array ws) = none := by
  unfold place? at h ⊢
  cases hget : target.get? "$and" with
  | none => rw [hget] at h; cases h
  | some w =>
    cases w with
    | array current => rw [hget] at h; cases h
    | _ => rfl

/-- So it collides as often as it is moved. -/
theorem mergeWithin_conjuncts {vs : List Value} (h : place? target "$and" (.array vs) = none)
    (n : Nat) (ws : List Value) : mergeWithin n target "$and" (.array ws) = none := by
  induction n generalizing ws with
  | zero => rfl
  | succ n ih => rw [mergeWithin, place?_conjuncts h, ih, Option.or_none]

theorem mergeField?_eq (target : Document) (key : String) (v : Value) :
    mergeField? target key v =
      (place? target key v).or (place? target "$and" (.array [.document [(key, v)]])) := by
  rw [mergeField?]
  cases place? target key v <;> rfl

/-- An entry is added in some number of steps just if it is in two. -/
theorem mergeField?_eq_some_iff :
    mergeField? target key v = some d ↔ ∃ n, mergeWithin n target key v = some d := by
  rw [mergeField?_eq]
  constructor
  · exact fun h => ⟨2, by rw [mergeWithin, mergeWithin, mergeWithin, Option.or_none, h]⟩
  · rintro ⟨n, hn⟩
    cases n with
    | zero => cases hn
    | succ n =>
      rw [mergeWithin] at hn
      cases n with
      | zero =>
        rw [mergeWithin, Option.or_none] at hn
        rw [hn, Option.some_or]
      | succ n =>
        rw [mergeWithin] at hn
        cases hmoved : place? target "$and" (.array [.document [(key, v)]]) with
        | none =>
          rw [hmoved, mergeWithin_conjuncts hmoved, Option.or_none] at hn
          rw [hn]
        | some moved => rwa [hmoved, Option.some_or] at hn

/-! ### What is found -/

theorem mergeField_of_place? (h : place? target key v = some d) : mergeField target key v = d := by
  unfold place? at h
  unfold mergeField
  cases hget : target.get? key with
  | none =>
    rw [hget] at h
    exact Option.some.inj h
  | some w =>
    rw [hget] at h
    cases w with
    | array current =>
      cases v with
      | array extra =>
        dsimp only at h ⊢
        split at h
        · next hkey =>
          rw [if_pos hkey, addConjuncts, ← hkey, hget]
          exact Option.some.inj h
        · cases h
      | _ => cases h
    | document current =>
      cases v with
      | document extra =>
        dsimp only at h ⊢
        split at h
        · next hmerge =>
          rw [if_pos hmerge]
          exact Option.some.inj h
        · cases h
      | _ => cases h
    | _ => cases h

theorem addConjuncts_of_place? {vs : List Value}
    (h : place? target "$and" (.array vs) = some d) : addConjuncts target vs = d := by
  unfold place? at h
  unfold addConjuncts
  cases hget : target.get? "$and" with
  | none =>
    rw [hget] at h
    exact Option.some.inj h
  | some w =>
    rw [hget] at h
    cases w with
    | array current => exact Option.some.inj h
    | _ => cases h

theorem mergeField_of_not_place? (h : place? target key v = none) :
    mergeField target key v = addConjuncts target [.document [(key, v)]] := by
  unfold place? at h
  unfold mergeField
  cases hget : target.get? key with
  | none => rw [hget] at h; cases h
  | some w =>
    rw [hget] at h
    cases w with
    | array current =>
      cases v with
      | array extra =>
        dsimp only at h ⊢
        split at h
        · cases h
        · next hkey => rw [if_neg hkey]
      | _ => rfl
    | document current =>
      cases v with
      | document extra =>
        dsimp only at h ⊢
        split at h
        · cases h
        · next hmerge => rw [if_neg hmerge]
      | _ => rfl
    | _ => rfl

theorem mergeField_of_mergeField? (h : mergeField? target key v = some d) :
    mergeField target key v = d := by
  rw [mergeField?_eq] at h
  cases hplace : place? target key v with
  | some placed =>
    rw [hplace] at h
    cases h
    exact mergeField_of_place? hplace
  | none =>
    rw [hplace, Option.none_or] at h
    exact (mergeField_of_not_place? hplace).trans (addConjuncts_of_place? h)

/-- A fold whose steps may lead nowhere gives what the fold of the steps gives. -/
theorem foldl_of_foldlM {α β : Type} {step : β → α → Option β} {total : β → α → β}
    (hstep : ∀ b a c, step b a = some c → total b a = c) {xs : List α} {b r : β}
    (h : xs.foldlM step b = some r) : xs.foldl total b = r := by
  induction xs generalizing b with
  | nil => exact Option.some.inj h
  | cons x xs ih =>
    rw [List.foldlM_cons] at h
    obtain ⟨c, hc, h⟩ := Option.bind_eq_some_iff.mp h
    rw [List.foldl_cons, hstep b x c hc]
    exact ih h

theorem ofTerm_of_ofTerm? {t : FilterTerm} (h : ofTerm? t = some d) : ofTerm t = d := by
  have hgroup {cs : List Condition}
      (h : cs.foldlM (fun d c => mergeField? d c.field (.document c.operator)) [] = some d) :
      cs.foldl (fun d c => mergeField d c.field (.document c.operator)) [] = d :=
    foldl_of_foldlM (fun _ _ _ => mergeField_of_mergeField?) h
  cases t with
  | single c => exact Option.some.inj h
  | group connective cs =>
    cases connective with
    | or => exact Option.some.inj h
    | and => exact hgroup h
    | xor => exact hgroup h

/-- A filter that is found is the one that the items lower to. -/
theorem ofItems_of_ofItems? {items : List FilterItem} (h : ofItems? items = some d) :
    ofItems items = d := by
  induction items generalizing d with
  | nil => exact Option.some.inj h
  | cons i rest ih =>
    cases rest with
    | nil => exact ofTerm_of_ofTerm? h
    | cons next rest =>
      obtain ⟨tail, htail, h⟩ := Option.bind_eq_some_iff.mp h
      obtain ⟨head, hhead, h⟩ := Option.bind_eq_some_iff.mp h
      rw [ofItems, ih htail, ofTerm_of_ofTerm? hhead]
      split at h
      · next hsame =>
        rw [if_pos hsame]
        exact foldl_of_foldlM (fun _ _ _ => mergeField_of_mergeField?) h
      · next hother =>
        rw [if_neg hother]
        exact mergeField_of_mergeField? h

/-! ### Lists that have a filter -/

/-- Whether nothing but lists stands under `$and`. -/
def Listed (d : Document) : Prop := ∀ e ∈ d, e.1 = "$and" → ∃ vs, e.2 = .array vs

namespace Listed

theorem nil : Listed [] := nofun

theorem set (h : Listed target) (hv : key = "$and" → ∃ vs, v = .array vs) :
    Listed (target.set key v) := by
  intro e he
  rcases Fields.mem_of_mem_set he with rfl | he
  · exact hv
  · exact h e he

theorem place? (h : Listed target) (hv : key = "$and" → ∃ vs, v = .array vs)
    (hplace : Filter.place? target key v = some d) : Listed d := by
  unfold Filter.place? at hplace
  cases hget : target.get? key with
  | none =>
    rw [hget] at hplace
    cases hplace
    exact h.set hv
  | some w =>
    rw [hget] at hplace
    cases w with
    | array current =>
      cases v with
      | array extra =>
        dsimp only at hplace
        split at hplace
        · cases hplace
          exact h.set fun _ => ⟨_, rfl⟩
        · cases hplace
      | _ => cases hplace
    | document current =>
      cases v with
      | document extra =>
        dsimp only at hplace
        split at hplace
        · cases hplace
          refine h.set fun hkey => ?_
          obtain ⟨_, hlist⟩ := h _ (Fields.mem_of_get? hget) hkey
          cases hlist
        · cases hplace
      | _ => cases hplace
    | _ => cases hplace

theorem exists_conjuncts (h : Listed target) (vs : List Value) :
    ∃ d, Filter.place? target "$and" (.array vs) = some d ∧ Listed d := by
  unfold Filter.place?
  cases hget : target.get? "$and" with
  | none => exact ⟨_, rfl, h.set fun _ => ⟨_, rfl⟩⟩
  | some w =>
    obtain ⟨current, rfl⟩ := h _ (Fields.mem_of_get? hget) rfl
    exact ⟨_, rfl, h.set fun _ => ⟨_, rfl⟩⟩

theorem exists_mergeField? (h : Listed target) (hv : key = "$and" → ∃ vs, v = .array vs) :
    ∃ d, mergeField? target key v = some d ∧ Listed d := by
  rw [mergeField?_eq]
  cases hplace : Filter.place? target key v with
  | some d => exact ⟨d, rfl, h.place? hv hplace⟩
  | none => exact h.exists_conjuncts _

theorem exists_foldlM {α : Type} {field : α → String} {value : α → Value} {xs : List α}
    (hxs : ∀ x ∈ xs, field x = "$and" → ∃ vs, value x = .array vs) (h : Listed target) :
    ∃ d, xs.foldlM (fun d x => mergeField? d (field x) (value x)) target = some d ∧ Listed d := by
  induction xs generalizing target with
  | nil => exact ⟨target, rfl, h⟩
  | cons x xs ih =>
    obtain ⟨hx, hxs⟩ := List.forall_mem_cons.mp hxs
    obtain ⟨next, hnext, hlisted⟩ := h.exists_mergeField? hx
    obtain ⟨d, hd, hlast⟩ := ih hxs hlisted
    exact ⟨d, by rw [List.foldlM_cons, hnext]; exact hd, hlast⟩

theorem exists_ofTerm? {t : FilterTerm} (ht : ∀ c ∈ t.conditions, c.field ≠ "$and") :
    ∃ d, ofTerm? t = some d ∧ Listed d := by
  have hgroup {cs : List Condition} (hcs : ∀ c ∈ cs, c.field ≠ "$and") :
      ∃ d, cs.foldlM (fun d c => mergeField? d c.field (.document c.operator)) [] = some d ∧
        Listed d :=
    exists_foldlM (fun c hc hfield => absurd hfield (hcs c hc)) .nil
  cases t with
  | single c =>
    refine ⟨_, rfl, fun e he hkey => ?_⟩
    cases List.mem_singleton.mp he
    exact absurd hkey (ht c (List.mem_singleton_self c))
  | group connective cs =>
    cases connective with
    | or =>
      refine ⟨_, rfl, fun e he hkey => ?_⟩
      cases List.mem_singleton.mp he
      exact absurd hkey (by simp)
    | and => exact hgroup ht
    | xor => exact hgroup ht

theorem exists_ofItems? (items : List FilterItem)
    (hitems : ∀ i ∈ items, ∀ c ∈ i.term.conditions, c.field ≠ "$and") :
    ∃ d, ofItems? items = some d ∧ Listed d := by
  induction items with
  | nil => exact ⟨[], rfl, .nil⟩
  | cons i rest ih =>
    obtain ⟨hi, hrest⟩ := List.forall_mem_cons.mp hitems
    cases rest with
    | nil => exact exists_ofTerm? hi
    | cons next rest =>
      obtain ⟨tail, htail, htailed⟩ := ih hrest
      obtain ⟨head, hhead, hheaded⟩ := exists_ofTerm? hi
      rw [ofItems?, htail, Option.bind_eq_bind, Option.bind_some, hhead, Option.bind_some]
      split
      · exact exists_foldlM htailed hheaded
      · exact hheaded.exists_mergeField? fun _ => ⟨_, rfl⟩

end Listed

/-- The filter of a list is found if no column of the list is called `$and`. -/
theorem comesBack_of_fields [Host] {names : Naming} {ps : List Predicate}
    (h : ∀ p ∈ ps, names.field p.column ≠ .ok "$and") : comesBack names ps = true := by
  rw [comesBack]
  split
  · next items hitems =>
    obtain ⟨d, hd, -⟩ := Listed.exists_ofItems? items fun i hi c hc hfield => by
      have hmem : c ∈ items.flatMap (·.term.conditions) := List.mem_flatMap.mpr ⟨i, hi, hc⟩
      obtain ⟨p, hp, hpc⟩ :=
        Except.exists_of_mem_mapM (FilterItem.conditions_ofPredicates hitems) hmem
      obtain ⟨f, hf, hpc⟩ := Except.bind_eq_ok.mp hpc
      obtain ⟨ops, -, hpc⟩ := Except.bind_eq_ok.mp hpc
      cases hpc
      exact h p hp (hfield ▸ hf)
    rw [hd]
    rfl
  · rfl

end SqlGateway.Filter
