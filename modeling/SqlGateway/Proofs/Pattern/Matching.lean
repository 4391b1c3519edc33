import SqlGateway.Proofs.Pattern.Search

/-! What a pattern matches, said position by position: between which two positions of a text a
pattern has a match. The search by sets of positions finds exactly the ends of these matches. Of a
repetition it only has to look for the ones that get on, and there are no more of them than the
text has characters. -/

namespace SqlGateway.Pattern

variable {t : Text}

/-- Whether a relation leads from one position to another in a number of steps. -/
def InSteps (R : Nat → Nat → Prop) : Nat → Nat → Nat → Prop
  | 0, i, j => i = j
  | n + 1, i, k => ∃ j, R i j ∧ InSteps R n j k

/-- Whether a pattern matches what stands between two positions of a text. Bounds of a repetition
that are the wrong way round leave its least number. -/
def Matches (t : Text) : Pattern → Nat → Nat → Prop
  | .empty => fun i j => i = j
  | .chars set => fun i j => (∃ c, t[i]? = some c ∧ set.has c = true) ∧ i + 1 = j
  | .anchor a => fun i j => holdsAt t i a = true ∧ i = j
  | .seq p q => fun i k => ∃ j, Matches t p i j ∧ Matches t q j k
  | .alt p q => fun i j => Matches t p i j ∨ Matches t q i j
  | .group p => Matches t p
  | .repeated p least most => fun i j =>
    ∃ n, least ≤ n ∧ (∀ m ∈ most, n ≤ max least m) ∧ InSteps (Matches t p) n i j

/-! ### Steps -/

section

variable {R : Nat → Nat → Prop} {i j k n : Nat}

theorem inSteps_add {m : Nat} : InSteps R (m + n) i k ↔ ∃ j, InSteps R m i j ∧ InSteps R n j k := by
  induction m generalizing i with
  | zero => simp [InSteps]
  | succ m ih =>
    rw [Nat.add_right_comm, InSteps]
    simp only [ih, InSteps]
    constructor
    · rintro ⟨a, ha, j, hj, hk⟩
      exact ⟨j, ⟨a, ha, hj⟩, hk⟩
    · rintro ⟨j, ⟨a, ha, hj⟩, hk⟩
      exact ⟨a, ha, j, hj, hk⟩

/-- Whether a relation leads on, and no further than to the end of a text. -/
def LeadsOn (t : Text) (R : Nat → Nat → Prop) : Prop :=
  ∀ i j, R i j → i = j ∨ i < j ∧ j ≤ t.size

theorem LeadsOn.inSteps (h : LeadsOn t R) : LeadsOn t (InSteps R n) := by
  induction n with
  | zero => exact fun i j hij => .inl hij
  | succ n ih =>
    rintro i k ⟨j, hij, hjk⟩
    rcases h i j hij with rfl | ⟨hlt, hle⟩
    · exact ih i k hjk
    · rcases ih j k hjk with rfl | ⟨hlt', hle'⟩
      · exact .inr ⟨hlt, hle⟩
      · exact .inr ⟨Nat.lt_trans hlt hlt', hle'⟩

/-- Steps that stay where they are can be left out. -/
theorem LeadsOn.exists_inSteps_le (h : LeadsOn t R) (hij : InSteps R n i j) :
    ∃ m, m ≤ n ∧ m ≤ j - i ∧ InSteps R m i j := by
  induction n generalizing i with
  | zero => exact ⟨0, Nat.le_refl 0, Nat.zero_le _, hij⟩
  | succ n ih =>
    obtain ⟨a, hia, haj⟩ := hij
    obtain ⟨m, hmn, hmj, hsteps⟩ := ih haj
    rcases h i a hia with rfl | ⟨hlt, -⟩
    · exact ⟨m, Nat.le_succ_of_le hmn, hmj, hsteps⟩
    · refine ⟨m + 1, Nat.succ_le_succ hmn, ?_, a, hia, hsteps⟩
      rcases h.inSteps a j haj with rfl | ⟨hlt', -⟩
      · cases m with
        | zero => omega
        | succ m => omega
      · omega

/-- As many steps as a text has characters lead everywhere. -/
theorem LeadsOn.exists_inSteps_le_size (h : LeadsOn t R) (hij : InSteps R n i j) :
    ∃ m, m ≤ n ∧ m ≤ t.size + 1 ∧ InSteps R m i j := by
  obtain ⟨m, hmn, hmj, hsteps⟩ := h.exists_inSteps_le hij
  refine ⟨m, hmn, ?_, hsteps⟩
  rcases h.inSteps i j hij with rfl | ⟨-, hle⟩ <;> omega

theorem leadsOn_matches (p : Pattern) : LeadsOn t (Matches t p) := by
  induction p with
  | empty => exact fun i j h => .inl h
  | chars set =>
    rintro i j ⟨⟨c, hc, -⟩, rfl⟩
    exact .inr ⟨Nat.lt_succ_self i, (Array.getElem?_eq_some_iff.mp hc).1⟩
  | anchor a => exact fun i j h => .inl h.2
  | seq p q hp hq =>
    rintro i k ⟨j, hij, hjk⟩
    rcases hp i j hij with rfl | ⟨hlt, hle⟩
    · exact hq i k hjk
    · rcases hq j k hjk with rfl | ⟨hlt', hle'⟩
      · exact .inr ⟨hlt, hle⟩
      · exact .inr ⟨Nat.lt_trans hlt hlt', hle'⟩
  | alt p q hp hq => exact fun i j h => h.elim (hp i j) (hq i j)
  | group p hp => exact hp
  | repeated p least most hp =>
    rintro i j ⟨n, -, -, h⟩
    exact hp.inSteps i j h

end

/-! ### Sets of positions -/

section

variable {step : List Nat → List Nat} {R : Nat → Nat → Prop} {s : List Nat} {n j : Nat}

theorem mem_unionPositions {s' : List Nat} {i : Nat} :
    i ∈ unionPositions s s' ↔ i ∈ s ∨ i ∈ s' := by
  simp only [unionPositions, List.mem_append, List.mem_filter]
  by_cases h : i ∈ s <;> simp [h]

/-- A step applied a number of times leads to the positions at so many steps. -/
theorem mem_iterate (hstep : ∀ s j, j ∈ step s ↔ ∃ i ∈ s, R i j) :
    j ∈ iterate step n s ↔ ∃ i ∈ s, InSteps R n i j := by
  induction n generalizing s with
  | zero => simp [iterate, InSteps]
  | succ n ih =>
    have hsucc : (∃ i ∈ s, InSteps R (n + 1) i j) ↔ ∃ i ∈ step s, InSteps R n i j := by
      simp only [InSteps, hstep]
      constructor
      · rintro ⟨i, hi, k, hik, hkj⟩
        exact ⟨k, ⟨i, hi, hik⟩, hkj⟩
      · rintro ⟨k, ⟨i, hi, hik⟩, hkj⟩
        exact ⟨i, hi, k, hik, hkj⟩
    rw [hsucc, iterate, ← ih]
    split
    · next hsame =>
      rw [eq_of_beq hsame]
      -- what a step leaves as it is, further steps leave too
      clear ih hsucc
      induction n with
      | zero => rfl
      | succ n ih => rw [iterate, if_pos hsame]
    · rfl

/-- Everything reached lies a bounded number of steps from the start. -/
theorem exists_inSteps_of_mem_reach (hstep : ∀ s j, j ∈ step s ↔ ∃ i ∈ s, R i j)
    {newest seen : List Nat} (h : j ∈ reach step n newest seen) :
    j ∈ seen ∨ ∃ i ∈ newest, ∃ m ≤ n, InSteps R m i j := by
  induction n generalizing newest seen with
  | zero => exact .inl h
  | succ n ih =>
    rw [reach] at h
    split at h
    · exact .inl h
    · rcases ih h with hseen | ⟨k, hk, m, hm, hkj⟩
      · rcases List.mem_append.mp hseen with hseen | hnew
        · exact .inl hseen
        · obtain ⟨i, hi, hij⟩ := (hstep _ _).mp (List.mem_filter.mp hnew).1
          exact .inr ⟨i, hi, 1, Nat.succ_le_succ (Nat.zero_le n), j, hij, rfl⟩
      · obtain ⟨i, hi, hik⟩ := (hstep _ _).mp (List.mem_filter.mp hk).1
        exact .inr ⟨i, hi, m + 1, Nat.succ_le_succ hm, k, hik, hkj⟩

/-- What lies a bounded number of steps from the seen positions is reached, if only the newest of
these have steps that lead out of them. -/
theorem mem_reach_of_inSteps (hstep : ∀ s j, j ∈ step s ↔ ∃ i ∈ s, R i j)
    {newest seen : List Nat} (hclosed : ∀ i ∈ seen, i ∉ newest → ∀ k, R i k → k ∈ seen)
    {m i : Nat} (hm : m ≤ n) (hi : i ∈ seen) (hij : InSteps R m i j) :
    j ∈ reach step n newest seen := by
  induction n generalizing newest seen m i with
  | zero =>
    obtain rfl := Nat.le_zero.mp hm
    exact (show i = j from hij) ▸ hi
  | succ n ih =>
    -- the steps are followed as long as they stay among the seen positions
    induction m generalizing i with
    | zero => exact (show i = j from hij) ▸ subset_reach step _ _ _ hi
    | succ m ihm =>
      obtain ⟨k, hik, hkj⟩ := hij
      by_cases hk : k ∈ seen
      · exact ihm (Nat.le_of_succ_le hm) hk hkj
      · have hinewest : i ∈ newest :=
          Decidable.not_not.mp fun hold => hk (hclosed i hi hold k hik)
        have hnew : k ∈ (step newest).filter (!seen.contains ·) :=
          List.mem_filter.mpr ⟨(hstep _ _).mpr ⟨i, hinewest, hik⟩, by simpa using hk⟩
        rw [reach, if_neg (by simpa using List.ne_nil_of_mem hnew)]
        refine ih (fun a ha hanew b hab => ?_) (Nat.le_of_succ_le_succ hm)
          (List.mem_append_right _ hnew) hkj
        rcases List.mem_append.mp ha with ha | ha
        · by_cases hb : b ∈ seen
          · exact List.mem_append_left _ hb
          · by_cases hanewest : a ∈ newest
            · refine List.mem_append_right _ (List.mem_filter.mpr ⟨?_, by simpa using hb⟩)
              exact (hstep _ _).mpr ⟨a, hanewest, hab⟩
            · exact absurd (hclosed a ha hanewest b hab) hb
        · exact absurd ha hanew

theorem mem_reach (hstep : ∀ s j, j ∈ step s ↔ ∃ i ∈ s, R i j) :
    j ∈ reach step n s s ↔ ∃ i ∈ s, ∃ m ≤ n, InSteps R m i j := by
  constructor
  · intro h
    rcases exists_inSteps_of_mem_reach hstep h with hj | h
    · exact ⟨j, hj, 0, Nat.zero_le n, rfl⟩
    · exact h
  · rintro ⟨i, hi, m, hm, hij⟩
    exact mem_reach_of_inSteps hstep (fun a ha hnot => absurd ha hnot) hm hi hij

end

/-- The search finds the ends of the matches. -/
theorem mem_ends (p : Pattern) (s : List Nat) (j : Nat) :
    j ∈ ends t p s ↔ ∃ i ∈ s, Matches t p i j := by
  induction p generalizing s j with
  | empty => simp [ends, Matches]
  | chars set =>
    rw [mem_ends_chars]
    rfl
  | anchor a =>
    simp only [ends, Matches, List.mem_filter]
    constructor
    · rintro ⟨hj, ha⟩
      exact ⟨j, hj, ha, rfl⟩
    · rintro ⟨i, hi, ha, rfl⟩
      exact ⟨hi, ha⟩
  | seq p q hp hq =>
    simp only [ends, Matches, hq, hp]
    constructor
    · rintro ⟨k, ⟨i, hi, hik⟩, hkj⟩
      exact ⟨i, hi, k, hik, hkj⟩
    · rintro ⟨i, hi, k, hik, hkj⟩
      exact ⟨k, ⟨i, hi, hik⟩, hkj⟩
  | alt p q hp hq =>
    simp only [ends, Matches, mem_unionPositions, hp, hq]
    constructor
    · rintro (⟨i, hi, h⟩ | ⟨i, hi, h⟩)
      · exact ⟨i, hi, .inl h⟩
      · exact ⟨i, hi, .inr h⟩
    · rintro ⟨i, hi, h | h⟩
      · exact .inl ⟨i, hi, h⟩
      · exact .inr ⟨i, hi, h⟩
  | group p hp => exact hp s j
  | repeated p least most hp =>
    have hrest : ∀ k l n, InSteps (Matches t p) n k l → ∃ m, m ≤ n ∧ m ≤ t.size + 1 ∧
        InSteps (Matches t p) m k l := fun k l n =>
      (leadsOn_matches p).exists_inSteps_le_size
    simp only [ends, Matches, mem_reach hp, mem_iterate hp]
    constructor
    · rintro ⟨k, ⟨i, hi, hik⟩, m, hm, hkj⟩
      refine ⟨i, hi, least + m, Nat.le_add_right _ _, ?_, inSteps_add.mpr ⟨k, hik, hkj⟩⟩
      rintro most rfl
      dsimp only at hm
      omega
    · rintro ⟨i, hi, n, hleast, hmost, hij⟩
      obtain ⟨k, hik, hkj⟩ := inSteps_add.mp ((Nat.add_sub_of_le hleast).symm ▸ hij)
      obtain ⟨m, hmn, hmsize, hkj⟩ := hrest k j _ hkj
      refine ⟨k, ⟨i, hi, hik⟩, m, ?_, hkj⟩
      cases most with
      | none => exact hmsize
      | some most =>
        have := hmost most rfl
        dsimp only
        omega

/-- A pattern is found in a text if it matches something in it. -/
theorem isIn_iff (p : Pattern) (s : String) :
    p.isIn s = true ↔ ∃ i j, i ≤ s.toList.length ∧ Matches s.toList.toArray p i j := by
  rw [isIn, Bool.not_eq_true', List.isEmpty_eq_false_iff_exists_mem]
  simp only [mem_ends, List.mem_range, Nat.lt_succ_iff, List.size_toArray]
  constructor
  · rintro ⟨j, i, hi, h⟩
    exact ⟨i, j, hi, h⟩
  · rintro ⟨i, j, hi, h⟩
    exact ⟨j, i, hi, h⟩

end SqlGateway.Pattern
