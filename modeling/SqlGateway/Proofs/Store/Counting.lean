import SqlGateway.Proofs.Value.Preorder
import SqlGateway.Store.Grouping
import SqlGateway.Store.Retrieval

/-! Sets of values. A value is added to a set unless it equals an item that is there already, so no
two items are equal and each value equals one of them. The set of a group and the different values
of a collection are made in this one way. Where equality is transitive, it is settled how many items
there are. -/

namespace SqlGateway

namespace Value

/-- Whether values stand for those of a list: no two of them are equal, and each value of the list
equals one of them. -/
structure Represent (values held : List Value) : Prop where
  subset : values ⊆ held
  apart : values.Pairwise fun v w => v.equal w = false
  every : ∀ v ∈ held, ∃ w ∈ values, w.equal v = true

namespace Represent

variable {values others held : List Value}

theorem nil : Represent [] [] := ⟨List.Subset.refl _, .nil, nofun⟩

/-- What an item is equal to needs no item of its own. -/
theorem skip (h : Represent values held) {v : Value} (hv : ∃ w ∈ values, w.equal v = true) :
    Represent values (held ++ [v]) where
  subset := List.subset_append_of_subset_left [v] h.subset
  apart := h.apart
  every := List.forall_mem_append.mpr ⟨h.every, List.forall_mem_singleton.mpr hv⟩

theorem add (h : Represent values held) {v : Value} (hv : ∀ w ∈ values, w.equal v = false) :
    Represent (values ++ [v]) (held ++ [v]) where
  subset := List.append_subset.mpr ⟨List.subset_append_of_subset_left [v] h.subset,
    List.subset_append_right held [v]⟩
  apart := List.pairwise_append.mpr ⟨h.apart, List.pairwise_singleton _ v, fun w hw u hu => by
    rw [List.mem_singleton.mp hu]
    exact hv w hw⟩
  every := by
    refine List.forall_mem_append.mpr ⟨fun u hu => ?_, List.forall_mem_singleton.mpr ?_⟩
    · obtain ⟨w, hw, hequal⟩ := h.every u hu
      exact ⟨w, List.mem_append_left [v] hw, hequal⟩
    · exact ⟨v, List.mem_append_right values (List.mem_singleton_self v), v.equal_self⟩

end Represent

/-! ### Adding -/

/-- A set with one more value. -/
def addDifferent (seen : List Value) (v : Value) : List Value :=
  if seen.any (·.equal v) then seen else seen ++ [v]

theorem Represent.addDifferent {values held : List Value} (h : Represent values held) (v : Value) :
    Represent (Value.addDifferent values v) (held ++ [v]) := by
  rw [Value.addDifferent]
  split
  · next hany => exact h.skip (List.any_eq_true.mp hany)
  · next hnone => exact h.add (by simpa using hnone)

theorem Represent.foldl_addDifferent {values held : List Value} (h : Represent values held)
    (more : List Value) : Represent (more.foldl Value.addDifferent values) (held ++ more) := by
  induction more generalizing values held with
  | nil => rwa [List.append_nil]
  | cons v more ih =>
    rw [List.append_cons]
    exact ih (h.addDifferent v)

/-- The different values stand for all. -/
theorem represent_distinctValues (held : List Value) :
    Represent (Databases.distinctValues held) held :=
  Represent.nil.foldl_addDifferent held

/-- Where no array is held, the values of documents are what they hold. -/
theorem flatMap_valuesAt {column : String} {docs : List Document}
    (h : ∀ d ∈ docs, ∀ items, d.getPath? column ≠ some (.array items)) :
    docs.flatMap (Databases.valuesAt column) = docs.filterMap (·.getPath? column) := by
  rw [List.filterMap_eq_flatMap_toList]
  refine List.flatMap_congr fun d hd => ?_
  rw [Databases.valuesAt]
  split
  · next items hitems => exact absurd hitems (h d hd items)
  · next v _ hv => rw [hv, Option.toList_some]
  · next hnone => rw [hnone, Option.toList_none]

/-- The set of a group takes in what its documents hold at a path. -/
theorem foldl_accept (path : String) (docs : List Document) (seen : List Value) :
    docs.foldl (fun (a : Accumulator) d => a.accept (d.getPath? path)) (.addToSet seen) =
      .addToSet ((docs.filterMap (·.getPath? path)).foldl addDifferent seen) := by
  induction docs generalizing seen with
  | nil => rfl
  | cons d docs ih =>
    rw [List.foldl_cons, List.filterMap_cons]
    cases d.getPath? path with
    | none => exact ih seen
    | some v =>
      have haccept : (Accumulator.addToSet seen).accept (some v) =
          .addToSet (addDifferent seen v) := by
        rw [Accumulator.accept, addDifferent]
        split <;> rfl
      rw [haccept]
      exact ih _

namespace Represent

variable {values others held : List Value}

/-! ### How many there are -/

/-- Values no two of which are equal are no more than others that they all equal. -/
theorem length_le (hvalues : ∀ v ∈ values, v.Exact) (hothers : ∀ w ∈ others, w.Exact)
    (hapart : values.Pairwise fun v w => v.equal w = false)
    (hevery : ∀ v ∈ values, ∃ w ∈ others, w.equal v = true) : values.length ≤ others.length := by
  induction values generalizing others with
  | nil => exact Nat.zero_le _
  | cons v values ih =>
    obtain ⟨hv, hvalues⟩ := List.forall_mem_cons.mp hvalues
    obtain ⟨hfirst, hapart⟩ := List.pairwise_cons.mp hapart
    obtain ⟨⟨w, hw, hequal⟩, hevery⟩ := List.forall_mem_cons.mp hevery
    obtain ⟨before, after, rfl⟩ := List.append_of_mem hw
    -- what equals the first value equals no other one, so it is not needed for them
    have hrest : ∀ u ∈ values, ∃ w ∈ before ++ after, w.equal u = true := by
      intro u hu
      obtain ⟨x, hx, hxu⟩ := hevery u hu
      rcases List.mem_append.mp hx with hx | hx
      · exact ⟨x, List.mem_append_left _ hx, hxu⟩
      rcases List.mem_cons.mp hx with rfl | hx
      · have hsame := equal_trans hv (hothers x hw) (hvalues u hu) (equal_symm hequal) hxu
        exact absurd (hsame.symm.trans (hfirst u hu)) (by decide)
      · exact ⟨x, List.mem_append_right _ hx, hxu⟩
    have hkept : ∀ x ∈ before ++ after, x.Exact := fun x hx =>
      hothers x ((List.Sublist.refl before).append (List.sublist_cons_self w after) |>.subset hx)
    have hlength := ih hvalues hkept hapart hrest
    simp only [List.length_append, List.length_cons] at hlength ⊢
    omega

/-- Exact values are represented by one number of items. -/
theorem length_eq (hexact : ∀ v ∈ held, v.Exact) (h : Represent values held)
    (h' : Represent others held) : values.length = others.length := by
  have hle {values others : List Value} (h : Represent values held)
      (h' : Represent others held) : values.length ≤ others.length :=
    length_le (fun v hv => hexact v (h.subset hv)) (fun w hw => hexact w (h'.subset hw)) h.apart
      fun v hv => h'.every v (h.subset hv)
  exact Nat.le_antisymm (hle h h') (hle h' h)

end Represent

end Value

end SqlGateway
