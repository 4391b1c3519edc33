import SqlGateway.Json.Basic

/-! How deep JSON values nest. Reading keeps a value down to a depth, and a value that nests deeper
is then not readable. -/

namespace SqlGateway.Json

mutual

/-- How many arrays and objects a value has within each other. -/
def depth : Json → Nat
  | .array items => itemsDepth items + 1
  | .object members => membersDepth members + 1
  | _ => 0

/-- The greatest depth of items. -/
def itemsDepth : List Json → Nat
  | [] => 0
  | v :: vs => max v.depth (itemsDepth vs)

/-- The greatest depth of the values of members. -/
def membersDepth : List (String × Json) → Nat
  | [] => 0
  | (_, v) :: ms => max v.depth (membersDepth ms)

end

section

variable {d : Nat} {items : List Json} {members : List (String × Json)}

theorem areReadable_iff : areReadable items = true ↔ ∀ v ∈ items, v.isReadable = true := by
  induction items with
  | nil => exact ⟨fun _ => List.forall_mem_nil _, fun _ => rfl⟩
  | cons v vs ih => rw [areReadable, Bool.and_eq_true, List.forall_mem_cons, ih]

theorem membersReadable_iff :
    membersReadable members = true ↔ ∀ m ∈ members, m.2.isReadable = true := by
  induction members with
  | nil => exact ⟨fun _ => List.forall_mem_nil _, fun _ => rfl⟩
  | cons m ms ih => rw [membersReadable, Bool.and_eq_true, List.forall_mem_cons, ih]

theorem itemsDepth_le_iff : itemsDepth items ≤ d ↔ ∀ v ∈ items, v.depth ≤ d := by
  induction items with
  | nil => exact ⟨fun _ => List.forall_mem_nil _, fun _ => Nat.zero_le d⟩
  | cons v vs ih => rw [itemsDepth, Nat.max_le, List.forall_mem_cons, ih]

theorem membersDepth_le_iff : membersDepth members ≤ d ↔ ∀ m ∈ members, m.2.depth ≤ d := by
  induction members with
  | nil => exact ⟨fun _ => List.forall_mem_nil _, fun _ => Nat.zero_le d⟩
  | cons m ms ih => rw [membersDepth, Nat.max_le, List.forall_mem_cons, ih]

end

mutual

/-- A value does not nest deeper than its text is long. -/
theorem depth_le_length : ∀ v : Json, v.depth ≤ v.text.toList.length
  | .null | .bool _ | .integer _ | .double _ | .single _ | .string _ | .unreadable => Nat.zero_le _
  | .array items => by
    have hitems := itemsDepth_le_length items
    have hclose : "]".toList.length = 1 := rfl
    rw [depth, text, String.toList_append, String.toList_append, List.length_append,
      List.length_append, hclose]
    omega
  | .object members => by
    have hmembers := membersDepth_le_length members
    have hclose : "\x7d".toList.length = 1 := rfl
    rw [depth, text, String.toList_append, String.toList_append, List.length_append,
      List.length_append, hclose]
    omega

theorem itemsDepth_le_length : ∀ items : List Json,
    itemsDepth items ≤ (itemsText items).toList.length
  | [] => Nat.zero_le _
  | [v] => by
    have hv := depth_le_length v
    rw [itemsDepth, itemsDepth, Nat.max_zero, itemsText]
    exact hv
  | v :: w :: vs => by
    have hv := depth_le_length v
    have htail := itemsDepth_le_length (w :: vs)
    rw [itemsDepth, itemsText, String.toList_append, String.toList_append, List.length_append,
      List.length_append]
    · omega
    · nofun

theorem membersDepth_le_length : ∀ members : List (String × Json),
    membersDepth members ≤ (membersText members).toList.length
  | [] => Nat.zero_le _
  | [(k, v)] => by
    have hv := depth_le_length v
    rw [membersDepth, membersDepth, Nat.max_zero, membersText, String.toList_append,
      List.length_append]
    omega
  | (k, v) :: m :: ms => by
    have hv := depth_le_length v
    have htail := membersDepth_le_length (m :: ms)
    rw [membersDepth, membersText, String.toList_append, String.toList_append,
      String.toList_append, List.length_append, List.length_append, List.length_append]
    · omega
    · nofun

end

mutual

/-- A value whose parts that nest deeper than `d` are not readable. -/
def cut (d : Nat) : Json → Json
  | .array items => if d = 0 then .unreadable else .array (cutItems (d - 1) items)
  | .object members => if d = 0 then .unreadable else .object (cutMembers (d - 1) members)
  | v => v

/-- Items whose parts that nest deeper than `d` are not readable. -/
def cutItems (d : Nat) : List Json → List Json
  | [] => []
  | v :: vs => v.cut d :: cutItems d vs

/-- Members whose parts that nest deeper than `d` are not readable. -/
def cutMembers (d : Nat) : List (String × Json) → List (String × Json)
  | [] => []
  | (k, v) :: ms => (k, v.cut d) :: cutMembers d ms

end

theorem cutItems_eq_map (d : Nat) (items : List Json) : cutItems d items = items.map (cut d) := by
  induction items with
  | nil => rfl
  | cons v vs ih => rw [cutItems, ih, List.map_cons]

theorem cutMembers_eq_map (d : Nat) (members : List (String × Json)) :
    cutMembers d members = members.map fun m => (m.1, m.2.cut d) := by
  induction members with
  | nil => rfl
  | cons m ms ih => rw [cutMembers, ih, List.map_cons]

mutual

theorem cut_of_depth_le {d : Nat} : ∀ {v : Json}, v.depth ≤ d → v.cut d = v
  | .null, _ | .bool _, _ | .integer _, _ | .double _, _ | .single _, _ | .string _, _
  | .unreadable, _ => rfl
  | .array items, h => by
    rw [depth] at h
    rw [cut, if_neg (by omega), cutItems_of_depth_le (by omega)]
  | .object members, h => by
    rw [depth] at h
    rw [cut, if_neg (by omega), cutMembers_of_depth_le (by omega)]

theorem cutItems_of_depth_le {d : Nat} : ∀ {items : List Json},
    itemsDepth items ≤ d → cutItems d items = items
  | [], _ => rfl
  | v :: vs, h => by
    rw [itemsDepth, Nat.max_le] at h
    rw [cutItems, cut_of_depth_le h.1, cutItems_of_depth_le h.2]

theorem cutMembers_of_depth_le {d : Nat} : ∀ {members : List (String × Json)},
    membersDepth members ≤ d → cutMembers d members = members
  | [], _ => rfl
  | (k, v) :: ms, h => by
    rw [membersDepth, Nat.max_le] at h
    rw [cutMembers, cut_of_depth_le h.1, cutMembers_of_depth_le h.2]

end

mutual

/-- What nests too deep is not readable. -/
theorem depth_le_of_isReadable_cut {d : Nat} : ∀ {v : Json},
    (v.cut d).isReadable = true → v.depth ≤ d
  | .null, _ | .bool _, _ | .integer _, _ | .double _, _ | .single _, _ | .string _, _
  | .unreadable, _ => Nat.zero_le d
  | .array items, h => by
    rw [cut] at h
    split at h
    · cases h
    · rw [isReadable] at h
      have := itemsDepth_le_of_areReadable_cutItems h
      rw [depth]
      omega
  | .object members, h => by
    rw [cut] at h
    split at h
    · cases h
    · rw [isReadable] at h
      have := membersDepth_le_of_membersReadable_cutMembers h
      rw [depth]
      omega

theorem itemsDepth_le_of_areReadable_cutItems {d : Nat} : ∀ {items : List Json},
    areReadable (cutItems d items) = true → itemsDepth items ≤ d
  | [], _ => Nat.zero_le d
  | v :: vs, h => by
    rw [cutItems, areReadable, Bool.and_eq_true] at h
    exact Nat.max_le.mpr
      ⟨depth_le_of_isReadable_cut h.1, itemsDepth_le_of_areReadable_cutItems h.2⟩

theorem membersDepth_le_of_membersReadable_cutMembers {d : Nat} :
    ∀ {members : List (String × Json)},
    membersReadable (cutMembers d members) = true → membersDepth members ≤ d
  | [], _ => Nat.zero_le d
  | (k, v) :: ms, h => by
    rw [cutMembers, membersReadable, Bool.and_eq_true] at h
    exact Nat.max_le.mpr
      ⟨depth_le_of_isReadable_cut h.1, membersDepth_le_of_membersReadable_cutMembers h.2⟩

end

end SqlGateway.Json
