import SqlGateway.Proofs.Value.Fields
import SqlGateway.Store.Databases

/-! Look-ups in tables and databases after they are changed. -/

namespace SqlGateway

namespace Table

variable {α : Type}

theorem get?_cons (n : String) (a : α) (t : Table α) (name : String) :
    get? ((n, a) :: t) name = if name = n then some a else get? t name :=
  Fields.get?_cons n name a t

theorem get?_put (t : Table α) (name : String) (a : α) (n : String) :
    get? (put name a t) n = if n = name then some a else get? t n := by
  induction t with
  | nil => rw [put, get?_cons]
  | cons e t ih =>
    obtain ⟨m, b⟩ := e
    rw [put]
    by_cases hm : m = name
    · subst hm
      rw [if_pos rfl, get?_cons, get?_cons]
      by_cases hn : n = m <;> simp [hn]
    · rw [if_neg hm]
      split
      · rw [get?_cons]
      · rw [get?_cons, get?_cons, ih]
        by_cases hn : n = m
        · subst hn; simp [hm]
        · simp [hn]

theorem put_put (t : Table α) (name : String) (a b : α) :
    put name b (put name a t) = put name b t := by
  induction t with
  | nil => exact if_pos rfl
  | cons e t ih =>
    obtain ⟨n, c⟩ := e
    by_cases hn : n = name
    · simp only [put, if_pos hn]
    by_cases hlt : name < n
    · simp only [put, if_neg hn, if_pos hlt, if_true]
    · simp only [put, if_neg hn, if_neg hlt, ih]

theorem remove_put (t : Table α) (name : String) (a : α) :
    remove (put name a t) name = remove t name := by
  induction t with
  | nil => simp [put, remove]
  | cons e t ih =>
    obtain ⟨n, b⟩ := e
    rw [remove, remove] at ih
    rw [put]
    split
    · next hn => simp [remove, hn]
    split
    · simp [remove]
    · rw [remove, remove, List.filter_cons, List.filter_cons, ih]

theorem remove_remove (t : Table α) (name : String) :
    remove (remove t name) name = remove t name := by
  rw [remove, remove, List.filter_filter]
  simp

theorem get?_remove (t : Table α) (name n : String) :
    get? (remove t name) n = if n = name then none else get? t n := by
  induction t with
  | nil => split <;> rfl
  | cons e t ih =>
    obtain ⟨m, b⟩ := e
    rw [remove] at ih
    rw [remove, List.filter_cons, get?_cons]
    by_cases hm : m = name
    · rw [if_neg (by simpa using hm), ih, ← hm]
      split <;> rfl
    · rw [if_pos (by simpa using hm), get?_cons, ih]
      by_cases hn : n = m
      · rw [if_pos hn, if_pos hn, if_neg (hn ▸ hm)]
      · rw [if_neg hn, if_neg hn]

/-- Removing what is not there changes nothing. -/
theorem remove_of_get?_eq_none {t : Table α} {name : String} (h : get? t name = none) :
    remove t name = t := by
  rw [remove, List.filter_eq_self]
  rintro ⟨n, b⟩ hmem
  rw [bne_iff_ne]
  rintro rfl
  exact absurd h (Option.ne_none_iff_isSome.mpr (List.lookup_isSome_iff.mpr ⟨_, hmem, by simp⟩))

theorem mem_put {t : Table α} {name : String} {a : α} {e : String × α} (h : e ∈ put name a t) :
    e = (name, a) ∨ e ∈ t := by
  induction t with
  | nil => exact .inl (List.mem_singleton.mp h)
  | cons f t ih =>
    obtain ⟨n, b⟩ := f
    rw [put] at h
    split at h
    · next hn =>
      rcases List.mem_cons.mp h with rfl | h
      · exact .inl (by rw [hn])
      · exact .inr (List.mem_cons_of_mem _ h)
    split at h
    · exact List.mem_cons.mp h
    · rcases List.mem_cons.mp h with rfl | h
      · exact .inr List.mem_cons_self
      · exact (ih h).imp_right (List.mem_cons_of_mem _)

theorem mem_of_get? {t : Table α} {name : String} {a : α} (h : get? t name = some a) :
    (name, a) ∈ t := by
  induction t with
  | nil => cases h
  | cons f t ih =>
    obtain ⟨n, b⟩ := f
    rw [get?_cons] at h
    split at h
    · next hn =>
      cases h
      exact List.mem_cons.mpr (.inl (by rw [hn]))
    · exact List.mem_cons_of_mem _ (ih h)

end Table

namespace Databases

variable (dbs : Databases) (database name : String)

theorem collections_put (t : Table Collection) (db : String) :
    collections (Table.put database t dbs) db =
      if db = database then t else dbs.collections db := by
  rw [collections, Table.get?_put]
  split <;> rfl

theorem collection?_putCollection (c : Collection) (db n : String) :
    (dbs.putCollection database name c).collection? db n =
      if db = database ∧ n = name then some c else dbs.collection? db n := by
  rw [collection?, putCollection, collections_put]
  by_cases hdb : db = database
  · subst hdb
    rw [if_pos rfl, Table.get?_put]
    simp [collection?]
  · simp [hdb, collection?]

theorem documents_putCollection (c : Collection) :
    (dbs.putCollection database name c).documents database name = c.documents := by
  simp [documents, collection?_putCollection]

theorem indexes_putCollection {dbs : Databases} {database name : String} {c c' : Collection}
    (hc : dbs.collection? database name = some c) (h : c'.indexes = c.indexes) (db n : String) :
    ((dbs.putCollection database name c').collection? db n).map (·.indexes) =
      (dbs.collection? db n).map (·.indexes) := by
  rw [collection?_putCollection]
  split
  · next heq => rw [heq.1, heq.2, hc, Option.map_some, Option.map_some, h]
  · rfl

theorem withIdentity_of_has {d : Document} (h : (Fields.get? d "_id").isSome) (id : ObjectId) :
    withIdentity id d = d := by
  rw [withIdentity, if_pos]
  rwa [Fields.has_eq_isSome]

theorem isSome_withIdentity (id : ObjectId) (d : Document) :
    ((withIdentity id d).get? "_id").isSome := by
  rw [withIdentity]
  split
  · next h => rwa [← Fields.has_eq_isSome]
  · rfl

end Databases

end SqlGateway
