import SqlGateway.Proofs.Identifiers.Collections
import SqlGateway.Proofs.Store.Insertion
import SqlGateway.Proofs.Store.Invariant

/-! Commands that change databases, under a renaming of identifiers. What a command without
identifiers makes of renamed databases is what it makes of the databases, renamed, and the answer
is the same; so it is for an insert under the new name of its identifier. -/

namespace SqlGateway

variable {f : ObjectId → ObjectId}

namespace Table

variable {α β : Type}

theorem get?_map (t : Table α) (g : α → β) (name : String) :
    get? (t.map fun e => (e.1, g e.2)) name = (get? t name).map g :=
  Fields.get?_map t g name

theorem put_map (t : Table α) (g : α → β) (name : String) (a : α) :
    put name (g a) (t.map fun e => (e.1, g e.2)) = (put name a t).map fun e => (e.1, g e.2) := by
  induction t with
  | nil => rfl
  | cons e t ih =>
    rw [List.map_cons, put, put, ih]
    split
    · rfl
    · split <;> rfl

theorem remove_map (t : Table α) (g : α → β) (name : String) :
    remove (t.map fun e => (e.1, g e.2)) name = (remove t name).map fun e => (e.1, g e.2) := by
  rw [remove, remove, List.filter_map]
  rfl

end Table

theorem CommandField.idFree_array {command : Document} (hcommand : command.IdFree) {key : String}
    {items : List Value} (h : CommandField.array command key = .ok items) :
    ∀ v ∈ items, v.idFree = true := by
  rw [CommandField.array] at h
  split at h
  · next hitems =>
    cases h
    exact Value.idFree_array.mp (hcommand.get? hitems)
  · cases h

theorem CommandField.idFree_document? {command : Document} (hcommand : command.IdFree) {key : String}
    {d : Document} (h : CommandField.document? command key = .ok (some d)) : d.IdFree := by
  rw [CommandField.document?] at h
  split at h
  · cases h
  · next hd =>
    cases h
    exact Value.idFree_document.mp (hcommand.get? hd)
  · cases h

namespace Databases

/-- Databases with other identifiers. -/
def rename (f : ObjectId → ObjectId) (dbs : Databases) : Databases :=
  dbs.map fun e => (e.1, e.2.map fun c => (c.1, c.2.rename f))

/-- Whether documents hold no identifiers but their own, which are among some. -/
def Labelled (labels : List ObjectId) (dbs : Databases) : Prop :=
  ∀ e ∈ dbs, ∀ c ∈ e.2, c.2.Labelled labels

variable {labels : List ObjectId} {dbs : Databases}

theorem collections_rename (dbs : Databases) (database : String) :
    (dbs.rename f).collections database =
      (dbs.collections database).map fun c => (c.1, c.2.rename f) := by
  have hget := Table.get?_map dbs
    (fun t : Table Collection => t.map fun c => (c.1, c.2.rename f)) database
  rw [collections, collections, rename, hget]
  cases Table.get? dbs database <;> rfl

theorem collection?_rename (dbs : Databases) (database name : String) :
    (dbs.rename f).collection? database name =
      (dbs.collection? database name).map (Collection.rename f) := by
  rw [collection?, collection?, collections_rename]
  exact Table.get?_map _ _ name

theorem documents_rename (dbs : Databases) (database name : String) :
    (dbs.rename f).documents database name =
      (dbs.documents database name).map (Document.rename f) := by
  rw [documents, documents, collection?_rename]
  cases dbs.collection? database name <;> rfl

theorem putCollection_rename (dbs : Databases) (database name : String) (c : Collection) :
    (dbs.rename f).putCollection database name (c.rename f) =
      (dbs.putCollection database name c).rename f := by
  have hput := Table.put_map dbs
    (fun t : Table Collection => t.map fun c => (c.1, c.2.rename f)) database
    (Table.put name c (dbs.collections database))
  rw [putCollection, collections_rename, Table.put_map]
  exact hput

theorem dropCollection_rename (dbs : Databases) (database name : String) :
    (dbs.rename f).dropCollection database name = (dbs.dropCollection database name).rename f := by
  have hput := Table.put_map dbs
    (fun t : Table Collection => t.map fun c => (c.1, c.2.rename f)) database
    (Table.remove (dbs.collections database) name)
  rw [dropCollection, collections_rename, Table.remove_map]
  exact hput

theorem getD_collection?_rename (dbs : Databases) (database name : String) :
    ((dbs.rename f).collection? database name).getD .new =
      ((dbs.collection? database name).getD .new).rename f := by
  rw [collection?_rename]
  cases dbs.collection? database name <;> rfl

namespace Labelled

theorem mono {more : List ObjectId} (h : dbs.Labelled labels) (hmore : labels ⊆ more) :
    dbs.Labelled more := fun e he c hc => (h e he c hc).mono hmore

theorem collections (h : dbs.Labelled labels) (database : String) :
    ∀ c ∈ dbs.collections database, c.2.Labelled labels := by
  rw [Databases.collections]
  cases ht : Table.get? dbs database with
  | none => exact List.forall_mem_nil _
  | some t => exact h _ (Table.mem_of_get? ht)

theorem collection? (h : dbs.Labelled labels) {database name : String} {c : Collection}
    (hc : dbs.collection? database name = some c) : c.Labelled labels :=
  h.collections database _ (Table.mem_of_get? hc)

theorem collectionOrNew (h : dbs.Labelled labels) (database name : String) :
    ((dbs.collection? database name).getD .new).Labelled labels := by
  cases hc : dbs.collection? database name with
  | none => exact nofun
  | some c => exact h.collection? hc

theorem documents (h : dbs.Labelled labels) (database name : String) :
    ∀ d ∈ dbs.documents database name, d.Labelled labels := by
  rw [Databases.documents]
  cases hc : dbs.collection? database name with
  | none => exact List.forall_mem_nil _
  | some c => exact h.collection? hc

theorem putCollection (h : dbs.Labelled labels) (database name : String) {c : Collection}
    (hc : c.Labelled labels) : (dbs.putCollection database name c).Labelled labels := by
  intro e he g hg
  rcases Table.mem_put he with rfl | he
  · rcases Table.mem_put hg with rfl | hg
    · exact hc
    · exact h.collections database g hg
  · exact h e he g hg

theorem dropCollection (h : dbs.Labelled labels) (database name : String) :
    (dbs.dropCollection database name).Labelled labels := by
  intro e he g hg
  rcases Table.mem_put he with rfl | he
  · exact h.collections database g (List.mem_filter.mp hg).1
  · exact h e he g hg

end Labelled

/-! ### Commands -/

/-- Changed databases with other identifiers, beside the same answer. -/
def renamed (f : ObjectId → ObjectId) (r : Databases × Reply) : Databases × Reply :=
  (r.1.rename f, r.2)

variable (database : String)

theorem create_rename (dbs : Databases) (command : Document) :
    (dbs.rename f).create database command = renamed f (dbs.create database command) := by
  rw [create, create]
  split
  · rfl
  · next name _ =>
    rw [collection?_rename]
    cases dbs.collection? database name with
    | some c => rfl
    | none => exact Prod.ext (putCollection_rename dbs database name .new) rfl

theorem drop_rename (dbs : Databases) (command : Document) :
    (dbs.rename f).drop database command = renamed f (dbs.drop database command) := by
  rw [drop, drop]
  split
  · rfl
  · next name _ =>
    dsimp only
    rw [collection?_rename]
    cases dbs.collection? database name with
    | some c => exact Prod.ext (dropCollection_rename dbs database name) rfl
    | none => rfl

/-- Indexes are added to a renamed collection with the same outcome. -/
theorem createIndexes_rename (hf : Function.Injective f) (hsound : dbs.Sound)
    (hlabels : dbs.Labelled labels) (command : Document) :
    (dbs.rename f).createIndexes database command =
      renamed f (dbs.createIndexes database command) := by
  rw [createIndexes, createIndexes]
  dsimp only
  split
  · rfl
  · next name specs _ =>
    rw [getD_collection?_rename, Collection.addIndexes_rename hf
      (hsound.collectionOrNew database name) (hlabels.collectionOrNew database name)]
    refine Prod.ext (putCollection_rename dbs database name _) ?_
    rw [collection?_rename, Option.isNone_map]
    rfl

theorem dropIndexes_rename (dbs : Databases) (command : Document) :
    (dbs.rename f).dropIndexes database command = renamed f (dbs.dropIndexes database command) := by
  rw [dropIndexes, dropIndexes]
  cases CommandField.target command "dropIndexes" with
  | error e => rfl
  | ok name =>
    rw [Except.ok_bind, Except.ok_bind, collection?_rename]
    cases dbs.collection? database name with
    | none => rfl
    | some c =>
      rw [Option.map_some]
      dsimp only
      rw [Collection.dropIndexes_rename]
      cases c.dropIndexes (command.get? "index") with
      | error e => rfl
      | ok after => exact Prod.ext (putCollection_rename dbs database name after) rfl

variable [Host]

theorem update_rename (hf : Function.Injective f) (hsound : dbs.Sound)
    (hlabels : dbs.Labelled labels) {command : Document} (hcommand : command.IdFree) :
    (dbs.rename f).update database command = renamed f (dbs.update database command) := by
  rw [update, update]
  dsimp only
  split
  · rfl
  · next name statements hparts =>
    obtain ⟨_, -, hparts⟩ := Except.bind_eq_ok.mp hparts
    obtain ⟨_, hstatements, hparts⟩ := Except.bind_eq_ok.mp hparts
    cases hparts
    rw [collection?_rename]
    cases hc : dbs.collection? database name with
    | none => rfl
    | some c =>
      rw [Option.map_some]
      dsimp only
      rw [Collection.update_rename hf (hsound.collection? hc) (hlabels.collection? hc) _ _
        (CommandField.idFree_array hcommand hstatements)]
      exact Prod.ext (putCollection_rename dbs database name _) rfl

theorem delete_rename (dbs : Databases) {command : Document} (hcommand : command.IdFree) :
    (dbs.rename f).delete database command = renamed f (dbs.delete database command) := by
  rw [delete, delete]
  dsimp only
  split
  · rfl
  · next name statements hparts =>
    obtain ⟨_, -, hparts⟩ := Except.bind_eq_ok.mp hparts
    obtain ⟨_, hstatements, hparts⟩ := Except.bind_eq_ok.mp hparts
    cases hparts
    rw [collection?_rename]
    cases dbs.collection? database name with
    | none => rfl
    | some c =>
      rw [Option.map_some]
      dsimp only
      rw [Collection.delete_rename c 0 (CommandField.idFree_array hcommand hstatements)]
      exact Prod.ext (putCollection_rename dbs database name _) rfl

omit [Host] in
/-- A document that has no identifier in common with those of its collection is stored alike under
either name of its own. -/
theorem insert_rename (hf : Function.Injective f) {d : Document} (hd : d.Labelled labels)
    (hid : (d.get? "_id").isSome) {name : String}
    (halien : ∀ o ∈ dbs.documents database name, o.Alien d) (ids ids' : Nat → ObjectId) :
    (dbs.rename f).insert ids' database (insertOf name (d.rename f)) =
      renamed f (dbs.insert ids database (insertOf name d)) := by
  have hid' : ((d.rename f).get? "_id").isSome := by
    rwa [Document.get?_rename, Option.isSome_map]
  have hrefusal : (dbs.rename f).refusal? database name (d.rename f) =
      dbs.refusal? database name d := by
    rw [documents_eq] at halien
    rw [refusal?, refusal?, getD_collection?_rename]
    exact Collection.violation?_rename hf hd halien
  rw [insert_insertOf _ _ _ hid', insert_insertOf _ _ _ hid, hrefusal, getD_collection?_rename]
  cases dbs.refusal? database name d with
  | none =>
    refine Prod.ext ?_ rfl
    dsimp only [renamed, appended]
    rw [getD_collection?_rename, ← putCollection_rename]
    refine congrArg (Databases.putCollection _ _ _) ?_
    rw [Collection.rename, Collection.rename, List.map_append, List.map_singleton]
  | some failure => exact Prod.ext (putCollection_rename dbs database name _) rfl

/-! ### Labels -/

namespace Labelled

variable {database}

omit [Host] in
theorem create (h : dbs.Labelled labels) (command : Document) :
    (dbs.create database command).1.Labelled labels := by
  rw [Databases.create]
  split
  · exact h
  · split
    · exact h
    · exact h.putCollection _ _ (List.forall_mem_nil _)

omit [Host] in
theorem drop (h : dbs.Labelled labels) (command : Document) :
    (dbs.drop database command).1.Labelled labels := by
  rw [Databases.drop]
  split
  · exact h
  · dsimp only
    split
    · exact h.dropCollection _ _
    · exact h

omit [Host] in
theorem createIndexes (h : dbs.Labelled labels) (command : Document) :
    (dbs.createIndexes database command).1.Labelled labels := by
  rw [Databases.createIndexes]
  dsimp only
  split
  · exact h
  · exact h.putCollection _ _ (Collection.labelled_addIndexes (h.collectionOrNew _ _) _)

omit [Host] in
theorem dropIndexes (h : dbs.Labelled labels) (command : Document) :
    (dbs.dropIndexes database command).1.Labelled labels := by
  rw [Databases.dropIndexes]
  split
  · exact h
  · next hdropped =>
    obtain ⟨name, -, hdropped⟩ := Except.bind_eq_ok.mp hdropped
    split at hdropped
    · cases hdropped
    · next c hc =>
      obtain ⟨after, hafter, hdropped⟩ := Except.bind_eq_ok.mp hdropped
      cases hdropped
      exact h.putCollection _ _ (Collection.labelled_dropIndexes (h.collection? hc) hafter)

theorem update (h : dbs.Labelled labels) {command : Document} (hcommand : command.IdFree) :
    (dbs.update database command).1.Labelled labels := by
  rw [Databases.update]
  dsimp only
  split
  · exact h
  · next hparts =>
    obtain ⟨_, -, hparts⟩ := Except.bind_eq_ok.mp hparts
    obtain ⟨_, hstatements, hparts⟩ := Except.bind_eq_ok.mp hparts
    cases hparts
    split
    · exact h
    · next hc =>
      exact h.putCollection _ _ (Collection.labelled_update (h.collection? hc) _ _
        (CommandField.idFree_array hcommand hstatements))

theorem delete (h : dbs.Labelled labels) (command : Document) :
    (dbs.delete database command).1.Labelled labels := by
  rw [Databases.delete]
  dsimp only
  split
  · exact h
  · split
    · exact h
    · next hc => exact h.putCollection _ _ (Collection.labelled_delete (h.collection? hc) _ _)

omit [Host] in
theorem insert (h : dbs.Labelled labels) {d : Document} (hd : d.Labelled labels)
    (hid : (d.get? "_id").isSome) (name : String) (ids : Nat → ObjectId) :
    (dbs.insert ids database (insertOf name d)).1.Labelled labels := by
  have hcollection := h.collectionOrNew database name
  rw [insert_insertOf _ _ _ hid]
  split
  · exact h.putCollection _ _
      (List.forall_mem_append.mpr ⟨hcollection, List.forall_mem_singleton.mpr hd⟩)
  · exact h.putCollection _ _ hcollection

end Labelled

end Databases

end SqlGateway
