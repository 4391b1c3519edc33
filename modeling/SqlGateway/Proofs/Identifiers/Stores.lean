import SqlGateway.Proofs.Identifiers.Retrieval
import SqlGateway.Proofs.Store.Alike

/-! Stores under a renaming of identifiers. A renamed store goes through transactions and plain
commands as the store does, with the same answers, but that the values of a column are renamed. -/

namespace SqlGateway

variable {f : ObjectId → ObjectId} {labels : List ObjectId}

/-- A command with other identifiers. -/
def Command.rename (f : ObjectId → ObjectId) (c : Command) : Command :=
  { c with document := c.document.rename f }

theorem Command.rename_of_idFree {c : Command} (h : c.document.IdFree) : c.rename f = c :=
  congrArg (Command.mk c.verb c.collection) (Document.rename_of_idFree h)

/-- The command that stores a document. -/
def Command.insertion (collection : String) (d : Document) : Command :=
  ⟨.insert, collection, Databases.insertOf collection d⟩

theorem Command.rename_insertion (collection : String) (d : Document) :
    (insertion collection d).rename f = insertion collection (d.rename f) := by
  refine congrArg (Command.mk .insert collection) ?_
  rw [insertion, Databases.insertOf, Document.rename_cons, Document.rename_cons,
    Document.rename_cons, Value.rename_array, List.map_singleton, Value.rename_document]
  rfl

theorem Command.plain_insertion (collection : String) {d : Document}
    (hid : (Fields.get? d "_id").isSome) : (insertion collection d).Plain := by
  refine ⟨⟨_, _, rfl⟩, rfl, fun _ items hitems other hother => ?_⟩
  obtain rfl : [.document d] = items := by
    cases hitems
    rfl
  cases List.mem_singleton.mp hother
  exact hid

/-- A document that has none of the identifiers of another has no identifier in common with it. -/
theorem Document.Labelled.alien {o d : Document} {id : ObjectId} (ho : o.Labelled labels)
    (hd : d.Labelled [id]) (hid : id ∉ labels) : o.Alien d := by
  intro shared ho' hd'
  have hlabel : shared ∈ labels := by
    rcases ho.get? ho' with hfree | ⟨-, label, hlabel, hsame⟩
    · cases hfree
    · cases hsame
      exact hlabel
  rcases hd.get? hd' with hfree | ⟨-, label, hlabel', hsame⟩
  · cases hfree
  · cases hsame
    cases List.mem_singleton.mp hlabel'
    exact hid hlabel

namespace MemoryStore

/-- A store with other identifiers in its documents. -/
def rename (f : ObjectId → ObjectId) (s : MemoryStore) : MemoryStore :=
  { s with
    databases := s.databases.rename f
    snapshot := s.snapshot.map (Databases.rename f) }

/-- Whether the documents of a store, and those of its snapshot, hold no identifiers but their own,
which are among some. -/
structure Labelled (labels : List ObjectId) (s : MemoryStore) : Prop where
  databases : s.databases.Labelled labels
  snapshot : ∀ dbs, s.snapshot = some dbs → dbs.Labelled labels

variable {s : MemoryStore}

/-! ### Transactions -/

theorem startTransaction_rename (s : MemoryStore) : (s.rename f).startTransaction =
    (s.startTransaction.1, s.startTransaction.2.rename f) := by
  unfold startTransaction inTransaction rename
  dsimp only
  split
  · rfl
  · split <;> rfl

theorem commitTransaction_rename (s : MemoryStore) : (s.rename f).commitTransaction =
    (s.commitTransaction.1, s.commitTransaction.2.rename f) := by
  unfold commitTransaction inTransaction rename
  dsimp only
  split
  · rfl
  · split
    · rfl
    · split <;> rfl

theorem abortTransaction_rename (s : MemoryStore) : (s.rename f).abortTransaction =
    (s.abortTransaction.1, s.abortTransaction.2.rename f) := by
  unfold abortTransaction inTransaction rename
  dsimp only
  split
  · rfl
  · cases s.snapshot <;> rfl

namespace Labelled

theorem mono {more : List ObjectId} (h : s.Labelled labels) (hmore : labels ⊆ more) :
    s.Labelled more :=
  ⟨h.databases.mono hmore, fun dbs hdbs => (h.snapshot dbs hdbs).mono hmore⟩

theorem startTransaction (h : s.Labelled labels) : s.startTransaction.2.Labelled labels := by
  unfold MemoryStore.startTransaction
  split
  · exact h
  · split
    · exact h
    · exact ⟨h.databases, fun dbs hdbs => Option.some.inj hdbs ▸ h.databases⟩

theorem commitTransaction (h : s.Labelled labels) : s.commitTransaction.2.Labelled labels := by
  unfold MemoryStore.commitTransaction
  split
  · exact h
  · split
    · exact h
    · split
      · exact h
      · exact ⟨h.databases, fun _ hnone => absurd hnone (Option.some_ne_none _).symm⟩

theorem abortTransaction (h : s.Labelled labels) : s.abortTransaction.2.Labelled labels := by
  unfold MemoryStore.abortTransaction
  split
  · exact h
  · refine ⟨?_, fun _ hnone => absurd hnone (Option.some_ne_none _).symm⟩
    cases hsnapshot : s.snapshot with
    | none => exact h.databases
    | some dbs => exact h.snapshot dbs hsnapshot

end Labelled

/-! ### Commands -/

/-- A command runs alike on a renamed store if it is carried out alike. -/
theorem run_rename_of_dispatch [Host] {database verb : String} {v v' : Value} {rest rest' : Document}
    {reply : Databases.Reply} {g : Document → Document}
    (hfailure : ∀ failure : CommandFailure, g failure.toResponse = failure.toResponse)
    (h : (s.rename f).dispatch database verb ((verb, v') :: rest') =
      ((s.dispatch database verb ((verb, v) :: rest)).1.rename f, reply))
    (hreply : response reply = g (response (s.dispatch database verb ((verb, v) :: rest)).2)) :
    (s.rename f).run database ((verb, v') :: rest') =
      ((s.run database ((verb, v) :: rest)).1.map g,
        (s.run database ((verb, v) :: rest)).2.rename f) := by
  unfold run
  change (if (!s.online) = true then _ else _) = _
  split
  · rfl
  · dsimp only
    change (if (s.standalone && s.inTransaction) = true then _ else _) = _
    split
    · exact Prod.ext (congrArg Except.ok (hfailure _).symm) rfl
    · rw [h]
      exact Prod.ext (congrArg Except.ok hreply) rfl

variable [Host] (database : String)

/-- A command that changes databases and has no identifiers is answered alike. -/
theorem run_rename (hf : Function.Injective f) (hs : s.Sound) (hlabels : s.Labelled labels)
    {c : Command} (hc : c.Plain) (hfree : c.document.IdFree) (hinsert : c.verb ≠ .insert)
    (hdistinct : c.verb ≠ .distinct) :
    (s.rename f).run database c.document =
      ((s.run database c.document).1, (s.run database c.document).2.rename f) := by
  have hdispatch : (s.rename f).dispatch database c.verb.name c.document =
      ((s.dispatch database c.verb.name c.document).1.rename f,
        (s.dispatch database c.verb.name c.document).2) := by
    have hchanged {r r' : Databases × Databases.Reply} (h : r' = Databases.renamed f r) :
        (s.rename f).changed r' = ((s.changed r).1.rename f, (s.changed r).2) := by
      rw [h]
      rfl
    have hcursor := hc.cursorless
    obtain ⟨verb, collection, document⟩ := c
    dsimp only at *
    cases verb with
    | find => cases hcursor
    | aggregate => cases hcursor
    | distinct => exact absurd rfl hdistinct
    | insert => exact absurd rfl hinsert
    | update =>
      exact hchanged (Databases.update_rename database hf hs.databases hlabels.databases hfree)
    | delete => exact hchanged (Databases.delete_rename database s.databases hfree)
    | create => exact hchanged (Databases.create_rename database s.databases document)
    | drop => exact hchanged (Databases.drop_rename database s.databases document)
    | createIndexes =>
      exact hchanged (Databases.createIndexes_rename database hf hs.databases hlabels.databases _)
    | dropIndexes => exact hchanged (Databases.dropIndexes_rename database s.databases document)
  obtain ⟨v, rest, hdoc⟩ := hc.headed
  rw [hdoc] at hdispatch ⊢
  rw [run_rename_of_dispatch (g := id) (fun _ => rfl) hdispatch rfl, Except.map_id]
  rfl

/-- The values of a column are renamed. -/
theorem run_rename_distinct (hf : Function.Injective f) (s : MemoryStore) {v : Value}
    {rest : Document} (hfree : Document.IdFree (("distinct", v) :: rest)) :
    (s.rename f).run database (("distinct", v) :: rest) =
      ((s.run database (("distinct", v) :: rest)).1.map (Document.rename f),
        (s.run database (("distinct", v) :: rest)).2.rename f) := by
  have hdispatch : (s.rename f).dispatch database "distinct" (("distinct", v) :: rest) =
      (s.rename f, (s.databases.distinct database (("distinct", v) :: rest)).map
        (Document.rename f)) :=
    Prod.ext rfl (Databases.distinct_rename s.databases database hfree hf)
  refine run_rename_of_dispatch (fun _ => rfl) hdispatch ?_
  change response _ = (response (s.databases.distinct database (("distinct", v) :: rest))).rename f
  cases s.databases.distinct database (("distinct", v) :: rest) with
  | error failure => rfl
  | ok reply => exact Document.set_rename reply "ok" (.ofFloat 1.0)

/-- A document with an identifier that the store does not hold yet is stored under the new name of
the identifier. -/
theorem run_rename_insert (hf : Function.Injective f) (hlabels : s.Labelled labels) {d : Document}
    {label : ObjectId} (hd : d.Labelled [label]) (hlabel : label ∉ labels)
    (hid : (d.get? "_id").isSome) (name : String) :
    (s.rename f).run database (Databases.insertOf name (d.rename f)) =
      ((s.run database (Databases.insertOf name d)).1,
        (s.run database (Databases.insertOf name d)).2.rename f) := by
  have hstored := Databases.insert_rename database hf hd hid
    (fun o ho => (hlabels.databases.documents database name o ho).alien hd hlabel)
  have hdispatch : (s.rename f).dispatch database "insert" (Databases.insertOf name (d.rename f)) =
      ((s.dispatch database "insert" (Databases.insertOf name d)).1.rename f,
        (s.dispatch database "insert" (Databases.insertOf name d)).2) := by
    have hsame := hstored (fun i => s.ids (s.issued + i)) fun i => s.ids (s.issued + i)
    let grown (dbs : Databases) : MemoryStore :=
      { s.rename f with issued := s.issued + 1, databases := dbs }
    exact Prod.ext (congrArg (fun r => grown r.1) hsame :) (congrArg Prod.snd hsame :)
  rw [Databases.insertOf] at hdispatch
  rw [Databases.insertOf, Databases.insertOf,
    run_rename_of_dispatch (g := id) (fun _ => rfl) hdispatch rfl, Except.map_id]
  rfl

namespace Labelled

omit [Host]

theorem of_sameSession {t : MemoryStore} (h : s.Labelled labels) (hsame : SameSession s t)
    (hdatabases : t.databases.Labelled labels) : t.Labelled labels :=
  ⟨hdatabases, fun dbs hdbs => h.snapshot dbs (hsame.snapshot ▸ hdbs)⟩

variable [Host]

theorem run (h : s.Labelled labels) {c : Command} (hc : c.Plain) (hfree : c.document.IdFree)
    (hinsert : c.verb ≠ .insert) : (s.run database c.document).2.Labelled labels := by
  by_cases hserving : s.Serving
  · have hdispatch : (s.dispatch database c.verb.name c.document).1.databases.Labelled labels := by
      have hcursor := hc.cursorless
      obtain ⟨verb, collection, document⟩ := c
      dsimp only at *
      cases verb with
      | find => cases hcursor
      | aggregate => cases hcursor
      | distinct => exact h.databases
      | insert => exact absurd rfl hinsert
      | update => exact h.databases.update hfree
      | delete => exact h.databases.delete document
      | create => exact h.databases.create document
      | drop => exact h.databases.drop document
      | createIndexes => exact h.databases.createIndexes document
      | dropIndexes => exact h.databases.dropIndexes document
    refine h.of_sameSession (s.sameSession_run database c.document) ?_
    obtain ⟨v, rest, hdoc⟩ := hc.headed
    rw [hdoc] at hdispatch ⊢
    rwa [run_of_serving hserving]
  · rwa [run_of_not_serving hserving]

theorem run_insertOf (h : s.Labelled labels) {d : Document} {label : ObjectId}
    (hd : d.Labelled [label]) (hid : (d.get? "_id").isSome) (name : String) :
    (s.run database (Databases.insertOf name d)).2.Labelled (label :: labels) := by
  have hmore := h.mono (List.subset_cons_self label labels)
  have hnew : d.Labelled (label :: labels) := hd.mono (by simp)
  by_cases hserving : s.Serving
  · refine hmore.of_sameSession (s.sameSession_run database _) ?_
    have hstored : (s.databases.insert (fun i => s.ids (s.issued + i)) database
        (Databases.insertOf name d)).1.Labelled (label :: labels) :=
      hmore.databases.insert hnew hid name _
    rw [Databases.insertOf] at hstored ⊢
    rw [run_of_serving hserving]
    exact hstored
  · rwa [run_of_not_serving hserving]

end Labelled

/-! ### What a command comes to -/

/-- The stages that a command comes to are those on the renamed store, renamed. -/
theorem met_rename (hf : Function.Injective f) (s : MemoryStore) {command : Document}
    (hcommand : command.IdFree) (hspares : ∀ m ∈ s.met database command, m.SparesIdentifiers) :
    (s.rename f).met database command = (s.met database command).map (MetStage.rename f) := by
  have hmet : (s.rename f).met database command =
      if s.online && !(s.standalone && s.inTransaction) then
        (s.databases.rename f).met database command else [] := rfl
  rw [met] at hspares
  rw [hmet, met]
  split
  · next hserving =>
    rw [if_pos hserving] at hspares
    exact Databases.met_rename s.databases database hcommand hf hspares
  · rfl

theorem comesBack_rename (hf : Function.Injective f) (s : MemoryStore) {command : Document}
    (hcommand : command.IdFree) (hspares : ∀ m ∈ s.met database command, m.SparesIdentifiers) :
    (s.rename f).comesBack database command = s.comesBack database command := by
  rw [comesBack, comesBack, met_rename database hf s hcommand hspares, List.all_map,
    Bool.eq_iff_iff, List.all_eq_true, List.all_eq_true]
  exact forall₂_congr fun m hm => by rw [← MetStage.comesBack_rename (f := f) (hspares m hm)]; rfl

/-! ### Stores beside renamed ones -/

/-- Whether a store holds what another one holds, with other identifiers, and has numbers left for
further cursors. The documents of the other one hold no identifiers but their own. -/
structure Renames (f : ObjectId → ObjectId) (labels : List ObjectId) (room : Nat)
    (s t : MemoryStore) : Prop where
  alike : Alike room (s.rename f) t
  sound : s.Sound
  labelled : s.Labelled labels

namespace Renames

omit [Host]

variable {room : Nat} {t : MemoryStore}

theorem mono {more : List ObjectId} {less : Nat} (h : Renames f labels room s t)
    (hmore : labels ⊆ more) (hless : less ≤ room) : Renames f more less s t :=
  ⟨h.alike.mono hless, h.sound, h.labelled.mono hmore⟩

theorem startTransaction (h : Renames f labels room s t) :
    t.startTransaction.1 = s.startTransaction.1 ∧
      Renames f labels room s.startTransaction.2 t.startTransaction.2 := by
  have hstart := h.alike.startTransaction
  rw [startTransaction_rename] at hstart
  exact ⟨hstart.1, hstart.2, h.sound.startTransaction, h.labelled.startTransaction⟩

theorem commitTransaction (h : Renames f labels room s t) :
    t.commitTransaction.1 = s.commitTransaction.1 ∧
      Renames f labels room s.commitTransaction.2 t.commitTransaction.2 := by
  have hcommit := h.alike.commitTransaction
  rw [commitTransaction_rename] at hcommit
  exact ⟨hcommit.1, hcommit.2, h.sound.commitTransaction, h.labelled.commitTransaction⟩

theorem abortTransaction (h : Renames f labels room s t) :
    Renames f labels room s.abortTransaction.2 t.abortTransaction.2 := by
  have habort := h.alike.abortTransaction
  rw [abortTransaction_rename] at habort
  exact ⟨habort, h.sound.abortTransaction, h.labelled.abortTransaction⟩

/-- Which number either store gives out next makes no difference. -/
theorem skip (h : Renames f labels (room + 1) s t) {next next' : Nat}
    (hnext : s.nextCursor ≤ next ∧ next ≤ s.nextCursor + 1)
    (hnext' : t.nextCursor ≤ next' ∧ next' ≤ t.nextCursor + 1) :
    Renames f labels room { s with nextCursor := next } { t with nextCursor := next' } :=
  ⟨h.alike.skip hnext hnext', Alike.sound_skip h.sound hnext.1,
    ⟨h.labelled.databases, h.labelled.snapshot⟩⟩

variable [Host] (database : String)

theorem run (hf : Function.Injective f) (h : Renames f labels room s t) {c : Command} (hc : c.Plain)
    (hfree : c.document.IdFree) (hinsert : c.verb ≠ .insert) (hdistinct : c.verb ≠ .distinct) :
    (t.run database c.document).1 = (s.run database c.document).1 ∧
      Renames f labels room (s.run database c.document).2 (t.run database c.document).2 := by
  have hrun := h.alike.run database hc
  rw [run_rename database hf h.sound h.labelled hc hfree hinsert hdistinct] at hrun
  exact ⟨hrun.1, hrun.2, h.sound.run database _, h.labelled.run database hc hfree hinsert⟩

theorem run_distinct (hf : Function.Injective f) (h : Renames f labels room s t) {c : Command}
    (hc : c.Plain) (hfree : c.document.IdFree) (hdistinct : c.verb = .distinct) :
    (t.run database c.document).1 = (s.run database c.document).1.map (Document.rename f) ∧
      Renames f labels room (s.run database c.document).2 (t.run database c.document).2 := by
  have hrun := h.alike.run database hc
  have hlabelled := h.labelled.run database hc hfree (by rw [hdistinct]; decide)
  obtain ⟨v, rest, hdoc⟩ := hc.headed
  rw [hdistinct] at hdoc
  change c.document = ("distinct", v) :: rest at hdoc
  rw [hdoc] at hfree hrun hlabelled ⊢
  rw [run_rename_distinct database hf s hfree] at hrun
  exact ⟨hrun.1, hrun.2, h.sound.run database _, hlabelled⟩

theorem run_insertion (hf : Function.Injective f) (h : Renames f labels room s t) {d : Document}
    {label : ObjectId} (hd : d.Labelled [label]) (hlabel : label ∉ labels)
    (hid : (d.get? "_id").isSome) (collection : String) :
    let c := Command.insertion collection d
    (t.run database (c.rename f).document).1 = (s.run database c.document).1 ∧
      Renames f (label :: labels) room (s.run database c.document).2
        (t.run database (c.rename f).document).2 := by
  intro c
  have hid' : ((d.rename f).get? "_id").isSome := by
    rwa [Document.get?_rename, Option.isSome_map]
  have hrun := h.alike.run database (Command.plain_insertion collection hid')
  rw [Command.insertion, run_rename_insert database hf h.labelled hd hlabel hid] at hrun
  rw [Command.rename_insertion]
  exact ⟨hrun.1, hrun.2, h.sound.run database _, h.labelled.run_insertOf database hd hid collection⟩

end Renames

end MemoryStore

end SqlGateway
