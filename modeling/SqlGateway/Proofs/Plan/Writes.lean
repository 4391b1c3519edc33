import SqlGateway.Proofs.Plan.Commands
import SqlGateway.Proofs.Value.Fields

/-! What the commands of a plan leave to the store. Nothing but a SELECT that is read through
a cursor opens one, and no document is stored whose identifier the store would have to issue. -/

namespace SqlGateway

namespace Command

/-- Whether every document that a command may store has its identifier. -/
def Identified (c : Command) : Prop :=
  c.verb = .insert → ∀ items, c.document.get? "documents" = some (.array items) →
    ∀ d, .document d ∈ items → (Fields.get? d "_id").isSome

/-- Whether what a command does to a store depends on its databases alone. -/
structure Plain (c : Command) : Prop where
  headed : c.Headed
  cursorless : c.verb.returnsCursor = false
  identified : c.Identified

theorem plain_of {c : Command} (hheaded : c.Headed) (hcursor : c.verb.returnsCursor = false)
    (hinsert : c.verb ≠ .insert) : c.Plain :=
  ⟨hheaded, hcursor, fun h => absurd h hinsert⟩

theorem verb_setInserted (c : Command) (field : String) (v : Value) :
    (c.setInserted field v).1.verb = c.verb := by
  rw [setInserted]
  split <;> rfl

theorem Identified.setInserted {c : Command} (h : c.Identified) (field : String) (v : Value) :
    (c.setInserted field v).1.Identified := by
  rw [Command.setInserted]
  split
  · next items hverb hitems =>
    intro _ items' hitems' d hd
    have hset : (Fields.set "documents" (.array _) c.document).get? "documents" = _ := hitems'
    rw [Fields.get?_set, if_pos rfl] at hset
    cases hset
    obtain ⟨i, hi, hid⟩ := List.mem_map.mp hd
    split at hid
    · next d' =>
      cases hid
      rw [Fields.get?_set]
      split
      · rfl
      · exact h hverb items hitems d' hi
    · next hno => exact absurd hid (hno d)
  · exact h

theorem Plain.setInserted {c : Command} (h : c.Plain) (field : String) (v : Value) :
    (c.setInserted field v).1.Plain :=
  ⟨h.headed.setInserted field v, (c.verb_setInserted field v) ▸ h.cursorless,
    h.identified.setInserted field v⟩

end Command

namespace Plan

/-- Whether a plan is read through a cursor. -/
def Fetches (p : Plan) : Prop :=
  ∃ strategy, p.shape = .select strategy ∧ ∀ output, strategy ≠ .distinct output

/-- Whether the commands of a plan begin with their verbs, and depend on the databases alone unless
the plan is read through a cursor. -/
def Regular (p : Plan) : Prop :=
  p.Headed ∧ (p.Fetches ∨ ∀ c ∈ p.commands, c.Plain)

/-- A plan stays regular when the documents it inserts are given a field. -/
theorem Regular.setInserted {p : Plan} (h : p.Regular) (field : String) (v : Value) :
    Regular { p with commands := p.commands.map fun c => (c.setInserted field v).1 } := by
  refine ⟨fun c hc => ?_, h.2.imp_right fun hplain c hc => ?_⟩
  · obtain ⟨c', hc', rfl⟩ := List.mem_map.mp hc
    exact (h.1 c' hc').setInserted field v
  · obtain ⟨c', hc', rfl⟩ := List.mem_map.mp hc
    exact (hplain c' hc').setInserted field v

theorem verb_distinctCommand [Host] {names : Naming} {s : Select} {c : Command}
    (h : distinctCommand names s = .ok c) : c.verb = .distinct := by
  obtain ⟨column, -, h⟩ := Except.bind_eq_ok.mp h
  obtain ⟨filter, -, h⟩ := Except.bind_eq_ok.mp h
  obtain ⟨field, -, h⟩ := Except.bind_eq_ok.mp h
  cases h
  exact Command.verb_withField? _ _ _

theorem regular_ofSelect [Host] {s : Select} {p : Plan} (h : ofSelect s = .ok p) : p.Regular := by
  refine ⟨headed_ofSelect h, ?_⟩
  obtain ⟨join, strategy, command, target, hselects, rfl⟩ := ofSelect_eq_ok.mp h
  have hcommand := hselects.runs
  cases strategy with
  | distinct output =>
    have hverb := verb_distinctCommand hcommand
    refine .inr (List.forall_mem_singleton.mpr ?_)
    refine Command.plain_of (headed_distinctCommand hcommand) ?_ ?_ <;> rw [hverb]
    · rfl
    · nofun
  | find => exact .inl ⟨_, rfl, nofun⟩
  | joinOnly => exact .inl ⟨_, rfl, nofun⟩
  | grouping => exact .inl ⟨_, rfl, nofun⟩

/-! ### Writing -/

theorem isSome_setAll {fs : Document} {key : String} (h : (Fields.get? fs key).isSome)
    (more : List (String × Value)) : (Fields.get? (Fields.setAll fs more) key).isSome := by
  rw [Option.isSome_iff_ne_none, Ne, Fields.get?_eq_none_iff, Classical.not_not] at h ⊢
  exact Fields.mem_keys_setAll.mpr (.inl h)

theorem isSome_insertedDocument [Host] (id : ObjectId) (autoIncrement : Option String)
    (values : Assignments) :
    (Fields.get? (insertedDocument id autoIncrement values) "_id").isSome := by
  unfold insertedDocument
  refine isSome_setAll ?_ _
  split
  · rw [Fields.get?_set]
    split <;> rfl
  · rfl

theorem plain_ofInsert [Host] (id : ObjectId) (collection : String) (autoIncrement : Option String)
    (values : Assignments) :
    ∀ c ∈ (ofInsert id collection autoIncrement values).commands, c.Plain := by
  intro c hc
  have hheaded := headed_ofInsert id collection autoIncrement values c hc
  rw [List.mem_singleton.mp hc] at hheaded ⊢
  refine ⟨hheaded, rfl, fun _ items hitems d hd => ?_⟩
  obtain rfl : [.document (insertedDocument id autoIncrement values)] = items := by
    cases hitems
    rfl
  cases List.mem_singleton.mp hd
  exact isSome_insertedDocument id autoIncrement values

theorem plain_updateMany (collection : String) (filter change : Document) :
    (Command.updateMany collection filter change).Plain :=
  Command.plain_of (Command.headed_updateMany _ _ _) rfl (by rintro ⟨⟩)

theorem plain_deleteMany (collection : String) (filter : Document) :
    (Command.deleteMany collection filter).Plain :=
  Command.plain_of (Command.headed_deleteMany _ _) rfl (by rintro ⟨⟩)

theorem plain_ofUpdate [Host] {collection : String} {values : Assignments} {wheres : List Predicate}
    {p : Plan} (h : ofUpdate collection values wheres = .ok p) : ∀ c ∈ p.commands, c.Plain := by
  obtain ⟨filter, -, hcommands⟩ := exists_commands_ofUpdate h
  rw [hcommands]
  exact List.forall_mem_singleton.mpr (plain_updateMany _ _ _)

theorem plain_ofDelete [Host] {collection : String} {wheres : List Predicate} {p : Plan}
    (h : ofDelete collection wheres = .ok p) : ∀ c ∈ p.commands, c.Plain := by
  obtain ⟨filter, -, h⟩ := Except.bind_eq_ok.mp h
  dsimp only at h
  split at h
  · cases h
  cases h
  exact List.forall_mem_singleton.mpr (plain_deleteMany _ _)

/-! ### Defining -/

theorem plain_createIndexes (collection : String) (columns : List String) :
    ∀ c ∈ createIndexes collection columns, c.Plain := by
  intro c hc
  have hheaded := headed_createIndexes collection columns c hc
  rw [createIndexes] at hc
  split at hc
  · cases hc
  · rw [List.mem_singleton.mp hc] at hheaded ⊢
    exact Command.plain_of hheaded rfl (by rintro ⟨⟩)

theorem plain_dropIndexes (collection : String) (columns : List String) :
    ∀ c ∈ dropIndexes collection columns, c.Plain := by
  intro c hc
  have hheaded := headed_dropIndexes collection columns c hc
  rw [dropIndexes] at hc
  split at hc
  · cases hc
  · rw [List.mem_singleton.mp hc] at hheaded ⊢
    exact Command.plain_of hheaded rfl (by rintro ⟨⟩)

theorem plain_alterCommands [Host] (collection : String) (action : AlterAction) :
    ∀ c ∈ alterCommands collection action, c.Plain := by
  have hchange (operator : String) (fields : List (String × Value)) :
      (changeAll collection operator fields).Plain := plain_updateMany _ _ _
  cases action with
  | addColumns columns =>
    exact List.forall_mem_cons.mpr ⟨hchange _ _, plain_createIndexes _ _⟩
  | renameColumns renames =>
    refine List.forall_mem_append.mpr ⟨plain_dropIndexes _ _, ?_⟩
    exact List.forall_mem_cons.mpr ⟨hchange _ _, plain_createIndexes _ _⟩
  | dropColumns columns =>
    exact List.forall_mem_append.mpr ⟨plain_dropIndexes _ _, by simpa using hchange _ _⟩
  | addConstraint c => exact plain_createIndexes _ _
  | dropConstraint c => exact plain_dropIndexes _ _
  | renameConstraint source target =>
    exact List.forall_mem_append.mpr ⟨plain_dropIndexes _ _, plain_createIndexes _ _⟩

theorem plain_ofAlter [Host] {collection : String} {actions : List AlterAction} {p : Plan}
    (h : ofAlter collection actions = .ok p) : ∀ c ∈ p.commands, c.Plain := by
  rw [ofAlter] at h
  split at h
  · cases h
  cases h
  intro c hc
  obtain ⟨action, -, hc⟩ := List.mem_flatMap.mp hc
  exact plain_alterCommands collection action c hc

/-! ### Trees -/

theorem regular_of_plain {p : Plan} (h : ∀ c ∈ p.commands, c.Plain) : p.Regular :=
  ⟨fun c hc => (h c hc).headed, .inr h⟩

/-- What the commands of any statement but a SELECT do depends on the databases alone. -/
theorem plain_ofStatement [Host] {id : ObjectId} {s : Statement} {p : Plan}
    (hselect : ∀ q, s ≠ .select q) (h : ofStatement id s = .ok p) : ∀ c ∈ p.commands, c.Plain := by
  cases s with
  | select q => exact absurd rfl (hselect q)
  | insert collection autoIncrement values =>
    cases h
    exact plain_ofInsert _ _ _ _
  | update collection values wheres => exact plain_ofUpdate h
  | delete collection wheres => exact plain_ofDelete h
  | create collection columns =>
    cases h
    refine List.forall_mem_cons.mpr ⟨?_, plain_createIndexes _ _⟩
    exact Command.plain_of (Command.headed_of .create collection) rfl (by rintro ⟨⟩)
  | alter collection actions => exact plain_ofAlter h
  | drop collection =>
    cases h
    refine List.forall_mem_singleton.mpr ?_
    exact Command.plain_of (Command.headed_of .drop collection) rfl (by rintro ⟨⟩)
  | truncate collection =>
    cases h
    exact List.forall_mem_singleton.mpr (plain_deleteMany _ _)

theorem regular_ofStatement [Host] {id : ObjectId} {s : Statement} {p : Plan}
    (h : ofStatement id s = .ok p) : p.Regular := by
  by_cases hselect : ∃ q, s = .select q
  · obtain ⟨q, rfl⟩ := hselect
    exact regular_ofSelect h
  · exact regular_of_plain (plain_ofStatement (fun q hs => hselect ⟨q, hs⟩) h)

/-- Every plan is regular. -/
theorem regular_ofTree [Host] {id : ObjectId} {t : QueryTree} {p : Plan} (h : ofTree id t = .ok p) :
    p.Regular := by
  rw [ofTree] at h
  split at h
  · cases h
  · split at h
    · exact regular_ofStatement h
    · cases h

end Plan

end SqlGateway
