import SqlGateway.Proofs.Store.Collection
import SqlGateway.Proofs.Store.Databases
import SqlGateway.Proofs.Store.Memory

/-! The invariant of a store in memory. All collections are sound, those of an
open transaction's snapshot included; there is a snapshot just as long as a
transaction is open; and every open cursor has documents left and an identifier
that was given out once. Whatever is asked of a store, in whatever order, keeps it. -/

namespace SqlGateway

attribute [local instance] Host.universal

/-! ### Databases -/

namespace Databases

/-- Whether every collection of every database is sound. -/
def Sound (dbs : Databases) : Prop := ∀ e ∈ dbs, ∀ f ∈ e.2, f.2.Sound

namespace Sound

variable {dbs : Databases}

theorem collections (h : dbs.Sound) (database : String) :
    ∀ f ∈ dbs.collections database, f.2.Sound := by
  rw [Databases.collections]
  rcases ht : Table.get? dbs database with _ | t
  · simp
  · exact h _ (Table.mem_of_get? ht)

theorem collection? (h : dbs.Sound) {database name : String} {c : Collection}
    (hc : dbs.collection? database name = some c) : c.Sound :=
  h.collections database _ (Table.mem_of_get? hc)

/-- The collection of a name, or the new one that takes its place. -/
theorem collectionOrNew (h : dbs.Sound) (database name : String) :
    ((dbs.collection? database name).getD .new).Sound := by
  rcases hc : dbs.collection? database name with _ | c
  · exact .new
  · exact h.collection? hc

theorem hasIdentity (h : dbs.Sound) (database name : String) :
    ∀ d ∈ dbs.documents database name, (d.get? "_id").isSome := by
  rw [documents]
  rcases hc : dbs.collection? database name with _ | c
  · simp
  · exact (h.collection? hc).identified

theorem putCollection (h : dbs.Sound) (database name : String) {c : Collection} (hc : c.Sound) :
    (dbs.putCollection database name c).Sound := by
  intro e he f hf
  rcases Table.mem_put he with rfl | he
  · rcases Table.mem_put hf with rfl | hf
    · exact hc
    · exact h.collections database f hf
  · exact h e he f hf

theorem dropCollection (h : dbs.Sound) (database name : String) :
    (dbs.dropCollection database name).Sound := by
  intro e he f hf
  rcases Table.mem_put he with rfl | he
  · exact h.collections database f (List.mem_filter.mp hf).1
  · exact h e he f hf

/-! #### Commands -/

variable (database : String) (command : Document)

theorem create (h : dbs.Sound) : (dbs.create database command).1.Sound := by
  rw [Databases.create]
  split
  · exact h
  · split
    · exact h
    · exact h.putCollection _ _ .new

theorem drop (h : dbs.Sound) : (dbs.drop database command).1.Sound := by
  rw [Databases.drop]
  split
  · exact h
  · dsimp only
    split
    · exact h.dropCollection _ _
    · exact h

theorem createIndexes (h : dbs.Sound) : (dbs.createIndexes database command).1.Sound := by
  rw [Databases.createIndexes]
  dsimp only
  split
  · exact h
  · exact h.putCollection _ _ ((h.collectionOrNew _ _).addIndexes _)

theorem dropIndexes (h : dbs.Sound) : (dbs.dropIndexes database command).1.Sound := by
  rw [Databases.dropIndexes]
  split
  · exact h
  · next hdropped =>
    obtain ⟨name, -, hdropped⟩ := Except.bind_eq_ok.mp hdropped
    split at hdropped
    · cases hdropped
    · next c hc =>
      obtain ⟨after, hafter, hdropped⟩ := Except.bind_eq_ok.mp hdropped
      cases hdropped
      exact h.putCollection _ _ ((h.collection? hc).dropIndexes hafter)

theorem insert (h : dbs.Sound) (ids : Nat → ObjectId) :
    (dbs.insert ids database command).1.Sound := by
  rw [Databases.insert]
  dsimp only
  split
  · exact h
  · next items _ =>
    refine h.putCollection _ _ ((h.collectionOrNew _ _).insert _ _ _ fun d hd => ?_)
    rw [identified, List.mem_map] at hd
    obtain ⟨⟨v, i⟩, -, hd⟩ := hd
    obtain ⟨d', -, rfl⟩ := Option.map_eq_some_iff.mp hd
    exact isSome_withIdentity _ d'

theorem update [Host] (h : dbs.Sound) : (dbs.update database command).1.Sound := by
  rw [Databases.update]
  dsimp only
  split
  · exact h
  · split
    · exact h
    · next hc => exact h.putCollection _ _ ((h.collection? hc).update _ _ _)

theorem delete [Host] (h : dbs.Sound) : (dbs.delete database command).1.Sound := by
  rw [Databases.delete]
  dsimp only
  split
  · exact h
  · split
    · exact h
    · next hc => exact h.putCollection _ _ ((h.collection? hc).delete _ _)

end Sound

end Databases

/-! ### The store -/

namespace MemoryStore

/-- The states of a store: a new one, and what commands, transaction calls and switches make of
it. -/
inductive Reachable [Host] : MemoryStore → Prop
  | new (standalone : Bool) (batchSize latency : Nat) (ids : Nat → ObjectId) :
    Reachable ({ new standalone with latency, ids }.withBatchSize batchSize)
  | run {s : MemoryStore} (database : String) (command : Document) :
    Reachable s → Reachable (s.run database command).2
  | startTransaction {s : MemoryStore} : Reachable s → Reachable s.startTransaction.2
  | commitTransaction {s : MemoryStore} : Reachable s → Reachable s.commitTransaction.2
  | abortTransaction {s : MemoryStore} : Reachable s → Reachable s.abortTransaction.2
  | switch {s : MemoryStore} (online : Bool) : Reachable s → Reachable { s with online }
  | issueId {s : MemoryStore} : Reachable s → Reachable s.issueId.2

/-- A store with a collection of documents, which it delivers in batches of one. -/
def holding [Host] (collection : String) (docs : List Document) : MemoryStore :=
  (({ new false with latency := 0, ids := .numbered }.withBatchSize 1).run "app"
    [("insert", .string collection), ("documents", .array (docs.map .document))]).2

theorem reachable_holding [Host] (collection : String) (docs : List Document) :
    (holding collection docs).Reachable :=
  .run _ _ (.new false 1 0 .numbered)

/-- What holds of every state of a store. -/
structure Sound (s : MemoryStore) : Prop where
  databases : s.databases.Sound
  snapshot : s.snapshot.isSome = s.transactionActive
  snapshotSound : ∀ dbs, s.snapshot = some dbs → dbs.Sound
  remaining : ∀ e ∈ s.cursors, e.2.remaining ≠ []
  givenOut : ∀ e ∈ s.cursors, 1 ≤ e.1 ∧ e.1 < s.nextCursor
  distinct : (s.cursors.map (·.1)).Nodup
  nextCursor : 1 ≤ s.nextCursor

namespace Sound

variable {s : MemoryStore}

theorem changed (h : s.Sound) {change : Databases × Databases.Reply} (hdbs : change.1.Sound) :
    (s.changed change).1.Sound :=
  { h with databases := hdbs }

theorem opened (h : s.Sound) (result : Except CommandFailure ResultSet) :
    (s.opened result).1.Sound := by
  rcases result with f | r
  · exact h
  · rw [MemoryStore.opened]
    rcases s.openCursor_cases r with hopen | ⟨batch, rest, -, hrest, hopen⟩ <;> rw [hopen]
    · exact h
    · refine { h with remaining := ?_, givenOut := ?_, distinct := ?_, nextCursor := ?_ }
      · exact List.forall_mem_append.mpr ⟨h.remaining, by simpa using hrest⟩
      · intro e he
        rcases List.mem_append.mp he with he | he
        · exact ⟨(h.givenOut e he).1, Nat.lt_succ_of_lt (h.givenOut e he).2⟩
        · rw [List.mem_singleton.mp he]
          exact ⟨h.nextCursor, Nat.lt_succ_self _⟩
      · rw [List.map_append, List.nodup_append]
        refine ⟨h.distinct, by simp, ?_⟩
        -- the next cursor has a number above all that were given out
        rintro a ha b hb rfl
        obtain ⟨e, he, rfl⟩ := List.mem_map.mp ha
        have := (h.givenOut e he).2
        simp only [List.map_cons, List.map_nil, List.mem_singleton] at hb
        omega
      · exact Nat.le_succ_of_le h.nextCursor

theorem getMore (h : s.Sound) (command : Document) : (s.getMore command).1.Sound := by
  rcases s.getMore_cases command with ⟨f, hmore⟩ | ⟨id, c, size, -, ⟨-, hmore⟩ | ⟨hrest, hmore⟩⟩ <;>
    rw [hmore]
  · exact h
  · have hsub : (s.cursors.filter (·.1 != id)).Sublist s.cursors := List.filter_sublist
    exact { h with
      remaining := fun e he => h.remaining e (hsub.subset he)
      givenOut := fun e he => h.givenOut e (hsub.subset he)
      distinct := h.distinct.sublist (hsub.map _) }
  · refine { h with remaining := ?_, givenOut := ?_, distinct := ?_ }
    · intro e he
      obtain ⟨⟨n, o⟩, ho, rfl⟩ := List.mem_map.mp he
      dsimp only
      split
      · exact hrest
      · exact h.remaining _ ho
    · intro e he
      obtain ⟨⟨n, o⟩, ho, rfl⟩ := List.mem_map.mp he
      dsimp only
      split <;> exact h.givenOut (n, o) ho
    · dsimp only
      rw [List.map_map]
      refine (List.map_congr_left fun e _ => ?_) ▸ h.distinct
      dsimp only [Function.comp]
      split <;> rfl

theorem dispatch [Host] (h : s.Sound) (database verb : String) (command : Document) :
    (s.dispatch database verb command).1.Sound := by
  unfold MemoryStore.dispatch
  split
  · exact h
  · exact h.changed (h.databases.create database command)
  · exact h.changed (h.databases.drop database command)
  · exact h.changed (h.databases.createIndexes database command)
  · exact h.changed (h.databases.dropIndexes database command)
  · exact { h with databases := h.databases.insert database command _ }
  · exact h.changed (h.databases.update database command)
  · exact h.changed (h.databases.delete database command)
  · exact h.opened _
  · exact h.opened _
  · exact h
  · exact h.getMore command
  · exact h

theorem run [Host] (h : s.Sound) (database : String) (command : Document) :
    (s.run database command).2.Sound := by
  by_cases hs : s.Serving
  · rcases command with _ | ⟨⟨verb, v⟩, rest⟩
    · rwa [run_nil]
    · rw [run_of_serving hs]
      exact h.dispatch database verb _
  · rwa [run_of_not_serving hs]

theorem startTransaction (h : s.Sound) : s.startTransaction.2.Sound := by
  rw [MemoryStore.startTransaction]
  split
  · exact h
  split
  · exact h
  · exact { h with
      snapshot := rfl
      snapshotSound := fun dbs hdbs => by cases hdbs; exact h.databases }

theorem commitTransaction (h : s.Sound) : s.commitTransaction.2.Sound := by
  rw [MemoryStore.commitTransaction]
  split
  · exact h
  split
  · exact h
  split
  · exact h
  · exact { h with snapshot := rfl, snapshotSound := fun _ hdbs => by cases hdbs }

theorem abortTransaction (h : s.Sound) : s.abortTransaction.2.Sound := by
  rw [MemoryStore.abortTransaction]
  split
  · exact h
  · refine { h with databases := ?_, snapshot := rfl, snapshotSound := fun _ hdbs => by cases hdbs }
    rcases hsnapshot : s.snapshot with _ | dbs
    · exact h.databases
    · exact h.snapshotSound dbs hsnapshot

theorem snapshot_of_idle (h : s.Sound) (hidle : s.transactionActive = false) :
    s.snapshot = none := by
  rw [← Option.not_isSome_iff_eq_none, h.snapshot, hidle]
  exact Bool.false_ne_true

end Sound

theorem sound_of_reachable [Host] {s : MemoryStore} (h : s.Reachable) : s.Sound := by
  induction h with
  | new standalone batchSize latency ids =>
    exact {
      databases := by simp [Databases.Sound, withBatchSize, new]
      snapshot := rfl
      snapshotSound := fun _ hdbs => by cases hdbs
      remaining := fun _ he => by cases he
      givenOut := fun _ he => by cases he
      distinct := .nil
      nextCursor := Nat.le_refl 1 }
  | run database command _ ih => exact ih.run database command
  | startTransaction _ ih => exact ih.startTransaction
  | commitTransaction _ ih => exact ih.commitTransaction
  | abortTransaction _ ih => exact ih.abortTransaction
  | switch online _ ih => exact { ih with }
  | issueId _ ih => exact { ih with }

/-- In every state of a store, each collection, of the databases as of the snapshot, has the
identity index first and distinct index names, an identifier in every document, and under each
unique index different keys at different positions. Open cursors have documents left and a number
below the next one, and there is a snapshot just as long as a transaction is open. -/
theorem invariant_of_reachable [Host] {s : MemoryStore} (h : s.Reachable) :
    (∀ dbs, dbs = s.databases ∨ s.snapshot = some dbs →
      ∀ database collections, (database, collections) ∈ dbs → ∀ name c, (name, c) ∈ collections →
        (c.indexes.head? = some ⟨"_id_", [("_id", .int 1)], true⟩ ∧
          (c.indexes.map (·.name)).Nodup) ∧
        (∀ d ∈ c.documents, (d.get? "_id").isSome) ∧
        ∀ i ∈ c.indexes, i.unique = true →
          ∀ m n (hm : m < c.documents.length) (hn : n < c.documents.length), m ≠ n →
            ∃ field ∈ i.fields,
              ((Document.getPath? c.documents[m] field).getD .null).equal
                ((Document.getPath? c.documents[n] field).getD .null) = false) ∧
    (∀ id c, (id, c) ∈ s.cursors → c.remaining ≠ [] ∧ 1 ≤ id ∧ id < s.nextCursor) ∧
    (s.snapshot.isSome = true ↔ s.inTransaction = true) := by
  have hs := sound_of_reachable h
  refine ⟨?_, fun id c hc => ⟨hs.remaining _ hc, hs.givenOut _ hc⟩, ?_⟩
  · intro dbs hdbs database collections he name c hf
    have hc : c.Sound := by
      rcases hdbs with rfl | hdbs
      · exact hs.databases _ he _ hf
      · exact hs.snapshotSound dbs hdbs _ he _ hf
    refine ⟨⟨hc.identity, hc.names⟩, hc.identified, fun i hi hunique m n hm hn hmn => ?_⟩
    exact Index.tells_iff.mp ((hc.separated i hi hunique).tells hm hn hmn)
  · rw [hs.snapshot, inTransaction]

/-- An insert in a transaction that stops at a document whose identifier is taken. -/
theorem invariant_of_reachable_insert :
    let s := (({ new false with latency := 0, ids := .numbered }.withBatchSize 1).startTransaction.2.run
      "app" [("insert", .string "t"), ("documents", .array [.document [("_id", .int 1)],
        .document [("_id", .long 1)], .document [("_id", .int 2)]])]).2
    s.databases.documents "app" "t" = [[("_id", .int 1)]] ∧
      (s.snapshot.isSome = true ↔ s.inTransaction = true) := by
  intro s
  have hs : s.Reachable := .run _ _ (.startTransaction (.new false 1 0 .numbered))
  exact ⟨rfl, (invariant_of_reachable hs).2.2⟩

end MemoryStore

end SqlGateway
