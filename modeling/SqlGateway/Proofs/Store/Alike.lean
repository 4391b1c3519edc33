import SqlGateway.Proofs.Plan.Writes
import SqlGateway.Proofs.Store.Invariant

/-! Stores that hold the same. What a store keeps for itself (how large its batches are, which
cursors are open, how many cursors and identifiers it has given out) has no influence on what
it answers to a plain command, nor on what it holds afterwards. -/

namespace SqlGateway

namespace Databases

/-- Documents that have identifiers need none of the store. -/
theorem identified_congr {items : List Value}
    (h : ∀ d, .document d ∈ items → (Fields.get? d "_id").isSome) (ids ids' : Nat → ObjectId) :
    identified ids items = identified ids' items := by
  refine List.map_congr_left fun (v, i) hv => ?_
  obtain ⟨hi, hv⟩ := List.mem_zipIdx' hv
  have hmem : v ∈ items := hv ▸ List.getElem_mem hi
  cases v with
  | document d =>
    have hd := h d hmem
    exact congrArg some ((withIdentity_of_has hd _).trans (withIdentity_of_has hd _).symm)
  | _ => rfl

theorem insert_congr (dbs : Databases) {command : Document}
    (h : ∀ items, command.get? "documents" = some (.array items) →
      ∀ d, .document d ∈ items → (Fields.get? d "_id").isSome)
    (ids ids' : Nat → ObjectId) (database : String) :
    dbs.insert ids database command = dbs.insert ids' database command := by
  rw [insert, insert]
  dsimp only
  split
  · rfl
  · next name items hparts =>
    obtain ⟨name', -, hparts⟩ := Except.bind_eq_ok.mp hparts
    obtain ⟨items', hitems, hparts⟩ := Except.bind_eq_ok.mp hparts
    cases hparts
    rw [CommandField.array] at hitems
    split at hitems
    · next found hfound =>
      cases hitems
      rw [identified_congr (h items hfound) ids ids']
    · cases hitems

end Databases

namespace MemoryStore

/-- Whether two stores hold the same and are in the same transaction, and have numbers left for
further cursors. -/
structure Alike (room : Nat) (s t : MemoryStore) : Prop where
  databases : t.databases = s.databases
  snapshot : t.snapshot = s.snapshot
  transactionActive : t.transactionActive = s.transactionActive
  standalone : t.standalone = s.standalone
  online : t.online = s.online
  sound : s.Sound ∧ t.Sound
  room : s.nextCursor + room ≤ 2 ^ 63 ∧ t.nextCursor + room ≤ 2 ^ 63

namespace Alike

variable {room : Nat} {s t : MemoryStore}

theorem refl (hs : s.Sound) (hroom : s.nextCursor + room ≤ 2 ^ 63) : Alike room s s :=
  ⟨rfl, rfl, rfl, rfl, rfl, ⟨hs, hs⟩, ⟨hroom, hroom⟩⟩

theorem mono {room' : Nat} (h : Alike room s t) (hle : room' ≤ room) : Alike room' s t :=
  { h with room := ⟨Nat.le_trans (Nat.add_le_add_left hle _) h.room.1,
      Nat.le_trans (Nat.add_le_add_left hle _) h.room.2⟩ }

theorem serving_iff (h : Alike room s t) : t.Serving ↔ s.Serving := by
  rw [Serving, Serving, inTransaction, inTransaction, h.online, h.standalone, h.transactionActive]

/-! ### Transactions -/

theorem startTransaction (h : Alike room s t) :
    t.startTransaction.1 = s.startTransaction.1 ∧
      Alike room s.startTransaction.2 t.startTransaction.2 := by
  have hsound := And.intro h.sound.1.startTransaction h.sound.2.startTransaction
  unfold MemoryStore.startTransaction inTransaction at hsound ⊢
  rw [h.online, h.transactionActive] at *
  by_cases honline : (!s.online) = true
  · simp only [if_pos honline]
    exact ⟨trivial, h⟩
  by_cases hactive : s.transactionActive = true
  · simp only [if_neg honline, if_pos hactive]
    exact ⟨trivial, h⟩
  · simp only [if_neg honline, if_neg hactive] at hsound ⊢
    exact ⟨trivial, { h with
      snapshot := congrArg some h.databases, transactionActive := rfl, online := rfl
      sound := hsound }⟩

theorem commitTransaction (h : Alike room s t) :
    t.commitTransaction.1 = s.commitTransaction.1 ∧
      Alike room s.commitTransaction.2 t.commitTransaction.2 := by
  have hsound := And.intro h.sound.1.commitTransaction h.sound.2.commitTransaction
  unfold MemoryStore.commitTransaction inTransaction at hsound ⊢
  rw [h.online, h.transactionActive, h.standalone] at *
  by_cases honline : (!s.online) = true
  · simp only [if_pos honline]
    exact ⟨trivial, h⟩
  by_cases hactive : (!s.transactionActive) = true
  · simp only [if_neg honline, if_pos hactive]
    exact ⟨trivial, h⟩
  by_cases hstandalone : s.standalone = true
  · simp only [if_neg honline, if_neg hactive, if_pos hstandalone]
    exact ⟨trivial, h⟩
  · simp only [if_neg honline, if_neg hactive, if_neg hstandalone] at hsound ⊢
    exact ⟨trivial, { h with
      snapshot := rfl, transactionActive := rfl, standalone := rfl, online := rfl
      sound := hsound }⟩

theorem abortTransaction (h : Alike room s t) :
    Alike room s.abortTransaction.2 t.abortTransaction.2 := by
  have hsound := And.intro h.sound.1.abortTransaction h.sound.2.abortTransaction
  unfold MemoryStore.abortTransaction inTransaction at hsound ⊢
  rw [h.transactionActive] at *
  by_cases hactive : (!s.transactionActive) = true
  · simp only [if_pos hactive]
    exact h
  · simp only [if_neg hactive] at hsound ⊢
    have hdatabases : t.snapshot.getD t.databases = s.snapshot.getD s.databases := by
      rw [h.snapshot, h.databases]
    exact { h with
      databases := hdatabases, snapshot := rfl, transactionActive := rfl, sound := hsound }

/-! ### Commands -/

theorem run_of_not_serving [Host] (h : Alike room s t) (hserving : ¬s.Serving) (database : String)
    (command : Document) :
    (t.run database command).1 = (s.run database command).1 ∧
      Alike room (s.run database command).2 (t.run database command).2 := by
  have hserving' : ¬t.Serving := fun h' => hserving (h.serving_iff.mp h')
  rw [MemoryStore.run_of_not_serving hserving, MemoryStore.run_of_not_serving hserving']
  refine ⟨?_, h⟩
  unfold MemoryStore.run inTransaction
  rw [h.online, h.transactionActive, h.standalone]
  by_cases honline : (!s.online) = true
  · simp only [if_pos honline]
  · simp only [if_neg honline]
    rcases command with _ | ⟨⟨verb, v⟩, rest⟩
    · rfl
    · have hrefused : (s.standalone && s.transactionActive) = true := by
        rw [← Bool.not_eq_false]
        exact fun h' => hserving ⟨by simpa using honline, h'⟩
      simp only [if_pos hrefused]

/-- A change that databases alone decide. -/
theorem changed (h : Alike room s t) (change : Databases → Databases × Databases.Reply)
    (hsound : (s.changed (change s.databases)).1.Sound ∧ (t.changed (change t.databases)).1.Sound) :
    (t.changed (change t.databases)).2 = (s.changed (change s.databases)).2 ∧
      Alike room (s.changed (change s.databases)).1 (t.changed (change t.databases)).1 := by
  have heq : change t.databases = change s.databases := by rw [h.databases]
  have hreply := congrArg Prod.snd heq
  have hdatabases := congrArg Prod.fst heq
  exact ⟨hreply, { h with databases := hdatabases, sound := hsound }⟩

theorem insert (h : Alike room s t) {database : String} {command : Document}
    (hidentified : ∀ items, command.get? "documents" = some (.array items) →
      ∀ d, .document d ∈ items → (Fields.get? d "_id").isSome)
    (hsound : (s.insert database command).1.Sound ∧ (t.insert database command).1.Sound) :
    (t.insert database command).2 = (s.insert database command).2 ∧
      Alike room (s.insert database command).1 (t.insert database command).1 := by
  have heq (ids ids' : Nat → ObjectId) :
      t.databases.insert ids database command = s.databases.insert ids' database command := by
    rw [h.databases, s.databases.insert_congr hidentified ids ids']
  have hreply (ids ids' : Nat → ObjectId) := congrArg Prod.snd (heq ids ids')
  have hdatabases (ids ids' : Nat → ObjectId) := congrArg Prod.fst (heq ids ids')
  exact ⟨hreply _ _, { h with databases := hdatabases _ _, sound := hsound }⟩

theorem dispatch [Host] (h : Alike room s t) (database : String) {c : Command} (hc : c.Plain) :
    (t.dispatch database c.verb.name c.document).2 = (s.dispatch database c.verb.name c.document).2 ∧
      Alike room (s.dispatch database c.verb.name c.document).1
        (t.dispatch database c.verb.name c.document).1 := by
  have hsound := And.intro (h.sound.1.dispatch database c.verb.name c.document)
    (h.sound.2.dispatch database c.verb.name c.document)
  have hcursor := hc.cursorless
  have hidentified := hc.identified
  obtain ⟨verb, collection, document⟩ := c
  dsimp only at *
  cases verb with
  | find => cases hcursor
  | aggregate => cases hcursor
  | distinct => exact ⟨by change Databases.distinct _ _ _ = _; rw [h.databases]; rfl, h⟩
  | insert => exact h.insert (hidentified rfl) hsound
  | update => exact h.changed (fun dbs => dbs.update database document) hsound
  | delete => exact h.changed (fun dbs => dbs.delete database document) hsound
  | create => exact h.changed (fun dbs => dbs.create database document) hsound
  | drop => exact h.changed (fun dbs => dbs.drop database document) hsound
  | createIndexes => exact h.changed (fun dbs => dbs.createIndexes database document) hsound
  | dropIndexes => exact h.changed (fun dbs => dbs.dropIndexes database document) hsound

/-- A plain command is answered alike, and leaves alike what it finds alike. -/
theorem run [Host] (h : Alike room s t) (database : String) {c : Command} (hc : c.Plain) :
    (t.run database c.document).1 = (s.run database c.document).1 ∧
      Alike room (s.run database c.document).2 (t.run database c.document).2 := by
  by_cases hserving : s.Serving
  · obtain ⟨hreply, halike⟩ := h.dispatch database hc
    obtain ⟨v, rest, hdoc⟩ := hc.headed
    rw [hdoc] at hreply halike ⊢
    rw [run_of_serving hserving, run_of_serving (h.serving_iff.mpr hserving), hreply]
    exact ⟨rfl, halike⟩
  · exact h.run_of_not_serving hserving database c.document

/-! ### What a command comes to -/

theorem met [Host] (h : Alike room s t) (database : String) (command : Document) :
    t.met database command = s.met database command := by
  rw [MemoryStore.met, MemoryStore.met, inTransaction, inTransaction, h.online, h.standalone,
    h.transactionActive, h.databases]

theorem comesBack [Host] (h : Alike room s t) (database : String) (command : Document) :
    t.comesBack database command = s.comesBack database command := by
  rw [MemoryStore.comesBack, MemoryStore.comesBack, h.met]

/-! ### Cursors -/

/-- Numbers may be skipped. -/
theorem sound_skip (hs : s.Sound) {next : Nat} (hle : s.nextCursor ≤ next) :
    Sound { s with nextCursor := next } :=
  { hs with
    givenOut := fun e he => ⟨(hs.givenOut e he).1, Nat.lt_of_lt_of_le (hs.givenOut e he).2 hle⟩
    nextCursor := Nat.le_trans hs.nextCursor hle }

/-- Which number either store gives out next makes no difference. -/
theorem skip (h : Alike (room + 1) s t) {next next' : Nat}
    (hnext : s.nextCursor ≤ next ∧ next ≤ s.nextCursor + 1)
    (hnext' : t.nextCursor ≤ next' ∧ next' ≤ t.nextCursor + 1) :
    Alike room { s with nextCursor := next } { t with nextCursor := next' } := by
  have hroom := h.room
  exact { h with
    sound := ⟨sound_skip h.sound.1 hnext.1, sound_skip h.sound.2 hnext'.1⟩
    room := ⟨by dsimp only; omega, by dsimp only; omega⟩ }

end Alike

end MemoryStore

end SqlGateway
