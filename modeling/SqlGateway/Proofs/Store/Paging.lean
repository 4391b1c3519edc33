import SqlGateway.Proofs.Store.Cursors
import SqlGateway.Store.Recording

/-! Paging through a result. What is left under a cursor changes only when a batch of it
is fetched, which takes the batch off its front; whatever else happens to the store, the
batches in order are a prefix of the result as it was when the command ran. -/

namespace SqlGateway

namespace Databases

/-- The result of a command that is answered with a cursor. -/
def retrieve [Host] (dbs : Databases) (verb : String) :
    (database : String) → (command : Document) → Except CommandFailure ResultSet :=
  if verb = "find" then dbs.find else dbs.aggregate

end Databases

/-- What can happen to a store between two batches of a cursor. -/
inductive StoreEvent where
  | call (c : StoreCall)
  | switch (online : Bool)
  | issueId

namespace MemoryStore

open Response

/-- The state after an event. -/
def after [Host] (s : MemoryStore) : StoreEvent → MemoryStore
  | .call (.run database command) => (s.run database command).2
  | .call .startTransaction => s.startTransaction.2
  | .call .commitTransaction => s.commitTransaction.2
  | .call .abortTransaction => s.abortTransaction.2
  | .call (.ping timeout) => (s.ping timeout).2
  | .switch online => { s with online }
  | .issueId => s.issueId.2

/-- The cursor that a command asks for more of. -/
def moreOf? : Document → Option Int
  | ("getMore", v) :: _ => v.integer?
  | _ => none

/-- The batch of a cursor that an event delivers. -/
def delivered? [Host] (s : MemoryStore) (id : Int) : StoreEvent → Option Batch
  | .call (.run database command) =>
    if moreOf? command = some id then
      (s.run database command).1.toOption.bind fun answer => (Batch.next answer).toOption
    else none
  | _ => none

/-- The batches of a cursor that events deliver one after another. -/
def deliveries [Host] (id : Int) : MemoryStore → List StoreEvent → List Batch
  | _, [] => []
  | s, e :: es => (s.delivered? id e).toList ++ deliveries id (s.after e) es

/-- The documents that are left under the cursor with an id; none if there is no such cursor. -/
def leftUnder : List (Nat × OpenCursor) → Int → List Document
  | [], _ => []
  | (n, c) :: cursors, id => if (n : Int) = id then c.remaining else leftUnder cursors id

/-! ### What is left -/

section

variable {cursors : List (Nat × OpenCursor)} {id : Int} {n : Nat}

theorem leftUnder_of_not_mem (h : ∀ e ∈ cursors, (e.1 : Int) ≠ id) : leftUnder cursors id = [] := by
  induction cursors with
  | nil => rfl
  | cons e cursors ih =>
    rw [leftUnder, if_neg (h e List.mem_cons_self), ih fun e' he' => h e' (List.mem_cons_of_mem _ he')]

theorem leftUnder_of_find {c : OpenCursor}
    (h : cursors.find? (fun (n, _) => (n : Int) == id) = some (n, c)) :
    leftUnder cursors id = c.remaining := by
  induction cursors with
  | nil => cases h
  | cons e cursors ih =>
    rw [List.find?_cons] at h
    rw [leftUnder]
    split at h
    · next hid =>
      cases h
      rw [if_pos (by simpa using hid)]
    · next hid => rw [if_neg (by simpa using hid), ih h]

/-- A new cursor holds its documents under its own number. -/
theorem leftUnder_append_self (h : ∀ e ∈ cursors, (e.1 : Int) ≠ n) (c : OpenCursor) :
    leftUnder (cursors ++ [(n, c)]) n = c.remaining := by
  induction cursors with
  | nil => simp [leftUnder]
  | cons e cursors ih =>
    rw [List.cons_append, leftUnder, if_neg (h e List.mem_cons_self)]
    exact ih fun e' he' => h e' (List.mem_cons_of_mem _ he')

theorem leftUnder_append_of_ne (h : (n : Int) ≠ id) (c : OpenCursor) :
    leftUnder (cursors ++ [(n, c)]) id = leftUnder cursors id := by
  induction cursors with
  | nil => simp [leftUnder, h]
  | cons e cursors ih => simp [leftUnder, ih]

theorem leftUnder_filter_of_ne (h : (n : Int) ≠ id) :
    leftUnder (cursors.filter (·.1 != n)) id = leftUnder cursors id := by
  induction cursors with
  | nil => rfl
  | cons e cursors ih =>
    by_cases he : e.1 = n
    · simp [leftUnder, he, h, ih]
    · simp [leftUnder, he, ih]

/-- Reading one cursor on changes what is left under its own number. -/
theorem leftUnder_map_self {c : OpenCursor} (h : (n, c) ∈ cursors) (rest : List Document) :
    leftUnder (cursors.map fun (m, o) => if m = n then (m, ⟨o.ns, rest⟩) else (m, o)) n = rest := by
  induction cursors with
  | nil => cases h
  | cons e cursors ih =>
    by_cases he : e.1 = n
    · simp [leftUnder, he]
    · rcases List.mem_cons.mp h with rfl | h
      · exact absurd rfl he
      · have hne : (e.1 : Int) ≠ n := by omega
        simpa [leftUnder, he, hne] using ih h

theorem filter_map_of_ne (rest : List Document) :
    (cursors.map fun (m, o) => if m = n then (m, ⟨o.ns, rest⟩) else (m, o)).filter (·.1 != n) =
      cursors.filter (·.1 != n) := by
  induction cursors with
  | nil => rfl
  | cons e cursors ih =>
    by_cases he : e.1 = n
    · simp [he, ih]
    · simp [he, ih]

end

theorem cursor?_eq_some {s : MemoryStore} {id : Int} {n : Nat} {c : OpenCursor}
    (h : s.cursor? id = some (n, c)) :
    (n : Int) = id ∧ (n, c) ∈ s.cursors ∧ leftUnder s.cursors id = c.remaining :=
  ⟨by simpa using List.find?_some h, List.mem_of_find?_eq_some h, leftUnder_of_find h⟩

/-- Nothing is left under a number only if no cursor has it. -/
theorem cursor?_eq_none_of_left {s : MemoryStore} (hs : s.Sound) {id : Int}
    (h : leftUnder s.cursors id = []) : s.cursor? id = none := by
  cases hc : s.cursor? id with
  | none => rfl
  | some e =>
    obtain ⟨-, hmem, hleft⟩ := cursor?_eq_some hc
    exact absurd (hleft.symm.trans h) (hs.remaining _ hmem)

/-- The numbers of cursors have been given out. -/
theorem number_ne {s : MemoryStore} (hs : s.Sound) {id : Int}
    (hid : id ≤ 0 ∨ (s.nextCursor : Int) ≤ id) : ∀ e ∈ s.cursors, (e.1 : Int) ≠ id := by
  intro e he
  have := hs.givenOut e he
  omega

/-! ### Opening and reading on -/

/-- Whether a store comes from another by opening a cursor over the rest of a result; zero stands
for none, if there is no rest. -/
structure OpensCursor (s t : MemoryStore) (id : Nat) (rest : List Document) : Prop where
  left : leftUnder t.cursors id = rest
  named : id = 0 ↔ rest = []
  given : id ≤ s.nextCursor ∧ id < t.nextCursor
  next : s.nextCursor ≤ t.nextCursor ∧ t.nextCursor ≤ s.nextCursor + 1
  others : { t with cursors := t.cursors.filter (·.1 != id) } =
    { s with nextCursor := t.nextCursor }

theorem filter_of_number {s : MemoryStore} (hs : s.Sound) {n : Nat}
    (hn : n = 0 ∨ s.nextCursor ≤ n) : s.cursors.filter (·.1 != n) = s.cursors := by
  rw [List.filter_eq_self]
  intro e he
  have := hs.givenOut e he
  have hne : e.1 ≠ n := by omega
  simpa using hne

/-- A first batch is the front of the result, and the rest is left under a cursor. -/
theorem openCursor_opens {s : MemoryStore} (hs : s.Sound) (r : ResultSet) :
    ∃ (batch rest : List Document) (id : Nat),
      (s.openCursor r).2 = batchReply "firstBatch" batch id r.ns ∧ batch ++ rest = r.documents ∧
      OpensCursor s (s.openCursor r).1 id rest := by
  have hnext := hs.nextCursor
  rcases s.openCursor_cases r with hopen | ⟨batch, rest, hwhole, hrest, hopen⟩ <;> rw [hopen]
  · refine ⟨r.documents, [], 0, rfl, List.append_nil _, ?_, iff_of_true rfl rfl,
      ⟨Nat.zero_le _, hnext⟩, ⟨Nat.le_refl _, Nat.le_succ _⟩, ?_⟩
    · exact leftUnder_of_not_mem (number_ne hs (.inl (Int.le_refl 0)))
    · rw [filter_of_number hs (.inl rfl)]
  · refine ⟨batch, rest, s.nextCursor, rfl, hwhole, ?_, iff_of_false (by omega) hrest,
      ⟨Nat.le_refl _, Nat.lt_succ_self _⟩, ⟨Nat.le_succ _, Nat.le_refl _⟩, ?_⟩
    · exact leftUnder_append_self (number_ne hs (.inr (Int.le_refl _))) _
    · dsimp only
      rw [List.filter_append, filter_of_number hs (.inr (Nat.le_refl _))]
      simp

/-- Opening a cursor leaves what was left under numbers that have been given out. -/
theorem openCursor_left_of_lt {s : MemoryStore} (r : ResultSet) {id : Int}
    (hid : id < s.nextCursor) :
    leftUnder (s.openCursor r).1.cursors id = leftUnder s.cursors id ∧
      s.nextCursor ≤ (s.openCursor r).1.nextCursor := by
  rcases s.openCursor_cases r with h | ⟨batch, rest, -, -, h⟩ <;> rw [h]
  · exact ⟨rfl, Nat.le_refl _⟩
  · exact ⟨leftUnder_append_of_ne (by omega) _, Nat.le_succ _⟩

theorem moreParts_cursor {s : MemoryStore} {command : Document} {n size : Nat} {c : OpenCursor}
    (h : s.moreParts command = .ok ((n, c), size)) :
    ∃ id, (command.get? "getMore").bind Value.integer? = some id ∧ s.cursor? id = some (n, c) := by
  rw [moreParts] at h
  split at h
  · cases h
  · next id hid =>
    obtain ⟨size', -, h⟩ := Except.bind_eq_ok.mp h
    dsimp only at h
    split at h
    · cases h
    · next hfind =>
      cases h
      exact ⟨id, hid, hfind⟩

/-- Whether a store comes from another by taking a batch off the front of what is left under a
cursor. -/
structure TakesBatch (s t : MemoryStore) (n : Nat) (batch rest : List Document) : Prop where
  same : t = { s with cursors := t.cursors }
  before : leftUnder s.cursors n = batch ++ rest
  after : leftUnder t.cursors n = rest
  others : t.cursors.filter (·.1 != n) = s.cursors.filter (·.1 != n)

theorem TakesBatch.left_of_ne {s t : MemoryStore} {n : Nat} {batch rest : List Document}
    (h : TakesBatch s t n batch rest) {id : Int} (hid : id ≠ n) :
    leftUnder t.cursors id = leftUnder s.cursors id := by
  rw [← leftUnder_filter_of_ne hid.symm, h.others, leftUnder_filter_of_ne hid.symm]

/-- Reading a cursor on takes the batch off the front of what is left under it; the reply names the
cursor again as long as something is left. -/
theorem getMore_takes (s : MemoryStore) (command : Document) :
    (∃ f, s.getMore command = (s, .error f)) ∨
      ∃ (t : MemoryStore) (batch rest : List Document) (n id' : Nat) (ns : String),
        s.getMore command = (t, .ok (batchReply "nextBatch" batch id' ns)) ∧
        (command.get? "getMore").bind Value.integer? = some (n : Int) ∧
        TakesBatch s t n batch rest ∧ id' = if rest = [] then 0 else n := by
  rcases s.getMore_cases command with herror | ⟨n, c, size, hparts, hmore⟩
  · exact .inl herror
  obtain ⟨id, hid, hcursor⟩ := moreParts_cursor hparts
  obtain ⟨rfl, hmem, hleft⟩ := cursor?_eq_some hcursor
  rw [← List.take_append_drop size c.remaining] at hleft
  right
  rcases hmore with ⟨hrest, hmore⟩ | ⟨hrest, hmore⟩
  · refine ⟨_, _, _, n, 0, _, hmore, hid, ⟨rfl, hleft, ?_, ?_⟩, (if_pos hrest).symm⟩
    · rw [hrest]
      refine leftUnder_of_not_mem fun e he => ?_
      have hne : e.1 ≠ n := by simpa using (List.mem_filter.mp he).2
      omega
    · simp [List.filter_filter]
  · refine ⟨_, _, _, n, n, _, hmore, hid, ⟨rfl, hleft, ?_, ?_⟩, (if_neg hrest).symm⟩
    · exact leftUnder_map_self hmem _
    · exact filter_map_of_ne _

theorem cursor?_of_left {s : MemoryStore} {id : Int} (h : leftUnder s.cursors id ≠ []) :
    ∃ e, s.cursor? id = some e := by
  cases hc : s.cursor? id with
  | some e => exact ⟨e, rfl⟩
  | none =>
    refine absurd (leftUnder_of_not_mem fun e he => ?_) h
    simpa using List.find?_eq_none.mp hc e he

/-- A batch comes as long as something is left. -/
theorem getMore_of_left {s : MemoryStore} {command : Document} {id : Nat} {size : Option Nat}
    (hid : (command.get? "getMore").bind Value.integer? = some (id : Int))
    (hsize : CommandField.count? command "batchSize" = .ok size)
    (hleft : leftUnder s.cursors id ≠ []) :
    ∃ t batch rest ns, s.getMore command =
        (t, .ok (batchReply "nextBatch" batch ((if rest = [] then 0 else id : Nat)) ns)) ∧
      TakesBatch s t id batch rest := by
  obtain ⟨e, he⟩ := cursor?_of_left hleft
  have hparts : s.moreParts command = .ok (e, size.getD s.batchSize) := by
    rw [moreParts, hid]
    dsimp only
    rw [hsize]
    dsimp only [bind, Except.bind]
    rw [he]
    rfl
  rcases s.getMore_takes command with ⟨f, hf⟩ | ⟨t, batch, rest, n, id', ns, ht, hn, htakes, rfl⟩
  · rw [getMore, hparts] at hf
    dsimp only at hf
    split at hf <;> cases congrArg Prod.snd hf
  · obtain rfl : n = id := by
      have := Option.some.inj (hn.symm.trans hid)
      omega
    exact ⟨t, batch, rest, ns, ht, htakes⟩

/-! ### Events -/

/-- What a command that asks for more of a cursor does: it brings nothing and changes nothing, or it
brings the next batch. -/
theorem run_more [Host] {s : MemoryStore} (database : String) {command : Document} {id : Nat}
    (hid : id < 2 ^ 63) (hmore : moreOf? command = some (id : Int)) :
    ((s.run database command).2 = s ∧
        ∀ answer, (s.run database command).1 = .ok answer → ∀ b, Batch.next answer ≠ .ok b) ∨
      ∃ answer batch rest, (s.run database command).1 = .ok answer ∧
        Batch.next answer = .ok ⟨if rest = [] then 0 else id, batch⟩ ∧
        TakesBatch s (s.run database command).2 id batch rest := by
  by_cases hserving : s.Serving
  · unfold moreOf? at hmore
    split at hmore
    · next v rest =>
      rw [run_of_serving hserving]
      change (((s.getMore _).1 = s ∧ _) ∨ _)
      rcases s.getMore_takes (("getMore", v) :: rest) with
        ⟨f, hf⟩ | ⟨t, batch, rest', n, id', ns, ht, hn, htakes, hid'⟩
      · left
        rw [hf]
        refine ⟨rfl, fun answer hanswer b => ?_⟩
        change Except.ok (response (s.getMore _).2) = _ at hanswer
        rw [hf] at hanswer
        cases hanswer
        exact not_batch_of_failure
      · obtain rfl : n = id := by
          have hcommand : (Fields.get? (("getMore", v) :: rest) "getMore").bind Value.integer? =
              some (id : Int) := hmore
          have := Option.some.inj (hn.symm.trans hcommand)
          omega
        right
        refine ⟨_, batch, rest', rfl, ?_, ?_⟩
        · change Batch.next (response (s.getMore _).2) = _
          rw [ht, Batch.next, read_batchReply (by decide) batch (by split at hid' <;> omega) ns, hid']
          split <;> rfl
        · change TakesBatch s (s.getMore _).1 n batch rest'
          rw [ht]
          exact htakes
    · cases hmore
  · left
    refine ⟨run_of_not_serving hserving database command, fun answer hanswer b => ?_⟩
    obtain ⟨f, rfl⟩ := answer_of_not_serving hserving hanswer
    exact not_batch_of_failure

theorem dispatch_left [Host] {s : MemoryStore} (database verb : String) (command : Document) {id : Int}
    (hid : id < s.nextCursor)
    (hmore : verb = "getMore" → (command.get? "getMore").bind Value.integer? ≠ some id) :
    leftUnder (s.dispatch database verb command).1.cursors id = leftUnder s.cursors id ∧
      s.nextCursor ≤ (s.dispatch database verb command).1.nextCursor := by
  have hopened (result : Except CommandFailure ResultSet) :
      leftUnder (s.opened result).1.cursors id = leftUnder s.cursors id ∧
        s.nextCursor ≤ (s.opened result).1.nextCursor := by
    cases result with
    | error f => exact ⟨rfl, Nat.le_refl _⟩
    | ok r => exact openCursor_left_of_lt r hid
  unfold dispatch
  split
  case h_9 => exact hopened _
  case h_10 => exact hopened _
  case h_12 =>
    rcases s.getMore_takes command with ⟨f, hf⟩ | ⟨t, _, _, n, _, _, ht, hn, htakes, -⟩
    · rw [hf]
      exact ⟨rfl, Nat.le_refl _⟩
    · rw [ht]
      refine ⟨htakes.left_of_ne fun h => hmore rfl (h ▸ hn), ?_⟩
      exact Nat.le_of_eq (congrArg nextCursor htakes.same).symm
  all_goals exact ⟨rfl, Nat.le_refl _⟩

/-- No other command changes what is left under a cursor. -/
theorem run_left [Host] {s : MemoryStore} (database : String) {command : Document} {id : Int}
    (hid : id < s.nextCursor) (hmore : moreOf? command ≠ some id) :
    leftUnder (s.run database command).2.cursors id = leftUnder s.cursors id ∧
      s.nextCursor ≤ (s.run database command).2.nextCursor := by
  by_cases hserving : s.Serving
  · rcases command with _ | ⟨⟨verb, v⟩, rest⟩
    · rw [run_nil]
      exact ⟨rfl, Nat.le_refl _⟩
    · rw [run_of_serving hserving]
      refine dispatch_left database verb _ hid fun hverb h => hmore ?_
      subst hverb
      exact h
  · rw [run_of_not_serving hserving]
    exact ⟨rfl, Nat.le_refl _⟩

theorem ping_state (s : MemoryStore) (timeout : Nat) : (s.ping timeout).2 = s := by
  rw [ping]
  split
  · rfl
  · split <;> rfl

/-- What is not a command leaves the cursors alone. -/
theorem cursors_after [Host] (s : MemoryStore) {e : StoreEvent}
    (he : ∀ database command, e ≠ .call (.run database command)) :
    (s.after e).cursors = s.cursors ∧ (s.after e).nextCursor = s.nextCursor := by
  cases e with
  | call c =>
    cases c with
    | run database command => exact absurd rfl (he database command)
    | startTransaction =>
      have hsame := s.sameServer_startTransaction
      exact ⟨hsame.cursors, hsame.nextCursor⟩
    | commitTransaction =>
      have hsame := s.sameServer_commitTransaction
      exact ⟨hsame.cursors, hsame.nextCursor⟩
    | abortTransaction =>
      have hsame := s.sameServer_abortTransaction
      exact ⟨hsame.cursors, hsame.nextCursor⟩
    | ping timeout =>
      change (s.ping timeout).2.cursors = _ ∧ (s.ping timeout).2.nextCursor = _
      rw [ping_state]
      exact ⟨rfl, rfl⟩
  | switch online => exact ⟨rfl, rfl⟩
  | issueId => exact ⟨rfl, rfl⟩

theorem Sound.after [Host] {s : MemoryStore} (h : s.Sound) (e : StoreEvent) : (s.after e).Sound := by
  cases e with
  | call c =>
    cases c with
    | run database command => exact h.run database command
    | startTransaction => exact h.startTransaction
    | commitTransaction => exact h.commitTransaction
    | abortTransaction => exact h.abortTransaction
    | ping timeout =>
      change (s.ping timeout).2.Sound
      rwa [ping_state]
  | switch online => exact { h with }
  | issueId => exact { h with }

/-! ### Pages -/

/-- How far a result has been delivered: some documents are done, and the rest is left under the
cursor with an id. -/
structure Pages (whole : List Document) (id : Nat) (done : List Document) (s : MemoryStore) :
    Prop where
  sound : s.Sound
  given : id < s.nextCursor
  whole : done ++ leftUnder s.cursors id = whole

/-- Whether a batch reports rightly how far a result has been delivered: it names no cursor exactly
if nothing is left, and else the one with the id. -/
def Reports (whole : List Document) (id : Nat) (done : List Document) (b : Batch) : Prop :=
  (b.id = 0 ↔ done = whole) ∧ (b.id ≠ 0 → b.id = id)

namespace Pages

variable {whole done : List Document} {id : Nat} {s : MemoryStore}

theorem done_iff (h : Pages whole id done s) : done = whole ↔ leftUnder s.cursors id = [] := by
  rw [← h.whole]
  simp

/-- A command delivers the next documents of the result, or none. -/
theorem run [Host] (h : Pages whole id done s) (hid : id < 2 ^ 63) (database : String)
    (command : Document) :
    let batches := (s.delivered? id (.call (.run database command))).toList
    Pages whole id (done ++ batches.flatMap (·.documents)) (s.run database command).2 ∧
      ∀ b ∈ batches, Reports whole id (done ++ batches.flatMap (·.documents)) b := by
  have hsound := h.sound.run database command
  have hgiven : (id : Int) < s.nextCursor := Int.ofNat_lt.mpr h.given
  rw [delivered?]
  by_cases hmore : moreOf? command = some (id : Int)
  · rw [if_pos hmore]
    rcases run_more database hid hmore with
      ⟨hstate, hanswer⟩ | ⟨answer, batch, rest, hanswer, hbatch, htakes⟩
    · have hnone : ((s.run database command).1.toOption.bind fun answer =>
          (Batch.next answer).toOption) = none := by
        cases h1 : (s.run database command).1 with
        | error e => rfl
        | ok answer =>
          cases h2 : Batch.next answer with
          | error e => simp [Except.toOption, h2]
          | ok b => exact absurd h2 (hanswer answer h1 b)
      rw [hnone, hstate]
      simpa using h
    · have hpages : Pages whole id (done ++ batch) (s.run database command).2 :=
        ⟨hsound, by rw [htakes.same]; exact h.given,
          by rw [htakes.after, List.append_assoc, ← htakes.before, h.whole]⟩
      have hpositive : rest ≠ [] → id ≠ 0 := by
        rintro hrest rfl
        have hnone := leftUnder_of_not_mem (number_ne h.sound (.inl (Int.le_refl 0)))
        exact hrest (List.append_eq_nil_iff.mp (htakes.before.symm.trans hnone)).2
      rw [hanswer]
      simp only [Except.toOption, Option.bind_some, hbatch, Option.toList_some,
        List.flatMap_singleton, List.mem_singleton, forall_eq]
      refine ⟨hpages, ?_⟩
      rw [Reports, hpages.done_iff, htakes.after]
      dsimp only
      by_cases hrest : rest = []
      · simp [hrest]
      · simp [hrest, hpositive hrest]
  · rw [if_neg hmore]
    obtain ⟨hleft, hnext⟩ := run_left database hgiven hmore
    have hpages : Pages whole id done (s.run database command).2 :=
      ⟨hsound, by omega, by rw [hleft]; exact h.whole⟩
    simpa using hpages

/-- So does every event. -/
theorem after [Host] (h : Pages whole id done s) (hid : id < 2 ^ 63) (e : StoreEvent) :
    let batches := (s.delivered? id e).toList
    Pages whole id (done ++ batches.flatMap (·.documents)) (s.after e) ∧
      ∀ b ∈ batches, Reports whole id (done ++ batches.flatMap (·.documents)) b := by
  by_cases he : ∀ database command, e ≠ .call (.run database command)
  · obtain ⟨hcursors, hnext⟩ := s.cursors_after he
    have hpages : Pages whole id done (s.after e) :=
      ⟨h.sound.after e, by rw [hnext]; exact h.given, by rw [hcursors]; exact h.whole⟩
    have hnone : s.delivered? id e = none := by
      unfold delivered?
      split
      · exact absurd rfl (he _ _)
      · rfl
    rw [hnone]
    simpa using hpages
  · obtain ⟨database, command, rfl⟩ : ∃ database command, e = .call (.run database command) := by
      simpa using he
    exact h.run hid database command

/-- And so do events one after another. -/
theorem deliveries [Host] (h : Pages whole id done s) (hid : id < 2 ^ 63) {b : Batch}
    (hb : Reports whole id done b) (events : List StoreEvent) :
    let more := s.deliveries id events
    Pages whole id (done ++ more.flatMap (·.documents)) (events.foldl MemoryStore.after s) ∧
      Reports whole id (done ++ more.flatMap (·.documents)) (more.getLastD b) := by
  induction events generalizing s done b with
  | nil => simpa [MemoryStore.deliveries] using ⟨h, hb⟩
  | cons e events ih =>
    have hstep := h.after hid e
    simp only [MemoryStore.deliveries, List.foldl_cons]
    cases hd : s.delivered? id e with
    | none =>
      simp only [hd, Option.toList_none, List.flatMap_nil, List.append_nil] at hstep
      exact ih hstep.1 hb
    | some b' =>
      simp only [hd, Option.toList_some, List.flatMap_singleton, List.mem_singleton,
        forall_eq] at hstep
      have hrest := ih hstep.1 hstep.2
      simp only [Option.toList_some, List.singleton_append, List.flatMap_cons,
        ← List.append_assoc, List.getLastD_cons]
      exact hrest

end Pages

/-! ### Whole results -/

theorem dispatch_reading [Host] (s : MemoryStore) (database : String) {verb : String}
    (hverb : verb = "find" ∨ verb = "aggregate") (command : Document) :
    s.dispatch database verb command = s.opened (s.databases.retrieve verb database command) := by
  rcases hverb with rfl | rfl <;> rfl

/-- A first batch begins the delivery of the result as it is when the command runs. -/
theorem pages_of_first [Host] {s : MemoryStore} (hs : s.Sound) (hroom : s.nextCursor < 2 ^ 63)
    {database verb : String} (hverb : verb = "find" ∨ verb = "aggregate") {v : Value}
    {rest answer : Document} {b : Batch}
    (hanswer : (s.run database ((verb, v) :: rest)).1 = .ok answer)
    (hb : Batch.first answer = .ok b) :
    ∃ (result : ResultSet) (id : Nat),
      s.databases.retrieve verb database ((verb, v) :: rest) = .ok result ∧
      b.id = id ∧ id < 2 ^ 63 ∧ Reports result.documents id b.documents b ∧
      Pages result.documents id b.documents (s.run database ((verb, v) :: rest)).2 := by
  by_cases hserving : s.Serving
  · have hsound := hs.run database ((verb, v) :: rest)
    rw [run_of_serving hserving, dispatch_reading s database hverb] at hanswer hsound ⊢
    cases hanswer
    cases hresult : s.databases.retrieve verb database ((verb, v) :: rest) with
    | error f =>
      rw [hresult] at hb
      exact absurd hb not_batch_of_failure
    | ok r =>
      rw [hresult] at hb hsound
      obtain ⟨batch, left, id, hreply, hwhole, hopens⟩ := openCursor_opens hs r
      have hid : id < 2 ^ 63 := Nat.lt_of_le_of_lt hopens.given.1 hroom
      rw [opened, hreply, Batch.first, read_batchReply (by decide) batch hid] at hb
      cases hb
      have hpages : Pages r.documents id batch (s.openCursor r).1 :=
        ⟨hsound, hopens.given.2, by rw [hopens.left, hwhole]⟩
      refine ⟨r, id, rfl, rfl, hid, ⟨?_, fun _ => rfl⟩, hpages⟩
      rw [hpages.done_iff, hopens.left, ← hopens.named]
      exact Int.natCast_eq_zero
  · obtain ⟨f, rfl⟩ := answer_of_not_serving hserving hanswer
    exact absurd hb not_batch_of_failure

/-- Once a result has been delivered its cursor is unknown. -/
theorem run_more_of_delivered [Host] {whole : List Document} {id : Nat} {s : MemoryStore}
    (h : Pages whole id whole s) (hserving : s.Serving) (database : String) {command : Document}
    (hmore : moreOf? command = some (id : Int)) {size : Option Nat}
    (hsize : CommandField.count? command "batchSize" = .ok size) :
    (s.run database command).1 = .ok (CommandFailure.cursorNotFound id).toResponse := by
  have hcursor : s.cursor? id = none :=
    cursor?_eq_none_of_left h.sound (h.done_iff.mp rfl)
  unfold moreOf? at hmore
  split at hmore
  · next v rest =>
    have hid : (Fields.get? (("getMore", v) :: rest) "getMore").bind Value.integer? =
        some (id : Int) := hmore
    have hparts : s.moreParts (("getMore", v) :: rest) = .error (.cursorNotFound id) := by
      rw [moreParts, hid]
      dsimp only
      rw [hsize]
      dsimp only [bind, Except.bind]
      rw [hcursor]
      rfl
    rw [run_of_serving hserving]
    change Except.ok (response (s.getMore _).2) = _
    rw [getMore, hparts]
    rfl
  · cases hmore

end MemoryStore

end SqlGateway
