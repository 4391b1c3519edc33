import SqlGateway.Proofs.Execution.Leads
import SqlGateway.Proofs.Plan.Commands
import SqlGateway.Proofs.Store.Cursors

/-! Reading from a store in memory. Whatever every command keeps of the store, a part of
a run keeps that is made of commands; and all documents of a cursor are read in finitely
many batches, since fewer and fewer wait. -/

namespace SqlGateway.Execution

variable [Host]

open MemoryStore

variable {database : String} {φ : MemoryStore → Prop} {owns : Bool}

/-- Whether a state of a run has a store that satisfies an assertion, and the run owns a
transaction or not. -/
def Holds (φ : MemoryStore → Prop) (owns : Bool) (r : Run MemoryStore) : Prop :=
  φ r.store ∧ r.ownsTransaction = owns

/-- Whether commands that read keep an assertion about sound stores. -/
structure ReadingKeeps (database : String) (φ : MemoryStore → Prop) : Prop where
  sound : ∀ s, φ s → s.Sound
  run : ∀ s verb v rest, verb = "find" ∨ verb = "aggregate" ∨ verb = "getMore" →
    φ s → φ (s.run database ((verb, v) :: rest)).2

/-- Whether all commands keep an assertion about sound stores. -/
structure CommandsKeep (database : String) (φ : MemoryStore → Prop) : Prop where
  sound : ∀ s, φ s → s.Sound
  run : ∀ s command, φ s → φ (s.run database command).2

theorem CommandsKeep.reading (h : CommandsKeep database φ) : ReadingKeeps database φ :=
  ⟨h.sound, fun s _ _ _ _ => h.run s _⟩

omit [Host] in
theorem keeps_enter (p : Phase) : Keeps (Holds φ owns) (enter p) := Leads.enter fun _ => id

/-- What a checked answer tells of the state before it. -/
theorem leads_respond (verb : String) (command : Document) {P : Run MemoryStore → Prop}
    {Q : Document → Run MemoryStore → Prop} {E : Run MemoryStore → Prop}
    (hok : ∀ r answer, P r → (r.store.run database command).1 = .ok answer →
      Q answer { r with store := (r.store.run database command).2 })
    (herror : ∀ r, P r → E { r with store := (r.store.run database command).2 }) :
    Leads P (respond store database verb command) Q E := by
  refine .bind (R := fun answer r => Q answer r ∧ E r) (.call ?_ ?_) fun answer => ?_
  · exact fun r answer hr hanswer => ⟨hok r answer hr hanswer, herror r hr⟩
  · exact fun r _ hr _ => herror r hr
  · refine .bind (R := fun _ r => Q answer r ∧ E r) (.lift (fun _ _ _ => id) fun _ => And.right) ?_
    exact fun _ => .pure fun _ => And.left

theorem keeps_respond (verb : String) {command : Document}
    (hφ : ∀ s, φ s → φ (s.run database command).2) :
    Keeps (Holds φ owns) (respond store database verb command) :=
  leads_respond verb command (fun r _ hr _ => ⟨hφ r.store hr.1, hr.2⟩)
    fun r hr => ⟨hφ r.store hr.1, hr.2⟩

/-! ### Cursors -/

/-- Whether a batch can be read on in a state: some document waits if it names a cursor, and no
more wait than further batches may be fetched. -/
def Readable (patience : Nat) (batch : Response.Batch) (s : MemoryStore) : Prop :=
  (batch.id ≠ 0 → 0 < s.waiting) ∧ s.waiting ≤ patience

theorem leads_drain (hφ : ReadingKeeps database φ) (collection : String) (patience : Nat)
    (batch : Response.Batch) :
    Leads (fun r => Holds φ owns r ∧ Readable patience batch r.store)
      (drain store database collection patience batch) (fun _ => Holds φ owns) (Holds φ owns) := by
  induction patience generalizing batch with
  | zero =>
    rw [drain]
    split
    · exact .pure fun r hr => hr.1
    · next hid =>
      intro r hr
      have := hr.2.1 hid
      have := hr.2.2
      omega
  | succ patience ih =>
    rw [drain]
    split
    · exact .pure fun r hr => hr.1
    · refine .bind (R := fun answer r => Holds φ owns r ∧
        ∀ b, Response.Batch.next answer = .ok b → Readable patience b r.store) ?_ fun answer => ?_
      · refine leads_respond _ _ (fun r answer hr hanswer => ?_) fun r hr => ?_
        · refine ⟨⟨hφ.run _ _ _ _ (by simp) hr.1.1, hr.1.2⟩, fun b hb => ?_⟩
          obtain ⟨hlt, hpos⟩ := run_getMore_progress (hφ.sound _ hr.1.1) rfl hanswer hb
          have := hr.2.2
          exact ⟨hpos, by dsimp only; omega⟩
        · exact ⟨hφ.run _ _ _ _ (by simp) hr.1.1, hr.1.2⟩
      · refine .bind_lift (fun b hb => ?_) fun r hr => hr.1
        refine .bind (R := fun _ => Holds φ owns) ?_ fun _ => .pure fun _ => id
        exact (ih b).weaken (fun r hr => ⟨hr.1, hr.2 b hb⟩) (fun _ _ => id) fun _ => id

/-- All documents of a command can be read. -/
theorem keeps_fetch (hφ : ReadingKeeps database φ) {c : Command} (hc : c.Headed) :
    Keeps (Holds φ owns) (fetch store database c) := by
  rw [fetch]
  split
  · exact .throw _
  next hcursor =>
  obtain ⟨v, rest, hdoc⟩ := hc
  have hverb : c.verb.name = "find" ∨ c.verb.name = "aggregate" := by
    revert hcursor
    cases c.verb <;> simp [Verb.returnsCursor, Verb.name]
  have hrun (s : MemoryStore) (hs : φ s) : φ (s.run database c.document).2 := by
    rw [hdoc]
    exact hφ.run s _ v rest (hverb.imp_right .inl) hs
  refine Leads.bind (R := fun answer r => Holds φ owns r ∧
    ∀ b, Response.Batch.first answer = .ok b → b.id ≠ 0 → 0 < r.store.waiting) ?_ fun answer => ?_
  · refine leads_respond _ _ (fun r answer hr hanswer => ⟨⟨hrun _ hr.1, hr.2⟩, ?_⟩)
      fun r hr => ⟨hrun _ hr.1, hr.2⟩
    rw [hdoc] at hanswer ⊢
    exact fun b hb hid => run_first_waiting hverb hanswer hb hid
  · refine .bind_lift (fun b hb => .bind_get fun r₀ => ?_) fun r hr => hr.1
    refine (leads_drain hφ c.collection r₀.store.waiting b).weaken ?_ (fun _ _ => id) fun _ => id
    rintro r ⟨rfl, hr, hid⟩
    exact ⟨hr, hid b hb, Nat.le_refl _⟩

end SqlGateway.Execution
