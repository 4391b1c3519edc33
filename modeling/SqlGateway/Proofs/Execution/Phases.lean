import Mathlib.Data.List.Chain
import SqlGateway.Proofs.Execution.Ownership

/-! The phases of a run. Only planning, the opening and closing of a transaction, the carrying out of
a plan and the reading of its rows enter a phase; commands are sent in the phase that has been
entered. So there are few paths that a run can take, whatever the store answers, and each of them
tells what has been done. -/

namespace SqlGateway.Gateway

attribute [local instance] Host.universal

open Execution

/-! ### Paths -/

/-- How far the reading of rows has come: not to their types, to their types, through these to
their cells, or to cells that need no types. -/
inductive RowReading where
  | unread | typing | typed | untyped

/-- The phases of reading rows. -/
def RowReading.phases : RowReading → List Phase
  | .unread => []
  | .typing => [.typeInference]
  | .typed => [.typeInference, .rowDecode]
  | .untyped => [.rowDecode]

/-- How a plan has been carried out: how far its rows were read, and whether a commit was to
follow. -/
structure Carried where
  reading : RowReading
  commits : Bool

/-- A path of a run through the phases. -/
structure Path where
  samples : Bool
  starts : Bool
  carried : Option Carried
  aborts : Bool

namespace Path

/-- Whether a commit is on a path. -/
def commits (p : Path) : Bool := p.carried.any (·.commits)

/-- The phases of carrying a plan out. -/
def carrying (c : Carried) : List Phase :=
  .executing :: c.reading.phases ++ if c.commits then [.commit] else []

/-- The phases of a path. -/
def phases (p : Path) : List Phase :=
  [.idle, .planning] ++ (if p.samples then [.autoIncrementProbe] else [])
    ++ (if p.starts then [.transactionStart] else []) ++ (p.carried.map carrying).getD []
    ++ (if p.aborts then [.rollback] else []) ++ [.idle]

/-- Every phase of a path may follow the one before it. -/
theorem isChain_phases (p : Path) : p.phases.IsChain fun a b => a.canAdvanceTo b = true := by
  obtain ⟨_ | _, _ | _, _ | ⟨_ | _ | _ | _, _ | _⟩, _ | _⟩ := p <;> decide

theorem mem_samples {p : Path} : .autoIncrementProbe ∈ p.phases ↔ p.samples = true := by
  obtain ⟨_ | _, _ | _, _ | ⟨_ | _ | _ | _, _ | _⟩, _ | _⟩ := p <;> decide

theorem mem_commits {p : Path} : .commit ∈ p.phases ↔ p.commits = true := by
  obtain ⟨_ | _, _ | _, _ | ⟨_ | _ | _ | _, _ | _⟩, _ | _⟩ := p <;> decide

theorem mem_aborts {p : Path} : .rollback ∈ p.phases ↔ p.aborts = true := by
  obtain ⟨_ | _, _ | _, _ | ⟨_ | _ | _ | _, _ | _⟩, _ | _⟩ := p <;> decide

end Path

/-! ### Phases that are entered -/

variable {σ α β : Type} {store : DocumentStore σ} {database : String}

variable (store database) in
/-- Sending a command enters no phase. -/
theorem sends_progress : Sends store database fun r r' => r'.progress = r.progress where
  refl _ := rfl
  trans h h' := h'.trans h
  send _ _ := rfl

/-- Phases entered between two states of a run. -/
def Enters (ps : List Phase) (r r' : Run σ) : Prop :=
  r'.progress.history = r.progress.history ++ ps

section

variable {r r₁ r' : Run σ} {ps : List Phase}

theorem Enters.of_progress (h : r'.progress = r.progress) : Enters [] r r' := by
  rw [Enters, h, List.append_nil]

/-- What is entered after a phase comes behind it. -/
theorem Enters.cons {p : Phase} (h : Enters ps { r with progress := r.progress.enter p } r') :
    Enters (p :: ps) r r' := by
  rw [Enters, h]
  exact List.append_assoc _ _ _

theorem Enters.trans {qs : List Phase} (h : Enters ps r r₁) (h' : Enters qs r₁ r') :
    Enters (ps ++ qs) r r' := by
  rw [Enters, h', h, List.append_assoc]

theorem Enters.congr (hr : r₁.progress = r.progress) (h : Enters ps r₁ r') : Enters ps r r' := by
  rw [Enters, ← hr]
  exact h

/-- A part that starts by sending commands goes on in the same phase, or fails in it. -/
theorem progress_bind {x : Execution σ β} {f : β → Execution σ α} {outcome : Except GatewayError α}
    (hx : Stays (fun r r' => r'.progress = r.progress) x) (h : Ends (x >>= f) r outcome r') :
    r'.progress = r.progress ∨ ∃ b r₁, r₁.progress = r.progress ∧ Ends (f b) r₁ outcome r' := by
  rcases ends_bind.mp h with ⟨b, r₁, hfirst, hsecond⟩ | ⟨e, hfirst, -⟩
  · exact .inr ⟨b, r₁, hx _ _ _ hfirst, hsecond⟩
  · exact .inl (hx _ _ _ hfirst)

end

/-- Only the plan of an INSERT with a counted column asks for a key. -/
theorem isSome_autoIncrement_iff [Host] {id : ObjectId} {s : Statement} {p : Plan}
    (h : Plan.ofStatement id s = .ok p) : p.autoIncrement.isSome = true ↔
      ∃ collection column values, s = .insert collection (some column) values := by
  have hnone (hp : p.autoIncrement = none)
      (hs : ∀ collection column values, s ≠ .insert collection (some column) values) :
      p.autoIncrement.isSome = true ↔
        ∃ collection column values, s = .insert collection (some column) values := by
    refine iff_of_false (by rw [hp]; exact Bool.false_ne_true) ?_
    rintro ⟨collection, column, values, heq⟩
    exact hs collection column values heq
  cases s with
  | select s =>
    obtain ⟨_, _, _, _, -, rfl⟩ := Plan.ofSelect_eq_ok.mp h
    exact hnone rfl (by rintro _ _ _ ⟨⟩)
  | insert collection autoIncrement values =>
    cases h
    cases autoIncrement with
    | none => exact hnone rfl (by rintro _ _ _ ⟨⟩)
    | some column => exact iff_of_true rfl ⟨collection, column, values, rfl⟩
  | update collection values wheres =>
    rw [Plan.ofStatement, Plan.ofUpdate] at h
    split at h
    · cases h
    obtain ⟨filter, -, h⟩ := Except.bind_eq_ok.mp h
    cases h
    exact hnone rfl (by rintro _ _ _ ⟨⟩)
  | delete collection wheres =>
    obtain ⟨filter, -, h⟩ := Except.bind_eq_ok.mp h
    dsimp only at h
    split at h
    · cases h
    · cases h
      exact hnone rfl (by rintro _ _ _ ⟨⟩)
  | create collection columns =>
    cases h
    exact hnone rfl (by rintro _ _ _ ⟨⟩)
  | alter collection actions =>
    rw [Plan.ofStatement, Plan.ofAlter] at h
    split at h
    · cases h
    · cases h
      exact hnone rfl (by rintro _ _ _ ⟨⟩)
  | drop collection =>
    cases h
    exact hnone rfl (by rintro _ _ _ ⟨⟩)
  | truncate collection =>
    cases h
    exact hnone rfl (by rintro _ _ _ ⟨⟩)

/-- Whether the plan of a tree asks for a key. -/
def samplesKey [Host] (id : ObjectId) (t : QueryTree) : Bool :=
  match Plan.ofTree id t with
  | .ok plan => plan.autoIncrement.isSome
  | .error _ => false

theorem samplesKey_of_ok [Host] {id : ObjectId} {t : QueryTree} {plan : Plan}
    (h : Plan.ofTree id t = .ok plan) : samplesKey id t = plan.autoIncrement.isSome := by
  rw [samplesKey, h]

theorem samplesKey_of_error [Host] {id : ObjectId} {t : QueryTree} {e : GatewayError}
    (h : Plan.ofTree id t = .error e) : samplesKey id t = false := by
  rw [samplesKey, h]

theorem samplesKey_iff [Host] {id : ObjectId} {t : QueryTree} : samplesKey id t = true ↔
    ∃ collection column values plan, t.statements = [.insert collection (some column) values] ∧
      Plan.ofTree id t = .ok plan := by
  cases hplan : Plan.ofTree id t with
  | error e =>
    rw [samplesKey_of_error hplan]
    exact iff_of_false Bool.false_ne_true nofun
  | ok plan =>
    rw [samplesKey_of_ok hplan]
    rw [Plan.ofTree] at hplan
    split at hplan
    · cases hplan
    split at hplan
    · next s hs =>
      rw [isSome_autoIncrement_iff hplan, hs]
      simp
    · cases hplan

/-- A preparation samples a key if the plan asks for one. -/
theorem enters_prepare [Host] {id : ObjectId} {t : QueryTree} {r r' : Run σ}
    {prepared : Except GatewayError Plan} (h : Ends (prepare store database id t) r prepared r') :
    Enters (.planning :: if samplesKey id t then [.autoIncrementProbe] else []) r r' := by
  have hsends := sends_progress store database
  rw [prepare, ends_bind_enter] at h
  refine .cons ?_
  rcases ends_bind.mp h with ⟨plan, r₁, hplan, h⟩ | ⟨e, hplan, -⟩
  · obtain ⟨heq, rfl⟩ := ends_lift.mp hplan
    rw [samplesKey_of_ok heq.symm]
    rw [withKey] at h
    cases hkey : plan.autoIncrement with
    | none =>
      rw [hkey] at h
      obtain ⟨-, rfl⟩ := ends_pure.mp h
      exact .of_progress rfl
    | some c =>
      rw [hkey] at h
      dsimp only at h
      rw [ends_bind_enter] at h
      refine .cons (.of_progress ?_)
      rcases progress_bind (hsends.sampleNextKey c) h with h | ⟨key, r₂, hr₂, h⟩
      · exact h
      · cases h
        exact hr₂
  · obtain ⟨heq, rfl⟩ := ends_lift.mp hplan
    rw [samplesKey_of_error heq.symm]
    exact .of_progress rfl

/-- What a SELECT reads takes it through the types of its columns to its cells, or to these only. -/
theorem enters_runSelect [Host] {p : Plan} {strategy : Strategy} {r r' : Run σ}
    {outcome : Except GatewayError (List Row)}
    (h : Ends (runSelect store database p strategy) r outcome r') :
    ∃ reading : RowReading, Enters reading.phases r r' := by
  have hsends := sends_progress store database
  unfold runSelect at h
  split at h
  · rcases progress_bind (hsends.lift _) h with h | ⟨c, r₁, hr₁, h⟩
    · exact ⟨.unread, .of_progress h⟩
    rcases progress_bind (hsends.dispatch c) h with h | ⟨response, r₂, hr₂, h⟩
    · exact ⟨.unread, .of_progress (h.trans hr₁)⟩
    rw [ends_bind_enter] at h
    refine ⟨.untyped, .congr (hr₂.trans hr₁) (.cons (.of_progress ?_))⟩
    exact hsends.bind (hsends.lift _) (fun vs => hsends.mapM (fun v =>
      hsends.bind (hsends.lift _) fun cell => hsends.pure _) vs) _ _ _ h
  · rcases progress_bind (hsends.lift _) h with h | ⟨c, r₁, hr₁, h⟩
    · exact ⟨.unread, .of_progress h⟩
    rcases progress_bind (hsends.fetch c) h with h | ⟨docs, r₂, hr₂, h⟩
    · exact ⟨.unread, .of_progress (h.trans hr₁)⟩
    split at h
    · obtain ⟨-, rfl⟩ := ends_pure.mp h
      exact ⟨.unread, .of_progress (hr₂.trans hr₁)⟩
    rw [ends_bind_enter] at h
    split at h
    · exact ⟨.typing, .congr (hr₂.trans hr₁) (.cons (.of_progress (hsends.throw _ _ _ _ h)))⟩
    rcases progress_bind (hsends.infer _ _) h with h | ⟨types, r₃, hr₃, h⟩
    · exact ⟨.typing, .congr (hr₂.trans hr₁) (.cons (.of_progress h))⟩
    rw [ends_bind_enter] at h
    exact ⟨.typed, .congr (hr₂.trans hr₁) (.cons (.congr hr₃ (.cons (.of_progress
      (hsends.lift _ _ _ _ h)))))⟩

theorem enters_perform [Host] {p : Plan} {r r' : Run σ} {outcome : Except GatewayError (List Row)}
    (h : Ends (perform store database p) r outcome r') :
    ∃ reading : RowReading, Enters reading.phases r r' := by
  have hsends := sends_progress store database
  unfold perform at h
  split at h
  · exact enters_runSelect h
  · exact ⟨.unread, .of_progress (hsends.map _ (hsends.runWrites p) _ _ _ h)⟩

theorem enters_settle_of_not_owned {failed : Bool} {r : Run σ}
    (h : failed = false ∨ r.ownsTransaction = false) :
    Enters [.idle] r (settle store failed r) := by
  rw [settle]
  rcases h with rfl | h
  · exact .cons (.of_progress rfl)
  · rw [h, Bool.and_false]
    exact .cons (.of_progress rfl)

/-- A failed run rolls its transaction back if that is still open. -/
theorem enters_settle_owned {r : Run σ} (h : r.ownsTransaction = true) :
    Enters ((if store.inTransaction r.store then [.rollback] else []) ++ [.idle]) r
      (settle store true r) := by
  rw [settle, h]
  cases hopen : store.inTransaction r.store with
  | true => exact .cons (.cons (.of_progress rfl))
  | false => exact .cons (.of_progress rfl)

/-! ### Whole runs -/

/-- Whether a run starts a transaction of its own once it is prepared. -/
def Starts (store : DocumentStore σ) (autoCommit : Bool) (prepared : Except GatewayError Plan)
    (s : σ) : Prop :=
  Begins store autoCommit prepared s ∧ (store.startTransaction s).1 = .ok ()

/-- Whether a run comes to a commit: its plan is carried out in a transaction of its own. -/
def Commits [Host] (store : DocumentStore σ) (database : String) (autoCommit : Bool)
    (prepared : Except GatewayError Plan) (r : Run σ) : Prop :=
  Starts store autoCommit prepared r.store ∧ ∃ plan rows r', prepared = .ok plan ∧
    Ends (perform store database plan) (opening store r) (.ok rows) r'

section

variable {id : ObjectId} {t : QueryTree} {autoCommit : Bool} {s : σ}
  {result : Except GatewayError (List Row)} {r : Run σ}

theorem not_starts_of_joined {prepared : Except GatewayError Plan}
    (h : autoCommit = false ∨ store.inTransaction s = true) :
    ¬ Starts store autoCommit prepared s := by
  rintro ⟨⟨hauto, -, hidle⟩, -⟩
  rcases h with h | h
  · cases hauto.symm.trans h
  · cases hidle.symm.trans h

/-- The path of a run, and what has been done if it commits or aborts. -/
theorem exists_path [Host] (h : Course store database id t autoCommit { store := s } result r) :
    ∃ p : Path, (settle store (!result.isOk) r).progress.history = p.phases ∧
      p.samples = samplesKey id t ∧
      ∃ prepared r₁, Ends (prepare store database id t) { store := s } prepared r₁ ∧
        (p.commits = true ↔ Commits store database autoCommit prepared r₁) ∧
        (p.aborts = true ↔ Starts store autoCommit prepared r₁.store ∧ result.isOk = false ∧
          store.inTransaction r.store = true) := by
  have hhistory {ps : List Phase} {p : Path} {r' : Run σ} (h : Enters ps { store := s } r')
      (hps : .idle :: ps = p.phases) : r'.progress.history = p.phases := Eq.trans h hps
  have howns {prepared : Except GatewayError Plan} {r₁ : Run σ}
      (hprepare : Ends (prepare store database id t) { store := s } prepared r₁) :
      r₁.ownsTransaction = false := spans_ownsTransaction.prepare id t _ _ _ hprepare
  -- without a transaction of its own, a run neither commits nor aborts
  have hnot {prepared : Except GatewayError Plan} {r₁ : Run σ}
      (hprepare : Ends (prepare store database id t) { store := s } prepared r₁)
      (hstarts : ¬ Starts store autoCommit prepared r₁.store) {p : Path} (hcommits : p.commits = false)
      (haborts : p.aborts = false) :
      ∃ prepared r₁, Ends (prepare store database id t) { store := s } prepared r₁ ∧
        (p.commits = true ↔ Commits store database autoCommit prepared r₁) ∧
        (p.aborts = true ↔ Starts store autoCommit prepared r₁.store ∧ result.isOk = false ∧
          store.inTransaction r.store = true) :=
    ⟨prepared, r₁, hprepare, by simp [hcommits, Commits, hstarts], by simp [haborts, hstarts]⟩
  cases h with
  | @unprepared e _ hprepare =>
    refine ⟨⟨samplesKey id t, false, none, false⟩, ?_, rfl,
      hnot hprepare (fun ⟨⟨_, ⟨_, hplan⟩, _⟩, _⟩ => nomatch hplan) rfl rfl⟩
    refine hhistory ((enters_prepare hprepare).trans
      (enters_settle_of_not_owned (.inr (howns hprepare)))) ?_
    simp [Path.phases]
  | @joined plan r₁ _ _ hprepare hjoined hperform =>
    obtain ⟨reading, hreading⟩ := enters_perform hperform
    have howns₁ := howns hprepare
    have howns' : r.ownsTransaction = false :=
      (spans_ownsTransaction.perform plan _ _ _ hperform).trans howns₁
    refine ⟨⟨samplesKey id t, false, some ⟨reading, false⟩, false⟩, ?_, rfl,
      hnot hprepare (not_starts_of_joined hjoined) rfl rfl⟩
    refine hhistory ((enters_prepare hprepare).trans ((Enters.cons hreading).trans
      (enters_settle_of_not_owned (.inr howns')))) ?_
    simp [Path.phases, Path.carrying]
  | @unopened plan r₁ e hprepare hauto hidle hstart =>
    have howns₁ := howns hprepare
    refine ⟨⟨samplesKey id t, true, none, false⟩, ?_, rfl,
      hnot hprepare (fun ⟨_, hok⟩ => nomatch hstart.symm.trans hok) rfl rfl⟩
    refine hhistory ((enters_prepare hprepare).trans (.cons
      (enters_settle_of_not_owned (.inr howns₁)))) ?_
    simp [Path.phases]
  | @failed plan r₁ _ e hprepare hauto hidle hstart hperform =>
    obtain ⟨reading, hreading⟩ := enters_perform hperform
    have hstarts : Starts store autoCommit (.ok plan) r₁.store := ⟨⟨hauto, ⟨plan, rfl⟩, hidle⟩, hstart⟩
    refine ⟨⟨samplesKey id t, true, some ⟨reading, false⟩, store.inTransaction r.store⟩, ?_, rfl,
      .ok plan, r₁, hprepare, ?_, ?_⟩
    · refine hhistory ((enters_prepare hprepare).trans (.cons ((Enters.cons hreading).trans
        (enters_settle_owned (spans_ownsTransaction.perform plan _ _ _ hperform))))) ?_
      simp [Path.phases, Path.carrying]
    · refine iff_of_false Bool.false_ne_true ?_
      rintro ⟨-, _, rows, r', ⟨⟩, hperform'⟩
      cases hperform.symm.trans hperform'
    · exact ⟨fun hopen => ⟨hstarts, rfl, hopen⟩, fun h => h.2.2⟩
  | @uncommitted plan r₁ r₂ rows e hprepare hauto hidle hstart hperform hcommit =>
    obtain ⟨reading, hreading⟩ := enters_perform hperform
    have hstarts : Starts store autoCommit (.ok plan) r₁.store := ⟨⟨hauto, ⟨plan, rfl⟩, hidle⟩, hstart⟩
    refine ⟨⟨samplesKey id t, true, some ⟨reading, true⟩, _⟩, ?_, rfl, .ok plan, r₁, hprepare,
      iff_of_true rfl ⟨hstarts, plan, rows, r₂, rfl, hperform⟩,
      fun hopen => ⟨hstarts, rfl, hopen⟩, fun h => h.2.2⟩
    refine hhistory ((enters_prepare hprepare).trans (.cons ((Enters.cons hreading).trans (.cons
      (enters_settle_owned rfl))))) ?_
    simp [Path.phases, Path.carrying]
  | @committed plan r₁ r₂ rows hprepare hauto hidle hstart hperform hcommit =>
    obtain ⟨reading, hreading⟩ := enters_perform hperform
    have hstarts : Starts store autoCommit (.ok plan) r₁.store := ⟨⟨hauto, ⟨plan, rfl⟩, hidle⟩, hstart⟩
    refine ⟨⟨samplesKey id t, true, some ⟨reading, true⟩, false⟩, ?_, rfl, .ok plan, r₁, hprepare,
      iff_of_true rfl ⟨hstarts, plan, rows, r₂, rfl, hperform⟩,
      iff_of_false Bool.false_ne_true fun h => nomatch h.2.1⟩
    refine hhistory ((enters_prepare hprepare).trans (.cons ((Enters.cons hreading).trans (.cons
      (enters_settle_of_not_owned (.inl rfl)))))) ?_
    simp [Path.phases, Path.carrying]

/-- Whatever the store does, a run that ends has only entered phases that may follow each other, from
idleness to idleness. It has entered the phase of a rollback exactly if it has failed with a
transaction of its own still open, that of a commit exactly if all that comes before the commit of
such a transaction has succeeded, and that of a probe exactly if an INSERT with a counted column has
been planned. -/
theorem execute_phases [Host] (h : execute store database id t autoCommit s = some (result, r)) :
    let history := r.progress.history
    history.IsChain (fun a b => a.canAdvanceTo b = true) ∧
    history.head? = some .idle ∧ history.getLast? = some .idle ∧
    (.autoIncrementProbe ∈ history ↔ ∃ collection column values plan,
      t.statements = [.insert collection (some column) values] ∧ Plan.ofTree id t = .ok plan) ∧
    ∃ prepared r₁ r₂, Ends (prepare store database id t) { store := s } prepared r₁ ∧
      Ends (runTree store database id t autoCommit) { store := s } result r₂ ∧
      (.commit ∈ history ↔ Commits store database autoCommit prepared r₁) ∧
      (.rollback ∈ history ↔ Starts store autoCommit prepared r₁.store ∧
        (∃ e, result = .error e) ∧ store.inTransaction r₂.store = true) := by
  obtain ⟨r₂, hrun, rfl⟩ := ends_of_execute h
  obtain ⟨p, hphases, hsamples, prepared, r₁, hprepare, hcommits, haborts⟩ :=
    exists_path (course_of_runTree rfl hrun)
  have hfailed : result.isOk = false ↔ ∃ e, result = .error e := by
    cases result with
    | error e => exact iff_of_true rfl ⟨e, rfl⟩
    | ok rows => exact iff_of_false nofun nofun
  dsimp only
  rw [hphases]
  refine ⟨p.isChain_phases, rfl, List.getLast?_concat, ?_, prepared, r₁, r₂, hprepare, hrun, ?_, ?_⟩
  · rw [Path.mem_samples, hsamples, samplesKey_iff]
  · rw [Path.mem_commits, hcommits]
  · rw [Path.mem_aborts, haborts, hfailed]

/-- Emptying a collection of a store that answers the command and refuses to commit: the transaction
is still open and is rolled back. -/
theorem execute_phases_refused :
    let s : ScriptedStore := ⟨[.ok [("ok", .int 1), ("n", .int 2)]], ["commit"], false⟩
    ∃ result r, execute ScriptedStore.store "app" default (.document (.truncate "t")) true s =
        some (result, r) ∧
      r.progress.history = [.idle, .planning, .transactionStart, .executing, .commit, .rollback,
        .idle] ∧
      r.progress.history.IsChain (fun a b => a.canAdvanceTo b = true) ∧
      ∃ prepared r₁, Commits ScriptedStore.store "app" true prepared r₁ := by
  intro s
  obtain ⟨result, r, h⟩ : ∃ result r, execute ScriptedStore.store "app" default
      (.document (.truncate "t")) true s = some (result, r) := ⟨_, _, rfl⟩
  have hhistory : r.progress.history = [.idle, .planning, .transactionStart, .executing, .commit,
      .rollback, .idle] := by
    cases h
    rfl
  obtain ⟨hchain, -, -, -, prepared, r₁, r₂, -, -, hcommit, -⟩ := execute_phases h
  exact ⟨result, r, h, hhistory, hchain, prepared, r₁, hcommit.mp (by rw [hhistory]; decide)⟩

end

end SqlGateway.Gateway
