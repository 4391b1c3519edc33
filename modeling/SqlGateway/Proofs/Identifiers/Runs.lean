import SqlGateway.Execution.Gateway
import SqlGateway.Proofs.Execution.Agreement
import SqlGateway.Proofs.Identifiers.Plans
import SqlGateway.Proofs.Identifiers.Rows

/-! Two runs of one statement under two identifiers, over a store and one that holds the same under
other identifiers. As long as no stage that the first comes to orders identifiers, they have the
same outcome, and leave stores of which again the second holds the same under other identifiers. -/

namespace SqlGateway.Execution

open Gateway MemoryStore

variable {f : ObjectId → ObjectId} {labels : List ObjectId} {room : Nat} {database : String}
  {α β γ δ : Type} {r r' : Run MemoryStore}

/-! ### Responses -/

theorem stringField?_rename (response : Document) (key : String) :
    Response.stringField? (response.rename f) key = Response.stringField? response key := by
  rw [Response.stringField?, Response.stringField?, Document.get?_rename]
  cases response.get? key with
  | none => rfl
  | some v => exact Value.string?_rename v

theorem check_rename (verb : String) (response : Document) :
    Response.check verb (response.rename f) = Response.check verb response := by
  have hsucceeded : Response.succeeded? ((response.get? "ok").map (Value.rename f)) =
      Response.succeeded? (response.get? "ok") := by
    cases response.get? "ok" with
    | none => rfl
    | some v => cases v <;> simp [Value.rename, Response.succeeded?]
  have hname : Response.failureName (response.rename f) = Response.failureName response := by
    rw [Response.failureName, Response.failureName, stringField?_rename, Document.get?_rename]
    cases Response.stringField? response "codeName" with
    | some name => rfl
    | none =>
      cases response.get? "code" with
      | none => rfl
      | some v => cases v <;> simp [Value.rename]
  rw [Response.check, Response.check, Document.get?_rename, hsucceeded, stringField?_rename, hname,
    Document.get?_rename]
  split
  · rfl
  · rfl
  · cases response.get? "writeErrors" with
    | none => rfl
    | some v =>
      cases v with
      | array items =>
        rw [Option.map_some, Value.rename_array]
        cases items with
        | nil => rfl
        | cons first more =>
          cases first with
          | document d =>
            rw [List.map_cons, Value.rename_document]
            dsimp only
            rw [stringField?_rename, List.length_map]
          | array _ => rw [List.map_cons, Value.rename_array]
          | _ => rfl
      | document _ => rw [Option.map_some, Value.rename_document]
      | _ => rfl

theorem checked_rename (verb : String) (answer : Except StoreError Document) :
    checked verb (answer.map (Document.rename f)) =
      (checked verb answer).map (Document.rename f) := by
  cases answer with
  | error e => rfl
  | ok response =>
    change checked verb (.ok (response.rename f)) = _
    rw [checked_ok, checked_ok, check_rename]
    cases Response.check verb response <;> rfl

theorem distinctValues_rename (response : Document) :
    Response.distinctValues (response.rename f) =
      (Response.distinctValues response).map (List.map (Value.rename f)) := by
  rw [Response.distinctValues, Response.distinctValues, Document.get?_rename]
  cases response.get? "values" with
  | none => rfl
  | some v =>
    cases v with
    | array items => rw [Option.map_some, Value.rename_array]; rfl
    | document _ => rw [Option.map_some, Value.rename_document]; rfl
    | _ => rfl

/-! ### Keys without identifiers -/

/-- Whether the key of a counted column is found without ordering identifiers, and is none. -/
structure KeySparesIdentifiers [Host] (database : String) (c : CountedColumn) (s : MemoryStore) :
    Prop where
  stages : ∀ command ∈ keyCommands c, ∀ m ∈ s.met database command.document, m.SparesIdentifiers
  key : ∀ command ∈ keyCommands c, ∀ docs, documentsOf database command s = .ok docs →
    ∀ d ∈ docs.head?, ∀ v, d.get? c.column = some v → v.idFree = true

/-- Whether a statement comes to no stage that orders identifiers, nor to a key that is one. -/
structure SparesIdentifiers [Host] (database : String) (label : ObjectId) (t : QueryTree)
    (autoCommit : Bool) (s : MemoryStore) : Prop where
  key : ∀ p c, Plan.ofTree label t = .ok p → p.autoIncrement = some c →
    KeySparesIdentifiers database c s
  rows : ∀ p, Plan.ofTree label t = .ok p → ∀ c ∈ p.commands,
    ∀ m ∈ (Gateway.opened store autoCommit s).met database c.document, m.SparesIdentifiers

/-! ### Runs -/

/-- Whether the store of the second state of a run holds what that of the first does, with other
identifiers. -/
structure RunsRenamed (f : ObjectId → ObjectId) (labels : List ObjectId) (room : Nat)
    (r r' : Run MemoryStore) : Prop where
  store : Renames f labels room r.store r'.store
  lastInsertId : r'.lastInsertId = r.lastInsertId
  ownsTransaction : r'.ownsTransaction = r.ownsTransaction

theorem RunsRenamed.mono {more : List ObjectId} {less : Nat} (h : RunsRenamed f labels room r r')
    (hmore : labels ⊆ more) (hless : less ≤ room) : RunsRenamed f more less r r' :=
  { h with store := h.store.mono hmore hless }

theorem RunsRenamed.enter (h : RunsRenamed f labels room r r') (p : Phase) :
    RunsRenamed f labels room { r with progress := r.progress.enter p }
      { r' with progress := r'.progress.enter p } :=
  ⟨h.store, h.lastInsertId, h.ownsTransaction⟩

/-- Whether two parts of runs end, from two states, the second with the outcome of the first,
changed by a function, and in states that differ in identifiers. -/
def Follows (f : ObjectId → ObjectId) (labels : List ObjectId) (room : Nat) (g : α → β)
    (x : Execution MemoryStore α) (y : Execution MemoryStore β) (r r' : Run MemoryStore) : Prop :=
  ∃ outcome t t', Ends x r outcome t ∧ Ends y r' (outcome.map g) t' ∧ RunsRenamed f labels room t t'

namespace Follows

variable {g : α → β} {h : γ → δ}

theorem lift (hr : RunsRenamed f labels room r r') {x : Except GatewayError α}
    {y : Except GatewayError β} (hy : y = x.map g) :
    Follows f labels room g (liftM x) (liftM y) r r' :=
  ⟨x, r, r', rfl, ends_lift.mpr ⟨hy.symm, rfl⟩, hr⟩

theorem same (hr : RunsRenamed f labels room r r') (x : Except GatewayError α) :
    Follows f labels room id (liftM x) (liftM x) r r' :=
  lift hr x.eq_map_id

theorem pure (hr : RunsRenamed f labels room r r') (a : α) :
    Follows f labels room g (pure a) (pure (g a)) r r' :=
  lift (x := .ok a) hr rfl

theorem throw (hr : RunsRenamed f labels room r r') (e : GatewayError) :
    Follows f labels room g (throw e) (throw e) r r' :=
  lift (x := .error e) hr rfl

theorem mono {more : List ObjectId} {less : Nat} {x : Execution MemoryStore α}
    {y : Execution MemoryStore β} (hx : Follows f labels room g x y r r') (hmore : labels ⊆ more)
    (hless : less ≤ room) : Follows f more less g x y r r' := by
  obtain ⟨outcome, t, t', hend, hend', ht⟩ := hx
  exact ⟨outcome, t, t', hend, hend', ht.mono hmore hless⟩

/-- What comes after two parts of runs begins in the states that they leave. -/
theorem bind_of_ends {more : List ObjectId} {less : Nat} {x : Execution MemoryStore α}
    {y : Execution MemoryStore β} {k : α → Execution MemoryStore γ} {l : β → Execution MemoryStore δ}
    (hx : Follows f labels room g x y r r') (hmore : labels ⊆ more) (hless : less ≤ room)
    (hk : ∀ a t t', Ends x r (.ok a) t → RunsRenamed f labels room t t' →
      Follows f more less h (k a) (l (g a)) t t') :
    Follows f more less h (x >>= k) (y >>= l) r r' := by
  obtain ⟨outcome, t, t', hend, hend', ht⟩ := hx
  cases outcome with
  | error e =>
    refine ⟨.error e, t, t', ?_, ?_, ht.mono hmore hless⟩
    · exact ends_bind.mpr (.inr ⟨e, hend, rfl⟩)
    · exact ends_bind.mpr (.inr ⟨e, hend', rfl⟩)
  | ok a =>
    obtain ⟨outcome, u, u', hrest, hrest', hu⟩ := hk a t t' hend ht
    refine ⟨outcome, u, u', ?_, ?_, hu⟩
    · exact ends_bind.mpr (.inl ⟨a, t, hend, hrest⟩)
    · exact ends_bind.mpr (.inl ⟨g a, t', hend', hrest'⟩)

theorem bind {x : Execution MemoryStore α} {y : Execution MemoryStore β}
    {k : α → Execution MemoryStore γ} {l : β → Execution MemoryStore δ}
    (hx : Follows f labels room g x y r r')
    (hk : ∀ a t t', RunsRenamed f labels room t t' →
      Follows f labels room h (k a) (l (g a)) t t') :
    Follows f labels room h (x >>= k) (y >>= l) r r' :=
  hx.bind_of_ends (List.Subset.refl _) (Nat.le_refl _) fun a t t' _ ht => hk a t t' ht

/-- What comes after a part that opens a cursor has less room. -/
theorem bind_less {less : Nat} {x : Execution MemoryStore α} {y : Execution MemoryStore β}
    {k : α → Execution MemoryStore γ} {l : β → Execution MemoryStore δ}
    (hx : Follows f labels room g x y r r') (hless : less ≤ room)
    (hk : ∀ a t t', RunsRenamed f labels room t t' →
      Follows f labels less h (k a) (l (g a)) t t') :
    Follows f labels less h (x >>= k) (y >>= l) r r' :=
  hx.bind_of_ends (List.Subset.refl _) hless fun a t t' _ ht => hk a t t' ht

/-- After a computation that may fail, its result is known, and nothing has happened. -/
theorem bind_lift {more : List ObjectId} {less : Nat} {x : Except GatewayError α}
    {y : Except GatewayError β} {k : α → Execution MemoryStore γ} {l : β → Execution MemoryStore δ}
    (hr : RunsRenamed f labels room r r') (hmore : labels ⊆ more) (hless : less ≤ room)
    (hy : y = x.map g) (hk : ∀ a, x = .ok a → Follows f more less h (k a) (l (g a)) r r') :
    Follows f more less h (liftM x >>= k) (liftM y >>= l) r r' := by
  rw [hy]
  cases x with
  | error e => exact throw (hr.mono hmore hless) e
  | ok a => exact hk a rfl

theorem modify (q : Run MemoryStore → Run MemoryStore) (hq : RunsRenamed f labels room (q r) (q r')) :
    Follows f labels room id (modify q) (modify q) r r' :=
  ⟨.ok (), q r, q r', rfl, rfl, hq⟩

/-- Entering a phase leaves stores alone. -/
theorem bind_enter {p : Phase} {k : Unit → Execution MemoryStore γ}
    {l : Unit → Execution MemoryStore δ} {more : List ObjectId} {less : Nat}
    (hr : RunsRenamed f labels room r r')
    (hk : ∀ t t', RunsRenamed f labels room t t' → t.store = r.store →
      Follows f more less h (k ()) (l ()) t t') :
    Follows f more less h (enter p >>= k) (enter p >>= l) r r' := by
  obtain ⟨outcome, t, t', hend, hend', ht⟩ := hk _ _ (hr.enter p) rfl
  exact ⟨outcome, t, t', ends_bind_enter.mpr hend, ends_bind_enter.mpr hend', ht⟩

theorem bind_get {k : Run MemoryStore → Execution MemoryStore γ}
    {l : Run MemoryStore → Execution MemoryStore δ} {more : List ObjectId} {less : Nat}
    (hk : Follows f more less h (k r) (l r') r r') :
    Follows f more less h (MonadState.get >>= k) (MonadState.get >>= l) r r' := by
  obtain ⟨outcome, t, t', hend, hend', ht⟩ := hk
  exact ⟨outcome, t, t', ends_bind_get.mpr hend, ends_bind_get.mpr hend', ht⟩

theorem map {x y : Execution MemoryStore α} (hx : Follows f labels room id x y r r') (k : α → γ) :
    Follows f labels room id (k <$> x) (k <$> y) r r' := by
  rw [map_eq_pure_bind, map_eq_pure_bind]
  exact hx.bind fun a t t' ht => pure ht (k a)

theorem mapM {k : α → Execution MemoryStore β} (hr : RunsRenamed f labels room r r')
    (hk : ∀ a t t', RunsRenamed f labels room t t' → Follows f labels room id (k a) (k a) t t')
    (as : List α) : Follows f labels room id (as.mapM k) (as.mapM k) r r' := by
  induction as generalizing r r' with
  | nil => exact pure hr []
  | cons a as ih =>
    rw [List.mapM_cons]
    exact (hk a r r' hr).bind fun b t t' ht => (ih ht).bind fun bs u u' hu => pure hu (b :: bs)

/-- A call that is answered alike. -/
theorem call {q q' : MemoryStore → Except StoreError α × MemoryStore}
    (hr : RunsRenamed f labels room r r') {more : List ObjectId}
    (hq : (q' r'.store).1 = (q r.store).1 ∧
      Renames f more room (q r.store).2 (q' r'.store).2) :
    Follows f more room id (call q) (call q') r r' := by
  refine ⟨_, _, _, ends_call.mpr ⟨rfl, rfl⟩, ends_call.mpr ⟨?_, rfl⟩, ?_⟩
  · rw [Except.map_id, hq.1]
    rfl
  · exact ⟨hq.2, hr.lastInsertId, hr.ownsTransaction⟩

/-! ### Commands -/

variable [Host]

/-- A command whose answer and whose store are those of another one, renamed. -/
theorem of_run (hr : RunsRenamed f labels room r r') {c c' : Command} {more : List ObjectId}
    {g : Document → Document}
    (hanswer : checked c'.verb.name (r'.store.run database c'.document).1 =
      (checked c.verb.name (r.store.run database c.document).1).map g)
    (hstore : Renames f more room (r.store.run database c.document).2
      (r'.store.run database c'.document).2) :
    Follows f more room g (Execution.dispatch store database c)
      (Execution.dispatch store database c') r r' :=
  ⟨_, _, _, ends_dispatch (Prod.ext rfl rfl) rfl, ends_dispatch (Prod.ext rfl rfl) hanswer, hstore,
    hr.lastInsertId, hr.ownsTransaction⟩

theorem dispatch (hf : Function.Injective f) (hr : RunsRenamed f labels room r r') {c : Command}
    (hc : c.Plain) (hname : c.Nameless) (hdistinct : c.verb ≠ .distinct) :
    Follows f labels room id (Execution.dispatch store database c)
      (Execution.dispatch store database c) r r' := by
  obtain ⟨hanswer, hstore⟩ := hr.store.run database hf hc hname.idFree hname.verb hdistinct
  exact of_run hr (by rw [hanswer, Except.map_id]; rfl) hstore

theorem dispatch_distinct (hf : Function.Injective f) (hr : RunsRenamed f labels room r r')
    {c : Command} (hc : c.Plain) (hname : c.Nameless) (hdistinct : c.verb = .distinct) :
    Follows f labels room (Document.rename f) (Execution.dispatch store database c)
      (Execution.dispatch store database c) r r' := by
  obtain ⟨hanswer, hstore⟩ := hr.store.run_distinct database hf hc hname.idFree hdistinct
  exact of_run hr (by rw [hanswer, checked_rename]) hstore

theorem dispatch_insertion (hf : Function.Injective f) (hr : RunsRenamed f labels room r r')
    {d : Document} {label : ObjectId} (hd : d.Labelled [label]) (hlabel : label ∉ labels)
    (hid : (d.get? "_id").isSome) (collection : String) :
    Follows f (label :: labels) room id
      (Execution.dispatch store database (.insertion collection d))
      (Execution.dispatch store database (Command.rename f (.insertion collection d))) r r' := by
  obtain ⟨hanswer, hstore⟩ := hr.store.run_insertion database hf hd hlabel hid collection
  exact of_run hr (by rw [hanswer, Except.map_id]; rfl) hstore

/-! ### Reading -/

theorem documentsOf_rename (hf : Function.Injective f) (s : MemoryStore) {c : Command}
    (hc : c.Headed) (hfree : c.document.IdFree) (hcursor : c.verb.returnsCursor = true)
    (hspares : ∀ m ∈ s.met database c.document, m.SparesIdentifiers) :
    documentsOf database c (s.rename f) =
      (documentsOf database c s).map (List.map (Document.rename f)) := by
  have hverb : c.verb.name = "find" ∨ c.verb.name = "aggregate" := by
    revert hcursor
    cases c.verb <;> simp [Verb.returnsCursor, Verb.name]
  obtain ⟨v, rest, hdoc⟩ := hc
  have honline : (s.rename f).online = s.online := rfl
  have hstandalone : (s.rename f).standalone = s.standalone := rfl
  have htransaction : (s.rename f).inTransaction = s.inTransaction := rfl
  have hdatabases : (s.rename f).databases = s.databases.rename f := rfl
  rw [documentsOf, documentsOf, honline, hstandalone, htransaction, hdatabases]
  split
  · rfl
  split
  · rfl
  · next honline hstandalone =>
    have hserving : (s.online && !(s.standalone && s.inTransaction)) = true := by
      rw [Bool.not_eq_true] at hstandalone
      rw [hstandalone]
      simpa using honline
    rw [met, if_pos hserving] at hspares
    rw [Databases.retrieve_rename s.databases database hfree hf hverb hdoc hspares]
    cases s.databases.retrieve c.verb.name database c.document <;> rfl

/-- Documents are read alike if no stage on the way orders identifiers. -/
theorem fetch (hf : Function.Injective f) (hr : RunsRenamed f labels (room + 1) r r') {c : Command}
    (hc : c.Headed) (hname : c.Nameless)
    (hspares : ∀ m ∈ r.store.met database c.document, m.SparesIdentifiers) :
    Follows f labels room (List.map (Document.rename f)) (Execution.fetch store database c)
      (Execution.fetch store database c) r r' := by
  by_cases hcursor : c.verb.returnsCursor = true
  · have hroom := hr.store.alike.room
    obtain ⟨next, hle, hlt, hend⟩ := ends_fetch hr.store.sound
      (Nat.lt_of_lt_of_le (Nat.lt_add_of_pos_right (Nat.succ_pos room)) hroom.1) database hc hcursor
    obtain ⟨next', hle', hlt', hend'⟩ :=
      ends_fetch hr.store.alike.sound.2 (by omega) database hc hcursor
    rw [Agrees.documentsOf_congr hr.store.alike,
      documentsOf_rename hf r.store hc hname.idFree hcursor hspares] at hend'
    refine ⟨_, _, _, hend, hend', ?_, hr.lastInsertId, hr.ownsTransaction⟩
    exact hr.store.skip ⟨hle, hlt⟩ ⟨hle', hlt'⟩
  · rw [fetch_of_cursorless hcursor]
    exact throw (hr.mono (List.Subset.refl _) (Nat.le_succ room)) _

/-! ### Types -/

theorem spares_probe (s : MemoryStore) (database collection : String) (sources : List String) :
    ∀ m ∈ s.met database (Typing.probe collection sources).document, m.SparesIdentifiers := by
  intro m hm
  rw [MemoryStore.met] at hm
  split at hm
  · rw [Typing.probe, Databases.met_aggregate] at hm
    have hstage := Pipeline.mem_of_mem_met hm
    simp only [List.mem_cons, List.cons.injEq, Prod.mk.injEq, and_true, List.not_mem_nil,
      or_false] at hstage
    refine MetStage.spares_of_name ?_ ?_ <;>
      · rcases hstage with ⟨hname, -⟩ | ⟨hname, -⟩ | ⟨hname, -⟩ <;> rw [hname] <;> decide
  · cases hm

omit [Host] in
theorem nameless_probe (collection : String) (sources : List String) :
    (Typing.probe collection sources).Nameless := by
  have htypes : Document.IdFree ((Fields.ofList (sources.map fun s =>
      (Typing.probeKey s, Value.document [("$type", .string ("$" ++ s))]))).set idField (.int 0)) := by
    refine Document.IdFree.set (.ofList fun e he => ?_) _ rfl
    obtain ⟨_, -, rfl⟩ := List.mem_map.mp he
    rfl
  refine Command.Nameless.aggregate _ (List.forall_mem_cons.mpr ⟨.singleton _ rfl, ?_⟩)
  exact List.forall_mem_cons.mpr ⟨.singleton _ rfl,
    List.forall_mem_singleton.mpr (.singleton _ (Value.idFree_document.mpr htypes))⟩

theorem ofCollection (hf : Function.Injective f) (hr : RunsRenamed f labels (room + 1) r r')
    (collection : String) (isJoined : Bool) (types : TypeMap) (cs : List ProbeColumn) :
    Follows f labels room id
      (Typing.ofCollection (Execution.fetch store database) collection isJoined types cs)
      (Typing.ofCollection (Execution.fetch store database) collection isJoined types cs) r r' := by
  rw [Typing.ofCollection]
  split
  · exact (pure hr types).mono (List.Subset.refl _) (Nat.le_succ room)
  · refine (fetch hf hr (Command.headed_aggregate _ _) (nameless_probe _ _)
      (spares_probe _ _ _ _)).bind fun answers t t' ht => ?_
    cases answers with
    | nil =>
      dsimp only [List.map_nil]
      split
      · exact pure ht _
      · exact throw ht _
    | cons answer answers =>
      rw [List.map_cons]
      dsimp only
      rw [Typing.readProbe_rename]
      exact same ht _

theorem infer (hf : Function.Injective f) (hr : RunsRenamed f labels (room + 2) r r')
    (target : ProbeTarget) (sample : Document) :
    Follows f labels room id (Typing.infer (Execution.fetch store database) target sample)
      (Typing.infer (Execution.fetch store database) target (sample.rename f)) r r' := by
  rw [Typing.infer, Typing.infer, Typing.probedColumns_rename]
  refine (ofCollection hf hr _ _ _ _).bind_less (Nat.le_succ room) fun types t t' ht => ?_
  split
  · exact ofCollection hf ht _ _ _ _
  · exact (pure ht types).mono (List.Subset.refl _) (Nat.le_succ room)

/-! ### Statements -/

theorem decodeValues (hr : RunsRenamed f labels room r r') (output : String) (vs : List Value) :
    Follows f labels room id
      (vs.mapM fun v => do return [(output, ← Cell.decode output (.ofValue v) v)])
      (vs.mapM fun v => do return [(output, ← Cell.decode output (.ofValue v) v)]) r r' :=
  mapM hr (fun _ _ _ ht => (same ht _).bind fun cell _ _ hu => pure hu [(output, cell)]) vs

theorem decodeDistinct (hr : RunsRenamed f labels room r r') (output : String) (vs : List Value) :
    Follows f labels room id
      (vs.mapM fun v => do return [(output, ← Cell.decode output (.ofValue v) v)])
      ((vs.map (Value.rename f)).mapM fun v => do
        return [(output, ← Cell.decode output (.ofValue v) v)]) r r' := by
  rw [List.mapM_map]
  simp only [Function.comp_def, Value.ofValue_rename, Cell.decode_rename]
  exact decodeValues hr output vs

theorem runSelect (hf : Function.Injective f) (hr : RunsRenamed f labels (room + 3) r r') {p : Plan}
    (hp : p.Regular) (hname : p.Nameless) {strategy : Strategy} (hshape : p.shape = .select strategy)
    (hspares : ∀ c ∈ p.commands, ∀ m ∈ r.store.met database c.document, m.SparesIdentifiers) :
    Follows f labels room id (Gateway.runSelect store database p strategy)
      (Gateway.runSelect store database p strategy) r r' := by
  unfold Gateway.runSelect
  split
  · next output =>
    refine bind_lift hr (List.Subset.refl _) (Nat.le_add_right room 3) (Except.eq_map_id _)
      fun c hc => ?_
    have hmem : c ∈ p.commands := commands_of_singleCommand hc ▸ List.mem_singleton_self c
    have hplain : c.Plain := by
      rcases hp.2 with ⟨strategy, hselect, hother⟩ | hplain
      · rw [hshape] at hselect
        cases hselect
        exact absurd rfl (hother output)
      · exact hplain c hmem
    refine Follows.mono ?_ (List.Subset.refl _) (Nat.le_add_right room 3)
    by_cases hdistinct : c.verb = .distinct
    · refine (dispatch_distinct hf hr hplain (hname c hmem) hdistinct).bind fun response t t' ht => ?_
      refine bind_enter ht fun t t' ht _ => ?_
      refine (lift ht (distinctValues_rename response)).bind fun vs u u' hu => ?_
      exact decodeDistinct hu output vs
    · refine (dispatch hf hr hplain (hname c hmem) hdistinct).bind fun response t t' ht => ?_
      refine bind_enter ht fun t t' ht _ => (same ht _).bind fun vs u u' hu => ?_
      exact decodeValues hu output vs
  · refine bind_lift hr (List.Subset.refl _) (Nat.le_add_right room 3) (Except.eq_map_id _)
      fun c hc => ?_
    have hmem : c ∈ p.commands := commands_of_singleCommand hc ▸ List.mem_singleton_self c
    refine (fetch hf hr (headed_singleCommand hp.1 hc) (hname c hmem) (hspares c hmem)).bind_less
      (Nat.le_add_right room 2) fun docs t t' ht => ?_
    cases docs with
    | nil => exact (pure ht []).mono (List.Subset.refl _) (Nat.le_add_right room 2)
    | cons sample docs =>
      rw [List.map_cons]
      refine bind_enter ht fun t t' ht _ => ?_
      split
      · exact (throw ht _).mono (List.Subset.refl _) (Nat.le_add_right room 2)
      · refine (infer hf ht _ sample).bind fun types u u' hu => bind_enter hu fun v v' hv _ => ?_
        rw [← List.map_cons, Row.ofDocuments_rename]
        exact same hv _

/-- Commands that name no identifiers have the same effect. -/
theorem runCommands (hf : Function.Injective f) (hr : RunsRenamed f labels room r r')
    {cs : List Command} (hcs : ∀ c ∈ cs, c.Plain) (hname : ∀ c ∈ cs, c.Nameless) (affected : Int64) :
    Follows f labels room id (Gateway.runCommands store database affected cs)
      (Gateway.runCommands store database affected cs) r r' := by
  induction cs generalizing affected r r' with
  | nil => exact pure hr affected
  | cons c cs ih =>
    obtain ⟨hc, hcs⟩ := List.forall_mem_cons.mp hcs
    obtain ⟨hcname, hname⟩ := List.forall_mem_cons.mp hname
    by_cases hdistinct : c.verb = .distinct
    · -- what such a command answers is not looked at
      have hread : (!c.verb.isWrite || affected == unknownAffected) = true := by
        rw [hdistinct]
        rfl
      refine (dispatch_distinct hf hr hc hcname hdistinct).bind fun response t t' ht => ?_
      dsimp only
      rw [if_pos hread, if_pos hread]
      exact ih ht hcs hname affected
    · exact (dispatch hf hr hc hcname hdistinct).bind fun response t t' ht => ih ht hcs hname _

/-- So does the storing of a document under the new name of its identifier. -/
theorem runInsertion (hf : Function.Injective f) (hr : RunsRenamed f labels room r r')
    {d : Document} {label : ObjectId} (hd : d.Labelled [label]) (hlabel : label ∉ labels)
    (hid : (d.get? "_id").isSome) (collection : String) (affected : Int64) :
    Follows f (label :: labels) room id
      (Gateway.runCommands store database affected [.insertion collection d])
      (Gateway.runCommands store database affected
        [Command.rename f (.insertion collection d)]) r r' :=
  (dispatch_insertion hf hr hd hlabel hid collection).bind fun _ _ _ ht => pure ht _

theorem runWrites {p p' : Plan} (hshape : p'.shape = p.shape)
    (hcommands : Follows f labels room id (Gateway.runCommands store database 0 p.commands)
      (Gateway.runCommands store database 0 p'.commands) r r') :
    Follows f labels room id (Gateway.runWrites store database p)
      (Gateway.runWrites store database p') r r' := by
  refine hcommands.bind fun affected t t' ht => ?_
  dsimp only [id]
  rw [hshape]
  split
  · refine bind_get ?_
    rw [ht.lastInsertId]
    exact pure ht _
  · exact pure ht _

/-- A plan is carried out alike under another identifier. -/
theorem perform (hf : Function.Injective f) (hr : RunsRenamed f labels (room + 3) r r') {p : Plan}
    (hp : p.Regular) {label : ObjectId} (hnames : p.NamesOnly label) (hlabel : label ∉ labels)
    (hspares : ∀ c ∈ p.commands, ∀ m ∈ r.store.met database c.document, m.SparesIdentifiers) :
    Follows f (label :: labels) room id (Gateway.perform store database p)
      (Gateway.perform store database (p.rename f)) r r' := by
  have hmore := List.subset_cons_self label labels
  have hless := Nat.le_add_right room 3
  rcases hnames with hname | ⟨hshape, collection, d, hcommands, hd, hid⟩
  · rw [Plan.rename_of_nameless hname]
    unfold Gateway.perform
    split
    · next strategy hshape =>
      exact (runSelect hf hr hp hname hshape hspares).mono hmore (Nat.le_refl room)
    · next hshape =>
      have hplain : ∀ c ∈ p.commands, c.Plain := by
        rcases hp.2 with ⟨strategy, hselect, -⟩ | hplain
        · exact absurd hselect (hshape strategy)
        · exact hplain
      exact ((runWrites rfl (runCommands hf hr hplain hname 0)).map _).mono hmore hless
  · have hcommands' : (p.rename f).commands =
        [Command.rename f (.insertion collection d)] := by
      rw [Plan.rename, hcommands]
      rfl
    have hshape' : (p.rename f).shape = .insert := hshape
    have hwrites : Follows f (label :: labels) (room + 3) id (Gateway.runWrites store database p)
        (Gateway.runWrites store database (p.rename f)) r r' := by
      refine runWrites (hshape'.trans hshape.symm) ?_
      rw [hcommands, hcommands']
      exact runInsertion hf hr hd hlabel hid collection 0
    unfold Gateway.perform
    rw [hshape, hshape']
    exact (hwrites.map _).mono (List.Subset.refl _) hless

/-! ### Keys -/

theorem documentsOf_of_ends {c : Command} (hc : c.Headed) {docs : List Document}
    {t : Run MemoryStore} (h : Ends (Execution.fetch store database c) r (.ok docs) t)
    (hs : r.store.Sound) (hroom : r.store.nextCursor < 2 ^ 63) :
    documentsOf database c r.store = .ok docs ∧ Alike 0 r.store t.store := by
  by_cases hcursor : c.verb.returnsCursor = true
  · obtain ⟨next, hle, hlt, hend⟩ := ends_fetch hs hroom database hc hcursor
    have hsame := Option.some.inj (h.symm.trans hend)
    refine ⟨(congrArg Prod.fst hsame).symm, ?_⟩
    rw [show t = _ from congrArg Prod.snd hsame]
    exact (Alike.refl hs hroom).skip ⟨Nat.le_refl _, Nat.le_succ _⟩ ⟨hle, hlt⟩
  · rw [fetch_of_cursorless hcursor] at h
    cases h

theorem sampleNextKey (hf : Function.Injective f) (hr : RunsRenamed f labels (room + 1) r r')
    {c : CountedColumn} (hspares : KeySparesIdentifiers database c r.store) :
    Follows f labels room id (Gateway.sampleNextKey store database c)
      (Gateway.sampleNextKey store database c) r r' := by
  refine bind_lift hr (List.Subset.refl _) (Nat.le_succ room) (Except.eq_map_id _)
    fun plan hplan => ?_
  refine bind_lift hr (List.Subset.refl _) (Nat.le_succ room) (Except.eq_map_id _)
    fun command hcommand => ?_
  have hmem : command ∈ plan.commands :=
    commands_of_singleCommand hcommand ▸ List.mem_singleton_self command
  have hkey : command ∈ keyCommands c := by
    rw [keyCommands, hplan]
    exact hmem
  have hheaded := headed_singleCommand (Plan.headed_ofSelect hplan) hcommand
  refine (fetch hf hr hheaded (Plan.nameless_ofSelect hplan command hmem)
    (hspares.stages command hkey)).bind_of_ends (List.Subset.refl _) (Nat.le_refl _)
      fun docs t t' hend ht => ?_
  have hroom := hr.store.alike.room.1
  obtain ⟨hdocs, -⟩ := documentsOf_of_ends hheaded hend hr.store.sound
    (Nat.lt_of_lt_of_le (Nat.lt_add_of_pos_right (Nat.succ_pos room)) hroom)
  rw [NextKey.following_rename (hspares.key command hkey docs hdocs)]
  exact same ht _

theorem withKey (hf : Function.Injective f) (hr : RunsRenamed f labels (room + 1) r r') {p : Plan}
    {label : ObjectId} (hnames : p.NamesOnly label)
    (hspares : ∀ c, p.autoIncrement = some c → KeySparesIdentifiers database c r.store) :
    Follows f labels room (Plan.rename f) (Gateway.withKey store database p)
      (Gateway.withKey store database (p.rename f)) r r' := by
  have hauto : (p.rename f).autoIncrement = p.autoIncrement := rfl
  unfold Gateway.withKey
  rw [hauto]
  split
  · exact (pure hr p).mono (List.Subset.refl _) (Nat.le_succ room)
  · next c hc =>
    refine bind_enter hr fun t t' ht hstore => ?_
    refine (sampleNextKey hf ht (hstore ▸ hspares c hc)).bind fun key u u' hu => ?_
    have hset : Follows f labels room id
        (MonadState.modifyGet fun r : Run MemoryStore => ((), { r with lastInsertId := some key }))
        (MonadState.modifyGet fun r : Run MemoryStore => ((), { r with lastInsertId := some key }))
        u u' := modify _ ⟨hu.store, rfl, hu.ownsTransaction⟩
    refine hset.bind fun _ v v' hv => ?_
    have hrename : (p.rename f).setInserted c.column (.ofInt64 key) =
        (p.setInserted c.column (.ofInt64 key)).rename f :=
      Plan.setInserted_rename hnames c.column rfl
    have hnumbered := pure (g := Plan.rename f) hv (p.setInserted c.column (.ofInt64 key))
    rwa [← hrename] at hnumbered

theorem prepare (hf : Function.Injective f) (hr : RunsRenamed f labels (room + 1) r r')
    (label : ObjectId) (t : QueryTree)
    (hspares : ∀ p c, Plan.ofTree label t = .ok p → p.autoIncrement = some c →
      KeySparesIdentifiers database c r.store) :
    Follows f labels room (Plan.rename f) (Gateway.prepare store database label t)
      (Gateway.prepare store database (f label) t) r r' := by
  refine bind_enter hr fun u u' hu hstore => ?_
  refine bind_lift hu (List.Subset.refl _) (Nat.le_succ room) (Plan.ofTree_rename label t)
    fun p hp => withKey hf hu (Plan.namesOnly_ofTree hp) fun c hc => ?_
  exact hstore ▸ hspares p c hp hc

/-! ### Transactions -/

theorem openTransaction (hr : RunsRenamed f labels room r r') :
    Follows f labels room id (Gateway.openTransaction store) (Gateway.openTransaction store) r r' := by
  refine bind_get ?_
  have hopen : store.inTransaction r'.store = store.inTransaction r.store :=
    hr.store.alike.transactionActive
  rw [hopen]
  split
  · refine bind_enter hr fun t t' ht _ => (call ht ht.store.startTransaction).bind fun _ u u' hu => ?_
    exact modify _ ⟨hu.store, hu.lastInsertId, rfl⟩
  · exact pure hr _

theorem closeTransaction (hr : RunsRenamed f labels room r r') :
    Follows f labels room id (Gateway.closeTransaction store) (Gateway.closeTransaction store) r r' := by
  refine bind_get ?_
  rw [hr.ownsTransaction]
  split
  · refine bind_enter hr fun t t' ht _ => (call ht ht.store.commitTransaction).bind fun _ u u' hu => ?_
    exact modify _ ⟨hu.store, hu.lastInsertId, rfl⟩
  · exact pure hr _

end Follows

/-! ### Whole runs -/

variable [Host]

theorem met_insertion (s : MemoryStore) (database collection : String) (d : Document) :
    s.met database (Command.insertion collection d).document = [] := by
  rw [MemoryStore.met]
  split <;> rfl

/-- A plan that has been prepared has the commands of the statement's plan, unless it stores a
document; and nothing but the number of the next cursor has changed. -/
theorem prepared_of_ends (hs : r.store.Sound) (hroom : r.store.nextCursor < 2 ^ 63)
    {label : ObjectId} {t : QueryTree} {p : Plan} {u : Run MemoryStore}
    (h : Ends (Gateway.prepare store database label t) r (.ok p) u) :
    ∃ planned, Plan.ofTree label t = .ok planned ∧ p.NamesOnly label ∧
      (∀ c ∈ p.commands, c ∈ planned.commands ∨ ∃ collection d, c = .insertion collection d) ∧
      Alike 0 r.store u.store := by
  rw [Gateway.prepare, ends_bind_enter] at h
  obtain ⟨planned, hplanned, h⟩ := ends_bind_lift_ok h
  have hnames := Plan.namesOnly_ofTree hplanned
  unfold Gateway.withKey at h
  split at h
  · obtain ⟨hp, rfl⟩ := ends_pure.mp h
    cases hp
    exact ⟨p, hplanned, hnames, fun c hc => .inl hc, .refl hs (Nat.le_of_lt hroom)⟩
  · next counted _ =>
    rw [ends_bind_enter] at h
    obtain ⟨key, r₁, hkey, h⟩ := ends_bind_ok.mp h
    obtain ⟨_, r₂, hset, h⟩ := ends_bind_ok.mp h
    obtain ⟨hp, rfl⟩ := ends_pure.mp h
    obtain ⟨plan, hplan, hkey⟩ := ends_bind_lift_ok hkey
    obtain ⟨command, hcommand, hkey⟩ := ends_bind_lift_ok hkey
    obtain ⟨docs, r₃, hfetch, hkey⟩ := ends_bind_ok.mp hkey
    obtain ⟨-, rfl⟩ := ends_lift.mp hkey
    have hheaded := headed_singleCommand (Plan.headed_ofSelect hplan) hcommand
    obtain ⟨-, halike⟩ := Follows.documentsOf_of_ends hheaded hfetch hs hroom
    have hstore : Alike 0 r.store u.store := by
      cases hset
      exact halike
    cases hp
    refine ⟨planned, hplanned, hnames.setInserted counted.column rfl, fun c hc => ?_, hstore⟩
    rcases hnames with hname | ⟨-, collection, d, hcommands, -, -⟩
    · have hsame := Plan.setInserted_of_nameless hname counted.column (.ofInt64 key)
      exact .inl (congrArg Plan.commands hsame ▸ hc)
    · refine .inr ⟨collection, d.set counted.column (.ofInt64 key), ?_⟩
      rw [hcommands] at hc
      exact List.mem_singleton.mp hc

theorem store_of_openTransaction {u : Run MemoryStore}
    (h : Ends (Gateway.openTransaction store) r (.ok ()) u) :
    u.store = Gateway.opened store true r.store := by
  rw [Ends, run_openTransaction] at h
  rw [Gateway.opened]
  split at h
  · next hopen =>
    rw [hopen]
    exact (congrArg (Run.store ∘ Prod.snd) (Option.some.inj h)).symm
  · next hopen =>
    rw [Bool.not_eq_true] at hopen
    rw [hopen]
    dsimp only at h
    split at h
    · cases h
    · exact (congrArg (Run.store ∘ Prod.snd) (Option.some.inj h)).symm

namespace Follows

/-- A whole run under another identifier, over a store that holds the same under other identifiers,
has the same outcome. -/
theorem runTree (hf : Function.Injective f) {s s' : MemoryStore}
    (hs : Renames f labels (room + 4) s s') {label : ObjectId} (hlabel : label ∉ labels)
    (t : QueryTree) (autoCommit : Bool)
    (hspares : SparesIdentifiers database label t autoCommit s) :
    Follows f (label :: labels) room id (Gateway.runTree store database label t autoCommit)
      (Gateway.runTree store database (f label) t autoCommit) { store := s } { store := s' } := by
  have hr : RunsRenamed f labels (room + 4) { store := s } { store := s' } := ⟨hs, rfl, rfl⟩
  have hroom : s.nextCursor < 2 ^ 63 := by
    have hle : s.nextCursor + (room + 4) ≤ 2 ^ 63 := hs.alike.room.1
    omega
  rw [runTree_eq, runTree_eq]
  -- one cursor for the key, then three for the rows and for the types of two collections
  refine (prepare hf hr label t hspares.key).bind_of_ends (List.subset_cons_self label labels)
    (Nat.le_add_right room 3) fun p u u' hend hu => ?_
  obtain ⟨planned, hplanned, hnames, hcommands, halike⟩ := prepared_of_ends hs.sound hroom hend
  have hregular := Agrees.regular_of_prepare hend
  have hrest {v v' : Run MemoryStore} (hv : RunsRenamed f labels (room + 3) v v')
      (hopened : v.store = Gateway.opened store autoCommit u.store) :
      Follows f (label :: labels) room id (do
        Execution.enter .executing
        let rows ← Gateway.perform store database p
        Gateway.closeTransaction store
        return rows) (do
        Execution.enter .executing
        let rows ← Gateway.perform store database (p.rename f)
        Gateway.closeTransaction store
        return rows) v v' := by
    refine bind_enter hv fun w w' hw hstore' => ?_
    refine (perform hf hw hregular hnames hlabel fun c hc m hm => ?_).bind fun rows x x' hx =>
      (closeTransaction hx).bind fun _ y y' hy => pure hy rows
    rw [hstore', hopened, (alike_opened halike autoCommit).met] at hm
    rcases hcommands c hc with hc | ⟨collection, d, rfl⟩
    · exact hspares.rows planned hplanned c hc m hm
    · rw [met_insertion] at hm
      cases hm
  dsimp only
  cases autoCommit with
  | false => exact hrest hu rfl
  | true =>
    refine (openTransaction hu).bind_of_ends (List.subset_cons_self label labels)
      (Nat.le_add_right room 3) fun _ v v' hopen hv => ?_
    exact hrest hv (store_of_openTransaction hopen)

end Follows

theorem runsRenamed_settle {r r' : Run MemoryStore} (h : RunsRenamed f labels room r r')
    (failed : Bool) :
    RunsRenamed f labels room (Gateway.settle store failed r) (Gateway.settle store failed r') := by
  have hopen : store.inTransaction r'.store = store.inTransaction r.store :=
    h.store.alike.transactionActive
  unfold Gateway.settle
  rw [hopen, h.ownsTransaction]
  dsimp only
  split
  · exact ⟨h.store.abortTransaction, h.lastInsertId, rfl⟩
  · exact ⟨h.store, h.lastInsertId, h.ownsTransaction⟩

/-- A statement that spares identifiers has the same outcome under another one, over a store that
holds the same under other identifiers, and leaves such a store. -/
theorem execute_rename (hf : Function.Injective f) {s s' : MemoryStore}
    (hs : Renames f labels (room + 4) s s') {label : ObjectId} (hlabel : label ∉ labels)
    (t : QueryTree) (autoCommit : Bool)
    (hspares : SparesIdentifiers database label t autoCommit s) :
    ∃ result r r', Gateway.execute store database label t autoCommit s = some (result, r) ∧
      Gateway.execute store database (f label) t autoCommit s' = some (result, r') ∧
        RunsRenamed f (label :: labels) room r r' := by
  obtain ⟨result, r, r', hend, hend', hr⟩ := Follows.runTree hf hs hlabel t autoCommit hspares
  rw [← Except.eq_map_id] at hend'
  exact ⟨result, _, _, execute_of_ends hend, execute_of_ends hend', runsRenamed_settle hr _⟩

/-! ### Coming back -/

theorem renames_opened {s s' : MemoryStore} (hs : Renames f labels room s s') (autoCommit : Bool) :
    Renames f labels room (Gateway.opened store autoCommit s)
      (Gateway.opened store autoCommit s') := by
  have hopen : store.inTransaction s' = store.inTransaction s := hs.alike.transactionActive
  rw [Gateway.opened, Gateway.opened, hopen]
  split
  · exact hs.startTransaction.2
  · exact hs

/-- The storing of a document always comes back. -/
theorem comesBack_insertion (s : MemoryStore) (database collection : String) (d : Document) :
    store.comesBack s database (Command.insertion collection d).document = true := by
  have hmet := met_insertion s database collection d
  change MemoryStore.comesBack s database _ = true
  rw [MemoryStore.comesBack, hmet, List.all_nil]

/-- A command that spares identifiers comes back over a store that holds the same under other
identifiers just if it does so over the store. -/
theorem storeComesBack_rename (hf : Function.Injective f) {s s' : MemoryStore}
    (hs : Renames f labels room s s') {c : Command} (hc : c.Nameless)
    (hspares : ∀ m ∈ s.met database c.document, m.SparesIdentifiers) :
    store.comesBack s' database c.document = store.comesBack s database c.document :=
  (hs.alike.comesBack database c.document).trans
    (MemoryStore.comesBack_rename database hf s hc.idFree hspares)

theorem nameless_of_mem_keyCommands {c : CountedColumn} {command : Command}
    (h : command ∈ keyCommands c) : command.Nameless := by
  rw [keyCommands] at h
  split at h
  · next plan hplan => exact Plan.nameless_ofSelect hplan command h
  · cases h

theorem allComeBack_rename (hf : Function.Injective f) {s s' : MemoryStore}
    (hs : Renames f labels room s s') {cs : List Command} (hcs : ∀ c ∈ cs, c.Nameless)
    (hspares : ∀ c ∈ cs, ∀ m ∈ s.met database c.document, m.SparesIdentifiers) :
    (cs.all fun c => store.comesBack s' database c.document) =
      cs.all fun c => store.comesBack s database c.document := by
  rw [Bool.eq_iff_iff, List.all_eq_true, List.all_eq_true]
  exact forall₂_congr fun c hc => by rw [storeComesBack_rename hf hs (hcs c hc) (hspares c hc)]

/-- So does a statement. -/
theorem comesBack_rename (hf : Function.Injective f) {s s' : MemoryStore}
    (hs : Renames f labels room s s') {label : ObjectId} (t : QueryTree) (autoCommit : Bool)
    (hspares : SparesIdentifiers database label t autoCommit s) :
    Gateway.comesBack store database (f label) t autoCommit s' =
      Gateway.comesBack store database label t autoCommit s := by
  have hplan {p : Plan} (hp : Plan.ofTree label t = .ok p) :
      Gateway.commandsComeBack store database (p.rename f) autoCommit s' =
        Gateway.commandsComeBack store database p autoCommit s := by
    have hauto : (p.rename f).autoIncrement = p.autoIncrement := rfl
    rw [Gateway.commandsComeBack, Gateway.commandsComeBack, hauto]
    split
    · next c hc =>
      exact allComeBack_rename hf hs (fun _ => nameless_of_mem_keyCommands)
        (hspares.key p c hp hc).stages
    · have hs' := renames_opened hs autoCommit
      rcases Plan.namesOnly_ofTree hp with hname | ⟨-, collection, d, hcommands, -⟩
      · rw [Plan.rename_of_nameless hname]
        exact allComeBack_rename hf hs' hname (hspares.rows p hp)
      · rw [Plan.rename, hcommands, List.map_singleton, Command.rename_insertion]
        rw [List.all_cons, List.all_cons, comesBack_insertion, comesBack_insertion, List.all_nil,
          List.all_nil]
  rw [Gateway.comesBack, Gateway.comesBack, Plan.ofTree_rename]
  cases hp : Plan.ofTree label t with
  | error e => rfl
  | ok p =>
    change (t.planComesBack && Gateway.commandsComeBack store database (p.rename f) autoCommit s') = _
    rw [hplan hp]

end SqlGateway.Execution
