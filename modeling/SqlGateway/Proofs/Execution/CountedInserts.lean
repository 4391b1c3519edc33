import SqlGateway.Proofs.Execution.Keys
import SqlGateway.Proofs.Execution.Ready
import SqlGateway.Proofs.Plan.Writes

/-! Inserts into a collection with a counted column. Each one that succeeds stores a document with
the key after the greatest in the collection, so that the keys of inserts in a row are consecutive;
none succeeds once the greatest 64-bit number is taken. -/

namespace SqlGateway.Gateway

attribute [local instance] Host.universal

open Execution MemoryStore NextKey

variable {database collection column : String}

/-! ### The key of an insert -/

theorem ends_sampleNextKey [Host] {r : Run MemoryStore} (hserving : r.store.Serving) {c : CountedColumn}
    (hcolumn : PlainName c.column)
    (hdocs : ∀ d ∈ r.store.databases.documents database c.collection, Countable (d.get? c.column)) :
    Ends (sampleNextKey store database c) r
      (if greatest? c.column (r.store.databases.documents database c.collection) = some greatest then
        .error (.nonNumericAutoIncrement c.column "overflowing key")
      else
        .ok (keyAfter (greatest? c.column (r.store.databases.documents database c.collection)))) r := by
  obtain ⟨plan, hplan, hcommand⟩ := singleCommand_query hcolumn
  obtain ⟨result, hresult, hshort, hcountable, hgreatest⟩ :=
    retrieve_command hcolumn r.store.databases database hdocs
  have hheaded : (command c).Headed := ⟨_, _, rfl⟩
  rw [← hgreatest, ← following_of_countable c.column hcountable]
  refine ends_bind.mpr (.inl ⟨plan, r, ends_lift.mpr ⟨hplan.symm, rfl⟩, ?_⟩)
  refine ends_bind.mpr (.inl ⟨command c, r, ends_lift.mpr ⟨hcommand.symm, rfl⟩, ?_⟩)
  refine ends_bind.mpr (.inl ⟨_, r, ends_fetch_short hserving hheaded rfl hresult hshort, ?_⟩)
  exact ends_lift.mpr ⟨rfl, rfl⟩

/-- The plan of an insert whose document has its key. -/
def numberedInsert [Host] (id : ObjectId) (collection column : String) (values : Assignments) (key : Int) :
    Plan :=
  let p := Plan.ofInsert id collection (some column) values
  { p with commands := p.commands.map fun c => (c.setInserted column (.ofInt64 key)).1 }

/-- The document of an insert that has its key. -/
def numberedDocument [Host] (id : ObjectId) (column : String) (values : Assignments) (key : Int) :
    Document :=
  (Plan.insertedDocument id (some column) values).set column (.ofInt64 key)

theorem commands_numberedInsert [Host] (id : ObjectId) (values : Assignments) (key : Int) :
    (numberedInsert id collection column values key).commands =
      [⟨.insert, collection,
        Databases.insertOf collection (numberedDocument id column values key)⟩] := rfl

theorem isSome_numberedDocument [Host] (id : ObjectId) (values : Assignments) (key : Int) :
    (Fields.get? (numberedDocument id column values key) "_id").isSome := by
  rw [numberedDocument, Fields.get?_set]
  split
  · rfl
  · exact Plan.isSome_insertedDocument id (some column) values

/-- A run that is about to look for a key. -/
def probing (s : MemoryStore) : Run MemoryStore where
  store := s
  progress := (Progress.start.enter .planning).enter .autoIncrementProbe

section

variable {s : MemoryStore} (hserving : s.Serving) (hcolumn : PlainName column)
  (hdocs : ∀ d ∈ s.databases.documents database collection, Countable (d.get? column))
  (id : ObjectId) (values : Assignments)

include hserving hcolumn hdocs

theorem ends_prepare_overflow [Host]
    (hfull : greatest? column (s.databases.documents database collection) = some greatest) :
    Ends (prepare store database id (.document (.insert collection (some column) values)))
      { store := s } (.error (.nonNumericAutoIncrement column "overflowing key")) (probing s) := by
  have hsample := ends_sampleNextKey (r := probing s) (c := ⟨collection, column⟩) hserving hcolumn
    hdocs
  rw [probing, if_pos hfull] at hsample
  rw [prepare, ends_bind_enter]
  refine ends_bind.mpr (.inl ⟨_, _, ends_lift.mpr ⟨rfl, rfl⟩, ?_⟩)
  exact ends_bind_enter.mpr (ends_bind.mpr (.inr ⟨_, hsample, rfl⟩))

theorem ends_prepare_counted [Host] {key : Int}
    (hkey : keyAfter (greatest? column (s.databases.documents database collection)) = key)
    (hroom : greatest? column (s.databases.documents database collection) ≠ some greatest) :
    Ends (prepare store database id (.document (.insert collection (some column) values)))
      { store := s } (.ok (numberedInsert id collection column values key))
      { probing s with lastInsertId := some key } := by
  have hsample := ends_sampleNextKey (r := probing s) (c := ⟨collection, column⟩) hserving hcolumn
    hdocs
  rw [probing, if_neg hroom] at hsample
  rw [prepare, ends_bind_enter]
  refine ends_bind.mpr (.inl ⟨_, _, ends_lift.mpr ⟨rfl, rfl⟩, ?_⟩)
  refine ends_bind_enter.mpr (ends_bind.mpr (.inl ⟨_, probing s, hsample, ?_⟩))
  rw [← hkey]
  rfl

/-! ### One insert -/

theorem execute_overflow [Host]
    (hfull : greatest? column (s.databases.documents database collection) = some greatest)
    (autoCommit : Bool) :
    ∃ r, execute store database id (.document (.insert collection (some column) values)) autoCommit s
        = some (.error (.nonNumericAutoIncrement column "overflowing key"), r) ∧ r.store = s := by
  have hprepare := ends_prepare_overflow hserving hcolumn hdocs id values hfull
  have hrun : Ends (runTree store database id (.document (.insert collection (some column) values))
      autoCommit) { store := s } (.error (.nonNumericAutoIncrement column "overflowing key"))
      (probing s) := by
    rw [runTree_eq]
    exact ends_bind.mpr (.inr ⟨_, hprepare, rfl⟩)
  exact ⟨_, execute_of_ends hrun, settle_store_of_not_owned (.inr rfl)⟩

/-- An insert that succeeds has stored its document under the next key. -/
theorem execute_counted [Host] (hcommitting : s.standalone = false) {key : Int}
    (hkey : keyAfter (greatest? column (s.databases.documents database collection)) = key)
    (hroom : greatest? column (s.databases.documents database collection) ≠ some greatest)
    (autoCommit : Bool) :
    ∃ result r, execute store database id (.document (.insert collection (some column) values))
        autoCommit s = some (result, r) ∧
      ∀ rows, result = .ok rows → rows = [insertedRow (Int64.ofInt key)] ∧
        r.store.databases =
          s.databases.appended database collection (numberedDocument id column values key) ∧
        r.store.online = true ∧ r.store.standalone = false := by
  have hprepare : Leads (({ store := s } : Run MemoryStore) = ·)
      (prepare store database id (.document (.insert collection (some column) values)))
      (fun p r => p = numberedInsert id collection column values key ∧
        Ready s.databases (some key) r) (fun _ => True) := by
    refine leads_of_ends (ends_prepare_counted hserving hcolumn hdocs id values hkey hroom) ?_
      fun _ _ => trivial
    rintro _ ⟨⟩
    exact ⟨rfl, rfl, hserving.1, hcommitting, rfl, nofun⟩
  have hperform : Leads (Ready s.databases (some key))
      (perform store database (numberedInsert id collection column values key))
      (fun rows r => rows = [insertedRow (Int64.ofInt key)] ∧ Ready (s.databases.appended database
        collection (numberedDocument id column values key)) (some key) r) (fun _ => True) :=
    leads_perform_insert rfl (commands_numberedInsert id values key) rfl rfl
      (isSome_numberedDocument id values key) fun _ _ => trivial
  obtain ⟨result, r, r', hexecute, houtcome⟩ :=
    exists_execute (Ready.leads_runTree hprepare hperform autoCommit)
  refine ⟨result, r, hexecute, ?_⟩
  rintro rows rfl
  obtain ⟨⟨hrows, hready⟩, hstore⟩ := houtcome
  rw [hstore]
  exact ⟨hrows, hready.databases, hready.online, hready.committing⟩

/-- The two ends of one insert: none without room for a key, and the next key if it succeeds. -/
theorem execute_next [Host] (hcommitting : s.standalone = false) (autoCommit : Bool) :
    ∃ result r, execute store database id (.document (.insert collection (some column) values))
        autoCommit s = some (result, r) ∧
      (greatest? column (s.databases.documents database collection) = some greatest →
        result = .error (.nonNumericAutoIncrement column "overflowing key") ∧
          r.store.databases = s.databases) ∧
      ∀ rows, result = .ok rows → ∃ key : Int64,
        key.toInt = keyAfter (greatest? column (s.databases.documents database collection)) ∧
        rows = [insertedRow key] ∧
        (∃ d, r.store.databases.documents database collection =
            s.databases.documents database collection ++ [d] ∧
          d.get? column = some (.long key)) ∧
        r.store.online = true ∧ r.store.standalone = false := by
  by_cases hfull : greatest? column (s.databases.documents database collection) = some greatest
  · obtain ⟨r, hexecute, hstore⟩ :=
      execute_overflow hserving hcolumn hdocs id values hfull autoCommit
    exact ⟨_, r, hexecute, fun _ => ⟨rfl, by rw [hstore]⟩, nofun⟩
  · obtain ⟨key, hkey⟩ :
        ∃ key, keyAfter (greatest? column (s.databases.documents database collection)) = key :=
      ⟨_, rfl⟩
    obtain ⟨result, r, hexecute, hrows⟩ :=
      execute_counted hserving hcolumn hdocs id values hcommitting hkey hfull autoCommit
    refine ⟨result, r, hexecute, fun h => absurd h hfull, fun rows hok => ?_⟩
    obtain ⟨hrow, hdbs, honline, hstandalone⟩ := hrows rows hok
    have hnumber := toInt_keyAfter hdocs hfull
    rw [hkey] at hnumber
    refine ⟨Int64.ofInt key, by rw [hnumber, hkey], hrow,
      ⟨numberedDocument id column values key, ?_, ?_⟩, honline, hstandalone⟩
    · rw [hdbs, Databases.documents_appended]
    · rw [numberedDocument, Fields.get?_set, if_pos rfl]
      rfl

end

/-! ### Inserts in a row -/

/-- Whether inserts into a counted column, one after another from a state of a store, all succeed,
with which rows and in which state at the end. -/
inductive InsertsAll [Host] (database collection column : String) :
    MemoryStore → List (List Row) → MemoryStore → Prop
  | none (s : MemoryStore) : InsertsAll database collection column s [] s
  | next {s t : MemoryStore} {id : ObjectId} {values : Assignments} {autoCommit : Bool}
    {rows : List Row} {r : Run MemoryStore} {answers : List (List Row)}
    (hexecute : execute store database id (.document (.insert collection (some column) values))
      autoCommit s = some (.ok rows, r))
    (hrest : InsertsAll database collection column r.store answers t) :
    InsertsAll database collection column s (rows :: answers) t

/-- Keys from a first one on, each one more than the one before. -/
def Counts : Int → List Int64 → Prop
  | _, [] => True
  | first, key :: keys => key.toInt = first ∧ Counts (first + 1) keys

theorem Counts.pairwise {first : Int} {keys : List Int64} (h : Counts first keys) :
    keys.Pairwise (· < ·) := by
  have hbound {first : Int} {keys : List Int64} (h : Counts first keys) :
      ∀ key ∈ keys, first ≤ key.toInt := by
    induction keys generalizing first with
    | nil => exact fun _ hkey => nomatch hkey
    | cons key keys ih =>
      refine List.forall_mem_cons.mpr ⟨Int.le_of_eq h.1.symm, fun k hk => ?_⟩
      have := ih h.2 k hk
      omega
  induction keys generalizing first with
  | nil => exact .nil
  | cons key keys ih =>
    refine List.pairwise_cons.mpr ⟨fun k hk => Int64.lt_iff_toInt_lt.mpr ?_, ih h.2⟩
    have := hbound h.2 k hk
    have := h.1
    omega

/-- Inserts in a row count up from the key after the greatest. -/
theorem counts_of_insertsAll [Host] {s t : MemoryStore} {answers : List (List Row)}
    (h : InsertsAll database collection column s answers t) (honline : s.online = true)
    (hcommitting : s.standalone = false) (hcolumn : PlainName column)
    (hdocs : ∀ d ∈ s.databases.documents database collection, Countable (d.get? column)) :
    ∃ keys : List Int64, answers = keys.map (fun key => [insertedRow key]) ∧
      Counts (keyAfter (greatest? column (s.databases.documents database collection))) keys := by
  -- every insert leaves a column that can be counted on from its own key
  induction h with
  | none s => exact ⟨[], rfl, trivial⟩
  | @next s t id values autoCommit rows r answers hexecute hrest ih =>
    have hserving := (Ready.start honline hcommitting).serving
    obtain ⟨result, r', hexecute', -, hok⟩ :=
      execute_next hserving hcolumn hdocs id values hcommitting autoCommit
    obtain ⟨rfl, rfl⟩ : Except.ok rows = result ∧ r = r' := by
      have := hexecute.symm.trans hexecute'
      cases this
      exact ⟨rfl, rfl⟩
    obtain ⟨key, hkey, rfl, ⟨d, hafter, hd⟩, honline', hcommitting'⟩ := hok rows rfl
    have hheld : held? column d = some (keyAfter
        (greatest? column (s.databases.documents database collection))) := by
      rw [held?, hd, ← hkey]
      rfl
    obtain ⟨keys, rfl, hcounts⟩ := ih honline' hcommitting' (by
      rw [hafter]
      refine List.forall_mem_append.mpr ⟨hdocs, List.forall_mem_singleton.mpr ?_⟩
      rw [hd]
      exact .long key)
    refine ⟨key :: keys, rfl, hkey, ?_⟩
    rwa [hafter, greatest?_append hheld] at hcounts

/-- An insert into a counted column that holds nothing but whole numbers and nulls stores its
document under the key after the greatest, and tells it; it fails if no 64-bit number comes after,
and then nothing changes. Inserts in a row have consecutive keys. -/
theorem counted_inserts [Host] {s : MemoryStore} (honline : s.online = true)
    (hcommitting : s.standalone = false) (database collection : String) {column : String}
    (hcolumn : PlainName column)
    (hdocs : ∀ d ∈ s.databases.documents database collection, Countable (d.get? column)) :
    (∀ id values autoCommit, ∃ result r,
      execute store database id (.document (.insert collection (some column) values)) autoCommit s =
        some (result, r) ∧
      (greatest? column (s.databases.documents database collection) = some Int64.maxValue.toInt →
        result = .error (.nonNumericAutoIncrement column "overflowing key") ∧
          r.store.databases = s.databases) ∧
      ∀ rows, result = .ok rows → ∃ key : Int64,
        key.toInt = (match greatest? column (s.databases.documents database collection) with
          | none => 1
          | some n => n + 1) ∧
        rows = [[("AffectedRows", .long 1), ("LastInsertId", .long key)]] ∧
        ∃ d, r.store.databases.documents database collection =
            s.databases.documents database collection ++ [d] ∧
          d.get? column = some (.long key)) ∧
    ∀ answers t, InsertsAll database collection column s answers t →
      ∃ keys : List Int64,
        answers = keys.map (fun key => [[("AffectedRows", .long 1), ("LastInsertId", .long key)]]) ∧
        Counts (match greatest? column (s.databases.documents database collection) with
          | none => 1
          | some n => n + 1) keys ∧
        keys.Pairwise (· < ·) := by
  have hserving := (Ready.start honline hcommitting).serving
  refine ⟨fun id values autoCommit => ?_, fun answers t h => ?_⟩
  · obtain ⟨result, r, hexecute, hfull, hok⟩ :=
      execute_next hserving hcolumn hdocs id values hcommitting autoCommit
    refine ⟨result, r, hexecute, hfull, fun rows hrows => ?_⟩
    obtain ⟨key, hkey, hrow, happended, -⟩ := hok rows hrows
    exact ⟨key, hkey, hrow, happended⟩
  · obtain ⟨keys, hanswers, hcounts⟩ :=
      counts_of_insertsAll h honline hcommitting hcolumn hdocs
    exact ⟨keys, hanswers, hcounts, hcounts.pairwise⟩

/-- Inserts after documents with a 32-bit number, with null and with nothing in the column. -/
theorem counted_inserts_mixed :
    let s := (({ MemoryStore.new false with latency := 0, ids := .numbered }.withBatchSize 2).run "app"
      [("insert", .string "t"), ("documents", .array [.document [("_id", .int 1), ("n", .int 5)],
        .document [("_id", .int 2), ("n", .null)], .document [("_id", .int 3)]])]).2
    (∃ r, execute store "app" default (.document (.insert "t" (some "n") [("n", .string "x")])) true s =
        some (.ok [[("AffectedRows", .long 1), ("LastInsertId", .long 6)]], r)) ∧
      ∀ answers t, InsertsAll "app" "t" "n" s answers t →
        ∃ keys : List Int64,
          answers = keys.map (fun key => [[("AffectedRows", .long 1), ("LastInsertId", .long key)]]) ∧
          Counts 6 keys ∧ keys.Pairwise (· < ·) := by
  intro s
  have hcolumn : PlainName "n" := ⟨by decide, by decide, by decide⟩
  have hdocs : ∀ d ∈ s.databases.documents "app" "t", Countable (d.get? "n") :=
    List.forall_mem_cons.mpr ⟨.int 5, List.forall_mem_cons.mpr ⟨.null,
      List.forall_mem_singleton.mpr .missing⟩⟩
  exact ⟨⟨_, rfl⟩, (counted_inserts rfl rfl "app" "t" hcolumn hdocs).2⟩

end SqlGateway.Gateway
