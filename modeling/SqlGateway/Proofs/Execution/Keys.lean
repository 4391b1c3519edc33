import SqlGateway.Execution.Gateway
import SqlGateway.Proofs.Execution.Reading
import SqlGateway.Proofs.Plan.Strategies
import SqlGateway.Proofs.Store.Projection
import SqlGateway.Proofs.Store.Sorting

/-! The next key of a counted column. Where a column holds nothing but whole numbers and nulls, the
document that comes first in descending order holds the greatest number, and the key is one more. -/

namespace SqlGateway.NextKey

/-! ### Numbers in a column -/

/-- Whether a column's value can be counted on from: there is none, or it is null or whole. -/
inductive Countable : Option Value → Prop
  | missing : Countable none
  | null : Countable (some .null)
  | int (n : Int32) : Countable (some (.int n))
  | long (n : Int64) : Countable (some (.long n))

/-- The whole number that a document holds in a column. -/
def held? (column : String) (d : Document) : Option Int := (d.get? column).bind Value.integer?

/-- The greatest whole number that documents hold in a column. -/
def greatest? (column : String) (docs : List Document) : Option Int :=
  (docs.filterMap (held? column)).max?

/-- The key after the greatest whole number, or the first key. -/
def keyAfter : Option Int → Int
  | none => 1
  | some n => n + 1

/-- Values that can be counted on from are ordered by their numbers, null before all. -/
theorem order_of_countable {a b : Option Value} (ha : Countable a) (hb : Countable b) :
    (a.getD .null).order (b.getD .null) =
      compare (a.bind Value.integer?) (b.bind Value.integer?) := by
  have hwhole (m n : Int64) : (Value.long m).order (.long n) = compare (some m.toInt) (some n.toInt) :=
    rfl
  have hint (m : Int32) (v : Value) :
      (Value.int m).order v = (Value.long m.toInt64).order v ∧
        v.order (.int m) = v.order (.long m.toInt64) := by
    cases v <;> exact ⟨rfl, rfl⟩
  cases ha <;> cases hb <;>
    first
    | rfl
    | simp only [Option.getD_some, Option.bind_some, hint, hwhole, Int32.toInt_toInt64,
        Value.integer?]

section

variable {column : String} {docs : List Document}

theorem orderBy_of_countable (h : PlainName column) {a b : Document}
    (ha : Countable (a.get? column)) (hb : Countable (b.get? column)) :
    Document.orderBy [(column, true)] a b = compare (held? column b) (held? column a) := by
  have hfield : Document.orderBy [(column, true)] a b =
      (((a.getPath? column).getD .null).order ((b.getPath? column).getD .null)).swap := by
    rw [Document.orderBy, Document.orderBy, if_pos rfl, Ordering.then_eq]
  rw [hfield, Document.getPath?_of_dotless h.dotless, Document.getPath?_of_dotless h.dotless,
    order_of_countable ha hb, ← Std.OrientedOrd.eq_swap]
  rfl

theorem consistent_of_countable (h : PlainName column)
    (hdocs : ∀ d ∈ docs, Countable (d.get? column)) :
    Document.Consistent [(column, true)] docs := by
  intro a ha b hb c hc
  rw [orderBy_of_countable h (hdocs a ha) (hdocs b hb),
    orderBy_of_countable h (hdocs b hb) (hdocs c hc),
    orderBy_of_countable h (hdocs a ha) (hdocs c hc)]
  exact Composes.comm (.of_compare _ _ _)

/-- The first of the documents in descending order holds the greatest number. -/
theorem held?_head? (h : PlainName column) (hdocs : ∀ d ∈ docs, Countable (d.get? column))
    {sorted : List Document} (hperm : sorted.Perm docs)
    (hsorted : sorted.Pairwise (Document.Precedes [(column, true)])) :
    sorted.head?.bind (held? column) = greatest? column docs := by
  cases sorted with
  | nil =>
    obtain rfl := hperm.nil_eq
    rfl
  | cons d rest =>
    have hd : d ∈ docs := hperm.mem_iff.mp List.mem_cons_self
    have hmax (e : Document) (he : e ∈ docs) : (compare (held? column e) (held? column d)).isLE := by
      rcases List.mem_cons.mp (hperm.mem_iff.mpr he) with rfl | hmem
      · rw [Std.ReflOrd.compare_self]
        rfl
      · rw [← orderBy_of_countable h (hdocs d hd) (hdocs e he)]
        exact (List.pairwise_cons.mp hsorted).1 e hmem
    rw [List.head?_cons, Option.bind_some, greatest?]
    cases hheld : held? column d with
    | none =>
      have hnone : docs.filterMap (held? column) = [] := by
        refine List.filterMap_eq_nil_iff.mpr fun e he => ?_
        have := hmax e he
        rw [hheld] at this
        cases hfound : held? column e with
        | none => rfl
        | some n =>
          rw [hfound] at this
          cases this
      rw [hnone]
      rfl
    | some n =>
      have hmem := List.mem_filterMap.mpr ⟨d, hd, hheld⟩
      refine (List.max?_eq_some_iff.mpr ⟨hmem, fun m hm => ?_⟩).symm
      obtain ⟨e, he, hfound⟩ := List.mem_filterMap.mp hm
      have := hmax e he
      rw [hheld, hfound] at this
      exact Int.isLE_compare.mp this

end

/-! ### The query for the greatest key -/

/-- The computed field of the query. -/
def projection (column : String) : Document :=
  if column = Column.wildcardName then [] else [(column, .string ("$" ++ column))]

/-- The command of the query. -/
def command (c : CountedColumn) : Command :=
  ⟨.find, c.collection,
    [("find", .string c.collection),
      ("projection", .document (projection c.column ++ [("_id", .int 0)])),
      ("sort", .document [(c.column, .int (-1))]), ("skip", .long 0), ("limit", .long 1)]⟩

theorem projectionOf_named (names : Naming) {column : String} (h : PlainName column) :
    projectionOf names [.named column] = .ok (projection column ++ [("_id", .int 0)]) := by
  by_cases hwild : column = Column.wildcardName
  · rw [hwild]
    rfl
  · have hcolumns : [Column.named column].filter (!·.isWildcard) = [.named column] :=
      Column.filter_named_singleton hwild
    rw [projectionOf, hcolumns, projection, if_neg hwild]
    change Except.ok (Fields.set idField _ [(column, Value.string ("$" ++ column))]) = _
    rw [Fields.set_of_not_mem]
    · rfl
    · simpa [Fields.keys, idField] using h.ordinary.symm

theorem finds_query (c : CountedColumn) : Plan.Finds (query c) where
  repeats := rfl
  alone := rfl
  ungrouped := ⟨rfl, rfl⟩
  stored d hd := by
    rw [List.mem_singleton.mp hd]
    exact ⟨rfl, rfl⟩

theorem singleCommand_query [Host] {c : CountedColumn} (h : PlainName c.column) :
    ∃ plan, Plan.ofSelect (query c) = .ok plan ∧ Gateway.singleCommand plan = .ok (command c) := by
  have hcommand : Plan.findCommand (.ofJoin none) (query c) = .ok (command c) := by
    change projectionOf (.ofJoin none) [.named c.column] >>= _ = _
    rw [projectionOf_named _ h]
    rfl
  obtain ⟨target, htarget⟩ := (finds_query c).exists_probeTarget (.ofJoin none)
  exact ⟨_, (finds_query c).ofSelect hcommand htarget, rfl⟩

/-- The projection of the query leaves the counted column as it is. -/
theorem get?_project {column : String} (h : PlainName column) (d : Document) :
    ∃ chosen, d.project (projection column ++ [("_id", .int 0)]) = .ok chosen ∧
      chosen.get? column = d.get? column := by
  by_cases hwild : column = Column.wildcardName
  · refine ⟨_, by rw [projection, if_pos hwild]; exact d.project_withoutIdentity, ?_⟩
    rw [Fields.get?_erase, if_neg h.ordinary]
  · have hcomputes : d.Computes id (fun c => .string ("$" ++ c)) d.get? [column] := {
      distinct := List.nodup_singleton _
      field := List.forall_mem_singleton.mpr ⟨h.ordinary, h.dotless⟩
      computed := List.forall_mem_singleton.mpr ⟨rfl, Expression.evaluate_field h d⟩ }
    rw [projection, if_neg hwild]
    refine ⟨_, Document.project_computed hcomputes (List.cons_ne_nil _ _), ?_⟩
    rw [List.filterMap_cons]
    cases hvalue : d.get? column with
    | none => rfl
    | some v => simp [Fields.get?]

/-- The query sorts the collection and projects the first document. -/
theorem retrieve_command_eq [Host] (c : CountedColumn) (dbs : Databases) (database : String) :
    dbs.retrieve "find" database (command c).document = (do
      let docs ← Document.sort (dbs.documents database c.collection) [(c.column, .int (-1))]
      let docs ← (docs.take 1).mapM (·.project (projection c.column ++ [("_id", .int 0)]))
      return ⟨Databases.namespaceOf database c.collection, docs, none⟩) :=
  rfl

/-- The query shows the counted column of documents of the collection. -/
theorem exists_of_retrieve_command [Host] {c : CountedColumn} (h : PlainName c.column)
    {dbs : Databases} {database : String} {result : ResultSet}
    (hresult : dbs.retrieve "find" database (command c).document = .ok result) {d : Document}
    (hd : d ∈ result.documents) :
    ∃ o ∈ dbs.documents database c.collection, d.get? c.column = o.get? c.column := by
  rw [retrieve_command_eq] at hresult
  obtain ⟨sorted, hsort, hresult⟩ := Except.bind_eq_ok.mp hresult
  obtain ⟨chosen, hchosen, hresult⟩ := Except.bind_eq_ok.mp hresult
  cases hresult
  obtain ⟨o, ho, hproject⟩ := Except.exists_of_mem_mapM hchosen hd
  obtain ⟨chosen, hchosen, hget⟩ := get?_project h o
  cases hproject.symm.trans hchosen
  exact ⟨o, (Document.perm_of_sort hsort).mem_iff.mp (List.mem_of_mem_take ho), hget⟩

/-- The query gives a document with the greatest number, or with none if there is none. -/
theorem retrieve_command [Host] {c : CountedColumn} (h : PlainName c.column) (dbs : Databases)
    (database : String)
    (hdocs : ∀ d ∈ dbs.documents database c.collection, Countable (d.get? c.column)) :
    ∃ result, dbs.retrieve "find" database (command c).document = .ok result ∧
      result.documents.length ≤ 1 ∧
      Countable (result.documents.head?.bind (·.get? c.column)) ∧
      result.documents.head?.bind (held? c.column) =
        greatest? c.column (dbs.documents database c.collection) := by
  obtain ⟨sorted, hsort, hperm, hsorted⟩ := Document.exists_sort
    (show Document.sortKeys [(c.column, .int (-1))] = .ok [(c.column, true)] from rfl)
    (dbs.documents database c.collection)
  replace hsorted := hsorted (consistent_of_countable h hdocs)
  have hgreatest := held?_head? h hdocs hperm hsorted
  rw [retrieve_command_eq, hsort]
  cases sorted with
  | nil =>
    refine ⟨_, rfl, Nat.zero_le 1, .missing, ?_⟩
    rw [← hgreatest]
    rfl
  | cons d rest =>
    obtain ⟨chosen, hchosen, hget⟩ := get?_project h d
    refine ⟨⟨Databases.namespaceOf database c.collection, [chosen], none⟩, ?_, Nat.le_refl 1, ?_, ?_⟩
    · change [d].mapM (·.project (projection c.column ++ [("_id", .int 0)])) >>= _ = _
      rw [List.mapM_cons, hchosen]
      rfl
    · rw [List.head?_cons, Option.bind_some, hget]
      exact hdocs d (hperm.mem_iff.mp List.mem_cons_self)
    · rw [← hgreatest, List.head?_cons, List.head?_cons, Option.bind_some, Option.bind_some, held?,
        held?, hget]

/-! ### The key -/

/-- What a value that can be counted on from gives: the next key, unless none is left. -/
theorem following_of_countable (column : String) {sampled : Option Document}
    (h : Countable (sampled.bind (·.get? column))) :
    following column sampled =
      if sampled.bind (held? column) = some greatest then
        .error (.nonNumericAutoIncrement column "overflowing key")
      else .ok (keyAfter (sampled.bind (held? column))) := by
  have hheld : sampled.bind (held? column) =
      (sampled.bind (·.get? column)).bind Value.integer? := by
    cases sampled <;> rfl
  rw [hheld, following]
  generalize sampled.bind (·.get? column) = v at h
  cases h with
  | missing => rfl
  | null => rfl
  | int n => simp [integral?, Value.integer?, keyAfter]
  | long n => simp [integral?, Value.integer?, keyAfter]

section

variable {column : String} {docs : List Document}

theorem bounds_of_greatest? (hdocs : ∀ d ∈ docs, Countable (d.get? column)) {n : Int}
    (h : greatest? column docs = some n) : -2 ^ 63 ≤ n ∧ n ≤ greatest := by
  obtain ⟨d, hd, hheld⟩ := List.mem_filterMap.mp (List.max?_eq_some_iff.mp h).1
  have hcountable := hdocs d hd
  rw [held?] at hheld
  generalize d.get? column = v at hcountable hheld
  cases hcountable with
  | missing => cases hheld
  | null => cases hheld
  | int m =>
    cases hheld
    have := m.le_toInt
    have := m.toInt_lt
    have : greatest = 2 ^ 63 - 1 := rfl
    omega
  | long m =>
    cases hheld
    have := m.le_toInt
    have := m.toInt_lt
    have : greatest = 2 ^ 63 - 1 := rfl
    omega

/-- As long as one is left, the next key is a 64-bit number. -/
theorem toInt_keyAfter (hdocs : ∀ d ∈ docs, Countable (d.get? column))
    (hroom : greatest? column docs ≠ some greatest) :
    (Int64.ofInt (keyAfter (greatest? column docs))).toInt = keyAfter (greatest? column docs) := by
  cases hgreatest : greatest? column docs with
  | none => rfl
  | some n =>
    obtain ⟨hleast, hmost⟩ := bounds_of_greatest? hdocs hgreatest
    have hne : n ≠ greatest := fun heq => hroom (heq ▸ hgreatest)
    have : greatest = 2 ^ 63 - 1 := rfl
    rw [keyAfter, Int64.toInt_ofInt_of_le (by omega) (by omega)]

/-- A document with the next key holds the greatest number of all. -/
theorem greatest?_append {d : Document}
    (hd : held? column d = some (keyAfter (greatest? column docs))) :
    greatest? column (docs ++ [d]) = some (keyAfter (greatest? column docs)) := by
  have hfilter : (docs ++ [d]).filterMap (held? column) =
      docs.filterMap (held? column) ++ [keyAfter (greatest? column docs)] := by
    rw [List.filterMap_append, List.filterMap_cons_some hd, List.filterMap_nil]
  rw [greatest?, hfilter, List.max?_eq_some_iff]
  refine ⟨List.mem_append_right _ (List.mem_singleton_self _), fun m hm => ?_⟩
  rcases List.mem_append.mp hm with hm | hm
  · cases hgreatest : greatest? column docs with
    | none =>
      rw [greatest?, List.max?_eq_none_iff] at hgreatest
      rw [hgreatest] at hm
      cases hm
    | some n =>
      have := (List.max?_eq_some_iff.mp hgreatest).2 m hm
      rw [keyAfter]
      omega
  · exact Int.le_of_eq (List.mem_singleton.mp hm)

end

end SqlGateway.NextKey
