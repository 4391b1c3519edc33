import SqlGateway.Proofs.Execution.Limits
import SqlGateway.Proofs.Store.Sorting

/-! What a SELECT gives that reads one collection: the projections of a slice of the documents that
satisfy its conditions, put in the order that it asks for. -/

namespace SqlGateway

attribute [local instance] Host.universal

/-! ### Orders -/

/-- The fields of an ORDER BY, each with whether it descends. -/
def Naming.orderKeys (names : Naming) (terms : List OrderTerm) :
    Except GatewayError Document.SortKeys :=
  terms.mapM fun t => do return (← names.field t.column, !t.ascending)

/-- A field of an order with its direction as commands write it. -/
def directed (key : String × Bool) : String × Value := (key.1, .int (if key.2 then -1 else 1))

/-- An order by different fields is read as it was written. -/
theorem sortKeys_of_sortOf {names : Naming} {terms : List OrderTerm} {spec : Document}
    {keys : Document.SortKeys} (hspec : sortOf names terms = .ok spec)
    (hkeys : names.orderKeys terms = .ok keys) (hdistinct : (keys.map (·.1)).Nodup) :
    Document.sortKeys spec = .ok keys := by
  obtain ⟨fields, hfields, hspec⟩ := Except.bind_eq_ok.mp hspec
  cases hspec
  have hdirected : fields = keys.map directed := by
    refine Except.ok.inj (hfields.symm.trans (Except.mapM_of_map (fun t => ?_) hkeys))
    cases names.field t.column with
    | error e => rfl
    | ok field => cases t.ascending <;> rfl
  have hnames : Fields.keys (keys.map directed) = keys.map (·.1) := List.map_map
  have hlist : Fields.ofList (keys.map directed) = keys.map directed :=
    (Fields.setAll_eq_append (hnames ▸ hdistinct) fun _ _ => List.not_mem_nil).trans
      (List.nil_append _)
  rw [hdirected, hlist]
  refine Except.mapM_map_ok (fun key => ?_) keys
  obtain ⟨field, descending⟩ := key
  cases descending <;> rfl

/-- An ORDER BY of different fields arranges documents that are ordered consistently by them. -/
theorem arranges_of_ordered {names : Naming} {q : Select} {order : Option Document}
    (horder : q.orderBy.mapM (sortOf names) = .ok order) {keys : Document.SortKeys}
    (hkeys : names.orderKeys (q.orderBy.getD []) = .ok keys) (hdistinct : (keys.map (·.1)).Nodup)
    {docs sorted : List Document} (hconsistent : Document.Consistent keys docs)
    (hsorted : Databases.ordered docs order = .ok sorted) :
    Document.Arranges keys docs sorted := by
  cases hterms : q.orderBy with
  | none =>
    rw [hterms] at horder hkeys
    cases horder
    cases hkeys
    cases hsorted
    exact Document.arranges_nil _
  | some terms =>
    rw [hterms] at horder hkeys
    obtain ⟨spec, hspec, horder⟩ := Except.bind_eq_ok.mp horder
    cases horder
    exact Document.arranges_of_sort (sortKeys_of_sortOf hspec hkeys hdistinct) hconsistent hsorted

/-! ### Windows -/

/-- What a limit keeps of documents. A limit of no rows is no limit: it does not leave out the
first documents either. -/
def Limit.slice (l : Option Limit) (docs : List Document) : List Document :=
  match l with
  | some l => if l.count = 0 then docs else (docs.drop l.offset.toNat).take l.count.toNat
  | none => docs

/-- A window cuts a list as its limit says, if the list can be counted with longs. -/
theorem limited_window (l : Option Limit) {docs : List Document} (hfits : docs.length < 2 ^ 63) :
    Databases.limited (docs.drop (((Window.ofLimit? l).map (·.skip.toInt.natAbs)).getD 0))
      ((Window.ofLimit? l).map (·.limit.toInt.natAbs)) = Limit.slice l docs := by
  cases l with
  | none => rfl
  | some l =>
    rw [Limit.slice]
    split
    · next hcount => simp [Window.ofLimit?, hcount, Databases.limited]
    · next hcount =>
      obtain ⟨hpos, -⟩ := saturate_le hcount
      have hpos : 0 < (saturate l.count).toInt.natAbs := by omega
      rw [ofLimit?_of_count hcount, Option.map_some, Option.map_some, Option.getD_some,
        Databases.limited_of_pos _ hpos]
      dsimp only
      rw [toInt_saturate, toInt_saturate, Int.natAbs_natCast, Int.natAbs_natCast]
      have hdrop : docs.drop (min l.offset.toNat (2 ^ 63 - 1)) = docs.drop l.offset.toNat :=
        List.drop_eq_drop_iff.mpr (by omega)
      rw [hdrop]
      exact List.take_eq_take_iff.mpr (by rw [List.length_drop]; omega)

/-! ### Commands -/

namespace CommandField

variable {command : Document} {key : String}

theorem document?_of_get? {d : Option Document} (h : command.get? key = d.map .document) :
    document? command key = .ok d := by
  rw [document?, h]
  cases d <;> rfl

theorem count?_of_get? {α : Type} {a : Option α} {f : α → Int64}
    (h : command.get? key = a.map fun x => .long (f x)) :
    count? command key = .ok (a.map fun x => (f x).toInt.natAbs) := by
  rw [count?, h]
  cases a <;> rfl

end CommandField

/-- What a store reads in the fields of a `find`. -/
structure Document.FindFields (command : Document) (collection : String)
    (filter order : Option Document) (projection : Document) (window : Option Window) : Prop where
  name : CommandField.target command "find" = .ok collection
  filter : CommandField.document? command "filter" = .ok filter
  order : CommandField.document? command "sort" = .ok order
  projection : CommandField.document? command "projection" = .ok (some projection)
  skip : CommandField.count? command "skip" = .ok (window.map (·.skip.toInt.natAbs))
  limit : CommandField.count? command "limit" = .ok (window.map (·.limit.toInt.natAbs))
  batchSize : CommandField.count? command "batchSize" = .ok none

theorem Plan.findFields_findCommand [Host] {names : Naming} {s : Select} {c : Command}
    (h : findCommand names s = .ok c) :
    ∃ filter order projection, Filter.ofPredicates? names s.wheres = .ok filter ∧
      s.orderBy.mapM (sortOf names) = .ok order ∧ projectionOf names s.columns = .ok projection ∧
      c.document.FindFields s.collection filter order projection (Window.ofLimit? s.limit) := by
  obtain ⟨filter, hfilter, h⟩ := Except.bind_eq_ok.mp h
  obtain ⟨order, horder, h⟩ := Except.bind_eq_ok.mp h
  obtain ⟨projection, hprojection, h⟩ := Except.bind_eq_ok.mp h
  cases h
  refine ⟨filter, order, projection, hfilter, horder, hprojection, ?_⟩
  exact {
    name := by simp [CommandField.target, Verb.name]
    filter := CommandField.document?_of_get? (by simp [Verb.name])
    order := CommandField.document?_of_get? (by simp [Verb.name])
    projection := CommandField.document?_of_get? (by simp)
    skip := CommandField.count?_of_get? (by simp [Verb.name])
    limit := CommandField.count?_of_get? (by simp [Verb.name])
    batchSize := by simp [CommandField.count?, Verb.name] }

/-- What a store finds that reads these fields. -/
theorem Databases.find_of_fields [Host] {command : Document} {collection : String}
    {filter order : Option Document} {projection : Document} {window : Option Window}
    (h : command.FindFields collection filter order projection window) (dbs : Databases)
    (database : String) :
    dbs.find database command = (do
      let docs ← filtered (dbs.documents database collection) filter
      let docs ← ordered docs order
      let docs := limited (docs.drop ((window.map (·.skip.toInt.natAbs)).getD 0))
        (window.map (·.limit.toInt.natAbs))
      return ⟨namespaceOf database collection, ← docs.mapM (·.project projection), none⟩) := by
  rw [find_eq, h.name, h.filter, h.order, h.projection, h.skip, h.limit, h.batchSize]
  rfl

/-! ### Statements -/

namespace Gateway

open Execution MemoryStore

/-- A SELECT that finds gives a slice of a sorted list. All documents of the collection that satisfy
its conditions are put in the order that it asks for, with those that it does not tell apart as they
were inserted; what its limit keeps of them is given, one projection for each document. -/
theorem fetch_sorted_slice [Host] {q : Select} {p : Plan} {c : Command} (hplan : Plan.ofSelect q = .ok p)
    (hshape : p.shape = .select .find) (hcommand : singleCommand p = .ok c)
    {keys : Document.SortKeys} (hkeys : Naming.plain.orderKeys (q.orderBy.getD []) = .ok keys)
    (hdistinct : (keys.map (·.1)).Nodup) {r r' : Run MemoryStore} (hs : r.store.Reachable)
    (hroom : r.store.nextCursor < 2 ^ 63) {database : String} {stored : List Document}
    (hstored : r.store.databases.documents database q.collection = stored)
    (hfits : stored.length < 2 ^ 63)
    (hexact : ∀ d ∈ stored, ∀ key ∈ keys, ∀ v ∈ d.getPath? key.1, v.Exact) {docs : List Document}
    (h : Ends (fetch store database c) r (.ok docs) r') :
    ∃ filter projection sorted,
      Filter.ofPredicates? .plain q.wheres = .ok filter ∧
      projectionOf .plain q.columns = .ok projection ∧
      (∀ d ∈ stored, (filter.getD []).Evaluates d) ∧
      Document.Arranges keys (stored.filter (filter.getD []).accepts) sorted ∧
      (Limit.slice q.limit sorted).mapM (·.project projection) = .ok docs := by
  obtain ⟨join, strategy, command, target, hselects, rfl⟩ := Plan.ofSelect_eq_ok.mp hplan
  cases hshape
  cases hcommand
  obtain ⟨rfl, -⟩ := Plan.strategyOf_find hselects.chooses
  have hruns : Plan.findCommand .plain q = .ok c := hselects.runs
  have hverb := Plan.verb_findCommand hruns
  have hdocs := documentsOf_of_fetch (sound_of_reachable hs) hroom
    (Plan.headed_findCommand hruns) (by rw [hverb]; rfl) h
  obtain ⟨-, result, hresult, rfl⟩ := retrieve_of_documentsOf hdocs
  obtain ⟨filter, order, projection, hfilter, horder, hprojection, hfields⟩ :=
    Plan.findFields_findCommand hruns
  rw [hverb] at hresult
  change r.store.databases.find database c.document = _ at hresult
  rw [Databases.find_of_fields hfields, hstored] at hresult
  obtain ⟨matched, hmatched, hresult⟩ := Except.bind_eq_ok.mp hresult
  obtain ⟨sorted, hsorted, hresult⟩ := Except.bind_eq_ok.mp hresult
  obtain ⟨rows, hrows, hresult⟩ := Except.bind_eq_ok.mp hresult
  cases hresult
  obtain ⟨hall, rfl⟩ := Databases.filtered_eq_ok.mp hmatched
  have hconsistent : Document.Consistent keys (stored.filter (filter.getD []).accepts) :=
    Document.consistent_of_exact fun d hd => hexact d (List.mem_filter.mp hd).1
  have harranges := arranges_of_ordered horder hkeys hdistinct hconsistent hsorted
  have hlength : sorted.length < 2 ^ 63 :=
    Nat.lt_of_le_of_lt (harranges.perm.length_eq.trans_le (List.length_filter_le _ _)) hfits
  rw [limited_window q.limit hlength] at hrows
  exact ⟨filter, projection, sorted, hfilter, hprojection, hall, harranges, hrows⟩

/-- Numbers of three types, two of them equal, a document without one, and one that is filtered
out. -/
def mixedNumbers : List Document :=
  [[("_id", .int 1), ("n", .int 2), ("t", .string "two")],
    [("_id", .int 2), ("n", .long 1), ("t", .string "one")],
    [("_id", .int 3), ("t", .string "none")],
    [("_id", .int 4), ("n", .decimal (.ofDecimal ⟨10, 1, by decide, by decide⟩)),
      ("t", .string "one again")],
    [("_id", .int 5), ("n", .int 3), ("t", .string "three")]]

/-- The second and third of them from the greatest number down. -/
theorem fetch_sorted_slice_mixed :
    let q : Select :=
      { collection := "t", columns := [.named "t"],
        wheres := [.on (.named "t") .ne (.string "three")],
        orderBy := some [⟨.named "n", false⟩], limit := some ⟨1, 2⟩ }
    let s := MemoryStore.holding "t" mixedNumbers
    ∃ p c filter projection sorted r, Plan.ofSelect q = .ok p ∧ singleCommand p = .ok c ∧
      Ends (fetch store "app" c) { store := s }
        (.ok [[("t", .string "one")], [("t", .string "one again")]]) r ∧
      Filter.ofPredicates? .plain q.wheres = .ok filter ∧
      projectionOf .plain q.columns = .ok projection ∧
      Document.Arranges [("n", true)] (mixedNumbers.filter (filter.getD []).accepts) sorted ∧
      (Limit.slice q.limit sorted).mapM (·.project projection) =
        .ok [[("t", .string "one")], [("t", .string "one again")]] := by
  intro q s
  have hkeys : Naming.plain.orderKeys (q.orderBy.getD []) = .ok [("n", true)] := rfl
  have hstored : s.databases.documents "app" "t" = mixedNumbers := rfl
  have hexact : ∀ d ∈ mixedNumbers, ∀ key ∈ [("n", true)], ∀ v ∈ d.getPath? key.1, v.Exact := by
    decide +kernel
  obtain ⟨p, c, r, hplan, hshape, hcommand, hfetch⟩ : ∃ p c r, Plan.ofSelect q = .ok p ∧
      p.shape = .select .find ∧ singleCommand p = .ok c ∧
      Ends (fetch store "app" c) { store := s }
        (.ok [[("t", .string "one")], [("t", .string "one again")]]) r :=
    ⟨_, _, _, rfl, rfl, rfl, rfl⟩
  obtain ⟨filter, projection, sorted, hfilter, hprojection, -, harranges, hslice⟩ :=
    fetch_sorted_slice hplan hshape hcommand hkeys (by decide) (r := { store := s })
      (MemoryStore.reachable_holding "t" mixedNumbers) (by decide) hstored (by decide) hexact hfetch
  exact ⟨p, c, filter, projection, sorted, r, hplan, hcommand, hfetch, hfilter, hprojection,
    harranges, hslice⟩

end Gateway

end SqlGateway
