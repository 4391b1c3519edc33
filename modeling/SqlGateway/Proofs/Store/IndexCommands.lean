import SqlGateway.Proofs.Except
import SqlGateway.Proofs.Store.Databases
import SqlGateway.Proofs.Store.Invariant

/-! Commands on indexes that are refused. Dropping looks at all names before an
index goes, so that a refused command drops none. Adding installs one
specification before it looks at the next: what stood before the first that is
refused stays, in a collection that exists from then on. -/

namespace SqlGateway

attribute [local instance] Host.universal

/-! ### Adding indexes -/

namespace Collection

/-- The indexes of a list whose names are neither there nor earlier in the list. -/
def newcomers (present : List Index) : List Index → List Index
  | [] => []
  | i :: indexes =>
    if i.name ∈ present.map (·.name) then newcomers present indexes
    else i :: newcomers (present ++ [i]) indexes

/-- A collection with more indexes. -/
def grown (c : Collection) (indexes : List Index) : Collection :=
  ⟨c.documents, c.indexes ++ newcomers c.indexes indexes⟩

variable {ns : String} {c c' : Collection} {i : Index} {indexes present : List Index}

theorem grown_nil (c : Collection) : c.grown [] = c :=
  congrArg (mk c.documents) (List.append_nil _)

/-- Indexes are added one after another. -/
theorem grown_grown (c : Collection) (i : Index) (indexes : List Index) :
    (c.grown [i]).grown indexes = c.grown (i :: indexes) := by
  by_cases hi : i.name ∈ c.indexes.map (·.name) <;> simp [grown, newcomers, hi]

theorem newcomers_eq_nil_iff :
    newcomers present indexes = [] ↔ ∀ i ∈ indexes, i.name ∈ present.map (·.name) := by
  induction indexes with
  | nil => simp [newcomers]
  | cons i indexes ih =>
    rw [newcomers, List.forall_mem_cons]
    split
    · next hi => rw [ih, and_iff_right hi]
    · next hi => exact iff_of_false (List.cons_ne_nil _ _) (fun h => hi h.1)

theorem grown_eq_self_iff :
    c.grown indexes = c ↔ ∀ i ∈ indexes, i.name ∈ c.indexes.map (·.name) := by
  rw [← newcomers_eq_nil_iff]
  refine ⟨fun h => ?_, fun h => ?_⟩
  · exact List.append_right_eq_self.mp (congrArg Collection.indexes h)
  · rw [grown, h, List.append_nil]

theorem eq_grown_of_addIndex (h : c.addIndex ns i = .ok c') : c' = c.grown [i] := by
  have hfind : (c.indexes.find? (·.name == i.name)).isSome ↔ i.name ∈ c.indexes.map (·.name) := by
    simp
  rw [addIndex] at h
  split at h
  · next hold =>
    have hi := hfind.mp (by rw [hold]; rfl)
    split at h
    · cases h
      exact (grown_eq_self_iff.mpr (by simpa using hi)).symm
    · cases h
  · next hfresh =>
    have hi : i.name ∉ c.indexes.map (·.name) := fun h => by simpa [hfresh] using hfind.mpr h
    split at h
    · cases h
    · cases h
      rw [grown, newcomers, if_neg hi, newcomers]

/-- Adding indexes fails at a specification: those before it are added, and it cannot be read or
added to what there is then. -/
theorem addIndexes_eq_error {specs : List Value} {f : CommandFailure}
    (h : (c.addIndexes ns specs).2 = .error f) :
    ∃ taken spec rest indexes, specs = taken ++ spec :: rest ∧
      taken.mapM Index.ofSpec = .ok indexes ∧ (c.addIndexes ns specs).1 = c.grown indexes ∧
      Index.ofSpec spec >>= (c.grown indexes).addIndex ns = .error f := by
  induction specs generalizing c with
  | nil => cases h
  | cons spec specs ih =>
    rw [addIndexes] at h ⊢
    split at h
    · next c' hadd =>
      obtain ⟨i, hi, hadd⟩ := Except.bind_eq_ok.mp hadd
      obtain rfl := eq_grown_of_addIndex hadd
      obtain ⟨taken, next, rest, indexes, hspecs, htaken, hafter, hnext⟩ := ih h
      rw [grown_grown] at hafter hnext
      exact ⟨spec :: taken, next, rest, i :: indexes, by rw [hspecs]; rfl,
        Except.mapM_cons_eq_ok.mpr ⟨i, indexes, hi, htaken, rfl⟩, hafter, hnext⟩
    · next g hadd =>
      cases h
      exact ⟨[], spec, specs, [], rfl, rfl, (grown_nil c).symm, by rwa [grown_nil]⟩

end Collection

/-! ### Commands -/

namespace Databases

variable {dbs : Databases} {database : String} {command : Document} {f : CommandFailure}

/-- Growing a collection changes nothing exactly if it is there and has all the names. -/
theorem collection?_putCollection_grown (dbs : Databases) (database name : String)
    (indexes : List Index) :
    let c := (dbs.collection? database name).getD .new
    (∀ db n, (dbs.putCollection database name (c.grown indexes)).collection? db n =
        dbs.collection? db n) ↔
      (dbs.collection? database name).isSome ∧
        ∀ i ∈ indexes, i.name ∈ c.indexes.map (·.name) := by
  have hput (c : Collection) :
      (∀ db n, (dbs.putCollection database name c).collection? db n = dbs.collection? db n) ↔
        dbs.collection? database name = some c := by
    constructor
    · intro h
      rw [← h, collection?_putCollection, if_pos ⟨rfl, rfl⟩]
    · intro h db n
      rw [collection?_putCollection]
      split
      · next heq => rw [heq.1, heq.2, h]
      · rfl
  intro c
  rw [hput, ← Collection.grown_eq_self_iff]
  rcases hfound : dbs.collection? database name with _ | old
  · exact iff_of_false nofun nofun
  · obtain rfl : c = old := by
      rw [show c = (dbs.collection? database name).getD .new from rfl, hfound]
      rfl
    rw [Option.some.injEq, eq_comm]
    exact (and_iff_right rfl).symm

theorem dropIndexes_eq_error (h : (dbs.dropIndexes database command).2 = .error f) :
    (dbs.dropIndexes database command).1 = dbs := by
  rw [dropIndexes] at h ⊢
  split
  · rfl
  · next hdropped =>
    rw [hdropped] at h
    cases h

theorem createIndexes_eq_error (h : (dbs.createIndexes database command).2 = .error f) :
    (dbs.createIndexes database command).1 = dbs ∨
      ∃ name taken spec rest indexes, command.get? "createIndexes" = some (.string name) ∧
        command.get? "indexes" = some (.array (taken ++ spec :: rest)) ∧
        taken.mapM Index.ofSpec = .ok indexes ∧
        let c := ((dbs.collection? database name).getD .new).grown indexes
        Index.ofSpec spec >>= c.addIndex (namespaceOf database name) = .error f ∧
        (dbs.createIndexes database command).1 = dbs.putCollection database name c := by
  rw [createIndexes] at h ⊢
  split
  · exact .inl rfl
  · next name specs hparts =>
    rw [hparts] at h
    obtain ⟨n, hname, hparts⟩ := Except.bind_eq_ok.mp hparts
    obtain ⟨l, hspecs, hparts⟩ := Except.bind_eq_ok.mp hparts
    cases hparts
    have hadded : (((dbs.collection? database name).getD .new).addIndexes
        (namespaceOf database name) specs).2 = .error f := by
      dsimp only at h
      rcases hadded : (((dbs.collection? database name).getD .new).addIndexes
        (namespaceOf database name) specs).2 with g | ⟨⟩ <;> rw [hadded] at h
      · exact congrArg Except.error (Except.error.inj h)
      · cases h
    obtain ⟨taken, spec, rest, indexes, rfl, htaken, hafter, hspec⟩ :=
      Collection.addIndexes_eq_error hadded
    refine .inr ⟨name, taken, spec, rest, indexes, ?_, ?_, htaken, hspec, ?_⟩
    · rw [CommandField.target] at hname
      split at hname
      · next hget => rw [hget, Except.ok.inj hname]
      · cases hname
    · rw [CommandField.array] at hspecs
      split at hspecs
      · next hget => rw [hget, Except.ok.inj hspecs]
      · cases hspecs
    · dsimp only
      rw [hafter]

end Databases

namespace MemoryStore

/-- A response that reports a failure is that of a reply that is one. -/
theorem exists_failure_of_response {reply : Databases.Reply}
    (h : (response reply).get? "ok" = some (.ofFloat 0.0)) : ∃ f, reply = .error f := by
  rcases reply with f | reply
  · exact ⟨f, rfl⟩
  · rw [response, Fields.get?_set, if_pos rfl] at h
    exact absurd (Value.double.inj (Option.some.inj h)) (by decide)

/-- A command that drops indexes changes nothing if it is refused. One that adds indexes leaves
those of the specifications before the first refused one, in a collection that is created if need
be: nothing has changed exactly if the collection was there and had an index of every name. -/
theorem run_indexes_refused [Host] (s : MemoryStore) (database : String) {verb : String}
    (hverb : verb = "createIndexes" ∨ verb = "dropIndexes") (v : Value) (fields : Document)
    {answer : Document} (hanswer : (s.run database ((verb, v) :: fields)).1 = .ok answer)
    (hok : answer.get? "ok" = some (.ofFloat 0.0)) :
    let t := (s.run database ((verb, v) :: fields)).2
    t = s ∨ verb = "createIndexes" ∧
      ∃ name taken spec rest indexes f, v = .string name ∧
        fields.get? "indexes" = some (.array (taken ++ spec :: rest)) ∧
        taken.mapM Index.ofSpec = .ok indexes ∧
        let c := (s.databases.collection? database name).getD .new
        Index.ofSpec spec >>= (c.grown indexes).addIndex (Databases.namespaceOf database name) =
          .error f ∧
        answer = f.toResponse ∧
        t = { s with databases := s.databases.putCollection database name (c.grown indexes) } ∧
        ((∀ db n, t.databases.collection? db n = s.databases.collection? db n) ↔
          (s.databases.collection? database name).isSome ∧
            ∀ i ∈ indexes, i.name ∈ c.indexes.map (·.name)) := by
  intro t
  by_cases hserving : s.Serving
  · have hrun := run_of_serving hserving database verb v fields
    obtain rfl : response (s.dispatch database verb ((verb, v) :: fields)).2 = answer := by
      rw [hrun] at hanswer
      exact Except.ok.inj hanswer
    obtain ⟨f, hf⟩ := exists_failure_of_response hok
    have ht : t = (s.dispatch database verb ((verb, v) :: fields)).1 := congrArg Prod.snd hrun
    rcases hverb with rfl | rfl
    · have ht : t = { s with databases :=
          (s.databases.createIndexes database (("createIndexes", v) :: fields)).1 } := ht
      rcases Databases.createIndexes_eq_error hf with hsame |
        ⟨name, taken, spec, rest, indexes, hname, hspecs, htaken, hspec, hafter⟩
      · exact .inl (by rw [ht, hsame])
      · rw [hafter] at ht
        refine .inr ⟨rfl, name, taken, spec, rest, indexes, f, Option.some.inj hname, hspecs, htaken,
          hspec, by rw [hf]; rfl, ht, ?_⟩
        rw [ht]
        exact Databases.collection?_putCollection_grown _ _ _ _
    · have ht : t = { s with databases :=
          (s.databases.dropIndexes database (("dropIndexes", v) :: fields)).1 } := ht
      exact .inl (by rw [ht, Databases.dropIndexes_eq_error hf])
  · exact .inl (run_of_not_serving hserving _ _)

/-- Of two indexes to drop the second is not there. -/
theorem run_indexes_refused_drop :
    let s := ((holding "t" [[("_id", .int 1)]]).run "app" [("createIndexes", .string "t"),
      ("indexes", .array [.document [("key", .document [("a", .int 1)]), ("name", .string "a_1")]])]).2
    let fields : Document := [("index", .array [.string "a_1", .string "b_1"])]
    let f : CommandFailure := .indexNotFound "index not found with name [b_1]"
    s.indexNames "app" "t" = ["_id_", "a_1"] ∧
      (s.run "app" (("dropIndexes", .string "t") :: fields)).1 = .ok f.toResponse ∧
      f.toResponse.get? "ok" = some (.ofFloat 0.0) ∧
      (s.run "app" (("dropIndexes", .string "t") :: fields)).2 = s := by
  intro s fields f
  have hanswer : (s.run "app" (("dropIndexes", .string "t") :: fields)).1 = .ok f.toResponse := rfl
  refine ⟨rfl, hanswer, rfl, ?_⟩
  exact (run_indexes_refused s "app" (.inr rfl) _ _ hanswer rfl).resolve_right
    fun h => absurd h.1 (by decide)

/-- The second of two indexes to add has no fields: the first one stays, and so does a collection
that was not there. -/
theorem run_indexes_refused_adds :
    let s := holding "t" [[("_id", .int 1)]]
    let fields : Document := [("indexes", .array
      [.document [("key", .document [("a", .int 1)]), ("name", .string "a_1")],
        .document [("key", .document []), ("name", .string "b_1")]])]
    let f : CommandFailure := .badValue "index key pattern cannot be empty"
    s.Reachable ∧ s.inTransaction = false ∧ f.toResponse.get? "ok" = some (.ofFloat 0.0) ∧
      (let t := s.run "app" (("createIndexes", .string "t") :: fields)
      t.1 = .ok f.toResponse ∧ s.indexNames "app" "t" = ["_id_"] ∧
        t.2.indexNames "app" "t" = ["_id_", "a_1"]) ∧
      (let t := s.run "app" (("createIndexes", .string "u") :: fields)
      t.1 = .ok f.toResponse ∧ s.databases.collection? "app" "u" = none ∧
        t.2.indexNames "app" "u" = ["_id_", "a_1"]) :=
  ⟨reachable_holding "t" _, rfl, rfl, ⟨rfl, rfl, rfl⟩, rfl, rfl, rfl⟩

end MemoryStore

end SqlGateway
