import SqlGateway.Proofs.Execution.Selecting
import SqlGateway.Proofs.Store.Retrieval

/-! The limit of a SELECT. A command that finds or aggregates gives no more documents than its
window lets through, whatever the rest of it asks for, and each of them becomes one row. The
command of a DISTINCT has no window: there the limit changes nothing. -/

namespace SqlGateway

attribute [local instance] Host.universal

/-! ### Windows -/

theorem toInt_saturate (n : UInt64) :
    (saturate n).toInt = (min n.toNat (2 ^ 63 - 1) : Nat) := by
  have hmax : Int64.maxValue.toInt = 2 ^ 63 - 1 := rfl
  rw [saturate]
  split
  · next hfits =>
    have hsame : n.toInt64.toInt = n.toNat := by
      refine BitVec.toInt_eq_toNat_of_lt (x := n.toBitVec) ?_
      change 2 * n.toNat < 2 ^ 64
      omega
    omega
  · next hlarge => omega

theorem saturate_le {n : UInt64} (h : n ≠ 0) :
    0 < (saturate n).toInt ∧ (saturate n).toInt ≤ n.toNat := by
  have hpos : 0 < n.toNat := by
    rw [Nat.pos_iff_ne_zero]
    exact fun hzero => h (UInt64.toNat_inj.mp hzero)
  rw [toInt_saturate]
  omega

theorem ofLimit?_of_count {l : Limit} (h : l.count ≠ 0) :
    Window.ofLimit? (some l) = some ⟨saturate l.offset, saturate l.count⟩ := by
  simp [Window.ofLimit?, h]

/-- Whether a command that reads never gives more documents than a number. -/
structure Command.Bounded [Host] (c : Command) (n : Nat) : Prop where
  headed : c.Headed
  cursor : c.verb.returnsCursor = true
  length : ∀ dbs database result,
    Databases.retrieve dbs c.verb.name database c.document = .ok result →
      result.documents.length ≤ n

namespace Plan

variable {names : Naming} {s : Select} {c : Command} {l : Limit}

/-- The last field of a `find` is its limit. -/
theorem bounded_findCommand [Host] (hl : s.limit = some l) (hcount : l.count ≠ 0)
    (h : findCommand names s = .ok c) : c.Bounded l.count.toNat := by
  have hverb := verb_findCommand h
  obtain ⟨hpos, hle⟩ := saturate_le hcount
  have hlimit : c.document.get? "limit" = some (.long (saturate l.count)) := by
    obtain ⟨inner, -, -, rfl⟩ := windowed_findCommand h
    rw [hl, ofLimit?_of_count hcount]
    exact (Fields.get?_set _ _ _ _).trans (if_pos rfl)
  refine ⟨headed_findCommand h, by rw [hverb]; rfl, fun dbs database result hresult => ?_⟩
  rw [hverb] at hresult
  have hlength := Databases.length_find hpos hlimit hresult
  omega

theorem bounded_aggregate [Host] (hcount : l.count ≠ 0) (collection : String) (stages : List Document) :
    (Command.aggregate collection (stages ++ windowStages (some l))).Bounded l.count.toNat := by
  obtain ⟨hpos, hle⟩ := saturate_le hcount
  refine ⟨Command.headed_aggregate _ _, rfl, fun dbs database result hresult => ?_⟩
  have hstages : stages ++ windowStages (some l) =
      (stages ++ [[("$skip", .long (saturate l.offset))]]) ++
        [[("$limit", .long (saturate l.count))]] := by
    rw [windowStages, ofLimit?_of_count hcount, List.append_assoc]
    rfl
  rw [hstages] at hresult
  change Databases.retrieve dbs "aggregate" database _ = _ at hresult
  rw [Databases.retrieve_aggregate] at hresult
  obtain ⟨rows, hrows, rfl⟩ := Except.map_eq_ok.mp hresult
  have hlength := Pipeline.length_run_limit hpos hrows
  dsimp only
  omega

/-- A limit on at least one row bounds the command of every strategy but DISTINCT. -/
theorem bounded_commandOf [Host] {join : Option Join} {strategy : Strategy} (hl : s.limit = some l)
    (hcount : l.count ≠ 0) (hstrategy : ∀ output, strategy ≠ .distinct output)
    (h : commandOf join s strategy = .ok c) : c.Bounded l.count.toNat := by
  cases strategy with
  | distinct output => exact absurd rfl (hstrategy output)
  | find => exact bounded_findCommand hl hcount h
  | joinOnly =>
    cases join with
    | none => cases h
    | some j =>
      obtain ⟨stages, rfl⟩ := aggregates_joinCommand h
      rw [hl]
      exact bounded_aggregate hcount s.collection stages
  | grouping =>
    obtain ⟨stages, rfl⟩ := aggregates_groupingCommand h
    rw [hl]
    exact bounded_aggregate hcount s.collection stages

/-- The limit of a DISTINCT is nowhere in its plan. -/
theorem ofSelect_distinct [Host] (hdistinct : s.distinct = true) (limit : Option Limit) :
    ofSelect { s with limit } = ofSelect s := by
  rw [ofSelect_eq, ofSelect_eq]
  refine bind_congr fun join => ?_
  change strategyOf (.ofJoin join) join s >>= _ = _
  cases hstrategy : strategyOf (.ofJoin join) join s with
  | error e => rfl
  | ok strategy =>
    obtain ⟨output, rfl⟩ := strategyOf_distinct hdistinct hstrategy
    rfl

end Plan

/-! ### Statements -/

namespace Gateway

open Execution MemoryStore

variable {database : String}

/-- A bounded command gives no more rows than its bound. -/
theorem length_runSelect [Host] {p : Plan} {strategy : Strategy} {c : Command} {n : Nat}
    {r r' : Run MemoryStore} {rows : List Row} (hs : r.store.Sound)
    (hroom : r.store.nextCursor < 2 ^ 63) (hstrategy : ∀ output, strategy ≠ .distinct output)
    (hcommand : singleCommand p = .ok c) (hc : c.Bounded n)
    (h : Ends (runSelect store database p strategy) r (.ok rows) r') : rows.length ≤ n := by
  obtain ⟨c', docs, r₁, hc', hfetch, hrows⟩ := ends_runSelect hstrategy h
  rw [hcommand] at hc'
  cases hc'
  have hdocs := documentsOf_of_fetch hs hroom hc.headed hc.cursor hfetch
  obtain ⟨-, result, hresult, rfl⟩ := retrieve_of_documentsOf hdocs
  have hlength := hc.length _ _ _ hresult
  rcases hrows with ⟨-, rfl⟩ | ⟨sample, rest, target, types, r₂, -, -, -, hrows⟩
  · exact Nat.zero_le n
  · have := Except.length_mapM hrows
    omega

/-- A limit on at least one row holds for every SELECT but a DISTINCT, whether it finds, joins or
groups; the limit of a DISTINCT is not looked at. -/
theorem length_execute_limit [Host] {q : Select} {l : Limit} (hl : q.limit = some l)
    (hcount : l.count ≠ 0) {s : MemoryStore} (hs : s.Reachable) (hroom : s.nextCursor < 2 ^ 63)
    (database : String) (id : ObjectId) (autoCommit : Bool) :
    (q.distinct = false → ∀ rows r,
      execute store database id (.document (.select q)) autoCommit s = some (.ok rows, r) →
        rows.length ≤ l.count.toNat) ∧
    (q.distinct = true → ∀ limit,
      execute store database id (.document (.select { q with limit })) autoCommit s =
        execute store database id (.document (.select q)) autoCommit s) := by
  constructor
  · intro hdistinct rows r h
    obtain ⟨join, strategy, command, target, r₁, r₂, hselects, hreading, hrun⟩ :=
      ends_select (sound_of_reachable hs) h
    have hstrategy := Plan.strategyOf_undistinct hdistinct hselects.chooses
    have hbounded := Plan.bounded_commandOf hl hcount hstrategy hselects.runs
    exact length_runSelect hreading.sound (by rw [hreading.nextCursor]; exact hroom) hstrategy rfl
      hbounded hrun
  · intro hdistinct limit
    have hplan : Plan.ofTree id (.document (.select { q with limit })) =
        Plan.ofTree id (.document (.select q)) := Plan.ofSelect_distinct hdistinct limit
    rw [execute, execute, runTree, runTree, hplan]

/-- A collection of two documents with different values. -/
def twoValues [Host] : MemoryStore :=
  .holding "t" [[("_id", .int 1), ("a", .int 1)], [("_id", .int 2), ("a", .int 2)]]

theorem reachable_twoValues [Host] : twoValues.Reachable := MemoryStore.reachable_holding _ _

/-- One of two rows, and the limit of a DISTINCT left out. -/
theorem length_execute_limit_one :
    let q : Select := { collection := "t", columns := [.named "a"], limit := some ⟨0, 1⟩ }
    (1 : UInt64) ≠ 0 ∧ twoValues.Reachable ∧ twoValues.nextCursor < 2 ^ 63 ∧
      (∃ rows r, execute store "app" default (.document (.select q)) true twoValues =
        some (.ok rows, r) ∧ rows.length ≤ 1) ∧
      execute store "app" default (.document (.select { q with distinct := true, limit := none }))
          true twoValues =
        execute store "app" default (.document (.select { q with distinct := true })) true
          twoValues := by
  intro q
  have hcount : (1 : UInt64) ≠ 0 := by decide
  have hroom : twoValues.nextCursor < 2 ^ 63 := by decide
  obtain ⟨rows, r, hexecute⟩ : ∃ rows r,
      execute store "app" default (.document (.select q)) true twoValues = some (.ok rows, r) :=
    ⟨[[("a", .int 1)]], _, rfl⟩
  obtain ⟨hlength, -⟩ := length_execute_limit (q := q) (l := ⟨0, 1⟩) rfl hcount
    reachable_twoValues hroom "app" default true
  obtain ⟨-, hignored⟩ := length_execute_limit (q := { q with distinct := true }) (l := ⟨0, 1⟩) rfl
    hcount reachable_twoValues hroom "app" default true
  exact ⟨hcount, reachable_twoValues, hroom, ⟨rows, r, hexecute, hlength rfl rows r hexecute⟩,
    hignored rfl none⟩

/-- A DISTINCT with a limit of one row gives two. -/
theorem execute_distinct_unlimited :
    ∃ rows r, twoValues.Reachable ∧
      execute store "app" default (.document (.select
          { collection := "t", distinct := true, columns := [.named "a"], limit := some ⟨0, 1⟩ }))
        true twoValues = some (.ok rows, r) ∧ ¬rows.length ≤ 1 :=
  ⟨[[("a", .int 1)], [("a", .int 2)]], _, reachable_twoValues, rfl, by decide⟩

end Gateway

end SqlGateway
