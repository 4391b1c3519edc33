import Mathlib.Data.List.Nodup
import SqlGateway.Proofs.Pairing
import SqlGateway.Proofs.Row.Columns

/-! The cells of a row, one for each value of a result document. The values are those of its fields
and, in place of the field of a join, those of the fields inside it; an identifier is left out. No
cell is lost: whichever names the two documents share, no two values are read into one column. -/

namespace SqlGateway.Row

attribute [local instance] Host.universal

/-- A value of a result document, with the column it is read into and the name of its type. -/
structure Source where
  column : String
  typed : String
  value : Value

/-- What a source is read as. -/
def Source.read [Host] (types : TypeMap) (s : Source) : Except GatewayError Cell :=
  cellOf types s.typed s.value

/-- The document that a join has put into a field. -/
def embedded? (joined : Option String) (key : String) : Value → Option Document
  | .document inner => if joined = some key then some inner else none
  | _ => none

/-- The column of a joined field: its own name, unless the document around it has the name too. -/
def joinedColumn (outer : Document) (field key : String) : String :=
  if outer.has key then field ++ "." ++ key else key

/-- The sources of a field. -/
def fieldSources (joined : Option String) (outer : Document) (f : String × Value) : List Source :=
  if f.1 = idField then []
  else match embedded? joined f.1 f.2 with
    | some inner => (inner.filter (·.1 ≠ idField)).map fun e =>
        ⟨joinedColumn outer f.1 e.1, f.1 ++ "." ++ e.1, e.2⟩
    | none => [⟨f.1, f.1, f.2⟩]

/-- The sources of a row, in the order of the document. -/
def sources (joined : Option String) (d : Document) : List Source := d.flatMap (fieldSources joined d)

/-! ### Reading -/

variable {types : TypeMap} {joined : Option String} {outer d : Document} {row : Row}

/-- Adds the cell of a source. -/
def addSource [Host] (types : TypeMap) (r : Row) (s : Source) : Except GatewayError Row :=
  (s.read types).map (r.set s.column)

theorem addJoined_eq [Host] (field : String) (inner : Document) (r : Row) :
    addJoined types field outer r inner = ((inner.filter (·.1 ≠ idField)).map fun e =>
      (⟨joinedColumn outer field e.1, field ++ "." ++ e.1, e.2⟩ : Source)).foldlM
        (addSource types) r := by
  induction inner generalizing r with
  | nil => rfl
  | cons e inner ih =>
    obtain ⟨key, v⟩ := e
    rw [addJoined]
    split
    · next hid => rw [List.filter_cons_of_neg (by simpa using hid), ih]
    · next hid =>
      rw [List.filter_cons_of_pos (by simpa using hid), List.map_cons, List.foldlM_cons]
      simp only [addSource, Source.read, joinedColumn]
      cases cellOf types (field ++ "." ++ key) v with
      | error e => rfl
      | ok cell => exact ih _

theorem addField_eq [Host] (r : Row) (f : String × Value) :
    addField types joined outer r f.1 f.2 =
      (fieldSources joined outer f).foldlM (addSource types) r := by
  obtain ⟨key, v⟩ := f
  have hown : (do return r.set key (← cellOf types key v)) =
      [(⟨key, key, v⟩ : Source)].foldlM (addSource types) r := by
    rw [List.foldlM_cons, addSource, Source.read]
    cases cellOf types key v <;> rfl
  unfold addField fieldSources
  by_cases hid : key = idField
  · rw [if_pos hid, if_pos hid]
    rfl
  · rw [if_neg hid, if_neg hid]
    cases v with
    | document inner =>
      by_cases hjoined : joined = some key
      · simp only [embedded?, if_pos hjoined]
        exact addJoined_eq key inner r
      · simp only [embedded?, if_neg hjoined]
        exact hown
    | _ => exact hown

/-- A row is read one source at a time. -/
theorem ofDocument_eq [Host] : ofDocument types joined d = (sources joined d).foldlM (addSource types) [] := by
  have hfields (fields : Document) (r : Row) :
      fields.foldlM (fun r f => addField types joined d r f.1 f.2) r =
        (fields.flatMap (fieldSources joined d)).foldlM (addSource types) r := by
    induction fields generalizing r with
    | nil => rfl
    | cons f fields ih =>
      rw [List.foldlM_cons, List.flatMap_cons, List.foldlM_append, ← addField_eq]
      exact congrArg _ (funext ih)
  exact hfields d []

/-- It is read exactly if every source is. -/
theorem foldlM_addSource_isOk [Host] {more : List Source} {r : Row} :
    (∃ row, more.foldlM (addSource types) r = .ok row) ↔
      ∀ s ∈ more, ∃ cell, s.read types = .ok cell := by
  induction more generalizing r with
  | nil => exact iff_of_true ⟨r, rfl⟩ nofun
  | cons s more ih =>
    rw [List.forall_mem_cons, List.foldlM_cons]
    constructor
    · rintro ⟨row, h⟩
      obtain ⟨next, hnext, h⟩ := Except.bind_eq_ok.mp h
      obtain ⟨cell, hcell, -⟩ := Except.map_eq_ok.mp hnext
      exact ⟨⟨cell, hcell⟩, ih.mp ⟨row, h⟩⟩
    · rintro ⟨⟨cell, hcell⟩, hmore⟩
      obtain ⟨row, h⟩ : ∃ row, more.foldlM (addSource types) (r.set s.column cell) = .ok row :=
        ih.mpr hmore
      exact ⟨row, Except.bind_eq_ok.mpr ⟨_, Except.map_eq_ok.mpr ⟨cell, hcell, rfl⟩, h⟩⟩

/-- Sources of different columns have a cell each. -/
theorem foldlM_addSource_eq_ok [Host] {more : List Source} {r : Row}
    (hdistinct : (r.keys ++ more.map (·.column)).Nodup) :
    more.foldlM (addSource types) r = .ok row ↔ ∃ cells, r ++ cells = row ∧
      List.Forall₂ (fun s cell => cell.1 = s.column ∧ s.read types = .ok cell.2) more cells := by
  induction more generalizing r with
  | nil =>
    simp only [List.forall₂_nil_left_iff, exists_eq_right, List.append_nil]
    exact ⟨Except.ok.inj, congrArg _⟩
  | cons s more ih =>
    have hfresh : s.column ∉ r.keys := fun hmem =>
      (List.nodup_append.mp hdistinct).2.2 _ hmem _ List.mem_cons_self rfl
    have hrest (cell : Cell) :
        (Fields.keys (r ++ [(s.column, cell)]) ++ more.map (·.column)).Nodup := by
      rw [Fields.keys, List.map_append, List.append_assoc]
      exact hdistinct
    rw [List.foldlM_cons]
    constructor
    · intro h
      obtain ⟨next, hnext, h⟩ := Except.bind_eq_ok.mp h
      obtain ⟨cell, hcell, rfl⟩ := Except.map_eq_ok.mp hnext
      rw [Fields.set_of_not_mem hfresh] at h
      obtain ⟨cells, rfl, hcells⟩ := (ih (hrest cell)).mp h
      exact ⟨(s.column, cell) :: cells, List.append_cons r _ cells, .cons ⟨rfl, hcell⟩ hcells⟩
    · rintro ⟨_, rfl, hall⟩
      obtain ⟨⟨_, cell⟩, cells, ⟨rfl, hcell⟩, hcells, rfl⟩ := List.forall₂_cons_left_iff.mp hall
      refine Except.bind_eq_ok.mpr ⟨_, Except.map_eq_ok.mpr ⟨cell, hcell, rfl⟩, ?_⟩
      rw [Fields.set_of_not_mem hfresh]
      exact (ih (hrest cell)).mpr ⟨cells, (List.append_cons r _ cells).symm, hcells⟩

/-! ### Columns -/

/-- A document whose fields are named once, each without a dot. -/
structure Flat (d : Document) : Prop where
  distinct : (Fields.keys d).Nodup
  dotless : ∀ key ∈ Fields.keys d, '.' ∉ key.toList

theorem dot_mem_qualified (field key : String) : '.' ∈ (field ++ "." ++ key).toList := by
  simp

/-- Joined fields of different names have different columns. -/
theorem joinedColumn_inj {field key key' : String} (hkey : '.' ∉ key.toList)
    (hkey' : '.' ∉ key'.toList) (h : joinedColumn outer field key = joinedColumn outer field key') :
    key = key' := by
  rw [joinedColumn, joinedColumn] at h
  split at h <;> split at h
  · exact String.append_right_inj _ |>.mp h
  · exact absurd (h ▸ dot_mem_qualified field key) hkey'
  · exact absurd (h ▸ dot_mem_qualified field key') hkey
  · exact h

/-- No column of a joined field is that of a field around it. -/
theorem joinedColumn_not_mem (houter : Flat outer) (field key : String) :
    joinedColumn outer field key ∉ Fields.keys outer := by
  rw [joinedColumn]
  split
  · exact fun hmem => houter.dotless _ hmem (dot_mem_qualified field key)
  · next hhas => simpa [Fields.has_eq_isSome, Fields.get?_eq_none_iff] using hhas

theorem embedded?_eq_some {key : String} {v : Value} {inner : Document} :
    embedded? joined key v = some inner ↔ joined = some key ∧ v = .document inner := by
  cases v with
  | document fields => simp [embedded?, and_comm]
  | _ => simp [embedded?]

/-- The columns of a field: its own name, or names that no field around it has. -/
theorem column_of_fieldSources (houter : Flat outer) {f : String × Value} {s : Source}
    (hs : s ∈ fieldSources joined outer f) :
    s.column = f.1 ∨ joined = some f.1 ∧ s.column ∉ Fields.keys outer := by
  rw [fieldSources] at hs
  split at hs
  · cases hs
  · split at hs
    · next inner hinner =>
      obtain ⟨e, -, rfl⟩ := List.mem_map.mp hs
      exact .inr ⟨(embedded?_eq_some.mp hinner).1, joinedColumn_not_mem houter f.1 e.1⟩
    · exact .inl (congrArg Source.column (List.mem_singleton.mp hs))

theorem nodup_fieldSources {f : String × Value}
    (hinner : ∀ inner, embedded? joined f.1 f.2 = some inner → Flat inner) :
    ((fieldSources joined outer f).map (·.column)).Nodup := by
  rw [fieldSources]
  split
  · exact .nil
  · split
    · next inner hembedded =>
      obtain ⟨hdistinct, hdotless⟩ := hinner inner hembedded
      have hsub : ((inner.filter (·.1 ≠ idField)).map (·.1)).Sublist (Fields.keys inner) :=
        List.filter_sublist.map _
      have hmap : (((inner.filter (·.1 ≠ idField)).map (·.1)).map
          (joinedColumn outer f.1)).Nodup :=
        (hdistinct.sublist hsub).map_on fun key hkey key' hkey' =>
          joinedColumn_inj (hdotless key (hsub.subset hkey)) (hdotless key' (hsub.subset hkey'))
      simpa [Function.comp_def] using hmap
    · exact List.pairwise_singleton _ _

/-- No two sources of a document have one column. -/
theorem nodup_sources (hd : Flat d)
    (hinner : ∀ p inner, joined = some p → d.get? p = some (.document inner) → Flat inner) :
    ((sources joined d).map (·.column)).Nodup := by
  rw [sources, List.map_flatMap, List.nodup_flatMap]
  constructor
  · intro f hf
    refine nodup_fieldSources fun inner hembedded => ?_
    obtain ⟨hjoined, hv⟩ := embedded?_eq_some.mp hembedded
    exact hinner f.1 inner hjoined (hv ▸ Fields.get?_of_mem hd.distinct hf)
  · have hpairs : d.Pairwise fun f g => f.1 ≠ g.1 := List.pairwise_map.mp hd.distinct
    refine hpairs.imp_of_mem fun {f g} hf hg hne column hcolumn hcolumn' => ?_
    obtain ⟨s, hs, rfl⟩ := List.mem_map.mp hcolumn
    obtain ⟨t, ht, hst⟩ := List.mem_map.mp hcolumn'
    have hfield {f : String × Value} (hf : f ∈ d) : f.1 ∈ Fields.keys d := List.mem_map_of_mem hf
    rcases column_of_fieldSources hd hs with hown | ⟨hjoined, hnot⟩ <;>
      rcases column_of_fieldSources hd ht with hown' | ⟨hjoined', hnot'⟩
    · exact hne (hown.symm.trans (hst.symm.trans hown'))
    · exact hnot' (hst ▸ hown ▸ hfield hf)
    · exact hnot (hst ▸ hown' ▸ hfield hg)
    · exact hne (Option.some.inj (hjoined.symm.trans hjoined'))

/-- A document is read into a row exactly if each of its sources is read, and its row then has one
cell for each source, in a column of its own. -/
theorem ofDocument_sources [Host] (types : TypeMap) {joined : Option String} {d : Document} (hd : Flat d)
    (hinner : ∀ p inner, joined = some p → d.get? p = some (.document inner) → Flat inner) :
    ((sources joined d).map (·.column)).Nodup ∧
    ((∃ error, ofDocument types joined d = .error error) ↔
      ∃ s ∈ sources joined d, ∃ error, cellOf types s.typed s.value = .error error) ∧
    ∀ row, ofDocument types joined d = .ok row ↔ List.Forall₂
      (fun s cell => cell.1 = s.column ∧ cellOf types s.typed s.value = .ok cell.2)
      (sources joined d) row := by
  have hdistinct := nodup_sources hd hinner
  refine ⟨hdistinct, ?_, fun row => ?_⟩
  · rw [Except.exists_error_iff, ofDocument_eq, foldlM_addSource_isOk, not_forall₂]
    simp only [Except.exists_error_iff, exists_prop]
    rfl
  · rw [ofDocument_eq, foldlM_addSource_eq_ok (r := []) hdistinct]
    simp only [List.nil_append, exists_eq_left]
    rfl

/-- A join whose documents share two names, one of them the field of the join itself. -/
theorem ofDocument_sources_shared :
    let inner : Document := [("_id", .int 9), ("total", .int 3), ("name", .string "book"),
      ("join_orders", .int 7)]
    let d : Document := [("_id", .int 1), ("name", .string "ada"), ("join_orders", .document inner),
      ("paid", .bool true)]
    Flat d ∧ Flat inner ∧ ofDocument [("join_orders.total", .decimal)] (some "join_orders") d =
      .ok [("name", .string "ada"), ("total", .decimal (.ofInt64 3)),
        ("join_orders.name", .string "book"), ("join_orders.join_orders", .int 7),
        ("paid", .bool true)] := by
  intro inner d
  have hd : Flat d := ⟨by decide, by decide⟩
  have hinner : Flat inner := ⟨by decide, by decide⟩
  have hembedded : ∀ p fields, some "join_orders" = some p →
      d.get? p = some (.document fields) → Flat fields := by
    rintro p fields hp hfields
    obtain rfl := Option.some.inj hp
    cases hfields
    exact hinner
  refine ⟨hd, hinner, ((ofDocument_sources _ hd hembedded).2.2 _).mpr ?_⟩
  exact .cons ⟨rfl, Cell.decode_text _ rfl rfl⟩ (.cons ⟨rfl, rfl⟩ (.cons ⟨rfl, Cell.decode_text _ rfl rfl⟩
    (.cons ⟨rfl, rfl⟩ (.cons ⟨rfl, rfl⟩ .nil))))

end SqlGateway.Row
