import SqlGateway.Proofs.Store.Grouping

/-! How grouping splits documents. A document goes to the first part that begins with one of an
equal key, or begins a new part; a group is what has been accumulated over such a part, and over the
documents of the part alone nothing else would have been. Where keys are compared consistently, the
parts are the classes of documents with equal keys. -/

namespace SqlGateway

namespace Group

/-! ### Parts -/

section

variable {α : Type}

/-- Puts an item at the end of the first part that begins with one like it, or into a new part. -/
def gather (same : α → α → Bool) (x : α) : List (List α) → List (List α)
  | [] => [[x]]
  | part :: parts =>
    if part.head?.any (same · x) then (part ++ [x]) :: parts else part :: gather same x parts

/-- The parts of items that are gathered one after another. -/
def split (same : α → α → Bool) (xs : List α) : List (List α) :=
  xs.foldl (fun parts x => gather same x parts) []

/-- What gathering leads to: each part holds items in order and like its first one, and parts begin
differently. -/
structure Splits (same : α → α → Bool) (xs : List α) (parts : List (List α)) : Prop where
  perm : parts.flatten.Perm xs
  ordered : ∀ part ∈ parts, part.Sublist xs
  alike : ∀ part ∈ parts, ∃ x rest, part = x :: rest ∧ ∀ y ∈ rest, same x y = true
  heads : parts.Pairwise fun p q => ∀ x ∈ p.head?, ∀ y ∈ q.head?, same x y = false

/-- Whether parts are the classes of a relation on items. -/
structure Classes (same : α → α → Prop) (xs : List α) (parts : List (List α)) : Prop where
  perm : parts.flatten.Perm xs
  nonempty : ∀ part ∈ parts, part ≠ []
  together : ∀ part ∈ parts, ∀ x ∈ part, ∀ y ∈ part, same x y
  apart : parts.Pairwise fun p q => ∀ x ∈ p, ∀ y ∈ q, ¬ same x y

variable {same : α → α → Bool} {x : α} {xs : List α} {parts : List (List α)}

/-- A relation that is the same on the items has the same classes. -/
theorem Classes.congr {rel other : α → α → Prop} (h : Classes rel xs parts)
    (hrel : ∀ x ∈ xs, ∀ y ∈ xs, rel x y ↔ other x y) : Classes other xs parts := by
  have hmem {part : List α} (hpart : part ∈ parts) {x : α} (hx : x ∈ part) : x ∈ xs :=
    h.perm.subset (List.mem_flatten.mpr ⟨part, hpart, hx⟩)
  refine ⟨h.perm, h.nonempty, fun part hpart x hx y hy => ?_, ?_⟩
  · exact (hrel x (hmem hpart hx) y (hmem hpart hy)).mp (h.together part hpart x hx y hy)
  · refine h.apart.imp_of_mem fun hp hq hapart x hx y hy hxy => ?_
    exact hapart x hx y hy ((hrel x (hmem hp hx) y (hmem hq hy)).mpr hxy)

theorem mem_gather {part : List α} (h : part ∈ gather same x parts) :
    part ∈ parts ∨ part = [x] ∨ ∃ y rest, y :: rest ∈ parts ∧ same y x = true ∧
      part = y :: rest ++ [x] := by
  induction parts with
  | nil => exact .inr (.inl (List.mem_singleton.mp h))
  | cons p parts ih =>
    rw [gather] at h
    split at h
    · next hhead =>
      rcases List.mem_cons.mp h with rfl | h
      · obtain ⟨y, hy, hsame⟩ := (Option.any_eq_true _ _).mp hhead
        obtain ⟨rest, rfl⟩ := List.head?_eq_some_iff.mp hy
        exact .inr (.inr ⟨y, rest, List.mem_cons_self, hsame, rfl⟩)
      · exact .inl (List.mem_cons_of_mem p h)
    · rcases List.mem_cons.mp h with rfl | h
      · exact .inl List.mem_cons_self
      · rcases ih h with h | rfl | ⟨y, rest, hmem, hsame, rfl⟩
        · exact .inl (List.mem_cons_of_mem p h)
        · exact .inr (.inl rfl)
        · exact .inr (.inr ⟨y, rest, List.mem_cons_of_mem p hmem, hsame, rfl⟩)

theorem gather_perm (same : α → α → Bool) (x : α) (parts : List (List α)) :
    (gather same x parts).flatten.Perm (parts.flatten ++ [x]) := by
  induction parts with
  | nil => exact .refl _
  | cons part parts ih =>
    rw [gather]
    split
    · simp only [List.flatten_cons, List.append_assoc]
      exact List.perm_append_comm.append_left part
    · simp only [List.flatten_cons, List.append_assoc]
      exact ih.append_left part

theorem heads_gather
    (h : parts.Pairwise fun p q => ∀ y ∈ p.head?, ∀ z ∈ q.head?, same y z = false) :
    (gather same x parts).Pairwise fun p q => ∀ y ∈ p.head?, ∀ z ∈ q.head?, same y z = false := by
  induction parts with
  | nil => exact List.pairwise_singleton _ _
  | cons part parts ih =>
    obtain ⟨hpart, hparts⟩ := List.pairwise_cons.mp h
    rw [gather]
    split
    · next hhead =>
      obtain ⟨y, hy, -⟩ := (Option.any_eq_true _ _).mp hhead
      refine List.pairwise_cons.mpr ⟨fun q hq => ?_, hparts⟩
      have hkept : (part ++ [x]).head? = part.head? := by rw [List.head?_append, hy]; rfl
      rw [hkept]
      exact hpart q hq
    · next hhead =>
      refine List.pairwise_cons.mpr ⟨fun q hq y hy z hz => ?_, ih hparts⟩
      rcases mem_gather hq with hold | rfl | ⟨w, rest, hold, -, rfl⟩
      · exact hpart q hold y hy z hz
      · cases hz
        rw [hy] at hhead
        simpa using hhead
      · exact hpart _ hold y hy z hz

theorem Splits.gather (h : Splits same xs parts) (x : α) :
    Splits same (xs ++ [x]) (gather same x parts) where
  perm := (gather_perm same x parts).trans (h.perm.append_right [x])
  ordered part hpart := by
    rcases mem_gather hpart with hold | rfl | ⟨y, rest, hold, -, rfl⟩
    · exact (h.ordered part hold).trans (List.sublist_append_left xs [x])
    · exact List.sublist_append_right xs [x]
    · exact (h.ordered _ hold).append (.refl [x])
  alike part hpart := by
    rcases mem_gather hpart with hold | rfl | ⟨y, rest, hold, hsame, rfl⟩
    · exact h.alike part hold
    · exact ⟨x, [], rfl, nofun⟩
    · obtain ⟨z, others, heq, hothers⟩ := h.alike _ hold
      cases heq
      refine ⟨y, rest ++ [x], rfl, fun z hz => ?_⟩
      rcases List.mem_append.mp hz with hz | hz
      · exact hothers z hz
      · rwa [List.mem_singleton.mp hz]
  heads := heads_gather h.heads

theorem splits_split (same : α → α → Bool) (xs : List α) : Splits same xs (split same xs) := by
  induction xs using List.reverseRecOn with
  | nil => exact ⟨.refl _, nofun, nofun, .nil⟩
  | append_singleton xs x ih =>
    rw [split, List.foldl_append]
    exact ih.gather x

theorem subset_of_mem_split {part : List α} (h : part ∈ split same xs) : part ⊆ xs :=
  ((splits_split same xs).ordered part h).subset

theorem ne_nil_of_mem_split {part : List α} (h : part ∈ split same xs) : part ≠ [] := by
  obtain ⟨x, rest, rfl, -⟩ := (splits_split same xs).alike part h
  exact List.cons_ne_nil x rest

/-- Items that are all like the first one are one part. -/
theorem split_cons_of_same {rest : List α} (hrest : ∀ y ∈ rest, same x y = true) :
    split same (x :: rest) = [x :: rest] := by
  have hjoins (taken : List α) :
      rest.foldl (fun parts y => gather same y parts) [x :: taken] = [x :: taken ++ rest] := by
    induction rest generalizing taken with
    | nil => rw [List.append_nil]; rfl
    | cons y rest ih =>
      obtain ⟨hy, hrest⟩ := List.forall_mem_cons.mp hrest
      have hgather : gather same y [x :: taken] = [x :: (taken ++ [y])] := by
        rw [gather, List.head?_cons, Option.any_some, if_pos hy]
        rfl
      rw [List.foldl_cons, hgather, ih hrest, List.cons_append, List.append_assoc]
      rfl
  exact hjoins []

/-- A part is not split any further. -/
theorem split_of_mem {part : List α} (h : part ∈ split same xs) : split same part = [part] := by
  obtain ⟨x, rest, rfl, hrest⟩ := (splits_split same xs).alike part h
  exact split_cons_of_same hrest

/-- A relation that is an equivalence on items has the parts as its classes. -/
theorem classes_split {rel : α → α → Prop} (hsame : ∀ x ∈ xs, ∀ y ∈ xs, same x y = true ↔ rel x y)
    (hrefl : ∀ x ∈ xs, rel x x) (hsymm : ∀ x ∈ xs, ∀ y ∈ xs, rel x y → rel y x)
    (htrans : ∀ x ∈ xs, ∀ y ∈ xs, ∀ z ∈ xs, rel x y → rel y z → rel x z) :
    Classes rel xs (split same xs) := by
  have hsplits := splits_split same xs
  have hhead : ∀ part ∈ split same xs, ∃ x ∈ part.head?, ∀ y ∈ part, rel x y := by
    intro part hpart
    obtain ⟨x, rest, rfl, hrest⟩ := hsplits.alike part hpart
    have hmem := subset_of_mem_split hpart
    refine ⟨x, rfl, List.forall_mem_cons.mpr ⟨hrefl x (hmem List.mem_cons_self), fun y hy => ?_⟩⟩
    exact (hsame x (hmem List.mem_cons_self) y (hmem (List.mem_cons_of_mem x hy))).mp (hrest y hy)
  refine ⟨hsplits.perm, fun _ => ne_nil_of_mem_split, fun part hpart y hy z hz => ?_, ?_⟩
  · have hmem := subset_of_mem_split hpart
    obtain ⟨x, hx, halike⟩ := hhead part hpart
    have hx := hmem (List.mem_of_head? hx)
    exact htrans y (hmem hy) x hx z (hmem hz) (hsymm x hx y (hmem hy) (halike y hy)) (halike z hz)
  · refine hsplits.heads.imp_of_mem fun {p q} hp hq hapart y hy z hz hyz => ?_
    have hpmem := subset_of_mem_split hp
    have hqmem := subset_of_mem_split hq
    obtain ⟨v, hv, hpalike⟩ := hhead p hp
    obtain ⟨w, hw, hqalike⟩ := hhead q hq
    have hvmem := hpmem (List.mem_of_head? hv)
    have hwmem := hqmem (List.mem_of_head? hw)
    have hwz := hsymm w hwmem z (hqmem hz) (hqalike z hz)
    have hvw := htrans v hvmem z (hqmem hz) w hwmem
      (htrans v hvmem y (hpmem hy) z (hqmem hz) (hpalike y hy) hyz) hwz
    have hdiffer := hapart v hv w hw
    rw [(hsame v hvmem w hwmem).mpr hvw] at hdiffer
    cases hdiffer

end

end Group

/-! ### Groups -/

/-- The value of an expression, if it can be computed and has one. -/
def Expression.value? (root : Document) (e : Value) : Option Value :=
  match evaluate root e with
  | .ok v => v
  | .error _ => none

theorem Expression.value?_of_evaluate {root : Document} {e : Value} {v : Option Value}
    (h : evaluate root e = .ok v) : value? root e = v := by
  rw [value?, h]

namespace Group

/-- What a field takes in of a document. -/
def taken (f : GroupField) (d : Document) : Option Value := Expression.value? d f.expression

/-- The key of a document; one without a value has null. -/
def keyAt (key : Value) (d : Document) : Value := (Expression.value? d key).getD .null

/-- Whether documents have equal keys. -/
def sameKey (key : Value) (d e : Document) : Bool := (keyAt key d).equal (keyAt key e)

/-- Whether a document has a key and all that a group takes in of it can be computed. -/
structure Groupable (fields : List GroupField) (key : Value) (d : Document) : Prop where
  key : ∃ v, Expression.evaluate d key = .ok v
  fields : ∀ f ∈ fields, ∃ v, Expression.evaluate d f.expression = .ok v

/-- The group of a part, with the key of its first document. -/
def ofPart (fields : List GroupField) (key : Value) (part : List Document) : Group :=
  ⟨keyAt key (part.headD []), fields.map (accumulate taken part)⟩

/-- The document of a part. -/
def summary (fields : List GroupField) (key : Value) (part : List Document) : Document :=
  ("_id", keyAt key (part.headD [])) ::
    fields.map fun f => (f.name, (accumulate taken part f).finish)

variable {fields : List GroupField} {key : Value} {d : Document}

theorem finish_ofPart (part : List Document) :
    finish fields (ofPart fields key part) = summary fields key part := by
  have hpaired (acc : GroupField → Accumulator) :
      fields.zip (fields.map acc) = fields.map fun f => (f, acc f) := by
    simpa using List.zip_map' (f := id) (g := acc) (l := fields)
  rw [finish, ofPart, hpaired, List.map_map]
  rfl

theorem accept_accumulated {k : Value} {docs : List Document} {g : Group} :
    accept fields d ⟨k, fields.map (accumulate taken docs)⟩ = .ok g ↔
      (∀ f ∈ fields, ∃ v, Expression.evaluate d f.expression = .ok v) ∧
        ⟨k, fields.map (accumulate taken (docs ++ [d]))⟩ = g := by
  have hadded : ((fields.map (accumulate taken docs)).zip (fields.map (taken · d))).map
      (fun e => e.1.accept e.2) = fields.map (accumulate taken (docs ++ [d])) := by
    rw [List.zip_map', List.map_map]
    refine List.map_congr_left fun f _ => ?_
    rw [accumulate, List.foldl_append]
    rfl
  have hvalues {vs : List (Option Value)} :
      fields.mapM (fun f => Expression.evaluate d f.expression) = .ok vs ↔
        (∀ f ∈ fields, ∃ v, Expression.evaluate d f.expression = .ok v) ∧
          fields.map (taken · d) = vs :=
    Except.mapM_eq_ok_iff fun f v hv => Expression.value?_of_evaluate hv
  rw [accept, Except.bind_eq_ok]
  constructor
  · rintro ⟨vs, hvs, h⟩
    obtain ⟨hall, rfl⟩ := hvalues.mp hvs
    exact ⟨hall, by rw [← hadded]; exact Except.ok.inj h⟩
  · rintro ⟨hall, rfl⟩
    exact ⟨_, hvalues.mpr ⟨hall, rfl⟩, by rw [← hadded]; rfl⟩

/-- A document is put into the group of the part to which it goes. -/
theorem place_parts {parts : List (List Document)} (hparts : ∀ part ∈ parts, part ≠ [])
    {groups : List Group} :
    place fields (keyAt key d) d (parts.map (ofPart fields key)) = .ok groups ↔
      (∀ f ∈ fields, ∃ v, Expression.evaluate d f.expression = .ok v) ∧
        (gather (sameKey key) d parts).map (ofPart fields key) = groups := by
  induction parts generalizing groups with
  | nil =>
    have hnew : start fields (keyAt key d) = ⟨keyAt key d, fields.map (accumulate taken [])⟩ := rfl
    rw [List.map_nil, place, Except.bind_eq_ok]
    constructor
    · rintro ⟨g, hg, h⟩
      obtain ⟨hall, rfl⟩ := accept_accumulated.mp (hnew ▸ hg)
      exact ⟨hall, Except.ok.inj h⟩
    · rintro ⟨hall, rfl⟩
      exact ⟨_, hnew ▸ accept_accumulated.mpr ⟨hall, rfl⟩, rfl⟩
  | cons part parts ih =>
    obtain ⟨hpart, hothers⟩ := List.forall_mem_cons.mp hparts
    obtain ⟨first, rest, rfl⟩ := List.exists_cons_of_ne_nil hpart
    have hkey : (ofPart fields key (first :: rest)).key.equal (keyAt key d) =
        sameKey key first d := rfl
    rw [List.map_cons, place, hkey, gather, List.head?_cons, Option.any_some]
    cases sameKey key first d with
    | true =>
      rw [if_pos rfl, if_pos rfl, Except.bind_eq_ok]
      constructor
      · rintro ⟨g, hg, h⟩
        obtain ⟨hall, rfl⟩ := accept_accumulated.mp hg
        exact ⟨hall, Except.ok.inj h⟩
      · rintro ⟨hall, rfl⟩
        exact ⟨_, accept_accumulated.mpr ⟨hall, rfl⟩, rfl⟩
    | false =>
      rw [if_neg Bool.false_ne_true, if_neg Bool.false_ne_true, Except.bind_eq_ok]
      constructor
      · rintro ⟨gs, hgs, h⟩
        obtain ⟨hall, rfl⟩ := (ih hothers).mp hgs
        exact ⟨hall, Except.ok.inj h⟩
      · rintro ⟨hall, rfl⟩
        exact ⟨_, (ih hothers).mpr ⟨hall, rfl⟩, rfl⟩

theorem foldlM_place_parts {docs : List Document} {parts : List (List Document)}
    (hparts : ∀ part ∈ parts, part ≠ []) {groups : List Group} :
    docs.foldlM (fun gs d => do
        place fields ((← Expression.evaluate d key).getD .null) d gs)
      (parts.map (ofPart fields key)) = .ok groups ↔
      (∀ d ∈ docs, Groupable fields key d) ∧
        (docs.foldl (fun parts d => gather (sameKey key) d parts) parts).map (ofPart fields key) =
          groups := by
  induction docs generalizing parts with
  | nil => exact ⟨fun h => ⟨nofun, Except.ok.inj h⟩, fun h => congrArg Except.ok h.2⟩
  | cons d docs ih =>
    have hgathered : ∀ part ∈ gather (sameKey key) d parts, part ≠ [] := by
      intro part hpart
      rcases mem_gather hpart with hold | rfl | ⟨y, rest, -, -, rfl⟩
      · exact hparts part hold
      · exact List.cons_ne_nil _ _
      · exact List.cons_ne_nil _ _
    rw [List.foldlM_cons, List.forall_mem_cons, List.foldl_cons, Except.bind_eq_ok]
    constructor
    · rintro ⟨gs, hgs, h⟩
      obtain ⟨v, hv, hgs⟩ := Except.bind_eq_ok.mp hgs
      have hkey : keyAt key d = v.getD .null := by rw [keyAt, Expression.value?_of_evaluate hv]
      obtain ⟨hfields, rfl⟩ := (place_parts hparts).mp (hkey ▸ hgs)
      obtain ⟨hdocs, rfl⟩ := (ih hgathered).mp h
      exact ⟨⟨⟨⟨v, hv⟩, hfields⟩, hdocs⟩, rfl⟩
    · rintro ⟨⟨⟨⟨v, hv⟩, hfields⟩, hdocs⟩, rfl⟩
      have hkey : keyAt key d = v.getD .null := by rw [keyAt, Expression.value?_of_evaluate hv]
      refine ⟨_, Except.bind_eq_ok.mpr ⟨v, hv, ?_⟩, (ih hgathered).mpr ⟨hdocs, rfl⟩⟩
      rw [← hkey]
      exact (place_parts hparts).mpr ⟨hfields, rfl⟩

/-- Grouping gives the documents of the parts, if all documents can be grouped. -/
theorem collect_eq_ok {docs rows : List Document} {spec : Document} :
    collect docs spec = .ok rows ↔
      ∃ key fields, spec.get? "_id" = some key ∧
        (spec.filter (·.1 != "_id")).mapM (fun e => readField e.1 e.2) = .ok fields ∧
        (∀ d ∈ docs, Groupable fields key d) ∧
        (split (sameKey key) docs).map (summary fields key) = rows := by
  have hnone : ∀ part ∈ ([] : List (List Document)), part ≠ [] := nofun
  have hsummaries (fields : List GroupField) (key : Value) :
      ((split (sameKey key) docs).map (ofPart fields key)).map (finish fields) =
        (split (sameKey key) docs).map (summary fields key) := by
    rw [List.map_map]
    exact List.map_congr_left fun part _ => finish_ofPart part
  rw [collect]
  cases hkey : spec.get? "_id" with
  | none =>
    refine iff_of_false (fun h => ?_) ?_
    · cases h
    · rintro ⟨_, _, hnone, _⟩
      cases hnone
  | some key =>
    constructor
    · intro h
      obtain ⟨fields, hfields, h⟩ := Except.bind_eq_ok.mp h
      obtain ⟨groups, hgroups, h⟩ := Except.bind_eq_ok.mp h
      obtain ⟨hdocs, rfl⟩ := (foldlM_place_parts hnone).mp hgroups
      refine ⟨key, fields, rfl, hfields, hdocs, ?_⟩
      rw [← hsummaries]
      exact Except.ok.inj h
    · rintro ⟨key', fields, heq, hfields, hdocs, rfl⟩
      cases heq
      refine Except.bind_eq_ok.mpr ⟨fields, hfields, Except.bind_eq_ok.mpr ⟨_,
        (foldlM_place_parts hnone).mpr ⟨hdocs, rfl⟩, ?_⟩⟩
      rw [← hsummaries]
      rfl

end Group

end SqlGateway
