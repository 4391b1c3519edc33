import SqlGateway.Proofs.Value.Fields
import SqlGateway.Text.Parts
import SqlGateway.Value.Path

/-! What is read at a path after a write or a removal there: the value that was
written, and nothing. Both leave alone every field but the one that the first
segment names, and of that one what stands at paths apart from it. Paths are
read segment by segment and written up to each dot in turn, which is the same.
A path without dots is the name of a field. -/

namespace SqlGateway

/-! ### Parts of a text

They are what stands between its separators, in order. -/

section

variable {separator : Char}

/-- The first part of a text ends at its first separator or with the text. -/
theorem partsAt_head {cs p : List Char} {ps : List (List Char)} (h : partsAt separator cs = p :: ps) :
    cs = p ∨ ∃ rest, cs = p ++ separator :: rest := by
  induction cs generalizing p ps with
  | nil =>
    cases h
    exact .inl rfl
  | cons c cs ih =>
    rw [partsAt] at h
    split at h
    · next hc =>
      cases h
      exact .inr ⟨cs, by rw [hc]; rfl⟩
    · rcases hq : partsAt separator cs with _ | ⟨q, qs⟩
      · exact absurd hq (partsAt_ne_nil separator cs)
      · rw [hq] at h
        cases h
        rcases ih hq with hcs | ⟨rest, hcs⟩
        · exact .inl (by rw [hcs])
        · exact .inr ⟨rest, by rw [hcs]; rfl⟩

theorem eq_of_partsAt {cs p : List Char} (h : partsAt separator cs = [p]) : cs = p := by
  induction cs generalizing p with
  | nil => exact List.singleton_inj.mp h
  | cons c cs ih =>
    rw [partsAt] at h
    split at h
    · exact absurd (List.cons.inj h).2 (partsAt_ne_nil separator cs)
    · rcases hq : partsAt separator cs with _ | ⟨q, qs⟩
      · exact absurd hq (partsAt_ne_nil separator cs)
      · rw [hq] at h
        cases h
        rw [ih hq]

theorem partsAt_of_not_mem {cs : List Char} (h : separator ∉ cs) : partsAt separator cs = [cs] := by
  induction cs with
  | nil => rfl
  | cons c cs ih =>
    rw [List.mem_cons, not_or] at h
    obtain ⟨hc, hcs⟩ := h
    rw [partsAt, if_neg (Ne.symm hc), ih hcs]

/-- The first separator ends the first part. -/
theorem partsAt_append_separator {head : List Char} (h : separator ∉ head) (rest : List Char) :
    partsAt separator (head ++ separator :: rest) = head :: partsAt separator rest := by
  induction head with
  | nil => exact if_pos rfl
  | cons c cs ih =>
    rw [List.mem_cons, not_or] at h
    obtain ⟨hc, hcs⟩ := h
    rw [List.cons_append, partsAt, if_neg (Ne.symm hc), ih hcs]

end

/-! ### Paths -/

/-- A path begins with a segment only if it is that segment or goes on behind it with a dot. -/
theorem path_of_pathSegments {path s : String} {ss : List String}
    (h : pathSegments path = s :: ss) :
    path = s ∨ ∃ rest, path.toList = s.toList ++ '.' :: rest := by
  rw [pathSegments] at h
  rcases hp : partsAt '.' path.toList with _ | ⟨p, ps⟩
  · exact absurd hp (partsAt_ne_nil _ _)
  · rw [hp, List.map_cons, List.cons.injEq] at h
    have hs : s.toList = p := by rw [← h.1, String.toList_ofList]
    rcases partsAt_head hp with hpath | ⟨rest, hpath⟩
    · exact .inl (by rw [← String.toList_inj, hpath, hs])
    · exact .inr ⟨rest, by rw [hpath, hs]⟩

/-- A path of one segment is that segment. -/
theorem eq_of_pathSegments {path s : String} (h : pathSegments path = [s]) : path = s := by
  obtain ⟨p, hp, rfl⟩ := List.map_eq_singleton_iff.mp h
  rw [← eq_of_partsAt hp, String.ofList_toList]

theorem pathSegments_of_dotless {path : String} (h : '.' ∉ path.toList) :
    pathSegments path = [path] := by
  rw [pathSegments, partsAt_of_not_mem h, List.map_singleton, String.ofList_toList]

/-- Without dots there is nothing to put underscores for. -/
theorem map_underscore_of_dotless {path : String} (h : '.' ∉ path.toList) :
    (path.toList.map fun c => if c = '.' then '_' else c) = path.toList := by
  refine (List.map_congr_left fun c hc => if_neg ?_).trans (List.map_id _)
  rintro rfl
  exact h hc

/-- Whether two paths lead to different places, neither of them inside the other. -/
structure PathsApart (path other : String) : Prop where
  outside : ¬ pathSegments path <+: pathSegments other
  around : ¬ pathSegments other <+: pathSegments path

instance (path other : String) : Decidable (PathsApart path other) :=
  decidable_of_iff (¬ pathSegments path <+: pathSegments other ∧
      ¬ pathSegments other <+: pathSegments path)
    ⟨fun h => ⟨h.1, h.2⟩, fun h => ⟨h.outside, h.around⟩⟩

namespace Document

/-! ### Writing and removing by segments -/

/-- Writes the value at the end of a path. Whatever is in the way and not a document is replaced
by one. -/
def setSegments (v : Value) : List String → Document → Document
  | [], d => d
  | [s], d => d.set s v
  | s :: ss, d => match d.get? s with
    | some (.document inner) => d.set s (.document (setSegments v ss inner))
    | _ => d.set s (.document (setSegments v ss []))

/-- Removes the value at the end of a path. -/
def eraseSegments : List String → Document → Document
  | [], d => d
  | [s], d => d.erase s
  | s :: ss, d => match d.get? s with
    | some (.document inner) => d.set s (.document (eraseSegments ss inner))
    | _ => d

/-- The segments of a path that has been read in part, without a dot so far. -/
def segmentsBehind (read cs : List Char) : List String :=
  (partsAt '.' (read.reverse ++ cs)).map String.ofList

theorem segmentsBehind_nil {read : List Char} (h : '.' ∉ read) :
    segmentsBehind read [] = [String.ofList read.reverse] := by
  rw [segmentsBehind, List.append_nil, partsAt_of_not_mem (by rwa [List.mem_reverse]),
    List.map_singleton]

theorem segmentsBehind_dot {read : List Char} (h : '.' ∉ read) (cs : List Char) :
    segmentsBehind read ('.' :: cs) = String.ofList read.reverse :: segmentsBehind [] cs := by
  rw [segmentsBehind, partsAt_append_separator (by rwa [List.mem_reverse]), List.map_cons]
  rfl

theorem segmentsBehind_cons (read cs : List Char) (c : Char) :
    segmentsBehind read (c :: cs) = segmentsBehind (c :: read) cs := by
  rw [segmentsBehind, segmentsBehind, List.reverse_cons, List.append_assoc, List.singleton_append]

theorem segmentsBehind_ne_nil (read cs : List Char) : segmentsBehind read cs ≠ [] := by
  simp [segmentsBehind, partsAt_ne_nil]

theorem setBehind_eq (v : Value) {read : List Char} (h : '.' ∉ read) (cs : List Char)
    (d : Document) : d.setBehind v read cs = d.setSegments v (segmentsBehind read cs) := by
  induction cs generalizing read d with
  | nil => rw [setBehind, segmentsBehind_nil h, setSegments]
  | cons c cs ih =>
    rw [setBehind]
    by_cases hc : c = '.'
    · rw [if_pos hc, hc, segmentsBehind_dot h, setSegments]
      · dsimp only
        cases hget : Fields.get? d (String.ofList read.reverse) with
        | none =>
          dsimp only
          rw [ih List.not_mem_nil]
        | some w =>
          cases w
          all_goals
            dsimp only
            rw [ih List.not_mem_nil]
      · exact segmentsBehind_ne_nil [] cs
    · rw [if_neg hc, segmentsBehind_cons, ih]
      rw [List.mem_cons, not_or]
      exact ⟨Ne.symm hc, h⟩

theorem removeBehind_eq {read : List Char} (h : '.' ∉ read) (cs : List Char) (d : Document) :
    d.removeBehind read cs =
      (d.eraseSegments (segmentsBehind read cs), d.getSegments? (segmentsBehind read cs)) := by
  induction cs generalizing read d with
  | nil => rw [removeBehind, segmentsBehind_nil h, eraseSegments, getSegments?]
  | cons c cs ih =>
    rw [removeBehind]
    by_cases hc : c = '.'
    · rw [if_pos hc, hc, segmentsBehind_dot h, eraseSegments, getSegments?]
      · dsimp only
        cases hget : Fields.get? d (String.ofList read.reverse) with
        | none => rfl
        | some w =>
          cases w with
          | document inner =>
            dsimp only
            rw [ih List.not_mem_nil]
          | _ => rfl
      · exact segmentsBehind_ne_nil [] cs
      · exact segmentsBehind_ne_nil [] cs
    · rw [if_neg hc, segmentsBehind_cons, ih]
      rw [List.mem_cons, not_or]
      exact ⟨Ne.symm hc, h⟩

theorem setPath_eq (d : Document) (path : String) (v : Value) :
    d.setPath path v = d.setSegments v (pathSegments path) :=
  setBehind_eq v List.not_mem_nil path.toList d

/-- A removal gives back what was read at the path. -/
theorem removePath_eq (d : Document) (path : String) :
    d.removePath path = (d.eraseSegments (pathSegments path), d.getPath? path) :=
  removeBehind_eq List.not_mem_nil path.toList d

theorem getPath?_of_dotless {path : String} (h : '.' ∉ path.toList) (d : Document) :
    d.getPath? path = d.get? path := by
  rw [getPath?, pathSegments_of_dotless h, getSegments?]

theorem setPath_of_dotless {path : String} (h : '.' ∉ path.toList) (d : Document) (v : Value) :
    d.setPath path v = d.set path v := by
  rw [setPath_eq, pathSegments_of_dotless h, setSegments]

theorem removePath_of_dotless {path : String} (h : '.' ∉ path.toList) (d : Document) :
    d.removePath path = (d.erase path, d.get? path) := by
  rw [removePath_eq, getPath?_of_dotless h, pathSegments_of_dotless h, eraseSegments]

/-! ### After a write -/

theorem get?_setSegments {key s : String} (h : key ≠ s) (v : Value) (ss : List String)
    (d : Document) : (d.setSegments v (s :: ss)).get? key = d.get? key := by
  cases ss with
  | nil => rw [setSegments, Fields.get?_set, if_neg h]
  | cons t ts =>
    rw [setSegments]
    split <;> rw [Fields.get?_set, if_neg h]
    exact nofun

theorem getSegments?_nil (ss : List String) : getSegments? ss [] = none := by
  match ss with
  | [] => rfl
  | [_] => rfl
  | _ :: _ :: _ => rfl

/-- What stands at a path that begins with a field depends on that field alone. -/
theorem getSegments?_congr {d e : Document} {s : String} (h : d.get? s = e.get? s)
    (ss : List String) : d.getSegments? (s :: ss) = e.getSegments? (s :: ss) := by
  cases ss with
  | nil => exact h
  | cons t ts => rw [getSegments?, getSegments?, h] <;> exact nofun

/-- A path leads through a document in its first field. -/
theorem getSegments?_of_document {d inner : Document} {s : String}
    (h : d.get? s = some (.document inner)) {ss : List String} (hss : ss ≠ []) :
    d.getSegments? (s :: ss) = inner.getSegments? ss := by
  rw [getSegments?, h]
  exact hss

/-- What is read at a path whose first field holds no document is that field. -/
theorem get?_of_getPath? {d : Document} {path : String} {v : Value} (h : d.getPath? path = some v)
    (hscalar : ∀ e ∈ d, (pathSegments path).head? = some e.1 → ∀ inner, e.2 ≠ .document inner) :
    d.get? path = some v := by
  obtain ⟨s, ss, hpath⟩ := List.exists_cons_of_ne_nil (pathSegments_ne_nil path)
  rw [getPath?, hpath] at h
  rw [hpath, List.head?_cons] at hscalar
  by_cases hss : ss = []
  · rw [hss, getSegments?] at h
    rwa [eq_of_pathSegments (hpath.trans (congrArg (s :: ·) hss))]
  · rw [getSegments?] at h
    · split at h
      · next inner hinner => exact absurd rfl (hscalar _ (Fields.mem_of_get? hinner) rfl inner)
      · cases h
    · exact hss

/-- A write behind a field writes into the document in that field, or into a new one. -/
theorem exists_setSegments_cons (v : Value) (s : String) {ss : List String} (hss : ss ≠ [])
    (d : Document) :
    ∃ inner : Document, d.setSegments v (s :: ss) = d.set s (.document (inner.setSegments v ss)) ∧
      ∀ ts, ts ≠ [] → d.getSegments? (s :: ts) = inner.getSegments? ts := by
  rw [setSegments.eq_def]
  obtain ⟨t, ts, rfl⟩ := List.exists_cons_of_ne_nil hss
  dsimp only
  split
  · next inner hinner => exact ⟨inner, rfl, fun us hus => getSegments?_of_document hinner hus⟩
  · next hother =>
    refine ⟨[], rfl, fun us hus => ?_⟩
    rw [getSegments?_nil, getSegments?]
    · split
      · next inner hinner => exact absurd hinner (hother inner)
      · rfl
    · exact hus

/-- What has been written at a path is read there. -/
theorem getSegments?_setSegments_self (v : Value) {ss : List String} (hss : ss ≠ [])
    (d : Document) : (d.setSegments v ss).getSegments? ss = some v := by
  induction ss generalizing d with
  | nil => exact absurd rfl hss
  | cons s ss ih =>
    by_cases hrest : ss = []
    · subst hrest
      rw [setSegments, getSegments?, Fields.get?_set, if_pos rfl]
    · obtain ⟨inner, hset, -⟩ := exists_setSegments_cons v s hrest d
      have hget : (d.setSegments v (s :: ss)).get? s =
          some (.document (inner.setSegments v ss)) := by
        rw [hset, Fields.get?_set, if_pos rfl]
      rw [getSegments?_of_document hget hrest, ih hrest]

/-- Away from the path that is written, neither above it nor below, nothing changes. -/
theorem getSegments?_setSegments_of_not_prefix (v : Value) {ss ts : List String}
    (hst : ¬ ss <+: ts) (hts : ¬ ts <+: ss) (d : Document) :
    (d.setSegments v ss).getSegments? ts = d.getSegments? ts := by
  -- the paths part at their first segments, or they lead on into the same document
  induction ss generalizing ts d with
  | nil => exact absurd List.nil_prefix hst
  | cons s ss ih =>
    obtain _ | ⟨t, ts⟩ := ts
    · exact absurd List.nil_prefix hts
    by_cases hhead : t = s
    · subst hhead
      simp only [List.cons_prefix_cons, true_and] at hst hts
      have hss : ss ≠ [] := fun hnil => hst (hnil ▸ List.nil_prefix)
      have htail : ts ≠ [] := fun hnil => hts (hnil ▸ List.nil_prefix)
      obtain ⟨inner, hset, hinner⟩ := exists_setSegments_cons v t hss d
      have hget : (d.setSegments v (t :: ss)).get? t =
          some (.document (inner.setSegments v ss)) := by
        rw [hset, Fields.get?_set, if_pos rfl]
      rw [getSegments?_of_document hget htail, ih hst hts, hinner ts htail]
    · exact getSegments?_congr (get?_setSegments hhead v ss d) ts

theorem getPath?_setPath_self (d : Document) (path : String) (v : Value) :
    (d.setPath path v).getPath? path = some v := by
  rw [setPath_eq]
  exact getSegments?_setSegments_self v (pathSegments_ne_nil path) d

theorem getPath?_setPath_apart {path other : String} (h : PathsApart path other) (d : Document)
    (v : Value) : (d.setPath path v).getPath? other = d.getPath? other := by
  rw [setPath_eq]
  exact getSegments?_setSegments_of_not_prefix v h.outside h.around d

/-- Whether a field leads to a path: it is called as the first segment and, unless the path ends
there, it holds a document. -/
structure LeadsTo (path : String) (e : String × Value) : Prop where
  head : (pathSegments path).head? = some e.1
  whole : path = e.1 ∨ ∃ inner, e.2 = .document inner

/-- A write adds no field but the one that leads to its path. -/
theorem mem_setPath {d : Document} {path : String} {v : Value} {e : String × Value}
    (h : e ∈ d.setPath path v) : e ∈ d ∨ LeadsTo path e := by
  obtain ⟨s, ss, hpath⟩ := List.exists_cons_of_ne_nil (pathSegments_ne_nil path)
  rw [setPath_eq, hpath] at h
  by_cases hss : ss = []
  · rw [hss, setSegments] at h
    refine (Fields.mem_of_mem_set h).symm.imp_right fun he => ?_
    rw [he]
    exact ⟨by rw [hpath]; rfl, .inl (eq_of_pathSegments (hss ▸ hpath))⟩
  · obtain ⟨inner, hset, -⟩ := exists_setSegments_cons v s hss d
    rw [hset] at h
    refine (Fields.mem_of_mem_set h).symm.imp_right fun he => ?_
    rw [he]
    exact ⟨by rw [hpath]; rfl, .inr ⟨_, rfl⟩⟩

theorem nodup_keys_setPath {d : Document} (h : (Fields.keys d).Nodup) (path : String) (v : Value) :
    (Fields.keys (d.setPath path v)).Nodup := by
  obtain ⟨s, ss, hpath⟩ := List.exists_cons_of_ne_nil (pathSegments_ne_nil path)
  rw [setPath_eq, hpath]
  by_cases hss : ss = []
  · rw [hss, setSegments]
    exact Fields.nodup_keys_set h _ _
  · obtain ⟨inner, hset, -⟩ := exists_setSegments_cons v s hss d
    rw [hset]
    exact Fields.nodup_keys_set h _ _

/-! ### After a removal -/

theorem get?_eraseSegments {key s : String} (h : key ≠ s) (ss : List String) (d : Document) :
    (d.eraseSegments (s :: ss)).get? key = d.get? key := by
  cases ss with
  | nil => rw [eraseSegments, Fields.get?_erase, if_neg h]
  | cons t ts =>
    rw [eraseSegments]
    split
    · rw [Fields.get?_set, if_neg h]
    · rfl
    · exact nofun

/-- A removal behind a field removes from the document in that field, if there is one. -/
theorem eraseSegments_cons (s : String) {ss : List String} (hss : ss ≠ []) (d : Document) :
    (∃ inner : Document, d.get? s = some (.document inner) ∧
        d.eraseSegments (s :: ss) = d.set s (.document (inner.eraseSegments ss))) ∨
      (∀ ts, ts ≠ [] → d.getSegments? (s :: ts) = none) ∧ d.eraseSegments (s :: ss) = d := by
  obtain ⟨t, ts, rfl⟩ := List.exists_cons_of_ne_nil hss
  rw [eraseSegments]
  · split
    · next inner hinner => exact .inl ⟨inner, hinner, rfl⟩
    · next hother =>
      refine .inr ⟨fun us hus => ?_, rfl⟩
      rw [getSegments?]
      · split
        · next inner hinner => exact absurd hinner (hother inner)
        · rfl
      · exact hus
  · exact hss

/-- Nothing is read at a path after the removal. -/
theorem getSegments?_eraseSegments_self {ss : List String} (hss : ss ≠ []) (d : Document) :
    (d.eraseSegments ss).getSegments? ss = none := by
  induction ss generalizing d with
  | nil => exact absurd rfl hss
  | cons s ss ih =>
    by_cases hrest : ss = []
    · rw [hrest, eraseSegments, getSegments?, Fields.get?_erase, if_pos rfl]
    · rcases eraseSegments_cons s hrest d with ⟨inner, -, herase⟩ | ⟨hnone, herase⟩
      · have hget : (d.eraseSegments (s :: ss)).get? s =
            some (.document (eraseSegments ss inner)) := by
          rw [herase, Fields.get?_set, if_pos rfl]
        rw [getSegments?_of_document hget hrest, ih hrest]
      · rw [herase, hnone ss hrest]

/-- Away from the path that is removed, neither above it nor below, nothing changes. -/
theorem getSegments?_eraseSegments_of_not_prefix {ss ts : List String} (hst : ¬ ss <+: ts)
    (hts : ¬ ts <+: ss) (d : Document) : (d.eraseSegments ss).getSegments? ts = d.getSegments? ts := by
  induction ss generalizing ts d with
  | nil => exact absurd List.nil_prefix hst
  | cons s ss ih =>
    obtain _ | ⟨t, ts⟩ := ts
    · exact absurd List.nil_prefix hts
    by_cases hhead : t = s
    · subst hhead
      simp only [List.cons_prefix_cons, true_and] at hst hts
      have hss : ss ≠ [] := fun hnil => hst (hnil ▸ List.nil_prefix)
      have htail : ts ≠ [] := fun hnil => hts (hnil ▸ List.nil_prefix)
      rcases eraseSegments_cons t hss d with ⟨inner, hinner, herase⟩ | ⟨-, herase⟩
      · have hget : (d.eraseSegments (t :: ss)).get? t =
            some (.document (eraseSegments ss inner)) := by
          rw [herase, Fields.get?_set, if_pos rfl]
        rw [getSegments?_of_document hget htail, ih hst hts, getSegments?_of_document hinner htail]
      · rw [herase]
    · exact getSegments?_congr (get?_eraseSegments hhead ss d) ts

/-- Writing at a path is read there and nowhere apart from it, removing gives back what was read
there and leaves nothing, and the three agree on what a path leads to. -/
theorem path_laws (d : Document) (v : Value) (path other : String) :
    (d.setPath path v).getPath? path = some v ∧
      (d.removePath path).2 = d.getPath? path ∧
      (d.removePath path).1.getPath? path = none ∧
      (PathsApart path other → (d.setPath path v).getPath? other = d.getPath? other ∧
        (d.removePath path).1.getPath? other = d.getPath? other) := by
  rw [removePath_eq]
  refine ⟨getPath?_setPath_self d path v, rfl, ?_, fun hapart => ⟨?_, ?_⟩⟩
  · exact getSegments?_eraseSegments_self (pathSegments_ne_nil path) d
  · exact getPath?_setPath_apart hapart d v
  · exact getSegments?_eraseSegments_of_not_prefix hapart.outside hapart.around d

/-- A write through a number, at a path with an empty segment, beside what stands after another
dot. -/
theorem path_laws_replaced :
    PathsApart "a..b" "a.c" ∧
      let d : Document := [("a", .document [("", .int 1), ("c", .int 2)]), ("x", .null)]
      d.setPath "a..b" (.int 3) =
          [("a", .document [("", .document [("b", .int 3)]), ("c", .int 2)]), ("x", .null)] ∧
        (d.setPath "a..b" (.int 3)).getPath? "a.c" = some (.int 2) :=
  ⟨by decide, rfl, ((path_laws _ (.int 3) "a..b" "a.c").2.2.2 (by decide)).1⟩

end Document

end SqlGateway
