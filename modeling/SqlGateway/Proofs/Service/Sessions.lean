import Mathlib
import SqlGateway.Proofs.Identifiers.Ordering
import SqlGateway.Proofs.Service.Requests

/-! Sessions without their failures. A session comes back if every request that it comes to does,
and then every line has its answer. A request that fails leaves the store as it was, but for what
the store keeps for itself; so the requests after it are answered as if it had not been made. -/

namespace SqlGateway

namespace Service

/-! ### Lines -/

/-- The lines that have not been answered with a failure. A blank line has no answer. -/
def kept : List (ObjectId × String) → List String → List (ObjectId × String)
  | [], _ => []
  | entry :: rest, answers =>
    if isBlankText entry.2 then entry :: kept rest answers
    else if answers.head?.any isFailure then kept rest answers.tail
    else entry :: kept rest answers.tail

theorem kept_sublist (lines : List (ObjectId × String)) (answers : List String) :
    (kept lines answers).Sublist lines := by
  induction lines generalizing answers with
  | nil => exact .refl _
  | cons entry rest ih =>
    rw [kept]
    split
    · exact (ih _).cons_cons _
    split
    · exact (ih _).cons _
    · exact (ih _).cons_cons _

/-- Whether a line is kept does not depend on its identifier. -/
theorem kept_cons_cases (line : String) (answers : List String) : ∃ answers',
    (∀ id rest, kept ((id, line) :: rest) answers = (id, line) :: kept rest answers') ∨
      ∀ id rest, kept ((id, line) :: rest) answers = kept rest answers' := by
  by_cases hblank : isBlankText line = true
  · exact ⟨answers, .inl fun id rest => by rw [kept, if_pos hblank]⟩
  by_cases hfailure : answers.head?.any isFailure = true
  · exact ⟨answers.tail, .inr fun id rest => by rw [kept, if_neg hblank, if_pos hfailure]⟩
  · exact ⟨answers.tail, .inl fun id rest => by rw [kept, if_neg hblank, if_neg hfailure]⟩

theorem mem_of_mem_numbered {lines : List String} {entry : ObjectId × String}
    (h : entry ∈ numbered lines) : entry.2 ∈ lines := by
  obtain ⟨⟨line, n⟩, hline, rfl⟩ := List.mem_map.mp h
  exact List.fst_mem_of_mem_zipIdx hline

/-! ### Identifiers -/

/-- Distinct identifiers may be exchanged for others in one go. -/
theorem exists_exchange {ids ids' : List ObjectId} (hids : ids.Nodup) (hids' : ids'.Nodup)
    (hlength : ids.length = ids'.length) : ∃ f : Equiv.Perm ObjectId, ids.map f = ids' := by
  induction ids generalizing ids' with
  | nil => exact ⟨1, (List.length_eq_zero_iff.mp hlength.symm).symm⟩
  | cons id ids ih =>
    obtain ⟨id', ids', rfl⟩ := List.exists_cons_of_length_eq_add_one hlength.symm
    obtain ⟨hnew, hids⟩ := List.nodup_cons.mp hids
    obtain ⟨hnew', hids'⟩ := List.nodup_cons.mp hids'
    obtain ⟨f, hf⟩ := ih hids hids' (Nat.succ.inj hlength)
    refine ⟨f.trans (Equiv.swap (f id) id'), ?_⟩
    have hrest (other : ObjectId) (hother : other ∈ ids) :
        Equiv.swap (f id) id' (f other) = f other := by
      refine Equiv.swap_apply_of_ne_of_ne (fun hsame => hnew (f.injective hsame ▸ hother)) ?_
      exact fun hsame => hnew' (hf ▸ hsame ▸ List.mem_map_of_mem hother)
    rw [List.map_cons, Equiv.trans_apply, Equiv.swap_apply_left]
    exact congrArg (id' :: ·) ((List.map_congr_left hrest).trans hf)

theorem numbered_injective {n m : Nat} (hn : n < 2 ^ 88) (hm : m < 2 ^ 88)
    (h : ObjectId.numbered n = ObjectId.numbered m) : n = m := by
  have hbits : 0x68#8 ++ BitVec.ofNat 88 n = 0x68#8 ++ BitVec.ofNat 88 m := congrArg (·.bits) h
  have hlow := congrArg (BitVec.setWidth 88) hbits
  rw [BitVec.setWidth_append_eq_right, BitVec.setWidth_append_eq_right] at hlow
  have hnat : n % 2 ^ 88 = m % 2 ^ 88 := congrArg BitVec.toNat hlow
  rwa [Nat.mod_eq_of_lt hn, Nat.mod_eq_of_lt hm] at hnat

/-- There are further identifiers beside those in use. -/
theorem exists_further (used : List ObjectId) (n : Nat) (hroom : used.length + n ≤ 2 ^ 88) :
    ∃ further : List ObjectId, further.length = n ∧ further.Nodup ∧ ∀ id ∈ further, id ∉ used := by
  let all := (Finset.range (used.length + n)).image ObjectId.numbered
  have hcard : all.card = used.length + n := by
    rw [Finset.card_image_of_injOn, Finset.card_range]
    intro i hi j hj hij
    have hi' := Finset.mem_range.mp hi
    have hj' := Finset.mem_range.mp hj
    exact numbered_injective (by omega) (by omega) hij
  have hmany : n ≤ (all \ used.toFinset).toList.length := by
    have hless := Finset.le_card_sdiff used.toFinset all
    have hused := used.toFinset_card_le
    rw [Finset.length_toList]
    omega
  refine ⟨(all \ used.toFinset).toList.take n, List.length_take_of_le hmany,
    (Finset.nodup_toList _).sublist (List.take_sublist n _), fun id hid => ?_⟩
  have hmem := Finset.mem_toList.mp (List.mem_of_mem_take hid)
  simpa using (Finset.mem_sdiff.mp hmem).2

/-- Identifiers for the lines that are kept, and further ones for the others, are identifiers for
all lines. -/
theorem exists_labels {lines : List (ObjectId × String)} {answers : List String}
    {ids further : List ObjectId} (hids : ids.length = (kept lines answers).length)
    (hfurther : lines.length ≤ further.length) (hnodup : (ids ++ further).Nodup) :
    ∃ labels : List ObjectId, labels.Nodup ∧ labels ⊆ ids ++ further ∧
      labels.length = lines.length ∧
        kept (labels.zip (lines.map (·.2))) answers =
          ids.zip ((kept lines answers).map (·.2)) := by
  induction lines generalizing answers ids further with
  | nil => exact ⟨[], .nil, List.nil_subset _, rfl, by simp [kept]⟩
  | cons entry rest ih =>
    obtain ⟨id, line⟩ := entry
    obtain ⟨answers', hkeeps | hdrops⟩ := kept_cons_cases line answers
    · rw [hkeeps] at hids ⊢
      obtain ⟨label, ids, rfl⟩ := List.exists_cons_of_length_eq_add_one hids
      obtain ⟨hfresh, hnodup⟩ := List.nodup_cons.mp hnodup
      obtain ⟨labels, hlabels, hsub, hlength, hkept⟩ := ih (Nat.succ.inj hids)
        (Nat.le_of_succ_le hfurther) hnodup
      refine ⟨label :: labels, List.nodup_cons.mpr ⟨fun h => hfresh (hsub h), hlabels⟩,
        List.cons_subset_cons _ hsub, congrArg (· + 1) hlength, ?_⟩
      simp only [List.map_cons, List.zip_cons_cons, hkeeps, hkept]
    · rw [hdrops] at hids ⊢
      obtain ⟨label, further, rfl⟩ := List.exists_cons_of_ne_nil
        (List.ne_nil_of_length_pos (Nat.lt_of_lt_of_le (Nat.succ_pos rest.length) hfurther))
      obtain ⟨hfresh, hnodup⟩ := List.nodup_middle.mp hnodup |> List.nodup_cons.mp
      obtain ⟨labels, hlabels, hsub, hlength, hkept⟩ := ih hids (Nat.le_of_succ_le_succ hfurther)
        hnodup
      refine ⟨label :: labels, List.nodup_cons.mpr ⟨fun h => hfresh (hsub h), hlabels⟩,
        List.cons_subset.mpr ⟨by simp, fun l hl => ?_⟩, congrArg (· + 1) hlength, ?_⟩
      · exact List.perm_middle.mem_iff.mpr (List.mem_cons_of_mem label (hsub hl))
      · simp only [List.map_cons, List.zip_cons_cons, hdrops, hkept]

/-- Any identifiers for the lines that are kept come from a renaming of the identifiers of all. -/
theorem exists_renaming {lines : List (ObjectId × String)} {answers : List String}
    (hids : (lines.map (·.1)).Nodup) {others : List ObjectId} (hothers : others.Nodup)
    (hcount : others.length = (kept lines answers).length) (hroom : lines.length < 2 ^ 87) :
    ∃ f : Equiv.Perm ObjectId, kept (lines.map (Prod.map f id)) answers =
      others.zip ((kept lines answers).map (·.2)) := by
  have hfew : others.length ≤ lines.length := hcount ▸ (kept_sublist lines answers).length_le
  obtain ⟨further, hfurther, hdistinct, hunused⟩ := exists_further others lines.length (by omega)
  obtain ⟨labels, hlabels, -, hlength, hkept⟩ := exists_labels hcount hfurther.ge
    (List.nodup_append.mpr ⟨hothers, hdistinct, fun a ha b hb hab => hunused b hb (hab ▸ ha)⟩)
  obtain ⟨f, hf⟩ := exists_exchange hids hlabels (by rw [List.length_map, hlength])
  have hlines : lines.map (Prod.map f id) = labels.zip (lines.map (·.2)) := by
    rw [← hf, List.map_map, List.zip_map', Function.comp_def]
    rfl
  exact ⟨f, hlines ▸ hkept⟩

/-! ### Sessions -/

section

variable [Host] {config : Config} {room : Nat} {s t : MemoryStore}

/-- Whether an answer is one line and is what some store answers to a request. -/
def Answers (config : Config) (entry : ObjectId × String) (answer : String) : Prop :=
  '\n' ∉ answer.toList ∧
    ∃ s s', answerQuery MemoryStore.store config entry.1 entry.2 s = some (answer, s')

theorem serveQueries_blank {entry : ObjectId × String} (hblank : isBlankText entry.2 = true)
    (rest : List (ObjectId × String)) (s : MemoryStore) :
    serveQueries MemoryStore.store config (entry :: rest) s =
      serveQueries MemoryStore.store config rest s := by
  rw [serveQueries, if_pos hblank]

theorem serveQueries_line {entry : ObjectId × String} (hblank : ¬isBlankText entry.2 = true)
    (rest : List (ObjectId × String)) (s : MemoryStore) :
    serveQueries MemoryStore.store config (entry :: rest) s =
      (answerQuery MemoryStore.store config entry.1 entry.2 s).bind fun answered =>
        (serveQueries MemoryStore.store config rest answered.2).map fun served =>
          (answered.1 :: served.1, served.2) := by
  rw [serveQueries, if_neg hblank]
  cases answerQuery MemoryStore.store config entry.1 entry.2 s with
  | none => rfl
  | some answered =>
    rw [Option.bind_some]
    change Option.bind (serveQueries MemoryStore.store config rest answered.2) _ = _
    cases serveQueries MemoryStore.store config rest answered.2 <;> rfl

/-- What a session that begins with a line has been answered. -/
theorem exists_of_serveQueries_line {entry : ObjectId × String}
    (hblank : ¬isBlankText entry.2 = true) {rest : List (ObjectId × String)}
    {answers : List String} {s' : MemoryStore}
    (h : serveQueries MemoryStore.store config (entry :: rest) s = some (answers, s')) :
    ∃ answer s₁ more, answerQuery MemoryStore.store config entry.1 entry.2 s = some (answer, s₁) ∧
      serveQueries MemoryStore.store config rest s₁ = some (more, s') ∧
        answers = answer :: more := by
  rw [serveQueries_line hblank] at h
  obtain ⟨⟨answer, s₁⟩, hanswer, h⟩ := Option.bind_eq_some_iff.mp h
  obtain ⟨⟨more, s₂⟩, hrest, h⟩ := Option.map_eq_some_iff.mp h
  cases h
  exact ⟨answer, s₁, more, hanswer, hrest, rfl⟩

theorem met_blank {entry : ObjectId × String} (hblank : isBlankText entry.2 = true)
    (rest : List (ObjectId × String)) (s : MemoryStore) :
    met MemoryStore.store config (entry :: rest) s = met MemoryStore.store config rest s := by
  rw [met, if_pos hblank]

/-- A session comes to the request on its first line, and to what follows when that is answered. -/
theorem mem_met_line {entry : ObjectId × String} (hblank : ¬isBlankText entry.2 = true)
    {rest : List (ObjectId × String)} {m : MetRequest MemoryStore} :
    m ∈ met MemoryStore.store config (entry :: rest) s ↔
      (∃ request, Request.ofText entry.2 = .ok request ∧ m = metOn config entry.1 request s) ∨
        ∃ answer s', answerQuery MemoryStore.store config entry.1 entry.2 s = some (answer, s') ∧
          m ∈ met MemoryStore.store config rest s' := by
  rw [met, if_neg hblank]
  cases hrequest : Request.ofText entry.2 with
  | error e =>
    rw [answerQuery, hrequest]
    simp
  | ok request =>
    dsimp only
    rw [List.mem_cons]
    cases answerQuery MemoryStore.store config entry.1 entry.2 s with
    | none => simp [metOn]
    | some answered =>
      obtain ⟨answer, s'⟩ := answered
      simp [metOn]

/-- A session has answers just if every request that it comes to comes back. -/
theorem serveQueries_isSome {lines : List (ObjectId × String)}
    (hauto : ∀ entry ∈ lines, CommitsItself config entry.2) (h : Rested (4 * lines.length) s s) :
    (serveQueries MemoryStore.store config lines s).isSome ↔
      ∀ m ∈ met MemoryStore.store config lines s, m.comesBack MemoryStore.store config = true := by
  induction lines generalizing s with
  | nil => simp [serveQueries, met]
  | cons entry rest ih =>
    obtain ⟨hentry, hrest⟩ := List.forall_mem_cons.mp hauto
    by_cases hblank : isBlankText entry.2 = true
    · rw [serveQueries_blank hblank, met_blank hblank]
      exact ih hrest { h with toAlike := h.toAlike.mono (by rw [List.length_cons]; omega) }
    have hroom : Rested (4 * rest.length + 4) s s := h
    have hfirst := answerQuery_isSome hroom hentry entry.1
    have hlater {answer : String} {s' : MemoryStore}
        (hanswer : answerQuery MemoryStore.store config entry.1 entry.2 s = some (answer, s')) :
        (serveQueries MemoryStore.store config rest s').isSome ↔
          ∀ m ∈ met MemoryStore.store config rest s',
            m.comesBack MemoryStore.store config = true := by
      obtain ⟨t', hanswer', hrested, -⟩ := answerQuery_rested hroom hentry hanswer
      cases hanswer.symm.trans hanswer'
      exact ih hrest hrested
    simp only [mem_met_line hblank]
    rw [serveQueries_line hblank]
    constructor
    · intro hsome m hm
      obtain ⟨served, hserved⟩ := Option.isSome_iff_exists.mp hsome
      obtain ⟨⟨answer, s'⟩, hanswer, hmore⟩ := Option.bind_eq_some_iff.mp hserved
      obtain ⟨more, hmore, -⟩ := Option.map_eq_some_iff.mp hmore
      rcases hm with ⟨request, hrequest, rfl⟩ | ⟨answer', s'', hanswer', hm⟩
      · exact hfirst.mp (Option.isSome_of_eq_some hanswer) request hrequest
      · cases hanswer.symm.trans hanswer'
        exact (hlater hanswer).mp (Option.isSome_of_eq_some hmore) m hm
    · intro hall
      have hanswered := hfirst.mpr fun request hrequest => hall _ (.inl ⟨request, hrequest, rfl⟩)
      obtain ⟨⟨answer, s'⟩, hanswer⟩ := Option.isSome_iff_exists.mp hanswered
      rw [hanswer, Option.bind_some, Option.isSome_map]
      exact (hlater hanswer).mpr fun m hm => hall m (.inr ⟨answer, s', hanswer, hm⟩)

/-- The requests that remain when those that fail are taken out are answered as before. -/
theorem serveQueries_rested {lines : List (ObjectId × String)}
    (hauto : ∀ entry ∈ lines, CommitsItself config entry.2) (h : Rested (4 * lines.length) s t)
    {answers : List String} {s' : MemoryStore}
    (hserved : serveQueries MemoryStore.store config lines s = some (answers, s')) :
    List.Forall₂ (Answers config) (lines.filter (!isBlankText ·.2)) answers ∧
      ∃ t', serveQueries MemoryStore.store config (kept lines answers) t =
        some (answers.filter (!isFailure ·), t') := by
  induction lines generalizing s t answers with
  | nil =>
    cases hserved
    exact ⟨.nil, t, rfl⟩
  | cons entry rest ih =>
    obtain ⟨hentry, hrest⟩ := List.forall_mem_cons.mp hauto
    by_cases hblank : isBlankText entry.2 = true
    · have hfewer : Rested (4 * rest.length) s t :=
        { h with toAlike := h.toAlike.mono (by rw [List.length_cons]; omega) }
      rw [serveQueries_blank hblank] at hserved
      obtain ⟨hanswers, t', hkept⟩ := ih hrest hfewer hserved
      rw [List.filter_cons_of_neg (by simp [hblank]), kept, if_pos hblank]
      exact ⟨hanswers, t', (serveQueries_blank hblank _ _).trans hkept⟩
    have hroom : Rested (4 * rest.length + 4) s t := h
    obtain ⟨answer, s₁, more, hanswer, hmore, rfl⟩ := exists_of_serveQueries_line hblank hserved
    obtain ⟨t₁, hanswer', hboth, hfailed⟩ := answerQuery_rested hroom hentry hanswer
    have hone : Answers config entry answer :=
      ⟨(printable_answerQuery hanswer).newline_notMem, s, s₁, hanswer⟩
    rw [List.filter_cons_of_pos (by simp [hblank]), kept, if_neg hblank]
    by_cases hfailure : isFailure answer = true
    · -- the second session does not have this line, and stays where it is
      obtain ⟨hanswers, t', hkept⟩ := ih hrest (hfailed hfailure) hmore
      rw [if_pos (by simpa using hfailure), List.filter_cons_of_neg (by simp [hfailure])]
      exact ⟨.cons hone hanswers, t', hkept⟩
    · obtain ⟨hanswers, t', hkept⟩ := ih hrest hboth hmore
      rw [if_neg (by simpa using hfailure), List.filter_cons_of_pos (by simp [hfailure])]
      refine ⟨.cons hone hanswers, t', ?_⟩
      rw [serveQueries_line hblank, hanswer', Option.bind_some]
      exact Option.map_eq_some_iff.mpr ⟨_, hkept, rfl⟩

/-! ### Other identifiers -/

/-- A session is served alike under other identifiers if no request that it comes to orders them. -/
theorem serveQueries_rename {f : ObjectId → ObjectId} (hf : Function.Injective f)
    {labels : List ObjectId} {lines : List (ObjectId × String)}
    (hids : (lines.map (·.1)).Nodup) (hnew : ∀ entry ∈ lines, entry.1 ∉ labels)
    (h : MemoryStore.Renames f labels (4 * lines.length) s t)
    (hspares : ∀ m ∈ met MemoryStore.store config lines s, m.SparesIdentifiers config)
    {answers : List String} {s' : MemoryStore}
    (hserved : serveQueries MemoryStore.store config lines s = some (answers, s')) :
    ∃ t', serveQueries MemoryStore.store config (lines.map (Prod.map f id)) t =
      some (answers, t') := by
  induction lines generalizing s t labels answers with
  | nil =>
    cases hserved
    exact ⟨t, rfl⟩
  | cons entry rest ih =>
    rw [List.map_cons, List.nodup_cons] at hids
    obtain ⟨hentry, hrest⟩ := List.forall_mem_cons.mp hnew
    rw [List.map_cons]
    by_cases hblank : isBlankText entry.2 = true
    · have hfewer : MemoryStore.Renames f labels (4 * rest.length) s t :=
        h.mono (List.Subset.refl _) (by rw [List.length_cons]; omega)
      rw [serveQueries_blank hblank] at hserved
      rw [met_blank hblank] at hspares
      obtain ⟨t', hrenamed⟩ := ih hids.2 hrest hfewer hspares hserved
      exact ⟨t', (serveQueries_blank (by exact hblank) _ _).trans hrenamed⟩
    have hroom : MemoryStore.Renames f labels (4 * rest.length + 4) s t := h
    obtain ⟨answer, s₁, more, hanswer, hmore, rfl⟩ := exists_of_serveQueries_line hblank hserved
    simp only [mem_met_line hblank] at hspares
    obtain ⟨t₁, hanswer', hboth⟩ := answerQuery_rename hf hroom hentry
      (fun request hrequest => hspares _ (.inl ⟨request, hrequest, rfl⟩)) hanswer
    have hlater (other : ObjectId × String) (hother : other ∈ rest) : other.1 ∉ entry.1 :: labels := by
      rw [List.mem_cons, not_or]
      exact ⟨fun hsame => hids.1 (hsame ▸ List.mem_map_of_mem hother), hrest other hother⟩
    obtain ⟨t', hrenamed⟩ := ih hids.2 hlater hboth
      (fun m hm => hspares m (.inr ⟨answer, s₁, hanswer, hm⟩)) hmore
    refine ⟨t', ?_⟩
    rw [serveQueries_line (by exact hblank)]
    exact Option.bind_eq_some_iff.mpr ⟨_, hanswer', Option.map_eq_some_iff.mpr ⟨_, hrenamed, rfl⟩⟩

/-! ### What a session comes to -/

/-- What holds of the requests on the lines of a session holds of those that it comes to. -/
theorem forall_met_of_lines {P : MetRequest MemoryStore → Prop} {lines : List (ObjectId × String)}
    (h : ∀ entry ∈ lines, ∀ request, Request.ofText entry.2 = .ok request →
      ∀ s, P (metOn config entry.1 request s)) (s : MemoryStore) :
    ∀ m ∈ met MemoryStore.store config lines s, P m := by
  induction lines generalizing s with
  | nil => exact nofun
  | cons entry rest ih =>
    obtain ⟨hentry, hrest⟩ := List.forall_mem_cons.mp h
    intro m hm
    by_cases hblank : isBlankText entry.2 = true
    · rw [met_blank hblank] at hm
      exact ih hrest s m hm
    · rcases (mem_met_line hblank).mp hm with ⟨request, hrequest, rfl⟩ | ⟨answer, s', -, hm⟩
      · exact hentry request hrequest s
      · exact ih hrest s' m hm

/-- Direct requests come back, in whatever session. -/
theorem comesBack_met {lines : List (ObjectId × String)}
    (h : ∀ entry ∈ lines, ∀ request, Request.ofText entry.2 = .ok request → request.tree.Direct) :
    ∀ m ∈ met MemoryStore.store config lines s, m.comesBack MemoryStore.store config = true :=
  forall_met_of_lines (fun entry hentry request hrequest s =>
    Execution.comesBack_of_direct (h entry hentry request hrequest) entry.1 _ s) s

/-- Requests that order no identifiers spare them, in a session that gives out each of them once. -/
theorem sparesIdentifiers_met {labels : List ObjectId} {lines : List (ObjectId × String)}
    (hids : (lines.map (·.1)).Nodup) (hnew : ∀ entry ∈ lines, entry.1 ∉ labels)
    (hs : MemoryStore.Renames id labels (4 * lines.length) s s)
    (h : ∀ entry ∈ lines, ∀ request, Request.ofText entry.2 = .ok request →
      request.tree.OrdersPlainly) :
    ∀ m ∈ met MemoryStore.store config lines s, m.SparesIdentifiers config := by
  induction lines generalizing s labels with
  | nil => exact nofun
  | cons entry rest ih =>
    rw [List.map_cons, List.nodup_cons] at hids
    obtain ⟨hentry, hrest⟩ := List.forall_mem_cons.mp h
    obtain ⟨hfirst, hothers⟩ := List.forall_mem_cons.mp hnew
    intro m hm
    by_cases hblank : isBlankText entry.2 = true
    · rw [met_blank hblank] at hm
      have hfewer : MemoryStore.Renames id labels (4 * rest.length) s s :=
        hs.mono (List.Subset.refl _) (by rw [List.length_cons]; omega)
      exact ih hids.2 hothers hfewer hrest m hm
    have hspares (request : Request) (hrequest : Request.ofText entry.2 = .ok request) :
        (metOn config entry.1 request s).SparesIdentifiers config :=
      Execution.sparesIdentifiers_of_ordersPlainly hs.labelled (hentry request hrequest) entry.1 _
    rcases (mem_met_line hblank).mp hm with ⟨request, hrequest, rfl⟩ | ⟨answer, s', hanswer, hm⟩
    · exact hspares request hrequest
    · have hroom : MemoryStore.Renames id labels (4 * rest.length + 4) s s := hs
      obtain ⟨t', hanswer', hnext⟩ :=
        answerQuery_rename Function.injective_id hroom hfirst hspares hanswer
      cases hanswer.symm.trans hanswer'
      refine ih hids.2 (fun other hother => ?_) hnext hrest m hm
      rw [List.mem_cons, not_or]
      exact ⟨fun hsame => hids.1 (hsame ▸ List.mem_map_of_mem hother), hothers other hother⟩

/-! ### Failures leave no trace -/

/-- The answers to the requests on lines. -/
def answersOf (config : Config) (s : MemoryStore) (lines : List (ObjectId × String)) :
    Option (List String) :=
  (serveQueries MemoryStore.store config lines s).map (·.1)

theorem answersOf_of_serveQueries {lines : List (ObjectId × String)} {answers : List String}
    {s' : MemoryStore} (h : serveQueries MemoryStore.store config lines s = some (answers, s')) :
    answersOf config s lines = some answers := by
  rw [answersOf, h]
  rfl

theorem rested_new (standalone : Bool) (latency batchSize : Nat) (ids : Nat → ObjectId)
    {room : Nat} (hroom : 1 + room ≤ 2 ^ 63) :
    let s := { MemoryStore.new standalone with latency, ids }.withBatchSize batchSize
    Rested room s s := by
  intro s
  have hs : s.Sound := MemoryStore.sound_of_reachable (.new standalone batchSize latency ids)
  exact { MemoryStore.Alike.refl hs hroom with idle := rfl, serves := rfl }

/-- A new store holds no identifiers. -/
theorem renames_new (f : ObjectId → ObjectId) (standalone : Bool) (latency batchSize : Nat)
    (ids : Nat → ObjectId) {room : Nat} (hroom : 1 + room ≤ 2 ^ 63) :
    let s := { MemoryStore.new standalone with latency, ids }.withBatchSize batchSize
    MemoryStore.Renames f [] room s s := by
  intro s
  have hs : s.Sound := MemoryStore.sound_of_reachable (.new standalone batchSize latency ids)
  exact ⟨MemoryStore.Alike.refl hs hroom, hs, nofun, nofun⟩

end

attribute [local instance] Host.universal

end Service

end SqlGateway
