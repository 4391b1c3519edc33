import Mathlib.Data.List.Forall2
import SqlGateway.Execution.Response
import SqlGateway.Plan.Definition
import SqlGateway.Proofs.Pairing
import SqlGateway.Proofs.Store.Updating

/-! Renaming columns. The renames of an action are carried out one after another,
each on the document that the ones before it have left. A target that is a later
source is therefore moved on with the value that has just been put there, and the
value that was there before is lost; if no document holds both, each value ends
where it belongs. -/

namespace SqlGateway

attribute [local instance] Host.universal

/-! ### One rename -/

/-- A document after the value of one field has been moved to another. -/
def Document.renamed (d : Document) (r : ColumnRename) : Document :=
  match d.get? r.source with
  | some v => (d.erase r.source).set r.target v
  | none => d

namespace Update

/-- A field name that is no path, and not that of the identifier. -/
structure Plain (name : String) : Prop where
  dotless : '.' ∉ name.toList
  ne_identity : name ≠ "_id"

theorem guardIdentity_of_plain {name : String} (h : Plain name) : guardIdentity name = .ok () := by
  have hinside : "_id.".toList.isPrefixOf name.toList = false := by
    rw [← Bool.not_eq_true, List.isPrefixOf_iff_prefix]
    exact fun hstart => h.dotless (hstart.subset (by decide))
  rw [guardIdentity, hinside, if_neg]
  simpa using h.ne_identity

theorem applyField_rename {r : ColumnRename} (hsource : Plain r.source) (htarget : Plain r.target)
    (d : Document) : applyField "$rename" d r.source (.string r.target) = .ok (d.renamed r) := by
  rw [applyField, guardIdentity_of_plain hsource, Except.ok_bind, guardIdentity_of_plain htarget,
    Except.ok_bind, Document.removePath_of_dotless hsource.dotless, Document.renamed]
  rcases d.get? r.source with _ | v
  · rfl
  · exact congrArg Except.ok (Document.setPath_of_dotless htarget.dotless _ v)

end Update

theorem Document.get?_renamed (d : Document) (r : ColumnRename) (key : String) :
    (d.renamed r).get? key =
      if key = r.target then (d.get? r.source).or (d.get? key)
      else if key = r.source then none else d.get? key := by
  rw [renamed]
  rcases hsource : d.get? r.source with _ | v
  · rw [Option.none_or]
    split_ifs with htarget hkey
    · rfl
    · rw [hkey, hsource]
    · rfl
  · dsimp only
    rw [Fields.get?_set, Fields.get?_erase, Option.some_or]

/-! ### Renames one after another -/

namespace Document

/-- No document holds a value that a rename would overwrite. -/
def Frees (renames : List ColumnRename) (d : Document) : Prop :=
  ∀ r ∈ renames, r.target ∉ renames.map (·.source) → d.get? r.target = none

variable {renames : List ColumnRename} {r : ColumnRename} {d : Document}

/-- What is not moved by any rename stays. -/
theorem get?_foldl_renamed {key : String} (hsource : key ∉ renames.map (·.source))
    (htarget : key ∉ renames.map (·.target)) : (renames.foldl renamed d).get? key = d.get? key := by
  induction renames generalizing d with
  | nil => rfl
  | cons r renames ih =>
    rw [List.map_cons, List.mem_cons, not_or] at hsource htarget
    rw [List.foldl_cons, ih hsource.2 htarget.2, get?_renamed, if_neg htarget.1, if_neg hsource.1]

/-- A source that is no target is empty in the end. -/
theorem get?_foldl_renamed_source {key : String} (hsource : key ∈ renames.map (·.source))
    (htarget : key ∉ renames.map (·.target)) : (renames.foldl renamed d).get? key = none := by
  induction renames generalizing d with
  | nil => cases hsource
  | cons r renames ih =>
    rw [List.map_cons, List.mem_cons, not_or] at htarget
    rw [List.foldl_cons]
    by_cases hlater : key ∈ renames.map (·.source)
    · exact ih hlater htarget.2
    · have hkey : key = r.source := (List.mem_cons.mp hsource).resolve_right hlater
      rw [get?_foldl_renamed hlater htarget.2, get?_renamed, if_neg htarget.1, if_pos hkey]

/-- A rename frees its source and fills its target. -/
theorem Frees.renamed (htarget : r.target ∉ renames.map (·.target)) (h : Frees (r :: renames) d) :
    Frees renames (d.renamed r) := by
  intro r' hr' hfree
  have hne : r'.target ≠ r.target := fun heq => htarget (heq ▸ List.mem_map_of_mem hr')
  rw [get?_renamed, if_neg hne]
  split_ifs with hsource
  · rfl
  · refine h r' (List.mem_cons_of_mem r hr') ?_
    rw [List.map_cons, List.mem_cons, not_or]
    exact ⟨hsource, hfree⟩

/-- A rename that moves nothing onto a later source leaves all later sources as they were. -/
theorem get?_renamed_of_later {r' : ColumnRename} (hr' : r' ∈ renames)
    (hsource : r.source ∉ renames.map (·.source))
    (h : ∀ r' ∈ renames, r.target = r'.source → d.get? r.source = none) :
    (d.renamed r).get? r'.source = d.get? r'.source := by
  have hne : r'.source ≠ r.source := fun heq => hsource (heq ▸ List.mem_map_of_mem hr')
  rw [get?_renamed, if_neg hne]
  split_ifs with htarget
  · rw [h r' hr' htarget.symm, Option.none_or]
  · rfl

/-- Every value ends at the target of its rename exactly if none is moved onto a later source. -/
theorem get?_foldl_renamed_target_iff (hsources : (renames.map (·.source)).Nodup)
    (htargets : (renames.map (·.target)).Nodup) (hfree : Frees renames d) :
    (∀ r ∈ renames, (renames.foldl renamed d).get? r.target = d.get? r.source) ↔
      renames.Pairwise fun r r' => r.target = r'.source → d.get? r.source = none := by
  induction renames generalizing d with
  | nil => exact iff_of_true nofun .nil
  | cons r renames ih =>
    rw [List.map_cons, List.nodup_cons] at hsources htargets
    have hih := ih hsources.2 htargets.2 (hfree.renamed htargets.1)
    rw [List.foldl_cons, List.forall_mem_cons, List.pairwise_cons]
    -- what the first rename puts onto a later source is moved on, and nothing comes after it
    have hlater : ∀ r' ∈ renames, r.target = r'.source →
        (renames.foldl renamed (d.renamed r)).get? r.target = none := fun r' hr' heq =>
      get?_foldl_renamed_source (heq ▸ List.mem_map_of_mem hr') htargets.1
    have hrest (h : ∀ r' ∈ renames, r.target = r'.source → d.get? r.source = none) :
        ((∀ r' ∈ renames, (renames.foldl renamed (d.renamed r)).get? r'.target = d.get? r'.source) ↔
          renames.Pairwise fun r r' => r.target = r'.source → d.get? r.source = none) := by
      have hsame {r' : ColumnRename} (hr' : r' ∈ renames) := get?_renamed_of_later hr' hsources.1 h
      refine Iff.trans (forall₂_congr fun r' hr' => ?_) (hih.trans (List.Pairwise.iff_of_mem ?_))
      · rw [hsame hr']
      · intro r' r'' hr' _
        rw [hsame hr']
    constructor
    · rintro ⟨hfirst, hothers⟩
      have h : ∀ r' ∈ renames, r.target = r'.source → d.get? r.source = none := fun r' hr' heq =>
        hfirst.symm.trans (hlater r' hr' heq)
      exact ⟨h, (hrest h).mp hothers⟩
    · rintro ⟨h, hpairwise⟩
      refine ⟨?_, (hrest h).mpr hpairwise⟩
      by_cases hmem : r.target ∈ renames.map (·.source)
      · obtain ⟨r', hr', heq⟩ := List.mem_map.mp hmem
        rw [hlater r' hr' heq.symm, h r' hr' heq.symm]
      · rw [get?_foldl_renamed hmem htargets.1, get?_renamed, if_pos rfl]
        by_cases hself : r.target = r.source
        · rw [hself, Option.or_self]
        · have hnone : d.get? r.target = none :=
            hfree r List.mem_cons_self (by
              rw [List.map_cons, List.mem_cons, not_or]
              exact ⟨hself, hmem⟩)
          rw [hnone, Option.or_none]

end Document

/-! ### Every document of a collection -/

theorem Response.check_eq_ok {verb : String} {response : Document}
    (h : check verb response = .ok ()) : succeeded? (response.get? "ok") = some true ∧
      ∀ first more, response.get? "writeErrors" ≠ some (.array (.document first :: more)) := by
  rw [check] at h
  split at h
  · cases h
  · cases h
  · next hok =>
    refine ⟨hok, fun first more herrors => ?_⟩
    rw [herrors] at h
    cases h

/-- The change that carries out renames. -/
def renameChange (renames : List ColumnRename) : Document :=
  [("$rename", .document (Fields.ofList (renames.map fun r => (r.source, .string r.target))))]

variable {renames : List ColumnRename}

theorem Update.foldlM_rename (hplain : ∀ r ∈ renames, Plain r.source ∧ Plain r.target)
    (d : Document) :
    (renames.map fun r => (r.source, Value.string r.target)).foldlM
      (fun d e => applyField "$rename" d e.1 e.2) d = .ok (renames.foldl Document.renamed d) := by
  induction renames generalizing d with
  | nil => rfl
  | cons r renames ih =>
    obtain ⟨⟨hsource, htarget⟩, hplain⟩ := List.forall_mem_cons.mp hplain
    rw [List.map_cons, List.foldlM_cons, applyField_rename hsource htarget]
    exact ih hplain _

theorem Update.apply_renameChange (hsources : (renames.map (·.source)).Nodup)
    (hplain : ∀ r ∈ renames, Plain r.source ∧ Plain r.target) (d : Document) :
    ∃ modified, apply d (renameChange renames) = .ok (renames.foldl Document.renamed d, modified) := by
  have hfields : Fields.ofList (renames.map fun r => (r.source, Value.string r.target)) =
      renames.map fun r => (r.source, Value.string r.target) :=
    Fields.setAll_eq_append (by rwa [Fields.keys, List.map_map]) nofun
  have hoperator : applyOperator d "$rename"
      (.document (renames.map fun r => (r.source, Value.string r.target))) =
        .ok (renames.foldl Document.renamed d) := foldlM_rename hplain d
  have hoperators : (Fields.keys (renameChange renames)).any
      (fun k => k.toList.head? == some '$') = true := by
    change ["$rename"].any (fun k => k.toList.head? == some '$') = true
    decide
  rw [apply, if_pos hoperators, renameChange, hfields, List.foldlM_cons]
  dsimp only
  rw [hoperator]
  exact ⟨_, rfl⟩

theorem Document.ChangedAt.forall₂ [Host] {change q : Document} {docs after : List Document}
    (hq : ∀ d ∈ docs, q.accepts d = true)
    (h : change.ChangedAt (docs.findIdxs q.accepts) docs after) :
    List.Forall₂ (fun d e => ∃ modified, Update.apply d change = .ok (e, modified)) docs after := by
  refine List.forall₂_iff_get.mpr ⟨h.length.symm, fun i hi hi' => ?_⟩
  have hmem : i ∈ docs.findIdxs q.accepts :=
    (List.mem_findIdxs_iff_pos_getElem hi).mpr (hq _ (List.getElem_mem hi))
  obtain ⟨d, next, modified, hd, hnext, hafter⟩ := h.changed i hmem
  rw [List.getElem?_eq_getElem hi] at hd
  rw [List.getElem?_eq_getElem hi'] at hafter
  cases hd
  cases hafter
  exact ⟨modified, hnext⟩

/-! ### Statements -/

namespace Plan

/-- The command that renames columns, between those that move their indexes. -/
theorem exists_update_ofAlter [Host] (collection : String) (renames : List ColumnRename) :
    ∃ plan before after, ofAlter collection [.renameColumns renames] = .ok plan ∧
      plan.commands =
        before ++ Command.updateMany collection [] (renameChange renames) :: after ∧
      ∀ c ∈ before ++ after, c.verb ≠ .update := by
  have hdrop (columns : List String) : ∀ c ∈ dropIndexes collection columns, c.verb ≠ .update := by
    intro c hc
    rw [dropIndexes] at hc
    split at hc
    · cases hc
    · rw [List.mem_singleton.mp hc]
      exact (by decide : Verb.dropIndexes ≠ Verb.update)
  have hcreate (columns : List String) :
      ∀ c ∈ createIndexes collection columns, c.verb ≠ .update := by
    intro c hc
    rw [createIndexes] at hc
    split at hc
    · cases hc
    · rw [List.mem_singleton.mp hc]
      exact (by decide : Verb.createIndexes ≠ Verb.update)
  exact ⟨_, _, _, rfl, List.append_nil _,
    List.forall_mem_append.mpr ⟨hdrop _, hcreate _⟩⟩

end Plan

namespace MemoryStore

/-- A renaming that succeeds leaves the fields that are neither sources nor targets, and nothing at
a source that is no target. In a document without values at targets that are no sources, every value
ends at the target of its rename exactly if none is moved onto the source of a later rename. -/
theorem run_renameColumns [Host] {renames : List ColumnRename} (hsources : (renames.map (·.source)).Nodup)
    (htargets : (renames.map (·.target)).Nodup)
    (hplain : ∀ r ∈ renames, Update.Plain r.source ∧ Update.Plain r.target) (collection : String) :
    ∃ plan before command after, Plan.ofAlter collection [.renameColumns renames] = .ok plan ∧
      plan.commands = before ++ command :: after ∧ command.verb = .update ∧
      (∀ c ∈ before ++ after, c.verb ≠ .update) ∧
      ∀ (s : MemoryStore) (database : String) (answer : Document),
        (s.run database command.document).1 = .ok answer →
        Response.check Verb.update.name answer = .ok () →
        (∀ d ∈ s.databases.documents database collection, d.Frees renames) →
        List.Forall₂ (fun d e : Document =>
            (∀ key, key ∉ renames.map (·.source) → key ∉ renames.map (·.target) →
              e.get? key = d.get? key) ∧
            (∀ r ∈ renames, r.source ∉ renames.map (·.target) → e.get? r.source = none) ∧
            ((∀ r ∈ renames, e.get? r.target = d.get? r.source) ↔
              renames.Pairwise fun r r' => r.target = r'.source → d.get? r.source = none))
          (s.databases.documents database collection)
          ((s.run database command.document).2.databases.documents database collection) := by
  obtain ⟨plan, before, after, hplan, hcommands, hothers⟩ :=
    Plan.exists_update_ofAlter collection renames
  refine ⟨plan, before, _, after, hplan, hcommands, rfl, hothers, ?_⟩
  intro s database answer hanswer hcheck hfree
  have happly := Update.apply_renameChange hsources hplain
  have hchanged : List.Forall₂
      (fun d e => ∃ modified, Update.apply d (renameChange renames) = .ok (e, modified))
      (s.databases.documents database collection)
      ((s.run database (Command.updateMany collection []
        (renameChange renames)).document).2.databases.documents database collection) := by
    obtain ⟨hcases, -⟩ := run_updateMany (.inr fun d => ⟨_, happly d⟩) s database collection []
    rcases hcases with ⟨-, hchanged, -⟩ | ⟨-, k, -, -, modified, f, hclash⟩ | ⟨⟨f, hrefused⟩, -⟩ |
      ⟨⟨e, hfailed⟩, -⟩
    · exact hchanged.forall₂ fun _ _ => rfl
    · obtain rfl := Except.ok.inj (hanswer.symm.trans hclash)
      exact absurd rfl ((Response.check_eq_ok hcheck).2 _ _)
    · obtain rfl := Except.ok.inj (hanswer.symm.trans hrefused)
      have hok : Response.succeeded? (some (.ofFloat 0.0)) = some true :=
        (Response.check_eq_ok hcheck).1
      exact absurd hok (by decide)
    · rw [hanswer] at hfailed
      cases hfailed
  refine hchanged.imp_of_mem fun d hd e ⟨modified, hnext⟩ => ?_
  obtain ⟨modified', hrenamed⟩ := happly d
  obtain ⟨rfl, -⟩ := Prod.mk.inj (Except.ok.inj (hrenamed.symm.trans hnext))
  exact ⟨fun key => Document.get?_foldl_renamed, fun r hr =>
      Document.get?_foldl_renamed_source (List.mem_map_of_mem hr),
    Document.get?_foldl_renamed_target_iff hsources htargets (hfree d hd)⟩

/-- A value makes room for another one before it comes. -/
theorem run_renameColumns_moved :
    let renames : List ColumnRename := [⟨"b", "c", false⟩, ⟨"a", "b", false⟩]
    let s := holding "t" [[("_id", .int 1), ("a", .int 1), ("b", .int 2)]]
    (renames.map (·.source)).Nodup ∧ (renames.map (·.target)).Nodup ∧
      (∀ r ∈ renames, Update.Plain r.source ∧ Update.Plain r.target) ∧
      ∃ plan command answer, Plan.ofAlter "t" [.renameColumns renames] = .ok plan ∧
        plan.commands = [command] ∧ (s.run "app" command.document).1 = .ok answer ∧
        Response.check Verb.update.name answer = .ok () ∧
        (∀ d ∈ s.databases.documents "app" "t", d.Frees renames) ∧
        List.Forall₂ (fun d e : Document => ∀ r ∈ renames, e.get? r.target = d.get? r.source)
          (s.databases.documents "app" "t")
          ((s.run "app" command.document).2.databases.documents "app" "t") := by
  intro renames s
  have hplain : ∀ r ∈ renames, Update.Plain r.source ∧ Update.Plain r.target := by
    have hname (name : String) (hdotless : '.' ∉ name.toList) (hne : name ≠ "_id") :
        Update.Plain name := ⟨hdotless, hne⟩
    simp only [renames, List.forall_mem_cons]
    exact ⟨⟨hname "b" (by decide) (by decide), hname "c" (by decide) (by decide)⟩,
      ⟨hname "a" (by decide) (by decide), hname "b" (by decide) (by decide)⟩, nofun⟩
  obtain ⟨plan, before, command, after, hplan, hcommands, -, -, hrun⟩ :=
    run_renameColumns (by decide) (by decide) hplain "t"
  have hcommand : plan.commands = [.updateMany "t" [] (renameChange renames)] := by
    cases hplan
    rfl
  obtain rfl : command = .updateMany "t" [] (renameChange renames) :=
    List.mem_singleton.mp (hcommand ▸ hcommands ▸ List.mem_append_right _ List.mem_cons_self)
  obtain ⟨answer, hanswer, hcheck⟩ : ∃ answer,
      (s.run "app" (Command.updateMany "t" [] (renameChange renames)).document).1 = .ok answer ∧
        Response.check Verb.update.name answer = .ok () := by
    dsimp only [renames, s]
    exact ⟨_, rfl, rfl⟩
  have hfree : ∀ d ∈ s.databases.documents "app" "t", d.Frees renames := by
    rw [show s.databases.documents "app" "t" =
      [[("_id", .int 1), ("a", .int 1), ("b", .int 2)]] from rfl]
    exact List.forall_mem_singleton.mpr
      (List.forall_mem_cons.mpr ⟨fun _ => rfl, List.forall_mem_singleton.mpr
        fun hsource => absurd List.mem_cons_self hsource⟩)
  refine ⟨by decide, by decide, hplain, plan, _, answer, hplan, hcommand, hanswer, hcheck, hfree, ?_⟩
  refine (hrun s "app" answer hanswer hcheck hfree).imp fun d e h => h.2.2.mpr ?_
  simp [renames]

/-- Two columns that change places: only one of the values is left. -/
theorem run_renameColumns_swapped :
    let renames : List ColumnRename := [⟨"a", "b", false⟩, ⟨"b", "a", false⟩]
    let s := holding "t" [[("_id", .int 1), ("a", .int 1), ("b", .int 2)]]
    (renames.map (·.source)).Nodup ∧ (renames.map (·.target)).Nodup ∧
      ∃ plan command answer, Plan.ofAlter "t" [.renameColumns renames] = .ok plan ∧
        plan.commands = [command] ∧ (s.run "app" command.document).1 = .ok answer ∧
        Response.check Verb.update.name answer = .ok () ∧
        (s.run "app" command.document).2.databases.documents "app" "t" =
          [[("_id", .int 1), ("a", .int 1)]] :=
  ⟨by decide, by decide, _, _, _, rfl, rfl, rfl, rfl, rfl⟩

end MemoryStore

end SqlGateway
