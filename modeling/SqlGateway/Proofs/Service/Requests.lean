import SqlGateway.Proofs.Execution.Atomicity
import SqlGateway.Proofs.Identifiers.Runs
import SqlGateway.Proofs.Json.Text
import SqlGateway.Service.Serving

/-! One request of a session. If it comes back it is answered, the same over stores that hold the
same; if it fails it leaves the store as it was, but for what the store keeps for itself. Under
another identifier it is answered alike, as long as it orders no identifiers. -/

namespace SqlGateway

/-! ### Failures -/

namespace Service

/-- Whether an answer reports a failure. -/
def isFailure (answer : String) : Bool := "\x7b\"status\":\"error\"".toList.isPrefixOf answer.toList

/-- An answer reports a failure if its status does. -/
theorem isFailure_status (status key : String) (v : Json) (members : List (String × Json)) :
    isFailure (Json.object (("status", .string status) :: (key, v) :: members)).text =
      ['"', 'e', 'r', 'r', 'o', 'r', '"'].isPrefixOf
        ((Json.quote status).toList ++ (",".toList ++
          (Json.membersText ((key, v) :: members)).toList ++ ['\x7d'])) := by
  have hprefix : "\x7b\"status\":\"error\"".toList =
      "\x7b\"status\":".toList ++ ['"', 'e', 'r', 'r', 'o', 'r', '"'] := by decide
  have htext : (Json.object (("status", .string status) :: (key, v) :: members)).text.toList =
      "\x7b\"status\":".toList ++ ((Json.quote status).toList ++ (",".toList ++
        (Json.membersText ((key, v) :: members)).toList ++ ['\x7d'])) := by
    have hkey : (Json.quote "status").toList = "\"status\"".toList := by decide
    simp only [Json.text, Json.membersText, String.toList_append, hkey]
    simp
  rw [isFailure, Bool.eq_iff_iff, List.isPrefixOf_iff_prefix, List.isPrefixOf_iff_prefix, hprefix,
    htext, List.prefix_append_right_inj]

theorem isFailure_failure (code message : String) : isFailure (failure code message) = true := by
  have hquote : (Json.quote "error").toList = ['"', 'e', 'r', 'r', 'o', 'r', '"'] := by decide
  rw [failure, isFailure_status, hquote, List.isPrefixOf_iff_prefix]
  exact List.prefix_append _ _

theorem isFailure_success (data : Json) : isFailure (success data) = false := by
  have hquote : (Json.quote "ok").toList = ['"', 'o', 'k', '"'] := by decide
  rw [success, isFailure_status, hquote]
  rfl

theorem printable_outcome (result : Except GatewayError Json) :
    Printable (outcome result).toList := by
  cases result <;> exact Json.printable_text _

end Service

variable [Host]

/-! ### Between two requests -/

namespace Gateway

open Execution MemoryStore

variable {database : String}

/-- What no step of a run changes: what kind of store it is, and whether it is switched on. -/
theorem spansRuns_switches : SpansRuns store database fun r r' =>
    r'.store.standalone = r.store.standalone ∧ r'.store.online = r.store.online where
  refl _ := ⟨rfl, rfl⟩
  trans h h' := ⟨h'.1.trans h.1, h'.2.trans h.2⟩
  enter _ _ := ⟨rfl, rfl⟩
  key _ _ := ⟨rfl, rfl⟩
  send r command :=
    have hsame := r.store.sameSession_run database command
    ⟨hsame.standalone, hsame.online⟩
  start r :=
    have hsame := r.store.sameServer_startTransaction
    ⟨hsame.standalone, hsame.online⟩
  commit r :=
    have hsame := r.store.sameServer_commitTransaction
    ⟨hsame.standalone, hsame.online⟩
  own _ _ := ⟨rfl, rfl⟩

theorem switches_execute {id : ObjectId} {t : QueryTree} {autoCommit : Bool} {s : MemoryStore}
    {result : Except GatewayError (List Row)} {r : Run MemoryStore}
    (h : execute store database id t autoCommit s = some (result, r)) :
    r.store.standalone = s.standalone ∧ r.store.online = s.online := by
  obtain ⟨r', hend, rfl⟩ := ends_of_execute h
  have hrun := spansRuns_switches.runTree id t autoCommit _ _ _ hend
  unfold settle
  dsimp only
  split
  · have habort := r'.store.sameServer_abortTransaction
    exact ⟨habort.standalone.trans hrun.1, habort.online.trans hrun.2⟩
  · exact hrun

/-- What a statement that commits by itself leaves: no transaction, and after a failure the
databases that it found. -/
theorem rest_execute {dbs : Databases} {s : MemoryStore} (hs : Idle dbs s) {id : ObjectId}
    {t : QueryTree} {result : Except GatewayError (List Row)} {r : Run MemoryStore}
    (h : execute store database id t true s = some (result, r)) :
    r.store.inTransaction = false ∧ ∀ e, result = .error e → r.store.databases = dbs := by
  obtain ⟨r', hend, rfl⟩ := ends_of_execute h
  obtain ⟨outcome, r₁, hrun, houtcome⟩ :=
    leads_runTree id t { store := s } ⟨hs, rfl⟩
  cases Option.some.inj (hend.symm.trans hrun)
  cases result with
  | ok rows => exact ⟨houtcome, nofun⟩
  | error e =>
    obtain ⟨hclosed, hrestored⟩ := settle_restores houtcome
    exact ⟨hclosed, fun _ _ => hrestored⟩

end Gateway

namespace Service

/-! ### Requests -/

variable {config : Config} {room : Nat} {s t : MemoryStore} {line : String}

/-- The answer with rows or an error. -/
def answerOf (result : Except GatewayError (List Row)) : String :=
  outcome (result.map fun rows => .array (rows.map Row.toJson))

/-- The answer to a request, and the store that it leaves. -/
def answered (config : Config) (id : ObjectId) (request : Request) (s : MemoryStore) :
    Option (String × MemoryStore) :=
  (Gateway.execute MemoryStore.store config.database id request.tree
    (request.autoCommit.getD config.autoCommit) s).map fun e => (answerOf e.1, e.2.store)

theorem answered_of_execute {id : ObjectId} {request : Request}
    {result : Except GatewayError (List Row)} {r : Run MemoryStore}
    (h : Gateway.execute MemoryStore.store config.database id request.tree
      (request.autoCommit.getD config.autoCommit) s = some (result, r)) :
    answered config id request s = some (answerOf result, r.store) := by
  rw [answered, h]
  rfl

/-- The request on a line, with the identifier that it is given and the store that it finds. -/
def metOn (config : Config) (id : ObjectId) (request : Request) (s : MemoryStore) :
    MetRequest MemoryStore :=
  ⟨id, request.tree, request.autoCommit.getD config.autoCommit, s⟩

theorem answerQuery_of_request {request : Request} (h : Request.ofText line = .ok request)
    (id : ObjectId) (s : MemoryStore) :
    answerQuery MemoryStore.store config id line s =
      if (metOn config id request s).comesBack MemoryStore.store config then
        answered config id request s
      else none := by
  rw [answerQuery, h, answered, MetRequest.comesBack, metOn]
  dsimp only
  split
  · next hback =>
    rw [guard, if_pos hback]
    cases Gateway.execute MemoryStore.store config.database id request.tree
      (request.autoCommit.getD config.autoCommit) s <;> rfl
  · next hback =>
    rw [guard, if_neg hback]
    rfl

theorem printable_answerQuery {id : ObjectId} {answer : String} {s' : MemoryStore}
    (h : answerQuery MemoryStore.store config id line s = some (answer, s')) :
    Printable answer.toList := by
  cases hrequest : Request.ofText line with
  | error e =>
    rw [answerQuery, hrequest] at h
    cases h
    exact Json.printable_text _
  | ok request =>
    rw [answerQuery_of_request hrequest] at h
    split at h
    · obtain ⟨_, -, h⟩ := Option.map_eq_some_iff.mp h
      cases h
      exact printable_outcome _
    · cases h

/-! ### Stores that hold the same -/

/-- Whether two stores hold the same between two requests. -/
structure Rested (room : Nat) (s t : MemoryStore) : Prop extends MemoryStore.Alike room s t where
  idle : s.inTransaction = false
  serves : s.online = true

/-- Whether the request on a line, if it has one, commits by itself. -/
def CommitsItself (config : Config) (line : String) : Prop :=
  ∀ request, Request.ofText line = .ok request →
    request.autoCommit.getD config.autoCommit = true

instance (config : Config) (line : String) : Decidable (CommitsItself config line) :=
  match h : Request.ofText line with
  | .error _ => .isTrue fun _ hrequest => nomatch h.symm.trans hrequest
  | .ok request =>
    if hauto : request.autoCommit.getD config.autoCommit = true then
      .isTrue fun _ hrequest => Except.ok.inj (h.symm.trans hrequest) ▸ hauto
    else .isFalse fun hcommits => hauto (hcommits request h)

/-- A request has the same answer over stores that hold the same, and one that fails leaves a store
that holds the same as before. -/
theorem answered_rested (h : Rested (room + 4) s t) {request : Request}
    (hauto : request.autoCommit.getD config.autoCommit = true) (id : ObjectId) :
    ∃ answer s' t', answered config id request s = some (answer, s') ∧
      answered config id request t = some (answer, t') ∧
        Rested room s' t' ∧ (isFailure answer = true → Rested room s' t) := by
  obtain ⟨result, r, r', hrun, hrun', halike⟩ :=
    Execution.execute_alike h.toAlike config.database id request.tree
      (request.autoCommit.getD config.autoCommit)
  refine ⟨answerOf result, r.store, r'.store, answered_of_execute hrun, answered_of_execute hrun', ?_⟩
  rw [hauto] at hrun
  have hidle : Gateway.Idle s.databases s := ⟨h.sound.1, rfl, h.idle, h.serves⟩
  obtain ⟨hclosed, hrestored⟩ := Gateway.rest_execute hidle hrun
  obtain ⟨hstandalone, honline⟩ := Gateway.switches_execute hrun
  have hserves : r.store.online = true := honline.trans h.serves
  refine ⟨⟨halike.store, hclosed, hserves⟩, fun hfailure => ?_⟩
  cases result with
  | ok rows => exact absurd hfailure (by simp [answerOf, Except.map, outcome, isFailure_success])
  | error e =>
    have hactive : t.transactionActive = r.store.transactionActive :=
      (h.transactionActive.trans h.idle).trans hclosed.symm
    have hrest : MemoryStore.Alike room r.store t :=
      { databases := h.databases.trans (hrestored e rfl).symm
        snapshot := (h.sound.2.snapshot_of_idle (hactive.trans hclosed)).trans
          (halike.store.sound.1.snapshot_of_idle hclosed).symm
        transactionActive := hactive
        standalone := h.standalone.trans hstandalone.symm
        online := h.online.trans honline.symm
        sound := ⟨halike.store.sound.1, h.sound.2⟩
        room := ⟨halike.store.room.1, (h.toAlike.mono (Nat.le_add_right room 4)).room.2⟩ }
    exact { hrest with idle := hclosed, serves := hserves }

/-- So has a line, if it has an answer. -/
theorem answerQuery_rested (h : Rested (room + 4) s t) (hauto : CommitsItself config line)
    {id : ObjectId} {answer : String} {s' : MemoryStore}
    (hanswer : answerQuery MemoryStore.store config id line s = some (answer, s')) :
    ∃ t', answerQuery MemoryStore.store config id line t = some (answer, t') ∧
      Rested room s' t' ∧ (isFailure answer = true → Rested room s' t) := by
  cases hrequest : Request.ofText line with
  | error e =>
    have hrest : Rested room s t := { h with toAlike := h.toAlike.mono (Nat.le_add_right room 4) }
    rw [answerQuery, hrequest] at hanswer ⊢
    cases hanswer
    exact ⟨t, rfl, hrest, fun _ => hrest⟩
  | ok request =>
    have hback : (metOn config id request t).comesBack MemoryStore.store config =
        (metOn config id request s).comesBack MemoryStore.store config :=
      Execution.comesBack_alike h.toAlike config.database id request.tree _
    rw [answerQuery_of_request hrequest] at hanswer ⊢
    rw [hback]
    split at hanswer
    · next hcomes =>
      rw [if_pos hcomes]
      obtain ⟨answer', s'', t', hrun, hrun', hrested, hfailed⟩ :=
        answered_rested h (hauto request hrequest) id
      cases hrun.symm.trans hanswer
      exact ⟨t', hrun', hrested, hfailed⟩
    · cases hanswer

/-- A line has an answer just if the request on it, if there is one, comes back. -/
theorem answerQuery_isSome (h : Rested (room + 4) s t) (hauto : CommitsItself config line)
    (id : ObjectId) :
    (answerQuery MemoryStore.store config id line s).isSome ↔
      ∀ request, Request.ofText line = .ok request →
        (metOn config id request s).comesBack MemoryStore.store config = true := by
  cases hrequest : Request.ofText line with
  | error e =>
    rw [answerQuery, hrequest]
    exact iff_of_true rfl fun _ hother => nomatch hother
  | ok request =>
    obtain ⟨answer, s', -, hanswered, -⟩ := answered_rested h (hauto request hrequest) id
    rw [answerQuery_of_request hrequest]
    split
    · next hcomes =>
      rw [hanswered]
      exact iff_of_true rfl fun _ hother => Except.ok.inj hother ▸ hcomes
    · next hcomes => exact iff_of_false nofun fun hall => hcomes (hall request rfl)

/-! ### Other identifiers -/

end Service

/-- Whether a request orders no identifiers, and no key that it counts on is one. -/
def MetRequest.SparesIdentifiers (config : Config) (m : MetRequest MemoryStore) : Prop :=
  Execution.SparesIdentifiers config.database m.id m.tree m.autoCommit m.store

namespace Service

variable {f : ObjectId → ObjectId} {labels : List ObjectId} {label : ObjectId}

theorem answered_rename (hf : Function.Injective f)
    (h : MemoryStore.Renames f labels (room + 4) s t) (hlabel : label ∉ labels) {request : Request}
    (hspares : (metOn config label request s).SparesIdentifiers config) :
    ∃ answer s' t', answered config label request s = some (answer, s') ∧
      answered config (f label) request t = some (answer, t') ∧
        MemoryStore.Renames f (label :: labels) room s' t' := by
  obtain ⟨result, r, r', hrun, hrun', hrenamed⟩ :=
    Execution.execute_rename hf h hlabel request.tree _ hspares
  exact ⟨answerOf result, r.store, r'.store, answered_of_execute hrun, answered_of_execute hrun',
    hrenamed.store⟩

/-- A line has the same answer under another identifier. -/
theorem answerQuery_rename (hf : Function.Injective f)
    (h : MemoryStore.Renames f labels (room + 4) s t) (hlabel : label ∉ labels)
    (hspares : ∀ request, Request.ofText line = .ok request →
      (metOn config label request s).SparesIdentifiers config)
    {answer : String} {s' : MemoryStore}
    (hanswer : answerQuery MemoryStore.store config label line s = some (answer, s')) :
    ∃ t', answerQuery MemoryStore.store config (f label) line t = some (answer, t') ∧
      MemoryStore.Renames f (label :: labels) room s' t' := by
  cases hrequest : Request.ofText line with
  | error e =>
    rw [answerQuery, hrequest] at hanswer ⊢
    cases hanswer
    exact ⟨t, rfl, h.mono (List.subset_cons_self label labels) (Nat.le_add_right room 4)⟩
  | ok request =>
    have hback : (metOn config (f label) request t).comesBack MemoryStore.store config =
        (metOn config label request s).comesBack MemoryStore.store config :=
      Execution.comesBack_rename hf h request.tree _ (hspares request hrequest)
    rw [answerQuery_of_request hrequest] at hanswer ⊢
    rw [hback]
    split at hanswer
    · next hcomes =>
      rw [if_pos hcomes]
      obtain ⟨answer', s'', t', hrun, hrun', hrenamed⟩ :=
        answered_rename hf h hlabel (hspares request hrequest)
      cases hrun.symm.trans hanswer
      exact ⟨t', hrun', hrenamed⟩
    · cases hanswer

end Service

end SqlGateway
