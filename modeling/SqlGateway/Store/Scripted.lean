import SqlGateway.Store.DocumentStore

/-! A store that gives prepared answers: commands are answered one after
another from a list, and chosen transaction calls are refused. -/

namespace SqlGateway

/-- The state of a store with prepared answers. -/
structure ScriptedStore where
  /-- The answers that are left: responses, or the reasons of calls without one. -/
  replies : List (Except String Document)
  /-- The names of the calls that are refused. -/
  refused : List String := []
  inTransaction : Bool := false

namespace ScriptedStore

/-- Answers a command; when no answer is left the response is empty. -/
def run (s : ScriptedStore) : Except StoreError Document × ScriptedStore :=
  match s.replies with
  | [] => (.ok [], s)
  | reply :: rest => (reply.mapError .unreachable, { s with replies := rest })

/-- Opens or closes the transaction, unless the call is refused. -/
def switch (name : String) (isOpen : Bool) (s : ScriptedStore) :
    Except StoreError Unit × ScriptedStore :=
  if s.refused.contains name then (.error (.unreachable (name ++ " refused")), s)
  else (.ok (), { s with inTransaction := isOpen })

/-- Answers a ping, unless it is refused. -/
def ping (s : ScriptedStore) (timeout : Nat) : Except StoreError Unit × ScriptedStore :=
  let name := "ping " ++ String.ofList (digitsOf timeout)
  if s.refused.contains name then (.error (.unreachable (name ++ " refused")), s) else (.ok (), s)

/-- The store with prepared answers. An empty response ends every cursor. -/
def store : DocumentStore ScriptedStore where
  run s _ _ := s.run
  startTransaction := switch "begin" true
  commitTransaction := switch "commit" false
  abortTransaction := switch "abort" false
  inTransaction s := s.inTransaction
  ping := ping
  patience s := s.replies.length + 1

end ScriptedStore

end SqlGateway
