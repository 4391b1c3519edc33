import SqlGateway.Error.Store

/-! What the gateway asks of a document store. A call gives an answer and the
state that follows; a call that brings no answer fails. -/

namespace SqlGateway

/-- A store whose states are of type `σ`. -/
structure DocumentStore (σ : Type) where
  /-- Runs a command on a database. -/
  run : σ → (database : String) → Document → Except StoreError Document × σ
  startTransaction : σ → Except StoreError Unit × σ
  commitTransaction : σ → Except StoreError Unit × σ
  abortTransaction : σ → Except StoreError Unit × σ
  inTransaction : σ → Bool
  /-- Asks for a sign of life within some milliseconds. -/
  ping : σ → (timeout : Nat) → Except StoreError Unit × σ
  /-- Whether a command comes back. One that does not neither answers nor fails. -/
  comesBack : σ → (database : String) → Document → Bool := fun _ _ _ => true
  /-- How many further batches of a cursor are fetched at most. -/
  patience : σ → Nat

end SqlGateway
