import SqlGateway.Store.DocumentStore

/-! A store that keeps a record of the calls made to it. Asking whether a
transaction is open leaves no entry. -/

namespace SqlGateway

/-- A call to a store. -/
inductive StoreCall where
  | run (database : String) (command : Document)
  | startTransaction
  | commitTransaction
  | abortTransaction
  | ping (timeout : Nat)

/-- A state with the calls that led to it, the first one first. -/
structure Recorded (σ : Type) where
  state : σ
  calls : List StoreCall := []

namespace Recorded

variable {σ : Type}

/-- Makes a call and records it. -/
def make {α : Type} (c : StoreCall) (f : σ → α × σ) (r : Recorded σ) : α × Recorded σ :=
  let (a, s) := f r.state
  (a, ⟨s, r.calls ++ [c]⟩)

end Recorded

/-- The store that records the calls to another one. -/
def DocumentStore.recorded {σ : Type} (store : DocumentStore σ) : DocumentStore (Recorded σ) where
  run r database command := r.make (.run database command) (store.run · database command)
  startTransaction := Recorded.make .startTransaction store.startTransaction
  commitTransaction := Recorded.make .commitTransaction store.commitTransaction
  abortTransaction := Recorded.make .abortTransaction store.abortTransaction
  inTransaction r := store.inTransaction r.state
  ping r timeout := r.make (.ping timeout) (store.ping · timeout)
  patience r := store.patience r.state

end SqlGateway
