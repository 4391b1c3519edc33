/-! The phases of running a statement, and which may follow which. -/

namespace SqlGateway

/-- A phase of running a statement. -/
inductive Phase where
  | idle | planning | autoIncrementProbe | transactionStart | executing | typeInference | rowDecode
  | commit | rollback
  deriving DecidableEq, Repr

namespace Phase

/-- Every phase. -/
def all : List Phase :=
  [.idle, .planning, .autoIncrementProbe, .transactionStart, .executing, .typeInference,
    .rowDecode, .commit, .rollback]

/-- The written name. -/
def name : Phase → String
  | .idle => "idle"
  | .planning => "planning"
  | .autoIncrementProbe => "auto_increment_probe"
  | .transactionStart => "transaction_start"
  | .executing => "executing"
  | .typeInference => "type_inference"
  | .rowDecode => "row_decode"
  | .commit => "commit"
  | .rollback => "rollback"

/-- The phase with a written name. -/
def ofName? (s : String) : Option Phase := all.find? (·.name == s)

/-- Whether one phase may follow another. -/
def canAdvanceTo : Phase → Phase → Bool
  | _, .rollback | _, .idle => true
  | .idle, .planning => true
  | .planning, .autoIncrementProbe => true
  | .planning, .transactionStart | .autoIncrementProbe, .transactionStart => true
  | .planning, .executing | .autoIncrementProbe, .executing | .transactionStart, .executing => true
  | .executing, .typeInference => true
  | .executing, .rowDecode | .typeInference, .rowDecode => true
  | .executing, .commit | .typeInference, .commit | .rowDecode, .commit => true
  | _, _ => false

end Phase

/-- The phase of a run and those before it. -/
structure Progress where
  past : List Phase
  phase : Phase

namespace Progress

/-- The progress of a run that has not begun. -/
def start : Progress := ⟨[], .idle⟩

/-- Goes on to a phase. -/
def enter (p : Progress) (next : Phase) : Progress := ⟨p.past ++ [p.phase], next⟩

/-- Goes on to a phase if it may follow. -/
def enterIfLegal (p : Progress) (next : Phase) : Progress :=
  if p.phase.canAdvanceTo next then p.enter next else p

/-- Every phase entered, the present one last. -/
def history (p : Progress) : List Phase := p.past ++ [p.phase]

end Progress

end SqlGateway
