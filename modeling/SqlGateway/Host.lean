/-! What the program is given by the host that it runs on: its time zone, and
how libraries explain what they refuse to read. -/

namespace SqlGateway

/-! ### Time zones

The clocks of a zone are ahead of universal time by a number of seconds that may change: where it
grows the clocks skip wall-clock readings, where it shrinks they repeat some. -/

/-- How often the clocks of a zone show a reading, and how far ahead they are when they do. -/
inductive Showing where
  | once (offset : Int)
  | twice (earlier later : Int)
  | skipped
  deriving DecidableEq

/-- By how many seconds clocks that show a reading may be ahead. -/
def Showing.offsets : Showing → List Int
  | .once offset => [offset]
  | .twice earlier later => [earlier, later]
  | .skipped => []

/-- The clocks of a zone. Instants and readings are counted in seconds from the start of 1970, on
universal clocks and on those of the zone. -/
structure Zone where
  /-- By how many seconds the clocks are ahead at an instant. -/
  offset : Int → Int
  /-- How often the clocks show a reading. -/
  showing : Int → Showing
  offset_eq_iff : ∀ reading ahead,
    offset (reading - ahead) = ahead ↔ ahead ∈ (showing reading).offsets
  /-- Of two instants with one reading, the earlier is the one at which clocks are further ahead. -/
  earlier_lt : ∀ reading earlier later, showing reading = .twice earlier later → later < earlier

namespace Zone

/-- Clocks that are always ahead by the same number of seconds. -/
def fixed (ahead : Int) : Zone where
  offset _ := ahead
  showing _ := .once ahead
  offset_eq_iff reading other := by rw [Showing.offsets, List.mem_singleton, eq_comm]
  earlier_lt reading earlier later h := by cases h

/-- Clocks that are an hour ahead between two instants, and universal ones otherwise. -/
def summer (first last : Int) (h : first + 3600 ≤ last) : Zone where
  offset instant := if first ≤ instant ∧ instant < last then 3600 else 0
  showing reading :=
    if reading < first then .once 0
    else if reading < first + 3600 then .skipped
    else if reading < last then .once 3600
    else if reading < last + 3600 then .twice 3600 0
    else .once 0
  offset_eq_iff reading ahead := by
    dsimp only [Showing.offsets]
    grind
  earlier_lt reading earlier later h := by grind

end Zone

/-! ### Hosts -/

/-- The clocks of a host, and how the libraries on it explain what they refuse to read. -/
class Host where
  /-- The zone of the local clocks. -/
  zone : Zone
  /-- Why a pattern cannot be read under options. -/
  patternFault : (pattern options : String) → String
  /-- Why a line is not a request. -/
  requestFault : (line : String) → String
  /-- Why a text is not a configuration. -/
  configFault : (text : String) → String

namespace Host

/-- A host in a zone, which gives no explanations. -/
@[reducible]
def silent (zone : Zone) : Host where
  zone := zone
  patternFault _ _ := ""
  requestFault _ := ""
  configFault _ := ""

/-- A host on universal time. -/
@[reducible]
def universal : Host := silent (.fixed 0)

end Host

end SqlGateway
