/-! Texts as search patterns that match themselves only. -/

namespace SqlGateway.Pattern

/-- The characters with a meaning of their own in a pattern. -/
def specialChars : List Char :=
  ['\\', '.', '+', '*', '?', '(', ')', '|', '[', ']', '{', '}', '^', '$', '#', '&', '-', '~']

/-- A text with a backslash before every special character. -/
def escapeChars (cs : List Char) : List Char :=
  cs.flatMap fun c => if specialChars.contains c then ['\\', c] else [c]

/-- The pattern that matches a text. -/
def escape (s : String) : String := String.ofList (escapeChars s.toList)

end SqlGateway.Pattern
