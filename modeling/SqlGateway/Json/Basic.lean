import SqlGateway.Number.FloatText

/-! JSON values and their compact text. Members keep the order in which they
were written, and a repeated key is kept as a member of its own. -/

namespace SqlGateway

/-- A JSON value. -/
inductive Json where
  | null
  | bool (b : Bool)
  /-- A number without a fraction or exponent. -/
  | integer (n : Int)
  | double (x : Float)
  /-- A number of single width, written with its own shortest digits. -/
  | single (x : Float32)
  | string (s : String)
  | array (items : List Json)
  | object (members : List (String × Json))
  /-- A part of a text that has the form of a value but stands for none. -/
  | unreadable
  deriving Inhabited

namespace Json

/-! ### Writing -/

/-- The escape of a character inside a text: quotes, backslashes and control characters. -/
def escapeChar (c : Char) : List Char :=
  if c = '"' then ['\\', '"']
  else if c = '\\' then ['\\', '\\']
  else if c = '\x08' then ['\\', 'b']
  else if c = '\x0c' then ['\\', 'f']
  else if c = '\n' then ['\\', 'n']
  else if c = '\r' then ['\\', 'r']
  else if c = '\t' then ['\\', 't']
  else if c.toNat < 0x20 then '\\' :: 'u' :: hexDigits 4 c.toNat
  else [c]

/-- A text in quotes. -/
def quote (s : String) : String :=
  String.ofList ('"' :: s.toList.flatMap escapeChar ++ ['"'])

mutual

/-- The compact text of a value. Numbers that are not finite are written as `null`, and so is what
stands for no value. -/
def text : Json → String
  | .null => "null"
  | .bool true => "true"
  | .bool false => "false"
  | .integer n => String.ofList (signedDigits n)
  | .double x => if x.isFinite then doubleText .json x else "null"
  | .single x => if x.isFinite then singleText .jsonSingle x else "null"
  | .string s => quote s
  | .array items => "[" ++ itemsText items ++ "]"
  | .object members => "\x7b" ++ membersText members ++ "\x7d"
  | .unreadable => "null"

/-- Array items with commas between them. -/
def itemsText : List Json → String
  | [] => ""
  | [v] => v.text
  | v :: vs => v.text ++ "," ++ itemsText vs

/-- Object members with commas between them. -/
def membersText : List (String × Json) → String
  | [] => ""
  | [(k, v)] => quote k ++ ":" ++ v.text
  | (k, v) :: ms => quote k ++ ":" ++ v.text ++ "," ++ membersText ms

end

/-! ### Parts -/

/-- The first member of a key. -/
def get? (key : String) : Json → Option Json
  | .object members => members.lookup key
  | _ => none

/-- The text of a string. -/
def string? : Json → Option String
  | .string s => some s
  | _ => none

/-- The truth value of a boolean. -/
def bool? : Json → Option Bool
  | .bool b => some b
  | _ => none

/-- A whole number within bounds, both included. -/
def integer? (low high : Int) : Json → Option Int
  | .integer n => if low ≤ n && n ≤ high then some n else none
  | _ => none

/-- The items of an array. -/
def array? : Json → Option (List Json)
  | .array items => some items
  | _ => none

/-- What `read` makes of every item of an array. -/
def arrayOf? {α : Type} (read : Json → Option α) (j : Json) : Option (List α) := do
  (← j.array?).mapM read

/-- A value that may be absent or null. -/
def optional? {α : Type} (read : Json → Option α) : Option Json → Option (Option α)
  | none | some .null => some none
  | some j => (read j).map some

/-- A value that may be absent. -/
def defaulted? {α : Type} (default : α) (read : Json → Option α) : Option Json → Option α
  | none => some default
  | some j => read j

mutual

/-- Whether every part of a value stands for a value. -/
def isReadable : Json → Bool
  | .array items => areReadable items
  | .object members => membersReadable members
  | .unreadable => false
  | _ => true

/-- Whether all items are readable. -/
def areReadable : List Json → Bool
  | [] => true
  | v :: vs => v.isReadable && areReadable vs

/-- Whether the values of all members are readable. -/
def membersReadable : List (String × Json) → Bool
  | [] => true
  | (_, v) :: ms => v.isReadable && membersReadable ms

end

/-! ### Names and records -/

/-- How names are read. What is read only after a tag has been found may be written in more ways:
an empty object instead of null, and a number instead of a tag. -/
inductive Mode where
  | strict | lenient
  deriving DecidableEq, Repr

/-- Whether a value stands for nothing. -/
def isNothing (mode : Mode) : Json → Bool
  | .null => true
  | .object [] => mode = .lenient
  | _ => false

/-- The name of an enumerated value: a string, or the key of a member that holds nothing. -/
def name? (mode : Mode) : Json → Option String
  | .string s => some s
  | .object [(k, v)] => if v.isNothing mode then some k else none
  | _ => none

/-- The tag of a record among all tags: its name or its number. -/
def tag? (mode : Mode) (tags : List String) : Json → Option String
  | .string s => some s
  | .integer n => if mode = .lenient && 0 ≤ n then tags[n.toNat]? else none
  | _ => none

/-- The fields of a record by name. An object may hold other members, but none of the fields
twice; an array gives the fields in order and may end early. -/
def fields? (names : List String) : Json → Option (List (Option Json))
  | .object members =>
    if names.any fun n => 1 < (members.filter (·.1 == n)).length then none
    else some (names.map fun n => members.lookup n)
  | .array items =>
    if names.length < items.length then none
    else some (items.map some ++ List.replicate (names.length - items.length) none)
  | _ => none

/-- The tag of a tagged record and the record without it. The tag is a member of an object or the
first item of an array. -/
def tagged? (mode : Mode) (key : String) (tags : List String) : Json → Option (String × Json)
  | .object members =>
    match members.filter (·.1 == key) with
    | [(_, tag)] => (tag.tag? mode tags).map (·, .object (members.filter (·.1 != key)))
    | _ => none
  | .array (tag :: rest) => (tag.tag? mode tags).map (·, .array rest)
  | _ => none

end Json

end SqlGateway
