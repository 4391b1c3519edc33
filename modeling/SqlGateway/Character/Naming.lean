import SqlGateway.Character.Age
import SqlGateway.Character.Segment

/-! Finding sets of characters by the names of properties and of their values.
Case, blanks, hyphens and underscores in a name mean nothing, and neither does
`is` in front of it. -/

namespace SqlGateway.CharSet

/-- The ASCII characters of a name in small letters, without separators. -/
def bareName (cs : List Char) : String :=
  String.ofList <| (cs.filter fun c => c.toNat < 0x80 && c != ' ' && c != '_' && c != '-').map
    Char.toLower

/-- The name that stands for all spellings of it. A lone `c` after `is` keeps it. -/
def looseName : List Char → String
  | i :: s :: rest =>
    if i.toLower = 'i' && s.toLower = 's' then
      let name := bareName rest
      if name = "c" then "isc" else name
    else bareName (i :: s :: rest)
  | cs => bareName cs

/-- What a table has under a name. -/
def lookUp? {α : Type} (table : List (List String × α)) (name : String) : Option α :=
  (table.find? fun (names, _) => names.contains name).map (·.2)

/-- The characters of a general category or of a group of them. -/
def ofCategory? (name : String) : Option CharSet :=
  match name with
  | "any" => some all
  | "assigned" => some Category.assigned
  | "ascii" => some ascii
  | _ =>
    ((Category.all.find? fun c => c.names.contains name).map Category.set) <|>
      ((lookUp? Category.groups name).map Category.setOf)

/-- The script of a name. -/
def script? (name : String) : Option Script := Script.all.find? fun s => s.names.contains name

/-- The characters that a name stands for: a property, a general category or a script. -/
def ofName? (cs : List Char) : Option CharSet :=
  let name := looseName cs
  lookUp? properties name <|> ofCategory? name <|> (script? name).map Script.set

/-- The characters whose value of a property is the named one. -/
def ofValue? (property value : List Char) : Option CharSet :=
  let name := looseName value
  match looseName property with
  | "gc" | "generalcategory" => ofCategory? name
  | "sc" | "script" => (script? name).map Script.set
  | "scx" | "scriptextensions" => (script? name).map Script.extendedSet
  | "age" => ofAge? name
  | "gcb" | "graphemeclusterbreak" => lookUp? graphemeBreaks name
  | "wb" | "wordbreak" => lookUp? wordBreaks name
  | "sb" | "sentencebreak" => lookUp? sentenceBreaks name
  | _ => none

end SqlGateway.CharSet
