import SqlGateway.Text.Parts
import SqlGateway.Value.Basic

/-! Dotted paths. A path names a field of a document, of the document in that
field, and so on; arrays and scalars have no fields. -/

namespace SqlGateway

/-- The segments of a dotted path. -/
def pathSegments (path : String) : List String := (partsAt '.' path.toList).map String.ofList

theorem pathSegments_ne_nil (path : String) : pathSegments path ≠ [] := by
  simp [pathSegments, partsAt_ne_nil]

namespace Document

/-- The value at the end of a path of segments. -/
def getSegments? : List String → Document → Option Value
  | [], _ => none
  | [s], d => d.get? s
  | s :: ss, d => match d.get? s with
    | some (.document inner) => getSegments? ss inner
    | _ => none

/-- Writes a value behind what has been read of a path since its last dot, the last character
first. Whatever is in the way and not a document is replaced by one. -/
def setBehind (v : Value) (read : List Char) : List Char → Document → Document
  | [], d => d.set (String.ofList read.reverse) v
  | c :: cs, d =>
    if c = '.' then
      let key := String.ofList read.reverse
      match d.get? key with
      | some (.document inner) => d.set key (.document (setBehind v [] cs inner))
      | _ => d.set key (.document (setBehind v [] cs []))
    else setBehind v (c :: read) cs d

/-- Removes the value behind what has been read of a path since its last dot, the last character
first, and gives it back. -/
def removeBehind (read : List Char) : List Char → Document → Document × Option Value
  | [], d =>
    let key := String.ofList read.reverse
    (d.erase key, d.get? key)
  | c :: cs, d =>
    if c = '.' then
      let key := String.ofList read.reverse
      match d.get? key with
      | some (.document inner) =>
        let (rest, removed) := removeBehind [] cs inner
        (d.set key (.document rest), removed)
      | _ => (d, none)
    else removeBehind (c :: read) cs d

/-- The value at a dotted path. -/
def getPath? (d : Document) (path : String) : Option Value := d.getSegments? (pathSegments path)

/-- Writes the value at a dotted path. -/
def setPath (d : Document) (path : String) (v : Value) : Document := d.setBehind v [] path.toList

/-- Removes the value at a dotted path and gives it back. -/
def removePath (d : Document) (path : String) : Document × Option Value :=
  d.removeBehind [] path.toList

end Document

end SqlGateway
