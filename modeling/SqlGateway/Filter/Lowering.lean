import SqlGateway.Filter.Terms
import SqlGateway.Value.Basic

/-! The filter document of a predicate list. The items are folded from the
right: what follows an item is merged into its document as long as the
connective stays the same and is nested under the new connective when it
changes. Merging filter documents keeps the effect of each: operators on one
field are put together when they do not collide, and all else that collides is
moved into the list under `$and`. -/

namespace SqlGateway.Filter

/-! ### Merging -/

/-- Whether every key of a nonempty document is an operator. -/
def isOperatorDocument (d : Document) : Bool :=
  !d.isEmpty && d.keys.all fun k => k.toList.head? == some '$'

/-- Whether two operator documents have no operator in common. -/
def canMergeOperators (current extra : Document) : Bool :=
  isOperatorDocument current && isOperatorDocument extra && extra.keys.all (!current.has ·)

/-- Adds documents to the list under `$and`. A condition on a field of that name is kept as a
document of the list; a merge that comes to this does not come back, as `mergeField?` has it. -/
def addConjuncts (target : Document) (vs : List Value) : Document :=
  match target.get? "$and" with
  | none => target.set "$and" (.array vs)
  | some (.array current) => target.set "$and" (.array (current ++ vs))
  | some v => target.set "$and" (.array (.document [("$and", v)] :: vs))

/-- Adds an entry to a filter document. -/
def mergeField (target : Document) (key : String) (v : Value) : Document :=
  let moved := addConjuncts target [.document [(key, v)]]
  match target.get? key with
  | none => target.set key v
  | some (.array _) =>
    match v with
    | .array extra => if key = "$and" then addConjuncts target extra else moved
    | _ => moved
  | some (.document current) =>
    match v with
    | .document extra =>
      if canMergeOperators current extra then
        target.set key (.document (Fields.setAll current extra))
      else moved
    | _ => moved
  | some _ => moved

/-- Adds every entry of a document to a filter document. -/
def mergeDocument (target other : Document) : Document :=
  other.foldl (fun d (k, v) => mergeField d k v) target

/-! ### Lowering -/

/-- The filter document of one term. -/
def ofTerm : FilterTerm → Document
  | .single c => c.toDocument
  | .group .or cs => [("$or", .array (cs.map fun c => .document c.toDocument))]
  | .group _ cs => cs.foldl (fun d c => mergeField d c.field (.document c.operator)) []

/-- The key under which a connective nests. -/
def connectiveKey : Connective → String
  | .or => "$or"
  | .and | .xor => "$and"

/-- The filter document of items. -/
def ofItems : List FilterItem → Document
  | [] => []
  | [i] => ofTerm i.term
  | i :: next :: rest =>
    let tail := ofItems (next :: rest)
    if next.connective = i.connective then mergeDocument (ofTerm i.term) tail
    else mergeField (ofTerm i.term) (connectiveKey next.connective) (.array [.document tail])

/-- The filter document of a predicate list; an empty list has none. -/
def ofPredicates? [Host] (names : Naming) (ps : List Predicate) : Except GatewayError (Option Document) :=
  if ps.isEmpty then .ok none
  else return some (ofItems (← FilterItem.ofPredicates names ps))

/-! ### Whether lowering comes back

An entry that collides with another one is moved under `$and`. Where a condition on a field of that
name stands there instead of a list, it collides again and is moved again, without end: then there
is no filter. -/

/-- Adds an entry to a filter document, unless it collides with another one. -/
def place? (target : Document) (key : String) (v : Value) : Option Document :=
  match target.get? key, v with
  | none, _ => some (target.set key v)
  | some (.array current), .array extra =>
    if key = "$and" then some (target.set key (.array (current ++ extra))) else none
  | some (.document current), .document extra =>
    if canMergeOperators current extra then
      some (target.set key (.document (Fields.setAll current extra)))
    else none
  | some _, _ => none

/-- Adds an entry to a filter document. If it collides it is moved under `$and`, and if it collides
there too, nothing comes of moving it again. -/
def mergeField? (target : Document) (key : String) (v : Value) : Option Document :=
  place? target key v <|> place? target "$and" (.array [.document [(key, v)]])

/-- Adds every entry of a document to a filter document. -/
def mergeDocument? (target other : Document) : Option Document :=
  other.foldlM (fun d (k, v) => mergeField? d k v) target

/-- The filter document of one term. -/
def ofTerm? : FilterTerm → Option Document
  | .group .or cs => some (ofTerm (.group .or cs))
  | .group _ cs => cs.foldlM (fun d c => mergeField? d c.field (.document c.operator)) []
  | .single c => some c.toDocument

/-- The filter document of items. -/
def ofItems? : List FilterItem → Option Document
  | [] => some []
  | [i] => ofTerm? i.term
  | i :: next :: rest => do
    let tail ← ofItems? (next :: rest)
    let head ← ofTerm? i.term
    if next.connective = i.connective then mergeDocument? head tail
    else mergeField? head (connectiveKey next.connective) (.array [.document tail])

/-- Whether the filter of a predicate list, if it has one, is found in finitely many steps. -/
def comesBack [Host] (names : Naming) (ps : List Predicate) : Bool :=
  match FilterItem.ofPredicates names ps with
  | .ok items => (ofItems? items).isSome
  | .error _ => true

end SqlGateway.Filter
