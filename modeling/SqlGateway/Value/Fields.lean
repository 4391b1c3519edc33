/-! Named fields in order. Writing a field that exists keeps its place. -/

namespace SqlGateway

/-- Fields in order. -/
abbrev Fields (α : Type) := List (String × α)

namespace Fields

variable {α : Type}

/-- The value of a field. -/
def get? (fs : Fields α) (key : String) : Option α := fs.lookup key

/-- Whether a field exists. -/
def has (fs : Fields α) (key : String) : Bool := fs.any (·.1 == key)

/-- Writes a field: in its place if it exists and at the end otherwise. -/
def set (key : String) (v : α) : Fields α → Fields α
  | [] => [(key, v)]
  | (k, w) :: fs => if k = key then (k, v) :: fs else (k, w) :: set key v fs

/-- Removes a field. -/
def erase (fs : Fields α) (key : String) : Fields α := fs.filter (·.1 != key)

/-- Writes fields one after another. -/
def setAll (fs : Fields α) (more : List (String × α)) : Fields α :=
  more.foldl (fun fs (k, v) => fs.set k v) fs

/-- Fields written one after another; a repeated key keeps its first place and its last value. -/
def ofList (fields : List (String × α)) : Fields α := setAll [] fields

/-- The names of the fields. -/
def keys (fs : Fields α) : List String := fs.map (·.1)

theorem get?_set (fs : Fields α) (key k : String) (v : α) :
    (fs.set key v).get? k = if k = key then some v else fs.get? k := by
  induction fs with
  | nil =>
    by_cases h : k = key
    · simp [set, get?, h]
    · have hb : (k == key) = false := by simpa using h
      simp [set, get?, List.lookup_cons, h, hb]
  | cons f fs ih =>
    obtain ⟨l, w⟩ := f
    simp only [get?] at ih ⊢
    by_cases hl : l = key
    · subst hl
      by_cases h : k = l
      · simp [set, h]
      · have hb : (k == l) = false := by simpa using h
        simp [set, List.lookup_cons, h, hb]
    · simp only [set, if_neg hl, List.lookup_cons]
      by_cases h : k = l
      · subst h; simp [hl]
      · have hb : (k == l) = false := by simpa using h
        simp [hb, ih]

end Fields

end SqlGateway
