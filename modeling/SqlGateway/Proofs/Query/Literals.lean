import SqlGateway.Proofs.Calendar.Time
import SqlGateway.Proofs.Json.Reading
import SqlGateway.Proofs.Number.DecimalText
import SqlGateway.Query.Reading
import SqlGateway.Query.Writing

/-! Literals in their JSON form: what is written for a literal is read as that literal, if no float
or double is in it. -/

namespace SqlGateway

namespace Literal

open Json (Mode)

mutual

/-- Whether a literal holds neither a float nor a double. -/
def isFloatFree : Literal → Bool
  | .float _ | .double _ => false
  | .list items => areFloatFree items
  | _ => true

/-- Whether no literal holds a float or a double. -/
def areFloatFree : List Literal → Bool
  | [] => true
  | l :: ls => l.isFloatFree && areFloatFree ls

end

variable {mode : Mode}

theorem ofJson?_typed {type : String} (htype : type ≠ "list") (content : Json) :
    ofJson? mode (typed type content) = ofContent? mode type (some content) := by
  have hsingle : single? "type" [("type", .string type), ("value", content)] =
      some (some (.string type)) := rfl
  have hvalue : single? "value" [("type", .string type), ("value", content)] =
      some (some content) := rfl
  simp only [typed, ofJson?, hsingle, hvalue, Option.bind_eq_bind, Option.bind_some, Json.name?,
    if_neg htype]
  rfl

theorem map_integer? {α : Type} {low high n : Int} {read : Int → α} {a : α} (hlow : low ≤ n)
    (hhigh : n ≤ high) (hread : read n = a) :
    ((Json.integer n).integer? low high).map read = some a := by
  have hwithin : (decide (low ≤ n) && decide (n ≤ high)) = true := by
    rw [Bool.and_eq_true, decide_eq_true_iff, decide_eq_true_iff]
    exact ⟨hlow, hhigh⟩
  rw [Json.integer?, if_pos hwithin, Option.map_some, hread]

theorem map_natCast_integer? {α : Type} {size n : Nat} {read : Int → α} {a : α} (hn : n < size)
    (hread : read n = a) : ((Json.integer n).integer? 0 (size - 1)).map read = some a :=
  map_integer? (Int.natCast_nonneg n) (Int.le_sub_one_of_lt (Int.ofNat_lt.mpr hn)) hread

/-- Whether a literal is a single value other than a float or a double. -/
def isScalar : Literal → Bool
  | .float _ | .double _ | .list _ => false
  | _ => true

theorem ofJson?_toJson_of_isScalar {l : Literal} (h : l.isScalar = true) :
    ofJson? mode l.toJson = some l := by
  cases l with
  | null => rfl
  | string s => exact ofJson?_typed (by decide) _
  | bool b => exact ofJson?_typed (by decide) _
  | sbyte n =>
    exact (ofJson?_typed (by decide) _).trans
      (map_integer? n.minValue_le_toInt n.toInt_le (congrArg sbyte n.ofInt_toInt))
  | short n =>
    exact (ofJson?_typed (by decide) _).trans
      (map_integer? n.minValue_le_toInt n.toInt_le (congrArg short n.ofInt_toInt))
  | integer n =>
    exact (ofJson?_typed (by decide) _).trans
      (map_integer? n.minValue_le_toInt n.toInt_le (congrArg integer n.ofInt_toInt))
  | long n =>
    exact (ofJson?_typed (by decide) _).trans
      (map_integer? n.minValue_le_toInt n.toInt_le (congrArg long n.ofInt_toInt))
  | byte n =>
    exact (ofJson?_typed (by decide) _).trans
      (map_natCast_integer? n.toNat_lt_size (congrArg byte UInt8.ofNat_toNat))
  | ushort n =>
    exact (ofJson?_typed (by decide) _).trans
      (map_natCast_integer? n.toNat_lt_size (congrArg ushort UInt16.ofNat_toNat))
  | uinteger n =>
    exact (ofJson?_typed (by decide) _).trans
      (map_natCast_integer? n.toNat_lt_size (congrArg uinteger UInt32.ofNat_toNat))
  | ulong n =>
    exact (ofJson?_typed (by decide) _).trans
      (map_natCast_integer? n.toNat_lt_size (congrArg ulong UInt64.ofNat_toNat))
  | decimal d =>
    have hcontent (s : String) : ofContent? mode "decimal" (some (.string s)) =
        (Decimal.ofText? s).map decimal := rfl
    rw [toJson, ofJson?_typed (by decide), hcontent, d.ofText?_text, Option.map_some]
  | localDateTime t =>
    have hcontent (s : String) : ofContent? mode "localdatetime" (some (.string s)) =
        (DateTime.ofText? s).map localDateTime := rfl
    rw [toJson, ofJson?_typed (by decide), hcontent, t.ofText?_isoText, Option.map_some]
  | localDate d =>
    have hcontent (s : String) : ofContent? mode "localdate" (some (.string s)) =
        (Date.ofText? s).map localDate := rfl
    rw [toJson, ofJson?_typed (by decide), hcontent, d.ofText?_text, Option.map_some]
  | localTime t =>
    have hcontent (s : String) : ofContent? mode "localtime" (some (.string s)) =
        (TimeOfDay.ofText? s).map localTime := rfl
    rw [toJson, ofJson?_typed (by decide), hcontent, t.ofText?_text, Option.map_some]
  | float | double | list => cases h

theorem ofJson?_list (items : List Json) :
    ofJson? mode (typed "list" (.array items)) = (ofJsons? mode items).map .list := by
  have hsingle : single? "type" [("type", .string "list"), ("value", .array items)] =
      some (some (.string "list")) := rfl
  have hvalue : single? "value" [("type", .string "list"), ("value", .array items)] =
      some (some (.array items)) := rfl
  have hmode : contentMode mode [("type", .string "list"), ("value", .array items)] = mode := rfl
  have hmember : ofListMember? mode [("type", .string "list"), ("value", .array items)] =
      ofJsons? mode items := by
    simp [ofListMember?]
  simp only [typed, ofJson?, hsingle, hvalue, hmode, hmember, Option.bind_eq_bind,
    Option.bind_some, Json.name?, if_true]
  cases ofJsons? mode items <;> rfl

mutual

/-- What is written for a literal is read as that literal. -/
theorem ofJson?_toJson : ∀ {l : Literal}, l.isFloatFree = true → ofJson? mode l.toJson = some l
  | .list items, h => by
    rw [isFloatFree] at h
    rw [toJson, ofJson?_list, ofJsons?_toJsons h, Option.map_some]
  | .null, _ | .string _, _ | .bool _, _ | .sbyte _, _ | .short _, _ | .integer _, _ | .long _, _
  | .byte _, _ | .ushort _, _ | .uinteger _, _ | .ulong _, _ | .decimal _, _ | .localDateTime _, _
  | .localDate _, _ | .localTime _, _ => ofJson?_toJson_of_isScalar rfl

theorem ofJsons?_toJsons : ∀ {ls : List Literal}, areFloatFree ls = true →
    ofJsons? mode (toJsons ls) = some ls
  | [], _ => rfl
  | l :: ls, h => by
    rw [areFloatFree, Bool.and_eq_true] at h
    rw [toJsons, ofJsons?, ofJson?_toJson h.1, ofJsons?_toJsons h.2]
    rfl

end

theorem exact_typed {content : Json} (h : content.Exact) (type : String) :
    (typed type content).Exact :=
  .object (List.forall_mem_cons.mpr ⟨.string type, List.forall_mem_singleton.mpr h⟩)

theorem exact_toJson_of_isScalar {l : Literal} (h : l.isScalar = true) : l.toJson.Exact := by
  cases l with
  | null => exact .object (List.forall_mem_singleton.mpr (.string _))
  | string s => exact exact_typed (.string s) _
  | bool b => exact exact_typed (.bool b) _
  | sbyte n =>
    have hlow := n.le_toInt
    have hhigh := n.toInt_lt
    exact exact_typed (.integer (.of_signed (by omega) (by omega))) _
  | short n =>
    have hlow := n.le_toInt
    have hhigh := n.toInt_lt
    exact exact_typed (.integer (.of_signed (by omega) (by omega))) _
  | integer n =>
    have hlow := n.le_toInt
    have hhigh := n.toInt_lt
    exact exact_typed (.integer (.of_signed (by omega) (by omega))) _
  | long n => exact exact_typed (.integer (.of_signed n.le_toInt n.toInt_lt)) _
  | byte n => exact exact_typed (.integer (.of_natCast (Nat.lt_trans n.toNat_lt (by decide)))) _
  | ushort n => exact exact_typed (.integer (.of_natCast (Nat.lt_trans n.toNat_lt (by decide)))) _
  | uinteger n => exact exact_typed (.integer (.of_natCast (Nat.lt_trans n.toNat_lt (by decide)))) _
  | ulong n => exact exact_typed (.integer (.of_natCast n.toNat_lt)) _
  | decimal d => exact exact_typed (.string d.text) _
  | localDateTime t => exact exact_typed (.string t.isoText) _
  | localDate d => exact exact_typed (.string d.text) _
  | localTime t => exact exact_typed (.string t.text) _
  | float | double | list => cases h

mutual

/-- What is written for a literal is read from its text. -/
theorem exact_toJson : ∀ {l : Literal}, l.isFloatFree = true → l.toJson.Exact
  | .list items, h => by
    rw [isFloatFree] at h
    exact exact_typed (.array (exact_toJsons h)) _
  | .null, _ | .string _, _ | .bool _, _ | .sbyte _, _ | .short _, _ | .integer _, _ | .long _, _
  | .byte _, _ | .ushort _, _ | .uinteger _, _ | .ulong _, _ | .decimal _, _ | .localDateTime _, _
  | .localDate _, _ | .localTime _, _ => exact_toJson_of_isScalar rfl

theorem exact_toJsons : ∀ {ls : List Literal}, areFloatFree ls = true → ∀ v ∈ toJsons ls, v.Exact
  | [], _ => List.forall_mem_nil _
  | l :: ls, h => by
    rw [areFloatFree, Bool.and_eq_true] at h
    exact List.forall_mem_cons.mpr ⟨exact_toJson h.1, exact_toJsons h.2⟩

end

end Literal

end SqlGateway
