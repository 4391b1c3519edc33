import SqlGateway.Value.Order

/-! Sums of whole numbers are exact as long as they fit in a long. An int becomes a long when a
sum no longer fits in it, and never becomes an int again. -/

namespace SqlGateway.Value

theorem integer?_ofInt64 {n : Int} (h : fitsInt64 n) : (ofInt64 n).integer? = some n := by
  simp only [fitsInt64, Bool.and_eq_true, decide_eq_true_iff] at h
  have hmin : Int64.minValue.toInt = -2 ^ 63 := rfl
  have hmax : Int64.maxValue.toInt = 2 ^ 63 - 1 := rfl
  exact congrArg some (Int64.toInt_ofInt_of_le (by omega) (by omega))

theorem integer?_ofInt32 {n : Int} (h : fitsInt32 n) : (ofInt32 n).integer? = some n := by
  simp only [fitsInt32, Bool.and_eq_true, decide_eq_true_iff] at h
  have hmin : Int32.minValue.toInt = -2 ^ 31 := rfl
  have hmax : Int32.maxValue.toInt = 2 ^ 31 - 1 := rfl
  exact congrArg some (Int32.toInt_ofInt_of_le (by omega) (by omega))

/-- The sum of two whole numbers is one, stored as an int or a long. -/
theorem add?_of_integer? {a b : Value} {m n : Int} (ha : a.integer? = some m)
    (hb : b.integer? = some n) (hfits : fitsInt64 (m + n)) :
    ∃ v, a.add? b = some v ∧ v.integer? = some (m + n) := by
  have hlong := integer?_ofInt64 hfits
  cases a <;> cases b <;> simp only [integer?, reduceCtorEq, Option.some.injEq] at ha hb <;>
    subst ha <;> subst hb
  case int.int l r =>
    by_cases hshort : fitsInt32 (l.toInt + r.toInt) = true
    · exact ⟨_, congrArg some (if_pos hshort), integer?_ofInt32 hshort⟩
    · exact ⟨_, congrArg some (if_neg hshort), hlong⟩
  case int.long l r =>
    have hwide := Int32.toInt_toInt64 l
    refine ⟨_, ?_, hlong⟩
    rw [← hwide] at hfits ⊢
    exact congrArg some (if_pos hfits)
  case long.int l r =>
    have hwide := Int32.toInt_toInt64 r
    refine ⟨_, ?_, hlong⟩
    rw [← hwide] at hfits ⊢
    exact congrArg some (if_pos hfits)
  case long.long l r => exact ⟨_, congrArg some (if_pos hfits), hlong⟩

/-- A value as a long if it is an int. -/
def widened : Value → Value
  | .int n => .long n.toInt64
  | v => v

theorem widened_of_integer? {v : Value} {n : Int} (h : v.integer? = some n) :
    v.widened = ofInt64 n := by
  cases v <;> simp only [integer?, reduceCtorEq, Option.some.injEq] at h
  case int i =>
    rw [widened, ofInt64, ← h, ← Int32.toInt_toInt64, Int64.ofInt_toInt]
  case long l =>
    rw [widened, ofInt64, ← h, Int64.ofInt_toInt]
    exact nofun

end SqlGateway.Value
