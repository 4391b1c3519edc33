/-! The parts of a text between separators, blank characters (the White_Space
property of Unicode) and texts without blanks at their ends. -/

namespace SqlGateway

/-- The parts of a text between separators, at least one. -/
def partsAt (separator : Char) : List Char → List (List Char)
  | [] => [[]]
  | c :: cs =>
    if c = separator then [] :: partsAt separator cs
    else match partsAt separator cs with
      | [] => [[c]]
      | p :: ps => (c :: p) :: ps

theorem partsAt_ne_nil (separator : Char) (cs : List Char) : partsAt separator cs ≠ [] := by
  cases cs with
  | nil => simp [partsAt]
  | cons c cs =>
    rw [partsAt]
    split
    · simp
    · split <;> simp

/-- Whether a character has the White_Space property. -/
def isBlank (c : Char) : Bool :=
  let n := c.toNat
  (9 ≤ n && n ≤ 13) || n == 0x20 || n == 0x85 || n == 0xA0 || n == 0x1680
    || (0x2000 ≤ n && n ≤ 0x200A) || n == 0x2028 || n == 0x2029 || n == 0x202F
    || n == 0x205F || n == 0x3000

theorem isBlank_of_isWhitespace {c : Char} (h : c.isWhitespace = true) : isBlank c = true := by
  simp only [Char.isWhitespace, Bool.or_eq_true, decide_eq_true_eq] at h
  rcases h with ((rfl | rfl) | rfl) | rfl <;> decide

/-- Whether every character of a text is blank. -/
def isBlankText (s : String) : Bool := s.toList.all isBlank

/-- Drops the blanks at the front. -/
def dropBlanks (cs : List Char) : List Char := cs.dropWhile isBlank

/-- The text without the blanks at either end. -/
def trimBlanks (cs : List Char) : List Char :=
  (dropBlanks (dropBlanks cs).reverse).reverse

end SqlGateway
