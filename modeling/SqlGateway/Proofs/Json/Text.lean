import Mathlib.Tactic.SplitIfs
import SqlGateway.Json.Basic

/-! Compact text fits on a line: control characters are escaped, and no form of a number has
one. -/

namespace SqlGateway

/-- Whether no character is a control character. -/
def Printable (cs : List Char) : Prop := ∀ c ∈ cs, 0x20 ≤ c.toNat

instance (cs : List Char) : Decidable (Printable cs) :=
  List.decidableBAll (fun c : Char => 0x20 ≤ c.toNat) cs

namespace Printable

variable {cs ds : List Char}

@[simp] theorem nil : Printable [] := List.forall_mem_nil _

@[simp] theorem cons_iff {c : Char} : Printable (c :: cs) ↔ 0x20 ≤ c.toNat ∧ Printable cs :=
  List.forall_mem_cons

@[simp] theorem append_iff : Printable (cs ++ ds) ↔ Printable cs ∧ Printable ds :=
  List.forall_mem_append

theorem sublist (h : Printable ds) (hsub : cs.Sublist ds) : Printable cs :=
  fun c hc => h c (hsub.subset hc)

theorem replicate {c : Char} (h : 0x20 ≤ c.toNat) (n : Nat) : Printable (List.replicate n c) :=
  fun _ hd => (List.eq_of_mem_replicate hd) ▸ h

/-- A text without control characters is one line. -/
theorem newline_notMem (h : Printable cs) : '\n' ∉ cs := fun hc => absurd (h _ hc) (by decide)

/-! ### Numbers -/

theorem toDigits {base : Nat} (hbase : 1 < base ∧ base ≤ 16) (n : Nat) :
    Printable (Nat.toDigits base n) := by
  have hdigit : ∀ d < 16, 0x20 ≤ (Nat.digitChar d).toNat := by decide
  induction n using Nat.strongRecOn with
  | ind n ih =>
    rw [Nat.toDigits_eq_if hbase.1]
    split
    · next hsmall =>
      have hlt : n < 16 := Nat.lt_of_lt_of_le hsmall hbase.2
      exact cons_iff.mpr ⟨hdigit n hlt, nil⟩
    · next hlarge =>
      have hless : n / base < n := Nat.div_lt_self (by omega) hbase.1
      have hlast : n % base < 16 := Nat.lt_of_lt_of_le (Nat.mod_lt n (by omega)) hbase.2
      exact append_iff.mpr ⟨ih _ hless, cons_iff.mpr ⟨hdigit _ hlast, nil⟩⟩

theorem digitsOf (n : Nat) : Printable (digitsOf n) := toDigits (show 1 < 10 ∧ 10 ≤ 16 by decide) n

theorem hexDigits (width n : Nat) : Printable (hexDigits width n) := by
  have hzeros := replicate (show 0x20 ≤ '0'.toNat by decide) (width - (Nat.toDigits 16 n).length)
  exact append_iff.mpr ⟨hzeros, toDigits (show 1 < 16 ∧ 16 ≤ 16 by decide) n⟩

theorem signedDigits (n : Int) : Printable (signedDigits n) := by
  rw [SqlGateway.signedDigits]
  split
  · exact cons_iff.mpr ⟨by decide, digitsOf _⟩
  · exact digitsOf _

theorem layOut (form : FloatForm) (d : DecimalDigits) : Printable (form.layOut d) := by
  have hdigits := digitsOf d.digits
  have hzeros (n : Nat) := replicate (show 0x20 ≤ '0'.toNat by decide) n
  have htake (n : Nat) := hdigits.sublist (List.take_sublist n _)
  have hdrop (n : Nat) := hdigits.sublist (List.drop_sublist n _)
  have hpoint : Printable ['.', '0'] := by decide
  have hmark : 0x20 ≤ 'e'.toNat ∧ 0x20 ≤ '.'.toNat ∧ 0x20 ≤ '0'.toNat := by decide
  unfold FloatForm.layOut
  dsimp only
  split
  · split
    · refine append_iff.mpr ⟨append_iff.mpr ⟨hdigits, hzeros _⟩, ?_⟩
      split
      · exact hpoint
      · exact nil
    · split
      · exact append_iff.mpr ⟨htake _, cons_iff.mpr ⟨hmark.2.1, hdrop _⟩⟩
      · exact append_iff.mpr ⟨cons_iff.mpr ⟨hmark.2.2, cons_iff.mpr ⟨hmark.2.1, hzeros _⟩⟩, hdigits⟩
  · have hexponent (e : Int) :
        Printable ((if e < 0 then '-' else '+') :: SqlGateway.digitsOf e.natAbs) := by
      refine cons_iff.mpr ⟨?_, digitsOf _⟩
      split <;> decide
    have hend := cons_iff.mpr
      ⟨hmark.1, hexponent (d.exponent + (SqlGateway.digitsOf d.digits).length - 1)⟩
    split
    · next hds =>
      rw [hds] at hdigits
      exact cons_iff.mpr ⟨(cons_iff.mp hdigits).1, hend⟩
    · next hds =>
      rw [hds] at hdigits
      obtain ⟨hfirst, hrest⟩ := cons_iff.mp hdigits
      exact cons_iff.mpr ⟨hfirst, append_iff.mpr ⟨cons_iff.mpr ⟨hmark.2.1, hrest⟩, hend⟩⟩
    · exact hend

theorem write (form : FloatForm) (negative zero : Bool) (x : BinaryFloat) :
    Printable (form.write negative zero x).toList := by
  rw [FloatForm.write, String.toList_ofList]
  have hbody : Printable
      (if zero = true then form.layOut ⟨0, 0⟩ else form.layOut (x.shortest form.tie)) := by
    split <;> exact layOut _ _
  cases negative with
  | false => exact hbody
  | true => exact cons_iff.mpr ⟨by decide, hbody⟩

theorem doubleText (form : FloatForm) (x : Float) : Printable (doubleText form x).toList := by
  rw [SqlGateway.doubleText]
  split
  · decide
  split
  · split <;> decide
  · exact write _ _ _ _

/-! ### Values -/

theorem escapeChar (c : Char) : Printable (Json.escapeChar c) := by
  have hmark : 0x20 ≤ '\\'.toNat ∧ 0x20 ≤ 'u'.toNat := by decide
  unfold Json.escapeChar
  split_ifs with hquote hslash hback hfeed hline hreturn htab hcontrol
  iterate 7 decide
  · exact cons_iff.mpr ⟨hmark.1, cons_iff.mpr ⟨hmark.2, hexDigits 4 c.toNat⟩⟩
  · exact cons_iff.mpr ⟨Nat.not_lt.mp hcontrol, nil⟩

theorem quote (s : String) : Printable (Json.quote s).toList := by
  have hmark : Printable ['"'] := by decide
  have hescaped : Printable (s.toList.flatMap Json.escapeChar) := by
    intro c hc
    obtain ⟨d, -, hd⟩ := List.mem_flatMap.mp hc
    exact escapeChar d c hd
  rw [Json.quote, String.toList_ofList]
  exact append_iff.mpr ⟨append_iff.mpr ⟨hmark, hescaped⟩, hmark⟩

end Printable

namespace Json

mutual

/-- The text of a value holds no control character. -/
theorem printable_text : ∀ v : Json, Printable v.text.toList
  | .null | .bool true | .bool false | .unreadable => by decide
  | .integer n => by
    rw [text, String.toList_ofList]
    exact .signedDigits n
  | .double x => by
    rw [text]
    split
    · exact .doubleText _ _
    · decide
  | .single x => by
    rw [text]
    split
    · exact .write _ _ _ _
    · decide
  | .string s => .quote s
  | .array items => by
    have hopen : Printable "[".toList := by decide
    have hclose : Printable "]".toList := by decide
    simp only [text, String.toList_append, Printable.append_iff]
    exact ⟨⟨hopen, printable_itemsText items⟩, hclose⟩
  | .object members => by
    have hopen : Printable "\x7b".toList := by decide
    have hclose : Printable "\x7d".toList := by decide
    simp only [text, String.toList_append, Printable.append_iff]
    exact ⟨⟨hopen, printable_membersText members⟩, hclose⟩

theorem printable_itemsText : ∀ items : List Json, Printable (itemsText items).toList
  | [] => .nil
  | [v] => printable_text v
  | v :: w :: vs => by
    have hcomma : Printable ",".toList := by decide
    simp only [itemsText, String.toList_append, Printable.append_iff]
    exact ⟨⟨printable_text v, hcomma⟩, printable_itemsText (w :: vs)⟩

theorem printable_membersText :
    ∀ members : List (String × Json), Printable (membersText members).toList
  | [] => .nil
  | [(k, v)] => by
    have hcolon : Printable ":".toList := by decide
    simp only [membersText, String.toList_append, Printable.append_iff]
    exact ⟨⟨.quote k, hcolon⟩, printable_text v⟩
  | (k, v) :: m :: ms => by
    have hcolon : Printable ":".toList := by decide
    have hcomma : Printable ",".toList := by decide
    simp only [membersText, String.toList_append, Printable.append_iff]
    exact ⟨⟨⟨⟨.quote k, hcolon⟩, printable_text v⟩, hcomma⟩, printable_membersText (m :: ms)⟩

end

end Json

end SqlGateway
