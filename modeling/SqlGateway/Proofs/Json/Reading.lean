import SqlGateway.Proofs.Json.Depth
import SqlGateway.Proofs.Json.Scalars

/-! Values in JSON texts. What is written for a value is read as that value as deep as values may
nest, and what nests deeper is not readable. -/

namespace SqlGateway.Json

/-! ### Lists -/

/-- Whether a text begins with neither a blank nor a closing bracket. -/
def Opens (cs : List Char) : Prop :=
  ∃ c rest, cs = c :: rest ∧ c ∉ [' ', '\n', '\t', '\r', ']', '}']

theorem skip_of_opens {cs : List Char} (h : Opens cs) (rest : List Char) :
    skip (cs ++ rest) = cs ++ rest := by
  obtain ⟨c, cs, rfl, hc⟩ := h
  exact List.dropWhile_cons_of_neg (by simp_all)

/-- Texts with commas between them. -/
def joined : List (List Char) → List Char
  | [] => []
  | [p] => p
  | p :: q :: ps => p ++ ',' :: joined (q :: ps)

section

variable {α β : Type} {close : Char} {item : List Char → Option (β × List Char)}
  {write : α → List Char} {value : α → β}

/-- Whether what is written for any of several values is read as it, whatever stands behind it. -/
def Reads (item : List Char → Option (β × List Char)) (write : α → List Char) (value : α → β)
    (as : List α) : Prop :=
  ∀ a ∈ as, ∀ rest, Stops rest → item (write a ++ rest) = some (value a, rest)

theorem itemsRest?_joined (hclose : close = ']' ∨ close = '}') {a : α} {as : List α} {n : Nat}
    (hn : as.length < n) (hreads : Reads item write value (a :: as)) (rest : List Char) :
    itemsRest? close item n (joined ((a :: as).map write) ++ close :: rest) =
      some ((a :: as).map value, rest) := by
  induction as generalizing a n with
  | nil =>
    obtain ⟨n, rfl⟩ := Nat.exists_eq_succ_of_ne_zero (Nat.ne_of_gt hn)
    have hitem := hreads a List.mem_cons_self (close :: rest) (.cons (.inr hclose))
    have hskip : skip (close :: rest) = close :: rest := by
      rcases hclose with rfl | rfl <;> rfl
    rw [List.map_singleton, joined, itemsRest?, hitem]
    simp only [Option.bind_eq_bind, Option.bind_some, hskip, if_true, List.map_singleton]
  | cons b as ih =>
    obtain ⟨n, rfl⟩ := Nat.exists_eq_succ_of_ne_zero (Nat.ne_of_gt (Nat.zero_lt_of_lt hn))
    have hitem := hreads a List.mem_cons_self
      (',' :: (joined ((b :: as).map write) ++ close :: rest)) (.cons (.inl rfl))
    have hcomma : ¬ ',' = close := by
      rcases hclose with rfl | rfl <;> decide
    have hskip (cs : List Char) : skip (',' :: cs) = ',' :: cs := rfl
    have htail := ih (Nat.lt_of_succ_lt_succ hn)
      fun c hc => hreads c (List.mem_cons_of_mem a hc)
    rw [List.map_cons, List.map_cons, joined, ← List.map_cons, List.append_assoc, List.cons_append,
      itemsRest?, hitem]
    simp only [Option.bind_eq_bind, Option.bind_some, hskip, if_neg hcomma, if_true, htail]
    rfl

theorem length_le_joined {ps : List (List Char)} (h : ∀ p ∈ ps, Opens p) :
    ps.length ≤ (joined ps).length := by
  induction ps using joined.induct with
  | case1 => exact Nat.le_refl 0
  | case2 p =>
    obtain ⟨c, cs, rfl, -⟩ := h p List.mem_cons_self
    exact Nat.le_add_left 1 _
  | case3 p q ps ih =>
    have htail := ih fun r hr => h r (List.mem_cons_of_mem p hr)
    have hcons (cs : List Char) : (',' :: cs).length = cs.length + 1 := rfl
    rw [joined, List.length_append, hcons, List.length_cons]
    omega

theorem opens_joined {p : List Char} (ps : List (List Char)) (h : Opens p) :
    Opens (joined (p :: ps)) := by
  obtain ⟨c, cs, rfl, hc⟩ := h
  cases ps with
  | nil => exact ⟨c, cs, rfl, hc⟩
  | cons q ps => exact ⟨c, _, rfl, hc⟩

theorem items?_joined (hclose : close = ']' ∨ close = '}') {as : List α}
    (hopens : ∀ a ∈ as, Opens (write a)) (hreads : Reads item write value as) (rest : List Char) :
    items? close item (joined (as.map write) ++ close :: rest) = some (as.map value, rest) := by
  cases as with
  | nil =>
    have hskip : skip (close :: rest) = close :: rest := by
      rcases hclose with rfl | rfl <;> rfl
    rw [List.map_nil, joined, List.nil_append, items?, hskip]
    exact if_pos rfl
  | cons a as =>
    have hlength : as.length < (joined ((a :: as).map write) ++ close :: rest).length := by
      have := length_le_joined (List.forall_mem_map.mpr hopens)
      rw [List.length_map, List.length_cons] at this
      rw [List.length_append]
      omega
    have hopen := opens_joined (as.map write) (hopens a List.mem_cons_self)
    rw [← List.map_cons] at hopen
    obtain ⟨c, cs, hc, hnot⟩ := id hopen
    have hne : ¬ c = close := by
      rcases hclose with rfl | rfl <;> simp_all
    rw [items?, skip_of_opens hopen, ← itemsRest?_joined hclose hlength hreads rest, hc]
    exact if_neg hne

end

/-! ### Values -/

/-- The values that are read as they are written: those without doubles, with numbers of 64 bits. -/
inductive Exact : Json → Prop where
  | null : Exact .null
  | bool (b : Bool) : Exact (.bool b)
  | integer {n : Int} (h : IsWide n) : Exact (.integer n)
  | string (s : String) : Exact (.string s)
  | array {items : List Json} (h : ∀ v ∈ items, Exact v) : Exact (.array items)
  | object {members : List (String × Json)} (h : ∀ m ∈ members, Exact m.2) : Exact (.object members)

theorem Exact.isReadable {v : Json} (h : Exact v) : v.isReadable = true := by
  induction h with
  | null | bool | integer | string => rfl
  | array _ ih => exact areReadable_iff.mpr ih
  | object _ ih => exact membersReadable_iff.mpr ih

theorem Exact.guard_isReadable {v : Json} (h : Exact v) : guard (v.isReadable = true) = some () :=
  if_pos h.isReadable

/-- The text of a member. -/
def memberChars (m : String × Json) : List Char := (quote m.1).toList ++ ':' :: m.2.text.toList

theorem toList_itemsText (items : List Json) :
    (itemsText items).toList = joined (items.map (·.text.toList)) := by
  induction items with
  | nil => rfl
  | cons v vs ih =>
    cases vs with
    | nil => rfl
    | cons w vs =>
      simp only [itemsText, String.toList_append, ih, List.append_assoc]
      rfl

theorem toList_membersText (members : List (String × Json)) :
    (membersText members).toList = joined (members.map memberChars) := by
  induction members with
  | nil => rfl
  | cons m ms ih =>
    obtain ⟨k, v⟩ := m
    have hmember : memberChars (k, v) = (quote k).toList ++ (":".toList ++ v.text.toList) := rfl
    cases ms with
    | nil =>
      simp only [membersText, String.toList_append, List.append_assoc]
      rfl
    | cons m ms =>
      simp only [membersText, String.toList_append, ih, List.map_cons, joined, hmember,
        List.append_assoc]
      rfl

theorem toList_text_array (items : List Json) :
    (text (.array items)).toList = '[' :: joined (items.map (·.text.toList)) ++ [']'] := by
  rw [text, String.toList_append, String.toList_append, toList_itemsText]
  rfl

theorem toList_text_object (members : List (String × Json)) :
    (text (.object members)).toList = '{' :: joined (members.map memberChars) ++ ['}'] := by
  rw [text, String.toList_append, String.toList_append, toList_membersText]
  rfl

theorem Exact.opens_text {v : Json} (h : Exact v) : Opens v.text.toList := by
  cases h with
  | null => exact ⟨'n', _, rfl, by decide⟩
  | bool b => cases b <;> exact ⟨_, _, rfl, by decide⟩
  | @integer n _ =>
    have hdigits : Opens (digitsOf n.natAbs) := by
      obtain ⟨d, ds, hds⟩ :=
        List.exists_cons_of_ne_nil (show digitsOf n.natAbs ≠ [] from Nat.toDigits_ne_nil)
      have hd : isDigit d = true := isDigit_of_mem_digitsOf (hds ▸ List.mem_cons_self)
      refine ⟨d, ds, hds, fun hmem => ?_⟩
      have hnone : [' ', '\n', '\t', '\r', ']', '}'].all (!isDigit ·) = true := rfl
      have hnot := List.all_eq_true.mp hnone d hmem
      rw [hd] at hnot
      cases hnot
    rw [text, String.toList_ofList, signedDigits]
    split
    · exact ⟨'-', _, rfl, by decide⟩
    · exact hdigits
  | string s => exact ⟨'"', _, toList_quote s, by decide⟩
  | array => exact ⟨'[', _, toList_text_array _, by decide⟩
  | object => exact ⟨'{', _, toList_text_object _, by decide⟩

theorem value?_array (fuel d : Nat) (cs : List Char) :
    value? (fuel + 1) d ('[' :: cs) = (items? ']' (value? fuel (d - 1)) cs).map fun (vs, r) =>
      (if d = 0 then .unreadable else .array vs, r) := rfl

theorem value?_object (fuel d : Nat) (cs : List Char) :
    value? (fuel + 1) d ('{' :: cs) =
      (items? '}' (member? (value? fuel (d - 1))) cs).map fun (ms, r) =>
        (if d = 0 then .unreadable else ofMembers ms, r) := rfl

/-- A digit begins a number. -/
theorem value?_digit (fuel d : Nat) {c : Char} (hc : isDigit c = true) (cs : List Char) :
    value? (fuel + 1) d (c :: cs) = unsigned? false (c :: cs) := by
  have hne (b : Char) (hb : isDigit b = false) : ¬ c = b := by
    rintro rfl
    rw [hc] at hb
    cases hb
  have hskip : skip (c :: cs) = c :: cs :=
    List.dropWhile_cons_of_neg (by simp [hne ' ' rfl, hne '\n' rfl, hne '\t' rfl, hne '\r' rfl])
  rw [value?, hskip]
  split
  case h_8 => rfl
  all_goals
    next heq => exact absurd (List.cons.inj heq).1 (hne _ rfl)

theorem value?_integer (fuel d : Nat) {n : Int} (hn : IsWide n) {rest : List Char}
    (hrest : Stops rest) :
    value? (fuel + 1) d (signedDigits n ++ rest) = some (.integer n, rest) := by
  rw [signedDigits]
  split
  · next hnegative =>
    have hsigned : -(n.natAbs : Int) = n := by omega
    have hminus (cs : List Char) : value? (fuel + 1) d ('-' :: cs) = unsigned? true cs := rfl
    have hread := unsigned?_digitsOf (n := n.natAbs) true hrest (fun _ => by omega)
      (by rwa [if_pos rfl, hsigned])
    rw [if_pos rfl, hsigned] at hread
    rw [List.cons_append, hminus, hread]
  · next hpositive =>
    have hsigned : (n.natAbs : Int) = n := by omega
    have hread := unsigned?_digitsOf (n := n.natAbs) false hrest nofun
      (by rwa [if_neg Bool.false_ne_true, hsigned])
    rw [if_neg Bool.false_ne_true, hsigned] at hread
    obtain ⟨c, cs, hcs⟩ :=
      List.exists_cons_of_ne_nil (show digitsOf n.natAbs ≠ [] from Nat.toDigits_ne_nil)
    have hc : isDigit c = true := isDigit_of_mem_digitsOf (hcs ▸ List.mem_cons_self)
    rw [← hread, hcs, List.cons_append, value?_digit fuel d hc]

theorem member?_memberChars {value : List Char → Option (Json × List Char)} {v w : Json}
    {rest : List Char} (h : value (v.text.toList ++ rest) = some (w, rest)) (k : String) :
    member? value (memberChars (k, v) ++ rest) = some ((some k, w), rest) := by
  have hquote (cs : List Char) : skip ('"' :: cs) = '"' :: cs := rfl
  have hcolon (cs : List Char) : skip (':' :: cs) = ':' :: cs := rfl
  rw [memberChars, toList_quote, List.append_assoc, List.cons_append, List.cons_append, member?]
  simp only [hquote, stringRest?_quotedRest, Option.bind_eq_bind, Option.bind_some, hcolon, h]
  rfl

/-- Parts that are read as what they were written for are so in a row. -/
theorem mapM_map_eq_some {α β : Type} {write : α → β} {read : β → Option α} {l : List α}
    (h : ∀ a ∈ l, read (write a) = some a) : (l.map write).mapM read = some l := by
  induction l with
  | nil => rfl
  | cons a l ih =>
    obtain ⟨ha, hl⟩ := List.forall_mem_cons.mp h
    rw [List.map_cons, List.mapM_cons, ha, ih hl]
    rfl

theorem ofMembers_map_some (members : List (String × Json)) :
    ofMembers (members.map fun m => (some m.1, m.2)) = .object members := by
  rw [ofMembers, mapM_map_eq_some]
  exact fun _ _ => rfl

/-- What is written for a value is read as it, parts that nest too deep being unreadable. -/
theorem value?_text {j : Json} (h : Exact j) {fuel : Nat} (d : Nat) (hfuel : j.depth ≤ fuel) :
    ∀ rest, Stops rest → value? (fuel + 1) d (j.text.toList ++ rest) = some (j.cut d, rest) := by
  induction h generalizing fuel d with
  | null => exact fun rest _ => rfl
  | bool b => cases b <;> exact fun rest _ => rfl
  | @integer n hn =>
    intro rest hrest
    rw [text, String.toList_ofList]
    exact value?_integer fuel d hn hrest
  | string s =>
    intro rest _
    have hvalue : value? (fuel + 1) d ('"' :: (quotedRest s ++ rest)) =
        (stringRest? (quotedRest s ++ rest)).map fun read =>
          ((read.1.map Json.string).getD .unreadable, read.2) := rfl
    rw [text, toList_quote, List.cons_append, hvalue, stringRest?_quotedRest]
    rfl
  | @array items hitems ih =>
    obtain ⟨fuel, rfl⟩ := Nat.exists_eq_succ_of_ne_zero (Nat.ne_of_gt (Nat.zero_lt_of_lt hfuel))
    intro rest _
    have hdepth : ∀ v ∈ items, v.depth ≤ fuel :=
      itemsDepth_le_iff.mp (Nat.le_of_succ_le_succ hfuel)
    have hreads : Reads (value? (fuel + 1) (d - 1)) (·.text.toList) (cut (d - 1)) items :=
      fun v hv => ih v hv (d - 1) (hdepth v hv)
    rw [toList_text_array, List.append_assoc, List.cons_append, List.singleton_append, value?_array,
      items?_joined (.inl rfl) (fun v hv => (hitems v hv).opens_text) hreads, Option.map_some, cut,
      cutItems_eq_map]
  | @object members _ ih =>
    obtain ⟨fuel, rfl⟩ := Nat.exists_eq_succ_of_ne_zero (Nat.ne_of_gt (Nat.zero_lt_of_lt hfuel))
    intro rest _
    have hdepth : ∀ m ∈ members, m.2.depth ≤ fuel :=
      membersDepth_le_iff.mp (Nat.le_of_succ_le_succ hfuel)
    have hreads : Reads (member? (value? (fuel + 1) (d - 1))) memberChars
        (fun m => (some m.1, m.2.cut (d - 1))) members := fun m hm rest hrest =>
      member?_memberChars (ih m hm (d - 1) (hdepth m hm) rest hrest) m.1
    have hopens (m : String × Json) : Opens (memberChars m) :=
      ⟨'"', _, by rw [memberChars, toList_quote, List.cons_append], by decide⟩
    rw [toList_text_object, List.append_assoc, List.cons_append, List.singleton_append,
      value?_object, items?_joined (.inr rfl) (fun m _ => hopens m) hreads, Option.map_some, cut,
      cutMembers_eq_map, ← ofMembers_map_some, List.map_map]
    rfl

/-- The text of a value is read as that value, parts that nest too deep being unreadable. -/
theorem ofText?_text {j : Json} (h : Exact j) : ofText? j.text = some (j.cut maxDepth) := by
  have hread := value?_text h maxDepth (depth_le_length j) [] .nil
  rw [List.append_nil] at hread
  rw [ofText?, hread]
  rfl

end SqlGateway.Json
