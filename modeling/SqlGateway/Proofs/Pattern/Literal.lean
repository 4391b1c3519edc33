import Mathlib.Data.Option.Basic
import SqlGateway.Pattern.Escape
import SqlGateway.Pattern.Reading
import SqlGateway.Proofs.Pattern.Search

/-! Escaped texts as they are read. Without options, every character of an escaped text is read as
itself, whether it has a meaning of its own in a pattern or not, and a text with points and stars
around it as the pattern that contains it. -/

namespace SqlGateway.Pattern

/-- The characters of a pattern that stand for something else when they are not escaped. -/
def meaningful : List Char := ['\\', '.', '+', '*', '?', '(', ')', '|', '[', '{', '^', '$']

theorem mem_specialChars_of_meaningful {c : Char} (h : c ∈ meaningful) : c ∈ specialChars := by
  have hall : (meaningful.all fun c => specialChars.contains c) = true := by decide
  exact List.contains_iff_mem.mp (List.all_eq_true.mp hall c h)

theorem escapeChars_cons (c : Char) (cs : List Char) :
    escapeChars (c :: cs) = (if specialChars.contains c then ['\\', c] else [c]) ++ escapeChars cs :=
  List.flatMap_cons

theorem length_le_length_escapeChars (cs : List Char) : cs.length ≤ (escapeChars cs).length := by
  induction cs with
  | nil => exact Nat.le_refl 0
  | cons c cs ih =>
    rw [escapeChars_cons, List.length_append, List.length_cons]
    split <;> simp only [List.length_cons, List.length_nil] <;> omega

/-! ### Steps of reading -/

variable {fuel : Nat} {names : List (List Char)} {f : Frame} {around : List Frame}
  {rest : List Char}

theorem run?_ordinary {c : Char} (h : c ∉ meaningful) :
    run? (fuel + 1) {} names f around (c :: rest) =
      run? fuel {} names (f.add (.chars (.single c)) 0) around rest := by
  have hskip : Modes.skip {} (c :: rest) = c :: rest := rfl
  rw [run?, hskip]
  split <;> rename_i hread
  case h_1 => exact absurd hread (List.cons_ne_nil c rest)
  all_goals obtain ⟨rfl, rfl⟩ := List.cons.inj hread
  case h_14 => rfl
  all_goals exact absurd (by decide) h

theorem read?_special {c : Char} (h : c ∈ specialChars) :
    Escaped.read? {} (c :: rest) = some (.literal c, rest) := by
  simp only [specialChars, List.mem_cons, List.not_mem_nil, or_false] at h
  rcases h with rfl | rfl | rfl | rfl | rfl | rfl | rfl | rfl | rfl | rfl | rfl | rfl | rfl | rfl |
    rfl | rfl | rfl | rfl <;> rfl

theorem run?_escaped {c : Char} (h : c ∈ specialChars) :
    run? (fuel + 1) {} names f around ('\\' :: c :: rest) =
      run? fuel {} names (f.add (.chars (.single c)) 0) around rest := by
  have hstep : run? (fuel + 1) {} names f around ('\\' :: c :: rest) =
      (Escaped.read? {} (c :: rest)).bind fun e =>
        run? fuel {} names (f.add (e.1.pattern {}) 0) around e.2 := rfl
  rw [hstep, read?_special h]
  rfl

/-- A character as a part of a pattern. -/
def charPart (c : Char) : Option Nested := some ⟨.chars (.single c), 0⟩

/-- An escaped text adds each of its characters, in one step each. -/
theorem run?_escapeChars (cs : List Char) :
    run? (cs.length + fuel) {} names f around (escapeChars cs ++ rest) =
      run? fuel {} names { f with parts := (cs.map charPart).reverse ++ f.parts } around rest := by
  induction cs generalizing f with
  | nil => rw [List.length_nil, Nat.zero_add]; rfl
  | cons c cs ih =>
    have hstep : run? (cs.length + fuel + 1) {} names f around (escapeChars (c :: cs) ++ rest) =
        run? (cs.length + fuel) {} names (f.add (.chars (.single c)) 0) around
          (escapeChars cs ++ rest) := by
      rw [escapeChars_cons]
      split
      · next hspecial => exact run?_escaped (List.contains_iff_mem.mp hspecial)
      · next hspecial =>
        exact run?_ordinary fun h =>
          hspecial (List.contains_iff_mem.mpr (mem_specialChars_of_meaningful h))
    rw [List.length_cons, Nat.add_right_comm, hstep, ih]
    simp [Frame.add, charPart]

/-- The characters that the point stands for: all but the end of a line. -/
def pointSet : CharSet := CharSet.compl (.single '\n')

/-- Anything as a part of a pattern. -/
def anyPart : Option Nested := some ⟨anyOf pointSet, 1⟩

/-- A point with a star adds anything, unless a mark of few matches follows. -/
theorem run?_any (h : rest.head? ≠ some '?') :
    run? (fuel + 2) {} names f around ('.' :: '*' :: rest) =
      run? fuel {} names { f with parts := anyPart :: f.parts } around rest := by
  have hlazy : dropLazy rest = rest := by
    unfold dropLazy
    split
    · exact absurd rfl h
    · rfl
  have hsteps : run? (fuel + 2) {} names f around ('.' :: '*' :: rest) =
      run? fuel {} names { f with parts := anyPart :: f.parts } around (dropLazy rest) := rfl
  rw [hsteps, hlazy]

/-! ### The whole pattern -/

theorem head?_escapeChars (cs : List Char) : (escapeChars cs).head? ≠ some '?' := by
  cases cs with
  | nil => decide
  | cons c cs =>
    rw [escapeChars_cons]
    split
    · simp
    · next hspecial =>
      have hne : c ≠ '?' := by
        rintro rfl
        exact hspecial (by decide)
      simpa using hne

theorem depthOf_le {depths : List Nat} {n : Nat} (h : ∀ d ∈ depths, d ≤ n) :
    Frame.depthOf depths ≤ n + 1 := by
  have hdeepest {m : Nat} (hm : m ≤ n) : depths.foldl max m ≤ n := by
    induction depths generalizing m with
    | nil => exact hm
    | cons d depths ih =>
      obtain ⟨hd, hdepths⟩ := List.forall_mem_cons.mp h
      exact ih hdepths (Nat.max_le.mpr ⟨hm, hd⟩)
  have hdeepest := hdeepest (Nat.zero_le n)
  rw [Frame.depthOf]
  split <;> omega

/-- The parts of a text with anything around it, the last one first. -/
def containingParts (cs : List Char) : List (Option Nested) :=
  anyPart :: ((cs.map charPart).reverse ++ [anyPart])

theorem sequence_containingParts (cs : List Char) :
    (Frame.sequence { outer := {}, parts := containingParts cs }).pattern =
      containing pointSet cs := by
  have hfold {step : Pattern → Option Nested → Pattern}
      (hfirst : step .empty anyPart = anyOf pointSet)
      (hnext : ∀ part rest, rest ≠ .empty → step rest (some part) = .seq part.pattern rest) :
      (containingParts cs).foldl step .empty = containing pointSet cs := by
    have hrest (cs : List Char) : startingWith pointSet cs ≠ .empty := by cases cs <;> exact nofun
    have hchars : (cs.map charPart).reverse.foldl step (anyOf pointSet) =
        startingWith pointSet cs := by
      rw [List.foldl_reverse]
      induction cs with
      | nil => rfl
      | cons c cs ih => rw [List.map_cons, List.foldr_cons, ih, charPart, hnext _ _ (hrest cs)]; rfl
    rw [containingParts, List.foldl_cons, List.foldl_append, hfirst, hchars, List.foldl_cons,
      List.foldl_nil, anyPart, hnext _ _ (hrest cs)]
    rfl
  refine hfold rfl fun part rest h => ?_
  cases rest with
  | empty => exact absurd rfl h
  | _ => rfl

theorem depth_containingParts (cs : List Char) :
    (Frame.sequence { outer := {}, parts := containingParts cs }).depth ≤ 2 := by
  refine depthOf_le fun d hd => ?_
  obtain ⟨part, hpart, rfl⟩ := List.mem_map.mp hd
  simp only [containingParts, List.mem_cons, List.mem_append, List.mem_reverse, List.mem_map,
    List.not_mem_nil, or_false] at hpart
  rcases hpart with rfl | ⟨c, -, rfl⟩ | rfl
  · exact Nat.le_refl 1
  · exact Nat.zero_le 1
  · exact Nat.le_refl 1

/-- A text with a point and a star on each side of it is read as the pattern that contains it, if
the pattern keeps within the room that its automata may take. -/
theorem ofText?_containing {cs : List Char} (h : (containing pointSet cs).fits = true) :
    ofText? (".*" ++ String.ofList (escapeChars cs) ++ ".*") "" = some (containing pointSet cs) := by
  have htext : (".*" ++ String.ofList (escapeChars cs) ++ ".*").toList =
      '.' :: '*' :: (escapeChars cs ++ ['.', '*']) := by simp
  -- every character takes a step, and two at each end; what is left over is enough for the rest
  have hfuel : ('.' :: '*' :: (escapeChars cs ++ ['.', '*'])).length + 1 =
      cs.length + ((escapeChars cs).length - cs.length + 1 + 2) + 2 := by
    have hlength := length_le_length_escapeChars cs
    simp only [List.length_cons, List.length_append, List.length_nil]
    omega
  have hfirst : (escapeChars cs ++ ['.', '*']).head? ≠ some '?' := by
    have hhead := head?_escapeChars cs
    cases hescaped : escapeChars cs with
    | nil => decide
    | cons c rest => rwa [hescaped] at hhead
  have hread : run? (('.' :: '*' :: (escapeChars cs ++ ['.', '*'])).length + 1) {} [] { outer := {} }
      [] ('.' :: '*' :: (escapeChars cs ++ ['.', '*'])) =
        some (Frame.content { outer := {}, parts := containingParts cs }) := by
    rw [hfuel, run?_any hfirst, run?_escapeChars, run?_any (by decide)]
    rfl
  have hpattern : (Frame.content { outer := {}, parts := containingParts cs }).pattern =
      containing pointSet cs := sequence_containingParts cs
  have hdepth : (Frame.content { outer := {}, parts := containingParts cs }).depth ≤ depthLimit := by
    change Frame.depthOf
      [(Frame.sequence { outer := {}, parts := containingParts cs }).depth] ≤ depthLimit
    refine Nat.le_trans (depthOf_le (n := 2) fun d hd => ?_) (by decide)
    rw [List.mem_singleton.mp hd]
    exact depth_containingParts cs
  have hmodes : Modes.ofOptions "" = {} := rfl
  rw [ofText?, htext, hmodes, hread]
  simp [hpattern, hdepth, h]

/-! ### Room -/

theorem pointSet_eq : pointSet = ⟨[0, 10, 11, 0xD800, 0xE000, 0x110000]⟩ := by decide +kernel

/-- The shape of anything. -/
def anyShape : Shape := .repeated (.chars pointSet) 0 none

theorem shape_anyOf : (anyOf pointSet).shape = anyShape := by
  have hset : Shape.ofSet pointSet = .chars pointSet := by rw [pointSet_eq]; rfl
  rw [anyOf, shape, shape, hset, anyShape, Shape.repeat_]
  rfl

theorem ofSet_single (c : Char) : Shape.ofSet (.single c) = .text [c] := by
  have hsingle : (CharSet.single c).single? = some c := by
    simp [CharSet.single, CharSet.single?]
  rw [Shape.ofSet, hsingle]

/-- The characters of a text are one part of its shape. -/
theorem shape_startingWith (c : Char) (cs : List Char) :
    (startingWith pointSet (c :: cs)).shape = .seq [.text (c :: cs), anyShape] := by
  induction cs generalizing c with
  | nil =>
    change (Shape.ofSet (.single c)).append (anyOf pointSet).shape = _
    rw [ofSet_single, shape_anyOf]
    rfl
  | cons d cs ih =>
    change (Shape.ofSet (.single c)).append (startingWith pointSet (d :: cs)).shape = _
    rw [ofSet_single, ih]
    rfl

theorem shape_containing (cs : List Char) :
    (containing pointSet cs).shape =
      .seq (anyShape :: (if cs = [] then [] else [.text cs]) ++ [anyShape]) := by
  change (anyOf pointSet).shape.append (startingWith pointSet cs).shape = _
  rw [shape_anyOf]
  cases cs with
  | nil => rw [startingWith, List.foldr_nil, shape_anyOf]; rfl
  | cons c cs => rw [shape_startingWith]; rfl

theorem size_containing (backward : Bool) (cs : List Char) :
    (containing pointSet cs).shape.size backward =
      2 * anyShape.size backward + stateSize * (bytesOf cs).length := by
  rw [shape_containing]
  cases cs with
  | nil =>
    change anyShape.size backward + (anyShape.size backward + 0) = _ + stateSize * 0
    omega
  | cons c cs =>
    change anyShape.size backward + (stateSize * (bytesOf (c :: cs)).length +
      (anyShape.size backward + 0)) = _
    omega

theorem size_anyShape : anyShape.size false = 464 ∧ anyShape.size true = 1040 := by
  rw [anyShape, pointSet_eq]
  decide +kernel

/-- Neither end of the pattern is tied to an end of the text. -/
theorem untied_containing (cs : List Char) :
    (containing pointSet cs).shape.startsAt .textStart = false ∧
      (containing pointSet cs).shape.endsAt .textEnd = false := by
  rw [shape_containing]
  cases cs <;> exact ⟨rfl, rfl⟩

/-- A text takes 32 bytes for each of its own bytes, and there is room for so many. -/
theorem fits_containing {cs : List Char} (h : (bytesOf cs).length ≤ 327610) :
    (containing pointSet cs).fits = true := by
  obtain ⟨hforward, hbackward⟩ := size_anyShape
  obtain ⟨hstart, hend⟩ := untied_containing cs
  have hskip : Shape.skipSize false = 112 := rfl
  have hstate : stateSize = 32 := rfl
  have hlimit : sizeLimit = 10485760 := rfl
  rw [fits, Bool.and_eq_true, decide_eq_true_iff, decide_eq_true_iff, Shape.forwardSize,
    Shape.backwardSize, hstart, hend, size_containing, size_containing, hforward, hbackward, hskip,
    hstate, hlimit]
  omega

end SqlGateway.Pattern
